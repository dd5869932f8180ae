import LayoutSpec.Proofs.Document.Printable

/-!
The kinds of lines, and which kind the lines of a document are of.
-/

namespace LayoutSpec

open Text

namespace LineKind

/-- The first character of a line that is neither a comment, an instruction to the reader, tags, nor
parameters. -/
def IsPlainStart (c : Char) : Prop :=
  c ≠ '#' ∧ c ≠ '@' ∧ c ≠ '['

/-- A line that starts plainly is told apart by its signs, its words and its indent. None of the
rules for comments, instructions, parameters or tags takes it. -/
theorem of_plain {raw : List Char} (hne : trim raw ≠ [])
    (hstart : ∀ c ∈ (trim raw).head?, IsPlainStart c) (hmarker : isMarker (trim raw) = false)
    (hseparator : isSeparator (trim raw) = false) :
    of raw = match BlockKeyword.ofLine? raw with
      | some found => .keyword found
      | none => if raw.head? = some ' ' || raw.head? = some '\t' then .constraint else .name := by
  cases hline : trim raw with
  | nil => exact absurd hline hne
  | cons c rest =>
      obtain ⟨hcomment, htags, hparameters⟩ := hstart c (by simp [hline])
      rw [hline] at hmarker hseparator
      simp only [of, hline]
      split
      · next heq => cases heq
      · next heq => exact absurd (List.cons.inj heq).1 hcomment
      · next heq => exact absurd (List.cons.inj heq).1 htags
      · rw [if_neg (by simp [hmarker])]
        split
        · next heq => exact absurd (List.cons.inj heq).1 htags
        · next heq => exact absurd (List.cons.inj heq).1 hparameters
        · exact if_neg (by simp [hseparator])

/-- What is known of a line of each kind. -/
def Fits (raw : List Char) : LineKind → Prop
  | .idle => ∀ c ∈ (trim raw).head?, c = '#'
  | .directive text => ∃ rest, trim raw = '@' :: '@' :: rest ∧ text = trim rest
  | .marker => isMarker (trim raw) = true
  | .tags text => trim raw = '@' :: text
  | .parameters => (trim raw).head? = some '['
  | .separator => isSeparator (trim raw) = true
  | .keyword found => BlockKeyword.ofLine? raw = some found
  | .constraint => raw.head? = some ' ' ∨ raw.head? = some '\t'
  | .name =>
    trim raw ≠ [] ∧ (∀ c ∈ (trim raw).head?, IsPlainStart c) ∧ isMarker (trim raw) = false ∧
      isSeparator (trim raw) = false ∧ BlockKeyword.ofLine? raw = none

theorem fits_of (raw : List Char) : Fits raw (of raw) := by
  simp only [of]
  split
  · next hline => simp [Fits, hline]
  · next hline => simp [Fits, hline]
  · next hline => exact ⟨_, hline, rfl⟩
  · next hnil hcomment hdirective =>
      split
      · next hmarker => exact hmarker
      · next hmarker =>
          split
          · next hline => exact hline
          · next hline => simp [Fits, hline]
          · next htags hparameters =>
              split
              · next hseparator => exact hseparator
              · next hseparator =>
                  split
                  · next hkeyword => exact hkeyword
                  · next hkeyword =>
                      split
                      · next hindent => simpa [Fits] using hindent
                      · refine ⟨hnil, ?_, by simpa using hmarker, by simpa using hseparator,
                          hkeyword⟩
                        intro c hc
                        obtain ⟨rest, hline⟩ := List.head?_eq_some_iff.mp hc
                        refine ⟨?_, ?_, ?_⟩
                        · rintro rfl
                          exact hcomment _ hline
                        · rintro rfl
                          exact htags _ hline
                        · rintro rfl
                          exact hparameters _ hline

/-- A line with text that is neither a comment nor an instruction to the reader. -/
theorem of_definition {raw : List Char} (hidle : of raw ≠ .idle)
    (hdirective : ∀ text, of raw ≠ .directive text) :
    trim raw ≠ [] ∧ (trim raw).head? ≠ some '#' ∧ ¬ "@@".toList <+: trim raw := by
  refine ⟨?_, ?_, ?_⟩
  · intro hnil
    exact hidle (by simp [of, hnil])
  · intro hhead
    obtain ⟨rest, hline⟩ := List.head?_eq_some_iff.mp hhead
    exact hidle (by simp [of, hline])
  · rintro ⟨rest, hline⟩
    have hsigns : trim raw = '@' :: '@' :: rest := hline.symm
    exact hdirective (trim rest) (by simp [of, hsigns])

/-- A line behind an at sign is a list of tags, unless a second one follows. -/
theorem of_at_sign {text : List Char} (htrim : trim ('@' :: text) = '@' :: text)
    (hsecond : text.head? ≠ some '@') : of ('@' :: text) = .tags text := by
  have hmarker : isMarker ('@' :: text) = false := by simp [isMarker]
  simp only [of, htrim]
  split
  · next heq => cases heq
  · next heq => cases heq
  · next rest heq =>
      obtain ⟨-, rfl⟩ := List.cons.inj heq
      exact absurd rfl hsecond
  · rw [if_neg (by simp [hmarker])]

/-- The line of a section is read as its tags. They stand between commas and are trimmed, so that
the list is given back as it was. -/
theorem of_tagLine {s : Section} (htags : ∀ tag ∈ s.tags, IsTag tag) :
    ∃ text, of s.tagLine = .tags text ∧ (items ',' text).map String.ofList = s.tags := by
  cases hcase : s.tags with
  | nil =>
      refine ⟨[], ?_, rfl⟩
      rw [Section.tagLine, hcase]
      decide
  | cons first rest =>
      rw [hcase] at htags
      have hparts : ∀ part ∈ (first :: rest).map String.toList,
          trim part = part ∧ part ≠ [] ∧ ',' ∉ part := by
        intro part hpart
        obtain ⟨tag, htag, rfl⟩ := List.mem_map.mp hpart
        obtain ⟨⟨htrim, hne, -⟩, hcomma⟩ := htags tag htag
        exact ⟨htrim, hne, hcomma⟩
      have hends : EndsInWord (", ".toList.intercalate ((first :: rest).map String.toList)) :=
        endsInWord_intercalate (by simp) fun part hpart =>
          .of_trim (hparts part hpart).1 (hparts part hpart).2.1
      have hline : s.tagLine
          = '@' :: ' ' :: ", ".toList.intercalate ((first :: rest).map String.toList) := by
        rw [Section.tagLine, hcase]
        rfl
      refine ⟨' ' :: ", ".toList.intercalate ((first :: rest).map String.toList), ?_, ?_⟩
      · rw [hline]
        exact of_at_sign (((hends.append [' ']).append ['@']).trim_eq_self (by simp; decide))
          (by simp)
      · rw [items_blank_cons _ (by decide) (by decide),
          items_intercalate _ (fun part hpart => (hparts part hpart).1)
            (fun part hpart => (hparts part hpart).2.1) fun part hpart => (hparts part hpart).2.2,
          List.map_map]
        simp [Function.comp_def]

/-- The line of a pattern opens a group of this pattern, if the pattern is one that reopens. A
pattern may look like a keyword, an instruction or parameters; those do not reopen. -/
theorem of_pattern {name : String} (hname : IsPattern name) (h : Reopens name) :
    of name.toList = .name := by
  obtain ⟨htrim, hne, -⟩ := hname.text
  have hstart : ∀ c ∈ (trim name.toList).head?, IsPlainStart c := by
    intro c hc
    rw [htrim] at hc
    obtain ⟨htags, hcomment, hparameters⟩ := hname.start c hc
    exact ⟨hcomment, htags, hparameters⟩
  have hindent : ∀ c ∈ name.toList.head?, isBlank c = false := (trim_eq_self_iff.mp htrim).1
  have hkeyword : BlockKeyword.ofLine? name.toList = none := by
    simpa [BlockKeyword.isReserved] using h.notKeyword
  rw [of_plain (by rwa [htrim]) hstart (by rw [htrim]; exact h.notMarker)
    (by rw [htrim]; exact h.notSeparator), hkeyword]
  have hspace : name.toList.head? ≠ some ' ' := fun hhead =>
    absurd (hindent ' ' hhead) (by decide)
  have htab : name.toList.head? ≠ some '\t' := fun hhead =>
    absurd (hindent '\t' hhead) (by decide)
  simp [hspace, htab]

theorem trim_indented {c : Constraint} (hc : c.WellFormed) :
    trim (constraintIndent ++ c.chars) = c.chars := by
  rw [trim_append_left _ (List.all_eq_true.mp (by decide)), Constraint.trim_chars hc]

theorem of_indented {c : Constraint} (hc : c.WellFormed) :
    of (constraintIndent ++ c.chars) = .constraint := by
  obtain ⟨d, hd, hlower⟩ := Constraint.exists_head?_chars c
  obtain ⟨rest, hchars⟩ := List.head?_eq_some_iff.mp hd
  have hline := trim_indented hc
  rw [hchars] at hline
  have hnot : ∀ e : Char, e.isLower = false → d ≠ e := by
    rintro e he rfl
    simp [hlower] at he
  have hstart : ∀ e ∈ (trim (constraintIndent ++ c.chars)).head?, IsPlainStart e := by
    intro e he
    rw [hchars, hline] at he
    obtain rfl : d = e := by simpa using he
    exact ⟨hnot '#' (by decide), hnot '@' (by decide), hnot '[' (by decide)⟩
  have hmarker : isMarker (trim (constraintIndent ++ c.chars)) = false := by
    rw [hchars, hline, isMarker]
    simp [hnot '=' (by decide)]
  have hseparator : isSeparator (trim (constraintIndent ++ c.chars)) = false := by
    rw [hchars, hline, isSeparator]
    simp [hnot '-' (by decide)]
  have hindent : (constraintIndent ++ c.chars).head? = some ' ' := rfl
  rw [of_plain (by rw [hchars, hline]; simp) hstart hmarker hseparator, BlockKeyword.ofLine?]
  simp [hindent]

/-- The line of an object between two markers is its definition. The name is neither a comment nor
an instruction, and a locator behind it keeps the line from being a marker. -/
theorem of_objectLine {name : String} (hname : IsObjectName name) (rest : List Char)
    (htrim : trim (name.toList ++ ' ' :: rest) = name.toList ++ ' ' :: rest) :
    of (name.toList ++ ' ' :: rest) ≠ .idle ∧
      (∀ text, of (name.toList ++ ' ' :: rest) ≠ .directive text) ∧
      of (name.toList ++ ' ' :: rest) ≠ .marker := by
  have hfits := fits_of (name.toList ++ ' ' :: rest)
  obtain ⟨c, cs, hchars⟩ := List.exists_cons_of_ne_nil hname.word.1
  refine ⟨?_, ?_, ?_⟩
  · intro hidle
    rw [hidle, Fits, htrim, hchars] at hfits
    have hcomment := hname.noComment
    rw [hchars] at hcomment
    exact hcomment (by simpa using hfits)
  · intro text hdirective
    rw [hdirective, Fits, htrim, hchars] at hfits
    obtain ⟨more, hsigns, -⟩ := hfits
    have hnot := hname.noDirective
    rw [hchars] at hnot
    obtain ⟨rfl, htail⟩ := List.cons.inj hsigns
    cases cs with
    | nil => cases htail
    | cons d ds =>
        obtain ⟨rfl, -⟩ := List.cons.inj htail
        exact hnot ⟨ds, rfl⟩
  · intro hmarker
    rw [hmarker, Fits, htrim, isMarker] at hfits
    simp at hfits

end LineKind

end LayoutSpec
