import LayoutSpec.Text.Blank
import Mathlib.Data.List.TakeWhile

/-!
How texts are put together and cut again. What is trimmed has no blank at either end, a text is cut
at the first character of a class, and parts that hold no separator come back from a list of them.
-/

namespace LayoutSpec.Text

/-- A run ends where the class ends. -/
theorem takeWhile_run {p : Char → Bool} {run rest : List Char}
    (hrun : ∀ c ∈ run, p c = true) (hstop : ∀ c ∈ rest.head?, p c = false) :
    (run ++ rest).takeWhile p = run := by
  rw [List.takeWhile_append_of_pos hrun]
  cases rest with
  | nil => simp
  | cons c rest => simp [hstop c rfl]

theorem dropWhile_run {p : Char → Bool} {run rest : List Char}
    (hrun : ∀ c ∈ run, p c = true) (hstop : ∀ c ∈ rest.head?, p c = false) :
    (run ++ rest).dropWhile p = rest := by
  rw [List.dropWhile_append_of_pos hrun]
  cases rest with
  | nil => rfl
  | cons c rest => simp [hstop c rfl]

/-- What is left behind a run does not go on with it. -/
theorem head?_dropWhile_false {α : Type} {p : α → Bool} {cs : List α} :
    ∀ c ∈ (cs.dropWhile p).head?, p c = false := by
  intro c hc
  have hhead := List.head?_dropWhile_not p cs
  rw [Option.mem_def.mp hc] at hhead
  exact hhead

theorem trimStart_eq_self {cs : List Char} (h : ∀ c ∈ cs.head?, isBlank c = false) :
    trimStart cs = cs := by
  have hnil : ∀ c ∈ ([] : List Char), isBlank c = true := by simp
  exact dropWhile_run hnil h

theorem trimStart_append {pad : List Char} (cs : List Char) (h : ∀ c ∈ pad, isBlank c = true) :
    trimStart (pad ++ cs) = trimStart cs :=
  List.dropWhile_append_of_pos h

@[simp] theorem trimStart_blank_cons {c : Char} (cs : List Char) (h : isBlank c = true) :
    trimStart (c :: cs) = trimStart cs := by
  simp [trimStart, h]

theorem trimEnd_eq_self {cs : List Char} (h : ∀ c ∈ cs.getLast?, isBlank c = false) :
    trimEnd cs = cs := by
  have hhead : ∀ c ∈ cs.reverse.head?, isBlank c = false := by simpa using h
  have hstart := trimStart_eq_self hhead
  unfold trimStart at hstart
  rw [trimEnd, hstart, List.reverse_reverse]

theorem head?_trimStart {cs : List Char} : ∀ c ∈ (trimStart cs).head?, isBlank c = false :=
  head?_dropWhile_false

theorem getLast?_trimEnd {cs : List Char} : ∀ c ∈ (trimEnd cs).getLast?, isBlank c = false := by
  intro c hc
  rw [trimEnd, List.getLast?_reverse] at hc
  exact head?_dropWhile_false c hc

/-- A text is its leading blanks and the rest. -/
theorem exists_trimStart (cs : List Char) :
    ∃ pad, (∀ c ∈ pad, isBlank c = true) ∧ cs = pad ++ trimStart cs :=
  ⟨cs.takeWhile isBlank, fun _ hc => List.mem_takeWhile_imp hc,
    List.takeWhile_append_dropWhile.symm⟩

/-- A text is some text and its trailing blanks. -/
theorem exists_trimEnd (cs : List Char) :
    ∃ pad, (∀ c ∈ pad, isBlank c = true) ∧ cs = trimEnd cs ++ pad := by
  obtain ⟨pad, hpad, hcs⟩ := exists_trimStart cs.reverse
  refine ⟨pad.reverse, by simpa using hpad, ?_⟩
  have h := congrArg List.reverse hcs
  simpa [trimStart, trimEnd] using h

/-- Trimming takes blanks away at both ends and nothing else. What stands between them is kept as it
is, blanks included. -/
theorem exists_trim (cs : List Char) :
    ∃ before after, (∀ c ∈ before, isBlank c = true) ∧ (∀ c ∈ after, isBlank c = true) ∧
      cs = before ++ trim cs ++ after := by
  obtain ⟨before, hbefore, hstart⟩ := exists_trimStart cs
  obtain ⟨after, hafter, hend⟩ := exists_trimEnd (trimStart cs)
  refine ⟨before, after, hbefore, hafter, ?_⟩
  rw [List.append_assoc, trim, ← hend]
  exact hstart

theorem mem_of_mem_trim {c : Char} {cs : List Char} (h : c ∈ trim cs) : c ∈ cs := by
  obtain ⟨before, after, -, -, hcs⟩ := exists_trim cs
  rw [hcs]
  simp [h]

theorem head?_trim {cs : List Char} : ∀ c ∈ (trim cs).head?, isBlank c = false := by
  intro c hc
  obtain ⟨pad, -, hstart⟩ := exists_trimEnd (trimStart cs)
  have htrim : (trimEnd (trimStart cs)).head? = some c := hc
  have hhead : (trimStart cs).head? = some c := by
    rw [hstart, List.head?_append, htrim, Option.some_or]
  exact head?_trimStart c hhead

/-- A text that does not start with a blank starts the same way when it is trimmed. -/
theorem head?_of_mem_head?_trim {c : Char} {cs : List Char}
    (hcs : ∀ d ∈ cs.head?, isBlank d = false) (h : c ∈ (trim cs).head?) : c ∈ cs.head? := by
  obtain ⟨pad, -, hend⟩ := exists_trimEnd cs
  rw [trim, trimStart_eq_self hcs] at h
  rw [hend, List.head?_append, Option.mem_def.mp h, Option.some_or]
  exact rfl

theorem getLast?_trim {cs : List Char} : ∀ c ∈ (trim cs).getLast?, isBlank c = false :=
  getLast?_trimEnd

/-- A text is trimmed if it neither starts nor ends with a blank. -/
theorem trim_eq_self_iff {cs : List Char} :
    trim cs = cs ↔
      (∀ c ∈ cs.head?, isBlank c = false) ∧ (∀ c ∈ cs.getLast?, isBlank c = false) := by
  constructor
  · intro h
    rw [← h]
    exact ⟨head?_trim, getLast?_trim⟩
  · rintro ⟨hhead, hlast⟩
    rw [trim, trimStart_eq_self hhead, trimEnd_eq_self hlast]

@[simp] theorem trim_trim (cs : List Char) : trim (trim cs) = trim cs :=
  trim_eq_self_iff.mpr ⟨head?_trim, getLast?_trim⟩

theorem trim_append_left {pad : List Char} (cs : List Char) (h : ∀ c ∈ pad, isBlank c = true) :
    trim (pad ++ cs) = trim cs := by
  rw [trim, trimStart_append cs h, trim]

theorem trim_blank_cons {c : Char} (cs : List Char) (h : isBlank c = true) :
    trim (c :: cs) = trim cs :=
  trim_append_left cs (by simpa using h : ∀ d ∈ [c], isBlank d = true)

theorem trim_of_no_blank {cs : List Char} (h : ∀ c ∈ cs, isBlank c = false) : trim cs = cs :=
  trim_eq_self_iff.mpr
    ⟨fun c hc => h c (List.mem_of_head? hc), fun c hc => h c (List.mem_of_getLast? hc)⟩

/-- A text that ends, and not with a blank. -/
def EndsInWord (cs : List Char) : Prop :=
  ∃ c, cs.getLast? = some c ∧ isBlank c = false

namespace EndsInWord

variable {cs : List Char}

theorem append (before : List Char) (h : EndsInWord cs) : EndsInWord (before ++ cs) := by
  obtain ⟨c, hlast, hc⟩ := h
  exact ⟨c, by rw [List.getLast?_append, hlast, Option.some_or], hc⟩

theorem append_flatMap {α : Type} {f : α → List Char} (h : EndsInWord cs) (parts : List α)
    (hparts : ∀ part ∈ parts, EndsInWord (f part)) : EndsInWord (cs ++ parts.flatMap f) := by
  induction parts generalizing cs with
  | nil => simpa using h
  | cons part parts ih =>
      rw [List.flatMap_cons, ← List.append_assoc]
      exact ih ((hparts part (by simp)).append cs) fun other hother =>
        hparts other (by simp [hother])

theorem of_trim (h : trim cs = cs) (hne : cs ≠ []) : EndsInWord cs :=
  ⟨cs.getLast hne, List.getLast?_eq_some_getLast hne,
    (trim_eq_self_iff.mp h).2 _ (List.getLast?_eq_some_getLast hne)⟩

theorem ne_return (h : EndsInWord cs) : cs.getLast? ≠ some '\r' := by
  obtain ⟨c, hlast, hc⟩ := h
  rw [hlast]
  rintro ⟨⟩
  revert hc
  decide

theorem trim_eq_self (h : EndsInWord cs) (hhead : ∀ c ∈ cs.head?, isBlank c = false) :
    trim cs = cs := by
  obtain ⟨c, hlast, hc⟩ := h
  refine trim_eq_self_iff.mpr ⟨hhead, ?_⟩
  intro d hd
  obtain rfl : c = d := by simpa [hlast] using hd
  exact hc

end EndsInWord

/-- A blank stands between words and belongs to none. -/
theorem words_append_blank {c : Char} (x y : List Char) (h : isBlank c = true) :
    words (x ++ c :: y) = words x ++ words y := by
  rw [words, List.splitOnP_append_cons x y h, List.filter_append, words, words]

theorem words_of_no_blank {w : List Char} (hne : w ≠ []) (h : ∀ c ∈ w, isBlank c = false) :
    words w = [w] := by
  rw [words, List.splitOnP_eq_singleton h]
  simp [hne]

/-- The words of a word, a blank and more text. -/
theorem words_word_cons {c : Char} {w : List Char} (rest : List Char) (hne : w ≠ [])
    (hw : ∀ d ∈ w, isBlank d = false) (hc : isBlank c = true) :
    words (w ++ c :: rest) = w :: words rest := by
  rw [words_append_blank w rest hc, words_of_no_blank hne hw, List.singleton_append]

/-- Words come back from a text with blanks in between. They are not empty and hold no blank. -/
theorem words_intercalate {c : Char} {ws : List (List Char)} (hc : isBlank c = true)
    (hws : ∀ w ∈ ws, w ≠ [] ∧ ∀ d ∈ w, isBlank d = false) : words ([c].intercalate ws) = ws := by
  induction ws with
  | nil => rfl
  | cons w ws ih =>
      obtain ⟨hne, hw⟩ := hws w (by simp)
      cases ws with
      | nil => rw [List.intercalate_singleton, words_of_no_blank hne hw]
      | cons other rest =>
          rw [List.intercalate_cons_cons, List.append_assoc, List.singleton_append,
            words_word_cons _ hne hw hc, ih fun v hv => hws v (by simp [hv])]

theorem cutAt_append {p : Char → Bool} {x : List Char} {c : Char} (y : List Char)
    (hx : ∀ d ∈ x, p d = false) (hc : p c = true) : cutAt p (x ++ c :: y) = some (x, y) := by
  have hrun : ∀ d ∈ x, (!p d) = true := by simpa using hx
  have hstop : ∀ d ∈ (c :: y).head?, (!p d) = false := by simpa using hc
  rw [cutAt, dropWhile_run hrun hstop, takeWhile_run hrun hstop]

theorem cutAt_eq_none {p : Char → Bool} {cs : List Char} (h : ∀ d ∈ cs, p d = false) :
    cutAt p cs = none := by
  have hnil : cs.dropWhile (!p ·) = [] := List.dropWhile_eq_nil_iff.mpr (by simpa using h)
  rw [cutAt, hnil]

/-- What a cut leaves: the character at the cut is in the class, and none before it is. There can be
others behind it. -/
theorem eq_append_of_cutAt {p : Char → Bool} {cs x y : List Char} (h : cutAt p cs = some (x, y)) :
    ∃ c, p c = true ∧ (∀ d ∈ x, p d = false) ∧ cs = x ++ c :: y := by
  rw [cutAt] at h
  cases hrest : cs.dropWhile (!p ·) with
  | nil => simp [hrest] at h
  | cons c rest =>
      rw [hrest] at h
      obtain ⟨rfl, rfl⟩ := Prod.mk.inj (Option.some.inj h)
      refine ⟨c, ?_, ?_, ?_⟩
      · have hhead : (!p c) = false := head?_dropWhile_false (p := (!p ·)) c (by rw [hrest]; rfl)
        simpa using hhead
      · intro d hd
        simpa using List.mem_takeWhile_imp hd
      · rw [← hrest, List.takeWhile_append_dropWhile]

theorem splitOn_no_sep {sep : Char} {part : List Char} (h : sep ∉ part) :
    part.splitOn sep = [part] :=
  List.splitOn_eq_singleton h

/-- A part that holds no separator is the first piece. -/
theorem splitOn_part_cons {sep : Char} {part : List Char} (rest : List Char) (h : sep ∉ part) :
    (part ++ sep :: rest).splitOn sep = part :: rest.splitOn sep := by
  rw [List.splitOn_append_cons_self_of_not_mem h]

/-- Parts behind a separator and some padding are the pieces behind the first one. -/
theorem splitOn_padded {sep : Char} {pad : List Char} (first : List Char)
    (rest : List (List Char)) (hpad : sep ∉ pad) (hfirst : sep ∉ first)
    (hrest : ∀ part ∈ rest, sep ∉ part) :
    (first ++ rest.flatMap fun part => sep :: (pad ++ part)).splitOn sep
      = first :: rest.map (pad ++ ·) := by
  induction rest generalizing first with
  | nil => simpa using splitOn_no_sep hfirst
  | cons part rest ih =>
      have hpart : sep ∉ pad ++ part := by simp [hpad, hrest part (by simp)]
      rw [List.flatMap_cons, List.cons_append, splitOn_part_cons _ hfirst,
        ih (pad ++ part) hpart (fun other hother => hrest other (by simp [hother])),
        List.map_cons]

/-- A list of parts with separators in between, the first part taken by itself. -/
theorem intercalate_cons_eq (glue first : List Char) (rest : List (List Char)) :
    glue.intercalate (first :: rest) = first ++ rest.flatMap fun part => glue ++ part := by
  induction rest generalizing first with
  | nil => simp
  | cons part rest ih => rw [List.intercalate_cons_cons, ih, List.flatMap_cons]; simp

theorem endsInWord_intercalate {glue : List Char} {parts : List (List Char)} (hne : parts ≠ [])
    (hparts : ∀ part ∈ parts, EndsInWord part) : EndsInWord (glue.intercalate parts) := by
  cases parts with
  | nil => exact absurd rfl hne
  | cons first rest =>
      rw [intercalate_cons_eq]
      exact (hparts first (by simp)).append_flatMap rest fun part hpart =>
        (hparts part (by simp [hpart])).append glue

/-- Items that are trimmed, not empty and without commas are the items of their list, whatever
blanks stand behind its commas. -/
theorem items_intercalate_padded {pad : List Char} (parts : List (List Char))
    (hpad : ∀ c ∈ pad, isBlank c = true) (htrim : ∀ part ∈ parts, trim part = part)
    (hne : ∀ part ∈ parts, part ≠ []) (hsep : ∀ part ∈ parts, ',' ∉ part) :
    items ',' ((',' :: pad).intercalate parts) = parts := by
  cases parts with
  | nil => rfl
  | cons first rest =>
      have hcomma : ',' ∉ pad := fun hmem => absurd (hpad ',' hmem) (by decide)
      have hsplit : ((',' :: pad).intercalate (first :: rest)).splitOn ','
          = first :: rest.map (pad ++ ·) := by
        rw [intercalate_cons_eq]
        exact splitOn_padded first rest hcomma (hsep first (by simp))
          (fun part hpart => hsep part (by simp [hpart]))
      have htrimRest : rest.map (fun part => trim (pad ++ part)) = rest := by
        rw [List.map_congr_left (g := id), List.map_id]
        intro part hpart
        rw [trim_append_left part hpad, htrim part (by simp [hpart]), id]
      rw [items, hsplit, List.map_cons, List.map_map, htrim first (by simp)]
      change (first :: rest.map (fun part => trim (pad ++ part))).filter _ = _
      rw [htrimRest, List.filter_eq_self]
      intro part hpart
      simp [hne part hpart]

theorem items_intercalate (parts : List (List Char)) (htrim : ∀ part ∈ parts, trim part = part)
    (hne : ∀ part ∈ parts, part ≠ []) (hsep : ∀ part ∈ parts, ',' ∉ part) :
    items ',' (", ".toList.intercalate parts) = parts :=
  items_intercalate_padded parts (List.all_eq_true.mp (by decide)) htrim hne hsep

/-- A text without the separator is an item of its own. -/
theorem items_of_no_sep {sep : Char} {part : List Char} (htrim : trim part = part)
    (hne : part ≠ []) (hsep : sep ∉ part) : items sep part = [part] := by
  rw [items, splitOn_no_sep hsep, List.map_singleton, htrim, List.filter_eq_self]
  intro other hother
  simpa [List.mem_singleton.mp hother] using hne

/-- A blank before a list does not count. -/
theorem items_blank_cons {sep c : Char} (cs : List Char) (hc : isBlank c = true) (hsep : c ≠ sep) :
    items sep (c :: cs) = items sep cs := by
  have hsplit : (c :: cs).splitOn sep = (cs.splitOn sep).modifyHead (c :: ·) := by
    rw [List.splitOn_eq_splitOnP, List.splitOnP_cons_eq_if_modifyHead, if_neg (by simpa using hsep),
      List.splitOn_eq_splitOnP]
  rw [items, items, hsplit]
  cases cs.splitOn sep with
  | nil => rfl
  | cons first rest => rw [List.modifyHead_cons, List.map_cons, List.map_cons, trim_blank_cons _ hc]

/-- No piece holds a separator, and every piece is a part of the text. There is one piece more than
there are separators. -/
theorem of_mem_splitOnP {p : Char → Bool} {cs piece : List Char} (h : piece ∈ cs.splitOnP p) :
    ∀ c ∈ piece, p c = false ∧ c ∈ cs := by
  induction cs generalizing piece with
  | nil =>
      have hnil : piece = [] := by simpa using h
      simp [hnil]
  | cons d cs ih =>
      rw [List.splitOnP_cons_eq_if_modifyHead] at h
      by_cases hd : p d = true
      · rw [if_pos hd, List.mem_cons] at h
        rcases h with rfl | h
        · simp
        · intro c hc
          exact ⟨(ih h c hc).1, List.mem_cons_of_mem d (ih h c hc).2⟩
      · rw [if_neg hd] at h
        cases hpieces : cs.splitOnP p with
        | nil => exact absurd hpieces (List.splitOnP_ne_nil p cs)
        | cons first rest =>
            have hfirst : ∀ c ∈ first, p c = false ∧ c ∈ cs := ih (by simp [hpieces])
            rw [hpieces, List.modifyHead_cons, List.mem_cons] at h
            rcases h with rfl | h
            · intro c hc
              rcases List.mem_cons.mp hc with rfl | hc
              · exact ⟨by simpa using hd, by simp⟩
              · exact ⟨(hfirst c hc).1, List.mem_cons_of_mem d (hfirst c hc).2⟩
            · intro c hc
              have hpiece : ∀ e ∈ piece, p e = false ∧ e ∈ cs := ih (by simp [hpieces, h])
              exact ⟨(hpiece c hc).1, List.mem_cons_of_mem d (hpiece c hc).2⟩

/-- What is known of every item: it is trimmed, not empty, and holds no separator. Its characters
are all of the list. -/
theorem of_mem_items {sep : Char} {cs item : List Char} (h : item ∈ items sep cs) :
    trim item = item ∧ item ≠ [] ∧ sep ∉ item ∧ ∀ c ∈ item, c ∈ cs := by
  rw [items, List.mem_filter, List.mem_map] at h
  obtain ⟨⟨piece, hpiece, rfl⟩, hne⟩ := h
  rw [List.splitOn_eq_splitOnP] at hpiece
  have hmem := of_mem_splitOnP hpiece
  refine ⟨trim_trim piece, by simpa using hne, ?_, ?_⟩
  · intro hsep
    simpa using (hmem sep (mem_of_mem_trim hsep)).1
  · intro c hc
    exact (hmem c (mem_of_mem_trim hc)).2

/-- Lines that hold no line feed and do not end with a carriage return come back from their text. A
carriage return at the end would be taken for a part of the line end. -/
theorem lines_flatMap (ls : List (List Char)) (hfeed : ∀ line ∈ ls, '\n' ∉ line)
    (hreturn : ∀ line ∈ ls, line.getLast? ≠ some '\r') :
    lines (ls.flatMap (· ++ ['\n'])) = ls := by
  have hsplit : (ls.flatMap (· ++ ['\n'])).splitOn '\n' = ls ++ [[]] := by
    induction ls with
    | nil => rfl
    | cons line ls ih =>
        rw [List.flatMap_cons, List.append_assoc, List.singleton_append,
          splitOn_part_cons _ (hfeed line (by simp)),
          ih (fun other h => hfeed other (by simp [h]))
            (fun other h => hreturn other (by simp [h])),
          List.cons_append]
  have hkeep : ls.map dropReturn = ls := by
    rw [List.map_congr_left (g := id), List.map_id]
    intro line hline
    rw [dropReturn, if_neg (hreturn line hline), id]
  simp [lines, hsplit, hkeep]

/-- No line holds a line feed. -/
theorem feed_not_mem_of_mem_lines {cs line : List Char} (h : line ∈ lines cs) : '\n' ∉ line := by
  have hpiece : ∀ piece ∈ cs.splitOn '\n', '\n' ∉ piece := by
    intro piece hmem hfeed
    rw [List.splitOn_eq_splitOnP] at hmem
    simpa using (of_mem_splitOnP hmem '\n' hfeed).1
  simp only [lines, List.mem_append, List.mem_map, List.mem_filter, List.mem_singleton] at h
  rcases h with ⟨piece, hmem, rfl⟩ | ⟨rfl, -⟩
  · have hnot := hpiece piece (List.dropLast_subset _ hmem)
    rw [dropReturn]
    split
    · exact fun hfeed => hnot (List.dropLast_subset _ hfeed)
    · exact hnot
  · have hne := List.splitOn_ne_nil '\n' cs
    rw [List.getLastD_eq_getLast?, List.getLast?_eq_some_getLast hne]
    exact hpiece _ (List.getLast_mem hne)

end LayoutSpec.Text
