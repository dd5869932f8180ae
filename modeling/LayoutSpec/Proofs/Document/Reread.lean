import LayoutSpec.Proofs.Document.RoundTrip
import LayoutSpec.Proofs.Document.Sound
import LayoutSpec.Proofs.Document.Weight
import Mathlib.Data.List.Basic

/-!
When a document that was read from a text is read again from its own text. It comes back exactly if
each of its patterns reopens: a pattern with a colon at its end loses it, and one that is a marker,
a separator or a keyword opens no group.
-/

namespace LayoutSpec

open Text

/-- The lines are usual ones, and this is what they can add. -/
structure Weighs (lines : List (List Char)) (n : Nat) : Prop where
  usual : ∀ raw ∈ lines, ReadState.IsUsual raw
  sum : (lines.map lineWeight).sum = n

namespace Weighs

theorem nil : Weighs [] 0 := ⟨by simp, rfl⟩

theorem cons {raw : List Char} {lines : List (List Char)} {n : Nat}
    (hraw : ReadState.IsUsual raw) (hlines : Weighs lines n) :
    Weighs (raw :: lines) (lineWeight raw + n) := by
  refine ⟨?_, by rw [List.map_cons, List.sum_cons, hlines.sum]⟩
  intro other hother
  rcases List.mem_cons.mp hother with rfl | hother
  · exact hraw
  · exact hlines.usual other hother

theorem append {first rest : List (List Char)} {n m : Nat} (hfirst : Weighs first n)
    (hrest : Weighs rest m) : Weighs (first ++ rest) (n + m) := by
  refine ⟨?_, by rw [List.map_append, List.sum_append, hfirst.sum, hrest.sum]⟩
  intro raw hraw
  rcases List.mem_append.mp hraw with hraw | hraw
  · exact hfirst.usual raw hraw
  · exact hrest.usual raw hraw

theorem flatMap {α : Type} {lines : α → List (List Char)} {w : α → Nat} {xs : List α}
    (h : ∀ x ∈ xs, Weighs (lines x) (w x)) : Weighs (xs.flatMap lines) (xs.map w).sum := by
  induction xs with
  | nil => exact nil
  | cons x xs ih =>
      rw [List.flatMap_cons, List.map_cons, List.sum_cons]
      exact (h x (by simp)).append (ih fun y hy => h y (by simp [hy]))

/-- A line of another kind adds nothing. -/
theorem light {raw : List Char} {lines : List (List Char)} {n : Nat} {kind : LineKind}
    (hkind : LineKind.of raw = kind) (hname : kind ≠ .name) (himport : kind.isImport = false)
    (hparameters : kind ≠ .parameters) (hlines : Weighs lines n) : Weighs (raw :: lines) n := by
  have hraw : ReadState.IsUsual raw := ⟨by rw [hkind, himport], by rwa [hkind]⟩
  have hzero : lineWeight raw = 0 := by rw [lineWeight, hkind, if_neg hname]
  have hcons := hlines.cons hraw
  rwa [hzero, Nat.zero_add] at hcons

end Weighs

/-- The weight of the pattern of a group as a line. -/
def printedWeight (g : Group) : Nat :=
  lineWeight g.pattern.toList

theorem isUsual_pattern {name : String} (hname : IsPattern name) :
    ReadState.IsUsual name.toList := by
  have hfits := LineKind.fits_of name.toList
  obtain ⟨c, cs, hchars⟩ := List.exists_cons_of_ne_nil hname.text.2.1
  obtain ⟨htags, hcomment, hparameters⟩ := hname.start c (by simp [hchars])
  have htrim := hname.text.1
  constructor
  · cases hkind : LineKind.of name.toList with
    | directive text =>
        rw [hkind, LineKind.Fits, htrim, hchars] at hfits
        obtain ⟨rest, hsigns, -⟩ := hfits
        exact absurd (List.cons.inj hsigns).1 htags
    | _ => rfl
  · intro hkind
    rw [hkind, LineKind.Fits, htrim, hchars] at hfits
    exact hparameters (by simpa using hfits)

theorem weighs_constraints {cs : List Constraint} (hcs : ∀ c ∈ cs, c.Printable) :
    Weighs (cs.map fun c => constraintIndent ++ c.chars) 0 := by
  induction cs with
  | nil => exact .nil
  | cons c cs ih =>
      have hformed := Constraint.exists_parse_iff.mp (hcs c (by simp)).1
      exact .light (LineKind.of_indented hformed) (by simp) rfl (by simp)
        (ih fun d hd => hcs d (by simp [hd]))

theorem weighs_group {g : Group} (hg : g.Sound IsPattern) :
    Weighs g.lines (printedWeight g) :=
  (weighs_constraints hg.constraints).cons (isUsual_pattern hg.pattern)

theorem weighs_groupLines {groups : List Group} (h : ∀ g ∈ groups, g.Sound IsPattern) :
    Weighs (groupLines groups) (total printedWeight groups) :=
  .flatMap fun g hg => weighs_group (h g hg)

theorem weighs_statement {chained : Bool} {condition : Statement}
    (h : ∀ g ∈ condition.groups, g.Sound IsPattern) :
    Weighs (condition.lines chained) (total printedWeight condition.groups) :=
  .light (ReadState.of_statement chained condition.inverted) (by simp) rfl (by simp)
    (weighs_groupLines h)

theorem weighs_block {b : ConditionalBlock} (hb : b.Sound IsPattern) :
    Weighs b.lines (total printedWeight b.groups) := by
  obtain ⟨-, hconditions, hbody, hother⟩ := ConditionalBlock.sound_iff.mp hb
  have hstatements : Weighs (ConditionalBlock.statementLines b.statements)
      (b.statements.map fun condition => total printedWeight condition.groups).sum := by
    cases hcase : b.statements with
    | nil => exact .nil
    | cons first rest =>
        rw [hcase] at hconditions
        exact (weighs_statement (hconditions first (by simp))).append
          (.flatMap fun condition hcondition =>
            weighs_statement (hconditions condition (by simp [hcondition])))
  have hdo : LineKind.of "do".toList = .keyword .body := by decide
  have helse : LineKind.of "otherwise".toList = .keyword .otherwise := by decide
  have hend : LineKind.of "end".toList = .keyword .close := by decide
  have hclose : Weighs ["end".toList] 0 := .light hend (by simp) rfl (by simp) .nil
  have hshape : ∀ {branch : List (List Char)} {n : Nat}, Weighs branch n →
      Weighs (ConditionalBlock.statementLines b.statements ++ "do".toList :: groupLines b.body
          ++ branch ++ ["end".toList])
        ((b.statements.map fun condition => total printedWeight condition.groups).sum
          + total printedWeight b.body + n) := fun hbranch =>
    ((hstatements.append (.light hdo (by simp) rfl (by simp) (weighs_groupLines hbody))).append
      hbranch).append hclose
  rw [total_block]
  apply hshape
  cases hcase : b.otherwise with
  | none => exact .nil
  | some groups =>
      exact .light helse (by simp) rfl (by simp) (weighs_groupLines (hother groups hcase))

theorem weighs_section {s : Section} (hs : s.Sound IsPattern) :
    Weighs s.lines (total printedWeight s.allGroups) := by
  obtain ⟨text, htag, -⟩ := LineKind.of_tagLine hs.tags
  have hempty : LineKind.of [] = .idle := rfl
  rw [total_section]
  exact .light hempty (by simp) rfl (by simp) (.light htag (by simp) rfl (by simp)
    ((weighs_groupLines hs.groups).append (.flatMap fun b hb => weighs_block (hs.blocks b hb))))

theorem length_trim_le (cs : List Char) : (trim cs).length ≤ cs.length := by
  obtain ⟨before, after, -, -, hcs⟩ := exists_trim cs
  have hlength := congrArg List.length hcs
  rw [List.length_append, List.length_append] at hlength
  omega

theorem length_groupPattern_le (line : List Char) :
    (ReadState.groupPattern line).length ≤ line.length ∧
      (line.getLast? = some ':' → (ReadState.groupPattern line).length < line.length) := by
  rw [ReadState.groupPattern]
  split
  · next hcolon =>
      have hle := length_trim_le line.dropLast
      have hne : line ≠ [] := by
        rintro rfl
        cases hcolon
      have hpos := List.length_pos_iff.mpr hne
      rw [List.length_dropLast] at hle
      omega
  · next hcolon => exact ⟨length_trim_le line, fun h => absurd h hcolon⟩

theorem printedWeight_le {g : Group} (hname : IsPattern g.pattern) :
    printedWeight g ≤ patternWeight g := by
  rw [printedWeight, lineWeight, patternWeight]
  split
  · have hle := (length_groupPattern_le (trim g.pattern.toList)).1
    rw [hname.text.1] at hle ⊢
    omega
  · omega

/-- A pattern keeps its weight as a line exactly if it reopens. A colon at its end is taken off, a
line that is something else opens no group, and both lose weight. -/
theorem printedWeight_eq_iff {g : Group} (hname : IsPattern g.pattern) :
    printedWeight g = patternWeight g ↔ Reopens g.pattern := by
  constructor
  · intro h
    rw [printedWeight, lineWeight, patternWeight] at h
    split at h
    · next hkind =>
        have hfits := LineKind.fits_of g.pattern.toList
        rw [hkind] at hfits
        obtain ⟨-, -, hmarker, hseparator, hkeyword⟩ := hfits
        rw [hname.text.1] at h hmarker hseparator
        refine ⟨?_, hmarker, hseparator, by rw [BlockKeyword.isReserved, hkeyword]; rfl⟩
        intro hcolon
        have hlt := (length_groupPattern_le g.pattern.toList).2 hcolon
        omega
    · omega
  · intro h
    rw [printedWeight, lineWeight, LineKind.of_pattern hname h, if_pos rfl, hname.text.1,
      ReadState.groupPattern_eq hname h, patternWeight]

namespace Document

variable {tree : FileTree} {text : String} {d : Document}

theorem isPattern_of_sound (hd : d.Sound IsPattern) : ∀ g ∈ d.allGroups, IsPattern g.pattern := by
  intro g hg
  obtain ⟨s, hs, hg⟩ := List.mem_flatMap.mp hg
  have hsound := hd.sections s hs
  rcases List.mem_append.mp hg with hg | hg
  · exact (hsound.groups g hg).pattern
  · obtain ⟨b, hb, hg⟩ := List.mem_flatMap.mp hg
    exact ((hsound.blocks b hb).groups g hg).pattern

/-- A sound document whose patterns reopen is printable. It has no sections in which nothing is
asserted, as these are dropped when it is read. -/
theorem printable_of_reopens (hd : d.Sound IsPattern)
    (hasserted : ∀ s ∈ d.sections, s.isEmpty = false)
    (h : ∀ g ∈ d.allGroups, Reopens g.pattern) : d.Printable := by
  have hgroup : ∀ {g : Group}, g ∈ d.allGroups → g.Sound IsPattern → g.Sound IsGroupName :=
    fun hg hsound => ⟨⟨hsound.pattern, h _ hg⟩, hsound.constraints⟩
  refine ⟨⟨hd.objects, fun s hs => ?_⟩, hasserted⟩
  have hmem : ∀ g ∈ s.allGroups, g ∈ d.allGroups := fun g hg => List.mem_flatMap.mpr ⟨s, hs, hg⟩
  obtain ⟨htags, hgroups, hblocks⟩ := hd.sections s hs
  refine ⟨htags, fun g hg => ?_, fun b hb => ⟨(hblocks b hb).statements, fun g hg => ?_⟩⟩
  · exact hgroup (hmem g (List.mem_append_left _ hg)) (hgroups g hg)
  · have hgroups : g ∈ s.blocks.flatMap ConditionalBlock.groups := List.mem_flatMap.mpr ⟨b, hb, hg⟩
    exact hgroup (hmem g (List.mem_append_right _ hgroups)) ((hblocks b hb).groups g hg)

/-- A sound document that is read back from its own text has patterns that reopen. Reading never
adds weight to the patterns; so if a single one lost some, the document that is read would not be
the one that was printed. -/
theorem reopens_of_reread (hd : d.Sound IsPattern) (h : ofText tree none d.display = .ok d) :
    ∀ g ∈ d.allGroups, Reopens g.pattern := by
  have hnamed : HaveLines IsPattern := fun name hname => hname.text
  rw [ofText, readWithin_eq, lines_display hnamed hd, ofLines_eq_ok_iff] at h
  obtain ⟨t, hreads, hfinish⟩ := h
  obtain ⟨-, -, hprune⟩ := ReadState.finish_eq_ok_iff.mp hfinish
  obtain ⟨s, hfirst, hrest⟩ := hreads.of_append
  obtain ⟨s', done, sec, hobjects, hs, hblank⟩ := ReadState.reads_objectLines hd.objects
  obtain rfl := hfirst.unique hobjects
  have hstart : s.weight patternWeight = 0 := by
    have hnone : s.document.allGroups = [] := by
      rw [allGroups, hs.document, List.flatMap_eq_nil_iff]
      intro new hnew
      rw [hblank new hnew]
      rfl
    rw [ReadState.weight, hnone, hs.block]
    rfl
  have hprinted : Weighs (d.sections.flatMap Section.lines) (total printedWeight d.allGroups) := by
    rw [total_document]
    exact .flatMap fun s hs => weighs_section (hd.sections s hs)
  have hle := hfirst.coherent.weight_reads_le hrest hprinted.usual hs.pending
  rw [hprinted.sum, hstart] at hle
  have hdocument : total patternWeight d.allGroups = total patternWeight t.document.allGroups := by
    rw [← hprune, total_prune]
  have htotal : total patternWeight d.allGroups ≤ total printedWeight d.allGroups := by
    rw [ReadState.weight] at hle
    omega
  have hpatterns := isPattern_of_sound hd
  intro g hg
  have heq := eq_of_total_le (fun g hg => printedWeight_le (hpatterns g hg)) htotal g hg
  exact (printedWeight_eq_iff (hpatterns g hg)).mp heq

/-- A document that was read from a text without imports is read back from its own text exactly if
all of its patterns reopen. -/
theorem ofText_display_eq_iff (tree : FileTree) (text : String) (d : Document)
    (himport : WithoutImports text) (hread : ofText tree none text = .ok d) :
    ofText tree none d.display = .ok d ↔ ∀ g ∈ d.allGroups, Reopens g.pattern := by
  obtain ⟨hsound, hasserted⟩ := sound_of_ofText himport hread
  constructor
  · intro h
    exact reopens_of_reread hsound h
  · intro h
    exact ofText_display tree d (printable_of_reopens hsound hasserted h)

/-- The document of a group line with two colons. The second one is left out, and its own text has
one colon less than the first text. -/
def colonDocument : Document where
  sections := [{ groups := [⟨"menu:", []⟩] }]

theorem ofText_display_eq_iff_colonDocument :
    WithoutImports "menu::\n" ∧ ofText {} none "menu::\n" = .ok colonDocument ∧
      (ofText {} none colonDocument.display = .ok colonDocument ↔
        ∀ g ∈ colonDocument.allGroups, Reopens g.pattern) := by
  have himport : WithoutImports "menu::\n" := by decide
  have hread : ofText {} none "menu::\n" = .ok colonDocument := by cbv
  exact ⟨himport, hread, ofText_display_eq_iff {} _ colonDocument himport hread⟩

/-- The text of this document is read as another one, so that reading is not always the way back. -/
theorem ofText_display_ne_colonDocument :
    ¬ ∀ (tree : FileTree) (text : String) (d : Document), WithoutImports text →
      ofText tree none text = .ok d → ofText tree none d.display = .ok d := by
  intro h
  have himport : WithoutImports "menu::\n" := by decide
  have hread : ofText {} none "menu::\n" = .ok colonDocument := by cbv
  have hother : ofText {} none colonDocument.display
      = .ok { sections := [{ groups := [⟨"menu", []⟩] }] } := by cbv
  have hsame := Except.ok.inj (hother.symm.trans (h {} _ colonDocument himport hread))
  revert hsame
  decide

end Document

end LayoutSpec
