import LayoutSpec.Proofs.Document.Imports

/-!
Where an error points. It is found at one line of one text, with all the lines in front of it read,
or at the end of a text; the readings around that text hand it on with its line and its file.
-/

namespace LayoutSpec

open Relation Text

namespace ReadState

variable {context : ReadContext} {lines : List (List Char)} {e : SyntaxError}

/-- The error has the file, and points at one of the lines, which is at fault when those in front of
it are read; or at the last one, when all are read and something is left open. -/
inductive PointsAt (context : ReadContext) (lines : List (List Char)) (file : Option Path) :
    SyntaxError → Prop where
  | line {before after : List (List Char)} {raw : List Char} {s : ReadState} {cause : SyntaxCause}
    {source : Option String} : lines = before ++ raw :: after →
    Reads context before .initial s →
    s.step context (before.length + 1) raw = .error ⟨cause, before.length + 1, none, source⟩ →
    PointsAt context lines file ⟨cause, before.length + 1, file, source⟩
  | last {s : ReadState} {cause : SyntaxCause} : lines ≠ [] → Reads context lines .initial s →
    s.finish lines.length = .error ⟨cause, lines.length, none, none⟩ →
    cause = .unclosedConditional ∨ cause = .danglingParameters →
    PointsAt context lines file ⟨cause, lines.length, file, none⟩

theorem PointsAt.line_ne_zero {file : Option Path} (h : PointsAt context lines file e) :
    e.line ≠ 0 := by
  cases h with
  | line hlines hreads hstep => exact Nat.succ_ne_zero _
  | last hne hreads hfinish hcause => exact mt List.length_eq_zero_iff.mp hne

theorem PointsAt.inFile (h : PointsAt context lines none e) (file : Path) :
    PointsAt context lines (some file) (e.inFile file) := by
  cases h with
  | line hlines hreads hstep => exact .line hlines hreads hstep
  | last hne hreads hfinish hcause => exact .last hne hreads hfinish hcause

end ReadState

namespace Document

open ReadState

variable {tree : FileTree} {context : ReadContext} {lines : List (List Char)} {e : SyntaxError}

/-- An error of some lines is found there, or comes out of an imported text. An error of the second
kind has its number from the imported text and gets the path of the file, if it has none yet. -/
theorem pointsAt_or_import (h : ofLines context lines = .error e) :
    PointsAt context lines none e ∨
      ∃ before raw after s rel found, lines = before ++ raw :: after ∧
        Reads context before .initial s ∧ (LineKind.of raw).importPath? = some rel ∧
        context.importSpec (.from? context.base rel) = .error (.malformed found) ∧
        e = found.inFile (.from? context.base rel) := by
  rw [ofLines] at h
  cases hrun : ReadState.initial.run context 1 lines with
  | error found =>
      rw [hrun] at h
      obtain rfl := Except.error.inj h
      obtain ⟨before, raw, after, s, hlines, hreads, hstep⟩ := of_run_eq_error hrun
      rw [Nat.add_comm] at hstep
      cases fault_of_step hstep with
      | text htext => exact .inl (.line hlines hreads hstep)
      | lostGroups hmode hnone => exact .inl (.line hlines hreads hstep)
      | @«import» rel fault hpath hspec =>
          cases fault with
          | cyclic | unreadable source => exact .inl (.line hlines hreads hstep)
          | malformed found =>
              exact .inr ⟨before, raw, after, s, rel, found, hlines, hreads, hpath, hspec, rfl⟩
  | ok s =>
      rw [hrun] at h
      have hne : lines ≠ [] := by
        -- Before the first line nothing is open.
        rintro rfl
        obtain rfl := Except.ok.inj hrun
        cases h
      left
      obtain rfl | rfl := finish_eq_error h
      · exact .last hne (reads_iff_run.mpr hrun) h (.inl rfl)
      · exact .last hne (reads_iff_run.mpr hrun) h (.inr rfl)

variable {chain : List FileKey} {base : Option Path} {text : String}

/-- An error of a text is found there, or in a file whose reading an import line starts. The reading
of that file is a smaller one, as its file is new to the chain. -/
theorem pointsAt_or_starts (h : readWithin tree chain base text = .error e) :
    PointsAt ⟨base, importWithin tree chain⟩ (Text.lines text.toList) none e ∨
      ∃ before raw after s rel found, ∃ r : Reading tree,
        Text.lines text.toList = before ++ raw :: after ∧
        Reads ⟨base, importWithin tree chain⟩ before .initial s ∧
        (LineKind.of raw).importPath? = some rel ∧ r.path = .from? base rel ∧ r.key ∉ chain ∧
        r.above = chain ∧ r.result = .error found ∧ e = found.inFile r.path := by
  rw [readWithin_eq] at h
  obtain hhere | ⟨before, raw, after, s, rel, found, hlines, hreads, hpath, hspec, rfl⟩ :=
    pointsAt_or_import h
  · exact .inl hhere
  · obtain ⟨_, -, -, hcyclic⟩ | hunreadable | ⟨key, content, _, hkey, hnew, hcontent, hread,
      hsame⟩ :=
      of_importWithin_eq_error hspec
    · cases hcyclic
    · cases hunreadable
    · cases hsame
      exact .inr ⟨before, raw, after, s, rel, found,
        ⟨.from? base rel, key, chain, content, hkey, hcontent⟩, hlines, hreads, hpath, rfl, hnew,
        rfl, hread, rfl⟩

/-- An error of a file is found in the file, or in one that is read within its reading. The proof
follows the import lines inward; it comes to an end, since no file is twice in a chain. -/
theorem Reading.exists_pointsAt {r : Reading tree} (h : r.result = .error e) :
    ∃ r' : Reading tree, ReflTransGen Starts r r' ∧
      PointsAt r'.context r'.lines (some r'.path) (e.inFile r.path) := by
  induction r using wellFounded_starts.induction generalizing e with
  | _ r ih =>
      obtain hhere | ⟨before, raw, after, s, rel, found, inner, hlines, hreads, hpath, hinner, hnew,
        habove, hresult, rfl⟩ := pointsAt_or_starts h
      · exact ⟨r, .refl, hhere.inFile r.path⟩
      · have hstarts : r.Starts inner :=
          ⟨before, rel, ⟨raw, after, s, hlines, hreads, hpath⟩, hinner, hnew, habove⟩
        obtain ⟨r', hway, hpoints⟩ := ih inner hstarts hresult
        refine ⟨r', .head hstarts hway, ?_⟩
        -- The readings around it find its file set.
        rwa [SyntaxError.inFile_inFile]

/-- The text has an import line that is reached, and within the import the file is read. -/
def IsReadFrom (base : Option Path) (text : String) (r : Reading tree) : Prop :=
  ∃ before raw after s rel, Text.lines text.toList = before ++ raw :: after ∧
    Reads ⟨base, importWithin tree []⟩ before .initial s ∧
    (LineKind.of raw).importPath? = some rel ∧ r.IsWithin (.from? base rel)

/-- Errors point at the line at fault, in the right file. An error of a text has no file and points
into the text, or it has the file of a reading that the text starts, directly or through others,
and points into this file. An error of a file points into the file, or into one that is read within
it, and names the one into which it points. No line is unknown. -/
theorem error_pointsAt (tree : FileTree) :
    (∀ base text e, ofText tree base text = .error e → e.line ≠ 0 ∧
      (PointsAt ⟨base, importWithin tree []⟩ (Text.lines text.toList) none e ∨
        ∃ r : Reading tree, IsReadFrom base text r ∧
          PointsAt r.context r.lines (some r.path) e)) ∧
    ∀ path e, ofFile tree path = .error (.malformed e) → e.line ≠ 0 ∧
      ∃ r : Reading tree, r.IsWithin path ∧ PointsAt r.context r.lines (some r.path) e := by
  constructor
  · intro base text e h
    obtain hhere | ⟨before, raw, after, s, rel, found, inner, hlines, hreads, hpath, hinner, -,
      habove, hresult, rfl⟩ := pointsAt_or_starts h
    · exact ⟨hhere.line_ne_zero, .inl hhere⟩
    · obtain ⟨r, hway, hpoints⟩ := Reading.exists_pointsAt hresult
      have hfrom : IsReadFrom base text r :=
        ⟨before, raw, after, s, rel, hlines, hreads, hpath, inner, hinner, habove, hway⟩
      exact ⟨hpoints.line_ne_zero, .inr ⟨r, hfrom, hpoints⟩⟩
  · intro path e h
    obtain ⟨root, found, rfl, habove, hresult, rfl⟩ := exists_root_of_ofFile_eq_malformed h
    obtain ⟨r, hway, hpoints⟩ := Reading.exists_pointsAt hresult
    exact ⟨hpoints.line_ne_zero, r, ⟨root, rfl, habove, hway⟩, hpoints⟩

/-- A file that imports another one, whose last line says nothing that is known. -/
def faultTree : FileTree where
  files := [
    (["outer.spec"], .text "menu\n    visible\n\n@@ import inner.spec\n"),
    (["inner.spec"], .text "logo\n    glows\n")]

def faultOuter : Reading faultTree where
  path := ⟨"outer.spec"⟩
  key := ["outer.spec"]
  above := []
  text := "menu\n    visible\n\n@@ import inner.spec\n"
  leads := by decide +kernel
  holds := by decide +kernel

def faultInner : Reading faultTree where
  path := ⟨"inner.spec"⟩
  key := ["inner.spec"]
  above := [["outer.spec"]]
  text := "logo\n    glows\n"
  leads := by decide +kernel
  holds := by decide +kernel

def faultState : ReadState where
  document := { sections := [{ groups := [⟨"menu", [.visible]⟩] }] }
  mode := .groups
  current := 0
  block := none
  openGroups := some ⟨0, []⟩
  pending := none

theorem faultOuter_starts_faultInner : faultOuter.Starts faultInner := by
  have hreads : Reads faultOuter.context (["menu", "    visible", ""].map String.toList) .initial
      faultState :=
    reads_iff_run.mpr (by decide +kernel : ReadState.run _ 1 _ _ = .ok faultState)
  refine ⟨_, ⟨"inner.spec"⟩, ⟨"@@ import inner.spec".toList, [], _, ?_, hreads, ?_⟩, ?_, ?_, ?_⟩
  all_goals decide +kernel

theorem error_pointsAt_faultTree :
    ofFile faultTree ⟨"outer.spec"⟩
      = .error (.malformed ⟨.unknownConstraint "glows", 2, some ⟨"inner.spec"⟩, none⟩) ∧
    ∃ r : Reading faultTree, r.IsWithin ⟨"outer.spec"⟩ ∧
      PointsAt r.context r.lines (some r.path)
        ⟨.unknownConstraint "glows", 2, some ⟨"inner.spec"⟩, none⟩ := by
  have hinner : faultInner.result = .error ⟨.unknownConstraint "glows", 2, none, none⟩ := by
    rw [Reading.result_eq]
    decide +kernel
  obtain ⟨found, hfound, hplace⟩ := Reading.exists_result_of_reaches
    (.single faultOuter_starts_faultInner) hinner
  have hfile : ofFile faultTree ⟨"outer.spec"⟩
      = .error (.malformed ⟨.unknownConstraint "glows", 2, some ⟨"inner.spec"⟩, none⟩) := by
    have hroot := ofFile_eq_of_root (show faultOuter.above = [] from rfl)
    rw [hfound] at hroot
    change _ = Except.error (Error.malformed (found.inFile faultOuter.path)) at hroot
    rw [hplace] at hroot
    exact hroot
  obtain ⟨-, hpoints⟩ := (error_pointsAt faultTree).2 _ _ hfile
  exact ⟨hfile, hpoints⟩

end Document

end LayoutSpec
