import LayoutSpec.Proofs.Constraint.Fault
import LayoutSpec.Proofs.Document.Run
import LayoutSpec.Proofs.Document.Step

/-!
What stops a reading. A line is at fault by its text, or through the file that it imports, or
because the groups are lost to which it should add something. The error of a text is that of its
first line at fault, and names that line.
-/

namespace LayoutSpec

open Text

namespace ReadState

variable {context : ReadContext} {number : Nat} {raw : List Char} {s t : ReadState}
  {e : SyntaxError}

/-- The ways in which a line can be at fault. Its own faults have the number of the line, and those
of an imported text the place at which they were found. -/
inductive Fault (context : ReadContext) (number : Nat) (raw : List Char) (s : ReadState) :
    SyntaxError → Prop where
  | text {cause : SyntaxCause} : cause.isOfText = true →
    Fault context number raw s (.ofLine number cause)
  | import {rel : Path} {fault : ImportFault} : (LineKind.of raw).importPath? = some rel →
    context.importSpec (.from? context.base rel) = .error fault →
    Fault context number raw s (fault.error number (.from? context.base rel))
  | lostGroups : s.mode ≠ .objects → s.groups? = none →
    Fault context number raw s (.ofLine number .missingBlock)

theorem fault_of_openSection {tags : List Char} (h : s.openSection number tags = .error e) :
    Fault context number raw s e := by
  unfold openSection at h
  split at h
  · obtain rfl := Except.error.inj h
    exact .text rfl
  · unfold checkNoPending at h
    split at h
    · obtain rfl := Except.error.inj h
      exact .text rfl
    · cases h

theorem fault_of_toggleObjects (h : s.toggleObjects number = .error e) :
    Fault context number raw s e := by
  unfold toggleObjects at h
  split at h
  · obtain rfl := Except.error.inj h
    exact .text rfl
  · split at h
    · exact fault_of_openSection h
    · cases h

theorem isOfText_of_locator {text : List Char} {cause : SyntaxCause}
    (h : Locator.parse text = .error cause) : cause.isOfText = true := by
  simp only [Locator.parse] at h
  split at h
  · obtain rfl := Except.error.inj h
    rfl
  · split at h
    · obtain rfl := Except.error.inj h
      rfl
    · cases h

theorem fault_of_defineObject {line : List Char} (h : s.defineObject number line = .error e) :
    Fault context number raw s e := by
  simp only [defineObject] at h
  split at h
  · obtain rfl := Except.error.inj h
    exact .text rfl
  · next text _ =>
      split at h
      · obtain rfl := Except.error.inj h
        exact .text rfl
      · cases hlocator : Locator.parse text with
        | ok l =>
            rw [hlocator] at h
            cases h
        | error cause =>
            rw [hlocator] at h
            obtain rfl : .ofLine number cause = e := Except.error.inj h
            exact .text (isOfText_of_locator hlocator)

theorem fault_of_applyKeyword {keyword : BlockKeyword}
    (h : s.applyKeyword number keyword = .error e) : Fault context number raw s e := by
  unfold applyKeyword at h
  repeat' split at h
  all_goals cases h
  all_goals exact .text rfl

theorem fault_of_openGroup {line : List Char} (hmode : s.mode ≠ .objects)
    (h : s.openGroup number line = .error e) : Fault context number raw s e := by
  simp only [openGroup] at h
  split at h
  · obtain rfl := Except.error.inj h
    exact .text rfl
  · split at h
    · next hgroups =>
        obtain rfl := Except.error.inj h
        exact .lostGroups hmode hgroups
    · cases h

theorem fault_of_addConstraint {line : List Char} (hmode : s.mode ≠ .objects)
    (h : s.addConstraint context.base number line = .error e) : Fault context number raw s e := by
  simp only [addConstraint] at h
  split at h
  · obtain rfl := Except.error.inj h
    exact .text rfl
  · cases hparse : Constraint.parse context.base line with
    | error cause =>
        obtain rfl : .ofLine number cause = e := by
          simpa [hparse, bind, Except.bind] using h
        exact .text (Constraint.isOfText_of_parse hparse)
    | ok c =>
        simp only [hparse, onLine_ok, bind, Except.bind] at h
        split at h
        · next hgroups =>
            obtain rfl := Except.error.inj h
            exact .lostGroups hmode hgroups
        · cases h

/-- An instruction that imports nothing is at fault by its text, whatever was read before. There is
no other instruction than `import`, and that one needs a path. -/
theorem directive_of_no_import (context : ReadContext) {text : List Char}
    (h : (LineKind.directive text).importPath? = none) :
    ∃ cause : SyntaxCause, cause.isOfText = true ∧ ∀ (number : Nat) (s : ReadState),
      s.directive context number text = .error (.ofLine number cause) := by
  simp only [LineKind.importPath?, ite_eq_right_iff, reduceCtorEq, imp_false] at h
  simp only [directive]
  split
  · exact ⟨_, rfl, fun _ _ => rfl⟩
  · next hword =>
      split
      · exact ⟨_, rfl, fun _ _ => rfl⟩
      · next hargument =>
          apply absurd _ h
          rw [Bool.and_eq_true, decide_eq_true_eq]
          exact ⟨Decidable.not_not.mp hword, by simpa using hargument⟩

theorem fault_of_directive {text : List Char} (hkind : LineKind.of raw = .directive text)
    (h : s.directive context number text = .error e) : Fault context number raw s e := by
  cases hpath : (LineKind.directive text).importPath? with
  | none =>
      obtain ⟨cause, htext, hcause⟩ := directive_of_no_import context hpath
      obtain rfl := Except.error.inj ((hcause number s).symm.trans h)
      exact .text htext
  | some rel =>
      rw [directive_of_import hpath] at h
      cases hspec : context.importSpec (.from? context.base rel) with
      | ok d =>
          rw [hspec] at h
          cases h
      | error fault =>
          rw [hspec] at h
          obtain rfl := Except.error.inj h
          exact .import (hkind ▸ hpath) hspec

/-- A line that is not read has one of the faults. Together with `change_of_step` this says all that
a line can do. -/
theorem fault_of_step (h : s.step context number raw = .error e) :
    Fault context number raw s e := by
  simp only [step] at h
  split at h
  · cases h
  · next text hkind => exact fault_of_directive hkind h
  · exact fault_of_toggleObjects h
  · split at h
    · exact fault_of_defineObject h
    · next hmode =>
        split at h
        · exact fault_of_openSection h
        · split at h
          · cases h
          · obtain rfl := Except.error.inj h
            exact .text rfl
        · exact fault_of_applyKeyword h
        · exact fault_of_addConstraint hmode h
        · exact fault_of_openGroup hmode h
        · cases h

/-- A run that fails stops at its first line at fault, with the error of this line. The lines before
it were read, so that the state in front of the fault is one of a reading. -/
theorem of_run_eq_error {lines : List (List Char)} (h : s.run context number lines = .error e) :
    ∃ before raw after t, lines = before ++ raw :: after ∧ Reads context before s t ∧
      t.step context (number + before.length) raw = .error e := by
  induction lines generalizing number s with
  | nil => cases h
  | cons raw rest ih =>
      rw [run] at h
      cases hstep : s.step context number raw with
      | error found =>
          rw [hstep] at h
          obtain rfl := Except.error.inj h
          exact ⟨[], raw, rest, s, rfl, .nil s, hstep⟩
      | ok next =>
          rw [hstep] at h
          obtain ⟨before, line, after, t, rfl, hreads, herror⟩ := ih h
          refine ⟨raw :: before, line, after, t, rfl, .cons hstep hreads, ?_⟩
          rw [List.length_cons, Nat.add_comm before.length, ← Nat.add_assoc]
          exact herror

theorem finish_eq_error (h : s.finish number = .error e) :
    e = .ofLine number .unclosedConditional ∨ e = .ofLine number .danglingParameters := by
  unfold finish at h
  split at h
  · exact .inl (Except.error.inj h).symm
  · unfold checkNoPending at h
    split at h
    · exact .inr (Except.error.inj h).symm
    · cases h

end ReadState

theorem SyntaxError.cause_inFile (file : Path) (e : SyntaxError) :
    (e.inFile file).cause = e.cause := by
  rw [inFile]
  split <;> rfl

/-- An error that has a file keeps it in all the readings around. -/
theorem SyntaxError.inFile_inFile (file other : Path) (e : SyntaxError) :
    (e.inFile file).inFile other = e.inFile file := by
  obtain ⟨cause, line, place, source⟩ := e
  cases place <;> rfl

/-- A text that is no document has a line at fault, or ends too early. What is wrong at the end is
known from the text alone. -/
theorem Document.of_ofLines_eq_error {context : ReadContext} {lines : List (List Char)}
    {e : SyntaxError} (h : ofLines context lines = .error e) :
    e.cause.isOfText = true ∨
      ∃ before raw after s, lines = before ++ raw :: after ∧
        ReadState.Reads context before .initial s ∧
        ReadState.Fault context (before.length + 1) raw s e := by
  rw [ofLines] at h
  cases hrun : ReadState.initial.run context 1 lines with
  | error found =>
      rw [hrun] at h
      obtain rfl := Except.error.inj h
      obtain ⟨before, raw, after, s, hlines, hreads, hstep⟩ := ReadState.of_run_eq_error hrun
      rw [Nat.add_comm] at hstep
      exact .inr ⟨before, raw, after, s, hlines, hreads, ReadState.fault_of_step hstep⟩
  | ok s =>
      rw [hrun] at h
      obtain rfl | rfl := ReadState.finish_eq_error h
      all_goals exact .inl rfl

end LayoutSpec
