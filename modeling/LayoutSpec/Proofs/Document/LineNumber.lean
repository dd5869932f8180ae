import LayoutSpec.Document.Reader

/-!
The number of a line. It decides nothing: a line that is read is read in the same way under another
number, and a line at fault is at fault for the same cause. Only the errors of the line itself show
the number; an error of an imported text has a file, and its line there.
-/

namespace LayoutSpec

/-- The error under another number of the line. An error that has a file is one of an imported text
and stays where it is. -/
def SyntaxError.renumber (number : Nat) (e : SyntaxError) : SyntaxError :=
  if e.file.isNone then { e with line := number } else e

theorem SyntaxError.renumber_inFile (number : Nat) (file : Path) (e : SyntaxError) :
    (e.inFile file).renumber number = e.inFile file := by
  obtain ⟨cause, line, place, source⟩ := e
  cases place <;> rfl

theorem ImportFault.renumber_error (number other : Nat) (path : Path) (fault : ImportFault) :
    (fault.error number path).renumber other = fault.error other path := by
  cases fault with
  | cyclic | unreadable source => rfl
  | malformed e => exact SyntaxError.renumber_inFile other path e

namespace ReadState

variable {context : ReadContext} {s t : ReadState} {raw : List Char}

/-- A part of a line is read whatever the number of the line is. -/
@[simp]
theorem onLine_ok {α : Type} (number : Nat) (a : α) : onLine number (.ok a) = .ok a := rfl

@[simp]
theorem onLine_error {α : Type} (number : Nat) (cause : SyntaxCause) :
    (onLine number (.error cause) : Except SyntaxError α) = .error (.ofLine number cause) := rfl

/-- Two numbers of a line give results that differ in the line of an error of the text at hand. -/
def SameUpToLine {α : Type} (result : Nat → Except SyntaxError α) : Prop :=
  ∀ number other, result other = (result number).mapError (·.renumber other)

namespace SameUpToLine

variable {α β : Type}

theorem ok (a : α) : SameUpToLine fun _ => .ok a :=
  fun _ _ => rfl

theorem error (cause : SyntaxCause) :
    SameUpToLine fun number => (.error (.ofLine number cause) : Except SyntaxError α) :=
  fun _ _ => rfl

theorem bind {first : Nat → Except SyntaxError α} {next : Nat → α → Except SyntaxError β}
    (hfirst : SameUpToLine first) (hnext : ∀ a, SameUpToLine fun number => next number a) :
    SameUpToLine fun number => first number >>= next number := by
  intro number other
  change first other >>= next other = (first number >>= next number).mapError _
  rw [hfirst number other]
  cases first number with
  | error e => rfl
  | ok a => exact hnext a number other

theorem onLine (part : Except SyntaxCause α) :
    SameUpToLine fun number => ReadState.onLine number part := by
  cases part with
  | error cause => exact error cause
  | ok a => exact ok a

theorem eq_ok {result : Nat → Except SyntaxError α} {number : Nat} {a : α}
    (h : SameUpToLine result) (hok : result number = .ok a) (other : Nat) :
    result other = .ok a := by
  rw [h number other, hok]
  rfl

theorem eq_error {result : Nat → Except SyntaxError α} {number : Nat} {e : SyntaxError}
    (h : SameUpToLine result) (herror : result number = .error e) (other : Nat) :
    result other = .error (e.renumber other) := by
  rw [h number other, herror]
  rfl

end SameUpToLine

theorem checkNoPending_sameUpToLine (s : ReadState) :
    SameUpToLine fun number => s.checkNoPending number := by
  unfold checkNoPending
  split
  · exact .error _
  · exact .ok _

theorem openSection_sameUpToLine (tags : List Char) (s : ReadState) :
    SameUpToLine fun number => s.openSection number tags := by
  unfold openSection
  split
  · exact .error _
  · exact .bind s.checkNoPending_sameUpToLine fun _ => .ok _

theorem toggleObjects_sameUpToLine (s : ReadState) :
    SameUpToLine fun number => s.toggleObjects number := by
  unfold toggleObjects
  split
  · exact .error _
  · split
    · exact s.openSection_sameUpToLine []
    · exact .ok _

theorem defineObject_sameUpToLine (line : List Char) (s : ReadState) :
    SameUpToLine fun number => s.defineObject number line := by
  unfold defineObject
  split
  · exact .error _
  · split
    · exact .error _
    · exact .bind (.onLine _) fun _ => .ok _

theorem openGroup_sameUpToLine (line : List Char) (s : ReadState) :
    SameUpToLine fun number => s.openGroup number line := by
  unfold openGroup
  dsimp only
  split
  · exact .error _
  · split
    · exact .error _
    · exact .ok _

theorem addConstraint_sameUpToLine (base : Option Path) (line : List Char) (s : ReadState) :
    SameUpToLine fun number => s.addConstraint base number line := by
  unfold addConstraint
  split
  · exact .error _
  · refine .bind (.onLine _) fun c => ?_
    split
    · exact .error _
    · exact .ok _

theorem applyKeyword_sameUpToLine (keyword : BlockKeyword) (s : ReadState) :
    SameUpToLine fun number => s.applyKeyword number keyword := by
  unfold applyKeyword
  repeat' split
  all_goals first | exact .ok _ | exact .error _

theorem directive_sameUpToLine (context : ReadContext) (text : List Char) (s : ReadState) :
    SameUpToLine fun number => s.directive context number text := by
  unfold directive
  dsimp only
  split
  · exact .error _
  · split
    · exact .error _
    · refine .bind (fun number other => ?_) fun _ => .ok _
      cases context.importSpec _ with
      | ok imported => rfl
      | error fault =>
          exact congrArg Except.error (fault.renumber_error number other _).symm

/-- Under another number a line does the same, and its error has that number. An error that was
found in an imported text keeps the number it has there. -/
theorem step_sameUpToLine (context : ReadContext) (s : ReadState) (raw : List Char) :
    SameUpToLine fun number => s.step context number raw := by
  unfold step
  dsimp only
  split
  · exact .ok _
  · exact directive_sameUpToLine context _ s
  · exact toggleObjects_sameUpToLine s
  · split
    · exact defineObject_sameUpToLine _ s
    · split
      · exact openSection_sameUpToLine _ s
      · split
        · exact .ok _
        · exact .error _
      · exact applyKeyword_sameUpToLine _ s
      · exact addConstraint_sameUpToLine _ _ s
      · exact openGroup_sameUpToLine _ s
      · exact .ok _

theorem finish_sameUpToLine (s : ReadState) : SameUpToLine fun number => s.finish number := by
  unfold finish
  split
  · exact .error _
  · exact .bind s.checkNoPending_sameUpToLine fun _ => .ok _

theorem step_eq_ok {number : Nat} (h : s.step context number raw = .ok t) (other : Nat) :
    s.step context other raw = .ok t :=
  (step_sameUpToLine context s raw).eq_ok h other

theorem step_eq_error {number : Nat} {e : SyntaxError} (h : s.step context number raw = .error e)
    (other : Nat) : s.step context other raw = .error (e.renumber other) :=
  (step_sameUpToLine context s raw).eq_error h other

end ReadState

end LayoutSpec
