import LayoutSpec.Action.Printer
import LayoutSpec.Constraint.Printer
import LayoutSpec.Json.Printer
import LayoutSpec.Validation.Failure

/-!
What happens during a run, as far as observers are told.
-/

namespace LayoutSpec

inductive Hook where
  | suiteStarted | suiteFinished
  | pageTestStarted | pageTestFinished
  | actionStarted | actionFinished
  | beforeSection | afterSection
  | object | afterObject
  | constraintSuccess | constraintError
  | globalError
deriving DecidableEq, Repr

/-- An event. The depth of an object is the number of components around it. -/
inductive Event where
  | suiteStarted (suite : String)
  | suiteFinished (suite : String) (passed : Bool)
  | pageTestStarted (title : String)
  | pageTestFinished (title : String) (passed : Bool)
  | actionStarted (action : Action)
  | actionFinished (action : Action) (failures : Nat)
  | beforeSection (tags : List String)
  | afterSection (tags : List String)
  | object (name : String) (depth : Nat)
  | afterObject (name : String) (depth : Nat)
  | constraintSuccess (object : String) (constraint : Constraint)
  | constraintError (object : String) (constraint : Constraint) (failure : Failure)
  | globalError (error : Error)
deriving DecidableEq, Repr

namespace Event

def hook : Event → Hook
  | suiteStarted .. => .suiteStarted
  | suiteFinished .. => .suiteFinished
  | pageTestStarted .. => .pageTestStarted
  | pageTestFinished .. => .pageTestFinished
  | actionStarted .. => .actionStarted
  | actionFinished .. => .actionFinished
  | beforeSection .. => .beforeSection
  | afterSection .. => .afterSection
  | object .. => .object
  | afterObject .. => .afterObject
  | constraintSuccess .. => .constraintSuccess
  | constraintError .. => .constraintError
  | globalError .. => .globalError

/-- An event as an object whose first member is its kind. -/
def tagged (kind : String) (members : List (String × Json)) : Json :=
  .object (("event", .string kind) :: members)

def count (n : Nat) : Json :=
  .number (.whole n)

def strings (values : List String) : Json :=
  .array (values.map .string)

def record : Event → Json
  | suiteStarted suite => tagged "suite_started" [("suite", .string suite)]
  | suiteFinished suite passed =>
    tagged "suite_finished" [("suite", .string suite), ("passed", .bool passed)]
  | pageTestStarted title => tagged "page_test_started" [("title", .string title)]
  | pageTestFinished title passed =>
    tagged "page_test_finished" [("title", .string title), ("passed", .bool passed)]
  | actionStarted action => tagged "action_started" [("action", .string action.display)]
  | actionFinished action failures =>
    tagged "action_finished" [("action", .string action.display), ("errors", count failures)]
  | beforeSection tags => tagged "before_section" [("tags", strings tags)]
  | afterSection tags => tagged "after_section" [("tags", strings tags)]
  | object name depth => tagged "object" [("object", .string name), ("depth", count depth)]
  | afterObject name depth =>
    tagged "after_object" [("object", .string name), ("depth", count depth)]
  | constraintSuccess name constraint =>
    tagged "constraint_success"
      [("object", .string name), ("constraint", .string constraint.line)]
  | constraintError name constraint failure =>
    tagged "constraint_error"
      [("object", .string name), ("constraint", .string constraint.line),
        ("message", .string failure.display)]
  | globalError error => tagged "global_error" [("message", .string error.display)]

/-- The line of a log in which an event is written down. -/
def logLine (e : Event) : String :=
  e.record.compact

end Event

end LayoutSpec
