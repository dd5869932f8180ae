import LayoutSpec.Error
import LayoutSpec.Geometry
import LayoutSpec.Locator

/-!
What a pass over a page reports: constraints that a page breaks, and faults because of which an
object cannot be checked.
-/

namespace LayoutSpec

/-- A broken constraint: the areas of the objects, and a message for everything that is wrong. -/
structure Failure where
  areas : List Area
  messages : List String
deriving DecidableEq, Repr

/-- The messages in one line. -/
def Failure.display (f : Failure) : String :=
  "; ".intercalate f.messages

/-- Why an object cannot be checked. -/
inductive Fault where
  | missingLocator (object : String)
  | componentNotFound (spec : Path)
  | componentUnreadable (spec : Path) (error : Error)
  | noSubPage (locator : Locator)
  | noText (object : String)
  | invalidPattern (pattern : String)
deriving DecidableEq, Repr

def Fault.message : Fault → String
  | .missingLocator object => "Cannot find locator for \"" ++ object ++ "\" in page spec"
  | .componentNotFound spec => "Component spec not found: " ++ spec.text
  | .componentUnreadable spec error =>
    "Cannot read component spec " ++ spec.text ++ ": " ++ error.display
  | .noSubPage locator => "Cannot create sub-page for " ++ locator.display
  | .noText object => "Unsupported: Page cannot provide text of \"" ++ object ++ "\""
  | .invalidPattern pattern => "Incorrect pattern \"" ++ pattern ++ "\""

/-- A fault is reported as a failure without areas. -/
def Failure.ofFault (fault : Fault) : Failure :=
  ⟨[], [fault.message]⟩

/-- Why a check does not pass. A broken constraint leaves the other constraints of the object to be
checked, a fault does not. -/
inductive Finding where
  | broken (failure : Failure)
  | fatal (fault : Fault)
deriving DecidableEq, Repr

/-- What is reported about a finding. -/
def Finding.failure : Finding → Failure
  | .broken failure => failure
  | .fatal fault => .ofFault fault

end LayoutSpec
