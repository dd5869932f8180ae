import LayoutSpec.Error
import LayoutSpec.Glob
import LayoutSpec.Text.Escape

/-!
How a catalog is run: how many suites at a time, and which.
-/

namespace LayoutSpec

/-- A number of suites that run at a time, 0 standing for as many as the machine has cores, and a
pattern for the names of the suites to run. -/
structure Configuration where
  parallelSuites : Nat := 1
  filter : Option String := none
deriving DecidableEq, Repr

namespace Configuration

/-- The number of workers, unless it is left to the machine. -/
def workers? (c : Configuration) : Option Nat :=
  if c.parallelSuites = 0 then none else some c.parallelSuites

/-- The error of a filter whose expression does not compile. It is well formed, so it is too large.
-/
def filterError? (c : Configuration) : Option Error :=
  c.filter.bind fun filter =>
    if Wildcard.anyText.compiles filter.toList then none
    else some (.invalidConfig ("Bad suite filter " ++ Text.escaped filter
      ++ ": Compiled regex exceeds size limit of " ++ toString Regex.maxSize ++ " bytes."))

/-- Whether the suite of that name runs: all of its name has to match the filter. A filter that does
not compile selects no suite, and a run with it is refused. -/
def selects (c : Configuration) (name : String) : Bool :=
  match c.filter with
  | none => true
  | some filter =>
    Wildcard.anyText.compiles filter.toList
      && Wildcard.anyText.accepts filter.toList name.toList

end Configuration

end LayoutSpec
