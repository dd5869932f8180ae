import LayoutSpec.Validation.Check
import LayoutSpec.Validation.Walk

/-!
A pass over a page: every section that the filter accepts, in the order of the spec, and in it every
object that its groups name. A silent pass finds the same failures and tells nobody.

A component is checked by a pass of its own over the page seen from the component, which the walk
enters.
-/

namespace LayoutSpec

open Walk

namespace Scope

/-- The verdict about one constraint. For a component it is that of the pass inside it, which counts
the failures there. -/
def checkConstraint (scope : Scope) (silent : Bool) (name : String) (c : Constraint) :
    Walk (CheckResult Unit) :=
  match c with
  | .component spec =>
    match Check.component scope name spec with
    | .error finding => pure (.error finding)
    | .ok (document, page, locator) =>
      .enter ⟨scope.depth + 1, silent, document, page⟩ fun failures =>
        pure (Check.componentVerdict scope locator failures.length)
  | c => pure (Check.check scope name c)

/-- The constraints of one object from the next one on. A fault ends the object; a broken constraint
leaves the others to be checked. -/
def checkConstraints (scope : Scope) (silent : Bool) (name : String) :
    List Constraint → Walk (List Failure)
  | [] => pure []
  | c :: rest => do
    match ← checkConstraint scope silent name c with
    | .ok () =>
      tellOf silent (.constraintSuccess name c)
      checkConstraints scope silent name rest
    | .error (.broken failure) =>
      tellOf silent (.constraintError name c failure)
      let others ← checkConstraints scope silent name rest
      return failure :: others
    | .error (.fatal fault) =>
      let failure := Failure.ofFault fault
      tellOf silent (.constraintError name c failure)
      return [failure]

/-- One object and all constraints of a group. -/
def checkObject (scope : Scope) (silent : Bool) (constraints : List Constraint) (name : String) :
    Walk (List Failure) := do
  tellOf silent (.object name scope.depth)
  let failures ← checkConstraints scope silent name constraints
  tellOf silent (.afterObject name scope.depth)
  return failures

/-- Every object that a group names. Nobody is told of a pattern that cannot be compiled, as there
is no object of which it could be told. -/
def checkGroup (scope : Scope) (silent : Bool) (g : Group) : Walk (List Failure) :=
  match scope.names g.pattern with
  | .ok names => collect (checkObject scope silent g.constraints) names
  | .error fault => pure [.ofFault fault]

def checkGroups (scope : Scope) (silent : Bool) (groups : List Group) : Walk (List Failure) :=
  collect (checkGroup scope silent) groups

/-- Whether a statement holds. Its groups are checked silently. -/
def holds (scope : Scope) (s : Statement) : Walk Bool := do
  let failures ← checkGroups scope true s.groups
  return failures.isEmpty != s.inverted

/-- Whether one of some statements holds. Those behind it are not looked at, and no statement at all
holds for none. -/
def anyHolds (scope : Scope) : List Statement → Walk Bool
  | [] => pure false
  | s :: rest => do
    if ← holds scope s then return true
    else anyHolds scope rest

/-- The branch of a block that its statements choose. Without the other branch, nothing is checked
if none of them holds. -/
def checkBlock (scope : Scope) (silent : Bool) (b : ConditionalBlock) : Walk (List Failure) := do
  if ← anyHolds scope b.statements then checkGroups scope silent b.body
  else checkGroups scope silent (b.otherwise.getD [])

/-- The groups of a section, and then its blocks. -/
def checkSection (scope : Scope) (silent : Bool) (sec : Section) : Walk (List Failure) := do
  tellOf silent (.beforeSection sec.tags)
  let groups ← checkGroups scope silent sec.groups
  let blocks ← collect (checkBlock scope silent) sec.blocks
  tellOf silent (.afterSection sec.tags)
  return groups ++ blocks

/-- The sections that the filter accepts. The same filter goes for the specs of components. -/
def checkSections (scope : Scope) (silent : Bool) (sections : List Section) : Walk (List Failure) :=
  collect (checkSection scope silent) (sections.filter fun sec => scope.filter.accepts sec.tags)

end Scope

namespace Pass

/-- What a pass does. -/
def walk (tree : FileTree) (filter : TagFilter) (p : Pass) : Walk (List Failure) :=
  (Scope.ofDocument p.document p.page filter tree p.depth).checkSections p.silent
    p.document.sections

end Pass

end LayoutSpec
