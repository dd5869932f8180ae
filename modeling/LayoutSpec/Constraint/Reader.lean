import LayoutSpec.Token
import LayoutSpec.Regex.Reader

/-!
Reading a constraint line. It has the form `<keyword words>: <parameters>`: the words before the
first colon select the kind of constraint, and the parameters are read token by token.
-/

namespace LayoutSpec.Constraint

open Text

def objectName : TokenReader String := fun cs =>
  match TokenReader.word cs with
  | .ok name rest => .ok name rest
  | .error _ rest => .error .missingObjectName rest

/-- The deviation that is allowed: one number that is not negative. -/
def toleranceOr (default : Int) : TokenReader Int := do
  if ← TokenReader.hasToken then
    match ← TokenReader.range with
    | .exactly value =>
      if 0 ≤ value then return value else throw (.invalidTolerance (.exactly value))
    | range => throw (.invalidTolerance range)
  else
    return default

def readInside (partly : Bool) : TokenReader Constraint := do
  let object ← objectName
  return .inside object partly (← TokenReader.locations)

def readNear : TokenReader Constraint := do
  let object ← objectName
  let locations ← TokenReader.locations
  if locations.isEmpty then
    throw (.missingLocation object)
  return .near object locations

/-- The range of a relative place may be left out. What is asked then is that there is no overlap:
any gap from zero on is accepted. -/
def readRelative (direction : Direction) : TokenReader Constraint := do
  let object ← objectName
  if ← TokenReader.hasToken then
    return .relative direction object (← TokenReader.range)
  else
    return .relative direction object (.atLeast 0)

def axisOf : String → Except SyntaxCause Axis
  | "horizontally" => .ok .horizontally
  | "vertically" => .ok .vertically
  | word => .error (.unknownAlignment word)

/-- The edge of that name, if it can be compared along the axis. -/
def edgeOf (axis : Axis) (word : String) : Except SyntaxCause AlignEdge :=
  match axis, word with
  | _, "all" => .ok .all
  | _, "centered" => .ok .centered
  | .horizontally, "top" => .ok .top
  | .horizontally, "bottom" => .ok .bottom
  | .vertically, "left" => .ok .left
  | .vertically, "right" => .ok .right
  | axis, word => .error (.illegalEdge axis word)

def readAligned (axis edge : String) : TokenReader Constraint := do
  let axis ← MonadExcept.ofExcept (axisOf axis)
  let edge ← MonadExcept.ofExcept (edgeOf axis edge)
  let object ← objectName
  return .aligned axis edge object (← toleranceOr alignedTolerance)

def centerAxisOf : String → Except SyntaxCause CenterAxis
  | "all" => .ok .all
  | "horizontally" => .ok .horizontally
  | "vertically" => .ok .vertically
  | word => .error (.unknownCentering word)

def centerRelationOf : String → Except SyntaxCause CenterRelation
  | "inside" => .ok .inside
  | "on" => .ok .on
  | word => .error (.unknownRelation word)

def readCentered (axis relation : String) : TokenReader Constraint := do
  let axis ← MonadExcept.ofExcept (centerAxisOf axis)
  let relation ← MonadExcept.ofExcept (centerRelationOf relation)
  let object ← objectName
  return .centered axis relation object (← toleranceOr centeredTolerance)

def readContains (partly : Bool) : TokenReader Constraint := do
  let objects := (items ',' (← TokenReader.takeRest)).map String.ofList
  if objects.isEmpty then
    throw .missingObjectNames
  return .contains partly objects

def textOperationOf : String → Except SyntaxCause TextOperation
  | "is" => .ok .is
  | "contains" => .ok .contains
  | "starts" => .ok .starts
  | "ends" => .ok .ends
  | "matches" => .ok .matches
  | word => .error (.unknownTextOperation word)

/-- The expected text is quoted, and as a pattern it has to be a regular expression. This is asked
of the pattern as it is written, not of the one that has to match all of a text. -/
def readText (operation : String) : TokenReader Constraint := do
  let operation ← MonadExcept.ofExcept (textOperationOf operation)
  let expected ← TokenReader.quoted
  if operation = .matches && !Regex.compiles expected.toList then
    throw (.invalidTextPattern expected)
  return .text operation expected

/-- The path of a component is all text that is left, seen from the folder of the spec. It may hold
blanks, and the blanks at its ends are not a part of it. -/
def readComponent (base : Option Path) : TokenReader Constraint := do
  let path := trim (← TokenReader.takeRest)
  if path.isEmpty then
    throw .missingComponentPath
  return .component (.from? base ⟨String.ofList path⟩)

/-- The reader of the parameters that belong to keyword words. The words are all there is before the
colon, so that no keyword is the start of another one. -/
def readerOf? (base : Option Path) : List String → Option (TokenReader Constraint)
  | ["absent"] => some (pure .absent)
  | ["visible"] => some (pure .visible)
  | ["width"] => some (.width <$> TokenReader.range)
  | ["height"] => some (.height <$> TokenReader.range)
  | ["inside"] => some (readInside false)
  | ["inside", "partly"] => some (readInside true)
  | ["near"] => some readNear
  | ["above"] => some (readRelative .above)
  | ["below"] => some (readRelative .below)
  | ["left", "of"] => some (readRelative .leftOf)
  | ["right", "of"] => some (readRelative .rightOf)
  | ["aligned", axis] => some (readAligned axis "all")
  | ["aligned", axis, edge] => some (readAligned axis edge)
  | ["centered", relation] => some (readCentered "all" relation)
  | ["centered", axis, relation] => some (readCentered axis relation)
  | ["contains"] => some (readContains false)
  | ["contains", "partly"] => some (readContains true)
  | ["text", operation] => some (readText operation)
  | ["component"] => some (readComponent base)
  | _ => none

/-- Reads a constraint line. The path of a component is seen from the folder `base`, if there is
one. -/
def parse (base : Option Path) (text : List Char) : Except SyntaxCause Constraint :=
  let text := trim text
  let (head, parameters) := (cutAt (· = ':') text).getD (text, [])
  match readerOf? base ((words head).map String.ofList) with
  | none => .error (.unknownConstraint (String.ofList text))
  | some reader =>
    match reader parameters with
    | .error cause _ => .error cause
    | .ok c rest =>
      if rest.all isBlank then .ok c
      else .error (.unexpectedInConstraint (String.ofList (trim rest)) (String.ofList text))

end LayoutSpec.Constraint
