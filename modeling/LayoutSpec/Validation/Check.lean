import LayoutSpec.Validation.Scope

/-!
The checks of the constraints that need no other spec. A check looks at the object first and then at
its reference, and reports everything that is wrong about the two in one failure.
-/

namespace LayoutSpec

open Text

abbrev CheckResult (α : Type) := Except Finding α

namespace Check

/-- A failure with these messages, if there are any. One failure is reported for a constraint,
however much is wrong. -/
def failUnless (messages : List String) (areas : List Area) : CheckResult Unit :=
  if messages.isEmpty then .ok () else .error (.broken ⟨areas, messages⟩)

def px (n : Int) : String :=
  String.ofList (intNumeral n) ++ "px"

def quoted (name : String) : String :=
  "\"" ++ name ++ "\""

def rangeText (range : PixelRange) : String :=
  String.ofList range.chars

def find (scope : Scope) (name : String) : CheckResult Snapshot :=
  match scope.find name with
  | .ok element => .ok element
  | .error fault => .error (.fatal fault)

/-- The objects that a pattern names. -/
def names (scope : Scope) (pattern : String) : CheckResult (List String) :=
  match scope.names pattern with
  | .ok names => .ok names
  | .error fault => .error (.fatal fault)

/-- The element of an object that has to be there and displayed. An object that is not declared
cannot be looked for, which is fatal; one that is not on the page breaks the constraint. -/
def visibleElement (scope : Scope) (name : String) : CheckResult Snapshot := do
  let element ← find scope name
  if !element.present then
    throw (.broken ⟨[], ["Object " ++ quoted name ++ " is absent on page"]⟩)
  if !element.visible then
    throw (.broken ⟨[element.area], ["Object " ++ quoted name ++ " is not visible on page"]⟩)
  return element

/-- The area of an object that has to be there and displayed. -/
def visibleArea (scope : Scope) (name : String) : CheckResult Area := do
  return (← visibleElement scope name).area

def checkAbsent (scope : Scope) (name : String) : CheckResult Unit := do
  let element ← find scope name
  if element.present && element.visible then
    throw (.broken ⟨[element.area], ["Object " ++ quoted name ++ " is not absent on page"]⟩)

def checkDimension (name dimension : String) (actual : Int) (range : PixelRange) (area : Area) :
    CheckResult Unit :=
  if range.holds actual then .ok ()
  else
    .error (.broken ⟨[area],
      [quoted name ++ " " ++ dimension ++ " is " ++ px actual ++ " instead of "
        ++ rangeText range]⟩)

/-- A message for every side whose offset is not in the range of its location, in the order of the
locations and of their sides. -/
def locationMessages (name : String) (locations : List Location) (offset : Side → Int) :
    List String :=
  locations.flatMap fun location =>
    (location.sides.filter fun side => !location.range.holds (offset side)).map fun side =>
      quoted name ++ " is " ++ px (offset side) ++ " " ++ side.keyword ++ " instead of "
        ++ rangeText location.range

/-- How far the sides of an element are inside the same sides of its container. -/
def insideOffset (element container : Area) : Side → Int
  | .left => element.left - container.left
  | .right => container.right - element.right
  | .top => element.top - container.top
  | .bottom => container.bottom - element.bottom

/-- How far an element is beyond the sides of another one: left of it, right of it, above or below.
-/
def nearOffset (element other : Area) : Side → Int
  | .left => other.left - element.right
  | .right => element.left - other.right
  | .top => other.top - element.bottom
  | .bottom => element.top - other.bottom

/-- The message about an element that is not in its container. -/
def insideMessages (name object : String) (partly : Bool) (element container : Area) :
    List String :=
  if partly then
    if container.intersects element then []
    else [quoted name ++ " is not inside " ++ quoted object]
  else if container.contains element then []
  else [quoted name ++ " is not completely inside " ++ quoted object]

def checkInside (scope : Scope) (name object : String) (partly : Bool) (locations : List Location) :
    CheckResult Unit := do
  let element ← visibleArea scope name
  let container ← visibleArea scope object
  failUnless
    (insideMessages name object partly element container
      ++ locationMessages name locations (insideOffset element container))
    [element, container]

def checkNear (scope : Scope) (name object : String) (locations : List Location) :
    CheckResult Unit := do
  let element ← visibleArea scope name
  let other ← visibleArea scope object
  failUnless (locationMessages name locations (nearOffset element other)) [element, other]

/-- The gap between an element and its reference in a direction. -/
def gap (element other : Area) : Direction → Int
  | .above => other.top - element.bottom
  | .below => element.top - other.bottom
  | .leftOf => other.left - element.right
  | .rightOf => element.left - other.right

def checkRelative (scope : Scope) (name : String) (direction : Direction) (object : String)
    (range : PixelRange) : CheckResult Unit := do
  let element ← visibleArea scope name
  let other ← visibleArea scope object
  let actual := gap element other direction
  if !range.holds actual then
    throw (.broken ⟨[element, other],
      [quoted name ++ " is " ++ px actual ++ " " ++ direction.keyword ++ " " ++ quoted object
        ++ " instead of " ++ rangeText range]⟩)

/-- The distances between the edges that an alignment compares. -/
def alignOffsets (element other : Area) : Axis → AlignEdge → List Int
  | _, .top => [element.top - other.top]
  | _, .bottom => [element.bottom - other.bottom]
  | _, .left => [element.left - other.left]
  | _, .right => [element.right - other.right]
  | .horizontally, .centered => [element.center.y - other.center.y]
  | .vertically, .centered => [element.center.x - other.center.x]
  | .horizontally, .all => [element.top - other.top, element.bottom - other.bottom]
  | .vertically, .all => [element.left - other.left, element.right - other.right]

/-- The greatest distance, whichever way it goes. -/
def worst (offsets : List Int) : Int :=
  offsets.foldl (fun greatest offset => max greatest offset.natAbs) 0

def checkAligned (scope : Scope) (name : String) (axis : Axis) (edge : AlignEdge) (object : String)
    (tolerance : Int) : CheckResult Unit := do
  let element ← visibleArea scope name
  let other ← visibleArea scope object
  let offset := worst (alignOffsets element other axis edge)
  if tolerance < offset then
    throw (.broken ⟨[element, other],
      [quoted name ++ " is not aligned " ++ axis.keyword ++ " " ++ edge.keyword ++ " with "
        ++ quoted object ++ ". Offset is " ++ px offset]⟩)

/-- By how much the gaps on the two sides of an element differ, along the axes that are checked. An
element has the difference twice as large as it is off the center. -/
def centerOffsets (element other : Area) (axis : CenterAxis) : List (Axis × Int) :=
  let horizontal := (element.left - other.left) - (other.right - element.right)
  let vertical := (element.top - other.top) - (other.bottom - element.bottom)
  match axis with
  | .all => [(.horizontally, horizontal), (.vertically, vertical)]
  | .horizontally => [(.horizontally, horizontal)]
  | .vertically => [(.vertically, vertical)]

def checkCentered (scope : Scope) (name : String) (axis : CenterAxis) (relation : CenterRelation)
    (object : String) (tolerance : Int) : CheckResult Unit := do
  let element ← visibleArea scope name
  let other ← visibleArea scope object
  let containment :=
    if relation = .inside then insideMessages name object false element other else []
  let uneven :=
    ((centerOffsets element other axis).filter fun (_, offset) => tolerance < offset.natAbs).map
      fun (axis, offset) =>
        quoted name ++ " is not centered " ++ axis.keyword ++ " " ++ relation.keyword ++ " "
          ++ quoted object ++ ". Offset is " ++ px offset.natAbs
  failUnless (containment ++ uneven) [element, other]

/-- What is wrong with some objects that should be in a container: messages, and the areas of those
that are somewhere else. -/
def childFindings (scope : Scope) (name : String) (partly : Bool) (container : Area) :
    List String → CheckResult (List String × List Area)
  | [] => .ok ([], [])
  | child :: rest => do
    let element ← find scope child
    let (messages, areas) :=
      if !element.present || !element.visible then ([quoted child ++ " is absent on page"], [])
      else if
        (if partly then container.intersects element.area else container.contains element.area)
        then ([], [])
      else ([quoted child ++ " is outside " ++ quoted name], [element.area])
    let (moreMessages, moreAreas) ← childFindings scope name partly container rest
    return (messages ++ moreMessages, areas ++ moreAreas)

/-- What is wrong with the objects that some patterns name. -/
def patternFindings (scope : Scope) (name : String) (partly : Bool) (container : Area) :
    List String → CheckResult (List String × List Area)
  | [] => .ok ([], [])
  | pattern :: rest => do
    let children ← names scope pattern
    let (messages, areas) ←
      if children.isEmpty then pure (["There are no objects matching: " ++ pattern], [])
      else childFindings scope name partly container children
    let (moreMessages, moreAreas) ← patternFindings scope name partly container rest
    return (messages ++ moreMessages, areas ++ moreAreas)

def checkContains (scope : Scope) (name : String) (partly : Bool) (patterns : List String) :
    CheckResult Unit := do
  let container ← visibleArea scope name
  let (messages, areas) ← patternFindings scope name partly container patterns
  failUnless messages (container :: areas)

def occursIn (part : List Char) : List Char → Bool
  | [] => part.isEmpty
  | c :: rest => part.isPrefixOf (c :: rest) || occursIn part rest

/-- The pattern that has to match a whole text. It stands in a group of its own, so that all of its
branches are tied to both ends. -/
def wholePattern (pattern : List Char) : List Char :=
  "^(?:".toList ++ pattern ++ ")$".toList

/-- Whether a text is as it is expected to be. A pattern has to match all of it, and is compiled
again with the ends of the text around it. -/
def textHolds (operation : TextOperation) (expected actual : String) : Except Fault Bool :=
  match operation with
  | .is => .ok (actual = expected)
  | .contains => .ok (occursIn expected.toList actual.toList)
  | .starts => .ok (expected.toList.isPrefixOf actual.toList)
  | .ends => .ok (expected.toList.isSuffixOf actual.toList)
  | .matches =>
    match Regex.compile? (wholePattern expected.toList) with
    | some regex => .ok (regex.isMatch actual.toList)
    | none => .error (.invalidPattern expected)

/-- What a text should do, in messages. -/
def verb : TextOperation → String
  | .is => "be"
  | .contains => "contain"
  | .starts => "start with"
  | .ends => "end with"
  | .matches => "match"

def checkText (scope : Scope) (name : String) (operation : TextOperation) (expected : String) :
    CheckResult Unit := do
  let element ← visibleElement scope name
  match element.text with
  | none => throw (.fatal (.noText name))
  | some actual =>
    match textHolds operation expected actual with
    | .error fault => throw (.fatal fault)
    | .ok true => return ()
    | .ok false =>
      throw (.broken ⟨[element.area],
        [quoted name ++ " text is " ++ quoted actual ++ " but should " ++ verb operation ++ " "
          ++ quoted expected]⟩)

/-- The check of a constraint that needs no other spec. A component is nothing to be checked here,
as its spec has a pass of its own. -/
def check (scope : Scope) (name : String) : Constraint → CheckResult Unit
  | .absent => checkAbsent scope name
  | .visible => do
    let _ ← visibleElement scope name
  | .width range => do
    let area ← visibleArea scope name
    checkDimension name "width" area.width range area
  | .height range => do
    let area ← visibleArea scope name
    checkDimension name "height" area.height range area
  | .inside object partly locations => checkInside scope name object partly locations
  | .near object locations => checkNear scope name object locations
  | .relative direction object range => checkRelative scope name direction object range
  | .aligned axis edge object tolerance => checkAligned scope name axis edge object tolerance
  | .centered axis relation object tolerance =>
    checkCentered scope name axis relation object tolerance
  | .contains partly objects => checkContains scope name partly objects
  | .text operation expected => checkText scope name operation expected
  | .component _ => .ok ()

/-- The spec and the page of a component: the object has to be declared, the spec file to be there
and well formed, and the object on the page. -/
def component (scope : Scope) (name : String) (spec : Path) :
    CheckResult (Document × Page × Locator) := do
  match scope.locator name with
  | .error fault => throw (.fatal fault)
  | .ok locator =>
    if !scope.tree.isFile spec then
      throw (.fatal (.componentNotFound spec))
    match Document.ofFile scope.tree spec with
    | .error error => throw (.fatal (.componentUnreadable spec error))
    | .ok document =>
      match scope.page.subPage? locator with
      | none => throw (.fatal (.noSubPage locator))
      | some page => return (document, page, locator)

/-- The verdict about a component whose own pass has reported `count` failures. -/
def componentVerdict (scope : Scope) (locator : Locator) (count : Nat) : CheckResult Unit :=
  if count = 0 then .ok ()
  else
    .error (.broken ⟨[(scope.page.resolve locator).area],
      ["Child component spec contains " ++ toString count ++ " errors"]⟩)

end Check

end LayoutSpec
