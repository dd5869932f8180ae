import LayoutSpec.Path
import LayoutSpec.PixelRange
import LayoutSpec.Text.Blank

/-!
The assertions that a spec makes about one object: its presence, its size, its place relative to
other objects, its text, or the spec of a component inside it.
-/

namespace LayoutSpec

open Text

inductive Direction where
  | above | below | leftOf | rightOf
deriving DecidableEq, Repr

def Direction.keyword : Direction → String
  | .above => "above"
  | .below => "below"
  | .leftOf => "left of"
  | .rightOf => "right of"

/-- Objects are aligned in a row or in a column. -/
inductive Axis where
  | horizontally | vertically
deriving DecidableEq, Repr

def Axis.keyword : Axis → String
  | .horizontally => "horizontally"
  | .vertically => "vertically"

/-- What an alignment compares. Tops and bottoms are compared in a row, left and right edges in a
column, centers in both; `all` compares both edges of the axis. -/
inductive AlignEdge where
  | all | top | bottom | left | right | centered
deriving DecidableEq, Repr

namespace AlignEdge

def keyword : AlignEdge → String
  | .all => "all"
  | .top => "top"
  | .bottom => "bottom"
  | .left => "left"
  | .right => "right"
  | .centered => "centered"

/-- The edges that can be compared along an axis. Tops and bottoms differ among objects in a row,
left and right edges among those in a column. -/
def isLegal : Axis → AlignEdge → Bool
  | _, .all | _, .centered => true
  | .horizontally, .top | .horizontally, .bottom => true
  | .vertically, .left | .vertically, .right => true
  | _, _ => false

end AlignEdge

inductive CenterAxis where
  | all | horizontally | vertically
deriving DecidableEq, Repr

def CenterAxis.keyword : CenterAxis → String
  | .all => "all"
  | .horizontally => "horizontally"
  | .vertically => "vertically"

/-- An object centered `inside` its reference must also lie within it. -/
inductive CenterRelation where
  | inside | on
deriving DecidableEq, Repr

def CenterRelation.keyword : CenterRelation → String
  | .inside => "inside"
  | .on => "on"

inductive TextOperation where
  | is | contains | starts | ends | matches
deriving DecidableEq, Repr

def TextOperation.keyword : TextOperation → String
  | .is => "is"
  | .contains => "contains"
  | .starts => "starts"
  | .ends => "ends"
  | .matches => "matches"

/-- One assertion about one object. -/
inductive Constraint where
  /-- The object is missing or hidden. -/
  | absent
  /-- The object is there and displayed. -/
  | visible
  | width (range : PixelRange)
  | height (range : PixelRange)
  /-- The object lies within another one, or overlaps it if `partly`, at the given offsets. -/
  | inside (object : String) (partly : Bool) (locations : List Location)
  /-- The gaps to another object's sides. -/
  | near (object : String) (locations : List Location)
  | relative (direction : Direction) (object : String) (range : PixelRange)
  | aligned (axis : Axis) (edge : AlignEdge) (object : String) (tolerance : Int)
  | centered (axis : CenterAxis) (relation : CenterRelation) (object : String) (tolerance : Int)
  /-- The objects that the patterns name lie within this one, or overlap it if `partly`. -/
  | contains (partly : Bool) (objects : List String)
  | text (operation : TextOperation) (expected : String)
  /-- The object's area satisfies the spec of that file. -/
  | component (spec : Path)
deriving DecidableEq, Repr

namespace Constraint

def kind : Constraint → String
  | .absent => "absent"
  | .visible => "visible"
  | .width _ => "width"
  | .height _ => "height"
  | .inside .. => "inside"
  | .near .. => "near"
  | .relative .. => "relative"
  | .aligned .. => "aligned"
  | .centered .. => "centered"
  | .contains .. => "contains"
  | .text .. => "text"
  | .component _ => "component"

/-- The deviation in pixels that `aligned` allows if the spec states none. -/
def alignedTolerance : Int := 0

/-- The deviation in pixels that `centered` allows if the spec states none. -/
def centeredTolerance : Int := 2

end Constraint

/-- An object name with the parameter sign `@` replaced by a value, wherever it stands in the
name. -/
def substituteParameter (value : String) (name : String) : String :=
  String.ofList (substitute '@' value.toList name.toList)

/-- The constraint with the parameter sign replaced in the objects that it refers to. Expected texts
and spec paths stay as they are. -/
def Constraint.withParameter (value : String) : Constraint → Constraint
  | .inside object partly locations => .inside (substituteParameter value object) partly locations
  | .near object locations => .near (substituteParameter value object) locations
  | .relative direction object range => .relative direction (substituteParameter value object) range
  | .aligned axis edge object tolerance =>
    .aligned axis edge (substituteParameter value object) tolerance
  | .centered axis relation object tolerance =>
    .centered axis relation (substituteParameter value object) tolerance
  | .contains partly objects => .contains partly (objects.map (substituteParameter value))
  | c => c

def Constraint.mapPaths (f : Path → Path) : Constraint → Constraint
  | .component spec => .component (f spec)
  | c => c

/-- Two constraints say the same if they differ at most in how the path of a spec is written. All
other parts are the same texts and numbers. -/
def Constraint.SameAs (a b : Constraint) : Prop :=
  a.mapPaths Path.tidy = b.mapPaths Path.tidy

instance (a b : Constraint) : Decidable (a.SameAs b) :=
  inferInstanceAs (Decidable (_ = _))

end LayoutSpec
