import LayoutSpec.Text.Decimal

/-!
The pixel distances that a constraint accepts, and the sides from which they are measured.
-/

namespace LayoutSpec

open Text

/-- Accepted pixel values of a distance, a width or a height. -/
inductive PixelRange where
  | exactly (value : Int)
  | between (low high : Int)
  | atLeast (low : Int)
deriving DecidableEq, Repr

namespace PixelRange

/-- Both bounds are accepted, and the lesser one is the lower. -/
def ordered (a b : Int) : PixelRange :=
  .between (min a b) (max a b)

/-- The values within `tolerance` of `value`, if both bounds are pixel numbers. A negative tolerance
stands for the same range as a positive one. -/
def around? (value tolerance : Int) : Option PixelRange := do
  let low ← pixel? (value - tolerance)
  let high ← pixel? (value + tolerance)
  return ordered low high

def holds (r : PixelRange) (value : Int) : Bool :=
  match r with
  | .exactly expected => value = expected
  | .between low high => low ≤ value && value ≤ high
  | .atLeast low => low ≤ value

def chars : PixelRange → List Char
  | .exactly value => intNumeral value ++ "px".toList
  | .between low high => intNumeral low ++ " to ".toList ++ intNumeral high ++ "px".toList
  | .atLeast low => ">= ".toList ++ intNumeral low ++ "px".toList

end PixelRange

inductive Side where
  | top | left | right | bottom
deriving DecidableEq, Repr

namespace Side

def keyword : Side → String
  | .top => "top"
  | .left => "left"
  | .right => "right"
  | .bottom => "bottom"

def ofKeyword? : String → Option Side
  | "top" => some .top
  | "left" => some .left
  | "right" => some .right
  | "bottom" => some .bottom
  | _ => none

theorem ofKeyword?_keyword (s : Side) : ofKeyword? s.keyword = some s := by
  cases s <;> rfl

end Side

/-- A range and the sides from which it is measured, such as `10 to 20px top bottom`. -/
structure Location where
  range : PixelRange
  sides : List Side
deriving DecidableEq, Repr

def Location.chars (l : Location) : List Char :=
  l.range.chars ++ l.sides.flatMap fun side => ' ' :: side.keyword.toList

end LayoutSpec
