import LayoutSpec.Text.Decimal

/-!
Rectangles of whole pixels. The right and the bottom edge are exclusive: an area of width `w` covers
the columns `left, …, left + w - 1`. Edges and distances are exact. Arithmetic on 32 bits agrees
with them as long as its results are numbers of 32 bits, which `Area.Fits` says of the edges.
-/

namespace LayoutSpec

structure Point where
  x : Int
  y : Int
deriving DecidableEq, Repr

/-- The rectangle that an element occupies. -/
structure Area where
  left : Int
  top : Int
  width : Int
  height : Int
deriving DecidableEq, Repr, Inhabited

namespace Area

def right (a : Area) : Int := a.left + a.width

def bottom (a : Area) : Int := a.top + a.height

/-- The edges are numbers of 32 bits. -/
def Fits (a : Area) : Prop :=
  Text.isPixel a.left ∧ Text.isPixel a.top ∧ Text.isPixel a.right ∧ Text.isPixel a.bottom

instance (a : Area) : Decidable a.Fits :=
  inferInstanceAs (Decidable (_ ∧ _))

/-- Half of the width and of the height, rounded toward zero, behind the left upper corner. For a
negative size it lies right of the exact center. -/
def center (a : Area) : Point :=
  ⟨a.left + a.width.tdiv 2, a.top + a.height.tdiv 2⟩

/-- All four edges of `b` lie within `a`. Edges may coincide. -/
def contains (a b : Area) : Bool :=
  a.left ≤ b.left && a.top ≤ b.top && b.right ≤ a.right && b.bottom ≤ a.bottom

/-- The two areas overlap along both axes. Areas that only share an edge do not overlap, whereas a
line without width inside of another area does. -/
def intersects (a b : Area) : Bool :=
  a.left < b.right && b.left < a.right && a.top < b.bottom && b.top < a.bottom

/-- The area seen from the left upper corner of `origin`. -/
def relativeTo (a origin : Area) : Area :=
  { a with left := a.left - origin.left, top := a.top - origin.top }

def display (a : Area) : String :=
  let number (n : Int) := String.ofList (Text.intNumeral n)
  "[" ++ ", ".intercalate [number a.left, number a.top, number a.width, number a.height] ++ "]"

end Area

end LayoutSpec
