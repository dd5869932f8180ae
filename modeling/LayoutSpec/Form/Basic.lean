import LayoutSpec.Json.Basic
import LayoutSpec.Page
import LayoutSpec.PixelRange

/-!
The JSON forms of places on a page. A value that is left out of an object is not written as null.
-/

namespace LayoutSpec

namespace Json

def int (n : Int) : Json :=
  .number (.whole n)

def nat (n : Nat) : Json :=
  .number (.whole n)

def path (p : Path) : Json :=
  .string p.text

def list {α : Type} (form : α → Json) (values : List α) : Json :=
  .array (values.map form)

def orNull {α : Type} (form : α → Json) : Option α → Json
  | none => .null
  | some a => form a

/-- A member that is left out if it has no value. -/
def optional {α : Type} (key : String) (form : α → Json) : Option α → List (String × Json)
  | none => []
  | some a => [(key, form a)]

def int? : Json → Option Int
  | .number (.whole n) => some n
  | _ => none

def nat? : Json → Option Nat
  | .number (.whole (.ofNat n)) => some n
  | _ => none

def string? : Json → Option String
  | .string s => some s
  | _ => none

def bool? : Json → Option Bool
  | .bool b => some b
  | _ => none

def path? (j : Json) : Option Path :=
  j.string?.map Path.mk

def list? {α : Type} (value? : Json → Option α) : Json → Option (List α)
  | .array items => items.mapM value?
  | _ => none

def field? {α : Type} (key : String) (value? : Json → Option α) (j : Json) : Option α :=
  (j.member? key).bind value?

/-- The value of a member that may be null or left out. -/
def optionalField? {α : Type} (key : String) (value? : Json → Option α) (j : Json) :
    Option (Option α) :=
  match j.member? key with
  | none | some .null => some none
  | some value => (value? value).map some

end Json

open Json (int nat path list orNull optional int? nat? string? bool? path? list?)

def Point.form (p : Point) : Json :=
  .object [("x", int p.x), ("y", int p.y)]

def Area.form (a : Area) : Json :=
  .object [("left", int a.left), ("top", int a.top), ("width", int a.width),
    ("height", int a.height)]

def Size.form (s : Size) : Json :=
  .object [("width", nat s.width), ("height", nat s.height)]

def Size.ofForm? (j : Json) : Option Size := do
  return ⟨← j.field? "width" nat?, ← j.field? "height" nat?⟩

def Strategy.form : Strategy → Json
  | .custom word => .object [("custom", .string word)]
  | strategy => .string strategy.word

def Strategy.ofForm? (j : Json) : Option Strategy :=
  match j with
  | .string word => some (.ofWord word)
  | j => (j.field? "custom" string?).map .custom

def Locator.form (l : Locator) : Json :=
  .object ([("strategy", l.strategy.form), ("value", .string l.value)]
    ++ optional "index" nat l.index)

def Locator.ofForm? (j : Json) : Option Locator := do
  return {
    strategy := ← j.field? "strategy" Strategy.ofForm?
    value := ← j.field? "value" string?
    index := ← j.optionalField? "index" nat? }

def Snapshot.form (s : Snapshot) : Json :=
  .object ([("present", .bool s.present), ("visible", .bool s.visible), ("area", s.area.form)]
    ++ optional "text" .string s.text)

def PixelRange.form : PixelRange → Json
  | .exactly value => .object [("Exact", int value)]
  | .between low high => .object [("Between", .array [int low, int high])]
  | .atLeast low => .object [("AtLeast", int low)]

def PixelRange.ofForm? (j : Json) : Option PixelRange :=
  match j with
  | .object [("Exact", value)] => value.int?.map .exactly
  | .object [("Between", .array [low, high])] => do return .between (← low.int?) (← high.int?)
  | .object [("AtLeast", low)] => low.int?.map .atLeast
  | _ => none

def Side.form (s : Side) : Json :=
  .string s.keyword

def Side.ofForm? (j : Json) : Option Side :=
  j.string?.bind Side.ofKeyword?

def Location.form (l : Location) : Json :=
  .object [("range", l.range.form), ("sides", list Side.form l.sides)]

def Location.ofForm? (j : Json) : Option Location := do
  return ⟨← j.field? "range" PixelRange.ofForm?, ← j.field? "sides" (list? Side.ofForm?)⟩

end LayoutSpec
