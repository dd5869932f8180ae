import LayoutSpec.SyntaxError

/-!
Window sizes, written `1024x768`.
-/

namespace LayoutSpec

open Text

/-- A window size in pixels. Sides are 32 bits wide, without a sign. -/
structure Size where
  width : Nat
  height : Nat
deriving DecidableEq, Repr

namespace Size

/-- One side: decimal digits, with a plus sign before them or without. -/
def side? (cs : List Char) : Option Nat := do
  let digits := match cs with
    | '+' :: rest => rest
    | cs => cs
  let n ← nat? digits
  guard (n < 4294967296)
  return n

/-- Reads two sides with an `x` of either case between them. Blanks around the sides do not count.
-/
def parse (text : List Char) : Except SyntaxCause Size :=
  let size? : Option Size := do
    let (width, height) ← cutAt (fun c => c = 'x' || c = 'X') (trim text)
    return ⟨← side? (trim width), ← side? (trim height)⟩
  match size? with
  | some size => .ok size
  | none => .error (.invalidSize (String.ofList text))

def chars (s : Size) : List Char :=
  natNumeral s.width ++ 'x' :: natNumeral s.height

def display (s : Size) : String :=
  String.ofList s.chars

end Size

end LayoutSpec
