/-!
Paths of files as they are written: pieces between slashes, joined and cut but not resolved. Two
paths may be written differently and lead along the same steps.
-/

namespace LayoutSpec

structure Path where
  text : String
deriving DecidableEq, Repr, Inhabited

namespace Path

def isAbsolute (p : Path) : Bool :=
  p.text.toList.head? = some '/'

/-- The texts between the slashes. -/
def pieces (p : Path) : List (List Char) :=
  p.text.toList.splitOn '/'

/-- The path `rel` seen from the folder `base`. An absolute path stands for itself, and one slash
is put between the two unless `base` is empty or ends with one. -/
def join (base rel : Path) : Path :=
  if rel.isAbsolute || base.text.isEmpty then rel
  else if base.text.toList.getLast? = some '/' then ⟨base.text ++ rel.text⟩
  else ⟨base.text ++ "/" ++ rel.text⟩

/-- The path seen from a folder, if there is one. An absolute path is the same from everywhere. -/
def from? (base : Option Path) (rel : Path) : Path :=
  match base with
  | none => rel
  | some base => base.join rel

/-- A piece that leads from a folder to another place. -/
def isStep (piece : List Char) : Bool :=
  piece ≠ [] && piece ≠ ['.']

/-- The pieces up to the last one that leads somewhere. -/
def dropIdle (pieces : List (List Char)) : List (List Char) :=
  (pieces.reverse.dropWhile (!isStep ·)).reverse

/-- The path without its last step, and without the slashes and dots before that. The empty path
and the root have no parent. -/
def parent? (p : Path) : Option Path :=
  match p.pieces with
  | [] => none
  | first :: rest =>
    match dropIdle rest with
    | [] => if first.isEmpty then none else some ⟨""⟩
    | steps =>
      match dropIdle steps.dropLast with
      | [] => some ⟨if first.isEmpty then "/" else String.ofList first⟩
      | kept => some ⟨String.ofList (['/'].intercalate (first :: kept))⟩

/-- The shortest way to write the path that leads along the same steps: without empty pieces, and
without dots other than one at the start. Nothing is said about what the steps lead to. -/
def tidy (p : Path) : Path :=
  match p.pieces with
  | [] => p
  | first :: rest =>
    match rest.filter isStep with
    | [] => ⟨if p.isAbsolute then "/" else String.ofList first⟩
    | steps => ⟨String.ofList (['/'].intercalate (first :: steps))⟩

end Path

end LayoutSpec
