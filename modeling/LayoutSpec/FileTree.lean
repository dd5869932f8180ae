import LayoutSpec.Path

/-!
A tree of files that does not change, and the folder in it where a program works. Absolute paths are
resolved step by step from the root of the tree and relative ones from the working folder, so that
two spellings of a path lead to one file, and a path through a place that is missing leads nowhere.
There are no symbolic links: a key is the one absolute path of its file without idle steps.
-/

namespace LayoutSpec

/-- The names on the way from the root of a tree. -/
abbrev FileKey := List String

inductive FileContent where
  | text (value : String)
  | binary
deriving DecidableEq, Repr

def FileContent.ofBytes (bytes : ByteArray) : FileContent :=
  match String.fromUTF8? bytes with
  | some value => .text value
  | none => .binary

inductive FileFault where
  | missing | isFolder | notFolder | notText
deriving DecidableEq, Repr

def FileFault.message : FileFault → String
  | .missing => "No such file or directory (os error 2)"
  | .isFolder => "Is a directory (os error 21)"
  | .notFolder => "Not a directory (os error 20)"
  | .notText => "stream did not contain valid UTF-8"

/-- The files of a tree with their keys, the keys of folders that hold no file, and the key of the
working folder. The working folder is there with all folders around it, also if nothing is in it. -/
structure FileTree where
  files : List (FileKey × FileContent) := []
  folders : List FileKey := []
  home : FileKey := []
deriving Repr, Inhabited

inductive Place where
  | file (key : FileKey)
  | folder (key : FileKey)
deriving DecidableEq, Repr

namespace FileTree

/-- Whether a key is a part of the way to a file, to a folder or to the working folder. -/
def isFolder (tree : FileTree) (key : FileKey) : Bool :=
  key.isPrefixOf tree.home || tree.folders.any (key.isPrefixOf ·)
    || tree.files.any fun (file, _) => key.isPrefixOf file && key ≠ file

def content? (tree : FileTree) (key : FileKey) : Option FileContent :=
  tree.files.lookup key

/-- One step from a place. Only folders can be left, and steps that stay have to be in a folder too.
The root is its own parent. -/
def step (tree : FileTree) (place : Place) (piece : List Char) : Except FileFault Place :=
  match place with
  | .file _ => .error .notFolder
  | .folder key =>
    if piece = [] || piece = ['.'] then .ok (.folder key)
    else if piece = ['.', '.'] then .ok (.folder key.dropLast)
    else
      let next := key ++ [String.ofList piece]
      if (tree.content? next).isSome then .ok (.file next)
      else if tree.isFolder next then .ok (.folder next)
      else .error .missing

/-- The folder from which a path is resolved: the root for an absolute path, and the working folder
for a relative one. -/
def start (tree : FileTree) (path : Path) : FileKey :=
  if path.isAbsolute then [] else tree.home

/-- The place to which a path leads, one step after another. Every folder on the way has to be
there, also if a later step goes up again. -/
def resolve (tree : FileTree) (path : Path) : Except FileFault Place :=
  if path.text.isEmpty then .error .missing
  else path.pieces.foldlM tree.step (.folder (tree.start path))

def fileKey? (tree : FileTree) (path : Path) : Option FileKey :=
  match tree.resolve path with
  | .ok (.file key) => some key
  | _ => none

def isFile (tree : FileTree) (path : Path) : Bool :=
  (tree.fileKey? path).isSome

def read (tree : FileTree) (path : Path) : Except FileFault String := do
  match ← tree.resolve path with
  | .folder _ => .error .isFolder
  | .file key =>
    match tree.content? key with
    | some (.text value) => .ok value
    | some .binary => .error .notText
    | none => .error .missing

/-- The names of a path that does not go up, without the steps that stay. -/
def keyOfSpelling (path : Path) : FileKey :=
  (path.pieces.filter Path.isStep).map String.ofList

end FileTree

end LayoutSpec
