import LayoutSpec.Document.State

/-!
Reading specs from texts and files. An imported spec is read in the place of its import line, and a
spec must not import one that is still being read. As every file that is being read is in the chain
of imports once, the chain is no longer than the tree has files, and reading ends.
-/

namespace LayoutSpec.Document

/-- The document of some lines, of which the first has the number 1. Faults at the end have the
number of the last line. -/
def ofLines (context : ReadContext) (lines : List (List Char)) : Except SyntaxError Document :=
  match ReadState.initial.run context 1 lines with
  | .error e => .error e
  | .ok s => s.finish lines.length

def filesOutside (tree : FileTree) (chain : List FileKey) : List (FileKey × FileContent) :=
  tree.files.filter fun file => !chain.contains file.1

/-- A longer chain of imports leaves fewer files. The reader of a text ends because of this: with
each file that is imported, the chain gets longer. -/
theorem filesOutside_cons_lt {tree : FileTree} {chain : List FileKey} {key : FileKey}
    (hnew : chain.contains key = false) (hfile : (tree.content? key).isSome = true) :
    (filesOutside tree (key :: chain)).length < (filesOutside tree chain).length := by
  obtain ⟨content, hcontent⟩ := Option.isSome_iff_exists.mp hfile
  have hin : (key, content) ∈ tree.files := mem_of_lookup_eq_some hcontent
  have heq : filesOutside tree (key :: chain)
      = (filesOutside tree chain).filter fun file => file.1 != key := by
    unfold filesOutside
    rw [List.filter_filter]
    congr 1
    funext file
    by_cases hfile : file.1 = key <;> simp [hfile]
  rw [heq]
  refine List.length_filter_lt_length_iff_exists.2 ⟨(key, content), ?_, by simp⟩
  simp only [filesOutside, List.mem_filter]
  exact ⟨hin, by simpa using hnew⟩

/-- The fault of an import whose file cannot be read. The reason is that of the file tree, in
words. -/
def unreadable (tree : FileTree) (path : Path) : ImportFault :=
  .unreadable <|
    match tree.read path with
    | .error fault => some fault.message
    | .ok _ => none

/-- The document of a text. Imports and component paths are seen from the folder `base`, and `chain`
holds the files that are being read. -/
def readWithin (tree : FileTree) (chain : List FileKey) (base : Option Path) (text : String) :
    Except SyntaxError Document :=
  let importSpec (path : Path) : Except ImportFault Document :=
    match tree.fileKey? path with
    | none => .error (unreadable tree path)
    | some key =>
      if _hold : chain.contains key then .error .cyclic
      else
        match _hcontent : tree.content? key with
        | some (.text text) =>
          (readWithin tree (key :: chain) path.parent? text).mapError .malformed
        | _ => .error (unreadable tree path)
  ofLines ⟨base, importSpec⟩ (Text.lines text.toList)
termination_by (filesOutside tree chain).length
decreasing_by exact filesOutside_cons_lt (by simpa using _hold) (by simp [_hcontent])

/-- The document of a text that is in no file, so that its chain of imports is empty at the
start. -/
def ofText (tree : FileTree) (base : Option Path) (text : String) : Except SyntaxError Document :=
  readWithin tree [] base text

/-- The document of a spec file. Paths in it are seen from its folder, and its errors name it unless
they come out of an imported file. -/
def ofFile (tree : FileTree) (path : Path) : Except Error Document :=
  match tree.read path with
  | .error .missing => .error (.specNotFound path)
  | .error fault => .error (.file fault)
  | .ok text =>
    match readWithin tree (tree.fileKey? path).toList path.parent? text with
    | .error e => .error (.malformed (e.inFile path))
    | .ok document => .ok document

end LayoutSpec.Document
