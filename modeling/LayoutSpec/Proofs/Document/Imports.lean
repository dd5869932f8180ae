import LayoutSpec.Proofs.Document.Fault
import LayoutSpec.Proofs.Document.Spelling
import Mathlib.Data.List.Perm.Subperm
import Mathlib.Logic.Relation

/-!
Imports and their cycles. The files that are being read at one time are different files, so there
are not more of them than the tree has, and reading ends. What is rejected is an import that leads
back to one of them; a file that is imported again after it was read is not.
-/

namespace LayoutSpec

open Relation Text

namespace FileTree

/-- The text of one file has an import line that leads to another one. Files are known by their
places in the tree, however the paths to them are written. -/
def Imports (tree : FileTree) (key next : FileKey) : Prop :=
  ∃ text path raw rel, tree.content? key = some (.text text) ∧ tree.fileKey? path = some key ∧
    raw ∈ lines text.toList ∧ (LineKind.of raw).importPath? = some rel ∧
    tree.fileKey? (.from? path.parent? rel) = some next

/-- Where an import leads does not depend on how the path to the importing file is written. The
folder of the file is the same for all its spellings. -/
theorem fileKey?_import {tree : FileTree} {path path' : Path} {key : FileKey} {rel : Path}
    (h : tree.fileKey? path = some key) (h' : tree.fileKey? path' = some key)
    (hrel : rel.text ≠ "") :
    tree.fileKey? (.from? path.parent? rel) = tree.fileKey? (.from? path'.parent? rel) := by
  have hfolder := isFolder_parent (fileKey?_eq_some_iff.mp h) rel hrel
  have hfolder' := isFolder_parent (fileKey?_eq_some_iff.mp h') rel hrel
  exact fileKey?_congr (hfolder.trans hfolder'.symm)

end FileTree

namespace Document

variable {tree : FileTree}

/-- A file that is being read: the path that leads to it, its place and its text, and the files
that are being read around it. -/
structure Reading (tree : FileTree) where
  path : Path
  key : FileKey
  above : List FileKey
  text : String
  leads : tree.fileKey? path = some key
  holds : tree.content? key = some (.text text)

namespace Reading

variable {r r' : Reading tree} {before : List (List Char)} {rel : Path}

/-- The files that are being read, the innermost first. -/
def chain (r : Reading tree) : List FileKey :=
  r.key :: r.above

def lines (r : Reading tree) : List (List Char) :=
  Text.lines r.text.toList

def context (r : Reading tree) : ReadContext :=
  ⟨r.path.parent?, importWithin tree r.chain⟩

def result (r : Reading tree) : Except SyntaxError Document :=
  readWithin tree r.chain r.path.parent? r.text

/-- The path that an import line of the file stands for. -/
def target (r : Reading tree) (rel : Path) : Path :=
  .from? r.path.parent? rel

/-- The lines `before` are read, and the next one is an import. -/
def ComesTo (r : Reading tree) (before : List (List Char)) (rel : Path) : Prop :=
  ∃ raw after s, r.lines = before ++ raw :: after ∧
    ReadState.Reads r.context before .initial s ∧ (LineKind.of raw).importPath? = some rel

/-- One reading comes to an import line that starts another one. -/
def Starts (r r' : Reading tree) : Prop :=
  ∃ before rel, r.ComesTo before rel ∧ r'.path = r.target rel ∧ r'.key ∉ r.chain ∧
    r'.above = r.chain

/-- The reading is that of a spec file, or takes place within that one. -/
def IsWithin (path : Path) (r : Reading tree) : Prop :=
  ∃ root : Reading tree, root.path = path ∧ root.above = [] ∧ ReflTransGen Starts root r

theorem result_eq (r : Reading tree) : r.result = ofLines r.context r.lines :=
  readWithin_eq tree r.chain r.path.parent? r.text

/-- The files that a file imports, by its own lines and its own path. -/
theorem imports_iff {next : FileKey} : tree.Imports r.key next ↔
    ∃ raw ∈ r.lines, ∃ rel, (LineKind.of raw).importPath? = some rel ∧
      tree.fileKey? (r.target rel) = some next := by
  constructor
  · rintro ⟨text, path, raw, rel, hcontent, hpath, hraw, hrel, hnext⟩
    obtain rfl : text = r.text := by
      have htext := hcontent.symm.trans r.holds
      simpa using htext
    refine ⟨raw, hraw, rel, hrel, ?_⟩
    rw [← hnext]
    exact FileTree.fileKey?_import r.leads hpath (LineKind.text_ne_empty_of_importPath? hrel)
  · rintro ⟨raw, hraw, rel, hrel, hnext⟩
    exact ⟨r.text, r.path, raw, rel, r.holds, r.leads, hraw, hrel, hnext⟩

theorem ComesTo.imports {next : FileKey} (h : r.ComesTo before rel)
    (hnext : tree.fileKey? (r.target rel) = some next) : tree.Imports r.key next := by
  obtain ⟨raw, after, s, hlines, -, hrel⟩ := h
  refine imports_iff.mpr ⟨raw, ?_, rel, hrel, hnext⟩
  rw [hlines]
  exact List.mem_append_right before List.mem_cons_self

theorem Starts.imports (h : r.Starts r') : tree.Imports r.key r'.key := by
  obtain ⟨before, rel, hcomes, hpath, -, -⟩ := h
  apply hcomes.imports
  rw [← hpath]
  exact r'.leads

theorem Starts.chain_eq (h : r.Starts r') : r'.chain = r'.key :: r.chain := by
  obtain ⟨-, -, -, -, -, habove⟩ := h
  rw [chain, habove]

/-- An import line that starts a reading is read as what this one comes to. -/
theorem Starts.importSpec_eq (h : r.Starts r') :
    r.context.importSpec r'.path = r'.result.mapError .malformed := by
  have hchain := h.chain_eq
  obtain ⟨-, -, -, -, hnew, -⟩ := h
  change importWithin tree r.chain r'.path = _
  rw [importWithin, r'.leads]
  simp only [r'.holds]
  rw [if_neg (by simpa using hnew), result, hchain]

theorem Starts.filesOutside_lt (h : r.Starts r') :
    (filesOutside tree r'.chain).length < (filesOutside tree r.chain).length := by
  rw [h.chain_eq]
  obtain ⟨-, -, -, -, hnew, -⟩ := h
  exact filesOutside_cons_lt (by simpa using hnew) (by simp [r'.holds])

theorem wellFounded_starts : WellFounded fun r' r : Reading tree => r.Starts r' :=
  Subrelation.wf (fun h => h.filesOutside_lt)
    (InvImage.wf (fun r : Reading tree => (filesOutside tree r.chain).length) Nat.lt_wfRel.wf)

/-- What holds of the files that are being read: they are different files of the tree, and each was
imported on the way from the first one to the last. -/
structure Linked (root : FileKey) (r : Reading tree) : Prop where
  nodup : r.chain.Nodup
  held : ∀ key ∈ r.chain, (tree.content? key).isSome = true
  reached : ∀ key ∈ r.chain, ReflTransGen tree.Imports root key
  leading : ∀ key ∈ r.chain, ReflTransGen tree.Imports key r.key

/-- A reading that starts within another one has a file of its own. The files of its chain stay
different from each other, and each of them is imported by the one before. -/
theorem Linked.starts {root : FileKey} (h : r.Linked root) (hstarts : r.Starts r') :
    r'.Linked root := by
  have himports := hstarts.imports
  have hchain := hstarts.chain_eq
  obtain ⟨-, -, -, -, hnew, -⟩ := hstarts
  have hfirst : r.key ∈ r.chain := List.mem_cons_self
  constructor
  · rw [hchain]
    exact List.nodup_cons.mpr ⟨hnew, h.nodup⟩
  all_goals
    intro key hkey
    rw [hchain] at hkey
    obtain rfl | hkey := List.mem_cons.mp hkey
  · simp [r'.holds]
  · exact h.held key hkey
  · exact (h.reached _ hfirst).tail himports
  · exact h.reached key hkey
  · exact .refl
  · exact (h.leading key hkey).tail himports

theorem Linked.length_le {root : FileKey} (h : r.Linked root) :
    r.chain.length ≤ tree.files.length := by
  have hsub : r.chain ⊆ tree.files.map Prod.fst := by
    intro key hkey
    obtain ⟨content, hcontent⟩ := Option.isSome_iff_exists.mp (h.held key hkey)
    exact List.mem_map_of_mem (mem_of_lookup_eq_some hcontent)
  have hle := (h.nodup.subperm hsub).length_le
  rwa [List.length_map] at hle

/-- An import line with a fault stops the reading. Lines behind it are not read any more. -/
theorem ComesTo.result_eq_error {fault : ImportFault} (h : r.ComesTo before rel)
    (hspec : r.context.importSpec (r.target rel) = .error fault) :
    r.result = .error (fault.error (before.length + 1) (r.target rel)) := by
  obtain ⟨raw, after, s, hlines, hreads, hrel⟩ := h
  have hstep : s.step r.context (1 + before.length) raw
      = .error (fault.error (before.length + 1) (r.target rel)) := by
    rw [ReadState.step_of_import hrel, Nat.add_comm]
    change ((r.context.importSpec (r.target rel)).mapError _).map _ = _
    rw [hspec]
    rfl
  rw [result_eq, ofLines, hlines, hreads.run_append, ReadState.run, hstep]

/-- An error comes out of all the readings around it as it is. It keeps its line and the first file
that it was given, and only the innermost reading can give one to it. -/
theorem exists_result_of_reaches {e : SyntaxError} (hway : ReflTransGen Starts r r')
    (h : r'.result = .error e) :
    ∃ found, r.result = .error found ∧ found.inFile r.path = e.inFile r'.path := by
  induction hway using ReflTransGen.head_induction_on with
  | refl => exact ⟨e, h, rfl⟩
  | @head r inner hstarts _ ih =>
      obtain ⟨found, hfound, hplace⟩ := ih
      have hread := hstarts.importSpec_eq
      obtain ⟨before, rel, hcomes, hpath, -, -⟩ := hstarts
      rw [hfound, hpath] at hread
      refine ⟨_, hcomes.result_eq_error hread, ?_⟩
      rw [← hplace, hpath]
      exact SyntaxError.inFile_inFile _ _ found

end Reading

variable {path : Path}

/-- Reading a spec file is the reading around which there is no other one. Its errors get the path
of the file, unless they have one. -/
theorem ofFile_eq_of_root {root : Reading tree} (h : root.above = []) :
    ofFile tree root.path
      = root.result.mapError fun e => .malformed (e.inFile root.path) := by
  have hread := FileTree.read_of_fileKey root.leads root.holds
  have hchain : (tree.fileKey? root.path).toList = root.chain := by
    rw [root.leads, Reading.chain, h]
    rfl
  rw [ofFile, hread]
  dsimp only
  rw [hchain]
  change _ = (readWithin tree root.chain root.path.parent? root.text).mapError _
  cases readWithin tree root.chain root.path.parent? root.text <;> rfl

theorem exists_root_of_read {text : String} (h : tree.read path = .ok text) :
    ∃ root : Reading tree, root.path = path ∧ root.above = [] := by
  obtain ⟨key, hresolve, hcontent⟩ := FileTree.of_read_eq_ok h
  have hkey := FileTree.fileKey?_eq_some_iff.mpr hresolve
  exact ⟨⟨path, key, [], text, hkey, hcontent⟩, rfl, rfl⟩

theorem exists_root_of_ofFile_eq_malformed {e : SyntaxError}
    (h : ofFile tree path = .error (.malformed e)) :
    ∃ (root : Reading tree) (found : SyntaxError), root.path = path ∧ root.above = [] ∧
      root.result = .error found ∧ e = found.inFile path := by
  cases hread : tree.read path with
  | error fault => cases fault <;> simp [ofFile, hread] at h
  | ok text =>
      obtain ⟨root, rfl, habove⟩ := exists_root_of_read hread
      rw [ofFile_eq_of_root habove] at h
      cases hresult : root.result with
      | ok d =>
          rw [hresult] at h
          cases h
      | error found =>
          rw [hresult] at h
          exact ⟨root, found, rfl, habove, hresult, (Error.malformed.inj (Except.error.inj h)).symm⟩

/-- A file that imports itself by its absolute path. -/
def knotTree : FileTree where
  files := [(["cwd", "knot.spec"], .text "# a knot\n@@ import /cwd/knot.spec\n")]
  home := ["cwd"]

example : ofFile knotTree ⟨"../cwd/knot.spec"⟩ = .error (.malformed
    ⟨.cyclicImport ⟨"/cwd/knot.spec"⟩, 2, some ⟨"../cwd/knot.spec"⟩, none⟩) := by
  have hread : knotTree.read ⟨"../cwd/knot.spec"⟩
      = .ok "# a knot\n@@ import /cwd/knot.spec\n" := by decide +kernel
  have hkey : knotTree.fileKey? ⟨"../cwd/knot.spec"⟩ = some ["cwd", "knot.spec"] := by
    decide +kernel
  rw [ofFile, hread, hkey]
  simp only [readWithin_eq]
  decide +kernel

end Document

end LayoutSpec
