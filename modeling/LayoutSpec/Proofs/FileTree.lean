import LayoutSpec.FileTree
import LayoutSpec.Proofs.Text.Cutting
import Mathlib.Logic.Function.Basic

/-!
Where paths lead. The folder that a path to a file is cut down to is the folder of the file, however
the path is written, so that what is seen from there does not depend on the spelling.
-/

namespace LayoutSpec

open Text

namespace Path

variable {p : Path} {piece : List Char}

theorem slash_not_mem_pieces (h : piece ∈ p.pieces) : '/' ∉ piece := by
  intro hslash
  rw [pieces, List.splitOn_eq_splitOnP] at h
  have hpiece := (of_mem_splitOnP h '/' hslash).1
  simp at hpiece

/-- Pieces between slashes are the pieces of their path. -/
theorem pieces_intercalate {parts : List (List Char)} (hne : parts ≠ [])
    (h : ∀ part ∈ parts, '/' ∉ part) :
    pieces ⟨String.ofList (['/'].intercalate parts)⟩ = parts := by
  rw [pieces, String.toList_ofList]
  exact List.splitOn_intercalate '/' h hne

theorem intercalate_pieces (p : Path) : ['/'].intercalate p.pieces = p.text.toList :=
  List.intercalate_splitOn '/'

theorem exists_pieces (p : Path) : ∃ first rest, p.pieces = first :: rest := by
  have hne : p.pieces ≠ [] := List.splitOn_ne_nil '/' p.text.toList
  obtain ⟨first, rest, hpieces⟩ := List.exists_cons_of_ne_nil hne
  exact ⟨first, rest, hpieces⟩

theorem text_ne_empty (h : p.pieces ≠ [[]]) : p.text ≠ "" := by
  intro htext
  rw [pieces, htext] at h
  exact h rfl

/-- A path with a text is absolute if its first piece is empty. -/
theorem isAbsolute_eq {first : List Char} {rest : List (List Char)}
    (hpieces : p.pieces = first :: rest) (htext : p.text ≠ "") : p.isAbsolute = first.isEmpty := by
  have hspelled : p.text.toList = first ++ rest.flatMap fun part => ['/'] ++ part := by
    rw [← intercalate_pieces, hpieces, intercalate_cons_eq]
  cases first with
  | nil =>
      cases rest with
      | nil => exact absurd (String.toList_eq_nil_iff.mp hspelled) htext
      | cons part rest => simp [isAbsolute, hspelled]
  | cons c cs =>
      have hslash : '/' ∉ c :: cs := slash_not_mem_pieces (p := p) (by simp [hpieces])
      rw [isAbsolute, hspelled]
      simp only [List.cons_append, List.head?_cons, Option.some.injEq, List.isEmpty_cons,
        decide_eq_false_iff_not]
      rintro rfl
      exact hslash List.mem_cons_self

theorem isAbsolute_join {base rel : Path} (hrel : rel.isAbsolute = false) (hbase : base.text ≠ "") :
    (base.join rel).isAbsolute = base.isAbsolute := by
  obtain ⟨c, cs, hcs⟩ := List.exists_cons_of_ne_nil (mt String.toList_eq_nil_iff.mp hbase)
  rw [join, if_neg (by simp [hrel, hbase])]
  split <;> simp [isAbsolute, String.toList_append, hcs]

/-- The pieces of a path stand behind those of the folder it is seen from, or in the place of an
empty piece at the end of these. -/
theorem exists_pieces_join {base rel : Path} (hrel : rel.isAbsolute = false)
    (hbase : base.text ≠ "") :
    ∃ first init idle, base.pieces = first :: init ++ idle ∧
      (∀ part ∈ idle, isStep part = false)
      ∧ (base.join rel).pieces = first :: init ++ rel.pieces := by
  by_cases hlast : base.text.toList.getLast? = some '/'
  · obtain ⟨front, hfront⟩ := List.getLast?_eq_some_iff.mp hlast
    obtain ⟨first, init, hinit⟩ := exists_pieces ⟨String.ofList front⟩
    rw [pieces, String.toList_ofList] at hinit
    refine ⟨first, init, [[]], ?_, by simp [isStep], ?_⟩
    · rw [pieces, hfront, List.splitOn_append_cons_self, List.splitOn_nil, hinit]
    · rw [join, if_neg (by simp [hrel, hbase]), if_pos hlast, pieces, String.toList_append, hfront,
        List.append_assoc, List.singleton_append, List.splitOn_append_cons_self, hinit]
      rfl
  · obtain ⟨first, init, hinit⟩ := exists_pieces base
    refine ⟨first, init, [], by rw [hinit, List.append_nil], by simp, ?_⟩
    rw [← hinit, join, if_neg (by simp [hrel, hbase]), if_neg hlast, pieces, String.toList_append,
      String.toList_append, List.append_assoc]
    exact List.splitOn_append_cons_self ..

/-- Only pieces that lead nowhere are dropped, and none behind the last step. So what is cut off is
the file itself and the slashes around it. -/
theorem exists_dropIdle (parts : List (List Char)) :
    ∃ idle, parts = dropIdle parts ++ idle ∧ (∀ part ∈ idle, isStep part = false) ∧
      ∀ part ∈ (dropIdle parts).getLast?, isStep part = true := by
  refine ⟨(parts.reverse.takeWhile (!isStep ·)).reverse, ?_, ?_, ?_⟩
  · rw [dropIdle, ← List.reverse_append, List.takeWhile_append_dropWhile, List.reverse_reverse]
  · intro part hpart
    have hidle := List.mem_takeWhile_imp (List.mem_reverse.mp hpart)
    simpa using hidle
  · intro part hpart
    rw [dropIdle, List.getLast?_reverse] at hpart
    simpa using head?_dropWhile_false part hpart

theorem dropIdle_append_step {parts : List (List Char)} {part : List Char}
    (h : isStep part = true) : dropIdle (parts ++ [part]) = parts ++ [part] := by
  rw [dropIdle, List.reverse_append, List.reverse_singleton, List.singleton_append,
    List.dropWhile_cons_of_neg (by simp [h]), List.reverse_cons, List.reverse_reverse]

section Parent

variable {first name : List Char} {init : List (List Char)}

theorem parent?_of_name (hpieces : p.pieces = [name]) (hname : isStep name = true) :
    p.parent? = some ⟨""⟩ := by
  have hne : name ≠ [] := by
    rintro rfl
    cases hname
  rw [parent?, hpieces]
  simp [dropIdle, hne]

theorem parent?_of_pieces (hpieces : p.pieces = first :: init ++ [name])
    (hname : isStep name = true) :
    p.parent? = some (if first = [] ∧ dropIdle init = [] then ⟨"/"⟩
      else ⟨String.ofList (['/'].intercalate (first :: dropIdle init))⟩) := by
  rw [parent?, hpieces]
  simp only [List.cons_append, dropIdle_append_step hname]
  obtain ⟨part, parts, hsteps⟩ := List.exists_cons_of_ne_nil
    (List.append_ne_nil_of_right_ne_nil init (List.cons_ne_nil name []))
  have hinit : (part :: parts).dropLast = init := by
    rw [← hsteps, List.dropLast_concat]
  rw [hsteps]
  simp only [hinit]
  cases dropIdle init with
  | nil => cases first <;> simp
  | cons part parts => simp

/-- The parent of a path with a name at its end takes the steps before the name, from where the path
starts. An idle piece is left behind them in the parent that is the root. -/
theorem exists_parent (hpieces : p.pieces = first :: init ++ [name]) (hname : isStep name = true) :
    ∃ parent last, p.parent? = some parent ∧ parent.text ≠ "" ∧
      parent.isAbsolute = p.isAbsolute ∧ parent.pieces = first :: dropIdle init ++ last ∧
      ∀ part ∈ last, isStep part = false := by
  have habsolute : p.isAbsolute = first.isEmpty :=
    isAbsolute_eq hpieces (text_ne_empty (by simp [hpieces]))
  rw [parent?_of_pieces hpieces hname]
  split
  · next hroot =>
      obtain ⟨rfl, hkept⟩ := hroot
      refine ⟨⟨"/"⟩, [[]], rfl, by decide, habsolute.symm, ?_, by simp [isStep]⟩
      rw [hkept]
      decide
  · next hroot =>
      obtain ⟨idle, hinit, -, -⟩ := exists_dropIdle init
      have hslash : ∀ part ∈ first :: dropIdle init, '/' ∉ part := by
        intro part hpart
        apply slash_not_mem_pieces (p := p)
        rw [hpieces, hinit]
        rcases List.mem_cons.mp hpart with rfl | hpart
        · simp
        · simp [hpart]
      have hspelled := pieces_intercalate (List.cons_ne_nil _ _) hslash
      have htext := text_ne_empty (by rw [hspelled]; simpa using hroot)
      refine ⟨_, [], rfl, htext, ?_, by rw [hspelled, List.append_nil], by simp⟩
      rw [habsolute, isAbsolute_eq hspelled htext]

end Parent

end Path

namespace FileTree

variable {tree : FileTree} {path : Path} {key : FileKey}

/-- The place to which pieces lead from another one. -/
def walk (tree : FileTree) (place : Place) (parts : List (List Char)) : Except FileFault Place :=
  parts.foldlM tree.step place

theorem walk_append {place middle : Place} {first : List (List Char)} (rest : List (List Char))
    (h : tree.walk place first = .ok middle) :
    tree.walk place (first ++ rest) = tree.walk middle rest := by
  rw [walk, List.foldlM_append]
  change (tree.walk place first >>= _) = _
  rw [h]
  rfl

theorem of_walk_append {place last : Place} {first rest : List (List Char)}
    (h : tree.walk place (first ++ rest) = .ok last) :
    ∃ middle, tree.walk place first = .ok middle ∧ tree.walk middle rest = .ok last := by
  cases hfirst : tree.walk place first with
  | error fault =>
      rw [walk, List.foldlM_append] at h
      change (tree.walk place first >>= _) = _ at h
      rw [hfirst] at h
      cases h
  | ok middle => exact ⟨middle, rfl, (walk_append rest hfirst).symm.trans h⟩

theorem walk_singleton (place : Place) (part : List Char) :
    tree.walk place [part] = tree.step place part := by
  rw [walk, List.foldlM_cons]
  exact bind_pure _

theorem of_walk_cons {place last : Place} {part : List Char} {rest : List (List Char)}
    (h : tree.walk place (part :: rest) = .ok last) :
    ∃ middle, tree.step place part = .ok middle ∧ tree.walk middle rest = .ok last := by
  obtain ⟨middle, hmiddle, hlast⟩ := @of_walk_append tree place last [part] rest h
  exact ⟨middle, (walk_singleton place part).symm.trans hmiddle, hlast⟩

theorem step_folder_idle {piece : List Char} (h : Path.isStep piece = false) :
    tree.step (.folder key) piece = .ok (.folder key) := by
  have hpiece : piece = [] ∨ piece = ['.'] := by
    rw [Path.isStep, Bool.and_eq_false_iff] at h
    simpa using h
  exact if_pos (by simpa using hpiece)

/-- A step to a file is taken in its folder, by its name. Steps up and steps that stay never lead to
a file. -/
theorem of_step_file {folder : FileKey} {piece : List Char}
    (h : tree.step (.folder folder) piece = .ok (.file key)) :
    Path.isStep piece = true ∧ key = folder ++ [String.ofList piece] ∧
      (tree.content? key).isSome = true := by
  simp only [step] at h
  split at h
  · cases h
  · next hidle =>
      split at h
      · cases h
      · split at h
        · next hcontent =>
            obtain rfl := Place.file.inj (Except.ok.inj h)
            exact ⟨by simpa [Path.isStep] using hidle, rfl, hcontent⟩
        · split at h <;> cases h

/-- Pieces that are no steps lead nowhere. -/
theorem walk_idle {parts : List (List Char)} {place last : Place}
    (hidle : ∀ part ∈ parts, Path.isStep part = false) (h : tree.walk place parts = .ok last) :
    last = place := by
  induction parts generalizing place with
  | nil => exact (Except.ok.inj h).symm
  | cons part parts ih =>
      obtain ⟨middle, hmiddle, hlast⟩ := of_walk_cons h
      have hpart := hidle part List.mem_cons_self
      have hstay : middle = place := by
        cases place with
        | file key => cases hmiddle
        | folder key =>
            rw [step_folder_idle hpart] at hmiddle
            exact (Except.ok.inj hmiddle).symm
      rw [hstay] at hlast
      exact ih (fun part hpart => hidle part (List.mem_cons_of_mem _ hpart)) hlast

theorem walk_folder_idle {parts : List (List Char)}
    (hidle : ∀ part ∈ parts, Path.isStep part = false) (key : FileKey) :
    tree.walk (.folder key) parts = .ok (.folder key) := by
  induction parts with
  | nil => rfl
  | cons part parts ih =>
      have hpart : tree.step (.folder key) part = .ok (.folder key) :=
        step_folder_idle (hidle part List.mem_cons_self)
      rw [← walk_singleton] at hpart
      rw [← List.singleton_append, walk_append parts hpart]
      exact ih fun part hpart => hidle part (List.mem_cons_of_mem _ hpart)

/-- The last step to a file is its name, and the steps before it lead to its folder. Behind it there
can be nothing, as a file has no places within it. -/
theorem exists_name {folder : FileKey} {parts : List (List Char)}
    (h : tree.walk (.folder folder) parts = .ok (.file key)) :
    ∃ init name, parts = init ++ [name] ∧ Path.isStep name = true ∧
      tree.walk (.folder folder) init = .ok (.folder key.dropLast) ∧
      (tree.content? key).isSome = true := by
  rcases List.eq_nil_or_concat parts with rfl | ⟨init, name, rfl⟩
  · cases h
  · rw [List.concat_eq_append] at h
    obtain ⟨middle, hmiddle, hlast⟩ := of_walk_append h
    rw [walk_singleton] at hlast
    cases middle with
    | file key => cases hlast
    | folder parent =>
        obtain ⟨hname, rfl, hcontent⟩ := of_step_file hlast
        refine ⟨init, name, List.concat_eq_append, hname, ?_, hcontent⟩
        rw [List.dropLast_concat]
        exact hmiddle

theorem start_congr {other : Path} (h : path.isAbsolute = other.isAbsolute) :
    tree.start path = tree.start other := by
  rw [start, start, h]

theorem resolve_eq_walk (htext : path.text ≠ "") :
    tree.resolve path = tree.walk (.folder (tree.start path)) path.pieces :=
  if_neg (by simpa using htext)

theorem text_ne_empty_of_resolve {place : Place} (h : tree.resolve path = .ok place) :
    path.text ≠ "" := by
  intro htext
  rw [resolve, htext] at h
  cases h

/-- What leads to a file leads to its content. There are no files without content in a tree. -/
theorem exists_content_of_resolve (h : tree.resolve path = .ok (.file key)) :
    ∃ content, tree.content? key = some content := by
  rw [resolve_eq_walk (text_ne_empty_of_resolve h)] at h
  obtain ⟨-, -, -, -, -, hcontent⟩ := exists_name h
  exact Option.isSome_iff_exists.mp hcontent

/-- Relative paths that are seen from `base` are resolved in the folder with the key. -/
def IsFolder (tree : FileTree) (base : Option Path) (key : FileKey) : Prop :=
  ∀ rel : Path, rel.text ≠ "" → tree.resolve (.from? base rel) =
    if rel.isAbsolute then tree.resolve rel else tree.walk (.folder key) rel.pieces

theorem isFolder_of_walk {base : Path} (htext : base.text ≠ "")
    (h : tree.walk (.folder (tree.start base)) base.pieces = .ok (.folder key)) :
    tree.IsFolder (some base) key := by
  intro rel hrel
  cases habsolute : rel.isAbsolute with
  | true => rw [if_pos rfl, Path.from?, Path.join, if_pos (by simp [habsolute])]
  | false =>
      have hjoin : (base.join rel).text ≠ "" := by
        rw [Path.join, if_neg (by simp [habsolute, htext])]
        split <;> simp [htext, hrel]
      obtain ⟨first, init, idle, hpieces, hidle, hseen⟩ := Path.exists_pieces_join habsolute htext
      rw [hpieces] at h
      obtain ⟨middle, hmiddle, hlast⟩ := of_walk_append h
      obtain rfl := walk_idle hidle hlast
      rw [if_neg (by simp), Path.from?, resolve_eq_walk hjoin, start,
        Path.isAbsolute_join habsolute htext, hseen]
      exact walk_append _ hmiddle

theorem isFolder_home : tree.IsFolder (some ⟨""⟩) tree.home := by
  intro rel hrel
  rw [Path.from?, Path.join, if_pos (by simp)]
  cases habsolute : rel.isAbsolute with
  | true => rw [if_pos rfl]
  | false => rw [if_neg (by simp), resolve_eq_walk hrel, start, habsolute, if_neg (by simp)]

/-- A path to a file is cut down to the folder of the file, however it is written. This is what
makes relative paths within the file independent of the way by which it was reached. -/
theorem isFolder_parent (h : tree.resolve path = .ok (.file key)) :
    tree.IsFolder path.parent? key.dropLast := by
  have htext := text_ne_empty_of_resolve h
  rw [resolve_eq_walk htext] at h
  obtain ⟨init, name, hpieces, hname, hinit, -⟩ := exists_name h
  cases init with
  | nil =>
      have hne : name ≠ [] := by
        rintro rfl
        cases hname
      have hhome : key.dropLast = tree.home := by
        rw [start, Path.isAbsolute_eq hpieces htext, List.isEmpty_eq_false_iff.mpr hne] at hinit
        exact (Place.folder.inj (Except.ok.inj hinit)).symm
      rw [Path.parent?_of_name hpieces hname, hhome]
      exact isFolder_home
  | cons first init =>
      obtain ⟨parent, last, hparent, hparentText, hsame, hspelled, hlast⟩ :=
        Path.exists_parent hpieces hname
      obtain ⟨idle, hkept, hidle, -⟩ := Path.exists_dropIdle init
      rw [hparent]
      apply isFolder_of_walk hparentText
      -- The idle pieces that are dropped before the name stay in the folder.
      rw [hkept, ← List.cons_append] at hinit
      obtain ⟨middle, hmiddle, hstay⟩ := of_walk_append hinit
      obtain rfl := walk_idle hidle hstay
      rw [start_congr hsame, hspelled, walk_append last hmiddle]
      exact walk_folder_idle hlast _

theorem fileKey?_eq_some_iff :
    tree.fileKey? path = some key ↔ tree.resolve path = .ok (.file key) := by
  unfold fileKey?
  constructor
  · intro h
    split at h
    · next found hfound => rw [hfound, Option.some.inj h]
    · cases h
  · intro h
    rw [h]

theorem fileKey?_congr {other : Path} (h : tree.resolve path = tree.resolve other) :
    tree.fileKey? path = tree.fileKey? other := by
  rw [fileKey?, fileKey?, h]

theorem read_congr {other : Path} (h : tree.resolve path = tree.resolve other) :
    tree.read path = tree.read other := by
  rw [read, read, h]

/-- A file that can be read is in the tree, and its path is resolved to it. A path to a folder, or
through a file, is refused. -/
theorem of_read_eq_ok {text : String} (h : tree.read path = .ok text) :
    ∃ key, tree.resolve path = .ok (.file key) ∧ tree.content? key = some (.text text) := by
  cases hplace : tree.resolve path with
  | error fault => simp [read, hplace, bind, Except.bind] at h
  | ok place =>
      simp only [read, hplace, bind, Except.bind] at h
      cases place with
      | folder key => cases h
      | file key =>
          refine ⟨key, rfl, ?_⟩
          simp only at h
          split at h
          · next value hcontent => rw [hcontent, Except.ok.inj h]
          · cases h
          · cases h

theorem read_of_fileKey {text : String} (hkey : tree.fileKey? path = some key)
    (hcontent : tree.content? key = some (.text text)) : tree.read path = .ok text := by
  simp only [read, fileKey?_eq_some_iff.mp hkey, bind, Except.bind, hcontent]

/-- One of the paths that lead where a path leads, the same for all of them. -/
noncomputable def canonical (tree : FileTree) (path : Path) : Path :=
  Function.invFun tree.resolve (tree.resolve path)

theorem resolve_canonical (tree : FileTree) (path : Path) :
    tree.resolve (tree.canonical path) = tree.resolve path :=
  Function.invFun_eq ⟨path, rfl⟩

theorem canonical_congr {other : Path} (h : tree.resolve path = tree.resolve other) :
    tree.canonical path = tree.canonical other := by
  rw [canonical, canonical, h]

end FileTree

end LayoutSpec
