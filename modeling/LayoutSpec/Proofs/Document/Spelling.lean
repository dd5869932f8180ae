import LayoutSpec.Proofs.Document.Run
import LayoutSpec.Proofs.Document.Step
import LayoutSpec.Proofs.FileTree

/-!
Reading and the spelling of paths. The reader never looks at the paths of components, so that a
change of them can be made before or behind each of its steps. Two texts of the same lines are
read alike if their paths lead to the same places.
-/

namespace LayoutSpec

open Text

def Group.mapPaths (f : Path → Path) (g : Group) : Group :=
  g.mapConstraints (·.mapPaths f)

def Statement.mapPaths (f : Path → Path) (st : Statement) : Statement :=
  { st with groups := st.groups.map (·.mapPaths f) }

def ConditionalBlock.mapPaths (f : Path → Path) (b : ConditionalBlock) : ConditionalBlock :=
  b.mapGroups (·.mapPaths f)

def Section.mapPaths (f : Path → Path) (sec : Section) : Section :=
  sec.mapGroups (·.mapPaths f)

theorem Constraint.withParameter_mapPaths (f : Path → Path) (value : String) (c : Constraint) :
    (c.mapPaths f).withParameter value = (c.withParameter value).mapPaths f := by
  cases c <;> rfl

theorem Document.mapPaths_merge (f : Path → Path) (d other : Document) :
    (d.merge other).mapPaths f = (d.mapPaths f).merge (other.mapPaths f) := by
  simp only [merge, mapPaths, List.map_append]

theorem Section.isEmpty_mapGroups (g : Group → Group) (sec : Section) :
    (sec.mapGroups g).isEmpty = sec.isEmpty := by
  simp only [isEmpty, mapGroups, List.isEmpty_map]

theorem Document.mapPaths_prune (f : Path → Path) (d : Document) :
    d.prune.mapPaths f = (d.mapPaths f).prune := by
  simp only [prune, mapPaths, List.filter_map]
  congr 2
  refine List.filter_congr fun sec _ => ?_
  exact congrArg (!·) (Section.isEmpty_mapGroups _ sec).symm

namespace ReadState

variable {f : Path → Path} {s t : ReadState} {number : Nat}

def mapPaths (f : Path → Path) (s : ReadState) : ReadState :=
  { s with
    document := s.document.mapPaths f
    block := s.block.map (·.mapPaths f) }

theorem modify_map {α β : Type} {g : α → β} {h : α → α} {k : β → β}
    (hk : ∀ a, k (g a) = g (h a)) (xs : List α) (i : Nat) :
    (xs.map g).modify i k = (xs.modify i h).map g := by
  induction xs generalizing i with
  | nil => simp
  | cons x xs ih =>
      cases i with
      | zero => simp [hk]
      | succ i => simp [ih]

/-- The state with a function of each group in its place. -/
def mapGroups (g : Group → Group) (s : ReadState) : ReadState :=
  { s with
    document := { s.document with sections := s.document.sections.map (·.mapGroups g) }
    block := s.block.map (·.mapGroups g) }

variable {g : Group → Group}

theorem modifySection_mapGroups {h k : Section → Section}
    (hk : ∀ sec, k (sec.mapGroups g) = (h sec).mapGroups g) (s : ReadState) :
    (s.mapGroups g).modifySection k = (s.modifySection h).mapGroups g := by
  have hsections : ((s.document.sections.map (Section.mapGroups g)).modify s.current k)
      = (s.document.sections.modify s.current h).map (Section.mapGroups g) :=
    modify_map hk _ _
  change { s.mapGroups g with document := { s.document with
    sections := (s.document.sections.map (Section.mapGroups g)).modify s.current k } } = _
  rw [hsections]
  rfl

theorem groups?_mapGroups (s : ReadState) :
    (s.mapGroups g).groups? = s.groups?.map (List.map g) := by
  obtain ⟨document, mode, current, block, openGroups, pending⟩ := s
  cases mode with
  | start | groups =>
      change ((document.sections.map (Section.mapGroups g))[current]?).map _ = _
      rw [List.getElem?_map, Option.map_map]
      change _ = ((document.sections[current]?).map _).map _
      rw [Option.map_map]
      rfl
  | objects => rfl
  | statement =>
      cases block with
      | none => rfl
      | some b =>
          change ((b.statements.map fun st => { st with groups := st.groups.map g }).getLast?).map
              (·.groups) = ((b.statements.getLast?).map (·.groups)).map _
          rw [List.getLast?_map, Option.map_map, Option.map_map]
          rfl
  | body => cases block <;> rfl
  | otherwise =>
      cases block with
      | none => rfl
      | some b => rfl

theorem setGroups_mapGroups (gs : List Group) (s : ReadState) :
    (s.mapGroups g).setGroups (gs.map g) = (s.setGroups gs).mapGroups g := by
  obtain ⟨document, mode, current, block, openGroups, pending⟩ := s
  cases mode with
  | start | groups =>
      exact modifySection_mapGroups (h := fun sec => { sec with groups := gs }) (fun sec => rfl) _
  | objects => rfl
  | statement =>
      cases block with
      | none => rfl
      | some b =>
          have hstatements : (b.statements.map fun st =>
                { st with groups := st.groups.map g }).modify (b.statements.length - 1)
                (fun st => { st with groups := gs.map g })
              = (b.statements.modify (b.statements.length - 1) fun st =>
                { st with groups := gs }).map fun st => { st with groups := st.groups.map g } := by
            refine modify_map (fun st => ?_) _ _
            rfl
          simp only [setGroups, mapGroups, Option.map_some, ConditionalBlock.mapGroups,
            List.length_map]
          congr 3
  | body => cases block <;> rfl
  | otherwise => cases block <;> rfl

theorem modifySection_mapPaths {g h : Section → Section}
    (hgh : ∀ sec, h (sec.mapPaths f) = (g sec).mapPaths f) (s : ReadState) :
    (s.mapPaths f).modifySection h = (s.modifySection g).mapPaths f :=
  modifySection_mapGroups hgh s

theorem groups?_mapPaths (s : ReadState) :
    (s.mapPaths f).groups? = s.groups?.map (List.map (Group.mapPaths f)) :=
  groups?_mapGroups s

theorem setGroups_mapPaths (gs : List Group) (s : ReadState) :
    (s.mapPaths f).setGroups (gs.map (Group.mapPaths f)) = (s.setGroups gs).mapPaths f :=
  setGroups_mapGroups gs s

theorem openSection_mapPaths (tags : List Char) (s : ReadState) :
    (s.mapPaths f).openSection number tags = (s.openSection number tags).map (mapPaths f) := by
  simp only [openSection, checkNoPending]
  change (if s.mode.inBlock = true then _ else _ : Except SyntaxError ReadState) = _
  split
  · rfl
  · change ((if s.pending.isSome = true then _ else _ : Except SyntaxError Unit) >>= _) = _
    split
    · rfl
    · simp only [bind, Except.bind, Except.map, pure, Except.pure, mapPaths, Document.mapPaths,
        List.map_append, List.length_map]
      rfl

theorem toggleObjects_mapPaths (s : ReadState) :
    (s.mapPaths f).toggleObjects number = (s.toggleObjects number).map (mapPaths f) := by
  simp only [toggleObjects]
  change (if s.mode.inBlock = true then _
    else if s.mode = .objects then _ else _ : Except SyntaxError ReadState) = _
  split
  · rfl
  · split
    · exact openSection_mapPaths [] s
    · rfl

theorem defineObject_mapPaths (line : List Char) (s : ReadState) :
    (s.mapPaths f).defineObject number line = (s.defineObject number line).map (mapPaths f) := by
  simp only [defineObject]
  split
  · rfl
  · split
    · rfl
    · next name text _ _ =>
        cases Locator.parse text with
        | error cause => rfl
        | ok l => rfl

/-- Groups that are just opened hold no constraints. -/
theorem openedGroups_mapPaths (pattern : String) (values : List String) :
    (openedGroups pattern values).map (Group.mapPaths f) = openedGroups pattern values := by
  rw [openedGroups]
  split
  · rfl
  · rw [List.map_map]
    rfl

theorem openGroup_mapPaths (line : List Char) (s : ReadState) :
    (s.mapPaths f).openGroup number line = (s.openGroup number line).map (mapPaths f) := by
  simp only [openGroup, groups?_mapPaths]
  split
  · rfl
  · cases s.groups? with
    | none => rfl
    | some gs =>
        have hset : (s.mapPaths f).setGroups (gs.map (Group.mapPaths f)
              ++ openedGroups (String.ofList (groupPattern line)) (s.pending.getD []))
            = (s.setGroups (gs ++ openedGroups (String.ofList (groupPattern line))
                (s.pending.getD []))).mapPaths f := by
          rw [← setGroups_mapPaths, List.map_append, openedGroups_mapPaths]
        have hpending : (s.mapPaths f).pending = s.pending := rfl
        simp only [openedGroups] at hset
        simp only [Option.map_some, hpending, hset, List.length_map]
        rfl

theorem applyKeyword_mapPaths (keyword : BlockKeyword) (s : ReadState) :
    (s.mapPaths f).applyKeyword number keyword
      = (s.applyKeyword number keyword).map (mapPaths f) := by
  obtain ⟨document, mode, current, block, openGroups, pending⟩ := s
  cases keyword with
  | statement chained inverted =>
      cases chained with
      | false => cases mode <;> rfl
      | true =>
          cases mode with
          | statement =>
              cases block with
              | none => rfl
              | some b =>
                  simp only [applyKeyword, mapPaths, Option.map_some, ConditionalBlock.mapPaths,
                    ConditionalBlock.mapGroups, Except.map, List.map_append]
                  rfl
          | _ => rfl
  | body => cases mode <;> rfl
  | otherwise =>
      cases mode with
      | body => cases block <;> rfl
      | _ => rfl
  | close =>
      cases mode with
      | body | otherwise =>
          cases block with
          | none => rfl
          | some b =>
              have hclosed := modifySection_mapPaths (f := f)
                (g := fun sec => { sec with blocks := sec.blocks ++ [b] })
                (h := fun sec => { sec with blocks := sec.blocks ++ [b.mapPaths f] })
                (fun sec => by simp [Section.mapPaths, Section.mapGroups,
                  ConditionalBlock.mapPaths])
              exact congrArg (fun s : ReadState =>
                (Except.ok { s with block := none, mode := .groups, openGroups := none } :
                  Except SyntaxError ReadState)) (hclosed _)
      | _ => rfl

theorem finish_mapPaths (s : ReadState) :
    (s.mapPaths f).finish number = (s.finish number).map (Document.mapPaths f) := by
  obtain ⟨document, mode, current, block, openGroups, pending⟩ := s
  cases mode with
  | start | objects | groups =>
      cases pending with
      | none => exact congrArg Except.ok (Document.mapPaths_prune f document).symm
      | some values => rfl
  | _ => rfl

end ReadState

section Alike

variable {ε α β γ δ : Type} {g : α → β} {h : γ → δ} {x y : Except ε α}

/-- Neither outcome is there, or both are and `g` does not tell them apart. -/
def AlikeBy (g : α → β) (x y : Except ε α) : Prop :=
  x.toOption.map g = y.toOption.map g

theorem AlikeBy.of_map_eq (hxy : x.map g = y.map g) : AlikeBy g x y := by
  cases x with
  | error e =>
      cases y with
      | error e' => rfl
      | ok b => cases hxy
  | ok a =>
      cases y with
      | error e => cases hxy
      | ok b => exact congrArg some (Except.ok.inj hxy)

/-- The two ways in which outcomes can be alike. -/
theorem AlikeBy.error_or_ok (hxy : AlikeBy g x y) :
    (∃ e e', x = .error e ∧ y = .error e') ∨ ∃ a b, x = .ok a ∧ y = .ok b ∧ g a = g b := by
  cases x with
  | error e =>
      cases y with
      | error e' => exact .inl ⟨e, e', rfl, rfl⟩
      | ok b => cases hxy
  | ok a =>
      cases y with
      | error e => cases hxy
      | ok b => exact .inr ⟨a, b, rfl, rfl, Option.some.inj hxy⟩

theorem AlikeBy.bind {u v : α → Except ε γ} (hxy : AlikeBy g x y)
    (huv : ∀ a b, g a = g b → AlikeBy h (u a) (v b)) : AlikeBy h (x >>= u) (y >>= v) := by
  obtain ⟨e, e', rfl, rfl⟩ | ⟨a, b, rfl, rfl, hab⟩ := hxy.error_or_ok
  · rfl
  · exact huv a b hab

theorem AlikeBy.mapError {ε' : Type} (e e' : ε → ε') (hxy : AlikeBy g x y) :
    AlikeBy g (x.mapError e) (y.mapError e') := by
  cases x <;> cases y <;> exact hxy

end Alike

namespace Constraint

variable {f : Path → Path} {base other : Option Path}

theorem mapPaths_eq_self {c : Constraint} (h : ∀ spec, c ≠ component spec) : c.mapPaths f = c := by
  cases c with
  | component spec => exact absurd rfl (h spec)
  | _ => rfl

theorem readerOf?_eq (base other : Option Path) {words : List String} (h : words ≠ ["component"]) :
    readerOf? base words = readerOf? other words := by
  unfold readerOf?
  split <;> first | rfl | exact absurd rfl h

/-- A constraint says the same wherever it is seen from, but for the path of a component. The
function `f` takes the paths to what does not tell the two folders apart. -/
theorem parse_map_mapPaths
    (hbase : ∀ rel : Path, rel.text ≠ "" → f (.from? base rel) = f (.from? other rel))
    (line : List Char) :
    (parse base line).map (mapPaths f) = (parse other line).map (mapPaths f) := by
  simp only [parse]
  generalize (cutAt (· = ':') (trim line)).getD (trim line, []) = parts
  obtain ⟨head, parameters⟩ := parts
  simp only
  by_cases hwords : (words head).map String.ofList = ["component"]
  · rw [hwords]
    have hreader : ∀ base : Option Path,
        readerOf? base ["component"] = some (readComponent base) := fun _ => rfl
    simp only [hreader, readComponent, TokenReader.run_bind, TokenReader.takeRest]
    cases hpath : (trim parameters).isEmpty with
    | true => rfl
    | false =>
        have htext : String.ofList (trim parameters) ≠ "" := by
          simpa using hpath
        exact congrArg (fun path => Except.ok (component path)) (hbase _ htext)
  · rw [readerOf?_eq base other hwords]

end Constraint

namespace ReadState

variable {f : Path → Path} {s t : ReadState} {number : Nat} {raw : List Char}
  {context other : ReadContext}

/-- What is read in two contexts, whose paths `f` does not tell apart. -/
structure ContextsAgree (f : Path → Path) (context other : ReadContext) : Prop where
  base : ∀ rel : Path, rel.text ≠ "" → f (.from? context.base rel) = f (.from? other.base rel)
  importSpec : ∀ rel : Path, rel.text ≠ "" →
    AlikeBy (Document.mapPaths f) (context.importSpec (.from? context.base rel))
      (other.importSpec (.from? other.base rel))

theorem alikeBy_of_natural {op : ReadState → Except SyntaxError ReadState}
    (hop : ∀ s : ReadState, op (s.mapPaths f) = (op s).map (mapPaths f))
    (hst : s.mapPaths f = t.mapPaths f) : AlikeBy (mapPaths f) (op s) (op t) := by
  apply AlikeBy.of_map_eq
  rw [← hop, ← hop, hst]

theorem copies_mapPaths (c : Constraint) (values : List String) :
    copies (c.mapPaths f) values = (copies c values).map (Constraint.mapPaths f) := by
  simp only [copies]
  split
  · rfl
  · rw [List.map_map]
    exact List.map_congr_left fun value _ => c.withParameter_mapPaths f value

theorem addEach_mapPaths (gs : List Group) (cs : List Constraint) :
    addEach (gs.map (Group.mapPaths f)) (cs.map (Constraint.mapPaths f))
      = (addEach gs cs).map (Group.mapPaths f) := by
  induction gs generalizing cs with
  | nil => cases cs <;> rfl
  | cons g gs ih =>
      cases cs with
      | nil => rfl
      | cons c cs =>
          simp only [List.map_cons, addEach, ih, Group.mapPaths, Group.mapConstraints,
            List.map_append]
          rfl

theorem withConstraint_mapPaths (gs : List Group) (opened : OpenGroups) (c : Constraint) :
    withConstraint (gs.map (Group.mapPaths f)) opened (c.mapPaths f)
      = (withConstraint gs opened c).map (Group.mapPaths f) := by
  rw [withConstraint, ← List.map_take, ← List.map_drop, copies_mapPaths, addEach_mapPaths,
    ← List.map_append]
  rfl

/-- A constraint line does the same to states that differ in their paths alone: it is refused in
both or in neither, and the states behind it differ in their paths alone again. -/
theorem alikeBy_addConstraint (hcontexts : ContextsAgree f context other)
    (hst : s.mapPaths f = t.mapPaths f) (line : List Char) :
    AlikeBy (mapPaths f) (s.addConstraint context.base number line)
      (t.addConstraint other.base number line) := by
  have hopened : s.openGroups = t.openGroups := congrArg (·.openGroups) hst
  have hgroups : s.groups?.map (List.map (Group.mapPaths f))
      = t.groups?.map (List.map (Group.mapPaths f)) := by
    rw [← groups?_mapPaths, ← groups?_mapPaths, hst]
  simp only [addConstraint, hopened]
  cases t.openGroups with
  | none => rfl
  | some opened =>
      have hparse := AlikeBy.of_map_eq (Constraint.parse_map_mapPaths hcontexts.base line)
      refine AlikeBy.bind (hparse.mapError _ _) ?_
      intro c c' hc
      cases hs : s.groups? with
      | none =>
          cases ht : t.groups? with
          | none => rfl
          | some gs' => simp [hs, ht] at hgroups
      | some gs =>
          cases ht : t.groups? with
          | none => simp [hs, ht] at hgroups
          | some gs' =>
              simp only [hs, ht, Option.map_some, Option.some.injEq] at hgroups
              refine congrArg some ?_
              change (s.setGroups (withConstraint gs opened c)).mapPaths f
                = (t.setGroups (withConstraint gs' opened c')).mapPaths f
              rw [← setGroups_mapPaths, ← setGroups_mapPaths, ← withConstraint_mapPaths,
                ← withConstraint_mapPaths, hgroups, hc, hst]

theorem alikeBy_directive (hcontexts : ContextsAgree f context other)
    (hst : s.mapPaths f = t.mapPaths f) (text : List Char) :
    AlikeBy (mapPaths f) (s.directive context number text) (t.directive other number text) := by
  simp only [directive]
  split
  · rfl
  · split
    · rfl
    · next hargument =>
        refine AlikeBy.bind
          ((hcontexts.importSpec _ (by simpa using hargument)).mapError _ _) ?_
        intro imported imported' himported
        refine congrArg some ?_
        have hdocument : s.document.mapPaths f = t.document.mapPaths f :=
          congrArg (·.document) hst
        have hmerge : (s.document.merge imported).mapPaths f
            = (t.document.merge imported').mapPaths f := by
          rw [Document.mapPaths_merge, Document.mapPaths_merge, hdocument, himported]
        change { s.mapPaths f with document := (s.document.merge imported).mapPaths f }
          = { t.mapPaths f with document := (t.document.merge imported').mapPaths f }
        rw [hmerge, hst]

/-- States that differ in their paths alone are taken to such states. This holds for an import line
as well, if what it imports in the two contexts differs in paths alone. -/
theorem alikeBy_step (hcontexts : ContextsAgree f context other)
    (hst : s.mapPaths f = t.mapPaths f) (raw : List Char) :
    AlikeBy (mapPaths f) (s.step context number raw) (t.step other number raw) := by
  have hmode : s.mode = t.mode := congrArg (·.mode) hst
  simp only [step, hmode]
  split
  · exact congrArg some hst
  · next text _ => exact alikeBy_directive hcontexts hst text
  · exact alikeBy_of_natural toggleObjects_mapPaths hst
  · split
    · exact alikeBy_of_natural (defineObject_mapPaths (trim raw)) hst
    · split
      · next text _ => exact alikeBy_of_natural (openSection_mapPaths text) hst
      · split
        · next values _ =>
            refine congrArg some ?_
            rw [mapPaths, mapPaths, mk.injEq] at hst ⊢
            exact ⟨hst.1, rfl, hst.2.2.1, hst.2.2.2.1, hst.2.2.2.2.1, rfl⟩
        · rfl
      · next keyword _ => exact alikeBy_of_natural (applyKeyword_mapPaths keyword) hst
      · exact alikeBy_addConstraint hcontexts hst (trim raw)
      · exact alikeBy_of_natural (openGroup_mapPaths (trim raw)) hst
      · exact congrArg some hst

theorem alikeBy_run (hcontexts : ContextsAgree f context other) (lines : List (List Char))
    (number : Nat) (hst : s.mapPaths f = t.mapPaths f) :
    AlikeBy (mapPaths f) (s.run context number lines) (t.run other number lines) := by
  induction lines generalizing number s t with
  | nil => exact congrArg some hst
  | cons raw rest ih =>
      have hstep : AlikeBy (mapPaths f) (s.step context number raw) (t.step other number raw) :=
        alikeBy_step hcontexts hst raw
      rw [run, run]
      obtain ⟨e, e', hs, ht⟩ | ⟨next, next', hs, ht, hnext⟩ := hstep.error_or_ok
      · rw [hs, ht]
        rfl
      · rw [hs, ht]
        exact ih (number + 1) hnext

end ReadState

namespace Document

variable {f : Path → Path} {context other : ReadContext}

theorem alikeBy_ofLines (hcontexts : ReadState.ContextsAgree f context other)
    (lines : List (List Char)) :
    AlikeBy (mapPaths f) (ofLines context lines) (ofLines other lines) := by
  have hrun := ReadState.alikeBy_run hcontexts lines 1 (s := .initial) (t := .initial) rfl
  rw [ofLines, ofLines]
  obtain ⟨e, e', hs, ht⟩ | ⟨s, t, hs, ht, hst⟩ := hrun.error_or_ok
  · rw [hs, ht]
    rfl
  · rw [hs, ht]
    apply AlikeBy.of_map_eq
    rw [← ReadState.finish_mapPaths, ← ReadState.finish_mapPaths, hst]

variable {tree : FileTree} {base base' : Option Path} {path path' : Path} {key : FileKey}

/-- What a text says does not depend on how its folder is written. The two spellings lead to one
folder; paths of components are compared by where they lead, and imports reach the same files. -/
theorem alikeBy_readWithin (chain : List FileKey) (hbase : tree.IsFolder base key)
    (hbase' : tree.IsFolder base' key) (text : String) :
    AlikeBy (mapPaths tree.canonical) (readWithin tree chain base text)
      (readWithin tree chain base' text) := by
  induction hfiles : (filesOutside tree chain).length using Nat.strong_induction_on
    generalizing chain base base' key text with
  | _ n ih =>
      have hresolve : ∀ rel : Path, rel.text ≠ "" →
          tree.resolve (.from? base rel) = tree.resolve (.from? base' rel) :=
        fun rel hrel => (hbase rel hrel).trans (hbase' rel hrel).symm
      rw [readWithin_eq, readWithin_eq]
      refine alikeBy_ofLines ⟨fun rel hrel => FileTree.canonical_congr (hresolve rel hrel), ?_⟩ _
      intro rel hrel
      have hkeys := FileTree.fileKey?_congr (hresolve rel hrel)
      simp only [importWithin, hkeys]
      cases hkey : tree.fileKey? (.from? base' rel) with
      | none => rfl
      | some file =>
          rw [hkey] at hkeys
          simp only
          split
          · rfl
          · next hnew =>
              split
              · next content hcontent =>
                  have hless : (filesOutside tree (file :: chain)).length < n := by
                    rw [← hfiles]
                    exact filesOutside_cons_lt (by simpa using hnew) (by simp [hcontent])
                  refine AlikeBy.mapError _ _
                    (@ih _ hless _ _ file.dropLast _ ?_ ?_ content rfl)
                  · exact FileTree.isFolder_parent (FileTree.fileKey?_eq_some_iff.mp hkeys)
                  · exact FileTree.isFolder_parent (FileTree.fileKey?_eq_some_iff.mp hkey)
              · rfl

/-- A document is read from text. -/
theorem of_ofFile_eq_ok {d : Document} (h : ofFile tree path = .ok d) :
    ∃ text, tree.read path = .ok text := by
  cases hread : tree.read path with
  | error fault => cases fault <;> simp [ofFile, hread] at h
  | ok text => exact ⟨text, rfl⟩

/-- The spec of a file is its text, read with the file itself in the chain of imports. -/
theorem ofFile_eq_ok {key : FileKey} {text : String} {d : Document}
    (hkey : tree.fileKey? path = some key) (hcontent : tree.content? key = some (.text text))
    (hread : readWithin tree [key] path.parent? text = .ok d) : ofFile tree path = .ok d := by
  rw [ofFile, FileTree.read_of_fileKey hkey hcontent, hkey, Option.toList_some]
  simp only [hread]

theorem readWithin_of_ofFile {d : Document} (h : ofFile tree path = .ok d) :
    ∃ key text, tree.content? key = some (.text text) ∧
      readWithin tree [key] path.parent? text = .ok d := by
  obtain ⟨text, hread⟩ := of_ofFile_eq_ok h
  obtain ⟨key, hresolve, hcontent⟩ := FileTree.of_read_eq_ok hread
  refine ⟨key, text, hcontent, ?_⟩
  rw [ofFile, hread, FileTree.fileKey?_eq_some_iff.mpr hresolve, Option.toList_some] at h
  dsimp only at h
  split at h
  · cases h
  · next hdocument =>
      obtain rfl := Except.ok.inj h
      exact hdocument

/-- What a file says does not depend on how its path is written. Both paths lead to the file, and
each is cut down to the folder of the file. -/
theorem alikeBy_ofFile (h : tree.resolve path = tree.resolve path') :
    AlikeBy (mapPaths tree.canonical) (ofFile tree path) (ofFile tree path') := by
  rw [ofFile, ofFile, FileTree.read_congr h, FileTree.fileKey?_congr h]
  split
  · rfl
  · rfl
  · next text htext =>
      obtain ⟨file, hfile, -⟩ := FileTree.of_read_eq_ok htext
      have hread := alikeBy_readWithin (tree.fileKey? path').toList
        (FileTree.isFolder_parent (h.trans hfile)) (FileTree.isFolder_parent hfile) text
      obtain ⟨e, e', hs, ht⟩ | ⟨d, d', hs, ht, hd⟩ := hread.error_or_ok
      · rw [hs, ht]
        rfl
      · rw [hs, ht]
        exact congrArg some hd

end Document

end LayoutSpec
