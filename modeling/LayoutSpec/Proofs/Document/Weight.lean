import LayoutSpec.Proofs.Document.Coherent
import Mathlib.Algebra.GroupWithZero.Nat

/-!
How much the lines of a text add to a document. A number of each group, added up, is changed by an
import, a constraint or a group, and by no other line. Of patterns a group line adds its own at
most, so that a document whose text lost a character of a pattern does not come back.
-/

namespace LayoutSpec

open Text

def total (f : Group → Nat) (gs : List Group) : Nat :=
  (gs.map f).sum

variable {f : Group → Nat}

@[simp] theorem total_nil : total f [] = 0 := rfl

@[simp] theorem total_cons (g : Group) (gs : List Group) :
    total f (g :: gs) = f g + total f gs := by
  simp [total]

@[simp] theorem total_append (gs hs : List Group) :
    total f (gs ++ hs) = total f gs + total f hs := by
  simp [total]

theorem total_flatMap {α : Type} (groups : α → List Group) (xs : List α) :
    total f (xs.flatMap groups) = (xs.map fun x => total f (groups x)).sum := by
  induction xs with
  | nil => rfl
  | cons x xs ih => rw [List.flatMap_cons, total_append, ih, List.map_cons, List.sum_cons]

theorem total_le {g : Group → Nat} {gs : List Group} (hle : ∀ group ∈ gs, f group ≤ g group) :
    total f gs ≤ total g gs := by
  induction gs with
  | nil => simp
  | cons first gs ih =>
      have hfirst := hle first (by simp)
      have hrest := ih fun group hgroup => hle group (by simp [hgroup])
      rw [total_cons, total_cons]
      omega

/-- If one number of a group is nowhere greater than another, and their totals are not either, then
they are the same everywhere. -/
theorem eq_of_total_le {g : Group → Nat} {gs : List Group}
    (hle : ∀ group ∈ gs, f group ≤ g group) (h : total g gs ≤ total f gs) :
    ∀ group ∈ gs, f group = g group := by
  induction gs with
  | nil => simp
  | cons first gs ih =>
      have hfirst := hle first (by simp)
      have hrest := total_le fun group hgroup => hle group (List.mem_cons_of_mem first hgroup)
      rw [total_cons, total_cons] at h
      intro group hgroup
      rcases List.mem_cons.mp hgroup with rfl | hgroup
      · omega
      · exact ih (fun other hother => hle other (by simp [hother])) (by omega) group hgroup

theorem sum_modify {α : Type} (w : α → Nat) (change : α → α) {xs : List α} {i : Nat} {x : α}
    (hx : xs[i]? = some x) :
    ((xs.modify i change).map w).sum + w x = (xs.map w).sum + w (change x) := by
  induction xs generalizing i with
  | nil => simp at hx
  | cons y xs ih =>
      cases i with
      | zero =>
          obtain rfl : y = x := by simpa using hx
          simp only [List.modify_zero_cons, List.map_cons, List.sum_cons]
          omega
      | succ i =>
          have hrest := ih (by simpa using hx)
          simp only [List.modify_succ_cons, List.map_cons, List.sum_cons]
          omega

theorem total_block (b : ConditionalBlock) :
    total f b.groups = (b.statements.map fun condition => total f condition.groups).sum
      + total f b.body + total f (b.otherwise.getD []) := by
  rw [ConditionalBlock.groups, total_append, total_append, total_flatMap]

theorem total_section (s : Section) :
    total f s.allGroups
      = total f s.groups + (s.blocks.map fun b => total f b.groups).sum := by
  rw [Section.allGroups, total_append, total_flatMap]

theorem total_document (d : Document) :
    total f d.allGroups = (d.sections.map fun s => total f s.allGroups).sum :=
  total_flatMap _ _

/-- Sections in which nothing is asserted count for nothing. -/
theorem total_prune (d : Document) : total f d.prune.allGroups = total f d.allGroups := by
  rw [total_document, total_document, Document.prune]
  induction d.sections with
  | nil => rfl
  | cons s sections ih =>
      cases hempty : s.isEmpty with
      | true =>
          obtain ⟨hgroups, hblocks⟩ : s.groups = [] ∧ s.blocks = [] := by
            simpa [Section.isEmpty] using hempty
          have hzero : total f s.allGroups = 0 := by
            rw [total_section, hgroups, hblocks]
            rfl
          rw [List.filter_cons_of_neg (by simp [hempty]), ih, List.map_cons, List.sum_cons, hzero]
          omega
      | false =>
          rw [List.filter_cons_of_pos (by simp [hempty]), List.map_cons, List.sum_cons, ih,
            List.map_cons, List.sum_cons]

/-- The length of the pattern of a group and of the end of its line. -/
def patternWeight (g : Group) : Nat :=
  g.pattern.toList.length + 1

/-- The number of characters of a line that go into a pattern, with the end of the line. -/
def lineWeight (raw : List Char) : Nat :=
  if LineKind.of raw = .name then (ReadState.groupPattern (trim raw)).length + 1 else 0

namespace ReadState

variable {context : ReadContext} {raw : List Char} {s t : ReadState} {f : Group → Nat}

/-- The total over the groups in the document and in the block that is open. -/
def weight (f : Group → Nat) (s : ReadState) : Nat :=
  total f s.document.allGroups + total f ((s.block.map ConditionalBlock.groups).getD [])

/-- Groups that take the place of others change the weight by their difference. The equation adds on
both sides, as natural numbers cannot be subtracted freely. -/
theorem weight_setGroups {gs : List Group} (hgs : s.groups? = some gs) (new : List Group) :
    (s.setGroups new).weight f + total f gs = s.weight f + total f new := by
  have hsection : s.document.sections[s.current]?.map (·.groups) = some gs →
      (s.modifySection fun sec => { sec with groups := new }).weight f + total f gs
        = s.weight f + total f new := by
    intro h
    obtain ⟨sec, hsec, rfl⟩ := Option.map_eq_some_iff.mp h
    have hsum := sum_modify (fun sec : Section => total f sec.allGroups)
      (fun sec => { sec with groups := new }) hsec
    simp only [total_section] at hsum
    simp only [weight, modifySection, total_document, total_section]
    omega
  rw [groups?] at hgs
  rw [setGroups]
  split
  · next hmode => exact hsection (by rwa [hmode] at hgs)
  · next hmode => exact hsection (by rwa [hmode] at hgs)
  · next hmode =>
      rw [hmode] at hgs
      obtain ⟨b, hb, hgs⟩ := Option.bind_eq_some_iff.mp hgs
      obtain ⟨condition, hcondition, rfl⟩ := Option.map_eq_some_iff.mp hgs
      rw [List.getLast?_eq_getElem?] at hcondition
      have hsum := sum_modify (fun condition : Statement => total f condition.groups)
        (fun condition => { condition with groups := new }) hcondition
      dsimp only at hsum
      simp only [weight, hb, Option.map_some, Option.getD_some, total_block]
      omega
  · next hmode =>
      rw [hmode] at hgs
      obtain ⟨b, hb, rfl⟩ := Option.map_eq_some_iff.mp hgs
      simp only [weight, hb, Option.map_some, Option.getD_some, total_block]
      omega
  · next hmode =>
      rw [hmode] at hgs
      obtain ⟨b, hb, hgs⟩ := Option.bind_eq_some_iff.mp hgs
      simp only [weight, hb, Option.map_some, Option.getD_some, total_block, hgs]
      omega
  · next hmode => simp [hmode] at hgs

theorem total_addEach (gs : List Group) (cs : List Constraint) :
    total patternWeight (addEach gs cs) = total patternWeight gs := by
  induction gs generalizing cs with
  | nil => cases cs <;> rfl
  | cons g gs ih =>
      cases cs with
      | nil => rfl
      | cons c cs =>
          rw [addEach, total_cons, ih, total_cons]
          rfl

theorem total_withConstraint (gs : List Group) (opened : OpenGroups) (c : Constraint) :
    total patternWeight (withConstraint gs opened c) = total patternWeight gs := by
  rw [withConstraint, total_append, total_addEach, ← total_append, List.take_append_drop]

/-- A line that is neither an import nor a list of parameters. -/
def IsUsual (raw : List Char) : Prop :=
  (LineKind.of raw).isImport = false ∧ LineKind.of raw ≠ .parameters

/-- How a line changes a number of each group that is added up. -/
inductive WeightChange (f : Group → Nat) (context : ReadContext) (raw : List Char)
    (s t : ReadState) : Prop where
  | quiet : (LineKind.of raw).importPath? = none →
    (LineKind.of raw = .constraint → s.mode = .objects) → t.weight f = s.weight f →
    WeightChange f context raw s t
  | imported (rel : Path) (d : Document) : (LineKind.of raw).importPath? = some rel →
    (LineKind.of raw).isImport = true → context.importSpec (.from? context.base rel) = .ok d →
    t.weight f = s.weight f + total f d.allGroups → WeightChange f context raw s t
  | adding (gs : List Group) (opened : OpenGroups) (c : Constraint) : s.groups? = some gs →
    s.openGroups = some opened → LineKind.of raw = .constraint →
    t.weight f + total f gs = s.weight f + total f (withConstraint gs opened c) →
    WeightChange f context raw s t
  | opening (gs : List Group) : s.groups? = some gs → LineKind.of raw = .name →
    t.weight f = s.weight f
      + total f (openedGroups (String.ofList (groupPattern (trim raw))) (s.pending.getD [])) →
    WeightChange f context raw s t

/-- A line of another kind than these two is neither an import nor a constraint. -/
theorem WeightChange.of_kind {kind : LineKind} (hkind : LineKind.of raw = kind)
    (himport : kind.importPath? = none) (hconstraint : kind ≠ .constraint)
    (hweight : t.weight f = s.weight f) : WeightChange f context raw s t :=
  .quiet (by rw [hkind, himport]) (fun h => absurd (hkind.symm.trans h) hconstraint) hweight

/-- The block that was built goes to the current section with all it has. -/
theorem weight_closeBlock {b : ConditionalBlock} (hs : s.Shaped) (hblock : s.block = some b) :
    weight f { s.modifySection (fun sec => { sec with blocks := sec.blocks ++ [b] }) with
      block := none, mode := .groups, openGroups := none } = s.weight f := by
  have hsum := sum_modify (fun sec : Section => total f sec.allGroups)
    (fun sec => { sec with blocks := sec.blocks ++ [b] }) (List.getElem?_eq_getElem hs.current)
  simp only [total_section, List.map_append, List.sum_append, List.map_cons, List.map_nil,
    List.sum_cons, List.sum_nil] at hsum
  simp only [weight, modifySection, total_document, total_section, hblock, Option.map_some,
    Option.getD_some, Option.map_none, Option.getD_none, total_nil]
  omega

/-- A line changes the weight by what it adds to the current groups, or by the weight of the
document that it imports. This is what the tally of constraints and the bound on patterns have in
common. -/
theorem Shaped.weight_change (hs : s.Shaped) (h : Change context raw s t) :
    WeightChange f context raw s t := by
  cases h with
  | nothing hkind => rcases hkind with hkind | hkind <;> exact .of_kind hkind rfl (by simp) rfl
  | «import» d hdirective himport =>
      obtain ⟨rel, hrel, hread⟩ := himport
      have happend : (s.document.merge d).allGroups = s.document.allGroups ++ d.allGroups :=
        List.flatMap_append
      refine .imported rel d hrel hdirective hread ?_
      simp only [weight, happend, total_append]
      omega
  | startObjects hout hkind => exact .of_kind hkind rfl (by simp) rfl
  | define name text l hidle hdirective hcut hreserved hlocator hmarker hmode =>
      refine .quiet ?_ (fun _ => hmode) rfl
      cases hcase : LineKind.of raw with
      | directive rest => exact absurd hcase (hdirective rest)
      | _ => rfl
  | openSection tags htags hout hkind =>
      have hempty :
          total f (Section.allGroups { tags := (items ',' tags).map String.ofList }) = 0 :=
        rfl
      have hsame : weight f { s with document := { s.document with
            sections := s.document.sections ++ [{ tags := (items ',' tags).map String.ofList }] } }
          = s.weight f := by
        simp only [weight, total_document, List.map_append, List.sum_append, List.map_cons,
          List.map_nil, List.sum_cons, List.sum_nil, hempty, Nat.add_zero]
      rcases hkind with ⟨hkind, -⟩ | ⟨hkind, -⟩ <;> exact .of_kind hkind rfl (by simp) hsame
  | parameters values hkind => exact .of_kind hkind rfl (by simp) rfl
  | firstStatement inverted hout hkind =>
      refine .of_kind hkind rfl (by simp) ?_
      rw [weight, weight, hs.block_eq_none hout]
      rfl
  | nextStatement inverted b hblock hmode hkind =>
      refine .of_kind hkind rfl (by simp) ?_
      simp only [weight, hblock, Option.map_some, Option.getD_some, total_block, List.map_append,
        List.sum_append, List.map_cons, List.map_nil, List.sum_cons, List.sum_nil, total_nil,
        Nat.add_zero]
  | body hmode hkind => exact .of_kind hkind rfl (by simp) rfl
  | «otherwise» b hblock hmode hkind =>
      -- Before its keyword the branch is not there.
      have hnone : b.otherwise = none := by
        rw [← Option.not_isSome_iff_eq_none, (hs.fits b hblock).otherwise, hmode]
        simp
      refine .of_kind hkind rfl (by simp) ?_
      simp only [weight, hblock, Option.map_some, Option.getD_some, total_block, hnone,
        Option.getD_none]
  | close b hblock hmode hkind =>
      exact .of_kind hkind rfl (by simp) (weight_closeBlock hs hblock)
  | constraint gs opened c hgroups hopened hparse hkind =>
      exact .adding gs opened c hgroups hopened hkind (weight_setGroups hgroups _)
  | openGroups gs hname hgroups hne =>
      have hset := weight_setGroups (f := f) hgroups
        (gs ++ openedGroups (String.ofList (groupPattern (trim raw))) (s.pending.getD []))
      rw [total_append] at hset
      refine .opening gs hgroups hname ?_
      change (s.setGroups _).weight f = _
      omega

/-- No line but a list of parameters leaves parameters behind. -/
theorem pending_change (hraw : LineKind.of raw ≠ .parameters) (hpending : s.pending = none)
    (h : Change context raw s t) : t.pending = none := by
  cases h with
  | parameters values hkind => exact absurd hkind hraw
  | constraint gs opened c => exact (pending_setGroups _).trans hpending
  | openGroups gs => rfl
  | _ => exact hpending

/-- A usual line adds its pattern at most. A group line without values opens one group, whose
pattern is no longer than the line. -/
theorem Shaped.weight_change_le (hs : s.Shaped) (hraw : IsUsual raw) (hpending : s.pending = none)
    (h : Change context raw s t) :
    t.weight patternWeight ≤ s.weight patternWeight + lineWeight raw := by
  cases hs.weight_change (f := patternWeight) h with
  | quiet himport hconstraint hweight => omega
  | imported rel d hrel himport =>
      rw [hraw.1] at himport
      cases himport
  | adding gs opened c hgroups hopened hkind hweight =>
      rw [total_withConstraint] at hweight
      omega
  | opening gs hgroups hname hweight =>
      have hopened : total patternWeight
          (openedGroups (String.ofList (groupPattern (trim raw))) []) = lineWeight raw := by
        simp [openedGroups, lineWeight, hname, patternWeight]
      rw [hpending, Option.getD_none, hopened] at hweight
      omega

/-- What usual lines add up to, at most. Nothing is imported, and no values multiply the groups. -/
theorem Coherent.weight_reads_le {lines : List (List Char)} (hs : s.Coherent)
    (h : Reads context lines s t) (hlines : ∀ raw ∈ lines, IsUsual raw)
    (hpending : s.pending = none) :
    t.weight patternWeight ≤ s.weight patternWeight + (lines.map lineWeight).sum := by
  induction h with
  | nil s => exact Nat.le_add_right _ _
  | @cons _ raw rest s t u hstep _ ih =>
      have hraw := hlines raw (by simp)
      have hchange := change_of_step hstep
      have hle := hs.weight_change_le hraw hpending hchange
      have hrest := ih (hs.change hchange) (fun raw hraw => hlines raw (by simp [hraw]))
        (pending_change hraw.2 hpending hchange)
      rw [List.map_cons, List.sum_cons]
      omega

end ReadState

end LayoutSpec
