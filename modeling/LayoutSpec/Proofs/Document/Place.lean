import LayoutSpec.Proofs.Document.Coherent

/-!
The places of groups. While a text is read, lines add to the list of groups that is current, and
every other list stays as it is. The block that is being built counts as the last one of the current
section, so that its groups are in their places before the block is closed.
-/

namespace LayoutSpec

open Text

/-- Whether the groups above a line take no more constraints behind it. -/
def LineKind.closesGroups : LineKind → Bool
  | .marker | .tags _ | .keyword _ | .name => true
  | .idle | .directive _ | .separator | .parameters | .constraint => false

inductive ConditionalBlock.Part where
  | statement (number : Nat)
  | body
  | otherwise
deriving DecidableEq, Repr

def ConditionalBlock.groupsAt (b : ConditionalBlock) : ConditionalBlock.Part → Option (List Group)
  | .statement number => b.statements[number]?.map (·.groups)
  | .body => some b.body
  | .otherwise => b.otherwise

inductive Section.Part where
  | own
  | block (number : Nat) (part : ConditionalBlock.Part)
deriving DecidableEq, Repr

namespace Section

def groupsAt (sec : Section) : Section.Part → Option (List Group)
  | .own => some sec.groups
  | .block number part => sec.blocks[number]?.bind (·.groupsAt part)

def addBlock (sec : Section) (b : ConditionalBlock) : Section :=
  { sec with blocks := sec.blocks ++ [b] }

theorem groupsAt_addBlock (sec : Section) (b : ConditionalBlock) (number : Nat)
    (part : ConditionalBlock.Part) :
    (sec.addBlock b).groupsAt (.block number part)
      = if number = sec.blocks.length then b.groupsAt part
        else sec.groupsAt (.block number part) := by
  simp only [groupsAt, addBlock]
  split
  · next hnumber => rw [hnumber, List.getElem?_concat_length, Option.bind_some]
  · next hnumber =>
      rcases Nat.lt_or_gt_of_ne hnumber with hlt | hgt
      · rw [List.getElem?_append_left hlt]
      · have hnone : (sec.blocks ++ [b])[number]? = none := by simpa using Nat.succ_le_of_lt hgt
        have hnone' : sec.blocks[number]? = none := by simpa using Nat.le_of_lt hgt
        rw [hnone, hnone']

end Section

namespace ReadState

variable {context : ReadContext} {raw : List Char} {s t : ReadState} {gs new : List Group}

/-- Where a list of groups stands in a document: the number of the section, and the part of it. -/
structure Place where
  number : Nat
  part : Section.Part
deriving DecidableEq, Repr

/-- The section of some number, with the block that is being built if it is the current one. -/
def section? (s : ReadState) (number : Nat) : Option Section :=
  s.document.sections[number]?.map fun sec =>
    if number = s.current then s.block.elim sec sec.addBlock else sec

def groupsAt (s : ReadState) (p : Place) : Option (List Group) :=
  (s.section? p.number).bind (·.groupsAt p.part)

/-- The number of the block that is being built, or of the next one. -/
def blockNumber (s : ReadState) : Nat :=
  (s.document.sections[s.current]?.map (·.blocks.length)).getD 0

/-- The part of the current section to which new groups are added. -/
def part (s : ReadState) : Section.Part :=
  match s.mode with
  | .start | .objects | .groups => .own
  | .statement =>
    .block s.blockNumber (.statement ((s.block.map (·.statements.length)).getD 0 - 1))
  | .body => .block s.blockNumber .body
  | .otherwise => .block s.blockNumber .otherwise

/-- The place of the list to which new groups are added. -/
def place (s : ReadState) : Place :=
  ⟨s.current, s.part⟩

theorem section?_of_block_eq_none (h : s.block = none) (number : Nat) :
    s.section? number = s.document.sections[number]? := by
  simp [section?, h]

/-- The parts of the block that is being built are found in it, those of other blocks elsewhere. It
has the number that it will have in its section. -/
theorem groupsAt_of_block {b : ConditionalBlock} (hb : s.block = some b) (p : Place) :
    s.groupsAt p = s.document.sections[p.number]?.bind fun sec =>
      if p.number = s.current then (sec.addBlock b).groupsAt p.part else sec.groupsAt p.part := by
  rw [groupsAt, section?, hb]
  cases s.document.sections[p.number]? with
  | none => rfl
  | some sec =>
      rw [Option.map_some, Option.bind_some, Option.bind_some, Option.elim_some]
      split <;> rfl

theorem Shaped.exists_section (hs : s.Shaped) :
    ∃ sec, s.document.sections[s.current]? = some sec ∧ s.blockNumber = sec.blocks.length := by
  have hcurrent := hs.current
  refine ⟨s.document.sections[s.current], List.getElem?_eq_getElem hcurrent, ?_⟩
  rw [blockNumber, List.getElem?_eq_getElem hcurrent]
  rfl

/-- The block that is being built is the last one of the current section. -/
theorem Shaped.groupsAt_block (hs : s.Shaped) {b : ConditionalBlock} (hb : s.block = some b)
    (part : ConditionalBlock.Part) :
    s.groupsAt ⟨s.current, .block s.blockNumber part⟩ = b.groupsAt part := by
  obtain ⟨sec, hsec, hnumber⟩ := hs.exists_section
  rw [groupsAt_of_block hb, hsec, Option.bind_some, if_pos rfl, Section.groupsAt_addBlock,
    if_pos hnumber]

/-- The current list is found at its place. A place names a list by numbers that stay the same while
the text is read, where the state only knows the list as the current one. -/
theorem Shaped.groupsAt_place (hs : s.Shaped) (h : s.groups? = some gs) :
    s.groupsAt s.place = some gs := by
  rw [groups?] at h
  rw [place, part]
  cases hmode : s.mode with
  | start | groups =>
      rw [hmode] at h
      have hnone := hs.block_eq_none (by rw [hmode]; rfl)
      obtain ⟨sec, hsec, rfl⟩ := Option.map_eq_some_iff.mp h
      rw [groupsAt, section?_of_block_eq_none hnone, hsec]
      rfl
  | objects =>
      rw [hmode] at h
      cases h
  | statement =>
      rw [hmode] at h
      obtain ⟨b, hb, h⟩ := Option.bind_eq_some_iff.mp h
      rw [List.getLast?_eq_getElem?] at h
      dsimp only
      rw [hs.groupsAt_block hb, hb]
      exact h
  | body =>
      rw [hmode] at h
      obtain ⟨b, hb, rfl⟩ := Option.map_eq_some_iff.mp h
      exact hs.groupsAt_block hb .body
  | «otherwise» =>
      rw [hmode] at h
      obtain ⟨b, hb, h⟩ := Option.bind_eq_some_iff.mp h
      exact (hs.groupsAt_block hb .otherwise).trans h

/-- Every list of groups is at its place as before. -/
def KeepsGroups (s t : ReadState) : Prop :=
  ∀ p gs, s.groupsAt p = some gs → t.groupsAt p = some gs

theorem groups?_withOpened {old : List Group} (h : s.groups? = some old) (pattern : String)
    (values : List String) :
    (s.withOpened old pattern values).groups? = some (old ++ openedGroups pattern values) :=
  (groups?_settled _ _).trans (groups?_setGroups h _)

theorem mode_withOpened_ne_objects {old : List Group} (h : s.groups? = some old)
    (pattern : String) (values : List String) :
    (s.withOpened old pattern values).mode ≠ .objects :=
  not_objects_of_groups (groups?_withOpened h pattern values)

end ReadState

end LayoutSpec
