import LayoutSpec.Proofs.Document.Outline
import LayoutSpec.Proofs.Document.Spelling

/-!
The shape of what was read. Behind any lines, the sections are those of a shape that is written as
far as the lines go: its last section is open, and a block may be open in it. Each line adds its
mark to this draft.
-/

namespace LayoutSpec

open Text

/-- The part of a section in which the last lines stand, with what comes before it in its block. -/
inductive DraftPart where
  | own
  | statement (before : List WrittenCondition) (inverted : Bool)
  | body (conditions : List WrittenCondition) (conditional : conditions ≠ [])
  | otherwise (conditions : List WrittenCondition) (conditional : conditions ≠ [])
    (held : List WrittenEntry)

namespace DraftPart

/-- The marks up to the keyword above the part. -/
def marks : DraftPart → List Mark
  | own => []
  | statement before inverted =>
    WrittenCondition.marksOfAll before ++ [.keyword (.statement (!before.isEmpty) inverted)]
  | body conditions _ => WrittenCondition.marksOfAll conditions ++ [.keyword .body]
  | otherwise conditions _ held =>
    WrittenCondition.marksOfAll conditions ++ .keyword .body :: held.map WrittenEntry.mark
      ++ [.keyword .otherwise]

def foreign : DraftPart → List Section
  | own => []
  | statement before _ => before.flatMap WrittenCondition.foreign
  | body conditions _ => conditions.flatMap WrittenCondition.foreign
  | otherwise conditions _ held =>
    conditions.flatMap WrittenCondition.foreign ++ held.flatMap WrittenEntry.foreign

/-- The block with these groups in its last part. -/
def block? (groups : List Group) : DraftPart → Option ConditionalBlock
  | own => none
  | statement before inverted =>
    some { statements := before.map WrittenCondition.statement ++ [⟨inverted, groups⟩] }
  | body conditions _ =>
    some { statements := conditions.map WrittenCondition.statement, body := groups }
  | otherwise conditions _ held =>
    some
      { statements := conditions.map WrittenCondition.statement
        body := held.flatMap WrittenEntry.opened
        otherwise := some groups }

def Fits : DraftPart → ReadMode → Prop
  | own, mode => mode.inBlock = false
  | statement .., mode => mode = .statement
  | body .., mode => mode = .body
  | otherwise .., mode => mode = .otherwise

variable {part : DraftPart} {mode : ReadMode}

theorem Fits.eq_own (h : part.Fits mode) (hmode : mode.inBlock = false) : part = own := by
  cases part with
  | own => rfl
  | statement | body | «otherwise» =>
      obtain rfl := h
      cases hmode

theorem Fits.exists_statement (h : part.Fits .statement) :
    ∃ before inverted, part = statement before inverted := by
  cases part with
  | statement before inverted => exact ⟨before, inverted, rfl⟩
  | own | body | «otherwise» => cases h

theorem Fits.exists_body (h : part.Fits .body) :
    ∃ conditions conditional, part = body conditions conditional := by
  cases part with
  | body conditions conditional => exact ⟨conditions, conditional, rfl⟩
  | own | statement | «otherwise» => cases h

theorem Fits.exists_otherwise (h : part.Fits .otherwise) :
    ∃ conditions conditional held, part = otherwise conditions conditional held := by
  cases part with
  | «otherwise» conditions conditional held => exact ⟨conditions, conditional, held, rfl⟩
  | own | statement | body => cases h

/-- A first group changes the mode of a section, but not of a block. -/
theorem Fits.settled (h : part.Fits mode) :
    part.Fits (if mode = .start then .groups else mode) := by
  split
  · next hmode =>
      subst hmode
      obtain rfl := h.eq_own rfl
      rfl
  · exact h

end DraftPart

/-- The shape of some lines: the sections that are done, and the last one with its items up to the
part in which the last lines stand. -/
structure Draft where
  done : List WrittenSection := []
  tags : List String := []
  items : List WrittenItem := []
  part : DraftPart := .own
  entries : List WrittenEntry := []

namespace Draft

def marks (draft : Draft) : List Mark :=
  draft.done.flatMap WrittenSection.marks ++ .section draft.tags
    :: (draft.items.flatMap WrittenItem.marks ++ draft.part.marks
      ++ draft.entries.map WrittenEntry.mark)

/-- The groups of the last part. -/
def opened (draft : Draft) : List Group :=
  draft.entries.flatMap WrittenEntry.opened

def groups (draft : Draft) : List Group :=
  match draft.part with
  | .own => draft.items.flatMap WrittenItem.opened ++ draft.opened
  | _ => draft.opened

/-- The last section of the text. -/
def own (draft : Draft) : Section where
  tags := draft.tags
  groups :=
    match draft.part with
    | .own => draft.items.flatMap WrittenItem.opened ++ draft.opened
    | _ => draft.items.flatMap WrittenItem.opened
  blocks := draft.items.filterMap WrittenItem.block?

/-- The sections that were imported into the last one. -/
def foreign (draft : Draft) : List Section :=
  draft.items.flatMap WrittenItem.foreign ++ draft.part.foreign
    ++ draft.entries.flatMap WrittenEntry.foreign

/-- The sections in front of the last one. -/
def before (draft : Draft) : List Section :=
  draft.done.flatMap WrittenSection.sections

/-- The last section, if it ends here. -/
def last (draft : Draft) : WrittenSection where
  tags := draft.tags
  items := draft.items ++ draft.entries.map .entry

def add (entry : WrittenEntry) (draft : Draft) : Draft :=
  { draft with entries := draft.entries ++ [entry] }

/-- The draft is the shape of a state whose groups hold no constraints. -/
structure Describes (draft : Draft) (s : ReadState) : Prop where
  sections : s.document.sections = draft.before ++ draft.own :: draft.foreign
  current : s.current = draft.before.length
  block : s.block = draft.part.block? draft.opened
  fits : draft.part.Fits s.mode

theorem marks_add (entry : WrittenEntry) (draft : Draft) :
    (draft.add entry).marks = draft.marks ++ [entry.mark] := by
  simp [marks, add]

theorem opened_add (entry : WrittenEntry) (draft : Draft) :
    (draft.add entry).opened = draft.opened ++ entry.opened := by
  simp [opened, add]

theorem groups_add (entry : WrittenEntry) (draft : Draft) :
    (draft.add entry).groups = draft.groups ++ entry.opened := by
  rw [groups, groups, opened_add]
  cases hpart : draft.part <;> simp [add, hpart]

theorem foreign_add (entry : WrittenEntry) (draft : Draft) :
    (draft.add entry).foreign = draft.foreign ++ entry.foreign := by
  simp [foreign, add]

theorem own_add_imported (sections : List Section) (draft : Draft) :
    (draft.add (.imported sections)).own = draft.own := by
  rw [own, own, opened_add]
  cases hpart : draft.part <;> simp [add, hpart, WrittenEntry.opened]

theorem marks_entries (entries : List WrittenEntry) :
    (entries.map WrittenItem.entry).flatMap WrittenItem.marks = entries.map WrittenEntry.mark := by
  rw [List.flatMap_map]
  exact (List.map_eq_flatMap ..).symm

theorem marks_last {draft : Draft} (h : draft.part = .own) :
    draft.marks = (draft.done ++ [draft.last]).flatMap WrittenSection.marks := by
  simp [marks, last, h, DraftPart.marks, WrittenSection.marks, marks_entries]

theorem sections_last {draft : Draft} (h : draft.part = .own) :
    draft.last.sections = draft.own :: draft.foreign := by
  simp [WrittenSection.sections, WrittenSection.own, last, own, foreign, h, DraftPart.foreign,
    List.flatMap_map, WrittenItem.foreign, WrittenItem.opened, WrittenItem.block?, opened]

section Describes

variable {draft : Draft} {s t : ReadState}

theorem modify_between {α : Type} (f : α → α) (before after : List α) (a : α) :
    (before ++ a :: after).modify before.length f = before ++ f a :: after := by
  rw [← Nat.zero_add before.length, modify_append_right]
  rfl

/-- A change of the current section is one of the last section of the draft. -/
theorem Describes.modifySection (h : draft.Describes s) (f : Section → Section) :
    (s.modifySection f).document.sections = draft.before ++ f draft.own :: draft.foreign := by
  change s.document.sections.modify s.current f = _
  rw [h.sections, h.current, modify_between]

/-- The groups of the last part are the current ones. A draft knows where the last lines stand, and
the state finds the same list through its mode. -/
theorem Describes.groups?_eq (h : draft.Describes s) (hmode : s.mode ≠ .objects) :
    s.groups? = some draft.groups := by
  obtain ⟨hsections, hcurrent, hblock, hfits⟩ := h
  obtain ⟨document, mode, current, block, openGroups, pending⟩ := s
  obtain rfl := hblock
  obtain rfl := hcurrent
  obtain ⟨done, tags, items, part, entries⟩ := draft
  cases part with
  | own =>
      have hown : document.sections[before ⟨done, tags, items, .own, entries⟩ |>.length]?
          = some (own ⟨done, tags, items, .own, entries⟩) := by
        rw [show document.sections = _ from hsections]
        simp
      cases mode with
      | start | groups => simp only [ReadState.groups?, hown]; rfl
      | objects => cases hmode rfl
      | statement | body | «otherwise» => cases hfits
  | statement before inverted =>
      obtain rfl := hfits
      simp [ReadState.groups?, DraftPart.block?, groups]
  | body conditions conditional =>
      obtain rfl := hfits
      simp [ReadState.groups?, DraftPart.block?, groups]
  | «otherwise» conditions conditional held =>
      obtain rfl := hfits
      simp [ReadState.groups?, DraftPart.block?, groups]

/-- Other groups in the last part are those of other entries there. What was imported into the part
has to stay the same. -/
theorem Describes.setGroups (h : draft.Describes s) (hmode : s.mode ≠ .objects)
    (entries : List WrittenEntry)
    (hforeign : entries.flatMap WrittenEntry.foreign
      = draft.entries.flatMap WrittenEntry.foreign) :
    { draft with entries }.Describes (s.setGroups { draft with entries }.groups) := by
  have hchange := h.modifySection fun sec => { sec with groups := { draft with entries }.groups }
  have hsame : { draft with entries }.foreign = draft.foreign := by
    simp only [foreign, hforeign]
  obtain ⟨hsections, hcurrent, hblock, hfits⟩ := h
  obtain ⟨document, mode, current, block, openGroups, pending⟩ := s
  obtain rfl := hblock
  obtain ⟨done, tags, items, part, entries'⟩ := draft
  cases part with
  | own =>
      cases mode with
      | start | groups => exact ⟨hsame ▸ hchange, hcurrent, rfl, rfl⟩
      | objects => cases hmode rfl
      | statement | body | «otherwise» => cases hfits
  | statement before inverted =>
      obtain rfl := hfits
      refine ⟨hsame ▸ hsections, hcurrent, ?_, rfl⟩
      simp only [ReadState.setGroups, DraftPart.block?, Option.map_some, List.length_append,
        List.length_singleton, Nat.add_sub_cancel, ReadState.modify_last]
      rfl
  | body conditions conditional =>
      obtain rfl := hfits
      exact ⟨hsame ▸ hsections, hcurrent, rfl, rfl⟩
  | «otherwise» conditions conditional held =>
      obtain rfl := hfits
      exact ⟨hsame ▸ hsections, hcurrent, rfl, rfl⟩

/-- Outside of blocks, what was added last is an item like the others. A section can be closed then,
or get another item. -/
theorem Describes.exists_settled (h : draft.Describes s) (hout : s.mode.inBlock = false) :
    ∃ settled : Draft, settled.Describes s ∧ settled.part = .own ∧ settled.entries = [] ∧
      settled.marks = draft.marks := by
  obtain ⟨hsections, hcurrent, hblock, hfits⟩ := h
  have hown := hfits.eq_own hout
  refine ⟨{ draft with items := draft.items ++ draft.entries.map .entry, entries := [] },
    ⟨?_, hcurrent, ?_, hfits⟩, hown, rfl, ?_⟩
  · rw [hsections]
    simp [before, own, foreign, hown, DraftPart.foreign, opened, List.flatMap_map,
      WrittenItem.opened, WrittenItem.foreign, WrittenItem.block?]
  · simp [hblock, hown, DraftPart.block?]
  · simp [marks, hown, DraftPart.marks, marks_entries]

theorem Describes.addImported (h : draft.Describes s) (more : List Section)
    (objects : ObjectTable) :
    (draft.add (.imported more)).Describes
      { s with document := ⟨objects, s.document.sections ++ more⟩ } := by
  obtain ⟨hsections, hcurrent, hblock, hfits⟩ := h
  refine ⟨?_, hcurrent, ?_, hfits⟩
  · rw [own_add_imported, foreign_add, hsections]
    simp [before, add, WrittenEntry.foreign]
  · rw [hblock, opened_add]
    simp [add, WrittenEntry.opened]

/-- Object definitions begin. -/
theorem Describes.startObjects (h : draft.Describes s) (hout : s.mode.inBlock = false) :
    ∃ next : Draft, next.Describes { s with mode := .objects, openGroups := none } ∧
      next.marks = draft.marks ++ [.objects] := by
  obtain ⟨settled, ⟨hsections, hcurrent, hblock, -⟩, hown, hnil, hmarks⟩ := h.exists_settled hout
  refine ⟨{ settled with items := settled.items ++ [.objects] }, ⟨?_, hcurrent, ?_, ?_⟩, ?_⟩
  · rw [hsections]
    simp [before, own, foreign, hown, WrittenItem.opened, WrittenItem.foreign,
      WrittenItem.block?, opened, hnil]
  · rw [hblock]
    rfl
  · simp [hown, DraftPart.Fits, ReadMode.inBlock]
  · rw [← hmarks]
    simp [marks, hown, hnil, DraftPart.marks, WrittenItem.marks]

/-- A section begins, and the one before it is done. This is possible outside of blocks only, where
the last section has no open item. -/
theorem Describes.openSection (h : draft.Describes s) (hout : s.mode.inBlock = false)
    (tags : List String) :
    ∃ next : Draft, next.Describes { s with
      document := { s.document with sections := s.document.sections ++ [{ tags }] }
      current := s.document.sections.length
      mode := .start
      openGroups := none } ∧ next.marks = draft.marks ++ [.section tags] := by
  have hown := h.fits.eq_own hout
  have hbefore : draft.before ++ draft.own :: draft.foreign
      = (draft.done ++ [draft.last]).flatMap WrittenSection.sections := by
    rw [List.flatMap_append, List.flatMap_singleton, sections_last hown]
    rfl
  refine ⟨{ done := draft.done ++ [draft.last], tags }, ⟨?_, ?_, ?_, rfl⟩, ?_⟩
  · rw [h.sections, hbefore]
    rfl
  · rw [before, h.sections, hbefore]
  · rw [h.block, hown]
    rfl
  · rw [marks_last hown]
    simp [marks, DraftPart.marks]

/-- A block begins. -/
theorem Describes.startBlock (h : draft.Describes s) (hout : s.mode.inBlock = false)
    (inverted : Bool) :
    ∃ next : Draft, next.Describes { s with
      block := some { statements := [{ inverted }] }, mode := .statement, openGroups := none } ∧
      next.marks = draft.marks ++ [.keyword (.statement false inverted)] := by
  obtain ⟨settled, ⟨hsections, hcurrent, -, -⟩, hown, hnil, hmarks⟩ := h.exists_settled hout
  refine ⟨{ settled with part := .statement [] inverted }, ⟨?_, hcurrent, ?_, rfl⟩, ?_⟩
  · rw [hsections]
    simp [before, own, foreign, hown, opened, hnil, DraftPart.foreign]
  · simp [DraftPart.block?, opened, hnil]
  · rw [← hmarks]
    simp [marks, hown, hnil, DraftPart.marks, WrittenCondition.marksOfAll]

/-- A block gets another condition. -/
theorem Describes.addCondition (h : draft.Describes s) (hmode : s.mode = .statement)
    {b : ConditionalBlock} (hb : s.block = some b) (inverted : Bool) :
    ∃ next : Draft, next.Describes { s with
      block := some { b with statements := b.statements ++ [{ inverted }] }, openGroups := none } ∧
      next.marks = draft.marks ++ [.keyword (.statement true inverted)] := by
  obtain ⟨hsections, hcurrent, hblock, hfits⟩ := h
  obtain ⟨before, first, hpart⟩ := (hmode ▸ hfits).exists_statement
  refine ⟨{ draft with
    part := .statement (before ++ [⟨first, draft.entries⟩]) inverted, entries := [] },
    ⟨?_, hcurrent, ?_, hmode⟩, ?_⟩
  · rw [hsections]
    simp [Draft.before, own, foreign, hpart, DraftPart.foreign, WrittenCondition.foreign]
  · rw [hpart, DraftPart.block?] at hblock
    obtain rfl := Option.some.inj (hb.symm.trans hblock)
    simp [DraftPart.block?, opened, WrittenCondition.statement]
  · simp [marks, hpart, DraftPart.marks, WrittenCondition.marksOfAll_concat,
      WrittenCondition.marks]

theorem Describes.startBody (h : draft.Describes s) (hmode : s.mode = .statement) :
    ∃ next : Draft, next.Describes { s with mode := .body, openGroups := none } ∧
      next.marks = draft.marks ++ [.keyword .body] := by
  obtain ⟨hsections, hcurrent, hblock, hfits⟩ := h
  obtain ⟨before, first, hpart⟩ := (hmode ▸ hfits).exists_statement
  refine ⟨{ draft with
    part := .body (before ++ [⟨first, draft.entries⟩]) (by simp), entries := [] },
    ⟨?_, hcurrent, ?_, rfl⟩, ?_⟩
  · rw [hsections]
    simp [Draft.before, own, foreign, hpart, DraftPart.foreign, WrittenCondition.foreign]
  · rw [hblock, hpart]
    simp [DraftPart.block?, opened, WrittenCondition.statement]
  · simp [marks, hpart, DraftPart.marks, WrittenCondition.marksOfAll_concat,
      WrittenCondition.marks]

theorem Describes.startOtherwise (h : draft.Describes s) (hmode : s.mode = .body)
    {b : ConditionalBlock} (hb : s.block = some b) :
    ∃ next : Draft, next.Describes { s with
      block := some { b with otherwise := some [] }, mode := .otherwise, openGroups := none } ∧
      next.marks = draft.marks ++ [.keyword .otherwise] := by
  obtain ⟨hsections, hcurrent, hblock, hfits⟩ := h
  obtain ⟨conditions, conditional, hpart⟩ := (hmode ▸ hfits).exists_body
  refine ⟨{ draft with part := .otherwise conditions conditional draft.entries, entries := [] },
    ⟨?_, hcurrent, ?_, rfl⟩, ?_⟩
  · rw [hsections]
    simp [before, own, foreign, hpart, DraftPart.foreign]
  · rw [hpart, DraftPart.block?] at hblock
    obtain rfl := Option.some.inj (hb.symm.trans hblock)
    simp [DraftPart.block?, opened]
  · simp [marks, hpart, DraftPart.marks]

/-- A block ends, and is the last item of its section. What follows are groups of the section or
another block. -/
theorem Describes.closeBlock (h : draft.Describes s) (hmode : s.mode = .body ∨ s.mode = .otherwise)
    {b : ConditionalBlock} (hb : s.block = some b) :
    ∃ next : Draft, next.Describes
      { s.modifySection (fun sec => { sec with blocks := sec.blocks ++ [b] }) with
        block := none, mode := .groups, openGroups := none } ∧
      next.marks = draft.marks ++ [.keyword .close] := by
  have hsections := h.modifySection fun sec => { sec with blocks := sec.blocks ++ [b] }
  obtain ⟨-, hcurrent, hblock, hfits⟩ := h
  rcases hmode with hmode | hmode
  · obtain ⟨conditions, conditional, hpart⟩ := (hmode ▸ hfits).exists_body
    rw [hpart, DraftPart.block?] at hblock
    obtain rfl := Option.some.inj (hb.symm.trans hblock)
    refine ⟨{ draft with
      items := draft.items ++ [.block ⟨conditions, conditional, draft.entries, none⟩]
      part := .own, entries := [] }, ⟨?_, hcurrent, rfl, rfl⟩, ?_⟩
    · rw [hsections]
      simp [before, own, foreign, hpart, DraftPart.foreign, WrittenItem.opened, opened,
        WrittenItem.foreign, WrittenItem.block?, WrittenBlock.block, WrittenBlock.foreign]
    · simp [marks, hpart, DraftPart.marks, WrittenItem.marks, WrittenBlock.marks]
  · obtain ⟨conditions, conditional, held, hpart⟩ := (hmode ▸ hfits).exists_otherwise
    rw [hpart, DraftPart.block?] at hblock
    obtain rfl := Option.some.inj (hb.symm.trans hblock)
    refine ⟨{ draft with
      items := draft.items ++ [.block ⟨conditions, conditional, held, some draft.entries⟩]
      part := .own, entries := [] }, ⟨?_, hcurrent, rfl, rfl⟩, ?_⟩
    · rw [hsections]
      simp [before, own, foreign, hpart, DraftPart.foreign, WrittenItem.opened, opened,
        WrittenItem.foreign, WrittenItem.block?, WrittenBlock.block, WrittenBlock.foreign]
    · simp [marks, hpart, DraftPart.marks, WrittenItem.marks, WrittenBlock.marks]

theorem outline_withConstraint (gs : List Group) (opened : OpenGroups) (c : Constraint) :
    (ReadState.withConstraint gs opened c).map Group.outline = gs.map Group.outline := by
  have heach : ∀ (gs : List Group) (cs : List Constraint),
      (ReadState.addEach gs cs).map Group.outline = gs.map Group.outline := by
    intro gs
    induction gs with
    | nil => intro cs; cases cs <;> rfl
    | cons g gs ih =>
        intro cs
        cases cs with
        | nil => rfl
        | cons c cs => rw [ReadState.addEach, List.map_cons, List.map_cons, ih]; rfl
  rw [ReadState.withConstraint, List.map_append, heach, ← List.map_append, List.take_append_drop]

theorem outline_openedGroups (pattern : String) (values : List String) :
    (ReadState.openedGroups pattern values).map Group.outline
      = ReadState.openedGroups pattern values := by
  rw [ReadState.openedGroups]
  split
  · rfl
  · rw [List.map_map]
    rfl

/-- The marker behind object definitions opens a section without tags. -/
theorem sections_of_marker {context : ReadContext} {number : Nat} {raw : List Char}
    (hkind : LineKind.of raw = .marker) (hmode : s.mode = .objects)
    (h : s.step context number raw = .ok t) :
    t.document.sections = s.document.sections ++ [({} : Section)] := by
  simp only [ReadState.step, hkind] at h
  rw [ReadState.toggleObjects, if_neg (by simp [hmode, ReadMode.inBlock]), if_pos hmode,
    ReadState.openSection, if_neg (by simp [hmode, ReadMode.inBlock])] at h
  cases hpending : s.checkNoPending number with
  | error e => simp [hpending, bind, Except.bind] at h
  | ok _ =>
      simp only [hpending, bind, Except.bind] at h
      obtain rfl := Except.ok.inj h
      rfl

theorem Describes.groups_eq {gs : List Group} (h : draft.Describes (s.mapGroups Group.outline))
    (hgroups : s.groups? = some gs) : gs.map Group.outline = draft.groups := by
  have hmode : s.mode ≠ .objects := ReadState.not_objects_of_groups hgroups
  have heq := h.groups?_eq hmode
  rw [ReadState.groups?_mapGroups, hgroups] at heq
  exact Option.some.inj heq

theorem lineMark_of_import {context : ReadContext} {raw : List Char} {rel : Path} {d : Document}
    (hpath : (LineKind.of raw).importPath? = some rel)
    (hspec : context.importSpec (.from? context.base rel) = .ok d) (inside : Bool)
    (values : List String) :
    ReadState.lineMark context inside values raw
      = some (.imported (d.sections.map Section.outline)) := by
  obtain ⟨text, hkind, -⟩ := LineKind.of_importPath? hpath
  rw [hkind] at hpath
  simp only [ReadState.lineMark, hkind, hpath, bind, Option.bind, hspec]
  rfl

theorem mapGroups_merge (s : ReadState) (d : Document) :
    ReadState.mapGroups Group.outline { s with document := s.document.merge d }
      = { s.mapGroups Group.outline with
          document := ⟨s.document.objects.merge d.objects,
            (s.mapGroups Group.outline).document.sections
              ++ d.sections.map Section.outline⟩ } := by
  simp only [ReadState.mapGroups, Document.merge, List.map_append]
  rfl

theorem mapGroups_addSection (s : ReadState) (tags : List String) :
    ReadState.mapGroups Group.outline { s with
        document := { s.document with sections := s.document.sections ++ [{ tags }] }
        current := s.document.sections.length
        mode := .start
        openGroups := none }
      = { s.mapGroups Group.outline with
          document := { (s.mapGroups Group.outline).document with
            sections := (s.mapGroups Group.outline).document.sections ++ [{ tags }] }
          current := (s.mapGroups Group.outline).document.sections.length
          mode := .start
          openGroups := none } := by
  simp only [ReadState.mapGroups, List.map_append, List.length_map]
  rfl

theorem mapGroups_addStatement (b : ConditionalBlock) (inverted : Bool) :
    ConditionalBlock.mapGroups Group.outline
        { b with statements := b.statements ++ [{ inverted }] }
      = { b.mapGroups Group.outline with
          statements := (b.mapGroups Group.outline).statements ++ [{ inverted }] } := by
  simp [ConditionalBlock.mapGroups]

theorem mapGroups_addBlock (s : ReadState) (b : ConditionalBlock) :
    (s.mapGroups Group.outline).modifySection
        (fun sec => { sec with blocks := sec.blocks ++ [b.mapGroups Group.outline] })
      = (s.modifySection fun sec => { sec with blocks := sec.blocks ++ [b] }).mapGroups
        Group.outline :=
  ReadState.modifySection_mapGroups (fun sec => by simp [Section.mapGroups]) s

/-- Groups that a line opens are one more entry of the last part. They hold no constraints yet, so
that they are their own outline. -/
theorem Describes.openGroups {gs : List Group} (h : draft.Describes (s.mapGroups Group.outline))
    (hgroups : s.groups? = some gs) (pattern : String) (values : List String) :
    (draft.add (.groups (ReadState.openedGroups pattern values))).Describes
      ((s.withOpened gs pattern values).mapGroups Group.outline) := by
  have hmode := ReadState.not_objects_of_groups hgroups
  let opened := ReadState.openedGroups pattern values
  have hadded : (draft.add (.groups opened)).groups = (gs ++ opened).map Group.outline := by
    rw [groups_add, List.map_append, h.groups_eq hgroups, outline_openedGroups]
    rfl
  have hnext := h.setGroups hmode (draft.entries ++ [.groups opened])
    (by simp [WrittenEntry.foreign])
  change (draft.add (.groups opened)).Describes
    ((s.mapGroups Group.outline).setGroups (draft.add (.groups opened)).groups) at hnext
  rw [hadded, ReadState.setGroups_mapGroups] at hnext
  exact ⟨hnext.sections, hnext.current, hnext.block, hnext.fits.settled⟩

/-- Each line adds its mark. The state is taken without its constraints, and so are the groups of
the draft; a line that is a constraint or says nothing has no mark and leaves the draft as it is. -/
theorem Describes.step {context : ReadContext} {number : Nat} {raw : List Char}
    (h : draft.Describes (s.mapGroups Group.outline)) (hstep : s.step context number raw = .ok t) :
    ∃ next : Draft, next.Describes (t.mapGroups Group.outline) ∧
      next.marks = draft.marks
        ++ (ReadState.lineMark context (s.mode = .objects) (s.pending.getD []) raw).toList := by
  have hchange := ReadState.change_of_step hstep
  have hblock {b : ConditionalBlock} (hb : s.block = some b) :
      (s.mapGroups Group.outline).block = some (b.mapGroups Group.outline) := by
    rw [ReadState.mapGroups, hb]
    rfl
  cases hchange with
  | nothing hkind =>
      refine ⟨draft, h, ?_⟩
      rcases hkind with hkind | hkind <;> simp [ReadState.lineMark, hkind]
  | «import» d hkind himport =>
      obtain ⟨rel, hrel, hspec⟩ := himport
      have hnext := h.addImported (d.sections.map Section.outline)
        (s.document.objects.merge d.objects)
      rw [← mapGroups_merge] at hnext
      exact ⟨_, hnext, by rw [marks_add, lineMark_of_import hrel hspec]; rfl⟩
  | startObjects hout hkind hmode =>
      obtain ⟨next, hnext, hmarks⟩ := h.startObjects hout
      exact ⟨next, hnext, by simp [hmarks, ReadState.lineMark, hkind, hmode]⟩
  | define name text l hidle hdirective hcut hreserved hlocator hmarker hmode =>
      refine ⟨draft, ⟨h.sections, h.current, h.block, h.fits⟩, ?_⟩
      rw [decide_eq_true hmode]
      cases hkind : LineKind.of raw with
      | directive rest => exact absurd hkind (hdirective rest)
      | marker => exact absurd hkind hmarker
      | _ => simp [ReadState.lineMark, hkind]
  | openSection tags htags hout hkind =>
      obtain ⟨next, hnext, hmarks⟩ :=
        h.openSection hout ((Text.items ',' tags).map String.ofList)
      rw [← mapGroups_addSection] at hnext
      refine ⟨next, hnext, ?_⟩
      rw [hmarks]
      rcases hkind with ⟨hkind, hmode⟩ | ⟨hkind, hmode⟩
      · have htags := List.append_cancel_left (sections_of_marker hkind hmode hstep)
        simp [ReadState.lineMark, hkind, hmode, (Section.mk.inj (List.cons.inj htags).1).1]
      · simp [ReadState.lineMark, hkind, hmode]
  | parameters values hkind hvalues hmode =>
      exact ⟨draft, ⟨h.sections, h.current, h.block, h.fits⟩, by simp [ReadState.lineMark, hkind]⟩
  | firstStatement inverted hout hkind hmode =>
      obtain ⟨next, hnext, hmarks⟩ := h.startBlock hout inverted
      exact ⟨next, hnext, by simp [hmarks, ReadState.lineMark, hkind, hmode]⟩
  | nextStatement inverted b hb hmode hkind =>
      obtain ⟨next, hnext, hmarks⟩ := h.addCondition hmode (hblock hb) inverted
      rw [← mapGroups_addStatement] at hnext
      exact ⟨next, hnext, by simp [hmarks, ReadState.lineMark, hkind, hmode]⟩
  | body hmode hkind =>
      obtain ⟨next, hnext, hmarks⟩ := h.startBody hmode
      exact ⟨next, hnext, by simp [hmarks, ReadState.lineMark, hkind, hmode]⟩
  | «otherwise» b hb hmode hkind =>
      obtain ⟨next, hnext, hmarks⟩ := h.startOtherwise hmode (hblock hb)
      exact ⟨next, hnext, by simp [hmarks, ReadState.lineMark, hkind, hmode]⟩
  | close b hb hmode hkind =>
      obtain ⟨next, hnext, hmarks⟩ := h.closeBlock hmode (hblock hb)
      rw [mapGroups_addBlock] at hnext
      have hmark : next.marks = draft.marks
          ++ (ReadState.lineMark context (s.mode = .objects) (s.pending.getD []) raw).toList := by
        rcases hmode with hmode | hmode <;> simp [hmarks, ReadState.lineMark, hkind, hmode]
      exact ⟨next, hnext, hmark⟩
  | constraint gs opened c hgroups hopened hparse hkind =>
      have hmode := ReadState.not_objects_of_groups hgroups
      have hnext := h.setGroups hmode draft.entries rfl
      refine ⟨draft, ?_, by simp [ReadState.lineMark, hkind]⟩
      rw [← ReadState.setGroups_mapGroups, outline_withConstraint, h.groups_eq hgroups]
      exact hnext
  | openGroups gs hkind hgroups hne =>
      have hout : decide (s.mode = .objects) = false :=
        decide_eq_false (ReadState.not_objects_of_groups hgroups)
      refine ⟨_, h.openGroups hgroups _ _, ?_⟩
      rw [marks_add, hout]
      simp [ReadState.lineMark, hkind, WrittenEntry.mark]

theorem Describes.reads {context : ReadContext} {lines : List (List Char)}
    (h : draft.Describes (s.mapGroups Group.outline)) (hreads : ReadState.Reads context lines s t) :
    ∃ next : Draft, next.Describes (t.mapGroups Group.outline) ∧
      next.marks = draft.marks
        ++ ReadState.marks context (s.mode = .objects) (s.pending.getD []) lines := by
  induction hreads generalizing draft with
  | nil s => exact ⟨draft, h, (List.append_nil _).symm⟩
  | @cons _ raw rest s t u hstep _ ih =>
      obtain ⟨next, hnext, hmarks⟩ := h.step hstep
      obtain ⟨last, hlast, hrest⟩ := ih hnext
      have hchange := ReadState.change_of_step hstep
      have hvalues : ReadState.waitingValues (s.mode = .objects) (s.pending.getD []) [raw]
          = t.pending.getD [] := ReadState.waitingValues_change hchange []
      refine ⟨last, hlast, ?_⟩
      rw [hrest, hmarks, ReadState.marks, ReadState.insideAfter_change hchange, hvalues,
        List.append_assoc]

end Describes

end Draft

/-- Where a text can end, what was read has the shape of some written sections. Their marks are
those of the lines, and what they stand for is what the reader has in its document, without the
constraints. -/
theorem ReadState.Reads.exists_written {context : ReadContext} {lines : List (List Char)}
    {s : ReadState} (h : Reads context lines .initial s) (hout : s.mode.inBlock = false) :
    ∃ written : List WrittenSection,
      context.marks lines = written.flatMap WrittenSection.marks ∧
      s.document.sections.map Section.outline = written.flatMap WrittenSection.sections := by
  have hinitial : Draft.Describes {} (initial.mapGroups Group.outline) := ⟨rfl, rfl, rfl, rfl⟩
  obtain ⟨draft, hdraft, hmarks⟩ := hinitial.reads h
  have hown := hdraft.fits.eq_own hout
  refine ⟨draft.done ++ [draft.last], ?_, ?_⟩
  · rw [← Draft.marks_last hown, hmarks]
    rfl
  · rw [List.flatMap_append, List.flatMap_singleton, Draft.sections_last hown]
    exact hdraft.sections

end LayoutSpec
