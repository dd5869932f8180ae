import LayoutSpec.Proofs.Document.Draft

/-!
Which texts are read. The marks of an accepted text are those of some written sections, with whole
blocks in them, and the sections of the document are these. A text whose lines are well formed is
accepted if its marks are of this kind.
-/

namespace LayoutSpec

open Text

/-- The mode, without a difference between those outside of blocks. -/
def ReadMode.inShape (mode : ReadMode) : ReadMode :=
  if mode.inBlock then mode else .groups

namespace Mark

/-- Where a mark leads from a mode, if it has a place there. -/
def next? : ReadMode → Mark → Option ReadMode
  | mode, .groups _ | mode, .imported _ => some mode
  | .groups, .section _ | .groups, .objects => some .groups
  | .groups, .keyword (.statement false _) => some .statement
  | .statement, .keyword (.statement true _) => some .statement
  | .statement, .keyword .body => some .body
  | .body, .keyword .otherwise => some .otherwise
  | .body, .keyword .close | .otherwise, .keyword .close => some .groups
  | _, _ => none

/-- Sections and object definitions begin outside of blocks only. -/
theorem of_next?_section {mode next : ReadMode} {tags : List String}
    (h : (Mark.section tags).next? mode = some next) : mode = .groups ∧ next = .groups := by
  cases mode with
  | groups => exact ⟨rfl, (Option.some.inj h).symm⟩
  | _ => cases h

theorem of_next?_objects {mode next : ReadMode} (h : Mark.objects.next? mode = some next) :
    mode = .groups ∧ next = .groups := by
  cases mode with
  | groups => exact ⟨rfl, (Option.some.inj h).symm⟩
  | _ => cases h

/-- Where some marks lead. -/
def follow? (mode : ReadMode) (marks : List Mark) : Option ReadMode :=
  marks.foldlM next? mode

theorem follow?_append (mode : ReadMode) (first rest : List Mark) :
    follow? mode (first ++ rest) = (follow? mode first).bind fun next => follow? next rest :=
  List.foldlM_append

theorem follow?_cons (mode : ReadMode) (mark : Mark) (rest : List Mark) :
    follow? mode (mark :: rest) = (next? mode mark).bind fun next => follow? next rest :=
  List.foldlM_cons

theorem follow?_singleton (mode : ReadMode) (mark : Mark) :
    follow? mode [mark] = next? mode mark := by
  rw [follow?_cons]
  exact Option.bind_fun_some (next? mode mark)

/-- Marks that lead back one after the other do so together. Items of a section lead back to where
they started, however many there are. -/
theorem follow?_flatMap {α : Type} {f : α → List Mark} {mode : ReadMode}
    (h : ∀ a, follow? mode (f a) = some mode) (xs : List α) :
    follow? mode (xs.flatMap f) = some mode := by
  induction xs with
  | nil => rfl
  | cons a xs ih => rw [List.flatMap_cons, follow?_append, h, Option.bind_some, ih]

theorem follow?_entries (mode : ReadMode) (entries : List WrittenEntry) :
    follow? mode (entries.map WrittenEntry.mark) = some mode := by
  induction entries with
  | nil => rfl
  | cons entry entries ih =>
      rw [List.map_cons, follow?_cons]
      cases entry <;> exact ih

theorem follow?_condition (mode : ReadMode) (chained : Bool) (c : WrittenCondition) :
    follow? mode (c.marks chained) = next? mode (.keyword (.statement chained c.inverted)) := by
  rw [WrittenCondition.marks, follow?_cons]
  cases next? mode (.keyword (.statement chained c.inverted)) with
  | none => rfl
  | some next => exact follow?_entries next c.entries

theorem follow?_conditions {cs : List WrittenCondition} (h : cs ≠ []) :
    follow? .groups (WrittenCondition.marksOfAll cs) = some .statement := by
  obtain ⟨first, more, rfl⟩ := List.exists_cons_of_ne_nil h
  rw [WrittenCondition.marksOfAll, follow?_append, follow?_condition]
  exact follow?_flatMap (fun c => follow?_condition .statement true c) more

theorem follow?_block (b : WrittenBlock) : follow? .groups b.marks = some .groups := by
  rw [WrittenBlock.marks, follow?_append, follow?_append, follow?_append,
    follow?_conditions b.conditional, Option.bind_some, follow?_cons]
  change ((((follow? .body (b.body.map WrittenEntry.mark)).bind _).bind _)) = _
  rw [follow?_entries, Option.bind_some]
  cases b.otherwise with
  | none => rfl
  | some entries =>
      change (follow? .otherwise (entries.map WrittenEntry.mark)).bind _ = _
      rw [follow?_entries]
      rfl

theorem follow?_sections (written : List WrittenSection) :
    follow? .groups (written.flatMap WrittenSection.marks) = some .groups := by
  refine follow?_flatMap (fun sec => ?_) written
  rw [WrittenSection.marks, follow?_cons]
  refine follow?_flatMap (fun item => ?_) sec.items
  cases item with
  | entry entry => exact follow?_entries .groups [entry]
  | objects => rfl
  | block b => exact follow?_block b

end Mark

namespace ReadState

/-- Whether constraints have a group behind a line. -/
def openedAfter (inside opened : Bool) (raw : List Char) : Bool :=
  match LineKind.of raw, inside with
  | .marker, _ | .tags _, false | .keyword _, false => false
  | .name, false => true
  | _, _ => opened

/-- Whether a line is well formed by itself: it is no instruction and no parameter line, and what it
defines, names or says is read. A constraint needs a group above it in the same part. -/
def isWellFormed (base : Option Path) (inside opened : Bool) (raw : List Char) : Bool :=
  match LineKind.of raw, inside with
  | .idle, _ | .marker, _ => true
  | .directive _, _ => false
  | _, true => (definition (trim raw)).isOk
  | .tags _, false | .separator, false | .keyword _, false => true
  | .parameters, false => false
  | .constraint, false => opened && (Constraint.parse base (trim raw)).isOk
  | .name, false => !(groupPattern (trim raw)).isEmpty

def areWellFormed (base : Option Path) : Bool → Bool → List (List Char) → Bool
  | _, _, [] => true
  | inside, opened, raw :: rest =>
    isWellFormed base inside opened raw
      && areWellFormed base (insideAfter inside raw) (openedAfter inside opened raw) rest

variable {context : ReadContext} {raw : List Char} {s t : ReadState} {mode : ReadMode}

theorem inBlock_eq_false (h : s.mode.inShape = .groups) : s.mode.inBlock = false := by
  cases hblock : s.mode.inBlock with
  | false => rfl
  | true =>
      rw [ReadMode.inShape, if_pos hblock] at h
      rw [h] at hblock
      cases hblock

theorem exists_openSection (hout : s.mode.inBlock = false) (hpending : s.pending = none)
    (number : Nat) (tags : List Char) :
    ∃ t, s.openSection number tags = .ok t ∧ t.pending = none ∧ t.mode = .start := by
  simp only [openSection, hout, checkNoPending, hpending]
  exact ⟨_, rfl, rfl, rfl⟩

theorem exists_toggleObjects (hout : s.mode.inBlock = false) (hpending : s.pending = none)
    (number : Nat) :
    ∃ t, s.toggleObjects number = .ok t ∧ t.pending = none ∧ t.mode.inBlock = false := by
  rw [toggleObjects, if_neg (by simp [hout])]
  split
  · obtain ⟨t, ht, hnone, hmode⟩ := exists_openSection hout hpending number []
    exact ⟨t, ht, hnone, by rw [hmode]; rfl⟩
  · exact ⟨_, rfl, hpending, rfl⟩

theorem exists_defineObject {line : List Char} {entry : String × Locator}
    (h : definition line = .ok entry) (number : Nat) :
    ∃ t, s.defineObject number line = .ok t ∧ t.pending = s.pending ∧ t.mode = s.mode ∧
      t.openGroups = s.openGroups := by
  rw [defineObject_eq, h]
  exact ⟨_, rfl, rfl, rfl, rfl⟩

theorem exists_openGroup (hs : s.Shaped) (hmode : s.mode ≠ .objects) {line : List Char}
    (hname : (groupPattern line).isEmpty = false) (number : Nat) :
    ∃ t, s.openGroup number line = .ok t ∧ t.pending = none ∧ t.openGroups.isSome = true ∧
      t.mode.inShape = s.mode.inShape := by
  obtain ⟨gs, hgroups⟩ := hs.exists_groups hmode
  simp only [openGroup, hgroups, hname]
  refine ⟨_, rfl, rfl, rfl, ?_⟩
  simp only [mode_setGroups]
  split
  · next hstart => rw [hstart]; rfl
  · rfl

theorem exists_addConstraint (hs : s.Shaped) (hmode : s.mode ≠ .objects)
    (hopened : s.openGroups.isSome = true) {base : Option Path} {line : List Char}
    {c : Constraint} (hparse : Constraint.parse base line = .ok c) (number : Nat) :
    ∃ t, s.addConstraint base number line = .ok t ∧ t.pending = s.pending ∧
      t.openGroups = s.openGroups ∧ t.mode = s.mode := by
  obtain ⟨gs, hgroups⟩ := hs.exists_groups hmode
  obtain ⟨opened, hopened⟩ := Option.isSome_iff_exists.mp hopened
  simp only [addConstraint, hopened, hparse, onLine_ok, bind, Except.bind, hgroups]
  exact ⟨_, rfl, pending_setGroups _, (openGroups_setGroups _).trans hopened, mode_setGroups _⟩

/-- A keyword with a place in the shape is read. -/
theorem exists_applyKeyword (hs : s.Shaped) {keyword : BlockKeyword}
    (h : (Mark.keyword keyword).next? s.mode.inShape = some mode) (number : Nat) :
    ∃ t, s.applyKeyword number keyword = .ok t ∧ t.pending = s.pending ∧ t.mode.inShape = mode := by
  have hblock : s.mode.inBlock = true → ∃ b, s.block = some b := fun h =>
    (hs.exists_block h).imp fun _ hb => hb.1
  obtain ⟨document, now, current, block, openGroups, pending⟩ := s
  cases now with
  | start | objects | groups =>
      rcases keyword with ⟨_ | _, inverted⟩ | _ | _ | _ <;>
        first | exact ⟨_, rfl, rfl, Option.some.inj h⟩ | cases h
  | statement | body | «otherwise» =>
      obtain ⟨b, rfl⟩ := hblock rfl
      rcases keyword with ⟨_ | _, inverted⟩ | _ | _ | _ <;>
        first | exact ⟨_, rfl, rfl, Option.some.inj h⟩ | cases h

/-- What holds in front of a well-formed line: no parameters wait, and constraints have a group if
one was opened. -/
structure Ready (opened : Bool) (s : ReadState) : Prop where
  coherent : s.Coherent
  quiet : s.pending = none
  grouped : opened = true → s.openGroups.isSome = true

theorem isOk_iff {ε α : Type} {x : Except ε α} : x.isOk = true ↔ ∃ a, x = .ok a := by
  cases x with
  | error e => simp [Except.isOk, Except.toBool]
  | ok a => simp [Except.isOk, Except.toBool]

structure StepsTo (context : ReadContext) (raw : List Char) (s : ReadState) (opened : Bool)
    (mode : ReadMode) (t : ReadState) : Prop where
  step : s.step context 0 raw = .ok t
  quiet : t.pending = none
  grouped : opened = true → t.openGroups.isSome = true
  mode : t.mode.inShape = mode

theorem inShape_eq_groups (h : s.mode.inBlock = false) : s.mode.inShape = .groups :=
  if_neg (by simp [h])

/-- A well-formed line between object markers is read. It defines an object, closes the definitions
or says nothing. -/
theorem exists_step_inside {opened : Bool} (hs : s.Ready opened) (hmode : s.mode = .objects)
    (hline : isWellFormed context.base true opened raw = true)
    (hmark : Mark.follow? .groups (lineMark context true [] raw).toList = some mode) :
    ∃ t, s.StepsTo context raw (openedAfter true opened raw) mode t := by
  have hout : s.mode.inBlock = false := by
    rw [hmode]
    rfl
  have hdefinition (hkind : (LineKind.of raw).isDefinition = true)
      (hok : (definition (trim raw)).isOk = true) (hopened : openedAfter true opened raw = opened)
      (hnone : lineMark context true [] raw = none) :
      ∃ t, s.StepsTo context raw (openedAfter true opened raw) mode t := by
    obtain ⟨entry, hentry⟩ := isOk_iff.mp hok
    obtain ⟨t, ht, hpending, hsame, hgroups⟩ := exists_defineObject hentry 0
    rw [hnone] at hmark
    refine ⟨t, ?_, hpending.trans hs.quiet, ?_, ?_⟩
    · rw [step_definition hkind hmode, ht]
    · rw [hopened, hgroups]
      exact hs.grouped
    · rw [hsame, inShape_eq_groups hout]
      exact Option.some.inj hmark
  cases hkind : LineKind.of raw with
  | idle =>
      simp only [lineMark, hkind] at hmark
      refine ⟨s, by simp only [ReadState.step, hkind], hs.quiet, ?_, ?_⟩
      · simpa only [openedAfter, hkind] using hs.grouped
      · rw [inShape_eq_groups hout]
        exact Option.some.inj hmark
  | directive text => simp [isWellFormed, hkind] at hline
  | marker =>
      obtain ⟨t, ht, hquiet, hblock⟩ := exists_toggleObjects hout hs.quiet 0
      simp only [lineMark, hkind] at hmark
      refine ⟨t, by simp only [ReadState.step, hkind, ht], hquiet, ?_, ?_⟩
      · simp [openedAfter, hkind]
      · rw [inShape_eq_groups hblock]
        exact Option.some.inj hmark
  | tags | separator | parameters | keyword | constraint | name =>
      simp only [isWellFormed, hkind] at hline
      exact hdefinition (by rw [hkind]; rfl) hline (by simp [openedAfter, hkind])
        (by simp [lineMark, hkind])

/-- A well-formed line outside of object definitions is read if its mark has a place. The mode
decides about keywords only; what else can be wrong with a line is excluded by its being
well-formed. -/
theorem exists_step_outside {opened : Bool} (hs : s.Ready opened) (hmode : s.mode ≠ .objects)
    (hline : isWellFormed context.base false opened raw = true)
    (hmark : Mark.follow? s.mode.inShape (lineMark context false [] raw).toList = some mode) :
    ∃ t, s.StepsTo context raw (openedAfter false opened raw) mode t := by
  have hshaped := hs.coherent.toShaped
  have hnext {mark : Mark} (h : Mark.follow? s.mode.inShape [mark] = some mode) :
      mark.next? s.mode.inShape = some mode :=
    (Mark.follow?_singleton _ mark).symm.trans h
  cases hkind : LineKind.of raw with
  | idle =>
      simp only [lineMark, hkind] at hmark
      refine ⟨s, by simp only [ReadState.step, hkind], hs.quiet, ?_, Option.some.inj hmark⟩
      simpa only [openedAfter, hkind] using hs.grouped
  | separator =>
      simp only [lineMark, hkind] at hmark
      refine ⟨s, by simp only [ReadState.step, hkind, if_neg hmode], hs.quiet, ?_,
        Option.some.inj hmark⟩
      simpa only [openedAfter, hkind] using hs.grouped
  | directive text => simp [isWellFormed, hkind] at hline
  | parameters => simp [isWellFormed, hkind] at hline
  | marker =>
      simp only [lineMark, hkind] at hmark
      obtain ⟨hshape, rfl⟩ := Mark.of_next?_objects (hnext hmark)
      obtain ⟨t, ht, hquiet, hblock⟩ := exists_toggleObjects (inBlock_eq_false hshape) hs.quiet 0
      refine ⟨t, by simp only [ReadState.step, hkind, ht], hquiet, ?_,
        inShape_eq_groups hblock⟩
      simp [openedAfter, hkind]
  | tags text =>
      simp only [lineMark, hkind] at hmark
      obtain ⟨hshape, rfl⟩ := Mark.of_next?_section (hnext hmark)
      obtain ⟨t, ht, hquiet, hstart⟩ :=
        exists_openSection (inBlock_eq_false hshape) hs.quiet 0 text
      refine ⟨t, by simp only [ReadState.step, hkind, if_neg hmode, ht], hquiet, ?_, ?_⟩
      · simp [openedAfter, hkind]
      · rw [hstart]
        rfl
  | keyword keyword =>
      simp only [lineMark, hkind] at hmark
      obtain ⟨t, ht, hpending, hnextMode⟩ := exists_applyKeyword hshaped (hnext hmark) 0
      refine ⟨t, by simp only [ReadState.step, hkind, if_neg hmode, ht],
        hpending.trans hs.quiet, ?_, hnextMode⟩
      simp [openedAfter, hkind]
  | constraint =>
      simp only [lineMark, hkind] at hmark
      simp only [isWellFormed, hkind, Bool.and_eq_true] at hline
      obtain ⟨c, hparse⟩ := isOk_iff.mp hline.2
      obtain ⟨t, ht, hpending, hgroups, hsame⟩ :=
        exists_addConstraint hshaped hmode (hs.grouped hline.1) hparse 0
      refine ⟨t, by simp only [ReadState.step, hkind, if_neg hmode, ht],
        hpending.trans hs.quiet, ?_, ?_⟩
      · simpa only [openedAfter, hkind, hgroups] using hs.grouped
      · rw [hsame]
        exact Option.some.inj hmark
  | name =>
      simp only [lineMark, hkind] at hmark
      simp only [isWellFormed, hkind, Bool.not_eq_true'] at hline
      obtain ⟨t, ht, hquiet, hgroups, hsame⟩ := exists_openGroup hshaped hmode hline 0
      refine ⟨t, by simp only [ReadState.step, hkind, if_neg hmode, ht], hquiet,
        fun _ => hgroups, ?_⟩
      rw [hsame]
      exact Option.some.inj (hnext hmark)

/-- A well-formed line is read if its mark has a place in the shape. Lines without a mark are read
wherever they stand. -/
theorem exists_step {opened : Bool} (hs : s.Ready opened)
    (hline : isWellFormed context.base (s.mode = .objects) opened raw = true)
    (hmark : Mark.follow? s.mode.inShape (lineMark context (s.mode = .objects) [] raw).toList
      = some mode) :
    ∃ t, s.StepsTo context raw (openedAfter (s.mode = .objects) opened raw) mode t := by
  by_cases hmode : s.mode = .objects
  · rw [decide_eq_true hmode] at hline hmark ⊢
    rw [hmode] at hmark
    exact exists_step_inside hs hmode hline hmark
  · rw [decide_eq_false hmode] at hline hmark ⊢
    exact exists_step_outside hs hmode hline hmark

/-- Well-formed lines are read if their marks have their places in the shape. Marks are followed
from the mode without the difference between the modes outside of blocks, which no keyword tells
apart. -/
theorem Ready.exists_reads {opened : Bool} {lines : List (List Char)} (hs : s.Ready opened)
    (hlines : areWellFormed context.base (s.mode = .objects) opened lines = true)
    (hmarks : Mark.follow? s.mode.inShape (marks context (s.mode = .objects) [] lines)
      = some mode) :
    ∃ t, Reads context lines s t ∧ t.pending = none ∧ t.mode.inShape = mode := by
  induction lines generalizing s opened with
  | nil => exact ⟨s, .nil s, hs.quiet, Option.some.inj hmarks⟩
  | cons raw rest ih =>
      rw [areWellFormed, Bool.and_eq_true] at hlines
      rw [marks, Mark.follow?_append] at hmarks
      obtain ⟨next, hmark, hrest⟩ := Option.bind_eq_some_iff.mp hmarks
      obtain ⟨t, hstep, hquiet, hgrouped, rfl⟩ := exists_step hs hlines.1 hmark
      have hchange := change_of_step hstep
      have ht : t.Ready (openedAfter (s.mode = .objects) opened raw) :=
        ⟨hs.coherent.change hchange, hquiet, hgrouped⟩
      have hvalues : waitingValues (s.mode = .objects) [] [raw] = [] := by
        have hwaiting := waitingValues_change hchange []
        rw [hs.quiet, hquiet] at hwaiting
        exact hwaiting
      rw [insideAfter_change hchange] at hlines hrest
      rw [hvalues] at hrest
      obtain ⟨u, hreads, hu⟩ := ih ht hlines.2 hrest
      exact ⟨u, .cons hstep hreads, hu⟩

end ReadState

namespace Document

open ReadState

theorem outline_prune (d : Document) :
    d.prune.sections.map Section.outline
      = (d.sections.map Section.outline).filter (!·.isEmpty) := by
  rw [prune, List.filter_map]
  congr 1
  exact List.filter_congr fun sec _ => congrArg (!·) (Section.isEmpty_mapGroups _ sec).symm

/-- Conditional blocks follow their grammar. The marks of a text that is read are those of written
sections, in which blocks are whole and hold no section and no object definitions; and the sections
of the document are these sections with the groups and blocks that are written in them, each
followed by the ones that it imports, without the sections in which nothing is asserted. A text of
well-formed lines, without imports and parameters, is read if its marks are of this kind. A text
that is in no file has an empty chain. -/
theorem readWithin_follows_grammar (tree : FileTree) (chain : List FileKey) (base : Option Path)
    (text : String) :
    (∀ d, readWithin tree chain base text = .ok d → ∃ written : List WrittenSection,
      ReadContext.marks ⟨base, importWithin tree chain⟩ (Text.lines text.toList)
        = written.flatMap WrittenSection.marks ∧
      d.sections.map Section.outline
        = (written.flatMap WrittenSection.sections).filter (!·.isEmpty)) ∧
    (areWellFormed base false false (Text.lines text.toList) = true →
      (∃ written : List WrittenSection,
        ReadContext.marks ⟨base, importWithin tree chain⟩ (Text.lines text.toList)
          = written.flatMap WrittenSection.marks) →
      ∃ d, readWithin tree chain base text = .ok d) := by
  constructor
  · intro d h
    rw [readWithin_eq, ofLines_eq_ok_iff] at h
    obtain ⟨s, hreads, hend⟩ := h
    obtain ⟨hout, -, rfl⟩ := finish_eq_ok_iff.mp hend
    obtain ⟨written, hmarks, hsections⟩ := hreads.exists_written hout
    exact ⟨written, hmarks, by rw [outline_prune, hsections]⟩
  · rintro hlines ⟨written, hmarks⟩
    have hnone : Reads ⟨base, importWithin tree chain⟩ [] .initial .initial := .nil _
    have hinitial : initial.Ready false := ⟨hnone.coherent, rfl, by simp⟩
    have hfollow := Mark.follow?_sections written
    rw [← hmarks, ReadContext.marks, Mark.follow?_cons] at hfollow
    obtain ⟨s, hreads, hquiet, hmode⟩ := hinitial.exists_reads hlines hfollow
    rw [readWithin_eq]
    exact ⟨s.document.prune, ofLines_eq_ok_iff.mpr
      ⟨s, hreads, finish_eq_ok_iff.mpr ⟨inBlock_eq_false hmode, hquiet, rfl⟩⟩⟩

/-- Two conditions with a branch for the case that neither holds, and another section. -/
def shopText : String :=
  "unless\nmenu\n    visible\nor if\ncart\ndo\nlogo\notherwise\nmenu\ncart\nend\n@ mobile\ncart\n"

def shopSections : List WrittenSection :=
  let group (name : String) : WrittenEntry := .groups [{ pattern := name }]
  [{
    tags := []
    items := [.block {
      conditions := [⟨true, [group "menu"]⟩, ⟨false, [group "cart"]⟩]
      conditional := by simp
      body := [group "logo"]
      otherwise := some [group "menu", group "cart"] }] },
  { tags := ["mobile"], items := [.entry (group "cart")] }]

theorem readWithin_follows_grammar_shopText :
    ReadContext.marks ⟨none, importWithin {} []⟩ (Text.lines shopText.toList)
      = shopSections.flatMap WrittenSection.marks ∧
    ∃ d, ofText {} none shopText = .ok d := by
  have hmarks : ReadContext.marks ⟨none, importWithin {} []⟩ (Text.lines shopText.toList)
      = shopSections.flatMap WrittenSection.marks := by decide +kernel
  exact ⟨hmarks, (readWithin_follows_grammar {} [] none shopText).2 (by decide +kernel)
    ⟨shopSections, hmarks⟩⟩

/-- A file with a block, which another text imports. -/
def blockTree : FileTree where
  files := [(["block.spec"], .text "if\nmenu\n    visible\ndo\nlogo\n    visible\nend\n")]

def blockImportText : String :=
  "@@ import block.spec\n"

def blockDocument : Document where
  sections := [{ blocks := [{
    statements := [{ groups := [⟨"menu", [.visible]⟩] }]
    body := [⟨"logo", [.visible]⟩] }] }]

/-- The block of the document is none of the text, which has no keyword. -/
theorem ofText_blockImportText :
    ofText blockTree none blockImportText = .ok blockDocument ∧
    (∀ raw ∈ Text.lines blockImportText.toList, ∀ keyword, LineKind.of raw ≠ .keyword keyword) ∧
    (blockDocument.sections.flatMap Section.blocks).length = 1 := by
  have hlines : Text.lines blockImportText.toList = ["@@ import block.spec".toList] := by
    decide +kernel
  have hkind : LineKind.of "@@ import block.spec".toList
      = .directive "import block.spec".toList := by decide +kernel
  have hpath : (LineKind.of "@@ import block.spec".toList).importPath?
      = some ⟨"block.spec"⟩ := by decide +kernel
  have hkey : blockTree.fileKey? ⟨"block.spec"⟩ = some ["block.spec"] := by decide +kernel
  have hcontent : blockTree.content? ["block.spec"]
      = some (.text "if\nmenu\n    visible\ndo\nlogo\n    visible\nend\n") := by decide +kernel
  have himport : importWithin blockTree [] ⟨"block.spec"⟩ = .ok blockDocument := by
    simp only [importWithin, hkey, hcontent, readWithin_eq]
    decide +kernel
  have hstep : initial.step ⟨none, importWithin blockTree []⟩ 1 "@@ import block.spec".toList
      = .ok { initial with document := initial.document.merge blockDocument } := by
    rw [step_of_import hpath]
    change ((importWithin blockTree [] ⟨"block.spec"⟩).mapError _).map _ = _
    rw [himport]
    rfl
  refine ⟨?_, ?_, rfl⟩
  · rw [ofText, readWithin_eq, hlines, ofLines_eq_ok_iff]
    exact ⟨_, .single hstep, by decide +kernel⟩
  · intro raw hraw keyword hkeyword
    rw [hlines, List.mem_singleton] at hraw
    rw [hraw, hkind] at hkeyword
    cases hkeyword

end Document

end LayoutSpec
