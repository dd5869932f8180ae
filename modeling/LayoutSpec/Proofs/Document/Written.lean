import LayoutSpec.Proofs.Document.Line
import LayoutSpec.Proofs.Document.Run
import LayoutSpec.Proofs.ObjectTable

/-!
The lines of a document take the reader back to it, part by part: groups go to the place that
collects groups, blocks to the section that is open, and sections behind the ones before.
-/

namespace LayoutSpec

open Text

namespace ReadState

variable {context : ReadContext} {s t : ReadState}

/-- The mode once a group was opened. -/
def settledMode : ReadMode → ReadMode
  | .start => .groups
  | mode => mode

/-- The reader is in the last section, `sec`, behind the sections `done`. -/
structure Within (objects : ObjectTable) (done : List Section) (sec : Section) (mode : ReadMode)
    (block : Option ConditionalBlock) (s : ReadState) : Prop where
  document : s.document = ⟨objects, done ++ [sec]⟩
  current : s.current = done.length
  mode : settledMode s.mode = mode
  block : s.block = block
  pending : s.pending = none

/-- A place whose groups the reader sees and replaces. -/
structure Collects (place : List Group → ReadState → Prop) : Prop where
  groups : ∀ {gs s}, place gs s → s.groups? = some gs
  mode : ∀ {gs s}, place gs s → s.mode ≠ .objects
  pending : ∀ {gs s}, place gs s → s.pending = none
  set : ∀ {gs s} (gs' : List Group), place gs s → place gs' (s.setGroups gs')
  opened : ∀ {gs s} (opened : Option OpenGroups), place gs s →
    place gs { s with
      openGroups := opened, pending := none, mode := if s.mode = .start then .groups else s.mode }

variable {objects : ObjectTable} {done : List Section} {sec : Section}

theorem modify_last {α : Type} (f : α → α) (before : List α) (a : α) :
    (before ++ [a]).modify before.length f = before ++ [f a] := by
  induction before with
  | nil => rfl
  | cons b before ih =>
      rw [List.cons_append, List.length_cons, List.modify_succ_cons, ih, List.cons_append]

theorem modifySection_within {mode : ReadMode} {block : Option ConditionalBlock}
    (h : Within objects done sec mode block s) (f : Section → Section) :
    s.modifySection f = { s with document := ⟨objects, done ++ [f sec]⟩ } := by
  rw [modifySection, h.document, h.current, modify_last]

theorem opened_within {mode : ReadMode} {block : Option ConditionalBlock}
    (opened : Option OpenGroups) (h : Within objects done sec mode block s) :
    Within objects done sec mode block { s with
      openGroups := opened, pending := none,
      mode := if s.mode = .start then .groups else s.mode } := by
  refine ⟨h.document, h.current, ?_, h.block, rfl⟩
  rw [← h.mode]
  cases s.mode <;> rfl

/-- A section collects the groups outside its blocks. -/
theorem collects_section :
    Collects fun gs => Within objects done { sec with groups := gs } .groups none := by
  have hmode : ∀ {gs s}, Within objects done { sec with groups := gs } .groups none s →
      s.mode = .start ∨ s.mode = .groups := by
    intro gs s h
    have hsettled := h.mode
    cases hcase : s.mode <;> simp [hcase, settledMode] at hsettled ⊢
  refine ⟨?_, ?_, fun h => h.pending, ?_, fun opened h => opened_within opened h⟩
  · intro gs s h
    rcases hmode h with hcase | hcase <;> simp [groups?, hcase, h.document, h.current]
  · intro gs s h
    rcases hmode h with hcase | hcase <;> simp [hcase]
  · intro gs s gs' h
    have hset : s.setGroups gs' = s.modifySection fun sec => { sec with groups := gs' } := by
      rcases hmode h with hcase | hcase <;> simp [setGroups, hcase]
    rw [hset, modifySection_within h]
    exact ⟨rfl, h.current, h.mode, h.block, h.pending⟩

theorem mode_of_settled {mode : ReadMode} (h : settledMode s.mode = mode)
    (hmode : mode ≠ .groups) : s.mode = mode := by
  cases hcase : s.mode with
  | start =>
      rw [hcase] at h
      exact absurd h.symm hmode
  | _ =>
      rw [hcase] at h
      exact h

/-- A block collects the groups of one of its parts, if these are the groups that the reader sees
and replaces there. -/
theorem collects_part {mode : ReadMode} (hinside : mode.inBlock = true)
    (part : List Group → ConditionalBlock)
    (hsees : ∀ {gs} {s : ReadState}, s.mode = mode → s.block = some (part gs) → s.groups? = some gs)
    (hreplaces : ∀ {gs} {s : ReadState} gs', s.mode = mode → s.block = some (part gs) →
      s.setGroups gs' = { s with block := some (part gs') }) :
    Collects fun gs => Within objects done sec mode (some (part gs)) := by
  have hmode {gs : List Group} {s : ReadState}
      (h : Within objects done sec mode (some (part gs)) s) : s.mode = mode := by
    refine mode_of_settled h.mode ?_
    rintro rfl
    cases hinside
  refine ⟨fun h => hsees (hmode h) h.block, fun h => ?_, fun h => h.pending, fun gs' h => ?_,
    fun opened h => opened_within opened h⟩
  · rw [hmode h]
    rintro rfl
    cases hinside
  · rw [hreplaces gs' (hmode h) h.block]
    exact ⟨h.document, h.current, h.mode, rfl, h.pending⟩

/-- A block collects the groups of its last condition. -/
theorem collects_statement (conditions : List Statement) (inverted : Bool) :
    Collects fun gs => Within objects done sec .statement
      (some { statements := conditions ++ [⟨inverted, gs⟩] }) :=
  collects_part rfl _ (fun hmode hblock => by simp [groups?, hmode, hblock])
    fun gs' hmode hblock => by simp [setGroups, hmode, hblock, modify_last]

theorem collects_body (b : ConditionalBlock) :
    Collects fun gs => Within objects done sec .body (some { b with body := gs }) :=
  collects_part rfl _ (fun hmode hblock => by simp [groups?, hmode, hblock])
    fun gs' hmode hblock => by simp [setGroups, hmode, hblock]

theorem collects_otherwise (b : ConditionalBlock) :
    Collects fun gs => Within objects done sec .otherwise
      (some { b with otherwise := some gs }) :=
  collects_part rfl _ (fun hmode hblock => by simp [groups?, hmode, hblock])
    fun gs' hmode hblock => by simp [setGroups, hmode, hblock]

theorem openGroups_setGroups (gs : List Group) : (s.setGroups gs).openGroups = s.openGroups := by
  rw [setGroups]
  cases s.mode <;> rfl

theorem pending_setGroups (gs : List Group) : (s.setGroups gs).pending = s.pending := by
  rw [setGroups]
  cases s.mode <;> rfl

/-- The pattern of a group line without a colon is the line. -/
theorem groupPattern_eq {name : String} (hname : IsPattern name) (h : Reopens name) :
    groupPattern name.toList = name.toList := by
  rw [groupPattern, if_neg h.noColon, hname.text.1]

variable {place : List Group → ReadState → Prop}

/-- The line of a pattern adds a group to the place that collects, and opens it. It is one group, as
no values wait. -/
theorem step_pattern (hplace : Collects place) (number : Nat) {gs : List Group} {name : String}
    (hname : IsPattern name) (h : Reopens name) (hs : place gs s) :
    ∃ t, s.step context number name.toList = .ok t ∧ place (gs ++ [{ pattern := name }]) t ∧
      t.openGroups = some ⟨gs.length, []⟩ := by
  have hne : name.toList.isEmpty = false := by simpa using hname.text.2.1
  have hopen : s.openGroup number (trim name.toList)
      = .ok { s.setGroups (gs ++ [{ pattern := name }]) with
        openGroups := some ⟨gs.length, []⟩, pending := none,
        mode := if (s.setGroups (gs ++ [{ pattern := name }])).mode = .start then .groups
          else (s.setGroups (gs ++ [{ pattern := name }])).mode } := by
    rw [hname.text.1, openGroup]
    simp only [hne, Bool.false_eq_true, if_false, hplace.groups hs, hplace.pending hs,
      Option.getD_none, List.isEmpty_nil, if_true, groupPattern_eq hname h, String.ofList_toList]
  refine ⟨_, ?_, hplace.opened (some ⟨gs.length, []⟩) (hplace.set _ hs), rfl⟩
  simp only [step, LineKind.of_pattern hname h, if_neg (hplace.mode hs), hopen]

/-- The line of a constraint, indented, adds this constraint to the group that is open. -/
theorem step_constraint (hplace : Collects place) (number : Nat) (hbase : context.base = none)
    {c : Constraint} (hc : c.WellFormed) {before : List Group} {g : Group}
    (hs : place (before ++ [g]) s)
    (hopen : s.openGroups = some ⟨before.length, []⟩) :
    s.step context number (constraintIndent ++ c.chars) = .ok
      (s.setGroups (before ++ [{ g with constraints := g.constraints ++ [c] }])) := by
  have hadd : s.addConstraint none number c.chars = .ok
      (s.setGroups (before ++ [{ g with constraints := g.constraints ++ [c] }])) := by
    simp only [addConstraint, hopen, Constraint.parse_chars hc, onLine_ok, bind, Except.bind,
      hplace.groups hs, List.take_left, List.drop_left, copies, List.isEmpty_nil, if_true, addEach]
    rfl
  simp only [step, LineKind.of_indented hc, if_neg (hplace.mode hs), hbase,
    LineKind.trim_indented hc, hadd]

theorem reads_constraints (hplace : Collects place) (hbase : context.base = none)
    {cs : List Constraint} (hcs : ∀ c ∈ cs, c.WellFormed) {before : List Group} {g : Group}
    (hs : place (before ++ [g]) s) (hopen : s.openGroups = some ⟨before.length, []⟩) :
    ∃ t, Reads context (cs.map fun c => constraintIndent ++ c.chars) s t ∧
      place (before ++ [{ g with constraints := g.constraints ++ cs }]) t := by
  induction cs generalizing s g with
  | nil => exact ⟨s, .nil s, by simpa using hs⟩
  | cons c cs ih =>
      have hstep := step_constraint hplace 0 hbase (hcs c (by simp)) hs hopen
      have hset := hplace.set (before ++ [{ g with constraints := g.constraints ++ [c] }]) hs
      obtain ⟨t, hreads, ht⟩ := ih (fun d hd => hcs d (by simp [hd])) hset
        (by rw [openGroups_setGroups, hopen])
      exact ⟨t, .cons hstep hreads, by simpa using ht⟩

theorem reads_group (hplace : Collects place) (hbase : context.base = none) {g : Group}
    (hg : g.Sound IsGroupName) {gs : List Group} (hs : place gs s) :
    ∃ t, Reads context g.lines s t ∧ place (gs ++ [g]) t := by
  obtain ⟨t, hstep, ht, hopen⟩ := step_pattern hplace 0 hg.pattern.1 hg.pattern.2 hs
  have hcs : ∀ c ∈ g.constraints, c.WellFormed := fun c hc =>
    Constraint.exists_parse_iff.mp (hg.constraints c hc).1
  obtain ⟨u, hreads, hu⟩ := reads_constraints hplace hbase hcs ht hopen
  exact ⟨u, .cons hstep hreads, by simpa using hu⟩

/-- Lines of groups add these groups where groups are collected. The place may be a section or a
part of a block, which is what `Collects` stands for. -/
theorem reads_groupLines (hplace : Collects place) (hbase : context.base = none)
    {groups : List Group} (hgroups : ∀ g ∈ groups, g.Sound IsGroupName) {gs : List Group}
    (hs : place gs s) :
    ∃ t, Reads context (groupLines groups) s t ∧ place (gs ++ groups) t := by
  induction groups generalizing s gs with
  | nil => exact ⟨s, .nil s, by simpa using hs⟩
  | cons g groups ih =>
      obtain ⟨t, hgroup, ht⟩ := reads_group hplace hbase (hgroups g (by simp)) hs
      obtain ⟨u, hrest, hu⟩ := ih (fun other h => hgroups other (by simp [h])) ht
      refine ⟨u, ?_, by simpa using hu⟩
      rw [groupLines, List.flatMap_cons]
      exact hgroup.append hrest

variable {b : ConditionalBlock}

theorem mode_ne_objects {mode : ReadMode} {block : Option ConditionalBlock}
    (h : Within objects done sec mode block s) (hmode : mode ≠ .objects) : s.mode ≠ .objects := by
  intro hobjects
  have hsettled := h.mode
  rw [hobjects] at hsettled
  exact hmode hsettled.symm

/-- A keyword line outside object definitions is applied as it stands. -/
theorem step_keyword {number : Nat} {raw : List Char} {keyword : BlockKeyword}
    (hraw : LineKind.of raw = .keyword keyword) (hmode : s.mode ≠ .objects)
    (h : s.applyKeyword number keyword = .ok t) : s.step context number raw = .ok t := by
  simp only [step, hraw, if_neg hmode, h]

theorem of_statement (chained inverted : Bool) :
    LineKind.of ((if chained then "or ".toList else [])
      ++ (if inverted then "unless".toList else "if".toList))
        = .keyword (.statement chained inverted) := by
  cases chained <;> cases inverted <;> decide

theorem inBlock_of_within {mode : ReadMode} {block : Option ConditionalBlock}
    (h : Within objects done sec mode block s) : s.mode.inBlock = mode.inBlock := by
  rw [← h.mode]
  cases s.mode <;> rfl

/-- The first condition of a block opens it. The groups below its keyword go to this condition. -/
theorem reads_first_statement (hbase : context.base = none) {condition : Statement}
    (hgroups : ∀ g ∈ condition.groups, g.Sound IsGroupName)
    (hs : Within objects done sec .groups none s) :
    ∃ t, Reads context (condition.lines false) s t ∧
      Within objects done sec .statement (some { statements := [condition] }) t := by
  obtain ⟨inverted, groups⟩ := condition
  have hkeyword : s.applyKeyword 0 (.statement false inverted) = .ok { s with
      block := some { statements := [{ inverted }] }, mode := .statement, openGroups := none } := by
    have hclosed : s.mode.inBlock = false := inBlock_of_within hs
    simp only [applyKeyword, hclosed, Bool.false_eq_true, if_false]
  have hnext : Within objects done sec .statement (some { statements := [{ inverted }] }) { s with
      block := some { statements := [{ inverted }] }, mode := .statement, openGroups := none } :=
    ⟨hs.document, hs.current, rfl, rfl, hs.pending⟩
  obtain ⟨t, hreads, ht⟩ :=
    reads_groupLines (collects_statement [] inverted) hbase hgroups hnext
  exact ⟨t, .cons (step_keyword (of_statement false inverted)
    (mode_ne_objects hs (by decide)) hkeyword) hreads, ht⟩

/-- Another condition stands behind the ones before, and has its own groups. -/
theorem reads_next_statement (hbase : context.base = none) {condition : Statement}
    (hgroups : ∀ g ∈ condition.groups, g.Sound IsGroupName) {conditions : List Statement}
    (hs : Within objects done sec .statement (some { statements := conditions }) s) :
    ∃ t, Reads context (condition.lines true) s t ∧
      Within objects done sec .statement (some { statements := conditions ++ [condition] }) t := by
  obtain ⟨inverted, groups⟩ := condition
  have hmode := mode_of_settled hs.mode (by decide)
  have hkeyword : s.applyKeyword 0 (.statement true inverted) = .ok { s with
      block := some { statements := conditions ++ [{ inverted }] }, openGroups := none } := by
    simp only [applyKeyword, hmode, hs.block]
  have hnext : Within objects done sec .statement
      (some { statements := conditions ++ [{ inverted }] }) { s with
        block := some { statements := conditions ++ [{ inverted }] }, openGroups := none } :=
    ⟨hs.document, hs.current, hs.mode, rfl, hs.pending⟩
  obtain ⟨t, hreads, ht⟩ :=
    reads_groupLines (collects_statement conditions inverted) hbase hgroups hnext
  exact ⟨t, .cons (step_keyword (of_statement true inverted)
    (mode_ne_objects hs (by decide)) hkeyword) hreads, ht⟩

theorem reads_next_statements (hbase : context.base = none) {more : List Statement}
    (hmore : ∀ condition ∈ more, ∀ g ∈ condition.groups, g.Sound IsGroupName)
    {conditions : List Statement}
    (hs : Within objects done sec .statement (some { statements := conditions }) s) :
    ∃ t, Reads context (more.flatMap (Statement.lines true)) s t ∧
      Within objects done sec .statement (some { statements := conditions ++ more }) t := by
  induction more generalizing s conditions with
  | nil => exact ⟨s, .nil s, by simpa using hs⟩
  | cons condition more ih =>
      obtain ⟨t, hfirst, ht⟩ := reads_next_statement hbase (hmore condition (by simp)) hs
      obtain ⟨u, hrest, hu⟩ := ih (fun other h => hmore other (by simp [h])) ht
      refine ⟨u, ?_, by simpa using hu⟩
      rw [List.flatMap_cons]
      exact hfirst.append hrest

theorem reads_statementLines (hbase : context.base = none) {conditions : List Statement}
    (hne : conditions ≠ [])
    (hconditions : ∀ condition ∈ conditions, ∀ g ∈ condition.groups, g.Sound IsGroupName)
    (hs : Within objects done sec .groups none s) :
    ∃ t, Reads context (ConditionalBlock.statementLines conditions) s t ∧
      Within objects done sec .statement (some { statements := conditions }) t := by
  cases conditions with
  | nil => exact absurd rfl hne
  | cons first more =>
      obtain ⟨t, hfirst, ht⟩ := reads_first_statement hbase (hconditions first (by simp)) hs
      have hrest : ∀ condition ∈ more, ∀ g ∈ condition.groups, g.Sound IsGroupName :=
        fun other h => hconditions other (by simp [h])
      obtain ⟨u, hmore, hu⟩ := reads_next_statements hbase hrest ht
      exact ⟨u, hfirst.append hmore, hu⟩

/-- The keyword of the body ends the conditions, and the groups below it are those of the body. -/
theorem reads_body (hbase : context.base = none) {body : List Group}
    (hbody : ∀ g ∈ body, g.Sound IsGroupName)
    (hs : Within objects done sec .statement (some b) s) :
    ∃ t, Reads context ("do".toList :: groupLines body) s t ∧
      Within objects done sec .body (some { b with body := b.body ++ body }) t := by
  have hmode := mode_of_settled hs.mode (by decide)
  have hkeyword : s.applyKeyword 0 .body = .ok { s with mode := .body, openGroups := none } := by
    simp only [applyKeyword, hmode]
  have hkind : LineKind.of "do".toList = .keyword .body := by decide
  have hnext : Within objects done sec .body (some { b with body := b.body })
      { s with mode := .body, openGroups := none } :=
    ⟨hs.document, hs.current, rfl, hs.block, hs.pending⟩
  obtain ⟨t, hreads, ht⟩ := reads_groupLines (collects_body b) hbase hbody hnext
  exact ⟨t, .cons (step_keyword hkind (mode_ne_objects hs (by decide)) hkeyword) hreads, ht⟩

/-- The keyword of the other branch ends the body. The branch is there from its keyword on, even
without groups. -/
theorem reads_otherwise (hbase : context.base = none) {groups : List Group}
    (hgroups : ∀ g ∈ groups, g.Sound IsGroupName)
    (hs : Within objects done sec .body (some b) s) :
    ∃ t, Reads context ("otherwise".toList :: groupLines groups) s t ∧
      Within objects done sec .otherwise (some { b with otherwise := some groups }) t := by
  have hmode := mode_of_settled hs.mode (by decide)
  have hkeyword : s.applyKeyword 0 .otherwise = .ok { s with
      block := some { b with otherwise := some [] }, mode := .otherwise, openGroups := none } := by
    simp only [applyKeyword, hmode, hs.block]
  have hkind : LineKind.of "otherwise".toList = .keyword .otherwise := by decide
  have hnext : Within objects done sec .otherwise (some { b with otherwise := some [] }) { s with
      block := some { b with otherwise := some [] }, mode := .otherwise, openGroups := none } :=
    ⟨hs.document, hs.current, rfl, rfl, hs.pending⟩
  obtain ⟨t, hreads, ht⟩ := reads_groupLines (collects_otherwise b) hbase hgroups hnext
  exact ⟨t, .cons (step_keyword hkind (mode_ne_objects hs (by decide)) hkeyword) hreads, ht⟩

/-- The last line of a block puts it into its section. Groups of the section or another block may
follow. -/
theorem step_close (context : ReadContext) (number : Nat) {mode : ReadMode}
    (hmode : mode = .body ∨ mode = .otherwise) (hs : Within objects done sec mode (some b) s) :
    ∃ t, s.step context number "end".toList = .ok t ∧
      Within objects done { sec with blocks := sec.blocks ++ [b] } .groups none t := by
  have hsettled : s.mode = mode :=
    mode_of_settled hs.mode (by rcases hmode with rfl | rfl <;> decide)
  have hkeyword : s.applyKeyword number .close = .ok
      { s.modifySection (fun sec => { sec with blocks := sec.blocks ++ [b] }) with
        block := none, mode := .groups, openGroups := none } := by
    rcases hmode with rfl | rfl <;> simp only [applyKeyword, hsettled, hs.block]
  have hkind : LineKind.of "end".toList = .keyword .close := by decide
  refine ⟨_, step_keyword hkind (mode_ne_objects hs ?_) hkeyword, ?_⟩
  · rcases hmode with rfl | rfl <;> decide
  · rw [modifySection_within hs]
    exact ⟨rfl, hs.current, rfl, rfl, hs.pending⟩

/-- The lines of a block add this block to the section. They are those of its conditions, its body,
its other branch and its end, each of which takes the reader to the next mode. -/
theorem reads_block (hbase : context.base = none) (hb : b.Sound IsGroupName)
    (hs : Within objects done sec .groups none s) :
    ∃ t, Reads context b.lines s t ∧
      Within objects done { sec with blocks := sec.blocks ++ [b] } .groups none t := by
  obtain ⟨conditions, body, other⟩ := b
  obtain ⟨hne, hconditions, hbody, hother⟩ := ConditionalBlock.sound_iff.mp hb
  obtain ⟨t, hfirst, ht⟩ := reads_statementLines hbase hne hconditions hs
  obtain ⟨u, hsecond, hu⟩ := reads_body hbase hbody ht
  rw [List.nil_append] at hu
  cases other with
  | none =>
      obtain ⟨v, hclose, hv⟩ := step_close context 0 (Or.inl rfl) hu
      refine ⟨v, ?_, hv⟩
      rw [ConditionalBlock.lines, List.append_nil]
      exact (hfirst.append hsecond).append (.single hclose)
  | some groups =>
      obtain ⟨v, hthird, hv⟩ := reads_otherwise hbase (hother groups rfl) hu
      obtain ⟨w, hclose, hw⟩ := step_close context 0 (Or.inr rfl) hv
      refine ⟨w, ?_, hw⟩
      rw [ConditionalBlock.lines]
      exact ((hfirst.append hsecond).append hthird).append (.single hclose)

theorem reads_blocks (hbase : context.base = none) {blocks : List ConditionalBlock}
    (hblocks : ∀ b ∈ blocks, b.Sound IsGroupName)
    (hs : Within objects done sec .groups none s) :
    ∃ t, Reads context (blocks.flatMap ConditionalBlock.lines) s t ∧
      Within objects done { sec with blocks := sec.blocks ++ blocks } .groups none t := by
  induction blocks generalizing s sec with
  | nil => exact ⟨s, .nil s, by simpa using hs⟩
  | cons b blocks ih =>
      obtain ⟨t, hfirst, ht⟩ := reads_block hbase (hblocks b (by simp)) hs
      obtain ⟨u, hrest, hu⟩ := ih (fun other h => hblocks other (by simp [h])) ht
      refine ⟨u, ?_, by simpa using hu⟩
      rw [List.flatMap_cons]
      exact hfirst.append hrest

theorem openSection_within {mode : ReadMode} (number : Nat) (tags : List Char)
    (hmode : mode.inBlock = false) (hs : Within objects done sec mode none s) :
    ∃ t, s.openSection number tags = .ok t ∧
      Within objects (done ++ [sec])
        { tags := (items ',' tags).map String.ofList } .groups none t := by
  have hclosed : s.mode.inBlock = false := (inBlock_of_within hs).trans hmode
  have hpending : s.checkNoPending number = .ok () := by
    rw [checkNoPending, hs.pending]
    rfl
  refine ⟨{ s with
    document := ⟨objects, done ++ [sec] ++ [{ tags := (items ',' tags).map String.ofList }]⟩
    current := (done ++ [sec]).length
    mode := .start
    openGroups := none }, ?_, ⟨rfl, rfl, rfl, hs.block, hs.pending⟩⟩
  simp only [openSection, hclosed, hpending, bind, Except.bind, hs.document]
  rfl

/-- The lines of a section add this section to the document. Its tags open it, and its groups and
blocks follow, as the printer has them. -/
theorem reads_section (hbase : context.base = none) {new : Section} (hnew : new.Sound IsGroupName)
    (hs : Within objects done sec .groups none s) :
    ∃ t, Reads context new.lines s t ∧ Within objects (done ++ [sec]) new .groups none t := by
  obtain ⟨text, hkind, htags⟩ := LineKind.of_tagLine hnew.tags
  obtain ⟨t, hopen, ht⟩ := openSection_within 0 text rfl hs
  have hidle : s.step context 0 [] = .ok s := rfl
  have hstep : s.step context 0 new.tagLine = .ok t := by
    simp only [step, hkind, if_neg (mode_ne_objects hs (by decide)), hopen]
  rw [htags] at ht
  have hnext : Within objects (done ++ [sec]) { ({ tags := new.tags } : Section) with groups := [] }
      .groups none t := ht
  obtain ⟨u, hgroups, hu⟩ := reads_groupLines collects_section hbase hnew.groups hnext
  obtain ⟨v, hblocks, hv⟩ := reads_blocks hbase hnew.blocks hu
  exact ⟨v, .cons hidle (.cons hstep (hgroups.append hblocks)), hv⟩

theorem reads_sections (hbase : context.base = none) {sections : List Section}
    (hsections : ∀ new ∈ sections, new.Sound IsGroupName)
    (hs : Within objects done sec .groups none s) :
    ∃ t done' last, Reads context (sections.flatMap Section.lines) s t ∧
      Within objects done' last .groups none t ∧
      done' ++ [last] = done ++ [sec] ++ sections := by
  induction sections generalizing s sec done with
  | nil => exact ⟨s, done, sec, .nil s, hs, by simp⟩
  | cons new sections ih =>
      obtain ⟨t, hfirst, ht⟩ := reads_section hbase (hsections new (by simp)) hs
      obtain ⟨u, done', last, hrest, hu, hlist⟩ :=
        ih (fun other h => hsections other (by simp [h])) ht
      refine ⟨u, done', last, ?_, hu, by simpa using hlist⟩
      rw [List.flatMap_cons]
      exact hfirst.append hrest

theorem endsInWord_of_lineText {text : String} (h : IsLineText text) : EndsInWord text.toList :=
  .of_trim h.1 h.2.1

theorem head?_isWord {name : String} (h : IsWord name) (rest : List Char) :
    ∀ c ∈ (name.toList ++ rest).head?, isBlank c = false := by
  intro c hc
  rw [List.head?_append, List.head?_eq_some_head h.1, Option.some_or] at hc
  exact h.2 c (List.mem_of_head? (by rw [List.head?_eq_some_head h.1]; exact hc))

theorem parse_locator {l : Locator} (hl : l.Printable) :
    Locator.parse (l.strategy.word.toList ++ ' ' :: l.value.toList) = .ok l := by
  obtain ⟨hword, hstrategy, hvalue, hindex⟩ := hl
  have htrim : trim (l.strategy.word.toList ++ ' ' :: l.value.toList)
      = l.strategy.word.toList ++ ' ' :: l.value.toList :=
    (((endsInWord_of_lineText hvalue).append [' ']).append _).trim_eq_self (head?_isWord hword _)
  have hcut : cutAt isBlank (l.strategy.word.toList ++ ' ' :: l.value.toList)
      = some (l.strategy.word.toList, l.value.toList) :=
    cutAt_append _ hword.2 (by decide)
  have hparts : (l.strategy.word.toList.isEmpty || l.value.toList.isEmpty) = false := by
    rw [List.isEmpty_eq_false_iff.mpr hword.1, List.isEmpty_eq_false_iff.mpr hvalue.2.1]
    rfl
  simp only [Locator.parse, htrim, hcut, hvalue.1, hparts, Bool.false_eq_true, if_false,
    String.ofList_toList, hstrategy]
  rw [← hindex]

theorem trim_objectLine {name : String} {l : Locator} (hname : IsObjectName name)
    (hl : l.Printable) : trim (Document.objectLine name l) = Document.objectLine name l := by
  have hends : EndsInWord (Document.objectLine name l) := by
    rw [Document.objectLine]
    exact ((endsInWord_of_lineText hl.value).append [' ']).append _
  refine hends.trim_eq_self ?_
  rw [Document.objectLine, List.append_assoc]
  exact head?_isWord hname.word _

/-- The line of an object declares it. The name ends at the first blank, and what stands behind it
is read as the locator. -/
theorem step_objectLine (context : ReadContext) (number : Nat) {name : String} {l : Locator}
    (hname : IsObjectName name) (hl : l.Printable) (hs : Within objects done sec .objects none s) :
    ∃ t, s.step context number (Document.objectLine name l) = .ok t ∧
      Within (objects.insert name l) done sec .objects none t := by
  have hline : Document.objectLine name l
      = name.toList ++ ' ' :: (l.strategy.word.toList ++ ' ' :: l.value.toList) := by
    simp [Document.objectLine]
  have htrim := trim_objectLine hname hl
  have hcut : cutAt isBlank (Document.objectLine name l)
      = some (name.toList, l.strategy.word.toList ++ ' ' :: l.value.toList) := by
    rw [hline]
    exact cutAt_append _ hname.word.2 (by decide)
  have hdefine : s.defineObject number (Document.objectLine name l) = .ok { s with
      document := ⟨objects.insert name l, done ++ [sec]⟩ } := by
    simp only [defineObject, hcut, hname.notKeyword, Bool.false_eq_true, if_false,
      parse_locator hl, onLine_ok, String.ofList_toList, bind, Except.bind, hs.document]
    rfl
  have hmode := mode_of_settled hs.mode (by decide)
  rw [hline] at htrim
  obtain ⟨hidle, hdirective, hmarker⟩ := LineKind.of_objectLine hname _ htrim
  rw [← hline] at htrim hidle hdirective hmarker
  have hnext : Within (objects.insert name l) done sec .objects none { s with
      document := ⟨objects.insert name l, done ++ [sec]⟩ } :=
    ⟨rfl, hs.current, hs.mode, hs.block, hs.pending⟩
  refine ⟨_, ?_, hnext⟩
  simp only [step, htrim, hmode, if_true, hdefine]

theorem reads_definitions {entries : List (String × Locator)}
    (hentries : ∀ entry ∈ entries, IsObjectName entry.1 ∧ entry.2.Printable)
    (hs : Within objects done sec .objects none s) :
    ∃ t, Reads context (entries.map fun (name, l) => Document.objectLine name l) s t ∧
      Within (objects.insertAll entries) done sec .objects none t := by
  induction entries generalizing s objects with
  | nil => exact ⟨s, .nil s, hs⟩
  | cons entry entries ih =>
      obtain ⟨name, l⟩ := entry
      obtain ⟨⟨hname, hl⟩, hrest⟩ := List.forall_mem_cons.mp hentries
      obtain ⟨t, hstep, ht⟩ := step_objectLine context 0 hname hl hs
      obtain ⟨u, hreads, hu⟩ := ih hrest ht
      exact ⟨u, .cons hstep hreads, hu⟩

theorem within_initial : Within .empty [] {} .groups none initial := ⟨rfl, rfl, rfl, rfl, rfl⟩

/-- The lines of the objects leave the reader behind sections in which nothing is asserted. These
are there because the marker behind the definitions opens one, and they are dropped at the end. -/
theorem reads_objectLines {objects : ObjectTable} (h : objects.Sound) :
    ∃ t done sec, Reads context (Document.objectLines objects) initial t ∧
      Within objects done sec .groups none t ∧
      ∀ new ∈ done ++ [sec], new = {} := by
  cases hempty : objects.isEmpty with
  | true =>
      have hobjects : objects = .empty := ObjectTable.ext (List.isEmpty_iff.mp hempty)
      refine ⟨initial, [], {}, ?_, ?_, by simp⟩
      · rw [Document.objectLines, if_pos hempty]
        exact .nil initial
      · rw [hobjects]
        exact within_initial
  | false =>
      have hmarker : LineKind.of objectMarker = .marker := by decide
      have hfirst : initial.step context 0 objectMarker
          = .ok { initial with mode := .objects, openGroups := none } := by
        simp only [step, hmarker]
        rfl
      have hnext : Within .empty [] {} .objects none
          { initial with mode := .objects, openGroups := none } := ⟨rfl, rfl, rfl, rfl, rfl⟩
      obtain ⟨t, hreads, ht⟩ := reads_definitions h hnext
      -- Declaring the entries of a table in an empty one makes the same table.
      change Within (.ofList objects.entries) _ _ _ _ _ at ht
      rw [ObjectTable.ofList_entries] at ht
      have hmode := mode_of_settled ht.mode (by decide)
      obtain ⟨u, hopen, hu⟩ := openSection_within 0 [] rfl ht
      have hlast : t.step context 0 objectMarker = .ok u := by
        simp only [step, hmarker, toggleObjects, hmode, ReadMode.inBlock, Bool.false_eq_true,
          if_false, if_true, hopen]
      refine ⟨u, [{}], {}, ?_, hu, by simp⟩
      rw [Document.objectLines, hempty]
      exact .cons hfirst (hreads.append (.single hlast))

end ReadState

end LayoutSpec
