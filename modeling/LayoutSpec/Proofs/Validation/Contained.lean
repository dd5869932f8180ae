import LayoutSpec.Proofs.Validation.Messages
import LayoutSpec.Proofs.Validation.Sections

/-!
Faults stay where they are. A fault ends the object that is checked, behind what has been found
about it so far, and nothing else. What a pass goes through is laid down by the names in its spec
and by the conditions of its blocks: the constraints of a group that is reported have no say in what
is reported of the others.
-/

namespace LayoutSpec

/-- What is reported of a verdict. -/
def Check.failures : CheckResult Unit → List Failure
  | .ok () => []
  | .error finding => [finding.failure]

theorem exists_mem_of_forall₂ {α β : Type} {R : α → β → Prop} {xs : List α} {ys : List β}
    (h : List.Forall₂ R xs ys) {b : β} (hb : b ∈ ys) : ∃ a ∈ xs, R a b := by
  induction h with
  | nil => cases hb
  | @cons a _ xs _ hab _ ih =>
      rcases List.mem_cons.mp hb with rfl | hb
      · exact ⟨a, List.mem_cons_self, hab⟩
      · obtain ⟨a', ha', hab'⟩ := ih hb
        exact ⟨a', List.mem_cons_of_mem a ha', hab'⟩

namespace Scope

section

variable (tree : FileTree) (filter : TagFilter) (scope : Scope) (silent : Bool) (name : String)

/-- What comes out when a constraint on an object is checked. -/
def Verdict (c : Constraint) (verdict : CheckResult Unit) : Prop :=
  ∃ events, (scope.checkConstraint silent name c).heard (Pass.outcome tree filter)
    = some (verdict, events)

/-- The failures of an object that is checked with some constraints. -/
inductive ObjectFailures : List Constraint → List Failure → Prop where
  /-- All constraints are checked if none of them is fatal. -/
  | completed {cs : List Constraint} {verdicts : List (CheckResult Unit)} :
    List.Forall₂ (scope.Verdict tree filter silent name) cs verdicts →
    (∀ verdict ∈ verdicts, ∀ fault, verdict ≠ .error (.fatal fault)) →
    ObjectFailures cs (verdicts.flatMap Check.failures)
  /-- The first fatal one is the last that is checked. It has one failure, with one message and no
  area. -/
  | aborted {checked rest : List Constraint} {c : Constraint} {verdicts : List (CheckResult Unit)}
    {fault : Fault} :
    List.Forall₂ (scope.Verdict tree filter silent name) checked verdicts →
    (∀ verdict ∈ verdicts, ∀ fault, verdict ≠ .error (.fatal fault)) →
    scope.Verdict tree filter silent name c (.error (.fatal fault)) →
    ObjectFailures (checked ++ c :: rest)
      (verdicts.flatMap Check.failures ++ [⟨[], [fault.message]⟩])

end

variable {tree : FileTree} {filter : TagFilter} {scope : Scope} {silent : Bool} {name : String}
  {c : Constraint} {cs : List Constraint} {verdict : CheckResult Unit} {failures : List Failure}

/-- A constraint that is not fatal is checked before the others. -/
theorem ObjectFailures.cons (hverdict : scope.Verdict tree filter silent name c verdict)
    (hfatal : ∀ fault, verdict ≠ .error (.fatal fault))
    (h : scope.ObjectFailures tree filter silent name cs failures) :
    scope.ObjectFailures tree filter silent name (c :: cs)
      (Check.failures verdict ++ failures) := by
  cases h with
  | completed hverdicts hnone =>
      rw [← List.flatMap_cons]
      exact .completed (.cons hverdict hverdicts) (List.forall_mem_cons.mpr ⟨hfatal, hnone⟩)
  | aborted hverdicts hnone hlast =>
      rw [← List.append_assoc, ← List.flatMap_cons, ← List.cons_append]
      exact .aborted (.cons hverdict hverdicts) (List.forall_mem_cons.mpr ⟨hfatal, hnone⟩) hlast

/-- The failures of an object are those of its constraints, or of those up to the first fatal one,
whether anybody is told of them or not. -/
theorem objectFailures_of_checkConstraints {events : List Event}
    (h : (scope.checkConstraints silent name cs).heard (Pass.outcome tree filter)
      = some (failures, events)) :
    scope.ObjectFailures tree filter silent name cs failures := by
  induction cs generalizing failures events with
  | nil =>
      obtain ⟨rfl, -⟩ := Prod.mk.inj (Option.some.inj h)
      exact .completed .nil (List.forall_mem_nil _)
  | cons c rest ih =>
      obtain ⟨verdict, inner, later, hcheck, h, -⟩ := Walk.heard_bind_eq_some_iff.mp h
      have hverdict : scope.Verdict tree filter silent name c verdict := ⟨inner, hcheck⟩
      rcases verdict with (failure | fault) | ⟨⟩
      case error.fatal =>
        rw [Walk.heard_tellOf_bind] at h
        obtain ⟨rfl, -⟩ := Prod.mk.inj (Option.some.inj h)
        exact .aborted .nil (List.forall_mem_nil _) hverdict
      case error.broken =>
        rw [Walk.heard_tellOf_bind, Walk.heard_bind_pure] at h
        obtain ⟨_, hbehind, h⟩ := Option.map_eq_some_iff.mp h
        obtain ⟨⟨others, told⟩, hothers, rfl⟩ := Option.map_eq_some_iff.mp hbehind
        obtain ⟨rfl, -⟩ := Prod.mk.inj h
        exact .cons hverdict (by simp) (ih hothers)
      case ok =>
        rw [Walk.heard_tellOf_bind] at h
        obtain ⟨⟨others, told⟩, hothers, h⟩ := Option.map_eq_some_iff.mp h
        obtain ⟨rfl, -⟩ := Prod.mk.inj h
        exact .cons hverdict (by simp) (ih hothers)

theorem objectFailures_of_checkObject {r : Report}
    (h : (scope.checkObject silent cs name).report (Pass.outcome tree filter) = some r) :
    scope.ObjectFailures tree filter silent name cs r.failures := by
  rw [report_checkObject] at h
  obtain ⟨items, hitems, rfl⟩ := Option.map_eq_some_iff.mp h
  have hheard := Walk.report_eq_some_iff.mp hitems
  exact objectFailures_of_checkConstraints hheard

theorem Verdict.speaks (h : scope.Verdict tree filter silent name c verdict) :
    Check.Speaks verdict := by
  obtain ⟨events, h⟩ := h
  cases c with
  | component spec =>
      rw [checkConstraint] at h
      split at h
      · next finding hcomponent =>
          obtain ⟨rfl, -⟩ := Prod.mk.inj (Option.some.inj h)
          intro found hfound
          obtain rfl := Except.error.inj hfound
          exact Check.speaks_component finding hcomponent
      · rw [Walk.heard_enter] at h
        obtain ⟨inside, -, h⟩ := Option.bind_eq_some_iff.mp h
        obtain ⟨rfl, -⟩ := Prod.mk.inj (Option.some.inj h)
        exact Check.speaks_componentVerdict inside.failures.length
  | _ =>
      obtain ⟨rfl, -⟩ := Prod.mk.inj (Option.some.inj h)
      exact Check.speaks_check _

theorem Verdict.messages_ne_nil (h : scope.Verdict tree filter silent name c verdict) :
    ∀ failure ∈ Check.failures verdict, failure.messages ≠ [] := by
  intro failure hfailure
  cases verdict with
  | ok _ => exact absurd hfailure List.not_mem_nil
  | error finding =>
      obtain rfl := List.mem_singleton.mp hfailure
      exact h.speaks finding rfl

/-- No failure of an object is without a message, as every verdict that is not a pass speaks. -/
theorem ObjectFailures.messages_ne_nil
    (h : scope.ObjectFailures tree filter silent name cs failures) :
    ∀ failure ∈ failures, failure.messages ≠ [] := by
  have hchecked : ∀ {cs verdicts},
      List.Forall₂ (scope.Verdict tree filter silent name) cs verdicts →
        ∀ failure ∈ verdicts.flatMap Check.failures, failure.messages ≠ [] := by
    intro cs verdicts hverdicts failure hfailure
    obtain ⟨verdict, hmem, hfailure⟩ := List.mem_flatMap.mp hfailure
    obtain ⟨c, -, hverdict⟩ := exists_mem_of_forall₂ hverdicts hmem
    exact hverdict.messages_ne_nil failure hfailure
  cases h with
  | completed hverdicts _ => exact hchecked hverdicts
  | @aborted _ _ _ _ fault hverdicts _ _ =>
      refine List.forall_mem_append.mpr ⟨hchecked hverdicts, ?_⟩
      exact List.forall_mem_singleton.mpr (List.cons_ne_nil fault.message [])

end Scope

theorem Report.collect_map {α β : Type} (report : β → Option Report) (f : α → β) (xs : List α) :
    collect report (xs.map f) = collect (fun a => report (f a)) xs := by
  induction xs with
  | nil => rfl
  | cons a xs ih => rw [List.map_cons, collect, collect, ih]

/-- One thing that a pass does in its turn. -/
inductive AgendaEntry where
  /-- It tells of an event, unless it is silent. -/
  | event (e : Event)
  /-- It checks an object. -/
  | object (name : String) (constraints : List Constraint)
  /-- It reports a pattern that cannot be compiled. -/
  | fault (f : Fault)

namespace Scope

/-- The objects that a group names, in their order. -/
def entriesOf (scope : Scope) (g : Group) : List AgendaEntry :=
  match scope.names g.pattern with
  | .ok names => names.map fun name => .object name g.constraints
  | .error fault => [.fault fault]

/-- The entries of groups, between the events of a section with these tags. -/
def sectionEntries (scope : Scope) (tags : List String) (gs : List Group) : List AgendaEntry :=
  .event (.beforeSection tags) :: gs.flatMap scope.entriesOf ++ [.event (.afterSection tags)]

/-- What is done in some sections, in which the blocks stand for the branches that they choose. -/
inductive Agenda (tree : FileTree) (filter : TagFilter) (scope : Scope) :
    List Section → List AgendaEntry → Prop where
  | nil : Agenda tree filter scope [] []
  | cons {sec : Section} {rest : List Section} {branches : List (List Group)}
    {entries : List AgendaEntry} :
    List.Forall₂ (scope.Chooses tree filter) sec.blocks branches →
    Agenda tree filter scope rest entries →
    Agenda tree filter scope (sec :: rest)
      (scope.sectionEntries sec.tags (sec.groups ++ branches.flatten) ++ entries)

/-- The report about one entry. -/
def reportEntry (reports : Pass → Option Report) (scope : Scope) (silent : Bool) :
    AgendaEntry → Option Report
  | .event e => some ⟨[], Walk.emit silent e⟩
  | .object name constraints => (scope.checkObject silent constraints name).report reports
  | .fault f => some ⟨[.ofFault f], []⟩

section

variable {tree : FileTree} {filter : TagFilter} {scope : Scope} {silent : Bool}
  {reports : Pass → Option Report} {secs more : List Section} {entries others : List AgendaEntry}

theorem Agenda.append (h : scope.Agenda tree filter secs entries)
    (hmore : scope.Agenda tree filter more others) :
    scope.Agenda tree filter (secs ++ more) (entries ++ others) := by
  induction h with
  | nil => exact hmore
  | cons hbranches _ ih =>
      rw [List.cons_append, List.append_assoc]
      exact .cons hbranches ih

/-- There is an agenda if all conditions can be decided. Which branch a block stands for is fixed by
it. -/
theorem exists_agenda
    (h : ∀ sec ∈ secs, ∀ b ∈ sec.blocks, ∃ gs, scope.Chooses tree filter b gs) :
    ∃ entries, scope.Agenda tree filter secs entries := by
  induction secs with
  | nil => exact ⟨[], .nil⟩
  | cons sec rest ih =>
      obtain ⟨branches, hbranches⟩ := exists_forall₂ (h sec List.mem_cons_self)
      obtain ⟨entries, hentries⟩ := ih fun sec' hsec' => h sec' (List.mem_cons_of_mem sec hsec')
      exact ⟨_, .cons hbranches hentries⟩

theorem collect_entriesOf (g : Group) :
    Report.collect (reportEntry reports scope silent) (scope.entriesOf g)
      = (scope.checkGroup silent g).report reports := by
  obtain ⟨pattern, constraints⟩ := g
  rw [entriesOf]
  cases hnames : scope.names pattern with
  | error fault =>
      rw [checkGroup, hnames]
      rfl
  | ok names =>
      rw [report_checkGroup _ _ _ hnames]
      exact Report.collect_map _ _ names

theorem collect_groupEntries (gs : List Group) :
    Report.collect (reportEntry reports scope silent) (gs.flatMap scope.entriesOf)
      = (scope.checkGroups silent gs).report reports := by
  rw [report_checkGroups]
  induction gs with
  | nil => rfl
  | cons g gs ih =>
      rw [List.flatMap_cons, Report.collect_append, collect_entriesOf, ih]
      rfl

theorem collect_sectionEntries (tags : List String) (gs : List Group) :
    Report.collect (reportEntry reports scope silent) (scope.sectionEntries tags gs)
      = ((scope.checkGroups silent gs).report reports).map fun r =>
        r.between (Walk.emit silent (.beforeSection tags))
          (Walk.emit silent (.afterSection tags)) := by
  rw [sectionEntries, Report.collect_append, Report.collect, collect_groupEntries]
  cases (scope.checkGroups silent gs).report reports with
  | none => rfl
  | some r =>
      have hfailures := List.append_nil r.failures
      have hevents := List.append_nil (Walk.emit silent (.afterSection tags))
      exact congrArg some (Report.ext hfailures (congrArg (_ ++ ·) hevents))

/-- Sections are reported as their agenda says, entry by entry. -/
theorem Agenda.collect_eq (h : scope.Agenda tree filter secs entries) :
    Report.collect (fun sec => (scope.checkSection silent sec).report (Pass.outcome tree filter))
      secs
      = Report.collect (reportEntry (Pass.outcome tree filter) scope silent) entries := by
  induction h with
  | nil => rfl
  | cons hbranches _ ih =>
      rw [Report.collect, Report.collect_append, collect_sectionEntries,
        report_checkSection_of_chooses hbranches, ih]

end

end Scope

/-- Groups, with a hole in place of the constraints of one of them. -/
structure GroupsHole where
  before : List Group
  pattern : String
  after : List Group

def GroupsHole.fill (o : GroupsHole) (cs : List Constraint) : List Group :=
  o.before ++ ⟨o.pattern, cs⟩ :: o.after

/-- A block with the hole in one of its branches. -/
inductive BlockHole where
  | inBody (statements : List Statement) (body : GroupsHole) (otherwise : Option (List Group))
  | inOtherwise (statements : List Statement) (body : List Group) (otherwise : GroupsHole)

namespace BlockHole

/-- The branch with the hole. -/
def branch : BlockHole → GroupsHole
  | inBody _ branch _ => branch
  | inOtherwise _ _ branch => branch

def fill (cs : List Constraint) : BlockHole → ConditionalBlock
  | inBody statements branch otherwise => ⟨statements, branch.fill cs, otherwise⟩
  | inOtherwise statements body branch => ⟨statements, body, some (branch.fill cs)⟩

/-- The statements choose the branch with the hole. -/
def IsChosen (tree : FileTree) (filter : TagFilter) (scope : Scope) : BlockHole → Prop
  | inBody statements _ _ =>
    (scope.anyHolds statements).heard (Pass.outcome tree filter) = some (true, [])
  | inOtherwise statements _ _ =>
    (scope.anyHolds statements).heard (Pass.outcome tree filter) = some (false, [])

end BlockHole

/-- A section with the hole in its groups or in one of its blocks. -/
inductive SectionHole where
  | inGroups (tags : List String) (groups : GroupsHole) (blocks : List ConditionalBlock)
  | inBlock (tags : List String) (groups : List Group) (before : List ConditionalBlock)
    (opened : BlockHole) (after : List ConditionalBlock)

namespace SectionHole

def tags : SectionHole → List String
  | inGroups tags _ _ => tags
  | inBlock tags _ _ _ _ => tags

def pattern : SectionHole → String
  | inGroups _ groups _ => groups.pattern
  | inBlock _ _ _ opened _ => opened.branch.pattern

/-- The blocks without the hole. -/
def blocks : SectionHole → List ConditionalBlock
  | inGroups _ _ blocks => blocks
  | inBlock _ _ before _ after => before ++ after

def fill (cs : List Constraint) : SectionHole → Section
  | inGroups tags groups blocks => ⟨tags, groups.fill cs, blocks⟩
  | inBlock tags groups before opened after => ⟨tags, groups, before ++ opened.fill cs :: after⟩

/-- A pass over the section comes to the group with the hole. -/
def IsReported (tree : FileTree) (filter : TagFilter) (scope : Scope) : SectionHole → Prop
  | inGroups tags _ _ => filter.Admits tags
  | inBlock tags _ _ opened _ => filter.Admits tags ∧ opened.IsChosen tree filter scope

end SectionHole

structure DocumentHole where
  objects : ObjectTable
  before : List Section
  opened : SectionHole
  after : List Section

def DocumentHole.fill (o : DocumentHole) (cs : List Constraint) : Document where
  objects := o.objects
  sections := o.before ++ o.opened.fill cs :: o.after

section

variable {tree : FileTree} {filter : TagFilter} {scope : Scope}

namespace SectionHole

@[simp]
theorem tags_fill (o : SectionHole) (cs : List Constraint) : (o.fill cs).tags = o.tags := by
  cases o <;> rfl

theorem mem_blocks_fill (o : SectionHole) (cs : List Constraint) {b : ConditionalBlock}
    (h : b ∈ o.blocks) : b ∈ (o.fill cs).blocks := by
  cases o with
  | inGroups => exact h
  | inBlock tags groups before opened after =>
      rcases List.mem_append.mp h with h | h
      · exact List.mem_append_left _ h
      · exact List.mem_append_right _ (List.mem_cons_of_mem _ h)

end SectionHole

theorem BlockHole.IsChosen.chooses {o : BlockHole} (h : o.IsChosen tree filter scope)
    (cs : List Constraint) : scope.Chooses tree filter (o.fill cs) (o.branch.fill cs) := by
  cases o with
  | inBody => exact ⟨true, h, rfl⟩
  | inOtherwise => exact ⟨false, h, rfl⟩

theorem SectionHole.IsReported.admits {o : SectionHole} (h : o.IsReported tree filter scope) :
    filter.Admits o.tags := by
  cases o with
  | inGroups => exact h
  | inBlock => exact h.1

/-- A pass checks the same groups around the hole, whatever constraints are put into it. The
branches that blocks choose are decided by their conditions, in which the hole is not. -/
theorem SectionHole.IsReported.exists_groups {o : SectionHole}
    (h : o.IsReported tree filter scope)
    (hblocks : ∀ b ∈ o.blocks, ∃ gs, scope.Chooses tree filter b gs) :
    ∃ before after, ∀ cs, ∃ branches,
      List.Forall₂ (scope.Chooses tree filter) (o.fill cs).blocks branches ∧
        (o.fill cs).groups ++ branches.flatten = before ++ ⟨o.pattern, cs⟩ :: after := by
  cases o with
  | inGroups tags groups blocks =>
      obtain ⟨branches, hbranches⟩ := exists_forall₂ hblocks
      refine ⟨groups.before, groups.after ++ branches.flatten, fun cs => ⟨branches, hbranches, ?_⟩⟩
      exact List.append_assoc _ _ _
  | inBlock tags groups before opened after =>
      obtain ⟨hbefore, hafter⟩ := List.forall_mem_append.mp hblocks
      obtain ⟨branchesBefore, hbefore⟩ := exists_forall₂ hbefore
      obtain ⟨branchesAfter, hafter⟩ := exists_forall₂ hafter
      refine ⟨groups ++ branchesBefore.flatten ++ opened.branch.before,
        opened.branch.after ++ branchesAfter.flatten, fun cs => ?_⟩
      refine ⟨branchesBefore ++ opened.branch.fill cs :: branchesAfter,
        List.rel_append hbefore (.cons (h.2.chooses cs) hafter), ?_⟩
      simp [SectionHole.fill, GroupsHole.fill, SectionHole.pattern]

/-- The agenda of a document is the same around the entries of the group with the hole, whatever
constraints are put into it. -/
theorem DocumentHole.exists_agenda {o : DocumentHole} (h : o.opened.IsReported tree filter scope)
    {cs : List Constraint}
    (hchooses : ∀ sec ∈ (o.fill cs).sections.filter fun sec => filter.Admits sec.tags,
      ∀ b ∈ sec.blocks, ∃ gs, scope.Chooses tree filter b gs) :
    ∃ before after, ∀ cs, scope.Agenda tree filter
      ((o.fill cs).sections.filter fun sec => filter.Admits sec.tags)
      (before ++ (scope.entriesOf ⟨o.opened.pattern, cs⟩ ++ after)) := by
  have hsections : ∀ cs, ((o.fill cs).sections.filter fun sec => filter.Admits sec.tags)
      = (o.before.filter fun sec => filter.Admits sec.tags)
        ++ o.opened.fill cs :: o.after.filter fun sec => filter.Admits sec.tags := by
    intro cs
    rw [DocumentHole.fill, List.filter_append, List.filter_cons_of_pos (by simpa using h.admits)]
  rw [hsections] at hchooses
  obtain ⟨hbefore, hrest⟩ := List.forall_mem_append.mp hchooses
  obtain ⟨hopened, hafter⟩ := List.forall_mem_cons.mp hrest
  obtain ⟨entriesBefore, hbefore⟩ := Scope.exists_agenda hbefore
  obtain ⟨entriesAfter, hafter⟩ := Scope.exists_agenda hafter
  obtain ⟨groupsBefore, groupsAfter, hgroups⟩ :=
    h.exists_groups fun b hb => hopened b (o.opened.mem_blocks_fill cs hb)
  refine ⟨entriesBefore ++ .event (.beforeSection o.opened.tags)
    :: groupsBefore.flatMap scope.entriesOf, groupsAfter.flatMap scope.entriesOf
      ++ .event (.afterSection o.opened.tags) :: entriesAfter, fun cs => ?_⟩
  obtain ⟨branches, hbranches, heq⟩ := hgroups cs
  have hagenda := hbefore.append (.cons hbranches hafter)
  rw [heq, Scope.sectionEntries, o.opened.tags_fill] at hagenda
  rw [hsections]
  simpa using hagenda

end

namespace Report

variable {α : Type} {f : α → Option Report} {xs ys zs : List α} {r before after : Report}

/-- What reports are collected about has a report for each thing. -/
theorem exists_of_collect (h : collect f xs = some r) {a : α} (ha : a ∈ xs) :
    ∃ part, f a = some part := by
  obtain ⟨parts, hparts, -⟩ := collect_eq_some_iff.mp h
  obtain ⟨part, -, hpart⟩ := exists_mem_of_forall₂ (List.Forall₂.flip hparts) ha
  exact ⟨part, hpart⟩

theorem exists_collect_around (h : collect f (xs ++ (ys ++ zs)) = some r) :
    ∃ before after, collect f xs = some before ∧ collect f zs = some after := by
  rw [collect_append, collect_append] at h
  obtain ⟨before, hbefore, h⟩ := Option.bind_eq_some_iff.mp h
  obtain ⟨others, hothers, -⟩ := Option.bind_eq_some_iff.mp h
  obtain ⟨own, -, hothers⟩ := Option.bind_eq_some_iff.mp hothers
  obtain ⟨after, hafter, -⟩ := Option.bind_eq_some_iff.mp hothers
  exact ⟨before, after, hbefore, hafter⟩

/-- With the reports around them fixed, some things are reported in their place. It is how the frame
around a replaced group is kept. -/
theorem collect_around (hbefore : collect f xs = some before) (hafter : collect f zs = some after) :
    collect f (xs ++ (ys ++ zs)) = (collect f ys).map fun own => before ++ (own ++ after) := by
  rw [collect_append, collect_append, hbefore, hafter]
  cases collect f ys <;> rfl

end Report

section

variable {tree : FileTree} {filter : TagFilter} {depth : Nat} {silent : Bool} {document : Document}
  {page : Page} {report : Report}

/-- A pass does what is on its agenda. -/
theorem validate_of_agenda {entries : List AgendaEntry}
    (h : (Scope.ofDocument document page filter tree depth).Agenda tree filter
      (document.sections.filter fun sec => filter.Admits sec.tags) entries) :
    validate tree filter depth silent document page
      = Report.collect
        ((Scope.ofDocument document page filter tree depth).reportEntry
          (Pass.outcome tree filter) silent) entries :=
  validate_eq_collect_admitted.trans h.collect_eq

/-- A pass that comes to an end has decided all conditions on its way. So each block stands for one
branch in the agenda. -/
theorem exists_chooses (h : validate tree filter depth silent document page = some report) :
    ∀ sec ∈ document.sections.filter fun sec => filter.Admits sec.tags, ∀ b ∈ sec.blocks,
      ∃ gs, (Scope.ofDocument document page filter tree depth).Chooses tree filter b gs := by
  intro sec hsec b hb
  rw [validate_eq_collect_admitted] at h
  obtain ⟨part, hpart⟩ := Report.exists_of_collect h hsec
  rw [Scope.report_checkSection] at hpart
  obtain ⟨groups, -, hpart⟩ := Option.bind_eq_some_iff.mp hpart
  obtain ⟨blocks, hblocks, -⟩ := Option.map_eq_some_iff.mp hpart
  obtain ⟨block, hblock⟩ := Report.exists_of_collect hblocks hb
  rw [Scope.report_checkBlock] at hblock
  obtain ⟨⟨held, events⟩, hheld, -⟩ := Option.bind_eq_some_iff.mp hblock
  obtain rfl := Scope.events_eq_nil_of_anyHolds hheld
  exact ⟨_, held, hheld, rfl⟩

/-- Whatever is found about an entry, there is a message about it. -/
theorem messages_ne_nil_of_reportEntry {scope : Scope} {entry : AgendaEntry} {r : Report}
    (h : scope.reportEntry (Pass.outcome tree filter) silent entry = some r) :
    ∀ failure ∈ r.failures, failure.messages ≠ [] := by
  cases entry with
  | event e =>
      obtain rfl := Option.some.inj h
      exact List.forall_mem_nil _
  | object name cs => exact (Scope.objectFailures_of_checkObject h).messages_ne_nil
  | fault f =>
      obtain rfl := Option.some.inj h
      exact List.forall_mem_singleton.mpr (List.cons_ne_nil f.message [])

/-- A fault stays inside its object. A pass that comes to an end has an agenda, and its report is
made of those about the entries. An object, whether reported or silently looked at in a condition,
has the failures of all its constraints, or of those up to the first fatal one. If a group that the
pass comes to is given other constraints, everything in front of it and behind it is reported as
before. And no failure is without a message. -/
theorem validate_contained {scope : Scope}
    (hscope : scope = Scope.ofDocument document page filter tree depth)
    (h : validate tree filter depth silent document page = some report) :
    (∃ entries reports,
      scope.Agenda tree filter (document.sections.filter fun sec => filter.Admits sec.tags)
        entries ∧
      List.Forall₂ (fun entry r =>
        scope.reportEntry (Pass.outcome tree filter) silent entry = some r)
        entries reports ∧
      report.failures = reports.flatMap Report.failures ∧
      report.events = reports.flatMap Report.events) ∧
    (∀ quiet name cs r,
      scope.reportEntry (Pass.outcome tree filter) quiet (.object name cs) = some r →
        scope.ObjectFailures tree filter quiet name cs r.failures) ∧
    (∀ (hole : DocumentHole) cs, hole.fill cs = document →
      hole.opened.IsReported tree filter scope →
        ∃ entriesBefore entriesAfter before after,
          (∀ cs', scope.Agenda tree filter
            ((hole.fill cs').sections.filter fun sec => filter.Admits sec.tags)
            (entriesBefore ++ (scope.entriesOf ⟨hole.opened.pattern, cs'⟩ ++ entriesAfter))) ∧
          Report.collect (scope.reportEntry (Pass.outcome tree filter) silent)
            entriesBefore = some before ∧
          Report.collect (scope.reportEntry (Pass.outcome tree filter) silent)
            entriesAfter = some after ∧
          ∀ cs', validate tree filter depth silent (hole.fill cs') page
            = ((scope.checkGroup silent ⟨hole.opened.pattern, cs'⟩).report
                (Pass.outcome tree filter)).map fun own => before ++ (own ++ after)) ∧
    ∀ failure ∈ report.failures, failure.messages ≠ [] := by
  subst hscope
  obtain ⟨entries, hagenda⟩ := Scope.exists_agenda (exists_chooses h)
  have hcollect := (validate_of_agenda hagenda).symm.trans h
  obtain ⟨reports, hreports, hfailures, hevents⟩ := Report.collect_eq_some_iff.mp hcollect
  refine ⟨⟨entries, reports, hagenda, hreports, hfailures, hevents⟩,
    fun quiet name cs r hr => Scope.objectFailures_of_checkObject hr, ?_, ?_⟩
  · intro hole cs hfill hreported
    subst hfill
    obtain ⟨entriesBefore, entriesAfter, hagenda⟩ :=
      DocumentHole.exists_agenda hreported (exists_chooses h)
    obtain ⟨before, after, hbefore, hafter⟩ :=
      Report.exists_collect_around ((validate_of_agenda (hagenda cs)).symm.trans h)
    refine ⟨entriesBefore, entriesAfter, before, after, hagenda, hbefore, hafter, fun cs' => ?_⟩
    -- The scope of the pass is made of the objects alone, and so the same for all constraints.
    have hvalidate :=
      @validate_of_agenda tree filter depth silent (hole.fill cs') page _ (hagenda cs')
    rw [hvalidate, ← Scope.collect_entriesOf]
    exact Report.collect_around hbefore hafter
  · intro failure hfailure
    rw [hfailures] at hfailure
    obtain ⟨r, hr, hfailure⟩ := List.mem_flatMap.mp hfailure
    obtain ⟨entry, -, hentry⟩ := exists_mem_of_forall₂ hreports hr
    exact @messages_ne_nil_of_reportEntry tree filter silent
      (Scope.ofDocument document page filter tree depth) entry r hentry failure hfailure

end

/-- What is asked of two objects is left open. One of them is not declared. -/
def ghostHole : DocumentHole where
  objects := .ofList [("box", ⟨.css, "b", none⟩)]
  before := []
  opened := .inBlock [] [⟨"box", [.height (.exactly 5)]⟩] []
    (.inOtherwise [] [] ⟨[], "ghost, box", [⟨"box", [.absent]⟩]⟩) []
  after := []

def ghostPage : Page where
  elements := [(⟨.css, "b", none⟩, .shown ⟨0, 0, 8, 8⟩)]

def ghostFailures : List Failure :=
  [⟨[⟨0, 0, 8, 8⟩], ["\"box\" height is 8px instead of 5px"]⟩,
    ⟨[], ["Cannot find locator for \"ghost\" in page spec"]⟩,
    ⟨[⟨0, 0, 8, 8⟩], ["\"box\" width is 8px instead of 5px"]⟩,
    ⟨[⟨0, 0, 8, 8⟩], ["Object \"box\" is not absent on page"]⟩]

theorem validate_contained_ghost :
    ∃ report before after,
      validate {} .all 0 false (ghostHole.fill [.width (.exactly 5), .visible]) ghostPage
        = some report ∧
      report.failures = ghostFailures ∧ (∀ failure ∈ report.failures, failure.messages ≠ []) ∧
      ∀ cs, validate {} .all 0 false (ghostHole.fill cs) ghostPage
        = (((Scope.ofDocument (ghostHole.fill []) ghostPage .all {} 0).checkGroup false
            ⟨"ghost, box", cs⟩).report (Pass.outcome {} .all)).map fun own =>
          before ++ (own ++ after) := by
  have hreport : (validate {} .all 0 false (ghostHole.fill [.width (.exactly 5), .visible])
      ghostPage).map Report.failures = some ghostFailures := by
    rw [validate, Pass.outcome]
    decide +kernel
  obtain ⟨report, h, hfailures⟩ := Option.map_eq_some_iff.mp hreport
  obtain ⟨-, -, hholes, hmessages⟩ := validate_contained rfl h
  have hreported : ghostHole.opened.IsReported {} .all
      (Scope.ofDocument (ghostHole.fill [.width (.exactly 5), .visible]) ghostPage .all {} 0) :=
    ⟨by decide, rfl⟩
  obtain ⟨-, -, before, after, -, -, -, hfill⟩ := hholes ghostHole _ rfl hreported
  exact ⟨report, before, after, h, hfailures, hmessages, hfill⟩

end LayoutSpec
