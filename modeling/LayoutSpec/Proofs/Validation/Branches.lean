import LayoutSpec.Proofs.Validation.Silent
import LayoutSpec.Proofs.Validation.Told

/-!
The branches of conditional blocks. A block is checked by its body if one of its statements is met,
and by what stands behind its `otherwise` if none is. The statements behind the first one that holds
are not looked at. If the passes that they come to have an end, this makes no difference, since they
tell nothing: the statements may stand in any order and any number of times.
-/

namespace LayoutSpec

open Relation

/-- The statement with `unless` instead of `if`, or the other way round. -/
def Statement.negated (s : Statement) : Statement :=
  { s with inverted := !s.inverted }

/-- One change of the wording of a block. -/
inductive ConditionalBlock.Rewords : ConditionalBlock → ConditionalBlock → Prop where
  /-- The same statements stand in another order, or another number of times. -/
  | statements {sts sts' : List Statement} {body : List Group} {otherwise : Option (List Group)} :
    (∀ s, s ∈ sts ↔ s ∈ sts') → Rewords ⟨sts, body, otherwise⟩ ⟨sts', body, otherwise⟩
  /-- The only statement is negated, and the branches are exchanged. -/
  | negated {s : Statement} {body otherwise : List Group} :
    Rewords ⟨[s], body, some otherwise⟩ ⟨[s.negated], otherwise, some body⟩
  /-- A branch without groups is added. -/
  | noOtherwise {sts : List Statement} {body : List Group} :
    Rewords ⟨sts, body, none⟩ ⟨sts, body, some []⟩

/-- The blocks of a section are reworded, each any number of times. -/
structure Section.Rewords (sec sec' : Section) : Prop where
  tags : sec.tags = sec'.tags
  groups : sec.groups = sec'.groups
  blocks : List.Forall₂ (EqvGen ConditionalBlock.Rewords) sec.blocks sec'.blocks

/-- The blocks in the sections of a document are reworded. -/
structure Document.Rewords (d d' : Document) : Prop where
  objects : d.objects = d'.objects
  sections : List.Forall₂ Section.Rewords d.sections d'.sections

/-- The blocks that a pass of the document comes to. -/
def Document.visitedBlocks (filter : TagFilter) (d : Document) : List ConditionalBlock :=
  (d.sections.filter fun sec => filter.accepts sec.tags).flatMap Section.blocks

namespace Scope

section

variable (tree : FileTree) (filter : TagFilter) (scope : Scope)

/-- Every pass inside a component that a statement comes to has an end. -/
def StatementEnds (s : Statement) : Prop :=
  ∀ p, (scope.checkGroups true s.groups).Enters (Pass.outcome tree filter) p →
    p.EveryChainEnds tree filter

/-- Every pass inside a component that some statement of a block comes to has an end. -/
def StatementsEnd (b : ConditionalBlock) : Prop :=
  ∀ s ∈ b.statements, scope.StatementEnds tree filter s

/-- The number of failures of a statement, checked silently, is zero, or it is not and the statement
is inverted. -/
def IsMet (s : Statement) : Prop :=
  ∃ r, (scope.checkGroups true s.groups).report (Pass.outcome tree filter) = some r ∧
    Xor (r.failures.length = 0) (s.inverted = true)

/-- The groups are those of the branch for which the statements of a block speak. -/
inductive Takes (b : ConditionalBlock) : List Group → Prop where
  | body {s : Statement} : s ∈ b.statements → scope.IsMet tree filter s → Takes b b.body
  | otherwise : (∀ s ∈ b.statements, ¬ scope.IsMet tree filter s) → Takes b (b.otherwise.getD [])

/-- A block takes one branch, and nothing but the report of that branch is heard of it. -/
def ReportsOneBranch (silent : Bool) (b : ConditionalBlock) : Prop :=
  ∃ gs, (∀ gs', scope.Takes tree filter b gs' ↔ gs' = gs) ∧
    (scope.checkBlock silent b).report (Pass.outcome tree filter)
      = (scope.checkGroups silent gs).report (Pass.outcome tree filter)

/-- The second section has the groups of the branches that the blocks of the first one take in place
of the blocks. -/
structure Resolves (sec sec' : Section) : Prop where
  tags : sec.tags = sec'.tags
  groups : ∃ branches, List.Forall₂ (scope.Takes tree filter) sec.blocks branches ∧
    sec'.groups = sec.groups ++ branches.flatten
  blocks : sec'.blocks = []

end

variable {tree : FileTree} {filter : TagFilter} {scope : Scope} {s : Statement}
  {b b' : ConditionalBlock} {gs gs' : List Group}

/-- The passes that a statement comes to end if its check does. A check that comes to no end does so
in a pass. -/
theorem statementEnds_iff : scope.StatementEnds tree filter s ↔
    ∃ r, (scope.checkGroups true s.groups).report (Pass.outcome tree filter) = some r := by
  constructor
  · intro hends
    have hinside : ∀ p, (scope.checkGroups true s.groups).Enters (Pass.outcome tree filter) p →
        ∃ r, p.outcome tree filter = some r :=
      fun p hp => Pass.exists_outcome_of_everyChainEnds (hends p hp)
    obtain ⟨⟨failures, events⟩, hheard⟩ := Walk.exists_heard hinside
    exact ⟨⟨failures, events⟩, Walk.report_eq_some_iff.mpr hheard⟩
  · rintro ⟨r, hr⟩ p hp
    obtain ⟨inside, hinside⟩ :=
      Walk.exists_report_of_enters (fun _ _ h => h) (Walk.report_eq_some_iff.mp hr) hp
    exact Pass.everyChainEnds_of_outcome hinside

theorem statementEnds_negated :
    scope.StatementEnds tree filter s.negated ↔ scope.StatementEnds tree filter s :=
  Iff.rfl

theorem isMet_iff {r : Report}
    (h : (scope.checkGroups true s.groups).report (Pass.outcome tree filter) = some r) :
    scope.IsMet tree filter s ↔ Xor (r.failures.length = 0) (s.inverted = true) := by
  rw [IsMet, h]
  simp only [Option.some.injEq, exists_eq_left']

/-- The check of a statement says whether it is met, and nothing is heard of it. -/
theorem exists_holds (h : scope.StatementEnds tree filter s) :
    ∃ held events, (scope.holds s).heard (Pass.outcome tree filter) = some (held, events) ∧
      (held = true ↔ scope.IsMet tree filter s) := by
  obtain ⟨r, hr⟩ := statementEnds_iff.mp h
  refine ⟨r.failures.isEmpty != s.inverted, r.events, ?_, ?_⟩
  · rw [holds, Walk.heard_bind_pure, Walk.report_eq_some_iff.mp hr]
    rfl
  · rw [isMet_iff hr, List.length_eq_zero_iff, ← List.isEmpty_iff]
    cases r.failures.isEmpty <;> cases s.inverted <;> simp [Xor]

/-- Of a statement and its negation, one is met. -/
theorem isMet_negated_iff (h : scope.StatementEnds tree filter s) :
    scope.IsMet tree filter s.negated ↔ ¬ scope.IsMet tree filter s := by
  obtain ⟨r, hr⟩ := statementEnds_iff.mp h
  rw [isMet_iff (s := s.negated) hr, isMet_iff hr, Statement.negated]
  cases s.inverted <;> simp [Xor]

/-- Statements that are looked at one after another come to the same as all of them at once. The
order matters only to which of them are looked at. -/
theorem exists_anyHolds {sts : List Statement} (h : ∀ s ∈ sts, scope.StatementEnds tree filter s) :
    ∃ held, (scope.anyHolds sts).heard (Pass.outcome tree filter) = some (held, []) ∧
      (held = true ↔ ∃ s ∈ sts, scope.IsMet tree filter s) := by
  suffices hheard : ∃ held events,
      (scope.anyHolds sts).heard (Pass.outcome tree filter) = some (held, events) ∧
        (held = true ↔ ∃ s ∈ sts, scope.IsMet tree filter s) by
    obtain ⟨held, events, hheard, hmet⟩ := hheard
    obtain rfl := events_eq_nil_of_anyHolds hheard
    exact ⟨held, hheard, hmet⟩
  induction sts with
  | nil => exact ⟨false, [], rfl, by simp⟩
  | cons s rest ih =>
      obtain ⟨held, first, hheld, hmet⟩ := exists_holds (h s List.mem_cons_self)
      obtain ⟨others, later, hothers, hrest⟩ := ih fun s hs => h s (List.mem_cons_of_mem _ hs)
      have hany : (held || others) = true ↔ ∃ s' ∈ s :: rest, scope.IsMet tree filter s' := by
        rw [Bool.or_eq_true, hmet, hrest, List.exists_mem_cons_iff]
      rw [anyHolds, Walk.heard_bind, hheld, Option.bind_some]
      -- Behind a statement that holds nothing is looked at, though there would be an answer.
      cases held with
      | true => exact ⟨true, first ++ [], rfl, hany⟩
      | false =>
          refine ⟨others, first ++ later, ?_, hany⟩
          change Walk.behind first ((scope.anyHolds rest).heard _) = _
          rw [hothers]
          rfl

theorem exists_takes (tree : FileTree) (filter : TagFilter) (scope : Scope) (b : ConditionalBlock) :
    ∃ gs, scope.Takes tree filter b gs := by
  by_cases h : ∃ s ∈ b.statements, scope.IsMet tree filter s
  · obtain ⟨s, hs, hmet⟩ := h
    exact ⟨_, .body hs hmet⟩
  · exact ⟨_, .otherwise fun s hs hmet => h ⟨s, hs, hmet⟩⟩

theorem Takes.unique (h : scope.Takes tree filter b gs) (h' : scope.Takes tree filter b gs') :
    gs' = gs := by
  cases h with
  | body hs hmet =>
      cases h' with
      | body => rfl
      | otherwise hnone => exact absurd hmet (hnone _ hs)
  | otherwise hnone =>
      cases h' with
      | body hs hmet => exact absurd hmet (hnone _ hs)
      | otherwise => rfl

theorem Takes.chooses (hends : scope.StatementsEnd tree filter b)
    (h : scope.Takes tree filter b gs) : scope.Chooses tree filter b gs := by
  obtain ⟨held, hheld, hmet⟩ := exists_anyHolds hends
  refine ⟨held, hheld, ?_⟩
  cases h with
  | body hs hs' => rw [if_pos (hmet.mpr ⟨_, hs, hs'⟩)]
  | otherwise hnone =>
      rw [if_neg fun hheld => ?_]
      obtain ⟨s, hs, hs'⟩ := hmet.mp hheld
      exact hnone s hs hs'

/-- A block is reported as the branch is that its statements choose. Nothing else is left of the
statements in the report. -/
theorem Chooses.report_checkBlock (h : scope.Chooses tree filter b gs) (silent : Bool) :
    (scope.checkBlock silent b).report (Pass.outcome tree filter)
      = (scope.checkGroups silent gs).report (Pass.outcome tree filter) := by
  obtain ⟨held, hheld, rfl⟩ := h
  rw [Scope.report_checkBlock, hheld, Option.bind_some]

theorem report_checkBlock_of_takes (hends : scope.StatementsEnd tree filter b)
    (h : scope.Takes tree filter b gs) (silent : Bool) :
    (scope.checkBlock silent b).report (Pass.outcome tree filter)
      = (scope.checkGroups silent gs).report (Pass.outcome tree filter) :=
  (h.chooses hends).report_checkBlock silent

theorem reportsOneBranch (hends : scope.StatementsEnd tree filter b) (silent : Bool) :
    scope.ReportsOneBranch tree filter silent b := by
  obtain ⟨gs, hgs⟩ := exists_takes tree filter scope b
  exact ⟨gs, fun gs' => ⟨hgs.unique, fun h => h ▸ hgs⟩, report_checkBlock_of_takes hends hgs silent⟩

end Scope

namespace ConditionalBlock

variable {tree : FileTree} {filter : TagFilter} {scope : Scope} {b b' : ConditionalBlock}

theorem Rewords.statementsEnd_iff (h : b.Rewords b') :
    scope.StatementsEnd tree filter b ↔ scope.StatementsEnd tree filter b' := by
  cases h with
  | statements hsame => exact forall_congr' fun s => imp_congr (hsame s) Iff.rfl
  | negated =>
      rw [Scope.StatementsEnd, Scope.StatementsEnd, List.forall_mem_singleton,
        List.forall_mem_singleton, Scope.statementEnds_negated]
  | noOtherwise => exact Iff.rfl

/-- A block takes the branch that it took before it was reworded. There is one case for each change
of the wording. -/
theorem Rewords.takes {gs : List Group} (h : b.Rewords b')
    (hends : scope.StatementsEnd tree filter b) (htakes : scope.Takes tree filter b gs) :
    scope.Takes tree filter b' gs := by
  cases h with
  | statements hsame =>
      cases htakes with
      | body hs hmet => exact .body ((hsame _).mp hs) hmet
      | otherwise hnone => exact .otherwise fun s hs => hnone s ((hsame s).mpr hs)
  | @negated s body otherwise =>
      have hnegated : scope.IsMet tree filter s.negated ↔ ¬ scope.IsMet tree filter s :=
        Scope.isMet_negated_iff (hends s (List.mem_singleton.mpr rfl))
      cases htakes with
      | body hs hmet =>
          obtain rfl := List.mem_singleton.mp hs
          refine .otherwise fun s hs => ?_
          obtain rfl := List.mem_singleton.mp hs
          exact fun hmet' => hnegated.mp hmet' hmet
      | otherwise hnone =>
          exact .body (List.mem_singleton.mpr rfl)
            (hnegated.mpr (hnone s (List.mem_singleton.mpr rfl)))
  | noOtherwise =>
      cases htakes with
      | body hs hmet => exact .body hs hmet
      | otherwise hnone => exact .otherwise hnone

theorem Rewords.report_checkBlock (h : b.Rewords b') (hends : scope.StatementsEnd tree filter b)
    (silent : Bool) :
    (scope.checkBlock silent b).report (Pass.outcome tree filter)
      = (scope.checkBlock silent b').report (Pass.outcome tree filter) := by
  obtain ⟨gs, hgs⟩ := Scope.exists_takes tree filter scope b
  have hends' : scope.StatementsEnd tree filter b' := h.statementsEnd_iff.mp hends
  rw [Scope.report_checkBlock_of_takes hends hgs,
    Scope.report_checkBlock_of_takes hends' (h.takes hends hgs)]

/-- However often and in whichever direction a block is reworded, its report stays the same. The
passes of its statements end before if and only if they do afterwards, so that nothing is compared
with a report that does not exist. -/
theorem report_checkBlock_of_rewordings (h : EqvGen Rewords b b') :
    (scope.StatementsEnd tree filter b ↔ scope.StatementsEnd tree filter b') ∧
      (scope.StatementsEnd tree filter b → ∀ silent,
        (scope.checkBlock silent b).report (Pass.outcome tree filter)
          = (scope.checkBlock silent b').report (Pass.outcome tree filter)) := by
  -- The ends of the passes are carried along, so that steps can be taken in both directions.
  induction h with
  | rel b b' h => exact ⟨h.statementsEnd_iff, h.report_checkBlock⟩
  | refl b => exact ⟨Iff.rfl, fun _ _ => rfl⟩
  | symm b b' _ ih =>
      exact ⟨ih.1.symm, fun hends silent => (ih.2 (ih.1.mpr hends) silent).symm⟩
  | trans b c b' _ _ ihfirst ihlast =>
      refine ⟨ihfirst.1.trans ihlast.1, fun hends silent => ?_⟩
      exact (ihfirst.2 hends silent).trans (ihlast.2 (ihfirst.1.mp hends) silent)

end ConditionalBlock

/-- Where everything in a list is related to something, the list is to some list. -/
theorem exists_forall₂ {α β : Type} {R : α → β → Prop} {xs : List α} (h : ∀ a ∈ xs, ∃ b, R a b) :
    ∃ ys, List.Forall₂ R xs ys := by
  induction xs with
  | nil => exact ⟨[], .nil⟩
  | cons a xs ih =>
      obtain ⟨b, hb⟩ := h a List.mem_cons_self
      obtain ⟨ys, hys⟩ := ih fun a' ha' => h a' (List.mem_cons_of_mem a ha')
      exact ⟨b :: ys, .cons hb hys⟩

namespace Report

variable {α β : Type} {f : α → Option Report} {g : β → Option Report}

theorem collect_congr {R : α → β → Prop} {xs : List α} {ys : List β} (h : List.Forall₂ R xs ys)
    (hfg : ∀ a ∈ xs, ∀ b, R a b → f a = g b) : collect f xs = collect g ys := by
  induction h with
  | nil => rfl
  | cons hab _ ih =>
      rw [collect, collect, hfg _ List.mem_cons_self _ hab,
        ih fun a ha => hfg a (List.mem_cons_of_mem _ ha)]

theorem collect_append (xs ys : List α) :
    collect f (xs ++ ys) = do
      let first ← collect f xs
      let others ← collect f ys
      return first ++ others := by
  induction xs with
  | nil =>
      change collect f ys = (collect f ys >>= fun others => pure ({} ++ others))
      exact (bind_pure _).symm
  | cons a xs ih =>
      rw [List.cons_append, collect, collect, ih]
      simp only [bind_assoc, pure_bind, append_assoc]

theorem collect_flatten (xss : List (List α)) :
    collect f xss.flatten = collect (collect f) xss := by
  induction xss with
  | nil => rfl
  | cons xs xss ih => rw [List.flatten_cons, collect_append, ih, collect]

end Report

namespace Scope

variable {tree : FileTree} {filter : TagFilter} {scope : Scope} {sec sec' : Section}

theorem exists_resolves (tree : FileTree) (filter : TagFilter) (scope : Scope) (sec : Section) :
    ∃ sec', scope.Resolves tree filter sec sec' := by
  obtain ⟨branches, hbranches⟩ :=
    exists_forall₂ fun b (_ : b ∈ sec.blocks) => exists_takes tree filter scope b
  exact ⟨{ sec with groups := sec.groups ++ branches.flatten, blocks := [] },
    rfl, ⟨branches, hbranches, rfl⟩, rfl⟩

/-- A section is reported like its groups followed by those of the branches that its blocks choose.
-/
theorem report_checkSection_of_chooses {branches : List (List Group)}
    (h : List.Forall₂ (scope.Chooses tree filter) sec.blocks branches) (silent : Bool) :
    (scope.checkSection silent sec).report (Pass.outcome tree filter)
      = ((scope.checkGroups silent (sec.groups ++ branches.flatten)).report
          (Pass.outcome tree filter)).map fun r =>
        r.between (Walk.emit silent (.beforeSection sec.tags))
          (Walk.emit silent (.afterSection sec.tags)) := by
  have hblocks : Report.collect
      (fun b => (scope.checkBlock silent b).report (Pass.outcome tree filter)) sec.blocks
      = (scope.checkGroups silent branches.flatten).report (Pass.outcome tree filter) := by
    rw [report_checkGroups, Report.collect_flatten]
    refine Report.collect_congr h fun b _ gs hgs => ?_
    rw [hgs.report_checkBlock, report_checkGroups]
  rw [report_checkSection, hblocks, report_checkGroups, report_checkGroups, report_checkGroups,
    Report.collect_append]
  cases Report.collect (fun g => (scope.checkGroup silent g).report (Pass.outcome tree filter))
      sec.groups with
  | none => rfl
  | some groups =>
      cases Report.collect (fun g => (scope.checkGroup silent g).report (Pass.outcome tree filter))
          branches.flatten <;> rfl

/-- The groups of the branches may stand in place of the blocks. A section without blocks is what is
left then. -/
theorem Resolves.report_checkSection (h : scope.Resolves tree filter sec sec')
    (hends : ∀ b ∈ sec.blocks, scope.StatementsEnd tree filter b) (silent : Bool) :
    (scope.checkSection silent sec).report (Pass.outcome tree filter)
      = (scope.checkSection silent sec').report (Pass.outcome tree filter) := by
  obtain ⟨branches, hbranches, hgroups⟩ := h.groups
  have hchooses : List.Forall₂ (scope.Chooses tree filter) sec.blocks branches :=
    ((List.forall₂_and_left _ _).mpr ⟨hends, hbranches⟩).imp fun b gs h => h.2.chooses h.1
  have hnone : List.Forall₂ (scope.Chooses tree filter) sec'.blocks [] := by
    rw [h.blocks]
    exact .nil
  rw [report_checkSection_of_chooses hchooses, report_checkSection_of_chooses hnone, hgroups,
    h.tags, List.flatten_nil, List.append_nil]

end Scope

theorem Section.Rewords.report_checkSection {tree : FileTree} {filter : TagFilter} {scope : Scope}
    {sec sec' : Section} (h : sec.Rewords sec')
    (hends : ∀ b ∈ sec.blocks, scope.StatementsEnd tree filter b) (silent : Bool) :
    (scope.checkSection silent sec).report (Pass.outcome tree filter)
      = (scope.checkSection silent sec').report (Pass.outcome tree filter) := by
  have hblocks := Report.collect_congr h.blocks fun b hb b' hb' =>
    (ConditionalBlock.report_checkBlock_of_rewordings hb').2 (hends b hb) silent
  rw [Scope.report_checkSection, Scope.report_checkSection, h.groups, h.tags, hblocks]

/-- Two documents with the same objects have the same outcome if their sections, one by one, have
the same tags and are checked alike. -/
theorem validate_congr {tree : FileTree} {filter : TagFilter} {depth : Nat} {silent : Bool}
    {document document' : Document} {page : Page} {R : Section → Section → Prop}
    (hobjects : document.objects = document'.objects)
    (htags : ∀ sec sec', R sec sec' → sec.tags = sec'.tags)
    (hsections : List.Forall₂ R document.sections document'.sections)
    (hcheck : ∀ sec ∈ document.sections, filter.accepts sec.tags = true → ∀ sec', R sec sec' →
      ((Scope.ofDocument document page filter tree depth).checkSection silent sec).report
          (Pass.outcome tree filter)
        = ((Scope.ofDocument document page filter tree depth).checkSection silent sec').report
          (Pass.outcome tree filter)) :
    validate tree filter depth silent document page
      = validate tree filter depth silent document' page := by
  have hscope : Scope.ofDocument document' page filter tree depth
      = Scope.ofDocument document page filter tree depth := by
    rw [Scope.ofDocument, Scope.ofDocument, hobjects]
  have haccepted : List.Forall₂ R (document.sections.filter fun sec => filter.accepts sec.tags)
      (document'.sections.filter fun sec => filter.accepts sec.tags) :=
    List.rel_filter (fun sec sec' h => by
      dsimp only
      rw [htags sec sec' h]) hsections
  rw [validate_eq_collect, validate_eq_collect, hscope]
  refine Report.collect_congr haccepted fun sec hsec sec' h => ?_
  obtain ⟨hmem, haccepts⟩ := List.mem_filter.mp hsec
  exact hcheck sec hmem haccepts sec' h

/-- If the passes inside components that statements come to have an end, each block that a pass
comes to takes one branch, and nothing but the report of that branch is heard of the block; the
whole pass is that of the spec with the branches in place of the blocks; and it stays the same if
statements are put in another order or repeated, a single statement is negated while the branches
are exchanged, or a branch without groups is left out, in any number of blocks and any number of
times. -/
theorem validate_conditional {tree : FileTree} {filter : TagFilter} {depth : Nat}
    {document : Document} {page : Page}
    (hends : ∀ b ∈ document.visitedBlocks filter,
      (Scope.ofDocument document page filter tree depth).StatementsEnd tree filter b)
    (silent : Bool) :
    (∀ b ∈ document.visitedBlocks filter,
        (Scope.ofDocument document page filter tree depth).ReportsOneBranch tree filter silent b) ∧
      (∃ sections,
        List.Forall₂ ((Scope.ofDocument document page filter tree depth).Resolves tree filter)
          document.sections sections ∧
        validate tree filter depth silent document page
          = validate tree filter depth silent { document with sections } page) ∧
      ∀ document', document.Rewords document' →
        validate tree filter depth silent document page
          = validate tree filter depth silent document' page := by
  have hsection : ∀ sec ∈ document.sections, filter.accepts sec.tags = true →
      ∀ b ∈ sec.blocks,
        (Scope.ofDocument document page filter tree depth).StatementsEnd tree filter b :=
    fun sec hsec haccepts b hb =>
      hends b (List.mem_flatMap.mpr ⟨sec, List.mem_filter.mpr ⟨hsec, haccepts⟩, hb⟩)
  refine ⟨fun b hb => Scope.reportsOneBranch (hends b hb) silent, ?_, fun document' hrewords => ?_⟩
  · obtain ⟨sections, hsections⟩ := exists_forall₂ fun sec (_ : sec ∈ document.sections) =>
      Scope.exists_resolves tree filter (Scope.ofDocument document page filter tree depth) sec
    refine ⟨sections, hsections, validate_congr rfl (fun _ _ h => h.tags) hsections ?_⟩
    exact fun sec hsec haccepts sec' h =>
      h.report_checkSection (hsection sec hsec haccepts) silent
  · refine validate_congr hrewords.objects (fun _ _ h => h.tags) hrewords.sections ?_
    exact fun sec hsec haccepts sec' h =>
      h.report_checkSection (hsection sec hsec haccepts) silent

/-- What is asked of the cell in a condition. -/
def cellGroup : Group :=
  ⟨"cell", [.component ⟨"cell.spec"⟩]⟩

/-- The cell has to be there if its content is as its spec says, or if it is not. -/
def cellBlock : ConditionalBlock where
  statements := [⟨false, [cellGroup]⟩, ⟨true, [cellGroup]⟩]
  body := [⟨"cell", [.visible]⟩]

/-- The conditions the other way round, and the first one again. -/
def rewordedCellBlock : ConditionalBlock where
  statements := [⟨true, [cellGroup]⟩, ⟨false, [cellGroup]⟩, ⟨true, [cellGroup]⟩]
  body := [⟨"cell", [.visible]⟩]
  otherwise := some []

/-- A spec in which a block is all that is said about the cell. -/
def conditionalDocument (block : ConditionalBlock) : Document :=
  { cellDocument with sections := [{ blocks := [block] }] }

theorem rewords_cellBlock : EqvGen ConditionalBlock.Rewords cellBlock rewordedCellBlock := by
  have hsame : ∀ s, s ∈ cellBlock.statements ↔ s ∈ rewordedCellBlock.statements := by
    intro s
    simp only [cellBlock, rewordedCellBlock, List.mem_cons, List.not_mem_nil]
    tauto
  exact .trans _ _ _ (.rel _ _ (.statements hsame)) (.rel _ _ .noOtherwise)

/-- Of the cell, a condition sees one failure and hears nothing. -/
theorem report_checkGroups_cell :
    (cellScope.checkGroups true [cellGroup]).report (Pass.outcome cellTree .all)
      = some { failures := [cellFailure] } := by
  have hlabel : Pass.outcome cellTree .all
      ⟨1, true, labelDocument, cellPage.seenFrom ⟨10, 10, 100, 50⟩⟩ = some labelReport.muted := by
    rw [Pass.outcome]
    rfl
  have hconstraint : (cellScope.checkConstraint true "cell" (.component ⟨"cell.spec"⟩)).heard
      (Pass.outcome cellTree .all) = some (.error (.broken cellFailure), []) := by
    rw [Scope.checkConstraint, component_cell]
    exact (Walk.heard_enter _ _).trans (hlabel ▸ rfl)
  have hobject : (cellScope.checkObject true [.component ⟨"cell.spec"⟩] "cell").report
      (Pass.outcome cellTree .all) = some { failures := [cellFailure] } := by
    rw [Scope.report_checkObject, Walk.report_eq_map, Scope.checkConstraints, Walk.heard_bind,
      hconstraint]
    rfl
  have hnames : cellScope.names "cell" = .ok ["cell"] := rfl
  have hgroup : (cellScope.checkGroup true cellGroup).report (Pass.outcome cellTree .all)
      = some { failures := [cellFailure] } := by
    rw [cellGroup, Scope.report_checkGroup _ _ _ hnames, Report.collect, hobject]
    rfl
  rw [Scope.report_checkGroups, Report.collect, hgroup]
  rfl

theorem validate_conditional_cell :
    (∀ b ∈ (conditionalDocument cellBlock).visitedBlocks .all,
      cellScope.StatementsEnd cellTree .all b) ∧
    validate cellTree .all 0 false (conditionalDocument cellBlock) cellPage
      = validate cellTree .all 0 false (conditionalDocument rewordedCellBlock) cellPage := by
  have hends : ∀ b ∈ (conditionalDocument cellBlock).visitedBlocks .all,
      cellScope.StatementsEnd cellTree .all b := by
    intro b hb s hs
    obtain rfl := List.mem_singleton.mp hb
    have hgroups : s.groups = [cellGroup] := by
      rcases List.mem_pair.mp hs with rfl | rfl <;> rfl
    refine Scope.statementEnds_iff.mpr ⟨{ failures := [cellFailure] }, ?_⟩
    rw [hgroups]
    exact report_checkGroups_cell
  refine ⟨hends, (validate_conditional hends false).2.2 _ ?_⟩
  exact ⟨rfl, .cons ⟨rfl, rfl, .cons rewords_cellBlock .nil⟩ .nil⟩

end LayoutSpec
