import LayoutSpec.Proofs.Validation.Told

/-!
What is told of a pass, whatever its patterns are. The events of a pass open and close its sections
and objects in order, and every failure that is told at the level of the pass is one that the pass
returns. The converse fails for a pattern that cannot be compiled, which is returned and not told.
-/

namespace LayoutSpec

namespace Event

/-- The second event ends what the first one starts. An error ends the action that it stops. -/
inductive Closes : Event → Event → Prop where
  | suite {name : String} {passed : Bool} : Closes (suiteStarted name) (suiteFinished name passed)
  | pageTest {title : String} {passed : Bool} :
    Closes (pageTestStarted title) (pageTestFinished title passed)
  | action {action : Action} {failures : Nat} :
    Closes (actionStarted action) (actionFinished action failures)
  | stopped {action : Action} {error : Error} : Closes (actionStarted action) (globalError error)
  | section {tags : List String} : Closes (beforeSection tags) (afterSection tags)
  | object {name : String} {depth : Nat} : Closes (object name depth) (afterObject name depth)

/-- Whether an event stands for itself. -/
def isPlain : Event → Bool
  | constraintSuccess .. | constraintError .. | globalError .. => true
  | _ => false

end Event

/-- Whatever is started is ended, after all that is started in between. -/
inductive Bracketed : List Event → Prop where
  | nil : Bracketed []
  | plain {e : Event} {rest : List Event} :
    e.isPlain = true → Bracketed rest → Bracketed (e :: rest)
  | enclosed {first last : Event} {inner rest : List Event} : first.Closes last → Bracketed inner →
    Bracketed rest → Bracketed (first :: inner ++ last :: rest)

namespace Bracketed

theorem append {events others : List Event} (h : Bracketed events) (hothers : Bracketed others) :
    Bracketed (events ++ others) := by
  induction h with
  | nil => exact hothers
  | plain hplain _ ih => exact .plain hplain ih
  | enclosed hcloses hinner _ _ ih =>
      rw [List.append_assoc]
      exact .enclosed hcloses hinner ih

theorem singleton {e : Event} (h : e.isPlain = true) : Bracketed [e] :=
  .plain h .nil

theorem between {first last : Event} {inner : List Event} (hcloses : first.Closes last)
    (h : Bracketed inner) : Bracketed (first :: inner ++ [last]) :=
  .enclosed hcloses h .nil

end Bracketed

namespace Report

/-- The events of a part of a pass are in order, and the failures that they tell at the level of the
part are returned. A part stands where `stands` says, within the objects around it. -/
structure Ordered (level : Nat) (stands : List Nat → Prop) (r : Report) : Prop where
  bracketed : Bracketed r.events
  told : ∀ depth ≤ level, ∀ around, stands around → ∀ rest, ∃ told,
    failuresAt depth around (r.events ++ rest) = told ++ failuresAt depth around rest ∧
      told.Sublist (r.failuresIf (level = depth))

/-- Events of a pass below a level, where no failure of the level is told. -/
structure Below (level : Nat) (events : List Event) : Prop where
  bracketed : Bracketed events
  skipped : ∀ depth ≤ level, ∀ around rest,
    failuresAt depth around (events ++ rest) = failuresAt depth around rest

/-- Parts that stand within an object of the pass, and those that stand around all objects. -/
abbrev OrderedItems (level : Nat) : Report → Prop :=
  Ordered level fun around => around.head? = some level

abbrev OrderedObjects (level : Nat) : Report → Prop :=
  Ordered level fun _ => True

variable {level : Nat} {stands : List Nat → Prop} {r others : Report}

namespace Ordered

/-- A failure that is not told. -/
theorem untold (failures : List Failure) : Ordered level stands { failures } := by
  constructor
  · exact .nil
  · intro depth _ around _ rest
    exact ⟨[], rfl, List.nil_sublist _⟩

theorem append (h : r.Ordered level stands) (hothers : others.Ordered level stands) :
    (r ++ others).Ordered level stands := by
  constructor
  · exact h.bracketed.append hothers.bracketed
  · intro depth hdepth around haround rest
    obtain ⟨first, hfirst, hreturned⟩ := h.told depth hdepth around haround (others.events ++ rest)
    obtain ⟨second, hsecond, hreturned'⟩ := hothers.told depth hdepth around haround rest
    refine ⟨first ++ second, ?_, ?_⟩
    · rw [events_append, List.append_assoc, hfirst, hsecond, List.append_assoc]
    · rw [failuresIf_append]
      exact hreturned.append hreturned'

/-- A pass is below the one around it. -/
theorem below (h : r.OrderedObjects (level + 1)) : Below level r.events := by
  refine ⟨h.bracketed, fun depth hdepth around rest => ?_⟩
  obtain ⟨told, htold, hreturned⟩ := h.told depth (Nat.le_succ_of_le hdepth) around trivial rest
  have hlevel : ¬ level + 1 = depth := by omega
  rw [failuresIf_neg hlevel, List.sublist_nil] at hreturned
  rw [htold, hreturned, List.nil_append]

/-- A constraint is told by its verdict, and the pass inside a component before that. Whatever is
told there is below the level of the constraint. -/
theorem item {inner : List Event} (hinner : Below level inner) (name : String) (c : Constraint)
    (verdict : CheckResult Unit) :
    OrderedItems level (⟨[], inner⟩ ++ .ofVerdict name c verdict) := by
  constructor
  · refine hinner.bracketed.append ?_
    rcases verdict with finding | ⟨⟩
    · exact .singleton rfl
    · exact .singleton rfl
  · intro depth hdepth around haround rest
    refine ⟨(ofVerdict name c verdict).failuresIf (level = depth), ?_, ?_⟩
    · rw [events_append, List.append_assoc, hinner.skipped depth hdepth]
      exact Account.failuresAt_ofVerdict haround name c verdict rest
    · rw [failuresIf_append]
      exact List.sublist_append_right _ _

theorem object (h : r.OrderedItems level) (name : String) :
    OrderedObjects level (r.between [.object name level] [.afterObject name level]) := by
  constructor
  · exact .between .object h.bracketed
  · intro depth hdepth around _ rest
    obtain ⟨told, htold, hreturned⟩ := h.told depth hdepth (level :: around) rfl
      (.afterObject name level :: rest)
    refine ⟨told, ?_, hreturned⟩
    calc failuresAt depth around _
        = failuresAt depth (level :: around) (r.events ++ .afterObject name level :: rest) := by
          simp [between, failuresAt]
      _ = told ++ failuresAt depth around rest := htold

theorem tagged (h : r.OrderedObjects level) (tags : List String) :
    OrderedObjects level (r.between [.beforeSection tags] [.afterSection tags]) := by
  constructor
  · exact .between .section h.bracketed
  · intro depth hdepth around _ rest
    obtain ⟨told, htold, hreturned⟩ := h.told depth hdepth around trivial
      (.afterSection tags :: rest)
    refine ⟨told, ?_, hreturned⟩
    calc failuresAt depth around _
        = failuresAt depth around (r.events ++ .afterSection tags :: rest) := by
          simp [between, failuresAt]
      _ = told ++ failuresAt depth around rest := htold

end Ordered

theorem below_nil : Below level [] :=
  ⟨.nil, fun _ _ _ _ => rfl⟩

end Report

/-- An outcome whose events are in order, if the pass is reported. -/
def Pass.OrderedOutcome (tree : FileTree) (filter : TagFilter) (p : Pass) (r : Report) : Prop :=
  p.outcome tree filter = some r ∧ (p.silent = false → r.OrderedObjects p.depth)

namespace Scope

open Report Pass

variable {tree : FileTree} {filter : TagFilter} {scope : Scope} {name : String}

theorem ordered_checkConstraint (c : Constraint) :
    (checkConstraint scope false name c).Yields (OrderedOutcome tree filter)
      fun _ inner => Below scope.depth inner := by
  cases c with
  | component spec =>
      simp only [checkConstraint]
      cases Check.component scope name spec with
      | error finding => exact below_nil
      | ok found => exact .enter fun inside hinside => (hinside.2 rfl).below
  | _ => exact below_nil

theorem ordered_checkConstraints (cs : List Constraint) :
    (checkConstraints scope false name cs).YieldsReport (OrderedOutcome tree filter)
      (OrderedItems scope.depth) := by
  induction cs with
  | nil => exact Ordered.untold []
  | cons c rest ih =>
      refine (ordered_checkConstraint c).bind fun verdict inner hinner => ?_
      have hitem := Ordered.item hinner name c verdict
      rcases verdict with (failure | fault) | ⟨⟩
      case error.fatal => exact .tellOf hitem
      case error.broken =>
        refine .tellOf (ih.bind fun others told hothers => ?_)
        have hall := hitem.append hothers
        rw [behind_ofVerdict] at hall
        change OrderedItems scope.depth ⟨failure :: others, inner ++ _ :: (told ++ [])⟩
        rw [List.append_nil]
        exact hall
      case ok =>
        refine .tellOf (ih.mono fun others told hothers => ?_)
        have hall := hitem.append hothers
        rw [behind_ofVerdict] at hall
        exact hall

theorem ordered_checkObject (cs : List Constraint) :
    (checkObject scope false cs name).YieldsReport (OrderedOutcome tree filter)
      (OrderedObjects scope.depth) :=
  .tellOf ((ordered_checkConstraints cs).bind fun _ _ hitems => hitems.object name)

/-- Reports in order, one after another. -/
theorem ordered_collect {α : Type} {f : α → Walk (List Failure)} {xs : List α}
    (hf : ∀ x ∈ xs, (f x).YieldsReport (OrderedOutcome tree filter) (OrderedObjects scope.depth)) :
    (Walk.collect f xs).YieldsReport (OrderedOutcome tree filter) (OrderedObjects scope.depth) := by
  refine Walk.Yields.collect (P := fun _ r => OrderedObjects scope.depth r) (.untold []) ?_ hf
  intro _ _ r others hr hothers
  exact hr.append hothers

theorem ordered_checkGroup (g : Group) :
    (checkGroup scope false g).YieldsReport (OrderedOutcome tree filter)
      (OrderedObjects scope.depth) := by
  rw [checkGroup]
  cases scope.names g.pattern with
  | error fault => exact Ordered.untold [.ofFault fault]
  | ok names => exact ordered_collect fun name _ => ordered_checkObject g.constraints

theorem ordered_checkGroups (gs : List Group) :
    (checkGroups scope false gs).YieldsReport (OrderedOutcome tree filter)
      (OrderedObjects scope.depth) :=
  ordered_collect fun g _ => ordered_checkGroup g

theorem ordered_checkBlock (b : ConditionalBlock) :
    (checkBlock scope false b).YieldsReport (OrderedOutcome tree filter)
      (OrderedObjects scope.depth) := by
  have hstatements : (anyHolds scope b.statements).Yields (OrderedOutcome tree filter)
      fun _ events => events = [] :=
    (Walk.yields_heard (fun _ _ hr => hr.1) _).mono fun _ _ h => events_eq_nil_of_anyHolds h
  refine hstatements.bind ?_
  rintro held _ rfl
  cases held with
  | true => exact ordered_checkGroups b.body
  | false => exact ordered_checkGroups (b.otherwise.getD [])

theorem ordered_checkSection (sec : Section) :
    (checkSection scope false sec).YieldsReport (OrderedOutcome tree filter)
      (OrderedObjects scope.depth) := by
  refine .tellOf ((ordered_checkGroups sec.groups).bind fun groups told hgroups => ?_)
  refine (ordered_collect fun b _ => ordered_checkBlock b).bind fun blocks told' hblocks => ?_
  change OrderedObjects scope.depth ⟨groups ++ blocks, _ :: (told ++ (told' ++ [_]))⟩
  rw [← List.append_assoc told]
  exact (hgroups.append hblocks).tagged sec.tags

end Scope

/-- The events of a pass that is reported are in order, and tell no failure at its level that it
does not return. -/
theorem Pass.ordered_of_outcome {tree : FileTree} {filter : TagFilter} {p : Pass} {r : Report}
    (hp : p.silent = false) (h : p.outcome tree filter = some r) : r.OrderedObjects p.depth := by
  refine of_yields (Q := fun p r => p.silent = false → r.OrderedObjects p.depth) (fun p => ?_) h hp
  obtain ⟨depth, silent, document, page⟩ := p
  cases silent with
  | true =>
      exact (Walk.yields_heard (fun _ _ hr => hr.1) _).mono fun _ _ _ hp => Bool.noConfusion hp
  | false =>
      refine (Scope.ordered_collect fun sec _ => Scope.ordered_checkSection sec).mono ?_
      exact fun _ _ hr _ => hr

end LayoutSpec
