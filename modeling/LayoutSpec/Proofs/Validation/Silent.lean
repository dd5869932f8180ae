import LayoutSpec.Proofs.Validation.Alike
import Mathlib.Logic.Relation

/-!
Silent passes. What a silent pass does is what the pass that tells everything does, without the
telling and with silent passes inside; so are the conditions of a block in every pass. Hence a
silent pass finds the same failures, and no observer is told of it.
-/

namespace LayoutSpec

open Relation

def Pass.muted (p : Pass) : Pass :=
  { p with silent := true }

def Report.muted (r : Report) : Report :=
  { r with events := [] }

namespace Walk

variable {α β : Type} {x : Walk α} {reports more : Pass → Option Report}

/-- The walk without what it tells, with silent passes inside. -/
def muted : Walk α → Walk α
  | done a => done a
  | tell _ next => next.muted
  | enter p next => enter p.muted fun failures => (next failures).muted

theorem muted_bind (x : Walk α) (f : α → Walk β) :
    (x >>= f).muted = x.muted >>= fun a => (f a).muted := by
  induction x with
  | done a => rfl
  | tell e next ih => exact ih
  | enter p next ih => exact congrArg (enter p.muted) (funext ih)

theorem muted_pure (a : α) : (pure a : Walk α).muted = pure a :=
  rfl

theorem muted_tellOf (silent : Bool) (e : Event) : (tellOf silent e).muted = tellOf true e := by
  cases silent <;> rfl

theorem muted_collect {f g : α → Walk (List Failure)} (h : ∀ a, (f a).muted = g a) (xs : List α) :
    (collect f xs).muted = collect g xs := by
  induction xs with
  | nil => rfl
  | cons a xs ih => simp only [collect, muted_bind, muted_pure, h, ih]

/-- Of a muted walk nothing is heard, if nothing is of silent passes. All passes that it enters are
silent. -/
theorem events_eq_nil_of_muted
    (hsilent : ∀ p r, reports p = some r → p.silent = true → r.events = []) {a : α}
    {events : List Event} (h : x.muted.heard reports = some (a, events)) : events = [] := by
  induction x generalizing events with
  | done b => exact (Prod.mk.inj (Option.some.inj h)).2.symm
  | tell e next ih => exact ih h
  | enter p next ih =>
      rw [muted, heard_enter] at h
      obtain ⟨r, hr, h⟩ := Option.bind_eq_some_iff.mp h
      obtain ⟨⟨b, later⟩, hnext, htold⟩ := Option.map_eq_some_iff.mp h
      obtain ⟨rfl, rfl⟩ := Prod.mk.inj htold
      rw [hsilent _ r hr rfl, ih r.failures hnext]
      rfl

theorem silent_of_enters_muted {p : Pass} (h : x.muted.Enters reports p) : p.silent = true := by
  induction x with
  | done a => exact absurd h id
  | tell e next ih => exact ih h
  | enter q next ih =>
      rcases h with rfl | ⟨r, -, hlater⟩
      · rfl
      · exact ih r.failures hlater

/-- A muted walk comes to the same result, if silent passes do. What it would tell is dropped, and
nothing that is found depends on that. -/
theorem heard_muted (h : ∀ p r, reports p = some r → more p.muted = some r.muted) {a : α}
    {events : List Event} (hx : x.heard reports = some (a, events)) :
    x.muted.heard more = some (a, []) := by
  induction x generalizing events with
  | done b =>
      obtain ⟨rfl, -⟩ := Prod.mk.inj (Option.some.inj hx)
      rfl
  | tell e next ih =>
      rw [heard_tell] at hx
      obtain ⟨⟨b, later⟩, hnext, htold⟩ := Option.map_eq_some_iff.mp hx
      obtain ⟨rfl, -⟩ := Prod.mk.inj htold
      exact ih hnext
  | enter p next ih =>
      rw [heard_enter] at hx
      obtain ⟨r, hr, hx⟩ := Option.bind_eq_some_iff.mp hx
      obtain ⟨⟨b, later⟩, hnext, htold⟩ := Option.map_eq_some_iff.mp hx
      obtain ⟨rfl, -⟩ := Prod.mk.inj htold
      rw [muted, heard_enter, h p r hr, Option.bind_some]
      exact (behind_nil _).trans (ih r.failures hnext)

end Walk

namespace Scope

open Walk

variable (scope : Scope) (silent : Bool)

theorem muted_checkConstraint (name : String) (c : Constraint) :
    (scope.checkConstraint silent name c).muted = scope.checkConstraint true name c := by
  cases c with
  | component spec =>
      simp only [checkConstraint]
      cases Check.component scope name spec <;> rfl
  | _ => rfl

theorem muted_checkConstraints (name : String) (cs : List Constraint) :
    (scope.checkConstraints silent name cs).muted = scope.checkConstraints true name cs := by
  induction cs with
  | nil => rfl
  | cons c rest ih =>
      rw [checkConstraints, checkConstraints, muted_bind, muted_checkConstraint]
      congr 1
      funext verdict
      rcases verdict with (failure | fault) | ⟨⟩
      case error.broken => simp only [muted_bind, muted_tellOf, muted_pure, ih]
      case error.fatal => simp only [muted_bind, muted_tellOf, muted_pure]
      case ok => simp only [muted_bind, muted_tellOf, ih]

theorem muted_checkGroup (g : Group) :
    (scope.checkGroup silent g).muted = scope.checkGroup true g := by
  rw [checkGroup, checkGroup]
  cases scope.names g.pattern with
  | error fault => rfl
  | ok names =>
      refine muted_collect (fun name => ?_) names
      simp only [checkObject, muted_bind, muted_tellOf, muted_pure, muted_checkConstraints]

theorem muted_checkGroups (gs : List Group) :
    (scope.checkGroups silent gs).muted = scope.checkGroups true gs :=
  muted_collect (scope.muted_checkGroup silent) gs

/-- Conditions are looked at silently in every pass, so that muting does not change them. -/
theorem muted_anyHolds (sts : List Statement) :
    (scope.anyHolds sts).muted = scope.anyHolds sts := by
  induction sts with
  | nil => rfl
  | cons s rest ih =>
      have hholds : (scope.holds s).muted = scope.holds s := by
        rw [holds, muted_bind, muted_checkGroups]
        rfl
      rw [anyHolds, muted_bind, hholds]
      congr 1
      funext held
      cases held with
      | true => rfl
      | false => exact ih

theorem muted_checkBlock (b : ConditionalBlock) :
    (scope.checkBlock silent b).muted = scope.checkBlock true b := by
  rw [checkBlock, checkBlock, muted_bind, muted_anyHolds]
  congr 1
  funext held
  cases held with
  | true => exact scope.muted_checkGroups silent b.body
  | false => exact scope.muted_checkGroups silent (b.otherwise.getD [])

theorem muted_checkSections (secs : List Section) :
    (scope.checkSections silent secs).muted = scope.checkSections true secs := by
  refine muted_collect (fun sec => ?_) _
  simp only [checkSection, muted_bind, muted_tellOf, muted_pure, muted_checkGroups,
    muted_collect (scope.muted_checkBlock silent)]

end Scope

namespace Pass

variable {tree : FileTree} {filter : TagFilter} {p q : Pass} {r : Report}

theorem walk_muted (p : Pass) : p.muted.walk tree filter = (p.walk tree filter).muted :=
  (Scope.muted_checkSections _ p.silent p.document.sections).symm

theorem walk_eq_muted (hp : p.silent = true) : p.walk tree filter = (p.walk tree filter).muted := by
  have hsame : p.muted = p := by rw [muted, ← hp]
  rw [← walk_muted, hsame]

theorem events_eq_nil_of_silent (hp : p.silent = true) (hr : p.outcome tree filter = some r) :
    r.events = [] := by
  refine of_outcome (Q := fun p r => p.silent = true → r.events = []) ?_ hr hp
  intro reports p r hreports hr hp
  have hheard := Walk.report_eq_some_iff.mp hr
  rw [walk_eq_muted hp] at hheard
  exact Walk.events_eq_nil_of_muted (fun q r hq => (hreports q r hq).2) hheard

theorem outcome_muted_of_outcome (h : p.outcome tree filter = some r) :
    p.muted.outcome tree filter = some r.muted := by
  refine of_outcome (Q := fun p r => p.muted.outcome tree filter = some r.muted) ?_ h
  intro reports p r hreports hr
  have hheard := Walk.report_eq_some_iff.mp hr
  rw [outcome, walk_muted]
  apply Walk.report_eq_some_iff.mpr
  exact Walk.heard_muted (fun q r hq => (hreports q r hq).2) hheard

/-- A pass that is made silent comes to an end if it does otherwise, and finds the same. Passes
inside it are silent then as well. -/
theorem outcome_muted (p : Pass) :
    p.muted.outcome tree filter = (p.outcome tree filter).map Report.muted := by
  cases hp : p.outcome tree filter with
  | some r => exact outcome_muted_of_outcome hp
  | none =>
      cases hmuted : p.muted.outcome tree filter with
      | none => rfl
      | some r =>
          have halike : p.muted.Alike tree p := ⟨rfl, rfl⟩
          obtain ⟨r', hr', -⟩ := halike.exists_outcome hmuted
          rw [hp] at hr'
          cases hr'

/-- Every pass inside a silent one is silent, however deep it is. -/
theorem silent_of_reaches (h : ReflTransGen (Starts tree filter) p q) (hp : p.silent = true) :
    q.silent = true := by
  induction h with
  | refl => exact hp
  | tail _ hstarts ih =>
      rw [Starts, walk_eq_muted ih] at hstarts
      exact Walk.silent_of_enters_muted hstarts

/-- A silent pass leaves every observer as it is. Not even one that breaks down can tell that there
was a pass. -/
theorem observer_of_silent (hp : p.silent = true) {o : Observer} {w : Watched (List Failure)}
    (hw : p.watch tree filter o = some w) : w.observer = o := by
  obtain ⟨r, hr, rfl⟩ := outcome_of_watch hw
  rw [events_eq_nil_of_silent hp hr]
  rfl

end Pass

/-- What the conditions of a block come to, with nothing that is heard of them. -/
theorem Scope.events_eq_nil_of_anyHolds {tree : FileTree} {filter : TagFilter} {scope : Scope}
    {sts : List Statement} {held : Bool} {events : List Event}
    (h : (scope.anyHolds sts).heard (Pass.outcome tree filter) = some (held, events)) :
    events = [] := by
  rw [← muted_anyHolds] at h
  exact Walk.events_eq_nil_of_muted (fun _ _ hr hp => Pass.events_eq_nil_of_silent hp hr) h

/-- A block is reported by the branch that its statements choose. Whether the pass is silent makes a
difference to this branch only. -/
theorem Scope.report_checkBlock (tree : FileTree) (filter : TagFilter) (scope : Scope)
    (silent : Bool) (b : ConditionalBlock) :
    (scope.checkBlock silent b).report (Pass.outcome tree filter)
      = ((scope.anyHolds b.statements).heard (Pass.outcome tree filter)).bind fun it =>
        (scope.checkGroups silent (if it.1 then b.body else b.otherwise.getD [])).report
          (Pass.outcome tree filter) := by
  rw [Walk.report_eq_map, checkBlock, Walk.heard_bind]
  cases hheard : (scope.anyHolds b.statements).heard (Pass.outcome tree filter) with
  | none => rfl
  | some it =>
      obtain ⟨held, events⟩ := it
      obtain rfl := events_eq_nil_of_anyHolds hheard
      rw [Option.bind_some, Option.bind_some, Walk.behind_nil, Walk.report_eq_map]
      cases held <;> rfl

/-- A silent pass has the report of the pass that tells everything, without the events. It and all
passes inside it tell nothing, whoever watches them. In any pass, nothing is heard of the statements
of a block by any observer, and the report about the block is that of the branch that they choose,
so that nothing of what they find is reported. -/
theorem validate_silent (tree : FileTree) (filter : TagFilter) (depth : Nat) (document : Document)
    (page : Page) :
    validate tree filter depth true document page
        = (validate tree filter depth false document page).map Report.muted ∧
      (∀ q, ReflTransGen (Pass.Starts tree filter) ⟨depth, true, document, page⟩ q →
        q.silent = true ∧ (∀ r, q.outcome tree filter = some r → r.events = []) ∧
          ∀ o w, q.watch tree filter o = some w → w.observer = o) ∧
      ∀ (silent : Bool) (b : ConditionalBlock),
        let scope := Scope.ofDocument document page filter tree depth
        (∀ held events,
          (scope.anyHolds b.statements).heard (Pass.outcome tree filter) = some (held, events) →
            events = []) ∧
        (∀ o w, (scope.anyHolds b.statements).perform (Pass.watch tree filter) o = some w →
          w.observer = o) ∧
        (scope.checkBlock silent b).report (Pass.outcome tree filter)
          = ((scope.anyHolds b.statements).heard (Pass.outcome tree filter)).bind fun it =>
            (scope.checkGroups silent (if it.1 then b.body else b.otherwise.getD [])).report
              (Pass.outcome tree filter) := by
  refine ⟨Pass.outcome_muted ⟨depth, false, document, page⟩, ?_, ?_⟩
  · intro q hq
    have hsilent := Pass.silent_of_reaches hq rfl
    refine ⟨hsilent, fun r hr => Pass.events_eq_nil_of_silent hsilent hr, ?_⟩
    exact fun o w hw => Pass.observer_of_silent hsilent hw
  · intro silent b scope
    refine ⟨fun held events => Scope.events_eq_nil_of_anyHolds, fun o w hw => ?_,
      Scope.report_checkBlock tree filter scope silent b⟩
    obtain ⟨held, events, hheard, rfl⟩ :=
      Walk.heard_of_perform (fun _ _ _ hw => Pass.outcome_of_watch hw) hw
    rw [Scope.events_eq_nil_of_anyHolds hheard]
    rfl

end LayoutSpec
