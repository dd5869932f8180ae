import LayoutSpec.Proofs.Validation.Told
import Mathlib.Data.List.Forall2

/-!
A pass goes its way whoever watches it. It tells each observer of the same events and finds the same
failures, and what an observer makes of the events is its own affair: members of a combination,
however deep inside of it, hear what they hear alone, and one that breaks down is not missed by
anybody.
-/

namespace LayoutSpec

namespace Observer

mutual

/-- The observers inside of combinations, in their order. -/
def leaves : Observer → List Observer
  | .combined members => leavesOf members
  | .silent => [.silent]
  | .recorder events => [.recorder events]
  | .failureCounter constraintErrors globalErrors => [.failureCounter constraintErrors globalErrors]
  | .fragile breaks calls => [.fragile breaks calls]

def leavesOf : List Observer → List Observer
  | [] => []
  | member :: rest => leaves member ++ leavesOf rest

end

mutual

theorem leaves_notify (e : Event) : ∀ o : Observer, (o.notify e).leaves = o.leaves.map (·.notify e)
  | .combined members => leavesOf_receiveEach e members
  | .silent => rfl
  | .recorder _ => rfl
  | .failureCounter _ _ => by cases e <;> rfl
  | .fragile _ _ => rfl

theorem leavesOf_receiveEach (e : Event) : ∀ members : List Observer,
    leavesOf (receiveEach e members) = (leavesOf members).map (·.notify e)
  | [] => rfl
  | member :: rest => by
      rw [receiveEach, leavesOf, leavesOf, List.map_append, ← leavesOf_receiveEach e rest,
        ← leaves_notify e member]
      rfl

end

/-- What is told to a combination is told to each observer inside of it. -/
theorem leaves_notifyAll (o : Observer) (events : List Event) :
    (o.notifyAll events).leaves = o.leaves.map (·.notifyAll events) := by
  induction events generalizing o with
  | nil => exact (List.map_id o.leaves).symm
  | cons e events ih =>
      refine (ih (o.notify e)).trans ?_
      rw [leaves_notify, List.map_map]
      rfl

theorem notifyAll_silent (events : List Event) : silent.notifyAll events = silent := by
  induction events with
  | nil => rfl
  | cons e events ih => exact ih

end Observer

namespace Pass

/-- Whoever watches a pass, it comes to no end, or it finds the same failures as in front of an
observer that ignores everything. Each observer inside of combinations is left as it would be if it
had watched the pass alone; it has heard every event in its order, also behind those in which it
breaks down. -/
theorem watch_isolated (tree : FileTree) (filter : TagFilter) (p : Pass) :
    (p.outcome tree filter = none ∧ ∀ o, p.watch tree filter o = none) ∨
    ∃ report, p.outcome tree filter = some report ∧
      p.watch tree filter .silent = some ⟨some report.failures, .silent⟩ ∧
      (∀ o, ∃ after, p.watch tree filter o = some ⟨some report.failures, after⟩ ∧
        List.Forall₂ (fun member left =>
            p.watch tree filter member = some ⟨some report.failures, left⟩)
          o.leaves after.leaves) ∧
      ∀ breaks calls, p.watch tree filter (.fragile breaks calls)
        = some ⟨some report.failures, .fragile breaks (calls ++ report.events)⟩ := by
  cases hp : p.outcome tree filter with
  | none =>
      refine .inl ⟨rfl, fun o => ?_⟩
      rw [watch_eq_map, hp]
      rfl
  | some report =>
      refine .inr ⟨report, rfl, ?_, ?_, ?_⟩
      · rw [watch_of_outcome hp, Observer.notifyAll_silent]
      · intro o
        refine ⟨o.notifyAll report.events, watch_of_outcome hp o, ?_⟩
        rw [Observer.leaves_notifyAll, List.forall₂_map_right_iff]
        apply List.forall₂_same.mpr
        intro member _
        exact watch_of_outcome hp member
      · intro breaks calls
        rw [watch_of_outcome hp, Observer.notifyAll_fragile]

/-- The pass over the page with the cell. -/
def cellPass : Pass :=
  ⟨0, false, cellDocument, cellPage⟩

/-- The first observer breaks down at every object and the last one at the end, and between them
there is one that records. -/
def cellObserver : Observer :=
  .combined [.fragile [.object] [], .combined [.recorder [], .fragile [.afterSection] []]]

theorem watch_isolated_cell : ∃ events after,
    cellPass.watch cellTree .all cellObserver = some ⟨some [cellFailure], after⟩ ∧
      after.leaves
        = [.fragile [.object] events, .recorder events, .fragile [.afterSection] events] ∧
      events.countP (·.hook = .object) = 2 := by
  obtain ⟨hnone, -⟩ | ⟨report, hreport, -, hall, hfragile⟩ := watch_isolated cellTree .all cellPass
  · rw [show cellPass.outcome cellTree .all = _ from validate_cell] at hnone
    cases hnone
  · have hvalue := Option.some.inj (hreport.symm.trans validate_cell)
    have hfailures : report.failures = [cellFailure] := congrArg Report.failures hvalue
    obtain ⟨after, hafter, hleaves⟩ := hall cellObserver
    have hrecorder := watch_of_outcome hreport (.recorder [])
    rw [Observer.notifyAll_recorder] at hrecorder
    change List.Forall₂ _ [Observer.fragile [.object] [], Observer.recorder [],
      Observer.fragile [.afterSection] []] after.leaves at hleaves
    simp only [List.forall₂_cons_left_iff, List.forall₂_nil_left_iff] at hleaves
    obtain ⟨first, _, hfirst, ⟨middle, _, hmiddle, ⟨last, _, hlast, rfl, rfl⟩, rfl⟩, hkept⟩ :=
      hleaves
    obtain ⟨-, rfl⟩ := Watched.mk.inj (Option.some.inj (hfirst.symm.trans (hfragile _ _)))
    obtain ⟨-, rfl⟩ := Watched.mk.inj (Option.some.inj (hmiddle.symm.trans hrecorder))
    obtain ⟨-, rfl⟩ := Watched.mk.inj (Option.some.inj (hlast.symm.trans (hfragile _ _)))
    rw [hfailures] at hafter
    refine ⟨report.events, after, hafter, hkept, ?_⟩
    rw [hvalue]
    rfl

end Pass

end LayoutSpec
