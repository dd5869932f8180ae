import LayoutSpec.Suite.Pool
import LayoutSpec.Proofs.Suite.Interleaving
import Mathlib.Algebra.GroupWithZero.Nat
import Mathlib.Data.List.Nodup

/-!
What the steps of a pool keep: every job is in the queue, with one worker, or finished, and every
event is either told or still to be told. A pool whose workers have not all stopped can go on, and
there is an end to it.
-/

namespace LayoutSpec

namespace Worker

def job? : Worker → Option Job
  | .idle => none
  | .busy job _ => some job

/-- The events that a worker still has to tell. -/
def untold : Worker → List Event
  | .idle => []
  | .busy _ untold => untold

/-- The number of steps until a worker is idle. -/
def steps : Worker → Nat
  | .idle => 0
  | .busy _ untold => untold.length + 1

end Worker

namespace Job

/-- A job's place and its result. -/
def entry (job : Job) : Nat × SuiteResult :=
  (job.place, job.run.result)

def events (job : Job) : List Event :=
  job.run.trace.events

end Job

namespace Pool

variable {pool next : Pool} {worker : Nat}

/-- The jobs that are not finished: those of the workers and those in the queue. -/
def unfinished (pool : Pool) : List Job :=
  pool.workers.filterMap Worker.job? ++ pool.queue

/-- The events that are not told, by workers and by jobs of the queue. -/
def untold (pool : Pool) : List (List Event) :=
  pool.workers.map Worker.untold ++ pool.queue.map Job.events

/-- The number of steps until all workers have stopped. -/
def remaining (pool : Pool) : Nat :=
  (pool.workers.map Worker.steps).sum + (pool.queue.map fun job => job.events.length + 2).sum

inductive Step (pool : Pool) (worker : Nat) : Pool → Prop where
  | take (before after : List Worker) (job : Job) (queue : List Job) :
    pool.workers = before ++ .idle :: after → before.length = worker → pool.queue = job :: queue →
    Step pool worker { pool with
      queue, workers := before ++ .busy job job.events :: after }
  | tell (before after : List Worker) (job : Job) (e : Event) (untold : List Event) :
    pool.workers = before ++ .busy job (e :: untold) :: after → before.length = worker →
    Step pool worker { pool with
      told := pool.told ++ [e], workers := before ++ .busy job untold :: after }
  | store (before after : List Worker) (job : Job) :
    pool.workers = before ++ .busy job [] :: after → before.length = worker →
    Step pool worker { pool with
      finished := pool.finished ++ [job.entry], workers := before ++ .idle :: after }

theorem exists_append_of_getElem? {α : Type} {xs : List α} {i : Nat} {x : α} (h : xs[i]? = some x) :
    ∃ before after, xs = before ++ x :: after ∧ before.length = i ∧
      ∀ y, xs.set i y = before ++ y :: after := by
  induction xs generalizing i with
  | nil => simp at h
  | cons z xs ih =>
      cases i with
      | zero =>
          obtain rfl : z = x := by simpa using h
          exact ⟨[], xs, rfl, rfl, fun y => rfl⟩
      | succ i =>
          obtain ⟨before, after, hxs, hlength, hset⟩ := ih (by simpa using h)
          refine ⟨z :: before, after, by rw [hxs]; rfl, by rw [List.length_cons, hlength], ?_⟩
          intro y
          rw [List.set_cons_succ, hset, List.cons_append]

/-- A worker takes a job, tells an event or stores a result, and does nothing else. So an invariant
of pools is proved in three cases. -/
theorem step_of_step? (h : pool.step? worker = some next) : Step pool worker next := by
  rw [step?] at h
  cases hworker : pool.workers[worker]? with
  | none => simp [hworker] at h
  | some w =>
      obtain ⟨before, after, hworkers, hlength, hset⟩ := exists_append_of_getElem? hworker
      rw [hworker] at h
      cases w with
      | idle =>
          cases hqueue : pool.queue with
          | nil => simp [hqueue] at h
          | cons job queue =>
              simp only [hqueue, hset] at h
              obtain rfl := Option.some.inj h
              exact .take before after job queue hworkers hlength hqueue
      | busy job untold =>
          cases untold with
          | nil =>
              simp only [hset] at h
              obtain rfl := Option.some.inj h
              exact .store before after job hworkers hlength
          | cons e untold =>
              simp only [hset] at h
              obtain rfl := Option.some.inj h
              exact .tell before after job e untold hworkers hlength

/-- A step neither loses a job nor makes a second one of it. Jobs are counted among the workers and
in the queue, and by their results once they are finished. -/
theorem perm_step (h : Step pool worker next) :
    (next.finished ++ next.unfinished.map Job.entry).Perm
      (pool.finished ++ pool.unfinished.map Job.entry) := by
  cases h with
  | take before after job queue hworkers hlength hqueue =>
      simp only [unfinished, hworkers, hqueue, Worker.job?, List.filterMap_append,
        List.filterMap_cons, List.map_append, List.map_cons, List.append_assoc, List.cons_append]
      exact .append_left _ (.append_left _ List.perm_middle.symm)
  | tell before after job e untold hworkers hlength =>
      simp only [unfinished, hworkers, Worker.job?, List.filterMap_append, List.filterMap_cons]
      exact .refl _
  | store before after job hworkers hlength =>
      simp only [unfinished, hworkers, Worker.job?, List.filterMap_append, List.filterMap_cons,
        List.map_append, List.map_cons, List.append_assoc, List.cons_append, List.nil_append]
      exact .append_left _ List.perm_middle.symm

/-- A step tells the next event of one job at most. What is told then and what is still to be told
are an interleaving of what was to be told before. -/
theorem untold_step {told : List Event} (h : Step pool worker next)
    (hnext : Interleaving next.untold told) :
    ∃ new, next.told = pool.told ++ new ∧ Interleaving pool.untold (new ++ told) := by
  cases h with
  | take before after job queue hworkers hlength hqueue =>
      refine ⟨[], (List.append_nil _).symm, hnext.nil_cons.of_perm ?_⟩
      simp only [Pool.untold, hworkers, hqueue, Worker.untold, List.map_append, List.map_cons,
        List.append_assoc, List.cons_append]
      refine List.perm_middle.trans (.cons _ (.append_left _ ?_))
      exact List.perm_middle
  | tell before after job e untold hworkers hlength =>
      have hbefore : pool.untold.Perm ((e :: untold) ::
          (before.map Worker.untold
            ++ (after.map Worker.untold ++ pool.queue.map Job.events))) := by
        simp only [Pool.untold, hworkers, Worker.untold, List.map_append, List.map_cons,
          List.append_assoc, List.cons_append]
        exact List.perm_middle
      refine ⟨[e], rfl, .cons hbefore (hnext.of_perm ?_)⟩
      simp only [Pool.untold, Worker.untold, List.map_append, List.map_cons, List.append_assoc,
        List.cons_append]
      exact List.perm_middle.symm
  | store before after job hworkers hlength =>
      refine ⟨[], (List.append_nil _).symm, ?_⟩
      rw [List.nil_append]
      simpa only [Pool.untold, hworkers, Worker.untold, List.map_append, List.map_cons] using hnext

/-- Every step brings the pool closer to its end. -/
theorem remaining_step (h : Step pool worker next) : next.remaining + 1 = pool.remaining := by
  cases h with
  | take before after job queue hworkers hlength hqueue =>
      simp [remaining, hworkers, hqueue, Worker.steps]
      omega
  | tell before after job e untold hworkers hlength =>
      simp [remaining, hworkers, Worker.steps]
      omega
  | store before after job hworkers hlength =>
      simp [remaining, hworkers, Worker.steps]
      omega

theorem perm_after {schedule : List Nat} (h : pool.after? schedule = some next) :
    (next.finished ++ next.unfinished.map Job.entry).Perm
      (pool.finished ++ pool.unfinished.map Job.entry) := by
  induction schedule generalizing pool with
  | nil =>
      obtain rfl : pool = next := Option.some.inj h
      exact .refl _
  | cons worker schedule ih =>
      obtain ⟨mid, hstep, hrest⟩ := Option.bind_eq_some_iff.mp h
      exact (ih hrest).trans (perm_step (step_of_step? hstep))

/-- Some steps tell events that are an interleaving with those that the pool still has to tell. The
induction is on the schedule. -/
theorem untold_after {schedule : List Nat} {told : List Event}
    (h : pool.after? schedule = some next) (hnext : Interleaving next.untold told) :
    ∃ new, next.told = pool.told ++ new ∧ Interleaving pool.untold (new ++ told) := by
  induction schedule generalizing pool with
  | nil =>
      obtain rfl : pool = next := Option.some.inj h
      exact ⟨[], (List.append_nil _).symm, hnext⟩
  | cons worker schedule ih =>
      obtain ⟨mid, hstep, hrest⟩ := Option.bind_eq_some_iff.mp h
      obtain ⟨later, htold, hmid⟩ := ih hrest
      obtain ⟨first, hfirst, hpool⟩ := untold_step (step_of_step? hstep) hmid
      refine ⟨first ++ later, ?_, ?_⟩
      · rw [htold, hfirst, List.append_assoc]
      · rwa [List.append_assoc]

theorem workers_of_joined (h : pool.joined = true) :
    pool.queue = [] ∧ ∀ w ∈ pool.workers, w = .idle := by
  rw [joined, Bool.and_eq_true, List.isEmpty_iff, List.all_eq_true] at h
  refine ⟨h.1, fun w hw => ?_⟩
  have hidle := h.2 w hw
  cases w with
  | idle => rfl
  | busy job untold => cases hidle

/-- A pool in which something is left to be done has a worker that can do its next step. So no
schedule leads to a pool that is stuck, and every run of a pool can be brought to its end. -/
theorem exists_step (hworkers : pool.workers ≠ []) (h : pool.joined = false) :
    ∃ worker next, pool.step? worker = some next := by
  by_cases hbusy : ∃ job untold, Worker.busy job untold ∈ pool.workers
  · obtain ⟨job, untold, hmem⟩ := hbusy
    obtain ⟨worker, hworker⟩ := List.getElem?_of_mem hmem
    cases untold with
    | nil => exact ⟨worker, _, by rw [step?, hworker]⟩
    | cons e untold => exact ⟨worker, _, by rw [step?, hworker]⟩
  · have hidle : ∀ w ∈ pool.workers, w = .idle := by
      intro w hw
      cases w with
      | idle => rfl
      | busy job untold => exact absurd ⟨job, untold, hw⟩ hbusy
    have hqueue : pool.queue ≠ [] := by
      intro hempty
      have hjoined : pool.joined = true := by
        rw [joined, Bool.and_eq_true, List.isEmpty_iff, List.all_eq_true]
        refine ⟨hempty, fun w hw => ?_⟩
        rw [hidle w hw]
      rw [hjoined] at h
      cases h
    obtain ⟨job, queue, hjobs⟩ := List.exists_cons_of_ne_nil hqueue
    obtain ⟨w, rest, hfirst⟩ := List.exists_cons_of_ne_nil hworkers
    obtain rfl := hidle w (by simp [hfirst])
    exact ⟨0, _, by rw [step?, hfirst, List.getElem?_cons_zero, hjobs]⟩

theorem length_workers_step (h : Step pool worker next) :
    next.workers.length = pool.workers.length := by
  cases h with
  | take before after job queue hworkers hlength hqueue => simp [hworkers]
  | tell before after job e untold hworkers hlength => simp [hworkers]
  | store before after job hworkers hlength => simp [hworkers]

/-- A schedule is as long as what it brings the pool closer to its end. -/
theorem remaining_after {schedule : List Nat} (h : pool.after? schedule = some next) :
    next.remaining + schedule.length = pool.remaining := by
  induction schedule generalizing pool with
  | nil =>
      obtain rfl : pool = next := Option.some.inj h
      rfl
  | cons worker schedule ih =>
      obtain ⟨mid, hstep, hrest⟩ := Option.bind_eq_some_iff.mp h
      have hfirst := remaining_step (step_of_step? hstep)
      have hlater := ih hrest
      rw [List.length_cons]
      omega

/-- However a pool with workers was scheduled so far, it can be scheduled until all of them have
stopped. -/
theorem exists_joined (hworkers : pool.workers ≠ []) :
    ∃ schedule last, pool.after? schedule = some last ∧ last.joined = true := by
  induction hremaining : pool.remaining generalizing pool with
  | zero =>
      cases hjoined : pool.joined with
      | true => exact ⟨[], pool, rfl, hjoined⟩
      | false =>
          obtain ⟨worker, next, hstep⟩ := exists_step hworkers hjoined
          have hless := remaining_step (step_of_step? hstep)
          omega
  | succ n ih =>
      cases hjoined : pool.joined with
      | true => exact ⟨[], pool, rfl, hjoined⟩
      | false =>
          obtain ⟨worker, next, hstep⟩ := exists_step hworkers hjoined
          have hless := remaining_step (step_of_step? hstep)
          have hlength := length_workers_step (step_of_step? hstep)
          have hnext : next.workers ≠ [] := by
            intro hnil
            rw [hnil] at hlength
            exact hworkers (List.eq_nil_of_length_eq_zero hlength.symm)
          obtain ⟨schedule, last, hafter, hlast⟩ := ih hnext (by omega)
          exact ⟨worker :: schedule, last, Option.bind_eq_some_iff.mpr ⟨next, hstep, hafter⟩, hlast⟩

variable {workers : Nat} {jobs : List Job} {schedule : List Nat}

theorem unfinished_start : (start workers jobs).unfinished = jobs := by
  rw [unfinished, start, List.filterMap_replicate_of_none (by rfl), List.nil_append]

/-- Every job is finished once. -/
theorem finished_perm (h : (start workers jobs).after? schedule = some pool)
    (hjoined : pool.joined = true) : pool.finished.Perm (jobs.map Job.entry) := by
  obtain ⟨hqueue, hidle⟩ := workers_of_joined hjoined
  have hlast : pool.unfinished = [] := by
    rw [unfinished, hqueue, List.append_nil, List.filterMap_eq_nil_iff]
    intro w hw
    rw [hidle w hw, Worker.job?]
  have hperm := perm_after h
  rw [hlast, unfinished_start, List.map_nil, List.append_nil] at hperm
  exact hperm

/-- The events of each job are told in their order, and no others are. Between those of one job
there can be events of others. -/
theorem told_interleaving (h : (start workers jobs).after? schedule = some pool)
    (hjoined : pool.joined = true) : Interleaving (jobs.map Job.events) pool.told := by
  obtain ⟨hqueue, hidle⟩ := workers_of_joined hjoined
  have hlast : Interleaving pool.untold [] := by
    refine .nil fun l hl => ?_
    rw [untold, hqueue, List.map_nil, List.append_nil] at hl
    obtain ⟨w, hw, rfl⟩ := List.mem_map.mp hl
    rw [hidle w hw, Worker.untold]
  obtain ⟨new, htold, hall⟩ := untold_after h hlast
  have hnew : pool.told = new := htold
  rw [List.append_nil, ← hnew] at hall
  have hfirst : (start workers jobs).untold
      = List.replicate (min workers jobs.length) [] ++ jobs.map Job.events := by
    rw [untold, start, List.map_replicate, Worker.untold]
  rw [hfirst] at hall
  exact hall.of_replicate_append

theorem length_workers_after (h : pool.after? schedule = some next) :
    next.workers.length = pool.workers.length := by
  induction schedule generalizing pool with
  | nil =>
      obtain rfl : pool = next := Option.some.inj h
      rfl
  | cons worker schedule ih =>
      obtain ⟨mid, hstep, hrest⟩ := Option.bind_eq_some_iff.mp h
      exact (ih hrest).trans (length_workers_step (step_of_step? hstep))

/-- A pool with at least one worker never gets stuck: whatever was done so far, its workers can go
on until all of them have stopped. -/
theorem exists_joined_of_after (hworkers : 0 < workers)
    (h : (start workers jobs).after? schedule = some pool) :
    ∃ rest last, pool.after? rest = some last ∧ last.joined = true := by
  by_cases hnone : pool.workers = []
  · have hlength := length_workers_after h
    rw [hnone, start, List.length_nil, List.length_replicate] at hlength
    have hjobs : jobs = [] := List.eq_nil_of_length_eq_zero (by omega)
    subst hjobs
    have hperm := perm_after h
    rw [unfinished_start] at hperm
    have hnil : pool.finished ++ pool.unfinished.map Job.entry = [] := hperm.eq_nil
    have hunfinished : pool.unfinished = [] :=
      List.map_eq_nil_iff.mp (List.append_eq_nil_iff.mp hnil).2
    refine ⟨[], pool, rfl, ?_⟩
    rw [joined, Bool.and_eq_true, List.isEmpty_iff, hnone]
    exact ⟨(List.append_eq_nil_iff.mp hunfinished).2, rfl⟩
  · exact exists_joined hnone

/-- Jobs in the order of their places come back in this order, whichever finished first. The results
are sorted by their places, of which no two are the same. -/
theorem results_eq (h : (start workers jobs).after? schedule = some pool)
    (hjoined : pool.joined = true) (hplaces : jobs.Pairwise fun a b => a.place < b.place) :
    pool.results = jobs.map fun job => job.run.result := by
  have hperm : (pool.finished.mergeSort fun a b => a.1 ≤ b.1).Perm (jobs.map Job.entry) :=
    (List.mergeSort_perm _ _).trans (finished_perm h hjoined)
  have hentries : (jobs.map Job.entry).Pairwise fun a b => a.1 < b.1 :=
    List.pairwise_map.mpr hplaces
  have hnodup : ((jobs.map Job.entry).map Prod.fst).Nodup :=
    List.pairwise_map.mpr (hentries.imp Nat.ne_of_lt)
  have htrans : ∀ a b c : Nat × SuiteResult, decide (a.1 ≤ b.1) → decide (b.1 ≤ c.1) →
      decide (a.1 ≤ c.1) := by
    intro a b c hab hbc
    exact decide_eq_true (Nat.le_trans (of_decide_eq_true hab) (of_decide_eq_true hbc))
  have htotal : ∀ a b : Nat × SuiteResult, (decide (a.1 ≤ b.1) || decide (b.1 ≤ a.1)) = true := by
    intro a b
    rw [Bool.or_eq_true, decide_eq_true_iff, decide_eq_true_iff]
    exact Nat.le_total a.1 b.1
  have hsorted : (pool.finished.mergeSort fun a b => a.1 ≤ b.1).Pairwise fun a b => a.1 ≤ b.1 :=
    (List.pairwise_mergeSort htrans htotal pool.finished).imp of_decide_eq_true
  have heq : (pool.finished.mergeSort fun a b => a.1 ≤ b.1) = jobs.map Job.entry := by
    refine List.Perm.eq_of_pairwise ?_ hsorted (hentries.imp Nat.le_of_lt) hperm
    intro a b ha hb hab hba
    have hplace : a.1 = b.1 := Nat.le_antisymm hab hba
    exact List.inj_on_of_nodup_map hnodup (hperm.mem_iff.mp ha) hb hplace
  rw [results, heq, List.map_map]
  rfl

end Pool

end LayoutSpec
