import LayoutSpec.Proofs.Observer
import LayoutSpec.Proofs.Suite.Pool
import Mathlib.Data.List.Forall2

/-!
Suites that run side by side and suites that run one after another. Whatever the schedule was, the
summary is the same, the events of each suite stand in the order in which the suite alone tells
them, and a counter of failures ends with the same counts.
-/

namespace LayoutSpec

section Sequential

variable {source : BrowserSource} {tree : FileTree}

theorem Suite.name_of_run {s : Suite} {run : SuiteRun} (h : s.run source tree = some run) :
    run.result.name = s.name := by
  obtain ⟨⟨results, trace⟩, -, h⟩ := Option.bind_eq_some_iff.mp h
  cases results with
  | none =>
      obtain rfl := Option.some.inj h
      rfl
  | some results =>
      obtain rfl := Option.some.inj h
      rfl

/-- Runs that belong to suites, one to each. -/
def RunsOf (source : BrowserSource) (tree : FileTree) : List Suite → List SuiteRun → Prop :=
  List.Forall₂ fun s run => s.run source tree = some run

theorem RunsOf.map_name {suites : List Suite} {runs : List SuiteRun}
    (h : RunsOf source tree suites runs) :
    runs.map (fun run => run.result.name) = suites.map Suite.name := by
  induction h with
  | nil => rfl
  | cons hrun _ ih => rw [List.map_cons, List.map_cons, ih, Suite.name_of_run hrun]

/-- Suites that run one after another leave the results and the events of each in turn. These runs
are those that a pool has for its jobs. -/
theorem Execution.runsOf_of_runAll {suites : List Suite} {results : List SuiteResult}
    {trace : Trace} (h : Execution.runAll source tree suites = some (results, trace)) :
    ∃ runs, RunsOf source tree suites runs ∧ results = runs.map SuiteRun.result ∧
      trace.events = (runs.map fun run => run.trace.events).flatten := by
  induction suites generalizing results trace with
  | nil =>
      obtain ⟨rfl, rfl⟩ := Prod.mk.inj (Option.some.inj h)
      exact ⟨[], .nil, rfl, rfl⟩
  | cons suite rest ih =>
      obtain ⟨run, hrun, h⟩ := Option.bind_eq_some_iff.mp h
      obtain ⟨⟨others, later⟩, hrest, h⟩ := Option.bind_eq_some_iff.mp h
      obtain ⟨rfl, rfl⟩ := Prod.mk.inj (Option.some.inj h)
      obtain ⟨runs, hruns, rfl, hlater⟩ := ih hrest
      refine ⟨run :: runs, .cons hrun hruns, rfl, ?_⟩
      rw [List.map_cons, List.flatten_cons, ← hlater]
      rfl

namespace Execution

variable {config : Configuration} {suites : List Suite}

theorem obstacle?_eq_none_iff : obstacle? config tree suites = none ↔
    missingSpec? tree suites = none ∧ config.filterError? = none := by
  rw [obstacle?]
  cases missingSpec? tree suites <;> simp

/-- What stands in the way of a run is reported, and nothing else is done. No browser is asked for
and no suite is started. -/
theorem run_eq_error_iff {error : Error} {trace : Trace} :
    run config source tree suites = some ⟨.error error, trace⟩ ↔
      obstacle? config tree suites = some error ∧ trace = .ofEvents [.globalError error] := by
  rw [run]
  cases obstacle? config tree suites with
  | some found =>
      simp only [Option.some.injEq, mk.injEq, Except.error.injEq]
      constructor
      · rintro ⟨rfl, rfl⟩
        exact ⟨rfl, rfl⟩
      · rintro ⟨rfl, rfl⟩
        exact ⟨rfl, rfl⟩
  | none =>
      constructor
      · intro h
        obtain ⟨_, _, h⟩ := Option.bind_eq_some_iff.mp h
        cases h
      · rintro ⟨h, -⟩
        cases h

/-- A run that nothing stands in the way of runs the selected suites and names the others. Both keep
the order of the catalog. -/
theorem run_eq_ok_iff {summary : Summary} {trace : Trace} :
    run config source tree suites = some ⟨.ok summary, trace⟩ ↔
      obstacle? config tree suites = none ∧
      ∃ results, runAll source tree (suites.filter fun s => config.selects s.name)
          = some (results, trace) ∧
        summary = ⟨results, (suites.filter fun s => !config.selects s.name).map Suite.name⟩ := by
  rw [run]
  cases obstacle? config tree suites with
  | some error =>
      constructor
      · intro h
        cases h
      · rintro ⟨h, -⟩
        cases h
  | none =>
      simp only [List.partition_eq_filter_filter]
      constructor
      · intro h
        obtain ⟨⟨results, others⟩, hall, h⟩ := Option.bind_eq_some_iff.mp h
        obtain ⟨hsummary, rfl⟩ := Execution.mk.inj (Option.some.inj h)
        exact ⟨trivial, results, hall, (Except.ok.inj hsummary).symm⟩
      · rintro ⟨-, results, hall, rfl⟩
        exact Option.bind_eq_some_iff.mpr ⟨_, hall, rfl⟩

end Execution

end Sequential

namespace Job

variable {config : Configuration} {source : BrowserSource} {tree : FileTree}

/-- The jobs of suites that stand in a catalog from some place on: the runs of the selected ones, at
places that grow. -/
theorem exists_mapM_zipIdx {suites : List Suite} {runs : List SuiteRun} (start : Nat)
    (h : RunsOf source tree (suites.filter fun s => config.selects s.name) runs) :
    ∃ jobs : List Job,
      (((suites.zipIdx start).filter fun (s, _) => config.selects s.name).mapM
        fun (s, place) => do return (⟨place, ← s.run source tree⟩ : Job)) = some jobs ∧
      jobs.map Job.run = runs ∧ (jobs.Pairwise fun a b => a.place < b.place) ∧
      ∀ job ∈ jobs, start ≤ job.place := by
  induction suites generalizing start runs with
  | nil =>
      cases h
      exact ⟨[], rfl, rfl, .nil, fun job hjob => nomatch hjob⟩
  | cons s suites ih =>
      rw [List.zipIdx_cons]
      cases hselects : config.selects s.name with
      | false =>
          rw [List.filter_cons_of_neg (by simp [hselects])] at h
          obtain ⟨jobs, hjobs, hruns, hplaces, hstart⟩ := ih (start + 1) h
          refine ⟨jobs, ?_, hruns, hplaces, fun job hjob => ?_⟩
          · rw [List.filter_cons_of_neg (by simp [hselects])]
            exact hjobs
          · have hplace := hstart job hjob
            omega
      | true =>
          rw [List.filter_cons_of_pos (by simp [hselects])] at h
          cases h with
          | @cons _ run _ runs hrun hrest =>
              obtain ⟨jobs, hjobs, hruns, hplaces, hstart⟩ := ih (start + 1) hrest
              refine ⟨⟨start, run⟩ :: jobs, ?_, ?_, ?_, ?_⟩
              · rw [List.filter_cons_of_pos (by simp [hselects]), List.mapM_cons, hjobs]
                simp [hrun]
              · rw [List.map_cons, hruns]
              · refine .cons (fun job hjob => ?_) hplaces
                exact hstart job hjob
              · intro job hjob
                rcases List.mem_cons.mp hjob with rfl | hjob
                · exact Nat.le_refl start
                · exact Nat.le_of_succ_le (hstart job hjob)

theorem exists_ofSuites {suites : List Suite} {runs : List SuiteRun}
    (h : RunsOf source tree (suites.filter fun s => config.selects s.name) runs) :
    ∃ jobs, Job.ofSuites config source tree suites = some jobs ∧ jobs.map Job.run = runs ∧
      jobs.Pairwise fun a b => a.place < b.place := by
  obtain ⟨jobs, hjobs, hruns, hplaces, -⟩ := exists_mapM_zipIdx 0 h
  exact ⟨jobs, hjobs, hruns, hplaces⟩

end Job

section Parallel

variable {config : Configuration} {source : BrowserSource} {tree : FileTree} {suites : List Suite}

/-- A pool whose workers have all stopped leaves the summary that the suites leave one after
another, whatever its number of workers and its schedule: one result for each selected suite and the
names of the others, both in the order of the catalog. What was told is made up of the events of the
selected suites, those of each in their order, and counts as many failures. -/
theorem Execution.run_refined_by_pool {summary : Summary} {trace : Trace}
    (hrun : Execution.run config source tree suites = some ⟨.ok summary, trace⟩) :
    ∃ runs jobs, RunsOf source tree (suites.filter fun s => config.selects s.name) runs ∧
      Job.ofSuites config source tree suites = some jobs ∧ jobs.map Job.run = runs ∧
      ∀ (workers : Nat) (schedule : List Nat) (pool : Pool),
        (Pool.start workers jobs).after? schedule = some pool → pool.joined = true →
        summary = ⟨pool.results,
          (suites.filter fun s => !config.selects s.name).map Suite.name⟩ ∧
        pool.results = runs.map SuiteRun.result ∧
        pool.results.map SuiteResult.name
          = (suites.filter fun s => config.selects s.name).map Suite.name ∧
        pool.finished.Perm (jobs.map Job.entry) ∧
        Interleaving (runs.map fun run => run.trace.events)
          ((Observer.recorder []).notifyAll pool.told).recorded ∧
        (Observer.failureCounter 0 0).notifyAll pool.told
          = (Observer.failureCounter 0 0).notifyAll trace.events := by
  obtain ⟨-, results, hall, rfl⟩ := Execution.run_eq_ok_iff.mp hrun
  obtain ⟨runs, hruns, rfl, hevents⟩ := Execution.runsOf_of_runAll hall
  obtain ⟨jobs, hjobs, hmap, hplaces⟩ := Job.exists_ofSuites hruns
  refine ⟨runs, jobs, hruns, hjobs, hmap, fun workers schedule pool hafter hjoined => ?_⟩
  have hresults : pool.results = runs.map SuiteRun.result := by
    rw [Pool.results_eq hafter hjoined hplaces, ← hmap, List.map_map]
    rfl
  have htold : Interleaving (runs.map fun run => run.trace.events) pool.told := by
    have hpool := Pool.told_interleaving hafter hjoined
    rw [← hmap, List.map_map]
    exact hpool
  refine ⟨by rw [hresults], hresults, ?_, Pool.finished_perm hafter hjoined, ?_, ?_⟩
  · rw [hresults, List.map_map, ← hruns.map_name]
    rfl
  · rw [Observer.notifyAll_recorder]
    exact htold
  · rw [hevents]
    exact Observer.notifyAll_failureCounter_of_perm htold.perm_flatten

end Parallel

def plainSuite (name : String) : Suite :=
  ⟨name, [{ title := name }]⟩

/-- What such a suite leaves if there is no browser. -/
def browserlessRun (name : String) : SuiteRun where
  result := ⟨name, [{ title := name, fatal := some "Browser error: no browser" }]⟩
  trace := .ofEvents [.suiteStarted name, .pageTestStarted name,
    .globalError (.browser "no browser"), .pageTestFinished name false, .suiteFinished name false]

@[simp]
theorem name_plainSuite (name : String) : (plainSuite name).name = name :=
  rfl

@[simp]
theorem run_plainSuite (name : String) :
    (plainSuite name).run (.failing "no browser") {} = some (browserlessRun name) := by
  rfl

/-- Two suites of three, side by side. -/
def homeFilter : Configuration := { parallelSuites := 2, filter := some "Home*" }

theorem selects_homeFilter (name : String) :
    homeFilter.selects name = Wildcard.anyText.accepts "Home*".toList name.toList := by
  have hcompiles : Wildcard.anyText.compiles "Home*".toList = true := by decide +kernel
  rw [Configuration.selects, homeFilter]
  exact congrArg (· && _) hcompiles

def homeSuites : List Suite := [plainSuite "Home 1", plainSuite "Login", plainSuite "Home 2"]

theorem Execution.run_refined_by_pool_homeSuites :
    ∃ jobs pool, Job.ofSuites homeFilter (.failing "no browser") {} homeSuites = some jobs ∧
      (Pool.start 2 jobs).after? [0, 1, 1, 0, 1, 0, 1, 0, 1, 0, 1, 0, 1, 0] = some pool ∧
      pool.joined = true ∧ pool.finished.map Prod.fst = [2, 0] ∧
      pool.results.map SuiteResult.name = ["Home 1", "Home 2"] ∧
      (Observer.failureCounter 0 0).notifyAll pool.told = .failureCounter 0 2 := by
  have hfirst : homeFilter.selects "Home 1" = true := by
    rw [selects_homeFilter]
    cbv
  have hlogin : homeFilter.selects "Login" = false := by
    rw [selects_homeFilter]
    cbv
  have hlast : homeFilter.selects "Home 2" = true := by
    rw [selects_homeFilter]
    cbv
  have hselected : (homeSuites.filter fun s => homeFilter.selects s.name)
      = [plainSuite "Home 1", plainSuite "Home 2"] := by
    simp [homeSuites, hfirst, hlogin, hlast]
  have hrejected : (homeSuites.filter fun s => !homeFilter.selects s.name)
      = [plainSuite "Login"] := by
    simp [homeSuites, hfirst, hlogin, hlast]
  have hrun : Execution.run homeFilter (.failing "no browser") {} homeSuites
      = some ⟨.ok ⟨[(browserlessRun "Home 1").result, (browserlessRun "Home 2").result],
          ["Login"]⟩,
        (browserlessRun "Home 1").trace ++ ((browserlessRun "Home 2").trace ++ {})⟩ := by
    have hobstacle : Execution.obstacle? homeFilter {} homeSuites = none := by decide +kernel
    have hall : Execution.runAll (.failing "no browser") {}
        (homeSuites.filter fun s => homeFilter.selects s.name)
        = some ([(browserlessRun "Home 1").result, (browserlessRun "Home 2").result],
          (browserlessRun "Home 1").trace ++ ((browserlessRun "Home 2").trace ++ {})) := by
      rw [hselected]
      rfl
    refine Execution.run_eq_ok_iff.mpr ⟨hobstacle, _, hall, ?_⟩
    rw [hrejected]
    rfl
  obtain ⟨runs, jobs, hruns, hjobs, hmap, hall⟩ := Execution.run_refined_by_pool hrun
  have hplaced : Job.ofSuites homeFilter (.failing "no browser") {} homeSuites
      = some [⟨0, browserlessRun "Home 1"⟩, ⟨2, browserlessRun "Home 2"⟩] := by
    simp [Job.ofSuites, homeSuites, hfirst, hlogin, hlast]
  obtain rfl := Option.some.inj (hjobs.symm.trans hplaced)
  obtain ⟨-, -, hnames, -, -, hcounts⟩ :=
    hall 2 [0, 1, 1, 0, 1, 0, 1, 0, 1, 0, 1, 0, 1, 0] _ rfl rfl
  refine ⟨_, _, hjobs, rfl, rfl, rfl, ?_, hcounts⟩
  rw [hnames, hselected]
  rfl

end LayoutSpec
