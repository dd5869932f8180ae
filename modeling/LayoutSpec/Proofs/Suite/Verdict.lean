import LayoutSpec.Proofs.Document.RoundTrip
import LayoutSpec.Proofs.Document.Sound
import LayoutSpec.Proofs.Regex.GlobSource
import LayoutSpec.Proofs.Suite.Refinement
import LayoutSpec.Proofs.Validation.Told

/-!
The verdict of a run, collected on two ways: in its summary and by a counter of failures. Each part
of a run tells a broken constraint for every failure that it returns, one error for every page test
that it stops, and nothing of the kind if it returns nothing; so the two verdicts are one.
-/

namespace LayoutSpec

open Observer

/-- The events tell of broken constraints, of as many at least as there are failures, and of none if
there are no failures. -/
structure Reports (events : List Event) (failures : List Failure) : Prop where
  globalErrors : events.countP countsAsGlobalError = 0
  enough : failures.length ≤ events.countP countsAsConstraintError
  silent : failures = [] → events.countP countsAsConstraintError = 0

namespace Reports

variable {events others : List Event} {failures more : List Failure}

theorem nil : Reports [] [] :=
  ⟨rfl, Nat.le_refl 0, fun _ => rfl⟩

theorem append (h : Reports events failures) (hothers : Reports others more) :
    Reports (events ++ others) (failures ++ more) := by
  refine ⟨?_, ?_, fun hnil => ?_⟩
  · rw [List.countP_append, h.globalErrors, hothers.globalErrors]
  · rw [List.countP_append, List.length_append]
    exact Nat.add_le_add h.enough hothers.enough
  · obtain ⟨hfailures, hmore⟩ := List.append_eq_nil_iff.mp hnil
    rw [List.countP_append, h.silent hfailures, hothers.silent hmore]

end Reports

/-- A reported pass tells what it returns. It tells at least as many broken constraints, as those
inside components are told as well. -/
theorem Pass.reports_of_outcome {tree : FileTree} {filter : TagFilter} {p : Pass} {r : Report}
    (htree : tree.SpecsCompile) (hp : p.silent = false) (hdocument : p.document.Compiles)
    (h : p.outcome tree filter = some r) : Reports r.events r.failures := by
  have haccount := Pass.account_of_outcome htree hp hdocument h
  refine ⟨haccount.countP_globalError, ?_, fun hnil => ?_⟩
  · rw [← Report.length_told]
    exact haccount.sublist_told.length_le
  · rw [← Report.length_told, haccount.told_eq_nil hnil]
    rfl

section

variable {tree : FileTree} (htree : tree.SpecsCompile)

include htree

namespace Action

/-- What a check returns was told: there is a broken constraint for each failure at least, and none
is told if nothing is returned. -/
theorem reports_of_checkSpecs {filter : TagFilter} {page : Page} {specs : List Path}
    {error : Option Error} {report : Report}
    (h : checkSpecs tree filter page specs = some (error, report)) :
    Reports report.events report.failures := by
  induction specs generalizing error report with
  | nil =>
      obtain ⟨rfl, rfl⟩ := Prod.mk.inj (Option.some.inj h)
      exact .nil
  | cons path rest ih =>
      rw [checkSpecs] at h
      cases hdocument : Document.ofFile tree path with
      | error e =>
          simp only [hdocument] at h
          obtain ⟨rfl, rfl⟩ := Prod.mk.inj (Option.some.inj h)
          exact .nil
      | ok document =>
          simp only [hdocument] at h
          obtain ⟨first, hfirst, h⟩ := Option.bind_eq_some_iff.mp h
          obtain ⟨⟨stopped, others⟩, hothers, h⟩ := Option.bind_eq_some_iff.mp h
          obtain ⟨rfl, rfl⟩ := Prod.mk.inj (Option.some.inj h)
          have hpass : Reports first.events first.failures :=
            Pass.reports_of_outcome (p := ⟨0, false, document, page⟩) htree rfl
              (htree path document hdocument) hfirst
          exact hpass.append (ih hothers)

omit htree in
/-- Only checks tell something, or return failures. All other actions are calls of the browser or of
a script. -/
theorem quiet_of_perform {browser : Browser} {action : Action} {run : ActionRun}
    (hcheck : ∀ specs filter, action ≠ .check specs filter)
    (h : action.perform tree browser = some run) :
    run.events = [] ∧ ∀ failures, run.result = .ok failures → failures = [] := by
  cases action with
  | check specs filter => exact absurd rfl (hcheck specs filter)
  | openPage url =>
      rw [perform] at h
      generalize browser.openPage url = opened at h
      obtain ⟨result, after⟩ := opened
      obtain rfl := Option.some.inj h
      refine ⟨rfl, fun failures hok => ?_⟩
      cases result with
      | error e => cases hok
      | ok _ => exact (Except.ok.inj hok).symm
  | resize size =>
      obtain rfl := Option.some.inj h
      exact ⟨rfl, fun failures hok => (Except.ok.inj hok).symm⟩
  | setCookies cookies =>
      obtain rfl := Option.some.inj h
      exact ⟨rfl, fun failures hok => (Except.ok.inj hok).symm⟩
  | inject path =>
      rw [perform] at h
      split at h
      · obtain rfl := Option.some.inj h
        exact ⟨rfl, fun failures hok => nomatch hok⟩
      · obtain rfl := Option.some.inj h
        exact ⟨rfl, fun failures hok => (Except.ok.inj hok).symm⟩
  | run path arguments =>
      rw [perform] at h
      split at h
      · obtain rfl := Option.some.inj h
        exact ⟨rfl, fun failures hok => nomatch hok⟩
      · obtain rfl := Option.some.inj h
        exact ⟨rfl, fun failures hok => (Except.ok.inj hok).symm⟩

/-- What an action returns was told, and an action tells no errors itself. The error that stops a
page test is told when it is finished. -/
theorem reports_of_perform {browser : Browser} {action : Action} {run : ActionRun}
    (h : action.perform tree browser = some run) :
    run.events.countP countsAsGlobalError = 0 ∧
      ∀ failures, run.result = .ok failures → Reports run.events failures := by
  by_cases hcheck : ∃ specs filter, action = .check specs filter
  · obtain ⟨specs, filter, rfl⟩ := hcheck
    obtain ⟨⟨error, report⟩, hspecs, h⟩ := Option.bind_eq_some_iff.mp h
    obtain rfl := Option.some.inj h
    have hreports := reports_of_checkSpecs htree hspecs
    refine ⟨hreports.globalErrors, fun failures hok => ?_⟩
    cases error with
    | some e => cases hok
    | none =>
        obtain rfl := Except.ok.inj hok
        exact hreports
  · obtain ⟨hevents, hresult⟩ :=
      quiet_of_perform (fun specs filter hsame => hcheck ⟨specs, filter, hsame⟩) h
    rw [hevents]
    refine ⟨rfl, fun failures hok => ?_⟩
    rw [hresult failures hok]
    exact .nil

end Action

namespace Session

/-- The events of a session tell of as many broken constraints as it returned failures, and of none
if it returned none and was not stopped. -/
structure Reported (s : Session) : Prop where
  globalErrors : s.events.countP countsAsGlobalError = 0
  enough : s.failures.length ≤ s.events.countP countsAsConstraintError
  silent : s.error = none → s.failures = [] → s.events.countP countsAsConstraintError = 0

/-- The session of some actions is reported: their failures are told, in as many events at least,
and none is told without a failure unless the session was stopped. -/
theorem reported_of_performAll {actions : List Action} {browser : Browser} {s : Session}
    (h : performAll tree actions browser = some s) : s.Reported := by
  induction actions generalizing browser s with
  | nil =>
      obtain rfl := Option.some.inj h
      exact ⟨rfl, Nat.le_refl 0, fun _ _ => rfl⟩
  | cons action rest ih =>
      obtain ⟨run, hrun, h⟩ := Option.bind_eq_some_iff.mp h
      obtain ⟨herrors, hreports⟩ := Action.reports_of_perform htree hrun
      cases hresult : run.result with
      | error e =>
          simp only [hresult] at h
          obtain rfl := Option.some.inj h
          exact ⟨herrors, Nat.zero_le _, fun hnone => nomatch hnone⟩
      | ok failures =>
          simp only [hresult] at h
          obtain ⟨others, hothers, h⟩ := Option.bind_eq_some_iff.mp h
          obtain rfl := Option.some.inj h
          have hfirst := hreports failures hresult
          have hrest := ih hothers
          have hcount : ∀ p : Event → Bool, p (.actionStarted action) = false →
              p (.actionFinished action failures.length) = false →
              (.actionStarted action :: run.events
                ++ .actionFinished action failures.length :: others.events).countP p
              = run.events.countP p + others.events.countP p := by
            intro p hstarted hfinished
            simp [List.countP_append, hstarted, hfinished]
          constructor
          · rw [hcount _ rfl rfl, hfirst.globalErrors, hrest.globalErrors]
          · rw [hcount _ rfl rfl, List.length_append]
            exact Nat.add_le_add hfirst.enough hrest.enough
          · intro herror hnil
            obtain ⟨hfailures, hmore⟩ := List.append_eq_nil_iff.mp hnil
            rw [hcount _ rfl rfl, hfirst.silent hfailures, hrest.silent herror hmore]

theorem reported_of_drive {test : PageTest} {browser : Browser} {s : Session}
    (h : drive tree test browser = some s) : s.Reported := by
  rw [drive] at h
  split at h
  · obtain rfl := Option.some.inj h
    exact ⟨rfl, Nat.le_refl 0, fun hnone => nomatch hnone⟩
  · exact reported_of_performAll htree h

end Session

/-- Events and the results of page tests give the same verdict: one error is told for each page test
that was stopped, a broken constraint for each failure, and none if all page tests pass. -/
structure Agree (events : List Event) (tests : List PageTestResult) : Prop where
  errors : events.countP countsAsGlobalError = tests.countP fun t => t.fatal.isSome
  enough : (tests.flatMap PageTestResult.failures).length ≤ events.countP countsAsConstraintError
  silent : (∀ t ∈ tests, t.passed = true) → events.countP countsAsConstraintError = 0

namespace Agree

variable {events others : List Event} {tests more : List PageTestResult}

omit htree in
theorem append (h : Agree events tests) (hothers : Agree others more) :
    Agree (events ++ others) (tests ++ more) := by
  refine ⟨?_, ?_, fun hpassed => ?_⟩
  · rw [List.countP_append, List.countP_append, h.errors, hothers.errors]
  · rw [List.countP_append, List.flatMap_append, List.length_append]
    exact Nat.add_le_add h.enough hothers.enough
  · rw [List.countP_append, h.silent fun t ht => hpassed t (List.mem_append_left _ ht),
      hothers.silent fun t ht => hpassed t (List.mem_append_right _ ht)]

omit htree in
/-- An event that is neither an error nor a broken constraint tells nothing about page tests. -/
theorem uncounted {e : Event} (herror : countsAsGlobalError e = false)
    (hbroken : countsAsConstraintError e = false) : Agree [e] [] := by
  refine ⟨?_, Nat.zero_le _, fun _ => ?_⟩
  · rw [List.countP_singleton, herror]
    rfl
  · rw [List.countP_singleton, hbroken]
    rfl

end Agree

namespace PageTest

omit htree in
/-- What is told of a page test agrees with its result, if its session is reported. An error that
stopped it is told once, at its end. -/
theorem agree_finish (test : PageTest) {s : Session} (hs : s.Reported) :
    Agree (.pageTestStarted test.title :: s.events ++ (test.finish s.failures s.error).2)
      [(test.finish s.failures s.error).1] := by
  have hcount : ∀ p : Event → Bool, p (.pageTestStarted test.title) = false →
      (∀ passed, p (.pageTestFinished test.title passed) = false) →
        (.pageTestStarted test.title :: s.events ++ (test.finish s.failures s.error).2).countP p
          = s.events.countP p + (s.error.toList.map Event.globalError).countP p := by
    intro p hstarted hfinished
    simp [finish, List.countP_append, hstarted, hfinished]
  have hbroken : (s.error.toList.map Event.globalError).countP countsAsConstraintError = 0 := by
    cases s.error <;> rfl
  constructor
  · rw [hcount _ rfl fun _ => rfl, hs.globalErrors]
    cases hsession : s.error with
    | none => simp [finish]
    | some e => simp [finish, countsAsGlobalError, Event.hook]
  · rw [hcount _ rfl fun _ => rfl, hbroken]
    simpa [finish] using hs.enough
  · intro hpassed
    have hresult : (test.finish s.failures s.error).1.passed = true :=
      hpassed _ (List.mem_singleton_self _)
    rw [PageTestResult.passed, Bool.and_eq_true] at hresult
    obtain ⟨hfailures, hfatal⟩ := hresult
    have herror : s.error = none := by simpa [finish] using hfatal
    have hnil : s.failures = [] := List.isEmpty_iff.mp hfailures
    rw [hcount _ rfl fun _ => rfl, hbroken, hs.silent herror hnil]

/-- A page test that takes nothing down agrees with what was told of it. If there is no browser, the
error is told and is in the result. -/
theorem agree_of_run {source : BrowserSource} {test : PageTest} {result : PageTestResult}
    {trace : Trace} (h : test.run source tree = some (some result, trace)) :
    Agree trace.events [result] := by
  cases source with
  | crashing => cases h
  | failing message =>
      obtain ⟨hresult, rfl⟩ := Prod.mk.inj (Option.some.inj h)
      obtain rfl := Option.some.inj hresult
      -- There is no session; it is as if one had been stopped before its first action.
      exact agree_finish test (s := ⟨[], some (.browser message), default, []⟩)
        ⟨rfl, Nat.le_refl 0, fun hnone => nomatch hnone⟩
  | copies template =>
      obtain ⟨session, hsession, h⟩ := Option.bind_eq_some_iff.mp h
      obtain ⟨hresult, rfl⟩ := Prod.mk.inj (Option.some.inj h)
      obtain rfl := Option.some.inj hresult
      exact agree_finish test (Session.reported_of_drive htree hsession)

/-- Page tests that run one after another agree with all that was told of them, since counts of
events add up. -/
theorem agree_of_runAll {source : BrowserSource} {tests : List PageTest}
    {results : List PageTestResult} {trace : Trace}
    (h : runAll source tree tests = some (some results, trace)) : Agree trace.events results := by
  induction tests generalizing results trace with
  | nil =>
      obtain ⟨hresults, rfl⟩ := Prod.mk.inj (Option.some.inj h)
      obtain rfl := Option.some.inj hresults
      exact ⟨rfl, Nat.le_refl 0, fun _ => rfl⟩
  | cons test rest ih =>
      obtain ⟨⟨first, started⟩, hfirst, h⟩ := Option.bind_eq_some_iff.mp h
      cases first with
      | none => cases h
      | some result =>
          obtain ⟨⟨others, later⟩, hothers, h⟩ := Option.bind_eq_some_iff.mp h
          obtain ⟨hresults, rfl⟩ := Prod.mk.inj (Option.some.inj h)
          cases others with
          | none => cases hresults
          | some others =>
              obtain rfl := Option.some.inj hresults
              exact (agree_of_run htree hfirst).append (ih hothers)

omit htree in
/-- Page tests take their suite down only if the browsers do. Without such a browser each of them
has a result. -/
theorem source_eq_crashing_of_runAll {source : BrowserSource} {tests : List PageTest}
    {trace : Trace} (h : runAll source tree tests = some (none, trace)) : source = .crashing := by
  induction tests generalizing trace with
  | nil => cases h
  | cons test rest ih =>
      obtain ⟨⟨first, started⟩, hfirst, h⟩ := Option.bind_eq_some_iff.mp h
      cases first with
      | none =>
          cases source with
          | crashing => rfl
          | failing message => cases hfirst
          | copies template =>
              obtain ⟨session, -, hnone⟩ := Option.bind_eq_some_iff.mp hfirst
              cases hnone
      | some result =>
          obtain ⟨⟨others, later⟩, hothers, h⟩ := Option.bind_eq_some_iff.mp h
          cases others with
          | none => exact ih hothers
          | some others => cases h

end PageTest

theorem Suite.agree_of_run {source : BrowserSource} (hsource : source ≠ .crashing) {s : Suite}
    {run : SuiteRun} (h : s.run source tree = some run) :
    Agree run.trace.events run.result.pageTests := by
  obtain ⟨⟨results, trace⟩, hresults, h⟩ := Option.bind_eq_some_iff.mp h
  cases results with
  | none => exact absurd (PageTest.source_eq_crashing_of_runAll hresults) hsource
  | some results =>
      obtain rfl := Option.some.inj h
      have hstarted : Agree [.suiteStarted s.name] [] := .uncounted rfl rfl
      have hfinished : ∀ passed, Agree [.suiteFinished s.name passed] [] :=
        fun passed => .uncounted rfl rfl
      have htests := (hstarted.append (PageTest.agree_of_runAll htree hresults)).append
        (hfinished (SuiteResult.passed ⟨s.name, results⟩))
      rw [List.nil_append, List.append_nil] at htests
      exact htests

omit htree in
theorem RunsOf.exists_suite {source : BrowserSource} {suites : List Suite} {runs : List SuiteRun}
    (h : RunsOf source tree suites runs) :
    ∀ run ∈ runs, ∃ s ∈ suites, s.run source tree = some run := by
  induction h with
  | nil => exact fun run hrun => nomatch hrun
  | @cons s run _ _ hrun _ ih =>
      intro other hother
      rcases List.mem_cons.mp hother with rfl | hother
      · exact ⟨s, List.mem_cons_self, hrun⟩
      · obtain ⟨later, hlater, hrun⟩ := ih other hother
        exact ⟨later, List.mem_cons_of_mem s hlater, hrun⟩

/-- Suites agree with what was told of them, one after another. -/
theorem agree_of_runs {source : BrowserSource} (hsource : source ≠ .crashing)
    {runs : List SuiteRun} (h : ∀ run ∈ runs, ∃ s : Suite, s.run source tree = some run) :
    Agree (runs.map fun run => run.trace.events).flatten
      (runs.flatMap fun run => run.result.pageTests) := by
  induction runs with
  | nil => exact ⟨rfl, Nat.le_refl 0, fun _ => rfl⟩
  | cons run rest ih =>
      obtain ⟨s, hrun⟩ := h run List.mem_cons_self
      rw [List.map_cons, List.flatten_cons, List.flatMap_cons]
      have hrest := ih fun other hother => h other (List.mem_cons_of_mem run hother)
      exact (Suite.agree_of_run htree hsource hrun).append hrest

end

/-- The order of events and of page tests has no say in the verdict. So a pool agrees with its
results as a run of suites one after another does. -/
theorem Agree.of_perm {events others : List Event} {tests more : List PageTestResult}
    (h : Agree events tests) (hevents : others.Perm events) (htests : more.Perm tests) :
    Agree others more := by
  refine ⟨?_, ?_, fun hpassed => ?_⟩
  · rw [hevents.countP_eq, htests.countP_eq, h.errors]
  · rw [hevents.countP_eq, (htests.flatMap_right _).length_eq]
    exact h.enough
  · rw [hevents.countP_eq]
    exact h.silent fun t ht => hpassed t (htests.mem_iff.mpr ht)

/-- All page tests pass exactly if nothing is told of broken constraints and errors. It is enough to
compare the counts of the two with zero. -/
theorem Agree.passed_iff {events : List Event} {tests : List PageTestResult}
    (h : Agree events tests) :
    (∀ t ∈ tests, t.passed = true) ↔
      events.countP countsAsConstraintError = 0 ∧ events.countP countsAsGlobalError = 0 := by
  constructor
  · intro hpassed
    refine ⟨h.silent hpassed, ?_⟩
    rw [h.errors, List.countP_eq_zero]
    intro t ht hfatal
    have hpasses := hpassed t ht
    rw [PageTestResult.passed, Bool.and_eq_true] at hpasses
    rw [Option.isNone_iff_eq_none.mp hpasses.2] at hfatal
    cases hfatal
  · rintro ⟨hbroken, herrors⟩ t ht
    rw [h.errors, List.countP_eq_zero] at herrors
    have hfailures : tests.flatMap PageTestResult.failures = [] :=
      List.length_eq_zero_iff.mp (Nat.le_zero.mp (hbroken ▸ h.enough))
    rw [List.flatMap_eq_nil_iff] at hfailures
    rw [PageTestResult.passed, hfailures t ht]
    simpa using herrors t ht

def Summary.pageTests (s : Summary) : List PageTestResult :=
  s.results.flatMap SuiteResult.pageTests

theorem Summary.allPassed_iff (s : Summary) :
    s.allPassed = true ↔ ∀ t ∈ s.pageTests, t.passed = true := by
  simp only [allPassed, SuiteResult.passed, List.all_eq_true, pageTests, List.mem_flatMap]
  constructor
  · rintro h t ⟨r, hr, ht⟩
    exact h r hr t ht
  · exact fun h r hr t ht => h t ⟨r, hr, ht⟩

/-- What a run comes to and what is told of it: its suites run one after another, or side by side in
a pool whose workers have all stopped. -/
inductive Execution.Ends (config : Configuration) (source : BrowserSource) (tree : FileTree)
    (suites : List Suite) : Summary → List Event → Prop where
  | sequential {summary : Summary} {trace : Trace} :
    Execution.run config source tree suites = some ⟨.ok summary, trace⟩ →
    Ends config source tree suites summary trace.events
  | pooled {jobs : List Job} {workers : Nat} {schedule : List Nat} {pool : Pool} :
    Execution.obstacle? config tree suites = none →
    Job.ofSuites config source tree suites = some jobs →
    (Pool.start workers jobs).after? schedule = some pool → pool.joined = true →
    Ends config source tree suites
      ⟨pool.results, (suites.filter fun s => !config.selects s.name).map Suite.name⟩ pool.told

/-- A pool whose workers have all stopped has the results of its jobs, in an order that may be
another one. -/
theorem Pool.results_perm {jobs : List Job} {workers : Nat} {schedule : List Nat} {pool : Pool}
    (hafter : (Pool.start workers jobs).after? schedule = some pool)
    (hjoined : pool.joined = true) :
    pool.results.Perm (jobs.map fun job => job.run.result) := by
  have hsorted := List.mergeSort_perm pool.finished fun a b => a.1 ≤ b.1
  have hfinished := (hsorted.trans (finished_perm hafter hjoined)).map Prod.snd
  rw [List.map_map] at hfinished
  exact hfinished

/-- Nothing stood in the way of a run that comes to its end, and what it comes to and what is told
of it is that of runs of its suites. -/
theorem Execution.Ends.exists_runs {config : Configuration} {source : BrowserSource}
    {tree : FileTree} {suites : List Suite} {summary : Summary} {told : List Event}
    (h : Execution.Ends config source tree suites summary told) :
    Execution.obstacle? config tree suites = none ∧
    ∃ runs : List SuiteRun, (∀ run ∈ runs, ∃ s ∈ suites, s.run source tree = some run) ∧
      summary.results.Perm (runs.map SuiteRun.result) ∧
      told.Perm (runs.map fun run => run.trace.events).flatten := by
  cases h with
  | @sequential _ trace hrun =>
      obtain ⟨hobstacle, results, hall, rfl⟩ := Execution.run_eq_ok_iff.mp hrun
      obtain ⟨runs, hruns, rfl, hevents⟩ := Execution.runsOf_of_runAll hall
      refine ⟨hobstacle, runs, fun run hmem => ?_, .refl _, hevents ▸ .refl _⟩
      obtain ⟨s, hs, hrun⟩ := hruns.exists_suite run hmem
      exact ⟨s, List.mem_of_mem_filter hs, hrun⟩
  | @pooled jobs workers schedule pool hobstacle hjobs hafter hjoined =>
      refine ⟨hobstacle, jobs.map Job.run, fun run hmem => ?_, ?_, ?_⟩
      · obtain ⟨job, hjob, rfl⟩ := List.mem_map.mp hmem
        obtain ⟨⟨s, place⟩, hs, hplaced⟩ := Parameters.mem_of_mapM_eq_some hjobs job hjob
        obtain ⟨run, hrun, hjob⟩ := Option.bind_eq_some_iff.mp hplaced
        obtain rfl := Option.some.inj hjob
        exact ⟨s, List.fst_mem_of_mem_zipIdx (List.mem_of_mem_filter hs), hrun⟩
      · rw [List.map_map]
        exact Pool.results_perm hafter hjoined
      · rw [List.map_map]
        exact (Pool.told_interleaving hafter hjoined).perm_flatten

/-- What a run told agrees with its summary, in whatever order the suites were run. Counts do not
depend on the order of events. -/
theorem Execution.agree_of_ends {config : Configuration} {source : BrowserSource}
    {tree : FileTree} {suites : List Suite} {summary : Summary} {told : List Event}
    (htree : tree.SpecsCompile) (hsource : source ≠ .crashing)
    (h : Execution.Ends config source tree suites summary told) : Agree told summary.pageTests := by
  obtain ⟨-, runs, hruns, hresults, htold⟩ := h.exists_runs
  have hsuites : ∀ run ∈ runs, ∃ s : Suite, s.run source tree = some run := by
    intro run hrun
    obtain ⟨s, -, hs⟩ := hruns run hrun
    exact ⟨s, hs⟩
  have hagree := agree_of_runs htree hsource hsuites
  have htests := hresults.flatMap_right SuiteResult.pageTests
  rw [List.flatMap_map] at htests
  exact hagree.of_perm htold htests

/-- The two verdicts of a run are one, if the patterns in the specs can be compiled and the browsers
take nothing down. A counter of failures that is told of the run among any other observers, some of
which may break down, has counted nothing if and only if all page tests pass; it has counted one
error for each page test that was stopped, and at least as many broken constraints as the summary
has failures. -/
theorem Execution.verdicts_agree {config : Configuration} {source : BrowserSource}
    {tree : FileTree} {suites : List Suite} {summary : Summary} {told : List Event}
    (htree : tree.SpecsCompile) (hsource : source ≠ .crashing)
    (h : Execution.Ends config source tree suites summary told) (before after : List Observer) :
    ∃ broken errors,
      (combined (before ++ failureCounter 0 0 :: after)).notifyAll told
        = combined (before.map (fun member => member.notifyAll told)
          ++ failureCounter broken errors :: after.map fun member => member.notifyAll told) ∧
      (summary.allPassed = true ↔ broken = 0 ∧ errors = 0) ∧
      errors = (summary.pageTests.countP fun t => t.fatal.isSome) ∧
      (summary.pageTests.flatMap PageTestResult.failures).length ≤ broken := by
  have hagree := Execution.agree_of_ends htree hsource h
  refine ⟨told.countP countsAsConstraintError, told.countP countsAsGlobalError, ?_, ?_,
    hagree.errors, hagree.enough⟩
  · rw [notifyAll_combined, List.map_append, List.map_cons, notifyAll_failureCounter, Nat.zero_add,
      Nat.zero_add]
  · rw [Summary.allPassed_iff]
    exact hagree.passed_iff

theorem Trace.append_eq (a b : Trace) :
    a ++ b = ⟨a.events ++ b.events, a.calls ++ b.calls, a.browsers + b.browsers⟩ :=
  rfl

/-- A suite that checks one spec. -/
def checkSuite (path : Path) : Suite :=
  ⟨"Checks", [{ title := "check", actions := [.check [path] .all] }]⟩

/-- What is told of such a suite around the events of its check. -/
def checkEvents (path : Path) (report : Report) : List Event :=
  [.suiteStarted "Checks", .pageTestStarted "check", .actionStarted (.check [path] .all)]
    ++ report.events ++ [.actionFinished (.check [path] .all) report.failures.length,
      .pageTestFinished "check" report.failures.isEmpty,
      .suiteFinished "Checks" report.failures.isEmpty]

/-- A suite that checks one spec comes to the report of its pass, with the events of the suite, the
page test and the check around it. -/
theorem Execution.ends_checkSuite {tree : FileTree} {browser : Browser} {path : Path}
    {document : Document} {report : Report} (hfile : tree.isFile path = true)
    (hspec : Document.ofFile tree path = .ok document)
    (hreport : validate tree .all 0 false document browser.page = some report) :
    Execution.Ends {} (.copies browser) tree [checkSuite path]
      ⟨[⟨"Checks", [⟨"check", report.failures, none⟩]⟩], []⟩ (checkEvents path report) := by
  have hobstacle : Execution.obstacle? {} tree [checkSuite path] = none := by
    refine Execution.obstacle?_eq_none_iff.mpr ⟨?_, rfl⟩
    simp [Execution.missingSpec?, checkSuite, Suite.specs, Action.specs, hfile]
  have hchecks : Action.checkSpecs tree .all browser.page [path] = some (none, report) := by
    have hnil : report ++ {} = report := congrArg₂ Report.mk (List.append_nil _) (List.append_nil _)
    simp only [Action.checkSpecs, hspec, hreport]
    exact congrArg (fun all => some (none, all)) hnil
  have hsession : Session.performAll tree [.check [path] .all] { browser with calls := [] }
      = some {
          failures := report.failures
          browser := { browser with calls := [] }
          events := .actionStarted (.check [path] .all) :: report.events
            ++ [.actionFinished (.check [path] .all) report.failures.length] } := by
    have hperform : Action.perform tree { browser with calls := [] } (.check [path] .all)
        = some ⟨.ok report.failures, { browser with calls := [] }, report.events⟩ := by
      have hpage : Browser.page { browser with calls := [] } = browser.page := rfl
      rw [Action.perform, hpage, hchecks]
      rfl
    simp [Session.performAll, hperform]
  have hrun : (checkSuite path).run (.copies browser) tree
      = some ⟨⟨"Checks", [⟨"check", report.failures, none⟩]⟩,
        { events := checkEvents path report, calls := [], browsers := 1 }⟩ := by
    have htest :
        PageTest.run (.copies browser) tree { title := "check", actions := [.check [path] .all] }
        = some (some ⟨"check", report.failures, none⟩, {
            events := [.pageTestStarted "check", .actionStarted (.check [path] .all)]
              ++ report.events ++ [.actionFinished (.check [path] .all) report.failures.length,
                .pageTestFinished "check" report.failures.isEmpty]
            calls := []
            browsers := 1 }) := by
      simp only [PageTest.run, Session.drive, Session.prepare, hsession]
      simp [PageTest.finish, PageTestResult.passed]
    simp only [Suite.run, checkSuite, PageTest.runAll, htest]
    simp [checkEvents, Trace.append_eq, Trace.ofEvents, SuiteResult.passed, PageTestResult.passed]
  have hall : Execution.run {} (.copies browser) tree [checkSuite path]
      = some ⟨.ok ⟨[⟨"Checks", [⟨"check", report.failures, none⟩]⟩], []⟩,
        { events := checkEvents path report, calls := [], browsers := 1 }⟩ := by
    have hselected : [checkSuite path].filter (fun s => Configuration.selects {} s.name)
        = [checkSuite path] := rfl
    refine Execution.run_eq_ok_iff.mpr ⟨hobstacle, _, ?_, rfl⟩
    rw [hselected]
    simp [Execution.runAll, hrun, Trace.append_eq]
  exact .sequential hall

/-- The browser shows the page with the cell. -/
def cellBrowser : Browser where
  pages := [("about:blank", cellPage)]

/-- A label that is too wide fails the run, and a counter behind an observer that breaks down hears
of it. -/
theorem Execution.verdicts_agree_cell :
    ∃ summary told broken,
      Execution.Ends {} (.copies cellBrowser) cellTree [checkSuite ⟨"cell.spec"⟩] summary told ∧
      (combined [.fragile [.constraintError] [], failureCounter 0 0]).notifyAll told
        = combined [(Observer.fragile [.constraintError] []).notifyAll told,
          failureCounter broken 0] ∧
      summary.allPassed = false ∧ broken ≠ 0 := by
  have hreport : validate cellTree .all 0 false labelDocument cellBrowser.page
      = some ⟨[⟨[⟨20, 20, 8, 8⟩], ["\"label\" width is 8px instead of 5px"]⟩],
        [.beforeSection [], .object "label" 0,
          .constraintError "label" (.width (.exactly 5))
            ⟨[⟨20, 20, 8, 8⟩], ["\"label\" width is 8px instead of 5px"]⟩,
          .afterObject "label" 0, .afterSection []]⟩ := by
    rw [validate, Pass.outcome]
    rfl
  have hfile : cellTree.isFile ⟨"cell.spec"⟩ = true := by decide +kernel
  have hends := Execution.ends_checkSuite hfile ofFile_cellTree hreport
  obtain ⟨broken, errors, hcounts, -, rfl, hbroken⟩ :=
    Execution.verdicts_agree specsCompile_cellTree
    (by simp) hends [.fragile [.constraintError] []] []
  exact ⟨_, _, broken, hends, hcounts, rfl, Nat.ne_of_gt hbroken⟩

/-- A pattern of stars. -/
def stars (n : Nat) : List Char :=
  List.replicate n '*'

/-- A spec of one group, with `n` stars for a pattern. -/
def starText (n : Nat) : String :=
  String.ofList ([stars n].flatMap (· ++ ['\n']))

def starTree (n : Nat) : FileTree where
  files := [(["star.spec"], .text (starText n))]

def starDocument (n : Nat) : Document where
  sections := [{ groups := [⟨String.ofList (stars n), []⟩] }]

section

variable {n : Nat}

theorem eq_star_of_mem {c : Char} (h : c ∈ stars n) : c = '*' :=
  (List.mem_replicate.mp h).2

theorem trim_stars : Text.trim (stars n) = stars n := by
  rw [Text.trim_eq_self_iff]
  constructor
  · intro c hc
    obtain rfl := eq_star_of_mem (List.mem_of_mem_head? hc)
    decide
  · intro c hc
    obtain rfl := eq_star_of_mem (List.mem_of_getLast? hc)
    decide

theorem size_stars : (Wildcard.word.regex (stars n)).size = 136 * n + 192 := by
  have hstar : (Wildcard.word.ofSign '*').weight = 136 := by decide
  rw [Wildcard.size_regex, stars, List.map_replicate, List.sum_replicate_nat, hstar, Nat.mul_comm]

theorem stars_succ (n : Nat) : stars (n + 1) = '*' :: stars n :=
  List.replicate_succ

theorem ofWords?_stars : BlockKeyword.ofWords? [String.ofList (stars (n + 1))] = none := by
  have hne : ∀ word : String, word.toList.head? ≠ some '*' →
      String.ofList (stars (n + 1)) ≠ word := by
    rintro word hword rfl
    rw [String.toList_ofList, stars_succ, List.head?_cons] at hword
    exact hword rfl
  unfold BlockKeyword.ofWords?
  split
  all_goals first
    | rfl
    | next h => exact absurd (List.cons.inj h).1 (hne _ (by decide))

theorem isGroupName_stars : IsGroupName (String.ofList (stars (n + 1))) := by
  have hkeyword : BlockKeyword.ofLine? (stars (n + 1)) = none := by
    have hwords : Text.words (stars (n + 1)) = [stars (n + 1)] := by
      refine Text.words_of_no_blank (by simp [stars_succ]) fun c hc => ?_
      obtain rfl := eq_star_of_mem hc
      decide
    rw [BlockKeyword.ofLine?, hwords, List.map_singleton, ofWords?_stars, ite_self]
  refine ⟨⟨⟨?_, ?_, ?_⟩, ?_⟩, ?_, ?_, ?_, ?_⟩
  all_goals rw [String.toList_ofList]
  · exact trim_stars
  · simp [stars_succ]
  · exact fun hc => absurd (eq_star_of_mem hc) (by decide)
  · intro c hc
    obtain rfl := eq_star_of_mem (List.mem_of_mem_head? hc)
    decide
  · intro hc
    exact absurd (eq_star_of_mem (List.mem_of_getLast? hc)) (by decide)
  · simp [LineKind.isMarker, stars_succ]
  · simp [LineKind.isSeparator, stars_succ]
  · rw [BlockKeyword.isReserved, hkeyword]
    rfl

/-- A line of stars is a group. It has no constraints, and still its pattern has to be compiled. -/
theorem readWithin_starText (tree : FileTree) (chain : List FileKey) (base : Option Path) :
    Document.readWithin tree chain base (starText (n + 1)) = .ok (starDocument (n + 1)) := by
  have hlines : Text.lines (starText (n + 1)).toList = [stars (n + 1)] := by
    rw [starText, String.toList_ofList]
    refine Text.lines_flatMap [stars (n + 1)] ?_ ?_
    · intro line hline hc
      rw [List.mem_singleton.mp hline] at hc
      exact absurd (eq_star_of_mem hc) (by decide)
    · intro line hline hc
      rw [List.mem_singleton.mp hline] at hc
      exact absurd (eq_star_of_mem (List.mem_of_getLast? hc)) (by decide)
  rw [Document.readWithin_eq, hlines, Document.ofLines_eq_ok_iff]
  obtain ⟨hpattern, hreopens⟩ := @isGroupName_stars n
  have hplace := @ReadState.collects_section .empty [] {}
  obtain ⟨s, hstep, hs, -⟩ := @ReadState.step_pattern ⟨base, Document.importWithin tree chain⟩ _ _
    hplace 0 [] _ hpattern hreopens ReadState.within_initial
  rw [String.toList_ofList] at hstep
  exact ⟨s, .cons hstep (.nil s), Document.finish_within hs⟩

theorem ofFile_starTree :
    Document.ofFile (starTree (n + 1)) ⟨"star.spec"⟩ = .ok (starDocument (n + 1)) := by
  have hkey : (starTree (n + 1)).fileKey? ⟨"star.spec"⟩ = some ["star.spec"] := by
    rfl
  exact Document.ofFile_eq_ok hkey rfl (readWithin_starText _ _ _)

theorem items_stars : Text.items ',' (stars (n + 1)) = [stars (n + 1)] := by
  apply Text.items_of_no_sep trim_stars
  · simp [stars_succ]
  · intro hc
    exact absurd (eq_star_of_mem hc) (by decide)

theorem partCompiles_stars (hn : Regex.maxSize < 136 * (n + 1) + 192) :
    Scope.partCompiles (stars (n + 1)) = false := by
  have hstar : (stars (n + 1)).contains '*' = true := by simp [stars_succ]
  have hlarge : Wildcard.word.compiles (stars (n + 1)) = false := by
    rw [Wildcard.compiles, size_stars]
    simpa using hn
  rw [Scope.partCompiles, hstar, hlarge]
  rfl

/-- The pattern is a fault once it is too large. -/
theorem names_stars (hn : Regex.maxSize < 136 * (n + 1) + 192) (scope : Scope) :
    scope.names (String.ofList (stars (n + 1)))
      = .error (.invalidPattern (String.ofList (stars (n + 1)))) := by
  rw [Scope.names, String.toList_ofList, items_stars, List.find?_cons, partCompiles_stars hn]
  rfl

theorem validate_starDocument (hn : Regex.maxSize < 136 * (n + 1) + 192) (tree : FileTree)
    (page : Page) :
    validate tree .all 0 false (starDocument (n + 1)) page
      = some ⟨[.ofFault (.invalidPattern (String.ofList (stars (n + 1))))],
        [.beforeSection [], .afterSection []]⟩ := by
  have hnames := names_stars hn
  rw [validate_eq_collect]
  change Report.collect _ (starDocument (n + 1)).sections = _
  simp only [starDocument, Report.collect, Scope.report_checkSection, Scope.report_checkGroups,
    Scope.checkGroup, hnames]
  rfl

end

/-- The verdicts are not one if the pattern of a group is too large: its failure is in the summary,
and no observer is told of it. -/
theorem Execution.verdicts_differ_starTree :
    ∃ summary told, Execution.Ends {} (.copies {}) (starTree 120000) [checkSuite ⟨"star.spec"⟩]
        summary told ∧
      summary.allPassed = false ∧ summary.pageTests.flatMap PageTestResult.failures ≠ [] ∧
      (failureCounter 0 0).notifyAll told = failureCounter 0 0 := by
  have hn : Regex.maxSize < 136 * (119999 + 1) + 192 := by decide
  have hreport := validate_starDocument hn (starTree 120000) (Browser.page {})
  have hends :=
    @Execution.ends_checkSuite (starTree 120000) {} ⟨"star.spec"⟩ _ _ rfl ofFile_starTree
    hreport
  refine ⟨_, _, hends, ?_, ?_, ?_⟩
  · rfl
  · simp [Summary.pageTests]
  · rfl

end LayoutSpec
