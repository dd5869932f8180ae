import LayoutSpec.Proofs.Suite.Session
import LayoutSpec.Proofs.Suite.Verdict
import LayoutSpec.Proofs.Validation.Cycle

/-!
What is left of a suite. Every page test leaves what it leaves alone in a browser of its own, and
the suite tells the events of its page tests one after another, in brackets.
-/

namespace LayoutSpec

open Observer

namespace PageTest

variable {tree : FileTree} {template : Browser} {tests : List PageTest}

/-- What page tests leave, each one alone and in a browser of its own. -/
def LeaveAlone (tree : FileTree) (template : Browser) :
    List PageTest → List (PageTestResult × Trace) → Prop :=
  List.Forall₂ fun test left => test.run (.copies template) tree = some (some left.1, left.2) ∧
    ∃ steps ending, test.Goes tree { template with calls := [] } steps ending ∧
      test.LeftBy steps ending left.1 left.2

/-- A copy of a browser does not take its suite down. -/
theorem exists_result_of_run {test : PageTest} {outcome : Option PageTestResult × Trace}
    (h : test.run (.copies template) tree = some outcome) :
    ∃ result, outcome.1 = some result := by
  obtain ⟨session, -, h⟩ := Option.bind_eq_some_iff.mp h
  obtain rfl := Option.some.inj h
  exact ⟨_, rfl⟩

/-- Page tests in copies of one browser leave what each of them leaves alone, in their order. No
page test comes to see what the one before did to its browser. -/
theorem leaveAlone_of_runAll {results : Option (List PageTestResult)} {trace : Trace}
    (h : runAll (.copies template) tree tests = some (results, trace)) :
    ∃ left, LeaveAlone tree template tests left ∧ results = some (left.map Prod.fst) ∧
      trace.events = left.flatMap (fun l => l.2.events) ∧
      trace.calls = left.flatMap (fun l => l.2.calls) ∧ trace.browsers = left.length := by
  induction tests generalizing results trace with
  | nil =>
      obtain ⟨rfl, rfl⟩ := Prod.mk.inj (Option.some.inj h)
      exact ⟨[], .nil, rfl, rfl, rfl, rfl⟩
  | cons test rest ih =>
      obtain ⟨⟨result, first⟩, hrun, h⟩ := Option.bind_eq_some_iff.mp h
      obtain ⟨result, rfl⟩ := exists_result_of_run hrun
      obtain ⟨⟨results, others⟩, hrest, h⟩ := Option.bind_eq_some_iff.mp h
      obtain ⟨rfl, rfl⟩ := Prod.mk.inj (Option.some.inj h)
      obtain ⟨left, hleft, rfl, hevents, hcalls, hbrowsers⟩ := ih hrest
      obtain ⟨steps, ending, hgoes, hby⟩ := leftBy_of_run hrun
      refine
        ⟨(result, first) :: left, .cons ⟨hrun, steps, ending, hgoes, hby⟩ hleft, rfl, ?_, ?_, ?_⟩
      · rw [List.flatMap_cons, ← hevents]
        rfl
      · rw [List.flatMap_cons, ← hcalls]
        rfl
      · rw [Trace.append_eq, List.length_cons, ← hbrowsers, hby.browsers, Nat.add_comm]

theorem exists_runAll_of_exists_run
    (h : ∀ test ∈ tests, ∃ outcome, test.run (.copies template) tree = some outcome) :
    ∃ outcome, runAll (.copies template) tree tests = some outcome := by
  induction tests with
  | nil => exact ⟨_, rfl⟩
  | cons test rest ih =>
      obtain ⟨⟨result, trace⟩, hrun⟩ := h test List.mem_cons_self
      obtain ⟨result, rfl⟩ := exists_result_of_run hrun
      obtain ⟨outcome, hrest⟩ := ih fun later hlater => h later (List.mem_cons_of_mem test hlater)
      rw [runAll, hrun]
      simp only [hrest]
      exact ⟨_, rfl⟩

theorem exists_run_of_leaveAlone {left : List (PageTestResult × Trace)}
    (h : LeaveAlone tree template tests left) {test : PageTest} (htest : test ∈ tests) :
    ∃ outcome, test.run (.copies template) tree = some outcome := by
  induction h with
  | nil => cases htest
  | cons hfirst _ ih =>
      rcases List.mem_cons.mp htest with rfl | htest
      · exact ⟨_, hfirst.1⟩
      · exact ih htest

theorem bracketed_of_leaveAlone {left : List (PageTestResult × Trace)}
    (h : LeaveAlone tree template tests left) : Bracketed (left.flatMap fun l => l.2.events) := by
  induction h with
  | nil => exact .nil
  | cons hfirst _ ih =>
      obtain ⟨-, steps, ending, -, hby⟩ := hfirst
      rw [List.flatMap_cons]
      exact hby.bracketed.append ih

end PageTest

/-- A suite comes to its end exactly if every pass ends that its page tests come to. There is
nothing else in a suite that could go on forever. -/
theorem Suite.exists_run_iff {template : Browser} {tree : FileTree} {s : Suite} :
    (∃ run, s.run (.copies template) tree = some run) ↔
      ∀ test ∈ s.pageTests, ∀ filter p,
        test.Starts tree { template with calls := [] } filter p → p.EveryChainEnds tree filter := by
  refine Iff.trans ?_ (forall₂_congr fun test _ => PageTest.exists_run_iff)
  constructor
  · rintro ⟨run, h⟩ test htest
    obtain ⟨⟨results, trace⟩, hall, -⟩ := Option.bind_eq_some_iff.mp h
    obtain ⟨left, hleft, -⟩ := PageTest.leaveAlone_of_runAll hall
    exact PageTest.exists_run_of_leaveAlone hleft htest
  · intro h
    obtain ⟨⟨results, trace⟩, hall⟩ := PageTest.exists_runAll_of_exists_run h
    rw [run, hall]
    cases results <;> exact ⟨_, rfl⟩

/-- What is left of a suite whose page tests get copies of a browser. Each page test leaves what it
leaves alone, which is accounted for by its steps and its ending. The suite tells the events of its
page tests in turn, all of them in brackets, and an observer that breaks down hears them all, as the
others do that are told with it. It comes to its end exactly if every pass does that its page tests
come to. -/
theorem Suite.run_isolates_page_tests (template : Browser) (tree : FileTree) (s : Suite) :
    ((∃ run, s.run (.copies template) tree = some run) ↔
      ∀ test ∈ s.pageTests, ∀ filter p,
        test.Starts tree { template with calls := [] } filter p → p.EveryChainEnds tree filter) ∧
    ∀ run, s.run (.copies template) tree = some run →
      ∃ left, PageTest.LeaveAlone tree template s.pageTests left ∧
        run.result = ⟨s.name, left.map Prod.fst⟩ ∧
        run.trace.events = .suiteStarted s.name :: left.flatMap (fun l => l.2.events)
          ++ [.suiteFinished s.name run.result.passed] ∧
        run.trace.calls = left.flatMap (fun l => l.2.calls) ∧
        run.trace.browsers = left.length ∧ Bracketed run.trace.events ∧
        ∀ breaks others, (combined (.fragile breaks [] :: others)).notifyAll run.trace.events
          = combined (.fragile breaks run.trace.events ::
            others.map fun other => other.notifyAll run.trace.events) := by
  refine ⟨exists_run_iff, fun run h => ?_⟩
  obtain ⟨⟨results, trace⟩, hall, h⟩ := Option.bind_eq_some_iff.mp h
  obtain ⟨left, hleft, rfl, hevents, hcalls, hbrowsers⟩ := PageTest.leaveAlone_of_runAll hall
  obtain rfl := Option.some.inj h
  have htold : (Trace.ofEvents [.suiteStarted s.name] ++ trace
        ++ .ofEvents [.suiteFinished s.name
          (SuiteResult.mk s.name (left.map Prod.fst)).passed]).events
      = .suiteStarted s.name :: left.flatMap (fun l => l.2.events)
        ++ [.suiteFinished s.name (SuiteResult.mk s.name (left.map Prod.fst)).passed] := by
    simp [Trace.append_eq, Trace.ofEvents, hevents]
  refine ⟨left, hleft, rfl, htold, ?_, ?_, ?_, ?_⟩
  · simp [Trace.append_eq, Trace.ofEvents, hcalls]
  · simp [Trace.append_eq, Trace.ofEvents, hbrowsers]
  · rw [htold]
    exact .between .suite (PageTest.bracketed_of_leaveAlone hleft)
  · intro breaks others
    rw [notifyAll_combined, List.map_cons, notifyAll_fragile, List.nil_append]

/-- The first page test is not let in, and the second one is stopped by its last action. -/
def stoppedSuite : Suite where
  name := "Stopped"
  pageTests := [
    { title := "down", url := some "http://down/", size := some ⟨320, 640⟩,
      actions := [.resize ⟨640, 320⟩] },
    { title := "script", actions := [.setCookies ["a=1"], .inject ⟨"missing.js"⟩] }]

theorem Suite.run_isolates_page_tests_stoppedSuite :
    ∃ run left, stoppedSuite.run (.copies { unreachable := ["http://down/"] }) {} = some run ∧
      PageTest.LeaveAlone {} { unreachable := ["http://down/"] } stoppedSuite.pageTests left ∧
      run.result = ⟨"Stopped", left.map Prod.fst⟩ ∧
      run.trace.calls = [.resize ⟨320, 640⟩, .openPage "http://down/", .setCookie "a=1"] ∧
      Bracketed run.trace.events := by
  obtain ⟨run, hrun⟩ : ∃ run,
      stoppedSuite.run (.copies { unreachable := ["http://down/"] }) {} = some run := ⟨_, rfl⟩
  obtain ⟨left, hleft, hresult, -, -, -, hbracketed, -⟩ :=
    (run_isolates_page_tests { unreachable := ["http://down/"] } {} stoppedSuite).2 run hrun
  refine ⟨run, left, hrun, hleft, hresult, ?_, hbracketed⟩
  obtain rfl := Option.some.inj hrun
  rfl

/-- The first page test checks the spec that is its own component. -/
def loopSuite : Suite where
  name := "Loop"
  pageTests := [{ title := "loop", actions := [.check [⟨"loop.spec"⟩] .all] }, { title := "next" }]

def cornerBrowser : Browser where
  pages := [("about:blank", cornerPage)]

/-- The suite never comes to its second page test, which alone would pass. -/
theorem Suite.run_loopSuite :
    loopSuite.run (.copies cornerBrowser) loopTree = none ∧
      PageTest.run (.copies cornerBrowser) loopTree { title := "next" }
        = some (some { title := "next" },
          { events := [.pageTestStarted "next", .pageTestFinished "next" true],
            browsers := 1 }) := by
  refine ⟨?_, rfl⟩
  cases hrun : loopSuite.run (.copies cornerBrowser) loopTree with
  | none => rfl
  | some run =>
      have hpass : Action.Starts loopTree { cornerBrowser with calls := [] }
          (.check [⟨"loop.spec"⟩] .all) .all ⟨0, false, loopDocument, cornerPage⟩ :=
        .check .nil ofFile_loopTree
      have hstarts : PageTest.Starts loopTree { cornerBrowser with calls := [] }
          { title := "loop", actions := [.check [⟨"loop.spec"⟩] .all] } .all
          ⟨0, false, loopDocument, cornerPage⟩ :=
        ⟨by simp, .here hpass⟩
      have hends := exists_run_iff.mp ⟨run, hrun⟩ _ List.mem_cons_self _ _ hstarts
      exact absurd ⟨rfl, rfl⟩ (hends.not_alike (.single (loopDocument_starts 0)))

end LayoutSpec
