import LayoutSpec.Suite.Run
import LayoutSpec.Proofs.Action.Performs

/-!
What page tests do, step by step. A page test asks its browser for the window and the page and then
performs its actions in turn, up to the first one that is stopped. Its events, its calls and its
result are put together from those of its steps, and nothing else has a part in them. It comes to
its end exactly if every pass does that its checks start.
-/

namespace LayoutSpec

namespace Session

structure Step where
  action : Action
  failures : List Failure
  calls : List Call
  events : List Event

def Step.told (step : Step) : List Event :=
  .actionStarted step.action :: step.events
    ++ [.actionFinished step.action step.failures.length]

/-- How a page test comes to its end. -/
inductive Ending where
  /-- All actions were performed. -/
  | finished
  /-- The browser does not open the page of the test. -/
  | refused (error : Error)
  /-- An action is stopped. -/
  | stopped (action : Action) (error : Error) (calls : List Call) (events : List Event)

namespace Ending

def action? : Ending → Option Action
  | stopped action .. => some action
  | _ => none

def error? : Ending → Option Error
  | finished => none
  | refused error => some error
  | stopped _ error .. => some error

def calls : Ending → List Call
  | stopped _ _ calls _ => calls
  | _ => []

/-- What is told of an action until it is stopped. -/
def begun : Ending → List Event
  | stopped action _ _ events => .actionStarted action :: events
  | _ => []

/-- What is told of the end, before the end of the page test. -/
def told (ending : Ending) : List Event :=
  ending.begun ++ ending.error?.toList.map .globalError

end Ending

/-- Actions are performed one after another, up to the first one that is stopped. -/
inductive Follows (tree : FileTree) : Browser → List Action → List Step → Ending → Prop where
  | finished {b : Browser} : Follows tree b [] [] .finished
  | stopped {b : Browser} {a : Action} {rest : List Action} {e : Error} {calls : List Call}
    {events : List Event} : a.Performs tree b (.error e) calls events →
    Follows tree b (a :: rest) [] (.stopped a e calls events)
  | next {b : Browser} {a : Action} {rest : List Action} {failures : List Failure}
    {calls : List Call} {events : List Event} {steps : List Step} {ending : Ending} :
    a.Performs tree b (.ok failures) calls events →
    Follows tree (b.replay calls) rest steps ending →
    Follows tree b (a :: rest) (⟨a, failures, calls, events⟩ :: steps) ending

/-- The passes that actions come to, one after another. -/
inductive Starts (tree : FileTree) : Browser → List Action → TagFilter → Pass → Prop where
  | here {b : Browser} {a : Action} {rest : List Action} {filter : TagFilter} {p : Pass} :
    a.Starts tree b filter p → Starts tree b (a :: rest) filter p
  | later {b : Browser} {a : Action} {rest : List Action} {failures : List Failure}
    {calls : List Call} {events : List Event} {filter : TagFilter} {p : Pass} :
    a.Performs tree b (.ok failures) calls events →
    Starts tree (b.replay calls) rest filter p → Starts tree b (a :: rest) filter p

/-- The session that some steps and their ending leave. -/
def ofSteps (b : Browser) (steps : List Step) (ending : Ending) : Session where
  failures := steps.flatMap Step.failures
  error := ending.error?
  browser := b.replay (steps.flatMap Step.calls ++ ending.calls)
  events := steps.flatMap Step.told ++ ending.begun

variable {tree : FileTree} {b : Browser} {actions : List Action} {steps : List Step}
  {ending : Ending}

namespace Follows

/-- Every action before the end is a step. -/
theorem exists_actions_eq (h : Follows tree b actions steps ending) :
    ∃ rest, actions = steps.map Step.action ++ ending.action?.toList ++ rest ∧
      (ending.error? = none → rest = []) := by
  induction h with
  | finished => exact ⟨[], rfl, fun _ => rfl⟩
  | @stopped _ a rest _ _ _ _ => exact ⟨rest, rfl, fun h => nomatch h⟩
  | @next _ a _ _ _ _ _ _ _ _ ih =>
      obtain ⟨rest, hactions, hrest⟩ := ih
      exact ⟨rest, congrArg (a :: ·) hactions, hrest⟩

theorem bracketed_told (h : Follows tree b actions steps ending) :
    Bracketed (steps.flatMap Step.told ++ ending.told) := by
  induction h with
  | finished => exact .nil
  | stopped hperforms => exact .between .stopped (Action.bracketed_of_performs hperforms)
  | next hperforms _ ih =>
      rw [List.flatMap_cons, List.append_assoc]
      exact (Bracketed.between .action (Action.bracketed_of_performs hperforms)).append ih

end Follows

theorem performAll_of_follows (h : Follows tree b actions steps ending) :
    performAll tree actions b = some (ofSteps b steps ending) := by
  induction h with
  | finished => rfl
  | stopped hperforms =>
      rw [performAll, Action.perform_of_performs hperforms]
      rfl
  | next hperforms _ ih =>
      rw [performAll, Action.perform_of_performs hperforms]
      simp [ih, ofSteps, Step.told, Browser.replay_append]

theorem exists_follows_of_performAll {s : Session} (h : performAll tree actions b = some s) :
    ∃ steps ending, Follows tree b actions steps ending := by
  induction actions generalizing b s with
  | nil => exact ⟨[], .finished, .finished⟩
  | cons a rest ih =>
      rw [performAll] at h
      obtain ⟨⟨result, after, events⟩, hrun, h⟩ := Option.bind_eq_some_iff.mp h
      obtain ⟨calls, hperforms, rfl⟩ := Action.perform_eq_some_iff.mp hrun
      cases result with
      | error e => exact ⟨[], _, .stopped hperforms⟩
      | ok failures =>
          obtain ⟨others, hothers, -⟩ := Option.bind_eq_some_iff.mp h
          obtain ⟨steps, ending, hrest⟩ := ih hothers
          exact ⟨_, ending, .next hperforms hrest⟩

/-- Actions come to an end, or to a pass without end. The steps and the ending name all that was
done on the way. -/
theorem exists_follows (tree : FileTree) (b : Browser) (actions : List Action) :
    (∃ steps ending, Follows tree b actions steps ending) ∨
      ∃ filter p, Starts tree b actions filter p ∧ p.outcome tree filter = none := by
  induction actions generalizing b with
  | nil => exact .inl ⟨[], .finished, .finished⟩
  | cons a rest ih =>
      rcases a.exists_performs tree b with ⟨result, calls, events, h⟩ | ⟨filter, p, hp, hnone⟩
      · cases result with
        | error e => exact .inl ⟨[], _, .stopped h⟩
        | ok failures =>
            rcases ih (b.replay calls) with ⟨steps, ending, hrest⟩ | ⟨filter, p, hp, hnone⟩
            · exact .inl ⟨_, ending, .next h hrest⟩
            · exact .inr ⟨filter, p, .later h hp, hnone⟩
      · exact .inr ⟨filter, p, .here hp, hnone⟩

theorem exists_outcome_of_follows {filter : TagFilter} {p : Pass}
    (h : Follows tree b actions steps ending) (hp : Starts tree b actions filter p) :
    ∃ r, p.outcome tree filter = some r := by
  induction hp generalizing steps ending with
  | here hp =>
      cases h with
      | stopped hperforms => exact Action.exists_outcome_of_performs hperforms hp
      | next hperforms _ => exact Action.exists_outcome_of_performs hperforms hp
  | later hfirst _ ih =>
      have hrun := Action.perform_of_performs hfirst
      cases h with
      | stopped hperforms =>
          rw [Action.perform_of_performs hperforms] at hrun
          cases hrun
      | next hperforms hrest =>
          rw [Action.perform_of_performs hperforms] at hrun
          obtain ⟨-, hbrowser, -⟩ := ActionRun.mk.inj (Option.some.inj hrun)
          rw [hbrowser] at hrest
          exact ih hrest

end Session

namespace PageTest

open Session

/-- What a page test asks its browser for before its actions. -/
def opening (test : PageTest) : List Call :=
  test.size.toList.map .resize ++ test.url.toList.map .openPage

/-- A page test goes some way: its page is opened, if it has one, and then its actions are performed
one after another. -/
inductive Goes (tree : FileTree) (b : Browser) (test : PageTest) : List Step → Ending → Prop where
  | refused {url : String} : test.url = some url → b.unreachable.contains url = true →
    Goes tree b test [] (.refused (.browser ("Cannot open " ++ url)))
  | opened {steps : List Step} {ending : Ending} :
    (∀ url, test.url = some url → b.unreachable.contains url = false) →
    Follows tree (b.replay test.opening) test.actions steps ending →
    Goes tree b test steps ending

/-- The passes that a page test comes to. -/
def Starts (tree : FileTree) (b : Browser) (test : PageTest) (filter : TagFilter) (p : Pass) :
    Prop :=
  (∀ url, test.url = some url → b.unreachable.contains url = false) ∧
    Session.Starts tree (b.replay test.opening) test.actions filter p

/-- What is left of a page test by its steps and its ending. -/
structure LeftBy (test : PageTest) (steps : List Step) (ending : Ending) (result : PageTestResult)
    (trace : Trace) : Prop where
  title : result.title = test.title
  actions : ∃ rest, test.actions = steps.map Step.action ++ ending.action?.toList ++ rest ∧
    (ending.error? = none → rest = [])
  failures : result.failures = steps.flatMap Step.failures
  fatal : result.fatal = ending.error?.map Error.display
  passed : result.passed = true ↔ (∀ step ∈ steps, step.failures = []) ∧ ending = .finished
  events : trace.events = .pageTestStarted test.title :: (steps.flatMap Step.told ++ ending.told)
    ++ [.pageTestFinished test.title result.passed]
  bracketed : Bracketed trace.events
  calls : trace.calls = test.opening ++ steps.flatMap Step.calls ++ ending.calls
  browsers : trace.browsers = 1

variable {tree : FileTree} {b template : Browser} {test : PageTest} {steps : List Step}
  {ending : Ending}

theorem prepare_eq (test : PageTest) (b : Browser) :
    prepare test b = match test.url with
      | some url => (b.replay (test.size.toList.map .resize)).openPage url
      | none => (.ok (), b.replay (test.size.toList.map .resize)) := by
  rw [prepare]
  cases test.size <;> rfl

theorem prepare_of_refused {url : String} (hurl : test.url = some url)
    (h : b.unreachable.contains url = true) :
    prepare test b = (.error (.browser ("Cannot open " ++ url)), b.replay test.opening) := by
  simp only [prepare_eq, opening, hurl]
  rw [Browser.openPage_eq_error (by rw [Browser.unreachable_replay, h]), Browser.replay_append]
  rfl

theorem prepare_of_opened (h : ∀ url, test.url = some url → b.unreachable.contains url = false) :
    prepare test b = (.ok (), b.replay test.opening) := by
  cases hurl : test.url with
  | none => simp [prepare_eq, opening, hurl]
  | some url =>
      simp only [prepare_eq, opening, hurl]
      rw [Browser.openPage_eq_ok (by rw [Browser.unreachable_replay, h url hurl]),
        Browser.replay_append]
      rfl

theorem drive_of_goes (h : test.Goes tree b steps ending) :
    drive tree test b = some (ofSteps (b.replay test.opening) steps ending) := by
  cases h with
  | refused hurl h =>
      rw [drive, prepare_of_refused hurl h]
      rfl
  | opened hurl h =>
      rw [drive, prepare_of_opened hurl]
      exact performAll_of_follows h

/-- A page test comes to its end, or to a pass without end. -/
theorem exists_goes (tree : FileTree) (b : Browser) (test : PageTest) :
    (∃ steps ending, test.Goes tree b steps ending) ∨
      ∃ filter p, test.Starts tree b filter p ∧ p.outcome tree filter = none := by
  by_cases hrefused : ∃ url, test.url = some url ∧ b.unreachable.contains url = true
  · obtain ⟨url, hurl, h⟩ := hrefused
    exact .inl ⟨[], _, .refused hurl h⟩
  · have hopened : ∀ url, test.url = some url → b.unreachable.contains url = false := by
      simpa using hrefused
    rcases exists_follows tree (b.replay test.opening) test.actions with
      ⟨steps, ending, h⟩ | ⟨filter, p, hp, hnone⟩
    · exact .inl ⟨steps, ending, .opened hopened h⟩
    · exact .inr ⟨filter, p, ⟨hopened, hp⟩, hnone⟩

theorem exists_outcome_of_goes {filter : TagFilter} {p : Pass} (h : test.Goes tree b steps ending)
    (hp : test.Starts tree b filter p) : ∃ r, p.outcome tree filter = some r := by
  obtain ⟨hopened, hp⟩ := hp
  cases h with
  | refused hurl h =>
      rw [hopened _ hurl] at h
      cases h
  | opened _ h => exact exists_outcome_of_follows h hp

theorem bracketed_of_goes (h : test.Goes tree b steps ending) :
    Bracketed (steps.flatMap Step.told ++ ending.told) := by
  cases h with
  | refused _ _ => exact .singleton rfl
  | opened _ h => exact h.bracketed_told

theorem exists_actions_eq_of_goes (h : test.Goes tree b steps ending) :
    ∃ rest, test.actions = steps.map Step.action ++ ending.action?.toList ++ rest ∧
      (ending.error? = none → rest = []) := by
  cases h with
  | refused _ _ => exact ⟨test.actions, rfl, fun h => nomatch h⟩
  | opened _ h => exact h.exists_actions_eq

/-- A page test that goes some way leaves what its steps and its ending leave. The steps tell which
failures it returns, which events it tells, and how its browser is changed. -/
theorem exists_run_of_goes (h : test.Goes tree { template with calls := [] } steps ending) :
    ∃ result trace, test.run (.copies template) tree = some (some result, trace) ∧
      test.LeftBy steps ending result trace := by
  let result : PageTestResult :=
    ⟨test.title, steps.flatMap Step.failures, ending.error?.map Error.display⟩
  let trace : Trace := {
    events := .pageTestStarted test.title :: (steps.flatMap Step.told ++ ending.told)
      ++ [.pageTestFinished test.title result.passed]
    calls := test.opening ++ steps.flatMap Step.calls ++ ending.calls
    browsers := 1 }
  have hrun : test.run (.copies template) tree = some (some result, trace) := by
    simp [run, drive_of_goes h, ofSteps, finish, result, trace, Ending.told,
      ← Browser.replay_append, Browser.calls_replay]
  have hpassed :
      result.passed = true ↔ (∀ step ∈ steps, step.failures = []) ∧ ending = .finished := by
    cases ending <;> simp [result, PageTestResult.passed, Ending.error?]
  refine ⟨result, trace, hrun, ?_⟩
  constructor
  case passed => exact hpassed
  case actions => exact exists_actions_eq_of_goes h
  case bracketed => exact .between .pageTest (bracketed_of_goes h)
  all_goals rfl

theorem exists_goes_of_drive {s : Session} (h : drive tree test b = some s) :
    ∃ steps ending, test.Goes tree b steps ending := by
  by_cases hrefused : ∃ url, test.url = some url ∧ b.unreachable.contains url = true
  · obtain ⟨url, hurl, h⟩ := hrefused
    exact ⟨[], _, .refused hurl h⟩
  · have hopened : ∀ url, test.url = some url → b.unreachable.contains url = false := by
      simpa using hrefused
    rw [drive, prepare_of_opened hopened] at h
    obtain ⟨steps, ending, hfollows⟩ := exists_follows_of_performAll h
    exact ⟨steps, ending, .opened hopened hfollows⟩

/-- A page test leaves what its steps and its ending leave. -/
theorem leftBy_of_run {result : PageTestResult} {trace : Trace}
    (h : test.run (.copies template) tree = some (some result, trace)) :
    ∃ steps ending, test.Goes tree { template with calls := [] } steps ending ∧
      test.LeftBy steps ending result trace := by
  obtain ⟨session, hsession, -⟩ := Option.bind_eq_some_iff.mp h
  obtain ⟨steps, ending, hgoes⟩ := exists_goes_of_drive hsession
  obtain ⟨result', trace', hrun, hleft⟩ := exists_run_of_goes hgoes
  cases Option.some.inj (h.symm.trans hrun)
  exact ⟨steps, ending, hgoes, hleft⟩

/-- A page test in a copy of a browser has a result exactly if every pass ends that it comes to.
Passes that come after one without end are never reached. -/
theorem exists_run_iff : (∃ outcome, test.run (.copies template) tree = some outcome) ↔
    ∀ filter p, test.Starts tree { template with calls := [] } filter p →
      p.EveryChainEnds tree filter := by
  constructor
  · rintro ⟨outcome, h⟩ filter p hp
    obtain ⟨session, hsession, -⟩ := Option.bind_eq_some_iff.mp h
    obtain ⟨steps, ending, hgoes⟩ := exists_goes_of_drive hsession
    exact (Pass.exists_outcome_iff_everyChainEnds tree filter p).mp
      (exists_outcome_of_goes hgoes hp)
  · intro h
    rcases exists_goes tree { template with calls := [] } test with
      ⟨steps, ending, hgoes⟩ | ⟨filter, p, hp, hnone⟩
    · obtain ⟨result, trace, hrun, -⟩ := exists_run_of_goes hgoes
      exact ⟨_, hrun⟩
    · obtain ⟨r, hr⟩ := Pass.exists_outcome_of_everyChainEnds (h filter p hp)
      rw [hnone] at hr
      cases hr

end PageTest

end LayoutSpec
