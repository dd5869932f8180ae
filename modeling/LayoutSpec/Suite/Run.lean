import LayoutSpec.Action.Execution
import LayoutSpec.Suite.Basic
import LayoutSpec.Suite.Result

/-!
Running suites. Every page test has a browser of its own, and one that fails does not keep the next
ones from running. A run has no outcome if a check in it has none.
-/

namespace LayoutSpec

/-- Where the browsers of page tests come from. -/
inductive BrowserSource where
  /-- Every page test gets a copy of one browser. -/
  | copies (template : Browser)
  /-- No page test gets a browser, for a reason in words. -/
  | failing (message : String)
  /-- Asking for a browser takes the whole suite down. -/
  | crashing
deriving Inhabited

/-- What a part of a run leaves behind: its events, the calls of its browsers and their number. -/
structure Trace where
  events : List Event := []
  calls : List Call := []
  browsers : Nat := 0
deriving DecidableEq, Repr

namespace Trace

def append (a b : Trace) : Trace :=
  ⟨a.events ++ b.events, a.calls ++ b.calls, a.browsers + b.browsers⟩

instance : Append Trace := ⟨append⟩

def ofEvents (events : List Event) : Trace :=
  { events }

end Trace

structure Session where
  failures : List Failure := []
  error : Option Error := none
  browser : Browser
  events : List Event := []

namespace Session

/-- Performs actions one after another until one of them is stopped. All that was told until then is
kept, and of what was found all but the failures of the action that is stopped. -/
def performAll (tree : FileTree) : List Action → Browser → Option Session
  | [], browser => some { browser }
  | action :: rest, browser => do
    let run ← action.perform tree browser
    match run.result with
    | .error e =>
      return {
        error := some e
        browser := run.browser
        events := .actionStarted action :: run.events }
    | .ok failures =>
      let others ← performAll tree rest run.browser
      return { others with
        failures := failures ++ others.failures
        events := .actionStarted action :: run.events
          ++ .actionFinished action failures.length :: others.events }

/-- The browser with the window and the page of a test, and the error if the page cannot be
reached. -/
def prepare (test : PageTest) (browser : Browser) : Except Error Unit × Browser :=
  let browser := match test.size with
    | some size => browser.resize size
    | none => browser
  match test.url with
  | some url => browser.openPage url
  | none => (.ok (), browser)

def drive (tree : FileTree) (test : PageTest) (browser : Browser) : Option Session :=
  match prepare test browser with
  | (.error e, browser) => some { error := some e, browser }
  | (.ok (), browser) => performAll tree test.actions browser

end Session

namespace PageTest

/-- The result of a page test and the events at its end. An error that stopped it is told, and is in
the result in words. -/
def finish (test : PageTest) (failures : List Failure) (error : Option Error) :
    PageTestResult × List Event :=
  let result : PageTestResult := ⟨test.title, failures, error.map Error.display⟩
  (result, error.toList.map .globalError ++ [.pageTestFinished test.title result.passed])

/-- Runs a page test. It has no result if it takes its suite down. -/
def run (source : BrowserSource) (tree : FileTree) (test : PageTest) :
    Option (Option PageTestResult × Trace) :=
  match source with
  | .crashing => some (none, .ofEvents [.pageTestStarted test.title])
  | .failing message =>
    let (result, events) := test.finish [] (some (.browser message))
    some (some result, .ofEvents (.pageTestStarted test.title :: events))
  | .copies template => do
    let session ← Session.drive tree test { template with calls := [] }
    let (result, events) := test.finish session.failures session.error
    return (some result, {
      events := .pageTestStarted test.title :: session.events ++ events
      calls := session.browser.calls
      browsers := 1 })

/-- Runs page tests one after another, unless one takes the suite down. -/
def runAll (source : BrowserSource) (tree : FileTree) :
    List PageTest → Option (Option (List PageTestResult) × Trace)
  | [] => some (some [], {})
  | test :: rest => do
    let (result, trace) ← test.run source tree
    match result with
    | none => return (none, trace)
    | some result =>
      let (results, others) ← runAll source tree rest
      return (results.map (result :: ·), trace ++ others)

end PageTest

structure SuiteRun where
  result : SuiteResult
  trace : Trace

namespace Suite

/-- The result of a suite that was taken down: a single page test named like the suite, with the
reason in place of an error. -/
def crashed (s : Suite) : SuiteResult :=
  ⟨s.name, [{ title := s.name, fatal := some (Error.browser "Suite panicked").display }]⟩

def run (source : BrowserSource) (tree : FileTree) (s : Suite) : Option SuiteRun := do
  let (results, trace) ← PageTest.runAll source tree s.pageTests
  let started := Trace.ofEvents [.suiteStarted s.name]
  match results with
  | none => return ⟨s.crashed, started ++ trace⟩
  | some results =>
    let result : SuiteResult := ⟨s.name, results⟩
    return ⟨result, started ++ trace ++ .ofEvents [.suiteFinished s.name result.passed]⟩

end Suite

end LayoutSpec
