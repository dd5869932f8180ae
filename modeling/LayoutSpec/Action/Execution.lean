import LayoutSpec.Browser
import LayoutSpec.Event
import LayoutSpec.Json.Printer
import LayoutSpec.Validation.Nesting

/-!
Performing an action in a browser. Only a check finds failures; every other action succeeds or is
stopped by an error.
-/

namespace LayoutSpec

/-- What came of an action: the failures that it found or the error that stopped it, the browser
after it, and the events of its passes. -/
structure ActionRun where
  result : Except Error (List Failure)
  browser : Browser
  events : List Event := []

namespace Action

def readScript (tree : FileTree) (path : Path) : Except Error String :=
  match tree.read path with
  | .ok script => .ok script
  | .error .missing => .error (.browser ("Script file not found: " ++ path.text))
  | .error fault => .error (.file fault)

def readArguments (text : String) : Except Error String :=
  match Json.parse text.toList with
  | .ok value => .ok value.compact
  | .error e => .error (.json e)

/-- A script and its arguments. The script is read first, so that its fault is the one that is
reported if both files cannot be read. -/
def readCall (tree : FileTree) (path : Path) (arguments : Option String) :
    Except Error (String × Option String) := do
  let script ← readScript tree path
  match arguments with
  | none => return (script, none)
  | some text => return (script, some (← readArguments text))

/-- Passes over a page, one for each spec. The first spec that cannot be read stops them; the
reports of those before it are kept. -/
def checkSpecs (tree : FileTree) (filter : TagFilter) (page : Page) :
    List Path → Option (Option Error × Report)
  | [] => some (none, {})
  | path :: rest =>
    match Document.ofFile tree path with
    | .error e => some (some e, {})
    | .ok document => do
      let first ← validate tree filter 0 false document page
      let (error, others) ← checkSpecs tree filter page rest
      return (error, first ++ others)

/-- Performs an action, which has no outcome if it checks components without end. The error that
stops it is a part of the outcome. -/
def perform (tree : FileTree) (browser : Browser) : Action → Option ActionRun
  | .openPage url =>
    let (result, browser) := browser.openPage url
    some { result := result.map fun _ => [], browser }
  | .resize size => some { result := .ok [], browser := browser.resize size }
  | .setCookies cookies => some { result := .ok [], browser := browser.setCookies cookies }
  | .inject path =>
    match readScript tree path with
    | .error e => some { result := .error e, browser }
    | .ok script => some { result := .ok [], browser := browser.inject script }
  | .run path arguments =>
    match readCall tree path arguments with
    | .error e => some { result := .error e, browser }
    | .ok (script, arguments) => some { result := .ok [], browser := browser.run script arguments }
  | .check specs filter => do
    let (error, report) ← checkSpecs tree filter browser.page specs
    return {
      result := match error with
        | none => .ok report.failures
        | some e => .error e
      browser
      events := report.events }

end Action

end LayoutSpec
