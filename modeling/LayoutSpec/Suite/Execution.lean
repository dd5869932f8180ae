import LayoutSpec.Suite.Configuration
import LayoutSpec.Suite.Run

/-!
Running the suites of a catalog. Before any suite starts, every spec of every suite has to be there,
and the filter has to compile.
The number of workers has a say only in the order of events, as `Pool` describes; here the suites
run one after another.
-/

namespace LayoutSpec

/-- The outcome of a run and what it leaves behind. -/
structure Execution where
  outcome : Except Error Summary
  trace : Trace

namespace Execution

/-- The first spec of the suites that is no file. The suites that are not selected are looked at as
well. -/
def missingSpec? (tree : FileTree) (suites : List Suite) : Option Path :=
  (suites.flatMap Suite.specs).find? fun path => !tree.isFile path

def runAll (source : BrowserSource) (tree : FileTree) :
    List Suite → Option (List SuiteResult × Trace)
  | [] => some ([], {})
  | suite :: rest => do
    let run ← suite.run source tree
    let (results, others) ← runAll source tree rest
    return (run.result :: results, run.trace ++ others)

/-- Why a run cannot start: a spec that is missing, and otherwise a filter that does not compile. -/
def obstacle? (config : Configuration) (tree : FileTree) (suites : List Suite) : Option Error :=
  match missingSpec? tree suites with
  | some path => some (.specNotFound path)
  | none => config.filterError?

/-- Runs the suites that a configuration selects. What stands in its way is found out before the
first suite, and is told as an error of the whole run. -/
def run (config : Configuration) (source : BrowserSource) (tree : FileTree) (suites : List Suite) :
    Option Execution :=
  match obstacle? config tree suites with
  | some error => some ⟨.error error, .ofEvents [.globalError error]⟩
  | none => do
    let (selected, rejected) := suites.partition fun s => config.selects s.name
    let (results, trace) ← runAll source tree selected
    return ⟨.ok ⟨results, rejected.map Suite.name⟩, trace⟩

end Execution

end LayoutSpec
