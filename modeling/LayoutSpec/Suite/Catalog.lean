import LayoutSpec.Action.Reader
import LayoutSpec.Error
import LayoutSpec.Suite.Basic
import LayoutSpec.Suite.Configuration
import LayoutSpec.Yaml.Value

/-!
Reading suites and configurations from YAML. Actions and sizes are written in a catalog as they are
written elsewhere; paths of files are seen from the folder of the catalog.
-/

namespace LayoutSpec

open Yaml

structure PageTestEntry where
  title : String
  url : Option String
  size : Option String
  actions : List String

structure SuiteEntry where
  name : String
  pageTests : List PageTestEntry

namespace PageTestEntry

def ofNode (n : Node) : Reading PageTestEntry := do
  let fields ← Reading.fields ["title", "url", "size", "actions"] n
  return {
    title := ← Reading.field "title" Reading.text fields
    url := ← Reading.fieldOr none "url" Reading.textOrNull fields
    size := ← Reading.fieldOr none "size" Reading.textOrNull fields
    actions := ← Reading.fieldOr [] "actions" (Reading.listOf Reading.text) fields }

/-- The page test of an entry. The size is read before the actions, so that its fault is the one
that is reported if both are malformed. -/
def read (base : Option Path) (e : PageTestEntry) : Except SyntaxCause PageTest := do
  let size ← e.size.mapM fun size => Size.parse size.toList
  let actions ← e.actions.mapM (Action.parse base)
  return { title := e.title, url := e.url, size, actions }

end PageTestEntry

namespace SuiteEntry

def ofNode (n : Node) : Reading SuiteEntry := do
  let fields ← Reading.fields ["name", "page_tests"] n
  return {
    name := ← Reading.field "name" Reading.text fields
    pageTests := ← Reading.fieldOr [] "page_tests" (Reading.listOf PageTestEntry.ofNode) fields }

/-- The suite of an entry. A fault in it is reported with the name of the suite. -/
def read (base : Option Path) (e : SuiteEntry) : Except SyntaxError Suite :=
  match e.pageTests.mapM (PageTestEntry.read base) with
  | .ok pageTests => .ok ⟨e.name, pageTests⟩
  | .error cause =>
    .error (SyntaxError.withSource (SyntaxError.display { cause })
      { cause := .inSuite e.name cause })

end SuiteEntry

def suitesOfNode (n : Node) : Reading (List SuiteEntry) := do
  let fields ← Reading.fields ["suites"] n
  Reading.field "suites" (Reading.listOf SuiteEntry.ofNode) fields

def Suite.ofYaml (base : Option Path) (text : String) : Except Error (List Suite) :=
  match (Graph.ofText? text.toList).bind (Reading.ofGraph? suitesOfNode) with
  | none => .error .yaml
  | some entries => (entries.mapM (SuiteEntry.read base)).mapError .malformed

def Suite.ofFile (tree : FileTree) (path : Path) : Except Error (List Suite) :=
  match tree.read path with
  | .error fault => .error (.file fault)
  | .ok text =>
    match Suite.ofYaml path.parent? text with
    | .error (.malformed e) => .error (.malformed (e.inFile path))
    | result => result

namespace Configuration

def ofNode (n : Node) : Reading Configuration := do
  let fields ← Reading.fields ["parallel_suites", "filter"] n
  return {
    parallelSuites := ← Reading.fieldOr 1 "parallel_suites" Reading.wholeNumber fields
    filter := ← Reading.fieldOr none "filter" Reading.textOrNull fields }

/-- Reads a configuration. What is left out stays as it is by default. -/
def ofYaml (text : String) : Except Error Configuration :=
  match (Graph.ofText? text.toList).bind (Reading.ofGraph? ofNode) with
  | none => .error .yaml
  | some config => .ok config

def ofFile (tree : FileTree) (path : Path) : Except Error Configuration :=
  match tree.read path with
  | .error fault => .error (.file fault)
  | .ok text => ofYaml text

end Configuration

end LayoutSpec
