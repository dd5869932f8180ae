import LayoutSpec.Form.Document
import LayoutSpec.Suite.Basic
import LayoutSpec.Validation.Failure

/-!
The JSON forms of suites, their actions and the failures that they find.
-/

namespace LayoutSpec

open Json (int nat path list orNull optional int? nat? string? bool? path? list?)

def Failure.form (f : Failure) : Json :=
  .object [("areas", list Area.form f.areas), ("messages", list .string f.messages)]

namespace Action

def form : Action → Json
  | openPage url => .object [("open", .object [("url", .string url)])]
  | resize size => .object [("resize", .object [("size", size.form)])]
  | setCookies cookies => .object [("cookie", .object [("cookies", list .string cookies)])]
  | inject script => .object [("inject", .object [("script_path", path script)])]
  | run script arguments =>
    .object [("run", .object [("script_path", path script),
      ("json_args", orNull .string arguments)])]
  | check specs filter =>
    .object [("check", .object [("specs", list path specs), ("filter", filter.form)])]

def ofForm? : Json → Option Action
  | .object [("open", j)] => (j.field? "url" string?).map .openPage
  | .object [("resize", j)] => (j.field? "size" Size.ofForm?).map .resize
  | .object [("cookie", j)] => (j.field? "cookies" (list? string?)).map .setCookies
  | .object [("inject", j)] => (j.field? "script_path" path?).map .inject
  | .object [("run", j)] => do
    return .run (← j.field? "script_path" path?) (← j.optionalField? "json_args" string?)
  | .object [("check", j)] => do
    return .check (← j.field? "specs" (list? path?)) (← j.field? "filter" TagFilter.ofForm?)
  | _ => none

end Action

def PageTest.form (t : PageTest) : Json :=
  .object [("title", .string t.title), ("url", orNull .string t.url),
    ("size", orNull Size.form t.size), ("actions", list Action.form t.actions)]

def PageTest.ofForm? (j : Json) : Option PageTest := do
  return ⟨← j.field? "title" string?, ← j.optionalField? "url" string?,
    ← j.optionalField? "size" Size.ofForm?, ← j.field? "actions" (list? Action.ofForm?)⟩

def Suite.form (s : Suite) : Json :=
  .object [("name", .string s.name), ("page_tests", list PageTest.form s.pageTests)]

def Suite.ofForm? (j : Json) : Option Suite := do
  return ⟨← j.field? "name" string?, ← j.field? "page_tests" (list? PageTest.ofForm?)⟩

end LayoutSpec
