import LayoutSpec.Document.Basic
import LayoutSpec.Form.Basic
import LayoutSpec.TagFilter

/-!
The JSON forms of constraints and documents.
-/

namespace LayoutSpec

open Json (int nat path list orNull optional int? nat? string? bool? path? list?)

namespace Constraint

/-- The word of a direction in JSON, which has no blanks. -/
def directionWord : Direction → String
  | .above => "above"
  | .below => "below"
  | .leftOf => "left_of"
  | .rightOf => "right_of"

def form : Constraint → Json
  | absent => .string "absent"
  | visible => .string "visible"
  | width range => .object [("width", range.form)]
  | height range => .object [("height", range.form)]
  | inside object partly locations =>
    .object [("inside", .object [("object", .string object), ("partly", .bool partly),
      ("locations", list Location.form locations)])]
  | near object locations =>
    .object [("near", .object [("object", .string object),
      ("locations", list Location.form locations)])]
  | relative direction object range =>
    .object [("relative", .object [("direction", .string (directionWord direction)),
      ("object", .string object), ("range", range.form)])]
  | aligned axis edge object tolerance =>
    .object [("aligned", .object [("axis", .string axis.keyword), ("edge", .string edge.keyword),
      ("object", .string object), ("tolerance", int tolerance)])]
  | centered axis relation object tolerance =>
    .object [("centered", .object [("axis", .string axis.keyword),
      ("relation", .string relation.keyword), ("object", .string object),
      ("tolerance", int tolerance)])]
  | contains partly objects =>
    .object [("contains", .object [("partly", .bool partly), ("objects", list .string objects)])]
  | text operation expected =>
    .object [("text", .object [("operation", .string operation.keyword),
      ("expected", .string expected)])]
  | component spec => .object [("component", .object [("spec_path", path spec)])]

def ofWord? {α : Type} (word : α → String) (values : List α) (j : Json) : Option α :=
  j.string?.bind fun s => values.find? fun a => word a = s

/-- The constraint of a kind with its parameters. -/
def ofParameters? (kind : String) (j : Json) : Option Constraint :=
  match kind with
  | "width" => (PixelRange.ofForm? j).map .width
  | "height" => (PixelRange.ofForm? j).map .height
  | "inside" => do
    return .inside (← j.field? "object" string?) (← j.field? "partly" bool?)
      (← j.field? "locations" (list? Location.ofForm?))
  | "near" => do
    return .near (← j.field? "object" string?) (← j.field? "locations" (list? Location.ofForm?))
  | "relative" => do
    return .relative
      (← j.field? "direction" (ofWord? directionWord [.above, .below, .leftOf, .rightOf]))
      (← j.field? "object" string?) (← j.field? "range" PixelRange.ofForm?)
  | "aligned" => do
    return .aligned (← j.field? "axis" (ofWord? Axis.keyword [.horizontally, .vertically]))
      (← j.field? "edge"
        (ofWord? AlignEdge.keyword [.all, .top, .bottom, .left, .right, .centered]))
      (← j.field? "object" string?) (← j.field? "tolerance" int?)
  | "centered" => do
    return .centered
      (← j.field? "axis" (ofWord? CenterAxis.keyword [.all, .horizontally, .vertically]))
      (← j.field? "relation" (ofWord? CenterRelation.keyword [.inside, .on]))
      (← j.field? "object" string?) (← j.field? "tolerance" int?)
  | "contains" => do
    return .contains (← j.field? "partly" bool?) (← j.field? "objects" (list? string?))
  | "text" => do
    return .text
      (← j.field? "operation"
        (ofWord? TextOperation.keyword [.is, .contains, .starts, .ends, .matches]))
      (← j.field? "expected" string?)
  | "component" => (j.field? "spec_path" path?).map .component
  | _ => none

def ofForm? : Json → Option Constraint
  | .string "absent" => some .absent
  | .string "visible" => some .visible
  | .object [(kind, parameters)] => ofParameters? kind parameters
  | _ => none

end Constraint

def Group.form (g : Group) : Json :=
  .object [("object_name", .string g.pattern), ("constraints", list Constraint.form g.constraints)]

def Group.ofForm? (j : Json) : Option Group := do
  return ⟨← j.field? "object_name" string?, ← j.field? "constraints" (list? Constraint.ofForm?)⟩

def Statement.form (s : Statement) : Json :=
  .object [("inverted", .bool s.inverted), ("objects", list Group.form s.groups)]

def Statement.ofForm? (j : Json) : Option Statement := do
  return ⟨← j.field? "inverted" bool?, ← j.field? "objects" (list? Group.ofForm?)⟩

def ConditionalBlock.form (b : ConditionalBlock) : Json :=
  .object [("statements", list Statement.form b.statements), ("body", list Group.form b.body),
    ("otherwise", orNull (list Group.form) b.otherwise)]

def ConditionalBlock.ofForm? (j : Json) : Option ConditionalBlock := do
  return ⟨← j.field? "statements" (list? Statement.ofForm?),
    ← j.field? "body" (list? Group.ofForm?),
    ← j.optionalField? "otherwise" (list? Group.ofForm?)⟩

def Section.form (s : Section) : Json :=
  .object [("tags", list .string s.tags), ("objects", list Group.form s.groups),
    ("conditional_blocks", list ConditionalBlock.form s.blocks)]

def Section.ofForm? (j : Json) : Option Section := do
  return ⟨← j.field? "tags" (list? string?), ← j.field? "objects" (list? Group.ofForm?),
    ← j.field? "conditional_blocks" (list? ConditionalBlock.ofForm?)⟩

namespace ObjectTable

def entryForm (entry : String × Locator) : Json :=
  .array [.string entry.1, entry.2.form]

def form (t : ObjectTable) : Json :=
  list entryForm t.entries

def entryOfForm? : Json → Option (String × Locator)
  | .array [.string name, locator] => (Locator.ofForm? locator).map (name, ·)
  | _ => none

def ofForm? (j : Json) : Option ObjectTable :=
  (j.list? entryOfForm?).map .ofList

end ObjectTable

def Document.form (d : Document) : Json :=
  .object [("objects", d.objects.form), ("sections", list Section.form d.sections)]

def Document.ofForm? (j : Json) : Option Document := do
  return ⟨← j.field? "objects" ObjectTable.ofForm?, ← j.field? "sections" (list? Section.ofForm?)⟩

def TagFilter.form (f : TagFilter) : Json :=
  .object [("include", list .string f.included), ("exclude", list .string f.excluded)]

/-- Lists that are left out are empty. -/
def TagFilter.ofForm? (j : Json) : Option TagFilter := do
  return ⟨(← j.optionalField? "include" (list? string?)).getD [],
    (← j.optionalField? "exclude" (list? string?)).getD []⟩

end LayoutSpec
