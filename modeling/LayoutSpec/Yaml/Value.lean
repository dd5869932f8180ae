import LayoutSpec.Yaml.Node

/-!
Reading typed values from YAML nodes. What a plain scalar means is decided by the type that is asked
for: where a text is asked for, `5` and `null` are texts too.
-/

namespace LayoutSpec.Yaml

/-- A reading of a document. It may follow only so many references. -/
abbrev Reading := ReaderT Graph (StateT Nat Option)

namespace Reading

/-- The value that a reading gives for the outermost node of a document. References are followed at
most a hundred times as often as the document has nodes. -/
def ofGraph? {α : Type} (read : Node → Reading α) (g : Graph) : Option α :=
  ((read g.root).run g |>.run (100 * g.root.size)).map Prod.fst

/-- The node that a node refers to, or the node itself. -/
def resolve (n : Node) : Reading Node :=
  match n with
  | .reference number => do
    let uses ← get
    guard (0 < uses)
    set (uses - 1)
    (← read).node? number
  | n => return n

/-- A scalar of any kind, as a text. -/
def text (n : Node) : Reading String := do
  match ← resolve n with
  | .scalar _ _ text => return String.ofList text
  | _ => failure

/-- The plain scalars that stand for no value. -/
def isNull (text : List Char) : Bool :=
  ["null", "Null", "NULL", "~"].contains (String.ofList text)

def nullTag : List Char := "tag:yaml.org,2002:null".toList

def intTag : List Char := "tag:yaml.org,2002:int".toList

/-- A text, or none where nothing or a null is written. -/
def textOrNull (n : Node) : Reading (Option String) := do
  match ← resolve n with
  | .scalar none .plain text =>
    return if text.isEmpty || isNull text then none else some (String.ofList text)
  | .scalar (some tag) .plain text =>
    if tag = nullTag then
      guard (isNull text)
      return none
    else return some (String.ofList text)
  | .scalar _ _ text => return some (String.ofList text)
  | _ => failure

/-- A whole number without a sign, of 64 bits. A plus sign may stand before it. Leading zeros are
not allowed, as `0x`, `0o` and `0b` mark other bases. -/
def wholeNumber? (text : List Char) : Option Nat :=
  let digits := match text with
    | '+' :: rest => rest
    | text => text
  let number? := match digits with
    | '0' :: 'x' :: rest => Text.numeral? 16 rest
    | '0' :: 'o' :: rest => Text.numeral? 8 rest
    | '0' :: 'b' :: rest => Text.numeral? 2 rest
    | '0' :: _ :: _ => none
    | digits => Text.numeral? 10 digits
  number?.filter (· < 18446744073709551616)

/-- A whole number, written as a plain scalar or as a literal block with its tag. -/
def wholeNumber (n : Node) : Reading Nat := do
  match ← resolve n with
  | .scalar tag style text =>
    guard (style = .plain || style = .literal && tag = some intTag)
    wholeNumber? text
  | _ => failure

/-- The items of a sequence, which has none where nothing is written. -/
def items (n : Node) : Reading (List Node) := do
  match ← resolve n with
  | .sequence items => return items
  | .scalar _ .plain [] => return []
  | _ => failure

/-- Some fields of a mapping, which has none where nothing is written. Other fields are passed over;
a field must not be given twice. -/
def fields (names : List String) (n : Node) : Reading (List (String × Node)) := do
  match ← resolve n with
  | .mapping entries =>
    let entries ← entries.mapM fun (key, value) => do return (← text key, value)
    let known := entries.filter fun (key, _) => names.contains key
    guard (known.map Prod.fst).Nodup
    return known
  | .scalar _ .plain [] => return []
  | _ => failure

def fieldOr {α : Type} (default : α) (name : String) (read : Node → Reading α)
    (fields : List (String × Node)) : Reading α :=
  match fields.lookup name with
  | none => return default
  | some value => read value

def field {α : Type} (name : String) (read : Node → Reading α) (fields : List (String × Node)) :
    Reading α :=
  match fields.lookup name with
  | none => failure
  | some value => read value

def listOf {α : Type} (read : Node → Reading α) (n : Node) : Reading (List α) := do
  (← items n).mapM read

end Reading

end LayoutSpec.Yaml
