import LayoutSpec.Action.Basic
import LayoutSpec.Json.Reader
import LayoutSpec.Text.Arguments

/-!
Reading actions from their command lines, such as `check home.spec --include desktop,all`.
-/

namespace LayoutSpec.Action

open Text

def tagsOf (value : String) : List String :=
  (items ',' value.toList).map String.ofList

/-- An option and the value behind its equality sign. Other arguments are left as they are, also
those in which an equality sign stands. -/
def splitOption (arg : String) : String × Option String :=
  match cutAt (· = '=') arg.toList with
  | some (option, value) =>
    if option.head? = some '-' then (String.ofList option, some (String.ofList value))
    else (arg, none)
  | none => (arg, none)

/-- Which tags an option gives: the included or the excluded ones. -/
def optionTarget? : String → Option Bool
  | "--include" | "-i" => some true
  | "--exclude" | "-e" => some false
  | _ => none

def addTags (included : Bool) (tags : List String) (filter : TagFilter) : TagFilter :=
  if included then { filter with included := tags ++ filter.included }
  else { filter with excluded := tags ++ filter.excluded }

/-- The specs and the tags of `check` from its arguments on. Options may stand before, between and
behind the specs; the value of an option is behind its equality sign or the next argument. -/
def readCheck (base : Option Path) (text : String) :
    List String → Except SyntaxCause (List Path × TagFilter)
  | [] => .ok ([], {})
  | arg :: rest =>
    let (option, inline) := splitOption arg
    match optionTarget? option with
    | none =>
      if option.toList.head? = some '-' then .error (.unknownOption option text)
      else do
        let (specs, filter) ← readCheck base text rest
        return (.from? base ⟨arg⟩ :: specs, filter)
    | some included =>
      match inline, rest with
      | some value, rest => do
        let (specs, filter) ← readCheck base text rest
        return (specs, addTags included (tagsOf value) filter)
      | none, value :: rest => do
        let (specs, filter) ← readCheck base text rest
        return (specs, addTags included (tagsOf value) filter)
      | none, [] => .error (.missingOptionValue option text)

/-- The action of a word and its arguments, of which the first is given apart. Further arguments are
dropped where an action has no use for them. -/
def ofWord (base : Option Path) (text word first : String) (rest : List String) :
    Except SyntaxCause Action :=
  match word with
  | "open" => .ok (.openPage first)
  | "resize" => (Size.parse first.toList).map .resize
  | "cookie" => .ok (.setCookies (first :: rest))
  | "inject" => .ok (.inject (.from? base ⟨first⟩))
  | "run" =>
    match rest.head? with
    | none => .ok (.run (.from? base ⟨first⟩) none)
    | some json =>
      match Json.parse json.toList with
      | .ok _ => .ok (.run (.from? base ⟨first⟩) (some json))
      | .error _ => .error (.invalidScriptArguments json)
  | "check" =>
    match readCheck base text (first :: rest) with
    | .error cause => .error cause
    | .ok ([], _) => .error (.missingSpecs text)
    | .ok (specs, filter) => .ok (.check specs filter)
  | word => .error (.unknownAction word)

/-- Reads an action: its first word tells which one, and the arguments behind it are cut at blanks
outside of quotes. Paths of files are seen from the folder `base`, if there is one. -/
def parse (base : Option Path) (text : String) : Except SyntaxCause Action :=
  match arguments? text.toList with
  | none => .error (.unterminatedArgument text)
  | some args =>
    match args.map String.ofList with
    | word :: first :: rest => ofWord base text word first rest
    | _ => .error (.unreadableAction text)

end LayoutSpec.Action
