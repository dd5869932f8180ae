import LayoutSpec.Action.Basic
import LayoutSpec.Text.Arguments

/-!
The command line of an action.
-/

namespace LayoutSpec.Action

open Text

def argumentChars (args : List String) : List Char :=
  args.flatMap fun arg => ' ' :: argument arg.toList

def tagOption (option : String) (tags : List String) : List Char :=
  if tags.isEmpty then []
  else option.toList ++ ' ' :: [','].intercalate (tags.map String.toList)

def chars : Action → List Char
  | .openPage url => "open".toList ++ argumentChars [url]
  | .resize size => "resize ".toList ++ size.chars
  | .setCookies cookies => "cookie".toList ++ argumentChars cookies
  | .inject script => "inject".toList ++ argumentChars [script.text]
  | .run script arguments => "run".toList ++ argumentChars (script.text :: arguments.toList)
  | .check specs filter =>
    "check".toList ++ argumentChars (specs.map Path.text)
      ++ tagOption " --include" filter.included ++ tagOption " --exclude" filter.excluded

def display (a : Action) : String :=
  String.ofList a.chars

end LayoutSpec.Action
