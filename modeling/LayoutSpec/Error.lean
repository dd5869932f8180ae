import LayoutSpec.FileTree
import LayoutSpec.Json.Reader
import LayoutSpec.SyntaxError

/-!
What can stop a reading or a run. A layout that breaks its spec is no error in this sense.
-/

namespace LayoutSpec

/-- Why a reading or a run was given up. -/
inductive Error where
  | malformed (error : SyntaxError)
  | specNotFound (path : Path)
  | browser (message : String)
  | invalidConfig (message : String)
  | file (fault : FileFault)
  | json (error : JsonError)
  /-- A catalog or a configuration is no YAML, or holds other values than it should. -/
  | yaml
deriving DecidableEq, Repr

def Error.display : Error → String
  | .malformed error => error.display
  | .specNotFound path => "Spec file not found: " ++ path.text
  | .browser message => "Browser error: " ++ message
  | .invalidConfig message => "Invalid configuration: " ++ message
  | .file fault => "I/O error: " ++ fault.message
  | .json error => "JSON error: " ++ error.message
  | .yaml => "YAML error"

end LayoutSpec
