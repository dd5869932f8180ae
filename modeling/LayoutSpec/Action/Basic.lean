import LayoutSpec.Path
import LayoutSpec.Size
import LayoutSpec.TagFilter

/-!
The steps of a page test.
-/

namespace LayoutSpec

/-- One step: something that the browser does, or a check of the page against specs. -/
inductive Action where
  /-- Go to a page. -/
  | openPage (url : String)
  | resize (size : Size)
  | setCookies (cookies : List String)
  /-- Add the script of a file to the page. -/
  | inject (script : Path)
  /-- Run the script of a file, with arguments as JSON text or without. -/
  | run (script : Path) (arguments : Option String)
  /-- Check the page against the sections of some specs. -/
  | check (specs : List Path) (filter : TagFilter)
deriving DecidableEq, Repr

def Action.specs : Action → List Path
  | .check specs _ => specs
  | _ => []

def Action.mapPaths (f : Path → Path) : Action → Action
  | .inject script => .inject (f script)
  | .run script arguments => .run (f script) arguments
  | .check specs filter => .check (specs.map f) filter
  | a => a

/-- Two actions do the same if they differ at most in how the paths of files are written. Paths are
compared by the pieces that lead somewhere, not by the files that they lead to. -/
def Action.SameAs (a b : Action) : Prop :=
  a.mapPaths Path.tidy = b.mapPaths Path.tidy

instance (a b : Action) : Decidable (a.SameAs b) :=
  inferInstanceAs (Decidable (_ = _))

end LayoutSpec
