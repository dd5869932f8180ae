/-!
Which sections of a spec take part in a pass, by their tags.
-/

namespace LayoutSpec

/-- Sections need one of the `included` tags, unless there are none, and must not have one of the
`excluded` tags. -/
structure TagFilter where
  included : List String := []
  excluded : List String := []
deriving DecidableEq, Repr, Inhabited

namespace TagFilter

def all : TagFilter := {}

/-- Whether a section with these tags takes part. -/
def accepts (f : TagFilter) (tags : List String) : Bool :=
  (f.included.isEmpty || tags.any f.included.contains) && !tags.any f.excluded.contains

end TagFilter

end LayoutSpec
