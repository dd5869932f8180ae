import LayoutSpec.Proofs.Document.Expansion
import LayoutSpec.Proofs.Document.Splice

/-!
The shape of a text. A line can open a section, start object definitions, be a keyword of a block,
open groups or bring in the sections of a file; what it says beyond that is left out. The written
sections, with their items and blocks, are the trees of which such shapes are the leaves.
-/

namespace LayoutSpec

open Text

/-- The group without its constraints. -/
def Group.outline (g : Group) : Group where
  pattern := g.pattern

def Section.outline (sec : Section) : Section :=
  sec.mapGroups Group.outline

/-- What a line is for the shape of a text. -/
inductive Mark where
  /-- A section with these tags begins. -/
  | section (tags : List String)
  /-- Object definitions begin. -/
  | objects
  | keyword (keyword : BlockKeyword)
  /-- These groups are opened. -/
  | groups (groups : List Group)
  /-- A file with these sections is imported. -/
  | imported (sections : List Section)
deriving DecidableEq, Repr

namespace ReadState

/-- The mark of a line, if it has one. `inside` says whether it stands between object markers, and
`values` are those of the parameter line that waits for a group. -/
def lineMark (context : ReadContext) (inside : Bool) (values : List String) (raw : List Char) :
    Option Mark :=
  match LineKind.of raw, inside with
  | .directive text, _ => do
    let rel ← (LineKind.directive text).importPath?
    let d ← (context.importSpec (.from? context.base rel)).toOption
    return .imported (d.sections.map Section.outline)
  | .marker, false => some .objects
  | .marker, true => some (.section [])
  | .tags text, false => some (.section ((items ',' text).map String.ofList))
  | .keyword keyword, false => some (.keyword keyword)
  | .name, false =>
    some (.groups (openedGroups (String.ofList (groupPattern (trim raw))) values))
  | _, _ => none

def marks (context : ReadContext) : Bool → List String → List (List Char) → List Mark
  | _, _, [] => []
  | inside, values, raw :: rest =>
    (lineMark context inside values raw).toList
      ++ marks context (insideAfter inside raw) (waitingValues inside values [raw]) rest

end ReadState

/-- The marks of a text. The section that is there before the first line is one of them. -/
def ReadContext.marks (context : ReadContext) (lines : List (List Char)) : List Mark :=
  .section [] :: ReadState.marks context false [] lines

/-- A line that opens groups, or an import. -/
inductive WrittenEntry where
  | groups (groups : List Group)
  | imported (sections : List Section)

structure WrittenCondition where
  inverted : Bool
  entries : List WrittenEntry

structure WrittenBlock where
  conditions : List WrittenCondition
  conditional : conditions ≠ []
  body : List WrittenEntry
  otherwise : Option (List WrittenEntry)

inductive WrittenItem where
  | entry (entry : WrittenEntry)
  | objects
  | block (block : WrittenBlock)

/-- A section line and what stands below it up to the next one. -/
structure WrittenSection where
  tags : List String
  items : List WrittenItem

namespace WrittenEntry

def mark : WrittenEntry → Mark
  | groups gs => .groups gs
  | imported sections => .imported sections

def opened : WrittenEntry → List Group
  | groups gs => gs
  | imported _ => []

def foreign : WrittenEntry → List Section
  | groups _ => []
  | imported sections => sections

end WrittenEntry

namespace WrittenCondition

def marks (chained : Bool) (c : WrittenCondition) : List Mark :=
  .keyword (.statement chained c.inverted) :: c.entries.map WrittenEntry.mark

/-- The first condition opens the block, and the others are added to it. -/
def marksOfAll : List WrittenCondition → List Mark
  | [] => []
  | first :: more => first.marks false ++ more.flatMap (marks true)

def statement (c : WrittenCondition) : Statement where
  inverted := c.inverted
  groups := c.entries.flatMap WrittenEntry.opened

def foreign (c : WrittenCondition) : List Section :=
  c.entries.flatMap WrittenEntry.foreign

theorem marksOfAll_concat (cs : List WrittenCondition) (c : WrittenCondition) :
    marksOfAll (cs ++ [c]) = marksOfAll cs ++ c.marks (!cs.isEmpty) := by
  cases cs with
  | nil => simp [marksOfAll]
  | cons first more => simp [marksOfAll]

end WrittenCondition

namespace WrittenBlock

def marks (b : WrittenBlock) : List Mark :=
  WrittenCondition.marksOfAll b.conditions ++ .keyword .body :: b.body.map WrittenEntry.mark
    ++ (b.otherwise.map fun entries => .keyword .otherwise :: entries.map WrittenEntry.mark).getD []
    ++ [.keyword .close]

def block (b : WrittenBlock) : ConditionalBlock where
  statements := b.conditions.map WrittenCondition.statement
  body := b.body.flatMap WrittenEntry.opened
  otherwise := b.otherwise.map (·.flatMap WrittenEntry.opened)

def foreign (b : WrittenBlock) : List Section :=
  b.conditions.flatMap WrittenCondition.foreign ++ b.body.flatMap WrittenEntry.foreign
    ++ (b.otherwise.getD []).flatMap WrittenEntry.foreign

end WrittenBlock

namespace WrittenItem

def marks : WrittenItem → List Mark
  | entry e => [e.mark]
  | objects => [.objects]
  | block b => b.marks

def opened : WrittenItem → List Group
  | entry e => e.opened
  | objects | block _ => []

def block? : WrittenItem → Option ConditionalBlock
  | block b => some b.block
  | entry _ | objects => none

def foreign : WrittenItem → List Section
  | entry e => e.foreign
  | objects => []
  | block b => b.foreign

end WrittenItem

namespace WrittenSection

def marks (sec : WrittenSection) : List Mark :=
  .section sec.tags :: sec.items.flatMap WrittenItem.marks

def own (sec : WrittenSection) : Section where
  tags := sec.tags
  groups := sec.items.flatMap WrittenItem.opened
  blocks := sec.items.filterMap WrittenItem.block?

/-- The section, with the imported ones behind it. -/
def sections (sec : WrittenSection) : List Section :=
  sec.own :: sec.items.flatMap WrittenItem.foreign

end WrittenSection

end LayoutSpec
