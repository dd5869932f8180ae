import LayoutSpec.Constraint.Basic
import LayoutSpec.ObjectTable

/-!
A spec as it was read: the objects of a page and, by sections, what is asserted about them.
-/

namespace LayoutSpec

/-- Constraints on the objects that a pattern names: one name, a list of names between commas, or a
name with stars. -/
structure Group where
  pattern : String
  constraints : List Constraint := []
deriving DecidableEq, Repr, Inhabited

/-- One condition of a conditional block. It holds if its groups have no failure, or if they have
one when it is inverted. -/
structure Statement where
  inverted : Bool := false
  groups : List Group := []
deriving DecidableEq, Repr, Inhabited

/-- Groups that depend on conditions: `body` is checked if one of the statements holds, and
`otherwise` if none does. -/
structure ConditionalBlock where
  statements : List Statement := []
  body : List Group := []
  otherwise : Option (List Group) := none
deriving DecidableEq, Repr, Inhabited

/-- Groups and blocks under common tags. Without tags it always takes part. -/
structure Section where
  tags : List String := []
  groups : List Group := []
  blocks : List ConditionalBlock := []
deriving DecidableEq, Repr, Inhabited

namespace Group

def mapConstraints (f : Constraint → Constraint) (g : Group) : Group :=
  { g with constraints := g.constraints.map f }

end Group

namespace ConditionalBlock

def mapGroups (f : Group → Group) (b : ConditionalBlock) : ConditionalBlock where
  statements := b.statements.map fun s => { s with groups := s.groups.map f }
  body := b.body.map f
  otherwise := b.otherwise.map (·.map f)

end ConditionalBlock

namespace Section

def mapGroups (f : Group → Group) (s : Section) : Section :=
  { s with groups := s.groups.map f, blocks := s.blocks.map (·.mapGroups f) }

end Section

/-- Nothing is asserted in the section. -/
def Section.isEmpty (s : Section) : Bool :=
  s.groups.isEmpty && s.blocks.isEmpty

/-- The objects of a page and the sections of its spec. -/
structure Document where
  objects : ObjectTable := .empty
  sections : List Section := []
deriving DecidableEq, Repr, Inhabited

namespace Document

/-- Takes over the objects and the sections of another document. Its sections stand behind, and a
name that both declare keeps its place and gets the other locator. -/
def merge (d other : Document) : Document :=
  ⟨d.objects.merge other.objects, d.sections ++ other.sections⟩

/-- Drops the sections in which nothing is asserted: those without groups and without blocks. -/
def prune (d : Document) : Document :=
  { d with sections := d.sections.filter (!·.isEmpty) }

def groupCount (d : Document) : Nat :=
  (d.sections.flatMap Section.groups).length

def mapPaths (f : Path → Path) (d : Document) : Document :=
  { d with sections := d.sections.map (·.mapGroups (·.mapConstraints (·.mapPaths f))) }

/-- Two documents say the same if they differ at most in how the paths of specs are written. -/
def SameAs (a b : Document) : Prop :=
  a.mapPaths Path.tidy = b.mapPaths Path.tidy

instance (a b : Document) : Decidable (a.SameAs b) :=
  inferInstanceAs (Decidable (_ = _))

end Document

end LayoutSpec
