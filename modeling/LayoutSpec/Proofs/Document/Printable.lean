import LayoutSpec.Document.Printer
import LayoutSpec.Document.Reader
import LayoutSpec.Proofs.Constraint.Written

/-!
Documents whose text says what they are. `Document.Sound` is what reading guarantees of every
document; a printable document has in addition group names that a line gives back, and something
asserted in every section.
-/

namespace LayoutSpec

open Text

/-- A text with a line of its own. -/
def IsLineText (s : String) : Prop :=
  trim s.toList = s.toList ∧ s.toList ≠ [] ∧ '\n' ∉ s.toList

/-- A name that stands before its locator. It is neither a comment, an instruction to the reader,
nor a keyword. -/
structure IsObjectName (name : String) : Prop where
  word : IsWord name
  noComment : name.toList.head? ≠ some '#'
  noDirective : ¬ "@@".toList <+: name.toList
  notKeyword : BlockKeyword.isReserved name.toList = false

structure Locator.Printable (l : Locator) : Prop where
  word : IsWord l.strategy.word
  strategy : Strategy.ofWord l.strategy.word = l.strategy
  value : IsLineText l.value
  index : l.index = none

/-- A tag between commas. -/
def IsTag (tag : String) : Prop :=
  IsLineText tag ∧ ',' ∉ tag.toList

/-- The pattern of a group, as reading a line and a parameter gives it. -/
structure IsPattern (name : String) : Prop where
  text : IsLineText name
  start : ∀ c ∈ name.toList.head?, c ≠ '@' ∧ c ≠ '#' ∧ c ≠ '['

/-- A line with nothing but this pattern opens a group of this pattern. -/
structure Reopens (name : String) : Prop where
  noColon : name.toList.getLast? ≠ some ':'
  notMarker : LineKind.isMarker name.toList = false
  notSeparator : LineKind.isSeparator name.toList = false
  notKeyword : BlockKeyword.isReserved name.toList = false

/-- A pattern that its own line gives back. -/
def IsGroupName (name : String) : Prop :=
  IsPattern name ∧ Reopens name

/-- A constraint that a line can state. -/
def Constraint.Printable (c : Constraint) : Prop :=
  (∃ text, Constraint.parse none text = .ok c) ∧ c.OnOneLine

def ConditionalBlock.groups (b : ConditionalBlock) : List Group :=
  b.statements.flatMap Statement.groups ++ b.body ++ b.otherwise.getD []

/-- The groups of a section, those in its blocks included. -/
def Section.allGroups (s : Section) : List Group :=
  s.groups ++ s.blocks.flatMap ConditionalBlock.groups

/-- A group whose pattern is of some sort and whose constraints have lines. -/
structure Group.Sound (named : String → Prop) (g : Group) : Prop where
  pattern : named g.pattern
  constraints : ∀ c ∈ g.constraints, c.Printable

/-- A block with a condition at least. -/
structure ConditionalBlock.Sound (named : String → Prop) (b : ConditionalBlock) : Prop where
  statements : b.statements ≠ []
  groups : ∀ g ∈ b.groups, g.Sound named

/-- The groups of a block, place by place. -/
theorem ConditionalBlock.sound_iff {named : String → Prop} {b : ConditionalBlock} :
    b.Sound named ↔ b.statements ≠ [] ∧
      (∀ condition ∈ b.statements, ∀ g ∈ condition.groups, g.Sound named) ∧
      (∀ g ∈ b.body, g.Sound named) ∧ ∀ groups ∈ b.otherwise, ∀ g ∈ groups, g.Sound named := by
  constructor
  · rintro ⟨hne, hgroups⟩
    refine ⟨hne, ?_, ?_, ?_⟩
    · intro condition hcondition g hg
      have hmem : g ∈ b.statements.flatMap Statement.groups :=
        List.mem_flatMap.mpr ⟨condition, hcondition, hg⟩
      exact hgroups g (List.mem_append_left _ (List.mem_append_left _ hmem))
    · intro g hg
      exact hgroups g (List.mem_append_left _ (List.mem_append_right _ hg))
    · intro groups hother g hg
      refine hgroups g (List.mem_append_right _ ?_)
      rwa [Option.mem_def.mp hother]
  · rintro ⟨hne, hconditions, hbody, hother⟩
    refine ⟨hne, fun g hg => ?_⟩
    rw [ConditionalBlock.groups, List.mem_append, List.mem_append, List.mem_flatMap] at hg
    rcases hg with (⟨condition, hcondition, hg⟩ | hg) | hg
    · exact hconditions condition hcondition g hg
    · exact hbody g hg
    · cases hcase : b.otherwise with
      | none => simp [hcase] at hg
      | some groups =>
          rw [hcase] at hg
          exact hother groups hcase g hg

structure Section.Sound (named : String → Prop) (s : Section) : Prop where
  tags : ∀ tag ∈ s.tags, IsTag tag
  groups : ∀ g ∈ s.groups, g.Sound named
  blocks : ∀ b ∈ s.blocks, b.Sound named

/-- Each object has a line that declares it. -/
def ObjectTable.Sound (t : ObjectTable) : Prop :=
  ∀ entry ∈ t.entries, IsObjectName entry.1 ∧ entry.2.Printable

namespace Document

def allGroups (d : Document) : List Group :=
  d.sections.flatMap Section.allGroups

/-- A document whose parts have lines. The patterns of its groups are of the sort `named`. -/
structure Sound (named : String → Prop) (d : Document) : Prop where
  objects : d.objects.Sound
  sections : ∀ s ∈ d.sections, s.Sound named

/-- A document whose text says what it is. -/
structure Printable (d : Document) : Prop where
  sound : d.Sound IsGroupName
  asserted : ∀ s ∈ d.sections, s.isEmpty = false

end Document

variable {named : String → Prop} [DecidablePred named]

instance (s : String) : Decidable (IsLineText s) :=
  inferInstanceAs (Decidable (_ ∧ _ ∧ _))

instance (name : String) : Decidable (IsObjectName name) :=
  decidable_of_iff (IsWord name ∧ name.toList.head? ≠ some '#' ∧ ¬ "@@".toList <+: name.toList ∧
      BlockKeyword.isReserved name.toList = false)
    ⟨fun ⟨hword, hcomment, hdirective, hkeyword⟩ => ⟨hword, hcomment, hdirective, hkeyword⟩,
      fun ⟨hword, hcomment, hdirective, hkeyword⟩ => ⟨hword, hcomment, hdirective, hkeyword⟩⟩

instance (l : Locator) : Decidable l.Printable :=
  decidable_of_iff (IsWord l.strategy.word ∧ Strategy.ofWord l.strategy.word = l.strategy ∧
      IsLineText l.value ∧ l.index = none)
    ⟨fun ⟨hword, hstrategy, hvalue, hindex⟩ => ⟨hword, hstrategy, hvalue, hindex⟩,
      fun ⟨hword, hstrategy, hvalue, hindex⟩ => ⟨hword, hstrategy, hvalue, hindex⟩⟩

instance (tag : String) : Decidable (IsTag tag) :=
  inferInstanceAs (Decidable (_ ∧ _))

instance (name : String) : Decidable (IsPattern name) :=
  decidable_of_iff
    (IsLineText name ∧ name.toList.head?.all fun c => c ≠ '@' ∧ c ≠ '#' ∧ c ≠ '[')
    ⟨fun ⟨htext, hstart⟩ => ⟨htext, by simpa [Option.all_eq_true] using hstart⟩,
      fun ⟨htext, hstart⟩ => ⟨htext, by simpa [Option.all_eq_true] using hstart⟩⟩

instance (name : String) : Decidable (Reopens name) :=
  decidable_of_iff
    (name.toList.getLast? ≠ some ':' ∧ LineKind.isMarker name.toList = false ∧
      LineKind.isSeparator name.toList = false ∧ BlockKeyword.isReserved name.toList = false)
    ⟨fun ⟨hcolon, hmarker, hseparator, hkeyword⟩ => ⟨hcolon, hmarker, hseparator, hkeyword⟩,
      fun ⟨hcolon, hmarker, hseparator, hkeyword⟩ => ⟨hcolon, hmarker, hseparator, hkeyword⟩⟩

instance (name : String) : Decidable (IsGroupName name) :=
  inferInstanceAs (Decidable (_ ∧ _))

instance (c : Constraint) : Decidable c.Printable :=
  decidable_of_iff (c.WellFormed ∧ c.OnOneLine) (and_congr_left' Constraint.exists_parse_iff.symm)

instance (g : Group) : Decidable (g.Sound named) :=
  decidable_of_iff (named g.pattern ∧ g.constraints.all (decide ·.Printable) = true)
    ⟨fun ⟨hpattern, hconstraints⟩ => ⟨hpattern, by simpa using hconstraints⟩,
      fun ⟨hpattern, hconstraints⟩ => ⟨hpattern, by simpa using hconstraints⟩⟩

instance (b : ConditionalBlock) : Decidable (b.Sound named) :=
  decidable_of_iff (b.statements ≠ [] ∧ b.groups.all (decide <| Group.Sound named ·) = true)
    ⟨fun ⟨hstatements, hgroups⟩ => ⟨hstatements, by simpa using hgroups⟩,
      fun ⟨hstatements, hgroups⟩ => ⟨hstatements, by simpa using hgroups⟩⟩

instance (s : Section) : Decidable (s.Sound named) :=
  decidable_of_iff (s.tags.all (decide <| IsTag ·) = true ∧
      s.groups.all (decide <| Group.Sound named ·) = true ∧
      s.blocks.all (decide <| ConditionalBlock.Sound named ·) = true)
    ⟨fun ⟨htags, hgroups, hblocks⟩ =>
        ⟨by simpa using htags, by simpa using hgroups, by simpa using hblocks⟩,
      fun ⟨htags, hgroups, hblocks⟩ =>
        ⟨by simpa using htags, by simpa using hgroups, by simpa using hblocks⟩⟩

instance (t : ObjectTable) : Decidable t.Sound :=
  inferInstanceAs (Decidable (∀ entry ∈ t.entries, _))

instance (d : Document) : Decidable (d.Sound named) :=
  decidable_of_iff (d.objects.Sound ∧ d.sections.all (decide <| Section.Sound named ·) = true)
    ⟨fun ⟨hobjects, hsections⟩ => ⟨hobjects, by simpa using hsections⟩,
      fun ⟨hobjects, hsections⟩ => ⟨hobjects, by simpa using hsections⟩⟩

instance (d : Document) : Decidable d.Printable :=
  decidable_of_iff (d.Sound IsGroupName ∧ d.sections.all (!·.isEmpty) = true)
    ⟨fun ⟨hsound, hasserted⟩ => ⟨hsound, by simpa using hasserted⟩,
      fun ⟨hsound, hasserted⟩ => ⟨hsound, by simpa using hasserted⟩⟩

end LayoutSpec
