import Mathlib.Data.Option.Basic
import LayoutSpec.Validation.Check
import LayoutSpec.Proofs.Regex.Group
import LayoutSpec.Proofs.Regex.Language

/-!
Patterns that have to match a whole text. A pattern is put into a group between the ends of the
text. What it stands for does not change there, unless a comment at its end takes in the end of the
group: then the whole is no pattern. The group takes two levels of nesting. The ends take some
space, but a pattern that is not tied to the start of a text has a loop in its automaton that takes
more.
-/

namespace LayoutSpec.Regex

open PatternReader

/-- What the reader makes of a pattern before anything is said about its end and its size. -/
def read? (pattern : List Char) : Option (Piece × ReadState) :=
  (branches (3 * pattern.length + 3)).run { rest := pattern }

/-- How deeply the parts of a pattern are nested. -/
def nesting (pattern : List Char) : Nat :=
  ((read? pattern).map (·.1.depth)).getD 0

/-- A pattern ends in a comment if what is put behind it belongs to it. -/
def EndsInComment (pattern : List Char) : Prop :=
  compiles (pattern ++ closing) = true

instance (pattern : List Char) : Decidable (EndsInComment pattern) :=
  inferInstanceAs (Decidable (_ = _))

def whole (r : Regex) : Regex :=
  .seq (.look .textStart) (.seq r (.look .textEnd))

/-- Whether the expression of a pattern may be put between the ends of a text. -/
structure Wrappable (pattern : List Char) (r : Regex) : Prop where
  noComment : ¬ EndsInComment pattern
  nesting : nesting pattern + 2 ≤ maxDepth
  size : r.whole.size ≤ maxSize

instance (pattern : List Char) (r : Regex) : Decidable (Wrappable pattern r) :=
  decidable_of_iff (¬ EndsInComment pattern ∧ Regex.nesting pattern + 2 ≤ maxDepth ∧
      r.whole.size ≤ maxSize)
    ⟨fun ⟨h₁, h₂, h₃⟩ => ⟨h₁, h₂, h₃⟩, fun h => ⟨h.noComment, h.nesting, h.size⟩⟩

theorem size_whole (r : Regex) : r.whole.size = r.weight + 192 := by
  simp only [whole, size, weight, isAnchored, decide_true, Bool.true_or, if_true]
  omega

/-- Only patterns that start with the start of a text get larger by the ends. -/
theorem size_whole_le {r : Regex} (h : r.isAnchored = false) : r.whole.size ≤ r.size := by
  rw [size_whole, size, h, if_neg Bool.false_ne_true]
  omega

variable {pattern : List Char} {piece : Piece} {s : ReadState} {r : Regex}

/-- A pattern compiles if it is read to its end, is not nested too deeply, and is not too large. -/
theorem compile?_eq_some_iff :
    compile? pattern = some r ↔
      ∃ piece s, read? pattern = some (piece, s) ∧ s.rest = [] ∧ piece.depth ≤ maxDepth ∧
        piece.regex.size ≤ maxSize ∧ piece.regex = r := by
  have hread : compile? pattern = (read? pattern).bind fun found =>
      (guard (found.2.rest.isEmpty && found.1.depth ≤ maxDepth
        && found.1.regex.size ≤ maxSize) : Option Unit).bind fun _ => some found.1.regex := rfl
  rw [hread, Option.bind_eq_some_iff]
  constructor
  · rintro ⟨⟨piece, s⟩, hfound, h⟩
    obtain ⟨_, hguard, hr⟩ := Option.bind_eq_some_iff.mp h
    have hlimits := (Option.guard_eq_some' _).mp hguard
    simp only [Bool.and_eq_true, List.isEmpty_iff, decide_eq_true_eq] at hlimits
    obtain ⟨⟨hrest, hdepth⟩, hsmall⟩ := hlimits
    exact ⟨piece, s, hfound, hrest, hdepth, hsmall, Option.some.inj hr⟩
  · rintro ⟨piece, s, hfound, hrest, hdepth, hsmall, rfl⟩
    refine ⟨(piece, s), hfound, ?_⟩
    simp [hrest, hdepth, hsmall]

theorem size_le_of_compile? (h : compile? pattern = some r) : r.size ≤ maxSize := by
  obtain ⟨piece, s, -, -, -, hsmall, rfl⟩ := compile?_eq_some_iff.mp h
  exact hsmall

theorem within_start : ({ rest := pattern } : ReadState).Within pattern := by
  constructor
  · exact List.suffix_rfl
  · intro hverbose
    cases hverbose

theorem repeats_of_read? (h : read? pattern = some (piece, s)) {m : Nat}
    (hm : 3 * pattern.length + 3 ≤ m) :
    Repeats pattern { rest := pattern } piece s ((branches m).run { rest := pattern })
      ((branches m).run { rest := pattern ++ closing }) :=
  (FollowedAt.branchesFollowed hm).branches _ within_start piece s h

/-- More fuel makes no difference. -/
theorem run_branches_of_read? (h : read? pattern = some (piece, s)) {m : Nat}
    (hm : 3 * pattern.length + 3 ≤ m) :
    (branches m).run { rest := pattern } = some (piece, s) :=
  (repeats_of_read? h hm).same

/-- With the end of a group behind it, a pattern is read as without, and the end is left. Otherwise
a comment has taken it in. -/
theorem read?_append_closing (h : read? pattern = some (piece, s)) :
    read? (pattern ++ closing) = some (piece, s.closed) ∨
      read? (pattern ++ closing) = some (piece, s) ∧ s.rest = [] ∧ 'x' ∈ pattern
      ∧ '#' ∈ pattern := by
  have hm : 3 * pattern.length + 3 ≤ 3 * (pattern ++ closing).length + 3 := by
    rw [List.length_append]
    omega
  exact (repeats_of_read? h hm).closed

theorem not_endsInComment (h : read? (pattern ++ closing) = some (piece, s.closed)) :
    ¬ EndsInComment pattern := by
  intro hcomment
  obtain ⟨r, hr⟩ := Option.isSome_iff_exists.mp hcomment
  obtain ⟨_, after, hagain, hrest, -⟩ := compile?_eq_some_iff.mp hr
  rw [h] at hagain
  obtain ⟨-, rfl⟩ := Prod.mk.inj (Option.some.inj hagain)
  simp [ReadState.closed, closing] at hrest

/-- Only verbose patterns have comments, and only a number sign starts one. -/
theorem mem_of_endsInComment (h : compile? pattern = some r) (hcomment : EndsInComment pattern) :
    'x' ∈ pattern ∧ '#' ∈ pattern := by
  obtain ⟨piece, s, hread, -⟩ := compile?_eq_some_iff.mp h
  rcases read?_append_closing hread with hclosed | ⟨-, -, hmem⟩
  · exact absurd hcomment (not_endsInComment hclosed)
  · exact hmem

def behindGroup (fuel : Nat) (inner : Piece) : PatternReader Piece := do
  guard ((← rest).head? = some ')')
  modify fun s => { s with flags := {} }
  bump
  branch fuel [some ⟨inner.regex, inner.depth + 1⟩, some ⟨.look .textStart, 0⟩]

theorem run_branch_group (fuel : Nat) (text : List Char) :
    (branch (fuel + 2) []).run { rest := '^' :: '(' :: '?' :: ':' :: text } =
      (branches fuel >>= behindGroup fuel).run { rest := text } := by
  rw [branch]
  rfl

theorem run_branch_textEnd (fuel : Nat) (items : List Item) (names : List (List Char)) :
    (branch (fuel + 2) items).run { rest := ['$'], names } =
      some (seqOf (some ⟨.look .textEnd, 0⟩ :: items), { rest := [], names }) := by
  rw [branch]
  rfl

/-- The pieces of a pattern between the ends of a text. -/
def wholePiece (piece : Piece) : Piece :=
  ⟨piece.regex.whole, piece.depth + 2⟩

theorem seqOf_whole (piece : Piece) :
    seqOf [some ⟨.look .textEnd, 0⟩, some ⟨piece.regex, piece.depth + 1⟩,
      some ⟨.look .textStart, 0⟩] = wholePiece piece := by
  have hdepth : 1 + max (max (max 0 0) (piece.depth + 1)) 0 = piece.depth + 2 := by omega
  unfold wholePiece
  rw [← hdepth]
  rfl

theorem wholePattern_eq (pattern : List Char) :
    Check.wholePattern pattern = '^' :: '(' :: '?' :: ':' :: (pattern ++ closing) := by
  simp [Check.wholePattern, closing]

theorem length_wholePattern (pattern : List Char) :
    3 * (Check.wholePattern pattern).length + 3 = 3 * pattern.length + 20 + 1 := by
  rw [wholePattern_eq]
  simp [closing]
  omega

/-- A pattern between the ends of a text is read in its group as it is in front of the end of one.
-/
theorem run_branch_wholePattern (h : read? (pattern ++ closing) = some (piece, s)) :
    (branch (3 * pattern.length + 20) []).run { rest := Check.wholePattern pattern } =
      (behindGroup (3 * pattern.length + 18) piece).run s := by
  have hfuel : 3 * (pattern ++ closing).length + 3 ≤ 3 * pattern.length + 18 := by
    simp [closing]
    omega
  rw [wholePattern_eq, run_branch_group, StateT.run_bind, run_branches_of_read? h hfuel]
  rfl

theorem run_behindGroup (fuel : Nat) (piece : Piece) (h : s.rest = []) :
    (behindGroup (fuel + 2) piece).run s.closed =
      some (wholePiece piece, { rest := [], names := s.names }) := by
  obtain ⟨rest, flags, names⟩ := s
  obtain rfl : rest = [] := h
  rw [← seqOf_whole]
  exact run_branch_textEnd fuel _ names

/-- Without its end there is no group. -/
theorem run_behindGroup_nil (fuel : Nat) (piece : Piece) (h : s.rest = []) :
    (behindGroup fuel piece).run s = none := by
  obtain ⟨rest, flags, names⟩ := s
  obtain rfl : rest = [] := h
  rfl

theorem read?_wholePattern (h : read? (pattern ++ closing) = some (piece, s.closed))
    (hrest : s.rest = []) :
    read? (Check.wholePattern pattern) =
      some (wholePiece piece, { rest := [], names := s.names }) := by
  unfold read?
  rw [length_wholePattern, branches, StateT.run_bind, run_branch_wholePattern h,
    run_behindGroup _ piece hrest]
  rfl

theorem read?_wholePattern_comment (h : read? (pattern ++ closing) = some (piece, s))
    (hrest : s.rest = []) : read? (Check.wholePattern pattern) = none := by
  unfold read?
  rw [length_wholePattern, branches, StateT.run_bind, run_branch_wholePattern h,
    run_behindGroup_nil _ piece hrest]
  rfl

theorem nesting_of_read? (h : read? pattern = some (piece, s)) : nesting pattern = piece.depth := by
  rw [nesting, h]
  rfl

/-- What comes of a pattern that has to match a whole text. If it may be wrapped, it is compiled to
itself between the ends of a text; otherwise the longer pattern does not compile at all, and nothing
else is possible. -/
theorem compile?_wholePattern (h : compile? pattern = some r) :
    compile? (Check.wholePattern pattern) = if Wrappable pattern r then some r.whole else none := by
  obtain ⟨piece, s, hread, hrest, hdepth, hsmall, rfl⟩ := compile?_eq_some_iff.mp h
  have hnesting := nesting_of_read? hread
  rcases read?_append_closing hread with hclosed | ⟨hcomment, -, -⟩
  · have hwhole := read?_wholePattern hclosed hrest
    split
    case isTrue hwrap =>
      have hless := hwrap.nesting
      rw [hnesting] at hless
      exact compile?_eq_some_iff.mpr ⟨_, _, hwhole, rfl, hless, hwrap.size, rfl⟩
    case isFalse hwrap =>
      apply Option.eq_none_iff_forall_ne_some.mpr
      intro found hfound
      apply hwrap
      obtain ⟨_, _, hagain, -, hless, hsize, -⟩ := compile?_eq_some_iff.mp hfound
      rw [hwhole] at hagain
      obtain ⟨rfl, -⟩ := Prod.mk.inj (Option.some.inj hagain)
      constructor
      · exact not_endsInComment hclosed
      · rw [hnesting]
        exact hless
      · exact hsize
  · have hends : EndsInComment pattern :=
      Option.isSome_iff_exists.mpr
        ⟨_, compile?_eq_some_iff.mpr ⟨piece, s, hcomment, hrest, hdepth, hsmall, rfl⟩⟩
    rw [if_neg fun hwrap => hwrap.noComment hends]
    apply Option.eq_none_iff_forall_ne_some.mpr
    intro found hfound
    obtain ⟨_, _, hagain, -⟩ := compile?_eq_some_iff.mp hfound
    rw [read?_wholePattern_comment hcomment hrest] at hagain
    cases hagain

end LayoutSpec.Regex
