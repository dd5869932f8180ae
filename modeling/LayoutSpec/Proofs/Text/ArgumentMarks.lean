import LayoutSpec.Proofs.Text.Arguments

/-!
What becomes of the blanks and quotes of a command line. Between two arguments a blank is lost, and
at least two quotes are lost if there are any. So a line cannot keep all of its blanks and quotes in
its arguments, and without quotes it keeps none.
-/

namespace LayoutSpec.Text

def isQuote (c : Char) : Bool :=
  c = '"' || c = '\''

/-- A character that an argument holds only if quotes stand around it. -/
def isMark (c : Char) : Bool :=
  isBlank c || isQuote c

/-- How many blanks and quotes a text holds. -/
def marks (cs : List Char) : Nat :=
  cs.countP isMark

theorem marks_nil : marks [] = 0 := rfl

theorem marks_append (x y : List Char) : marks (x ++ y) = marks x + marks y :=
  List.countP_append

theorem marks_cons (c : Char) (cs : List Char) : marks (c :: cs) = marks [c] + marks cs :=
  marks_append [c] cs

theorem marks_singleton (c : Char) : marks [c] = if isMark c then 1 else 0 := by
  simp [marks, List.countP_cons]

theorem marks_reverse (cs : List Char) : marks cs.reverse = marks cs :=
  List.countP_reverse

theorem marks_le_of_sublist {x y : List Char} (h : x.Sublist y) : marks x ≤ marks y :=
  h.countP_le

theorem marks_eq_zero_iff {cs : List Char} : marks cs = 0 ↔ ∀ c ∈ cs, isMark c = false := by
  simp [marks, List.countP_eq_zero]

theorem marks_flatten_eq_zero_iff {parts : List (List Char)} :
    marks parts.flatten = 0 ↔ ∀ part ∈ parts, marks part = 0 := by
  simp only [marks_eq_zero_iff, List.mem_flatten]
  grind

/-- An argument can be written without quotes if it is not empty and holds no mark. -/
theorem isPlainArgument_iff {cs : List Char} :
    isPlainArgument cs = true ↔ cs ≠ [] ∧ marks cs = 0 := by
  rw [marks_eq_zero_iff, isPlainArgument, Bool.and_eq_true, List.all_eq_true]
  simp [isMark, isQuote, Bool.or_assoc]

theorem isQuote_of_isBlank {c : Char} (h : isBlank c = true) : isQuote c = false := by
  rw [isQuote, Bool.or_eq_false_iff, decide_eq_false_iff_not, decide_eq_false_iff_not]
  constructor <;> rintro rfl <;> exact absurd h (by decide)

variable {mode : ArgumentMode} {current cs : List Char} {args : List (List Char)}

/-- What is lost at least from here on, besides a blank between any two arguments. An open quote
still needs the one that closes it. -/
def dues (mode : ArgumentMode) (cs : List Char) : Nat :=
  match mode with
  | .between | .plain => if cs.any isQuote then 2 else 0
  | .double | .escaped | .single => 1

/-- The marks of a line pay for those of its arguments, for the places between the arguments and for
the quotes that open and close. -/
theorem cost_argumentsFrom (h : argumentsFrom mode current cs = some args) :
    args.length + marks args.flatten + dues mode cs ≤ marks current + marks cs + 1 := by
  induction cs generalizing mode current args with
  | nil =>
      cases mode with
      | between =>
          obtain rfl := Option.some.inj h
          simp [dues, marks_nil]
      | plain =>
          obtain rfl := Option.some.inj h
          simp [dues, marks_nil, marks_reverse, Nat.add_comm]
      | double | escaped | single => cases h
  | cons c cs ih =>
      cases mode with
      | between =>
          simp only [argumentsFrom, reduceCtorEq, if_false] at h
          split_ifs at h
          all_goals
            have hlater := ih h
            grind [dues, marks_cons, marks_singleton, isMark, isQuote, isQuote_of_isBlank]
      | plain =>
          simp only [argumentsFrom, if_true] at h
          split_ifs at h
          · obtain ⟨others, hothers, rfl⟩ := Option.map_eq_some_iff.mp h
            have hlater := ih hothers
            rw [List.length_cons, List.flatten_cons, marks_append, marks_reverse]
            grind [dues, marks_cons, marks_singleton, isMark, isQuote, isQuote_of_isBlank]
          all_goals
            have hlater := ih h
            grind [dues, marks_cons, marks_singleton, isMark, isQuote]
      | double | single =>
          simp only [argumentsFrom] at h
          split_ifs at h
          all_goals
            have hlater := ih h
            grind [dues, marks_cons, marks_singleton, isMark, isQuote]
      | escaped =>
          have hslash : marks ['\\'] = 0 := by decide
          simp only [argumentsFrom] at h
          split_ifs at h
          all_goals
            have hlater := ih h
            grind [dues, marks_cons]

/-- Without quotes no argument holds a mark. A blank that is not between quotes ends an argument and
belongs to none. -/
theorem marks_argumentsFrom_of_no_quote (hmode : mode = .between ∨ mode = .plain)
    (hcurrent : marks current = 0) (hquote : cs.any isQuote = false)
    (h : argumentsFrom mode current cs = some args) : marks args.flatten = 0 := by
  induction cs generalizing mode current args with
  | nil =>
      rcases hmode with rfl | rfl
      · obtain rfl := Option.some.inj h
        rfl
      · obtain rfl := Option.some.inj h
        simpa [marks_reverse] using hcurrent
  | cons c cs ih =>
      obtain ⟨hc, hcs⟩ : isQuote c = false ∧ cs.any isQuote = false := by simpa using hquote
      have hnone : ¬ c = '"' ∧ ¬ c = '\'' := by simpa [isQuote] using hc
      have hmark : isBlank c = false → marks [c] = 0 := by
        intro hblank
        rw [marks_singleton, isMark, hblank, hc]
        rfl
      rcases hmode with rfl | rfl
      · simp only [argumentsFrom, reduceCtorEq, if_false, hnone] at h
        split_ifs at h with hblank
        · exact ih (.inl rfl) marks_nil hcs h
        · have hgrown : marks (c :: current) = 0 := by
            rw [marks_cons, hcurrent, hmark (by simpa using hblank)]
          exact ih (.inr rfl) hgrown hcs h
      · simp only [argumentsFrom, if_true, if_false, hnone] at h
        split_ifs at h with hblank
        · obtain ⟨others, hothers, rfl⟩ := Option.map_eq_some_iff.mp h
          rw [List.flatten_cons, marks_append, marks_reverse, hcurrent,
            ih (.inl rfl) marks_nil hcs hothers]
        · have hgrown : marks (c :: current) = 0 := by
            rw [marks_cons, hcurrent, hmark (by simpa using hblank)]
          exact ih (.inr rfl) hgrown hcs h

/-- A line with no more marks than its arguments and the places between them need has no quotes, and
then none of its arguments holds a mark. -/
theorem marks_arguments?_eq_zero (h : arguments? cs = some args)
    (hfew : marks cs ≤ args.length + marks args.flatten) : marks args.flatten = 0 := by
  have hcost := cost_argumentsFrom h
  refine marks_argumentsFrom_of_no_quote (.inl rfl) marks_nil ?_ h
  by_contra hquote
  have hdues : dues .between cs = 2 := if_pos (by simpa using hquote)
  rw [hdues, marks_nil] at hcost
  omega

theorem flatten_sublist_intercalate (glue : List Char) (parts : List (List Char)) :
    parts.flatten.Sublist (glue.intercalate parts) := by
  induction parts with
  | nil => exact List.Sublist.refl _
  | cons part parts ih =>
      cases parts with
      | nil => simp
      | cons other rest =>
          rw [List.flatten_cons, List.intercalate_cons_cons]
          exact ((List.sublist_append_left part glue).append ih)

theorem trim_sublist (cs : List Char) : (trim cs).Sublist cs := by
  obtain ⟨before, after, -, -, hcs⟩ := exists_trim cs
  calc (trim cs).Sublist (before ++ trim cs) := List.sublist_append_right ..
    _ |>.Sublist (before ++ trim cs ++ after) := List.sublist_append_left ..
    _ = cs := hcs.symm

/-- The items of a list hold nothing that the list does not hold. -/
theorem flatten_items_sublist (sep : Char) (cs : List Char) :
    (items sep cs).flatten.Sublist cs := by
  have htrim : ∀ pieces : List (List Char), (pieces.map trim).flatten.Sublist pieces.flatten := by
    intro pieces
    induction pieces with
    | nil => exact List.Sublist.refl _
    | cons piece pieces ih => exact (trim_sublist piece).append ih
  have hitems : (items sep cs).flatten = ((cs.splitOn sep).map trim).flatten :=
    List.flatten_filter_not_isEmpty
  have hpieces : (cs.splitOn sep).flatten.Sublist cs := by
    have hall := flatten_sublist_intercalate [sep] (cs.splitOn sep)
    rwa [List.intercalate_splitOn] at hall
  rw [hitems]
  exact (htrim _).trans hpieces

/-- Commas between tags add no marks. -/
theorem marks_intercalate (parts : List (List Char)) :
    marks ([','].intercalate parts) = marks parts.flatten := by
  have hcomma : marks [','] = 0 := by decide
  induction parts with
  | nil => rfl
  | cons part parts ih =>
      cases parts with
      | nil => simp
      | cons other rest =>
          rw [List.intercalate_cons_cons, marks_append, marks_append, hcomma, ih, Nat.add_zero,
            ← marks_append, ← List.flatten_cons]

end LayoutSpec.Text
