import LayoutSpec.Glob
import Mathlib.Data.List.Basic

/-!
What a pattern with stars stands for. Its stars cut it into pieces, and it stands for the texts that
have these pieces in their order with a run of admitted characters in the place of each star.
-/

namespace LayoutSpec.Wildcard

variable {w : Wildcard} {pattern text : List Char}

/-- A star may be this run of characters. -/
def Fills (w : Wildcard) (run : List Char) : Prop :=
  (∀ c ∈ run, w.admits c = true) ∧ (w.mayBeEmpty = false → run ≠ [])

/-- The text is made up of the pieces of the pattern and of a run for each star between them. -/
def StandsFor (w : Wildcard) (pattern text : List Char) : Prop :=
  ∃ first pieces runs, pattern.splitOn '*' = first :: pieces ∧ runs.length = pieces.length ∧
    (∀ run ∈ runs, w.Fills run) ∧ text = first ++ (List.zipWith (· ++ ·) runs pieces).flatten

theorem splitOn_star (pattern : List Char) :
    ('*' :: pattern).splitOn '*' = [] :: pattern.splitOn '*' := by
  rw [List.splitOn_eq_splitOnP, List.splitOnP_cons_eq_if_modifyHead, if_pos (by simp),
    ← List.splitOn_eq_splitOnP]

theorem splitOn_letter {p : Char} (hp : p ≠ '*') {first : List Char} {pieces : List (List Char)}
    (h : pattern.splitOn '*' = first :: pieces) :
    (p :: pattern).splitOn '*' = (p :: first) :: pieces := by
  rw [List.splitOn_eq_splitOnP, List.splitOnP_cons_eq_if_modifyHead, if_neg (by simpa using hp),
    ← List.splitOn_eq_splitOnP, h, List.modifyHead_cons]

theorem exists_splitOn (pattern : List Char) :
    ∃ first pieces, pattern.splitOn '*' = first :: pieces :=
  List.exists_cons_of_ne_nil (List.splitOn_ne_nil '*' pattern)

theorem standsFor_nil : w.StandsFor [] text ↔ text = [] := by
  constructor
  · rintro ⟨first, pieces, runs, hpieces, hlength, -, rfl⟩
    rw [List.splitOn_nil] at hpieces
    obtain ⟨rfl, rfl⟩ := List.cons.inj hpieces
    rw [List.length_eq_zero_iff.mp hlength]
    rfl
  · rintro rfl
    exact ⟨[], [], [], List.splitOn_nil '*', rfl, by simp, rfl⟩

/-- A star at the start of a pattern stands for a run at the start of the text. What the pattern
demands behind it is asked of the rest. -/
theorem standsFor_star : w.StandsFor ('*' :: pattern) text ↔
    ∃ run rest, w.Fills run ∧ w.StandsFor pattern rest ∧ text = run ++ rest := by
  constructor
  · rintro ⟨first, pieces, runs, hpieces, hlength, hruns, rfl⟩
    rw [splitOn_star] at hpieces
    obtain ⟨rfl, rfl⟩ := List.cons.inj hpieces
    obtain ⟨piece, pieces, hpattern⟩ := exists_splitOn pattern
    rw [hpattern] at hlength ⊢
    obtain ⟨run, runs, rfl⟩ := List.exists_cons_of_length_eq_add_one hlength
    obtain ⟨hrun, hothers⟩ := List.forall_mem_cons.mp hruns
    refine ⟨run, _, hrun, ⟨piece, pieces, runs, hpattern, Nat.succ.inj hlength, hothers, rfl⟩, ?_⟩
    rw [List.zipWith_cons_cons, List.flatten_cons, List.nil_append, List.append_assoc]
  · rintro ⟨run, rest, hrun, ⟨first, pieces, runs, hpieces, hlength, hruns, rfl⟩, rfl⟩
    refine ⟨[], first :: pieces, run :: runs, ?_, congrArg (· + 1) hlength, ?_, ?_⟩
    · rw [splitOn_star, hpieces]
    · exact List.forall_mem_cons.mpr ⟨hrun, hruns⟩
    · rw [List.zipWith_cons_cons, List.flatten_cons, List.nil_append, List.append_assoc]

/-- Any other character stands for itself. -/
theorem standsFor_letter {p : Char} (hp : p ≠ '*') : w.StandsFor (p :: pattern) text ↔
    ∃ rest, w.StandsFor pattern rest ∧ text = p :: rest := by
  obtain ⟨first, pieces, hpieces⟩ := exists_splitOn pattern
  constructor
  · rintro ⟨start, others, runs, hothers, hlength, hruns, rfl⟩
    rw [splitOn_letter hp hpieces] at hothers
    obtain ⟨rfl, rfl⟩ := List.cons.inj hothers
    exact ⟨_, ⟨first, pieces, runs, hpieces, hlength, hruns, rfl⟩, rfl⟩
  · rintro ⟨rest, ⟨start, others, runs, hothers, hlength, hruns, rfl⟩, rfl⟩
    exact ⟨p :: start, others, runs, splitOn_letter hp hothers, hlength, hruns, rfl⟩

/-- Behind a star the run may go on, or the rest of the pattern follows. The function tries one
character after another; the relation names the run at once. -/
theorem acceptsBehindStar_iff : w.acceptsBehindStar pattern text = true ↔
    ∃ run rest, (∀ c ∈ run, w.admits c = true) ∧ w.accepts pattern rest = true ∧
      text = run ++ rest := by
  induction text with
  | nil =>
      rw [acceptsBehindStar, Bool.or_false]
      constructor
      · intro h
        exact ⟨[], [], by simp, h, rfl⟩
      · rintro ⟨run, rest, -, hrest, htext⟩
        obtain ⟨rfl, rfl⟩ := List.append_eq_nil_iff.mp htext.symm
        exact hrest
  | cons c text ih =>
      rw [acceptsBehindStar, Bool.or_eq_true, Bool.and_eq_true, ih]
      constructor
      · rintro (h | ⟨hc, run, rest, hrun, hrest, rfl⟩)
        · exact ⟨[], c :: text, by simp, h, rfl⟩
        · exact ⟨c :: run, rest, List.forall_mem_cons.mpr ⟨hc, hrun⟩, hrest, rfl⟩
      · rintro ⟨run, rest, hrun, hrest, htext⟩
        cases run with
        | nil =>
            obtain rfl : c :: text = rest := htext
            exact .inl hrest
        | cons d run =>
            obtain ⟨rfl, rfl⟩ := List.cons.inj htext
            obtain ⟨hc, hrun⟩ := List.forall_mem_cons.mp hrun
            exact .inr ⟨hc, run, rest, hrun, hrest, rfl⟩

theorem accepts_star : w.accepts ('*' :: pattern) text = true ↔
    ∃ run rest, w.Fills run ∧ w.accepts pattern rest = true ∧ text = run ++ rest := by
  rw [accepts.eq_def]
  dsimp only
  rw [if_pos rfl]
  cases hempty : w.mayBeEmpty with
  | true =>
      rw [if_pos rfl, acceptsBehindStar_iff]
      simp only [Fills, hempty, Bool.true_eq_false, false_implies, and_true]
  | false =>
      rw [if_neg Bool.false_ne_true]
      cases text with
      | nil =>
          constructor
          · intro h
            cases h
          · rintro ⟨run, rest, hrun, -, htext⟩
            exact absurd (List.append_eq_nil_iff.mp htext.symm).1 (hrun.2 hempty)
      | cons c text =>
          -- The run has a first character, behind which it may go on.
          rw [Bool.and_eq_true, acceptsBehindStar_iff]
          constructor
          · rintro ⟨hc, run, rest, hrun, hrest, rfl⟩
            have hfills : w.Fills (c :: run) := ⟨List.forall_mem_cons.mpr ⟨hc, hrun⟩, by simp⟩
            exact ⟨c :: run, rest, hfills, hrest, rfl⟩
          · rintro ⟨run, rest, ⟨hrun, hne⟩, hrest, htext⟩
            obtain ⟨d, run, rfl⟩ := List.exists_cons_of_ne_nil (hne hempty)
            obtain ⟨rfl, rfl⟩ := List.cons.inj htext
            obtain ⟨hc, hrun⟩ := List.forall_mem_cons.mp hrun
            exact ⟨hc, run, rest, hrun, hrest, rfl⟩

theorem accepts_letter {p : Char} (hp : p ≠ '*') : w.accepts (p :: pattern) text = true ↔
    ∃ rest, w.accepts pattern rest = true ∧ text = p :: rest := by
  rw [accepts.eq_def]
  dsimp only
  rw [if_neg hp]
  cases text with
  | nil => simp
  | cons c text =>
      rw [Bool.and_eq_true, decide_eq_true_iff]
      constructor
      · rintro ⟨rfl, h⟩
        exact ⟨text, h, rfl⟩
      · rintro ⟨rest, h, htext⟩
        obtain ⟨rfl, rfl⟩ := List.cons.inj htext
        exact ⟨rfl, h⟩

/-- A pattern accepts the texts that it stands for. The function tries its stars from the shortest
run on, and the relation says what there is to be found. -/
theorem accepts_iff_standsFor : w.accepts pattern text = true ↔ w.StandsFor pattern text := by
  induction pattern generalizing text with
  | nil =>
      rw [accepts, List.isEmpty_iff, standsFor_nil]
  | cons p pattern ih =>
      by_cases hp : p = '*'
      · subst hp
        rw [accepts_star, standsFor_star]
        simp only [ih]
      · rw [accepts_letter hp, standsFor_letter hp]
        simp only [ih]

instance (w : Wildcard) (pattern text : List Char) : Decidable (w.StandsFor pattern text) :=
  decidable_of_iff (w.accepts pattern text = true) accepts_iff_standsFor

end LayoutSpec.Wildcard
