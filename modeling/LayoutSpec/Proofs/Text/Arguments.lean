import LayoutSpec.Proofs.Text.Cutting
import LayoutSpec.Text.Arguments

/-!
Command lines that are put together from arguments and split again. An argument is read back as it
was written, with or without quotes, and a blank behind a line in which no quote is open ends the
argument before it: what follows is read as a line of its own.
-/

namespace LayoutSpec.Text

variable {mode : ArgumentMode} {current : List Char} {args : List (List Char)}

/-- One character changes the mode and the argument that is being read, and may end an argument.
What it does not depend on is the text behind it. -/
theorem exists_argumentsFrom_cons (mode : ArgumentMode) (current : List Char) (c : Char) :
    ∃ mode' current' ended, ∀ cs, argumentsFrom mode current (c :: cs)
      = (argumentsFrom mode' current' cs).map (ended ++ ·) := by
  have hgoes : ∀ mode' current', ∃ mode'' current'' ended, ∀ cs,
      argumentsFrom mode' current' cs = (argumentsFrom mode'' current'' cs).map (ended ++ ·) :=
    fun mode' current' => ⟨mode', current', [], fun cs => by simp⟩
  cases mode with
  | plain =>
      simp only [argumentsFrom]
      split_ifs
      · exact ⟨.between, [], [current.reverse], fun cs => rfl⟩
      all_goals exact hgoes _ _
  | between | double | escaped | single =>
      simp only [argumentsFrom, reduceCtorEq, if_false]
      split_ifs <;> exact hgoes _ _

/-- In a line in which no quote is open, a blank ends the last argument, and what stands behind it
is read as if nothing stood before it. -/
theorem argumentsFrom_append_blank {c : Char} (hc : isBlank c = true) {x : List Char}
    (h : argumentsFrom mode current x = some args) (y : List Char) :
    argumentsFrom mode current (x ++ c :: y) = (arguments? y).map (args ++ ·) := by
  induction x generalizing mode current args with
  | nil =>
      cases mode with
      | between =>
          obtain rfl := Option.some.inj h
          simp [argumentsFrom, arguments?, hc]
      | plain =>
          obtain rfl := Option.some.inj h
          simp [argumentsFrom, arguments?, hc]
      | double | escaped | single => cases h
  | cons d x ih =>
      obtain ⟨mode', current', ended, hstep⟩ := exists_argumentsFrom_cons mode current d
      rw [hstep] at h
      obtain ⟨others, hothers, rfl⟩ := Option.map_eq_some_iff.mp h
      rw [List.cons_append, hstep, ih hothers, Option.map_map]
      congr 1
      funext last
      exact (List.append_assoc ended others last).symm

theorem argumentsFrom_plain_append {run : List Char}
    (hrun : ∀ c ∈ run, isBlank c = false ∧ c ≠ '"' ∧ c ≠ '\'') (rest : List Char) :
    argumentsFrom .plain current (run ++ rest)
      = argumentsFrom .plain (run.reverse ++ current) rest := by
  induction run generalizing current with
  | nil => rfl
  | cons c run ih =>
      obtain ⟨hblank, hdouble, hsingle⟩ := hrun c List.mem_cons_self
      have hlater := @ih (c :: current) fun d hd => hrun d (List.mem_cons_of_mem c hd)
      rw [List.cons_append, argumentsFrom, List.reverse_cons, List.append_assoc]
      simp only [hblank, hdouble, hsingle, if_false, Bool.false_eq_true]
      exact hlater

/-- Between double quotes an escaped text stands for the text itself. Its quotes are escaped, so
that the one behind it closes it. -/
theorem argumentsFrom_escape (cs rest : List Char) :
    argumentsFrom .double current (escape cs ++ '"' :: rest)
      = argumentsFrom .plain (cs.reverse ++ current) rest := by
  induction cs generalizing current with
  | nil => simp [escape, argumentsFrom]
  | cons c cs ih =>
      have hlater := @ih (c :: current)
      rw [List.reverse_cons, List.append_assoc, List.singleton_append, ← hlater, escape,
        List.flatMap_cons, ← escape]
      by_cases hc : c = '"' ∨ c = '\\'
      · rw [if_pos hc, List.append_assoc]
        simp [argumentsFrom, hc]
      · obtain ⟨hquote, hslash⟩ := not_or.mp hc
        rw [if_neg hc, List.append_assoc]
        simp [argumentsFrom, hquote, hslash]

/-- Where no argument is being read, a written argument is the next one, and still open for what is
glued to it. -/
theorem argumentsFrom_argument (cs rest : List Char) :
    argumentsFrom .between [] (argument cs ++ rest) = argumentsFrom .plain cs.reverse rest := by
  rw [argument]
  split
  · next hplain =>
      obtain ⟨hne, hchars⟩ := Bool.and_eq_true_iff.mp hplain
      have hrun : ∀ c ∈ cs, isBlank c = false ∧ c ≠ '"' ∧ c ≠ '\'' := by
        intro c hc
        simpa [not_or, and_assoc] using List.all_eq_true.mp hchars c hc
      have hplain := @argumentsFrom_plain_append [] cs hrun rest
      rw [List.append_nil] at hplain
      cases cs with
      | nil => cases hne
      | cons c cs =>
          -- The first character of a bare argument opens it.
          rw [← hplain, List.cons_append, argumentsFrom, argumentsFrom]
          obtain ⟨hblank, -, -⟩ := hrun c List.mem_cons_self
          simp only [hblank, if_false, Bool.false_eq_true]
  · have hquoted := @argumentsFrom_escape [] cs rest
    have hquote : quote cs ++ rest = '"' :: (escape cs ++ '"' :: rest) := by simp [quote]
    have hblank : isBlank '"' = false := by decide
    rw [List.append_nil] at hquoted
    rw [← hquoted, hquote, argumentsFrom]
    simp only [hblank, if_false, if_true, Bool.false_eq_true]

theorem arguments?_argument (cs : List Char) : arguments? (argument cs) = some [cs] := by
  have hread := argumentsFrom_argument cs []
  rw [List.append_nil] at hread
  rw [arguments?, hread, argumentsFrom, List.reverse_reverse]

theorem arguments?_append_blank {x : List Char} (h : arguments? x = some args) (y : List Char) :
    arguments? (x ++ ' ' :: y) = (arguments? y).map (args ++ ·) :=
  argumentsFrom_append_blank (by decide) h y

/-- Arguments that are written with a space between any two are read back. Each is plain or between
quotes, and the space ends it. -/
theorem arguments?_intercalate (args : List (List Char)) :
    arguments? ([' '].intercalate (args.map argument)) = some args := by
  induction args with
  | nil => rfl
  | cons first rest ih =>
      cases rest with
      | nil =>
          rw [List.map_singleton, List.intercalate_singleton]
          exact arguments?_argument first
      | cons second rest =>
          rw [List.map_cons, List.map_cons, List.intercalate_cons_cons, ← List.map_cons,
            List.append_assoc, List.singleton_append,
            arguments?_append_blank (arguments?_argument first), ih]
          rfl

/-- Arguments that are written with a space between each two of them are read back as they were,
whatever they hold; and a line behind another one and a space gives the arguments of both, if no
quote is open in the first one. -/
theorem arguments?_inverse_argument :
    (∀ args : List (List Char), arguments? ([' '].intercalate (args.map argument)) = some args) ∧
      ∀ (x y : List Char) (xs : List (List Char)), arguments? x = some xs →
        arguments? (x ++ ' ' :: y) = (arguments? y).map (xs ++ ·) :=
  ⟨arguments?_intercalate, fun _ y _ h => arguments?_append_blank h y⟩

/-- A backslash in front of a quote, an empty argument, and a quote of the one kind within the
other. -/
theorem arguments?_inverse_argument_quotes :
    arguments? "a\\ 'b c'\"\\\\\"".toList = some ["a\\".toList, "b c\\".toList] ∧
      arguments? ("a\\ 'b c'\"\\\\\"".toList ++ ' ' :: "\"\" d'\"'".toList)
        = some ["a\\".toList, "b c\\".toList, [], "d\"".toList] := by
  have hfirst : arguments? "a\\ 'b c'\"\\\\\"".toList = some ["a\\".toList, "b c\\".toList] := by
    decide +kernel
  refine ⟨hfirst, (arguments?_inverse_argument.2 _ _ _ hfirst).trans ?_⟩
  decide +kernel

end LayoutSpec.Text
