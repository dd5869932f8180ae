import LayoutSpec.Proofs.Glob
import LayoutSpec.Proofs.Regex.Whole
import Mathlib.Algebra.GroupWithZero.Nat
import Mathlib.Tactic.FinCases

/-!
A pattern with stars as a regular expression. Its pieces between the stars are escaped and put
together again with what a star is written as, between the ends of the text. The reader makes the
expression of the pattern of it, whatever the pattern is, so that it can be refused for its size
only. Where it is not, it matches the texts that the pattern stands for.
-/

namespace LayoutSpec.Wildcard

open Regex PatternReader

variable {w : Wildcard}

/-- What a character of a pattern comes to in the expression. -/
def signText (w : Wildcard) (c : Char) : List Char :=
  if c = '*' then w.star else Regex.escape [c]

/-- The text of an expression is that of its signs, one after another, between the marks of a text's
start and end. The source is made by cutting at the stars and joining again; here it is one
character at a time, as the reader takes it. -/
theorem source_eq (w : Wildcard) (pattern : List Char) :
    w.source pattern = '^' :: (pattern.flatMap w.signText ++ ['$']) := by
  have hbody : w.star.intercalate ((pattern.splitOn '*').map Regex.escape)
      = pattern.flatMap w.signText := by
    induction pattern with
    | nil => rfl
    | cons c pattern ih =>
        obtain ⟨first, pieces, hpieces⟩ := exists_splitOn pattern
        rw [List.flatMap_cons, ← ih]
        by_cases hc : c = '*'
        · subst hc
          rw [splitOn_star, hpieces, List.map_cons, List.map_cons, List.intercalate_cons_cons]
          rfl
        · rw [splitOn_letter hc hpieces, hpieces, List.map_cons, List.map_cons, signText, if_neg hc]
          have hsign : Regex.escape (c :: first) = Regex.escape [c] ++ Regex.escape first := by
            simp [Regex.escape]
          rw [hsign]
          cases pieces with
          | nil => simp
          | cons second pieces =>
              rw [List.map_cons, List.intercalate_cons_cons, List.intercalate_cons_cons]
              simp
  rw [source, hbody]

section Reader

variable (fuel : Nat) (items : List Item) (rest : List Char)

theorem run_skipPreference (h : rest.head? ≠ some '?') :
    skipPreference.run { rest } = some ((), { rest }) := by
  have hrun : skipPreference.run { rest }
      = (if rest.head? = some '?' then bump else pure ()).run { rest } := rfl
  rw [hrun, if_neg h]
  rfl

/-- The sign of a repetition is read behind the part that is repeated. -/
theorem run_branch_repeated (least : Nat) {sign : Char}
    (hsign : sign = '*' ∧ least = 0 ∨ sign = '+' ∧ least = 1) (piece : Piece)
    (h : rest.head? ≠ some '?') :
    (branch (fuel + 1) (some piece :: items)).run { rest := sign :: rest }
      = (branch fuel (some ⟨.times piece.regex least none, piece.depth + 1⟩ :: items)).run
          { rest } := by
  have hrun : (branch (fuel + 1) (some piece :: items)).run { rest := sign :: rest }
      = (skipPreference >>= fun _ =>
          branch fuel (some ⟨.times piece.regex least none, piece.depth + 1⟩ :: items)).run
            { rest } := by
    rw [branch]
    obtain ⟨rfl, rfl⟩ | ⟨rfl, rfl⟩ := hsign
    · rfl
    · rfl
  rw [hrun, StateT.run_bind, run_skipPreference rest h]
  rfl

/-- Where the star of a wildcard is written, the reader finds a repetition of its characters. -/
structure IsRead (w : Wildcard) : Prop where
  head : w.star.head? ≠ some '?'
  part : ∃ depth ≤ 3, ∀ fuel items rest, rest.head? ≠ some '?' →
    (branch (fuel + 7) items).run { rest := w.star ++ rest }
      = (branch (fuel + 5) (some ⟨w.ofSign '*', depth⟩ :: items)).run { rest }

theorem isRead_anyText : anyText.IsRead := by
  refine ⟨by decide, 1, by decide, fun fuel items rest h => ?_⟩
  have hdot : (branch (fuel + 7) items).run { rest := '.' :: '*' :: rest }
      = (branch (fuel + 6) (some ⟨.chars lineSet, 0⟩ :: items)).run { rest := '*' :: rest } := by
    rw [branch]
    rfl
  exact hdot.trans (run_branch_repeated _ _ _ 0 (.inl ⟨rfl, rfl⟩) _ h)

theorem run_setItems_range {first last : Char}
    (h : (first, last) ∈ [('A', 'Z'), ('a', 'z'), ('0', '9')]) (parts : List SetPart) :
    (setItems (fuel + 1) none parts).run { rest := first :: '-' :: last :: rest }
      = (setItems fuel none (⟨.range first last, 0⟩ :: parts)).run { rest } := by
  rw [setItems]
  fin_cases h <;> rfl

theorem run_setItems_single (parts : List SetPart) :
    (setItems (fuel + 1) none parts).run { rest := '_' :: ']' :: rest }
      = (setItems fuel none (⟨.single '_', 0⟩ :: parts)).run { rest := ']' :: rest } := by
  rw [setItems]
  rfl

theorem run_setItems_end (parts : List SetPart) :
    (setItems (fuel + 1) none parts).run { rest := ']' :: rest }
      = some (unionOf parts, { rest }) := by
  rw [setItems]
  rfl

/-- The characters of a word between their brackets. -/
def wordSign : List Char :=
  ['A', '-', 'Z', 'a', '-', 'z', '0', '-', '9', '_', ']']

theorem star_word : word.star = '[' :: (wordSign ++ ['+']) := by
  decide

/-- The set of word characters is read from its brackets: three ranges and the underscore. -/
theorem run_bracketed_word :
    (bracketed (fuel + 6)).run { rest := '[' :: (wordSign ++ rest) }
      = some (⟨wordSet, 2⟩, { rest }) := by
  have hitems : (setItems (fuel + 5) none []).run { rest := wordSign ++ rest }
      = some (⟨wordSet, 1⟩, { rest }) := by
    change (setItems (fuel + 5) none []).run { rest := 'A' :: '-' :: 'Z' :: _ } = _
    rw [run_setItems_range _ _ (by simp)]
    change (setItems (fuel + 4) none _).run { rest := 'a' :: '-' :: 'z' :: _ } = _
    rw [run_setItems_range _ _ (by simp)]
    change (setItems (fuel + 3) none _).run { rest := '0' :: '-' :: '9' :: _ } = _
    rw [run_setItems_range _ _ (by simp)]
    change (setItems (fuel + 2) none _).run { rest := '_' :: ']' :: _ } = _
    rw [run_setItems_single, run_setItems_end]
    rfl
  have hstart : (bracketed (fuel + 6)).run { rest := '[' :: (wordSign ++ rest) }
      = (setItems (fuel + 5) none [] >>= fun inner => do
          return ⟨← foldAndNegate false inner.set, inner.depth + 1⟩ : PatternReader SetPart).run
          { rest := wordSign ++ rest } := by
    rw [bracketed]
    generalize setItems (fuel + 5) = reader
    rfl
  rw [hstart, StateT.run_bind, hitems]
  rfl

theorem isRead_word : word.IsRead := by
  refine ⟨by decide, 3, by decide, fun fuel items rest h => ?_⟩
  have hset : (branch (fuel + 7) items).run { rest := '[' :: (wordSign ++ '+' :: rest) }
      = (branch (fuel + 6) (some ⟨.chars wordSet, 2⟩ :: items)).run { rest := '+' :: rest } := by
    have hopen : (branch (fuel + 7) items).run { rest := '[' :: (wordSign ++ '+' :: rest) }
        = (bracketed (fuel + 6) >>= fun part =>
            branch (fuel + 6) (some ⟨.chars part.set, part.depth⟩ :: items)).run
              { rest := '[' :: (wordSign ++ '+' :: rest) } := by
      rw [branch]
      generalize bracketed (fuel + 6) = reader
      rfl
    rw [hopen, StateT.run_bind, run_bracketed_word]
    rfl
  rw [star_word, List.cons_append, List.append_assoc, List.singleton_append]
  exact hset.trans (run_branch_repeated _ _ _ 1 (.inr ⟨rfl, rfl⟩) _ h)

theorem run_branch_escaped {c : Char} (hc : isMeta c = true) :
    (branch (fuel + 1) items).run { rest := '\\' :: c :: rest }
      = (branch fuel (some ⟨.chars (.single c), 0⟩ :: items)).run { rest } := by
  have hmem : c ∈ metas := by simpa [isMeta] using hc
  rw [branch]
  fin_cases hmem <;> rfl

theorem ne_of_isMeta {c d : Char} (hc : isMeta c = false) (hd : isMeta d = true) : c ≠ d := by
  rintro rfl
  rw [hc] at hd
  cases hd

theorem run_single_letter {c : Char} (hc : isMeta c = false) :
    single.run { rest := c :: rest } = some (.chars (.single c), { rest }) := by
  have hpeek : peek.run { rest := c :: rest } = some (c, { rest := c :: rest }) := rfl
  rw [single, StateT.run_bind, hpeek]
  simp only [Option.bind_eq_bind, Option.bind_some]
  split
  case h_5 => rfl
  all_goals exact absurd rfl (ne_of_isMeta hc (by decide))

/-- A character without a meaning is read as itself. The characters that have one are those before
which the source puts a backslash. -/
theorem run_branch_letter {c : Char} (hc : isMeta c = false) :
    (branch (fuel + 1) items).run { rest := c :: rest }
      = (branch fuel (some ⟨.chars (.single c), 0⟩ :: items)).run { rest } := by
  have hskip : skip.run { rest := c :: rest } = some ((), { rest := c :: rest }) := rfl
  have hrest : PatternReader.rest.run { rest := c :: rest }
      = some (c :: rest, { rest := c :: rest }) := rfl
  rw [branch, StateT.run_bind, hskip]
  simp only [Option.bind_eq_bind, Option.bind_some, StateT.run_bind, hrest, List.head?_cons]
  split
  case h_1 heq => cases heq
  case h_10 =>
    rw [StateT.run_bind, run_single_letter rest hc]
    rfl
  all_goals next heq => exact absurd (Option.some.inj heq) (ne_of_isMeta hc (by decide))

/-- The part that the reader makes of a character, if stars are nested to some depth. -/
def signPiece (w : Wildcard) (depth : Nat) (c : Char) : Piece :=
  ⟨w.ofSign c, if c = '*' then depth else 0⟩

theorem head?_flatMap_signText (hw : w.IsRead) (pattern : List Char) :
    (pattern.flatMap w.signText ++ ['$']).head? ≠ some '?' := by
  cases pattern with
  | nil => simp
  | cons c pattern =>
      rw [List.flatMap_cons, signText]
      by_cases hc : c = '*'
      · obtain ⟨d, ds, hstar⟩ := List.exists_cons_of_ne_nil
          (List.append_ne_nil_of_right_ne_nil w.sign.toList (List.cons_ne_nil _ []))
        have hhead := hw.head
        rw [star, hstar] at hhead
        rw [if_pos hc, star, hstar]
        exact hhead
      · cases hmeta : isMeta c with
        | true => simp [hc, hmeta, Regex.escape]
        | false =>
            have hquestion : c ≠ '?' := ne_of_isMeta hmeta (by decide)
            simp [hc, hmeta, Regex.escape, hquestion]

/-- One more character of a pattern is one more part of the expression. A star takes a repetition
and what stands before it, and any other character is a letter or an escaped one. -/
theorem exists_run_branch_sign (hw : w.IsRead) :
    ∃ depth ≤ 3, ∀ (c : Char) (fuel : Nat) (items : List Item) (rest : List Char),
      rest.head? ≠ some '?' → ∃ more,
        (branch (fuel + 7) items).run { rest := w.signText c ++ rest }
          = (branch (fuel + 5 + more) (some (w.signPiece depth c) :: items)).run { rest } := by
  obtain ⟨depth, hdepth, hstar⟩ := hw.part
  refine ⟨depth, hdepth, fun c fuel items rest h => ?_⟩
  rw [signText, signPiece]
  by_cases hc : c = '*'
  · subst hc
    refine ⟨0, ?_⟩
    rw [if_pos rfl, if_pos rfl]
    exact hstar fuel items rest h
  · refine ⟨1, ?_⟩
    rw [if_neg hc, if_neg hc, ofSign, if_neg hc]
    cases hmeta : isMeta c with
    | true =>
        have htext : Regex.escape [c] = ['\\', c] := by simp [Regex.escape, hmeta]
        rw [htext]
        exact run_branch_escaped _ _ _ hmeta
    | false =>
        have htext : Regex.escape [c] = [c] := by simp [Regex.escape, hmeta]
        rw [htext]
        exact run_branch_letter _ _ _ hmeta

/-- The characters of a pattern are read as its parts, up to the end of the text. It takes two units
of fuel for a character at most. -/
theorem exists_run_branch_signs (hw : w.IsRead) :
    ∃ depth ≤ 3, ∀ (pattern : List Char) (fuel : Nat) (items : List Item),
      2 * pattern.length + 7 ≤ fuel →
        (branch fuel items).run { rest := pattern.flatMap w.signText ++ ['$'] }
          = some (seqOf (some ⟨.look .textEnd, 0⟩ ::
              ((pattern.map fun c => some (w.signPiece depth c)).reverse ++ items)),
            { rest := [] }) := by
  obtain ⟨depth, hdepth, hsign⟩ := exists_run_branch_sign hw
  refine ⟨depth, hdepth, fun pattern => ?_⟩
  induction pattern with
  | nil =>
      intro fuel items hfuel
      obtain ⟨fuel, rfl⟩ := Nat.exists_eq_add_of_le' hfuel
      exact run_branch_textEnd _ _ _
  | cons c pattern ih =>
      intro fuel items hfuel
      rw [List.length_cons] at hfuel
      obtain ⟨fuel, rfl⟩ : ∃ n, fuel = n + 7 := ⟨fuel - 7, by omega⟩
      obtain ⟨more, hfirst⟩ := hsign c fuel items _ (head?_flatMap_signText hw pattern)
      rw [List.flatMap_cons, List.append_assoc, hfirst, ih _ _ (by omega), List.map_cons,
        List.reverse_cons, List.append_assoc, List.singleton_append]

theorem seqOf_of_two_le {items : List Item} (h : 2 ≤ items.length) :
    seqOf items = ⟨seqAll ((items.reverse.filterMap id).map (·.regex)),
      1 + ((items.reverse.filterMap id).map (·.depth)).foldl max 0⟩ := by
  match items, h with
  | _ :: _ :: _, _ => rfl

theorem foldl_max_le {depths : List Nat} {n m : Nat} (hn : n ≤ m) (h : ∀ d ∈ depths, d ≤ m) :
    depths.foldl max n ≤ m := by
  induction depths generalizing n with
  | nil => exact hn
  | cons d depths ih =>
      obtain ⟨hd, hothers⟩ := List.forall_mem_cons.mp h
      exact ih (Nat.max_le.mpr ⟨hn, hd⟩) hothers

/-- The parts that the reader makes of a pattern. -/
def pieces (w : Wildcard) (depth : Nat) (pattern : List Char) : List Piece :=
  ⟨.look .textStart, 0⟩ :: (pattern.map (w.signPiece depth) ++ [⟨.look .textEnd, 0⟩])

theorem depth_le_of_mem_pieces {depth : Nat} {pattern : List Char} {piece : Piece}
    (h : piece ∈ w.pieces depth pattern) : piece.depth ≤ depth := by
  simp only [pieces, List.mem_cons, List.mem_append, List.mem_map, List.not_mem_nil,
    or_false] at h
  obtain rfl | ⟨c, -, rfl⟩ | rfl := h
  · exact Nat.zero_le depth
  · change (if c = '*' then depth else 0) ≤ depth
    split <;> omega
  · exact Nat.zero_le depth

/-- The parts that were read make up the expression of the pattern, nested at most one level deeper
than they are. -/
theorem exists_seqOf_pieces (w : Wildcard) (depth : Nat) (pattern : List Char) :
    ∃ outer ≤ depth + 1, seqOf (some ⟨.look .textEnd, 0⟩ ::
        ((pattern.map fun c => some (w.signPiece depth c)).reverse
          ++ [some ⟨.look .textStart, 0⟩])) = ⟨w.regex pattern, outer⟩ := by
  have hpieces : ((some ⟨.look .textEnd, 0⟩ ::
      ((pattern.map fun c => some (w.signPiece depth c)).reverse
        ++ [some ⟨.look .textStart, 0⟩] : List Item)).reverse.filterMap id)
      = w.pieces depth pattern := by
    simp [pieces, List.filterMap_map]
  have hregex : seqAll ((w.pieces depth pattern).map (·.regex)) = w.regex pattern := by
    simp [pieces, Wildcard.regex, signPiece, Function.comp_def]
  refine ⟨1 + ((w.pieces depth pattern).map (·.depth)).foldl max 0, ?_, ?_⟩
  · have hdepths : ((w.pieces depth pattern).map (·.depth)).foldl max 0 ≤ depth :=
      foldl_max_le (Nat.zero_le _) (List.forall_mem_map.mpr fun _ => depth_le_of_mem_pieces)
    omega
  · rw [seqOf_of_two_le (by simp), hpieces, hregex]

theorem length_le_length_flatMap_signText (w : Wildcard) (pattern : List Char) :
    pattern.length ≤ (pattern.flatMap w.signText).length := by
  have hsign : ∀ c, 1 ≤ (w.signText c).length := by
    intro c
    rw [signText, Regex.escape, List.flatMap_singleton]
    split
    · simp [star]
    · split <;> simp
  induction pattern with
  | nil => exact Nat.le_refl 0
  | cons c pattern ih =>
      have hc := hsign c
      rw [List.flatMap_cons, List.length_append, List.length_cons]
      omega

/-- Whatever a pattern is, its expression is well formed and nested in a few levels only. So it is
never refused for its form. -/
theorem exists_read?_source (hw : w.IsRead) (pattern : List Char) :
    ∃ depth ≤ 4, read? (w.source pattern) = some (⟨w.regex pattern, depth⟩, { rest := [] }) := by
  obtain ⟨inner, hinner, hsigns⟩ := exists_run_branch_signs hw
  obtain ⟨depth, hdepth, hseq⟩ := exists_seqOf_pieces w inner pattern
  refine ⟨depth, by omega, ?_⟩
  have hstart : ∀ fuel rest, (branch (fuel + 1) []).run { rest := '^' :: rest }
      = (branch fuel [some ⟨.look .textStart, 0⟩]).run { rest } := by
    intro fuel rest
    rw [branch]
    rfl
  have hlength := length_le_length_flatMap_signText w pattern
  obtain ⟨fuel, hfuel⟩ : ∃ fuel, 3 * (w.source pattern).length + 3 = fuel + 1 + 1 := ⟨_, rfl⟩
  have hbound : 2 * pattern.length + 7 ≤ fuel := by
    rw [source_eq, List.length_cons, List.length_append] at hfuel
    simp only [List.length_singleton] at hfuel
    omega
  rw [read?, hfuel, source_eq, branches, StateT.run_bind, hstart, hsigns _ _ _ hbound, hseq]
  rfl

/-- The expression of a pattern compiles unless it is too large. What it compiles to is the
expression that is matched against names. -/
theorem compile?_source (hw : w.IsRead) (pattern : List Char) :
    compile? (w.source pattern)
      = if w.compiles pattern then some (w.regex pattern) else none := by
  obtain ⟨depth, hdepth, hread⟩ := exists_read?_source hw pattern
  have hnesting : depth ≤ maxDepth := Nat.le_trans hdepth (by decide)
  split
  next hsmall =>
    exact compile?_eq_some_iff.mpr ⟨_, _, hread, rfl, hnesting, of_decide_eq_true hsmall, rfl⟩
  next hlarge =>
    rw [Option.eq_none_iff_forall_not_mem]
    intro r hr
    obtain ⟨piece, s, hagain, -, -, hsmall, -⟩ := compile?_eq_some_iff.mp hr
    rw [hread] at hagain
    obtain ⟨rfl, rfl⟩ := Prod.mk.inj (Option.some.inj hagain)
    exact hlarge (decide_eq_true hsmall)

end Reader

theorem weight_seqAll (parts : List Regex) :
    (seqAll parts).weight = (parts.map Regex.weight).sum := by
  induction parts with
  | nil => rfl
  | cons part parts ih =>
      cases parts with
      | nil => simp [seqAll]
      | cons next parts =>
          change part.weight + (seqAll (next :: parts)).weight = _
          rw [ih, ← List.sum_cons, ← List.map_cons]

/-- The size of the expression of a pattern grows with its characters. Each star costs the bytes of
its repetition, and the ends cost the same for all. -/
theorem size_regex (w : Wildcard) (pattern : List Char) :
    (w.regex pattern).size = (pattern.map fun c => (w.ofSign c).weight).sum + 192 := by
  have hanchored : (w.regex pattern).isAnchored = true := by
    rw [Wildcard.regex]
    cases pattern <;> simp [seqAll, isAnchored]
  rw [size, hanchored, if_pos rfl, Wildcard.regex, weight_seqAll]
  simp [Regex.weight, Function.comp_def]
  omega

section Matches

variable {text : List Char} {i j : Nat}

theorem matches_seqAll_cons (r : Regex) (others : List Regex) :
    (seqAll (r :: others)).Matches text i j ↔
      ∃ k, r.Matches text i k ∧ (seqAll others).Matches text k j := by
  cases others with
  | nil => simp [seqAll, Matches]
  | cons second others => rfl

/-- An expression is found in a text if it matches from somewhere to somewhere. Only expressions
that are tied to the ends of a text say something about all of it. -/
theorem isMatch_iff (r : Regex) (text : List Char) :
    r.isMatch text = true ↔ ∃ i j, i ≤ text.length ∧ r.Matches text i j := by
  have hall := follows_ends text r
  rw [isMatch, Gaps.any_id_iff]
  simp only [hall.has_iff _ List.length_replicate]
  constructor
  · rintro ⟨j, i, hi, hmatch⟩
    obtain ⟨hlt, -⟩ := List.getElem?_eq_some_iff.mp hi
    rw [List.length_replicate] at hlt
    exact ⟨i, j, Nat.le_of_lt_succ hlt, hmatch⟩
  · rintro ⟨i, j, hi, hmatch⟩
    refine ⟨j, i, ?_, hmatch⟩
    rw [Gaps.Has, List.getElem?_replicate, if_pos (Nat.lt_succ_of_le hi)]

theorem matches_chars_iff (set : CharSet) (before after : List Char) :
    (chars set).Matches (before ++ after) before.length j ↔
      ∃ c rest, after = c :: rest ∧ set.contains c = true ∧ j = before.length + 1 := by
  simp only [Matches, List.getElem?_append_right (Nat.le_refl _), Nat.sub_self]
  constructor
  · rintro ⟨rfl, c, hc, hset⟩
    cases after with
    | nil => cases hc
    | cons d rest =>
        obtain rfl := Option.some.inj hc
        exact ⟨d, rest, rfl, hset, rfl⟩
  · rintro ⟨c, rest, rfl, hset, rfl⟩
    exact ⟨rfl, c, rfl, hset⟩

/-- A set a number of times is a run of its characters, of that length. -/
theorem times_chars_iff (set : CharSet) (n : Nat) (before after : List Char) :
    Times ((chars set).Matches (before ++ after)) n before.length j ↔
      ∃ run rest, after = run ++ rest ∧ run.length = n ∧ (∀ c ∈ run, set.contains c = true) ∧
        j = (before ++ run).length := by
  induction n generalizing before after with
  | zero =>
      constructor
      · rintro rfl
        exact ⟨[], after, rfl, rfl, by simp, by simp⟩
      · rintro ⟨run, rest, -, hrun, -, rfl⟩
        obtain rfl := List.length_eq_zero_iff.mp hrun
        simp [Times]
  | succ n ih =>
      constructor
      · rintro ⟨k, hfirst, hothers⟩
        obtain ⟨c, rest, rfl, hc, rfl⟩ := (matches_chars_iff set before after).mp hfirst
        have hlength : before.length + 1 = (before ++ [c]).length := by simp
        rw [List.append_cons, hlength] at hothers
        obtain ⟨run, rest, rfl, rfl, hrun, rfl⟩ := (ih (before ++ [c]) rest).mp hothers
        refine ⟨c :: run, rest, rfl, rfl, List.forall_mem_cons.mpr ⟨hc, hrun⟩, by simp⟩
      · rintro ⟨run, rest, rfl, hlength, hrun, rfl⟩
        obtain ⟨c, run, rfl⟩ := List.exists_cons_of_length_eq_add_one hlength
        obtain ⟨hc, hothers⟩ := List.forall_mem_cons.mp hrun
        refine ⟨before.length + 1,
          (matches_chars_iff set before _).mpr ⟨c, run ++ rest, rfl, hc, rfl⟩, ?_⟩
        have hlater := (ih (before ++ [c]) (run ++ rest)).mpr
          ⟨run, rest, rfl, Nat.succ.inj hlength, hothers, by simp⟩
        simpa using hlater

/-- What is written for a star matches a run that the star may be. It may be empty for a suite
filter and not for an object pattern. -/
theorem matches_star_iff (w : Wildcard) (before after : List Char) :
    (w.ofSign '*').Matches (before ++ after) before.length j ↔
      ∃ run rest, after = run ++ rest ∧ w.Fills run ∧ j = (before ++ run).length := by
  have hleast : ∀ run : List Char, (if w.mayBeEmpty then 0 else 1) ≤ run.length ↔
      (w.mayBeEmpty = false → run ≠ []) := by
    intro run
    cases w.mayBeEmpty <;> simp [Nat.one_le_iff_ne_zero]
  rw [ofSign, if_pos rfl]
  constructor
  · rintro ⟨n, hn, -, htimes⟩
    obtain ⟨run, rest, hafter, rfl, hrun, hj⟩ := (times_chars_iff w.set n before after).mp htimes
    refine ⟨run, rest, hafter, ⟨fun c hc => ?_, (hleast run).mp hn⟩, hj⟩
    rw [← w.contains_set]
    exact hrun c hc
  · rintro ⟨run, rest, hafter, ⟨hrun, hne⟩, hj⟩
    have htimes := (times_chars_iff w.set run.length before after).mpr
      ⟨run, rest, hafter, rfl, fun c hc => (w.contains_set c).trans (hrun c hc), hj⟩
    exact ⟨run.length, (hleast run).mpr hne, nofun, htimes⟩

/-- The parts of an expression match from some place up to the end of the text if the pattern stands
for what is there. The induction is on the pattern; the text is cut where the first part ends. -/
theorem matches_signs_iff (pattern before after : List Char) :
    (seqAll (pattern.map w.ofSign ++ [.look .textEnd])).Matches (before ++ after) before.length j ↔
      j = (before ++ after).length ∧ w.StandsFor pattern after := by
  induction pattern generalizing before after with
  | nil =>
      rw [List.map_nil, List.nil_append, standsFor_nil]
      refine matches_textEnd_iff.trans (and_comm.trans (and_congr_right' ?_))
      simp
  | cons c pattern ih =>
      rw [List.map_cons, List.cons_append, matches_seqAll_cons]
      by_cases hc : c = '*'
      · subst hc
        rw [standsFor_star]
        constructor
        · rintro ⟨k, hfirst, hrest⟩
          obtain ⟨run, rest, rfl, hrun, rfl⟩ := (matches_star_iff w _ _).mp hfirst
          rw [← List.append_assoc] at hrest ⊢
          obtain ⟨hj, hstands⟩ := (ih (before ++ run) rest).mp hrest
          exact ⟨hj, run, rest, hrun, hstands, rfl⟩
        · rintro ⟨rfl, run, rest, hrun, hstands, rfl⟩
          have hfirst := (matches_star_iff w before (run ++ rest)).mpr ⟨run, rest, rfl, hrun, rfl⟩
          have hrest := (ih (before ++ run) rest).mpr ⟨by simp, hstands⟩
          rw [List.append_assoc] at hrest
          exact ⟨_, hfirst, hrest⟩
      · rw [ofSign, if_neg hc, standsFor_letter hc]
        have hlength : before.length + 1 = (before ++ [c]).length := by simp
        constructor
        · rintro ⟨k, hfirst, hrest⟩
          obtain ⟨d, rest, rfl, hd, rfl⟩ := (matches_chars_iff _ _ _).mp hfirst
          obtain rfl := CharSet.contains_single.mp hd
          rw [List.append_cons, hlength] at hrest
          obtain ⟨hj, hstands⟩ := (ih (before ++ [d]) rest).mp hrest
          exact ⟨by simpa using hj, rest, hstands, rfl⟩
        · rintro ⟨rfl, rest, hstands, rfl⟩
          refine ⟨before.length + 1,
            (matches_chars_iff _ _ _).mpr ⟨c, rest, rfl, CharSet.contains_single.mpr rfl, rfl⟩, ?_⟩
          have hrest := (ih (before ++ [c]) rest).mpr ⟨by simp, hstands⟩
          rwa [← List.append_cons, ← hlength] at hrest

/-- The expression of a pattern matches the texts that the pattern stands for. With
`compile?_source` this says what comes of the text of the expression. -/
theorem isMatch_regex (w : Wildcard) (pattern text : List Char) :
    (w.regex pattern).isMatch text = w.accepts pattern text := by
  rw [Bool.eq_iff_iff, accepts_iff_standsFor, isMatch_iff, Wildcard.regex]
  simp only [matches_seqAll_cons]
  constructor
  · rintro ⟨i, j, -, k, hstart, hrest⟩
    obtain ⟨-, rfl⟩ := matches_textStart_iff.mp hstart
    exact ((matches_signs_iff pattern [] text).mp hrest).2
  · intro hstands
    exact ⟨0, text.length, Nat.zero_le _, 0, matches_textStart_iff.mpr ⟨rfl, rfl⟩,
      (matches_signs_iff pattern [] text).mpr ⟨rfl, hstands⟩⟩

end Matches

end LayoutSpec.Wildcard
