import LayoutSpec.Proofs.Text.Cutting

/-!
The layout of a text. A text gets another layout when lines that say nothing are put between its
lines, blanks are put behind them, and they get other ends. What a line says is what is left of it
without the blanks behind it.
-/

namespace LayoutSpec.Text

variable {pad : List Char}

theorem trimEnd_append_right (cs : List Char) (h : ∀ c ∈ pad, isBlank c = true) :
    trimEnd (cs ++ pad) = trimEnd cs := by
  have hreverse : ∀ c ∈ pad.reverse, isBlank c = true := fun c hc => h c (List.mem_reverse.mp hc)
  rw [trimEnd, List.reverse_append, List.dropWhile_append_of_pos hreverse, trimEnd]

theorem trim_append_right (cs : List Char) (h : ∀ c ∈ pad, isBlank c = true) :
    trim (cs ++ pad) = trim cs := by
  have hpad : trimStart pad = [] := List.dropWhile_eq_nil_iff.mpr h
  rw [trim, trimStart, List.dropWhile_append]
  split
  · next hcs =>
      rw [show pad.dropWhile isBlank = [] from hpad, trim, trimStart, List.isEmpty_iff.mp hcs]
  · exact trimEnd_append_right (trimStart cs) h

theorem words_blanks (h : ∀ c ∈ pad, isBlank c = true) : words pad = [] := by
  induction pad with
  | nil => rfl
  | cons c pad ih =>
      have hrest : words pad = [] := ih fun d hd => h d (List.mem_cons_of_mem c hd)
      rw [← List.nil_append (c :: pad), words_append_blank [] pad (h c List.mem_cons_self), hrest]
      rfl

theorem words_append_right (cs : List Char) (h : ∀ c ∈ pad, isBlank c = true) :
    words (cs ++ pad) = words cs := by
  cases pad with
  | nil => rw [List.append_nil]
  | cons c pad =>
      have hpad : words pad = [] := words_blanks fun d hd => h d (List.mem_cons_of_mem c hd)
      rw [words_append_blank cs pad (h c List.mem_cons_self), hpad, List.append_nil]

/-- The first line of a text, and what follows its end: a line feed, a carriage return and a line
feed, or the end of the text. Behind the last line feed there is a line only if it is not empty. -/
inductive FirstLine (line : List Char) : List Char → List Char → Prop where
  | feed (rest : List Char) : FirstLine line rest (line ++ '\n' :: rest)
  | returnFeed (rest : List Char) : FirstLine line rest (line ++ '\r' :: '\n' :: rest)
  | last (h : line ≠ []) : FirstLine line [] line

inductive LineOrigin where
  | kept
  | inserted
deriving DecidableEq, Repr

/-- A line that says nothing: it is blank, or its first sign is the one of comments. -/
def SaysNothing (line : List Char) : Prop :=
  ∀ c ∈ (trimStart line).head?, c = '#'

instance (line : List Char) : Decidable (SaysNothing line) :=
  decidable_of_iff ((trimStart line).head?.all (· == '#') = true) <| by
    cases hfirst : (trimStart line).head? <;> simp [SaysNothing, hfirst]

/-- The new text is the old one in another layout: lines that say nothing are inserted, blanks are
put behind the lines that are kept, and any of them can end in another way. -/
inductive Relaid : List LineOrigin → List Char → List Char → Prop where
  | nil : Relaid [] [] []
  | keep {origins : List LineOrigin} {line pad old oldRest new newRest : List Char}
    (hold : FirstLine line oldRest old) (hnew : FirstLine (line ++ pad) newRest new)
    (hfeed : '\n' ∉ line ++ pad) (hpad : ∀ c ∈ pad, isBlank c = true)
    (hrest : Relaid origins oldRest newRest) : Relaid (.kept :: origins) old new
  | insert {origins : List LineOrigin} {line old new newRest : List Char}
    (hnew : FirstLine line newRest new) (hfeed : '\n' ∉ line) (hnothing : SaysNothing line)
    (hrest : Relaid origins old newRest) : Relaid (.inserted :: origins) old new

/-- The number of lines that are inserted in front of a line of the old text, which is counted from
1. -/
def insertedBefore : List LineOrigin → Nat → Nat
  | .inserted :: origins, line => insertedBefore origins line + 1
  | .kept :: origins, line + 2 => insertedBefore origins (line + 1)
  | _, _ => 0

theorem lines_feed {line : List Char} (rest : List Char) (h : '\n' ∉ line) :
    lines (line ++ '\n' :: rest) = dropReturn line :: lines rest := by
  obtain ⟨piece, pieces, hpieces⟩ := List.exists_cons_of_ne_nil (List.splitOn_ne_nil '\n' rest)
  simp only [lines, splitOn_part_cons rest h, hpieces]
  rfl

/-- The lines of a text are its first one, up to blanks behind it, and those of the rest. A carriage
return before the line feed counts as a blank here. -/
theorem FirstLine.exists_lines {line rest text : List Char} (h : FirstLine line rest text)
    (hfeed : '\n' ∉ line) :
    ∃ raw, lines text = raw :: lines rest ∧ trimEnd raw = trimEnd line := by
  cases h with
  | feed =>
      refine ⟨dropReturn line, lines_feed rest hfeed, ?_⟩
      rw [dropReturn]
      split
      · next hreturn =>
          obtain ⟨start, rfl⟩ := List.getLast?_eq_some_iff.mp hreturn
          have hblank : ∀ c ∈ ['\r'], isBlank c = true := List.all_eq_true.mp (by decide)
          rw [List.dropLast_concat, trimEnd_append_right start hblank]
      · rfl
  | returnFeed =>
      have hreturn : '\n' ∉ line ++ ['\r'] := by simpa using hfeed
      refine ⟨line, ?_, rfl⟩
      have htext : line ++ '\r' :: '\n' :: rest = (line ++ ['\r']) ++ '\n' :: rest := by simp
      rw [htext, lines_feed rest hreturn]
      simp [dropReturn]
  | last hne =>
      refine ⟨line, ?_, rfl⟩
      rw [lines, splitOn_no_sep hfeed]
      simp [hne]
      rfl

end LayoutSpec.Text
