import LayoutSpec.Regex.Reader

/-!
Names with stars. What a star stands for depends on where the pattern is used; every other character
stands for itself. The source of a pattern is an expression that is compiled; here a pattern is
matched directly, and its expression tells whether it may be used at all.
-/

namespace LayoutSpec

/-- What a star stands for: a run of admitted characters, which may be empty or not. In an
expression the characters are written as `sign` and read as `set`. -/
structure Wildcard where
  admits : Char → Bool
  mayBeEmpty : Bool
  sign : String
  set : CharSet
  contains_set : ∀ c, set.contains c = admits c

/-- The characters that mean something in an expression. -/
def Regex.metas : List Char :=
  "\\.+*?()|[]\x7b\x7d^$#&-~".toList

def Regex.isMeta (c : Char) : Bool :=
  metas.contains c

/-- A text as an expression that matches nothing else. -/
def Regex.escape (cs : List Char) : List Char :=
  cs.flatMap fun c => if isMeta c then ['\\', c] else [c]

namespace Wildcard

/-- ASCII letters, digits and underscores. -/
def wordSet : CharSet :=
  .unionAll [.range 'A' 'Z', .range 'a' 'z', .range '0' '9', .single '_']

theorem contains_wordSet (c : Char) : wordSet.contains c = (c.isAlphanum || c = '_') := by
  have halphanum : c.isAlphanum = (decide ('A' ≤ c ∧ c ≤ 'Z')
      || (decide ('a' ≤ c) && decide (c ≤ 'z')) || (decide ('0' ≤ c) && decide (c ≤ '9'))) := rfl
  rw [halphanum, Bool.eq_iff_iff]
  simp only [wordSet, CharSet.unionAll, CharSet.contains_union, CharSet.contains_range,
    CharSet.contains_single, Bool.or_eq_true, Bool.and_eq_true, decide_eq_true_eq, or_assoc]

/-- Any character but a line feed. -/
def lineSet : CharSet :=
  .complement (.single '\n')

theorem contains_lineSet (c : Char) : lineSet.contains c = decide (c ≠ '\n') := by
  have hfeed : lineSet.contains c = !(CharSet.single '\n').contains c := rfl
  rw [hfeed, Bool.eq_iff_iff, Bool.not_eq_true', ← Bool.not_eq_true, CharSet.contains_single,
    decide_eq_true_iff]

/-- In an object pattern a star is one or more ASCII letters, digits and underscores. -/
def word : Wildcard where
  admits c := c.isAlphanum || c = '_'
  mayBeEmpty := false
  sign := "[A-Za-z0-9_]"
  set := wordSet
  contains_set := contains_wordSet

/-- In a suite filter a star is any run of characters within a line. It may be empty. -/
def anyText : Wildcard where
  admits c := c ≠ '\n'
  mayBeEmpty := true
  sign := "."
  set := lineSet
  contains_set := contains_lineSet

mutual

/-- Whether a pattern stands for a whole text. It answers directly what the expression of the
pattern is compiled for, one character after another. -/
def accepts (w : Wildcard) (pattern text : List Char) : Bool :=
  match pattern with
  | [] => text.isEmpty
  | p :: pattern =>
    if p = '*' then
      if w.mayBeEmpty then acceptsBehindStar w pattern text
      else
        match text with
        | [] => false
        | c :: text => w.admits c && acceptsBehindStar w pattern text
    else
      match text with
      | [] => false
      | c :: text => c = p && accepts w pattern text
termination_by (pattern.length, text.length, 0)

/-- Whether some more characters for the star and then the pattern stand for a text. -/
def acceptsBehindStar (w : Wildcard) (pattern text : List Char) : Bool :=
  accepts w pattern text
    || match text with
      | [] => false
      | c :: text => w.admits c && acceptsBehindStar w pattern text
termination_by (pattern.length, text.length, 1)

end

def star (w : Wildcard) : List Char :=
  w.sign.toList ++ [if w.mayBeEmpty then '*' else '+']

/-- The expression of a pattern as it is written: its pieces between the stars are escaped and put
together again with the expression of a star, between the ends of a text. -/
def source (w : Wildcard) (pattern : List Char) : List Char :=
  '^' :: (w.star.intercalate ((pattern.splitOn '*').map Regex.escape) ++ ['$'])

/-- What a character of a pattern matches. -/
def ofSign (w : Wildcard) (c : Char) : Regex :=
  if c = '*' then .times (.chars w.set) (if w.mayBeEmpty then 0 else 1) none
  else .chars (.single c)

def regex (w : Wildcard) (pattern : List Char) : Regex :=
  .seqAll (.look .textStart :: (pattern.map w.ofSign ++ [.look .textEnd]))

/-- Whether the expression of a pattern can be compiled. It is well formed whatever the characters
of the pattern are, but it may be too large. -/
def compiles (w : Wildcard) (pattern : List Char) : Bool :=
  (w.regex pattern).size ≤ Regex.maxSize

end Wildcard

end LayoutSpec
