/-!
Text between double quotes. A backslash inside stands before a quote or a backslash that belongs
to the text.
-/

namespace LayoutSpec.Text

/-- The text with a backslash before every double quote and every backslash. -/
def escape (cs : List Char) : List Char :=
  cs.flatMap fun c => if c = '"' ∨ c = '\\' then ['\\', c] else [c]

/-- The text between double quotes, escaped. -/
def quote (cs : List Char) : List Char :=
  '"' :: escape cs ++ ['"']

/-- What is read behind an opening quote: the text and what follows the closing quote, or `none`
if nothing closes it. A backslash gives the character after it, whichever that is. -/
def unquote : List Char → Option (List Char × List Char)
  | [] => none
  | '"' :: rest => some ([], rest)
  | ['\\'] => none
  | '\\' :: c :: rest => (unquote rest).map fun (text, left) => (c :: text, left)
  | c :: rest => (unquote rest).map fun (text, left) => (c :: text, left)

/-- Behind its opening quote a quoted text reads back, whatever follows it. -/
theorem unquote_escape (cs rest : List Char) :
    unquote (escape cs ++ '"' :: rest) = some (cs, rest) := by
  induction cs with
  | nil => rfl
  | cons c cs ih =>
    by_cases h : c = '"' ∨ c = '\\'
    · have heq : escape (c :: cs) = '\\' :: c :: escape cs := by simp [escape, h]
      rw [heq]
      simp [unquote, ih]
    · have heq : escape (c :: cs) = c :: escape cs := by simp [escape, h]
      rw [heq, List.cons_append, unquote]
      · simp [ih]
      all_goals grind

end LayoutSpec.Text
