import LayoutSpec.SyntaxError

/-!
How an element is found on a page: a strategy, a query for it, and for one of several matches its
number.
-/

namespace LayoutSpec

open Text

/-- The way in which a query finds its elements. A page may know words of its own. -/
inductive Strategy where
  | css | xpath | id | tag
  | custom (word : String)
deriving DecidableEq, Repr

namespace Strategy

def ofWord : String → Strategy
  | "css" => .css
  | "xpath" => .xpath
  | "id" => .id
  | "tag" => .tag
  | word => .custom word

def word : Strategy → String
  | .css => "css"
  | .xpath => "xpath"
  | .id => "id"
  | .tag => "tag"
  | .custom word => word

/-- A strategy has the word from which it was made. -/
theorem word_ofWord (w : String) : (ofWord w).word = w := by
  unfold ofWord
  split <;> rfl

end Strategy

/-- How one element is found. The number of a match counts from 1. -/
structure Locator where
  strategy : Strategy
  value : String
  index : Option Nat := none
deriving DecidableEq, Repr

namespace Locator

/-- Reads a strategy word, a blank and a query. The query keeps its inner blanks. -/
def parse (text : List Char) : Except SyntaxCause Locator :=
  let text := trim text
  let missing := SyntaxCause.missingLocator (String.ofList text)
  match cutAt isBlank text with
  | none => .error missing
  | some (strategy, value) =>
    let value := trim value
    if strategy.isEmpty || value.isEmpty then .error missing
    else .ok { strategy := .ofWord (String.ofList strategy), value := String.ofList value }

def display (l : Locator) : String :=
  l.strategy.word ++ ": " ++ l.value
    ++ match l.index with
      | none => ""
      | some index => " [" ++ toString index ++ "]"

end Locator

end LayoutSpec
