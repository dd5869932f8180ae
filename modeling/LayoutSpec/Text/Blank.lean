/-!
White space, and the few ways in which a line is cut at it. Every reader of the library works on
`List Char`, so each function here is a composition of `takeWhile`, `dropWhile` and `splitOnP`.
-/

namespace LayoutSpec.Text

/-- The White_Space property of Unicode. The information separators U+001C to U+001F, the zero
width space and the byte order mark do not have it. -/
def isBlank (c : Char) : Bool :=
  let n := c.toNat
  (9 ≤ n && n ≤ 13) || n == 0x20 || n == 0x85 || n == 0xA0 || n == 0x1680
    || (0x2000 ≤ n && n ≤ 0x200A) || n == 0x2028 || n == 0x2029 || n == 0x202F
    || n == 0x205F || n == 0x3000

def trimStart (cs : List Char) : List Char :=
  cs.dropWhile isBlank

def trimEnd (cs : List Char) : List Char :=
  (cs.reverse.dropWhile isBlank).reverse

def trim (cs : List Char) : List Char :=
  trimEnd (trimStart cs)

/-- The maximal runs without a blank. -/
def words (cs : List Char) : List (List Char) :=
  (cs.splitOnP isBlank).filter (!·.isEmpty)

/-- The text before and after the first character in the class, which is dropped. -/
def cutAt (p : Char → Bool) (cs : List Char) : Option (List Char × List Char) :=
  match cs.dropWhile (!p ·) with
  | [] => none
  | _ :: rest => some (cs.takeWhile (!p ·), rest)

/-- The items of a list whose separator is `sep`, trimmed, without the empty ones. A separator at
the end adds nothing. -/
def items (sep : Char) (cs : List Char) : List (List Char) :=
  ((cs.splitOn sep).map trim).filter (!·.isEmpty)

/-- The text with every occurrence of a character replaced. -/
def substitute (c : Char) (value : List Char) (cs : List Char) : List Char :=
  cs.flatMap fun d => if d = c then value else [d]

/-- The text with the given start taken off. -/
def stripStart? (start : List Char) (cs : List Char) : Option (List Char) :=
  if start.isPrefixOf cs then some (cs.drop start.length) else none

/-- A line without the carriage return before its line feed. -/
def dropReturn (line : List Char) : List Char :=
  if line.getLast? = some '\r' then line.dropLast else line

/-- The lines of a text. Each ends with a line feed or a carriage return and a line feed; the last
one may also end with the text, and an empty one there does not count. -/
def lines (cs : List Char) : List (List Char) :=
  let pieces := cs.splitOn '\n'
  pieces.dropLast.map dropReturn ++ [pieces.getLastD []].filter (!·.isEmpty)

end LayoutSpec.Text
