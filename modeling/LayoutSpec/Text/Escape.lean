import LayoutSpec.Unicode.Property

/-!
Texts inside of messages, between quotation marks. Signs that would not be seen are written with a
backslash, line feeds by a letter and most others by their code points.
-/

namespace LayoutSpec.Text

open Unicode

/-- Characters that leave no mark of their own. Of the blanks only the plain one is shown as itself.
-/
def unseen : CharSet :=
  .diff (.unionAll [inAny [controls, formats, privateUse, spaces, lineSeparators,
    paragraphSeparators], unassigned, graphemeExtenders]) (.single ' ')

def escapeChar (c : Char) : List Char :=
  match c with
  | '"' => ['\\', '"']
  | '\\' => ['\\', '\\']
  | '\n' => ['\\', 'n']
  | '\r' => ['\\', 'r']
  | '\t' => ['\\', 't']
  | '\x00' => ['\\', '0']
  | c =>
    if unseen.contains c then "\\u\x7b".toList ++ Nat.toDigits 16 c.toNat ++ ['\x7d'] else [c]

/-- A text as it stands in a message. -/
def escaped (text : String) : String :=
  String.ofList (['"'] ++ text.toList.flatMap escapeChar ++ ['"'])

end LayoutSpec.Text
