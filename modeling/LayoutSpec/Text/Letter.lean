import LayoutSpec.Text.LetterTable

/-!
Letters of any script. A keyword ends where no letter follows, and a side is named by a run of
letters, so the class has to be that of Unicode and not of ASCII alone.
-/

namespace LayoutSpec.Text

/-- The Alphabetic property. ASCII is decided without the table. -/
def isLetter (c : Char) : Bool :=
  if c.val < 0x80 then c.isAlpha
  else letterRanges.any fun range => range.1 ≤ c.toNat && c.toNat ≤ range.2

end LayoutSpec.Text
