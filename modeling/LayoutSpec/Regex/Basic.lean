import LayoutSpec.CharSet
import LayoutSpec.Unicode.Property

/-!
Regular expressions and where they match. An expression is run on all of its starting points at
once: it takes the set of the positions at which it starts to the set of those at which it can end.
-/

namespace LayoutSpec

/-- What a gap between characters has to look like. Words and lines are told apart by the characters
before and behind the gap. -/
inductive Look where
  | textStart | textEnd
  | lineStart | lineEnd
  /-- The start and the end of a line where carriage returns end lines too. -/
  | crlfStart | crlfEnd
  | wordEdge (word : CharSet) | noWordEdge (word : CharSet)
  | wordStart (word : CharSet) | wordEnd (word : CharSet)
  | noWordBefore (word : CharSet) | noWordBehind (word : CharSet)
deriving DecidableEq, Repr

inductive Regex where
  | empty
  | chars (set : CharSet)
  | look (kind : Look)
  | seq (first second : Regex)
  | alt (first second : Regex)
  /-- The expression as often as this, or more often if there is no upper bound. -/
  | times (body : Regex) (least : Nat) (most : Option Nat)
deriving DecidableEq, Repr

/-- The gap between two characters of a text: what is before and behind it. There is nothing before
the gap at the start of a text and nothing behind the one at its end. -/
structure Gap where
  before? : Option Char
  behind? : Option Char

namespace Look

/-- Whether a gap looks like this. -/
def holds (g : Gap) : Look → Bool
  | textStart => g.before?.isNone
  | textEnd => g.behind?.isNone
  | lineStart => g.before?.all (· = '\n')
  | lineEnd => g.behind?.all (· = '\n')
  | crlfStart =>
    g.before?.all fun c => c = '\n' || c = '\r' && g.behind? ≠ some '\n'
  | crlfEnd =>
    g.behind?.all fun c => c = '\r' || c = '\n' && g.before? ≠ some '\r'
  | wordEdge word => g.before?.any word.contains != g.behind?.any word.contains
  | noWordEdge word => g.before?.any word.contains == g.behind?.any word.contains
  | wordStart word => !g.before?.any word.contains && g.behind?.any word.contains
  | wordEnd word => g.before?.any word.contains && !g.behind?.any word.contains
  | noWordBefore word => !g.before?.any word.contains
  | noWordBehind word => !g.behind?.any word.contains

end Look

/-- A set of gaps in a text of `n` characters: `n + 1` marks, of which the first one is for its
start. -/
abbrev Gaps := List Bool

namespace Gaps

def union (a b : Gaps) : Gaps :=
  List.zipWith (· || ·) a b

/-- The gaps behind the characters of a set that follow some gaps. -/
def step (text : List Char) (set : CharSet) (starts : Gaps) : Gaps :=
  false :: List.zipWith (fun start c => start && set.contains c) starts text

/-- A function on sets of gaps a number of times. -/
def power (f : Gaps → Gaps) : Nat → Gaps → Gaps
  | 0, starts => starts
  | count + 1, starts => power f count (f starts)

/-- What is reached from some gaps by a function up to a number of times. -/
def reach (f : Gaps → Gaps) : Nat → Gaps → Gaps
  | 0, starts => starts
  | count + 1, starts =>
    let next := starts.union (f starts)
    if next = starts then starts else reach f count next

end Gaps

/-- The gaps of a text, from its start to its end. There is one more than there are characters. -/
def gapsOf (text : List Char) : List Gap :=
  List.zipWith Gap.mk (none :: text.map some) (text.map some ++ [none])

namespace Regex

def never : Regex := .chars .empty

def seqAll : List Regex → Regex
  | [] => .empty
  | [r] => r
  | r :: rest => .seq r (seqAll rest)

def altAll : List Regex → Regex
  | [] => never
  | [r] => r
  | r :: rest => .alt r (altAll rest)

/-- Where matches of an expression end that start at some gaps. Of repetitions beyond the number of
characters all but one have to be empty, so that further ones reach no other gaps. -/
def ends (text : List Char) : Regex → Gaps → Gaps
  | empty, starts => starts
  | chars set, starts => starts.step text set
  | look kind, starts =>
    List.zipWith (fun start gap => start && kind.holds gap) starts (gapsOf text)
  | seq first second, starts => second.ends text (first.ends text starts)
  | alt first second, starts => (first.ends text starts).union (second.ends text starts)
  | times body least most, starts =>
    let bound := text.length + 1
    let first := Gaps.power (body.ends text) (min least bound) starts
    Gaps.reach (body.ends text) (most.elim bound fun most => min (most - least) bound) first

def isMatch (r : Regex) (text : List Char) : Bool :=
  (r.ends text (List.replicate (text.length + 1) true)).any id

/-- Whether an expression matches the empty text alone: it is made of looks at the gap where it
stands. -/
def isZeroWidth : Regex → Bool
  | empty | look _ => true
  | chars _ => false
  | seq first second | alt first second => first.isZeroWidth && second.isZeroWidth
  | times body _ most => most = some 0 || body.isZeroWidth

/-- Whether the first parts of an expression tie it to the start of a text. Such an expression needs
no search in front of it. -/
def isAnchored : Regex → Bool
  | empty | chars _ => false
  | look kind => kind = .textStart
  | seq first second => first.isAnchored || first.isZeroWidth && second.isAnchored
  | alt first second => first.isAnchored && second.isAnchored
  | times body least _ => 0 < least && body.isAnchored

end Regex

/-- The bytes for the branches of a run of code points. It is one range if they follow each other,
and one for each of them otherwise. Beyond ASCII the encodings of several bytes take up more. -/
def Unicode.Run.weight (r : Unicode.Run) : Nat :=
  let ranges := if r.step = 1 then 1 else (r.last - r.first) / r.step + 1
  ranges * (if r.last < 0x80 then 8 else 70)

namespace CharSet

/-- The bytes for the branches of a set. -/
def branchWeight : CharSet → Nat
  | .runs rs => rs.foldl (fun total r => total + r.weight) 0
  | .union a b | .inter a b | .diff a b | .symmDiff a b => a.branchWeight + b.branchWeight
  | .complement a => a.branchWeight + 352
  | .anyCase a | .anyAsciiCase a => 2 * a.branchWeight

/-- The bytes that a set takes up in an automaton. A single character has a state for each byte of
its encoding; any other set has one from which branches lead to a common end. -/
def weight (s : CharSet) : Nat :=
  match s with
  | .runs [r] => if r.first = r.last then 32 * (Char.ofNat r.first).utf8Size else 64 + r.weight
  | s => 64 + s.branchWeight

end CharSet

namespace Regex

/-- The bytes that the states of an expression take up in an automaton, where repetitions are
written out. This is what the library counts for characters, ASCII sets whose ranges are apart, such
sets negated (as the dot is), looks, and a row of these of which any may be repeated with a star, a
plus or a question mark. Patterns with stars and suite filters are of this kind. For other
expressions it is an estimate: groups that capture, alternatives and sets beyond ASCII take up more
or less there. -/
def weight : Regex → Nat
  | empty => 0
  | look _ => 32
  | chars set => set.weight
  | seq first second => first.weight + second.weight
  | alt first second => first.weight + second.weight + 32
  | times body least most =>
    if body.isZeroWidth then body.weight
    else
      match most with
      | none => max least 1 * body.weight + 40
      | some most =>
        least * body.weight + (most - least) * (body.weight + 40) + if least < most then 32 else 0

/-- The bytes of the whole automaton. Besides the states of the expression there are those for the
bounds of a match and its end, and for the way to its start, which is a loop unless the expression
is anchored. -/
def size (r : Regex) : Nat :=
  r.weight + if r.isAnchored then 128 else 208

/-- The bytes that an automaton may take up. -/
def maxSize : Nat := 10485760

end Regex

end LayoutSpec
