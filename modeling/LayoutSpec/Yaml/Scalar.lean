import LayoutSpec.Text.Radix
import LayoutSpec.Yaml.Cursor

/-!
Reading scalars: plain ones, quoted ones and blocks. Where a scalar runs over several lines, a
single line break between two of its parts is folded into a space.
-/

namespace LayoutSpec.Yaml

inductive ScalarStyle where
  | plain | quoted | literal | folded
deriving DecidableEq, Repr

/-- White space that belongs to a scalar only if more of its text follows. -/
structure Gap where
  blanks : List Char := []
  broken : Bool := false
  firstBreak : List Char := []
  laterBreaks : List Char := []

namespace Gap

def isEmpty (g : Gap) : Bool :=
  g.blanks.isEmpty && !g.broken

/-- A gap with one more blank. Blanks at the start of a line do not count. -/
def blank (g : Gap) (c : Char) : Gap :=
  if g.broken then g else { g with blanks := g.blanks ++ [c] }

/-- A gap with one more line break. Blanks at the end of a line do not count. -/
def lineBreak (g : Gap) (text : List Char) : Gap :=
  if g.broken then { g with laterBreaks := g.laterBreaks ++ text }
  else { broken := true, firstBreak := text }

/-- The gap behind a line break that is not part of the scalar. -/
def continued : Gap :=
  { broken := true }

/-- What a gap stands for when more text follows. -/
def text (g : Gap) : List Char :=
  if !g.broken then g.blanks
  else if g.firstBreak = ['\n'] then
    if g.laterBreaks.isEmpty then [' '] else g.laterBreaks
  else g.firstBreak ++ g.laterBreaks

end Gap

/-- A scalar's text, the position behind it, and whether the scanned text ends with a line break. -/
structure Scanned where
  text : List Char
  next : Cursor
  broken : Bool := false

/-- A scanned text with some characters before it. -/
def Scanned.after (before : List Char) (s : Scanned) : Scanned :=
  { s with text := before ++ s.text }

/-- A plain scalar from a position on. In a flow collection its end is also marked by the characters
of the collection; outside of one, lines have to be indented by at least `indent`. -/
def plainFrom? (inFlow : Bool) (indent : Nat) (m : Mark) (g : Gap) (text : List Char) :
    Option Scanned :=
  let done : Option Scanned := some ⟨[], ⟨m, text⟩, g.broken⟩
  match text with
  | [] => done
  | '\r' :: '\n' :: rest => plainFrom? inFlow indent (m.nextLine 2) (g.lineBreak ['\n']) rest
  | c :: rest =>
    if isBreak c then plainFrom? inFlow indent (m.nextLine 1) (g.lineBreak (breakText c)) rest
    else if isSpace c then
      if g.broken && m.column < indent && c = '\t' then none
      else plainFrom? inFlow indent (m.forward 1) (g.blank c) rest
    else if !g.isEmpty && (!inFlow && m.column < indent || c = '#') then done
    else if m.column = 0 && startsWithMarker (c :: rest) then done
    else if inFlow && c = ':' && rest.head?.any (fun d => d = '?' || isFlowSign d) then none
    else if c = ':' && endsToken rest then done
    else if inFlow && isFlowSign c then done
    else (plainFrom? inFlow indent (m.forward 1) {} rest).map (.after (g.text ++ [c]))

/-- The character that a letter stands for behind a backslash. -/
def escape? : Char → Option Char
  | '0' => some '\x00'
  | 'a' => some '\x07'
  | 'b' => some '\x08'
  | 't' | '\t' => some '\t'
  | 'n' => some '\n'
  | 'v' => some '\x0b'
  | 'f' => some '\x0c'
  | 'r' => some '\r'
  | 'e' => some '\x1b'
  | ' ' => some ' '
  | '"' => some '"'
  | '/' => some '/'
  | '\\' => some '\\'
  | 'N' => some '\u0085'
  | '_' => some '\u00a0'
  | 'L' => some '\u2028'
  | 'P' => some '\u2029'
  | _ => none

/-- How many hexadecimal digits follow a letter behind a backslash. -/
def escapeDigits : Char → Nat
  | 'x' => 2
  | 'u' => 4
  | 'U' => 8
  | _ => 0

/-- A quoted scalar behind its opening quote. The number `skip` counts the characters that an escape
has used already. -/
def quotedFrom? (quote : Char) (skip : Nat) (m : Mark) (g : Gap) : List Char → Option Scanned
  | [] => none
  | c :: rest =>
    if 0 < skip then quotedFrom? quote (skip - 1) m g rest
    else if isSpace c then quotedFrom? quote 0 (m.forward 1) (g.blank c) rest
    else if c = '\r' && rest.head? = some '\n' then
      quotedFrom? quote 1 (m.nextLine 2) (g.lineBreak ['\n']) rest
    else if isBreak c then quotedFrom? quote 0 (m.nextLine 1) (g.lineBreak (breakText c)) rest
    else if m.column = 0 && startsWithMarker (c :: rest) then none
    else if c = quote then
      if quote = '\'' && rest.head? = some '\'' then
        (quotedFrom? quote 1 (m.forward 2) {} rest).map (.after (g.text ++ ['\'']))
      else some ⟨g.text, ⟨m.forward 1, rest⟩, false⟩
    else if quote = '"' && c = '\\' then
      match rest with
      | [] => none
      | e :: tail =>
        if e = '\r' && tail.head? = some '\n' then
          (quotedFrom? quote 2 ((m.forward 1).nextLine 2) .continued rest).map (.after g.text)
        else if isBreak e then
          (quotedFrom? quote 1 ((m.forward 1).nextLine 1) .continued rest).map (.after g.text)
        else
          let count := escapeDigits e
          let value? :=
            if count = 0 then escape? e
            else if tail.length < count then none
            else (Text.numeral? 16 (tail.take count)).bind Text.char?
          match value? with
          | none => none
          | some value =>
            (quotedFrom? quote (count + 1) (m.forward (count + 2)) {} rest).map
              (.after (g.text ++ [value]))
    else (quotedFrom? quote 0 (m.forward 1) {} rest).map (.after (g.text ++ [c]))

/-- What is done with the line breaks at the end of a block: keep one, keep none, keep all. -/
inductive Chomping where
  | clip | strip | keep
deriving DecidableEq, Repr

/-- The signs behind the indicator of a block: its chomping and its indentation, 0 if that is not
given, in any order. -/
def blockHeader? (here : Cursor) : Option (Chomping × Nat × Cursor) :=
  let chomping? : Char → Option Chomping
    | '+' => some .keep
    | '-' => some .strip
    | _ => none
  let indentation? (c : Char) : Option Nat := if c.isDigit then some (c.toNat - 48) else none
  match here.rest with
  | [] => some (.clip, 0, here)
  | first :: rest =>
    let second := rest.head?
    match chomping? first, indentation? first with
    | some chomping, _ =>
      match second.bind indentation? with
      | none => some (chomping, 0, here.forward 1)
      | some 0 => none
      | some indentation => some (chomping, indentation, here.forward 2)
    | none, some 0 => none
    | none, some indentation =>
      match second.bind chomping? with
      | none => some (.clip, indentation, here.forward 1)
      | some chomping => some (chomping, indentation, here.forward 2)
    | none, none => some (.clip, 0, here)

/-- The empty lines before a line of a block: their breaks and the widest indentation of spaces. As
long as the indentation of the block is not known it is 0. -/
def blockBreaks? (indent widest : Nat) (m : Mark) (breaks : List Char) (text : List Char) :
    Option (List Char × Nat × Cursor) :=
  let unsettled := indent = 0 || m.column < indent
  match text with
  | ' ' :: rest =>
    if unsettled then blockBreaks? indent widest (m.forward 1) breaks rest
    else some (breaks, max widest m.column, ⟨m, text⟩)
  | '\r' :: '\n' :: rest =>
    blockBreaks? indent (max widest m.column) (m.nextLine 2) (breaks ++ ['\n']) rest
  | c :: rest =>
    if c = '\t' && unsettled then none
    else if isBreak c then
      blockBreaks? indent (max widest m.column) (m.nextLine 1) (breaks ++ breakText c) rest
    else some (breaks, max widest m.column, ⟨m, text⟩)
  | [] => some (breaks, max widest m.column, ⟨m, text⟩)

/-- The lines of a block. `last` is the break of the line before, `breaks` are those of empty lines
behind it, and `blank` tells whether that line started with white space. -/
def blockLines? (fuel : Nat) (folded : Bool) (chomping : Chomping) (indent : Nat)
    (last breaks : List Char) (blank : Bool) (here : Cursor) : Option Scanned :=
  match fuel with
  | 0 => none
  | fuel + 1 =>
    if here.mark.column = indent && !here.rest.isEmpty then do
      let startsBlank := here.rest.head?.any isSpace
      let between :=
        if folded && last = ['\n'] && !blank && !startsBlank then
          if breaks.isEmpty then [' '] else breaks
        else last ++ breaks
      let (line, behind) := here.takeWhile (!isBreak ·)
      let last := (behind.rest.head?.map breakText).getD []
      let next := behind.skipBreak
      let (breaks, _, next) ← blockBreaks? indent 0 next.mark [] next.rest
      let others ← blockLines? fuel folded chomping indent last breaks startsBlank next
      return others.after (between ++ line)
    else
      let tail := match chomping with
        | .strip => []
        | .clip => last
        | .keep => last ++ breaks
      some ⟨tail, here, false⟩

/-- A block scalar behind its indicator, in a block that is indented by `outer`. -/
def blockFrom? (folded : Bool) (outer : Int) (here : Cursor) : Option Scanned := do
  let (chomping, given, here) ← blockHeader? here
  let here ← here.skipLine?
  let indent := if given = 0 then 0 else (if 0 ≤ outer then outer.toNat + given else given)
  let (breaks, widest, here) ← blockBreaks? indent 0 here.mark [] here.rest
  let indent := if indent = 0 then max (max widest (outer + 1).toNat) 1 else indent
  blockLines? (here.rest.length + 1) folded chomping indent [] breaks false here

end LayoutSpec.Yaml
