import LayoutSpec.Yaml.Scalar

/-!
The tokens of a YAML text. Besides the signs and scalars of the text there are tokens for what only
the layout shows: where block collections start and end, and what is a key. That something is a key
is found out at the colon behind it; then the token for the key is put in front of it.
-/

namespace LayoutSpec.Yaml

inductive Token where
  | version (major minor : Nat)
  | tagHandle (handle start : List Char)
  | documentStart | documentEnd
  | blockSequence | blockMapping | blockEnd
  | flowSequence | flowSequenceEnd | flowMapping | flowMappingEnd
  | entry | comma | key | value
  | reference (name : List Char)
  | anchor (name : List Char)
  | tag (handle rest : List Char)
  | scalar (style : ScalarStyle) (text : List Char)
deriving DecidableEq, Repr

/-- A place where a key may have started: the number of tokens before it and its position. It is
required to be a key if nothing else can stand at its indentation. -/
structure KeyPlace where
  tokens : Nat
  mark : Mark
  required : Bool

/-- A partly read text: the tokens so far, the last one first, and their number; the indentation of
the innermost block and of those around it, `-1` outside of all blocks; for the innermost flow
collection and those around it, up to the block, the place where a key may have started; and whether
a key may start here. -/
structure Layout where
  cursor : Cursor
  tokens : List Token := []
  count : Nat := 0
  indent : Int := -1
  outerIndents : List Int := []
  keyPlace : Option KeyPlace := none
  outerKeyPlaces : List (Option KeyPlace) := []
  keyAllowed : Bool := true

namespace Layout

def inFlow (l : Layout) : Bool :=
  !l.outerKeyPlaces.isEmpty

def moveTo (cursor : Cursor) (l : Layout) : Layout :=
  { l with cursor }

def push (t : Token) (l : Layout) : Layout :=
  { l with tokens := t :: l.tokens, count := l.count + 1 }

/-- The layout with one more token, behind a sign of some characters. -/
def pushSign (t : Token) (length : Nat) (l : Layout) : Layout :=
  (l.push t).moveTo (l.cursor.forward length)

/-- The layout with one more token between the others. -/
def insert (place : Nat) (t : Token) (l : Layout) : Layout :=
  { l with tokens := l.tokens.insertIdx (l.count - place) t, count := l.count + 1 }

/-- Opens a block collection at a column, unless there is one. -/
def openBlock (column place : Nat) (t : Token) (l : Layout) : Layout :=
  if !l.inFlow && l.indent < column then
    { l.insert place t with indent := column, outerIndents := l.indent :: l.outerIndents }
  else l

/-- Closes the block collections that are indented by more than a column. -/
def closeBlocks (column : Int) (l : Layout) : Layout :=
  if l.inFlow then l
  else
    let rec close (indent : Int) (l : Layout) : List Int → Layout
      | [] => { l with indent, outerIndents := [] }
      | outer :: others =>
        if column < indent then close outer (l.push .blockEnd) others
        else { l with indent, outerIndents := outer :: others }
    close l.indent l l.outerIndents

/-- Nothing before this position can be a key any more. -/
def dropKey? (l : Layout) : Option Layout :=
  match l.keyPlace with
  | some place => if place.required then none else some { l with keyPlace := none }
  | none => some l

/-- Drops the places whose key would be too long or would run over several lines. -/
def dropStaleKeys? (l : Layout) : Option Layout :=
  let isStale (place : KeyPlace) : Bool :=
    place.mark.line < l.cursor.mark.line || place.mark.index + 1024 < l.cursor.mark.index
  let drop? : Option KeyPlace → Option (Option KeyPlace)
    | some place =>
      if !isStale place then some (some place) else if place.required then none else some none
    | none => some none
  do return { l with
    keyPlace := ← drop? l.keyPlace, outerKeyPlaces := ← l.outerKeyPlaces.mapM drop? }

/-- Notes that a key may start here. -/
def noteKey? (l : Layout) : Option Layout :=
  if l.keyAllowed then do
    let l ← l.dropKey?
    return { l with
      keyPlace := some ⟨l.count, l.cursor.mark, !l.inFlow && l.indent = l.cursor.mark.column⟩ }
  else some l

def setKeyAllowed (allowed : Bool) (l : Layout) : Layout :=
  { l with keyAllowed := allowed }

/-- The position of the next token. Tabs count as white space where no key can start. -/
def skipToToken (l : Layout) : Layout :=
  let rec skip (inFlow keyAllowed comment : Bool) (m : Mark) (text : List Char) : Bool × Cursor :=
    match text with
    | [] => (keyAllowed, ⟨m, []⟩)
    | '\r' :: '\n' :: rest => skip inFlow (keyAllowed || !inFlow) false (m.nextLine 2) rest
    | c :: rest =>
      if isBreak c then skip inFlow (keyAllowed || !inFlow) false (m.nextLine 1) rest
      else if comment || c = '#' then skip inFlow keyAllowed true (m.forward 1) rest
      else if c = ' ' || c = '\t' && (inFlow || !keyAllowed) || c = '\ufeff' && m.column = 0 then
        skip inFlow keyAllowed false (m.forward 1) rest
      else (keyAllowed, ⟨m, text⟩)
  let (keyAllowed, cursor) := skip l.inFlow l.keyAllowed false l.cursor.mark l.cursor.rest
  { l with keyAllowed, cursor }

/-- The marker of a document's start or end. -/
def documentMarker? (t : Token) (l : Layout) : Option Layout := do
  let l ← (l.closeBlocks (-1)).dropKey?
  return (l.pushSign t 3).setKeyAllowed false

/-- The numeral of a version has nine digits at most. -/
def versionPart? (here : Cursor) : Option (Nat × Cursor) := do
  let (digits, next) := here.takeWhile Char.isDigit
  guard (digits.length ≤ 9)
  return (← Text.numeral? 10 digits, next)

/-- The text of a tag with its escaped bytes resolved; `pending` more bytes belong to a character
whose bits so far are `value`. -/
def tagChars? (pending value : Nat) : List Char → Option (List Char)
  | [] => if pending = 0 then some [] else none
  | '%' :: a :: b :: rest => do
    let byte ← Text.numeral? 16 [a, b]
    if 0 < pending then
      guard (byte / 64 = 2)
      let value := value * 64 + byte % 64
      let others ← tagChars? (pending - 1) value rest
      return if pending = 1 then (Text.char? value).getD '\ufffd' :: others else others
    else if byte < 0x80 then return Char.ofNat byte :: (← tagChars? 0 0 rest)
    else if byte / 32 = 6 then tagChars? 1 (byte % 32) rest
    else if byte / 16 = 14 then tagChars? 2 (byte % 16) rest
    else if byte / 8 = 30 then tagChars? 3 (byte % 8) rest
    else none
  | c :: rest =>
    if c = '%' || 0 < pending then none else (tagChars? 0 0 rest).map (c :: ·)

/-- The characters that a tag consists of. -/
def isTagChar (verbatim : Bool) (c : Char) : Bool :=
  isNameChar c || ";/?:@&=+$.%!~*'()".toList.contains c
    || verbatim && (c = ',' || c = '[' || c = ']')

/-- The text of a tag with its escapes resolved. -/
def tagText? (verbatim : Bool) (here : Cursor) : Option (List Char × Cursor) :=
  let (text, next) := here.takeWhile (isTagChar verbatim)
  (tagChars? 0 0 text).map (·, next)

/-- A tag handle such as `!`, `!!` or `!name!`, and whether it ends with an exclamation mark of its
own. -/
def tagHandle? (here : Cursor) : Option (List Char × Bool × Cursor) :=
  if here.rest.head? ≠ some '!' then none
  else
    let (name, next) := (here.forward 1).takeWhile isNameChar
    if next.rest.head? = some '!' then some ('!' :: name ++ ['!'], true, next.forward 1)
    else some ('!' :: name, false, next)

def directive? (l : Layout) : Option Layout := do
  let l ← (l.closeBlocks (-1)).dropKey?
  let (name, next) := (l.cursor.forward 1).takeWhile isNameChar
  guard (endsToken next.rest)
  let (token, next) ←
    match String.ofList name with
    | "YAML" => do
      let (major, next) ← versionPart? (next.skipWhile isSpace)
      guard (next.rest.head? = some '.')
      let (minor, next) ← versionPart? (next.forward 1)
      some (Token.version major minor, next)
    | "TAG" => do
      let (handle, closed, next) ← tagHandle? (next.skipWhile isSpace)
      guard (closed || handle = ['!'])
      guard (next.rest.head?.any isSpace)
      let (start, next) ← tagText? true (next.skipWhile isSpace)
      guard (!start.isEmpty && endsToken next.rest)
      some (Token.tagHandle handle start, next)
    | _ => none
  let next ← next.skipLine?
  return ((l.push token).moveTo next).setKeyAllowed false

def flowStart? (t : Token) (l : Layout) : Option Layout := do
  let l ← l.noteKey?
  return { l.pushSign t 1 with
    keyPlace := none
    outerKeyPlaces := l.keyPlace :: l.outerKeyPlaces
    keyAllowed := true }

def flowEnd? (t : Token) (l : Layout) : Option Layout := do
  let l ← l.dropKey?
  let l := (l.pushSign t 1).setKeyAllowed false
  match l.outerKeyPlaces with
  | [] => return l
  | place :: others => return { l with keyPlace := place, outerKeyPlaces := others }

/-- The comma between the entries of a flow collection. -/
def comma? (l : Layout) : Option Layout := do
  let l ← l.dropKey?
  return (l.pushSign .comma 1).setKeyAllowed true

/-- The hyphen of a block sequence's entry. -/
def entry? (l : Layout) : Option Layout := do
  guard (l.inFlow || l.keyAllowed)
  let l ← (l.openBlock l.cursor.mark.column l.count .blockSequence).dropKey?
  return (l.pushSign .entry 1).setKeyAllowed true

/-- The question mark before a key. -/
def key? (l : Layout) : Option Layout := do
  guard (l.inFlow || l.keyAllowed)
  let l ← (l.openBlock l.cursor.mark.column l.count .blockMapping).dropKey?
  return (l.pushSign .key 1).setKeyAllowed (!l.inFlow)

/-- The colon before a value. If a key may have started before it, that was one. -/
def value? (l : Layout) : Option Layout :=
  match l.keyPlace with
  | some place =>
    let l := (l.insert place.tokens .key).openBlock place.mark.column place.tokens .blockMapping
    some { (l.pushSign .value 1).setKeyAllowed false with keyPlace := none }
  | none => do
    guard (l.inFlow || l.keyAllowed)
    let l := l.openBlock l.cursor.mark.column l.count .blockMapping
    return (l.pushSign .value 1).setKeyAllowed (!l.inFlow)

/-- The name of an anchor or of a reference to one. -/
def name? (t : List Char → Token) (l : Layout) : Option Layout := do
  let l ← l.noteKey?
  let (name, next) := (l.cursor.forward 1).takeWhile isNameChar
  guard (!name.isEmpty)
  guard (endsToken next.rest || next.rest.head?.any ("?:,]%@".toList ++ ['}', '\x60']).contains)
  return ((l.push (t name)).moveTo next).setKeyAllowed false

/-- A tag, which is a handle and a text behind it, or a text between angle brackets. -/
def tag? (l : Layout) : Option Layout := do
  let l ← l.noteKey?
  let (token, next) ←
    if (l.cursor.rest.drop 1).head? = some '<' then do
      let (text, next) ← tagText? true (l.cursor.forward 2)
      guard (!text.isEmpty && next.rest.head? = some '>')
      some (Token.tag [] text, next.forward 1)
    else do
      let (handle, closed, next) ← tagHandle? l.cursor
      let (text, next) ← tagText? false next
      if closed then do
        guard (!text.isEmpty)
        some (Token.tag handle text, next)
      else
        let text := handle.drop 1 ++ text
        some (if text.isEmpty then Token.tag [] ['!'] else Token.tag ['!'] text, next)
  guard (endsToken next.rest || l.inFlow && next.rest.head? = some ',')
  return ((l.push token).moveTo next).setKeyAllowed false

def block? (style : ScalarStyle) (l : Layout) : Option Layout := do
  let l ← l.dropKey?
  let scanned ← blockFrom? (style = .folded) l.indent (l.cursor.forward 1)
  return ((l.push (.scalar style scanned.text)).moveTo scanned.next).setKeyAllowed true

def quoted? (quote : Char) (l : Layout) : Option Layout := do
  let l ← l.noteKey?
  let start := l.cursor.forward 1
  let scanned ← quotedFrom? quote 0 start.mark {} start.rest
  return ((l.push (.scalar .quoted scanned.text)).moveTo scanned.next).setKeyAllowed false

/-- A plain scalar. A key may start behind it if it ends with a line. -/
def plain? (l : Layout) : Option Layout := do
  let l ← l.noteKey?
  let scanned ← plainFrom? l.inFlow (l.indent + 1).toNat l.cursor.mark {} l.cursor.rest
  return ((l.push (.scalar .plain scanned.text)).moveTo scanned.next).setKeyAllowed scanned.broken

/-- Whether a plain scalar starts with these characters. -/
def startsPlain (inFlow : Bool) (c : Char) (rest : List Char) : Bool :=
  if c = '-' then !rest.head?.any isSpace
  else if c = '?' || c = ':' then !inFlow && !endsToken rest
  else !("#&*!|>'\"%@".toList ++ ['\x60']).contains c && !isFlowSign c && !isSpace c && !isBreak c

/-- Reads the token that starts with a character. -/
def token? (c : Char) (rest : List Char) (l : Layout) : Option Layout :=
  let lineStart : Bool := l.cursor.mark.column = 0
  if lineStart && c = '%' then l.directive?
  else if lineStart && startsWithMarker (c :: rest) then
    l.documentMarker? (if c = '-' then .documentStart else .documentEnd)
  else
    match c with
    | '[' => l.flowStart? .flowSequence
    | '{' => l.flowStart? .flowMapping
    | ']' => l.flowEnd? .flowSequenceEnd
    | '}' => l.flowEnd? .flowMappingEnd
    | ',' => l.comma?
    | c =>
      if c = '-' && endsToken rest then l.entry?
      else if c = '?' && (l.inFlow || endsToken rest) then l.key?
      else if c = ':' && (l.inFlow || endsToken rest) then l.value?
      else
        match c with
        | '*' => l.name? .reference
        | '&' => l.name? .anchor
        | '!' => l.tag?
        | '\'' | '"' => l.quoted? c
        | c =>
          if c = '|' && !l.inFlow then l.block? .literal
          else if c = '>' && !l.inFlow then l.block? .folded
          else if startsPlain l.inFlow c rest then l.plain?
          else none

/-- The tokens from here on, at most `fuel` of them. -/
def tokens? (fuel : Nat) (l : Layout) : Option (List Token) :=
  match fuel with
  | 0 => none
  | fuel + 1 => do
    let l ← l.skipToToken.dropStaleKeys?
    let l := l.closeBlocks l.cursor.mark.column
    match l.cursor.rest with
    | [] => do
      let l ← (l.closeBlocks (-1)).dropKey?
      return l.tokens.reverse
    | c :: rest => do
      let l ← l.token? c rest
      l.tokens? fuel

end Layout

/-- The tokens of a text. Each of them takes a character at least. -/
def Token.ofText? (text : List Char) : Option (List Token) := do
  guard (text.all isAllowed)
  Layout.tokens? (text.length + 1) { cursor := ⟨{}, text⟩ }

end LayoutSpec.Yaml
