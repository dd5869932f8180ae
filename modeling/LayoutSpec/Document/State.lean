import LayoutSpec.Constraint.Reader
import LayoutSpec.Document.Basic
import LayoutSpec.Document.Line
import LayoutSpec.Document.Parameters
import LayoutSpec.Error

/-!
Reading a spec line by line. The state after some lines holds the document so far, what the next
lines belong to, the conditional block that is being built, the groups that the next constraints
are added to, and the parameters that the next group will have.

What a line is at fault for is reported with its number where it is found. The parts of a line do
not know on which line they stand, and an error of an imported text has its own line already.
-/

namespace LayoutSpec

open Text

/-- What the next lines belong to. -/
inductive ReadMode where
  /-- A section in which no group was opened yet. -/
  | start
  /-- Object definitions. -/
  | objects
  /-- A section. -/
  | groups
  /-- The last statement of a conditional block. -/
  | statement
  /-- The body of a conditional block. -/
  | body
  /-- The branch of a conditional block that is checked if no statement holds. -/
  | otherwise
deriving DecidableEq, Repr

def ReadMode.inBlock : ReadMode → Bool
  | .statement | .body | .otherwise => true
  | .start | .objects | .groups => false

/-- The groups to which constraints are added: one per parameter value from the group number `first`
on, or one group if there are no values. -/
structure OpenGroups where
  first : Nat
  values : List String
deriving DecidableEq, Repr

/-- The state of a reading after some lines. -/
structure ReadState where
  document : Document
  mode : ReadMode
  /-- The number of the section to which groups and blocks are added. -/
  current : Nat
  block : Option ConditionalBlock
  openGroups : Option OpenGroups
  /-- The values of a parameter line that no group has taken yet. -/
  pending : Option (List String)
deriving DecidableEq, Repr

/-- Why the spec of an import line is not taken in: its file is being read already, its file cannot
be read, for a reason in words if there is one, or its text has an error. -/
inductive ImportFault where
  | cyclic
  | unreadable (source : Option String)
  | malformed (e : SyntaxError)
deriving DecidableEq, Repr

/-- The error of an import line. The first two faults are those of the line itself; an error of the
imported text stays where it was found, and gets the path as its file. -/
def ImportFault.error (number : Nat) (path : Path) : ImportFault → SyntaxError
  | .cyclic => .ofLine number (.cyclicImport path)
  | .unreadable source => { cause := .unreadableImport path, line := number, source }
  | .malformed e => e.inFile path

/-- What a reading needs besides the lines: the folder from which relative paths are seen, and how
the spec of an imported path is read. -/
structure ReadContext where
  base : Option Path
  importSpec : Path → Except ImportFault Document

namespace ReadState

/-- Before the first line there is one section without tags. -/
def initial : ReadState where
  document := { sections := [{}] }
  mode := .start
  current := 0
  block := none
  openGroups := none
  pending := none

def modifySection (f : Section → Section) (s : ReadState) : ReadState :=
  { s with document := { s.document with sections := s.document.sections.modify s.current f } }

/-- The groups to which a new group is added: those of the current section, or of the part of the
block that is being built. Between object markers there are none. -/
def groups? (s : ReadState) : Option (List Group) :=
  match s.mode with
  | .start | .groups => s.document.sections[s.current]?.map (·.groups)
  | .statement => s.block.bind fun b => b.statements.getLast?.map (·.groups)
  | .body => s.block.map (·.body)
  | .otherwise => s.block.bind (·.otherwise)
  | .objects => none

/-- Replaces the groups to which a new group is added. -/
def setGroups (groups : List Group) (s : ReadState) : ReadState :=
  match s.mode with
  | .start | .groups => s.modifySection fun sec => { sec with groups }
  | .statement =>
    { s with block := s.block.map fun b =>
        { b with statements := b.statements.modify (b.statements.length - 1) fun st =>
            { st with groups } } }
  | .body => { s with block := s.block.map fun b => { b with body := groups } }
  | .otherwise => { s with block := s.block.map fun b => { b with otherwise := some groups } }
  | .objects => s

/-- What a part of a line is read as. A fault of the part has no line yet, and gets that of the
line. -/
def onLine {α : Type} (number : Nat) (part : Except SyntaxCause α) : Except SyntaxError α :=
  part.mapError fun cause => SyntaxError.atLine number { cause }

def checkNoPending (number : Nat) (s : ReadState) : Except SyntaxError Unit :=
  if s.pending.isSome then .error (.ofLine number .danglingParameters) else .ok ()

def openSection (number : Nat) (tags : List Char) (s : ReadState) :
    Except SyntaxError ReadState := do
  if s.mode.inBlock then
    throw (.ofLine number .sectionInConditional)
  s.checkNoPending number
  let opened : Section := { tags := (items ',' tags).map String.ofList }
  return { s with
    document := { s.document with sections := s.document.sections ++ [opened] }
    current := s.document.sections.length
    mode := .start
    openGroups := none }

/-- The line around object definitions. The one behind them opens a section without tags, so that
groups that follow do not belong to the section in front. -/
def toggleObjects (number : Nat) (s : ReadState) : Except SyntaxError ReadState :=
  if s.mode.inBlock then .error (.ofLine number .objectsInConditional)
  else if s.mode = .objects then s.openSection number []
  else .ok { s with mode := .objects, openGroups := none }

/-- The definition of an object: its name, a blank and its locator. The name of an object must not
be a keyword. It takes the place of an earlier definition of the name. -/
def defineObject (number : Nat) (line : List Char) (s : ReadState) :
    Except SyntaxError ReadState :=
  match cutAt isBlank line with
  | none => .error (.ofLine number (.missingObjectLocator (String.ofList line)))
  | some (name, locator) =>
    if BlockKeyword.isReserved name then
      .error (.ofLine number (.reservedObjectName (String.ofList name)))
    else do
      let locator ← onLine number (Locator.parse locator)
      return { s with
        document := { s.document with
          objects := s.document.objects.insert (String.ofList name) locator } }

/-- The pattern of a group line, which may end with a colon. -/
def groupPattern (line : List Char) : List Char :=
  trim (if line.getLast? = some ':' then line.dropLast else line)

/-- Opens a group, or one per value of the parameter line above, in each of which the value stands
for the parameter sign. The values are used up then. -/
def openGroup (number : Nat) (line : List Char) (s : ReadState) : Except SyntaxError ReadState :=
  let pattern := groupPattern line
  if pattern.isEmpty then .error (.ofLine number .missingObjectName)
  else
    match s.groups? with
    | none => .error (.ofLine number .missingBlock)
    | some groups =>
      let pattern := String.ofList pattern
      let values := s.pending.getD []
      let opened : List Group :=
        if values.isEmpty then [{ pattern }]
        else values.map fun value => { pattern := substituteParameter value pattern }
      let s := s.setGroups (groups ++ opened)
      .ok { s with
        openGroups := some ⟨groups.length, values⟩
        pending := none
        mode := if s.mode = .start then .groups else s.mode }

/-- The constraints that a constraint line adds, one per open group. A parameter sign in it is
replaced by the value of the group. -/
def copies (c : Constraint) (values : List String) : List Constraint :=
  if values.isEmpty then [c] else values.map c.withParameter

def addEach : List Group → List Constraint → List Group
  | g :: groups, c :: cs => { g with constraints := g.constraints ++ [c] } :: addEach groups cs
  | groups, [] => groups
  | [], _ => []

/-- Adds a constraint to the open groups. It fails if no group was opened since the last line that
closed them all. -/
def addConstraint (base : Option Path) (number : Nat) (line : List Char) (s : ReadState) :
    Except SyntaxError ReadState :=
  match s.openGroups with
  | none => .error (.ofLine number (.orphanConstraint (String.ofList line)))
  | some opened => do
    let c ← onLine number (Constraint.parse base line)
    match s.groups? with
    | none => throw (.ofLine number .missingBlock)
    | some groups =>
      return s.setGroups
        (groups.take opened.first ++ addEach (groups.drop opened.first) (copies c opened.values))

/-- A line that belongs to the shape of a conditional block. Whether it has its place is decided by
the mode; the block that is being built goes to its section when it is closed. -/
def applyKeyword (number : Nat) (keyword : BlockKeyword) (s : ReadState) :
    Except SyntaxError ReadState :=
  match keyword, s.mode with
  | .statement false inverted, mode =>
    if mode.inBlock then .error (.ofLine number .nestedConditional)
    else .ok { s with
      block := some { statements := [{ inverted }] }
      mode := .statement
      openGroups := none }
  | .statement true inverted, .statement =>
    match s.block with
    | none => .error (.ofLine number .misplacedKeyword)
    | some b => .ok { s with
      block := some { b with statements := b.statements ++ [{ inverted }] }
      openGroups := none }
  | .body, .statement => .ok { s with mode := .body, openGroups := none }
  | .otherwise, .body =>
    match s.block with
    | none => .error (.ofLine number .misplacedKeyword)
    | some b => .ok { s with
      block := some { b with otherwise := some [] }
      mode := .otherwise
      openGroups := none }
  | .close, .statement => .error (.ofLine number .missingBody)
  | .close, .body | .close, .otherwise =>
    match s.block with
    | none => .error (.ofLine number .misplacedKeyword)
    | some b =>
      let s := s.modifySection fun sec => { sec with blocks := sec.blocks ++ [b] }
      .ok { s with block := none, mode := .groups, openGroups := none }
  | _, _ => .error (.ofLine number .misplacedKeyword)

/-- An instruction to the reader. There is one, `import`, which takes over the sections and objects
of another spec and leaves the rest of the state as it is. -/
def directive (context : ReadContext) (number : Nat) (text : List Char) (s : ReadState) :
    Except SyntaxError ReadState :=
  let (word, argument) := (cutAt isBlank text).getD (text, [])
  let argument := trim argument
  if word ≠ "import".toList then
    .error (.ofLine number (.unknownDirective (String.ofList word)))
  else if argument.isEmpty then
    .error (.ofLine number .missingImportPath)
  else do
    let path : Path := .from? context.base ⟨String.ofList argument⟩
    let imported ← (context.importSpec path).mapError (·.error number path)
    return { s with document := s.document.merge imported }

/-- The state behind one more line, which has the given number. Comments and instructions are the
same everywhere; between object markers all other lines are definitions. -/
def step (context : ReadContext) (number : Nat) (s : ReadState) (raw : List Char) :
    Except SyntaxError ReadState :=
  let line := trim raw
  match LineKind.of raw with
  | .idle => .ok s
  | .directive text => s.directive context number text
  | .marker => s.toggleObjects number
  | kind =>
    if s.mode = .objects then s.defineObject number line
    else
      match kind with
      | .tags text => s.openSection number text
      | .parameters =>
        match Parameters.parse? line with
        | some values => .ok { s with pending := some values }
        | none => .error (.ofLine number (.invalidParameters (String.ofList line)))
      | .keyword keyword => s.applyKeyword number keyword
      | .constraint => s.addConstraint context.base number line
      | .name => s.openGroup number line
      | _ => .ok s

/-- The document behind the last line, which has the given number. Conditional blocks are closed and
parameters used up by then, and sections in which nothing is asserted are dropped. -/
def finish (number : Nat) (s : ReadState) : Except SyntaxError Document := do
  if s.mode.inBlock then
    throw (.ofLine number .unclosedConditional)
  s.checkNoPending number
  return s.document.prune

/-- The state behind some lines, of which the first has the given number. The first line at fault
stops the reading, and its error is handed on as it is. -/
def run (context : ReadContext) : Nat → ReadState → List (List Char) → Except SyntaxError ReadState
  | _, s, [] => .ok s
  | number, s, raw :: rest =>
    match s.step context number raw with
    | .error e => .error e
    | .ok next => run context (number + 1) next rest

end ReadState

end LayoutSpec
