import LayoutSpec.Entries
import LayoutSpec.Yaml.Token

/-!
The nodes of a YAML document. A node may have a name, an anchor, by which other places of the
document refer to it; references are kept as numbers, so that a node may refer to one that it is in.
-/

namespace LayoutSpec.Yaml

/-- A node. Only scalars keep their tag. -/
inductive Node where
  | scalar (tag : Option (List Char)) (style : ScalarStyle) (text : List Char)
  | sequence (items : List Node)
  | mapping (entries : List (Node × Node))
  /-- A reference to the node with that number. -/
  | reference (number : Nat)
deriving Repr, Inhabited

namespace Node

/-- The node of a place where nothing is written. -/
def empty : Node := .scalar none .plain []

mutual

/-- The number of starts and ends of nodes; a scalar counts once. -/
def size : Node → Nat
  | .scalar .. | .reference _ => 1
  | .sequence items => 2 + sizeOfItems items
  | .mapping entries => 2 + sizeOfEntries entries

def sizeOfItems : List Node → Nat
  | [] => 0
  | item :: rest => size item + sizeOfItems rest

def sizeOfEntries : List (Node × Node) → Nat
  | [] => 0
  | (key, value) :: rest => size key + size value + sizeOfEntries rest

end

end Node

/-- A node with an anchor: the number by which it is referred to, and its place among the anchors.
-/
structure NamedNode where
  number : Nat
  place : Nat
  node : Node

/-- A document: its outermost node and the nodes that have anchors. -/
structure Graph where
  root : Node := .empty
  named : List NamedNode := []

/-- The node with a number. If two nodes have it, the one whose anchor stands later is meant. -/
def Graph.node? (g : Graph) (number : Nat) : Option Node :=
  let candidates := g.named.filter (·.number = number)
  let last := (candidates.map (·.place)).foldl max 0
  (candidates.find? (·.place = last)).map (·.node)

/-- The tokens that are left, the tag handles, the numbers of the anchors so far, how many anchors
there were, and their nodes. An anchor is numbered by how many different ones stand before it. -/
structure Composition where
  tokens : List Token
  handles : List (List Char × List Char) := []
  numbers : List (List Char × Nat) := []
  anchors : Nat := 0
  named : List NamedNode := []

abbrev Composing := StateT Composition Option

namespace Composing

def peek : Composing (Option Token) :=
  return (← get).tokens.head?

def skip : Composing Unit :=
  modify fun s => { s with tokens := s.tokens.tail }

def isNext (tokens : List Token) : Composing Bool :=
  return (← peek).any tokens.contains

/-- Passes over a token that has to come next. -/
def expect (t : Token) : Composing Unit := do
  guard (← isNext [t])
  skip

/-- The full tag of a handle and the text behind it. The tag `!` alone says nothing about a scalar.
-/
def resolveTag (handle rest : List Char) : Composing (List Char) :=
  if handle.isEmpty then return rest
  else do
    let start ← (← get).handles.lookup handle
    return start ++ rest

/-- The anchor and the tag before a node, in any order. -/
def properties : Composing (Option (List Char) × Option (List Char)) := do
  match ← peek with
  | some (.anchor name) =>
    skip
    match ← peek with
    | some (.tag handle rest) => do
      skip
      return (some name, some (← resolveTag handle rest))
    | _ => return (some name, none)
  | some (.tag handle rest) =>
    skip
    match ← peek with
    | some (.anchor name) => do
      skip
      return (some name, some (← resolveTag handle rest))
    | _ => return (none, some (← resolveTag handle rest))
  | _ => return (none, none)

/-- Reads the node of an anchor. The anchor can be referred to from its start on. -/
def named (name : Option (List Char)) (read : Composing Node) : Composing Node :=
  match name with
  | none => read
  | some name => do
    let s ← get
    let number := s.numbers.length
    let place := s.anchors
    set { s with numbers := putEntry name number s.numbers, anchors := place + 1 }
    let node ← read
    modify fun s => { s with named := ⟨number, place, node⟩ :: s.named }
    return node

mutual

/-- A node. Block collections cannot be inside flow collections; as a key or a value of a block a
sequence needs no indentation of its own. -/
def node (fuel : Nat) (inBlock flatSequence : Bool) : Composing Node :=
  match fuel with
  | 0 => failure
  | fuel + 1 => do
    match ← peek with
    | some (.reference name) =>
      skip
      return .reference (← (← get).numbers.lookup name)
    | _ =>
      let (name, tag) ← properties
      named name do
        let next ← peek
        if flatSequence && next = some .entry then return .sequence (← flatItems fuel)
        else if inBlock && next = some .blockSequence then
          skip
          return .sequence (← blockItems fuel)
        else if inBlock && next = some .blockMapping then
          skip
          return .mapping (← blockEntries fuel)
        else
          match next with
          | some (.scalar style text) =>
            skip
            return .scalar (tag.filter (· ≠ ['!'])) style text
          | some .flowSequence =>
            skip
            return .sequence (← flowItems fuel true)
          | some .flowMapping =>
            skip
            return .mapping (← flowEntries fuel true)
          | _ =>
            guard (name.isSome || tag.isSome)
            return .scalar tag .plain []

/-- A node, or nothing if one of some tokens comes next. -/
def nodeUnless (fuel : Nat) (inBlock flatSequence : Bool) (ends : List Token) : Composing Node :=
  match fuel with
  | 0 => failure
  | fuel + 1 => do
    if ← isNext ends then return .empty
    else node fuel inBlock flatSequence

def blockItems (fuel : Nat) : Composing (List Node) :=
  match fuel with
  | 0 => failure
  | fuel + 1 => do
    if ← isNext [.blockEnd] then
      skip
      return []
    else
      expect .entry
      let item ← nodeUnless fuel true false [.entry, .blockEnd]
      return item :: (← blockItems fuel)

/-- The entries of a block sequence without indentation. -/
def flatItems (fuel : Nat) : Composing (List Node) :=
  match fuel with
  | 0 => failure
  | fuel + 1 => do
    if ← isNext [.entry] then
      skip
      let item ← nodeUnless fuel true false [.entry, .key, .value, .blockEnd]
      return item :: (← flatItems fuel)
    else return []

/-- The value behind a key, if there is one. -/
def valueUnless (fuel : Nat) (inBlock : Bool) (ends : List Token) : Composing Node :=
  match fuel with
  | 0 => failure
  | fuel + 1 => do
    if ← isNext [.value] then
      skip
      nodeUnless fuel inBlock inBlock ends
    else return .empty

def blockEntries (fuel : Nat) : Composing (List (Node × Node)) :=
  match fuel with
  | 0 => failure
  | fuel + 1 => do
    if ← isNext [.blockEnd] then
      skip
      return []
    else
      expect .key
      let ends := [.key, .value, .blockEnd]
      let key ← nodeUnless fuel true true ends
      let value ← valueUnless fuel true ends
      return (key, value) :: (← blockEntries fuel)

/-- The entries of a flow sequence; a key among them makes a mapping of one entry. A sign that
stands where this key should be is taken for its absence. -/
def flowItems (fuel : Nat) (first : Bool) : Composing (List Node) :=
  match fuel with
  | 0 => failure
  | fuel + 1 => do
    let ends := [.comma, .flowSequenceEnd]
    if !(← isNext [.flowSequenceEnd]) && !first then expect .comma
    if ← isNext [.flowSequenceEnd] then
      skip
      return []
    else if ← isNext [.key] then
      skip
      let key ← do
        if ← isNext (.value :: ends) then
          skip
          pure .empty
        else node fuel false false
      let value ← valueUnless fuel false ends
      return .mapping [(key, value)] :: (← flowItems fuel false)
    else
      let item ← node fuel false false
      return item :: (← flowItems fuel false)

def flowEntries (fuel : Nat) (first : Bool) : Composing (List (Node × Node)) :=
  match fuel with
  | 0 => failure
  | fuel + 1 => do
    let ends := [.comma, .flowMappingEnd]
    if !(← isNext [.flowMappingEnd]) && !first then expect .comma
    if ← isNext [.flowMappingEnd] then
      skip
      return []
    else if ← isNext [.key] then
      skip
      let key ← nodeUnless fuel false false (.value :: ends)
      let value ← valueUnless fuel false ends
      return (key, value) :: (← flowEntries fuel false)
    else
      let key ← node fuel false false
      return (key, .empty) :: (← flowEntries fuel false)

end

/-- The handles that need no directive. -/
def standardHandles : List (List Char × List Char) :=
  [(['!'], ['!']), (['!', '!'], "tag:yaml.org,2002:".toList)]

/-- The directives before a document. A version may be given once, and so may each handle. -/
def directives (version : Bool) (handles : List (List Char × List Char)) :
    List Token → Option (List (List Char × List Char) × List Token)
  | .version major minor :: rest => do
    guard (!version && major = 1 && (minor = 1 || minor = 2))
    directives true handles rest
  | .tagHandle handle start :: rest => do
    guard (handles.lookup handle).isNone
    directives version (handles ++ [(handle, start)]) rest
  | rest => some (handles ++ standardHandles, rest)

/-- The tokens that end a document. -/
def isDocumentEdge : Option Token → Bool
  | none | some .documentStart | some .documentEnd | some (.version ..)
  | some (.tagHandle ..) => true
  | _ => false

/-- The outermost node of the only document, up to the end of the text. -/
def root (fuel : Nat) (explicit : Bool) : Composing Node := do
  if explicit then expect .documentStart
  let node ← do
    if explicit && isDocumentEdge (← peek) then pure .empty else node fuel true false
  let rest := (← get).tokens.dropWhile (· = .documentEnd)
  guard rest.isEmpty
  return node

end Composing

/-- Reads a text with one document, or with none, which is an empty one. -/
def Graph.ofText? (text : List Char) : Option Graph := do
  let tokens ← Token.ofText? text
  match tokens with
  | [] => return {}
  | first :: _ =>
    let (handles, rest) ← Composing.directives false [] tokens
    let explicit := Composing.isDocumentEdge (some first) && first ≠ .documentEnd
    let (root, s) ← (Composing.root (4 * tokens.length + 4) explicit).run
      { tokens := rest, handles }
    return ⟨root, s.named⟩

end LayoutSpec.Yaml
