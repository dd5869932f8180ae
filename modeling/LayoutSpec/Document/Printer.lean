import LayoutSpec.Constraint.Printer
import LayoutSpec.Document.Basic

/-!
The text of a document, line by line.
-/

namespace LayoutSpec

/-- The line around the object definitions. -/
def objectMarker : List Char :=
  List.replicate 42 '='

def constraintIndent : List Char :=
  List.replicate 4 ' '

def Group.lines (g : Group) : List (List Char) :=
  g.pattern.toList :: g.constraints.map fun c => constraintIndent ++ c.chars

def groupLines (groups : List Group) : List (List Char) :=
  groups.flatMap Group.lines

/-- A statement behind its keyword. Every statement but the first of a block has `or` before it. -/
def Statement.lines (chained : Bool) (s : Statement) : List (List Char) :=
  ((if chained then "or ".toList else []) ++ (if s.inverted then "unless".toList else "if".toList))
    :: groupLines s.groups

namespace ConditionalBlock

def statementLines : List Statement → List (List Char)
  | [] => []
  | first :: rest => first.lines false ++ rest.flatMap (Statement.lines true)

def lines (b : ConditionalBlock) : List (List Char) :=
  statementLines b.statements ++ "do".toList :: groupLines b.body
    ++ (match b.otherwise with
      | none => []
      | some groups => "otherwise".toList :: groupLines groups)
    ++ ["end".toList]

end ConditionalBlock

def Section.tagLine (s : Section) : List Char :=
  if s.tags.isEmpty then ['@']
  else '@' :: ' ' :: ", ".toList.intercalate (s.tags.map String.toList)

/-- A section: an empty line, its tags, its groups and its blocks. -/
def Section.lines (s : Section) : List (List Char) :=
  [] :: s.tagLine :: groupLines s.groups ++ s.blocks.flatMap ConditionalBlock.lines

namespace Document

def objectLine (name : String) (locator : Locator) : List Char :=
  name.toList ++ ' ' :: locator.strategy.word.toList ++ ' ' :: locator.value.toList

def objectLines (objects : ObjectTable) : List (List Char) :=
  if objects.isEmpty then []
  else
    objectMarker :: objects.entries.map (fun (name, locator) => objectLine name locator)
      ++ [objectMarker]

def lines (d : Document) : List (List Char) :=
  objectLines d.objects ++ d.sections.flatMap Section.lines

/-- The text of a document: its objects first, then its sections in their order. Every line ends
with a line feed. -/
def chars (d : Document) : List Char :=
  d.lines.flatMap (· ++ ['\n'])

def display (d : Document) : String :=
  String.ofList d.chars

end Document

end LayoutSpec
