import LayoutSpec.Document.Reader
import LayoutSpec.Glob
import LayoutSpec.Page
import LayoutSpec.TagFilter
import LayoutSpec.Validation.Failure

/-!
The objects of one pass over a page. Names with stars are resolved once, before the first check,
into as many objects as their locators have matches; the spec itself stays as it is.
-/

namespace LayoutSpec

open Text

/-- What the checks of one pass see. -/
structure Scope where
  objects : ObjectTable
  page : Page
  filter : TagFilter
  tree : FileTree
  /-- How many components the checked one is inside of. -/
  depth : Nat

/-- The objects that a declared name stands for on a page: itself, or one per match of its locator,
with the number of the match in the place of every star. -/
def resolveEntry (page : Page) (name : String) (locator : Locator) : List (String × Locator) :=
  if isMultiObject name then
    (List.range' 1 (page.count locator)).map fun index =>
      (String.ofList (substitute '*' (natNumeral index) name.toList),
        { locator with index := some index })
  else [(name, locator)]

/-- The objects of a table on a page. A table without stars is taken as it is; otherwise its entries
are declared once more, so that of two declarations of one name the last counts. -/
def resolveObjects (objects : ObjectTable) (page : Page) : ObjectTable :=
  if objects.hasMultiObjects then
    .ofList (objects.entries.flatMap fun (name, locator) => resolveEntry page name locator)
  else objects

namespace Scope

/-- The scope of a pass over a page. -/
def ofDocument (document : Document) (page : Page) (filter : TagFilter) (tree : FileTree)
    (depth : Nat) : Scope where
  objects := resolveObjects document.objects page
  page := page
  filter := filter
  tree := tree
  depth := depth

/-- A list of names with one more, unless it is there already. -/
def addName (names : List String) (name : String) : List String :=
  if names.contains name then names else names ++ [name]

/-- The names that one part of a pattern stands for: with a star the declared names that match, in
their order, and itself otherwise. -/
def partNames (scope : Scope) (part : List Char) : List String :=
  if part.contains '*' then
    scope.objects.names.filter fun name => Wildcard.word.accepts part name.toList
  else [String.ofList part]

/-- The names that a pattern stands for: those of its parts between commas, each name once. A name
without a star stands for itself, also if it is not declared. -/
def expand (scope : Scope) (pattern : String) : List String :=
  ((items ',' pattern.toList).flatMap scope.partNames).foldl addName []

/-- Whether a part of a pattern is a name, or can be compiled. -/
def partCompiles (part : List Char) : Bool :=
  !part.contains '*' || Wildcard.word.compiles part

/-- The names that a pattern stands for, unless one of its parts cannot be compiled. All parts with
stars are compiled before any name is looked at. -/
def names (scope : Scope) (pattern : String) : Except Fault (List String) :=
  match (items ',' pattern.toList).find? fun part => !partCompiles part with
  | some part => .error (.invalidPattern (String.ofList part))
  | none => .ok (scope.expand pattern)

def locator (scope : Scope) (name : String) : Except Fault Locator :=
  match scope.objects.get? name with
  | some locator => .ok locator
  | none => .error (.missingLocator name)

/-- The element of an object that is declared, or that the page knows without a locator. A
declaration goes before what the page knows. -/
def find (scope : Scope) (name : String) : Except Fault Snapshot :=
  match scope.objects.get? name with
  | some locator => .ok (scope.page.resolve locator)
  | none =>
    match scope.page.special? name with
    | some element => .ok element
    | none => .error (.missingLocator name)

end Scope

end LayoutSpec
