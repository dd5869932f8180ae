import LayoutSpec.Constraint.Basic

/-!
What can be wrong with the text of a spec, an action or a catalog. A cause says what was found; the
error adds the line and the file in which it was found.
-/

namespace LayoutSpec

inductive SyntaxCause where
  -- tokens
  | expectedWord
  | expectedNumber (rest : String)
  | numberOutOfRange (literal : String)
  | boundOutOfRange (value tolerance : Int)
  | expectedSide (rest : String)
  | unexpectedInLocation (rest : String)
  | expectedQuote (rest : String)
  | missingClosingQuote
  -- constraints
  | unknownConstraint (text : String)
  | unexpectedInConstraint (rest text : String)
  | missingObjectName
  | missingLocation (object : String)
  | invalidTolerance (range : PixelRange)
  | unknownAlignment (word : String)
  | illegalEdge (axis : Axis) (word : String)
  | unknownCentering (word : String)
  | unknownRelation (word : String)
  | missingObjectNames
  | unknownTextOperation (word : String)
  | invalidTextPattern (pattern : String)
  | missingComponentPath
  -- locators and sizes
  | missingLocator (text : String)
  | invalidSize (text : String)
  -- spec lines
  | missingImportPath
  | unknownDirective (word : String)
  | cyclicImport (path : Path)
  | unreadableImport (path : Path)
  | missingObjectLocator (line : String)
  | reservedObjectName (name : String)
  | objectsInConditional
  | sectionInConditional
  | nestedConditional
  | misplacedKeyword
  | missingBody
  | missingBlock
  | unclosedConditional
  | invalidParameters (line : String)
  | danglingParameters
  | orphanConstraint (line : String)
  -- actions and catalogs
  | unterminatedArgument (text : String)
  | unreadableAction (text : String)
  | unknownAction (word : String)
  | invalidScriptArguments (json : String)
  | unknownOption (option text : String)
  | missingOptionValue (option text : String)
  | missingSpecs (text : String)
  | inSuite (suite : String) (cause : SyntaxCause)
  /-- A fault that a user of the library describes in words. -/
  | described (message : String)
deriving DecidableEq, Repr

namespace SyntaxCause

def message : SyntaxCause → String
  | expectedWord => "Expected a word"
  | expectedNumber rest => "Expected a number but got: \"" ++ rest ++ "\""
  | numberOutOfRange literal => "Number out of range: " ++ literal
  | boundOutOfRange value tolerance =>
    "Number out of range: " ++ String.ofList (Text.intNumeral value) ++ " ± "
      ++ String.ofList (Text.intNumeral tolerance)
  | expectedSide rest =>
    "Expected side (top, left, right, bottom) but got: \"" ++ rest ++ "\""
  | unexpectedInLocation rest => "Unexpected text in location: \"" ++ rest ++ "\""
  | expectedQuote rest => "Expected a double-quoted text but got: " ++ rest
  | missingClosingQuote => "Missing closing quote"
  | unknownConstraint text => "Unknown constraint: " ++ text
  | unexpectedInConstraint rest text =>
    "Unexpected \"" ++ rest ++ "\" in constraint: " ++ text
  | missingObjectName => "Missing object name"
  | missingLocation object => "Missing location for \"near: " ++ object ++ "\""
  | invalidTolerance range =>
    "Tolerance must be a single non-negative value, got " ++ String.ofList range.chars
  | unknownAlignment word => "Unknown alignment: " ++ word
  | illegalEdge axis word => "Cannot align " ++ axis.keyword ++ " by \"" ++ word ++ "\""
  | unknownCentering word => "Unknown centering: " ++ word
  | unknownRelation word => "Expected \"inside\" or \"on\" but got \"" ++ word ++ "\""
  | missingObjectNames => "Missing object names"
  | unknownTextOperation word => "Unknown text operation: " ++ word
  | invalidTextPattern pattern => "Incorrect text pattern: " ++ pattern
  | missingComponentPath => "Missing component spec path"
  | missingLocator text => "Missing locator: " ++ text
  | invalidSize text => "Incorrect size: " ++ text
  | missingImportPath => "Missing path for import"
  | unknownDirective word => "Unknown instruction: " ++ word
  | cyclicImport path => "Cyclic import of " ++ path.text
  | unreadableImport path => "Cannot import file: " ++ path.text
  | missingObjectLocator line => "Missing locator for object \"" ++ line ++ "\""
  | reservedObjectName name =>
    "\"" ++ name ++ "\" is a reserved keyword and cannot be used as an object name"
  | objectsInConditional => "Object definitions are not allowed inside a conditional block"
  | sectionInConditional => "Cannot start a section inside a conditional block"
  | nestedConditional => "Nested conditional blocks are not supported"
  | misplacedKeyword => "Wrong place for this statement"
  | missingBody => "There is no body defined for this conditional block"
  | missingBlock => "Conditional block is missing"
  | unclosedConditional => "Conditional block is not closed with \"end\""
  | invalidParameters line => "Incorrect parameterization syntax: " ++ line
  | danglingParameters => "Parameterization is not followed by an object"
  | orphanConstraint line => "Constraint is declared before any object: " ++ line
  | unterminatedArgument text => "Unterminated quote in: " ++ text
  | unreadableAction text => "Cannot parse: " ++ text
  | unknownAction word => "Unknown action: " ++ word
  | invalidScriptArguments json => "Invalid script arguments: " ++ json
  | unknownOption option text => "Unknown option " ++ option ++ " in: " ++ text
  | missingOptionValue option text => "Missing value for " ++ option ++ " in: " ++ text
  | missingSpecs text => "There are no page specs: " ++ text
  | inSuite suite cause => "In suite \"" ++ suite ++ "\": " ++ cause.message
  | described message => message

end SyntaxCause

/-- A cause with the place where it was found. The line is counted from 1, and 0 stands for a line
that is not known yet; `source` is the error behind this one, in words. -/
structure SyntaxError where
  cause : SyntaxCause
  line : Nat := 0
  file : Option Path := none
  source : Option String := none
deriving DecidableEq, Repr

namespace SyntaxError

/-- The error of a line that is at fault. -/
def ofLine (line : Nat) (cause : SyntaxCause) : SyntaxError :=
  { cause, line }

/-- Sets the line, unless one is known already. Lines are counted from 1, and 0 stands for a line
that is not known. -/
def atLine (line : Nat) (e : SyntaxError) : SyntaxError :=
  if e.line = 0 then { e with line } else e

/-- Sets the file, unless one is known already: an error found in an imported file stays there. -/
def inFile (file : Path) (e : SyntaxError) : SyntaxError :=
  if e.file.isNone then { e with file := some file } else e

/-- Puts another error behind this one. -/
def withSource (source : String) (e : SyntaxError) : SyntaxError :=
  { e with source := some source }

/-- The error in words, with its place as far as it is known. -/
def display (e : SyntaxError) : String :=
  "Syntax error" ++ (if e.line = 0 then "" else " at line " ++ toString e.line)
    ++ (match e.file with
      | none => ""
      | some file => " in " ++ file.text)
    ++ ": " ++ e.cause.message

end SyntaxError

end LayoutSpec
