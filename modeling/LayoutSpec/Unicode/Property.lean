import LayoutSpec.CharSet
import LayoutSpec.Text.LetterTable
import LayoutSpec.Unicode.CategoryTable
import LayoutSpec.Unicode.PropertyTable
import LayoutSpec.Unicode.ScriptTable

/-!
Sets of characters by the names of their Unicode properties. Case, blanks, hyphens and underscores
in a name do not count, and neither does `is` before it.
-/

namespace LayoutSpec.Unicode

open CharSet (unionAll)

/-- The set of the characters in some tables. -/
def inAny (tables : List (List Run)) : CharSet :=
  unionAll (tables.map .runs)

def asciiSet : CharSet := .runs [⟨0, 0x7F, 1⟩]

def anySet : CharSet := .runs [⟨0, 0x10FFFF, 1⟩]

def letters : CharSet :=
  inAny [upperLetters, lowerLetters, titleLetters, modifierLetters, otherLetters]

def marks : CharSet := inAny [plainMarks, spacingMarks, enclosingMarks]

def punctuation : CharSet :=
  inAny [connectors, dashes, openings, closings, initialQuotes, finalQuotes, otherPunctuation]

/-- The code points of no other category; surrogates are none. -/
def unassigned : CharSet :=
  .complement (unionAll [letters, marks, punctuation, inAny [decimalDigits, letterNumbers,
    otherNumbers, mathSigns, currencySigns, modifierSigns, otherSigns, spaces, lineSeparators,
    paragraphSeparators, controls, formats, privateUse]])

def alphabetic : CharSet :=
  .union (.runs [⟨0x41, 0x5A, 1⟩, ⟨0x61, 0x7A, 1⟩])
    (.runs (Text.letterRanges.map fun (first, last) => ⟨first, last, 1⟩))

def lowercase : CharSet := inAny [lowerLetters, otherLowercase]

def uppercase : CharSet := inAny [upperLetters, otherUppercase]

def whiteSpace : CharSet :=
  .runs [⟨0x9, 0xD, 1⟩, ⟨0x20, 0x20, 1⟩, ⟨0x85, 0x85, 1⟩, ⟨0xA0, 0xA0, 1⟩, ⟨0x1680, 0x1680, 1⟩,
    ⟨0x2000, 0x200A, 1⟩, ⟨0x2028, 0x2029, 1⟩, ⟨0x202F, 0x202F, 1⟩, ⟨0x205F, 0x205F, 1⟩,
    ⟨0x3000, 0x3000, 1⟩]

def joinControls : CharSet := .runs [⟨0x200C, 0x200D, 1⟩]

def wordSet : CharSet :=
  unionAll [alphabetic, marks, inAny [decimalDigits, connectors], joinControls]

def digitSet : CharSet := .runs decimalDigits

/-- The sign that is neither at the start nor inside of names, for all that it is a letter. -/
def notInNames : CharSet := .runs [⟨0x2E2F, 0x2E2F, 1⟩]

/-- Characters that can start a name. -/
def nameStarts : CharSet :=
  .diff (unionAll [letters, inAny [letterNumbers, otherNameStarts]]) notInNames

/-- Characters that can be in a name. -/
def nameParts : CharSet :=
  .diff (unionAll [letters, inAny [letterNumbers, plainMarks, spacingMarks, decimalDigits,
    connectors, otherNameParts]]) notInNames

/-- Characters in names that would not be so any more in some normal form. -/
def unstableNameParts : CharSet :=
  .runs [⟨0x37A, 0x37A, 1⟩, ⟨0x309B, 0x309C, 1⟩, ⟨0xFC5E, 0xFC63, 1⟩, ⟨0xFDFA, 0xFDFB, 1⟩,
    ⟨0xFE70, 0xFE7E, 2⟩]

/-- The same for the start of names. -/
def unstableNameStarts : CharSet :=
  .union unstableNameParts
    (.runs [⟨0xE33, 0xE33, 1⟩, ⟨0xEB3, 0xEB3, 1⟩, ⟨0xFF9E, 0xFF9F, 1⟩])

def graphemeExtenders : CharSet := inAny [plainMarks, enclosingMarks, otherExtenders]

def graphemeBases : CharSet :=
  .complement (unionAll [inAny [controls, formats, privateUse, lineSeparators, paragraphSeparators],
    unassigned, graphemeExtenders])

/-- The general categories by their names, short and long. -/
def categories : List (List String × CharSet) := [
  (["any"], anySet),
  (["ascii"], asciiSet),
  (["assigned"], .complement unassigned),
  (["l", "letter"], letters),
  (["lc", "casedletter"], inAny [upperLetters, lowerLetters, titleLetters]),
  (["lu", "uppercaseletter"], .runs upperLetters),
  (["ll", "lowercaseletter"], .runs lowerLetters),
  (["lt", "titlecaseletter"], .runs titleLetters),
  (["lm", "modifierletter"], .runs modifierLetters),
  (["lo", "otherletter"], .runs otherLetters),
  (["m", "mark", "combiningmark"], marks),
  (["mn", "nonspacingmark"], .runs plainMarks),
  (["mc", "spacingmark"], .runs spacingMarks),
  (["me", "enclosingmark"], .runs enclosingMarks),
  (["n", "number"], inAny [decimalDigits, letterNumbers, otherNumbers]),
  (["nd", "decimalnumber", "digit"], digitSet),
  (["nl", "letternumber"], .runs letterNumbers),
  (["no", "othernumber"], .runs otherNumbers),
  (["p", "punctuation", "punct"], punctuation),
  (["pc", "connectorpunctuation"], .runs connectors),
  (["pd", "dashpunctuation"], .runs dashes),
  (["ps", "openpunctuation"], .runs openings),
  (["pe", "closepunctuation"], .runs closings),
  (["pi", "initialpunctuation"], .runs initialQuotes),
  (["pf", "finalpunctuation"], .runs finalQuotes),
  (["po", "otherpunctuation"], .runs otherPunctuation),
  (["s", "symbol"], inAny [mathSigns, currencySigns, modifierSigns, otherSigns]),
  (["sm", "mathsymbol"], .runs mathSigns),
  (["sc", "currencysymbol"], .runs currencySigns),
  (["sk", "modifiersymbol"], .runs modifierSigns),
  (["so", "othersymbol"], .runs otherSigns),
  (["z", "separator"], inAny [spaces, lineSeparators, paragraphSeparators]),
  (["zs", "spaceseparator"], .runs spaces),
  (["zl", "lineseparator"], .runs lineSeparators),
  (["zp", "paragraphseparator"], .runs paragraphSeparators),
  (["c", "other"], unionAll [inAny [controls, formats, privateUse], unassigned]),
  (["cc", "control", "cntrl"], .runs controls),
  (["cf", "format"], .runs formats),
  (["cn", "unassigned"], unassigned),
  (["co", "privateuse"], .runs privateUse)]

/-- Properties that characters have or lack, by their names. -/
def binaryProperties : List (List String × CharSet) := [
  (["alpha", "alphabetic"], alphabetic),
  (["lower", "lowercase"], lowercase),
  (["upper", "uppercase"], uppercase),
  (["cased"], unionAll [lowercase, uppercase, .runs titleLetters]),
  (["wspace", "whitespace", "space"], whiteSpace),
  (["ahex", "asciihexdigit"], .inter (.runs hexDigits) asciiSet),
  (["hex", "hexdigit"], .runs hexDigits),
  (["joinc", "joincontrol"], joinControls),
  (["math"], inAny [mathSigns, otherMath]),
  (["ids", "idstart"], nameStarts),
  (["idc", "idcontinue"], nameParts),
  (["xids", "xidstart"], .diff nameStarts unstableNameStarts),
  (["xidc", "xidcontinue"], .diff nameParts unstableNameParts),
  (["grext", "graphemeextend"], graphemeExtenders),
  (["grbase", "graphemebase"], graphemeBases),
  (["bidic", "bidicontrol"], .runs bidiControls),
  (["bidim", "bidimirrored"], .runs mirrored),
  (["dash"], .runs dashLike),
  (["di", "defaultignorablecodepoint"], .runs ignorable),
  (["dep", "deprecated"], .runs deprecatedCharacters),
  (["dia", "diacritic"], .runs diacritics),
  (["emoji"], .runs Unicode.emoji),
  (["ecomp", "emojicomponent"], .runs emojiComponents),
  (["emod", "emojimodifier"], .runs emojiModifiers),
  (["ebase", "emojimodifierbase"], .runs emojiModifierBases),
  (["epres", "emojipresentation"], .runs emojiPresentation),
  (["extpict", "extendedpictographic"], .runs pictographs),
  (["ext", "extender"], .runs extenders),
  (["hyphen"], .runs hyphens),
  (["ideo", "ideographic"], .runs ideographs),
  (["idsb", "idsbinaryoperator"], .runs binaryIdeographOperators),
  (["idst", "idstrinaryoperator"], .runs ternaryIdeographOperators),
  (["loe", "logicalorderexception"], .runs logicalOrderExceptions),
  (["nchar", "noncharactercodepoint"], .runs noncharacters),
  (["patsyn", "patternsyntax"], .runs patternSyntax),
  (["patws", "patternwhitespace"], .runs patternBlanks),
  (["pcm", "prependedconcatenationmark"], .runs prependedMarks),
  (["qmark", "quotationmark"], .runs quotationMarks),
  (["radical"], .runs radicals),
  (["ri", "regionalindicator"], .runs regionalIndicators),
  (["sterm", "sentenceterminal"], .runs sentenceEnds),
  (["sd", "softdotted"], .runs softDotted),
  (["term", "terminalpunctuation"], .runs textEnds),
  (["uideo", "unifiedideograph"], .runs unifiedIdeographs),
  (["vs", "variationselector"], .runs variationSelectors)]

/-- A name without what does not count. -/
def plainName (name : List Char) : List Char :=
  let strip (cs : List Char) : List Char :=
    (cs.filter fun c => c.val < 0x80 && c ≠ ' ' && c ≠ '_' && c ≠ '-').map Char.toLower
  match name with
  | first :: second :: rest =>
    if first.toLower = 'i' && second.toLower = 's' then
      if strip rest = ['c'] then ['i', 's', 'c'] else strip rest
    else strip name
  | name => strip name

/-- The set that goes under a plain name in a table. -/
def named? (table : List (List String × CharSet)) (name : String) : Option CharSet :=
  (table.find? fun (names, _) => names.contains name).map Prod.snd

def script? (name : String) : Option CharSet :=
  (scripts.lookup name).map .runs

/-- The set of a property, a category or a script. -/
def set? (name : List Char) : Option CharSet :=
  let name := String.ofList (plainName name)
  named? binaryProperties name <|> named? categories name <|> script? name

/-- The set of a category or a script that is named with its kind. -/
def setOfKind? (kind value : List Char) : Option CharSet :=
  let value := String.ofList (plainName value)
  match String.ofList (plainName kind) with
  | "gc" | "generalcategory" => named? categories value
  | "sc" | "script" => script? value
  | _ => none

end LayoutSpec.Unicode
