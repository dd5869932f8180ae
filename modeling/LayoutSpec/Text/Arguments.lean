import LayoutSpec.Text.Blank
import LayoutSpec.Text.Quoted

/-!
Command lines: arguments between blanks. Quotes of both kinds keep blanks together. Between double
quotes a backslash escapes a quote and a backslash and is an ordinary character elsewhere; between
single quotes every character stands for itself.
-/

namespace LayoutSpec.Text

/-- What the next character of a command line belongs to. -/
inductive ArgumentMode where
  /-- The blanks between two arguments. -/
  | between
  /-- An argument. -/
  | plain
  /-- An argument, between double quotes. -/
  | double
  /-- An argument, behind a backslash between double quotes. -/
  | escaped
  /-- An argument, between single quotes. -/
  | single
deriving DecidableEq, Repr

/-- The arguments of a command line from here on, where `current` are the characters of the argument
that is being read, the last one first. It is `none` if a quote is not closed. -/
def argumentsFrom (mode : ArgumentMode) (current : List Char) : List Char →
    Option (List (List Char))
  | [] =>
    match mode with
    | .between => some []
    | .plain => some [current.reverse]
    | .double | .escaped | .single => none
  | c :: cs =>
    match mode with
    | .between | .plain =>
      if isBlank c then
        if mode = .plain then (argumentsFrom .between [] cs).map (current.reverse :: ·)
        else argumentsFrom .between [] cs
      else if c = '"' then argumentsFrom .double current cs
      else if c = '\'' then argumentsFrom .single current cs
      else argumentsFrom .plain (c :: current) cs
    | .double =>
      if c = '"' then argumentsFrom .plain current cs
      else if c = '\\' then argumentsFrom .escaped current cs
      else argumentsFrom .double (c :: current) cs
    | .escaped =>
      if c = '"' || c = '\\' then argumentsFrom .double (c :: current) cs
      else argumentsFrom .double (c :: '\\' :: current) cs
    | .single =>
      if c = '\'' then argumentsFrom .plain current cs
      else argumentsFrom .single (c :: current) cs

/-- The arguments of a command line, if every quote is closed. They are cut at blanks outside of
quotes; between double quotes a backslash escapes a quote and a backslash. -/
def arguments? (cs : List Char) : Option (List (List Char)) :=
  argumentsFrom .between [] cs

/-- Whether an argument can be written without quotes. -/
def isPlainArgument (cs : List Char) : Bool :=
  !cs.isEmpty && cs.all fun c => !(isBlank c || c = '"' || c = '\'')

/-- An argument as it is written in a command line. -/
def argument (cs : List Char) : List Char :=
  if isPlainArgument cs then cs else quote cs

end LayoutSpec.Text
