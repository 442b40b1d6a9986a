import SelectQuery.Argument
import SelectQuery.Text.Controls

/-!
# Misuse of the arguments

What can be wrong with the arguments of the command, and the message on it: what is wrong, what
could have been meant, and how the command is used.
-/

namespace SelectQuery

open Text

/-- What can be wrong with the arguments. `used` are the arguments to name in the usage. -/
inductive Misuse where
  /-- A query after the query. -/
  | secondQuery (text : String)
  /-- A letter that stands for no option. -/
  | unknownLetter (letter : Char)
  /-- A long name that no option has, and the option that was meant. -/
  | unknownName (name : String) (meant : Option Switch) (used : List Argument)
  /-- The option for a file has no value or an empty one. -/
  | missingFile
  /-- An option that may be given once is given twice. -/
  | repeated (option : Switch)
  /-- A flag has a value; `first` if nothing was given before it. -/
  | unneededValue (value : String) (flag : Flag) (first : Bool)
  /-- The later argument does not go with the earlier one. -/
  | conflict (earlier later : Argument) (used : List Argument)
  deriving DecidableEq, Repr

namespace Misuse

/-- How the command is used, with the given arguments if there are any. -/
def usage (used : List Argument) : String :=
  if used = [] then "selectql [OPTIONS] [QUERY]"
  else
    let options := (used.filterMap Argument.switch?).map (·.display ++ " ")
    "selectql " ++ String.join options ++ if .query ∈ used then "<QUERY>" else "[QUERY]"

/-- How the command is used with the flag and one of all that sets its task. -/
def usageWithAny (flag : Flag) : String :=
  "selectql " ++ (if flag.isQuestion then flag.display ++ " " else "") ++
    "<QUERY|--file <FILE>|--tokens|--verbose...>"

/-- What is wrong. What the user wrote stands in it without controls. -/
def reason : Misuse → String
  | secondQuery text => "unexpected argument '" ++ withoutControls text ++ "' found"
  | unknownLetter letter =>
    "unexpected argument '" ++ withoutControls (String.ofList ['-', letter]) ++ "' found"
  | unknownName name _ _ => "unexpected argument '" ++ withoutControls ("--" ++ name) ++ "' found"
  | missingFile => "a value is required for '" ++ Switch.file.display ++ "' but none was supplied"
  | repeated option => "the argument '" ++ option.display ++ "' cannot be used multiple times"
  | unneededValue value flag _ =>
    "unexpected value '" ++ withoutControls value ++ "' for '" ++ flag.display ++
      "' found; no more were expected"
  | conflict earlier later _ =>
    "the argument '" ++ earlier.display ++ "' cannot be used with '" ++ later.display ++ "'"

/-- How to give what looks like an option as a query. -/
def asValue (option : String) : String :=
  let shown := withoutControls option
  "to pass '" ++ shown ++ "' as a value, use '-- " ++ shown ++ "'"

/-- What could have been meant. -/
def tip? : Misuse → Option String
  | unknownLetter letter => some (asValue (String.ofList ['-', letter]))
  | unknownName name none _ => some (asValue ("--" ++ name))
  | unknownName _ (some meant) _ =>
    some ("a similar argument exists: '--" ++ meant.name ++ "'")
  | _ => none

/-- The usage that goes with the message. -/
def usage? : Misuse → Option String
  | secondQuery _ => some (usage [])
  | unknownLetter _ => some (usage [])
  | unknownName _ _ used => some (usage used)
  | missingFile => none
  | repeated _ => some (usage [])
  | unneededValue _ flag first =>
    some (if first then usage [.switch (.flag flag)] else usageWithAny flag)
  | conflict _ _ used => some (usage used)

/-- The message on the misuse. -/
def message (m : Misuse) : String :=
  let tip := match m.tip? with
    | none => ""
    | some text => "  tip: " ++ text ++ "\n\n"
  let usage := match m.usage? with
    | none => ""
    | some text => "Usage: " ++ text ++ "\n\n"
  "error: " ++ m.reason ++ "\n\n" ++ tip ++ usage ++ "For more information, try '--help'.\n"

end Misuse

/-- What stops the reading of arguments. -/
inductive ArgumentStop where
  | help
  | version
  | misuse (m : Misuse)
  deriving DecidableEq, Repr

end SelectQuery
