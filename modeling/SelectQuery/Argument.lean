import SelectQuery.Text.Similarity

/-!
# The arguments of the command

The query and the options, and how messages name them.
-/

namespace SelectQuery

open Text

/-- The options that have no value. -/
inductive Flag where
  | tokens
  | verbose
  | help
  | version
  deriving DecidableEq, Repr

/-- The options of the command. -/
inductive Switch where
  | file
  | flag (flag : Flag)
  deriving DecidableEq, Repr

/-- The arguments that the command takes. -/
inductive Argument where
  | query
  | switch (switch : Switch)
  deriving DecidableEq, Repr

namespace Flag

/-- The long name of the flag. -/
def name : Flag → String
  | tokens => "tokens"
  | verbose => "verbose"
  | help => "help"
  | version => "version"

/-- The flag as messages name it: one that may be repeated is followed by stops. -/
def display : Flag → String
  | verbose => "--verbose..."
  | f => "--" ++ f.name

/-- Whether the flag only asks about the command. -/
def isQuestion : Flag → Bool
  | help => true
  | version => true
  | _ => false

end Flag

namespace Switch

/-- All options. -/
def all : List Switch :=
  [file, flag .tokens, flag .verbose, flag .help, flag .version]

/-- The long name of the option. -/
def name : Switch → String
  | file => "file"
  | flag f => f.name

/-- The option as messages name it. -/
def display : Switch → String
  | file => "--file <FILE>"
  | flag f => f.display

/-- The option of that long name. -/
def ofName? (name : String) : Option Switch :=
  all.find? (·.name = name)

/-- The option that is meant by a long name that none has. -/
def similar? (name : String) : Option Switch :=
  (closest? name (all.map (·.name))).bind ofName?

/-- The option of that letter. -/
def ofLetter? (c : Char) : Option Switch :=
  match c with
  | 'f' => some .file
  | 'v' => some (.flag .verbose)
  | 'h' => some (.flag .help)
  | 'V' => some (.flag .version)
  | _ => none

end Switch

namespace Argument

/-- The argument as messages name it. -/
def display : Argument → String
  | query => "[QUERY]"
  | switch s => s.display

/-- The argument if it is an option. -/
def switch? : Argument → Option Switch
  | query => none
  | switch s => some s

end Argument

end SelectQuery
