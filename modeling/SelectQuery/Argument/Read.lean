import SelectQuery.Argument.Misuse
import SelectQuery.Log

/-!
# Reading the arguments

The arguments are read from left to right. Options may stand anywhere before `--`, and short ones
may be written together. The first thing wrong stops the reading, as do the options that only ask
about the command.

A query, and a file that stands apart from its option, is held until the next argument that needs it
settled. Only then does it count as given, and only then can it be wrong.
-/

namespace SelectQuery

/-- The arguments that are settled; `used` in the order in which they were first given. -/
structure Given where
  query : Option String
  file : Option String
  showTokens : Bool
  verbose : Nat
  used : List Argument
  deriving DecidableEq, Repr

/-- The arguments with one more, which stays where it is if it is among them. -/
def withArgument (used : List Argument) (a : Argument) : List Argument :=
  if a ∈ used then used else used ++ [a]

namespace Given

/-- No arguments. -/
def nothing : Given :=
  ⟨none, none, false, 0, []⟩

/-- Takes the query. -/
def addQuery (g : Given) (text : String) : Given :=
  { g with query := some text, used := withArgument g.used .query }

/-- Takes the file. -/
def addFile (g : Given) (path : String) : Except ArgumentStop Given :=
  match g.file with
  | some _ => .error (.misuse (.repeated .file))
  | none =>
    if path = "" then .error (.misuse .missingFile)
    else .ok { g with file := some path, used := withArgument g.used (.switch .file) }

/-- Takes a flag. -/
def addFlag (g : Given) (flag : Flag) : Except ArgumentStop Given :=
  let used := withArgument g.used (.switch (.flag flag))
  match flag with
  | .help => .error .help
  | .version => .error .version
  | .tokens =>
    if g.showTokens then .error (.misuse (.repeated (.flag .tokens)))
    else .ok { g with showTokens := true, used := used }
  | .verbose => .ok { g with verbose := g.verbose + 1, used := used }

/-- How much of the log was asked for. -/
def verbosity (g : Given) : Verbosity :=
  match g.verbose with
  | 0 => .silent
  | 1 => .debug
  | _ => .trace

end Given

/-- An argument that is held. -/
inductive Held where
  | query (text : String)
  /-- The option for a file, and the file once it is read. -/
  | file (path : Option String)
  deriving DecidableEq, Repr

/-- The arguments read so far: the settled ones, the one that is held, and whether only queries can
    follow. -/
structure ArgumentReading where
  given : Given
  held : Option Held
  onlyQueries : Bool
  deriving DecidableEq, Repr

namespace ArgumentReading

/-- Nothing read. -/
def start : ArgumentReading :=
  ⟨.nothing, none, false⟩

/-- Whether a query was given, be it settled or held. -/
def hasQuery (r : ArgumentReading) : Bool :=
  match r.held with
  | some (.query _) => true
  | _ => r.given.query.isSome

/-- The given arguments once the one that is held is settled. -/
def settle (r : ArgumentReading) : Except ArgumentStop Given :=
  match r.held with
  | none => .ok r.given
  | some (.query text) => .ok (r.given.addQuery text)
  | some (.file none) => .error (.misuse .missingFile)
  | some (.file (some path)) => r.given.addFile path

/-- The arguments to name in the usage, be the one that is held right or wrong. An option without
    its file is not among them. -/
def used (r : ArgumentReading) : List Argument :=
  match r.held with
  | some (.query _) => withArgument r.given.used .query
  | some (.file (some _)) => withArgument r.given.used (.switch .file)
  | _ => r.given.used

/-- Reads a query. -/
def readQuery (r : ArgumentReading) (text : String) : Except ArgumentStop ArgumentReading := do
  if r.hasQuery then .error (.misuse (.secondQuery text))
  else return ⟨← r.settle, some (.query text), r.onlyQueries⟩

/-- Reads the option for a file, with the file if it is written together with it. -/
def readFile (r : ArgumentReading) (path : Option String) :
    Except ArgumentStop ArgumentReading := do
  let given ← r.settle
  match path with
  | none => return ⟨given, some (.file none), r.onlyQueries⟩
  | some path => return ⟨← given.addFile path, none, r.onlyQueries⟩

/-- Reads a flag. -/
def readFlag (r : ArgumentReading) (flag : Flag) : Except ArgumentStop ArgumentReading := do
  let given ← r.settle
  return ⟨← given.addFlag flag, none, r.onlyQueries⟩

/-- Reads the letters of short options. The letter for a file takes the rest as its value, with an
    equals sign before it or not, or the next argument if nothing is left. -/
def readShort (r : ArgumentReading) : List Char → Except ArgumentStop ArgumentReading
  | [] => .ok r
  | c :: cs =>
    match Switch.ofLetter? c with
    | none => .error (.misuse (.unknownLetter c))
    | some .file =>
      match cs with
      | [] => r.readFile none
      | '=' :: path => r.readFile (some (String.ofList path))
      | path => r.readFile (some (String.ofList path))
    | some (.flag flag) => do
      let r ← r.readFlag flag
      r.readShort cs

/-- Reads a long option, with its value behind an equals sign if it has one there. -/
def readLong (r : ArgumentReading) (text : List Char) : Except ArgumentStop ArgumentReading :=
  let name := String.ofList (text.takeWhile (· != '='))
  let value? := match text.dropWhile (· != '=') with
    | [] => none
    | _ :: value => some (String.ofList value)
  match Switch.ofName? name, value? with
  | none, _ =>
    let used := match Switch.similar? name with
      | none => r.used
      | some meant => withArgument r.used (.switch meant)
    .error (.misuse (.unknownName name (Switch.similar? name) used))
  | some .file, path => r.readFile path
  | some (.flag flag), none => r.readFlag flag
  | some (.flag flag), some value =>
    .error (.misuse (.unneededValue value flag (r.given.used = [])))

/-- Reads what is no option: the file that an option waits for, or else a query. -/
def readValue (r : ArgumentReading) (text : String) : Except ArgumentStop ArgumentReading :=
  match r.held with
  | some (.file none) => .ok { r with held := some (.file (some text)) }
  | _ => r.readQuery text

/-- Reads an argument. A minus sign by itself is no option, and nothing is one behind two. -/
def read (r : ArgumentReading) (argument : String) : Except ArgumentStop ArgumentReading :=
  if r.onlyQueries then r.readQuery argument
  else
    match argument.toList with
    | ['-', '-'] => .ok { r with onlyQueries := true }
    | '-' :: '-' :: text => r.readLong text
    | '-' :: c :: cs => r.readShort (c :: cs)
    | _ => r.readValue argument

end ArgumentReading

/-- The arguments that are given if nothing is wrong with any. -/
def Given.ofArguments (arguments : List String) : Except ArgumentStop Given := do
  let r ← arguments.foldlM ArgumentReading.read .start
  r.settle

end SelectQuery
