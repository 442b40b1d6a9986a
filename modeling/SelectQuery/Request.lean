import SelectQuery.Argument.Read

/-!
# Requests

What the command is asked to do: at most one of a query and a file is given, and a session is held
without either.
-/

namespace SelectQuery

/-- What the command is asked to do. -/
inductive Task where
  /-- To evaluate a query. -/
  | query (text : String)
  /-- To evaluate the content of a file. -/
  | file (path : String)
  /-- To hold a session. -/
  | session
  deriving DecidableEq, Repr

/-- The task that the arguments set. A query and a file do not go together, and the earlier of the
    two is named first. -/
def Given.task (g : Given) : Except ArgumentStop Task :=
  let file := Argument.switch .file
  match g.query, g.file with
  | some _, some _ =>
    if g.used.find? (· ∈ [.query, file]) = some file then
      .error (.misuse (.conflict file .query (g.used.filter (· != .query))))
    else .error (.misuse (.conflict .query file (g.used.filter (· != file))))
  | some text, none => .ok (.query text)
  | none, some path => .ok (.file path)
  | none, none => .ok .session

/-- What the arguments ask for. -/
structure Request where
  task : Task
  showTokens : Bool
  verbosity : Verbosity
  deriving DecidableEq, Repr

/-- Reads the arguments of the command. -/
def Request.ofArguments (arguments : List String) : Except ArgumentStop Request := do
  let g ← Given.ofArguments arguments
  return ⟨← g.task, g.showTokens, g.verbosity⟩

end SelectQuery
