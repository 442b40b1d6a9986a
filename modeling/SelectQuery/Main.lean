import SelectQuery.Command

/-!
# The program

Does what a run of the command says: reads the file or the lines of the session, and puts out what
`Command` and `Session` say.
-/

namespace SelectQuery.Main

/-- Puts out a text at once. -/
def put (stream : IO.FS.Stream) (text : String) : IO Unit := do
  stream.putStr text
  stream.flush

/-- Puts out a report. -/
def putReport (r : Report) : IO UInt32 := do
  put (← IO.getStderr) r.errors
  put (← IO.getStdout) r.output
  return r.exitCode.toUInt32

/-- The bytes up to the next line feed, or to the end of the input. -/
partial def readLine (input : IO.FS.Stream) (line : ByteArray) : IO ByteArray := do
  let next ← input.read 1
  if next.isEmpty then return line
  let line := line ++ next
  if next[0]? = some 10 then return line
  readLine input line

/-- Why the file cannot be read. The system gives the number of an error with or without a sign. -/
def fileFault : IO.Error → FileFault
  | .noFileOrDirectory _ _ _ => .notFound
  | .permissionDenied _ _ _ => .notAllowed
  | .inappropriateType _ code reason =>
    if code = 20 ∨ code = -20 then .notFolder
    else if code = 21 ∨ code = -21 then .isFolder
    else .other reason
  | .invalidArgument _ code reason =>
    if code = 36 ∨ code = -36 then .nameTooLong else .other reason
  | e => .other (toString e)

/-- The bytes of a file. -/
def readFile (path : String) : IO (Except FileFault (List UInt8)) := do
  match ← (IO.FS.readBinFile path).toBaseIO with
  | .ok bytes => return .ok bytes.toList
  | .error e => return .error (fileFault e)

/-- Puts out what a run comes to. -/
def putOutcome (outcome : Outcome) : IO UInt32 :=
  putReport (Formats.terminal.report outcome)

/-- Holds a session. -/
partial def hold (settings : Session.Settings) : IO UInt32 := do
  let output ← IO.getStdout
  put output Session.prompt
  let line ← readLine (← IO.getStdin) ByteArray.empty
  if line.isEmpty then return ← putOutcome Session.atEnd
  let turn := Session.turn drawTable settings line.toList
  put (← IO.getStderr) (Formats.terminal.errors turn.log (turn.exit.bind (·.complaint)))
  put output turn.output
  match turn.exit with
  | some exit => return exit.code.toUInt32
  | none => hold settings

end SelectQuery.Main

open SelectQuery in
/-- Runs the command with the arguments. -/
def main (arguments : List String) : IO UInt32 := do
  match Request.ofArguments arguments with
  | .error stop => Main.putReport (Command.stopReport stop)
  | .ok r =>
    match r.task with
    | .query text => Main.putOutcome (Command.queryOutcome drawTable r text)
    | .file path => Main.putOutcome (Command.fileOutcome drawTable r path (← Main.readFile path))
    | .session =>
      Main.put (← IO.getStdout) Command.banner
      Main.hold (Command.settings r)
