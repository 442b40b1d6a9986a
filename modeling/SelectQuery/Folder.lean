/-!
# Folders

The files that a command can read: a folder of files by name, without further folders in it.
-/

namespace SelectQuery

/-- Why a file cannot be read. -/
inductive FileFault where
  | notFound
  | notAllowed
  | isFolder
  | notFolder
  | nameTooLong
  | notText
  /-- What the system says. -/
  | other (reason : String)
  deriving DecidableEq, Repr

/-- Files by name, with their bytes. -/
structure Folder where
  files : List (String × List UInt8)
  deriving DecidableEq, Repr

namespace Folder

/-- The parts of a path between its slashes. -/
def segments : List Char → List (List Char)
  | [] => [[]]
  | c :: cs => if c = '/' then [] :: segments cs else (segments cs).modifyHead (c :: ·)

/-- The most bytes that a name can have. -/
def longestName : Nat :=
  255

/-- The most bytes that a path can have. -/
def longestPath : Nat :=
  4095

/-- Where a path leads. -/
inductive Place where
  | folder
  /-- Somewhere outside the folder, where nothing is found. -/
  | outside
  | file (bytes : List UInt8)
  deriving DecidableEq, Repr

/-- Where the next segment of a path leads. An empty one and a single stop stay, two stops go up,
    and nothing comes after a file, not even an empty segment. -/
def enter (f : Folder) (p : Place) (segment : List Char) : Except FileFault Place :=
  match p with
  | .file _ => .error .notFolder
  | p =>
    let name := String.ofList segment
    if name = "" ∨ name = "." then .ok p
    else if name = ".." then .ok .outside
    else if name.utf8ByteSize > longestName then .error .nameTooLong
    else if p = .outside then .error .notFound
    else
      match f.files.find? (·.1 = name) with
      | none => .error .notFound
      | some (_, bytes) => .ok (.file bytes)

/-- Where a path leads. -/
def follow (f : Folder) (path : String) : Except FileFault Place :=
  if path.utf8ByteSize > longestPath then .error .nameTooLong
  else
    let start := if path.toList.head? = some '/' then .outside else .folder
    (segments path.toList).foldlM f.enter start

/-- The bytes of the file that a path names. -/
def read (f : Folder) (path : String) : Except FileFault (List UInt8) := do
  match ← f.follow path with
  | .file bytes => return bytes
  | _ => .error .isFolder

end Folder

end SelectQuery
