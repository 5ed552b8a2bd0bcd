/-
The files that stores and commands use, as a value: directories and files by their path from the
root. The operations fail as a file system does, and say why in its words.
-/

namespace Wireflow

/-- Why an operation on files failed. -/
inductive DiskError
  | notFound
  | isDirectory
  | notDirectory
  | exists
deriving DecidableEq

/-- The words of the system for an error, with its number. -/
def DiskError.message : DiskError → String
  | .notFound => "No such file or directory (os error 2)"
  | .isDirectory => "Is a directory (os error 21)"
  | .notDirectory => "Not a directory (os error 20)"
  | .exists => "File exists (os error 17)"

/-- What a path leads to. -/
inductive DiskEntry
  | directory
  | file (content : ByteArray)

/-- A path from the root: the names on the way. -/
abbrev DiskPath := List String

/-- The files and directories below the root, which is a directory itself. -/
structure Disk where
  entries : List (DiskPath × DiskEntry)

namespace Disk

/-- No files at all. -/
def empty : Disk := ⟨[]⟩

/-- The names so far, the last one first, with one more: an empty name and a single point say
nothing, two points lead back. -/
def pushName (names : List String) (name : List Char) : List String :=
  if name = [] ∨ name = ['.'] then names
  else if name = ['.', '.'] then names.tail
  else String.ofList name :: names

/-- The names on the way of a path text. -/
def pathOf (text : String) : DiskPath :=
  ((text.toList.splitOn '/').foldl pushName []).reverse

/-- A path text with another one below it. A path text that starts at the root stands alone. -/
def join (base name : String) : String :=
  if name.toList.head? = some '/' then name
  else if base.toList = [] then name
  else if base.toList.getLast? = some '/' then base ++ name
  else base ++ "/" ++ name

/-- What a path leads to. -/
def find? (d : Disk) (path : DiskPath) : Option DiskEntry :=
  if path = [] then some .directory
  else (d.entries.find? fun e => e.1 == path).map (·.2)

/-- The disk with an entry at a path, in place of the one it had. -/
def put (d : Disk) (path : DiskPath) (entry : DiskEntry) : Disk :=
  ⟨(path, entry) :: d.entries.filter fun e => e.1 != path⟩

/-- The disk without what a path leads to. -/
def drop (d : Disk) (path : DiskPath) : Disk :=
  ⟨d.entries.filter fun e => e.1 != path⟩

/-- Makes the directories on the way of `rest` below `done`. -/
def makeWay (d : Disk) (done : DiskPath) : DiskPath → Except DiskError Disk
  | [] => .ok d
  | name :: rest =>
    let path := done ++ [name]
    match d.find? path with
    | some .directory => makeWay d path rest
    | some (.file _) => .error (if rest.isEmpty then .exists else .notDirectory)
    | none => makeWay (d.put path .directory) path rest

/-- Makes a directory and all those on its way. -/
def makeDirectory (d : Disk) (path : DiskPath) : Except DiskError Disk :=
  d.makeWay [] path

/-- The entries of a directory that stand directly in it, by name. -/
def list (d : Disk) (path : DiskPath) : List (String × DiskEntry) :=
  (d.entries.filterMap fun e =>
    match e.1.getLast? with
    | some name => if e.1.dropLast = path then some (name, e.2) else none
    | none => none).mergeSort fun a b => a.1 ≤ b.1

/-- Why a path that has to lead to a directory does not. -/
def wayFault? (d : Disk) (done : DiskPath) : DiskPath → Option DiskError
  | [] => none
  | name :: rest =>
    let path := done ++ [name]
    match d.find? path with
    | some .directory => d.wayFault? path rest
    | some (.file _) => some .notDirectory
    | none => some .notFound

/-- The content of a file. -/
def read (d : Disk) (path : DiskPath) : Except DiskError ByteArray :=
  match d.wayFault? [] path.dropLast with
  | some e => .error e
  | none =>
    match d.find? path with
    | some (.file content) => .ok content
    | some .directory => .error .isDirectory
    | none => .error .notFound

/-- The disk with a file written, in place of the one that was there. -/
def write (d : Disk) (path : DiskPath) (content : ByteArray) : Except DiskError Disk :=
  match d.wayFault? [] path.dropLast with
  | some e => .error e
  | none =>
    match d.find? path with
    | some .directory => .error .isDirectory
    | _ => .ok (d.put path (.file content))

/-- The disk without a file. -/
def remove (d : Disk) (path : DiskPath) : Except DiskError Disk :=
  match d.wayFault? [] path.dropLast with
  | some e => .error e
  | none =>
    match d.find? path with
    | some .directory => .error .isDirectory
    | some (.file _) => .ok (d.drop path)
    | none => .error .notFound

end Disk

end Wireflow
