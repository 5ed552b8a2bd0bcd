/-
One store of context data: the entries of every scope, and for a store on disk one file a scope that
is written before a change is kept. A change that cannot be made leaves the store as it was.
-/
import Wireflow.Fault
import Wireflow.Json.Reader
import Wireflow.Path.Access
import Wireflow.Value.Json

namespace Wireflow

/-- A store: its name, the directory of its files when it has some, and the entries of its scopes.
-/
structure Store where
  name : String
  directory : Option String
  scopes : List (Scope × Entries)

namespace Store

/-- An empty store in memory. -/
def memory (name : String) : Store :=
  { name, directory := none, scopes := [] }

/-- The entries under a scope in a list; none at all for a scope that has not been written. -/
def entriesIn (scope : Scope) : List (Scope × Entries) → Entries
  | [] => []
  | (s, e) :: rest => if s = scope then e else entriesIn scope rest

/-- The list with the entries of a scope replaced. -/
def putIn (scope : Scope) (entries : Entries) : List (Scope × Entries) → List (Scope × Entries)
  | [] => [(scope, entries)]
  | (s, e) :: rest => if s = scope then (s, entries) :: rest else (s, e) :: putIn scope entries rest

/-- The entries of a scope. -/
def entries (s : Store) (scope : Scope) : Entries :=
  entriesIn scope s.scopes

/-- The store with the entries of a scope replaced. -/
def put (s : Store) (scope : Scope) (entries : Entries) : Store :=
  { s with scopes := putIn scope entries s.scopes }

/-- What stands at some keys of a scope. -/
def get? (s : Store) (scope : Scope) (keys : List Key) : Option Value :=
  (s.entries scope).lookup? keys

/-- The names of the entries of a scope. -/
def names (s : Store) (scope : Scope) : List String :=
  Table.keys (s.entries scope)

/-- The entries with a value written at some keys, or with what stands there removed for none;
nothing when the write does not reach its end. -/
def changed? (entries : Entries) (keys : List Key) : Option Value → Option Entries
  | some v =>
    let r := entries.assign keys v
    if r.1 then some r.2 else none
  | none => some (entries.remove keys).2

/-- The content of the file of a scope. -/
def fileContent (entries : Entries) : ByteArray :=
  (Value.toJson (.object entries)).indented.toUTF8

/-- The disk after the entries of a scope have been written to the store's file of it. `write` is how
the system writes a file. -/
def persistBy (write : Disk → DiskPath → ByteArray → Except DiskError Disk) (s : Store)
    (scope : Scope) (entries : Entries) (disk : Disk) : Except StoreFault Disk :=
  match s.directory with
  | none => .ok disk
  | some directory =>
    match write disk (Disk.pathOf (Disk.join directory scope.fileName)) (fileContent entries) with
    | .ok disk => .ok disk
    | .error e => .error (.disk e)

/-- Writes a value at some keys of a scope, or removes what stands there for none. The change is
kept only after it has been written by `write`. -/
def setBy (write : Disk → DiskPath → ByteArray → Except DiskError Disk) (s : Store) (scope : Scope)
    (keys : List Key) (v : Option Value) (disk : Disk) : Except StoreFault (Store × Disk) :=
  match changed? (s.entries scope) keys v with
  | none => .error (.unwritable keys scope)
  | some entries =>
    match s.persistBy write scope entries disk with
    | .ok disk => .ok (s.put scope entries, disk)
    | .error e => .error e

/-- Writes a value at some keys of a scope, or removes what stands there for none, on a disk that
fails only for reasons of its own. -/
def set : Store → Scope → List Key → Option Value → Disk → Except StoreFault (Store × Disk) :=
  setBy Disk.write

/-! ## Reading after writing -/

theorem entriesIn_putIn_self (scope : Scope) (entries : Entries) (scopes : List (Scope × Entries)) :
    entriesIn scope (putIn scope entries scopes) = entries := by
  induction scopes with
  | nil => simp [putIn, entriesIn]
  | cons p rest ih =>
    obtain ⟨s, e⟩ := p
    by_cases h : s = scope <;> simp [putIn, entriesIn, h, ih]

theorem entriesIn_putIn_of_ne {scope scope' : Scope} (h : scope' ≠ scope) (entries : Entries)
    (scopes : List (Scope × Entries)) :
    entriesIn scope' (putIn scope entries scopes) = entriesIn scope' scopes := by
  induction scopes with
  | nil => simp [putIn, entriesIn, h.symm]
  | cons p rest ih =>
    obtain ⟨s, e⟩ := p
    by_cases hs : s = scope
    · subst hs; simp [putIn, entriesIn, h.symm]
    · simp [putIn, entriesIn, hs, ih]

@[simp] theorem entries_put_self (s : Store) (scope : Scope) (entries : Entries) :
    (s.put scope entries).entries scope = entries :=
  entriesIn_putIn_self scope entries s.scopes

theorem entries_put_of_ne {scope scope' : Scope} (h : scope' ≠ scope) (s : Store)
    (entries : Entries) : (s.put scope entries).entries scope' = s.entries scope' :=
  entriesIn_putIn_of_ne h entries s.scopes

@[simp] theorem entries_memory (name : String) (scope : Scope) :
    (memory name).entries scope = [] := rfl

/-- A store in memory writes no file, so a change of its entries always holds. -/
theorem setBy_of_memory {s : Store} (h : s.directory = none)
    (write : Disk → DiskPath → ByteArray → Except DiskError Disk) (scope : Scope) (keys : List Key)
    (v : Option Value) (disk : Disk) :
    s.setBy write scope keys v disk =
      match changed? (s.entries scope) keys v with
      | none => .error (.unwritable keys scope)
      | some entries => .ok (s.put scope entries, disk) := by
  unfold setBy persistBy
  rw [h]

/-! ## Opening a store on disk -/

/-- The entries that a file holds, when it holds a JSON object. -/
def entriesOf? (content : ByteArray) : Option Entries :=
  match String.fromUTF8? content with
  | none => none
  | some text =>
    match Json.parse? text with
    | some (.object members) => some (Value.ofJsonMembers members)
    | _ => none

/-- The scopes that the files of a directory hold, in the order in which the files are listed. Files
that belong to no scope are passed over. -/
def load (directory : String) :
    List (String × DiskEntry) → List (Scope × Entries) → Except StoreFault (List (Scope × Entries))
  | [], scopes => .ok scopes
  | (file, entry) :: rest, scopes =>
    match Scope.ofFileName? file with
    | none => load directory rest scopes
    | some scope =>
      match entry with
      | .directory => .error (.disk .isDirectory)
      | .file content =>
        match entriesOf? content with
        | some entries => load directory rest (putIn scope entries scopes)
        | none => .error (.notAnObject (Disk.join directory file))

/-- Opens the store of a name below a base directory, which is made when it is not there. -/
def openAt (name base : String) (disk : Disk) : Except StoreFault Store × Disk :=
  let directory := Disk.join base name
  let path := Disk.pathOf directory
  match disk.makeDirectory path with
  | .error e => (.error (.disk e), disk)
  | .ok disk =>
    match load directory (disk.list path) [] with
    | .ok scopes => (.ok { name, directory := some directory, scopes }, disk)
    | .error e => (.error e, disk)

end Store

end Wireflow
