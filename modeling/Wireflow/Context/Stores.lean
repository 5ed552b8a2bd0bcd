/-
All stores of an engine: the configured ones, a default store, and stores in memory for names that
nobody configured, each made when it is first written. A key may name its store as in
`#:(file)::a.b`.
-/
import Wireflow.Context.Store
import Wireflow.Message
import Wireflow.Path.Reading
import Wireflow.Text.Search

namespace Wireflow

/-! ## Keys -/

/-- A key of context data: the store that it names, if any, and a path. -/
structure ContextKey where
  store : Option String
  path : Path

namespace ContextKey

/-- The key of a text, without the blanks around it. -/
def parse (s : String) : Except PathError ContextKey :=
  let text := Text.trim s
  match Text.dropStart? "#:(".toList text.toList with
  | none => (Path.parse text).map fun path => { store := none, path }
  | some rest =>
    match Text.splitAt? ")::".toList rest with
    | none => .error (.badSyntax text 0 .badQualifier)
    | some (store, key) =>
      let store := Text.trim (String.ofList store)
      (Path.parse (String.ofList key)).map fun path =>
        { store := if store = "" then none else some store, path }

end ContextKey

/-! ## Settings -/

/-- Where a store keeps its entries. -/
inductive StoreKind
  | memory
  | onDisk (base : String)
deriving DecidableEq

/-- Which stores there are, and which one is meant when none is named. -/
structure ContextSettings where
  defaultName : String
  stores : Table StoreKind

/-- A default store in memory and no others. -/
def ContextSettings.plain : ContextSettings := { defaultName := "memory", stores := [] }

namespace StoreKind

open Record

/-- The word of a kind, which the member `module` holds. -/
def word (j : Json) : Read String :=
  match j with
  | .string "memory" => .ok "memory"
  | .string "localfilesystem" => .ok "localfilesystem"
  | .string other => .error (.unknownVariant other ["memory", "localfilesystem"])
  | j => .error (.invalidType j "variant identifier")

/-- The base directory of a store on disk. -/
def directoryField : Member StoreKind :=
  field "dir" .required
    (fun
      | .string s => .ok s
      | j => .error (.invalidType j "path string"))
    fun _ base => .onDisk base

/-- A kind is an object that names it, or an array that starts with its word. What follows the word
is counted without it. -/
def ofJson (j : Json) : Read StoreKind :=
  match j with
  | .object members =>
    match Table.get? "module" members with
    | none => .error (.missingField "module")
    | some tag =>
      match word tag with
      | .error e => .error e
      | .ok "memory" => .ok .memory
      | .ok _ => ofMembers [directoryField] .memory (Table.erase "module" members)
  | .array [] => .error (.missingField "module")
  | .array (tag :: rest) =>
    match word tag with
    | .error e => .error e
    | .ok "memory" => readItems "" "0 elements in sequence" 0 [] rest .memory
    | .ok _ =>
      readItems "struct variant StoreKind::Localfilesystem with 1 element" "1 element in sequence" 0
        [directoryField] rest .memory
  | j => .error (.invalidType j "internally tagged enum StoreKind")

end StoreKind

namespace ContextSettings

open Record

/-- The kinds of the stores by name, in the order of the names. -/
def readStores : List (String × Json) → Read (Table StoreKind)
  | [] => .ok []
  | (name, j) :: rest =>
    match StoreKind.ofJson j with
    | .error e => .error e
    | .ok kind =>
      match readStores rest with
      | .error e => .error e
      | .ok kinds => .ok ((name, kind) :: kinds)

/-- The stores of an object. -/
def storesOf : Json → Read (Table StoreKind)
  | .object members => readStores members
  | j => .error (.invalidType j "a map")

/-- The fields of settings. -/
def fields : List (Member ContextSettings) :=
  [field "default_store" .defaulted text fun s a => { s with defaultName := a },
   field "stores" .defaulted storesOf fun s a => { s with stores := a }]

/-- The settings of a JSON tree. -/
def ofJson (j : Json) : Read ContextSettings :=
  struct "ContextSettings" fields plain j

end ContextSettings

/-! ## Stores -/

/-- The stores of an engine by name, and the disk that some of them write to. -/
structure Contexts where
  defaultName : String
  stores : Table Store
  disk : Disk

namespace Contexts

/-- Only the default store, in memory. -/
def inMemory (disk : Disk) : Contexts :=
  { defaultName := "memory", stores := [("memory", Store.memory "memory")], disk }

/-- Opens the configured stores in the order of their names, up to the first that fails. -/
def openAll (disk : Disk) (opened : Table Store) :
    List (String × StoreKind) → Except NodeFault (Table Store) × Disk
  | [] => (.ok opened, disk)
  | (name, .memory) :: rest => openAll disk (Table.insert name (Store.memory name) opened) rest
  | (name, .onDisk base) :: rest =>
    match Store.openAt name base disk with
    | (.ok store, disk) => openAll disk (Table.insert name store opened) rest
    | (.error fault, disk) => (.error (.store name fault), disk)

/-- The stores of some settings, and the disk after they have been opened. -/
def ofSettings (settings : ContextSettings) (disk : Disk) : Except NodeFault Contexts × Disk :=
  match openAll disk [] settings.stores with
  | (.error fault, disk) => (.error fault, disk)
  | (.ok stores, disk) =>
    let name := settings.defaultName
    let stores :=
      match Table.get? name stores with
      | some _ => stores
      | none => Table.insert name (Store.memory name) stores
    (.ok { defaultName := name, stores, disk }, disk)

/-- The name of the store that is meant. -/
def nameOf (c : Contexts) (name : Option String) : String :=
  name.getD c.defaultName

/-- The store of a name; one in memory when nobody configured it. -/
def store (c : Contexts) (name : Option String) : Store :=
  (Table.get? (c.nameOf name) c.stores).getD (Store.memory (c.nameOf name))

/-- The contexts with a store of a name. One that nobody configured is made in memory on its first
use. -/
def opened (c : Contexts) (name : Option String) : Contexts :=
  match Table.get? (c.nameOf name) c.stores with
  | some _ => c
  | none =>
    { c with stores := Table.insert (c.nameOf name) (Store.memory (c.nameOf name)) c.stores }

/-- What stands at a key of a scope. References in the key are bound to the message. -/
def get? (c : Contexts) (scope : Scope) (key : ContextKey) (msg : Option Message) : Option Value :=
  match key.path.bind? (msg.map (·.entries)) with
  | none => none
  | some keys => (c.store key.store).get? scope keys

/-- Writes a value at a key of a scope, or removes what stands there for none. -/
def set (c : Contexts) (scope : Scope) (key : ContextKey) (msg : Option Message)
    (v : Option Value) : Except NodeFault Contexts :=
  let c := c.opened key.store
  let store := c.store key.store
  match key.path.bind? (msg.map (·.entries)) with
  | none => .error (.store store.name (.unbound key.path.source))
  | some keys =>
    match store.set scope keys v c.disk with
    | .error fault => .error (.store store.name fault)
    | .ok (store, disk) =>
      .ok { c with stores := Table.insert (c.nameOf key.store) store c.stores, disk }

/-! ## Stores made on their first use -/

@[simp] theorem defaultName_opened (c : Contexts) (name : Option String) :
    (c.opened name).defaultName = c.defaultName := by
  unfold opened; split <;> rfl

@[simp] theorem disk_opened (c : Contexts) (name : Option String) :
    (c.opened name).disk = c.disk := by
  unfold opened; split <;> rfl

@[simp] theorem nameOf_opened (c : Contexts) (name other : Option String) :
    (c.opened name).nameOf other = c.nameOf other := by
  simp [nameOf]

/-- The store of a name is the same before and after it has been made. -/
@[simp] theorem store_opened (c : Contexts) (name other : Option String) :
    (c.opened name).store other = c.store other := by
  simp only [store, nameOf_opened]
  unfold opened
  cases h : Table.get? (c.nameOf name) c.stores with
  | some s => rfl
  | none =>
    by_cases hn : c.nameOf other = c.nameOf name
    · simp [hn, h]
    · simp [Table.get?_insert_of_ne hn]

/-- A write is a write to the store of its key, made on its first use or not. -/
theorem set_eq (c : Contexts) (scope : Scope) (key : ContextKey) (msg : Option Message)
    (v : Option Value) :
    c.set scope key msg v =
      match key.path.bind? (msg.map (·.entries)) with
      | none => .error (.store (c.store key.store).name (.unbound key.path.source))
      | some keys =>
        match (c.store key.store).set scope keys v c.disk with
        | .error fault => .error (.store (c.store key.store).name fault)
        | .ok (store, disk) =>
          .ok { c with stores := Table.insert (c.nameOf key.store) store c.stores, disk } := by
  have hs : ∀ s, Table.insert (c.nameOf key.store) s (c.opened key.store).stores =
      Table.insert (c.nameOf key.store) s c.stores := by
    intro s
    unfold opened
    split
    · rfl
    · simp
  simp only [set, store_opened, nameOf_opened, disk_opened, defaultName_opened, hs]

end Contexts

end Wireflow
