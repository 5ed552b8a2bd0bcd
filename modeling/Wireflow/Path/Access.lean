/-
Reading, writing and removing what stands at a list of concrete keys. Writing makes the containers
that are missing on its way, so a write that fails further down may leave some of them behind; the
answers therefore carry the tree as it is afterwards.
-/
import Wireflow.Path.Basic

namespace Wireflow

namespace Value

/-- The direct part of a container at a key. -/
def child? (k : Key) : Value → Option Value
  | .object m => Table.get? k.text m
  | .array items =>
    match k.position? with
    | some i => items[i]?
    | none => none
  | _ => none

/-- What stands below a value at a list of keys; the value itself for none. -/
def lookupIn? : Value → List Key → Option Value
  | v, [] => some v
  | v, k :: rest =>
    match v.child? k with
    | some c => lookupIn? c rest
    | none => none

/-- How far beyond the end of an array a write may reach. -/
def gapLimit : Nat := 1024

/-- The empty container that a key is written into: an array for a position. -/
def emptyFor : Key → Value
  | .index _ => .array []
  | .name _ => .object []

/-- Null turned into the empty container for a key; other values as they are. -/
def opened (k : Key) : Value → Value
  | .null => emptyFor k
  | v => v

/-- The items filled up with nulls so that there is one at the position. -/
def padded (items : List Value) (i : Nat) : List Value :=
  items ++ List.replicate (i + 1 - items.length) .null

/-- A place is there for writing at this position. -/
def reaches (items : List Value) (i : Nat) : Bool :=
  i < items.length || i - items.length ≤ gapLimit

/-- A value with another one written at a list of keys, and whether the write reached its end. -/
def assignIn (new : Value) : Value → List Key → Bool × Value
  | _, [] => (true, new)
  | v, k :: rest =>
    match v.opened k with
    | .object m =>
      let r := assignIn new ((Table.get? k.text m).getD .null) rest
      (r.1, .object (Table.insert k.text r.2 m))
    | .array items =>
      match k.position? with
      | none => (false, .array items)
      | some i =>
        if reaches items i then
          let slots := padded items i
          let r := assignIn new (slots[i]?.getD .null) rest
          (r.1, .array (slots.set i r.2))
        else (false, .array items)
    | scalar => (false, scalar)

/-- The value with the part at a key taken out, and that part. -/
def takeChild? (k : Key) : Value → Option (Value × Value)
  | .object m =>
    match Table.get? k.text m with
    | some c => some (c, .object (Table.erase k.text m))
    | none => none
  | .array items =>
    match k.position? with
    | some i =>
      match items[i]? with
      | some c => some (c, .array (items.eraseIdx i))
      | none => none
    | none => none
  | _ => none

/-- A container with the part at a key replaced. -/
def setChild (v : Value) (k : Key) (c : Value) : Value :=
  match v with
  | .object m => .object (Table.insert k.text c m)
  | .array items =>
    match k.position? with
    | some i => .array (items.set i c)
    | none => .array items
  | v => v

/-- What stood at a list of keys, and the value without it. -/
def removeIn? : Value → List Key → Option (Value × Value)
  | _, [] => none
  | v, [last] => v.takeChild? last
  | v, k :: rest =>
    match v.child? k with
    | none => none
    | some c =>
      match removeIn? c rest with
      | some (old, c') => some (old, v.setChild k c')
      | none => none

end Value

namespace Entries

/-- What stands at a list of keys. -/
def lookup? (root : Entries) : List Key → Option Value
  | [] => none
  | first :: rest =>
    match Table.get? first.text root with
    | some v => v.lookupIn? rest
    | none => none

/-- The entries with a value written at a list of keys, and whether the write reached its end. -/
def assign (root : Entries) (keys : List Key) (new : Value) : Bool × Entries :=
  match keys with
  | [] => (false, root)
  | first :: rest =>
    let r := Value.assignIn new ((Table.get? first.text root).getD .null) rest
    (r.1, Table.insert first.text r.2 root)

/-- What stood at a list of keys, and the entries without it. -/
def remove (root : Entries) : List Key → Option Value × Entries
  | [] => (none, root)
  | [last] => (Table.get? last.text root, Table.erase last.text root)
  | first :: rest =>
    match Table.get? first.text root with
    | none => (none, root)
    | some v =>
      match v.removeIn? rest with
      | some (old, v') => (some old, Table.insert first.text v' root)
      | none => (none, root)

end Entries

end Wireflow
