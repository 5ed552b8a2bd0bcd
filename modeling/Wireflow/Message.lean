/-
Messages: the entries that travel along the wires. Every message has an entry `_msgid`; one that
arrives without it gets a fresh one.
-/
import Wireflow.Path.Binding
import Wireflow.Value.Json

namespace Wireflow

/-- A supply of fresh identifiers, all different: version 4 UUIDs counted up from a seed. -/
structure FreshIds where
  next : Nat
deriving DecidableEq, Inhabited

namespace FreshIds

/-- Digits of a hexadecimal field. -/
def field (width n : Nat) : String :=
  Text.hexPadded width (n % Nat.pow 16 width)

/-- The text of the identifier with this number. -/
def textOf (n : Nat) : String :=
  field 8 (n / Nat.pow 16 22) ++ "-" ++ field 4 (n / Nat.pow 16 18) ++ "-4" ++
    field 3 (n / Nat.pow 16 15) ++ "-8" ++ field 3 (n / Nat.pow 16 12) ++ "-" ++ field 12 n

/-- A fresh identifier, and the supply without it. -/
def take (s : FreshIds) : String × FreshIds :=
  (textOf s.next, { next := s.next + 1 })

end FreshIds

/-- A message: its entries by name. -/
structure Message where
  entries : Entries

namespace Message

/-- The name of the entry that identifies a message. -/
def idName : String := "_msgid"

/-- The message of some entries, identified by `fresh` when they hold no identifier. -/
def ofEntries (fresh : String) (entries : Entries) : Message :=
  match entries.get? idName with
  | some _ => ⟨entries⟩
  | none => ⟨Table.insert idName (.string fresh) entries⟩

/-- An empty message with an identifier. -/
def empty (fresh : String) : Message :=
  ⟨[(idName, .string fresh)]⟩

/-- The message of a JSON object, identified by `fresh` when it holds no identifier. -/
def ofJson? (fresh : String) (j : Json) : Option Message :=
  match Value.ofJson j with
  | .object entries => some (ofEntries fresh entries)
  | _ => none

/-- The message of some entries, its identifier taken from the supply when they hold none. -/
def identify (entries : Entries) (ids : FreshIds) : Message × FreshIds :=
  match entries.get? idName with
  | some _ => (⟨entries⟩, ids)
  | none => (ofEntries ids.take.1 entries, ids.take.2)

/-- The entry under a name. -/
def get? (m : Message) (name : String) : Option Value :=
  Table.get? name m.entries

/-- The identifier, when it is a string. -/
def id? (m : Message) : Option String :=
  match m.get? idName with
  | some (.string s) => some s
  | _ => none

/-- The message with a value under a name. -/
def insert (m : Message) (name : String) (v : Value) : Message :=
  ⟨Table.insert name v m.entries⟩

/-- The message without a name. -/
def erase (m : Message) (name : String) : Message :=
  ⟨Table.erase name m.entries⟩

/-- What stands at a path. -/
def getPath? (m : Message) (p : Path) : Option Value :=
  match p.bind? (some m.entries) with
  | some keys => m.entries.lookup? keys
  | none => none

/-- The message with a value written at a path, and whether the write reached its end. -/
def setPath (m : Message) (p : Path) (v : Value) : Bool × Message :=
  match p.bind? (some m.entries) with
  | some keys =>
    let r := m.entries.assign keys v
    (r.1, ⟨r.2⟩)
  | none => (false, m)

/-- What stood at a path, and the message without it. -/
def removePath (m : Message) (p : Path) : Option Value × Message :=
  match p.bind? (some m.entries) with
  | some keys =>
    let r := m.entries.remove keys
    (r.1, ⟨r.2⟩)
  | none => (none, m)

/-- The JSON tree of a message. -/
def toJson (m : Message) : Json :=
  .object (Value.toJsonEntries m.entries)

/-- Whether two messages have the same entries. -/
def same (a b : Message) : Bool :=
  Value.sameEntries a.entries b.entries

end Message

end Wireflow
