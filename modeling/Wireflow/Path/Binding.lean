/-
Binding a path: its references are replaced by the keys that they have in a message. Positions that
come from a message are whole numbers up to `2 ^ 32 - 1`.
-/
import Wireflow.Path.Access

namespace Wireflow

/-- The position that a number names. -/
def Double.position? (d : Double) : Option Nat :=
  match d.wholeBelow? Text.halfWordSize with
  | some z => if 0 ≤ z then some z.toNat else none
  | none => none

/-- The key that a value found in a message names. -/
def Value.key? : Value → Option Key
  | .string s => some (.name s)
  | .number n => n.position?.map .index
  | _ => none

mutual

/-- The key of a segment; the entries of the message are there when there is one. -/
def Segment.bind? (msg : Option Entries) : Segment → Option Key
  | .name s => some (.name s)
  | .index i => some (.index i)
  | .reference _ segments =>
    match msg with
    | none => none
    | some entries =>
      match Segment.bindAll? (some entries) segments with
      | none => none
      | some keys =>
        match entries.lookup? keys with
        | some v => v.key?
        | none => none

/-- The keys of a list of segments, when each has one. -/
def Segment.bindAll? (msg : Option Entries) : List Segment → Option (List Key)
  | [] => some []
  | s :: rest =>
    match Segment.bind? msg s with
    | none => none
    | some k =>
      match Segment.bindAll? msg rest with
      | some ks => some (k :: ks)
      | none => none

end

/-- The keys of a path. -/
def Path.bind? (p : Path) (msg : Option Entries) : Option (List Key) :=
  Segment.bindAll? msg p.segments

end Wireflow
