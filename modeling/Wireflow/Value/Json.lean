/-
Values as JSON trees and back. Whole numbers below `9 * 10 ^ 15` in size become integers, bytes an
array of integers, and numbers that are not finite become null.
-/
import Wireflow.Json.Writer
import Wireflow.Value.Basic

namespace Wireflow

namespace Value

/-- Whole numbers of this size and greater stay binary64 numbers in JSON. -/
def integerBound : Nat := 9000000000000000

mutual

/-- The value of a JSON tree. -/
def ofJson : Json → Value
  | .null => .null
  | .bool b => .bool b
  | .number n => .number n.toDouble
  | .string s => .string s
  | .array items => .array (ofJsonItems items)
  | .object members => .object (ofJsonMembers members)

/-- The values of the items. -/
def ofJsonItems : List Json → List Value
  | [] => []
  | j :: rest => ofJson j :: ofJsonItems rest

/-- The values of the members. -/
def ofJsonMembers : List (String × Json) → List (String × Value)
  | [] => []
  | (name, j) :: rest => (name, ofJson j) :: ofJsonMembers rest

end

/-- The JSON tree of a number. -/
def numberJson (d : Double) : Json :=
  match d.wholeBelow? integerBound with
  | some z => if h : Json.InWord z then .number (.integer z h) else .null
  | none =>
    match d with
    | .finite negative m => .number (.float negative m)
    | _ => .null

mutual

/-- The JSON tree of a value. -/
def toJson : Value → Json
  | .null => .null
  | .bool b => .bool b
  | .number d => numberJson d
  | .string s => .string s
  | .bytes b => .array (b.map fun x => Json.ofNat x.toNat)
  | .array items => .array (toJsonItems items)
  | .object entries => .object (toJsonEntries entries)

/-- The JSON trees of the items. -/
def toJsonItems : List Value → List Json
  | [] => []
  | v :: rest => toJson v :: toJsonItems rest

/-- The JSON trees of the entries. -/
def toJsonEntries : List (String × Value) → List (String × Json)
  | [] => []
  | (name, v) :: rest => (name, toJson v) :: toJsonEntries rest

end

/-- The JSON text of a value. -/
def jsonText (v : Value) : String :=
  v.toJson.compact

end Value

end Wireflow
