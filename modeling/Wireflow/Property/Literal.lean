/-
The types that a typed property may name, and the literals of those that are constant.
-/
import Wireflow.Fault
import Wireflow.Json.Reader
import Wireflow.Value.Json

namespace Wireflow

/-- The type of a typed property. -/
inductive PropertyType
  | str
  | num
  | bool
  | json
  | bin
  | date
  | env
  | msg
  | flow
  | global
deriving DecidableEq

namespace PropertyType

/-- The word for a type. -/
def name : PropertyType → String
  | .str => "str"
  | .num => "num"
  | .bool => "bool"
  | .json => "json"
  | .bin => "bin"
  | .date => "date"
  | .env => "env"
  | .msg => "msg"
  | .flow => "flow"
  | .global => "global"

/-- All types. -/
def all : List PropertyType :=
  [.str, .num, .bool, .json, .bin, .date, .env, .msg, .flow, .global]

/-- The type of a word. -/
def parse (s : String) : Except NodeFault PropertyType :=
  match all.find? fun t => t.name == s with
  | some t => .ok t
  | none => .error (.configuration (.unknownType s))

@[simp] theorem parse_name (t : PropertyType) : parse t.name = .ok t := by
  cases t <;> rfl

end PropertyType

/-! ## Literals -/

/-- The text that a JSON tree stands for: a string itself, nothing for null, else its JSON text. -/
def Json.plainText : Json → String
  | .string s => s
  | .null => ""
  | j => j.compact

namespace Literal

/-- A number, or the text of one. -/
def number : Json → Except ConfigFault Value
  | .number n => .ok (.number n.toDouble)
  | .string s =>
    match Double.ofText? s with
    | some d => .ok (.number d)
    | none => .error (.badNumber ("'" ++ s ++ "'"))
  | j => .error (.badNumber j.compact)

/-- Whether a text is the word `true` in any case. -/
def isTrueWord (s : String) : Bool :=
  (Text.trimChars s.toList).map Char.toLower == "true".toList

/-- A boolean, or the word `true`; anything else is false. -/
def boolean : Json → Value
  | .bool b => .bool b
  | .string s => .bool (isTrueWord s)
  | _ => .bool false

/-- A tree, or the text of one. -/
def tree : Json → Except ConfigFault Value
  | .string s =>
    match Json.parse? s with
    | some j => .ok (Value.ofJson j)
    | none => .error .badJson
  | j => .ok (Value.ofJson j)

/-- A byte of an array of bytes. -/
def byte? : Json → Option UInt8
  | .number (.integer z _) => if 0 ≤ z ∧ z < 256 then some (UInt8.ofNat z.toNat) else none
  | _ => none

/-- The bytes of an array, up to the first item that is none. -/
def bytesOf : List Json → Except ConfigFault (List UInt8)
  | [] => .ok []
  | j :: rest =>
    match byte? j with
    | none => .error (.noByte j.compact)
    | some b =>
      match bytesOf rest with
      | .ok bs => .ok (b :: bs)
      | .error e => .error e

/-- The bytes of a tree: those of a string's text, or those of an array. -/
def bytesOfTree : Json → Except ConfigFault Value
  | .string s => .ok (.bytes s.toUTF8.toList)
  | .array items =>
    match bytesOf items with
    | .ok bs => .ok (.bytes bs)
    | .error e => .error e
  | j => .error (.noBuffer j.compact)

/-- An array of bytes or the JSON text of bytes. -/
def buffer : Json → Except ConfigFault Value
  | .string s =>
    match Json.parse? s with
    | some j => bytesOfTree j
    | none => .error .badBuffer
  | j => bytesOfTree j

/-- The value of a literal; a date is the time of reading it. -/
def read (now : Double) (type : PropertyType) (raw : Json) : Except ConfigFault Value :=
  match type with
  | .str => .ok (.string raw.plainText)
  | .num => number raw
  | .bool => .ok (boolean raw)
  | .json => tree raw
  | .bin => buffer raw
  | .date => .ok (.number now)
  | t => .error (.noLiteral t.name)

end Literal

end Wireflow
