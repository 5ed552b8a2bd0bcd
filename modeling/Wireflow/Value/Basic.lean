/-
The dynamic values that messages and contexts hold, with their kinds, lengths and conversions to
numbers and texts.
-/
import Wireflow.Double.Decimal
import Wireflow.Table

namespace Wireflow

/-- A dynamic value. The entries of an object are sorted by name. -/
inductive Value
  | null
  | bool (b : Bool)
  | number (n : Double)
  | string (s : String)
  | bytes (b : List UInt8)
  | array (items : List Value)
  | object (entries : List (String × Value))

/-- The entries of an object. -/
abbrev Entries := Table Value

namespace Value

instance : Inhabited Value := ⟨.null⟩

/-- The word for what kind of value it is. -/
def kind : Value → String
  | .null => "null"
  | .bool _ => "boolean"
  | .number _ => "number"
  | .string _ => "string"
  | .bytes _ => "buffer"
  | .array _ => "array"
  | .object _ => "object"

/-- How many characters, bytes, items or entries; other values have no length. -/
def length? : Value → Option Nat
  | .string s => some s.length
  | .bytes b => some b.length
  | .array a => some a.length
  | .object m => some m.length
  | _ => none

/-- Whether it is null. -/
def isNull : Value → Bool
  | .null => true
  | _ => false

/-- The number that a number is, or that the text of a string denotes. -/
def toNumber? : Value → Option Double
  | .number n => some n
  | .string s => Double.ofText? s
  | _ => none

/-- The text of a string, number or boolean. -/
def toText? : Value → Option String
  | .string s => some s
  | .number n => some n.text
  | .bool b => some (if b then "true" else "false")
  | _ => none

/-! ## Equality and order -/

mutual

/-- The same kind and the same content; numbers as numbers, so what is no number equals nothing. -/
def same : Value → Value → Bool
  | .null, .null => true
  | .bool a, .bool b => a == b
  | .number a, .number b => a.numEq b
  | .string a, .string b => a == b
  | .bytes a, .bytes b => a == b
  | .array a, .array b => sameItems a b
  | .object a, .object b => sameEntries a b
  | _, _ => false

/-- The same items in the same order. -/
def sameItems : List Value → List Value → Bool
  | [], [] => true
  | a :: as, b :: bs => same a b && sameItems as bs
  | _, _ => false

/-- The same names with the same values. -/
def sameEntries : List (String × Value) → List (String × Value) → Bool
  | [], [] => true
  | (k, a) :: as, (l, b) :: bs => k == l && same a b && sameEntries as bs
  | _, _ => false

end

/-- The order of two texts, by code points. -/
def compareText (a b : String) : Ordering :=
  if a < b then .lt else if a = b then .eq else .gt

/-- The order of two values: as numbers when both are numbers or numerals, else as texts when both
have one. -/
def compare? (a b : Value) : Option Ordering :=
  match a.toNumber?, b.toNumber? with
  | some x, some y => x.compare? y
  | _, _ =>
    match a.toText?, b.toText? with
    | some s, some t => some (compareText s t)
    | _, _ => none

/-- An array, an object or bytes. -/
def isCompound : Value → Bool
  | .bytes _ => true
  | .array _ => true
  | .object _ => true
  | _ => false

/-- Equality across kinds: booleans and nulls among themselves, compound values by content, all
others by their order. -/
def looseEq (a b : Value) : Bool :=
  match a, b with
  | .bool x, .bool y => x == y
  | .null, .null => true
  | _, _ =>
    if a.isCompound || b.isCompound then same a b
    else a.compare? b == some .eq

end Value

end Wireflow
