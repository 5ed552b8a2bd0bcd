/-
Reading records out of JSON trees: texts, flags, lists, and objects with named fields. The members
of an object are read in the order of their names, the first fault is the answer, and only then a
missing field; an array stands for a record with its fields in order.
-/
import Wireflow.Json.Writer
import Wireflow.Identifier
import Wireflow.Text.Escape

namespace Wireflow

/-- Why a JSON tree is not the record that is expected. -/
inductive RecordError
  | missingField (name : String)
  | duplicateField (name : String)
  | invalidType (found : Json) (expected : String)
  | invalidValue (found : Json) (expected : String)
  | invalidLength (length : Nat) (expected : String)
  | unknownVariant (name : String) (known : List String)
  | badIdentifier (text : String)
  | notNumeral (text : String)
  | noNumber (found : Json)
  | notFlagWord (text : String)
  | noFlag (found : Json)

namespace Record

/-- What a JSON tree is, in the words of messages. -/
def described : Json → String
  | .null => "null"
  | .bool b => "boolean `" ++ (if b then "true" else "false") ++ "`"
  | .number (.integer z _) => "integer `" ++ Text.decimalInt z ++ "`"
  | .number n => "floating point `" ++ String.ofList n.chars ++ "`"
  | .string s => "string " ++ Text.shown s
  | .array _ => "sequence"
  | .object _ => "map"

/-- A name between back quotes. -/
def named (s : String) : String := "`" ++ s ++ "`"

/-- The alternatives of a name, in words. -/
def alternatives : List String → String
  | [] => "no variants"
  | [a] => named a
  | [a, b] => named a ++ " or " ++ named b
  | names => "one of " ++ ", ".intercalate (names.map named)

end Record

open Record in
/-- The words for an error. -/
def RecordError.message : RecordError → String
  | .missingField name => "missing field " ++ named name
  | .duplicateField name => "duplicate field " ++ named name
  | .invalidType found expected => "invalid type: " ++ described found ++ ", expected " ++ expected
  | .invalidValue found expected =>
    "invalid value: " ++ described found ++ ", expected " ++ expected
  | .invalidLength n expected =>
    "invalid length " ++ Text.decimal n ++ ", expected " ++ expected
  | .unknownVariant name known =>
    "unknown variant " ++ named name ++ ", expected " ++ alternatives known
  | .badIdentifier s => Identifier.invalidMessage s
  | .notNumeral s => "'" ++ s ++ "' is not a number"
  | .noNumber found => "expected a number, found " ++ found.compact
  | .notFlagWord s => "expected true or false, found '" ++ s ++ "'"
  | .noFlag found => "expected a boolean, found " ++ found.compact

namespace Record

/-- A result of reading. -/
abbrev Read (α : Type) := Except RecordError α

/-! ## Plain values -/

/-- A string. -/
def text : Json → Read String
  | .string s => .ok s
  | j => .error (.invalidType j "a string")

/-- A boolean. -/
def flag : Json → Read Bool
  | .bool b => .ok b
  | j => .error (.invalidType j "a boolean")

/-- A whole number of 64 bits without a sign. -/
def count : Json → Read Nat
  | .number (.integer z h) =>
    if 0 ≤ z then .ok z.toNat else .error (.invalidValue (.number (.integer z h)) "usize")
  | j => .error (.invalidType j "usize")

/-- An identifier. -/
def identifier (j : Json) : Read Identifier :=
  match text j with
  | .error e => .error e
  | .ok s =>
    match Identifier.ofText? s with
    | some i => .ok i
    | none => .error (.badIdentifier s)

/-- Null for none, else what `read` reads. -/
def optional (read : Json → Read α) : Json → Read (Option α)
  | .null => .ok none
  | j =>
    match read j with
    | .ok a => .ok (some a)
    | .error e => .error e

/-- Any tree but null. -/
def anything (j : Json) : Read (Option Json) :=
  optional (fun j => .ok j) j

/-- What `read` reads of every item, up to the first fault. -/
def itemsOf (read : Json → Read α) : List Json → Read (List α)
  | [] => .ok []
  | j :: rest =>
    match read j with
    | .error e => .error e
    | .ok a =>
      match itemsOf read rest with
      | .error e => .error e
      | .ok as => .ok (a :: as)

/-- A list of what `read` reads. -/
def listOf (read : Json → Read α) : Json → Read (List α)
  | .array items => itemsOf read items
  | j => .error (.invalidType j "a sequence")

/-! ## Lenient values -/

/-- A number, a numeral, or nothing: an empty text or null. -/
def lenientNumber : Json → Read (Option Double)
  | .null => .ok none
  | .number n => .ok (some n.toDouble)
  | .string s =>
    if (Text.trimChars s.toList).isEmpty then .ok none
    else
      match Double.ofText? s with
      | some d => .ok (some d)
      | none => .error (.notNumeral s)
  | j => .error (.noNumber j)

/-- A boolean or its word; null and an empty text are false. -/
def lenientFlag : Json → Read Bool
  | .bool b => .ok b
  | .null => .ok false
  | .string s =>
    match Text.trim s with
    | "true" => .ok true
    | "false" => .ok false
    | "" => .ok false
    | other => .error (.notFlagWord other)
  | j => .error (.noFlag j)

/-- A text, or the JSON text of any other tree; null is none. -/
def lenientText : Json → Read (Option String)
  | .null => .ok none
  | .string s => .ok (some s)
  | j => .ok (some j.compact)

/-! ## Records -/

/-- Whether a field has to be there: always; in an array only; or never. -/
inductive Presence
  | required
  | requiredInArray
  | defaulted
deriving DecidableEq

/-- A field of a record under construction: its name, and how it is read into the record. -/
structure Member (σ : Type) where
  name : String
  presence : Presence
  read : Json → σ → Read σ

/-- A field whose value is put into the record by `put`. -/
def field (name : String) (presence : Presence) (read : Json → Read α) (put : σ → α → σ) :
    Member σ :=
  { name, presence,
    read := fun j s =>
      match read j with
      | .ok a => .ok (put s a)
      | .error e => .error e }

/-- Reads the members that are fields, in their order; other members are passed over. `seen` holds
the fields before them, none of which may come again. -/
def readMembers (fields : List (Member σ)) (seen : List String) :
    List (String × Json) → σ → Read σ
  | [], s => .ok s
  | (name, j) :: rest, s =>
    match fields.find? (fun f => f.name == name) with
    | none => readMembers fields seen rest s
    | some f =>
      if name ∈ seen then .error (.duplicateField name)
      else
        match f.read j s with
        | .ok s' => readMembers fields (name :: seen) rest s'
        | .error e => .error e

/-- The first required field that is no member. -/
def firstMissing? (fields : List (Member σ)) (members : List (String × Json)) : Option String :=
  (fields.find? fun f =>
    f.presence = .required && !(members.any fun m => m.1 == f.name)).map (·.name)

/-- Reads the items of an array into the fields in order. `expected` is what an array with too few
items should have been, `fewer` what one with too many should have been. -/
def readItems (expected fewer : String) (start : Nat) :
    List (Member σ) → List Json → σ → Read σ
  | [], [], s => .ok s
  | [], items, _ => .error (.invalidLength (start + items.length) fewer)
  | f :: fields, [], s =>
    if f.presence = .defaulted then readItems expected fewer start fields [] s
    else .error (.invalidLength start expected)
  | f :: fields, j :: items, s =>
    match f.read j s with
    | .ok s' => readItems expected fewer (start + 1) fields items s'
    | .error e => .error e

/-- Reads the members of an object: first the fields that are there, then what is missing. -/
def ofMembers (fields : List (Member σ)) (blank : σ) (members : List (String × Json)) : Read σ :=
  match readMembers fields [] members blank with
  | .error e => .error e
  | .ok s =>
    match firstMissing? fields members with
    | some name => .error (.missingField name)
    | none => .ok s

/-- Reads a record called `name`, starting from a blank one. -/
def struct (name : String) (fields : List (Member σ)) (blank : σ) : Json → Read σ
  | .object members => ofMembers fields blank members
  | .array items =>
    let elements := if fields.length = 1 then " element" else " elements"
    readItems ("struct " ++ name ++ " with " ++ Text.decimal fields.length ++ elements)
      "fewer elements in array" 0 fields items blank
  | j => .error (.invalidType j ("struct " ++ name))

end Record

end Wireflow
