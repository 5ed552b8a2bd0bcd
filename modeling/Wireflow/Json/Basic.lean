/-
JSON as a tree. Its numbers are the integers of 64 bits, signed or not, and the finite binary64
numbers; the members of an object are sorted by name.
-/
import Wireflow.Double.Basic
import Wireflow.Table

namespace Wireflow

namespace Json

/-- Integers from `-2 ^ 63` up to `2 ^ 64 - 1`. -/
def InWord (z : Int) : Prop :=
  -9223372036854775808 ≤ z ∧ z < 18446744073709551616

instance (z : Int) : Decidable (InWord z) := by
  unfold InWord; infer_instance

/-- A number of a JSON tree: an integer of 64 bits, or a finite binary64 number. -/
inductive Number
  | integer (value : Int) (inWord : InWord value)
  | float (negative : Bool) (magnitude : Magnitude)
deriving DecidableEq

/-- The nearest binary64 number. -/
def Number.toDouble : Number → Double
  | .integer z _ => Double.ofInt z
  | .float negative m => .finite negative m

end Json

/-- A JSON tree. -/
inductive Json
  | null
  | bool (b : Bool)
  | number (n : Json.Number)
  | string (s : String)
  | array (items : List Json)
  | object (members : List (String × Json))

namespace Json

instance : Inhabited Json := ⟨.null⟩

/-- An integer of 64 bits. -/
def ofNat (n : Nat) : Json :=
  if h : InWord n then .number (.integer n h) else .null

/-- The member of an object under a name. -/
def member? (name : String) : Json → Option Json
  | .object members => Table.get? name members
  | _ => none

/-- The text of a string. -/
def string? : Json → Option String
  | .string s => some s
  | _ => none

end Json

end Wireflow
