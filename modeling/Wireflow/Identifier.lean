/-
Identifiers of the elements of a flow: numbers of 64 bits, written as sixteen hexadecimal digits.
-/
import Wireflow.Text.Blank
import Wireflow.Text.Numeral

namespace Wireflow

/-- The identifier of a flow, a group or a node. -/
structure Identifier where
  raw : UInt64
deriving DecidableEq, Inhabited

namespace Identifier

/-- The sixteen hexadecimal digits, in lower case. -/
def text (i : Identifier) : String :=
  Text.hexPadded 16 i.raw.toNat

/-- The identifier of one to sixteen hexadecimal digits between blanks. -/
def ofText? (s : String) : Option Identifier :=
  let digits := Text.trimChars s.toList
  if digits.length ≤ 16 then
    (Text.numeral? 16 digits).map fun n => ⟨UInt64.ofNat n⟩
  else none

/-- What is said of a text that is no identifier. -/
def invalidMessage (s : String) : String :=
  "invalid element id '" ++ s ++ "': expected up to 16 hexadecimal digits"

end Identifier

end Wireflow
