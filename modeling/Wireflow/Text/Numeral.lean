/-
Whole numbers as text: digits of a base, the value of a run of digits, and the numerals of
64-bit words.
-/

namespace Wireflow.Text

/-- The value of a hexadecimal digit in either case. -/
def digitValue? (c : Char) : Option Nat :=
  if '0' ≤ c ∧ c ≤ '9' then some (c.toNat - '0'.toNat)
  else if 'a' ≤ c ∧ c ≤ 'f' then some (c.toNat - 'a'.toNat + 10)
  else if 'A' ≤ c ∧ c ≤ 'F' then some (c.toNat - 'A'.toNat + 10)
  else none

/-- A digit of the base, which is at most sixteen. -/
def isDigitOf (base : Nat) (c : Char) : Bool :=
  match digitValue? c with
  | some d => d < base
  | none => false

/-- The number that a run of digits denotes, the first digit weighing most. -/
def digitsValue (base : Nat) (cs : List Char) : Nat :=
  cs.foldl (fun n c => n * base + (digitValue? c).getD 0) 0

/-- The number of a text that is a non-empty run of digits and nothing else. -/
def numeral? (base : Nat) (cs : List Char) : Option Nat :=
  if !cs.isEmpty && cs.all (isDigitOf base) then some (digitsValue base cs) else none

/-- Two to the power of 64. Words of 64 bits are less. -/
def wordSize : Nat := 18446744073709551616

/-- Two to the power of 32. -/
def halfWordSize : Nat := 4294967296

/-- The number that a numeral of a 64-bit word denotes. One plus sign may stand in front. -/
def word? (base : Nat) (cs : List Char) : Option Nat :=
  let digits := match cs with
    | '+' :: rest => rest
    | _ => cs
  match numeral? base digits with
  | some n => if n < wordSize then some n else none
  | none => none

/-- The decimal digits of a number. -/
def decimalDigits (n : Nat) : List Char :=
  Nat.toDigits 10 n

/-- The decimal numeral of a number. -/
def decimal (n : Nat) : String :=
  String.ofList (decimalDigits n)

/-- The decimal numeral of an integer, a minus sign before the negative ones. -/
def decimalInt (z : Int) : String :=
  if z < 0 then String.ofList ('-' :: decimalDigits z.natAbs) else decimal z.natAbs

/-- Filled up on the left with zeros to a width. -/
def padZeros (width : Nat) (cs : List Char) : List Char :=
  List.replicate (width - cs.length) '0' ++ cs

/-- The hexadecimal numeral in lower case, filled up with zeros to a width. -/
def hexPadded (width n : Nat) : String :=
  String.ofList (padZeros width (Nat.toDigits 16 n))

end Wireflow.Text
