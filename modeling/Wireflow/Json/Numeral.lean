/-
Numbers in JSON text. Reading keeps integers of 64 bits; any other number is read as its leading
digits that fit a 64-bit word, rounded, and then scaled by powers of ten, one rounding a step.
Writing gives the shortest digits, with an exponent only outside `10 ^ -5` to `10 ^ 16`.
-/
import Wireflow.Json.Basic
import Wireflow.Double.Decimal

namespace Wireflow.Json.Number

/-! ## Writing -/

/-- How a finite binary64 number is laid out. -/
structure Layout where
  /-- The least power of ten of a leading digit that is written without an exponent. -/
  least : Int
  /-- The greatest such power. -/
  greatest : Int
  /-- What is added to a positional number without a point. -/
  wholeEnd : String
  /-- What stands between the digits and an exponent that is not negative. -/
  positiveMark : String

/-- Plain notation from `10 ^ -5` up to below `10 ^ 16`, always with a point; else an exponent with
its sign. -/
def layout : Layout := ⟨-5, 15, ".0", "e+"⟩

/-- The text of a decimal that is not zero. -/
def Layout.write (l : Layout) (d : Decimal) : List Char :=
  let digits := Text.decimalDigits d.digits
  let leading : Int := d.scale + digits.length - 1
  if l.least ≤ leading ∧ leading ≤ l.greatest then
    if 0 ≤ d.scale then Double.positional d ++ l.wholeEnd.toList else Double.positional d
  else
    let mantissa := match digits with
      | first :: second :: rest => first :: '.' :: second :: rest
      | short => short
    if leading < 0 then mantissa ++ 'e' :: '-' :: Text.decimalDigits leading.natAbs
    else mantissa ++ l.positiveMark.toList ++ Text.decimalDigits leading.natAbs

/-- The text of a size. -/
def magnitudeChars (m : Magnitude) : List Char :=
  if m.mantissa = 0 then ['0', '.', '0'] else layout.write (Decimal.shortest .toEven m)

/-- The JSON text of a number. -/
def chars : Number → List Char
  | .integer z _ => (Text.decimalInt z).toList
  | .float negative m =>
    if negative then '-' :: magnitudeChars m else magnitudeChars m

/-! ## Reading -/

/-- A significand of at most 64 bits and its power of ten, built up digit by digit. `full` says that
a digit has been left out, after which no digit is taken. -/
structure Scaled where
  significand : Nat
  scale : Int
  full : Bool
deriving DecidableEq

/-- The value of one more digit fits. -/
def Scaled.fits (s : Scaled) (digit : Nat) : Bool :=
  s.significand * 10 + digit < Text.wordSize

/-- A digit before the point: left out, it weighs as a power of ten. -/
def Scaled.pushWhole (s : Scaled) (c : Char) : Scaled :=
  let digit := (Text.digitValue? c).getD 0
  if s.full then { s with scale := s.scale + 1 }
  else if s.fits digit then { s with significand := s.significand * 10 + digit }
  else { s with scale := s.scale + 1, full := true }

/-- A digit after the point: left out, it is ignored. -/
def Scaled.pushFraction (s : Scaled) (c : Char) : Scaled :=
  let digit := (Text.digitValue? c).getD 0
  if s.full then s
  else if s.fits digit then
    { s with significand := s.significand * 10 + digit, scale := s.scale - 1 }
  else { s with full := true }

/-- The greatest power of ten that is a finite number. -/
def greatestTen : Nat := 308

/-- A power of ten as a size, rounded. -/
def tenPow (n : Nat) : Magnitude :=
  (Magnitude.round? (Nat.pow 10 n * Magnitude.one) 1).getD Magnitude.greatest

/-- A number scaled by a power of ten, in steps of at most `10 ^ 308`; infinite when it is too
great. -/
def scaleTen (d : Double) (e : Int) : Double :=
  if 0 ≤ e then
    if e ≤ greatestTen then d.scaleUp (tenPow e.toNat)
    else if d.numEq Double.zero then d else .infinite false
  else if -(greatestTen : Int) ≤ e then d.scaleDown (tenPow (-e).toNat)
  else if d.numEq Double.zero then d
  else scaleTen (d.scaleDown (tenPow greatestTen)) (e + greatestTen)
termination_by (-e).toNat
decreasing_by unfold greatestTen at *; omega

/-- The finite number of a significand and its power of ten; none beyond the greatest. -/
def Scaled.float? (s : Scaled) (negative : Bool) : Option Number :=
  match scaleTen (Double.ofNat s.significand) s.scale with
  | .finite _ m => some (.float negative m)
  | _ => none

/-- An integer of 64 bits stays one; a minus before zero or before a number that does not fit makes
a binary64 number. -/
def ofDigits? (negative : Bool) (s : Scaled) : Option Number :=
  let z : Int := if negative then -(s.significand : Int) else s.significand
  if h : InWord z then
    if s.full ∨ (negative ∧ z = 0) then s.float? negative else some (.integer z h)
  else s.float? negative

/-- Exponents with a numeral beyond this are not added up. -/
def exponentLimit : Nat := 2147483648

/-- The number with an exponent. -/
def withExponent? (negative : Bool) (s : Scaled) (exponentNegative : Bool) (digits : List Char) :
    Option Number :=
  let n := Text.digitsValue 10 digits
  if exponentLimit ≤ n then
    if s.significand ≠ 0 ∧ !exponentNegative then none
    else some (.float negative Magnitude.zero)
  else
    { s with scale := if exponentNegative then s.scale - n else s.scale + n }.float? negative

/-- An optional fraction: a point and at least one digit. -/
def fraction? : List Char → Option (List Char × List Char)
  | '.' :: rest =>
    let (digits, rest) := Double.spanDigits rest
    if digits.isEmpty then none else some (digits, rest)
  | cs => some ([], cs)

/-- The digits before the point: a zero alone, or digits that do not start with one. -/
def wholeDigits? (cs : List Char) : Option (List Char × List Char) :=
  let (digits, rest) := Double.spanDigits cs
  match digits with
  | [] => none
  | '0' :: _ :: _ => none
  | _ => some (digits, rest)

/-- An optional exponent: a letter e, an optional sign and at least one digit. -/
def exponent? : List Char → Option (Option (Bool × List Char) × List Char)
  | [] => some (none, [])
  | c :: rest =>
    if c = 'e' ∨ c = 'E' then
      let (negative, unsigned) := Double.spanSign rest
      let (digits, rest) := Double.spanDigits unsigned
      if digits.isEmpty then none else some (some (negative, digits), rest)
    else some (none, c :: rest)

/-- An optional minus sign: whether it is there, and what follows. -/
def spanMinus : List Char → Bool × List Char
  | '-' :: rest => (true, rest)
  | cs => (false, cs)

/-- The number of a sign, the digits before and after the point, and an exponent. Digits after the
point are taken again after a digit before it has been left out. -/
def ofParts? (negative : Bool) (whole fraction : List Char) (exponent : Option (Bool × List Char)) :
    Option Number :=
  let s := whole.foldl Scaled.pushWhole ⟨0, 0, false⟩
  let scaled := fraction.foldl Scaled.pushFraction { s with full := false }
  match exponent with
  | some (exponentNegative, digits) => withExponent? negative scaled exponentNegative digits
  | none => if fraction.isEmpty then ofDigits? negative s else scaled.float? negative

/-- A number at the start of a text, and what follows it. -/
def read? (cs : List Char) : Option (Number × List Char) := do
  let (negative, unsigned) := spanMinus cs
  let (whole, rest) ← wholeDigits? unsigned
  let (fraction, rest) ← fraction? rest
  let (exponent, rest) ← exponent? rest
  let number ← ofParts? negative whole fraction exponent
  return (number, rest)

end Wireflow.Json.Number
