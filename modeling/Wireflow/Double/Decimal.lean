/-
Decimals of binary64 numbers: the number nearest to a decimal, and the shortest decimal that is
read back as a given number. Of the shortest ones the nearest is taken; which of two equally near
ones is taken is left to the caller.
-/
import Wireflow.Double.Basic
import Wireflow.Text.Blank
import Wireflow.Text.Numeral

namespace Wireflow

/-- A decimal `digits * 10 ^ scale`. -/
structure Decimal where
  digits : Nat
  scale : Int
deriving DecidableEq

namespace Double

/-- The number nearest to a decimal. Scales so far out that the result is certain are not
computed. -/
def ofDecimal (negative : Bool) (d : Decimal) : Double :=
  if d.digits = 0 then .finite negative Magnitude.zero
  else if 0 ≤ d.scale then
    if 400 < d.scale then .infinite negative
    else ofRatio negative (d.digits * Nat.pow 10 d.scale.toNat) 1
  else
    let places := (-d.scale).toNat
    if d.digits.log2 + 400 < places then .finite negative Magnitude.zero
    else ofRatio negative d.digits (Nat.pow 10 places)

end Double

namespace Decimal

/-! ## The shortest decimal -/

/-- Which of two equally near decimals is taken. -/
inductive Tie
  | toEven
  | up
deriving DecidableEq

/-- The interval of what is rounded to a size, in quarters of a unit, and whether its ends
belong to it. Below a power of two the neighbour is nearer. -/
structure Interval where
  low : Nat
  middle : Nat
  high : Nat
  closed : Bool

/-- The rounding interval of a size. -/
def Interval.of (m : Magnitude) : Interval :=
  let step := Nat.pow 2 m.exponent
  let below := if m.mantissa = leastNormal ∧ 0 < m.exponent then step else 2 * step
  { low := 4 * m.units - below, middle := 4 * m.units, high := 4 * m.units + 2 * step,
    closed := m.mantissa % 2 = 0 }

/-- A fraction of quarter units lies in the interval. -/
def Interval.contains (i : Interval) (num den : Nat) : Bool :=
  if i.closed then i.low * den ≤ num && num ≤ i.high * den
  else i.low * den < num && num < i.high * den

/-- The grid of decimals with one scale: `count` steps are `count * stepNum / stepDen` quarters
of a unit. -/
def gridStep (scale : Int) : Nat × Nat :=
  if 0 ≤ scale then (4 * Magnitude.one * Nat.pow 10 scale.toNat, 1)
  else (4 * Magnitude.one, Nat.pow 10 (-scale).toNat)

/-- The point of a grid that lies in the interval and is nearest to its middle. -/
def onGrid? (tie : Tie) (i : Interval) (scale : Int) : Option Nat :=
  let (stepNum, stepDen) := gridStep scale
  let below := i.middle * stepDen / stepNum
  let above := below + 1
  let hitsBelow := below ≠ 0 ∧ i.contains (below * stepNum) stepDen
  let hitsAbove := i.contains (above * stepNum) stepDen
  let toBelow := i.middle * stepDen - below * stepNum
  let toAbove := above * stepNum - i.middle * stepDen
  if hitsBelow ∧ hitsAbove then
    if toBelow < toAbove then some below
    else if toAbove < toBelow then some above
    else match tie with
      | .up => some above
      | .toEven => some (if below % 2 = 0 then below else above)
  else if hitsBelow then some below
  else if hitsAbove then some above
  else none

/-- The first grid with a hit, from a coarse one towards finer ones. -/
def firstGrid (tie : Tie) (i : Interval) : Nat → Int → Decimal
  | 0, scale => { digits := 0, scale }
  | fuel + 1, scale =>
    match onGrid? tie i scale with
    | some n => { digits := n, scale }
    | none => firstGrid tie i fuel (scale - 1)

/-- A scale at which no grid point but zero is as small as twice the number. -/
def coarseScale (m : Magnitude) : Int :=
  ((m.units.log2 : Int) - 1074) * 30103 / 100000 + 2

/-- The shortest decimal that is read back as the size. Zero is the decimal zero. -/
def shortest (tie : Tie) (m : Magnitude) : Decimal :=
  if m.mantissa = 0 then { digits := 0, scale := 0 }
  else firstGrid tie (Interval.of m) 24 (coarseScale m)

end Decimal

namespace Double

/-! ## Plain text -/

/-- The digits of a decimal without an exponent: zeros are filled in up to the point. -/
def positional (d : Decimal) : List Char :=
  let digits := Text.decimalDigits d.digits
  if 0 ≤ d.scale then digits ++ List.replicate d.scale.toNat '0'
  else
    let places := (-d.scale).toNat
    if places < digits.length then
      digits.take (digits.length - places) ++ '.' :: digits.drop (digits.length - places)
    else '0' :: '.' :: Text.padZeros places digits

/-- The plain text of a number: shortest digits, never an exponent, no point in whole numbers. -/
def plainText : Double → String
  | .nan => "NaN"
  | .infinite negative => if negative then "-inf" else "inf"
  | .finite negative m =>
    let text := positional (Decimal.shortest .up m)
    String.ofList (if negative then '-' :: text else text)

/-- The text of a number in messages: whole numbers below `10 ^ 15` as integers, the others as
plain text. -/
def text (d : Double) : String :=
  match d.wholeBelow? 1000000000000000 with
  | some z => Text.decimalInt z
  | none => d.plainText

/-! ## Reading -/

/-- The digits at the start and what follows them. -/
def spanDigits (cs : List Char) : List Char × List Char :=
  (cs.takeWhile Char.isDigit, cs.dropWhile Char.isDigit)

/-- An optional sign: whether it is a minus, and what follows. -/
def spanSign : List Char → Bool × List Char
  | '-' :: rest => (true, rest)
  | '+' :: rest => (false, rest)
  | cs => (false, cs)

/-- An exponent that ends the text: a letter e, an optional sign and digits; zero when the text
has ended already. -/
def exponent? : List Char → Option Int
  | [] => some 0
  | c :: rest =>
    if c = 'e' ∨ c = 'E' then
      let (negative, digits) := spanSign rest
      match Text.numeral? 10 digits with
      | some n => some (if negative then -(n : Int) else n)
      | none => none
    else none

/-- A decimal literal: an optional sign, digits with an optional point and at least one digit,
an optional exponent. -/
def ofDecimalLiteral? (cs : List Char) : Option Double :=
  let (negative, unsigned) := spanSign cs
  let (before, rest) := spanDigits unsigned
  let (after, rest) := match rest with
    | '.' :: rest => spanDigits rest
    | _ => ([], rest)
  if before.isEmpty && after.isEmpty then none
  else
    match exponent? rest with
    | some e =>
      some (ofDecimal negative
        { digits := Text.digitsValue 10 (before ++ after), scale := e - (after.length : Int) })
    | none => none

/-- A number literal between blanks: `0x` or `0X` before the numeral of a 64-bit word, or a
decimal literal. -/
def ofText? (s : String) : Option Double :=
  match Text.trimChars s.toList with
  | '0' :: 'x' :: digits => (Text.word? 16 digits).map ofNat
  | '0' :: 'X' :: digits => (Text.word? 16 digits).map ofNat
  | cs => ofDecimalLiteral? cs

end Double

end Wireflow
