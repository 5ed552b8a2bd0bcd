/-
The numbers of binary64, held exactly: a finite number is a whole count of the least positive one.
Order, whole parts and rounding are integer arithmetic on that count, so nothing here depends on
a machine's floating point.
-/

namespace Wireflow

/-- The least mantissa of 53 bits, `2 ^ 52`. -/
abbrev leastNormal : Nat := 4503599627370496

/-- The size of a finite binary64 number: `mantissa * 2 ^ exponent` times the least positive
number `2 ^ -1074`, written in the one way that uses all 53 bits when it can. -/
structure Magnitude where
  mantissa : Nat
  exponent : Nat
  mantissa_lt : mantissa < 2 * leastNormal
  exponent_le : exponent ≤ 2045
  normal : leastNormal ≤ mantissa ∨ exponent = 0
deriving DecidableEq

/-- A binary64 number. There is one value that is not a number, and zero has two signs. -/
inductive Double
  | nan
  | infinite (negative : Bool)
  | finite (negative : Bool) (magnitude : Magnitude)
deriving DecidableEq

/-! ## Rounding -/

/-- The quotient rounded to the nearest whole number, a half to the even one. -/
def roundHalfEven (num den : Nat) : Nat :=
  let q := num / den
  let twice := 2 * (num % den)
  if twice < den then q
  else if den < twice then q + 1
  else if q % 2 = 0 then q else q + 1

theorem div_le_roundHalfEven (num den : Nat) : num / den ≤ roundHalfEven num den := by
  unfold roundHalfEven
  simp only
  split
  · exact Nat.le_refl _
  · split
    · exact Nat.le_succ _
    · split
      · exact Nat.le_refl _
      · exact Nat.le_succ _

theorem roundHalfEven_mul (n : Nat) {den : Nat} (h : 0 < den) :
    roundHalfEven (n * den) den = n := by
  simp [roundHalfEven, Nat.mul_div_cancel _ h, h]

namespace Magnitude

/-- How many times the least positive number. -/
def units (m : Magnitude) : Nat :=
  m.mantissa * Nat.pow 2 m.exponent

/-- The number one in units of the least positive number. -/
def one : Nat := Nat.pow 2 1074

/-- The size zero. -/
def zero : Magnitude := ⟨0, 0, by decide, by decide, Or.inr rfl⟩

/-- The greatest finite size. -/
def greatest : Magnitude := ⟨2 * leastNormal - 1, 2045, by decide, by decide, Or.inl (by decide)⟩

/-- The exponent for a whole count of units: what exceeds 53 bits. -/
def exponentFor (count : Nat) : Nat :=
  count.log2 - 52

theorem two_pow_le_of_exponentFor_pos {count : Nat} (h : 0 < exponentFor count) :
    leastNormal * Nat.pow 2 (exponentFor count) ≤ count := by
  have hlog : count.log2 = 52 + exponentFor count := by
    unfold exponentFor at h ⊢; omega
  have hne : count ≠ 0 := by
    intro h0; subst h0; simp [exponentFor] at h
  have h52 : leastNormal = 2 ^ 52 := by decide
  rw [Nat.pow_eq, h52, ← Nat.pow_add, ← hlog]
  exact Nat.log2_self_le hne

theorem normal_round (num den : Nat) :
    leastNormal ≤ roundHalfEven num (den * Nat.pow 2 (exponentFor (num / den))) ∨
      exponentFor (num / den) = 0 := by
  rcases Nat.eq_zero_or_pos (exponentFor (num / den)) with h | h
  · exact Or.inr h
  · refine Or.inl (Nat.le_trans ?_ (div_le_roundHalfEven _ _))
    rw [← Nat.div_div_eq_div_mul]
    exact (Nat.le_div_iff_mul_le (Nat.two_pow_pos _)).2 (two_pow_le_of_exponentFor_pos h)

/-- The size nearest to the fraction `num / den` of units, a tie to the even mantissa; none
beyond the greatest. -/
def round? (num den : Nat) : Option Magnitude :=
  let e := exponentFor (num / den)
  let m := roundHalfEven num (den * Nat.pow 2 e)
  if hm : m < 2 * leastNormal then
    if he : e ≤ 2045 then some ⟨m, e, hm, he, normal_round num den⟩ else none
  else
    if he : e + 1 ≤ 2045 then some ⟨leastNormal, e + 1, by decide, he, Or.inl (Nat.le_refl _)⟩
    else none

/-- The exponent is read back from the count of units. -/
theorem exponentFor_units (m : Magnitude) (h : m.mantissa ≠ 0) :
    exponentFor m.units = m.exponent := by
  have hlog : m.units.log2 = m.mantissa.log2 + m.exponent := by
    rw [units, Nat.pow_eq, Nat.log2_eq_iff (Nat.mul_ne_zero h (Nat.ne_of_gt (Nat.two_pow_pos _)))]
    refine ⟨?_, ?_⟩
    · rw [Nat.pow_add]
      exact Nat.mul_le_mul_right _ (Nat.log2_self_le h)
    · have : 2 ^ (m.mantissa.log2 + m.exponent + 1) =
          2 ^ (m.mantissa.log2 + 1) * 2 ^ m.exponent := by
        rw [← Nat.pow_add]; congr 1; omega
      rw [this]
      exact (Nat.mul_lt_mul_right (Nat.two_pow_pos _)).2 Nat.lt_log2_self
  have hle : m.mantissa.log2 < 53 := (Nat.log2_lt h).2 m.mantissa_lt
  unfold exponentFor
  rw [hlog]
  rcases m.normal with h52 | h0
  · have : 52 ≤ m.mantissa.log2 := (Nat.le_log2 h).2 h52
    omega
  · omega

/-- A whole count of units that is representable is not changed by rounding. -/
theorem round?_units (m : Magnitude) : round? m.units 1 = some m := by
  obtain ⟨mant, ex, h1, h2, h3⟩ := m
  by_cases h : mant = 0
  · subst h
    have : ex = 0 := by rcases h3 with h3 | h3; · simp at h3
                        · exact h3
    subst this
    exact (by decide : round? zero.units 1 = some zero)
  · have he := exponentFor_units ⟨mant, ex, h1, h2, h3⟩ h
    simp only at he
    simp only [round?, Nat.div_one, he, Nat.one_mul]
    have hm : roundHalfEven (units ⟨mant, ex, h1, h2, h3⟩) (Nat.pow 2 ex) = mant :=
      roundHalfEven_mul mant (Nat.two_pow_pos ex)
    simp only [hm]
    rw [dif_pos h1, dif_pos h2]

end Magnitude

namespace Double

/-- The number zero. -/
def zero : Double := .finite false Magnitude.zero

/-- The number of a size with its sign; infinite without one. -/
def ofSize (negative : Bool) : Option Magnitude → Double
  | some m => .finite negative m
  | none => .infinite negative

/-- The number nearest to `num / den`, with its sign; infinite beyond the greatest. -/
def ofRatio (negative : Bool) (num den : Nat) : Double :=
  ofSize negative (Magnitude.round? (num * Magnitude.one) den)

/-- The number nearest to a whole number. -/
def ofNat (n : Nat) : Double := ofRatio false n 1

/-- The number nearest to an integer. -/
def ofInt (z : Int) : Double := ofRatio (z < 0) z.natAbs 1

/-! ## Order -/

/-- The place of a number on the line, in units of the least positive number; the infinities
stand outside all finite ones, both zeros at zero. None for the value that is no number. -/
def place? : Double → Option Int
  | .nan => none
  | .infinite true => some (-(Nat.pow 2 2099 : Nat))
  | .infinite false => some (Nat.pow 2 2099 : Nat)
  | .finite true m => some (-(m.units : Int))
  | .finite false m => some (m.units : Int)

/-- The order of two numbers, none when one of them is no number. -/
def compare? (a b : Double) : Option Ordering :=
  match a.place?, b.place? with
  | some x, some y => some (compare x y)
  | _, _ => none

/-- Equal as numbers: both zeros are the same, and what is no number is not even itself. -/
def numEq (a b : Double) : Bool :=
  a.compare? b == some .eq

/-- Less or equal as numbers. -/
def numLe (a b : Double) : Bool :=
  match a.compare? b with
  | some .lt => true
  | some .eq => true
  | _ => false

/-- Less as numbers. -/
def numLt (a b : Double) : Bool :=
  a.compare? b == some .lt

/-! ## Whole numbers -/

/-- Neither infinite nor the value that is no number. -/
def isFinite : Double → Bool
  | .finite _ _ => true
  | _ => false

/-- Finite and without a fractional part. -/
def isWhole : Double → Bool
  | .finite _ m => m.units % Magnitude.one = 0
  | _ => false

/-- The size of the whole part of a finite number, zero for the others. -/
def wholeAbs : Double → Nat
  | .finite _ m => m.units / Magnitude.one
  | _ => 0

/-- The whole part of a finite number, zero for the others. -/
def whole : Double → Int
  | .finite true m => -((m.units / Magnitude.one : Nat) : Int)
  | .finite false m => ((m.units / Magnitude.one : Nat) : Int)
  | _ => 0

/-- The integer that a whole number smaller in size than `bound` stands for. -/
def wholeBelow? (bound : Nat) (d : Double) : Option Int :=
  if d.isWhole && d.wholeAbs < bound then some d.whole else none

/-! ## Products and quotients -/

/-- The product with a size, rounded. -/
def scaleUp (a : Double) (m : Magnitude) : Double :=
  match a with
  | .finite s n => ofRatio s (n.units * m.units) (Magnitude.one * Magnitude.one)
  | d => d

/-- The quotient by a size, rounded. -/
def scaleDown (a : Double) (m : Magnitude) : Double :=
  match a with
  | .finite s n => ofRatio s n.units m.units
  | d => d

end Double

end Wireflow
