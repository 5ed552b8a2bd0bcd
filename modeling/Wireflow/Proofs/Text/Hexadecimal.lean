/-
Hexadecimal digits in both cases. A run of them that has been put into lower case and filled up with
zeros is the one numeral of its number with so many digits.
-/
import Wireflow.Proofs.Text.Numeral
import Mathlib.Tactic

namespace Wireflow.Text

variable {base width : Nat} {c : Char} {cs ds : List Char}

/-- A decimal digit, or a letter from a to f in either case. -/
def IsHexDigit (c : Char) : Prop :=
  ('0' ≤ c ∧ c ≤ '9') ∨ ('a' ≤ c ∧ c ≤ 'f') ∨ ('A' ≤ c ∧ c ≤ 'F')

instance : DecidablePred IsHexDigit := fun c =>
  inferInstanceAs (Decidable (('0' ≤ c ∧ c ≤ '9') ∨ ('a' ≤ c ∧ c ≤ 'f') ∨ ('A' ≤ c ∧ c ≤ 'F')))

/-- The value of a hexadecimal digit is that of the digit in lower case. -/
theorem IsHexDigit.exists_digit (h : IsHexDigit c) :
    ∃ d < 16, digitValue? c = some d ∧ c.toLower = d.digitChar := by
  have hall : ∀ n < 128, IsHexDigit (Char.ofNat n) → ∃ d < 16,
      digitValue? (Char.ofNat n) = some d ∧ (Char.ofNat n).toLower = d.digitChar := by decide
  have hrange (a b : Char) (hab : a ≤ c ∧ c ≤ b) : c.toNat ≤ b.toNat := hab.2
  have hlt : c.toNat < 128 := by
    rcases h with h | h | h
    all_goals exact Nat.lt_of_le_of_lt (hrange _ _ h) (by decide)
  have hcase := hall c.toNat hlt
  rw [Char.ofNat_toNat] at hcase
  exact hcase h

theorem isDigitOf_sixteen_iff : isDigitOf 16 c = true ↔ IsHexDigit c := by
  constructor
  · intro h
    unfold isDigitOf digitValue? at h
    unfold IsHexDigit
    split at h
    · rename_i hvalue
      split at hvalue
      · rename_i hc; exact .inl hc
      · split at hvalue
        · rename_i hc; exact .inr (.inl hc)
        · split at hvalue
          · rename_i hc; exact .inr (.inr hc)
          · cases hvalue
    · cases h
  · intro h
    obtain ⟨d, hd, hvalue, -⟩ := h.exists_digit
    unfold isDigitOf
    rw [hvalue]
    exact decide_eq_true hd

theorem numeral?_eq_some_iff {n : Nat} :
    numeral? base cs = some n ↔
      cs ≠ [] ∧ (∀ c ∈ cs, isDigitOf base c = true) ∧ digitsValue base cs = n := by
  unfold numeral?
  cases cs with
  | nil => simp
  | cons c rest => simp

/-- The value of a run of digits is less than the power of the base that has one digit more. -/
theorem digitsValue_lt (h : ∀ c ∈ cs, isDigitOf base c = true) :
    digitsValue base cs < base ^ cs.length := by
  induction cs using List.reverseRecOn with
  | nil => exact Nat.one_pos
  | append_singleton cs c ih =>
    have hc : (digitValue? c).getD 0 < base := by
      have hdigit := h c (by simp)
      unfold isDigitOf at hdigit
      split at hdigit
      · rename_i d hd
        rw [hd]
        exact of_decide_eq_true hdigit
      · cases hdigit
    have hcs := ih fun c hc => h c (List.mem_append_left _ hc)
    rw [digitsValue_append, List.length_append, List.length_singleton, Nat.pow_succ]
    calc digitsValue base cs * base + (digitValue? c).getD 0
        < digitsValue base cs * base + base := Nat.add_lt_add_left hc _
      _ = (digitsValue base cs + 1) * base := (Nat.succ_mul _ _).symm
      _ ≤ base ^ cs.length * base := Nat.mul_le_mul_right _ hcs

/-! ## One spelling of every digit -/

/-- Numerals with as many digits denote the same number only if they are the same, when every digit has
one spelling. -/
theorem eq_of_digitsValue_eq (hbase : base ≤ 16) (hlength : cs.length = ds.length)
    (hcs : ∀ c ∈ cs, ∃ d < base, c = d.digitChar) (hds : ∀ c ∈ ds, ∃ d < base, c = d.digitChar)
    (hvalue : digitsValue base cs = digitsValue base ds) : cs = ds := by
  induction cs using List.reverseRecOn generalizing ds with
  | nil => exact (List.length_eq_zero_iff.1 hlength.symm).symm
  | append_singleton cs c ih =>
    have hne : ds ≠ [] := by
      rintro rfl
      simp at hlength
    obtain ⟨ds, d, rfl⟩ : ∃ ds' d, ds = ds' ++ [d] :=
      ⟨_, _, (List.dropLast_concat_getLast hne).symm⟩
    obtain ⟨x, hx, rfl⟩ := hcs c (by simp)
    obtain ⟨y, hy, rfl⟩ := hds d (by simp)
    rw [digitsValue_append, digitsValue_append, digitValue?_digitChar (by omega),
      digitValue?_digitChar (by omega), Option.getD_some, Option.getD_some] at hvalue
    have hlast : x = y := by
      have hmod := congrArg (· % base) hvalue
      simpa [Nat.mul_add_mod_of_lt, Nat.mod_eq_of_lt, hx, hy] using hmod
    subst hlast
    have hrest : digitsValue base cs = digitsValue base ds :=
      Nat.eq_of_mul_eq_mul_right (by omega) (Nat.add_right_cancel hvalue)
    rw [ih (by simpa using hlength) (fun c hc => hcs c (List.mem_append_left _ hc))
      (fun c hc => hds c (List.mem_append_left _ hc)) hrest]

theorem digitsValue_toLower (h : ∀ c ∈ cs, IsHexDigit c) :
    digitsValue 16 (cs.map Char.toLower) = digitsValue 16 cs := by
  induction cs using List.reverseRecOn with
  | nil => rfl
  | append_singleton cs c ih =>
    obtain ⟨d, hd, hvalue, hlower⟩ := (h c (by simp)).exists_digit
    rw [List.map_append, List.map_singleton, digitsValue_append, digitsValue_append, hlower, hvalue,
      digitValue?_digitChar hd, ih fun c hc => h c (List.mem_append_left _ hc)]

/-- The numeral of the number that a run of hexadecimal digits denotes is the run itself, in lower case
and filled up with zeros. -/
theorem hexPadded_digitsValue (hwidth : 0 < width) (hlength : cs.length ≤ width)
    (h : ∀ c ∈ cs, IsHexDigit c) :
    hexPadded width (digitsValue 16 cs) =
      String.ofList (padZeros width (cs.map Char.toLower)) := by
  have hdigits : ∀ c ∈ cs, isDigitOf 16 c = true := fun c hc => isDigitOf_sixteen_iff.2 (h c hc)
  have hlt : digitsValue 16 cs < 16 ^ width :=
    Nat.lt_of_lt_of_le (digitsValue_lt hdigits) (Nat.pow_le_pow_right (by decide) hlength)
  have hzeros {cs : List Char} (hcs : ∀ c ∈ cs, ∃ d < 16, c = d.digitChar) :
      ∀ c ∈ padZeros width cs, ∃ d < 16, c = d.digitChar := by
    intro c hc
    rcases List.mem_append.1 hc with hc | hc
    · exact ⟨0, by decide, List.eq_of_mem_replicate hc⟩
    · exact hcs c hc
  unfold hexPadded
  congr 1
  refine eq_of_digitsValue_eq le_rfl ?_ (hzeros fun c hc => ?_) (hzeros fun c hc => ?_) ?_
  · rw [length_padZeros ((Nat.length_toDigits_le_iff (by decide) hwidth).2 hlt),
      length_padZeros (by simpa using hlength)]
  · exact exists_digitChar_of_mem_toDigits (by decide) _ hc
  · obtain ⟨c, hin, rfl⟩ := List.mem_map.1 hc
    obtain ⟨d, hd, -, hlower⟩ := (h c hin).exists_digit
    exact ⟨d, hd, hlower⟩
  · rw [digitsValue_padZeros, digitsValue_padZeros, digitsValue_toDigits (by decide) le_rfl,
      digitsValue_toLower h]

end Wireflow.Text
