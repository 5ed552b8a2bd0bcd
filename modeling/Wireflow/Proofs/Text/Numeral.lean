/-
Numerals are read back: the digits of a number in a base of at most sixteen denote that number, also
after zeros on their left, and none of them is a blank. So the text of an identifier is read as the
identifier itself.
-/
import Wireflow.Identifier
import Wireflow.Proofs.Text.Blank

namespace Wireflow

namespace Text

variable {base : Nat}

theorem digitValue?_digitChar {d : Nat} (h : d < 16) : digitValue? d.digitChar = some d := by
  have hall : ∀ d < 16, digitValue? d.digitChar = some d := by decide
  exact hall d h

theorem isDigitOf_digitChar {d : Nat} (hbase : base ≤ 16) (h : d < base) :
    isDigitOf base d.digitChar = true := by
  unfold isDigitOf
  rw [digitValue?_digitChar (Nat.lt_of_lt_of_le h hbase)]
  exact decide_eq_true h

theorem isDigitOf_ten_iff {c : Char} : isDigitOf 10 c = true ↔ c.isDigit = true := by
  have hrange : c.isDigit = true ↔ '0' ≤ c ∧ c ≤ '9' := by simp [Char.isDigit, Char.le_def]
  have hletter (a : Char) (h : a ≤ c) : a.toNat ≤ c.toNat := h
  rw [hrange]
  unfold isDigitOf digitValue?
  by_cases hdigit : '0' ≤ c ∧ c ≤ '9'
  · have hle : c.toNat ≤ 57 := hdigit.2
    simp [hdigit]
    omega
  · rw [if_neg hdigit, iff_false_right hdigit]
    split
    · rename_i d hd
      split at hd
      · cases hd; simp
      · split at hd
        · cases hd; simp
        · cases hd
    · simp

theorem digitsValue_append (cs : List Char) (c : Char) :
    digitsValue base (cs ++ [c]) = digitsValue base cs * base + (digitValue? c).getD 0 := by
  simp [digitsValue]

/-- The digits of a number: those of its quotient by the base, then the digit of its rest. -/
theorem toDigits_step (hbase : 1 < base) {n : Nat} (h : base ≤ n) :
    Nat.toDigits base n = Nat.toDigits base (n / base) ++ [(n % base).digitChar] :=
  Nat.toDigits_of_base_le hbase h

theorem digitsValue_toDigits (hbase : 1 < base) (hle : base ≤ 16) (n : Nat) :
    digitsValue base (Nat.toDigits base n) = n := by
  induction n using Nat.strongRecOn with
  | _ n ih =>
    by_cases h : n < base
    · rw [Nat.toDigits_of_lt_base h]
      simp [digitsValue, digitValue?_digitChar (Nat.lt_of_lt_of_le h hle)]
    · have hn : base ≤ n := Nat.le_of_not_lt h
      have hrest : n % base < 16 := Nat.lt_of_lt_of_le (Nat.mod_lt n (by omega)) hle
      rw [toDigits_step hbase hn, digitsValue_append, digitValue?_digitChar hrest,
        ih (n / base) (Nat.div_lt_self (by omega) hbase)]
      exact Nat.div_add_mod' n base

theorem exists_digitChar_of_mem_toDigits (hbase : 1 < base) {c : Char} (n : Nat)
    (hc : c ∈ Nat.toDigits base n) : ∃ d < base, c = d.digitChar := by
  induction n using Nat.strongRecOn with
  | _ n ih =>
    by_cases h : n < base
    · rw [Nat.toDigits_of_lt_base h] at hc
      exact ⟨n, h, List.mem_singleton.1 hc⟩
    · have hn : base ≤ n := Nat.le_of_not_lt h
      rw [toDigits_step hbase hn] at hc
      rcases List.mem_append.1 hc with hc | hc
      · exact ih (n / base) (Nat.div_lt_self (by omega) hbase) hc
      · exact ⟨n % base, Nat.mod_lt n (by omega), List.mem_singleton.1 hc⟩

theorem isDigitOf_of_mem_toDigits (hbase : 1 < base) (hle : base ≤ 16) {c : Char} (n : Nat)
    (hc : c ∈ Nat.toDigits base n) : isDigitOf base c = true := by
  obtain ⟨d, hd, rfl⟩ := exists_digitChar_of_mem_toDigits hbase n hc
  exact isDigitOf_digitChar hle hd

/-! ## Zeros on the left -/

theorem digitsValue_padZeros (width : Nat) (cs : List Char) :
    digitsValue base (padZeros width cs) = digitsValue base cs := by
  unfold padZeros digitsValue
  rw [List.foldl_append]
  congr 1
  induction width - cs.length with
  | zero => rfl
  | succ k ih =>
    rw [List.replicate_succ, List.foldl_cons]
    simpa [digitValue?] using ih

theorem length_padZeros {width : Nat} {cs : List Char} (h : cs.length ≤ width) :
    (padZeros width cs).length = width := by
  unfold padZeros
  rw [List.length_append, List.length_replicate]
  omega

theorem isDigitOf_of_mem_padZeros (hbase : 0 < base) {width : Nat} {cs : List Char}
    (h : ∀ c ∈ cs, isDigitOf base c = true) : ∀ c ∈ padZeros width cs, isDigitOf base c = true := by
  intro c hc
  rcases List.mem_append.1 hc with hc | hc
  · rw [List.eq_of_mem_replicate hc]
    simpa [isDigitOf, digitValue?] using hbase
  · exact h c hc

/-! ## Blanks -/

theorem isBlank_eq_false_of_isDigitOf {c : Char} (h : isDigitOf base c = true) :
    isBlank c = false := by
  unfold isDigitOf digitValue? at h
  unfold isBlank
  have hrange : ∀ a b : Char, a ≤ c ∧ c ≤ b → a.toNat ≤ c.toNat ∧ c.toNat ≤ b.toNat :=
    fun a b hab => hab
  split at h
  · rename_i d hd
    split at hd
    · rename_i hc; have := hrange _ _ hc; simp at this ⊢; omega
    · split at hd
      · rename_i hc; have := hrange _ _ hc; simp at this ⊢; omega
      · split at hd
        · rename_i hc; have := hrange _ _ hc; simp at this ⊢; omega
        · cases hd
  · cases h

end Text

/-! ## Identifiers -/

namespace Identifier

open Text

/-- The digits of an identifier. -/
theorem toList_text (i : Identifier) :
    i.text.toList = padZeros 16 (Nat.toDigits 16 i.raw.toNat) := by
  simp [text, hexPadded]

/-- The text of an identifier is read as the identifier. -/
theorem ofText?_text (i : Identifier) : ofText? i.text = some i := by
  have hdigits : ∀ c ∈ i.text.toList, isDigitOf 16 c = true := by
    rw [toList_text]
    exact isDigitOf_of_mem_padZeros (by omega)
      fun c hc => isDigitOf_of_mem_toDigits (by omega) (by omega) _ hc
  have hlength : i.text.toList.length = 16 := by
    rw [toList_text]
    refine length_padZeros ((Nat.length_toDigits_le_iff (by omega) (by omega)).2 ?_)
    exact i.raw.toNat_lt
  have hvalue : digitsValue 16 i.text.toList = i.raw.toNat := by
    rw [toList_text, digitsValue_padZeros, digitsValue_toDigits (by omega) (by omega)]
  have hnumeral : numeral? 16 i.text.toList = some i.raw.toNat := by
    unfold numeral?
    rw [if_pos, hvalue]
    rw [Bool.and_eq_true, List.all_eq_true]
    refine ⟨?_, hdigits⟩
    cases hcs : i.text.toList with
    | nil => rw [hcs] at hlength; cases hlength
    | cons c rest => rfl
  unfold ofText?
  dsimp only
  rw [trimChars_eq_self fun c hc => isBlank_eq_false_of_isDigitOf (hdigits c hc), hlength,
    if_pos (by omega), hnumeral]
  simp

end Identifier

end Wireflow
