/-
The tokens of JSON text are read back. A string in quotes is read as the string that was written,
whatever its characters are, and the numeral of an integer as the integer. What follows a token is
left over as it stands; only after a number it must not go on as a number would.
-/
import Mathlib.Data.List.TakeWhile
import Wireflow.Json.Reader
import Wireflow.Json.Writer
import Wireflow.Proofs.Text.Numeral

namespace Wireflow.Json

/-! ## Strings -/

/-- The escape of a control character: two zeros and its two hexadecimal digits. -/
theorem padZeros_control {n : Nat} (h : n < 0x20) :
    Text.padZeros 4 (Nat.toDigits 16 n) =
        ['0', '0', (n / 16).digitChar, (n % 16).digitChar] ∧
      hexUnit? '0' '0' (n / 16).digitChar (n % 16).digitChar = some n := by
  have hall : ∀ n < 0x20, Text.padZeros 4 (Nat.toDigits 16 n) =
        ['0', '0', (n / 16).digitChar, (n % 16).digitChar] ∧
      hexUnit? '0' '0' (n / 16).digitChar (n % 16).digitChar = some n := by decide
  exact hall n h

/-- A character is read back from its text inside a string. -/
theorem stringBody?_escapeChar (c : Char) (tail : List Char) :
    stringBody? (escapeChar c ++ tail) = (stringBody? tail).map fun r => (c :: r.1, r.2) := by
  unfold escapeChar
  split
  case h_8 hquote hback _ _ _ _ _ =>
    split
    · rename_i hcontrol
      obtain ⟨hdigits, hunit⟩ := padZeros_control hcontrol
      have hlow : isLowSurrogate c.toNat = false := by simp [isLowSurrogate]; omega
      have hhigh : isHighSurrogate c.toNat = false := by simp [isHighSurrogate]; omega
      rw [hdigits]
      simp only [List.cons_append, List.nil_append]
      rw [stringBody?, hunit]
      simp [hlow, hhigh]
    · rename_i hcontrol
      rw [List.singleton_append, stringBody?, if_neg (by simpa [hcontrol] using hback)]
      · exact hquote
      · rintro a b c d rest rfl
        exact (hback rfl).elim
      · rintro d rest rfl
        exact (hback rfl).elim
  all_goals simp [stringBody?, simpleEscape?]

/-- A string is read up to its closing quote. -/
theorem stringBody?_flatMap (cs rest : List Char) :
    stringBody? (cs.flatMap escapeChar ++ '"' :: rest) = some (cs, rest) := by
  induction cs with
  | nil => rfl
  | cons c cs ih => rw [List.flatMap_cons, List.append_assoc, stringBody?_escapeChar, ih]; rfl

/-! ## Numbers -/

namespace Number

/-- A character that a number may go on with. -/
def isPart (c : Char) : Bool :=
  c.isDigit || c = '.' || c = 'e' || c = 'E' || c = '+' || c = '-'

/-- A text that does not go on as a number would. -/
def Stops (rest : List Char) : Prop :=
  ∀ c tail, rest = c :: tail → isPart c = false

theorem stops_nil : Stops [] := by
  intro c tail h
  cases h

theorem stops_cons {c : Char} {rest : List Char} (h : isPart c = false) : Stops (c :: rest) := by
  intro c' tail heq
  cases heq
  exact h

theorem Stops.ne_cons {rest : List Char} (h : Stops rest) {c : Char} (hc : isPart c = true)
    (tail : List Char) : rest ≠ c :: tail := by
  intro heq
  rw [h c tail heq] at hc
  cases hc

/-- Digits end where the text of the number ends. -/
theorem spanDigits_append {rest : List Char} (h : Stops rest) (cs : List Char) :
    Double.spanDigits (cs ++ rest) =
      ((Double.spanDigits cs).1, (Double.spanDigits cs).2 ++ rest) := by
  unfold Double.spanDigits
  induction cs with
  | nil =>
    cases rest with
    | nil => rfl
    | cons c tail =>
      have hc : c.isDigit = false := by
        have := h c tail rfl
        unfold isPart at this
        simp only [Bool.or_eq_false_iff] at this
        exact this.1.1.1.1.1
      simp [hc]
  | cons c cs ih =>
    cases hc : c.isDigit <;> simp_all

theorem spanMinus_append {rest : List Char} (h : Stops rest) (cs : List Char) :
    spanMinus (cs ++ rest) = ((spanMinus cs).1, (spanMinus cs).2 ++ rest) := by
  cases cs with
  | nil =>
    rw [List.nil_append, spanMinus]
    · rfl
    · exact fun tail => h.ne_cons (by decide) tail
  | cons c cs =>
    by_cases hc : c = '-'
    · subst hc; rfl
    · simp [spanMinus, hc]

theorem spanSign_append {rest : List Char} (h : Stops rest) (cs : List Char) :
    Double.spanSign (cs ++ rest) = ((Double.spanSign cs).1, (Double.spanSign cs).2 ++ rest) := by
  cases cs with
  | nil =>
    rw [List.nil_append, Double.spanSign]
    · rfl
    · exact fun tail => h.ne_cons (by decide) tail
    · exact fun tail => h.ne_cons (by decide) tail
  | cons c cs =>
    by_cases hminus : c = '-'
    · subst hminus; rfl
    · by_cases hplus : c = '+'
      · subst hplus; rfl
      · simp [Double.spanSign, hminus, hplus]

theorem wholeDigits?_append {rest : List Char} (h : Stops rest) (cs : List Char) :
    wholeDigits? (cs ++ rest) = (wholeDigits? cs).map fun r => (r.1, r.2 ++ rest) := by
  unfold wholeDigits?
  rw [spanDigits_append h]
  dsimp only
  split <;> rfl

theorem fraction?_append {rest : List Char} (h : Stops rest) (cs : List Char) :
    fraction? (cs ++ rest) = (fraction? cs).map fun r => (r.1, r.2 ++ rest) := by
  cases cs with
  | nil =>
    rw [List.nil_append, fraction?]
    · rfl
    · exact fun tail => h.ne_cons (by decide) tail
  | cons c cs =>
    by_cases hpoint : c = '.'
    · subst hpoint
      simp only [List.cons_append, fraction?, spanDigits_append h]
      split <;> rfl
    · simp [fraction?, hpoint]

theorem exponent?_append {rest : List Char} (h : Stops rest) (cs : List Char) :
    exponent? (cs ++ rest) = (exponent? cs).map fun r => (r.1, r.2 ++ rest) := by
  cases cs with
  | nil =>
    cases rest with
    | nil => rfl
    | cons c tail =>
      have hletter : ¬ (c = 'e' ∨ c = 'E') := by
        rintro (rfl | rfl) <;> exact h.ne_cons (by decide) tail rfl
      simp only [List.nil_append, exponent?, if_neg hletter, Option.map_some]
  | cons c cs =>
    by_cases hletter : c = 'e' ∨ c = 'E'
    · simp only [List.cons_append, exponent?, if_pos hletter, spanSign_append h,
        spanDigits_append h]
      split <;> rfl
    · simp [exponent?, hletter]

/-- A number is read alike whatever follows it. -/
theorem read?_append {rest : List Char} (h : Stops rest) (cs : List Char) :
    read? (cs ++ rest) = (read? cs).map fun r => (r.1, r.2 ++ rest) := by
  unfold read?
  rw [spanMinus_append h]
  dsimp only
  rw [wholeDigits?_append h]
  cases wholeDigits? (spanMinus cs).2 with
  | none => rfl
  | some whole =>
    dsimp only [Option.map_some, Option.bind_eq_bind, Option.bind_some]
    rw [fraction?_append h]
    cases fraction? whole.2 with
    | none => rfl
    | some fraction =>
      dsimp only [Option.map_some, Option.bind_some]
      rw [exponent?_append h]
      cases exponent? fraction.2 with
      | none => rfl
      | some exponent =>
        dsimp only [Option.map_some, Option.bind_some]
        cases ofParts? (spanMinus cs).1 whole.1 fraction.1 exponent.1 <;> rfl

/-! ## Integers -/

/-- The digits of a number that is not zero do not start with a zero. -/
theorem head_toDigits_ne_zero {n : Nat} (hn : 0 < n) {c : Char} {tail : List Char}
    (h : Nat.toDigits 10 n = c :: tail) : c ≠ '0' := by
  induction n using Nat.strongRecOn generalizing tail with
  | _ n ih =>
    by_cases hlt : n < 10
    · rw [Nat.toDigits_of_lt_base hlt, List.cons.injEq] at h
      have hall : ∀ d < 10, 0 < d → d.digitChar ≠ '0' := by decide
      exact h.1 ▸ hall n hlt hn
    · rw [Text.toDigits_step (by omega) (by omega)] at h
      cases hq : Nat.toDigits 10 (n / 10) with
      | nil => exact absurd hq Nat.toDigits_ne_nil
      | cons d ds =>
        rw [hq, List.cons_append, List.cons.injEq] at h
        exact ih (n / 10) (by omega) (by omega) (h.1 ▸ hq)

theorem wholeDigits?_toDigits (n : Nat) :
    wholeDigits? (Nat.toDigits 10 n) = some (Nat.toDigits 10 n, []) := by
  have hdigits : ∀ c ∈ Nat.toDigits 10 n, c.isDigit = true :=
    fun c hc => Nat.isDigit_of_mem_toDigits (by omega) (by omega) hc
  have hspan : Double.spanDigits (Nat.toDigits 10 n) = (Nat.toDigits 10 n, []) := by
    unfold Double.spanDigits
    rw [List.takeWhile_eq_self_iff.2 hdigits, List.dropWhile_eq_nil_iff.2 hdigits]
  unfold wholeDigits?
  rw [hspan]
  dsimp only
  split
  · rename_i h; exact absurd h Nat.toDigits_ne_nil
  · rename_i c tail h
    rcases Nat.eq_zero_or_pos n with rfl | hn
    · cases h
    · exact absurd rfl (head_toDigits_ne_zero hn h)
  · rfl

/-- Digits of a 64-bit word are added up without leaving one out. -/
theorem foldl_pushWhole_toDigits {n : Nat} (h : n < Text.wordSize) :
    (Nat.toDigits 10 n).foldl Scaled.pushWhole ⟨0, 0, false⟩ = ⟨n, 0, false⟩ := by
  induction n using Nat.strongRecOn with
  | _ n ih =>
    by_cases hlt : n < 10
    · have hall : ∀ n < 10, [n.digitChar].foldl Scaled.pushWhole ⟨0, 0, false⟩ = ⟨n, 0, false⟩ := by
        decide
      rw [Nat.toDigits_of_lt_base hlt]
      exact hall n hlt
    · have hfits : n / 10 * 10 + n % 10 = n := Nat.div_add_mod' n 10
      rw [Text.toDigits_step (by omega) (by omega), List.foldl_append,
        ih (n / 10) (by omega) (by omega), List.foldl_cons, List.foldl_nil]
      unfold Scaled.pushWhole Scaled.fits
      simp [Text.digitValue?_digitChar (d := n % 10) (by omega), hfits, h]

theorem natAbs_lt_wordSize {z : Int} (h : InWord z) : z.natAbs < Text.wordSize := by
  unfold InWord at h
  unfold Text.wordSize
  omega

theorem ofParts?_integer {negative : Bool} {z : Int} (h : InWord z)
    (hz : z = if negative then -(z.natAbs : Int) else z.natAbs)
    (hzero : ¬ (negative = true ∧ z = 0)) :
    ofParts? negative (Nat.toDigits 10 z.natAbs) [] none = some (.integer z h) := by
  unfold ofParts?
  simp only [foldl_pushWhole_toDigits (natAbs_lt_wordSize h), List.isEmpty_nil, if_true]
  unfold ofDigits?
  simp only [← hz, dif_pos h]
  simp [hzero]

theorem spanMinus_toDigits (n : Nat) : spanMinus (Nat.toDigits 10 n) = (false, Nat.toDigits 10 n) := by
  rw [spanMinus]
  intro tail h
  have hdigit : '-'.isDigit = true :=
    Nat.isDigit_of_mem_toDigits (by omega) (by omega) (h ▸ List.mem_cons_self ..)
  exact absurd hdigit (by decide)

/-- A sign and digits up to the end of the text are read as an integer. -/
theorem read?_whole {cs whole : List Char} {negative : Bool}
    (hsign : spanMinus cs = (negative, whole)) (hwhole : wholeDigits? whole = some (whole, [])) :
    read? cs = (ofParts? negative whole [] none).map fun n => (n, []) := by
  unfold read?
  rw [hsign]
  dsimp only
  rw [hwhole]
  dsimp only [Option.bind_eq_bind, Option.bind_some, fraction?, exponent?]
  cases ofParts? negative whole [] none <;> rfl

/-- An integer of 64 bits is read back from its numeral. -/
theorem read?_integer (z : Int) (h : InWord z) :
    read? (chars (.integer z h)) = some (.integer z h, []) := by
  have hwhole := wholeDigits?_toDigits z.natAbs
  by_cases hneg : z < 0
  · have hchars : chars (.integer z h) = '-' :: Nat.toDigits 10 z.natAbs := by
      simp [chars, Text.decimalInt, Text.decimalDigits, hneg]
    have hz : z = if true then -(z.natAbs : Int) else z.natAbs := by
      rw [if_pos rfl]
      omega
    have hzero : ¬ (true = true ∧ z = 0) := by
      rintro ⟨-, rfl⟩
      exact absurd hneg (by decide)
    have hsign : spanMinus ('-' :: Nat.toDigits 10 z.natAbs) =
        (true, Nat.toDigits 10 z.natAbs) := rfl
    rw [hchars, read?_whole hsign hwhole, ofParts?_integer h hz hzero]
    rfl
  · have hchars : chars (.integer z h) = Nat.toDigits 10 z.natAbs := by
      simp [chars, Text.decimalInt, Text.decimal, Text.decimalDigits, hneg]
    have hz : z = if false = true then -(z.natAbs : Int) else z.natAbs := by
      rw [if_neg (by decide)]
      omega
    have hzero : ¬ (false = true ∧ z = 0) := fun h => absurd h.1 (by decide)
    rw [hchars, read?_whole (spanMinus_toDigits _) hwhole, ofParts?_integer h hz hzero]
    rfl

end Number

end Wireflow.Json
