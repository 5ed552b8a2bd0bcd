/-
Spellings of identifiers. A text is read as an identifier exactly when it is a run of one to sixteen
hexadecimal digits between blanks, and the identifier is written as these digits in lower case, filled
up with zeros. So two texts are read as one identifier exactly when they are the same once they are
spelled out, and an identifier and the name of a scope's file are read back from what is written.
-/
import Wireflow.Proofs.Context.Files
import Wireflow.Proofs.Text.Hexadecimal

namespace Wireflow.Identifier

open Text

variable {s : String} {i : Identifier}

/-- One to sixteen hexadecimal digits between blanks, and nothing else. -/
def Spelled (s : String) : Prop :=
  trimChars s.toList ≠ [] ∧ (trimChars s.toList).length ≤ 16 ∧
    ∀ c ∈ trimChars s.toList, IsHexDigit c

/-- A text without the blanks at its ends, in lower case and filled up with zeros to sixteen
characters. -/
def spelledOut (s : String) : String :=
  String.ofList (padZeros 16 ((trimChars s.toList).map Char.toLower))

/-- Sixteen hexadecimal digits are a number of 64 bits at most. -/
theorem Spelled.digitsValue_lt (h : Spelled s) :
    digitsValue 16 (trimChars s.toList) < UInt64.size := by
  obtain ⟨-, hlength, hdigits⟩ := h
  calc digitsValue 16 (trimChars s.toList)
      < 16 ^ (trimChars s.toList).length :=
        Text.digitsValue_lt fun c hc => isDigitOf_sixteen_iff.2 (hdigits c hc)
    _ ≤ 16 ^ 16 := Nat.pow_le_pow_right (by decide) hlength
    _ = UInt64.size := by decide

/-- What is read is the number of the digits. -/
theorem ofText?_eq_some_iff :
    ofText? s = some i ↔ Spelled s ∧ i.raw.toNat = digitsValue 16 (trimChars s.toList) := by
  unfold ofText?
  dsimp only
  by_cases hlength : (trimChars s.toList).length ≤ 16
  · rw [if_pos hlength, Option.map_eq_some_iff]
    simp only [numeral?_eq_some_iff, isDigitOf_sixteen_iff]
    constructor
    · rintro ⟨n, ⟨hne, hdigits, rfl⟩, rfl⟩
      have hspelled : Spelled s := ⟨hne, hlength, hdigits⟩
      exact ⟨hspelled, UInt64.toNat_ofNat_of_lt' hspelled.digitsValue_lt⟩
    · rintro ⟨⟨hne, -, hdigits⟩, hraw⟩
      refine ⟨_, ⟨hne, hdigits, rfl⟩, ?_⟩
      rw [← hraw, UInt64.ofNat_toNat]
  · rw [if_neg hlength]
    simp [Spelled, hlength]

theorem ofText?_isSome_iff : (ofText? s).isSome = true ↔ Spelled s := by
  constructor
  · intro h
    obtain ⟨i, hi⟩ := Option.isSome_iff_exists.1 h
    exact (ofText?_eq_some_iff.1 hi).1
  · intro h
    refine Option.isSome_iff_exists.2 ⟨⟨UInt64.ofNat (digitsValue 16 (trimChars s.toList))⟩, ?_⟩
    exact ofText?_eq_some_iff.2 ⟨h, UInt64.toNat_ofNat_of_lt' h.digitsValue_lt⟩

/-- An identifier is written as any text that is read as it, spelled out. -/
theorem text_of_ofText? (h : ofText? s = some i) : i.text = spelledOut s := by
  obtain ⟨⟨-, hlength, hdigits⟩, hraw⟩ := ofText?_eq_some_iff.1 h
  unfold text spelledOut
  rw [hraw, hexPadded_digitsValue (by decide) hlength hdigits]

theorem text_injective : Function.Injective text := by
  intro i j h
  have hi := ofText?_text i
  rw [h, ofText?_text j] at hi
  exact (Option.some.inj hi).symm

/-- The text of an identifier is read as the identifier. A text is read exactly when it is one to sixteen
hexadecimal digits between blanks; the identifier is then written as these digits, spelled out, and two
such texts are read as the same identifier exactly when they are the same spelled out. The name of the
file of a scope is read as the scope, so no two scopes share a file. -/
theorem read_by_spelling :
    (∀ i : Identifier, ofText? i.text = some i) ∧
    (∀ s, (ofText? s).isSome = true ↔ Spelled s) ∧
    (∀ s i, ofText? s = some i → i.text = spelledOut s) ∧
    (∀ s t i j, ofText? s = some i → ofText? t = some j →
      (i = j ↔ spelledOut s = spelledOut t)) ∧
    (∀ scope : Scope, Scope.ofFileName? scope.fileName = some scope) ∧
    Function.Injective Scope.fileName := by
  refine ⟨ofText?_text, fun s => ofText?_isSome_iff, fun s i => text_of_ofText?,
    fun s t i j hs ht => ?_, Scope.ofFileName?_fileName, Scope.fileName_injective⟩
  rw [← text_of_ofText? hs, ← text_of_ofText? ht]
  exact text_injective.eq_iff.symm

/-- Digits in upper case between blanks, and the same ones filled up. -/
theorem read_by_spelling_cases :
    ofText? " FF\n" = some ⟨255⟩ ∧ ofText? "00ff" = some ⟨255⟩ ∧
      (⟨255⟩ : Identifier).text = "00000000000000ff" ∧ spelledOut " FF\n" = spelledOut "00ff" := by
  obtain ⟨-, -, hwritten, hsame, -⟩ := read_by_spelling
  have hupper : ofText? " FF\n" = some ⟨255⟩ := by decide +kernel
  have hlower : ofText? "00ff" = some ⟨255⟩ := by decide +kernel
  exact ⟨hupper, hlower, (hwritten _ _ hlower).trans (by decide +kernel),
    (hsame _ _ _ _ hupper hlower).1 rfl⟩

end Wireflow.Identifier
