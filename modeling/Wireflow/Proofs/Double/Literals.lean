/-
The number literals that are read. A literal is hexadecimal, with a value of 64 bits, or decimal: an
optional sign, digits with an optional point, an optional exponent. Every literal is read as the number
that it denotes, and there is one kind of text beside the literals that is read too: a hexadecimal
literal with a plus sign after its x.
-/
import Wireflow.Double.Decimal
import Wireflow.Proofs.Text.Hexadecimal
import Wireflow.Proofs.Text.Span

namespace Wireflow.Double

open Text

variable {cs rest : List Char} {d : Double}

/-! ## The grammar -/

/-- At least one hexadecimal digit, with a value of 64 bits. -/
def WordDigits (digits : List Char) : Prop :=
  digits ≠ [] ∧ (∀ c ∈ digits, IsHexDigit c) ∧ digitsValue 16 digits < 2 ^ 64

/-- An optional sign, and whether it is a minus. -/
inductive WrittenSign : List Char → Bool → Prop
  | absent : WrittenSign [] false
  | plus : WrittenSign ['+'] false
  | minus : WrittenSign ['-'] true

/-- Digits with an optional point, at least one before or after it: what the digits are without the
point, and how many of them stand after it. -/
inductive WrittenDigits : List Char → List Char → Nat → Prop
  | whole {digits : List Char} : digits ≠ [] → (∀ c ∈ digits, c.isDigit = true) →
      WrittenDigits digits digits 0
  | pointed {before after : List Char} : before ++ after ≠ [] →
      (∀ c ∈ before, c.isDigit = true) → (∀ c ∈ after, c.isDigit = true) →
      WrittenDigits (before ++ '.' :: after) (before ++ after) after.length

/-- An optional exponent: a letter e in either case, an optional sign and at least one digit. -/
inductive WrittenExponent : List Char → Int → Prop
  | absent : WrittenExponent [] 0
  | present {letter : Char} {sign digits : List Char} {negative : Bool} :
      letter = 'e' ∨ letter = 'E' → WrittenSign sign negative → digits ≠ [] →
      (∀ c ∈ digits, c.isDigit = true) →
      WrittenExponent (letter :: (sign ++ digits))
        (if negative then -(digitsValue 10 digits : Int) else digitsValue 10 digits)

/-- A number literal and the number that it denotes. -/
inductive Written : List Char → Double → Prop
  | hexadecimal {letter : Char} {digits : List Char} : letter = 'x' ∨ letter = 'X' →
      WordDigits digits → Written ('0' :: letter :: digits) (ofNat (digitsValue 16 digits))
  | decimal {sign mantissa exponent digits : List Char} {negative : Bool} {places : Nat} {e : Int} :
      WrittenSign sign negative → WrittenDigits mantissa digits places →
      WrittenExponent exponent e →
      Written (sign ++ (mantissa ++ exponent))
        (ofDecimal negative { digits := digitsValue 10 digits, scale := e - places })

/-- A hexadecimal literal with a plus sign after its x, and the number that it denotes without it. -/
def Signed (cs : List Char) (d : Double) : Prop :=
  ∃ letter digits, (letter = 'x' ∨ letter = 'X') ∧ WordDigits digits ∧
    cs = '0' :: letter :: '+' :: digits ∧ d = ofNat (digitsValue 16 digits)

/-! ## Decimal literals -/

theorem spanSign_sound (cs : List Char) :
    ∃ sign, WrittenSign sign (spanSign cs).1 ∧ cs = sign ++ (spanSign cs).2 := by
  unfold spanSign
  split
  · exact ⟨_, .minus, rfl⟩
  · exact ⟨_, .plus, rfl⟩
  · exact ⟨_, .absent, rfl⟩

theorem spanSign_append {sign : List Char} {negative : Bool} (h : WrittenSign sign negative)
    (hrest : ∀ c ∈ rest.head?, c ≠ '+' ∧ c ≠ '-') : spanSign (sign ++ rest) = (negative, rest) := by
  cases h with
  | plus => rfl
  | minus => rfl
  | absent =>
    rw [List.nil_append, spanSign]
    · rintro tail rfl
      exact (hrest '-' rfl).2 rfl
    · rintro tail rfl
      exact (hrest '+' rfl).1 rfl

theorem ne_sign_of_isDigit {c : Char} (h : c.isDigit = true) : c ≠ '+' ∧ c ≠ '-' := by
  constructor <;> rintro rfl <;> revert h <;> decide

theorem spanDigits_append {digits : List Char} (hdigits : ∀ c ∈ digits, c.isDigit = true)
    (hrest : ∀ c ∈ rest.head?, c.isDigit = false) : spanDigits (digits ++ rest) = (digits, rest) := by
  obtain ⟨htake, hdrop⟩ := span_append hdigits hrest
  unfold spanDigits
  rw [htake, hdrop]

theorem exponent?_eq_some_iff {e : Int} : exponent? cs = some e ↔ WrittenExponent cs e := by
  constructor
  · intro h
    unfold exponent? at h
    split at h
    · cases h
      exact .absent
    · rename_i letter rest
      split at h
      · rename_i hletter
        obtain ⟨sign, hsign, hrest⟩ := spanSign_sound rest
        generalize spanSign rest = r at h hsign hrest
        subst hrest
        dsimp only at h
        split at h
        · rename_i n hn
          obtain ⟨hne, hdigits, rfl⟩ := numeral?_eq_some_iff.1 hn
          cases h
          exact .present hletter hsign hne fun c hc => isDigitOf_ten_iff.1 (hdigits c hc)
        · cases h
      · cases h
  · intro h
    cases h with
    | absent => rfl
    | @present letter sign digits negative hletter hsign hne hdigits =>
      have hhead : ∀ c ∈ digits.head?, c ≠ '+' ∧ c ≠ '-' := fun c hc =>
        ne_sign_of_isDigit (hdigits c (List.mem_of_mem_head? hc))
      have hnumeral : numeral? 10 digits = some (digitsValue 10 digits) :=
        numeral?_eq_some_iff.2 ⟨hne, fun c hc => isDigitOf_ten_iff.2 (hdigits c hc), rfl⟩
      unfold exponent?
      dsimp only
      rw [if_pos hletter, spanSign_append hsign hhead]
      dsimp only
      rw [hnumeral]

/-- What is read is written: the runs that the reader takes are the parts of the literal. -/
theorem written_of_ofDecimalLiteral? (h : ofDecimalLiteral? cs = some d) : Written cs d := by
  obtain ⟨sign, hsign, hcs⟩ := spanSign_sound cs
  unfold ofDecimalLiteral? spanDigits at h
  generalize spanSign cs = r at h hsign hcs
  obtain ⟨negative, unsigned⟩ := r
  subst hcs
  dsimp only at h
  have hbefore : ∀ c ∈ unsigned.takeWhile Char.isDigit, c.isDigit = true :=
    fun c hc => List.mem_takeWhile_imp hc
  have hunsigned : unsigned.takeWhile Char.isDigit ++ unsigned.dropWhile Char.isDigit = unsigned :=
    List.takeWhile_append_dropWhile
  generalize unsigned.takeWhile Char.isDigit = before at h hbefore hunsigned
  generalize unsigned.dropWhile Char.isDigit = rest at h hunsigned
  subst hunsigned
  split at h
  · -- a point stands behind the first run of digits
    rename_i tail
    have hafter : ∀ c ∈ tail.takeWhile Char.isDigit, c.isDigit = true :=
      fun c hc => List.mem_takeWhile_imp hc
    have htail : tail.takeWhile Char.isDigit ++ tail.dropWhile Char.isDigit = tail :=
      List.takeWhile_append_dropWhile
    dsimp only at h
    generalize tail.takeWhile Char.isDigit = after at h hafter htail
    generalize tail.dropWhile Char.isDigit = exponent at h htail
    subst htail
    split at h
    · cases h
    · rename_i hne
      split at h
      · rename_i e he
        cases h
        have hsome : before ++ after ≠ [] := by simpa using hne
        have hwritten := Written.decimal hsign (.pointed hsome hbefore hafter)
          (exponent?_eq_some_iff.1 he)
        simpa using hwritten
      · cases h
  · dsimp only at h
    split at h
    · cases h
    · rename_i hne
      split at h
      · rename_i e he
        cases h
        have hsome : before ≠ [] := by simpa using hne
        have hwritten := Written.decimal hsign (.whole hsome hbefore) (exponent?_eq_some_iff.1 he)
        simpa using hwritten
      · cases h

/-- The letter of an exponent ends the digits before it. -/
theorem head?_of_writtenExponent {e : Int} (h : WrittenExponent cs e) :
    ∀ c ∈ cs.head?, c.isDigit = false ∧ c ≠ '.' ∧ c ≠ '+' ∧ c ≠ '-' := by
  intro c hc
  cases h with
  | absent => cases hc
  | present hletter _ _ _ =>
    cases hc
    rcases hletter with rfl | rfl <;> decide

/-- The digits of a literal do not start with a sign. -/
theorem head?_of_writtenDigits {digits : List Char} {places : Nat}
    (h : WrittenDigits cs digits places) (rest : List Char) :
    ∀ c ∈ (cs ++ rest).head?, c ≠ '+' ∧ c ≠ '-' := by
  intro c hc
  cases h with
  | whole hne hdigits =>
    obtain ⟨first, tail, rfl⟩ := List.exists_cons_of_ne_nil hne
    cases hc
    exact ne_sign_of_isDigit (hdigits c List.mem_cons_self)
  | @pointed before after _ hbefore _ =>
    cases before with
    | nil =>
      cases hc
      decide
    | cons first tail =>
      cases hc
      exact ne_sign_of_isDigit (hbefore c List.mem_cons_self)

/-- What is written is read as the number that it denotes. -/
theorem ofDecimalLiteral?_append {sign mantissa exponent digits : List Char} {negative : Bool}
    {places : Nat} {e : Int} (hsign : WrittenSign sign negative)
    (hdigits : WrittenDigits mantissa digits places) (hexponent : WrittenExponent exponent e) :
    ofDecimalLiteral? (sign ++ (mantissa ++ exponent)) =
      some (ofDecimal negative { digits := digitsValue 10 digits, scale := e - places }) := by
  have hhead := head?_of_writtenExponent hexponent
  have hstop : ∀ c ∈ exponent.head?, c.isDigit = false := fun c hc => (hhead c hc).1
  unfold ofDecimalLiteral?
  rw [spanSign_append hsign (head?_of_writtenDigits hdigits exponent)]
  dsimp only
  cases hdigits with
  | whole hne hall =>
    rw [spanDigits_append hall hstop]
    dsimp only
    split
    · exact absurd rfl (hhead '.' rfl).2.1
    · dsimp only
      rw [if_neg (by simpa using hne), exponent?_eq_some_iff.2 hexponent]
      simp
  | @pointed before after hne hbefore hafter =>
    have hpoint : ∀ c ∈ ('.' :: (after ++ exponent)).head?, c.isDigit = false := by
      intro c hc
      cases hc
      decide
    rw [List.append_assoc, List.cons_append, spanDigits_append hbefore hpoint]
    generalize hrest : '.' :: (after ++ exponent) = rest
    dsimp only
    split
    · cases hrest
      rw [spanDigits_append hafter hstop]
      dsimp only
      rw [if_neg (by simpa using hne), exponent?_eq_some_iff.2 hexponent]
    · rename_i hother
      exact absurd hrest.symm (hother _)

/-! ## Hexadecimal literals -/

theorem word?_plus (base : Nat) (rest : List Char) :
    word? base ('+' :: rest) = (numeral? base rest).filter (· < wordSize) := by
  unfold word?
  cases hnumeral : numeral? base rest with
  | none => simp [hnumeral]
  | some n => simp [hnumeral, Option.filter]

theorem word?_of_ne_plus (h : ∀ rest, cs ≠ '+' :: rest) (base : Nat) :
    word? base cs = (numeral? base cs).filter (· < wordSize) := by
  unfold word?
  cases cs with
  | nil => rfl
  | cons c rest =>
    have hc : c ≠ '+' := fun hc => h rest (hc ▸ rfl)
    cases hnumeral : numeral? base (c :: rest) with
    | none => simp [hnumeral]
    | some n => simp [hnumeral, Option.filter]

theorem wordDigits_iff {n : Nat} : (numeral? 16 cs).filter (· < wordSize) = some n ↔
    WordDigits cs ∧ digitsValue 16 cs = n := by
  have hsize : wordSize = 2 ^ 64 := by decide
  rw [Option.filter_eq_some_iff, numeral?_eq_some_iff, decide_eq_true_iff, hsize]
  simp only [isDigitOf_sixteen_iff]
  unfold WordDigits
  constructor
  · rintro ⟨⟨hne, hdigits, rfl⟩, hlt⟩
    exact ⟨⟨hne, hdigits, hlt⟩, rfl⟩
  · rintro ⟨⟨hne, hdigits, hlt⟩, rfl⟩
    exact ⟨⟨hne, hdigits, rfl⟩, hlt⟩

/-- The numeral of a 64-bit word is read with or without a plus sign before it. -/
theorem word?_eq_some_iff {n : Nat} : word? 16 cs = some n ↔
    ∃ digits, (cs = digits ∨ cs = '+' :: digits) ∧ WordDigits digits ∧ digitsValue 16 digits = n := by
  constructor
  · intro h
    by_cases hplus : ∃ rest, cs = '+' :: rest
    · obtain ⟨rest, rfl⟩ := hplus
      rw [word?_plus, wordDigits_iff] at h
      exact ⟨rest, .inr rfl, h⟩
    · rw [word?_of_ne_plus (not_exists.1 hplus), wordDigits_iff] at h
      exact ⟨cs, .inl rfl, h⟩
  · rintro ⟨digits, rfl | rfl, h⟩
    · have hplus : ∀ rest, cs ≠ '+' :: rest := by
        rintro rest rfl
        exact absurd (h.1.2.1 '+' List.mem_cons_self) (by decide)
      rw [word?_of_ne_plus hplus, wordDigits_iff]
      exact h
    · rw [word?_plus, wordDigits_iff]
      exact h

/-! ## Literals -/

/-- No decimal literal starts as a hexadecimal one does. -/
theorem ofDecimalLiteral?_hexadecimal {letter : Char} (h : letter = 'x' ∨ letter = 'X')
    (rest : List Char) : ofDecimalLiteral? ('0' :: letter :: rest) = none := by
  rcases h with rfl | rfl <;> rfl

/-- After its x, a hexadecimal literal is read with or without a plus sign. -/
theorem written_or_signed_of_word? {letter : Char} (hletter : letter = 'x' ∨ letter = 'X')
    (h : (word? 16 cs).map ofNat = some d) :
    Written ('0' :: letter :: cs) d ∨ Signed ('0' :: letter :: cs) d := by
  obtain ⟨n, hn, rfl⟩ := Option.map_eq_some_iff.1 h
  obtain ⟨digits, rfl | rfl, hdigits, rfl⟩ := word?_eq_some_iff.1 hn
  · exact .inl (.hexadecimal hletter hdigits)
  · exact .inr ⟨letter, digits, hletter, hdigits, rfl, rfl⟩

/-- What comes after the x of a hexadecimal literal is all of the numeral. -/
theorem ofText?_of_word? {s : String} {letter : Char} {n : Nat}
    (hs : trimChars s.toList = '0' :: letter :: cs) (hletter : letter = 'x' ∨ letter = 'X')
    (hword : word? 16 cs = some n) : ofText? s = some (ofNat n) := by
  unfold ofText?
  rw [hs]
  rcases hletter with rfl | rfl
  · exact congrArg (Option.map ofNat) hword
  · exact congrArg (Option.map ofNat) hword

/-- A hexadecimal literal with a plus sign is no literal. -/
theorem not_written_of_signed {d' : Double} (h : Signed cs d) : ¬Written cs d' := by
  obtain ⟨letter, digits, hletter, -, rfl, -⟩ := h
  intro hwritten
  generalize htext : '0' :: letter :: '+' :: digits = text at hwritten
  cases hwritten with
  | hexadecimal _ hdigits =>
    cases htext
    exact absurd (hdigits.2.1 '+' List.mem_cons_self) (by decide)
  | decimal hsign hparts hexponent =>
    have hread := ofDecimalLiteral?_append hsign hparts hexponent
    rw [← htext, ofDecimalLiteral?_hexadecimal hletter] at hread
    cases hread

/-- A text is read as a number exactly when it is a literal between blanks that denotes the number, or
one with a plus sign after its x. The latter are no literals. -/
theorem ofText?_by_literals (s : String) :
    (∀ d, ofText? s = some d ↔ Written (trimChars s.toList) d ∨ Signed (trimChars s.toList) d) ∧
    ∀ d, Signed (trimChars s.toList) d → ∀ d', ¬Written (trimChars s.toList) d' := by
  refine ⟨fun d => ⟨fun h => ?_, ?_⟩, fun d h d' => not_written_of_signed h⟩
  · unfold ofText? at h
    split at h
    · rename_i hs
      exact hs ▸ written_or_signed_of_word? (.inl rfl) h
    · rename_i hs
      exact hs ▸ written_or_signed_of_word? (.inr rfl) h
    · exact .inl (written_of_ofDecimalLiteral? h)
  · rintro (hwritten | ⟨letter, digits, hletter, hdigits, hs, rfl⟩)
    · generalize hs : trimChars s.toList = text at hwritten
      cases hwritten with
      | hexadecimal hletter hdigits =>
        exact ofText?_of_word? hs hletter (word?_eq_some_iff.2 ⟨_, .inl rfl, hdigits, rfl⟩)
      | decimal hsign hparts hexponent =>
        have hread := ofDecimalLiteral?_append hsign hparts hexponent
        rw [← hs] at hread
        unfold ofText?
        split
        · rename_i heq
          rw [heq, ofDecimalLiteral?_hexadecimal (.inl rfl)] at hread
          cases hread
        · rename_i heq
          rw [heq, ofDecimalLiteral?_hexadecimal (.inr rfl)] at hread
          cases hread
        · exact hread
    · exact ofText?_of_word? hs hletter (word?_eq_some_iff.2 ⟨_, .inr rfl, hdigits, rfl⟩)

theorem trimChars_signedOne : trimChars "0x+1".toList = ['0', 'x', '+', '1'] := by decide +kernel

theorem signed_signedOne : Signed (trimChars "0x+1".toList) (ofNat 1) :=
  ⟨'x', ['1'], .inl rfl, ⟨by decide, List.forall_mem_singleton.2 (by decide), by decide⟩, trimChars_signedOne, rfl⟩

/-- A hexadecimal literal between blanks, and one with a sign. -/
theorem ofText?_by_literals_hexadecimal :
    ofText? " 0X1f\n" = some (ofNat 31) ∧ ∀ d, ¬Written (trimChars "0x+1".toList) d := by
  have htrim : trimChars " 0X1f\n".toList = ['0', 'X', '1', 'f'] := by decide +kernel
  have hdigits : ∀ c ∈ ['1', 'f'], IsHexDigit c :=
    List.forall_mem_cons.2 ⟨by decide, List.forall_mem_singleton.2 (by decide)⟩
  have hwritten : Written (trimChars " 0X1f\n".toList) (ofNat 31) :=
    htrim ▸ .hexadecimal (.inr rfl) ⟨by decide, hdigits, by decide⟩
  exact ⟨((ofText?_by_literals _).1 _).2 (.inl hwritten),
    (ofText?_by_literals _).2 _ signed_signedOne⟩

/-- Not only literals are read. -/
theorem not_ofText?_iff_written :
    ¬∀ s : String, (ofText? s).isSome = true ↔ ∃ d, Written (trimChars s.toList) d := by
  intro h
  have hread : ofText? "0x+1" = some (ofNat 1) := by
    unfold ofText?
    rw [trimChars_signedOne]
    rfl
  obtain ⟨d, hwritten⟩ := (h "0x+1").1 (by rw [hread]; rfl)
  exact not_written_of_signed signed_signedOne hwritten

end Wireflow.Double
