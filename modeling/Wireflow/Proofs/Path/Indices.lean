/-
Indices that a message gives. A reference to a number in the message stands for the index that the number
is, as long as the index is below 2 ^ 32: then it does not matter whether a path has the index itself or
the reference, at whatever depth. A greater index can be written, but a reference to it has no key, so
the path with the reference leads nowhere.
-/
import Wireflow.Path.Reading
import Wireflow.Proofs.Path.Places
import Wireflow.Proofs.Value.RoundTrip

namespace Wireflow

/-! ## Whole numbers -/

namespace Magnitude

/-- Every whole number up to 2 ^ 53 is a size. -/
theorem exists_units_eq {i : Nat} (h : i ≤ 2 ^ 53) : ∃ m : Magnitude, m.units = i * one := by
  rcases Nat.eq_zero_or_pos i with rfl | hpos
  · exact ⟨zero, by rw [units_eq_zero_iff zero |>.2 rfl, Nat.zero_mul]⟩
  rcases Nat.lt_or_eq_of_le h with hlt | rfl
  · -- the mantissa is the number moved up to 53 bits
    have hlog : i.log2 < 53 := (Nat.log2_lt hpos.ne').2 hlt
    have hle : 2 ^ i.log2 ≤ i := Nat.log2_self_le hpos.ne'
    have hgt : i < 2 ^ (i.log2 + 1) := Nat.lt_log2_self
    have hbits : 2 ^ i.log2 * 2 ^ (52 - i.log2) = 2 ^ 52 := by
      rw [← Nat.pow_add]
      congr 1
      omega
    have hbits' : 2 ^ (i.log2 + 1) * 2 ^ (52 - i.log2) = 2 * 2 ^ 52 := by
      rw [Nat.pow_succ, Nat.mul_comm _ 2, Nat.mul_assoc, hbits]
    refine ⟨⟨i * 2 ^ (52 - i.log2), 1022 + i.log2, ?_, by omega, .inl ?_⟩, ?_⟩
    · exact (Nat.mul_lt_mul_of_pos_right hgt (Nat.two_pow_pos _)).trans_eq hbits'
    · exact hbits.symm.le.trans (Nat.mul_le_mul_right _ hle)
    · have hexp : 52 - i.log2 + (1022 + i.log2) = 1074 := by omega
      rw [units, one_eq, Nat.pow_eq, Nat.pow_eq, Nat.mul_assoc, ← Nat.pow_add, hexp]
  · refine ⟨⟨leastNormal, 1075, by decide, by decide, .inl le_rfl⟩, ?_⟩
    have hdouble : leastNormal * 2 = 2 ^ 53 := by decide
    rw [units, one_eq, Nat.pow_eq, Nat.pow_eq, Nat.pow_succ 2 1074, Nat.mul_comm (2 ^ 1074) 2,
      ← Nat.mul_assoc, hdouble]

/-- Every size is below the place of infinity. -/
theorem units_lt (m : Magnitude) : m.units < Nat.pow 2 2099 := by
  have hmantissa : m.mantissa < 2 ^ 53 := m.mantissa_lt
  have hexponent := m.exponent_le
  rw [units, Nat.pow_eq, Nat.pow_eq]
  calc m.mantissa * 2 ^ m.exponent
      < 2 ^ 53 * 2 ^ m.exponent := Nat.mul_lt_mul_of_pos_right hmantissa (Nat.two_pow_pos _)
    _ = 2 ^ (53 + m.exponent) := (Nat.pow_add 2 53 m.exponent).symm
    _ ≤ 2 ^ 2099 := Nat.pow_le_pow_right (by decide) (by omega)

end Magnitude

namespace Double

variable {d : Double} {i : Nat}

/-- What is equal to a whole number as a number is that number, or zero with the other sign. -/
theorem exists_of_numEq_ofNat (hi : i ≤ 2 ^ 53) (h : d.numEq (ofNat i) = true) :
    ∃ negative m, d = .finite negative m ∧ m.units = i * Magnitude.one ∧
      (negative = true → i = 0) := by
  obtain ⟨m, hm⟩ := Magnitude.exists_units_eq hi
  have hplace : d.place? = some (m.units : Int) := by
    have hnat : (finite false m).place? = some (m.units : Int) := Eq.refl _
    rw [ofNat, ofRatio_of_units hm.symm] at h
    unfold numEq compare? at h
    rw [hnat] at h
    cases hd : d.place? with
    | none =>
      rw [hd] at h
      cases h
    | some x =>
      rw [hd] at h
      have hcompare : compare x (m.units : Int) = .eq := Option.some.inj (beq_iff_eq.1 h)
      rw [Std.compare_eq_iff_eq.1 hcompare]
  cases d with
  | nan => cases hplace
  | infinite negative =>
    have hlt := m.units_lt
    cases negative with
    | false =>
      have hunits : ((Nat.pow 2 2099 : Nat) : Int) = m.units := Option.some.inj hplace
      omega
    | true =>
      have hunits : -((Nat.pow 2 2099 : Nat) : Int) = m.units := Option.some.inj hplace
      omega
  | finite negative m' =>
    cases negative with
    | false =>
      have hunits : (m'.units : Int) = m.units := Option.some.inj hplace
      exact ⟨false, m', rfl, by omega, nofun⟩
    | true =>
      have hunits : -(m'.units : Int) = m.units := Option.some.inj hplace
      have hzero : i * Magnitude.one = 0 := by omega
      exact ⟨true, m', rfl, by omega, fun _ =>
        (Nat.mul_eq_zero.1 hzero).resolve_right Magnitude.one_ne_zero⟩

theorem numEq_ofNat_self (hi : i ≤ 2 ^ 53) : (ofNat i).numEq (ofNat i) = true := by
  obtain ⟨m, hm⟩ := Magnitude.exists_units_eq hi
  rw [ofNat, ofRatio_of_units hm.symm]
  exact numEq_finite (.inl rfl)

/-- A whole number names its position when it is below 2 ^ 32. -/
theorem position?_of_numEq (hi : i ≤ 2 ^ 53) (h : d.numEq (ofNat i) = true) :
    d.position? = if i < 2 ^ 32 then some i else none := by
  obtain ⟨negative, m, rfl, hunits, hsign⟩ := exists_of_numEq_ofNat hi h
  have hpos : 0 < Magnitude.one := Nat.pos_of_ne_zero Magnitude.one_ne_zero
  have hwhole : (finite negative m).isWhole = true := by
    simp [isWhole, hunits]
  have habs : (finite negative m).wholeAbs = i := by
    rw [wholeAbs, hunits, Nat.mul_div_cancel _ hpos]
  have hvalue : (finite negative m).whole = i := by
    cases negative with
    | false => rw [whole, hunits, Nat.mul_div_cancel _ hpos]
    | true =>
      rw [whole, hunits, Nat.mul_div_cancel _ hpos, hsign rfl]
      rfl
  unfold position? wholeBelow?
  rw [hwhole, habs, hvalue, Bool.true_and]
  by_cases hlt : i < 2 ^ 32
  · rw [if_pos hlt, if_pos (decide_eq_true (show i < Text.halfWordSize from hlt))]
    exact if_pos (Int.natCast_nonneg i)
  · have hge : decide (i < Text.halfWordSize) = false := decide_eq_false hlt
    rw [if_neg hlt, hge]
    rfl

end Double

/-! ## References to an index -/

namespace Segment

variable {entries : Entries} {i : Nat} {n : Path} {ss ss' : List Segment}

/-- Segments with an index, and the same segments with a reference to `n` in its place, within other
references too. The texts of the references do not matter. -/
inductive Referred (i : Nat) (n : Path) : List Segment → List Segment → Prop
  | here (source : String) (rest : List Segment) :
    Referred i n (.index i :: rest) (.reference source n.segments :: rest)
  | there (s : Segment) {ss ss' : List Segment} :
    Referred i n ss ss' → Referred i n (s :: ss) (s :: ss')
  | inside (source source' : String) (rest : List Segment) {ss ss' : List Segment} :
    Referred i n ss ss' →
    Referred i n (.reference source ss :: rest) (.reference source' ss' :: rest)

theorem bind?_reference_congr (h : bindAll? (some entries) ss' = bindAll? (some entries) ss)
    (source source' : String) :
    (reference source' ss').bind? (some entries) = (reference source ss).bind? (some entries) := by
  simp only [bind?, h]

theorem bind?_reference_eq_none (h : bindAll? (some entries) ss = none) (source : String) :
    (reference source ss).bind? (some entries) = none := by
  simp only [bind?, h]

theorem bindAll?_cons_eq_none {s : Segment} (h : s.bind? (some entries) = none) :
    bindAll? (some entries) (s :: ss) = none := by
  simp only [bindAll?, h]

theorem bindAll?_cons_congr {s s' : Segment}
    (hs : s'.bind? (some entries) = s.bind? (some entries))
    (h : bindAll? (some entries) ss' = bindAll? (some entries) ss) :
    bindAll? (some entries) (s' :: ss') = bindAll? (some entries) (s :: ss) := by
  simp only [bindAll?, hs, h]

/-- A reference that stands for the index can take its place. -/
theorem Referred.bindAll?_eq (h : Referred i n ss ss')
    (hkey : ∀ source, (reference source n.segments).bind? (some entries) = some (.index i)) :
    bindAll? (some entries) ss' = bindAll? (some entries) ss := by
  induction h with
  | here source rest => exact bindAll?_cons_congr (hkey source) rfl
  | there s _ ih => exact bindAll?_cons_congr rfl ih
  | inside source source' rest _ ih =>
    exact bindAll?_cons_congr (bind?_reference_congr ih source source') rfl

/-- Without a key for the reference there are no keys at all. -/
theorem Referred.bindAll?_eq_none (h : Referred i n ss ss')
    (hkey : ∀ source, (reference source n.segments).bind? (some entries) = none) :
    bindAll? (some entries) ss' = none := by
  induction h with
  | here source rest => exact bindAll?_cons_eq_none (hkey source)
  | there s _ ih =>
    rw [bindAll?, ih]
    cases s.bind? (some entries) <;> rfl
  | inside source source' rest _ ih =>
    exact bindAll?_cons_eq_none (bind?_reference_eq_none ih source')

end Segment

namespace Path

variable {msg : Message} {d : Double} {i : Nat} {n p p' : Path}

/-- The key of a reference to a whole number. -/
theorem bind?_reference_ofNat (hi : i ≤ 2 ^ 53) (hn : msg.getPath? n = some (.number d))
    (hd : d.numEq (Double.ofNat i) = true) (source : String) :
    (Segment.reference source n.segments).bind? (some msg.entries) =
      if i < 2 ^ 32 then some (.index i) else none := by
  unfold Message.getPath? Path.bind? at hn
  rw [Segment.bind?]
  cases hkeys : Segment.bindAll? (some msg.entries) n.segments with
  | none =>
    rw [hkeys] at hn
    cases hn
  | some keys =>
    rw [hkeys] at hn
    have hfound : msg.entries.lookup? keys = some (.number d) := hn
    simp only [hfound, Value.key?, Double.position?_of_numEq hi hd]
    split <;> rfl

/-- Where an index of a path is replaced by a reference to the same number, the keys are the same exactly
when the index is below 2 ^ 32, or there are none in the first place. Below 2 ^ 32 the two paths read,
write and remove alike. From there on the path with the reference leads nowhere: nothing is found
there, and an attempt to write or remove leaves the message as it is. -/
theorem bind?_referred_iff (hi : i ≤ 2 ^ 53) (hn : msg.getPath? n = some (.number d))
    (hd : d.numEq (Double.ofNat i) = true) (h : Segment.Referred i n p.segments p'.segments) :
    (p'.bind? (some msg.entries) = p.bind? (some msg.entries) ↔
      i < 2 ^ 32 ∨ p.bind? (some msg.entries) = none) ∧
    (i < 2 ^ 32 → msg.getPath? p' = msg.getPath? p ∧
      (∀ v, msg.setPath p' v = msg.setPath p v) ∧ msg.removePath p' = msg.removePath p) ∧
    (2 ^ 32 ≤ i → p'.bind? (some msg.entries) = none ∧ msg.getPath? p' = none ∧
      (∀ v, msg.setPath p' v = (false, msg)) ∧ msg.removePath p' = (none, msg)) := by
  have hkey := bind?_reference_ofNat hi hn hd
  have hbelow (hlt : i < 2 ^ 32) : p'.bind? (some msg.entries) = p.bind? (some msg.entries) :=
    h.bindAll?_eq fun source => (hkey source).trans (if_pos hlt)
  have habove (hge : 2 ^ 32 ≤ i) : p'.bind? (some msg.entries) = none :=
    h.bindAll?_eq_none fun source => (hkey source).trans (if_neg (Nat.not_lt.2 hge))
  refine ⟨⟨fun heq => ?_, ?_⟩, fun hlt => ?_, fun hge => ?_⟩
  · rcases Nat.lt_or_ge i (2 ^ 32) with hlt | hge
    · exact .inl hlt
    · exact .inr (heq.symm.trans (habove hge))
  · rintro (hlt | hnone)
    · exact hbelow hlt
    · rcases Nat.lt_or_ge i (2 ^ 32) with hlt | hge
      · exact hbelow hlt
      · rw [habove hge, hnone]
  · unfold Message.getPath? Message.setPath Message.removePath
    rw [hbelow hlt]
    exact ⟨rfl, fun _ => rfl, rfl⟩
  · unfold Message.getPath? Message.setPath Message.removePath
    rw [habove hge]
    exact ⟨rfl, rfl, fun _ => rfl, rfl⟩

/-- The greatest index that a message can give, within a reference. -/
theorem bind?_referred_iff_inside :
    let d := Double.ofNat 4294967295
    let msg : Message := ⟨[("b", .object [("4294967295", .string "k")]), ("n", .number d)]⟩
    let n : Path := { source := "n", segments := [.name "n"] }
    let p : Path :=
      { source := "a[msg.b[4294967295]]"
        segments := [.name "a", .reference "b[4294967295]" [.name "b", .index 4294967295]] }
    let p' : Path :=
      { source := "a[msg.b[msg.n]]"
        segments := [.name "a", .reference "b[msg.n]" [.name "b", .reference "n" [.name "n"]]] }
    (4294967295 ≤ 2 ^ 53 ∧ msg.getPath? n = some (.number d) ∧
      d.numEq (Double.ofNat 4294967295) = true ∧
      Segment.Referred 4294967295 n p.segments p'.segments) ∧
    p'.bind? (some msg.entries) = some [.name "a", .name "k"] := by
  intro d msg n p p'
  have hi : 4294967295 ≤ 2 ^ 53 := by decide
  have hn : msg.getPath? n = some (.number d) := rfl
  have hd : d.numEq (Double.ofNat 4294967295) = true := Double.numEq_ofNat_self hi
  have h : Segment.Referred 4294967295 n p.segments p'.segments :=
    .there (.name "a") (.inside _ _ [] (.there (.name "b") (.here "n" [])))
  have hkeys : p.bind? (some msg.entries) = some [.name "a", .name "k"] := by cbv
  have hsame := (bind?_referred_iff hi hn hd h).1.2 (.inl (by decide))
  exact ⟨⟨hi, hn, hd, h⟩, hsame.trans hkeys⟩

/-- A reference to the index 2 ^ 32, which stands elsewhere in the message, does not have the key that the
index itself has. -/
theorem not_bind?_referred :
    ¬∀ (msg : Message) (i : Nat) (n p p' : Path) (names keys : List Key),
      i ≤ 2 ^ 53 → msg.getPath? n = some (.number (Double.ofNat i)) →
      parse n.source = .ok n → parse p.source = .ok p → parse p'.source = .ok p' →
      Segment.Referred i n p.segments p'.segments →
      n.bind? (some msg.entries) = some names → p.bind? (some msg.entries) = some keys →
      msg.entries.Departs keys names →
      p'.bind? (some msg.entries) = some keys := by
  intro h
  let msg : Message :=
    ⟨[("a", .object [("4294967296", .bool true)]), ("n", .number (Double.ofNat 4294967296))]⟩
  let n : Path := { source := "n", segments := [.name "n"] }
  let p : Path :=
    { source := "a[4294967296]", segments := [.name "a", .index 4294967296] }
  let p' : Path :=
    { source := "a[msg.n]", segments := [.name "a", .reference "n" [.name "n"]] }
  have hi : 4294967296 ≤ 2 ^ 53 := by decide
  have hn : msg.getPath? n = some (.number (Double.ofNat 4294967296)) := rfl
  have hreferred : Segment.Referred 4294967296 n p.segments p'.segments :=
    .there (.name "a") (.here "n" [])
  have hdeparts : msg.entries.Departs [.name "a", .index 4294967296] [.name "n"] :=
    .inl (show "a" ≠ "n" by decide)
  have hkeys := h msg 4294967296 n p p' _ _ hi hn (by cbv) (by cbv) (by cbv) hreferred rfl rfl
    hdeparts
  have hnone : p'.bind? (some msg.entries) = none :=
    hreferred.bindAll?_eq_none fun source =>
      (bind?_reference_ofNat hi hn (Double.numEq_ofNat_self hi) source).trans
        (if_neg (by decide))
  rw [hnone] at hkeys
  cases hkeys

end Path

end Wireflow
