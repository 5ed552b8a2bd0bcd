/-
The test for a range. Its bounds may be written either way round: it looks for the lower one first, but
since the order is transitive it might as well try both ways, and so it says what the two weak orders say
together. It reads all three values as numbers when it can, and as texts otherwise, while the weak orders
decide this for two values at a time; when the three are of one kind, that is the same.
-/
import Wireflow.Proofs.Value.Comparison

namespace Wireflow

/-- Putting two bounds in order before a value is compared with them is trying both ways round, in every
transitive order; they need not be comparable. -/
theorem ordered_bounds_eq {α : Type} (le : α → α → Bool)
    (htrans : ∀ {a b c}, le a b → le b c → le a c) (x a b : α) :
    (if le a b then le a x && le x b else le b x && le x a) =
      (le a x && le x b || le b x && le x a) := by
  rw [Bool.eq_iff_iff]
  split
  · rename_i hab
    -- a value between the bounds the other way round is equivalent to both
    have hback : le b x → le x a → le a x ∧ le x b := fun hbx hxa =>
      ⟨htrans hab hbx, htrans hxa hab⟩
    simp only [Bool.and_eq_true, Bool.or_eq_true]
    exact ⟨.inl, fun h => h.elim id fun h => hback h.1 h.2⟩
  · rename_i hab
    simp only [Bool.and_eq_true, Bool.or_eq_true]
    exact ⟨.inr, fun h => h.elim (fun h => absurd (htrans h.1 h.2) hab) id⟩

/-! ## Orders of one kind -/

namespace Double

variable {x y z : Double}

theorem numLe_iff : x.numLe y ↔ ∃ p q, x.place? = some p ∧ y.place? = some q ∧ p ≤ q := by
  unfold numLe compare?
  cases x.place? with
  | none => simp
  | some p =>
    cases y.place? with
    | none => simp
    | some q =>
      have hle : (∃ p' q', some p = some p' ∧ some q = some q' ∧ p' ≤ q') ↔ p ≤ q := by simp
      rw [hle, ← compare_le_iff_le]
      dsimp only
      cases compare p q <;> decide

theorem numLe_trans (hxy : x.numLe y) (hyz : y.numLe z) : x.numLe z := by
  obtain ⟨p, q, hp, hq, hpq⟩ := numLe_iff.1 hxy
  obtain ⟨q', r, hq', hr, hqr⟩ := numLe_iff.1 hyz
  cases hq.symm.trans hq'
  exact numLe_iff.2 ⟨p, r, hp, hr, hpq.trans hqr⟩

/-- What is no number is neither below nor above anything. -/
theorem ne_nan_of_numLe (h : x.numLe y) : x ≠ .nan ∧ y ≠ .nan := by
  obtain ⟨p, q, hp, hq, -⟩ := numLe_iff.1 h
  constructor <;> rintro rfl
  · cases hp
  · cases hq

end Double

namespace Value

variable {a b x : Value} {s t u : String}

theorem compareText_ne_gt_iff : (compareText s t != .gt) = true ↔ s ≤ t := by
  unfold compareText
  by_cases hlt : s < t
  · rw [if_pos hlt]
    exact iff_of_true rfl (String.not_lt.1 (String.lt_asymm hlt))
  · rw [if_neg hlt]
    have hge : t ≤ s := String.not_lt.1 hlt
    by_cases heq : s = t
    · rw [if_pos heq]
      exact iff_of_true rfl (heq ▸ String.le_refl s)
    · rw [if_neg heq]
      exact iff_of_false nofun fun hle => heq (String.le_antisymm hle hge)

theorem compareText_trans (hst : (compareText s t != .gt) = true)
    (htu : (compareText t u != .gt) = true) : (compareText s u != .gt) = true :=
  compareText_ne_gt_iff.2
    (String.le_trans (compareText_ne_gt_iff.1 hst) (compareText_ne_gt_iff.1 htu))

/-! ## The three readings -/

/-- Three values that are numbers or numerals are compared as numbers. -/
theorem isBetween_of_numbers {p q r : Double} (hx : x.toNumber? = some p) (ha : a.toNumber? = some q)
    (hb : b.toNumber? = some r) :
    x.isBetween a b = (q.numLe p && p.numLe r || r.numLe p && p.numLe q) := by
  unfold isBetween
  rw [hx, ha, hb]
  exact ordered_bounds_eq Double.numLe Double.numLe_trans p q r

/-- Three values that have texts are compared as texts when one of them is no numeral. -/
theorem isBetween_of_texts (hx : x.toText? = some s) (ha : a.toText? = some t)
    (hb : b.toText? = some u)
    (hnone : ¬(x.toNumber?.isSome ∧ a.toNumber?.isSome ∧ b.toNumber?.isSome)) :
    x.isBetween a b = (compareText t s != .gt && compareText s u != .gt ||
      compareText u s != .gt && compareText s t != .gt) := by
  have htexts := ordered_bounds_eq (fun s t => compareText s t != .gt) compareText_trans s t u
  unfold isBetween
  split
  · rename_i hx' ha' hb'
    simp [hx', ha', hb'] at hnone
  · rw [hx, ha, hb]
    exact htexts

/-- No value is between others when one of the three has no text. -/
theorem isBetween_of_not_isAtom (h : ¬x.IsAtom ∨ ¬a.IsAtom ∨ ¬b.IsAtom) :
    x.isBetween a b = false := by
  unfold isBetween
  split
  · rename_i hx ha hb
    simp [isAtom_of_toNumber? hx, isAtom_of_toNumber? ha, isAtom_of_toNumber? hb] at h
  · simp only [← isSome_toText?_iff] at h
    split
    · rename_i hx ha hb
      simp [hx, ha, hb] at h
    · rfl

theorem exists_toText? (h : a.IsAtom) : ∃ s, a.toText? = some s :=
  Option.isSome_iff_exists.1 (isSome_toText?_iff.2 h)

theorem isBetween_comm (x a b : Value) : x.isBetween a b = x.isBetween b a := by
  by_cases hnumbers : x.toNumber?.isSome ∧ a.toNumber?.isSome ∧ b.toNumber?.isSome
  · obtain ⟨p, hp⟩ := Option.isSome_iff_exists.1 hnumbers.1
    obtain ⟨q, hq⟩ := Option.isSome_iff_exists.1 hnumbers.2.1
    obtain ⟨r, hr⟩ := Option.isSome_iff_exists.1 hnumbers.2.2
    rw [isBetween_of_numbers hp hq hr, isBetween_of_numbers hp hr hq, Bool.or_comm]
  by_cases hatoms : x.IsAtom ∧ a.IsAtom ∧ b.IsAtom
  · obtain ⟨s, hs⟩ := exists_toText? hatoms.1
    obtain ⟨t, ht⟩ := exists_toText? hatoms.2.1
    obtain ⟨u, hu⟩ := exists_toText? hatoms.2.2
    rw [isBetween_of_texts hs ht hu hnumbers, isBetween_of_texts hs hu ht (by tauto), Bool.or_comm]
  · rw [isBetween_of_not_isAtom (by tauto), isBetween_of_not_isAtom (by tauto)]

end Value

namespace Comparison

variable {a b x : Value} {s t : String} {p q : Double}

theorem lte_holds_of_numbers (ha : a.toNumber? = some p) (hb : b.toNumber? = some q) :
    lte.holds a b = p.numLe q := by
  unfold holds Value.compare? Double.numLe
  rw [ha, hb]
  dsimp only
  cases p.compare? q with
  | none => rfl
  | some o => cases o <;> rfl

theorem lte_holds_of_texts (ha : a.toText? = some s) (hb : b.toText? = some t)
    (hnone : a.toNumber? = none) : lte.holds a b = (Value.compareText s t != .gt) := by
  unfold holds Value.compare?
  rw [hnone, ha, hb]

/-- The range test does not depend on which bound is written first. On three numbers or numerals, and on
three texts none of which is a numeral, it says that the value is not below one bound and not above the
other, by the orders of the switch. It never holds of a value or a bound that is null, bytes, an array
or an object, nor of three numbers of which one is no number. -/
theorem isBetween_by_orders (x a b : Value) :
    x.isBetween a b = x.isBetween b a ∧
    ((x.toNumber?.isSome ∧ a.toNumber?.isSome ∧ b.toNumber?.isSome) ∨
        ((x.IsAtom ∧ a.IsAtom ∧ b.IsAtom) ∧
          x.toNumber? = none ∧ a.toNumber? = none ∧ b.toNumber? = none) →
      (x.isBetween a b ↔
        (gte.holds x a ∧ lte.holds x b) ∨ (gte.holds x b ∧ lte.holds x a))) ∧
    (¬x.IsAtom ∨ ¬a.IsAtom ∨ ¬b.IsAtom → x.isBetween a b = false) ∧
    ∀ p q r, x.toNumber? = some p → a.toNumber? = some q → b.toNumber? = some r →
      p = .nan ∨ q = .nan ∨ r = .nan → x.isBetween a b = false := by
  refine ⟨Value.isBetween_comm x a b, ?_, Value.isBetween_of_not_isAtom, ?_⟩
  · intro h
    rw [← (holds_swap a x).2, ← (holds_swap b x).2]
    rcases h with ⟨hx, ha, hb⟩ | ⟨⟨hx, ha, hb⟩, hnx, hna, hnb⟩
    · obtain ⟨p, hp⟩ := Option.isSome_iff_exists.1 hx
      obtain ⟨q, hq⟩ := Option.isSome_iff_exists.1 ha
      obtain ⟨r, hr⟩ := Option.isSome_iff_exists.1 hb
      rw [Value.isBetween_of_numbers hp hq hr, lte_holds_of_numbers hp hq, lte_holds_of_numbers hq hp,
        lte_holds_of_numbers hp hr, lte_holds_of_numbers hr hp]
      simp
    · obtain ⟨s, hs⟩ := Value.exists_toText? hx
      obtain ⟨t, ht⟩ := Value.exists_toText? ha
      obtain ⟨u, hu⟩ := Value.exists_toText? hb
      rw [Value.isBetween_of_texts hs ht hu (by simp [hnx]), lte_holds_of_texts hs ht hnx,
        lte_holds_of_texts ht hs hna, lte_holds_of_texts hs hu hnx, lte_holds_of_texts hu hs hnb]
      simp
  · intro p q r hp hq hr hnan
    rw [Value.isBetween_of_numbers hp hq hr, Bool.eq_false_iff]
    intro h
    simp only [Bool.or_eq_true, Bool.and_eq_true] at h
    rcases h with ⟨h₁, h₂⟩ | ⟨h₁, h₂⟩
    · have := Double.ne_nan_of_numLe h₁
      have := Double.ne_nan_of_numLe h₂
      tauto
    · have := Double.ne_nan_of_numLe h₁
      have := Double.ne_nan_of_numLe h₂
      tauto

/-- A numeral between a number and a greater numeral that is written first; and between what is no
number and a number there is nothing. -/
theorem isBetween_by_orders_numeral :
    let x : Value := .string "0x0A"
    let a : Value := .string "1e1"
    let b : Value := .number Double.zero
    (x.toNumber?.isSome ∧ a.toNumber?.isSome ∧ b.toNumber?.isSome ∧ ¬Value.null.IsAtom) ∧
    x.isBetween a b = true ∧ x.isBetween (.number .nan) b = false ∧ x.isBetween .null b = false := by
  intro x a b
  have hx : x.toNumber? = some (Double.ofNat 10) := by decide +kernel
  have ha : a.toNumber? = some (Double.ofNat 10) := by decide +kernel
  have hb : b.toNumber? = some Double.zero := rfl
  have hsome : x.toNumber?.isSome ∧ a.toNumber?.isSome ∧ b.toNumber?.isSome := by
    rw [hx, ha, hb]
    exact ⟨rfl, rfl, rfl⟩
  refine ⟨⟨hsome.1, hsome.2.1, hsome.2.2, id⟩, ?_, ?_, ?_⟩
  · exact ((isBetween_by_orders x a b).2.1 (.inl hsome)).2 (.inr ⟨by decide +kernel, by decide +kernel⟩)
  · exact (isBetween_by_orders x _ b).2.2.2 _ _ _ hx rfl hb (.inr (.inl rfl))
  · exact (isBetween_by_orders x _ b).2.2.1 (.inr (.inl id))

end Comparison

end Wireflow
