/-
The comparisons of switch rules. Whatever two values are compared, turning them round turns the order
round and leaves equality as it is. Strings, numbers and truth values all have a place in the order, as
numbers or as texts, so exactly one of less, equal and greater holds of two of them, unless what is no
number has to be compared as one. Nothing else has a place in it, and the four orders hold of nothing else.
-/
import Wireflow.Node.Switch
import Mathlib.Tactic

namespace Wireflow

/-- Turning an order round does not make anything equal, or unequal. -/
theorem map_swap_beq_eq (o : Option Ordering) : (o.map Ordering.swap == some .eq) = (o == some .eq) := by
  cases o with
  | none => rfl
  | some o => cases o <;> rfl

/-! ## Numbers -/

namespace Double

variable {x y : Double}

/-- Only the value that is no number has no place on the line. -/
theorem place?_eq_none_iff : x.place? = none ↔ x = .nan := by
  cases x with
  | nan => exact iff_of_true rfl rfl
  | infinite negative => exact iff_of_false (by cases negative <;> exact nofun) nofun
  | finite negative m => exact iff_of_false (by cases negative <;> exact nofun) nofun

theorem compare?_swap (x y : Double) : y.compare? x = (x.compare? y).map Ordering.swap := by
  unfold compare?
  cases x.place? with
  | none => cases y.place? <;> rfl
  | some a =>
    cases y.place? with
    | none => rfl
    | some b =>
      have hswap : compare b a = (compare a b).swap := Std.OrientedCmp.eq_swap
      exact congrArg some hswap

theorem compare?_eq_none_iff : x.compare? y = none ↔ x = .nan ∨ y = .nan := by
  rw [← place?_eq_none_iff, ← place?_eq_none_iff]
  unfold compare?
  cases x.place? <;> cases y.place? <;> simp

theorem numEq_comm (x y : Double) : x.numEq y = y.numEq x := by
  unfold numEq
  rw [compare?_swap y x, map_swap_beq_eq]

end Double

namespace Value

/-! ## The order of two values -/

/-- A string, a number or a truth value. -/
def IsAtom : Value → Prop
  | .string _ | .number _ | .bool _ => True
  | _ => False

variable {a b : Value}

theorem compareText_swap (s t : String) : compareText t s = (compareText s t).swap := by
  unfold compareText
  by_cases hst : s < t
  · have hne : t ≠ s := fun h => String.lt_irrefl s (h ▸ hst)
    rw [if_pos hst, if_neg (String.lt_asymm hst), if_neg hne]
    rfl
  · by_cases heq : s = t
    · subst heq
      rw [if_neg hst, if_pos rfl]
      rfl
    · have hts : t < s := by
        by_contra hts
        exact heq (String.le_antisymm (String.not_lt.1 hts) (String.not_lt.1 hst))
      rw [if_neg hst, if_neg heq, if_pos hts]
      rfl

theorem compare?_swap (a b : Value) : b.compare? a = (a.compare? b).map Ordering.swap := by
  unfold compare?
  rcases a.toNumber? with _ | x <;> rcases b.toNumber? with _ | y
  case some.some => exact Double.compare?_swap x y
  -- otherwise both are compared as texts
  all_goals
    cases a.toText? <;> cases b.toText? <;> first | rfl | exact congrArg some (compareText_swap _ _)

theorem compare?_eq_some_eq_comm (a b : Value) :
    (b.compare? a == some .eq) = (a.compare? b == some .eq) := by
  rw [compare?_swap a b, map_swap_beq_eq]

/-- Two values are compared as numbers, and one of them is no number. -/
def ComparedAsNan (a b : Value) : Prop :=
  ∃ x y, a.toNumber? = some x ∧ b.toNumber? = some y ∧ (x = .nan ∨ y = .nan)

theorem isSome_toText?_iff : a.toText?.isSome ↔ a.IsAtom := by
  cases a <;> simp [toText?, IsAtom]

theorem isAtom_of_toNumber? {x : Double} (h : a.toNumber? = some x) : a.IsAtom := by
  cases a with
  | number _ | string _ => trivial
  | _ => cases h

/-- Two values have an order when both have a text, unless one is no number and both are compared as
numbers. -/
theorem compare?_eq_none_iff :
    a.compare? b = none ↔ ¬a.IsAtom ∨ ¬b.IsAtom ∨ a.ComparedAsNan b := by
  unfold compare? ComparedAsNan
  cases hx : a.toNumber? with
  | some x =>
    cases hy : b.toNumber? with
    | some y =>
      simp [Double.compare?_eq_none_iff, isAtom_of_toNumber? hx, isAtom_of_toNumber? hy]
    | none =>
      rw [← isSome_toText?_iff, ← isSome_toText?_iff]
      cases a.toText? <;> cases b.toText? <;> simp
  | none =>
    rw [← isSome_toText?_iff, ← isSome_toText?_iff]
    cases a.toText? <;> cases b.toText? <;> simp

/-! ## Equality of two values -/

mutual

theorem same_comm : ∀ a b : Value, same a b = same b a
  | .null, b => by cases b <;> rfl
  | .bool x, b => by
    cases b with
    | bool y => exact Bool.beq_comm
    | _ => rfl
  | .number x, b => by
    cases b with
    | number y => exact Double.numEq_comm x y
    | _ => rfl
  | .string s, b => by
    cases b with
    | string t => exact BEq.comm
    | _ => rfl
  | .bytes x, b => by
    cases b with
    | bytes y => exact BEq.comm
    | _ => rfl
  | .array items, b => by
    cases b with
    | array items' => exact sameItems_comm items items'
    | _ => rfl
  | .object m, b => by
    cases b with
    | object m' => exact sameEntries_comm m m'
    | _ => rfl

theorem sameItems_comm : ∀ as bs : List Value, sameItems as bs = sameItems bs as
  | [], bs => by cases bs <;> rfl
  | a :: as, bs => by
    cases bs with
    | nil => rfl
    | cons b bs => rw [sameItems, sameItems, same_comm a b, sameItems_comm as bs]

theorem sameEntries_comm : ∀ as bs : List (String × Value), sameEntries as bs = sameEntries bs as
  | [], bs => by cases bs <;> rfl
  | (k, a) :: as, bs => by
    cases bs with
    | nil => rfl
    | cons b bs =>
      obtain ⟨l, b⟩ := b
      have hkeys : (k == l) = (l == k) := BEq.comm
      rw [sameEntries, sameEntries, same_comm a b, sameEntries_comm as bs, hkeys]

end

theorem looseEq_comm (a b : Value) : a.looseEq b = b.looseEq a := by
  unfold looseEq
  split
  · exact Bool.beq_comm
  · rfl
  · rename_i hbool hnull
    symm
    split
    · exact (hbool _ _ rfl rfl).elim
    · exact (hnull rfl rfl).elim
    · rw [Bool.or_comm, same_comm b a, compare?_eq_some_eq_comm]

theorem IsAtom.isCompound_eq_false (h : a.IsAtom) : a.isCompound = false := by
  cases a with
  | bytes _ | array _ | object _ => cases h
  | _ => rfl

/-- Equality of what has a place in the order is having the same one. -/
theorem looseEq_of_isAtom (ha : a.IsAtom) (hb : b.IsAtom) :
    a.looseEq b = (a.compare? b == some .eq) := by
  unfold looseEq
  split
  · rename_i x y
    cases x <;> cases y <;> decide
  · cases ha
  · rw [ha.isCompound_eq_false, hb.isCompound_eq_false, Bool.or_false,
      if_neg Bool.false_ne_true]

end Value

/-! ## Comparisons -/

namespace Comparison

/-- The orders turn round with the values. -/
theorem holds_swap (a b : Value) :
    lt.holds a b = gt.holds b a ∧ lte.holds a b = gte.holds b a := by
  unfold holds
  rw [Value.compare?_swap a b]
  cases a.compare? b with
  | none => exact ⟨rfl, rfl⟩
  | some o => cases o <;> exact ⟨rfl, rfl⟩

/-- The comparisons agree with one another. Equality does not depend on which value comes first, and
the orders turn round with the values. Of two values that are strings, numbers or truth values at most
one of less, equal and greater holds, one does unless they are compared as numbers and one of them is no
number, and the two weak orders are the strict ones or equality. No order holds of any other values. -/
theorem coherent (a b : Value) :
    (eq.holds a b = eq.holds b a ∧ neq.holds a b = !eq.holds a b ∧
      lt.holds a b = gt.holds b a ∧ lte.holds a b = gte.holds b a) ∧
    (a.IsAtom → b.IsAtom →
      (¬(lt.holds a b ∧ eq.holds a b) ∧ ¬(lt.holds a b ∧ gt.holds a b) ∧
        ¬(eq.holds a b ∧ gt.holds a b)) ∧
      (lt.holds a b ∨ eq.holds a b ∨ gt.holds a b ↔ ¬a.ComparedAsNan b) ∧
      (lte.holds a b ↔ lt.holds a b ∨ eq.holds a b) ∧
      (gte.holds a b ↔ gt.holds a b ∨ eq.holds a b)) ∧
    (¬a.IsAtom ∨ ¬b.IsAtom →
      lt.holds a b = false ∧ lte.holds a b = false ∧ gt.holds a b = false ∧
        gte.holds a b = false) := by
  refine ⟨⟨Value.looseEq_comm a b, rfl, holds_swap a b⟩, fun ha hb => ?_, fun h => ?_⟩
  · have hnone : a.compare? b = none ↔ a.ComparedAsNan b := by
      rw [Value.compare?_eq_none_iff]
      simp [ha, hb]
    unfold holds
    rw [← hnone, Value.looseEq_of_isAtom ha hb]
    cases a.compare? b with
    | none => simp
    | some o => cases o <;> simp
  · have hnone : a.compare? b = none := Value.compare?_eq_none_iff.2 (by tauto)
    unfold holds
    rw [hnone]
    exact ⟨rfl, rfl, rfl, rfl⟩

/-- A numeral of the other zero and zero, and null beside zero. -/
theorem coherent_numeral :
    let a : Value := .string " -0"
    let b : Value := .number Double.zero
    (a.IsAtom ∧ b.IsAtom ∧ ¬Value.null.IsAtom) ∧
    (eq.holds a b ∧ ¬lt.holds a b ∧ ¬gt.holds a b ∧ ¬a.ComparedAsNan b ∧ lte.holds a b ∧
      gte.holds a b) ∧
    lte.holds .null b = false := by
  intro a b
  have heq : eq.holds a b := by cbv
  obtain ⟨⟨hlt, -, hgt⟩, hone, hlte, hgte⟩ := (coherent a b).2.1 trivial trivial
  have hnull := (coherent .null b).2.2 (.inl id)
  exact ⟨⟨trivial, trivial, id⟩, ⟨heq, fun h => hlt ⟨h, heq⟩, fun h => hgt ⟨heq, h⟩,
    hone.1 (.inr (.inl heq)), hlte.2 (.inr heq), hgte.2 (.inr heq)⟩, hnull.2.1⟩

end Comparison

end Wireflow
