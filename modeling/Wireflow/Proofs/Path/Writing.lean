/-
What a write leaves alone that does not reach its end, and what a removal takes out. A write makes the
containers that are missing on its way: null becomes a container, and arrays are filled up with nulls.
One that fails has done no more than that, so whatever stood anywhere still stands there, and nothing
but nulls and containers has been added.
-/
import Wireflow.Path.Access
import Mathlib.Tactic

namespace Wireflow

namespace Value

/-- Neither null nor a container. -/
def IsScalar : Value → Prop
  | .null | .array _ | .object _ => False
  | _ => True

/-- What stands in the place of a value is still that value: null may have become anything, a
container is one of the same kind, and all others are the same. -/
def Lasts : Value → Value → Prop
  | .null, _ => True
  | .array _, .array _ => True
  | .object _, .object _ => True
  | v, w => w = v

/-- A value keeps another one: whatever stands below the other at some keys lasts at the same keys, and
no text, number, truth value or bytes stand where they did not. -/
structure Keeps (v w : Value) : Prop where
  lasts : ∀ keys x, v.lookupIn? keys = some x → ∃ y, w.lookupIn? keys = some y ∧ x.Lasts y
  adds : ∀ keys y, w.lookupIn? keys = some y → y.IsScalar → v.lookupIn? keys = some y

theorem Lasts.refl (v : Value) : v.Lasts v := by
  cases v <;> trivial

theorem Lasts.trans {u v w : Value} (h : u.Lasts v) (h' : v.Lasts w) : u.Lasts w := by
  cases u with
  | null => trivial
  | array items =>
    cases v with
    | array items' =>
      cases w with
      | array _ => trivial
      | _ => cases h'
    | _ => cases h
  | object m =>
    cases v with
    | object m' =>
      cases w with
      | object _ => trivial
      | _ => cases h'
    | _ => cases h
  | _ =>
    -- all others are the same in the middle
    obtain rfl := h
    exact h'

theorem Keeps.refl (v : Value) : v.Keeps v :=
  ⟨fun _ x h => ⟨x, h, .refl x⟩, fun _ _ h _ => h⟩

theorem Keeps.trans {u v w : Value} (h : u.Keeps v) (h' : v.Keeps w) : u.Keeps w := by
  refine ⟨fun keys x hx => ?_, fun keys z hz hs => h.adds keys z (h'.adds keys z hz hs) hs⟩
  obtain ⟨y, hy, hxy⟩ := h.lasts keys x hx
  obtain ⟨z, hz, hyz⟩ := h'.lasts keys y hy
  exact ⟨z, hz, hxy.trans hyz⟩

theorem lookupIn?_cons (v : Value) (k : Key) (rest : List Key) :
    v.lookupIn? (k :: rest) = (v.child? k).bind (·.lookupIn? rest) := by
  rw [lookupIn?]
  cases v.child? k <;> rfl

theorem child?_object (m : Entries) (k : Key) : (object m).child? k = Table.get? k.text m := rfl

theorem child?_array (items : List Value) (k : Key) :
    (array items).child? k = k.position?.bind (items[·]?) := by
  simp only [child?]
  cases k.position? <;> rfl

/-- The part at a key, null for none. -/
def part (v : Value) (k : Key) : Value :=
  (v.child? k).getD .null

/-- Nothing but null itself stands below null. -/
theorem not_scalar_below_null {keys : List Key} {y : Value}
    (h : lookupIn? .null keys = some y) : ¬y.IsScalar := by
  cases keys with
  | nil =>
    cases h
    exact id
  | cons k rest => cases h

/-- Whether a value is kept can be seen from its parts. -/
theorem Keeps.of_parts {v w : Value} (hlasts : v.Lasts w) (hscalar : ¬w.IsScalar)
    (hthere : ∀ k, (v.child? k).isSome → (w.child? k).isSome)
    (hparts : ∀ k, (v.part k).Keeps (w.part k)) : v.Keeps w := by
  refine ⟨fun keys x hx => ?_, fun keys y hy hs => ?_⟩
  · cases keys with
    | nil =>
      cases hx
      exact ⟨w, rfl, hlasts⟩
    | cons k rest =>
      rw [lookupIn?_cons] at hx
      obtain ⟨c, hc, hx⟩ := Option.bind_eq_some_iff.1 hx
      obtain ⟨d, hd⟩ := Option.isSome_iff_exists.1 (hthere k (Option.isSome_of_mem hc))
      have hpart := hparts k
      unfold part at hpart
      rw [hc, hd] at hpart
      rw [lookupIn?_cons, hd]
      exact hpart.lasts rest x hx
  · cases keys with
    | nil =>
      cases hy
      exact absurd hs hscalar
    | cons k rest =>
      rw [lookupIn?_cons] at hy ⊢
      obtain ⟨d, hd, hy⟩ := Option.bind_eq_some_iff.1 hy
      have hpart := hparts k
      unfold part at hpart
      rw [hd] at hpart
      have hold := hpart.adds rest y hy hs
      cases hc : v.child? k with
      | some c =>
        rw [hc] at hold
        exact hold
      | none =>
        -- a part that was missing counts as null, and no scalar stands below that
        rw [hc] at hold
        exact absurd hs (not_scalar_below_null hold)

/-! ## Writes that fail -/

/-- Turning null into a container keeps all there is. -/
theorem keeps_opened (v : Value) (k : Key) : v.Keeps (v.opened k) := by
  cases v with
  | null =>
    refine .of_parts trivial ?_ (fun _ h => by cases h) (fun k' => ?_)
    · cases k <;> exact id
    · have hnone : (opened k .null).child? k' = none := by
        cases k with
        | name s => rfl
        | index i =>
          show (array []).child? k' = none
          rw [child?_array]
          cases k'.position? <;> rfl
      rw [part, part, hnone]
      exact .refl .null
  | _ => exact .refl _

theorem keeps_object {m : Entries} {name : String} {c : Value}
    (h : ((Table.get? name m).getD .null).Keeps c) :
    (object m).Keeps (object (Table.insert name c m)) := by
  have hget : ∀ k : Key, (object (Table.insert name c m)).child? k =
      if k.text = name then some c else (object m).child? k := by
    intro k
    rw [child?_object, child?_object]
    split
    · rename_i hk
      rw [hk, Table.get?_insert_self]
    · rename_i hk
      exact Table.get?_insert_of_ne hk c m
  refine .of_parts trivial id (fun k hk => ?_) (fun k => ?_)
  · rw [hget]
    split
    · rfl
    · exact hk
  · rw [part, part, hget]
    split
    · rename_i hk
      rw [← hk] at h
      exact h
    · exact .refl _

/-- The nulls that an array is filled up with are no more than what a missing item counts as. -/
theorem getD_padded (items : List Value) (i j : Nat) :
    (padded items i)[j]?.getD .null = items[j]?.getD .null := by
  unfold padded
  by_cases hj : j < items.length
  · rw [List.getElem?_append_left hj]
  · rw [List.getElem?_append_right (not_lt.1 hj), List.getElem?_eq_none (not_lt.1 hj),
      List.getElem?_replicate]
    split <;> rfl

theorem keeps_array {items : List Value} {i : Nat} {c : Value}
    (h : ((padded items i)[i]?.getD .null).Keeps c) :
    (array items).Keeps (array ((padded items i).set i c)) := by
  have hlength : i < (padded items i).length := by
    unfold padded
    rw [List.length_append, List.length_replicate]
    omega
  refine .of_parts trivial id (fun k hk => ?_) (fun k => ?_)
  · rw [child?_array] at hk ⊢
    cases hj : k.position? with
    | none => simp [hj] at hk
    | some j =>
      rw [hj] at hk
      have hlt : j < items.length := by simpa using hk
      have hle : items.length ≤ (padded items i).length := by
        unfold padded
        rw [List.length_append]
        omega
      simpa using lt_of_lt_of_le hlt hle
  · rw [part, part, child?_array, child?_array]
    cases k.position? with
    | none => exact .refl _
    | some j =>
      rw [Option.bind_some, Option.bind_some]
      by_cases hij : i = j
      · subst hij
        rw [List.getElem?_set_self hlength, Option.getD_some, ← getD_padded items i i]
        exact h
      · rw [List.getElem?_set_ne hij, getD_padded]
        exact .refl _

/-- A write that fails keeps all there is. -/
theorem keeps_assignIn (new : Value) (keys : List Key) :
    ∀ {v : Value}, (assignIn new v keys).1 = false → v.Keeps (assignIn new v keys).2 := by
  induction keys with
  | nil =>
    intro v h
    cases h
  | cons k rest ih =>
    intro v h
    refine (keeps_opened v k).trans ?_
    unfold assignIn at h ⊢
    cases hv : v.opened k with
    | object m =>
      rw [hv] at h
      exact keeps_object (ih h)
    | array items =>
      rw [hv] at h
      dsimp only at h ⊢
      cases hi : k.position? with
      | none => exact .refl _
      | some i =>
        rw [hi] at h
        dsimp only at h ⊢
        split
        · rename_i hreach
          rw [if_pos hreach] at h
          exact keeps_array (ih h)
        · exact .refl _
    | _ => exact .refl _

/-! ## Removals -/

theorem fst_takeChild? (v : Value) (k : Key) : (v.takeChild? k).map (·.1) = v.child? k := by
  cases v with
  | object m =>
    rw [child?_object, takeChild?]
    cases Table.get? k.text m <;> rfl
  | array items =>
    rw [child?_array, takeChild?]
    cases k.position? with
    | none => rfl
    | some i =>
      dsimp only [Option.bind_some]
      cases items[i]? <;> rfl
  | _ => rfl

/-- What a removal takes out is what stands at its keys. -/
theorem fst_removeIn? (keys : List Key) (hkeys : keys ≠ []) :
    ∀ v : Value, (v.removeIn? keys).map (·.1) = v.lookupIn? keys := by
  induction keys with
  | nil => exact absurd rfl hkeys
  | cons k rest ih =>
    intro v
    rw [lookupIn?_cons]
    cases rest with
    | nil =>
      show (v.takeChild? k).map (·.1) = _
      rw [fst_takeChild?]
      cases v.child? k <;> rfl
    | cons k' rest =>
      simp only [removeIn?]
      cases v.child? k with
      | none => rfl
      | some c =>
        have hc := ih (List.cons_ne_nil k' rest) c
        dsimp only [Option.bind_some]
        rw [← hc]
        cases c.removeIn? (k' :: rest) <;> rfl

end Value

namespace Entries

/-- Entries keep others as the object of them does. -/
def Keeps (before after : Entries) : Prop :=
  (Value.object before).Keeps (.object after)

theorem keeps_assign {root : Entries} {keys : List Key} {new : Value}
    (h : (root.assign keys new).1 = false) : root.Keeps (root.assign keys new).2 := by
  cases keys with
  | nil => exact .refl _
  | cons first rest => exact Value.keeps_object (Value.keeps_assignIn new rest h)

theorem fst_remove (root : Entries) (keys : List Key) :
    (root.remove keys).1 = root.lookup? keys := by
  match keys with
  | [] => rfl
  | [last] =>
    show Table.get? last.text root = root.lookup? [last]
    rw [lookup?]
    cases Table.get? last.text root <;> rfl
  | first :: second :: rest =>
    simp only [remove, lookup?]
    cases Table.get? first.text root with
    | none => rfl
    | some v =>
      have hv := Value.fst_removeIn? (second :: rest) (List.cons_ne_nil _ _) v
      dsimp only
      rw [← hv]
      cases v.removeIn? (second :: rest) <;> rfl

end Entries

end Wireflow
