/-
Values whose objects list their entries in the order of the names, at every depth. In such a value it
cannot be told how often a part has been replaced by itself, and an entry that has been taken out can be
put back. What is written into it keeps the order when the written value has it.
-/
import Wireflow.Proofs.Path.Assigning
import Wireflow.Proofs.Table

namespace Wireflow

namespace Value

variable {v c x new : Value} {k : Key} {keys : List Key}

/-- Wherever an object stands in the value, its names ascend. -/
def Ordered (v : Value) : Prop :=
  ∀ keys m, v.lookupIn? keys = some (.object m) → Table.Sorted m

theorem Ordered.lookupIn? (h : v.Ordered) (hx : v.lookupIn? keys = some x) : x.Ordered := by
  intro more m hm
  refine h (keys ++ more) m ?_
  rw [lookupIn?_append, hx]
  exact hm

theorem Ordered.child? (h : v.Ordered) (hc : v.child? k = some c) : c.Ordered :=
  h.lookupIn? ((lookupIn?_singleton v k).trans hc)

theorem Ordered.sorted {m : Entries} (h : (object m).Ordered) : Table.Sorted m :=
  h [] m rfl

/-- The order can be seen from the names of the value itself and from its parts. -/
theorem ordered_of_parts (hsorted : ∀ m, v = .object m → Table.Sorted m)
    (hparts : ∀ k c, v.child? k = some c → c.Ordered) : v.Ordered := by
  intro keys m hm
  cases keys with
  | nil => exact hsorted m (Option.some.inj hm)
  | cons k rest =>
    obtain ⟨c, hc, hm⟩ := lookupIn?_cons_eq_some_iff.1 hm
    exact hparts k c hc rest m hm

theorem ordered_null : Ordered .null :=
  ordered_of_parts nofun nofun

theorem IsScalar.ordered (h : v.IsScalar) : v.Ordered := by
  refine ordered_of_parts ?_ ?_
  · rintro m rfl
    cases h
  · intro k c hc
    cases v <;> first | cases hc | cases h

theorem ordered_object {m : Entries} (hsorted : Table.Sorted m) (h : ∀ e ∈ m, e.2.Ordered) :
    (object m).Ordered := by
  refine ordered_of_parts ?_ fun k c hc => h (k.text, c) (Table.mem_of_get?_eq_some hc)
  rintro _ ⟨⟩
  exact hsorted

theorem ordered_array {items : List Value} (h : ∀ x ∈ items, x.Ordered) : (array items).Ordered := by
  refine ordered_of_parts nofun fun k c hc => ?_
  obtain ⟨i, -, hitem⟩ := child?_array_eq_some_iff.1 hc
  exact h c (List.mem_of_getElem? hitem)

/-! ## Replacing a part by itself -/

theorem Ordered.setChild_self (h : v.Ordered) (hc : v.child? k = some c) : v.setChild k c = v := by
  cases v with
  | object m => exact congrArg object (h.sorted.insert_of_get? hc)
  | array items =>
    obtain ⟨i, hi, hitem⟩ := child?_array_eq_some_iff.1 hc
    obtain ⟨hlt, rfl⟩ := List.getElem?_eq_some_iff.1 hitem
    unfold setChild
    rw [hi]
    exact congrArg array (List.set_getElem_self hlt)
  | _ => rfl

theorem Ordered.replaceIn_self (h : v.Ordered) (hc : v.lookupIn? keys = some c) :
    v.replaceIn keys c = v := by
  induction keys generalizing v with
  | nil => exact (Option.some.inj hc).symm
  | cons k rest ih =>
    obtain ⟨c₀, hc₀, hc⟩ := lookupIn?_cons_eq_some_iff.1 hc
    rw [replaceIn_cons hc₀, ih (h.child? hc₀) hc, h.setChild_self hc₀]

/-! ## Writing -/

theorem Ordered.opened (h : v.Ordered) (k : Key) : (v.opened k).Ordered := by
  cases v with
  | null =>
    cases k with
    | index i => exact ordered_array nofun
    | name s => exact ordered_object List.Pairwise.nil nofun
  | _ => exact h

theorem Ordered.part (h : v.Ordered) (k : Key) : (v.part k).Ordered := by
  unfold Value.part
  cases hc : v.child? k with
  | none => exact ordered_null
  | some c => exact h.child? hc

theorem Ordered.put (h : v.Ordered) (k : Key) (hc : c.Ordered) : (v.put k c).Ordered := by
  cases v with
  | object m =>
    refine ordered_of_parts ?_ fun k' d hd => ?_
    · rintro _ ⟨⟩
      exact h.sorted.insert k.text c
    · rw [Value.put, child?_object] at hd
      by_cases hk : k'.text = k.text
      · rw [hk, Table.get?_insert_self] at hd
        exact Option.some.inj hd ▸ hc
      · rw [Table.get?_insert_of_ne hk] at hd
        exact h.child? (k := k') hd
  | array items =>
    unfold Value.put
    cases k.position? with
    | none => exact h
    | some i =>
      refine ordered_array fun x hx => ?_
      rcases List.mem_or_eq_of_mem_set hx with hx | rfl
      · -- an item that was there, or a null that the items have been filled up with
        unfold padded at hx
        rcases List.mem_append.1 hx with hx | hx
        · obtain ⟨j, hj⟩ := List.getElem?_of_mem hx
          have hj' : (Key.index j).position? = some j := rfl
          exact h.child? (child?_array_eq_some_iff.2 ⟨j, hj', hj⟩)
        · rw [List.eq_of_mem_replicate hx]
          exact ordered_null
      · exact hc
  | _ => exact h

/-- A write keeps the order, whether or not it reaches its end. -/
theorem Ordered.assignIn (hnew : new.Ordered) (keys : List Key) :
    ∀ {v : Value}, v.Ordered → (assignIn new v keys).2.Ordered := by
  induction keys with
  | nil => exact fun _ => hnew
  | cons k rest ih =>
    intro v h
    rw [assignIn_cons]
    split
    · exact (h.opened k).put k (ih ((h.opened k).part k))
    · exact h.opened k

/-! ## Writes that change nothing -/

/-- Keys run into something that is not null and that a write cannot go on in. -/
def Blocked (v : Value) (keys : List Key) : Prop :=
  ∃ before k after x, keys = before ++ k :: after ∧ v.lookupIn? before = some x ∧ x ≠ .null ∧
    x.admits k = false

theorem opened_of_ne_null (h : v ≠ .null) (k : Key) : v.opened k = v := by
  cases v with
  | null => exact absurd rfl h
  | _ => rfl

/-- A write that is blocked changes nothing. -/
theorem Ordered.snd_assignIn_of_blocked (h : v.Ordered) (hblocked : v.Blocked keys) (new : Value) :
    (Value.assignIn new v keys).2 = v := by
  obtain ⟨before, k, after, x, rfl, hx, hnull, hrefused⟩ := hblocked
  have hstep : Value.assignIn new x (k :: after) = (false, x) := by
    rw [assignIn_cons, opened_of_ne_null hnull, hrefused, if_neg Bool.false_ne_true]
  rw [assignIn_append new before _ hx, hstep]
  exact h.replaceIn_self hx

theorem put_ne_null (h : v ≠ .null) (k : Key) (c : Value) : v.put k c ≠ .null := by
  cases v with
  | null => exact absurd rfl h
  | array items =>
    unfold Value.put
    cases k.position? <;> exact nofun
  | _ => exact nofun

theorem opened_ne_null (v : Value) (k : Key) : v.opened k ≠ .null := by
  cases v with
  | null => cases k <;> exact nofun
  | _ => exact nofun

/-- A write that does not reach its end and changes nothing is blocked: otherwise it has opened a null,
or made the slot in which it stops. -/
theorem blocked_of_snd_assignIn (new : Value) (keys : List Key) :
    ∀ {v : Value}, (Value.assignIn new v keys).1 = false → (Value.assignIn new v keys).2 = v →
      v.Blocked keys := by
  induction keys with
  | nil =>
    intro v h
    cases h
  | cons k rest ih =>
    intro v h hsame
    rw [assignIn_cons] at h hsame
    have hnull : v ≠ .null := by
      rintro rfl
      split at hsame
      · exact put_ne_null (opened_ne_null .null k) k _ hsame
      · exact opened_ne_null .null k hsame
    rw [opened_of_ne_null hnull] at h hsame
    by_cases hadmits : v.admits k = true
    · rw [if_pos hadmits] at h hsame
      -- what the write has put into the slot is what stood there
      have hput := child?_put hadmits (Value.assignIn new (v.part k) rest).2
      rw [show v.put k _ = v from hsame] at hput
      have hpart := part_of_child? hput
      rw [← hpart] at hput
      obtain ⟨before, k', after, x, rfl, hx, hrest⟩ := ih h hpart.symm
      refine ⟨k :: before, k', after, x, rfl, ?_, hrest⟩
      rw [lookupIn?_cons, hput]
      exact hx
    · exact ⟨[], k, rest, v, rfl, rfl, hnull, Bool.not_eq_true _ ▸ hadmits⟩

end Value

namespace Entries

/-- Wherever an object stands in the entries, its names ascend, and so do those of the entries. -/
def Ordered (root : Entries) : Prop :=
  (Value.object root).Ordered

theorem Ordered.assign {root : Entries} {new : Value} (h : root.Ordered) (hnew : new.Ordered)
    (keys : List Key) : (root.assign keys new).2.Ordered := by
  by_cases hkeys : keys = []
  · subst hkeys
    exact h
  · have hafter := hnew.assignIn keys h
    rw [assign_eq root hkeys] at hafter
    exact hafter

/-- Keys lead to no slot of the entries that could be written: there are no keys, or they run into
something that is not null and that a write cannot go on in. -/
def Blocked (root : Entries) (keys : List Key) : Prop :=
  keys = [] ∨ (Value.object root).Blocked keys

/-- A write that does not reach its end changes nothing exactly when it is blocked. -/
theorem snd_assign_eq_self_iff {root : Entries} {keys : List Key} {new : Value} (h : root.Ordered)
    (hstops : (root.assign keys new).1 = false) :
    (root.assign keys new).2 = root ↔ root.Blocked keys := by
  by_cases hkeys : keys = []
  · subst hkeys
    exact iff_of_true rfl (.inl rfl)
  · have hassign := assign_eq root hkeys new
    refine ⟨fun hsame => .inr (Value.blocked_of_snd_assignIn new keys ?_ ?_), fun hblocked => ?_⟩
    · rw [hassign]
      exact hstops
    · rw [hassign, hsame]
    · have hsame := h.snd_assignIn_of_blocked (hblocked.resolve_left hkeys) new
      rw [hassign] at hsame
      exact Value.object.inj hsame

end Entries

end Wireflow
