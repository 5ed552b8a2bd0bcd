/-
Places in a value. A container has slots: two keys name the same slot of an object when they have the
same text, and of an array when they have the same position. Two lists of keys lead to the same place
when they take the same slot of every container on the way, and one departs from the other where it
takes a different one.

What stands at a place can be replaced. The new value is found there by all keys that lead to it, and
keys that depart find what they did.
-/
import Wireflow.Proofs.Path.Writing

namespace Wireflow

namespace Value

variable {v c d : Value} {k k' : Key}

/-! ## Slots -/

theorem child?_array_eq_some_iff {items : List Value} :
    (array items).child? k = some c ↔ ∃ i, k.position? = some i ∧ items[i]? = some c := by
  rw [child?_array]
  exact Option.bind_eq_some_iff

theorem lookupIn?_cons_eq_some_iff {rest : List Key} :
    v.lookupIn? (k :: rest) = some d ↔ ∃ c, v.child? k = some c ∧ c.lookupIn? rest = some d := by
  rw [lookupIn?_cons]
  exact Option.bind_eq_some_iff

/-- Two keys name the same slot of a value. Only objects and arrays have slots. -/
def SameSlot (v : Value) (k k' : Key) : Prop :=
  match v with
  | .object _ => k.text = k'.text
  | .array _ => k.position? = k'.position?
  | _ => True

theorem SameSlot.refl (v : Value) (k : Key) : v.SameSlot k k := by
  cases v <;> first | rfl | trivial

theorem SameSlot.child?_eq (h : v.SameSlot k k') : v.child? k' = v.child? k := by
  cases v with
  | object m =>
    rw [child?_object, child?_object]
    exact congrArg (Table.get? · m) h.symm
  | array items =>
    rw [child?_array, child?_array]
    exact congrArg (·.bind (items[·]?)) h.symm
  | _ => rfl

theorem SameSlot.setChild_eq (h : v.SameSlot k k') (c : Value) :
    v.setChild k' c = v.setChild k c := by
  cases v with
  | object m =>
    unfold Value.setChild
    rw [show k.text = k'.text from h]
  | array items =>
    unfold Value.setChild
    rw [show k.position? = k'.position? from h]
  | _ => rfl

theorem SameSlot.setChild (h : v.SameSlot k k') (k₀ : Key) (c : Value) :
    (v.setChild k₀ c).SameSlot k k' := by
  cases v with
  | array items =>
    unfold Value.setChild
    cases k₀.position? <;> exact h
  | _ => exact h

theorem child?_setChild (h : v.child? k = some d) (c : Value) :
    (v.setChild k c).child? k = some c := by
  cases v with
  | object m => exact Table.get?_insert_self k.text c m
  | array items =>
    obtain ⟨i, hi, hitem⟩ := child?_array_eq_some_iff.1 h
    unfold Value.setChild
    rw [hi, child?_array, hi, Option.bind_some]
    exact List.getElem?_set_self (List.getElem?_eq_some_iff.1 hitem).1
  | _ => cases h

theorem child?_setChild_of_not_sameSlot (h : ¬v.SameSlot k k') (c : Value) :
    (v.setChild k c).child? k' = v.child? k' := by
  cases v with
  | object m => exact Table.get?_insert_of_ne (fun he => h he.symm) c m
  | array items =>
    unfold Value.setChild
    cases hi : k.position? with
    | none => rfl
    | some i =>
      rw [child?_array, child?_array]
      cases hj : k'.position? with
      | none => rfl
      | some j =>
        rw [Option.bind_some, Option.bind_some]
        refine List.getElem?_set_ne fun he => h (hi.trans ?_)
        rw [he, hj]
  | _ => exact absurd trivial h

theorem setChild_setChild (v : Value) (k : Key) (c d : Value) :
    (v.setChild k c).setChild k d = v.setChild k d := by
  cases v with
  | object m => exact congrArg object (Table.insert_insert k.text c d m)
  | array items =>
    unfold Value.setChild
    cases k.position? with
    | none => rfl
    | some i => exact congrArg array (List.set_set c)
  | _ => rfl

/-! ## Places -/

/-- Two lists of keys take the same slot of every container on the way. -/
def SamePlace : Value → List Key → List Key → Prop
  | _, [], [] => True
  | v, k :: rest, k' :: rest' =>
    v.SameSlot k k' ∧ ∀ c, v.child? k = some c → c.SamePlace rest rest'
  | _, _, _ => False

/-- Two lists of keys take different slots of some container on the way. -/
def Departs : Value → List Key → List Key → Prop
  | v, k :: rest, k' :: rest' =>
    ¬v.SameSlot k k' ∨ ∃ c, v.child? k = some c ∧ c.Departs rest rest'
  | _, _, _ => False

/-- A list of keys leads to a place on the way along others. -/
def OnRoute (v : Value) (keys other : List Key) : Prop :=
  ∃ before, before <+: keys ∧ v.SamePlace before other

theorem lookupIn?_singleton (v : Value) (k : Key) : v.lookupIn? [k] = v.child? k := by
  rw [lookupIn?_cons]
  cases v.child? k <;> rfl

theorem lookupIn?_append (v : Value) (keys more : List Key) :
    v.lookupIn? (keys ++ more) = (v.lookupIn? keys).bind (·.lookupIn? more) := by
  induction keys generalizing v with
  | nil => rfl
  | cons k rest ih =>
    rw [List.cons_append, lookupIn?_cons, lookupIn?_cons]
    cases v.child? k with
    | none => rfl
    | some c => exact ih c

theorem SamePlace.cons {rest rest' : List Key} (hslot : v.SameSlot k k') (hc : v.child? k = some c)
    (h : c.SamePlace rest rest') : v.SamePlace (k :: rest) (k' :: rest') := by
  refine ⟨hslot, fun c' hc' => ?_⟩
  obtain rfl : c = c' := Option.some.inj (hc.symm.trans hc')
  exact h

theorem Departs.below {rest rest' : List Key} (h : v.Departs (k :: rest) (k' :: rest'))
    (hslot : v.SameSlot k k') (hc : v.child? k = some c) : c.Departs rest rest' := by
  obtain ⟨c', hc', hdeparts⟩ := h.resolve_left fun hne => hne hslot
  obtain rfl : c = c' := Option.some.inj (hc.symm.trans hc')
  exact hdeparts

theorem SamePlace.refl (v : Value) (keys : List Key) : v.SamePlace keys keys := by
  induction keys generalizing v with
  | nil => trivial
  | cons k rest ih => exact ⟨.refl v k, fun c _ => ih c⟩

theorem SamePlace.lookupIn?_eq {keys keys' : List Key} (h : v.SamePlace keys keys') :
    v.lookupIn? keys' = v.lookupIn? keys := by
  induction keys generalizing v keys' with
  | nil =>
    cases keys' with
    | nil => rfl
    | cons _ _ => cases h
  | cons k rest ih =>
    cases keys' with
    | nil => cases h
    | cons k' rest' =>
      obtain ⟨hslot, hrest⟩ := h
      rw [lookupIn?_cons, lookupIn?_cons, hslot.child?_eq]
      cases hc : v.child? k with
      | none => rfl
      | some c => exact ih (hrest c hc)

/-- Keys that lead where something stands, as others and one more do, lead first to the place of the
others and then into the same slot. -/
theorem SamePlace.of_append {keys keys' : List Key} (h : v.SamePlace (keys ++ [k]) keys')
    (hc : v.lookupIn? keys = some c) (hd : c.child? k = some d) :
    ∃ before last, keys' = before ++ [last] ∧ v.SamePlace keys before ∧ c.SameSlot k last := by
  induction keys generalizing v keys' with
  | nil =>
    cases hc
    match keys' with
    | [] => cases h
    | [last] => exact ⟨[], last, rfl, trivial, h.1⟩
    | _ :: _ :: _ => cases h.2 d hd
  | cons k₀ rest ih =>
    obtain ⟨c₀, hc₀, hc⟩ := lookupIn?_cons_eq_some_iff.1 hc
    cases keys' with
    | nil => cases h
    | cons k' rest' =>
      obtain ⟨before, last, rfl, hplace, hslot⟩ := ih (h.2 c₀ hc₀) hc
      exact ⟨k' :: before, last, rfl, .cons h.1 hc₀ hplace, hslot⟩

/-- Keys that depart from others and one more key do so before the last, or take another slot there. -/
theorem Departs.of_append {keys other : List Key} (h : v.Departs (keys ++ [k]) other)
    (hc : v.lookupIn? keys = some c) :
    v.Departs keys other ∨ ∃ before k' more, other = before ++ k' :: more ∧
      v.SamePlace keys before ∧ ¬c.SameSlot k k' := by
  induction keys generalizing v other with
  | nil =>
    cases hc
    cases other with
    | nil => cases h
    | cons k' more =>
      rcases h with hslot | ⟨d, -, hd⟩
      · exact .inr ⟨[], k', more, rfl, trivial, hslot⟩
      · cases more <;> cases hd
  | cons k₀ rest ih =>
    obtain ⟨c₀, hc₀, hc⟩ := lookupIn?_cons_eq_some_iff.1 hc
    cases other with
    | nil => cases h
    | cons k' rest' =>
      by_cases hslot : v.SameSlot k₀ k'
      · rcases ih (h.below hslot hc₀) hc with hdeparts | ⟨before, k'', more, rfl, hplace, hne⟩
        · exact .inl (.inr ⟨c₀, hc₀, hdeparts⟩)
        · exact .inr ⟨k' :: before, k'', more, rfl, .cons hslot hc₀ hplace, hne⟩
      · exact .inl (.inl hslot)

/-! ## Replacing -/

/-- A value with another one in place of what stands at a list of keys. -/
def replaceIn : Value → List Key → Value → Value
  | _, [], new => new
  | v, k :: rest, new =>
    match v.child? k with
    | some c => v.setChild k (c.replaceIn rest new)
    | none => v

theorem replaceIn_cons (h : v.child? k = some c) (rest : List Key) (new : Value) :
    v.replaceIn (k :: rest) new = v.setChild k (c.replaceIn rest new) := by
  rw [replaceIn, h]

/-- The new value is found by all keys that lead to its place. -/
theorem lookupIn?_replaceIn {keys keys' : List Key} (hplace : v.SamePlace keys keys')
    (hc : v.lookupIn? keys = some c) (new : Value) :
    (v.replaceIn keys new).lookupIn? keys' = some new := by
  induction keys generalizing v keys' with
  | nil =>
    cases keys' with
    | nil => rfl
    | cons _ _ => cases hplace
  | cons k rest ih =>
    obtain ⟨c₀, hc₀, hc⟩ := lookupIn?_cons_eq_some_iff.1 hc
    cases keys' with
    | nil => cases hplace
    | cons k' rest' =>
      rw [replaceIn_cons hc₀, lookupIn?_cons, (hplace.1.setChild k _).child?_eq,
        child?_setChild hc₀]
      exact ih (hplace.2 c₀ hc₀) hc

/-- Keys that depart from the place find what they did. -/
theorem lookupIn?_replaceIn_of_departs {keys other : List Key} (h : v.Departs keys other)
    (new : Value) : (v.replaceIn keys new).lookupIn? other = v.lookupIn? other := by
  induction keys generalizing v other with
  | nil => cases h
  | cons k rest ih =>
    cases other with
    | nil => cases h
    | cons k' rest' =>
      cases hc : v.child? k with
      | none => rw [replaceIn, hc]
      | some c =>
        rw [replaceIn_cons hc, lookupIn?_cons, lookupIn?_cons]
        by_cases hslot : v.SameSlot k k'
        · rw [(hslot.setChild k _).child?_eq, child?_setChild hc, hslot.child?_eq, hc]
          exact ih (h.below hslot hc)
        · rw [child?_setChild_of_not_sameSlot hslot]

/-- The later of two replacements at one place counts. -/
theorem replaceIn_replaceIn {keys keys' : List Key} (hplace : v.SamePlace keys keys')
    (hc : v.lookupIn? keys = some c) (a b : Value) :
    (v.replaceIn keys a).replaceIn keys' b = v.replaceIn keys b := by
  induction keys generalizing v keys' with
  | nil =>
    cases keys' with
    | nil => rfl
    | cons _ _ => cases hplace
  | cons k rest ih =>
    obtain ⟨c₀, hc₀, hc⟩ := lookupIn?_cons_eq_some_iff.1 hc
    cases keys' with
    | nil => cases hplace
    | cons k' rest' =>
      have hslot := hplace.1.setChild k (c₀.replaceIn rest a)
      have hthere := hslot.child?_eq.trans (child?_setChild hc₀ (c₀.replaceIn rest a))
      rw [replaceIn_cons hc₀, replaceIn_cons hc₀, replaceIn_cons hthere, hslot.setChild_eq,
        setChild_setChild, ih (hplace.2 c₀ hc₀) hc]

end Value

namespace Entries

/-- Two lists of keys lead to the same place in the entries. -/
def SamePlace (root : Entries) (keys keys' : List Key) : Prop :=
  (Value.object root).SamePlace keys keys'

/-- Two lists of keys part at some container of the entries, or at the entries themselves. -/
def Departs (root : Entries) (keys other : List Key) : Prop :=
  (Value.object root).Departs keys other

/-- A list of keys leads to a place of the entries on the way along others. -/
def OnRoute (root : Entries) (keys other : List Key) : Prop :=
  (Value.object root).OnRoute keys other

variable {root : Entries} {keys other : List Key}

theorem ne_nil_of_lookup? {x : Value} (h : root.lookup? keys = some x) : keys ≠ [] := by
  rintro rfl
  cases h

theorem ne_nil_of_departs (h : root.Departs keys other) : keys ≠ [] ∧ other ≠ [] := by
  cases keys with
  | nil => cases h
  | cons k rest =>
    cases other with
    | nil => cases h
    | cons k' rest' => exact ⟨List.cons_ne_nil k rest, List.cons_ne_nil k' rest'⟩

/-- Entries are looked up in as the object of them. -/
theorem lookup?_eq (root : Entries) (h : keys ≠ []) :
    root.lookup? keys = (Value.object root).lookupIn? keys := by
  cases keys with
  | nil => exact absurd rfl h
  | cons k rest => rfl

end Entries

end Wireflow
