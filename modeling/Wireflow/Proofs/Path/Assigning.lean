/-
The laws of writing at a list of keys. A write opens null, and then either goes on in a slot, which it
makes when it is missing, or stops. One that reaches its end is found at its keys, leaves alone what
stands at keys that depart from its own, and is undone by the next write at the same keys. One that
does not reach its end has changed only nulls and the containers on its way.
-/
import Wireflow.Proofs.Path.Places

namespace Wireflow

namespace Value

variable {v c d new x : Value} {k k' : Key} {keys other : List Key}

/-- An array or an object. -/
def IsContainer : Value → Prop
  | .array _ | .object _ => True
  | _ => False

theorem isScalar_of_not_isContainer (hnull : x ≠ .null) (h : ¬x.IsContainer) : x.IsScalar := by
  cases x with
  | null => exact absurd rfl hnull
  | array items => exact absurd trivial h
  | object m => exact absurd trivial h
  | _ => trivial

theorem IsScalar.eq_of_lasts {y : Value} (hx : x.IsScalar) (h : x.Lasts y) : y = x := by
  cases x <;> first | exact h | cases hx

/-! ## One step -/

/-- A write can go on in the slot of a key. -/
def admits (v : Value) (k : Key) : Bool :=
  match v with
  | .object _ => true
  | .array items =>
    match k.position? with
    | some i => reaches items i
    | none => false
  | _ => false

/-- A container with a value in the slot of a key, which is made when it is missing. -/
def put (v : Value) (k : Key) (c : Value) : Value :=
  match v with
  | .object m => .object (Table.insert k.text c m)
  | .array items =>
    match k.position? with
    | some i => .array ((padded items i).set i c)
    | none => .array items
  | v => v

/-- What one step of a write does. -/
theorem assignIn_cons (new v : Value) (k : Key) (rest : List Key) :
    assignIn new v (k :: rest) =
      if (v.opened k).admits k then
        ((assignIn new ((v.opened k).part k) rest).1,
          (v.opened k).put k (assignIn new ((v.opened k).part k) rest).2)
      else (false, v.opened k) := by
  rw [assignIn]
  cases v.opened k with
  | array items =>
    unfold admits put part
    rw [child?_array]
    cases k.position? with
    | none => rfl
    | some i =>
      dsimp only [Option.bind_some]
      rw [getD_padded]
  | _ => rfl

theorem lt_length_padded (items : List Value) (i : Nat) : i < (padded items i).length := by
  unfold padded
  rw [List.length_append, List.length_replicate]
  omega

theorem padded_of_lt {items : List Value} {i : Nat} (h : i < items.length) :
    padded items i = items := by
  unfold padded
  rw [Nat.sub_eq_zero_of_le h, List.replicate_zero, List.append_nil]

theorem opened_of_child? (h : v.child? k' = some c) (k : Key) : v.opened k = v := by
  cases v with
  | null => cases h
  | _ => rfl

theorem opened_of_admits (h : v.admits k = true) : v.opened k = v := by
  cases v with
  | null => cases h
  | _ => rfl

theorem part_of_child? (h : v.child? k = some c) : v.part k = c := by
  rw [part, h, Option.getD_some]

theorem admits_of_child? (h : v.child? k = some c) : v.admits k = true := by
  cases v with
  | object m => rfl
  | array items =>
    obtain ⟨i, hi, hitem⟩ := child?_array_eq_some_iff.1 h
    have hlt : i < items.length := (List.getElem?_eq_some_iff.1 hitem).1
    simp [admits, hi, reaches, hlt]
  | _ => cases h

/-- Into a slot that is not empty a value is put in place of the one that stands there. -/
theorem put_eq_setChild (h : v.child? k = some d) (c : Value) : v.put k c = v.setChild k c := by
  cases v with
  | array items =>
    obtain ⟨i, hi, hitem⟩ := child?_array_eq_some_iff.1 h
    unfold put setChild
    rw [hi]
    dsimp only
    rw [padded_of_lt (List.getElem?_eq_some_iff.1 hitem).1]
  | _ => rfl

theorem child?_put (h : v.admits k = true) (c : Value) : (v.put k c).child? k = some c := by
  cases v with
  | object m => exact Table.get?_insert_self k.text c m
  | array items =>
    unfold put
    cases hi : k.position? with
    | none => simp [admits, hi] at h
    | some i =>
      rw [child?_array, hi, Option.bind_some]
      exact List.getElem?_set_self (lt_length_padded items i)
  | _ => cases h

theorem SameSlot.put (h : v.SameSlot k k') (k₀ : Key) (c : Value) : (v.put k₀ c).SameSlot k k' := by
  cases v with
  | array items =>
    unfold Value.put
    cases k₀.position? <;> exact h
  | _ => exact h

/-- What stands in another slot stays there. -/
theorem child?_put_of_not_sameSlot (h : ¬v.SameSlot k k') (hd : v.child? k' = some d) (c : Value) :
    (v.put k c).child? k' = some d := by
  cases v with
  | object m =>
    rw [← hd]
    exact Table.get?_insert_of_ne (fun he => h he.symm) c m
  | array items =>
    unfold put
    cases hi : k.position? with
    | none => exact hd
    | some i =>
      obtain ⟨j, hj, hitem⟩ := child?_array_eq_some_iff.1 hd
      have hij : i ≠ j := fun he => h (hi.trans (he ▸ hj.symm))
      have hlt : j < items.length := (List.getElem?_eq_some_iff.1 hitem).1
      refine child?_array_eq_some_iff.2 ⟨j, hj, ?_⟩
      unfold padded
      rw [List.getElem?_set_ne hij, List.getElem?_append_left hlt]
      exact hitem
  | _ => exact absurd trivial h

theorem admits_put (h : v.admits k = true) (c : Value) : (v.put k c).admits k = true :=
  admits_of_child? (child?_put h c)

theorem put_put (h : v.admits k = true) (c d : Value) : (v.put k c).put k d = v.put k d := by
  rw [put_eq_setChild (child?_put h c)]
  cases v with
  | object m => exact congrArg object (Table.insert_insert k.text c d m)
  | array items =>
    unfold put setChild
    cases hi : k.position? with
    | none => rfl
    | some i => exact congrArg array (List.set_set c)
  | _ => rfl

/-- A write goes on as it would in what stands at its first keys. -/
theorem assignIn_append (new : Value) (keys more : List Key) (h : v.lookupIn? keys = some c) :
    assignIn new v (keys ++ more) =
      ((assignIn new c more).1, v.replaceIn keys (assignIn new c more).2) := by
  induction keys generalizing v with
  | nil =>
    cases h
    rfl
  | cons k rest ih =>
    obtain ⟨d, hd, h⟩ := lookupIn?_cons_eq_some_iff.1 h
    rw [List.cons_append, assignIn_cons, opened_of_child? hd, if_pos (admits_of_child? hd),
      part_of_child? hd, ih h, replaceIn_cons hd, put_eq_setChild hd]

/-- A write where something stands puts the new value in its place. -/
theorem assignIn_of_lookupIn? (new : Value) (h : v.lookupIn? keys = some c) :
    assignIn new v keys = (true, v.replaceIn keys new) := by
  have happend := assignIn_append new keys [] h
  rwa [List.append_nil] at happend

/-! ## Reading what was written -/

theorem lookupIn?_assignIn (new : Value) (keys : List Key) :
    ∀ {v : Value}, (assignIn new v keys).1 = true →
      (assignIn new v keys).2.lookupIn? keys = some new := by
  induction keys with
  | nil => exact fun _ => rfl
  | cons k rest ih =>
    intro v h
    rw [assignIn_cons] at h ⊢
    split at h
    · rename_i hadmits
      rw [if_pos hadmits, lookupIn?_cons, child?_put hadmits]
      exact ih h
    · cases h

/-- What stands at keys that depart from those of a write stays there, whether or not the write reaches
its end. -/
theorem lookupIn?_assignIn_of_departs (new : Value) (keys : List Key) :
    ∀ {v : Value} {other : List Key}, v.Departs keys other → v.lookupIn? other = some x →
      (assignIn new v keys).2.lookupIn? other = some x := by
  induction keys with
  | nil =>
    intro v other h
    cases h
  | cons k rest ih =>
    intro v other h hx
    cases other with
    | nil => cases h
    | cons k' rest' =>
      obtain ⟨d, hd, hx⟩ := lookupIn?_cons_eq_some_iff.1 hx
      rw [assignIn_cons, opened_of_child? hd]
      by_cases hadmits : v.admits k = true
      · rw [if_pos hadmits, lookupIn?_cons]
        by_cases hslot : v.SameSlot k k'
        · -- the same slot here, so they depart further down
          have hc : v.child? k = some d := hslot.child?_eq ▸ hd
          rw [(hslot.put k _).child?_eq, child?_put hadmits, part_of_child? hc]
          exact ih (h.below hslot hc) hx
        · rw [child?_put_of_not_sameSlot hslot hd]
          exact hx
      · rw [if_neg hadmits, lookupIn?_cons, hd]
        exact hx

/-! ## Writing twice -/

/-- Whether a write reaches its end does not depend on what is written. -/
theorem fst_assignIn_eq (a b : Value) (keys : List Key) :
    ∀ v : Value, (assignIn a v keys).1 = (assignIn b v keys).1 := by
  induction keys with
  | nil => exact fun _ => rfl
  | cons k rest ih =>
    intro v
    rw [assignIn_cons, assignIn_cons]
    split
    · exact ih _
    · rfl

/-- A write where another one has reached its end is as if the other had not been. -/
theorem assignIn_assignIn (a b : Value) (keys : List Key) :
    ∀ {v : Value}, (assignIn a v keys).1 = true →
      assignIn b (assignIn a v keys).2 keys = assignIn b v keys := by
  induction keys with
  | nil => exact fun _ => rfl
  | cons k rest ih =>
    intro v h
    rw [assignIn_cons a] at h ⊢
    split at h
    · rename_i hadmits
      have hagain := admits_put hadmits (assignIn a ((v.opened k).part k) rest).2
      rw [if_pos hadmits, assignIn_cons b v, if_pos hadmits, assignIn_cons b,
        opened_of_admits hagain, if_pos hagain, part_of_child? (child?_put hadmits _), ih h,
        put_put hadmits]
    · cases h

/-! ## Writes that do not reach their end -/

/-- Something that stands beyond the keys of a write lets it reach its end. So does what stands at
them, and all else is at keys that depart from them or on the way. -/
theorem departs_or_onRoute (new : Value) (keys : List Key) :
    ∀ {v : Value} {other : List Key}, (assignIn new v keys).1 = false →
      v.lookupIn? other = some x → v.Departs keys other ∨ v.OnRoute keys other := by
  induction keys with
  | nil =>
    intro v other h
    cases h
  | cons k rest ih =>
    intro v other h hx
    cases other with
    | nil => exact .inr ⟨[], List.nil_prefix, trivial⟩
    | cons k' rest' =>
      by_cases hslot : v.SameSlot k k'
      · obtain ⟨c, hc, hx⟩ := lookupIn?_cons_eq_some_iff.1 hx
        rw [hslot.child?_eq] at hc
        rw [assignIn_cons, opened_of_child? hc, if_pos (admits_of_child? hc),
          part_of_child? hc] at h
        rcases ih h hx with hdeparts | ⟨before, hprefix, hplace⟩
        · exact .inl (.inr ⟨c, hc, hdeparts⟩)
        · exact .inr ⟨k :: before, (List.prefix_cons_inj k).2 hprefix, .cons hslot hc hplace⟩
      · exact .inl (.inl hslot)

end Value

namespace Entries

variable {root : Entries} {keys other : List Key} {new x : Value}

/-- Entries are written to as the object of them. -/
theorem assign_eq (root : Entries) (h : keys ≠ []) (new : Value) :
    Value.assignIn new (.object root) keys =
      ((root.assign keys new).1, .object (root.assign keys new).2) := by
  cases keys with
  | nil => exact absurd rfl h
  | cons k rest => rfl

theorem ne_nil_of_assign (h : (root.assign keys new).1 = true) : keys ≠ [] := by
  rintro rfl
  cases h

theorem lookup?_assign (h : (root.assign keys new).1 = true) :
    (root.assign keys new).2.lookup? keys = some new := by
  have hkeys := ne_nil_of_assign h
  have hnew := Value.lookupIn?_assignIn new keys (v := .object root)
  rw [assign_eq root hkeys] at hnew
  rw [lookup?_eq _ hkeys]
  exact hnew h

theorem lookup?_assign_of_departs (hx : root.lookup? other = some x)
    (h : root.Departs keys other) : (root.assign keys new).2.lookup? other = some x := by
  have hother := ne_nil_of_lookup? hx
  rw [lookup?_eq _ hother] at hx ⊢
  have hkept := Value.lookupIn?_assignIn_of_departs new keys h hx
  rw [assign_eq root (ne_nil_of_departs h).1] at hkept
  exact hkept

theorem assign_assign (h : (root.assign keys new).1 = true) (again : Value) :
    (root.assign keys new).2.assign keys again = (true, (root.assign keys again).2) := by
  have hkeys := ne_nil_of_assign h
  have hfst := Value.fst_assignIn_eq again new keys (.object root)
  have htwice := Value.assignIn_assignIn new again keys (v := .object root)
  simp only [assign_eq _ hkeys, Prod.mk.injEq, Value.object.injEq] at hfst htwice
  obtain ⟨hone, htwo⟩ := htwice h
  exact Prod.ext (hone.trans (hfst.trans h)) htwo

/-- A write that does not reach its end has left everything where it was but nulls and the containers
on its way. -/
theorem lookup?_assign_of_stops (h : (root.assign keys new).1 = false)
    (hx : root.lookup? other = some x) (hnull : x ≠ .null)
    (hroute : ¬(x.IsContainer ∧ root.OnRoute keys other)) :
    (root.assign keys new).2.lookup? other = some x := by
  have hother := ne_nil_of_lookup? hx
  by_cases hcontainer : x.IsContainer
  · cases keys with
    | nil => exact hx
    | cons k rest =>
      -- it is not on the way, so it stands at keys that depart
      have hstops : (Value.assignIn new (.object root) (k :: rest)).1 = false := by
        rw [assign_eq root (List.cons_ne_nil k rest)]
        exact h
      rw [lookup?_eq _ hother] at hx
      have hdeparts := (Value.departs_or_onRoute new (k :: rest) hstops hx).resolve_right
        fun hon => hroute ⟨hcontainer, hon⟩
      rw [← lookup?_eq _ hother] at hx
      exact lookup?_assign_of_departs hx hdeparts
  · rw [lookup?_eq _ hother] at hx ⊢
    obtain ⟨y, hy, hlasts⟩ := (keeps_assign h).lasts other x hx
    rw [hy, (Value.isScalar_of_not_isContainer hnull hcontainer).eq_of_lasts hlasts]

/-- Writing into entries is lawful. What is written is found at its keys, whatever stood at keys that
depart from them still does, and a second write at the same keys gives what it would have given in the
first place. A write that does not reach its end leaves everything where it was but nulls and the
containers on its way. -/
theorem assign_lawful (root : Entries) (keys : List Key) (new : Value) :
    ((root.assign keys new).1 = true →
      (root.assign keys new).2.lookup? keys = some new ∧
      (∀ other x, root.lookup? other = some x → root.Departs keys other →
        (root.assign keys new).2.lookup? other = some x) ∧
      ∀ again, (root.assign keys new).2.assign keys again = (true, (root.assign keys again).2)) ∧
    ((root.assign keys new).1 = false →
      ∀ other x, root.lookup? other = some x → x ≠ .null →
        ¬(x.IsContainer ∧ root.OnRoute keys other) →
        (root.assign keys new).2.lookup? other = some x) :=
  ⟨fun h => ⟨lookup?_assign h, fun _ _ => lookup?_assign_of_departs, assign_assign h⟩,
    fun h _ _ => lookup?_assign_of_stops h⟩

/-- A write through an item that a numeral names and through null, and one that a text stops. -/
theorem assign_lawful_numeral :
    let root : Entries := [("a", .array [.bool true, .null]), ("b", .string "x")]
    let keys : List Key := [.name "a", .name "1", .name "d"]
    let first : List Key := [.name "a", .index 0]
    let below : List Key := [.name "b", .name "d"]
    ((root.assign keys (.bool false)).1 = true ∧ root.lookup? first = some (.bool true) ∧
      root.Departs keys first ∧ (root.assign below (.bool false)).1 = false ∧
      root.lookup? [.name "b"] = some (.string "x")) ∧
    (root.assign keys (.bool false)).2.lookup? keys = some (.bool false) ∧
    (root.assign keys (.bool false)).2.lookup? first = some (.bool true) ∧
    (root.assign keys (.bool false)).2.assign keys .null = (true, (root.assign keys .null).2) ∧
    (root.assign below (.bool false)).2.lookup? [.name "b"] = some (.string "x") := by
  intro root keys first below
  have hends : (root.assign keys (.bool false)).1 = true := by cbv
  have hfirst : root.lookup? first = some (.bool true) := by cbv
  have hdeparts : root.Departs keys first := by
    refine .inr ⟨.array [.bool true, .null], by cbv, .inl ?_⟩
    show ¬(Key.name "1").position? = (Key.index 0).position?
    decide
  have hstops : (root.assign below (.bool false)).1 = false := by cbv
  have htext : root.lookup? [.name "b"] = some (.string "x") := by cbv
  obtain ⟨hnew, hother, hagain⟩ := (assign_lawful root keys (.bool false)).1 hends
  have hkept := (assign_lawful root below (.bool false)).2 hstops _ _ htext (by simp) fun h => h.1
  exact ⟨⟨hends, hfirst, hdeparts, hstops, htext⟩, hnew, hother first _ hfirst hdeparts,
    hagain .null, hkept⟩

end Entries

end Wireflow
