/-
The laws of removing what stands at a list of keys. It answers what a look-up does, and changes nothing
when there is nothing. Otherwise the container that stands before the last key loses that part: an
object loses the entry, and the items of an array that come after the removed one move down. All keys
that depart from the way to the change find what they did.
-/
import Wireflow.Proofs.Path.Places

namespace Wireflow

namespace Value

variable {p' x : Value} {k : Key}

/-! ## Removals by places -/

theorem takeChild?_object (m : Entries) (k : Key) :
    (object m).takeChild? k =
      (Table.get? k.text m).map fun c => (c, .object (Table.erase k.text m)) := by
  rw [takeChild?]
  cases Table.get? k.text m <;> rfl

theorem takeChild?_object_eq_some_iff {m : Entries} :
    (object m).takeChild? k = some (x, p') ↔
      Table.get? k.text m = some x ∧ p' = .object (Table.erase k.text m) := by
  rw [takeChild?_object]
  cases Table.get? k.text m <;> simp [eq_comm]

theorem takeChild?_array_eq_some_iff {items : List Value} :
    (array items).takeChild? k = some (x, p') ↔
      ∃ i, k.position? = some i ∧ items[i]? = some x ∧ p' = .array (items.eraseIdx i) := by
  rw [takeChild?]
  cases k.position? with
  | none => simp
  | some i => cases hitem : items[i]? <;> simp [hitem, eq_comm]

theorem removeIn?_cons (v : Value) (k : Key) {rest : List Key} (h : rest ≠ []) :
    v.removeIn? (k :: rest) =
      (v.child? k).bind fun c => (c.removeIn? rest).map fun r => (r.1, v.setChild k r.2) := by
  cases rest with
  | nil => exact absurd rfl h
  | cons k' rest =>
    simp only [removeIn?]
    cases v.child? k with
    | none => rfl
    | some c =>
      dsimp only [Option.bind_some]
      cases c.removeIn? (k' :: rest) <;> rfl

/-- A removal takes the part at the last key out of what stands at the keys before it. -/
theorem removeIn?_append (v : Value) (parents : List Key) (last : Key) :
    v.removeIn? (parents ++ [last]) =
      (v.lookupIn? parents).bind fun p =>
        (p.takeChild? last).map fun r => (r.1, v.replaceIn parents r.2) := by
  induction parents generalizing v with
  | nil =>
    show v.takeChild? last = (v.takeChild? last).map fun r => (r.1, r.2)
    cases v.takeChild? last <;> rfl
  | cons k rest ih =>
    have hne : rest ++ [last] ≠ [] := by simp
    rw [List.cons_append, removeIn?_cons v k hne, lookupIn?_cons]
    cases hc : v.child? k with
    | none => rfl
    | some c =>
      dsimp only [Option.bind_some]
      rw [ih]
      cases c.lookupIn? rest with
      | none => rfl
      | some p =>
        dsimp only [Option.bind_some]
        rw [Option.map_map]
        exact congrArg (Option.map · _) (funext fun r => by rw [Function.comp, replaceIn_cons hc])

end Value

namespace Entries

variable {root : Entries} {parents : List Key} {last : Key}

/-- An entry has been taken out: nothing stands at its keys, and keys that depart from them find what
they did. -/
structure LosesEntry (before : Entries) (keys : List Key) (after : Entries) : Prop where
  gone : after.lookup? keys = none
  others : ∀ other, before.Departs keys other → after.lookup? other = before.lookup? other

/-- An item has been taken out of the array at some keys: the items before it stay, those after it move
down by one, and keys that depart on the way to the array find what they did. -/
structure LosesItem (before : Entries) (keys : List Key) (items : List Value) (i : Nat)
    (after : Entries) : Prop where
  moved : ∃ items', after.lookup? keys = some (.array items') ∧ items'.length + 1 = items.length ∧
    (∀ j < i, items'[j]? = items[j]?) ∧ ∀ j, i ≤ j → items'[j]? = items[j + 1]?
  others : ∀ other, before.Departs keys other → after.lookup? other = before.lookup? other

/-- Something is removed from entries as from the object of them. -/
theorem object_remove (root : Entries) (keys : List Key) :
    Value.object (root.remove keys).2 =
      (((Value.object root).removeIn? keys).map (·.2)).getD (.object root) := by
  match keys with
  | [] => rfl
  | [last] =>
    show Value.object (Table.erase last.text root) =
      (((Value.object root).takeChild? last).map (·.2)).getD (.object root)
    rw [Value.takeChild?_object]
    cases h : Table.get? last.text root with
    | none => exact congrArg Value.object (Table.erase_of_get?_eq_none h)
    | some c => rfl
  | first :: second :: rest =>
    rw [Value.removeIn?_cons _ _ (List.cons_ne_nil second rest), Value.child?_object]
    simp only [remove]
    cases Table.get? first.text root with
    | none => rfl
    | some v =>
      dsimp only [Option.bind_some]
      cases v.removeIn? (second :: rest) <;> rfl

theorem remove_of_lookup?_eq_none {keys : List Key} (h : root.lookup? keys = none) :
    (root.remove keys).2 = root := by
  refine Value.object.inj ((object_remove root keys).trans ?_)
  cases keys with
  | nil => rfl
  | cons k rest =>
    have hnone := Value.fst_removeIn? (k :: rest) (List.cons_ne_nil k rest) (.object root)
    rw [← lookup?_eq root (List.cons_ne_nil k rest), h, Option.map_eq_none_iff] at hnone
    rw [hnone]
    rfl

/-- What is left after a removal has the changed container in its place. -/
theorem object_remove_append {p p' x : Value} (hp : (Value.object root).lookupIn? parents = some p)
    (htake : p.takeChild? last = some (x, p')) :
    Value.object (root.remove (parents ++ [last])).2 =
      (Value.object root).replaceIn parents p' := by
  rw [object_remove, Value.removeIn?_append, hp, Option.bind_some, htake]
  rfl

/-- What a removal takes out of entries, and what it leaves. -/
theorem remove_cases {keys : List Key} {x : Value} (hx : root.lookup? keys = some x) :
    ∃ parents last p p', keys = parents ++ [last] ∧
      (Value.object root).lookupIn? parents = some p ∧ p.takeChild? last = some (x, p') ∧
      Value.object (root.remove keys).2 = (Value.object root).replaceIn parents p' := by
  have hne := ne_nil_of_lookup? hx
  obtain ⟨parents, last, rfl⟩ : ∃ parents last, keys = parents ++ [last] :=
    ⟨keys.dropLast, keys.getLast hne, (List.dropLast_append_getLast hne).symm⟩
  rw [lookup?_eq _ hne, Value.lookupIn?_append] at hx
  obtain ⟨p, hp, hx⟩ := Option.bind_eq_some_iff.1 hx
  have hfst : (p.takeChild? last).map (·.1) = some x := by
    rw [Value.fst_takeChild?, ← hx, Value.lookupIn?_singleton]
  obtain ⟨⟨y, p'⟩, htake, rfl⟩ := Option.map_eq_some_iff.1 hfst
  exact ⟨parents, last, p, p', rfl, hp, htake, object_remove_append hp htake⟩

theorem losesEntry {m : Entries} {x : Value}
    (hp : (Value.object root).lookupIn? parents = some (.object m))
    (hx : Table.get? last.text m = some x) :
    root.LosesEntry (parents ++ [last]) (root.remove (parents ++ [last])).2 := by
  have hkeys : parents ++ [last] ≠ [] := by simp
  have hafter := object_remove_append hp (Value.takeChild?_object_eq_some_iff.2 ⟨hx, rfl⟩)
  refine ⟨?_, fun other hother => ?_⟩
  · rw [lookup?_eq _ hkeys, hafter, Value.lookupIn?_append,
      Value.lookupIn?_replaceIn (.refl _ parents) hp, Option.bind_some, Value.lookupIn?_cons,
      Value.child?_object, Table.get?_erase_self]
    rfl
  · have hne := (ne_nil_of_departs hother).2
    rw [lookup?_eq _ hne, lookup?_eq _ hne, hafter]
    rcases Value.Departs.of_append hother hp with hother | ⟨before, k, more, rfl, hplace, hslot⟩
    · exact Value.lookupIn?_replaceIn_of_departs hother _
    · rw [Value.lookupIn?_append, Value.lookupIn?_append, Value.lookupIn?_replaceIn hplace hp,
        hplace.lookupIn?_eq, hp, Option.bind_some, Option.bind_some, Value.lookupIn?_cons,
        Value.lookupIn?_cons, Value.child?_object, Value.child?_object,
        Table.get?_erase_of_ne fun he => hslot he.symm]

theorem losesItem {items : List Value} {x : Value} {i : Nat}
    (hp : root.lookup? parents = some (.array items)) (hi : last.position? = some i)
    (hx : items[i]? = some x) :
    root.LosesItem parents items i (root.remove (parents ++ [last])).2 := by
  have hparents := ne_nil_of_lookup? hp
  have hlt : i < items.length := (List.getElem?_eq_some_iff.1 hx).1
  rw [lookup?_eq _ hparents] at hp
  have hafter := object_remove_append hp (Value.takeChild?_array_eq_some_iff.2 ⟨i, hi, hx, rfl⟩)
  refine ⟨⟨items.eraseIdx i, ?_, ?_, fun j hj => ?_, fun j hj => ?_⟩, fun other hother => ?_⟩
  · rw [lookup?_eq _ hparents, hafter, Value.lookupIn?_replaceIn (.refl _ parents) hp]
  · rw [List.length_eraseIdx_of_lt hlt]
    omega
  · exact List.getElem?_eraseIdx_of_lt hj
  · exact List.getElem?_eraseIdx_of_ge hj
  · have hne := (ne_nil_of_departs hother).2
    rw [lookup?_eq _ hne, lookup?_eq _ hne, hafter]
    exact Value.lookupIn?_replaceIn_of_departs hother _

/-- Removing from entries is lawful. It answers what stands at the keys, and changes nothing when nothing
does. Otherwise the entries themselves or the object before the last key lose an entry, or the array
before it loses an item. -/
theorem remove_lawful (root : Entries) (keys : List Key) :
    (root.remove keys).1 = root.lookup? keys ∧
    (root.lookup? keys = none → (root.remove keys).2 = root) ∧
    ∀ parents last, keys = parents ++ [last] → (root.lookup? keys).isSome →
      ((parents = [] ∨ ∃ m, root.lookup? parents = some (.object m)) ∧
        root.LosesEntry keys (root.remove keys).2) ∨
      ∃ items i, root.lookup? parents = some (.array items) ∧ last.position? = some i ∧
        i < items.length ∧ root.LosesItem parents items i (root.remove keys).2 := by
  refine ⟨fst_remove root keys, remove_of_lookup?_eq_none, ?_⟩
  rintro parents last rfl hsome
  rw [lookup?_eq _ (by simp), Value.lookupIn?_append] at hsome
  obtain ⟨x, hx⟩ := Option.isSome_iff_exists.1 hsome
  obtain ⟨p, hp, hx⟩ := Option.bind_eq_some_iff.1 hx
  rw [Value.lookupIn?_singleton] at hx
  cases p with
  | object m =>
    refine .inl ⟨?_, losesEntry hp hx⟩
    cases parents with
    | nil => exact .inl rfl
    | cons k rest => exact .inr ⟨m, hp⟩
  | array items =>
    have hparents : parents ≠ [] := by
      rintro rfl
      cases hp
    rw [← lookup?_eq _ hparents] at hp
    obtain ⟨i, hi, hitem⟩ := Value.child?_array_eq_some_iff.1 hx
    exact .inr ⟨items, i, hp, hi, (List.getElem?_eq_some_iff.1 hitem).1, losesItem hp hi hitem⟩
  | _ => cases hx

/-- The entry of an object, and an item of an array that a numeral names. -/
theorem remove_lawful_both :
    let root : Entries :=
      [("a", .array [.null, .bool true, .string "x"]), ("b", .object [("c", .bool true)])]
    let entry : List Key := [.name "b", .name "c"]
    let item : List Key := [.name "a", .name "1"]
    ((root.lookup? entry).isSome ∧ (root.lookup? item).isSome) ∧
    root.LosesEntry entry (root.remove entry).2 ∧
    root.LosesItem [.name "a"] [.null, .bool true, .string "x"] 1 (root.remove item).2 := by
  intro root entry item
  have hentry : (root.lookup? entry).isSome := by cbv
  have hitem : (root.lookup? item).isSome := by cbv
  refine ⟨⟨hentry, hitem⟩, ?_, ?_⟩
  · rcases (remove_lawful root entry).2.2 [.name "b"] (.name "c") rfl hentry with
      ⟨-, hloses⟩ | ⟨items, i, hp, -⟩
    · exact hloses
    · cases hp
  · rcases (remove_lawful root item).2.2 [.name "a"] (.name "1") rfl hitem with
      ⟨hp, -⟩ | ⟨items, i, hp, hi, -, hloses⟩
    · rcases hp with hp | ⟨m, hp⟩ <;> cases hp
    · cases hp
      obtain rfl : i = 1 := Option.some.inj (hi.symm.trans (by decide))
      exact hloses

end Entries

end Wireflow
