/-
How arrays grow when something is written at a list of keys. Whether or not the write reaches its end, an
array on its way grows by at most 1025 items, a new one has at most as many, and all that is added is
null but for the item that the keys go on to. No array becomes shorter, unless it is in what the write
replaces. So a position never has to be reckoned with beyond a 64-bit word: the same walk with arithmetic
on such words, which fails where a result is out of range, never fails.
-/
import Wireflow.Proofs.Path.Assigning
import Wireflow.Proofs.Table

namespace Wireflow

namespace Value

variable {v c d new x : Value} {k k' : Key} {keys other rest rest' : List Key} {i : Nat}
  {items items' : List Value}

/-! ## Arithmetic on words -/

/-- What can go wrong with a position: a difference below zero, a sum that is no word, and a position at
which an array has no item. -/
inductive PositionFault
  | negative
  | tooGreat
  | outside

/-- The difference of two words. -/
def wordSub (a b : Nat) : Except PositionFault Nat :=
  if b ≤ a then .ok (a - b) else .error .negative

/-- The sum of two words. -/
def wordAdd (a b : Nat) : Except PositionFault Nat :=
  if a + b < Text.wordSize then .ok (a + b) else .error .tooGreat

/-- The items cut off or filled up with nulls to a number of them. -/
def resized (items : List Value) (n : Nat) : List Value :=
  items.take n ++ List.replicate (n - items.length) .null

/-- The items with one at the position, unless it is too far beyond the end. -/
def roomFor (items : List Value) (i : Nat) : Except PositionFault (Option (List Value)) :=
  if items.length ≤ i then
    match wordSub i items.length with
    | .error e => .error e
    | .ok gap =>
      if gapLimit < gap then .ok none
      else (wordAdd i 1).map fun n => some (resized items n)
  else .ok (some items)

/-- A value with another one written at a list of keys, and whether the write reached its end, with
arithmetic on words. -/
def assignWords (new : Value) : Value → List Key → Except PositionFault (Bool × Value)
  | _, [] => .ok (true, new)
  | v, k :: rest =>
    match v.opened k with
    | .object m =>
      (assignWords new ((Table.get? k.text m).getD .null) rest).map fun r =>
        (r.1, .object (Table.insert k.text r.2 m))
    | .array items =>
      match k.position? with
      | none => .ok (false, .array items)
      | some i =>
        match roomFor items i with
        | .error e => .error e
        | .ok none => .ok (false, .array items)
        | .ok (some slots) =>
          match slots[i]? with
          | none => .error .outside
          | some c => (assignWords new c rest).map fun r => (r.1, .array (slots.set i r.2))
    | scalar => .ok (false, scalar)

/-- Every array in the value has fewer items than half the words, as all that fit into memory have. -/
def Addressable (v : Value) : Prop :=
  ∀ keys items, v.lookupIn? keys = some (.array items) → items.length < 2 ^ 63

theorem Addressable.child? (h : v.Addressable) (hc : v.child? k = some c) : c.Addressable :=
  fun keys items hitems => h (k :: keys) items (lookupIn?_cons_eq_some_iff.2 ⟨c, hc, hitems⟩)

/-- Whether a value is addressable can be seen from its items and its parts. -/
theorem addressable_of_parts (hitems : ∀ items, v = .array items → items.length < 2 ^ 63)
    (hparts : ∀ k c, v.child? k = some c → c.Addressable) : v.Addressable := by
  intro keys items h
  cases keys with
  | nil => exact hitems items (Option.some.inj h)
  | cons k rest =>
    obtain ⟨c, hc, h⟩ := lookupIn?_cons_eq_some_iff.1 h
    exact hparts k c hc rest items h

/-- There is no array below null. -/
theorem lookupIn?_null_ne_array : lookupIn? .null keys ≠ some (.array items) := by
  cases keys <;> exact nofun

theorem child?_opened (v : Value) (k k' : Key) : (v.opened k).child? k' = v.child? k' := by
  cases v with
  | null =>
    cases k with
    | name s => rfl
    | index i =>
      show (array []).child? k' = none
      rw [child?_array]
      cases k'.position? <;> rfl
  | _ => rfl

theorem Addressable.opened (h : v.Addressable) (k : Key) : (v.opened k).Addressable := by
  refine addressable_of_parts (fun items hitems => ?_) fun k' c hc => ?_
  · cases v with
    | null =>
      cases k with
      | name s => cases hitems
      | index i =>
        cases hitems
        decide
    | _ => exact h [] items (congrArg some hitems)
  · rw [child?_opened] at hc
    exact h.child? hc

theorem Addressable.part (h : v.Addressable) (k : Key) : (v.part k).Addressable := by
  unfold Value.part
  cases hc : v.child? k with
  | none => exact fun _ _ hitems => absurd hitems lookupIn?_null_ne_array
  | some c => exact h.child? hc

theorem resized_succ (h : items.length ≤ i) : resized items (i + 1) = padded items i := by
  unfold resized padded
  rw [List.take_of_length_le (by omega)]

/-- Making room for a position does not fail. -/
theorem roomFor_eq (h : items.length < 2 ^ 63) (i : Nat) :
    roomFor items i = .ok (if reaches items i then some (padded items i) else none) := by
  unfold roomFor reaches
  by_cases hi : items.length ≤ i
  · have hlt : ¬i < items.length := by omega
    rw [if_pos hi, wordSub, if_pos hi]
    dsimp only
    by_cases hgap : gapLimit < i - items.length
    · rw [if_pos hgap, decide_eq_false hlt, decide_eq_false (not_le.2 hgap)]
      rfl
    · -- within reach the position is far below the greatest word
      have hsum : i + 1 < Text.wordSize := by
        unfold gapLimit at hgap
        unfold Text.wordSize
        omega
      rw [if_neg hgap, wordAdd, if_pos hsum]
      simp [hlt, not_lt.1 hgap, Except.map, resized_succ hi]
  · have hlt : i < items.length := by omega
    rw [if_neg hi]
    simp [hlt, padded_of_lt hlt]

/-- Writing with arithmetic on words is writing. -/
theorem assignWords_eq (new : Value) (keys : List Key) :
    ∀ {v : Value}, v.Addressable → assignWords new v keys = .ok (assignIn new v keys) := by
  induction keys with
  | nil => exact fun _ => rfl
  | cons k rest ih =>
    intro v h
    have hopened := h.opened k
    unfold assignWords assignIn
    cases hv : v.opened k with
    | object m =>
      rw [hv] at hopened
      have hpart : (Value.object m).part k = (Table.get? k.text m).getD .null := rfl
      dsimp only
      rw [← hpart, ih (hopened.part k)]
      rfl
    | array items =>
      rw [hv] at hopened
      dsimp only
      cases hi : k.position? with
      | none => rfl
      | some i =>
        dsimp only
        rw [roomFor_eq (hopened [] items rfl)]
        by_cases hreach : reaches items i
        · have hslot : (padded items i)[i]? = some ((padded items i)[i]?.getD .null) := by
            rw [List.getElem?_eq_getElem (lt_length_padded items i)]
            rfl
          have hpart : (Value.array items).part k = (padded items i)[i]?.getD .null := by
            unfold Value.part
            rw [child?_array, hi, getD_padded]
            rfl
          rw [if_pos hreach, if_pos hreach]
          dsimp only
          rw [hslot]
          dsimp only
          rw [Option.getD_some, ← hpart, ih (hopened.part k)]
          rfl
        · rw [if_neg hreach, if_neg hreach]
    | _ => rfl

/-! ## Growth -/

/-- An array has grown into another one by at most 1025 items. Those that have been added are null, but
for the last one when it stands at a position that is entered. -/
structure GrowsInto (entered : Nat → Prop) (items items' : List Value) : Prop where
  le : items.length ≤ items'.length
  bounded : items'.length ≤ items.length + 1025
  nulls : ∀ j x, items.length ≤ j → items'[j]? = some x →
    x = .null ∨ j + 1 = items'.length ∧ entered j

theorem GrowsInto.refl (entered : Nat → Prop) (items : List Value) :
    GrowsInto entered items items := by
  refine ⟨le_rfl, Nat.le_add_right _ _, fun j x hj hx => ?_⟩
  rw [List.getElem?_eq_none hj] at hx
  cases hx

theorem GrowsInto.mono {entered entered' : Nat → Prop} (h : GrowsInto entered items items')
    (himp : ∀ j, entered j → entered' j) : GrowsInto entered' items items' :=
  ⟨h.le, h.bounded, fun j x hj hx => (h.nulls j x hj hx).imp_right (.imp_right (himp j))⟩

theorem length_padded (items : List Value) (i : Nat) :
    (padded items i).length = max items.length (i + 1) := by
  unfold padded
  rw [List.length_append, List.length_replicate]
  omega

theorem growsInto_set (h : reaches items i) (c : Value) :
    GrowsInto (· = i) items ((padded items i).set i c) := by
  have hlength : ((padded items i).set i c).length = max items.length (i + 1) := by
    rw [List.length_set, length_padded]
  simp only [reaches, Bool.or_eq_true, decide_eq_true_eq] at h
  unfold gapLimit at h
  refine ⟨by omega, by omega, fun j x hj hx => ?_⟩
  by_cases hij : j = i
  · exact .inr ⟨by omega, hij⟩
  · rw [List.getElem?_set_ne (Ne.symm hij), padded, List.getElem?_append_right hj] at hx
    exact .inl (List.eq_of_mem_replicate (List.mem_of_getElem? hx))

theorem admits_array_iff :
    (array items).admits k = true ↔ ∃ i, k.position? = some i ∧ reaches items i = true := by
  unfold admits
  cases k.position? <;> simp

theorem put_array (hi : k.position? = some i) (c : Value) :
    (array items).put k c = array ((padded items i).set i c) := by
  unfold put
  rw [hi]

theorem SamePlace.length_eq (h : v.SamePlace keys other) (hc : v.lookupIn? keys = some c) :
    keys.length = other.length := by
  induction keys generalizing v other with
  | nil =>
    cases other with
    | nil => rfl
    | cons _ _ => cases h
  | cons k rest ih =>
    cases other with
    | nil => cases h
    | cons k' rest' =>
      obtain ⟨d, hd, hc⟩ := lookupIn?_cons_eq_some_iff.1 hc
      exact congrArg (· + 1) (ih (h.2 d hd) hc)

/-- Keys do not lead on the way along fewer keys where something stands. -/
theorem not_onRoute_of_length_lt (hc : v.lookupIn? other = some c)
    (h : other.length < keys.length) : ¬v.OnRoute other keys := by
  rintro ⟨before, ⟨more, rfl⟩, hplace⟩
  rw [lookupIn?_append] at hc
  obtain ⟨d, hd, -⟩ := Option.bind_eq_some_iff.1 hc
  have hlength := hplace.length_eq hd
  rw [List.length_append] at h
  omega

/-- A write that goes through an array leaves an array that has grown into the slot of the key. -/
theorem growsInto_step (new : Value) (items : List Value) (k : Key) (rest : List Key) :
    ∃ items', (assignIn new (.array items) (k :: rest)).2 = .array items' ∧
      GrowsInto (k.position? = some ·) items items' := by
  rw [assignIn_cons]
  split
  · rename_i hadmits
    obtain ⟨i, hi, hreach⟩ := admits_array_iff.1 hadmits
    refine ⟨_, put_array hi _, (growsInto_set hreach _).mono ?_⟩
    rintro j rfl
    exact hi
  · exact ⟨items, rfl, .refl _ _⟩

/-- An array that a write leaves in the place of something else has grown from nothing. -/
theorem growsInto_step_of_ne (hnone : ∀ items, v ≠ .array items)
    (h : (assignIn new v (k :: rest)).2 = .array items') :
    GrowsInto (k.position? = some ·) [] items' := by
  cases v with
  | null =>
    cases k with
    | name s =>
      rw [assignIn] at h
      cases h
    | index i =>
      obtain ⟨grown, hgrown, hgrows⟩ := growsInto_step new [] (.index i) rest
      have hopened : assignIn new .null (.index i :: rest) =
          assignIn new (.array []) (.index i :: rest) := by
        rw [assignIn_cons, assignIn_cons]
        rfl
      obtain rfl := array.inj (hgrown.symm.trans (hopened ▸ h))
      exact hgrows
  | array items => exact absurd rfl (hnone items)
  | _ =>
    rw [assignIn] at h
    cases h

/-- Keys lead to the place of others and on into the slot at a position. -/
def Enters (v : Value) (keys other : List Key) (i : Nat) : Prop :=
  ∃ before k after, keys = before ++ k :: after ∧ v.SamePlace other before ∧ k.position? = some i

theorem SameSlot.symm (h : v.SameSlot k k') : v.SameSlot k' k := by
  cases v <;> first | exact Eq.symm h | trivial

theorem Enters.cons (hslot : v.SameSlot k k') (hc : v.child? k = some c)
    (h : c.Enters rest' rest i) : v.Enters (k' :: rest') (k :: rest) i := by
  obtain ⟨before, k₀, after, rfl, hplace, hi⟩ := h
  exact ⟨k' :: before, k₀, after, rfl, .cons hslot hc hplace, hi⟩

theorem OnRoute.cons (hslot : v.SameSlot k k') (hc : v.child? k = some c)
    (h : c.OnRoute rest rest') : v.OnRoute (k :: rest) (k' :: rest') := by
  obtain ⟨before, hprefix, hplace⟩ := h
  exact ⟨k :: before, (List.prefix_cons_inj k).2 hprefix, .cons hslot hc hplace⟩

/-- An array that is not part of what a write replaces grows, if it is not left as it was. -/
theorem growsInto_assignIn (new : Value) (keys : List Key) :
    ∀ {v : Value} {other : List Key}, v.lookupIn? other = some (.array items) →
      ((assignIn new v keys).1 = true → ¬v.OnRoute other keys) →
      ∃ items', (assignIn new v keys).2.lookupIn? other = some (.array items') ∧
        GrowsInto (v.Enters keys other) items items' := by
  induction keys with
  | nil =>
    intro v other _ hroute
    exact absurd ⟨[], List.nil_prefix, trivial⟩ (hroute rfl)
  | cons k rest ih =>
    intro v other hitems hroute
    cases other with
    | nil =>
      cases hitems
      obtain ⟨items', hitems', hgrows⟩ := growsInto_step new items k rest
      exact ⟨items', congrArg some hitems',
        hgrows.mono fun j hj => ⟨[], k, rest, rfl, trivial, hj⟩⟩
    | cons k' rest' =>
      obtain ⟨d, hd, hitems⟩ := lookupIn?_cons_eq_some_iff.1 hitems
      rw [assignIn_cons, opened_of_child? hd] at hroute ⊢
      by_cases hadmits : v.admits k = true
      · rw [if_pos hadmits] at hroute ⊢
        rw [lookupIn?_cons]
        by_cases hslot : v.SameSlot k k'
        · have hc : v.child? k = some d := hslot.child?_eq ▸ hd
          rw [part_of_child? hc] at hroute ⊢
          rw [(hslot.put k _).child?_eq, child?_put hadmits]
          obtain ⟨items', hitems', hgrows⟩ :=
            ih hitems fun hends hon => hroute hends (hon.cons hslot.symm hd)
          exact ⟨items', hitems', hgrows.mono fun j hj => hj.cons hslot.symm hd⟩
        · rw [child?_put_of_not_sameSlot hslot hd]
          exact ⟨items, hitems, .refl _ _⟩
      · rw [if_neg hadmits, lookupIn?_cons, hd]
        exact ⟨items, hitems, .refl _ _⟩

/-- What stands in another slot stood there before, or is a null that an array has been filled up with. -/
theorem child?_of_put (h : ¬v.SameSlot k k') (hd : (v.put k c).child? k' = some d) :
    v.child? k' = some d ∨ d = .null := by
  cases v with
  | object m => exact .inl ((Table.get?_insert_of_ne (fun he => h he.symm) c m).symm.trans hd)
  | array items =>
    unfold put at hd
    cases hi : k.position? with
    | none =>
      rw [hi] at hd
      exact .inl hd
    | some i =>
      rw [hi] at hd
      obtain ⟨j, hj, hitem⟩ := child?_array_eq_some_iff.1 hd
      have hij : i ≠ j := fun he => h (hi.trans (he ▸ hj.symm))
      rw [List.getElem?_set_ne hij] at hitem
      by_cases hlt : j < items.length
      · rw [padded, List.getElem?_append_left hlt] at hitem
        exact .inl (child?_array_eq_some_iff.2 ⟨j, hj, hitem⟩)
      · rw [padded, List.getElem?_append_right (not_lt.1 hlt)] at hitem
        exact .inr (List.eq_of_mem_replicate (List.mem_of_getElem? hitem))
  | _ => exact absurd trivial h

/-- An array that stands where none did, and is not part of what a write has written, has grown from
nothing. -/
theorem growsInto_of_assignIn (new : Value) (keys : List Key) :
    ∀ {v : Value} {other : List Key},
      (assignIn new v keys).2.lookupIn? other = some (.array items') →
      (∀ items, v.lookupIn? other ≠ some (.array items)) →
      ((assignIn new v keys).1 = true → ¬(assignIn new v keys).2.OnRoute other keys) →
      GrowsInto ((assignIn new v keys).2.Enters keys other) [] items' := by
  induction keys with
  | nil =>
    intro v other _ _ hroute
    exact absurd ⟨[], List.nil_prefix, trivial⟩ (hroute rfl)
  | cons k rest ih =>
    intro v other hitems hnone hroute
    cases other with
    | nil =>
      have hne : ∀ items, v ≠ .array items := fun items h => hnone items (congrArg some h)
      exact (growsInto_step_of_ne hne (Option.some.inj hitems)).mono
        fun j hj => ⟨[], k, rest, rfl, trivial, hj⟩
    | cons k' rest' =>
      -- what stood below the opened value stood below the value itself
      have hold : ∀ {c}, (v.opened k).child? k' = some c →
          ∀ items, c.lookupIn? rest' ≠ some (.array items) := by
        intro c hc items hitems
        rw [child?_opened] at hc
        exact hnone items (lookupIn?_cons_eq_some_iff.2 ⟨c, hc, hitems⟩)
      obtain ⟨d, hd, hitems⟩ := lookupIn?_cons_eq_some_iff.1 hitems
      rw [assignIn_cons] at hd hroute ⊢
      by_cases hadmits : (v.opened k).admits k = true
      · rw [if_pos hadmits] at hd hroute ⊢
        by_cases hslot : (v.opened k).SameSlot k k'
        · have hput := hslot.put k (assignIn new ((v.opened k).part k) rest).2
          have hc := child?_put hadmits (assignIn new ((v.opened k).part k) rest).2
          obtain rfl := Option.some.inj (hc.symm.trans (hput.child?_eq.symm.trans hd))
          refine (ih hitems ?_ fun hends hon => hroute hends (hon.cons hput.symm hd)).mono
            fun j hj => hj.cons hput.symm hd
          unfold part
          rw [← hslot.child?_eq]
          cases hc' : (v.opened k).child? k' with
          | none => exact fun _ => lookupIn?_null_ne_array
          | some c => exact hold hc'
        · rcases child?_of_put hslot hd with hd | rfl
          · exact absurd hitems (hold hd items')
          · exact absurd hitems lookupIn?_null_ne_array
      · rw [if_neg hadmits] at hd
        exact absurd hitems (hold hd items')

end Value

namespace Entries

variable {root : Entries} {keys other : List Key} {new : Value} {items items' : List Value}

/-- Every array in the entries has fewer items than half the words. -/
def Addressable (root : Entries) : Prop :=
  (Value.object root).Addressable

/-- Keys lead to the place of others in the entries and on into the slot at a position. -/
def Enters (root : Entries) (keys other : List Key) (i : Nat) : Prop :=
  (Value.object root).Enters keys other i

/-- The entries with a value written at a list of keys, and whether the write reached its end, with
arithmetic on words. -/
def assignWords (root : Entries) (keys : List Key) (new : Value) :
    Except Value.PositionFault (Bool × Entries) :=
  match keys with
  | [] => .ok (false, root)
  | first :: rest =>
    (Value.assignWords new ((Table.get? first.text root).getD .null) rest).map fun r =>
      (r.1, Table.insert first.text r.2 root)

theorem assignWords_eq (h : root.Addressable) (keys : List Key) (new : Value) :
    root.assignWords keys new = .ok (root.assign keys new) := by
  cases keys with
  | nil => rfl
  | cons first rest =>
    have hrest := Value.assignWords_eq new rest (h.part first)
    exact congrArg (Except.map fun r => (r.1, Table.insert first.text r.2 root)) hrest

/-- An array in the entries that is not part of what a write replaces grows, if it is not left as it
was. -/
theorem growsInto_assign (hitems : root.lookup? other = some (.array items))
    (hroute : (root.assign keys new).1 = true → ¬root.OnRoute other keys) :
    ∃ items', (root.assign keys new).2.lookup? other = some (.array items') ∧
      Value.GrowsInto (root.Enters keys other) items items' := by
  by_cases hkeys : keys = []
  · subst hkeys
    exact ⟨items, hitems, .refl _ _⟩
  · have hother := ne_nil_of_lookup? hitems
    rw [lookup?_eq _ hother] at hitems ⊢
    have hgrows := Value.growsInto_assignIn new keys hitems
    rw [assign_eq root hkeys] at hgrows
    exact hgrows hroute

/-- An array that a write has made in the entries has grown from nothing. -/
theorem growsInto_of_assign (hitems : (root.assign keys new).2.lookup? other = some (.array items'))
    (hnone : ∀ items, root.lookup? other ≠ some (.array items))
    (hroute : (root.assign keys new).1 = true → ¬(root.assign keys new).2.OnRoute other keys) :
    Value.GrowsInto ((root.assign keys new).2.Enters keys other) [] items' := by
  by_cases hkeys : keys = []
  · subst hkeys
    exact absurd hitems (hnone items')
  · have hother := ne_nil_of_lookup? hitems
    rw [lookup?_eq _ hother] at hitems hnone
    have hgrows := @Value.growsInto_of_assignIn items' new keys (.object root) other
    rw [assign_eq root hkeys] at hgrows
    exact hgrows hitems hnone hroute

/-- Writing into entries never reckons with a position beyond a word, and it keeps arrays small,
whether or not it reaches its end. Where an array stood there is one still that is no shorter and has at
most 1025 items more, unless it was in what the write replaces. An array that stands where none did has
at most 1025 items, unless it is in what has been written. All items that have been added are null, but
for the last one of an array when the keys go on to it. -/
theorem assign_grows (root : Entries) (keys : List Key) (new : Value) :
    (root.Addressable → root.assignWords keys new = .ok (root.assign keys new)) ∧
    (∀ other items, root.lookup? other = some (.array items) →
      ((root.assign keys new).1 = true → ¬root.OnRoute other keys) →
      ∃ items', (root.assign keys new).2.lookup? other = some (.array items') ∧
        Value.GrowsInto (root.Enters keys other) items items') ∧
    (∀ other items', (root.assign keys new).2.lookup? other = some (.array items') →
      (∀ items, root.lookup? other ≠ some (.array items)) →
      ((root.assign keys new).1 = true → ¬(root.assign keys new).2.OnRoute other keys) →
      Value.GrowsInto ((root.assign keys new).2.Enters keys other) [] items') :=
  ⟨fun h => assignWords_eq h keys new, fun _ _ => growsInto_assign, fun _ _ => growsInto_of_assign⟩

/-- An array is filled up, and a new one is made in it. -/
theorem assign_grows_twice :
    let root : Entries := [("list", .array [.bool true])]
    let keys : List Key := [.name "list", .index 3, .index 2]
    let after : Entries := (root.assign keys (.bool false)).2
    (root.Addressable ∧ root.lookup? [.name "list"] = some (.array [.bool true]) ∧
      ¬root.OnRoute [.name "list"] keys ∧
      after.lookup? [.name "list", .name "3"] = some (.array [.null, .null, .bool false]) ∧
      (∀ items, root.lookup? [.name "list", .name "3"] ≠ some (.array items)) ∧
      ¬after.OnRoute [.name "list", .name "3"] keys) ∧
    root.assignWords keys (.bool false) = .ok (root.assign keys (.bool false)) ∧
    (∃ items', after.lookup? [.name "list"] = some (.array items') ∧
      Value.GrowsInto (root.Enters keys [.name "list"]) [.bool true] items') ∧
    Value.GrowsInto (after.Enters keys [.name "list", .name "3"]) [] [.null, .null, .bool false] := by
  intro root keys after
  have haddressable : root.Addressable := by
    refine Value.addressable_of_parts (fun _ h => by cases h) fun k c hc => ?_
    obtain rfl : c = .array [.bool true] :=
      (Prod.mk.inj (List.mem_singleton.1 (Table.mem_of_get?_eq_some hc))).2
    refine Value.addressable_of_parts (fun items h => by cases h; decide) fun k c hc => ?_
    obtain ⟨i, -, hitem⟩ := Value.child?_array_eq_some_iff.1 hc
    obtain rfl := List.mem_singleton.1 (List.mem_of_getElem? hitem)
    exact Value.addressable_of_parts (fun _ h => by cases h) fun _ _ h => by cases h
  have hlist : root.lookup? [.name "list"] = some (.array [.bool true]) := by cbv
  have hmade : after.lookup? [.name "list", .name "3"] =
      some (.array [.null, .null, .bool false]) := by cbv
  have hnone : root.lookup? [.name "list", .name "3"] = none := by cbv
  have hroute : ¬root.OnRoute [.name "list"] keys :=
    Value.not_onRoute_of_length_lt hlist (by decide)
  have hroute' : ¬after.OnRoute [.name "list", .name "3"] keys :=
    Value.not_onRoute_of_length_lt hmade (by decide)
  have hnone' : ∀ items, root.lookup? [.name "list", .name "3"] ≠ some (.array items) := by
    rw [hnone]
    exact fun _ h => by cases h
  obtain ⟨hwords, hgrows, hmakes⟩ := assign_grows root keys (.bool false)
  exact ⟨⟨haddressable, hlist, hroute, hmade, hnone', hroute'⟩, hwords haddressable,
    hgrows _ _ hlist fun _ => hroute, hmakes _ _ hmade hnone' fun _ => hroute'⟩

end Entries

end Wireflow
