/-
Values of which a part has been lost. When all texts, numbers, truth values and bytes of a smaller value
stand where they do in a larger one, then a path that can be bound to the smaller one has the same keys in
the larger one. That is so when an entry or the last item of an array has been taken out. What has been
taken out like this can be put back, and an item that others come after cannot.
-/
import Wireflow.Path.Binding
import Wireflow.Proofs.Path.Removing
import Wireflow.Proofs.Value.Nesting
import Wireflow.Proofs.Value.Order

namespace Wireflow

namespace Value

variable {v w c d p p' x new : Value} {k k' : Key} {keys keys' parents : List Key} {last : Key}

/-! ## Scalars that stay -/

/-- All texts, numbers, truth values and bytes of a value stand in another one at the same keys. -/
def ScalarsStayIn (v w : Value) : Prop :=
  ∀ keys x, v.lookupIn? keys = some x → x.IsScalar → w.lookupIn? keys = some x

theorem ScalarsStayIn.refl (v : Value) : v.ScalarsStayIn v :=
  fun _ _ h _ => h

theorem scalarsStayIn_of_parts (hscalar : ¬v.IsScalar)
    (hparts : ∀ k c, v.child? k = some c → ∃ d, w.child? k = some d ∧ c.ScalarsStayIn d) :
    v.ScalarsStayIn w := by
  intro keys x hx hs
  cases keys with
  | nil =>
    cases hx
    exact absurd hs hscalar
  | cons k rest =>
    obtain ⟨c, hc, hx⟩ := lookupIn?_cons_eq_some_iff.1 hx
    obtain ⟨d, hd, hstay⟩ := hparts k c hc
    exact lookupIn?_cons_eq_some_iff.2 ⟨d, hd, hstay rest x hx hs⟩

theorem not_isScalar_of_child? (h : v.child? k = some c) : ¬v.IsScalar := by
  cases v with
  | object m => exact id
  | array items => exact id
  | _ => cases h

/-- Scalars stay where a part is replaced by one whose scalars were there. -/
theorem scalarsStayIn_replaceIn (hp : v.lookupIn? keys = some p) (h : p'.ScalarsStayIn p) :
    (v.replaceIn keys p').ScalarsStayIn v := by
  induction keys generalizing v with
  | nil =>
    cases hp
    exact h
  | cons k rest ih =>
    obtain ⟨c, hc, hp⟩ := lookupIn?_cons_eq_some_iff.1 hp
    rw [replaceIn_cons hc]
    have hthere := child?_setChild hc (c.replaceIn rest p')
    refine scalarsStayIn_of_parts (not_isScalar_of_child? hthere) fun k' d hd => ?_
    by_cases hslot : v.SameSlot k k'
    · rw [(hslot.setChild k _).child?_eq, hthere] at hd
      cases hd
      exact ⟨c, hslot.child?_eq.trans hc, ih hp⟩
    · rw [child?_setChild_of_not_sameSlot hslot] at hd
      exact ⟨d, hd, .refl d⟩

/-- Scalars stay when something is written where nothing stands. -/
theorem scalarsStayIn_assignIn (new : Value) (keys : List Key) :
    ∀ {v : Value}, (assignIn new v keys).1 = true → v.lookupIn? keys = none →
      v.ScalarsStayIn (assignIn new v keys).2 := by
  induction keys with
  | nil =>
    intro v _ hnone
    cases hnone
  | cons k rest ih =>
    intro v h hnone
    rw [assignIn_cons] at h ⊢
    split at h
    · rename_i hadmits
      rw [if_pos hadmits]
      refine scalarsStayIn_of_parts (fun hs => ?_) fun k' d hd => ?_
      · cases v with
        | null | object _ | array _ => exact hs
        | _ => cases hadmits
      · rw [opened_of_child? hd] at h hadmits ⊢
        by_cases hslot : v.SameSlot k k'
        · have hc : v.child? k = some d := hslot.child?_eq ▸ hd
          rw [lookupIn?_cons, hc] at hnone
          rw [part_of_child? hc] at h ⊢
          exact ⟨_, (hslot.put k _).child?_eq.trans (child?_put hadmits _), ih h hnone⟩
        · exact ⟨d, child?_put_of_not_sameSlot hslot hd _, .refl d⟩
    · cases h

/-! ## Sizes -/

theorem nesting_lookupIn?_le (h : v.lookupIn? keys = some x) : x.nesting + keys.length ≤ v.nesting := by
  induction keys generalizing v with
  | nil =>
    cases h
    exact le_rfl
  | cons k rest ih =>
    obtain ⟨c, hc, h⟩ := lookupIn?_cons_eq_some_iff.1 h
    have hrest := ih h
    cases hn : v.nesting with
    | zero => cases v <;> simp [nesting, child?] at hn hc
    | succ n =>
      have hle := nesting_child hn.le hc
      rw [List.length_cons]
      omega

/-- An array keeps its length when something that stands in the value is replaced, if the array was not
part of that and is not part of what takes its place. -/
theorem length_replaceIn {items items' : List Value} {other : List Key}
    (hx : v.lookupIn? keys = some x) (hitems : v.lookupIn? other = some (.array items))
    (hitems' : (v.replaceIn keys new).lookupIn? other = some (.array items')) :
    items'.length = items.length ∨ ∃ rest, new.lookupIn? rest = some (.array items') := by
  induction keys generalizing v other with
  | nil => exact .inr ⟨other, hitems'⟩
  | cons k rest ih =>
    obtain ⟨c, hc, hx⟩ := lookupIn?_cons_eq_some_iff.1 hx
    rw [replaceIn_cons hc] at hitems'
    cases other with
    | nil =>
      cases hitems
      unfold setChild at hitems'
      obtain ⟨i, hi, -⟩ := child?_array_eq_some_iff.1 hc
      rw [hi] at hitems'
      cases hitems'
      exact .inl List.length_set
    | cons k' rest' =>
      rw [lookupIn?_cons] at hitems hitems'
      by_cases hslot : v.SameSlot k k'
      · rw [hslot.child?_eq, hc] at hitems
        rw [(hslot.setChild k _).child?_eq, child?_setChild hc] at hitems'
        exact ih hx hitems hitems'
      · rw [child?_setChild_of_not_sameSlot hslot, hitems] at hitems'
        cases hitems'
        exact .inl rfl

/-! ## Taking out and putting back -/

/-- What stands at a key is not an item of an array that another item comes after. -/
def IsLast (p : Value) (k : Key) : Prop :=
  ∀ items i, p = .array items → k.position? = some i → items.length ≤ i + 1

theorem scalarsStayIn_takeChild? (h : p.takeChild? last = some (x, p')) (hlast : p.IsLast last) :
    p'.ScalarsStayIn p := by
  cases p with
  | object m =>
    obtain ⟨hx, rfl⟩ := takeChild?_object_eq_some_iff.1 h
    refine scalarsStayIn_of_parts id fun k d hd => ⟨d, ?_, .refl d⟩
    rw [child?_object] at hd ⊢
    rw [← hd]
    refine (Table.get?_erase_of_ne (fun hk => ?_) m).symm
    rw [hk, Table.get?_erase_self] at hd
    cases hd
  | array items =>
    obtain ⟨i, hi, -, rfl⟩ := takeChild?_array_eq_some_iff.1 h
    have hend := hlast items i rfl hi
    refine scalarsStayIn_of_parts id fun k d hd => ⟨d, ?_, .refl d⟩
    obtain ⟨j, hj, hitem⟩ := child?_array_eq_some_iff.1 hd
    refine child?_array_eq_some_iff.2 ⟨j, hj, ?_⟩
    by_cases hij : j < i
    · rwa [List.getElem?_eraseIdx_of_lt hij] at hitem
    · -- nothing has moved into the place of the last item
      rw [List.getElem?_eraseIdx_of_ge (not_lt.1 hij),
        List.getElem?_eq_none (by omega)] at hitem
      cases hitem
  | _ => cases h

theorem assignIn_array_end {items : List Value} (h : k.position? = some items.length) (new : Value) :
    assignIn new (.array items) [k] = (true, .array (items ++ [new])) := by
  have hadmits : (array items).admits k = true := by simp [admits, h, reaches]
  rw [assignIn_cons, opened_of_admits hadmits, if_pos hadmits]
  refine Prod.ext rfl ?_
  unfold put padded
  rw [h]
  simp [assignIn]

/-- What has been taken out of a container is put back by a write to the same slot. -/
theorem assignIn_takeChild? (h : p.takeChild? k = some (x, p')) (hslot : p.SameSlot k k')
    (hordered : p.Ordered) (hlast : p.IsLast k) : assignIn x p' [k'] = (true, p) := by
  cases p with
  | object m =>
    obtain ⟨hx, rfl⟩ := takeChild?_object_eq_some_iff.1 h
    rw [assignIn_cons]
    refine Prod.ext rfl (congrArg object ?_)
    show Table.insert k'.text x (Table.erase k.text m) = m
    rw [← show k.text = k'.text from hslot]
    exact hordered.sorted.insert_erase hx
  | array items =>
    obtain ⟨i, hi, hx, rfl⟩ := takeChild?_array_eq_some_iff.1 h
    have hi' : k'.position? = some i := by
      rw [← hi]
      exact Eq.symm hslot
    have hlt := (List.getElem?_eq_some_iff.1 hx).1
    have hend := hlast items i rfl hi
    obtain rfl : i = items.length - 1 := by omega
    have hgetLast : x ∈ items.getLast? := by rw [List.getLast?_eq_getElem?, hx]; rfl
    rw [← List.dropLast_eq_eraseIdx (by omega), assignIn_array_end (by rw [hi', List.length_dropLast]),
      List.dropLast_append_getLast? x hgetLast]
  | _ => cases h

theorem isScalar_of_key? (h : v.key? = some k) : v.IsScalar := by
  cases v with
  | string _ | number _ => trivial
  | _ => cases h

end Value

/-! ## Binding -/

mutual

/-- A segment that has a key in smaller entries has the same one in larger entries. -/
theorem Segment.bind?_of_scalarsStayIn {small large : Entries}
    (h : (Value.object small).ScalarsStayIn (.object large)) :
    ∀ {s : Segment} {k : Key}, s.bind? (some small) = some k → s.bind? (some large) = some k
  | .name _, _, hk => hk
  | .index _, _, hk => hk
  | .reference _ segments, k, hk => by
    rw [Segment.bind?] at hk ⊢
    cases hkeys : Segment.bindAll? (some small) segments with
    | none =>
      rw [hkeys] at hk
      cases hk
    | some keys =>
      rw [hkeys] at hk
      rw [Segment.bindAll?_of_scalarsStayIn h hkeys]
      dsimp only at hk ⊢
      cases hx : small.lookup? keys with
      | none =>
        rw [hx] at hk
        cases hk
      | some x =>
        rw [hx] at hk
        have hne := Entries.ne_nil_of_lookup? hx
        rw [Entries.lookup?_eq _ hne] at hx ⊢
        rw [h keys x hx (Value.isScalar_of_key? hk)]
        exact hk

/-- Segments that have keys in smaller entries have the same ones in larger entries. -/
theorem Segment.bindAll?_of_scalarsStayIn {small large : Entries}
    (h : (Value.object small).ScalarsStayIn (.object large)) :
    ∀ {segments : List Segment} {keys : List Key},
      Segment.bindAll? (some small) segments = some keys →
        Segment.bindAll? (some large) segments = some keys
  | [], _, hkeys => hkeys
  | s :: rest, keys, hkeys => by
    rw [Segment.bindAll?] at hkeys ⊢
    cases hk : Segment.bind? (some small) s with
    | none =>
      rw [hk] at hkeys
      cases hkeys
    | some k =>
      rw [hk] at hkeys
      rw [Segment.bind?_of_scalarsStayIn h hk]
      dsimp only at hkeys ⊢
      cases hrest : Segment.bindAll? (some small) rest with
      | none =>
        rw [hrest] at hkeys
        cases hkeys
      | some ks =>
        rw [hrest] at hkeys
        rw [Segment.bindAll?_of_scalarsStayIn h hrest]
        exact hkeys

end

end Wireflow
