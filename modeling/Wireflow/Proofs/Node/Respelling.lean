/-
Moves of a message's property onto itself. One that is written alike twice is known to change nothing. A
destination that is spelled differently is bound again when the value has already been taken out, and an
item that others come after has left its index to the next one by then. So the move gives the message
back exactly when the destination can still be bound and no item has moved down.
-/
import Wireflow.Proofs.Node.Moving
import Wireflow.Proofs.Path.Shrinking

namespace Wireflow

namespace Entries

variable {root : Entries} {keys keys' again : List Key} {x : Value} {path : Path}

/-- What stands at the keys is an item of an array, and another item comes after it. -/
def Followed (root : Entries) (keys : List Key) : Prop :=
  ∃ parents last items i, keys = parents ++ [last] ∧ root.lookup? parents = some (.array items) ∧
    last.position? = some i ∧ i + 1 < items.length

theorem isLast_of_not_followed {parents : List Key} {last : Key} {p : Value}
    (hp : (Value.object root).lookupIn? parents = some p) (h : ¬root.Followed (parents ++ [last])) :
    p.IsLast last := by
  rintro items i rfl hi
  by_contra hlt
  have hparents : parents ≠ [] := by
    rintro rfl
    cases hp
  rw [← lookup?_eq _ hparents] at hp
  exact h ⟨parents, last, items, i, rfl, hp, hi, not_le.1 hlt⟩

/-- A path that can be bound when something that nothing follows has been taken out had the same keys
before. -/
theorem bind?_of_bind?_remove (hx : root.lookup? keys = some x) (hlast : ¬root.Followed keys)
    (h : path.bind? (some (root.remove keys).2) = some again) :
    path.bind? (some root) = some again := by
  obtain ⟨parents, last, p, p', rfl, hp, htake, hafter⟩ := remove_cases hx
  refine Segment.bindAll?_of_scalarsStayIn ?_ h
  rw [hafter]
  exact Value.scalarsStayIn_replaceIn hp
    (Value.scalarsStayIn_takeChild? htake (isLast_of_not_followed hp hlast))

/-- Something that nothing follows is put back by a write to its place. -/
theorem assign_remove (hordered : root.Ordered) (hx : root.lookup? keys = some x)
    (hplace : root.SamePlace keys keys') (hlast : ¬root.Followed keys) :
    (root.remove keys).2.assign keys' x = (true, root) := by
  obtain ⟨parents, last, p, p', rfl, hp, htake, hafter⟩ := remove_cases hx
  have hchild : p.child? last = some x := by
    rw [← Value.fst_takeChild?, htake]
    rfl
  obtain ⟨before, last', rfl, hbefore, hslot⟩ := Value.SamePlace.of_append hplace hp hchild
  have hne : before ++ [last'] ≠ [] := by simp
  have hback := Value.assignIn_append x before [last']
    (Value.lookupIn?_replaceIn hbefore hp p')
  rw [Value.assignIn_takeChild? htake hslot (hordered.lookupIn? hp)
    (isLast_of_not_followed hp hlast), Value.replaceIn_replaceIn hbefore hp,
    hordered.replaceIn_self hp, ← hafter, assign_eq _ hne] at hback
  obtain ⟨hone, htwo⟩ := Prod.mk.inj hback
  exact Prod.ext hone (Value.object.inj htwo)

/-- When an item that others come after has been taken out, no write of it at a path that named its
place gives the entries back. -/
theorem assign_remove_ne (hx : root.lookup? keys = some x) (hplace : root.SamePlace keys keys')
    (hfollowed : root.Followed keys) (hpath : path.bind? (some root) = some keys')
    (hagain : path.bind? (some (root.remove keys).2) = some again) :
    (root.remove keys).2.assign again x ≠ (true, root) := by
  intro hback
  obtain ⟨parents, last, items, i, rfl, hitems, hi, hlt⟩ := hfollowed
  have hne : again ≠ [] := ne_nil_of_assign (congrArg Prod.fst hback)
  have hassign := assign_eq (root.remove (parents ++ [last])).2 hne x
  rw [hback] at hassign
  rw [lookup?_eq _ (ne_nil_of_lookup? hitems)] at hitems
  -- the item that is taken out, and the array without it
  rw [lookup?_eq _ (by simp), Value.lookupIn?_append, hitems, Option.bind_some] at hx
  have hchild : (Value.array items).child? last = some x := by rwa [Value.lookupIn?_singleton] at hx
  have hitem : items[i]? = some x := by rwa [Value.child?_array, hi] at hchild
  have hafter := object_remove_append hitems
    (Value.takeChild?_array_eq_some_iff.2 ⟨i, hi, hitem, rfl⟩)
  cases hold : (Value.object (root.remove (parents ++ [last])).2).lookupIn? again with
  | none =>
    -- the write makes its place, so the path has the keys that it had, which find the next item
    have hstay := Value.scalarsStayIn_assignIn x again (congrArg Prod.fst hassign) hold
    rw [hassign] at hstay
    obtain rfl : again = keys' :=
      Option.some.inj ((Segment.bindAll?_of_scalarsStayIn hstay hagain).symm.trans hpath)
    obtain ⟨before, last', rfl, hbefore, hslot⟩ := Value.SamePlace.of_append hplace hitems hchild
    rw [hafter, Value.lookupIn?_append, Value.lookupIn?_replaceIn hbefore hitems,
      Option.bind_some, Value.lookupIn?_cons, Value.child?_array,
      ← show last.position? = last'.position? from hslot, hi, Option.bind_some,
      List.getElem?_eraseIdx_of_ge le_rfl, List.getElem?_eq_getElem hlt] at hold
    cases hold
  | some old =>
    -- the write replaces something, and the array stays shorter than it was
    rw [Value.assignIn_of_lookupIn? x hold] at hassign
    have hroot := (Prod.mk.inj hassign).2
    have hshort : (Value.object (root.remove (parents ++ [last])).2).lookupIn? parents =
        some (.array (items.eraseIdx i)) := by
      rw [hafter, Value.lookupIn?_replaceIn (.refl _ parents) hitems]
    rcases Value.length_replaceIn hold hshort (hroot ▸ hitems) with hlength | ⟨rest, hrest⟩
    · rw [List.length_eraseIdx_of_lt (by omega)] at hlength
      omega
    · -- nor is the array part of its own item
      have hbelow := Value.nesting_lookupIn?_le hrest
      have habove := Value.nesting_lookupIn?_le hx
      rw [List.length_singleton] at habove
      omega

end Entries

/-! ## The move -/

theorem Message.setPath_eq_true_iff {msg msg' : Message} {path : Path} {v : Value} :
    msg.setPath path v = (true, msg') ↔ ∃ keys, path.bind? (some msg.entries) = some keys ∧
      msg.entries.assign keys v = (true, msg'.entries) := by
  unfold setPath
  cases path.bind? (some msg.entries) with
  | none => simp
  | some keys =>
    simp only [Option.some.injEq, exists_eq_left', Prod.ext_iff]
    exact Iff.and Iff.rfl ⟨fun h => h ▸ rfl, fun h => congrArg Message.mk h⟩

theorem Target.set_message_eq_ok_iff {s : Setting} {msg msg' : Message} {path : Path} {v : Value} :
    (Target.message path).set s msg (some v) = (.ok (), msg', s.contexts) ↔
      msg.setPath path v = (true, msg') := by
  simp only [set]
  obtain ⟨done, next⟩ := msg.setPath path v
  cases done <;> simp

namespace ChangeRule

/-- A move from one spelling of a place in the message to another gives the message back exactly when
the spellings are the same text, when nothing stands there, or when the destination can be bound again
once the value is taken out, and the value was not an item with another one after it. -/
theorem move_onto_itself_iff {s : Setting} {msg : Message} {source destination : Path}
    {keys keys' : List Key} (hordered : msg.entries.Ordered)
    (hsource : source.bind? (some msg.entries) = some keys)
    (hdestination : destination.bind? (some msg.entries) = some keys')
    (hplace : msg.entries.SamePlace keys keys') :
    (move (.message source) (.message destination)).apply s msg = (.ok (), msg, s.contexts) ↔
      source.source = destination.source ∨ msg.getPath? source = none ∨
      (destination.bind? (some (msg.removePath source).2.entries)).isSome ∧
        ¬msg.entries.Followed keys := by
  have hget : msg.getPath? source = msg.entries.lookup? keys := by
    simp only [Message.getPath?, hsource]
  have hremove : (msg.removePath source).2 = ⟨(msg.entries.remove keys).2⟩ := by
    simp only [Message.removePath, hsource]
  simp only [apply, Target.writtenAlike, beq_iff_eq, Target.get?, hget, hremove]
  split
  · rename_i halike
    simp only [halike, true_or]
  · rename_i hdiffer
    cases hx : msg.entries.lookup? keys with
    | none => simp only [true_or, or_true]
    | some x =>
      simp only [hdiffer, reduceCtorEq, false_or]
      show (Target.message destination).set s (msg.removePath source).2 (some x) = _ ↔ _
      rw [Target.set_message_eq_ok_iff, Message.setPath_eq_true_iff, hremove,
        Option.isSome_iff_exists]
      constructor
      · rintro ⟨again, hagain, hback⟩
        exact ⟨⟨again, hagain⟩, fun hfollowed =>
          Entries.assign_remove_ne hx hplace hfollowed hdestination hagain hback⟩
      · rintro ⟨⟨again, hagain⟩, hlast⟩
        have hsame := Entries.bind?_of_bind?_remove hx hlast hagain
        obtain rfl : keys' = again := Option.some.inj (hdestination.symm.trans hsame)
        exact ⟨keys', hagain, Entries.assign_remove hordered hx hplace hlast⟩

/-- The last item of an array, named once by its index and once by a numeral behind a reference. -/
theorem move_onto_itself_iff_last :
    let source : Path :=
      { source := "a.b[1]", segments := [.name "a", .name "b", .index 1] }
    let destination : Path :=
      { source := "a[msg.k]['1']"
        segments := [.name "a", .reference "k" [.name "k"], .name "1"] }
    let entries : Entries :=
      [("a", .object [("b", .array [.bool true, .null])]), ("k", .string "b")]
    let keys : List Key := [.name "a", .name "b", .index 1]
    let keys' : List Key := [.name "a", .name "b", .name "1"]
    (entries.Ordered ∧ source.bind? (some entries) = some keys ∧
      destination.bind? (some entries) = some keys' ∧ entries.SamePlace keys keys') ∧
    (move (.message source) (.message destination)).apply keptSetting ⟨entries⟩ =
      (.ok (), ⟨entries⟩, keptSetting.contexts) := by
  intro source destination entries keys keys'
  have hordered : entries.Ordered := by
    refine Value.ordered_object (by unfold Table.Sorted; decide) fun e he => ?_
    rcases List.mem_cons.1 he with rfl | he
    · refine Value.ordered_object (List.pairwise_singleton _ _) fun e he => ?_
      obtain rfl := List.mem_singleton.1 he
      refine Value.ordered_array fun x hx => ?_
      rcases List.mem_cons.1 hx with rfl | hx
      · exact Value.IsScalar.ordered trivial
      · obtain rfl := List.mem_singleton.1 hx
        exact Value.ordered_null
    · obtain rfl := List.mem_singleton.1 he
      exact Value.IsScalar.ordered trivial
  have hsource : source.bind? (some entries) = some keys := by cbv
  have hdestination : destination.bind? (some entries) = some keys' := by cbv
  have hplace : entries.SamePlace keys keys' := by
    have hslot : (Value.array [.bool true, .null]).SameSlot (.index 1) (.name "1") :=
      show (Key.index 1).position? = (Key.name "1").position? by decide
    exact .cons rfl rfl (.cons rfl rfl ⟨hslot, fun _ _ => trivial⟩)
  have hlast : ¬entries.Followed keys := by
    rintro ⟨parents, last, items, i, hkeys, hitems, hi, hlt⟩
    obtain ⟨rfl, hsame⟩ :=
      List.append_inj' (show [.name "a", .name "b"] ++ [.index 1] = parents ++ [last] from hkeys) rfl
    cases hsame
    cases hitems
    cases hi
    exact absurd hlt (by decide)
  exact ⟨⟨hordered, hsource, hdestination, hplace⟩,
    (move_onto_itself_iff hordered hsource hdestination hplace).2
      (.inr (.inr ⟨by cbv, hlast⟩))⟩

/-- A move onto itself does not always give the message back: the first of two items, named by its index
and by a numeral, takes the place of the second. -/
theorem not_move_onto_itself_keeps :
    ¬∀ (now : Double) (config : ChangeRuleConfig) (source destination : Path) (s : Setting)
        (msg : Message) (keys keys' : List Key),
      compile now config = .ok (move (.message source) (.message destination)) →
      source.bind? (some msg.entries) = some keys →
      destination.bind? (some msg.entries) = some keys' →
      msg.entries.SamePlace keys keys' →
      (move (.message source) (.message destination)).apply s msg = (.ok (), msg, s.contexts) := by
  intro h
  let config : ChangeRuleConfig :=
    { action := "move", target := "list[0]", targetType := none,
      value := some (.string "list['0']"), valueType := none }
  let source : Path := { source := "list[0]", segments := [.name "list", .index 0] }
  let destination : Path := { source := "list['0']", segments := [.name "list", .name "0"] }
  let msg : Message :=
    ⟨[("_msgid", .string "m1"), ("list", .array [.bool true, .bool false])]⟩
  have hcompile : compile Double.zero config =
      .ok (move (.message source) (.message destination)) := by cbv
  have hplace : msg.entries.SamePlace [.name "list", .index 0] [.name "list", .name "0"] := by
    have hslot : (Value.array [.bool true, .bool false]).SameSlot (.index 0) (.name "0") :=
      show (Key.index 0).position? = (Key.name "0").position? by decide
    exact .cons rfl rfl ⟨hslot, fun _ _ => trivial⟩
  have hkept := h Double.zero config source destination keptSetting msg _ _ hcompile rfl rfl hplace
  have hlost : ((move (.message source) (.message destination)).apply keptSetting msg).2.1 =
      ⟨[("_msgid", .string "m1"), ("list", .array [.bool true])]⟩ := by cbv
  rw [hkept] at hlost
  cases hlost

end ChangeRule

end Wireflow
