/-
How deep values go. A value that is written at some keys stands as many containers deep as there are
keys, so entries that are written go no deeper than they did or than the keys and the value together;
what is removed makes them no deeper. The JSON tree of a value goes as deep as the value does.
-/
import Wireflow.Path.Access
import Wireflow.Proofs.Json.Trees
import Wireflow.Proofs.Table
import Wireflow.Value.Json

namespace Wireflow

namespace Value

/-! ## The measure -/

mutual

/-- How many containers stand inside one another in a value; bytes are one. -/
def nesting : Value → Nat
  | .bytes _ => 1
  | .array items => nestingItems items + 1
  | .object entries => nestingEntries entries + 1
  | _ => 0

/-- How many containers stand inside one another in the items. -/
def nestingItems : List Value → Nat
  | [] => 0
  | v :: rest => max (nesting v) (nestingItems rest)

/-- How many containers stand inside one another in the entries. -/
def nestingEntries : List (String × Value) → Nat
  | [] => 0
  | (_, v) :: rest => max (nesting v) (nestingEntries rest)

end

theorem nestingItems_le_iff {items : List Value} {n : Nat} :
    nestingItems items ≤ n ↔ ∀ v ∈ items, v.nesting ≤ n := by
  induction items with
  | nil => simp [nestingItems]
  | cons v rest ih => rw [nestingItems, Nat.max_le, ih, List.forall_mem_cons]

theorem nestingEntries_le_iff {entries : List (String × Value)} {n : Nat} :
    nestingEntries entries ≤ n ↔ ∀ e ∈ entries, e.2.nesting ≤ n := by
  induction entries with
  | nil => simp [nestingEntries]
  | cons e rest ih =>
    obtain ⟨name, v⟩ := e
    rw [nestingEntries, Nat.max_le, ih, List.forall_mem_cons]

/-! ## Their JSON -/

theorem depth_numberJson (d : Double) : (numberJson d).depth = 0 := by
  unfold numberJson
  split
  · split <;> rfl
  · split <;> rfl

theorem depthItems_bytes (b : List UInt8) :
    Json.depthItems (b.map fun x => Json.ofNat x.toNat) = 0 := by
  induction b with
  | nil => rfl
  | cons x rest ih => rw [List.map_cons, Json.depthItems, Json.depth_ofNat, ih]; rfl

mutual

/-- The tree of a value is as deep as the value. -/
theorem depth_toJson : ∀ v : Value, v.toJson.depth = v.nesting
  | .null => rfl
  | .bool _ => rfl
  | .number d => depth_numberJson d
  | .string _ => rfl
  | .bytes b => by rw [toJson, Json.depth, depthItems_bytes, nesting]
  | .array items => by rw [toJson, Json.depth, depthItems_toJsonItems, nesting]
  | .object entries => by rw [toJson, Json.depth, depthMembers_toJsonEntries, nesting]

theorem depthItems_toJsonItems :
    ∀ items : List Value, Json.depthItems (toJsonItems items) = nestingItems items
  | [] => rfl
  | v :: rest => by
    rw [toJsonItems, Json.depthItems, depth_toJson v, depthItems_toJsonItems rest, nestingItems]

theorem depthMembers_toJsonEntries :
    ∀ entries : List (String × Value), Json.depthMembers (toJsonEntries entries) = nestingEntries entries
  | [] => rfl
  | (_, v) :: rest => by
    rw [toJsonEntries, Json.depthMembers, depth_toJson v, depthMembers_toJsonEntries rest,
      nestingEntries]

end

/-! ## Writing -/

variable {n : Nat}

theorem nesting_insert {m : List (String × Value)} {k : String} {v : Value}
    (hm : nesting (.object m) ≤ n + 1) (hv : v.nesting ≤ n) :
    nesting (.object (Table.insert k v m)) ≤ n + 1 := by
  rw [nesting] at hm ⊢
  refine Nat.succ_le_succ (nestingEntries_le_iff.2 fun e he => ?_)
  rcases Table.mem_of_mem_insert he with rfl | he
  · exact hv
  · exact nestingEntries_le_iff.1 (Nat.le_of_succ_le_succ hm) e he

theorem nesting_set {items : List Value} {i : Nat} {v : Value}
    (hitems : nesting (.array items) ≤ n + 1) (hv : v.nesting ≤ n) :
    nesting (.array (items.set i v)) ≤ n + 1 := by
  rw [nesting] at hitems ⊢
  refine Nat.succ_le_succ (nestingItems_le_iff.2 fun x hx => ?_)
  rcases List.mem_or_eq_of_mem_set hx with hx | rfl
  · exact nestingItems_le_iff.1 (Nat.le_of_succ_le_succ hitems) x hx
  · exact hv

theorem nesting_padded {items : List Value} {i : Nat} (hitems : nesting (.array items) ≤ n + 1) :
    nesting (.array (padded items i)) ≤ n + 1 := by
  rw [nesting] at hitems ⊢
  refine Nat.succ_le_succ (nestingItems_le_iff.2 fun x hx => ?_)
  rcases List.mem_append.1 hx with hx | hx
  · exact nestingItems_le_iff.1 (Nat.le_of_succ_le_succ hitems) x hx
  · rw [List.eq_of_mem_replicate hx]
    exact Nat.zero_le n

theorem nesting_child {v c : Value} {k : Key} (hv : v.nesting ≤ n + 1) (h : v.child? k = some c) :
    c.nesting ≤ n := by
  unfold child? at h
  split at h
  · rw [nesting] at hv
    exact nestingEntries_le_iff.1 (Nat.le_of_succ_le_succ hv) _ (Table.mem_of_get?_eq_some h)
  · split at h
    · rw [nesting] at hv
      exact nestingItems_le_iff.1 (Nat.le_of_succ_le_succ hv) c (List.mem_of_getElem? h)
    · cases h
  · cases h

theorem nesting_opened {v : Value} (hv : v.nesting ≤ n + 1) (k : Key) :
    (v.opened k).nesting ≤ n + 1 := by
  unfold opened
  split
  · cases k <;> exact Nat.succ_le_succ (Nat.zero_le n)
  · exact hv

/-- A value with another one written into it goes no deeper than it did or than the keys and the other
one together, whether or not the write reaches its end. -/
theorem nesting_assignIn (new : Value) (keys : List Key) :
    ∀ {n : Nat} {v : Value}, v.nesting ≤ n → keys.length + new.nesting ≤ n →
      (assignIn new v keys).2.nesting ≤ n := by
  induction keys with
  | nil =>
    intro n v _ hnew
    rw [assignIn]
    simpa using hnew
  | cons k rest ih =>
    intro n v hv hnew
    obtain ⟨n, rfl⟩ : ∃ m, n = m + 1 := by
      rw [List.length_cons] at hnew
      exact ⟨n - 1, by omega⟩
    have hrest : rest.length + new.nesting ≤ n := by
      rw [List.length_cons] at hnew
      omega
    have hopened := nesting_opened hv k
    -- the part that is written into is one level down, or null when it is not there
    have hpart {c : Option Value} (hc : ∀ x, c = some x → x.nesting ≤ n) :
        (assignIn new (c.getD .null) rest).2.nesting ≤ n := by
      refine ih ?_ hrest
      cases c with
      | none => exact Nat.zero_le n
      | some x => exact hc x rfl
    unfold assignIn
    split
    · rename_i m hm
      rw [hm] at hopened
      exact nesting_insert hopened (hpart fun x hx => nesting_child hopened (k := k) hx)
    · rename_i items hitems
      rw [hitems] at hopened
      split
      · exact hopened
      · rename_i i _
        split
        · have hpadded := nesting_padded (i := i) hopened
          rw [nesting] at hpadded
          exact nesting_set (nesting_padded hopened) (hpart fun x hx =>
            nestingItems_le_iff.1 (Nat.le_of_succ_le_succ hpadded) x (List.mem_of_getElem? hx))
        · exact hopened
    · exact hopened

/-! ## Removing -/

theorem nesting_takeChild {v v' old : Value} {k : Key} (hv : v.nesting ≤ n)
    (h : v.takeChild? k = some (old, v')) : v'.nesting ≤ n := by
  unfold takeChild? at h
  split at h
  · split at h
    · cases h
      refine le_trans (Nat.succ_le_succ (nestingEntries_le_iff.2 fun e he => ?_)) hv
      exact nestingEntries_le_iff.1 le_rfl e (Table.mem_of_mem_erase he)
    · cases h
  · split at h
    · split at h
      · cases h
        refine le_trans (Nat.succ_le_succ (nestingItems_le_iff.2 fun x hx => ?_)) hv
        exact nestingItems_le_iff.1 le_rfl x (List.mem_of_mem_eraseIdx hx)
      · cases h
    · cases h
  · cases h

theorem nesting_setChild {v c : Value} (hv : v.nesting ≤ n + 1) (hc : c.nesting ≤ n) (k : Key) :
    (v.setChild k c).nesting ≤ n + 1 := by
  unfold setChild
  split
  · exact nesting_insert hv hc
  · split
    · exact nesting_set hv hc
    · exact hv
  · exact hv

/-- A value that something has been removed from goes no deeper than it did. -/
theorem nesting_removeIn (keys : List Key) :
    ∀ {n : Nat} {v v' old : Value}, v.nesting ≤ n → v.removeIn? keys = some (old, v') →
      v'.nesting ≤ n := by
  induction keys with
  | nil =>
    intro n v v' old _ h
    cases h
  | cons k rest ih =>
    intro n v v' old hv h
    cases rest with
    | nil => exact nesting_takeChild hv h
    | cons k' rest =>
      unfold removeIn? at h
      split at h
      · cases h
      · rename_i c hc
        split at h
        · rename_i old' c' hrest
          cases h
          cases n with
          | zero =>
            -- a value without containers has no part that something could be removed from
            cases v <;> simp [nesting, child?] at hv hc
          | succ n => exact nesting_setChild hv (ih (nesting_child hv hc) hrest) k
        · cases h

/-! ## Entries -/

/-- Entries with a value written go no deeper than they did or than the keys and the value together. -/
theorem nesting_assign {root : Entries} {keys : List Key} {new : Value}
    (hroot : nesting (.object root) ≤ n) (hnew : keys.length + new.nesting ≤ n) :
    nesting (.object (root.assign keys new).2) ≤ n := by
  cases keys with
  | nil => exact hroot
  | cons first rest =>
    obtain ⟨n, rfl⟩ : ∃ m, n = m + 1 := by
      rw [nesting] at hroot
      exact ⟨n - 1, by omega⟩
    refine nesting_insert hroot (nesting_assignIn new rest ?_ ?_)
    · cases hget : Table.get? first.text root with
      | none => exact Nat.zero_le n
      | some v => exact nesting_child hroot (k := first) hget
    · rw [List.length_cons] at hnew
      omega

/-- Entries that something has been removed from go no deeper than they did. -/
theorem nesting_remove {root : Entries} (hroot : nesting (.object root) ≤ n) (keys : List Key) :
    nesting (.object (root.remove keys).2) ≤ n := by
  obtain ⟨n, rfl⟩ : ∃ m, n = m + 1 := by
    rw [nesting] at hroot
    exact ⟨n - 1, by omega⟩
  match keys with
  | [] => exact hroot
  | [last] =>
    refine le_trans (Nat.succ_le_succ (nestingEntries_le_iff.2 fun e he => ?_)) hroot
    exact nestingEntries_le_iff.1 le_rfl e (Table.mem_of_mem_erase he)
  | first :: second :: rest =>
    simp only [Entries.remove]
    split
    · exact hroot
    · rename_i v hget
      split
      · rename_i old v' hremove
        have hv : v.nesting ≤ n := nesting_child hroot (k := first) hget
        exact nesting_insert hroot (nesting_removeIn _ hv hremove)
      · exact hroot

/-! ## Towers -/

/-- A value inside as many objects as there are names. -/
def tower (names : List String) (v : Value) : Value :=
  names.foldr (fun name v => .object [(name, v)]) v

theorem nesting_tower (names : List String) (v : Value) :
    (tower names v).nesting = names.length + v.nesting := by
  induction names with
  | nil => simp [tower]
  | cons name rest ih =>
    change nesting (.object [(name, tower rest v)]) = _
    rw [nesting, nestingEntries, nestingEntries, ih, List.length_cons]
    omega

/-- Where nothing stands, a value is written inside an object for every name. -/
theorem assignIn_null (new : Value) (names : List String) :
    assignIn new .null (names.map Key.name) = (true, tower names new) := by
  induction names with
  | nil => rfl
  | cons name rest ih =>
    rw [List.map_cons, assignIn]
    simp only [opened, emptyFor, Table.get?_nil, Option.getD_none, ih]
    rfl

theorem accepted_toJson_tower {v : Value} (h : v.toJson.Accepted) (names : List String) :
    (tower names v).toJson.Accepted := by
  induction names with
  | nil => exact h
  | cons name rest ih => exact ⟨ih, trivial⟩

end Value

end Wireflow
