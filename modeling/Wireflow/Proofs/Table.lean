/-
Laws of tables beyond reading after writing: which entries a change leaves in the list, and tables
whose names ascend, which are determined by what is found under each name.
-/
import Wireflow.Table
import Mathlib.Tactic

namespace Wireflow

namespace Table

/-! ## Entries of the list -/

section Members

variable {α : Type u} {k : String} {v : α} {e : String × α} {t : Table α}

theorem mem_of_get?_eq_some (h : t.get? k = some v) : (k, v) ∈ t := by
  induction t with
  | nil => cases h
  | cons x t ih =>
    obtain ⟨k', v'⟩ := x
    unfold get? at h
    split at h
    · rename_i hk
      cases h
      exact hk ▸ List.mem_cons_self ..
    · exact List.mem_cons_of_mem _ (ih h)

theorem mem_of_mem_insert (h : e ∈ t.insert k v) : e = (k, v) ∨ e ∈ t := by
  induction t with
  | nil => exact .inl (List.mem_singleton.1 h)
  | cons x t ih =>
    obtain ⟨k', v'⟩ := x
    unfold insert at h
    split at h
    · rcases List.mem_cons.1 h with h | h
      · exact .inl h
      · exact .inr (List.mem_cons_of_mem _ h)
    · split at h
      · exact List.mem_cons.1 h
      · rcases List.mem_cons.1 h with rfl | h
        · exact .inr (List.mem_cons_self ..)
        · exact (ih h).imp_right (List.mem_cons_of_mem _)

theorem mem_of_mem_erase (h : e ∈ t.erase k) : e ∈ t := by
  induction t with
  | nil => exact h
  | cons x t ih =>
    obtain ⟨k', v'⟩ := x
    unfold erase at h
    split at h
    · exact List.mem_cons_of_mem _ (ih h)
    · rcases List.mem_cons.1 h with rfl | h
      · exact List.mem_cons_self ..
      · exact List.mem_cons_of_mem _ (ih h)

theorem erase_sublist (k : String) (t : Table α) : (t.erase k).Sublist t := by
  induction t with
  | nil => exact List.Sublist.refl _
  | cons d t ih =>
    obtain ⟨k', v'⟩ := d
    unfold erase
    split
    · exact ih.cons _
    · exact ih.cons_cons _

end Members

/-! ## Sorted tables -/

section Sorted

variable {α : Type u} {β : Type v}

/-- The names of the entries ascend. -/
def Sorted (t : Table α) : Prop :=
  t.Pairwise fun d e => d.1 < e.1

theorem Sorted.insert {t : Table α} (h : t.Sorted) (k : String) (v : α) : (t.insert k v).Sorted := by
  induction t with
  | nil => exact List.pairwise_singleton _ _
  | cons d t ih =>
    obtain ⟨k', v'⟩ := d
    obtain ⟨hfirst, hrest⟩ := List.pairwise_cons.1 h
    unfold Table.insert
    split
    · rename_i hk
      subst hk
      exact List.pairwise_cons.2 ⟨hfirst, hrest⟩
    · rename_i hne
      split
      · rename_i hlt
        refine List.pairwise_cons.2 ⟨fun e he => ?_, h⟩
        rcases List.mem_cons.1 he with rfl | he
        · exact hlt
        · exact String.lt_trans hlt (hfirst e he)
      · rename_i hle
        refine List.pairwise_cons.2 ⟨fun e he => ?_, ih hrest⟩
        rcases mem_of_mem_insert he with rfl | he
        · by_contra hge
          exact hne (String.le_antisymm (String.not_lt.1 hge) (String.not_lt.1 hle))
        · exact hfirst e he

theorem Sorted.get?_eq_some_iff {t : Table α} (h : t.Sorted) {k : String} {v : α} :
    t.get? k = some v ↔ (k, v) ∈ t := by
  refine ⟨mem_of_get?_eq_some, fun hmem => ?_⟩
  induction t with
  | nil => cases hmem
  | cons d t ih =>
    obtain ⟨k', v'⟩ := d
    obtain ⟨hfirst, hrest⟩ := List.pairwise_cons.1 h
    rw [get?_cons]
    rcases List.mem_cons.1 hmem with hd | hmem
    · cases hd
      exact if_pos rfl
    · have hlt : k' < k := hfirst _ hmem
      have hne : k ≠ k' := fun he => String.lt_irrefl k (he ▸ hlt)
      rw [if_neg hne]
      exact ih hrest hmem

/-- Sorted tables with the same value under every name are the same list. -/
theorem Sorted.ext {t u : Table α} (ht : t.Sorted) (hu : u.Sorted)
    (h : ∀ k, t.get? k = u.get? k) : t = u := by
  have nodup : ∀ {w : Table α}, w.Sorted → w.Nodup := by
    intro w hw
    refine List.Pairwise.imp (fun {d e} hlt he => ?_) hw
    exact String.lt_irrefl d.1 (he ▸ hlt)
  have hmem : ∀ e, e ∈ t ↔ e ∈ u := fun e => by
    rw [← ht.get?_eq_some_iff, ← hu.get?_eq_some_iff, h]
  exact List.Perm.eq_of_pairwise (fun _ _ _ _ hde hed => absurd hde (String.lt_asymm hed)) ht hu
    ((List.perm_ext_iff_of_nodup (nodup ht) (nodup hu)).2 hmem)

theorem Sorted.mapValues {t : Table α} (h : t.Sorted) (f : α → β) : (t.mapValues f).Sorted :=
  List.pairwise_map.2 h

theorem get?_mapValues (f : α → β) (t : Table α) (k : String) :
    (t.mapValues f).get? k = (t.get? k).map f := by
  induction t with
  | nil => rfl
  | cons d t ih =>
    obtain ⟨k', v'⟩ := d
    show get? k ((k', f v') :: mapValues f t) = _
    rw [get?_cons, get?_cons, ih]
    split <;> rfl

theorem Sorted.erase {t : Table α} (h : t.Sorted) (k : String) : (t.erase k).Sorted :=
  List.Pairwise.sublist (erase_sublist k t) h

/-- Writing under a name what is there already changes nothing. -/
theorem Sorted.insert_of_get? {t : Table α} (h : t.Sorted) {k : String} {v : α}
    (hv : t.get? k = some v) : t.insert k v = t := by
  refine (h.insert k v).ext h fun k' => ?_
  by_cases hk : k' = k
  · rw [hk, get?_insert_self, hv]
  · exact get?_insert_of_ne hk v t

/-- What has been taken out of a table can be put back. -/
theorem Sorted.insert_erase {t : Table α} (h : t.Sorted) {k : String} {v : α}
    (hv : t.get? k = some v) : (t.erase k).insert k v = t := by
  refine ((h.erase k).insert k v).ext h fun k' => ?_
  by_cases hk : k' = k
  · rw [hk, get?_insert_self, hv]
  · rw [get?_insert_of_ne hk, get?_erase_of_ne hk]

end Sorted

end Table

end Wireflow
