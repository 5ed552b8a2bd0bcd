/-
The depth-first search finishes every node once: an order to start in is the nodes in another order,
and none of them is its own target.

The invariant of the search is that a node that has been seen is either finished or still on the
stack, so nothing that has been seen is lost when the stack runs out.
-/
import Wireflow.Graph.Basic
import Mathlib.Data.List.Nodup
import Mathlib.Data.List.Perm.Lattice
import Mathlib.Data.List.Permutation

namespace Wireflow

/-- An item of a list whose items have keys of their own is found by its key. -/
theorem find?_key_of_nodup {key : α → Identifier} {l : List α} {a : α}
    (hnodup : (l.map key).Nodup) (ha : a ∈ l) : l.find? (fun b => key b == key a) = some a := by
  induction l with
  | nil => cases ha
  | cons b rest ih =>
    obtain ⟨hb, hrest⟩ := List.nodup_cons.1 hnodup
    rcases List.mem_cons.1 ha with rfl | ha
    · exact List.find?_cons_of_pos (by simp)
    · have hne : key b ≠ key a := fun heq => hb (heq ▸ List.mem_map_of_mem ha)
      rw [List.find?_cons_of_neg (by simpa using hne)]
      exact ih hrest ha

/-- What is found by a key is in the list and has the key. -/
theorem mem_of_find?_key {key : α → Identifier} {l : List α} {k : Identifier} {a : α}
    (h : l.find? (fun b => key b == k) = some a) : a ∈ l ∧ key a = k :=
  ⟨List.mem_of_find?_eq_some h, by simpa using List.find?_some h⟩

namespace StartOrder

variable {nodes : List Identifier} {targets : Identifier → List Identifier}

/-- Finished nodes are nodes and finished once; nodes that have been seen are finished or still on
the stack, and are no targets of their own. -/
structure Ordered (nodes : List Identifier) (targets : Identifier → List Identifier)
    (stack seen finished : List Identifier) : Prop where
  nodup : finished.Nodup
  finished_known : ∀ i ∈ finished, i ∈ nodes
  seen_known : ∀ i ∈ seen, i ∈ nodes
  kept : ∀ i ∈ seen, i ∈ finished ∨ i ∈ stack
  loopless : ∀ i ∈ seen, i ∉ targets i

namespace Ordered

/-- At first nothing has been seen. -/
theorem nil : Ordered nodes targets [] [] [] :=
  ⟨List.nodup_nil, nofun, nofun, nofun, nofun⟩

/-- Between two searches the next one starts from any node. -/
theorem singleton {seen finished : List Identifier} (h : Ordered nodes targets [] seen finished)
    (i : Identifier) : Ordered nodes targets [i] seen finished :=
  { h with kept := fun j hj => .inl ((h.kept j hj).resolve_right List.not_mem_nil) }

/-- A node that is seen for the first time stays on the stack, under its targets. -/
theorem push {top : Identifier} {rest seen finished : List Identifier} (above : List Identifier)
    (h : Ordered nodes targets (top :: rest) seen finished) (htop : top ∈ nodes)
    (hloop : top ∉ targets top) :
    Ordered nodes targets (above ++ top :: rest) (top :: seen) finished where
  nodup := h.nodup
  finished_known := h.finished_known
  seen_known := List.forall_mem_cons.2 ⟨htop, h.seen_known⟩
  kept := by
    refine List.forall_mem_cons.2 ⟨.inr (by simp), fun i hi => ?_⟩
    exact (h.kept i hi).imp_right fun hs => List.mem_append_right _ hs
  loopless := List.forall_mem_cons.2 ⟨hloop, h.loopless⟩

/-- What is taken off the stack is finished, unless it is no node. -/
theorem pop {top : Identifier} {rest seen finished : List Identifier}
    (h : Ordered nodes targets (top :: rest) seen finished) :
    Ordered nodes targets rest seen
      (if top ∈ finished ∨ top ∉ nodes then finished else finished ++ [top]) := by
  split
  · rename_i htop
    refine { h with kept := fun i hi => ?_ }
    rcases h.kept i hi with hf | hs
    · exact .inl hf
    · rcases List.mem_cons.1 hs with rfl | hs
      · exact .inl (htop.resolve_right fun hout => hout (h.seen_known i hi))
      · exact .inr hs
  · rename_i htop
    push Not at htop
    obtain ⟨hnew, hnode⟩ := htop
    refine { h with nodup := ?_, finished_known := fun i hi => ?_, kept := fun i hi => ?_ }
    · exact List.nodup_append.2 ⟨h.nodup, by simp, fun i hi j hj => by
        rw [List.mem_singleton.1 hj]; rintro rfl; exact hnew hi⟩
    · rcases List.mem_append.1 hi with hi | hi
      · exact h.finished_known i hi
      · rw [List.mem_singleton.1 hi]; exact hnode
    · rcases h.kept i hi with hf | hs
      · exact .inl (List.mem_append_left _ hf)
      · rcases List.mem_cons.1 hs with rfl | hs
        · exact .inl (by simp)
        · exact .inr hs

end Ordered

/-- The search keeps the invariant, and in the end all nodes of the stack have been seen. -/
theorem search_ordered {seen' finished' : List Identifier} (stack seen finished : List Identifier)
    (h : Ordered nodes targets stack seen finished)
    (hsearch : search nodes targets stack seen finished = some (seen', finished')) :
    Ordered nodes targets [] seen' finished' ∧ (∀ i ∈ seen, i ∈ seen') ∧
      ∀ i ∈ stack, i ∈ nodes → i ∈ seen' := by
  -- by the steps of the search: the top of the stack is new, or it is taken off
  fun_induction search nodes targets stack seen finished with
  | case1 seen finished =>
    cases hsearch
    exact ⟨h, fun _ hi => hi, by simp⟩
  | case2 seen finished top rest hnew hloop => cases hsearch
  | case3 seen finished top rest hnew hloop ih =>
    obtain ⟨h', hseen, hstack⟩ := ih (h.push _ hnew.1 hloop) hsearch
    exact ⟨h', fun i hi => hseen i (List.mem_cons_of_mem _ hi),
      fun i hi => hstack i (List.mem_append_right _ hi)⟩
  | case4 seen finished top rest hold ih =>
    obtain ⟨h', hseen, hstack⟩ := ih h.pop hsearch
    refine ⟨h', hseen, List.forall_mem_cons.2 ⟨fun htop => hseen top ?_, hstack⟩⟩
    -- a top that is a node and has not been seen would have been new
    by_contra hout
    exact hold ⟨htop, hout⟩

theorem searchAll_ordered {finished' : List Identifier} (is : List Identifier)
    (his : ∀ i ∈ is, i ∈ nodes) :
    ∀ seen finished : List Identifier, Ordered nodes targets [] seen finished →
      searchAll nodes targets is seen finished = some finished' →
        ∃ seen', Ordered nodes targets [] seen' finished' ∧ ∀ i, i ∈ is ∨ i ∈ seen → i ∈ seen' := by
  induction is with
  | nil =>
    intro seen finished h hsearch
    cases hsearch
    exact ⟨seen, h, fun i hi => hi.resolve_left List.not_mem_nil⟩
  | cons a rest ih =>
    intro seen finished h hsearch
    unfold searchAll at hsearch
    have hrest : ∀ i ∈ rest, i ∈ nodes := fun i hi => his i (List.mem_cons_of_mem _ hi)
    split at hsearch
    · rename_i hseen
      obtain ⟨seen', h', hall⟩ := ih hrest seen finished h hsearch
      refine ⟨seen', h', fun i hi => hall i ?_⟩
      rcases hi with hi | hi
      · rcases List.mem_cons.1 hi with rfl | hi
        · exact .inr hseen
        · exact .inl hi
      · exact .inr hi
    · split at hsearch
      · cases hsearch
      · rename_i seen₁ finished₁ hfirst
        obtain ⟨h₁, hseen, hstack⟩ := search_ordered [a] seen finished (h.singleton a) hfirst
        obtain ⟨seen', h', hall⟩ := ih hrest seen₁ finished₁ h₁ hsearch
        refine ⟨seen', h', fun i hi => hall i ?_⟩
        rcases hi with hi | hi
        · rcases List.mem_cons.1 hi with rfl | hi
          · exact .inr (hstack i (by simp) (his i (by simp)))
          · exact .inl hi
        · exact .inr (hseen i hi)

/-- When the search comes to its end, the order of finishing is the nodes in some order, and none is its
own target. -/
theorem searchAll_perm (h : nodes.Nodup) {finished : List Identifier}
    (hsearch : searchAll nodes targets nodes [] [] = some finished) :
    finished.Perm nodes ∧ ∀ i ∈ nodes, i ∉ targets i := by
  obtain ⟨seen, hordered, hall⟩ := searchAll_ordered nodes (fun _ hi => hi) [] [] .nil hsearch
  have hseen : ∀ i ∈ nodes, i ∈ seen := fun i hi => hall i (.inl hi)
  refine ⟨(List.perm_ext_iff_of_nodup hordered.nodup h).2 fun i => ⟨hordered.finished_known i, ?_⟩,
    fun i hi => hordered.loopless i (hseen i hi)⟩
  exact fun hi => (hordered.kept i (hseen i hi)).resolve_right List.not_mem_nil

/-- An order to start in comes out of the first search, and the second one finds no circle in it. -/
theorem order?_eq_some_iff {order : List Identifier} : order? nodes targets = some order ↔
    searchAll nodes targets nodes [] [] = some order ∧
      findsAlone nodes targets [] order.reverse = true := by
  unfold order?
  cases searchAll nodes targets nodes [] [] with
  | none => simp
  | some finished =>
    simp only [Option.ite_none_right_eq_some, Option.some.injEq]
    constructor
    · rintro ⟨halone, rfl⟩
      exact ⟨rfl, halone⟩
    · rintro ⟨rfl, halone⟩
      exact ⟨halone, rfl⟩

end StartOrder

/-! ## Graphs -/

namespace Graph

/-- Arranging nodes by their own identifiers in another order loses none and adds none. -/
theorem arranged_perm {nodes : List GraphNode} {order : List Identifier}
    (hnodup : (nodes.map fun n => n.identity.id).Nodup)
    (hperm : order.Perm (nodes.map fun n => n.identity.id)) :
    (arranged nodes order).Perm nodes := by
  refine (hperm.filterMap _).trans ?_
  rw [List.filterMap_map, List.filterMap_congr (g := some) fun n hn => ?_, List.filterMap_some]
  exact find?_key_of_nodup hnodup hn

theorem ofNodes_perm {nodes : List GraphNode}
    (hnodup : (nodes.map fun n => n.identity.id).Nodup) : (ofNodes nodes).nodes.Perm nodes := by
  unfold ofNodes
  split
  · rename_i order horder
    have hsearch := (StartOrder.order?_eq_some_iff.1 horder).1
    exact arranged_perm hnodup (StartOrder.searchAll_perm hnodup hsearch).1
  · exact .refl _

end Graph

end Wireflow
