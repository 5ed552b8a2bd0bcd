/-
Nodes start downstream first, and every circle is noticed. When the wires run in no circle, the
depth-first search finishes a node only after all nodes that it leads to; when they do, no order of the
nodes is like that, so the nodes keep the order of the document.

The invariant of the search is about nodes that have been seen and are not finished: such a node leads
to all that stands above it on the stack, and those of its targets that have not been seen stand there.
So when a node comes to the top again all its targets have been seen, and one that is not finished
would stand below it and close a circle. The second search accepts an order when no node leads to one
that comes after it. No node is its own target by then, so these are the orders in which every node
comes after all that it leads to.
-/
import Wireflow.Proofs.Graph.Building
import Mathlib.Data.List.TakeWhile
import Mathlib.Logic.Relation

namespace Wireflow

open Relation

namespace StartOrder

/-- A node leads to its targets. -/
def Leads (targets : Identifier → List Identifier) (i t : Identifier) : Prop := t ∈ targets i

variable {nodes : List Identifier} {targets : Identifier → List Identifier}

/-! ## Orders that are downstream first -/

/-- What a node leads to stands before it. -/
def DownstreamFirst (targets : Identifier → List Identifier) (order : List Identifier) : Prop :=
  ∀ before i after, order = before ++ i :: after → ∀ t ∈ targets i, t ∈ before

/-- A node can follow when all its targets stand in the order. -/
theorem DownstreamFirst.concat {order : List Identifier} {i : Identifier}
    (h : DownstreamFirst targets order) (hi : ∀ t ∈ targets i, t ∈ order) :
    DownstreamFirst targets (order ++ [i]) := by
  intro before j after hsplit t ht
  rcases List.eq_nil_or_concat after with rfl | ⟨after, last, rfl⟩
  · obtain ⟨rfl, hlast⟩ := List.append_inj' hsplit rfl
    cases hlast
    exact hi t ht
  · rw [List.concat_eq_append, ← List.cons_append, ← List.append_assoc] at hsplit
    exact h before j after (List.append_inj' hsplit rfl).1 t ht

/-- Along wires the place in an order that is downstream first goes down, so no node leads back to
itself. -/
theorem DownstreamFirst.not_circle {order : List Identifier} (h : DownstreamFirst targets order)
    (hnodup : order.Nodup) (hwired : ∀ i, targets i ≠ [] → i ∈ order) (c : Identifier) :
    ¬ TransGen (Leads targets) c c := by
  have hdown : ∀ {i t}, Leads targets i t → order.idxOf t < order.idxOf i := by
    intro i t ht
    obtain ⟨before, after, rfl⟩ := List.append_of_mem (hwired i (List.ne_nil_of_mem ht))
    have hbefore : t ∈ before := h before i after rfl t ht
    have hi : i ∉ before := fun hi =>
      (List.nodup_append.1 hnodup).2.2 i hi i (List.mem_cons_self ..) rfl
    rw [List.idxOf_append_of_mem hbefore, List.idxOf_append_of_notMem hi]
    have := List.idxOf_lt_length_iff.2 hbefore
    omega
  intro hcircle
  have hall : ∀ {t}, TransGen (Leads targets) c t → order.idxOf t < order.idxOf c := by
    intro t ht
    induction ht with
    | single hstep => exact hdown hstep
    | tail _ hstep ih => exact (hdown hstep).trans ih
  exact absurd (hall hcircle) (lt_irrefl _)

/-- When no node is its own target, an order of all nodes is downstream first when no node leads to one
that stands after it. -/
theorem downstreamFirst_iff_pairwise {order : List Identifier} (hnodup : order.Nodup)
    (hknown : ∀ i ∈ order, ∀ t ∈ targets i, t ∈ order) (hloop : ∀ i ∈ order, i ∉ targets i) :
    DownstreamFirst targets order ↔ order.Pairwise fun i t => t ∉ targets i := by
  constructor
  · intro h
    rw [List.pairwise_iff_forall_sublist]
    intro i t hsub ht
    obtain ⟨front, back, rfl, hi, hback⟩ := List.cons_sublist_iff.1 hsub
    obtain ⟨before, after, rfl⟩ := List.append_of_mem hi
    -- a target that comes after its node stands before it too, and is there twice
    have hbefore : t ∈ before := h before i (after ++ back) (by simp) t ht
    exact (List.nodup_append.1 hnodup).2.2 t (List.mem_append_left _ hbefore) t
      (List.singleton_sublist.1 hback) rfl
  · rintro h before i after rfl t ht
    have hi : i ∈ before ++ i :: after := by simp
    rcases List.mem_append.1 (hknown i hi t ht) with hbefore | hafter
    · exact hbefore
    · rcases List.mem_cons.1 hafter with rfl | hafter
      · exact absurd ht (hloop t hi)
      · have htail := (List.pairwise_append.1 h).2.1
        exact absurd ht ((List.pairwise_cons.1 htail).1 t hafter)

/-! ## The second search -/

theorem mem_sources {i s : Identifier} :
    s ∈ sources nodes targets i ↔ s ∈ nodes ∧ i ∈ targets s := by
  unfold sources
  simp only [List.mem_flatMap, List.mem_map, List.mem_filter, beq_iff_eq]
  constructor
  · rintro ⟨s, hs, t, ⟨ht, rfl⟩, rfl⟩
    exact ⟨hs, ht⟩
  · rintro ⟨hs, hi⟩
    exact ⟨s, hs, i, ⟨hi, rfl⟩, rfl⟩

theorem next?_eq_none_iff {found : List Identifier} {stack : List Identifier} :
    next? nodes targets stack found = none ↔ ∀ i ∈ stack, i ∈ found := by
  induction stack with
  | nil => simp [next?]
  | cons top rest ih =>
    rw [next?, List.forall_mem_cons]
    split
    · rename_i hfound
      rw [ih]
      exact ⟨fun h => ⟨hfound, h⟩, And.right⟩
    · rename_i hnew
      exact ⟨nofun, fun h => absurd h.1 hnew⟩

/-- From a node that has not been found no other one is found when all that lead to it have been. -/
theorem findsAlone_cons_iff {found rest : List Identifier} {i : Identifier} (hi : i ∉ found) :
    findsAlone nodes targets found (i :: rest) = true ↔
      (∀ s ∈ nodes, i ∈ targets s → s ∈ i :: found) ∧
        findsAlone nodes targets (i :: found) rest = true := by
  let stack := (sources nodes targets i).filter (fun s => decide (s ∉ i :: found)) ++ []
  -- the node itself is found first, and then whatever is left on the stack
  have hnext : next? nodes targets [i] found = some (i, stack) := by rw [next?, if_neg hi]
  have hlast : next? nodes targets stack (i :: found) = none ↔
      ∀ s ∈ nodes, i ∈ targets s → s ∈ i :: found := by
    rw [next?_eq_none_iff]
    simp only [stack, List.append_nil, List.mem_filter, mem_sources, decide_eq_true_eq]
    constructor
    · intro h s hs hlead
      by_contra hnew
      exact hnew (h s ⟨⟨hs, hlead⟩, hnew⟩)
    · rintro h s ⟨⟨hs, hlead⟩, -⟩
      exact h s hs hlead
  rw [findsAlone, hnext, ← hlast]
  dsimp only
  cases next? nodes targets stack (i :: found) <;> simp

/-- When every node has been found or is still to come, the search back along the wires finds each on
its own when no node comes before one that leads to it. -/
theorem findsAlone_iff_pairwise {is : List Identifier} :
    ∀ {found : List Identifier}, is.Nodup → (∀ i ∈ is, i ∈ nodes ∧ i ∉ found) →
      (∀ i ∈ nodes, i ∈ is ∨ i ∈ found) →
      (findsAlone nodes targets found is = true ↔ is.Pairwise fun i s => i ∉ targets s) := by
  induction is with
  | nil => exact fun _ _ _ => ⟨fun _ => .nil, fun _ => rfl⟩
  | cons i rest ih =>
    intro found hnodup his hall
    obtain ⟨hi, hrest⟩ := List.nodup_cons.1 hnodup
    obtain ⟨⟨-, hfound⟩, hnew⟩ := List.forall_mem_cons.1 his
    have hothers : ∀ s ∈ rest, s ∉ i :: found := fun s hs =>
      List.not_mem_cons_of_ne_of_not_mem (fun heq => hi (heq ▸ hs)) (hnew s hs).2
    have hcover : ∀ s ∈ nodes, s ∈ rest ∨ s ∈ i :: found := by
      intro s hs
      rcases hall s hs with hin | hin
      · exact (List.mem_cons.1 hin).elim (fun heq => .inr (heq ▸ List.mem_cons_self)) .inl
      · exact .inr (List.mem_cons_of_mem _ hin)
    rw [findsAlone_cons_iff hfound, List.pairwise_cons,
      ih hrest (fun s hs => ⟨(hnew s hs).1, hothers s hs⟩) hcover]
    refine and_congr_left fun _ => ⟨fun h s hs hlead => ?_, fun h s hs hlead => ?_⟩
    · exact hothers s hs (h s (hnew s hs).1 hlead)
    · exact (hcover s hs).resolve_left fun hin => h s hin hlead

/-- The second search accepts the orders that are downstream first. -/
theorem findsAlone_reverse_iff {order : List Identifier} (hnodup : nodes.Nodup)
    (hperm : order.Perm nodes) (hknown : ∀ i ∈ nodes, ∀ t ∈ targets i, t ∈ nodes)
    (hloop : ∀ i ∈ nodes, i ∉ targets i) :
    findsAlone nodes targets [] order.reverse = true ↔ DownstreamFirst targets order := by
  have hmem : ∀ {i}, i ∈ order ↔ i ∈ nodes := hperm.mem_iff
  have horder : order.Nodup := hperm.nodup_iff.2 hnodup
  rw [findsAlone_iff_pairwise (List.nodup_reverse.2 horder)
      (fun i hi => ⟨hmem.1 (List.mem_reverse.1 hi), List.not_mem_nil⟩)
      (fun i hi => .inl (List.mem_reverse.2 (hmem.2 hi))),
    List.pairwise_reverse, downstreamFirst_iff_pairwise horder
      (fun i hi t ht => hmem.2 (hknown i (hmem.1 hi) t ht)) fun i hi => hloop i (hmem.1 hi)]

/-- An order to start in is all nodes, and what a node leads to stands before it. -/
theorem order?_spec (hnodup : nodes.Nodup) (hknown : ∀ i ∈ nodes, ∀ t ∈ targets i, t ∈ nodes)
    {order : List Identifier} (h : order? nodes targets = some order) :
    order.Perm nodes ∧ DownstreamFirst targets order := by
  obtain ⟨hsearch, halone⟩ := order?_eq_some_iff.1 h
  obtain ⟨hperm, hloop⟩ := searchAll_perm hnodup hsearch
  exact ⟨hperm, (findsAlone_reverse_iff hnodup hperm hknown hloop).1 halone⟩

/-! ## The first search -/

/-- What stands above a node on a stack. -/
def above (i : Identifier) (stack : List Identifier) : List Identifier :=
  stack.takeWhile fun x => decide (x ≠ i)

theorem above_cons_self (i : Identifier) (rest : List Identifier) : above i (i :: rest) = [] := by
  simp [above]

theorem above_cons_of_ne {i x : Identifier} (h : x ≠ i) (rest : List Identifier) :
    above i (x :: rest) = x :: above i rest := by
  simp [above, h]

theorem above_append {i : Identifier} {pushed : List Identifier} (h : i ∉ pushed)
    (stack : List Identifier) : above i (pushed ++ stack) = pushed ++ above i stack := by
  unfold above
  exact List.takeWhile_append_of_pos fun x hx => by
    simpa using fun heq : x = i => h (heq ▸ hx)

/-- A node that has been seen and is not finished leads to what is above it, and its targets have been
seen or are there; the finished nodes are downstream first. -/
structure Nested (targets : Identifier → List Identifier) (stack seen finished : List Identifier) :
    Prop where
  leads : ∀ u ∈ seen, u ∉ finished → ∀ x ∈ above u stack, TransGen (Leads targets) u x
  met : ∀ u ∈ seen, u ∉ finished → ∀ t ∈ targets u, t ∈ seen ∨ t ∈ above u stack
  downstream : DownstreamFirst targets finished

namespace Nested

variable {top : Identifier} {rest seen finished : List Identifier}

/-- The targets that have not been seen go above a node that is seen for the first time. -/
theorem push (h : Nested targets (top :: rest) seen finished) (htop : top ∉ seen) :
    Nested targets
      ((targets top).filter (fun t => decide (t ∉ top :: seen)) ++ top :: rest) (top :: seen)
      finished := by
  have hnew {u : Identifier} (hu : u ∈ top :: seen) :
      u ∉ (targets top).filter fun t => decide (t ∉ top :: seen) := by
    simp only [List.mem_filter, decide_eq_true_eq, not_and, not_not]
    exact fun _ => hu
  refine ⟨fun u hu hopen x hx => ?_, fun u hu hopen t ht => ?_, h.downstream⟩
  · rw [above_append (hnew hu)] at hx
    rcases List.mem_cons.1 hu with rfl | hseen
    · rw [above_cons_self, List.append_nil] at hx
      exact .single (List.mem_filter.1 hx).1
    · have hne : top ≠ u := fun heq => htop (heq ▸ hseen)
      have htopAbove : TransGen (Leads targets) u top :=
        h.leads u hseen hopen top (by rw [above_cons_of_ne hne]; exact List.mem_cons_self ..)
      rcases List.mem_append.1 hx with hx | hx
      · exact htopAbove.tail (List.mem_filter.1 hx).1
      · exact h.leads u hseen hopen x hx
  · rw [above_append (hnew hu)]
    rcases List.mem_cons.1 hu with rfl | hseen
    · by_cases hin : t ∈ u :: seen
      · exact .inl hin
      · exact .inr (List.mem_append_left _ (List.mem_filter.2 ⟨ht, by simpa using hin⟩))
    · rcases h.met u hseen hopen t ht with hmet | hmet
      · exact .inl (List.mem_cons_of_mem _ hmet)
      · exact .inr (List.mem_append_right _ hmet)

/-- A node that comes to the top again has only targets that are finished, unless it leads back to
itself. -/
theorem finished_of_top (h : Nested targets (top :: rest) seen finished) (hseen : top ∈ seen)
    (hopen : top ∉ finished) (hcircle : ∀ c, ¬ TransGen (Leads targets) c c) :
    ∀ t ∈ targets top, t ∈ finished := by
  intro t ht
  have htop : TransGen (Leads targets) top t := .single ht
  have htseen : t ∈ seen := (h.met top hseen hopen t ht).resolve_right (by simp [above_cons_self])
  by_contra htopen
  have hne : top ≠ t := by
    rintro rfl
    exact hcircle top htop
  have hback := h.leads t htseen htopen top (by rw [above_cons_of_ne hne]; exact List.mem_cons_self ..)
  exact hcircle top (htop.trans hback)

/-- What is taken off the stack has been seen. -/
theorem pop (h : Nested targets (top :: rest) seen finished)
    (hknown : ∀ i ∈ nodes, ∀ t ∈ targets i, t ∈ nodes) (hseen : ∀ i ∈ seen, i ∈ nodes)
    (hcircle : ∀ c, ¬ TransGen (Leads targets) c c) (hold : ¬(top ∈ nodes ∧ top ∉ seen)) :
    Nested targets rest seen
      (if top ∈ finished ∨ top ∉ nodes then finished else finished ++ [top]) := by
  have htop : top ∈ nodes → top ∈ seen := fun hnode => by
    by_contra hnot
    exact hold ⟨hnode, hnot⟩
  -- a node that is still not finished afterwards is another one than the top
  have hother {u : Identifier} (hu : u ∈ seen)
      (hopen : u ∉ if top ∈ finished ∨ top ∉ nodes then finished else finished ++ [top]) :
      top ≠ u ∧ u ∉ finished := by
    split at hopen
    · rename_i hdone
      refine ⟨?_, hopen⟩
      rintro rfl
      exact hdone.elim hopen fun hout => hout (hseen _ hu)
    · simp only [List.mem_append, List.mem_singleton, not_or] at hopen
      exact ⟨Ne.symm hopen.2, hopen.1⟩
  refine ⟨fun u hu hopen x hx => ?_, fun u hu hopen t ht => ?_, ?_⟩
  · obtain ⟨hne, hopen⟩ := hother hu hopen
    exact h.leads u hu hopen x (by rw [above_cons_of_ne hne]; exact List.mem_cons_of_mem _ hx)
  · obtain ⟨hne, hopen⟩ := hother hu hopen
    rcases h.met u hu hopen t ht with hmet | hmet
    · exact .inl hmet
    · rw [above_cons_of_ne hne] at hmet
      rcases List.mem_cons.1 hmet with rfl | hmet
      · exact .inl (htop (hknown u (hseen u hu) _ ht))
      · exact .inr hmet
  · split
    · exact h.downstream
    · rename_i hdone
      push Not at hdone
      exact h.downstream.concat (h.finished_of_top (htop hdone.2) hdone.1 hcircle)

end Nested

/-- Without circles the search comes to its end and keeps the invariant. -/
theorem search_nested (hknown : ∀ i ∈ nodes, ∀ t ∈ targets i, t ∈ nodes)
    (hcircle : ∀ c, ¬ TransGen (Leads targets) c c) (stack seen finished : List Identifier)
    (hseen : ∀ i ∈ seen, i ∈ nodes) (h : Nested targets stack seen finished) :
    ∃ seen' finished', search nodes targets stack seen finished = some (seen', finished') ∧
      DownstreamFirst targets finished' := by
  fun_induction search nodes targets stack seen finished with
  | case1 seen finished => exact ⟨seen, finished, rfl, h.downstream⟩
  | case2 seen finished top rest hnew hloop => exact absurd (.single hloop) (hcircle top)
  | case3 seen finished top rest hnew hloop ih =>
    exact ih (List.forall_mem_cons.2 ⟨hnew.1, hseen⟩) (h.push hnew.2)
  | case4 seen finished top rest hold ih => exact ih hseen (h.pop hknown hseen hcircle hold)

/-- Between two searches all nodes that have been seen are finished. -/
theorem searchAll_nested (hknown : ∀ i ∈ nodes, ∀ t ∈ targets i, t ∈ nodes)
    (hcircle : ∀ c, ¬ TransGen (Leads targets) c c) (is : List Identifier) :
    ∀ seen finished : List Identifier, Ordered nodes targets [] seen finished →
      DownstreamFirst targets finished →
      ∃ finished', searchAll nodes targets is seen finished = some finished' ∧
        DownstreamFirst targets finished' := by
  induction is with
  | nil => exact fun _ finished _ h => ⟨finished, rfl, h⟩
  | cons a rest ih =>
    intro seen finished hordered h
    unfold searchAll
    split
    · exact ih seen finished hordered h
    · have hdone : ∀ u ∈ seen, u ∈ finished := fun u hu =>
        (hordered.kept u hu).resolve_right List.not_mem_nil
      have hstart : Nested targets [a] seen finished :=
        ⟨fun u hu hopen => absurd (hdone u hu) hopen, fun u hu hopen => absurd (hdone u hu) hopen, h⟩
      obtain ⟨seen', finished', hsearch, hdown⟩ :=
        search_nested hknown hcircle [a] seen finished hordered.seen_known hstart
      rw [hsearch]
      exact ih seen' finished'
        (search_ordered [a] seen finished (hordered.singleton a) hsearch).1 hdown

/-- The nodes have an order to start in exactly when no node leads back to itself. -/
theorem order?_isSome_iff (hnodup : nodes.Nodup)
    (hknown : ∀ i ∈ nodes, ∀ t ∈ targets i, t ∈ nodes) (hwired : ∀ i, targets i ≠ [] → i ∈ nodes) :
    (order? nodes targets).isSome = true ↔ ∀ c, ¬ TransGen (Leads targets) c c := by
  rw [Option.isSome_iff_exists]
  constructor
  · rintro ⟨order, h⟩
    obtain ⟨hperm, hdown⟩ := order?_spec hnodup hknown h
    exact hdown.not_circle (hperm.nodup_iff.2 hnodup) fun i hi => hperm.mem_iff.2 (hwired i hi)
  · intro hcircle
    obtain ⟨order, hsearch, hdown⟩ := searchAll_nested hknown hcircle nodes [] [] .nil
      (fun before _ _ hsplit => by cases before <;> cases hsplit)
    obtain ⟨hperm, hloop⟩ := searchAll_perm hnodup hsearch
    exact ⟨order, order?_eq_some_iff.2
      ⟨hsearch, (findsAlone_reverse_iff hnodup hperm hknown hloop).2 hdown⟩⟩

/-- A circle of two nodes is noticed on the way back only. -/
example :
    let targets : Identifier → List Identifier := fun i => if i = ⟨1⟩ then [⟨2⟩] else [⟨1⟩]
    (searchAll [⟨1⟩, ⟨2⟩] targets [⟨1⟩, ⟨2⟩] [] [] == some [⟨2⟩, ⟨1⟩] &&
      order? [⟨1⟩, ⟨2⟩] targets == none) = true := by
  cbv

end StartOrder

/-! ## Graphs -/

namespace Document

/-- A node that takes part has a wire to another one that does. -/
def Wire (d : Document) (source target : Identifier) : Prop :=
  ∃ n ∈ d.nodes, Graph.isActive d n = true ∧ n.id = source ∧ target ∈ d.activeIds ∧
    ∃ wires ∈ n.wires, target ∈ wires

end Document

namespace Graph

open StartOrder

/-- The targets of a placed node are where the wires of its definition lead. -/
theorem leads_iff_wire {d : Document} {nodes : List GraphNode}
    (hdefinitions : nodes.map (·.definition) = d.nodes.filter (isActive d))
    (hids : (nodes.map fun n => n.identity.id) = d.activeIds) (hnodup : d.activeIds.Nodup)
    (hplaces : ∀ n ∈ nodes, d.Places n) {i t : Identifier} :
    Leads (targetsOf nodes) i t ↔ d.Wire i t := by
  have hnodup' := hids ▸ hnodup
  unfold Leads targetsOf
  constructor
  · intro ht
    split at ht
    · rename_i n hfind
      obtain ⟨hn, hid⟩ := mem_of_find?_key hfind
      have hplace := hplaces n hn
      obtain ⟨targets, htargets, ht⟩ := List.mem_flatten.1 ht
      rw [hplace.ports] at htargets
      obtain ⟨wires, hwires, rfl⟩ := List.mem_map.1 htargets
      obtain ⟨htwire, htactive⟩ := Document.mem_reached.1 ht
      exact ⟨n.definition, hplace.mem, hplace.active, hplace.id ▸ hid, htactive, wires, hwires, htwire⟩
    · cases ht
  · rintro ⟨n, hn, hactive, rfl, htactive, wires, hwires, htwire⟩
    have hmem : n ∈ nodes.map (·.definition) := hdefinitions ▸ List.mem_filter.2 ⟨hn, hactive⟩
    obtain ⟨g, hg, rfl⟩ := List.mem_map.1 hmem
    rw [← (hplaces g hg).id, find?_key_of_nodup hnodup' hg]
    refine List.mem_flatten.2 ⟨d.reached wires, ?_, Document.mem_reached.2 ⟨htwire, htactive⟩⟩
    rw [(hplaces g hg).ports]
    exact List.mem_map_of_mem hwires

/-- Nodes that are arranged by an order of their identifiers have them in this order. -/
theorem ids_arranged {nodes : List GraphNode} {order : List Identifier}
    (h : ∀ i ∈ order, i ∈ nodes.map fun n => n.identity.id) :
    ((arranged nodes order).map fun n => n.identity.id) = order := by
  induction order with
  | nil => rfl
  | cons i rest ih =>
    obtain ⟨hi, hrest⟩ := List.forall_mem_cons.1 h
    obtain ⟨n, hn, hid⟩ := List.mem_map.1 hi
    obtain ⟨n', hfind⟩ : ∃ n', nodes.find? (fun n => n.identity.id == i) = some n' :=
      Option.isSome_iff_exists.1 (List.find?_isSome.2 ⟨n, hn, by simp [hid]⟩)
    obtain ⟨-, hid'⟩ := mem_of_find?_key hfind
    have hcons : arranged nodes (i :: rest) = n' :: arranged nodes rest :=
      List.filterMap_cons_some hfind
    rw [hcons, List.map_cons, hid', ih hrest]

theorem ofNodes_cyclic_iff {nodes : List GraphNode} :
    (ofNodes nodes).cyclic = true ↔
      order? (nodes.map fun n => n.identity.id) (targetsOf nodes) = none := by
  unfold ofNodes
  cases order? (nodes.map fun n => n.identity.id) (targetsOf nodes) <;> simp

/-- In a graph that is not cyclic what the ports of a node name stands before it. -/
theorem targets_before {nodes before after : List GraphNode} {n : GraphNode}
    (hnodup : (nodes.map fun n => n.identity.id).Nodup)
    (hknown : ∀ i ∈ nodes.map fun n => n.identity.id, ∀ t ∈ targetsOf nodes i,
      t ∈ nodes.map fun n => n.identity.id)
    (hcyclic : (ofNodes nodes).cyclic = false)
    (hsplit : (ofNodes nodes).nodes = before ++ n :: after) :
    ∀ targets ∈ n.ports, ∀ t ∈ targets, t ∈ before.map fun n => n.identity.id := by
  intro targets htargets t ht
  unfold ofNodes at hcyclic hsplit
  split at hsplit
  · rename_i order horder
    obtain ⟨hperm, hdown⟩ := order?_spec hnodup hknown horder
    have hmem : ∀ i ∈ order, i ∈ nodes.map fun n => n.identity.id := fun i hi => hperm.mem_iff.1 hi
    have horder' : order = (before.map fun n => n.identity.id) ++
        n.identity.id :: after.map fun n => n.identity.id := by
      rw [← ids_arranged hmem]
      simpa using congrArg (List.map fun n => n.identity.id) hsplit
    have hn : n ∈ nodes := by
      have hin : n ∈ arranged nodes order := by
        rw [show arranged nodes order = before ++ n :: after from hsplit]
        simp
      obtain ⟨i, -, hfind⟩ := List.mem_filterMap.1 hin
      exact List.mem_of_find?_eq_some hfind
    refine hdown _ _ _ horder' t ?_
    unfold targetsOf
    rw [find?_key_of_nodup hnodup hn]
    exact List.mem_flatten.2 ⟨targets, htargets, ht⟩
  · rename_i hnone
    rw [hnone] at hcyclic
    cases hcyclic

/-- A graph is cyclic exactly when the wires between the nodes that take part run in a circle somewhere,
be it from a node to itself. When they do not, the nodes stand in an order in which each comes after all
nodes that its ports name; when they do, the nodes keep the order of the document. -/
theorem cyclic_iff_circle {records : Json} {d : Document} {now : Double} {g : Graph}
    (hparse : Document.parse records = .ok d) (hbuild : build now d = .ok g) :
    (g.cyclic = true ↔ ∃ c, TransGen d.Wire c c) ∧
    (g.cyclic = false →
      (g.nodes.map (·.definition)).Perm (d.nodes.filter (isActive d)) ∧
      ∀ before n after, g.nodes = before ++ n :: after →
        ∀ targets ∈ n.ports, ∀ t ∈ targets, t ∈ before.map fun n => n.identity.id) ∧
    (g.cyclic = true → g.nodes.map (·.definition) = d.nodes.filter (isActive d)) := by
  obtain ⟨nodes, rfl, hdefinitions, hids, hplaces⟩ := exists_nodes_of_build hbuild
  have hactive : d.activeIds.Nodup := activeIds_nodup (Document.nodeIds_nodup hparse)
  have hnodup : (nodes.map fun n => n.identity.id).Nodup := hids ▸ hactive
  have hleads : Leads (targetsOf nodes) = d.Wire := by
    funext i t
    exact propext (leads_iff_wire hdefinitions hids hactive hplaces)
  -- the search only ever sees nodes of the graph
  have hknown : ∀ i ∈ nodes.map fun n => n.identity.id, ∀ t ∈ targetsOf nodes i,
      t ∈ nodes.map fun n => n.identity.id := by
    intro i _ t ht
    obtain ⟨-, -, -, -, htactive, -⟩ := (leads_iff_wire hdefinitions hids hactive hplaces).1 ht
    rwa [hids]
  have hwired : ∀ i, targetsOf nodes i ≠ [] → i ∈ nodes.map fun n => n.identity.id := by
    intro i hi
    obtain ⟨t, ht⟩ := List.exists_mem_of_ne_nil _ hi
    obtain ⟨n, hn, hactive, rfl, -⟩ := (leads_iff_wire hdefinitions hids hactive hplaces).1 ht
    rw [hids]
    exact List.mem_map_of_mem (List.mem_filter.2 ⟨hn, hactive⟩)
  refine ⟨?_, fun hcyclic => ⟨?_, ?_⟩, fun hcyclic => ?_⟩
  · rw [ofNodes_cyclic_iff, ← Option.not_isSome_iff_eq_none,
      order?_isSome_iff hnodup hknown hwired, hleads]
    push Not
    rfl
  · exact hdefinitions ▸ (ofNodes_perm hnodup).map _
  · exact fun before n after hsplit => targets_before hnodup hknown hcyclic hsplit
  · rw [ofNodes_cyclic_iff] at hcyclic
    unfold ofNodes
    rw [hcyclic]
    exact hdefinitions

/-! ### A diamond

A node feeds two others over either of its ports, both feed the same sink, and two more nodes stand
apart from them. -/

namespace Diamond

/-- The nodes, the last ones first. -/
def node (id : Identifier) (wires : List (List Identifier)) : NodeDefinition :=
  { id, type := "switch", flow := ⟨1⟩, group := none, name := "", wires, disabled := false,
    config := [] }

/-- A record of such a node. -/
def record (id : String) (wires : List Json) : Json :=
  .object [("id", .string id), ("type", .string "switch"), ("wires", .array wires), ("z", .string "1")]

/-- The records. -/
def records : Json :=
  .array
    [.object [("id", .string "1"), ("type", .string "tab")],
     record "2" [.array [.string "3", .string "4"], .array [.string "4", .string "3"]],
     record "3" [.array [.string "5"]], record "4" [.array [.string "5"]], record "5" [],
     record "6" [.array [.string "7"]], record "7" []]

/-- The document of the records. -/
def document : Document :=
  { flows := [{ id := ⟨1⟩, label := "", disabled := false, env := [] }]
    groups := []
    nodes :=
      [node ⟨2⟩ [[⟨3⟩, ⟨4⟩], [⟨4⟩, ⟨3⟩]], node ⟨3⟩ [[⟨5⟩]], node ⟨4⟩ [[⟨5⟩]], node ⟨5⟩ [],
       node ⟨6⟩ [[⟨7⟩]], node ⟨7⟩ []] }

theorem parse_records : Document.parse records = .ok document := by cbv

/-- A node of the graph. -/
def graphNode (id : Identifier) (ports : List (List Identifier)) : GraphNode :=
  { definition := node id ports
    identity :=
      { id, name := "", type := "switch", flow := { id := ⟨1⟩, label := "", env := [] }, groups := [] }
    ports }

/-- The graph, the sinks before what feeds them. -/
def graph : Graph :=
  { nodes :=
      [graphNode ⟨5⟩ [], graphNode ⟨3⟩ [[⟨5⟩]], graphNode ⟨4⟩ [[⟨5⟩]],
       graphNode ⟨2⟩ [[⟨3⟩, ⟨4⟩], [⟨4⟩, ⟨3⟩]], graphNode ⟨7⟩ [], graphNode ⟨6⟩ [[⟨7⟩]]]
    cyclic := false }

theorem build_document : build Double.zero document = .ok graph := by cbv

end Diamond

/-- No wires of the diamond run in a circle and its sink stands before both nodes that feed it; a wire
of the junction leads back to it. -/
theorem cyclic_iff_circle_diamond :
    (¬∃ c, TransGen Diamond.document.Wire c c) ∧
    (∀ before n after, Diamond.graph.nodes = before ++ n :: after → ∀ targets ∈ n.ports,
      ∀ t ∈ targets, t ∈ before.map fun n => n.identity.id) ∧
    (∃ c, TransGen Loop.document.Wire c c) ∧
    Loop.graph.nodes.map (·.definition) = Loop.document.nodes.filter (isActive Loop.document) := by
  obtain ⟨hcircle, hdown, -⟩ := cyclic_iff_circle Diamond.parse_records Diamond.build_document
  obtain ⟨hloop, -, hkept⟩ := cyclic_iff_circle Loop.parse_records Loop.build_document
  refine ⟨fun h => ?_, (hdown rfl).2, hloop.1 rfl, hkept rfl⟩
  cases hcircle.2 h

end Graph

end Wireflow
