/-
What a graph makes of the wires of a document: a port leads to the nodes that its wires name and that
take part, each of them once, at its first place. The nodes of the graph are those that take part.
-/
import Wireflow.Proofs.Graph.Order
import Mathlib.Data.List.Forall2

namespace Wireflow

/-- No item is left twice. -/
theorem nodup_eraseDups [BEq α] [LawfulBEq α] (l : List α) : l.eraseDups.Nodup := by
  match l with
  | [] => simp
  | a :: rest =>
    rw [List.eraseDups_cons, List.nodup_cons]
    refine ⟨by simp [List.mem_eraseDups], ?_⟩
    exact nodup_eraseDups (rest.filter fun b => !b == a)
termination_by l.length
decreasing_by
  exact Nat.lt_of_le_of_lt (List.length_filter_le _ _) (Nat.lt_succ_self _)

namespace Document

/-- The identifiers of the nodes that take part. -/
def activeIds (d : Document) : List Identifier :=
  (d.nodes.filter (Graph.isActive d)).map (·.id)

/-- Where the wires of a port lead. -/
def reached (d : Document) (wires : List Identifier) : List Identifier :=
  (wires.filter fun t => decide (t ∈ d.activeIds)).eraseDups

theorem mem_reached {d : Document} {wires : List Identifier} {t : Identifier} :
    t ∈ d.reached wires ↔ t ∈ wires ∧ t ∈ d.activeIds := by
  simp [reached, List.mem_eraseDups]

/-- The node of a graph is what a definition of the document says. -/
structure Places (d : Document) (g : GraphNode) : Prop where
  mem : g.definition ∈ d.nodes
  active : Graph.isActive d g.definition = true
  id : g.identity.id = g.definition.id
  ports : g.ports = g.definition.wires.map d.reached

end Document

namespace Graph

theorem each_eq_ok_iff {f : α → Except ε β} {as : List α} {bs : List β} :
    each f as = .ok bs ↔ List.Forall₂ (fun a b => f a = .ok b) as bs := by
  induction as generalizing bs with
  | nil =>
    rw [List.forall₂_nil_left_iff]
    exact ⟨fun h => by cases h; rfl, fun h => by rw [h]; rfl⟩
  | cons a rest ih =>
    constructor
    · intro h
      unfold each at h
      split at h
      · cases h
      · rename_i b hb
        split at h
        · cases h
        · rename_i bs' hbs
          cases h
          exact .cons hb (ih.1 hbs)
    · rintro (_ | ⟨hb, hbs⟩)
      unfold each
      rw [hb, ih.2 hbs]

/-- Every result comes from an item. -/
theorem exists_of_mem_each {f : α → Except ε β} {as : List α} {bs : List β} {b : β}
    (h : each f as = .ok bs) (hb : b ∈ bs) : ∃ a ∈ as, f a = .ok b := by
  have hall := each_eq_ok_iff.1 h
  clear h
  induction hall with
  | nil => cases hb
  | cons hf _ ih =>
    rcases List.mem_cons.1 hb with rfl | hb
    · exact ⟨_, List.mem_cons_self .., hf⟩
    · obtain ⟨a, ha, hf⟩ := ih hb
      exact ⟨a, List.mem_cons_of_mem _ ha, hf⟩

/-- What can be told of every result from its item can be told of the lists. -/
theorem map_eq_of_each_eq_ok {f : α → Except ε β} {as : List α} {bs : List β} {g : β → γ}
    {k : α → γ} (h : each f as = .ok bs) (hg : ∀ a ∈ as, ∀ b, f a = .ok b → g b = k a) :
    bs.map g = as.map k := by
  have hall := each_eq_ok_iff.1 h
  clear h
  induction hall with
  | nil => rfl
  | cons hb _ ih =>
    rw [List.map_cons, List.map_cons, hg _ (by simp) _ hb,
      ih fun a ha => hg a (List.mem_cons_of_mem _ ha)]

/-- What is left out of a port's targets, one wire after the other, is left out of all of them. -/
theorem portTargets_eq_ok {known active : List Identifier} {source : Identifier}
    (wires : List Identifier) :
    ∀ {targets ts : List Identifier},
      portTargets known active source wires targets = .ok ts →
        ts = targets ++
          ((wires.filter fun t => decide (t ∈ active)).filter
            fun t => decide (t ∉ targets)).eraseDups := by
  induction wires with
  | nil =>
    intro targets ts h
    cases h
    simp
  | cons t rest ih =>
    intro targets ts h
    unfold portTargets at h
    split at h
    · cases h
    · split at h
      · rename_i hout
        rw [ih h]
        -- the wire leads to no node that takes part, or to one that is there already
        rcases hout with hout | hin
        · rw [List.filter_cons_of_neg (by simpa using hout)]
        · by_cases ha : t ∈ active
          · rw [List.filter_cons_of_pos (by simpa using ha), List.filter_cons_of_neg (by simpa)]
          · rw [List.filter_cons_of_neg (by simpa using ha)]
      · rename_i hnew
        push Not at hnew
        obtain ⟨ha, hnot⟩ := hnew
        rw [ih h, List.filter_cons_of_pos (by simpa using ha),
          List.filter_cons_of_pos (by simpa using hnot), List.eraseDups_cons, List.append_assoc]
        -- of the later wires those to the same node are left out, here and there
        rw [List.filter_filter (p := fun b => !b == t)]
        have hrest : (fun b => decide (b ∉ targets ++ [t])) =
            fun b => !b == t && decide (b ∉ targets) := by
          funext b
          by_cases hb : b = t <;> simp [hb]
        rw [hrest, List.singleton_append]

/-- A node that is placed has the identifier of its definition and, for every list of wires, the
targets that are reached by them. -/
theorem graphNode_eq_ok {d : Document} {flows : List FlowIdentity}
    {chains : List (Identifier × List GroupIdentity)} {known : List Identifier}
    {n : NodeDefinition} {g : GraphNode} (h : graphNode flows chains known d.activeIds n = .ok g) :
    g.definition = n ∧ g.identity.id = n.id ∧ g.ports = n.wires.map d.reached := by
  unfold graphNode at h
  split at h
  · cases h
  · dsimp only at h
    split at h
    · cases h
    · split at h
      · cases h
      · rename_i ports hports
        cases h
        refine ⟨rfl, rfl, ?_⟩
        rw [← List.map_id ports]
        refine map_eq_of_each_eq_ok hports fun wires _ ts hts => ?_
        rw [portTargets_eq_ok _ hts]
        simp [Document.reached]

/-- A graph is built in stages: the flows, the groups, the groups around each group, and the nodes. -/
theorem build_eq_ok {now : Double} {d : Document} {g : Graph} (h : build now d = .ok g) :
    ∃ flows identities chains nodes,
      each (flowIdentity now) d.flows = .ok flows ∧
      each (groupIdentity now) d.groups = .ok identities ∧
      each (chainIdentities d.groups identities) d.groups = .ok chains ∧
      each (graphNode flows chains (d.nodes.map (·.id)) d.activeIds)
        (d.nodes.filter (isActive d)) = .ok nodes ∧
      g = ofNodes nodes := by
  unfold build at h
  split at h
  · cases h
  · rename_i flows hflows
    split at h
    · cases h
    · rename_i identities hidentities
      split at h
      · cases h
      · rename_i chains hchains
        dsimp only at h
        split at h
        · cases h
        · rename_i nodes hnodes
          cases h
          exact ⟨flows, identities, chains, nodes, hflows, hidentities, hchains, hnodes, rfl⟩

/-- What a graph is made of, before the order of the start: the nodes of the document that take part,
in the order of the document. -/
theorem exists_nodes_of_build {now : Double} {d : Document} {g : Graph} (h : build now d = .ok g) :
    ∃ nodes, g = ofNodes nodes ∧ nodes.map (·.definition) = d.nodes.filter (isActive d) ∧
      (nodes.map fun n => n.identity.id) = d.activeIds ∧ ∀ n ∈ nodes, d.Places n := by
  obtain ⟨flows, identities, chains, nodes, -, -, -, hnodes, rfl⟩ := build_eq_ok h
  refine ⟨nodes, rfl, ?_, ?_, fun g hg => ?_⟩
  · rw [map_eq_of_each_eq_ok (k := id) hnodes fun n _ g hg => (graphNode_eq_ok hg).1, List.map_id]
  · exact map_eq_of_each_eq_ok hnodes fun n _ g hg => (graphNode_eq_ok hg).2.1
  · obtain ⟨n, hn, hplace⟩ := exists_of_mem_each hnodes hg
    obtain ⟨rfl, hid, hports⟩ := graphNode_eq_ok hplace
    obtain ⟨hmem, hactive⟩ := List.mem_filter.1 hn
    exact ⟨hmem, hactive, hid, hports⟩

theorem activeIds_nodup {d : Document} (h : (d.nodes.map (·.id)).Nodup) : d.activeIds.Nodup :=
  (List.filter_sublist.map _).nodup h

/-- The nodes of a graph are the nodes of the document that take part. -/
theorem build_places {now : Double} {d : Document} {g : Graph} (h : build now d = .ok g)
    (hnodup : (d.nodes.map (·.id)).Nodup) :
    (∀ n ∈ g.nodes, d.Places n) ∧ (g.nodes.map fun n => n.identity.id).Perm d.activeIds := by
  obtain ⟨nodes, rfl, -, hids, hplaces⟩ := exists_nodes_of_build h
  have hperm : (ofNodes nodes).nodes.Perm nodes := ofNodes_perm (hids ▸ activeIds_nodup hnodup)
  exact ⟨fun n hn => hplaces n (hperm.mem_iff.1 hn), hids ▸ hperm.map _⟩

end Graph

end Wireflow
