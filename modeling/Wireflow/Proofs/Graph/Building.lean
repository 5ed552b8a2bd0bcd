/-
When the graph of a document can be built. There are four flaws that keep it from being built, and
each of them does: entries of a flow or of a group that make no sense, a group whose parents run into
a circle, and a wire of a node that takes part to something that is no node. Owners are never missing,
since the parser has looked for them.

The walk from a group outwards ends because it stops at the first group that it has passed before. It
comes to such a group exactly when the parents run into a circle.
-/
import Wireflow.Proofs.Document.Identifiers
import Wireflow.Proofs.Graph.Wiring
import Mathlib.Logic.Relation

namespace Wireflow

open Relation

namespace Document

/-- A group stands directly inside another one. -/
def Inside (d : Document) (id parent : Identifier) : Prop :=
  ∃ g ∈ d.groups, g.id = id ∧ g.parent = some parent

/-- The way from a group outwards runs into a circle; the group need not be on the circle itself. -/
def Circular (d : Document) (id : Identifier) : Prop :=
  ∃ c, ReflTransGen d.Inside id c ∧ TransGen d.Inside c c

/-- What keeps the graph of a document from being built, with the fault that tells of it. -/
inductive Flaw (now : Double) (d : Document) : GraphFault → Prop
  | flowEntries {f : FlowDefinition} {fault : NodeFault} (hf : f ∈ d.flows)
    (henv : EnvList.compile now f.env = .error fault) :
    Flaw now d (.invalidRecord (.flowEnv f.id fault))
  | groupEntries {g : GroupDefinition} {fault : NodeFault} (hg : g ∈ d.groups)
    (henv : EnvList.compile now g.env = .error fault) :
    Flaw now d (.invalidRecord (.groupEnv g.id fault))
  | circle {g : GroupDefinition} (hg : g ∈ d.groups) (hcircle : d.Circular g.id) :
    Flaw now d (.invalidRecord (.nestedGroup g.id))
  | wire {n : NodeDefinition} {wires : List Identifier} {t : Identifier} (hn : n ∈ d.nodes)
    (hactive : Graph.isActive d n = true) (hwires : wires ∈ n.wires) (ht : t ∈ wires)
    (hunknown : t ∉ d.nodes.map (·.id)) : Flaw now d (.danglingWire n.id t)

/-- A group that leads into a circle stands inside one that does. -/
theorem Circular.exists_inside {d : Document} {id : Identifier} (h : d.Circular id) :
    ∃ parent, d.Inside id parent ∧ d.Circular parent := by
  obtain ⟨c, hreach, hcircle⟩ := h
  rcases ReflTransGen.cases_head hreach with rfl | ⟨parent, hstep, hrest⟩
  · -- the group is on the circle, and so is the one around it
    obtain ⟨parent, hstep, hback⟩ := TransGen.head'_iff.1 hcircle
    exact ⟨parent, hstep, id, hback, hcircle⟩
  · exact ⟨parent, hstep, c, hrest, hcircle⟩

theorem Inside.circular {d : Document} {id parent : Identifier} (h : d.Inside id parent)
    (hparent : d.Circular parent) : d.Circular id := by
  obtain ⟨c, hreach, hcircle⟩ := hparent
  exact ⟨c, .head h hreach, hcircle⟩

/-- A group has one parent, so going outwards is looking it up. -/
theorem parent_of_inside {d : Document} (hnodup : (d.groups.map (·.id)).Nodup)
    {g : GroupDefinition} {id parent : Identifier}
    (hg : d.groups.find? (fun g => g.id == id) = some g) (h : d.Inside id parent) :
    g.parent = some parent := by
  obtain ⟨g', hg', rfl, hparent⟩ := h
  rw [find?_key_of_nodup hnodup hg'] at hg
  cases hg
  exact hparent

/-- The flow of a node is the one that is looked up, so a node takes part when it and the flow that it
names are enabled. -/
theorem isActive_iff {d : Document} (hnodup : (d.flows.map (·.id)).Nodup) (n : NodeDefinition) :
    Graph.isActive d n = true ↔
      n.disabled = false ∧ ∀ f ∈ d.flows, f.id = n.flow → f.disabled = false := by
  unfold Graph.isActive flow?
  cases hfind : d.flows.find? (fun f => f.id == n.flow) with
  | none =>
    have hnone := List.find?_eq_none.1 hfind
    simp only [beq_iff_eq] at hnone
    simp only [Bool.not_false, Bool.and_true, Bool.not_eq_true']
    exact ⟨fun h => ⟨h, fun f hf hid => absurd hid (hnone f hf)⟩, And.left⟩
  | some f =>
    obtain ⟨hf, hid⟩ := mem_of_find?_key hfind
    simp only [Bool.and_eq_true, Bool.not_eq_true']
    refine and_congr_right fun _ => ⟨fun h f' hf' hid' => ?_, fun h => h f hf hid⟩
    rw [← hid] at hid'
    exact List.inj_on_of_nodup_map hnodup hf' hf hid' ▸ h

end Document

namespace Graph

/-! ## Lists of results -/

/-- A fault comes from an item. -/
theorem exists_of_each_eq_error {f : α → Except ε β} {as : List α} {e : ε}
    (h : each f as = .error e) : ∃ a ∈ as, f a = .error e := by
  induction as with
  | nil => cases h
  | cons a rest ih =>
    unfold each at h
    split at h
    · rename_i e' ha
      cases h
      exact ⟨a, List.mem_cons_self .., ha⟩
    · split at h
      · rename_i e' hrest
        cases h
        obtain ⟨b, hb, hfault⟩ := ih hrest
        exact ⟨b, List.mem_cons_of_mem _ hb, hfault⟩
      · cases h

/-- Every item has a result. -/
theorem exists_of_each_eq_ok {f : α → Except ε β} {as : List α} {bs : List β} {a : α}
    (h : each f as = .ok bs) (ha : a ∈ as) : ∃ b ∈ bs, f a = .ok b := by
  have hall := each_eq_ok_iff.1 h
  clear h
  induction hall with
  | nil => cases ha
  | cons hb _ ih =>
    rcases List.mem_cons.1 ha with rfl | ha
    · exact ⟨_, List.mem_cons_self .., hb⟩
    · obtain ⟨b, hmem, hb⟩ := ih ha
      exact ⟨b, List.mem_cons_of_mem _ hmem, hb⟩

/-! ## Groups -/

/-- The walk outwards fails only by coming back to a group that it has passed; the groups that it has
passed lead to where it is, so it has gone round in a circle then. -/
theorem chain_eq_error {d : Document}
    (hparents : ∀ g ∈ d.groups, ∀ p, g.parent = some p → ∃ h ∈ d.groups, h.id = p)
    {origin : Identifier} {passed : List Identifier} {id : Identifier} {e : GraphFault}
    (h : chain d.groups origin passed id = .error e) (hid : ∃ g ∈ d.groups, g.id = id)
    (hpassed : ∀ p ∈ passed, TransGen d.Inside p id) :
    e = .invalidRecord (.nestedGroup origin) ∧ d.Circular id := by
  -- by the steps of the walk
  fun_induction chain d.groups origin passed id with
  | case1 passed id hp =>
    cases h
    exact ⟨rfl, id, .refl, hpassed id hp⟩
  | case2 passed id hp hnone =>
    obtain ⟨g, hg, rfl⟩ := hid
    simpa using List.find?_eq_none.1 hnone g hg
  | case3 => cases h
  | case4 passed id hp g hfind parent hparent e' hrec ih =>
    cases h
    obtain ⟨hmem, hgid⟩ := mem_of_find?_key hfind
    have hstep : d.Inside id parent := ⟨g, hmem, hgid, hparent⟩
    obtain ⟨heq, hcircle⟩ := ih hrec (hparents g hmem parent hparent)
      (List.forall_mem_cons.2 ⟨.single hstep, fun p hp => (hpassed p hp).tail hstep⟩)
    exact ⟨heq, hstep.circular hcircle⟩
  | case5 => cases h

/-- A walk that comes to an end has met no circle. -/
theorem not_circular_of_chain {d : Document} (hnodup : (d.groups.map (·.id)).Nodup)
    {origin : Identifier} {passed : List Identifier} {id : Identifier}
    {around : List GroupDefinition} (h : chain d.groups origin passed id = .ok around) :
    ¬ d.Circular id := by
  intro hcircle
  fun_induction chain d.groups origin passed id generalizing around with
  | case1 => cases h
  | case2 => cases h
  | case3 passed id hp g hfind hnone =>
    obtain ⟨parent, hstep, -⟩ := hcircle.exists_inside
    rw [Document.parent_of_inside hnodup hfind hstep] at hnone
    cases hnone
  | case4 => cases h
  | case5 passed id hp g hfind parent hparent around' hrec ih =>
    obtain ⟨parent', hstep, hcircle'⟩ := hcircle.exists_inside
    rw [Document.parent_of_inside hnodup hfind hstep] at hparent
    cases hparent
    exact ih hrec hcircle'

/-! ## Wires -/

/-- A port fails at a wire to something that is no node. -/
theorem portTargets_eq_error {known active : List Identifier} {source : Identifier}
    (wires : List Identifier) :
    ∀ {targets : List Identifier} {e : GraphFault},
      portTargets known active source wires targets = .error e →
        ∃ t ∈ wires, t ∉ known ∧ e = .danglingWire source t := by
  induction wires with
  | nil =>
    intro targets e h
    cases h
  | cons t rest ih =>
    intro targets e h
    unfold portTargets at h
    split at h
    · rename_i hunknown
      cases h
      exact ⟨t, List.mem_cons_self .., hunknown, rfl⟩
    · have hrest : ∃ t ∈ rest, t ∉ known ∧ e = .danglingWire source t := by
        split at h <;> exact ih h
      obtain ⟨t', ht', hfault⟩ := hrest
      exact ⟨t', List.mem_cons_of_mem _ ht', hfault⟩

/-- All wires of a port that does not fail lead to nodes. -/
theorem mem_known_of_portTargets {known active : List Identifier} {source : Identifier}
    (wires : List Identifier) :
    ∀ {targets ts : List Identifier}, portTargets known active source wires targets = .ok ts →
      ∀ t ∈ wires, t ∈ known := by
  induction wires with
  | nil => simp
  | cons t rest ih =>
    intro targets ts h
    unfold portTargets at h
    split at h
    · cases h
    · rename_i hknown
      refine List.forall_mem_cons.2 ⟨not_not.1 hknown, ?_⟩
      split at h <;> exact ih h

/-! ## Nodes -/

/-- The identities of flows are those of the document. -/
theorem exists_flowIdentity {now : Double} {d : Document} {flows : List FlowIdentity}
    (h : each (flowIdentity now) d.flows = .ok flows) {id : Identifier}
    (hid : ∃ f ∈ d.flows, f.id = id) : ∃ f, flows.find? (fun f => f.id == id) = some f := by
  obtain ⟨f, hf, rfl⟩ := hid
  obtain ⟨i, hi, hidentity⟩ := exists_of_each_eq_ok h hf
  refine Option.isSome_iff_exists.1 (List.find?_isSome.2 ⟨i, hi, ?_⟩)
  unfold flowIdentity at hidentity
  split at hidentity
  · cases hidentity
    simp
  · cases hidentity

/-- Every group of the document has its groups around it. -/
theorem exists_chain {d : Document} {identities : List GroupIdentity}
    {chains : List (Identifier × List GroupIdentity)}
    (h : each (chainIdentities d.groups identities) d.groups = .ok chains) {id : Identifier}
    (hid : ∃ g ∈ d.groups, g.id = id) : ∃ around, chains.lookup id = some around := by
  obtain ⟨g, hg, rfl⟩ := hid
  obtain ⟨c, hc, hchain⟩ := exists_of_each_eq_ok h hg
  unfold chainIdentities at hchain
  split at hchain
  · cases hchain
  · cases hchain
    refine Option.isSome_iff_exists.1 ?_
    rw [List.lookup_isSome_iff]
    exact ⟨_, hc, by simp⟩

/-- A node whose owners are there fails at one of its wires. -/
theorem graphNode_eq_error {flows : List FlowIdentity}
    {chains : List (Identifier × List GroupIdentity)} {known active : List Identifier}
    {n : NodeDefinition} {e : GraphFault} (h : graphNode flows chains known active n = .error e)
    (hflow : ∃ f, flows.find? (fun f => f.id == n.flow) = some f)
    (hgroup : ∀ g, n.group = some g → ∃ around, chains.lookup g = some around) :
    ∃ wires ∈ n.wires, ∃ t ∈ wires, t ∉ known ∧ e = .danglingWire n.id t := by
  obtain ⟨f, hf⟩ := hflow
  have hports : each (fun wires => portTargets known active n.id wires []) n.wires = .error e := by
    unfold graphNode at h
    rw [hf] at h
    dsimp only at h
    cases hng : n.group with
    | none =>
      rw [hng] at h
      dsimp only at h
      split at h
      · rename_i hports
        cases h
        exact hports
      · cases h
    | some g =>
      obtain ⟨around, haround⟩ := hgroup g hng
      rw [hng] at h
      dsimp only at h
      rw [haround] at h
      dsimp only at h
      split at h
      · rename_i hports
        cases h
        exact hports
      · cases h
  obtain ⟨wires, hwires, hfault⟩ := exists_of_each_eq_error hports
  exact ⟨wires, hwires, portTargets_eq_error wires hfault⟩

/-- All wires of a node that has a place lead to nodes. -/
theorem mem_known_of_graphNode {flows : List FlowIdentity}
    {chains : List (Identifier × List GroupIdentity)} {known active : List Identifier}
    {n : NodeDefinition} {g : GraphNode} (h : graphNode flows chains known active n = .ok g) :
    ∀ wires ∈ n.wires, ∀ t ∈ wires, t ∈ known := by
  unfold graphNode at h
  split at h
  · cases h
  · dsimp only at h
    split at h
    · cases h
    · split at h
      · cases h
      · rename_i ports hports
        intro wires hwires
        obtain ⟨ts, -, hts⟩ := exists_of_each_eq_ok hports hwires
        exact mem_known_of_portTargets wires hts

/-! ## Building -/

/-- The graph of a parsed document is kept from being built by a flaw of the document only. -/
theorem flaw_of_build_eq_error {records : Json} {d : Document} {now : Double} {e : GraphFault}
    (hparse : Document.parse records = .ok d) (h : build now d = .error e) : d.Flaw now e := by
  unfold build at h
  split at h
  · -- the entries of a flow
    rename_i hflows
    cases h
    obtain ⟨f, hf, hfault⟩ := exists_of_each_eq_error hflows
    unfold flowIdentity at hfault
    split at hfault
    · cases hfault
    · rename_i henv
      cases hfault
      exact .flowEntries hf henv
  · rename_i flows hflows
    split at h
    · -- the entries of a group
      rename_i hgroups
      cases h
      obtain ⟨g, hg, hfault⟩ := exists_of_each_eq_error hgroups
      unfold groupIdentity at hfault
      split at hfault
      · cases hfault
      · rename_i henv
        cases hfault
        exact .groupEntries hg henv
    · rename_i identities hidentities
      split at h
      · -- the groups around a group
        rename_i hchains
        cases h
        obtain ⟨g, hg, hfault⟩ := exists_of_each_eq_error hchains
        unfold chainIdentities at hfault
        split at hfault
        · rename_i hchain
          cases hfault
          obtain ⟨rfl, hcircle⟩ := chain_eq_error
            (fun g hg => (Document.owners_of_mem_groups hparse hg).2) hchain ⟨g, hg, rfl⟩ (by simp)
          exact .circle hg hcircle
        · cases hfault
      · rename_i chains hchains
        dsimp only at h
        split at h
        · -- a node
          rename_i hnodes
          cases h
          obtain ⟨n, hn, hfault⟩ := exists_of_each_eq_error hnodes
          obtain ⟨hmem, hactive⟩ := List.mem_filter.1 hn
          obtain ⟨hflow, hgroup⟩ := Document.owners_of_mem_nodes hparse hmem
          obtain ⟨wires, hwires, t, ht, hunknown, rfl⟩ := graphNode_eq_error hfault
            (exists_flowIdentity hflows hflow) fun g hg => exists_chain hchains (hgroup g hg)
          exact .wire hmem hactive hwires ht hunknown
        · cases h

/-- A document of which a graph has been built has no flaw. -/
theorem not_flaw_of_build_eq_ok {d : Document} {now : Double} {g : Graph}
    (hnodup : (d.groups.map (·.id)).Nodup) (h : build now d = .ok g) (e : GraphFault) :
    ¬ d.Flaw now e := by
  obtain ⟨flows, identities, chains, nodes, hflows, hidentities, hchains, hnodes, -⟩ :=
    build_eq_ok h
  rintro (⟨hf, henv⟩ | ⟨hg, henv⟩ | ⟨hg, hcircle⟩ | ⟨hn, hactive, hwires, ht, hunknown⟩)
  · obtain ⟨i, -, hi⟩ := exists_of_each_eq_ok hflows hf
    unfold flowIdentity at hi
    rw [henv] at hi
    cases hi
  · obtain ⟨i, -, hi⟩ := exists_of_each_eq_ok hidentities hg
    unfold groupIdentity at hi
    rw [henv] at hi
    cases hi
  · obtain ⟨c, -, hc⟩ := exists_of_each_eq_ok hchains hg
    unfold chainIdentities at hc
    split at hc
    · cases hc
    · rename_i hchain
      exact not_circular_of_chain hnodup hchain hcircle
  · obtain ⟨node, -, hnode⟩ := exists_of_each_eq_ok hnodes (List.mem_filter.2 ⟨hn, hactive⟩)
    exact hunknown (mem_known_of_graphNode hnode _ hwires _ ht)

/-- The graph of a parsed document cannot be built exactly when the entries of a flow or of a group
make no sense, a group leads into a circle, or a node that takes part has a wire to something that is no
node; the fault tells of one of these, and never of a missing flow or group. A graph that is built has
the nodes that take part, those that are enabled in an enabled flow, each of them once; the ports of a
node are its lists of wires with what does not take part left out and of several wires to one node the
first one kept. -/
theorem build_iff_flawless {records : Json} {d : Document}
    (hparse : Document.parse records = .ok d) (now : Double) :
    ((∃ e, build now d = .error e) ↔
      (∃ f ∈ d.flows, ∃ fault, EnvList.compile now f.env = .error fault) ∨
      (∃ g ∈ d.groups, ∃ fault, EnvList.compile now g.env = .error fault) ∨
      (∃ g ∈ d.groups, d.Circular g.id) ∨
      ∃ n ∈ d.nodes, isActive d n = true ∧ ∃ wires ∈ n.wires, ∃ t ∈ wires,
        t ∉ d.nodes.map (·.id)) ∧
    (∀ e, build now d = .error e →
      d.Flaw now e ∧ ∀ node owner, e ≠ .unknownFlow node owner ∧ e ≠ .unknownGroup node owner) ∧
    (∀ n, isActive d n = true ↔
      n.disabled = false ∧ ∀ f ∈ d.flows, f.id = n.flow → f.disabled = false) ∧
    ∀ g, build now d = .ok g →
      (g.nodes.map (·.definition)).Perm (d.nodes.filter (isActive d)) ∧
      (g.nodes.map fun n => n.identity.id).Nodup ∧
      ∀ n ∈ g.nodes, n.identity.id = n.definition.id ∧
        n.ports.length = n.definition.wires.length ∧
        (∀ (k : Nat) wires, n.definition.wires[k]? = some wires → n.ports[k]? = some (d.reached wires)) ∧
        ∀ targets ∈ n.ports, targets.Nodup ∧
          ∀ t ∈ targets, t ∈ g.nodes.map fun n => n.identity.id := by
  have hflaw (e : GraphFault) (he : d.Flaw now e) : ∃ e, build now d = .error e := by
    cases hbuild : build now d with
    | error e' => exact ⟨e', rfl⟩
    | ok g => exact absurd he (not_flaw_of_build_eq_ok (Document.groupIds_nodup hparse) hbuild e)
  have hnodes := Document.nodeIds_nodup hparse
  refine ⟨⟨?_, ?_⟩, ?_, Document.isActive_iff (Document.flowIds_nodup hparse), ?_⟩
  · rintro ⟨e, he⟩
    obtain ⟨hf, henv⟩ | ⟨hg, henv⟩ | ⟨hg, hcircle⟩ | ⟨hn, hactive, hwires, ht, hunknown⟩ :=
      flaw_of_build_eq_error hparse he
    · exact .inl ⟨_, hf, _, henv⟩
    · exact .inr (.inl ⟨_, hg, _, henv⟩)
    · exact .inr (.inr (.inl ⟨_, hg, hcircle⟩))
    · exact .inr (.inr (.inr ⟨_, hn, hactive, _, hwires, _, ht, hunknown⟩))
  · rintro (⟨f, hf, fault, henv⟩ | ⟨g, hg, fault, henv⟩ | ⟨g, hg, hcircle⟩ |
      ⟨n, hn, hactive, wires, hwires, t, ht, hunknown⟩)
    · exact hflaw _ (.flowEntries hf henv)
    · exact hflaw _ (.groupEntries hg henv)
    · exact hflaw _ (.circle hg hcircle)
    · exact hflaw _ (.wire hn hactive hwires ht hunknown)
  · intro e he
    have hflaw := flaw_of_build_eq_error hparse he
    refine ⟨hflaw, fun node owner => ⟨?_, ?_⟩⟩ <;> (rintro rfl; cases hflaw)
  · intro g hg
    obtain ⟨hplaces, hids⟩ := build_places hg hnodes
    obtain ⟨nodes, rfl, hdefinitions, hnodeIds, -⟩ := exists_nodes_of_build hg
    have hperm := ofNodes_perm (hnodeIds ▸ activeIds_nodup hnodes)
    refine ⟨hdefinitions ▸ hperm.map _, hids.nodup_iff.2 (activeIds_nodup hnodes), fun n hn => ?_⟩
    have hplace := hplaces n hn
    refine ⟨hplace.id, by rw [hplace.ports, List.length_map], fun k wires hk => ?_, ?_⟩
    · rw [hplace.ports, List.getElem?_map, hk]
      rfl
    · intro targets htargets
      rw [hplace.ports] at htargets
      obtain ⟨wires, -, rfl⟩ := List.mem_map.1 htargets
      exact ⟨nodup_eraseDups _, fun t ht => hids.mem_iff.2 (Document.mem_reached.1 ht).2⟩

/-! ### Two flows

One with a junction that leads to itself, to one sink twice and to two nodes that do not take part, and
one with a group inside another that is inside itself. -/

namespace Loop

/-- The records of the flow with a junction that leads to itself. -/
def records : Json :=
  .array
    [.object [("id", .string "1"), ("type", .string "tab")],
     .object [("disabled", .bool true), ("id", .string "5"), ("type", .string "tab")],
     .object [("id", .string "2"), ("type", .string "junction"),
       ("wires", .array [.array [.string "3", .string "4", .string "3", .string "6", .string "2"]]),
       ("z", .string "1")],
     .object [("id", .string "3"), ("type", .string "debug"), ("z", .string "1")],
     .object [("d", .bool true), ("id", .string "4"), ("type", .string "debug"), ("z", .string "1")],
     .object [("id", .string "6"), ("type", .string "debug"), ("z", .string "5")]]

/-- A node of it. -/
def node (id flow : Identifier) (type : String) (wires : List (List Identifier)) (disabled : Bool) :
    NodeDefinition :=
  { id, type, flow, group := none, name := "", wires, disabled, config := [] }

/-- The document of the records. -/
def document : Document :=
  { flows :=
      [{ id := ⟨1⟩, label := "", disabled := false, env := [] },
       { id := ⟨5⟩, label := "", disabled := true, env := [] }]
    groups := []
    nodes :=
      [node ⟨2⟩ ⟨1⟩ "junction" [[⟨3⟩, ⟨4⟩, ⟨3⟩, ⟨6⟩, ⟨2⟩]] false, node ⟨3⟩ ⟨1⟩ "debug" [] false,
       node ⟨4⟩ ⟨1⟩ "debug" [] true, node ⟨6⟩ ⟨5⟩ "debug" [] false] }

theorem parse_records : Document.parse records = .ok document := by cbv

/-- A node of the graph of the junction that leads to itself. -/
def graphNode (id : Identifier) (type : String) (wires ports : List (List Identifier)) : GraphNode :=
  { definition := node id ⟨1⟩ type wires false
    identity :=
      { id, name := "", type, flow := { id := ⟨1⟩, label := "", env := [] }, groups := [] }
    ports }

/-- The graph of the junction that leads to itself. -/
def graph : Graph :=
  { nodes :=
      [graphNode ⟨2⟩ "junction" [[⟨3⟩, ⟨4⟩, ⟨3⟩, ⟨6⟩, ⟨2⟩]] [[⟨3⟩, ⟨2⟩]], graphNode ⟨3⟩ "debug" [] []]
    cyclic := true }

theorem build_document : build Double.zero document = .ok graph := by cbv

/-- The records of the flow with a group that is inside itself. -/
def nestedRecords : Json :=
  .array
    [.object [("id", .string "1"), ("type", .string "tab")],
     .object [("g", .string "b"), ("id", .string "a"), ("type", .string "group"), ("z", .string "1")],
     .object [("g", .string "b"), ("id", .string "b"), ("type", .string "group"), ("z", .string "1")]]

/-- A group of it. -/
def group (id parent : Identifier) : GroupDefinition :=
  { id, name := "", flow := ⟨1⟩, parent := some parent, env := [] }

/-- The document of the records. -/
def nestedDocument : Document :=
  { flows := [{ id := ⟨1⟩, label := "", disabled := false, env := [] }]
    groups := [group ⟨10⟩ ⟨11⟩, group ⟨11⟩ ⟨11⟩]
    nodes := [] }

theorem parse_nestedRecords : Document.parse nestedRecords = .ok nestedDocument := by cbv

end Loop

/-- The sink that is named twice is a target once, and what does not take part is none; the flow with
the nested groups has no graph, though its first group is not on the circle that it leads into. -/
theorem build_iff_flawless_loop :
    (∀ n ∈ Loop.graph.nodes, ∀ wires, n.definition.wires[0]? = some wires →
      n.ports[0]? = some (Loop.document.reached wires)) ∧
    Loop.document.reached [⟨3⟩, ⟨4⟩, ⟨3⟩, ⟨6⟩, ⟨2⟩] = [⟨3⟩, ⟨2⟩] ∧
    ∃ e, build Double.zero Loop.nestedDocument = .error e := by
  refine ⟨fun n hn wires hwires => ?_, by decide +kernel, ?_⟩
  · obtain ⟨-, -, hplaces⟩ :=
      (build_iff_flawless Loop.parse_records Double.zero).2.2.2 _ Loop.build_document
    exact (hplaces n hn).2.2.1 0 wires hwires
  · refine (build_iff_flawless Loop.parse_nestedRecords Double.zero).1.2 (.inr (.inr (.inl ?_)))
    have hinside (id : Identifier) (hid : Loop.group id ⟨11⟩ ∈ Loop.nestedDocument.groups) :
        Loop.nestedDocument.Inside id ⟨11⟩ := ⟨_, hid, rfl, rfl⟩
    refine ⟨Loop.group ⟨10⟩ ⟨11⟩, List.mem_cons_self .., ⟨11⟩, .single (hinside ⟨10⟩ ?_),
      .single (hinside ⟨11⟩ ?_)⟩
    · exact List.mem_cons_self ..
    · exact List.mem_cons_of_mem _ (List.mem_cons_self ..)

end Graph

end Wireflow
