/-
The stations of an engine that is built from a document: one for every node that takes part, with an
instance that is made from the node's own definition and ports that lead where its wires do. They
fit together, so that every target of a port is there and is named once.
-/
import Wireflow.Engine.Build
import Wireflow.Proofs.Document.Identifiers
import Wireflow.Proofs.Graph.Wiring

namespace Wireflow

/-- Stations that fit together: no two of them are one node's, a port names no target twice, and all
targets are there. -/
structure Wired (stations : List Station) : Prop where
  nodup : (stations.map (·.id)).Nodup
  once : ∀ s ∈ stations, ∀ targets ∈ s.ports, targets.Nodup
  known : ∀ s ∈ stations, ∀ targets ∈ s.ports, ∀ t ∈ targets, t ∈ stations.map (·.id)

/-- A station is what a document says: it belongs to a node of the document that takes part, its
instance is made from the node's definition, and its ports lead where the wires do. -/
def Document.Makes (d : Document) (w : Surroundings) (s : Station) : Prop :=
  ∃ n ∈ d.nodes, Graph.isActive d n = true ∧ s.id = n.id ∧
    w.registry.make w.clock.milliseconds n = .ok s.node ∧ s.ports = n.wires.map d.reached

namespace Engine

theorem mem_of_station? {e : Engine} {id : Identifier} {s : Station}
    (h : e.station? id = some s) : s ∈ e.stations ∧ s.id = id :=
  ⟨List.mem_of_find?_eq_some h, by simpa using List.find?_some h⟩

theorem exists_station? {e : Engine} {id : Identifier} (h : id ∈ e.nodeIds) :
    ∃ s, e.station? id = some s := by
  obtain ⟨s, hs, rfl⟩ := List.mem_map.1 h
  exact Option.isSome_iff_exists.1 (List.find?_isSome.2 ⟨s, hs, by simp⟩)

theorem station?_of_mem {e : Engine} {s : Station} (h : Wired e.stations) (hs : s ∈ e.stations) :
    e.station? s.id = some s :=
  find?_key_of_nodup h.nodup hs

theorem targets_of_mem {e : Engine} {s : Station} (h : Wired e.stations) (hs : s ∈ e.stations)
    (port : Nat) : e.targets s.id port = (s.ports[port]?).getD [] := by
  unfold targets
  rw [station?_of_mem h hs]

/-- Engines with the same stations have the same wires. -/
theorem targets_congr {e e' : Engine} (h : e'.stations = e.stations) : e'.targets = e.targets := by
  unfold targets station?
  rw [h]

/-- The targets of a port are different nodes of the engine. -/
theorem targets_wired {e : Engine} (h : Wired e.stations) (source : Identifier) (port : Nat) :
    (e.targets source port).Nodup ∧ ∀ t ∈ e.targets source port, t ∈ e.nodeIds := by
  unfold Engine.targets
  split
  · rename_i s hs
    have hmem := (mem_of_station? hs).1
    cases hp : s.ports[port]? with
    | none => simp
    | some targets =>
      have hport := List.mem_of_getElem? hp
      exact ⟨h.once s hmem targets hport, h.known s hmem targets hport⟩
  · simp

theorem instancesOf_eq_each (w : Surroundings) (nodes : List GraphNode) :
    instancesOf w nodes =
      Graph.each (fun n => w.registry.make w.clock.milliseconds n.definition) nodes := by
  induction nodes with
  | nil => rfl
  | cons n rest ih =>
    unfold instancesOf Graph.each
    rw [ih]
    cases w.registry.make w.clock.milliseconds n.definition with
    | error _ => rfl
    | ok _ =>
      cases Graph.each (fun n => w.registry.make w.clock.milliseconds n.definition) rest <;> rfl

/-- Pairing nodes with their instances by place pairs each node with its own instance. -/
theorem stations_of_instances {w : Surroundings} {nodes : List GraphNode} {instances : List Node}
    (h : instancesOf w nodes = .ok instances) :
    (List.zipWith stationOf nodes instances).map (·.id) = nodes.map (fun n => n.identity.id) ∧
      ∀ s ∈ List.zipWith stationOf nodes instances, ∃ n ∈ nodes,
        w.registry.make w.clock.milliseconds n.definition = .ok s.node ∧
          s.identity = n.identity ∧ s.ports = n.ports := by
  rw [instancesOf_eq_each] at h
  have hall := Graph.each_eq_ok_iff.1 h
  clear h
  induction hall with
  | nil => exact ⟨rfl, by simp⟩
  | @cons n node _ _ hnode _ ih =>
    refine ⟨?_, fun s hs => ?_⟩
    · rw [List.zipWith_cons_cons, List.map_cons, List.map_cons, ih.1]
      rfl
    · rcases List.mem_cons.1 hs with rfl | hs
      · exact ⟨n, List.mem_cons_self .., hnode, rfl, rfl⟩
      · obtain ⟨n', hn', h'⟩ := ih.2 s hs
        exact ⟨n', List.mem_cons_of_mem _ hn', h'⟩

/-- An engine that has just been built: it stands still with nothing to do, and its stations are
what the document says, one for every node that takes part. -/
structure Fresh (d : Document) (w : Surroundings) (e : Engine) : Prop where
  phase : e.phase = .built
  mail : e.mail = []
  wired : Wired e.stations
  makes : ∀ s ∈ e.stations, d.Makes w s
  ids : e.nodeIds.Perm d.activeIds

/-- The ports of a node that takes part lead where its wires do. -/
theorem Fresh.targets_eq {d : Document} {w : Surroundings} {e : Engine} (h : Fresh d w e)
    (hnodup : (d.nodes.map (·.id)).Nodup) {n : NodeDefinition} (hn : n ∈ d.nodes)
    (hactive : Graph.isActive d n = true) (port : Nat) :
    e.targets n.id port = d.reached ((n.wires[port]?).getD []) := by
  have hid : n.id ∈ e.nodeIds :=
    h.ids.mem_iff.2 (List.mem_map_of_mem (List.mem_filter.2 ⟨hn, hactive⟩))
  obtain ⟨s, hs, hsid⟩ := List.mem_map.1 hid
  obtain ⟨n', hn', -, hn'id, -, hports⟩ := h.makes s hs
  -- the station was made for a definition of this identifier, and no two nodes share one
  obtain rfl : n' = n := List.inj_on_of_nodup_map hnodup hn' hn (hn'id.symm.trans hsid)
  rw [← hsid, targets_of_mem h.wired hs, hports, List.getElem?_map]
  cases n'.wires[port]? <;> rfl

/-- Building the engine of a parsed document gives one. -/
theorem build_fresh {records : Json} {d : Document} {w : Surroundings} {settings : EngineSettings}
    {e : Engine} (hparse : Document.parse records = .ok d) (hbuild : (build w settings d).1 = .ok e) :
    Fresh d w e := by
  unfold build at hbuild
  split at hbuild
  · cases hbuild
  · rename_i g hg
    obtain ⟨hplaces, hids⟩ := Graph.build_places hg (Document.nodeIds_nodup hparse)
    split at hbuild
    · cases hbuild
    · split at hbuild
      · cases hbuild
      · rename_i e' he
        cases hbuild
        unfold ofGraph at he
        cases hinst : instancesOf w g.nodes with
        | error fault => rw [hinst] at he; cases he
        | ok instances =>
          rw [hinst] at he
          obtain rfl := Except.ok.inj he
          obtain ⟨hmap, hstations⟩ := stations_of_instances hinst
          -- the graph orders the nodes anew, so the identifiers agree only up to their order
          have hperm := hmap ▸ hids
          have hmakes : ∀ s ∈ List.zipWith stationOf g.nodes instances, d.Makes w s := by
            intro s hs
            obtain ⟨n, hn, hmake, hid, hports⟩ := hstations s hs
            have hplace := hplaces n hn
            exact ⟨n.definition, hplace.mem, hplace.active, by rw [Station.id, hid, hplace.id],
              hmake, by rw [hports, hplace.ports]⟩
          refine ⟨rfl, rfl, ⟨?_, ?_, ?_⟩, hmakes, hperm⟩
          · exact hperm.nodup_iff.2 ((List.filter_sublist.map _).nodup
              (Document.nodeIds_nodup hparse))
          · intro s hs targets htargets
            obtain ⟨n, -, -, -, -, hports⟩ := hmakes s hs
            rw [hports] at htargets
            obtain ⟨wires, -, rfl⟩ := List.mem_map.1 htargets
            exact nodup_eraseDups _
          · intro s hs targets htargets t ht
            obtain ⟨n, -, -, -, -, hports⟩ := hmakes s hs
            rw [hports] at htargets
            obtain ⟨wires, -, rfl⟩ := List.mem_map.1 htargets
            exact hperm.mem_iff.2 (Document.mem_reached.1 ht).2

/-! ## A fork

A flow with a junction that leads to two sinks, and the engine that is built from its records. -/

namespace Fork

/-- The records of the flow. -/
def records : Json :=
  .array
    [.object [("id", .string "1"), ("type", .string "tab")],
     .object [("id", .string "2"), ("type", .string "junction"),
       ("wires", .array [.array [.string "3", .string "4"]]), ("z", .string "1")],
     .object [("id", .string "3"), ("type", .string "debug"), ("z", .string "1")],
     .object [("id", .string "4"), ("type", .string "debug"), ("z", .string "1")]]

/-- A node of the flow. -/
def node (id : Identifier) (type : String) (wires : List (List Identifier)) : NodeDefinition :=
  { id, type, flow := ⟨1⟩, group := none, name := "", wires, disabled := false, config := [] }

/-- The document of the records. -/
def document : Document :=
  { flows := [{ id := ⟨1⟩, label := "", disabled := false, env := [] }]
    groups := []
    nodes := [node ⟨2⟩ "junction" [[⟨3⟩, ⟨4⟩]], node ⟨3⟩ "debug" [], node ⟨4⟩ "debug" []] }

theorem parse_records : Document.parse records = .ok document := by cbv

/-- The standard node types, an empty disk, and a clock that stands still. -/
def surroundings : Surroundings :=
  { registry := Registry.standard, process := [], clock := Clock.startingAt 0 true,
    disk := Disk.empty, ids := { next := 0 } }

/-- A node of the graph. -/
def graphNode (id : Identifier) (type : String) (ports : List (List Identifier)) : GraphNode :=
  { definition := node id type ports
    identity :=
      { id, name := "", type, flow := { id := ⟨1⟩, label := "", env := [] }, groups := [] }
    ports }

/-- What all sinks do that show the payload. -/
def sink : Node :=
  Node.sink "debug" true (.property { source := "payload", segments := [.name "payload"] })

/-- The engine, with the sinks before the junction that leads to them. -/
def engine : Engine :=
  { execution := surroundings.ids.take.1
    stations :=
      [stationOf (graphNode ⟨3⟩ "debug" []) sink, stationOf (graphNode ⟨4⟩ "debug" []) sink,
        stationOf (graphNode ⟨2⟩ "junction" [[⟨3⟩, ⟨4⟩]]) Node.junction]
    process := [], clock := surroundings.clock, contexts := Contexts.inMemory Disk.empty
    ids := surroundings.ids.take.2, phase := .built, started := none, mail := [], agenda := []
    events := [], outputs := [], outputsTaken := false }

theorem build_document : (build surroundings EngineSettings.plain document).1 = .ok engine := by
  have hgraph (now : Double) : Graph.build now document =
      .ok { nodes := [graphNode ⟨3⟩ "debug" [], graphNode ⟨4⟩ "debug" [],
        graphNode ⟨2⟩ "junction" [[⟨3⟩, ⟨4⟩]]], cyclic := false } := by
    cbv
  have hmake (now : Double) :
      Registry.standard.make now (node ⟨2⟩ "junction" [[⟨3⟩, ⟨4⟩]]) = .ok Node.junction ∧
        Registry.standard.make now (node ⟨3⟩ "debug" []) = .ok sink ∧
        Registry.standard.make now (node ⟨4⟩ "debug" []) = .ok sink := by
    refine ⟨?_, ?_, ?_⟩ <;> cbv
  have hcontexts : Contexts.ofSettings EngineSettings.plain.contexts surroundings.disk =
      (.ok (Contexts.inMemory Disk.empty), Disk.empty) := by
    rfl
  unfold build ofGraph
  rw [hgraph, hcontexts]
  simp only [instancesOf, graphNode, surroundings, hmake]
  rfl

end Fork

end Engine

end Wireflow
