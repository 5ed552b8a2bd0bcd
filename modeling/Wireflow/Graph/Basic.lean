/-
Graphs: the nodes of a document that take part in a run, each with its identity and its targets by
port, in the order in which they start.
-/
import Wireflow.Document
import Wireflow.Graph.Order

namespace Wireflow

/-- A node that takes part, with who it is and its targets by port. -/
structure GraphNode where
  definition : NodeDefinition
  identity : Identity
  ports : List (List Identifier)

/-- The nodes that take part in the order in which they start, and whether their wires run in a
circle. -/
structure Graph where
  nodes : List GraphNode
  cyclic : Bool

namespace Graph

/-! ## Flows and groups -/

/-- The identity of a flow. -/
def flowIdentity (now : Double) (f : FlowDefinition) : Except GraphFault FlowIdentity :=
  match EnvList.compile now f.env with
  | .ok env => .ok { id := f.id, label := f.label, env }
  | .error e => .error (.invalidRecord (.flowEnv f.id e))

/-- The identity of a group. -/
def groupIdentity (now : Double) (g : GroupDefinition) : Except GraphFault GroupIdentity :=
  match EnvList.compile now g.env with
  | .ok env => .ok { id := g.id, name := g.name, env }
  | .error e => .error (.invalidRecord (.groupEnv g.id e))

/-- What `f` gives for every item, up to the first fault. -/
def each (f : α → Except ε β) : List α → Except ε (List β)
  | [] => .ok []
  | a :: rest =>
    match f a with
    | .error e => .error e
    | .ok b =>
      match each f rest with
      | .error e => .error e
      | .ok bs => .ok (b :: bs)

/-- The groups that have not been passed. -/
def ahead (groups : List GroupDefinition) (passed : List Identifier) : List GroupDefinition :=
  groups.filter fun g => decide (g.id ∉ passed)

theorem length_ahead_lt {groups : List GroupDefinition} {passed : List Identifier}
    {g : GroupDefinition} {id : Identifier}
    (hg : groups.find? (fun g => g.id == id) = some g) (hp : id ∉ passed) :
    (ahead groups (id :: passed)).length < (ahead groups passed).length := by
  have hid : g.id = id := by simpa using List.find?_some hg
  have hmem : g ∈ groups := List.mem_of_find?_eq_some hg
  have h : ahead groups (id :: passed) =
      (ahead groups passed).filter fun g => decide (g.id ≠ id) := by
    unfold ahead
    rw [List.filter_filter]
    congr 1
    funext k
    by_cases h1 : k.id = id <;> by_cases h2 : k.id ∈ passed <;> simp [h1, h2]
  rw [h]
  refine List.length_filter_lt_length_iff_exists.2 ⟨g, ?_, by simp [hid]⟩
  simp [ahead, hmem, hid, hp]

/-- A group and those around it, from the innermost outwards. `passed` holds the groups on the way
from `origin`; coming back to one of them is a fault. -/
def chain (groups : List GroupDefinition) (origin : Identifier) (passed : List Identifier)
    (id : Identifier) : Except GraphFault (List GroupDefinition) :=
  if _hp : id ∈ passed then .error (.invalidRecord (.nestedGroup origin))
  else
    match _hg : groups.find? (fun g => g.id == id) with
    | none => .error (.unknownGroup origin id)
    | some g =>
      match g.parent with
      | none => .ok [g]
      | some parent =>
        match chain groups origin (id :: passed) parent with
        | .error e => .error e
        | .ok outer => .ok (g :: outer)
termination_by (ahead groups passed).length
decreasing_by exact length_ahead_lt _hg _hp

/-- The identities of a group and those around it. -/
def chainIdentities (groups : List GroupDefinition) (identities : List GroupIdentity)
    (g : GroupDefinition) : Except GraphFault (Identifier × List GroupIdentity) :=
  match chain groups g.id [] g.id with
  | .error e => .error e
  | .ok definitions =>
    .ok (g.id, definitions.filterMap fun d => identities.find? fun i => i.id == d.id)

/-! ## Wires -/

/-- The targets of a port: disabled ones left out, later repetitions left out. -/
def portTargets (known active : List Identifier) (source : Identifier) :
    List Identifier → List Identifier → Except GraphFault (List Identifier)
  | [], targets => .ok targets
  | t :: rest, targets =>
    if t ∉ known then .error (.danglingWire source t)
    else if t ∉ active ∨ t ∈ targets then portTargets known active source rest targets
    else portTargets known active source rest (targets ++ [t])

/-- Whether a node takes part: neither it nor its flow is disabled. -/
def isActive (d : Document) (n : NodeDefinition) : Bool :=
  !n.disabled &&
    !(match d.flow? n.flow with
      | some f => f.disabled
      | none => false)

/-- The node of a definition. -/
def graphNode (flows : List FlowIdentity) (chains : List (Identifier × List GroupIdentity))
    (known active : List Identifier) (n : NodeDefinition) : Except GraphFault GraphNode :=
  match flows.find? fun f => f.id == n.flow with
  | none => .error (.unknownFlow n.id n.flow)
  | some flow =>
    let groups : Except GraphFault (List GroupIdentity) :=
      match n.group with
      | none => .ok []
      | some g =>
        match chains.lookup g with
        | some chain => .ok chain
        | none => .error (.unknownGroup n.id g)
    match groups with
    | .error e => .error e
    | .ok groups =>
      match each (fun wires => portTargets known active n.id wires []) n.wires with
      | .error e => .error e
      | .ok ports =>
        .ok { definition := n, ports,
              identity := { id := n.id, name := n.name, type := n.type, flow, groups } }

/-- The targets of a node over all its ports, in order. -/
def targetsOf (nodes : List GraphNode) (id : Identifier) : List Identifier :=
  match nodes.find? fun n => n.identity.id == id with
  | some n => n.ports.flatten
  | none => []

/-- The nodes in an order of identifiers. -/
def arranged (nodes : List GraphNode) (order : List Identifier) : List GraphNode :=
  order.filterMap fun id => nodes.find? fun n => n.identity.id == id

/-- The graph of some nodes: downstream first, or in their own order when the wires run in a
circle. -/
def ofNodes (nodes : List GraphNode) : Graph :=
  match StartOrder.order? (nodes.map fun n => n.identity.id) (targetsOf nodes) with
  | some order => { nodes := arranged nodes order, cyclic := false }
  | none => { nodes, cyclic := true }

/-- The graph of a document. `now` is the time for entries that hold a date. -/
def build (now : Double) (d : Document) : Except GraphFault Graph :=
  match each (flowIdentity now) d.flows with
  | .error e => .error e
  | .ok flows =>
    match each (groupIdentity now) d.groups with
    | .error e => .error e
    | .ok identities =>
      match each (chainIdentities d.groups identities) d.groups with
      | .error e => .error e
      | .ok chains =>
        let active := d.nodes.filter (isActive d)
        match each (graphNode flows chains (d.nodes.map (·.id)) (active.map (·.id))) active with
        | .error e => .error e
        | .ok nodes => .ok (ofNodes nodes)

/-- The node with an identifier. -/
def node? (g : Graph) (id : Identifier) : Option GraphNode :=
  g.nodes.find? fun n => n.identity.id == id

end Graph

end Wireflow
