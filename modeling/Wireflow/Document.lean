/-
Flow documents: lists of records, each of a flow, of a group, of a node, or a comment. A document is
accepted when every record is well formed, no identifier occurs twice, and all owners are there.
-/
import Wireflow.Environment

namespace Wireflow

/-- A flow. -/
structure FlowDefinition where
  id : Identifier
  label : String
  disabled : Bool
  env : List EnvVar

/-- A group of nodes in a flow, perhaps inside another group. -/
structure GroupDefinition where
  id : Identifier
  name : String
  flow : Identifier
  parent : Option Identifier
  env : List EnvVar

/-- A node: its type, where it belongs, its targets by port, and the settings of its type. -/
structure NodeDefinition where
  id : Identifier
  type : String
  flow : Identifier
  group : Option Identifier
  name : String
  wires : List (List Identifier)
  disabled : Bool
  config : Table Json

/-- The flows, groups and nodes of a document, each in the order of the records. -/
structure Document where
  flows : List FlowDefinition
  groups : List GroupDefinition
  nodes : List NodeDefinition

open Record

/-! ## Records -/

namespace FlowDefinition

/-- The fields of a flow. -/
def fields : List (Member FlowDefinition) :=
  [field "id" .required identifier fun d a => { d with id := a },
   field "label" .defaulted text fun d a => { d with label := a },
   field "disabled" .defaulted flag fun d a => { d with disabled := a },
   field "env" .defaulted (listOf EnvVar.ofJson) fun d a => { d with env := a }]

/-- The flow of a record. -/
def ofJson (j : Json) : Read FlowDefinition :=
  struct "FlowDefinition" fields { id := default, label := "", disabled := false, env := [] } j

end FlowDefinition

namespace GroupDefinition

/-- The fields of a group. -/
def fields : List (Member GroupDefinition) :=
  [field "id" .required identifier fun d a => { d with id := a },
   field "name" .defaulted text fun d a => { d with name := a },
   field "z" .required identifier fun d a => { d with flow := a },
   field "g" .defaulted (optional identifier) fun d a => { d with parent := a },
   field "env" .defaulted (listOf EnvVar.ofJson) fun d a => { d with env := a }]

/-- The group of a record. -/
def ofJson (j : Json) : Read GroupDefinition :=
  struct "GroupDefinition" fields
    { id := default, name := "", flow := default, parent := none, env := [] } j

end GroupDefinition

namespace NodeDefinition

/-- The fields that every node has. -/
def fields : List (Member NodeDefinition) :=
  [field "id" .required identifier fun d a => { d with id := a },
   field "type" .required text fun d a => { d with type := a },
   field "z" .required identifier fun d a => { d with flow := a },
   field "g" .defaulted (optional identifier) fun d a => { d with group := a },
   field "name" .defaulted text fun d a => { d with name := a },
   field "wires" .defaulted (listOf (listOf identifier)) fun d a => { d with wires := a },
   field "d" .defaulted flag fun d a => { d with disabled := a }]

/-- The members that are settings of the node's type: all but the fields that every node has. -/
def settingsOf (members : List (String × Json)) : Table Json :=
  members.filter fun m => !(fields.any fun f => f.name == m.1)

/-- A node without settings. -/
def blank : NodeDefinition :=
  { id := default, type := "", flow := default, group := none, name := "", wires := [],
    disabled := false, config := [] }

/-- The node of a record. -/
def ofJson : Json → Read NodeDefinition
  | .object members => ofMembers fields { blank with config := settingsOf members } members
  | j => .error (.invalidType j "struct NodeDefinition")

end NodeDefinition

/-- What a record of a document is. -/
inductive DocumentRecord
  | flow (d : FlowDefinition)
  | group (d : GroupDefinition)
  | node (d : NodeDefinition)
  | comment

namespace DocumentRecord

/-- The identifier of a record. -/
def idOf (j : Json) : Except GraphFault Identifier :=
  match j.member? "id" with
  | some (.string s) =>
    match Identifier.ofText? s with
    | some id => .ok id
    | none => .error (.invalidId s)
  | _ => .error (.invalidRecord (.noId j))

/-- The type of a record; empty when it has none. -/
def typeOf (j : Json) : String :=
  match j.member? "type" with
  | some (.string s) => s
  | _ => ""

/-- What was read, or the fault of the record. -/
def checked (type : String) (id : Identifier) (r : Read α) (make : α → DocumentRecord) :
    Except GraphFault DocumentRecord :=
  match r with
  | .ok a => .ok (make a)
  | .error e => .error (.invalidRecord (.record type id e))

/-- The record of a JSON tree with this identifier. -/
def ofJson (id : Identifier) (j : Json) : Except GraphFault DocumentRecord :=
  match typeOf j with
  | "tab" => checked "tab" id (FlowDefinition.ofJson j) .flow
  | "group" => checked "group" id (GroupDefinition.ofJson j) .group
  | "" => .error (.invalidRecord (.noType id))
  | "subflow" => .error (.invalidRecord (.subflow id))
  | "comment" => .ok .comment
  | type =>
    match j.member? "z" with
    | none => .error (.invalidRecord (.noOwner type id))
    | some _ => checked type id (NodeDefinition.ofJson j) .node

/-- All records of a list, up to the first fault. `seen` holds the identifiers before them. -/
def ofList (seen : List Identifier) : List Json → Except GraphFault (List DocumentRecord)
  | [] => .ok []
  | j :: rest =>
    match idOf j with
    | .error e => .error e
    | .ok id =>
      if id ∈ seen then .error (.duplicateId id)
      else
        match ofJson id j with
        | .error e => .error e
        | .ok record =>
          match ofList (id :: seen) rest with
          | .error e => .error e
          | .ok records => .ok (record :: records)

end DocumentRecord

/-! ## Documents -/

namespace Document

/-- The document of a list of records. -/
def ofRecords (records : List DocumentRecord) : Document :=
  { flows := records.filterMap fun
      | .flow d => some d
      | _ => none
    groups := records.filterMap fun
      | .group d => some d
      | _ => none
    nodes := records.filterMap fun
      | .node d => some d
      | _ => none }

/-- The flow with an identifier. -/
def flow? (d : Document) (id : Identifier) : Option FlowDefinition :=
  d.flows.find? fun f => f.id == id

/-- The group with an identifier. -/
def group? (d : Document) (id : Identifier) : Option GroupDefinition :=
  d.groups.find? fun g => g.id == id

/-- The node with an identifier. -/
def node? (d : Document) (id : Identifier) : Option NodeDefinition :=
  d.nodes.find? fun n => n.id == id

/-- The first fault in the owners of an element: its flow, then the group it is in. -/
def ownerFault? (d : Document) (id flow : Identifier) (group : Option Identifier) :
    Option GraphFault :=
  if d.flows.any fun f => f.id == flow then
    match group with
    | none => none
    | some g => if d.groups.any fun f => f.id == g then none else some (.unknownGroup id g)
  else some (.unknownFlow id flow)

/-- The first fault in the owners of all groups and nodes. -/
def firstOwnerFault? (d : Document) : Option GraphFault :=
  match d.groups.findSome? fun g => d.ownerFault? g.id g.flow g.parent with
  | some fault => some fault
  | none => d.nodes.findSome? fun n => d.ownerFault? n.id n.flow n.group

/-- The document of a JSON tree. -/
def parse : Json → Except GraphFault Document
  | .array items =>
    match DocumentRecord.ofList [] items with
    | .error e => .error e
    | .ok records =>
      let d := ofRecords records
      match d.firstOwnerFault? with
      | some fault => .error fault
      | none => .ok d
  | _ => .error (.invalidRecord .notAnArray)

end Document

end Wireflow
