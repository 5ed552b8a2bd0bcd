/-
The node types that documents can name, and how a node is made from its record.
-/
import Wireflow.Node.Change
import Wireflow.Node.Inject
import Wireflow.Node.Junction
import Wireflow.Node.Sink
import Wireflow.Node.Switch

namespace Wireflow

/-- What is known of a node type: the number of inputs, and that of outputs unless each
configuration has its own. -/
structure Metadata where
  description : String
  category : String
  inputs : Nat
  outputs : Option Nat
deriving DecidableEq

/-- One input, one output and no description. -/
def Metadata.plain : Metadata :=
  { description := "", category := "common", inputs := 1, outputs := some 1 }

/-- A node type: its name, what is known of it, and how a node is made from a record at a date. -/
structure NodeType where
  name : String
  metadata : Metadata
  make : Double → NodeDefinition → Except NodeFault Node

/-- Node types by name. -/
structure Registry where
  types : Table NodeType

namespace Registry

/-- No types. -/
def empty : Registry := ⟨[]⟩

/-- The registry with a type, instead of any other of the same name. -/
def register (r : Registry) (t : NodeType) : Registry :=
  ⟨Table.insert t.name t r.types⟩

/-- The type of a name. -/
def get? (r : Registry) (name : String) : Option NodeType :=
  Table.get? name r.types

/-- The names in order. -/
def names (r : Registry) : List String :=
  Table.keys r.types

/-- The node of a record. -/
def make (r : Registry) (now : Double) (n : NodeDefinition) : Except GraphFault Node :=
  match r.get? n.type with
  | none => .error (.unknownType n.id n.type)
  | some t =>
    match t.make now n with
    | .ok node => .ok node
    | .error e => .error (.invalidConfig n.id n.type e)

/-- The type of inject nodes. -/
def injectType : NodeType :=
  { name := "inject", make := Node.injectOf,
    metadata :=
      { Metadata.plain with
        description := "Emits a message once, on an interval or on a cron schedule" } }

/-- The type of switch nodes. -/
def switchType : NodeType :=
  { name := "switch", make := Node.switchOf,
    metadata :=
      { description := "Routes messages by comparing a property against rules",
        category := "function", inputs := 1, outputs := none } }

/-- The type of change nodes. -/
def changeType : NodeType :=
  { name := "change", make := Node.changeOf,
    metadata :=
      { description := "Sets, deletes or moves message and context properties",
        category := "function", inputs := 1, outputs := some 1 } }

/-- The type of junctions, which have no configuration. -/
def junctionType : NodeType :=
  { name := "junction", make := fun _ _ => .ok Node.junction,
    metadata := { Metadata.plain with description := "Forwards messages unchanged" } }

/-- A type of sinks. -/
def sinkType (name : String) : NodeType :=
  { name, make := fun _ => Node.sinkOf,
    metadata :=
      { Metadata.plain with
        description := "Logs messages and passes them to the output collector",
        outputs := some 0 } }

/-- All types of this library. -/
def standard : Registry :=
  [injectType, switchType, changeType, junctionType, sinkType "debug", sinkType "test-once",
    sinkType "console-json"].foldl register empty

end Registry

end Wireflow
