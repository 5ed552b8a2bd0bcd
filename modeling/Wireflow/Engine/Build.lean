/-
Building an engine from the records of a flow document: the graph first, then the stores of context
data, then the nodes in the order in which they start.
-/
import Wireflow.Engine.Basic

namespace Wireflow

/-- The settings of an engine: how many events wait for a slow listener, and the stores. -/
structure EngineSettings where
  eventBuffer : Nat
  contexts : ContextSettings

namespace EngineSettings

open Record

/-- A thousand events, and one store in memory. -/
def plain : EngineSettings := { eventBuffer := 1000, contexts := ContextSettings.plain }

/-- The fields of settings. -/
def fields : List (Member EngineSettings) :=
  [field "event_buffer_size" .defaulted count fun s a => { s with eventBuffer := a },
   field "context" .defaulted ContextSettings.ofJson fun s a => { s with contexts := a }]

/-- The settings of a JSON tree. -/
def ofJson (j : Json) : Read EngineSettings :=
  struct "RuntimeConfig" fields plain j

end EngineSettings

/-- What an engine finds when it is built: the node types, the variables of the process, the clock,
the disk, and a supply of fresh identifiers. -/
structure Surroundings where
  registry : Registry
  process : ProcessEnv
  clock : Clock
  disk : Disk
  ids : FreshIds

namespace Engine

/-- The instances of some nodes in their order, up to the first that cannot be made. -/
def instancesOf (w : Surroundings) : List GraphNode → Except GraphFault (List Node)
  | [] => .ok []
  | n :: rest =>
    match w.registry.make w.clock.milliseconds n.definition with
    | .error e => .error e
    | .ok node => (instancesOf w rest).map (node :: ·)

/-- The station of a node and its instance. -/
def stationOf (n : GraphNode) (node : Node) : Station :=
  { identity := n.identity, node, ports := n.ports }

/-- The engine of a graph and its stores. Nodes and instances are paired by their places. -/
def ofGraph (w : Surroundings) (g : Graph) (contexts : Contexts) : Except GraphFault Engine :=
  (instancesOf w g.nodes).map fun instances =>
    { execution := w.ids.take.1, stations := List.zipWith stationOf g.nodes instances,
      process := w.process, clock := w.clock, contexts, ids := w.ids.take.2, phase := .built,
      started := none, mail := [], agenda := [], events := [], outputs := [],
      outputsTaken := false }

/-- The engine of a document, and the disk after its stores have been opened. -/
def build (w : Surroundings) (settings : EngineSettings) (d : Document) :
    Except EngineFault Engine × Disk :=
  match Graph.build w.clock.milliseconds d with
  | .error e => (.error (.graph e), w.disk)
  | .ok g =>
    match Contexts.ofSettings settings.contexts w.disk with
    | (.error e, disk) => (.error (.node e), disk)
    | (.ok contexts, disk) =>
      match ofGraph w g contexts with
      | .error e => (.error (.graph e), disk)
      | .ok e => (.ok e, disk)

/-- The engine of the records of a document. -/
def ofJson (w : Surroundings) (settings : EngineSettings) (records : Json) :
    Except EngineFault Engine × Disk :=
  match Document.parse records with
  | .error e => (.error (.graph e), w.disk)
  | .ok d => build w settings d

end Engine

end Wireflow
