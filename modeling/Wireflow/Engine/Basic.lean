/-
Engines: the nodes of a graph with the messages that wait for them, the alarms that are set, and the
context data that they share. Everything that can happen is one function on engines: a start, a
stop, a message from outside, a node that handles the oldest message of its queue, and an alarm that
goes off. Nothing happens to a node before the start or after the stop.
-/
import Wireflow.Graph.Basic
import Wireflow.Node.Registry

namespace Wireflow

/-! ## Events and faults -/

/-- Where an engine stands: a built one has not been started, and a stopped one never will be
again. -/
inductive Phase
  | built
  | running
  | stopped
deriving DecidableEq

/-- The word for it. -/
def Phase.name : Phase → String
  | .built => "Built"
  | .running => "Running"
  | .stopped => "Stopped"

/-- Something that an engine makes known. -/
inductive Event
  | engineStarted (nodes : Nat)
  | engineStopped (milliseconds : Nat)
  | nodeStarted (node : Identifier) (type : String)
  | nodeClosed (node : Identifier)
  | delivered (source : Identifier) (port : Nat) (target : Identifier) (msgId : Option String)
  | failed (node : Identifier) (fault : NodeFault)
  | noticed (node : Identifier) (notice : Notice)

/-- Why an engine does not do what it is asked to, or cannot be built. -/
inductive EngineFault
  | graph (fault : GraphFault)
  | node (fault : NodeFault)
  | notStartable (phase : Phase)
  | stopped
  | noNode (id : Identifier)

/-- The words for it. -/
def EngineFault.message : EngineFault → String
  | .graph fault => "Graph error: " ++ fault.message
  | .node fault => "Node error: " ++ fault.message
  | .notStartable phase => "Execution error: engine cannot start from state " ++ phase.name
  | .stopped => "Execution error: engine is stopped"
  | .noNode id => "Execution error: no running node " ++ id.text

/-! ## Engines -/

/-- A node of an engine: who it is, what it does, and its targets by port. -/
structure Station where
  identity : Identity
  node : Node
  ports : List (List Identifier)

/-- The identifier of its node. -/
def Station.id (s : Station) : Identifier := s.identity.id

/-- A message that waits for a node. -/
structure Letter where
  target : Identifier
  msg : Message

/-- A graph of nodes with all that they need. The letters, the events and the outputs stand in the
order in which they came about. -/
structure Engine where
  execution : String
  stations : List Station
  process : ProcessEnv
  clock : Clock
  contexts : Contexts
  ids : FreshIds
  phase : Phase
  started : Option Nat
  mail : List Letter
  agenda : Agenda Identifier
  events : List Event
  outputs : List Message
  outputsTaken : Bool

namespace Engine

/-- The identifiers of the nodes in the order in which they start. -/
def nodeIds (e : Engine) : List Identifier :=
  e.stations.map (·.id)

/-- The node of an identifier. -/
def station? (e : Engine) (id : Identifier) : Option Station :=
  e.stations.find? fun s => s.id == id

/-- The messages that wait for a node, the oldest first. -/
def queue (e : Engine) (id : Identifier) : List Message :=
  (e.mail.filter fun l => l.target == id).map (·.msg)

/-- The targets of a port, in the order of the wires. A port without wires has none. -/
def targets (e : Engine) (source : Identifier) (port : Nat) : List Identifier :=
  match e.station? source with
  | some s => (s.ports[port]?).getD []
  | none => []

/-- What a node sees. -/
def setting (e : Engine) (s : Station) : Setting :=
  { identity := s.identity, process := e.process, contexts := e.contexts,
    now := e.clock.milliseconds }

/-- Makes an event known. -/
def publish (e : Engine) (event : Event) : Engine :=
  { e with events := e.events ++ [event] }

/-! ## What nodes do -/

/-- Puts a message into the queue of a node and makes the delivery known; nothing happens for a node
that is not there. -/
def post (e : Engine) (source : Identifier) (port : Nat) (msgId : Option String)
    (target : Identifier) (msg : Message) : Engine :=
  match e.station? target with
  | none => e
  | some _ =>
    { e with
      mail := e.mail ++ [{ target, msg }]
      events := e.events ++ [.delivered source port target msgId] }

/-- Hands a message to targets one after the other. The last one takes the message itself, each of
the others a copy; `pending` is the message until it has been taken. -/
def hand (source : Identifier) (port : Nat) (msgId : Option String) (pending : Option Message) :
    List Identifier → Engine → Engine
  | [], e => e
  | t :: rest, e =>
    let copy := pending
    let pending := if rest.isEmpty then none else pending
    match copy with
    | none => e
    | some msg => hand source port msgId pending rest (e.post source port msgId t msg)

/-- Puts a message into the queues of all targets of a port, and makes each delivery known. -/
def deliver (e : Engine) (source : Identifier) (port : Nat) (msg : Message) : Engine :=
  match e.station? source with
  | none => e
  | some s =>
    match s.ports[port]? with
    | none => e
    | some targets => hand source port msg.id? (some msg) targets e

/-- Brings about what a node does. -/
def perform (id : Identifier) (e : Engine) : Effect → Engine
  | .send port msg => e.deliver id port msg
  | .observe msg => { e with outputs := e.outputs ++ [msg] }
  | .notice n => e.publish (.noticed id n)

/-- Makes known how a node failed, if it did. -/
def conclude (e : Engine) (id : Identifier) : Except NodeFault Unit → Engine
  | .ok _ => e
  | .error fault => e.publish (.failed id fault)

/-- How a node reacts to a message. -/
def react (e : Engine) (s : Station) (msg : Message) : Reaction :=
  s.node.receive (e.setting s) msg

/-- Lets a node act on a message. -/
def act (e : Engine) (s : Station) (msg : Message) : Engine :=
  let r := e.react s msg
  (r.effects.foldl (perform s.id) { e with contexts := r.contexts }).conclude s.id r.outcome

/-- The oldest letter to a node, and the others. -/
def takeLetter? (id : Identifier) : List Letter → Option (Message × List Letter)
  | [] => none
  | l :: rest =>
    if l.target = id then some (l.msg, rest)
    else (takeLetter? id rest).map fun r => (r.1, l :: r.2)

/-- Who handles what next at a node, and the letters that are left: none unless the engine runs and
a message waits for the node. -/
def turn? (e : Engine) (id : Identifier) : Option (Station × Message × List Letter) :=
  if e.phase ≠ .running then none
  else
    match e.station? id, takeLetter? id e.mail with
    | some s, some (msg, mail) => some (s, msg, mail)
    | _, _ => none

/-- A node handles the oldest message of its queue. -/
def handle (e : Engine) (id : Identifier) : Engine :=
  match e.turn? id with
  | some (s, msg, mail) => { e with mail }.act s msg
  | none => e

/-- An alarm of a node is over: the others are left with the one that follows it, and there is an
identifier for the empty message that the node acts on. -/
def dismiss (e : Engine) (id : Identifier) (alarm : Alarm) (others : Agenda Identifier) :
    String × Engine :=
  let clock := e.clock.forwardTo alarm.wake
  (e.ids.take.1,
    { e with clock, ids := e.ids.take.2, agenda := Agenda.follow id clock alarm others })

/-- An alarm goes off and leaves the others: its node acts on an empty message. -/
def fire (e : Engine) (id : Identifier) (alarm : Alarm) (others : Agenda Identifier) : Engine :=
  let (fresh, e) := e.dismiss id alarm others
  match e.station? id with
  | some s => e.act s (.empty fresh)
  | none => e

/-- The alarm that goes off first does so. -/
def ring (e : Engine) : Engine :=
  if e.phase ≠ .running then e
  else
    match e.agenda.pop? with
    | none => e
    | some ((id, alarm), others) => e.fire id alarm others

/-! ## What is done to an engine -/

/-- Starts a node: it says what it has to say, and its timers run unless it fails. -/
def startStation (e : Engine) (s : Station) : Engine :=
  let e := { e with events := e.events ++ s.node.notices.map fun n => Event.noticed s.id n }
  match s.node.startFault with
  | some fault => e.publish (.failed s.id fault)
  | none =>
    { e with agenda := e.agenda.set s.id e.clock s.node.timers }.publish
      (.nodeStarted s.id s.node.type)

/-- Starts all nodes in their order. A message that has been waiting waits behind those for the
nodes that start before its own. -/
def start (e : Engine) : Except EngineFault Unit × Engine :=
  if e.phase ≠ .built then (.error (.notStartable e.phase), e)
  else
    let mail := e.nodeIds.flatMap fun id => e.mail.filter fun l => l.target == id
    let e := { e with phase := .running, started := some e.clock.elapsed, mail }
    (.ok (), (e.stations.foldl startStation e).publish (.engineStarted e.stations.length))

/-- Ends a node. -/
def closeStation (e : Engine) (s : Station) : Engine :=
  let e := match s.node.closeFault with
    | some fault => e.publish (.failed s.id fault)
    | none => e
  e.publish (.nodeClosed s.id)

/-- The milliseconds since the start, zero without one. -/
def runtime (e : Engine) : Nat :=
  match e.started with
  | some time => (e.clock.elapsed - time) / millisecondLength
  | none => 0

/-- Stops an engine: what waits is dropped, no alarm goes off any more, and then all nodes end in
their order. A stopped engine stays as it is. -/
def stop (e : Engine) : Engine :=
  if e.phase = .stopped then e
  else
    let e := { e with phase := .stopped, mail := [], agenda := [] }
    (e.stations.foldl closeStation e).publish (.engineStopped e.runtime)

/-- Puts a message from outside into the queue of a node. -/
def inject (e : Engine) (id : Identifier) (msg : Message) : Except EngineFault Unit × Engine :=
  if e.phase = .stopped then (.error .stopped, e)
  else
    match e.station? id with
    | none => (.error (.noNode id), e)
    | some _ => (.ok (), { e with mail := e.mail ++ [{ target := id, msg }] })

/-- The right to collect the output, which is given once. -/
def takeOutputs (e : Engine) : Bool × Engine :=
  (!e.outputsTaken, { e with outputsTaken := true })

end Engine

end Wireflow
