/-
A bench: one node on its own, driven by hand. What it sends and what it hands over is recorded, and
time passes only when it is told to.
-/
import Wireflow.Node.Basic

namespace Wireflow

/-- A node on its own, with its alarms. Once it is cancelled it sends nothing and its alarms are
gone for good. -/
structure Bench where
  node : Node
  identity : Identity
  process : ProcessEnv
  contexts : Contexts
  clock : Clock
  ids : FreshIds
  alarms : Agenda PUnit
  cancelled : Bool

namespace Bench

/-- What the node sees. -/
def setting (b : Bench) : Setting :=
  { identity := b.identity, process := b.process, contexts := b.contexts,
    now := b.clock.milliseconds }

/-- What can be seen of an effect: a message that a cancelled node sends is dropped. -/
def visible (b : Bench) : Effect → Bool
  | .send _ _ => !b.cancelled
  | _ => true

/-- Starts the node: what it says, whether it fails, and the bench with its alarms set. -/
def start (b : Bench) : List Effect × Except NodeFault Unit × Bench :=
  let notices := b.node.notices.map Effect.notice
  match b.node.startFault with
  | some e => (notices, .error e, b)
  | none =>
    let timers := if b.cancelled then [] else b.node.timers
    (notices, .ok (), { b with alarms := b.alarms.set () b.clock timers })

/-- Hands a message to the node. -/
def receive (b : Bench) (msg : Message) : List Effect × Except NodeFault Unit × Bench :=
  let r := b.node.receive b.setting msg
  (r.effects.filter b.visible, r.outcome, { b with contexts := r.contexts })

/-- Ends the node. -/
def close (b : Bench) : Except NodeFault Unit :=
  match b.node.closeFault with
  | some e => .error e
  | none => .ok ()

/-- Cancels the node. -/
def cancel (b : Bench) : Bench :=
  { b with cancelled := true, alarms := [] }

/-- Lets time pass up to a point: the alarms that are due by then go off in their order, and at each
the node acts on an empty message. `fuel` bounds the number of alarms. -/
def advance (time : Nat) : Nat → Bench → List Effect × Bench
  | 0, b => ([], b)
  | fuel + 1, b =>
    match b.alarms.popBy? time with
    | none => ([], { b with clock := b.clock.forwardTo time })
    | some ((_, alarm), others) =>
      let clock := b.clock.forwardTo alarm.wake
      let (id, ids) := b.ids.take
      let b := { b with clock, ids, alarms := Agenda.follow () clock alarm others }
      let (effects, _, b) := b.receive (.empty id)
      let (later, b) := advance time fuel b
      (effects ++ later, b)

end Bench

end Wireflow
