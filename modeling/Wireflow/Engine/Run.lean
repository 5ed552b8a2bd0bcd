/-
Letting time pass: one schedule of an engine's steps. A node handles all that waits for it, then the
node whose oldest message has waited longest is next. Time moves on when nothing waits, to the next
alarm, and all alarms of one time go off before a message is handled.
-/
import Wireflow.Engine.Basic

namespace Wireflow.Engine

/-- Something waits for a node. -/
def hasMail (e : Engine) (id : Identifier) : Bool :=
  e.mail.any fun l => l.target == id

/-- An alarm goes off by a time. -/
def ringsBy (e : Engine) (time : Nat) : Bool :=
  (e.agenda.popBy? time).isSome

/-- What happens next at the current time, with the node whose turn it is. -/
def stepNow? (turn : Option Identifier) (e : Engine) : Option (Option Identifier × Engine) :=
  match turn.filter e.hasMail with
  | some id => some (some id, e.handle id)
  | none =>
    if e.ringsBy e.clock.elapsed then some (none, e.ring)
    else
      match e.mail with
      | [] => none
      | l :: _ => some (some l.target, e.handle l.target)

/-- Lets everything happen that can at the current time. `fuel` bounds the number of steps. -/
def settle : Nat → Option Identifier → Engine → Engine
  | 0, _, e => e
  | fuel + 1, turn, e =>
    if e.phase ≠ .running then e
    else
      match stepNow? turn e with
      | none => e
      | some (turn, e) => settle fuel turn e

/-- The clock when the next alarm goes off, when that is by a time. -/
def nextTime? (e : Engine) (time : Nat) : Option Nat :=
  (e.agenda.popBy? time).map fun r => r.1.2.wake

/-- The engine when the clock has moved on to a time. -/
def forwardTo (e : Engine) (time : Nat) : Engine :=
  { e with clock := e.clock.forwardTo time }

/-- Lets time pass up to a point. -/
def passUntil (time : Nat) : Nat → Engine → Engine
  | 0, e => e
  | fuel + 1, e =>
    let e := settle (fuel + 1) none e
    match e.nextTime? time with
    | none => e.forwardTo time
    | some wake => passUntil time fuel (e.forwardTo wake)

/-- There are as many outputs as are asked for; without a number there never are. -/
def hasOutputs (count : Option Nat) (e : Engine) : Bool :=
  match count with
  | some n => n ≤ e.outputs.length
  | none => false

/-- The outputs up to a number, and the engine without them. -/
def takeCollected (count : Option Nat) (e : Engine) : List Message × Engine :=
  let n := count.getD e.outputs.length
  (e.outputs.take n, { e with outputs := e.outputs.drop n })

/-- Collects outputs until there are as many as are asked for, or up to a time. Time passes only as
long as it has to. -/
def collect (count : Option Nat) (time : Nat) : Nat → Engine → List Message × Engine
  | 0, e => e.takeCollected count
  | fuel + 1, e =>
    if e.hasOutputs count then e.takeCollected count
    else
      let e := settle (fuel + 1) none e
      if e.hasOutputs count then e.takeCollected count
      else
        match e.nextTime? time with
        | none => (e.forwardTo time).takeCollected count
        | some wake => collect count time fuel (e.forwardTo wake)

end Wireflow.Engine
