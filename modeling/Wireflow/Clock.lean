/-
Time, in nanoseconds: the clock that timers follow, the date beside it, and timers with the alarms
that they set off. An alarm goes off at the first millisecond that is not before it is due.
-/
import Wireflow.Crontab.Reading
import Wireflow.Double.Decimal

namespace Wireflow

/-- The nanoseconds of a second. -/
def secondLength : Nat := 1000000000

/-- The nanoseconds of a millisecond. -/
def millisecondLength : Nat := 1000000

/-! ## The clock -/

/-- How much time has passed, and the date. The date stands still while time passes when it is held,
and `origin` is then the date for good; otherwise `origin` is the date at the start. -/
structure Clock where
  elapsed : Nat
  origin : Nat
  held : Bool

namespace Clock

/-- A clock that starts now. -/
def startingAt (origin : Nat) (held : Bool) : Clock := { elapsed := 0, origin, held }

/-- The date, in nanoseconds since the first of January 1970. -/
def date (c : Clock) : Nat :=
  if c.held then c.origin else c.origin + c.elapsed

/-- The date as a number of whole milliseconds. -/
def milliseconds (c : Clock) : Double :=
  Double.ofNat (c.date / millisecondLength)

/-- The clock when more time has passed. It never goes back. -/
def forwardTo (c : Clock) (time : Nat) : Clock :=
  { c with elapsed := max c.elapsed time }

end Clock

/-! ## Durations -/

namespace Duration

/-- The nanoseconds of a number of seconds: the nearest whole number, a half to the even one. -/
def ofSeconds : Double → Nat
  | .finite false m => roundHalfEven (m.units * secondLength) Magnitude.one
  | _ => 0

/-- The sum of two sizes, rounded. -/
def sum (a b : Double) : Double :=
  match a, b with
  | .finite false m, .finite false n => Double.ofRatio false (m.units + n.units) Magnitude.one
  | _, _ => .nan

/-- The seconds of a duration: the whole ones, and the fraction beside them. -/
def seconds (length : Nat) : Double :=
  sum (Double.ofNat (length / secondLength))
    (Double.ofRatio false (length % secondLength) secondLength)

end Duration

/-! ## Timers and alarms -/

/-- When a node acts on its own: once after a delay and then, maybe, once in every period; once in
every period; or at the times of a crontab. -/
inductive Timer
  | once (delay : Nat) (period : Option Nat)
  | every (period : Nat)
  | crontab (c : Crontab)

/-- What comes after an alarm: nothing, a period that begins with it, one alarm a period, or the
next time of a crontab after the one that the alarm is for. -/
inductive Sequel
  | nothing
  | restart (period : Nat)
  | every (period : Nat)
  | crontab (c : Crontab) (time : Nat)

/-- The time when a timer goes off, and what comes after it. -/
structure Alarm where
  due : Nat
  sequel : Sequel

namespace Alarm

/-- The alarm of a crontab's next time after a date. -/
def ofCrontab? (clock : Clock) (c : Crontab) (after : Nat) : Option Alarm :=
  (c.next? (after / secondLength)).map fun seconds =>
    let time := seconds * secondLength
    { due := clock.elapsed + (time - clock.date), sequel := .crontab c time }

/-- The first alarm of a timer that starts now. No alarm can follow a period of no length, and none
a crontab without a time to come. -/
def ofTimer? (clock : Clock) : Timer → Option Alarm
  | .once delay none => some { due := clock.elapsed + delay, sequel := .nothing }
  | .once delay (some period) => some { due := clock.elapsed + delay, sequel := .restart period }
  | .every period =>
    if period = 0 then none
    else some { due := clock.elapsed + period, sequel := .every period }
  | .crontab c => ofCrontab? clock c clock.date

/-- The alarm that follows one that has just gone off. -/
def following? (clock : Clock) (a : Alarm) : Option Alarm :=
  match a.sequel with
  | .nothing => none
  | .restart period => ofTimer? clock (.every period)
  | .every period => some { due := a.due + period, sequel := .every period }
  | .crontab c time => ofCrontab? clock c (max time clock.date)

/-- When an alarm goes off: at the first millisecond that is not before it is due. -/
def wake (a : Alarm) : Nat :=
  (a.due + (millisecondLength - 1)) / millisecondLength * millisecondLength

end Alarm

/-- Alarms with their owners, in the order in which they were set. -/
abbrev Agenda (α : Type) := List (α × Alarm)

namespace Agenda

/-- The alarm that goes off first and the others; of several at one time the one that was set
first. -/
def pop? : Agenda α → Option ((α × Alarm) × Agenda α)
  | [] => none
  | e :: rest =>
    match pop? rest with
    | some (first, others) =>
      if first.2.wake < e.2.wake then some (first, e :: others) else some (e, rest)
    | none => some (e, rest)

/-- The alarm that goes off first and the others, when it goes off by a time. -/
def popBy? (time : Nat) (agenda : Agenda α) : Option ((α × Alarm) × Agenda α) :=
  (pop? agenda).filter fun r => r.1.2.wake ≤ time

/-- The alarms of an owner's timers that start now, behind those that are set. -/
def set (owner : α) (clock : Clock) (timers : List Timer) (agenda : Agenda α) : Agenda α :=
  agenda ++ (timers.filterMap (Alarm.ofTimer? clock)).map fun a => (owner, a)

/-- The alarm that follows one that has just gone off, behind those that are set. -/
def follow (owner : α) (clock : Clock) (a : Alarm) (agenda : Agenda α) : Agenda α :=
  agenda ++ ((a.following? clock).map fun b => (owner, b)).toList

end Agenda

end Wireflow
