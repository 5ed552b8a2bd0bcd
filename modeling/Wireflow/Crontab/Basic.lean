/-
Crontabs as sets of numbers, one set for each unit of time, and the next time that is in all of
them. Times are seconds since the first of January 1970, without leap seconds.
-/
import Wireflow.Crontab.Calendar

namespace Wireflow

/-- When something is due: the seconds, minutes, hours, days, months, days of the week and years
that count, each in ascending order. -/
structure Crontab where
  seconds : List Nat
  minutes : List Nat
  hours : List Nat
  days : List Nat
  months : List Nat
  weekdays : List Nat
  years : List Nat

namespace Crontab

/-- The first time of a day that counts, after a time. `day` is the time at which the day begins. -/
def nextOfDay? (c : Crontab) (after day : Nat) : Option Nat :=
  c.hours.findSome? fun hour =>
    let hourStart := day + 3600 * hour
    if hourStart + 3600 ≤ after then none
    else
      c.minutes.findSome? fun minute =>
        let minuteStart := hourStart + 60 * minute
        (c.seconds.map (minuteStart + ·)).find? fun t => decide (after < t)

/-- The first time that counts, after a time. -/
def next? (c : Crontab) (after : Nat) : Option Nat :=
  c.years.findSome? fun year =>
    if 86400 * Calendar.daysBeforeYear (year + 1) ≤ after then none
    else
      c.months.findSome? fun month =>
        c.days.findSome? fun day =>
          let number := Calendar.dayNumber year month day
          if Calendar.daysIn year month < day ∨ 86400 * (number + 1) ≤ after ∨
              Calendar.weekday number ∉ c.weekdays then none
          else c.nextOfDay? after (86400 * number)

end Crontab

end Wireflow
