/-
The Gregorian calendar from 1970 on: days are counted from the first of January 1970, a Thursday,
and weeks begin on Sunday, the first of seven days.
-/

namespace Wireflow.Calendar

/-- Years with a 29th of February. -/
def isLeap (year : Nat) : Bool :=
  year % 4 == 0 && (year % 100 != 0 || year % 400 == 0)

/-- The number of days of a month; January is the first. -/
def daysIn (year month : Nat) : Nat :=
  if month = 2 then if isLeap year then 29 else 28
  else if month = 4 ∨ month = 6 ∨ month = 9 ∨ month = 11 then 30
  else 31

/-- Leap years up to a year, this one included. -/
def leapsUpTo (year : Nat) : Nat :=
  year / 4 - year / 100 + year / 400

/-- The days before the first of January of a year. -/
def daysBeforeYear (year : Nat) : Nat :=
  365 * (year - 1970) + (leapsUpTo (year - 1) - leapsUpTo 1969)

/-- The days of a year before the first of a month. -/
def daysBeforeMonth (year month : Nat) : Nat :=
  (List.range' 1 (month - 1)).foldl (fun days m => days + daysIn year m) 0

/-- The days before a date. -/
def dayNumber (year month day : Nat) : Nat :=
  daysBeforeYear year + daysBeforeMonth year month + (day - 1)

/-- The day of the week, Sunday the first. -/
def weekday (day : Nat) : Nat :=
  (day + 4) % 7 + 1

end Wireflow.Calendar
