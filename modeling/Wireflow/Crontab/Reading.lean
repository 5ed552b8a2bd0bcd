/-
Reading the text of a crontab. A field is a list of numbers, names, spans and steps; fields need no
blank between them, and blanks may stand around every number and every name.
-/
import Wireflow.Crontab.Basic
import Wireflow.Text.Blank
import Wireflow.Text.Numeral

namespace Wireflow.Crontab

/-! ## Units of time -/

/-- A unit of time: its least and its greatest number, names for some numbers, and whether the mark
`?` stands for all of them. -/
structure Unit where
  least : Nat
  greatest : Nat
  names : List (String × Nat)
  anyMark : Bool

namespace Unit

/-- Seconds, and minutes. -/
def sixtieths : Unit := { least := 0, greatest := 59, names := [], anyMark := false }

/-- Hours. -/
def hours : Unit := { least := 0, greatest := 23, names := [], anyMark := false }

/-- Days of the month. -/
def days : Unit := { least := 1, greatest := 31, names := [], anyMark := true }

/-- Months. -/
def months : Unit :=
  { least := 1, greatest := 12, anyMark := false,
    names :=
      [("jan", 1), ("january", 1), ("feb", 2), ("february", 2), ("mar", 3), ("march", 3),
       ("apr", 4), ("april", 4), ("may", 5), ("jun", 6), ("june", 6), ("jul", 7), ("july", 7),
       ("aug", 8), ("august", 8), ("sep", 9), ("september", 9), ("oct", 10), ("october", 10),
       ("nov", 11), ("november", 11), ("dec", 12), ("december", 12)] }

/-- Days of the week. -/
def weekdays : Unit :=
  { least := 1, greatest := 7, anyMark := true,
    names :=
      [("sun", 1), ("sunday", 1), ("mon", 2), ("monday", 2), ("tue", 3), ("tues", 3),
       ("tuesday", 3), ("wed", 4), ("wednesday", 4), ("thu", 5), ("thurs", 5), ("thursday", 5),
       ("fri", 6), ("friday", 6), ("sat", 7), ("saturday", 7)] }

/-- Years. -/
def years : Unit := { least := 1970, greatest := 2100, names := [], anyMark := false }

/-- The numbers from one to another, both included. -/
def span (first last : Nat) : List Nat :=
  List.range' first (last + 1 - first)

/-- All numbers of the unit. -/
def all (u : Unit) : List Nat :=
  span u.least u.greatest

/-- A number of the unit. -/
def number? (u : Unit) (n : Nat) : Option Nat :=
  if u.least ≤ n ∧ n ≤ u.greatest then some n else none

/-- The number of a name in any case. -/
def named? (u : Unit) (name : List Char) : Option Nat :=
  (u.names.find? fun e => e.1.toList == name.map Char.toLower).map (·.2)

/-- The numbers between two of the unit, of which the first is not the greater one. -/
def between? (u : Unit) (first last : Option Nat) : Option (List Nat) :=
  match first.bind u.number?, last.bind u.number? with
  | some a, some b => if a ≤ b then some (span a b) else none
  | _, _ => none

end Unit

/-! ## Items -/

/-- What may stand before a step. -/
inductive Extent
  | all
  | point (n : Nat)
  | range (first last : Nat)
  | namedRange (first last : List Char)

/-- An item of a field. -/
inductive Item
  | extent (e : Extent)
  | stepped (e : Extent) (step : Nat)
  | name (letters : List Char)

/-- The numbers of an extent, when they are all of the unit. -/
def Extent.numbers? (u : Unit) : Extent → Option (List Nat)
  | .all => some u.all
  | .point n => (u.number? n).map fun n => [n]
  | .range a b => u.between? (some a) (some b)
  | .namedRange a b => u.between? (u.named? a) (u.named? b)

/-- Every number of a list that stands a multiple of `step` behind its first one. -/
def everyNth (step : Nat) (ns : List Nat) : List Nat :=
  ns.filter fun n => (n - ns.headD 0) % step == 0

/-- The numbers of an item. A single number before a step stands for all from it on. -/
def Item.numbers? (u : Unit) : Item → Option (List Nat)
  | .extent e => e.numbers? u
  | .stepped e step =>
    if step = 0 ∨ u.greatest < step then none
    else
      let base := match e with
        | .point n => (u.number? n).map fun n => Unit.span n u.greatest
        | e => e.numbers? u
      base.map (everyNth step)
  | .name letters => (u.named? letters).map fun n => [n]

/-- The numbers of a field in ascending order, when all its items have numbers. -/
def numbers? (u : Unit) (items : List Item) : Option (List Nat) :=
  match items.mapM fun i => i.numbers? u with
  | some lists => some (u.all.filter fun n => lists.any fun ns => ns.contains n)
  | none => none

/-! ## The grammar -/

/-- What has been read, and the characters that follow it. -/
abbrev Reader (α : Type) := List Char → Option (α × List Char)

/-- The characters without the blanks at the start. -/
def skipBlanks (cs : List Char) : List Char :=
  cs.dropWhile fun c => c == ' ' || c == '\t' || c == '\r' || c == '\n'

/-- A number of 32 bits with blanks around it. -/
def readNumber : Reader Nat := fun cs =>
  let cs := skipBlanks cs
  match Text.numeral? 10 (cs.takeWhile (Text.isDigitOf 10)) with
  | none => none
  | some n =>
    if n < Text.halfWordSize then some (n, skipBlanks (cs.dropWhile (Text.isDigitOf 10))) else none

/-- A name with blanks around it. -/
def readName : Reader (List Char) := fun cs =>
  let cs := skipBlanks cs
  let name := cs.takeWhile Char.isAlpha
  if name.isEmpty then none else some (name, skipBlanks (cs.dropWhile Char.isAlpha))

/-- A mark, with no blank before it. -/
def readMark (mark : Char) : Reader PUnit
  | c :: rest => if c = mark then some (⟨⟩, rest) else none
  | [] => none

/-- Two of a kind with a hyphen between them. -/
def readPair (read : Reader α) : Reader (α × α) := fun cs =>
  match read cs with
  | none => none
  | some (a, cs) =>
    match readMark '-' cs with
    | none => none
    | some (_, cs) =>
      match read cs with
      | none => none
      | some (b, cs) => some ((a, b), cs)

/-- The first of some readers that finds something. -/
def firstOf (readers : List (Reader α)) : Reader α := fun cs =>
  readers.findSome? fun read => read cs

/-- What a reader has read, changed by a function. -/
def mapped (f : α → β) (read : Reader α) : Reader β := fun cs =>
  (read cs).map fun r => (f r.1, r.2)

/-- What may stand before a step. -/
def readExtent (u : Unit) : Reader Extent :=
  let plain : List (Reader Extent) :=
    [mapped (fun _ => .all) (readMark '*'),
     mapped (fun r => .range r.1 r.2) (readPair readNumber),
     mapped .point readNumber,
     mapped (fun r => .namedRange r.1 r.2) (readPair readName)]
  firstOf (if u.anyMark then mapped (fun _ => .all) (readMark '?') :: plain else plain)

/-- An extent, a stroke and a step. -/
def readStepped (u : Unit) : Reader Item := fun cs =>
  match readExtent u cs with
  | none => none
  | some (e, cs) =>
    match readMark '/' cs with
    | none => none
    | some (_, cs) => (readNumber cs).map fun r => (.stepped e r.1, r.2)

/-- An item. -/
def readItem (u : Unit) : Reader Item :=
  firstOf [readStepped u, mapped .extent (readExtent u), mapped .name readName]

/-- More items, each after a comma. A comma that no item follows is left. -/
def readMore (u : Unit) : Nat → List Char → List Item × List Char
  | 0, cs => ([], cs)
  | fuel + 1, cs =>
    match readMark ',' cs with
    | none => ([], cs)
    | some (_, rest) =>
      match readItem u rest with
      | none => ([], cs)
      | some (item, rest) =>
        let more := readMore u fuel rest
        (item :: more.1, more.2)

/-- The numbers of a field, when its items are of the unit. -/
def readField (u : Unit) : Reader (List Nat) := fun cs =>
  match readItem u (skipBlanks cs) with
  | none => none
  | some (item, rest) =>
    let more := readMore u cs.length rest
    (numbers? u (item :: more.1)).map fun ns => (ns, skipBlanks more.2)

/-- The numbers of a last field, or all of the unit when nothing follows. -/
def readLast (u : Unit) (cs : List Char) : Option (List Nat) :=
  match readField u cs with
  | some (ns, []) => some ns
  | some _ => none
  | none => if cs.isEmpty then some u.all else none

/-- The crontab of a text with a field for the seconds. -/
def readFields (cs : List Char) : Option Crontab :=
  match readField Unit.sixtieths cs with
  | none => none
  | some (seconds, cs) =>
    match readField Unit.sixtieths cs with
    | none => none
    | some (minutes, cs) =>
      match readField Unit.hours cs with
      | none => none
      | some (hours, cs) =>
        match readField Unit.days cs with
        | none => none
        | some (days, cs) =>
          match readField Unit.months cs with
          | none => none
          | some (months, cs) =>
            match readField Unit.weekdays cs with
            | none => none
            | some (weekdays, cs) =>
              (readLast Unit.years cs).map fun years =>
                { seconds, minutes, hours, days, months, weekdays, years }

/-- Why a text is no crontab. -/
inductive Fault
  | wordCount (count : Nat)
  | malformed
deriving DecidableEq

/-- The crontab of a text of five, six or seven words. Five begin with the minutes, and the seconds
are then zero. -/
def parse (s : String) : Except Fault Crontab :=
  let count := (Text.words s).length
  let read (cs : List Char) : Except Fault Crontab :=
    match readFields cs with
    | some c => .ok c
    | none => .error .malformed
  if count = 5 then read ('0' :: ' ' :: s.toList)
  else if count = 6 ∨ count = 7 then read s.toList
  else .error (.wordCount count)

end Wireflow.Crontab
