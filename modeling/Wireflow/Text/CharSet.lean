/-
Sets of code points, as the ascending list of their ranges, and what is made of them by union,
intersection, difference and negation.
-/

namespace Wireflow

/-- A set of code points: its ranges, ends included, in ascending order and with a gap between every
two. -/
structure CharSet where
  ranges : List (Nat × Nat)
deriving DecidableEq

namespace CharSet

/-- The set of no code point. -/
def empty : CharSet := ⟨[]⟩

/-- The set of the code points from one to another. -/
def range (first last : Nat) : CharSet := ⟨[(first, last)]⟩

/-- The set of one character. -/
def single (c : Char) : CharSet := range c.toNat c.toNat

/-- A code point is in the set. -/
def has (s : CharSet) (n : Nat) : Bool :=
  s.ranges.any fun r => r.1 ≤ n && n ≤ r.2

/-- A character is in the set. -/
def mem (s : CharSet) (c : Char) : Bool := s.has c.toNat

/-- Puts a range before later ones, and makes one of it and those that it meets. -/
def insertFirst (r : Nat × Nat) : List (Nat × Nat) → List (Nat × Nat)
  | [] => [r]
  | s :: rest => if s.1 ≤ r.2 + 1 then insertFirst (r.1, max r.2 s.2) rest else r :: s :: rest

/-- The set of some ranges in any order. -/
def ofRanges (ranges : List (Nat × Nat)) : CharSet :=
  ⟨(ranges.mergeSort fun a b => a.1 ≤ b.1).foldr insertFirst []⟩

/-- The code points of either set. -/
def union (s t : CharSet) : CharSet :=
  ofRanges (s.ranges ++ t.ranges)

/-- The code points of both of two lists of ranges. -/
def interRanges : List (Nat × Nat) → List (Nat × Nat) → List (Nat × Nat)
  | [], _ => []
  | _, [] => []
  | a :: as, b :: bs =>
    let rest := if a.2 < b.2 then interRanges as (b :: bs) else interRanges (a :: as) bs
    if max a.1 b.1 ≤ min a.2 b.2 then (max a.1 b.1, min a.2 b.2) :: rest else rest
termination_by as bs => as.length + bs.length

/-- The code points of both sets. -/
def inter (s t : CharSet) : CharSet := ⟨interRanges s.ranges t.ranges⟩

/-- The character after one. No character lies between 0xD7FF and 0xE000. -/
def after (n : Nat) : Nat := if n = 0xD7FF then 0xE000 else n + 1

/-- The character before one. -/
def before (n : Nat) : Nat := if n = 0xE000 then 0xD7FF else n - 1

/-- The last code point. -/
def lastPoint : Nat := 0x10FFFF

/-- The ranges between those of a list, and after the last of them. Between two ranges that meet
where there are no characters stand the last of the one and the first of the other. -/
def gaps : List (Nat × Nat) → List (Nat × Nat)
  | [] => []
  | [a] => if a.2 < lastPoint then [(after a.2, lastPoint)] else []
  | a :: b :: rest =>
    (min (after a.2) (before b.1), max (after a.2) (before b.1)) :: gaps (b :: rest)

/-- All other characters. -/
def compl (s : CharSet) : CharSet :=
  match s.ranges with
  | [] => range 0 lastPoint
  | a :: rest => ⟨(if 0 < a.1 then [(0, before a.1)] else []) ++ gaps (a :: rest)⟩

/-- The code points of the first of two lists of ranges that are not of the second. -/
def diffRanges : List (Nat × Nat) → List (Nat × Nat) → List (Nat × Nat)
  | [], _ => []
  | as, [] => as
  | a :: as, b :: bs =>
    if b.2 < a.1 then diffRanges (a :: as) bs
    else if a.2 < b.1 then a :: diffRanges as (b :: bs)
    else
      (if a.1 < b.1 then [(a.1, before b.1)] else []) ++
        (if b.2 < a.2 then diffRanges ((after b.2, a.2) :: as) bs else diffRanges as (b :: bs))
termination_by as bs => as.length + bs.length

/-- The code points of the first set that are not of the second. -/
def diff (s t : CharSet) : CharSet := ⟨diffRanges s.ranges t.ranges⟩

/-- The code points of one of the sets, but not of both. -/
def symDiff (s t : CharSet) : CharSet := (s.union t).diff (s.inter t)

end CharSet

end Wireflow
