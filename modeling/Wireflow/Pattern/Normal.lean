/-
Expressions in normal form: what is built by these functions holds no sequence within a sequence and
no choice within a choice, texts that stand side by side are one text, and what choices start with
in common stands before them.
-/
import Wireflow.Pattern.Basic

namespace Wireflow.Regex

/-! ## What an expression matches -/

/-- What is known of the matches of an expression: the bytes of the shortest and of the longest one,
when there are such, and whether all of them are at the start or at the end of the text. -/
structure Extent where
  shortest : Option Nat
  longest : Option Nat
  atStart : Bool
  atEnd : Bool
deriving DecidableEq

/-- The bytes of a code point in UTF-8. -/
def pointBytes (n : Nat) : Nat :=
  if n < 0x80 then 1 else if n < 0x800 then 2 else if n < 0x10000 then 3 else 4

/-- The sum of some numbers. -/
def total (ns : List Nat) : Nat := ns.foldl (· + ·) 0

/-- The bytes of a text in UTF-8. -/
def textBytes (cs : List Char) : Nat :=
  total (cs.map fun c => pointBytes c.toNat)

namespace Extent

/-- The empty match. -/
def nothing : Extent := ⟨some 0, some 0, false, false⟩

/-- Matches of bytes alone. -/
def bytes (shortest longest : Option Nat) : Extent := ⟨shortest, longest, false, false⟩

/-- One match after the other. The first is at the start of the text when it has to be, or when
nothing stands before the second and that has to be. -/
def andThen (a b : Extent) : Extent where
  shortest := a.shortest.bind fun m => b.shortest.map (m + ·)
  longest := a.longest.bind fun m => b.longest.map (m + ·)
  atStart := a.atStart || (a.longest == some 0 && b.atStart)
  atEnd := b.atEnd || (b.longest == some 0 && a.atEnd)

/-- One match or the other. -/
def orElse (a b : Extent) : Extent where
  shortest := a.shortest.bind fun m => b.shortest.map (min m)
  longest := a.longest.bind fun m => b.longest.map (max m)
  atStart := a.atStart && b.atStart
  atEnd := a.atEnd && b.atEnd

/-- Matches that are repeated. -/
def times (a : Extent) (least : Nat) (greatest : Option Nat) : Extent where
  shortest := a.shortest.map (· * least)
  longest := greatest.bind fun n => a.longest.map (· * n)
  atStart := 0 < least && a.atStart
  atEnd := 0 < least && a.atEnd

end Extent

mutual

/-- What is known of the matches of an expression. -/
def extent : Regex → Extent
  | .empty => .nothing
  | .text cs => .bytes (some (textBytes cs)) (some (textBytes cs))
  | .set s =>
    .bytes (s.ranges.head?.map fun r => pointBytes r.1)
      (s.ranges.getLast?.map fun r => pointBytes r.2)
  | .look l => { Extent.nothing with atStart := l = .start, atEnd := l = .finish }
  | .group r => extent r
  | .seq rs => extentOfAll rs
  | .alt rs => extentOfAny rs
  | .repeated r _ least greatest => (extent r).times least greatest

/-- What is known of the matches of some expressions, one after the other. -/
def extentOfAll : List Regex → Extent
  | [] => .nothing
  | r :: rs => (extent r).andThen (extentOfAll rs)

/-- What is known of the matches of one of some expressions. -/
def extentOfAny : List Regex → Extent
  | [] => .bytes none none
  | [r] => extent r
  | r :: rs => (extent r).orElse (extentOfAny rs)

end

/-! ## Building -/

mutual

/-- Two expressions are the same. A group is like no other, for it keeps a part of its own. -/
def same : Regex → Regex → Bool
  | .empty, .empty => true
  | .text cs, .text ds => cs == ds
  | .set s, .set t => s == t
  | .look k, .look l => k == l
  | .seq rs, .seq ts => sameAll rs ts
  | .alt rs, .alt ts => sameAll rs ts
  | .repeated r lazy least greatest, .repeated t lazy' least' greatest' =>
    same r t && lazy == lazy' && least == least' && greatest == greatest'
  | _, _ => false

/-- The expressions of two lists are the same in turn. -/
def sameAll : List Regex → List Regex → Bool
  | [], [] => true
  | r :: rs, t :: ts => same r t && sameAll rs ts
  | _, _ => false

end

/-- The expression for one character of a set. -/
def ofSet (s : CharSet) : Regex :=
  match s.ranges with
  | [(first, last)] => if first = last then .text [Char.ofNat first] else .set s
  | _ => .set s

/-- Puts an expression before others; two texts become one. -/
def before (r : Regex) (rs : List Regex) : List Regex :=
  match r, rs with
  | .empty, rs => rs
  | .text cs, .text ds :: rs => .text (cs ++ ds) :: rs
  | r, rs => r :: rs

/-- The expressions that a sequence consists of. -/
def parts : Regex → List Regex
  | .seq rs => rs
  | r => [r]

/-- One expression after the other. -/
def concat (rs : List Regex) : Regex :=
  match (rs.flatMap parts).foldr before [] with
  | [] => .empty
  | [r] => r
  | rs => .seq rs

/-- The expressions that a choice is between. -/
def choices : Regex → List Regex
  | .alt rs => rs
  | r => [r]

/-- The character of a text that has only one. -/
def char? : Regex → Option Char
  | .text [c] => some c
  | _ => none

/-- The set of an expression that is one. -/
def set? : Regex → Option CharSet
  | .set s => some s
  | _ => none

/-- The parts of an expression that is a sequence. -/
def seq? : Regex → Option (List Regex)
  | .seq rs => some rs
  | _ => none

/-- How many expressions two lists have in common at their start. -/
def commonCount : List Regex → List Regex → Nat
  | r :: rs, t :: ts => if same r t then commonCount rs ts + 1 else 0
  | _, _ => 0

/-- How many expressions some lists have in common at their start. -/
def sharedCount : List (List Regex) → Nat
  | [] => 0
  | rs :: others => (others.map (commonCount rs)).foldl min rs.length

/-- One expression or another. A choice between characters or between sets is a set. A start that
all have in common is taken out, at most as often as the fuel says. -/
def alternationWith : Nat → List Regex → Regex
  | 0, rs => .alt rs
  | fuel + 1, rs =>
    match rs.flatMap choices with
    | [] => .set .empty
    | [r] => r
    | rs =>
      match rs.mapM char?, rs.mapM set?, rs.mapM seq? with
      | some cs, _, _ => ofSet (.ofRanges (cs.map fun c => (c.toNat, c.toNat)))
      | none, some sets, _ => ofSet (.ofRanges (sets.flatMap CharSet.ranges))
      | none, none, some seqs =>
        let n := sharedCount seqs
        if n = 0 then .alt rs
        else
          let shared := (seqs.headD []).take n
          concat (shared ++ [alternationWith fuel (seqs.map fun rs => concat (rs.drop n))])
      | none, none, none => .alt rs

mutual

/-- How many expressions stand within one, itself included. -/
def count : Regex → Nat
  | .group r => count r + 1
  | .seq rs => countAll rs + 1
  | .alt rs => countAll rs + 1
  | .repeated r _ _ _ => count r + 1
  | _ => 1

/-- How many expressions stand within some. -/
def countAll : List Regex → Nat
  | [] => 0
  | r :: rs => count r + countAll rs

end

/-- One expression or another. Each start that is taken out leaves fewer expressions, so their
number is fuel enough. -/
def alternation (rs : List Regex) : Regex :=
  alternationWith (countAll rs + 1) rs

/-- An expression that is repeated. What matches only the empty text is repeated at most once. -/
def repetition (r : Regex) (lazy : Bool) (least : Nat) (greatest : Option Nat) : Regex :=
  let (least, greatest) :=
    if (extent r).longest = some 0 then (min least 1, some (min (greatest.getD 1) 1))
    else (least, greatest)
  if least = 0 ∧ greatest = some 0 then .empty
  else if least = 1 ∧ greatest = some 1 then r
  else .repeated r lazy least greatest

end Wireflow.Regex
