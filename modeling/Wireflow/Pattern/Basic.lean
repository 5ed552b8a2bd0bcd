/-
Regular expressions and what they match. A match is followed by sets of places: from the places
where an expression may start to those where it may end, so no text takes more than polynomial time.
-/
import Wireflow.Pattern.CharClass

namespace Wireflow

/-- A condition on a place of a text. -/
inductive Look
  | start
  | finish
  | lineStart (crlf : Bool)
  | lineEnd (crlf : Bool)
  | boundary (ascii negated : Bool)
  | wordStart (ascii : Bool)
  | wordEnd (ascii : Bool)
  | wordStartHalf (ascii : Bool)
  | wordEndHalf (ascii : Bool)
deriving DecidableEq

/-- A regular expression. A group is one whose part of the text is kept. A lazy repetition takes as
little as it can, which changes the part of the text that is matched, not whether one is. -/
inductive Regex
  | empty
  | text (cs : List Char)
  | set (s : CharSet)
  | look (l : Look)
  | group (r : Regex)
  | seq (rs : List Regex)
  | alt (rs : List Regex)
  | repeated (r : Regex) (lazy : Bool) (least : Nat) (greatest : Option Nat)

namespace Look

/-- The character before a place. -/
def before? (text : Array Char) (i : Nat) : Option Char :=
  if i = 0 then none else text[i - 1]?

/-- Whether a character belongs to words. -/
def isWord (ascii : Bool) : Option Char → Bool
  | none => false
  | some c => if ascii then CharClass.asciiWord.mem c else Text.wordSet.mem c

/-- The condition holds at a place. -/
def holds (text : Array Char) (i : Nat) (l : Look) : Bool :=
  let prev := before? text i
  let next := text[i]?
  match l with
  | .start => i == 0
  | .finish => i == text.size
  | .lineStart false => i == 0 || prev == some '\n'
  | .lineStart true =>
    i == 0 || prev == some '\n' || (prev == some '\r' && next != some '\n')
  | .lineEnd false => i == text.size || next == some '\n'
  | .lineEnd true =>
    i == text.size || next == some '\r' || (next == some '\n' && prev != some '\r')
  | .boundary ascii negated => (isWord ascii prev != isWord ascii next) != negated
  | .wordStart ascii => !isWord ascii prev && isWord ascii next
  | .wordEnd ascii => isWord ascii prev && !isWord ascii next
  | .wordStartHalf ascii => !isWord ascii prev
  | .wordEndHalf ascii => !isWord ascii next

end Look

namespace Regex

/-- The places of two ascending lists, each once. -/
def merge : List Nat → List Nat → List Nat
  | [], bs => bs
  | as, [] => as
  | a :: as, b :: bs =>
    if a < b then a :: merge as (b :: bs)
    else if b < a then b :: merge (a :: as) bs
    else a :: merge as bs

/-- The places after a number of steps. Steps that change nothing are not repeated. -/
def times (step : List Nat → List Nat) : Nat → List Nat → List Nat
  | 0, places => places
  | n + 1, places =>
    let next := step places
    if next == places then places else times step n next

/-- The places within a number of steps, the start included. -/
def within (step : List Nat → List Nat) : Nat → List Nat → List Nat
  | 0, places => places
  | n + 1, places =>
    let next := merge places (step places)
    if next == places then places else within step n next

/-- The places after those where a character of some kind stands. -/
def follow (text : Array Char) (p : Char → Bool) (places : List Nat) : List Nat :=
  (places.filter fun i =>
    match text[i]? with
    | some c => p c
    | none => false).map (· + 1)

mutual

/-- The places where a match may end that starts at one of some ascending places. -/
def ends (text : Array Char) : Regex → List Nat → List Nat
  | .empty, places => places
  | .text cs, places => cs.foldl (fun places c => follow text (· == c) places) places
  | .set s, places => follow text s.mem places
  | .look l, places => places.filter fun i => l.holds text i
  | .group r, places => ends text r places
  | .seq rs, places => endsOfAll text rs places
  | .alt rs, places => endsOfAny text rs places
  | .repeated r _ least greatest, places =>
    let reached := times (ends text r) least places
    let more := match greatest with
      | some n => n - least
      | none => text.size + 1
    within (ends text r) more reached

/-- The places after some expressions, one after the other. -/
def endsOfAll (text : Array Char) : List Regex → List Nat → List Nat
  | [], places => places
  | r :: rs, places => endsOfAll text rs (ends text r places)

/-- The places after one of some expressions. -/
def endsOfAny (text : Array Char) : List Regex → List Nat → List Nat
  | [], _ => []
  | r :: rs, places => merge (ends text r places) (endsOfAny text rs places)

end

/-- The expression matches some part of the text. -/
def matchesIn (r : Regex) (s : String) : Bool :=
  let text := s.toList.toArray
  !(ends text r (List.range (text.size + 1))).isEmpty

end Regex

end Wireflow
