/-
The memory that the automaton of an expression takes. There are two automata, one that reads a text
forwards and one that reads it backwards, both byte by byte, and an expression for which one of them
grows too large is refused. An automaton is built state by state; a state is known by the number of
states before it.
-/
import Wireflow.Pattern.Normal

namespace Wireflow

/-! ## Characters as bytes -/

/-- A range of bytes. -/
abbrev ByteRange := Nat × Nat

namespace CharSet

/-- The bytes of a code point in UTF-8. -/
def bytesOf (n : Nat) : List Nat :=
  (String.utf8EncodeChar (Char.ofNat n)).map UInt8.toNat

/-- Where a range of code points has to be cut so that its characters are all combinations of some
ranges of bytes: the last code point before the cut. -/
def cut? (first last : Nat) : Option Nat :=
  match [0x7F, 0x7FF, 0xFFFF].find? fun n => first ≤ n && n < last with
  | some n => some n
  | none =>
    [0x40, 0x1000, 0x40000].findSome? fun block =>
      if last < 0x80 || first / block == last / block then none
      else if first % block != 0 then some (first / block * block + (block - 1))
      else if last % block != block - 1 then some (last / block * block - 1)
      else none

/-- The ranges of bytes that together are the characters of a range of code points, in ascending
order. -/
def byteRangesWith : Nat → Nat → Nat → List (List ByteRange)
  | 0, _, _ => []
  | fuel + 1, first, last =>
    if first < 0xE000 ∧ 0xD7FF < last then
      byteRangesWith fuel first 0xD7FF ++ byteRangesWith fuel 0xE000 last
    else if last < first then []
    else
      match cut? first last with
      | some n => byteRangesWith fuel first n ++ byteRangesWith fuel (n + 1) last
      | none => [(bytesOf first).zip (bytesOf last)]

/-- The ranges of bytes for the characters of a set. A range of code points is cut at the gap where
there are no characters, at three lengths, and at two ends for each of three kinds of blocks. -/
def byteRanges (s : CharSet) : List (List ByteRange) :=
  s.ranges.flatMap fun r => byteRangesWith 16 r.1 r.2

/-- The first ranges of some sequences of ranges, each with what follows it. -/
def branches : List (List ByteRange) → List (ByteRange × List (List ByteRange))
  | [] => []
  | [] :: rest => branches rest
  | (b :: bs) :: rest =>
    match branches rest with
    | (c, tails) :: more =>
      if b = c then (b, bs :: tails) :: more else (b, [bs]) :: (c, tails) :: more
    | [] => [(b, [bs])]

/-- The sequences of ranges that can still follow, at the start and after each range but the last of
a sequence. No sequence is longer than four. -/
def continuations : Nat → List (List ByteRange) → List (List (List ByteRange))
  | 0, _ => []
  | fuel + 1, seqs =>
    seqs :: (branches seqs).flatMap fun b =>
      if b.2 == [[]] then [] else continuations fuel b.2

end CharSet

/-- An automaton that is being built: how many states it has, and the bytes of memory they take. -/
structure Automaton where
  states : Nat
  bytes : Nat
deriving DecidableEq

namespace Automaton

/-- The memory of a state. -/
def stateBytes : Nat := 32

/-- The memory of an arrow for a range of bytes, from a state that has several. -/
def rangeBytes : Nat := 8

/-- The memory of an arrow that reads nothing, from a state that may have several. -/
def arrowBytes : Nat := 4

/-- Automata that take more memory are refused: ten times two to the power of twenty bytes. -/
def limit : Nat := 10485760

/-- The automaton without states. -/
def empty : Automaton := ⟨0, 0⟩

/-- The automaton with another state, whose arrows take some memory. -/
def addState (a : Automaton) (arrows : Nat) : Automaton :=
  ⟨a.states + 1, a.bytes + stateBytes + arrows⟩

/-- The automaton with the states of another. -/
def plus (a b : Automaton) : Automaton :=
  ⟨a.states + b.states, a.bytes + b.bytes⟩

/-- The automaton with an arrow from a state, which takes memory when the state forks. -/
def join (a : Automaton) (forks : Bool) : Automaton :=
  if forks then { a with bytes := a.bytes + arrowBytes } else a

/-- The automaton is refused. -/
def tooLarge (a : Automaton) : Bool := limit < a.bytes

end Automaton

/-- A piece of an automaton: how it is added to what has been built, and whether its last state
forks, that is, may have several arrows. -/
structure Piece where
  build : Automaton → Automaton × Bool

namespace Piece

open Automaton

/-- A piece whose states are known beforehand, and whose last state does not fork. -/
def known (b : Automaton) : Piece := ⟨fun a => (a.plus b, false)⟩

/-- Some states, one after the other. -/
def plain (n : Nat) : Piece := known ⟨n, n * stateBytes⟩

/-- One piece after the other. -/
def andThen (p q : Piece) : Piece where
  build a :=
    let (a, forks) := p.build a
    q.build (a.join forks)

/-- Some pieces, one after the other. -/
def sequence : List Piece → Piece
  | [] => plain 1
  | [p] => p
  | p :: rest => p.andThen (sequence rest)

/-- The piece a number of times more, as long as the automaton is not refused. -/
def more (p : Piece) : Nat → Automaton × Bool → Automaton × Bool
  | 0, r => r
  | n + 1, (a, forks) => if a.tooLarge then (a, forks) else more p n (p.build (a.join forks))

/-- The piece a number of times. -/
def times (p : Piece) (n : Nat) : Piece :=
  if n = 0 then plain 1 else ⟨fun a => p.more (n - 1) (p.build a)⟩

/-- One of some pieces. The first two are built before the state that forks to all of them and the
state in which they meet, the others after these. -/
def choice : List Piece → Piece
  | p :: q :: rest => ⟨fun a =>
      let (a, forks) := p.build a
      let (a, forks) := q.build (a.join forks)
      let a := ((a.join forks).addState (2 * arrowBytes)).addState 0
      (rest.foldl (fun a p =>
        let (a, forks) := p.build a
        (a.join forks).join true) a, false)⟩
  | _ => plain 1

/-- The piece, or nothing. -/
def optional (p : Piece) : Piece where
  build a :=
    let (a, forks) := p.build (a.addState (2 * arrowBytes))
    ((a.join forks).addState 0, false)

/-- The piece any number of times. A piece that may match nothing needs a second fork. -/
def star (p : Piece) (matchesNothing : Bool) : Piece where
  build a :=
    if matchesNothing then
      let (a, forks) := p.build a
      ((((a.join forks).addState (2 * arrowBytes)).addState (2 * arrowBytes)).addState 0, false)
    else
      let (a, forks) := p.build (a.addState arrowBytes)
      (a.join forks, true)

/-- The piece at least once. -/
def plus (p : Piece) : Piece where
  build a :=
    let (a, forks) := p.build a
    ((a.join forks).addState arrowBytes, true)

/-- The piece a number of times, and then up to a number of times more. -/
def between (p : Piece) (least extra : Nat) : Piece where
  build a :=
    let (a, forks) := (p.times least).build a
    let fork : Piece := ⟨fun a => p.build (a.addState (2 * arrowBytes))⟩
    let (a, forks) := fork.more extra (a.addState 0, forks)
    (a.join forks, false)

/-- The piece as often as a repetition says. -/
def repeated (p : Piece) (matchesNothing : Bool) (least : Nat) : Option Nat → Piece
  | none =>
    if least = 0 then p.star matchesNothing
    else if least = 1 then p.plus
    else (p.times (least - 1)).andThen p.plus
  | some n =>
    if least = n then p.times n
    else if least = 0 ∧ n = 1 then p.optional
    else p.between least (n - least)

end Piece

/-! ## Sets -/

/-- A state that has been built, with the range of bytes that it reads and the state after it. -/
structure Remembered where
  next : Nat
  range : ByteRange
  state : Nat

/-- The states that are remembered, each at a place of its own; a later one takes the place of an
earlier one. -/
abbrev Memory := Array (Option Remembered)

namespace Memory

/-- How many states are remembered. -/
def size : Nat := 1000

/-- The memory of no state. -/
def empty : Memory := Array.replicate size none

/-- The place for a range of bytes and the state after it, by the hash FNV-1a of the three
numbers. -/
def place (next : Nat) (r : ByteRange) : Nat :=
  let mix (h : UInt64) (n : Nat) : UInt64 := (h ^^^ n.toUInt64) * 1099511628211
  (mix (mix (mix 14695981039346656037 next) r.1) r.2).toNat % size

/-- The state for a range of bytes and the state after it, if it is remembered. -/
def find? (m : Memory) (next : Nat) (r : ByteRange) : Option Nat :=
  match m[place next r]? with
  | some (some e) => if e.next = next ∧ e.range = r then some e.state else none
  | _ => none

/-- The memory with one more state. -/
def put (m : Memory) (e : Remembered) : Memory :=
  m.setIfInBounds (place e.next e.range) (some e)

end Memory

namespace Automaton

/-- A way back through a sequence of ranges, from the state after it: a state for each range, unless
one for it and for what follows is remembered. -/
def wayBack (a : Automaton) (m : Memory) (next : Nat) : List ByteRange → Automaton × Memory
  | [] => (a, m)
  | r :: rest =>
    match m.find? next r with
    | some state => wayBack a m state rest
    | none => wayBack (a.addState 0) (m.put ⟨next, r, a.states⟩) a.states rest

/-- The automaton with the ways back through some sequences of ranges, after a state that forks to
all of them and the state in which they meet. -/
def waysBack (a : Automaton) (seqs : List (List ByteRange)) : Automaton :=
  let next := a.states + 1
  let a := (a.addState (seqs.length * arrowBytes)).addState 0
  (seqs.foldl (fun (a, m) ranges => wayBack a m next ranges) (a, Memory.empty)).1

end Automaton

namespace Piece

open Automaton

/-- The piece for one character of a set. Forwards, states from which the same can follow are
one. -/
def ofSet (backwards : Bool) (s : CharSet) : Piece :=
  if s.ranges.all fun r => r.2 < 0x80 then
    known ((empty.addState 0).addState (s.ranges.length * rangeBytes))
  else
    let seqs := s.byteRanges
    if backwards then ⟨fun a => (a.waysBack seqs, false)⟩
    else
      known ((CharSet.continuations 4 seqs).eraseDups.foldl
        (fun a n => a.addState ((CharSet.branches n).length * rangeBytes)) (empty.addState 0))

end Piece

/-! ## Choices between texts -/

/-- What follows in some texts after their first bytes, up to a text that ends there; later texts
start anew. -/
structure Chunk where
  arrows : List (Nat × List (List Nat))

namespace Chunk

/-- Puts a text that starts with a byte into a chunk. -/
def add (b : Nat) (rest : List Nat) : List (Nat × List (List Nat)) → List (Nat × List (List Nat))
  | [] => [(b, [rest])]
  | (c, texts) :: more =>
    if b = c then (c, texts ++ [rest]) :: more else (c, texts) :: add b rest more

/-- The chunks of some texts, the last one first. A text that ends closes a chunk, unless nothing
has started and one has been closed already. -/
def ofTexts (texts : List (List Nat)) : List Chunk :=
  texts.foldl (fun done text =>
    match text, done with
    | b :: rest, chunk :: before => ⟨add b rest chunk.arrows⟩ :: before
    | b :: rest, [] => [⟨add b rest []⟩]
    | [], done =>
      if 1 < done.length && done.all (fun k => k.arrows.isEmpty) then done else ⟨[]⟩ :: done)
    [⟨[]⟩]

/-- The states for what follows in some texts, the state in which they meet apart. -/
def states : Nat → List (List Nat) → Automaton
  | 0, _ => .empty
  | fuel + 1, texts =>
    let chunks := ofTexts texts
    let starts := chunks.filter fun k => !k.arrows.isEmpty
    let forks := (starts.length + (chunks.length - 1)) * Automaton.arrowBytes
    let own := starts.foldl (fun a k =>
      a.addState (if k.arrows.length = 1 then 0 else k.arrows.length * Automaton.rangeBytes))
      (Automaton.empty.addState forks)
    (starts.flatMap Chunk.arrows).foldl (fun a arrow =>
      if arrow.2.all List.isEmpty then a else a.plus (states fuel arrow.2)) own

end Chunk

namespace Piece

/-- The bytes of a text, in the order in which they are read. -/
def readBytes (backwards : Bool) (cs : List Char) : List Nat :=
  let bytes := cs.flatMap fun c => CharSet.bytesOf c.toNat
  if backwards then bytes.reverse else bytes

/-- The piece for a choice between texts. -/
def ofTexts (backwards : Bool) (texts : List (List Char)) : Piece :=
  let texts := texts.map (readBytes backwards)
  let longest := (texts.map List.length).foldl max 0
  known ((Chunk.states (longest + 1) texts).addState 0)

/-! ## Expressions -/

/-- The text of an expression that is one. -/
def text? : Regex → Option (List Char)
  | .text cs => some cs
  | _ => none

mutual

/-- The piece for an expression. What groups keep is kept forwards only. -/
def ofRegex (backwards : Bool) : Regex → Piece
  | .empty => plain 1
  | .text cs => plain (Regex.textBytes cs)
  | .set s => ofSet backwards s
  | .look _ => plain 1
  | .group r =>
    if backwards then ofRegex backwards r
    else ((plain 1).andThen (ofRegex backwards r)).andThen (plain 1)
  | .seq rs =>
    let pieces := ofRegexes backwards rs
    sequence (if backwards then pieces.reverse else pieces)
  | .alt rs =>
    match rs.mapM text? with
    | some texts => ofTexts backwards texts
    | none => choice (ofRegexes backwards rs)
  | .repeated r _ least greatest =>
    (ofRegex backwards r).repeated ((Regex.extent r).shortest.getD 0 == 0) least greatest

/-- The pieces for some expressions. -/
def ofRegexes (backwards : Bool) : List Regex → List Piece
  | [] => []
  | r :: rs => ofRegex backwards r :: ofRegexes backwards rs

end

end Piece

namespace Automaton

/-- The whole automaton of an expression. A loop over all bytes stands first, unless every match is
where the reading starts; the whole match is kept as that of a group is; and there is a last
state. -/
def ofRegex (backwards : Bool) (r : Regex) : Automaton :=
  let e := Regex.extent r
  let start :=
    if backwards && e.atEnd || !backwards && e.atStart then empty.addState 0
    else ((empty.addState (2 * arrowBytes)).addState 0).addState rangeBytes
  (((Piece.ofRegex backwards (.group r)).andThen (.plain 1)).build start).1

/-- Both automata are small enough. -/
def fits (r : Regex) : Bool :=
  !(ofRegex false r).tooLarge && !(ofRegex true r).tooLarge

end Automaton

end Wireflow
