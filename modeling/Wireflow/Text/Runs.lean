/-
Tables that give every code point a word. Code points that follow one another and have the same word
make a run, and a table is the text of its runs.
-/
import Wireflow.Text.CharSet

namespace Wireflow.Text

/-- A run of code points: how many there are, and the word that holds of all of them. -/
structure Run where
  length : Nat
  word : String

/-- Reads runs written as a decimal length and a word of letters, one after the other. -/
def readRuns (length : Nat) (word : List Char) : List Char → List Run
  | [] => if word.isEmpty then [] else [⟨length, String.ofList word.reverse⟩]
  | c :: rest =>
    if c.isDigit then
      if word.isEmpty then readRuns (length * 10 + (c.toNat - 48)) [] rest
      else ⟨length, String.ofList word.reverse⟩ :: readRuns (c.toNat - 48) [] rest
    else readRuns length (c :: word) rest

/-- The ranges of the runs with some words, when the first run starts at a code point. -/
def Run.ranges (p : String → Bool) (start : Nat) : List Run → List (Nat × Nat)
  | [] => []
  | r :: rest =>
    if p r.word then (start, start + r.length - 1) :: ranges p (start + r.length) rest
    else ranges p (start + r.length) rest

/-- The code points of the runs with some words. -/
def Run.set (p : String → Bool) (runs : List Run) : CharSet :=
  .ofRanges (Run.ranges p 0 runs)

end Wireflow.Text
