/-
Property paths such as `a.b[0]`, `a["key"]` and `lookup[msg.topic]`, the concrete keys that they are
bound to, and what can be wrong with the text of a path.
-/
import Wireflow.Value.Basic

namespace Wireflow

/-- A step of a path: a name, an index, or the value found at another path in the message. -/
inductive Segment
  | name (text : String)
  | index (position : Nat)
  | reference (source : String) (segments : List Segment)

/-- A path: its text and its steps, of which there is at least one. -/
structure Path where
  source : String
  segments : List Segment

/-- A concrete step: the name of an entry, or a position. -/
inductive Key
  | name (text : String)
  | index (position : Nat)
deriving DecidableEq

namespace Key

/-- The name under which a step looks into an object. -/
def text : Key → String
  | .name s => s
  | .index i => Text.decimal i

/-- The position at which a step looks into an array; a name has one when it is a numeral. -/
def position? : Key → Option Nat
  | .name s => Text.word? 10 s.toList
  | .index i => some i

end Key

/-- What is wrong at some place of a path. -/
inductive PathFault
  | noName
  | noStep
  | noIndex
  | notClosed
  | notTerminated
  | indexTooGreat
  | badQualifier
deriving DecidableEq

/-- Why a text is no path. The offset counts characters. -/
inductive PathError
  | empty
  | badSyntax (source : String) (offset : Nat) (fault : PathFault)
deriving DecidableEq

/-- The words for a fault. -/
def PathFault.message : PathFault → String
  | .noName => "expected a property name"
  | .noStep => "expected '.' or '['"
  | .noIndex => "expected a number, a quoted key or a msg reference"
  | .notClosed => "expected ']'"
  | .notTerminated => "unterminated string index"
  | .indexTooGreat => "index out of range"
  | .badQualifier => "store qualifier must look like #:(name)::key"

/-- The words for an error. -/
def PathError.message : PathError → String
  | .empty => "empty property expression"
  | .badSyntax source offset fault =>
    "bad property expression '" ++ source ++ "' at offset " ++ Text.decimal offset ++ ": " ++
      fault.message

end Wireflow
