/-
What a command leaves behind: its lines of output, a status, and, when it fails, the failure with
what lies behind it.
-/
import Wireflow.Engine.Basic

namespace Wireflow

/-! ## Failures -/

/-- What lies behind a fault of a node, the fault first. -/
def NodeFault.causes (f : NodeFault) : List String :=
  f.message ::
    match f with
    | .path e => [e.message]
    | _ => []

/-- What lies behind a fault of a graph, the fault first. -/
def GraphFault.causes (f : GraphFault) : List String :=
  f.message ::
    match f with
    | .invalidConfig _ _ fault => fault.causes
    | _ => []

/-- What lies behind a fault of an engine, the fault first. -/
def EngineFault.causes (f : EngineFault) : List String :=
  f.message ::
    match f with
    | .graph fault => fault.causes
    | .node fault => fault.causes
    | _ => []

/-- Why a command fails: the failure first, then what lies behind it. -/
structure Failure where
  causes : List String

namespace Failure

/-- The lines of a text with `first` before the first of them and `later` before the others. -/
def indented (first later text : String) : List String :=
  match text.splitOn "\n" with
  | [] => []
  | line :: rest => (first ++ line) :: rest.map (later ++ ·)

/-- The lines of the causes, numbered from `n`. -/
def numbered (n : Nat) : List String → List String
  | [] => []
  | cause :: rest =>
    let number := Text.decimal n
    let first := "".pushn ' ' (5 - number.length) ++ number ++ ": "
    indented first "       " cause ++ numbered (n + 1) rest

/-- The lines of a failure. What lies behind it stands below it, with numbers when there is more
than one cause. -/
def lines (f : Failure) : List String :=
  match f.causes with
  | [] => []
  | [headline] => indented "Error: " "" headline
  | [headline, cause] =>
    indented "Error: " "" headline ++ ["", "Caused by:"] ++ indented "    " "    " cause
  | headline :: causes =>
    indented "Error: " "" headline ++ ["", "Caused by:"] ++ numbered 0 causes

end Failure

/-! ## Reports -/

/-- How a command ended. -/
inductive Ending
  | done
  | failed (failure : Failure)
  | crashed (reason : String)

/-- What a command leaves behind: its lines of output, how it ended, the disk, and how much time has
passed. -/
structure Report where
  output : List String
  ending : Ending
  disk : Disk
  elapsed : Nat

namespace Report

/-- The status that tells how a command ended. -/
def status (r : Report) : Nat :=
  match r.ending with
  | .done => 0
  | .failed _ => 1
  | .crashed _ => 101

/-- The lines of a failure. -/
def errors (r : Report) : List String :=
  match r.ending with
  | .done => []
  | .failed f => f.lines
  | .crashed reason => [reason]

end Report

/-! ## Events -/

/-- A node as lines show it. -/
def Identifier.bracketed (id : Identifier) : String := "[" ++ id.text ++ "]"

/-- The line of a notice. -/
def Notice.line (id : Identifier) : Notice → String
  | .info text => "     ℹ️  " ++ id.bracketed ++ " " ++ text
  | .warning text => "     ⚠️  " ++ id.bracketed ++ " " ++ text
  | .data v => "     📤 " ++ id.bracketed ++ " " ++ v.toJson.compact

/-- The line of an event. -/
def Event.line : Event → String
  | .engineStarted n => "▶️  Engine started with " ++ Text.decimal n ++ " nodes"
  | .engineStopped ms => "✨ Engine stopped after " ++ Text.decimal ms ++ "ms"
  | .nodeStarted id type => "  ⚡ Started node: " ++ id.text ++ " (" ++ type ++ ")"
  | .nodeClosed id => "  ⏹  Closed node: " ++ id.text
  | .delivered source port target _ =>
    "  ➡️  " ++ source.text ++ "[" ++ Text.decimal port ++ "] -> " ++ target.text
  | .failed id fault => "  ❌ Node " ++ id.text ++ " failed: " ++ fault.message
  | .noticed id n => n.line id

end Wireflow
