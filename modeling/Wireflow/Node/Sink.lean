/-
Sinks hand every message over to whoever collects the output. An active one also gives notice of the
whole message or of what stands at a path in it.
-/
import Wireflow.Document
import Wireflow.Node.Basic

namespace Wireflow

/-- What a sink shows of a message. -/
inductive Shown
  | message
  | property (path : Path)

/-- The configuration of a sink. -/
structure SinkConfig where
  active : Bool
  shown : Option String

namespace SinkConfig

open Record

/-- The fields of a sink. -/
def fields : List (Member SinkConfig) :=
  [field "active" .defaulted lenientFlag fun c a => { c with active := a },
   field "complete" .defaulted lenientText fun c a => { c with shown := a }]

/-- An active sink of the payload. -/
def blank : SinkConfig := { active := true, shown := none }

end SinkConfig

namespace Shown

/-- What the words of a configuration mean: `true` is the whole message, nothing and `false` are the
payload, all else is a path. -/
def parse (words : Option String) : Except PathError Shown :=
  let words := Text.trim (words.getD "")
  if words = "true" then .ok .message
  else if words = "" ∨ words = "false" then (Path.parse "payload").map .property
  else (Path.parse words).map .property

/-- What is shown of a message; null for what is not there. -/
def render (msg : Message) : Shown → Value
  | .message => .object msg.entries
  | .property path => (msg.getPath? path).getD .null

end Shown

namespace Node

/-- A sink of some type. -/
def sink (type : String) (active : Bool) (shown : Shown) : Node :=
  .passive type fun s msg =>
    let notices := if active then [Effect.notice (.data (shown.render msg))] else []
    .quiet s (notices ++ [.observe msg])

/-- The sink of a node record. -/
def sinkOf (n : NodeDefinition) : Except NodeFault Node :=
  match Record.ofMembers SinkConfig.fields SinkConfig.blank n.config with
  | .error e => .error (.configuration (.record e))
  | .ok config =>
    match Shown.parse config.shown with
    | .error e => .error (.path e)
    | .ok shown => .ok (sink n.type config.active shown)

end Node

end Wireflow
