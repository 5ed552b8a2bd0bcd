/-
Nodes: what they do with a message, and what they do on their own. A reaction lists what a node did
in order, and a fault ends it without undoing what came before.
-/
import Wireflow.Clock
import Wireflow.Property.Basic

namespace Wireflow

/-- What a node has to say. -/
inductive Notice
  | info (text : String)
  | warning (text : String)
  | data (value : Value)

/-- Something that a node does: it sends a message out of a port, hands one over to whoever collects
the output, or gives notice. -/
inductive Effect
  | send (port : Nat) (msg : Message)
  | observe (msg : Message)
  | notice (n : Notice)

/-- What a node did with a message, the context data afterwards, and how it ended. -/
structure Reaction where
  effects : List Effect
  contexts : Contexts
  outcome : Except NodeFault Unit

/-- A node of some type with some configuration: what it does with a message, what it says when it
starts, when it acts on its own, and how its start and its end fail if they do. On its own a node
does what it does with an empty message. -/
structure Node where
  type : String
  receive : Setting → Message → Reaction
  notices : List Notice
  timers : List Timer
  startFault : Option NodeFault
  closeFault : Option NodeFault

namespace Node

/-- A node that only acts on messages. -/
def passive (type : String) (receive : Setting → Message → Reaction) : Node :=
  { type, receive, notices := [], timers := [], startFault := none, closeFault := none }

end Node

namespace Reaction

/-- A reaction that ends well and leaves the context data as they were. -/
def quiet (s : Setting) (effects : List Effect) : Reaction :=
  { effects, contexts := s.contexts, outcome := .ok () }

end Reaction

end Wireflow
