/-
Typed properties of a node's configuration, and the places that a node can write to. A property has
a value in a setting: an identity, the variables of the process, the context stores, the time, and a
message.
-/
import Wireflow.Context.Stores
import Wireflow.Environment

namespace Wireflow

/-- Which scope a reference to context data means. -/
inductive ContextKind
  | flow
  | global
deriving DecidableEq

/-- A reference to context data: of the node's flow, or global. -/
structure ContextRef where
  kind : ContextKind
  key : ContextKey

/-- The scope that a reference of a node means. -/
def ContextKind.scope (i : Identity) : ContextKind → Scope
  | .flow => .flow i.flow.id
  | .global => .global

/-- What a property is evaluated against besides a message. -/
structure Setting where
  identity : Identity
  process : ProcessEnv
  contexts : Contexts
  now : Double

namespace ContextRef

/-- What stands at a reference. -/
def get? (r : ContextRef) (s : Setting) (msg : Option Message) : Option Value :=
  s.contexts.get? (r.kind.scope s.identity) r.key msg

/-- The stores after a value has been written at a reference, or removed for none. -/
def set (r : ContextRef) (s : Setting) (msg : Option Message) (v : Option Value) :
    Except NodeFault Contexts :=
  s.contexts.set (r.kind.scope s.identity) r.key msg v

end ContextRef

/-- A compiled property. -/
inductive Property
  | constant (v : Value)
  | template (text : String)
  | date
  | variable (name : String)
  | message (path : Path)
  | context (ref : ContextRef)

namespace Property

/-- An error of a path as a fault of the node. -/
def ofPath (r : Except PathError α) : Except NodeFault α :=
  match r with
  | .ok a => .ok a
  | .error e => .error (.path e)

/-- The property of a type and a raw value. -/
def compileTyped (now : Double) (type : PropertyType) (raw : Json) : Except NodeFault Property :=
  let text := raw.plainText
  match type with
  | .env => .ok (if Template.isTemplate text then .template text else .variable (Text.trim text))
  | .date => .ok .date
  | .msg => (ofPath (Path.parse text)).map .message
  | .flow => (ofPath (ContextKey.parse text)).map fun key => .context ⟨.flow, key⟩
  | .global => (ofPath (ContextKey.parse text)).map fun key => .context ⟨.global, key⟩
  | type =>
    if type = .str ∧ Template.isTemplate text then .ok (.template text)
    else
      match Literal.read now type raw with
      | .ok v => .ok (.constant v)
      | .error e => .error (.configuration e)

/-- The property of the word for a type and a raw value. -/
def compile (now : Double) (type : String) (raw : Json) : Except NodeFault Property :=
  match PropertyType.parse type with
  | .ok type => compileTyped now type raw
  | .error e => .error e

/-- The value, when it depends on nothing. -/
def constant? : Property → Option Value
  | .constant v => some v
  | _ => none

/-- The value in a setting. -/
def evaluate? (p : Property) (s : Setting) (msg : Option Message) : Option Value :=
  match p with
  | .constant v => some v
  | .template text => some (.string (s.identity.substitute s.process text))
  | .date => some (.number s.now)
  | .variable name => s.identity.env? s.process name
  | .message path =>
    match msg with
    | some m => m.getPath? path
    | none => none
  | .context r => r.get? s msg

end Property

/-- A place that a node can write to: in the message or in context data. -/
inductive Target
  | message (path : Path)
  | context (ref : ContextRef)

namespace Target

/-- The target of the word for a type and a path. -/
def compile (type path : String) : Except NodeFault Target :=
  match PropertyType.parse type with
  | .error e => .error e
  | .ok .msg => (Property.ofPath (Path.parse path)).map .message
  | .ok .flow => (Property.ofPath (ContextKey.parse path)).map fun key => .context ⟨.flow, key⟩
  | .ok .global => (Property.ofPath (ContextKey.parse path)).map fun key => .context ⟨.global, key⟩
  | .ok other => .error (.configuration (.unwritable other.name))

/-- Two targets are written alike: the same kind, the same store and the same text of the path. -/
def writtenAlike : Target → Target → Bool
  | .message a, .message b => a.source == b.source
  | .context a, .context b =>
    a.kind == b.kind && a.key.store == b.key.store && a.key.path.source == b.key.path.source
  | _, _ => false

/-- What stands at a target. -/
def get? (t : Target) (s : Setting) (msg : Message) : Option Value :=
  match t with
  | .message path => msg.getPath? path
  | .context r => r.get? s (some msg)

/-- Writes a value at a target, or removes what stands there for none. The message is answered as it
is afterwards in every case: a write into it that fails may leave containers behind. -/
def set (t : Target) (s : Setting) (msg : Message) (v : Option Value) :
    Except NodeFault Unit × Message × Contexts :=
  match t, v with
  | .message path, some v =>
    let r := msg.setPath path v
    (if r.1 then .ok () else .error (.unsettable path.source), r.2, s.contexts)
  | .message path, none => (.ok (), (msg.removePath path).2, s.contexts)
  | .context r, v =>
    match r.set s (some msg) v with
    | .ok contexts => (.ok (), msg, contexts)
    | .error e => (.error e, msg, s.contexts)

end Target

end Wireflow
