/-
Who a node is, where it lives, and what a variable means to it: a reserved name of its identity, an
entry of its groups from the innermost outwards, an entry of its flow, or a variable of the process.
Entries are expanded against the levels outside their own, so no expansion can run in a circle.
-/
import Wireflow.Property.Literal

namespace Wireflow

/-! ## Templates -/

namespace Template

/-- Blanks, a name, blanks and a closing brace: the name, and what follows the brace. -/
def reference? (cs : List Char) : Option (List Char × List Char) :=
  let cs := cs.dropWhile Text.isBlank
  let isNameChar := fun c => !(c == '\x7d' || Text.isBlank c)
  let name := cs.takeWhile isNameChar
  match (cs.dropWhile isNameChar).dropWhile Text.isBlank with
  | '\x7d' :: rest => if name.isEmpty then none else some (name, rest)
  | _ => none

theorem length_dropWhile_le (p : Char → Bool) (cs : List Char) :
    (cs.dropWhile p).length ≤ cs.length :=
  (List.dropWhile_suffix p).length_le

theorem length_of_reference? {cs name rest : List Char} (h : reference? cs = some (name, rest)) :
    rest.length < cs.length := by
  unfold reference? at h
  simp only at h
  split at h
  · rename_i tail heq
    split at h
    · cases h
    · cases h
      have h1 := length_dropWhile_le Text.isBlank
        ((cs.dropWhile Text.isBlank).dropWhile fun c => !(c == '\x7d' || Text.isBlank c))
      have h2 := length_dropWhile_le (fun c => !(c == '\x7d' || Text.isBlank c))
        (cs.dropWhile Text.isBlank)
      have h3 := length_dropWhile_le Text.isBlank cs
      rw [heq] at h1
      simp only [List.length_cons] at h1
      omega
  · cases h

/-- The text with every reference replaced by what `meaning` gives for its name, in one pass from
the left. -/
def expand (meaning : String → String) (cs : List Char) : List Char :=
  match cs with
  | '$' :: '\x7b' :: rest =>
    match h : reference? rest with
    | some (name, after) =>
      have := length_of_reference? h
      (meaning (String.ofList name)).toList ++ expand meaning after
    | none => '$' :: expand meaning ('\x7b' :: rest)
  | c :: rest => c :: expand meaning rest
  | [] => []
termination_by cs.length
decreasing_by all_goals (simp only [List.length_cons]; omega)

/-- Whether a text may hold references. -/
def marks : List Char → Bool
  | '$' :: '\x7b' :: _ => true
  | _ :: rest => marks rest
  | [] => false

/-- Whether a text holds the opening of a reference. -/
def isTemplate (s : String) : Bool := marks s.toList

end Template

/-! ## Entries -/

/-- What an entry says: a value, a template, or the name of another variable. -/
inductive EnvEntry
  | value (v : Value)
  | template (text : String)
  | variable (name : String)

/-- The entries of a flow or group; the last of a name counts. -/
abbrev EnvList := List (String × EnvEntry)

/-- An entry as a flow document writes it. -/
structure EnvVar where
  name : String
  value : Json
  type : String

namespace EnvVar

open Record

/-- The fields of an entry. -/
def fields : List (Member EnvVar) :=
  [field "name" .required text fun v a => { v with name := a },
   field "value" .defaulted (fun j => .ok j) fun v a => { v with value := a },
   field "type" .defaulted text fun v a => { v with type := a }]

/-- The entry of a JSON tree; without a type it is a string. -/
def ofJson (j : Json) : Read EnvVar :=
  struct "EnvVar" fields { name := "", value := .null, type := "str" } j

/-- What the entry says. -/
def compile (now : Double) (v : EnvVar) : Except NodeFault EnvEntry :=
  match PropertyType.parse v.type with
  | .error e => .error e
  | .ok .env => .ok (.variable v.value.plainText)
  | .ok .str =>
    let text := v.value.plainText
    .ok (if Template.isTemplate text then .template text else .value (.string text))
  | .ok type =>
    match Literal.read now type v.value with
    | .ok value => .ok (.value value)
    | .error e => .error (.configuration e)

end EnvVar

namespace EnvList

/-- The entries of a list of records, up to the first that is refused. -/
def compile (now : Double) : List EnvVar → Except NodeFault EnvList
  | [] => .ok []
  | v :: rest =>
    match v.compile now with
    | .error e => .error e
    | .ok entry =>
      match compile now rest with
      | .ok entries => .ok ((v.name, entry) :: entries)
      | .error e => .error e

/-- The last entry of a name. -/
def find? (l : EnvList) (name : String) : Option EnvEntry :=
  (l.reverse.find? fun e => e.1 == name).map (·.2)

end EnvList

/-! ## Identities -/

/-- The flow of a node. -/
structure FlowIdentity where
  id : Identifier
  label : String
  env : EnvList

/-- A group of a node. -/
structure GroupIdentity where
  id : Identifier
  name : String
  env : EnvList

/-- A node, its flow, and its groups from the innermost outwards. -/
structure Identity where
  id : Identifier
  name : String
  type : String
  flow : FlowIdentity
  groups : List GroupIdentity

/-- The variables of the process. -/
abbrev ProcessEnv := List (String × String)

namespace ProcessEnv

/-- The value of a variable. -/
def find? (p : ProcessEnv) (name : String) : Option Value :=
  (p.lookup name).map .string

end ProcessEnv

/-- The text of a value inside a template: JSON when it has no text of its own. -/
def Value.templateText (v : Value) : String :=
  match v.toText? with
  | some s => s
  | none => v.jsonText

namespace Identity

/-- The flow and the node, with a stroke between them. -/
def path (i : Identity) : String :=
  i.flow.id.text ++ "/" ++ i.id.text

/-- The value of a reserved name. The names of the group have one only inside a group. -/
def reserved? (i : Identity) (name : String) : Option Value :=
  match name with
  | "NR_NODE_NAME" => some (.string i.name)
  | "NR_NODE_ID" => some (.string i.id.text)
  | "NR_NODE_PATH" => some (.string i.path)
  | "NR_FLOW_NAME" => some (.string i.flow.label)
  | "NR_FLOW_ID" => some (.string i.flow.id.text)
  | "NR_GROUP_NAME" => i.groups.head?.map fun g => .string g.name
  | "NR_GROUP_ID" => i.groups.head?.map fun g => .string g.id.text
  | _ => none

/-- The lists of entries from the innermost group to the flow. -/
def levels (i : Identity) : List EnvList :=
  i.groups.map (·.env) ++ [i.flow.env]

/-- What a name means when its reserved meaning comes before another one. -/
def reservedOr (i : Identity) (other : String → Option Value) (name : String) : Option Value :=
  match i.reserved? name with
  | some v => some v
  | none => other name

/-- The text that a name is replaced by in a template; nothing for unknown names. -/
def meaningText (meaning : String → Option Value) (name : String) : String :=
  match meaning name with
  | some v => v.templateText
  | none => ""

/-- What a name means from some levels outwards, reserved names apart. -/
def resolve (i : Identity) (process : ProcessEnv) : List EnvList → String → Option Value
  | [], name => process.find? name
  | list :: outer, name =>
    match list.find? name with
    | some (.value v) => some v
    | some (.template text) =>
      some (.string (String.ofList
        (Template.expand (meaningText (i.reservedOr (resolve i process outer))) text.toList)))
    | some (.variable other) => i.reservedOr (resolve i process outer) (Text.trim other)
    | none => resolve i process outer name

/-- The value of a variable as the node sees it. -/
def env? (i : Identity) (process : ProcessEnv) (name : String) : Option Value :=
  i.reservedOr (i.resolve process i.levels) (Text.trim name)

/-- A text with its references replaced by the variables that the node sees. -/
def substitute (i : Identity) (process : ProcessEnv) (text : String) : String :=
  String.ofList
    (Template.expand (meaningText (i.reservedOr (i.resolve process i.levels))) text.toList)

end Identity

end Wireflow
