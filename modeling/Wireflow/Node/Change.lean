/-
Change nodes apply rules to every message in order, then send it on: a rule sets a target to a
value, deletes a target, or moves what stands at one target to another.
-/
import Wireflow.Document
import Wireflow.Node.Basic

namespace Wireflow

/-! ## Configuration -/

/-- A rule as it is written: an action, a target with its type, and a value or a destination with
its type. -/
structure ChangeRuleConfig where
  action : String
  target : String
  targetType : Option String
  value : Option Json
  valueType : Option String

/-- The configuration of a change node: a list of rules, or a single rule in its older form. -/
structure ChangeConfig where
  rules : List ChangeRuleConfig
  action : Option String
  target : Option String
  value : Option Json

namespace ChangeRuleConfig

open Record

/-- The fields of a rule. -/
def fields : List (Member ChangeRuleConfig) :=
  [field "t" .required text fun c a => { c with action := a },
   field "p" .required text fun c a => { c with target := a },
   field "pt" .defaulted (optional text) fun c a => { c with targetType := a },
   field "to" .defaulted anything fun c a => { c with value := a },
   field "tot" .defaulted (optional text) fun c a => { c with valueType := a }]

/-- The rule of a JSON tree. -/
def ofJson (j : Json) : Read ChangeRuleConfig :=
  struct "RuleConfig" fields
    { action := "", target := "", targetType := none, value := none, valueType := none } j

end ChangeRuleConfig

namespace ChangeConfig

open Record

/-- The fields of a change node. -/
def fields : List (Member ChangeConfig) :=
  [field "rules" .defaulted (listOf ChangeRuleConfig.ofJson) fun c a => { c with rules := a },
   field "action" .defaulted (optional text) fun c a => { c with action := a },
   field "property" .defaulted (optional text) fun c a => { c with target := a },
   field "to" .defaulted anything fun c a => { c with value := a }]

/-- No rules. -/
def blank : ChangeConfig := { rules := [], action := none, target := none, value := none }

/-- The value of a single rule and its type: a text that starts with `msg.` is a path. -/
def singleValue : Option Json → Json × String
  | none => (.string "", "str")
  | some (.string s) =>
    match Text.dropStart? "msg.".toList s.toList with
    | some path => (.string (String.ofList path), "msg")
    | none => (.string s, "str")
  | some j => (j, "str")

/-- The rules that a configuration means. -/
def effectiveRules (c : ChangeConfig) : Except ConfigFault (List ChangeRuleConfig) :=
  if !c.rules.isEmpty then .ok c.rules
  else
    let target := c.target.getD "payload"
    match c.action with
    | none => .ok []
    | some "replace" =>
      let (value, type) := singleValue c.value
      .ok [{ action := "set", target, targetType := none, value := some value,
             valueType := some type }]
    | some "delete" =>
      .ok [{ action := "delete", target, targetType := none, value := none, valueType := none }]
    | some other => .error (.changeAction other)

end ChangeConfig

/-! ## Rules -/

/-- A rule of a change node. -/
inductive ChangeRule
  | set (target : Target) (value : Property)
  | delete (target : Target)
  | move (source destination : Target)

namespace ChangeRule

/-- The rule of its written form. -/
def compile (now : Double) (c : ChangeRuleConfig) : Except NodeFault ChangeRule :=
  match Target.compile (c.targetType.getD "msg") c.target with
  | .error e => .error e
  | .ok target =>
    match c.action with
    | "set" =>
      (Property.compile now (c.valueType.getD "str") (c.value.getD (.string ""))).map (.set target)
    | "delete" => .ok (.delete target)
    | "move" =>
      match c.value with
      | some (.string path) =>
        (Target.compile (c.valueType.getD "msg") path).map (.move target)
      | _ => .error (.configuration .noDestination)
    | other => .error (.configuration (.changeRule other))

/-- Applies a rule to a message. The message and the context data are answered as they are
afterwards, also when the rule fails. A move between targets that are written alike changes nothing.
-/
def apply (s : Setting) (msg : Message) :
    ChangeRule → Except NodeFault Unit × Message × Contexts
  | .set target value => target.set s msg (value.evaluate? s (some msg))
  | .delete target => target.set s msg none
  | .move source destination =>
    if source.writtenAlike destination then (.ok (), msg, s.contexts)
    else
      match source.get? s msg with
      | none => (.ok (), msg, s.contexts)
      | some v =>
        match source.set s msg none with
        | (.error e, msg, contexts) => (.error e, msg, contexts)
        | (.ok (), msg, contexts) => destination.set { s with contexts } msg (some v)

/-- Applies rules in order, up to the first that fails. -/
def applyAll (s : Setting) (msg : Message) :
    List ChangeRule → Except NodeFault Unit × Message × Contexts
  | [] => (.ok (), msg, s.contexts)
  | r :: rest =>
    match r.apply s msg with
    | (.error e, msg, contexts) => (.error e, msg, contexts)
    | (.ok (), msg, contexts) => applyAll { s with contexts } msg rest

end ChangeRule

/-! ## The node -/

namespace Node

/-- What a change node does: a message to which some rule fails goes no further. -/
def changeReaction (rules : List ChangeRule) (s : Setting) (msg : Message) : Reaction :=
  match ChangeRule.applyAll s msg rules with
  | (.ok (), msg, contexts) => { effects := [.send 0 msg], contexts, outcome := .ok () }
  | (.error e, _, contexts) => { effects := [], contexts, outcome := .error e }

/-- A change node with some rules. -/
def change (rules : List ChangeRule) : Node :=
  .passive "change" (changeReaction rules)

/-- The rules of a configuration, up to the first that is refused. -/
def compileRules (now : Double) :
    List ChangeRuleConfig → Except NodeFault (List ChangeRule)
  | [] => .ok []
  | c :: rest =>
    match ChangeRule.compile now c with
    | .error e => .error e
    | .ok r => (compileRules now rest).map (r :: ·)

/-- The change node of a node record. -/
def changeOf (now : Double) (n : NodeDefinition) : Except NodeFault Node :=
  match Record.ofMembers ChangeConfig.fields ChangeConfig.blank n.config with
  | .error e => .error (.configuration (.record e))
  | .ok config =>
    match config.effectiveRules with
    | .error e => .error (.configuration e)
    | .ok rules => (compileRules now rules).map change

end Node

end Wireflow
