/-
Switch nodes route every message by rules about a property of it: the message goes out of the port
of each rule that holds, or only of the first.
-/
import Wireflow.Document
import Wireflow.Json.Reader
import Wireflow.Node.Basic
import Wireflow.Pattern.Compile

namespace Wireflow

/-! ## Configuration -/

/-- A rule as it is written: an operator, two operands with their types, and whether a pattern
disregards case. -/
structure SwitchRuleConfig where
  operator : Json
  first : Option Json
  firstType : Option String
  second : Option Json
  secondType : Option String
  ignoreCase : Bool

/-- The configuration of a switch node. -/
structure SwitchConfig where
  property : String
  propertyType : Option String
  checkAll : Bool
  rules : List SwitchRuleConfig

namespace SwitchRuleConfig

open Record

/-- The fields of a rule. -/
def fields : List (Member SwitchRuleConfig) :=
  [field "t" .required (fun j => .ok j) fun c a => { c with operator := a },
   field "v" .defaulted anything fun c a => { c with first := a },
   field "vt" .defaulted (optional text) fun c a => { c with firstType := a },
   field "v2" .defaulted anything fun c a => { c with second := a },
   field "v2t" .defaulted (optional text) fun c a => { c with secondType := a },
   field "case" .defaulted lenientFlag fun c a => { c with ignoreCase := a }]

/-- The rule of a JSON tree. -/
def ofJson (j : Json) : Read SwitchRuleConfig :=
  struct "RuleConfig" fields
    { operator := .null, first := none, firstType := none, second := none, secondType := none,
      ignoreCase := false } j

end SwitchRuleConfig

namespace SwitchConfig

open Record

/-- The fields of a switch node. -/
def fields : List (Member SwitchConfig) :=
  [field "property" .defaulted text fun c a => { c with property := a },
   field "propertyType" .defaulted (optional text) fun c a => { c with propertyType := a },
   field "checkall" .defaulted lenientFlag fun c a => { c with checkAll := a },
   field "rules" .defaulted (listOf SwitchRuleConfig.ofJson) fun c a => { c with rules := a }]

/-- The payload, all rules that hold, and no rules. -/
def blank : SwitchConfig :=
  { property := "payload", propertyType := none, checkAll := true, rules := [] }

end SwitchConfig

/-! ## Tests on values -/

/-- A kind of value that a rule asks for. -/
inductive ValueKind
  | string
  | number
  | boolean
  | array
  | object
  | buffer
  | json
  | null
  | undefined
deriving DecidableEq

namespace ValueKind

/-- The kind of a word. -/
def parse : String → Except ConfigFault ValueKind
  | "string" => .ok .string
  | "number" => .ok .number
  | "boolean" => .ok .boolean
  | "array" => .ok .array
  | "object" => .ok .object
  | "buffer" => .ok .buffer
  | "json" => .ok .json
  | "null" => .ok .null
  | "undefined" => .ok .undefined
  | other => .error (.valueKind other)

/-- What is there, or nothing, is of the kind. Infinities are no numbers here, and JSON is a string
that holds it. -/
def holds : ValueKind → Option Value → Bool
  | .undefined, v => v.isNone
  | .string, some (.string _) => true
  | .number, some (.number d) => d.isFinite
  | .boolean, some (.bool _) => true
  | .array, some (.array _) => true
  | .object, some (.object _) => true
  | .buffer, some (.bytes _) => true
  | .json, some (.string s) => (Json.parse? s).isSome
  | .null, some .null => true
  | _, _ => false

end ValueKind

/-- A comparison of two values. -/
inductive Comparison
  | eq
  | neq
  | lt
  | lte
  | gt
  | gte
deriving DecidableEq

namespace Comparison

/-- The comparison holds of two values. Values without an order are in none of the four orders. -/
def holds (left right : Value) : Comparison → Bool
  | .eq => left.looseEq right
  | .neq => !left.looseEq right
  | .lt => left.compare? right == some .lt
  | .lte =>
    match left.compare? right with
    | some o => o != .gt
    | none => false
  | .gt => left.compare? right == some .gt
  | .gte =>
    match left.compare? right with
    | some o => o != .lt
    | none => false

end Comparison

namespace Value

/-- A value lies between two bounds, or is one of them, whichever bound is the lower one: as numbers
when all three are, else as texts. -/
def isBetween (x a b : Value) : Bool :=
  match x.toNumber?, a.toNumber?, b.toNumber? with
  | some x, some a, some b =>
    if a.numLe b then a.numLe x && x.numLe b else b.numLe x && x.numLe a
  | _, _, _ =>
    match x.toText?, a.toText?, b.toText? with
    | some x, some a, some b =>
      if compareText a b != .gt then compareText a x != .gt && compareText x b != .gt
      else compareText b x != .gt && compareText x a != .gt
    | _, _, _ => false

/-- An array has an item that is loosely equal, or a text has the other text in it. -/
def holdsPart (left right : Value) : Bool :=
  match left with
  | .array items => items.any fun item => item.looseEq right
  | .string _ | .number _ | .bool _ =>
    match left.toText?, right.toText? with
    | some s, some part => Text.occursIn part s
    | _, _ => false
  | _ => false

/-- The length of what can be empty: strings, bytes, arrays and objects. -/
def size? (v : Value) : Option Nat :=
  match v with
  | .string _ | .bytes _ | .array _ | .object _ => v.length?
  | _ => none

/-- An object has an entry of a name. -/
def hasName (v name : Value) : Bool :=
  match v, name with
  | .object entries, .string s => (Table.get? s entries).isSome
  | _, _ => false

end Value

/-! ## Rules -/

/-- A rule of a switch node. A pattern that is no constant is read for each message. -/
inductive SwitchRule
  | compare (c : Comparison) (operand : Property)
  | between (a b : Property)
  | contains (part : Property)
  | pattern (ignoreCase : Bool) (r : Regex)
  | dynamicPattern (ignoreCase : Bool) (text : Property)
  | kind (k : ValueKind)
  | hasName (name : Property)
  | flag (b : Bool)
  | empty (expected : Bool)
  | null (expected : Bool)
  | otherwise

namespace SwitchRule

/-- An operand: without a type it is a number when it is written as one, else a string. -/
def operand (now : Double) (value : Option Json) (type : Option String) :
    Except NodeFault Property :=
  let raw := value.getD (.string "")
  let type := type.getD ""
  let type :=
    if type ≠ "" then type
    else
      match raw with
      | .number _ => "num"
      | .string s => if (Double.ofText? s).isSome then "num" else "str"
      | _ => "str"
  Property.compile now type raw

/-- The word of an operator, which may be written as a boolean. -/
def operator : Json → Except ConfigFault String
  | .string s => .ok s
  | .bool b => .ok (if b then "true" else "false")
  | j => .error (.noOperator j.compact)

/-- The expression of a pattern. -/
def readPattern (ignoreCase : Bool) (text : String) : Except ConfigFault Regex :=
  match Pattern.compile ignoreCase text with
  | .ok r => .ok r
  | .error e => .error (.badPattern text e.message)

/-- The rule of a pattern. -/
def ofPattern (now : Double) (c : SwitchRuleConfig) : Except NodeFault SwitchRule :=
  match Property.compile now (c.firstType.getD "str") (c.first.getD (.string "")) with
  | .error e => .error e
  | .ok p =>
    match p.constant? with
    | none => .ok (.dynamicPattern c.ignoreCase p)
    | some v =>
      match readPattern c.ignoreCase (v.toText?.getD "") with
      | .ok r => .ok (.pattern c.ignoreCase r)
      | .error e => .error (.configuration e)

/-- The rule of its written form. -/
def compile (now : Double) (c : SwitchRuleConfig) : Except NodeFault SwitchRule :=
  let first := operand now c.first c.firstType
  match operator c.operator with
  | .error e => .error (.configuration e)
  | .ok name =>
    match name with
    | "eq" => first.map (.compare .eq)
    | "neq" => first.map (.compare .neq)
    | "lt" => first.map (.compare .lt)
    | "lte" => first.map (.compare .lte)
    | "gt" => first.map (.compare .gt)
    | "gte" => first.map (.compare .gte)
    | "btwn" =>
      match first with
      | .error e => .error e
      | .ok a => (operand now c.second c.secondType).map (.between a)
    | "cont" => first.map .contains
    | "regex" => ofPattern now c
    | "istype" =>
      let word := match c.first with
        | some (.string s) => s
        | _ => ""
      match ValueKind.parse word with
      | .ok k => .ok (.kind k)
      | .error e => .error (.configuration e)
    | "hask" => first.map .hasName
    | "true" => .ok (.flag true)
    | "false" => .ok (.flag false)
    | "empty" => .ok (.empty true)
    | "nempty" => .ok (.empty false)
    | "null" => .ok (.null true)
    | "nnull" => .ok (.null false)
    | "else" => .ok .otherwise
    | "head" | "tail" | "index" | "jsonata_exp" =>
      .error (.configuration (.unsupportedOperator name))
    | _ => .error (.configuration (.unknownOperator name))

/-- The rules of a list, up to the first that is refused. -/
def compileAll (now : Double) : List SwitchRuleConfig → Except NodeFault (List SwitchRule)
  | [] => .ok []
  | c :: rest =>
    match compile now c with
    | .error e => .error e
    | .ok r => (compileAll now rest).map (r :: ·)

/-- A test on the value of an operand, which fails when the operand has none. -/
def onOperand (s : Setting) (msg : Message) (p : Property) (test : Value → Bool) : Bool :=
  match p.evaluate? s (some msg) with
  | some v => test v
  | none => false

/-- The rule holds of a value that is there. -/
def holdsOf (s : Setting) (msg : Message) (left : Value) : SwitchRule → Bool
  | .compare c p => onOperand s msg p fun right => c.holds left right
  | .between a b => onOperand s msg a fun a => onOperand s msg b fun b => left.isBetween a b
  | .contains p => onOperand s msg p fun part => left.holdsPart part
  | .pattern _ r =>
    match left.toText? with
    | some text => r.matchesIn text
    | none => false
  | .dynamicPattern ignoreCase p =>
    match left.toText? with
    | none => false
    | some text =>
      onOperand s msg p fun v =>
        match Pattern.compile ignoreCase (v.toText?.getD "") with
        | .ok r => r.matchesIn text
        | .error _ => false
  | .hasName p => onOperand s msg p fun name => left.hasName name
  | .flag b =>
    match left with
    | .bool a => a == b
    | _ => false
  | .empty expected =>
    match left.size? with
    | some n => (n == 0) == expected
    | none => false
  | .kind _ | .null _ | .otherwise => false

/-- The rule holds of what the property is, or of nothing. `matched` tells whether an earlier rule
holds. -/
def holds (s : Setting) (msg : Message) (left : Option Value) (matched : Bool) : SwitchRule → Bool
  | .null true =>
    match left with
    | some v => v.isNull
    | none => true
  | .null false =>
    match left with
    | some v => !v.isNull
    | none => false
  | .otherwise => !matched
  | .kind k => k.holds left
  | r =>
    match left with
    | some v => r.holdsOf s msg v
    | none => false

end SwitchRule

/-! ## The node -/

/-- A switch: the property that it asks about, its rules, and whether all rules that hold count. -/
structure Switch where
  property : Property
  rules : List SwitchRule
  checkAll : Bool

namespace Switch

/-- The ports of the rules that hold, from the rule of `port` on; `matched` tells whether an earlier
rule holds. Only the first counts unless all do. -/
def portsFrom (s : Setting) (msg : Message) (left : Option Value) (checkAll : Bool) :
    Nat → Bool → List SwitchRule → List Nat
  | _, _, [] => []
  | port, matched, r :: rest =>
    if r.holds s msg left matched then
      if checkAll then port :: portsFrom s msg left checkAll (port + 1) true rest else [port]
    else portsFrom s msg left checkAll (port + 1) matched rest

/-- The ports that a message goes out of, in order. -/
def route (w : Switch) (s : Setting) (msg : Message) : List Nat :=
  portsFrom s msg (w.property.evaluate? s (some msg)) w.checkAll 0 false w.rules

end Switch

namespace Node

/-- A switch node. -/
def switch (w : Switch) : Node :=
  .passive "switch" fun s msg => .quiet s ((w.route s msg).map fun port => .send port msg)

/-- The switch node of a node record. -/
def switchOf (now : Double) (n : NodeDefinition) : Except NodeFault Node :=
  match Record.ofMembers SwitchConfig.fields SwitchConfig.blank n.config with
  | .error e => .error (.configuration (.record e))
  | .ok config =>
    match Property.compile now (config.propertyType.getD "msg") (.string config.property) with
    | .error e => .error e
    | .ok property =>
      (SwitchRule.compileAll now config.rules).map fun rules =>
        switch { property, rules, checkAll := config.checkAll }

end Node

end Wireflow
