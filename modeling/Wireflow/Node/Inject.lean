/-
Inject nodes fill properties into messages and send them on: into a message that arrives, and into
an empty one once after a delay, once in every period, and at the times of a crontab.
-/
import Wireflow.Document
import Wireflow.Node.Basic

namespace Wireflow

/-! ## Configuration -/

/-- A property as it is written: a path, and a value with its type. -/
structure PropConfig where
  path : String
  value : Option Json
  valueType : Option String

/-- The configuration of an inject node. -/
structure InjectConfig where
  props : Option (List PropConfig)
  payload : Option Json
  payloadType : Option String
  topic : Option String
  once : Bool
  onceDelay : Option Double
  period : Option Double
  crontab : Option String

namespace PropConfig

open Record

/-- The fields of a property. -/
def fields : List (Member PropConfig) :=
  [field "p" .required text fun c a => { c with path := a },
   field "v" .defaulted anything fun c a => { c with value := a },
   field "vt" .defaulted (optional text) fun c a => { c with valueType := a }]

/-- The property of a JSON tree. -/
def ofJson (j : Json) : Read PropConfig :=
  struct "PropConfig" fields { path := "", value := none, valueType := none } j

end PropConfig

namespace InjectConfig

open Record

/-- The fields of an inject node. -/
def fields : List (Member InjectConfig) :=
  [field "props" .defaulted (optional (listOf PropConfig.ofJson)) fun c a => { c with props := a },
   field "payload" .defaulted anything fun c a => { c with payload := a },
   field "payloadType" .defaulted (optional text) fun c a => { c with payloadType := a },
   field "topic" .defaulted lenientText fun c a => { c with topic := a },
   field "once" .defaulted lenientFlag fun c a => { c with once := a },
   field "onceDelay" .defaulted lenientNumber fun c a => { c with onceDelay := a },
   field "repeat" .defaulted lenientNumber fun c a => { c with period := a },
   field "crontab" .defaulted lenientText fun c a => { c with crontab := a }]

/-- Nothing set. -/
def blank : InjectConfig :=
  { props := none, payload := none, payloadType := none, topic := none, once := false,
    onceDelay := none, period := none, crontab := none }

/-- The payload of the node: without a type it is the date when it is empty, else a string. -/
def payloadProperty (now : Double) (c : InjectConfig) : Except NodeFault Property :=
  let raw := c.payload.getD (.string "")
  let type := c.payloadType.getD ""
  let type :=
    if type ≠ "" then type
    else
      match raw with
      | .string "" => "date"
      | _ => "str"
  Property.compile now type raw

/-- The topic of the node. -/
def topicProperty (now : Double) (c : InjectConfig) : Except NodeFault Property :=
  Property.compile now "str" (.string (c.topic.getD ""))

end InjectConfig

/-! ## Properties -/

/-- A property that is filled into messages: where, and which value. -/
structure Filling where
  path : Path
  value : Property

namespace Filling

/-- A property at a path. -/
def make (path : String) (value : Except NodeFault Property) : Except NodeFault Filling :=
  match Path.parse path with
  | .error e => .error (.path e)
  | .ok path => value.map fun value => { path, value }

/-- The property of its written form. Payload and topic without a value of their own have that of
the node. -/
def compile (now : Double) (c : InjectConfig) (prop : PropConfig) : Except NodeFault Filling :=
  make prop.path <|
    match prop.value, prop.path with
    | none, "payload" => c.payloadProperty now
    | none, "topic" => c.topicProperty now
    | value, _ => Property.compile now (prop.valueType.getD "str") (value.getD (.string ""))

/-- The properties of a list, up to the first that is refused. -/
def compileAll (now : Double) (c : InjectConfig) :
    List PropConfig → Except NodeFault (List Filling)
  | [] => .ok []
  | prop :: rest =>
    match compile now c prop with
    | .error e => .error e
    | .ok f => (compileAll now c rest).map (f :: ·)

/-- The properties of a configuration: those of its list, or payload and topic without one. -/
def ofConfig (now : Double) (c : InjectConfig) : Except NodeFault (List Filling) :=
  match c.props with
  | some props => compileAll now c props
  | none =>
    match make "payload" (c.payloadProperty now) with
    | .error e => .error e
    | .ok payload => (make "topic" (c.topicProperty now)).map fun topic => [payload, topic]

/-- Fills properties into a message in order, and the warnings for those that cannot be set. A
property without a value is passed over. -/
def fill (s : Setting) (msg : Message) : List Filling → List Effect × Message
  | [] => ([], msg)
  | f :: rest =>
    match f.value.evaluate? s (some msg) with
    | none => fill s msg rest
    | some v =>
      let written := msg.setPath f.path v
      let next := fill s written.2 rest
      if written.1 then next
      else (.notice (.warning ("cannot set msg." ++ f.path.source)) :: next.1, next.2)

end Filling

/-! ## Timing -/

/-- When an inject node acts on its own: a delay and a period in nanoseconds, and a crontab with its
text. -/
structure Timing where
  delay : Option Nat
  period : Option Nat
  crontab : Option (String × Crontab)

namespace Timing

/-- The delay when a configuration names none. -/
def usualDelay : Double := Double.ofRatio false 1 10

/-- The longest delay and the longest period, in seconds. -/
def longest : Double := Double.ofNat 2147483

/-- A number of seconds from zero to the longest. -/
def accepts (seconds : Double) : Bool :=
  seconds.isFinite && Double.zero.numLe seconds && seconds.numLe longest

/-- The delay of a node that acts once. -/
def delayOf (c : InjectConfig) : Except ConfigFault (Option Nat) :=
  if !c.once then .ok none
  else
    let seconds := c.onceDelay.getD usualDelay
    if accepts seconds then .ok (some (Duration.ofSeconds seconds)) else .error (.onceDelay seconds)

/-- The period; zero is none. -/
def periodOf (c : InjectConfig) : Except ConfigFault (Option Nat) :=
  match c.period with
  | none => .ok none
  | some seconds =>
    if !accepts seconds then .error (.repeatInterval seconds)
    else if seconds.numEq Double.zero then .ok none
    else .ok (some (Duration.ofSeconds seconds))

/-- The crontab; an empty text is none. -/
def crontabOf (c : InjectConfig) : Except ConfigFault (Option (String × Crontab)) :=
  let text := Text.trim (c.crontab.getD "")
  if text = "" then .ok none
  else
    match Crontab.parse text with
    | .ok crontab => .ok (some (text, crontab))
    | .error (.wordCount n) => .error (.crontabFields text n)
    | .error .malformed => .error (.badCrontab text "Invalid cron expression.")

/-- The timing of a configuration. -/
def ofConfig (c : InjectConfig) : Except ConfigFault Timing :=
  match delayOf c with
  | .error e => .error e
  | .ok delay =>
    match periodOf c with
    | .error e => .error e
    | .ok period => (crontabOf c).map fun crontab => { delay, period, crontab }

/-- The seconds of a duration as notices show them. -/
def shown (length : Nat) : String :=
  (Duration.seconds length).plainText ++ "s"

/-- What a node says about its timing when it starts. -/
def notices (t : Timing) : List Notice :=
  (t.delay.map fun d => Notice.info ("once after " ++ shown d)).toList ++
    (t.period.map fun p => Notice.info ("every " ++ shown p)).toList ++
    (t.crontab.map fun c => Notice.info ("crontab " ++ c.1)).toList

/-- The timers of a node: one for delay and period, and one for the crontab. -/
def timers (t : Timing) : List Timer :=
  let first := match t.delay, t.period with
    | some delay, period => [Timer.once delay period]
    | none, some period => [Timer.every period]
    | none, none => []
  first ++ (t.crontab.map fun c => Timer.crontab c.2).toList

end Timing

/-! ## The node -/

namespace Node

/-- What an inject node does: it fills its properties into the message and sends it on. -/
def injectReaction (fillings : List Filling) (s : Setting) (msg : Message) : Reaction :=
  let filled := Filling.fill s msg fillings
  .quiet s (filled.1 ++ [.send 0 filled.2])

/-- An inject node. -/
def inject (fillings : List Filling) (timing : Timing) : Node :=
  { type := "inject", receive := injectReaction fillings, notices := timing.notices,
    timers := timing.timers, startFault := none, closeFault := none }

/-- The inject node of a node record. -/
def injectOf (now : Double) (n : NodeDefinition) : Except NodeFault Node :=
  match Record.ofMembers InjectConfig.fields InjectConfig.blank n.config with
  | .error e => .error (.configuration (.record e))
  | .ok config =>
    match Filling.ofConfig now config with
    | .error e => .error e
    | .ok fillings =>
      match Timing.ofConfig config with
      | .error e => .error (.configuration e)
      | .ok timing => .ok (inject fillings timing)

end Node

end Wireflow
