/-
The commands: running a document, checking one, listing the node types, and writing an example.
-/
import Wireflow.CommandLine.Arguments
import Wireflow.CommandLine.Report
import Wireflow.Engine.Build
import Wireflow.Engine.Run

namespace Wireflow

namespace Execution

/-! ## Reading files -/

/-- The text of a file. -/
def readText (disk : Disk) (path : String) : Except Failure String :=
  let failure (reason : String) : Failure := ⟨["cannot read " ++ path, reason]⟩
  match disk.read (Disk.pathOf path) with
  | .error e => .error (failure e.message)
  | .ok content =>
    match String.fromUTF8? content with
    | some text => .ok text
    | none => .error (failure "stream did not contain valid UTF-8")

/-- The JSON tree of a file. -/
def readJson (disk : Disk) (path : String) : Except Failure Json :=
  match readText disk path with
  | .error e => .error e
  | .ok text =>
    match Json.parse? text with
    | some j => .ok j
    | none => .error ⟨[path ++ " is not valid JSON", Json.syntaxFault]⟩

/-- What a file holds, read by `read`; without a file it is `blank`. `what` names it in failures. -/
def readRecord (disk : Disk) (what : String) (read : Json → Record.Read α) (blank : α) :
    Option String → Except Failure α
  | none => .ok blank
  | some path =>
    match readJson disk path with
    | .error e => .error e
    | .ok j =>
      match read j with
      | .ok a => .ok a
      | .error e => .error ⟨["invalid " ++ what, e.message]⟩

/-! ## Running -/

/-- A message from outside for a node. -/
structure Injection where
  target : Identifier
  msg : Json

namespace Injection

open Record

/-- The fields of an injection. -/
def fields : List (Member Injection) :=
  [field "nid" .required identifier fun i a => { i with target := a },
   field "msg" .required (fun j => .ok j) fun i a => { i with msg := a }]

/-- The injection of a JSON tree. -/
def ofJson (j : Json) : Read Injection :=
  struct "Injection" fields { target := ⟨0⟩, msg := .null } j

/-- Injects messages in order, up to the first that is refused. -/
def applyAll (e : Engine) : List Injection → Except Failure Engine
  | [] => .ok e
  | i :: rest =>
    let (fresh, ids) := e.ids.take
    match Message.ofJson? fresh i.msg with
    | none => .error ⟨["injected msg must be a JSON object"]⟩
    | some msg =>
      match { e with ids }.inject i.target msg with
      | (.error fault, _) => .error ⟨fault.causes⟩
      | (.ok _, e) => applyAll e rest

end Injection

/-- The nanoseconds of a timeout, when it is one: neither negative nor too great. -/
def timeoutOf (seconds : Double) : Except Failure Nat :=
  let failure (reason : String) : Failure :=
    ⟨["timeout must be a non-negative number",
      "cannot convert float seconds to Duration: value is " ++ reason]⟩
  if seconds.numLt Double.zero then .error (failure "negative")
  else if seconds.numLt (Double.ofNat Text.wordSize) then .ok (Duration.ofSeconds seconds)
  else .error (failure "either too big or NaN")

/-- The longest time, in nanoseconds, that lies within reach of the clock. -/
def farthest : Nat := 9223372036854775808 * secondLength

/-- The lines after a run. -/
def summary (e : Engine) (outputs : List Message) : List String :=
  ["", "📊 Execution Summary:", "   Execution ID: " ++ e.execution,
    "   Output messages: " ++ Text.decimal outputs.length] ++
    outputs.map fun m => m.toJson.compact

/-- What a run has read before its engine is built. -/
structure RunPlan where
  settings : EngineSettings
  injections : List Injection
  timeout : Nat
  records : Json

/-- Reads all that a run needs, in this order: settings, injections, timeout and document. -/
def planRun (disk : Disk) (o : RunOptions) : Except Failure RunPlan :=
  match readRecord disk "settings" EngineSettings.ofJson EngineSettings.plain o.settings with
  | .error e => .error e
  | .ok settings =>
    match readRecord disk "injections" (Record.listOf Injection.ofJson) [] o.injections with
    | .error e => .error e
    | .ok injections =>
      match timeoutOf o.timeout with
      | .error e => .error e
      | .ok timeout =>
        (readJson disk o.file).map fun records => { settings, injections, timeout, records }

/-- Runs an engine up to a number of outputs or a time, and stops it. -/
def runEngine (fuel : Nat) (o : RunOptions) (plan : RunPlan) (e : Engine) :
    Except Ending (List Message × Engine) :=
  match e.takeOutputs.2.start with
  | (.error fault, _) => .error (.failed ⟨fault.causes⟩)
  | (.ok _, e) =>
    match Injection.applyAll e plan.injections with
    | .error failure => .error (.failed failure)
    | .ok e =>
      if farthest ≤ plan.timeout then
        .error (.crashed "the timeout is beyond the reach of the clock")
      else
        let (outputs, e) := e.collect o.count (e.clock.elapsed + plan.timeout) fuel
        .ok (outputs, e.stop)

/-- Runs a document. `fuel` bounds the number of steps of the engine. -/
def run (fuel : Nat) (w : Surroundings) (o : RunOptions) : Report :=
  let greeting := ["🚀 Loading flows from: " ++ o.file]
  match planRun w.disk o with
  | .error e => { output := greeting, ending := .failed e, disk := w.disk, elapsed := 0 }
  | .ok plan =>
    match Engine.ofJson w plan.settings plan.records with
    | (.error fault, disk) =>
      { output := greeting, ending := .failed ⟨fault.causes⟩, disk, elapsed := 0 }
    | (.ok e, disk) =>
      let output := greeting ++ ["📋 Nodes: " ++ Text.decimal e.nodeIds.length, ""]
      match runEngine fuel o plan e with
      | .error ending => { output, ending, disk, elapsed := 0 }
      | .ok (outputs, e) =>
        let events := if o.verbose then e.events.map Event.line else []
        { output := output ++ events ++ summary e outputs, ending := .done,
          disk := e.contexts.disk, elapsed := e.clock.elapsed }

/-! ## Other commands -/

/-- A document with its graph, checked as far as building an engine goes, and the disk after that.
-/
def check (w : Surroundings) (file : String) : Except Failure (Document × Graph) × Disk :=
  match readJson w.disk file with
  | .error e => (.error e, w.disk)
  | .ok records =>
    match Document.parse records with
    | .error e => (.error ⟨e.causes⟩, w.disk)
    | .ok d =>
      match Graph.build w.clock.milliseconds d with
      | .error e => (.error ⟨e.causes⟩, w.disk)
      | .ok g =>
        match Engine.build w EngineSettings.plain d with
        | (.error e, disk) => (.error ⟨e.causes⟩, disk)
        | (.ok _, disk) => (.ok (d, g), disk)

/-- Checks a document. -/
def validate (w : Surroundings) (file : String) : Report :=
  let greeting := ["🔍 Validating flows: " ++ file]
  match check w file with
  | (.error e, disk) => { output := greeting, ending := .failed e, disk, elapsed := 0 }
  | (.ok (d, g), disk) =>
    let circle := if g.cyclic then ["   ⚠️  Wiring contains a cycle"] else []
    { output := greeting ++
        ["✅ Flows are valid:", "   Flows: " ++ Text.decimal d.flows.length,
          "   Groups: " ++ Text.decimal d.groups.length,
          "   Enabled nodes: " ++ Text.decimal g.nodes.length] ++ circle
      ending := .done, disk, elapsed := 0 }

/-- Lists the node types. -/
def listNodes (w : Surroundings) : Report :=
  let entries := w.registry.types.flatMap fun t =>
    ["  • " ++ t.1 ++ " (" ++ t.2.metadata.category ++ ")",
      "    " ++ t.2.metadata.description]
  { output := ["📦 Available Node Types:", ""] ++ entries, ending := .done, disk := w.disk,
    elapsed := 0 }

/-- An object of some members. -/
def record (members : List (String × Json)) : Json := .object (Table.ofList members)

/-- Members with texts. -/
def texts (members : List (String × String)) : List (String × Json) :=
  members.map fun m => (m.1, .string m.2)

/-- The wires to a list of targets for each port. -/
def wires (ports : List (List String)) : String × Json :=
  ("wires", .array (ports.map fun targets => .array (targets.map .string)))

/-- A document that counts seconds. -/
def exampleDocument : Json :=
  .array
    [record (texts [("id", "100"), ("type", "tab"), ("label", "Example")]),
     record
      (texts [("id", "1"), ("type", "inject"), ("z", "100"), ("name", "Every second"),
        ("payload", ""), ("payloadType", "date"), ("topic", "tick"), ("repeat", "1")] ++
      [("props", .array [record (texts [("p", "payload")]),
          record (texts [("p", "topic"), ("vt", "str")])]),
       ("once", .bool true), wires [["2"]]]),
     record
      (texts [("id", "2"), ("type", "switch"), ("z", "100"), ("name", "Even seconds"),
        ("property", "payload"), ("propertyType", "msg"), ("checkall", "false")] ++
      [("rules", .array
        [record (texts [("t", "regex"), ("v", "[02468]\\d\x7b3\x7d$")]),
          record (texts [("t", "else")])]),
       wires [["3"], []]]),
     record
      (texts [("id", "3"), ("type", "change"), ("z", "100"), ("name", "Count")] ++
      [("rules", .array
        [record (texts [("t", "set"), ("p", "last"), ("pt", "flow"), ("to", "payload"),
          ("tot", "msg")])]),
       wires [["4"]]]),
     record (texts [("id", "4"), ("type", "debug"), ("z", "100"), ("name", "Show"),
       ("complete", "true")])]

/-- Writes the example. -/
def writeExample (w : Surroundings) (path : String) : Report :=
  match w.disk.write (Disk.pathOf path) exampleDocument.indented.toUTF8 with
  | .error e => { output := [], ending := .failed ⟨[e.message]⟩, disk := w.disk, elapsed := 0 }
  | .ok disk =>
    { output := ["✨ Created example flow: " ++ path, "", "Run it with:",
        "  flow run --file " ++ path ++ " --count 3"]
      ending := .done, disk, elapsed := 0 }

/-! ## What a command touches -/

/-- A path with those of all directories on its way, the outermost first. -/
def waysTo (path : String) : List String :=
  let names := path.splitOn "/"
  ((List.range names.length).map fun n => "/".intercalate (names.take (n + 1))).filter (· ≠ "")

/-- The files that a command names. -/
def filesOf : Command → List String
  | .run o => o.file :: (o.injections.toList ++ o.settings.toList)
  | .validate file => [file]
  | .nodes => []
  | .init path => [path]

/-- The directories of the stores that a command opens, when its settings can be read. -/
def storesOf (disk : Disk) : Command → List String
  | .run o =>
    match readRecord disk "settings" EngineSettings.ofJson EngineSettings.plain o.settings with
    | .error _ => []
    | .ok settings =>
      settings.contexts.stores.filterMap fun e =>
        match e.2 with
        | .memory => none
        | .onDisk base => some (Disk.join base e.1)
  | _ => []

end Execution

/-- Carries out a command. `fuel` bounds the number of steps of an engine. -/
def Command.execute (fuel : Nat) (w : Surroundings) : Command → Report
  | .run o => Execution.run fuel w o
  | .validate file => Execution.validate w file
  | .nodes => Execution.listNodes w
  | .init path => Execution.writeExample w path

end Wireflow
