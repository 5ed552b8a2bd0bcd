/-
The arguments of the command line: a command, its options in their short and long forms, and its
operands.
-/
import Wireflow.Double.Decimal

namespace Wireflow

/-- How a document is run: up to which number of outputs, for how many seconds at most, and with
which messages from outside and which settings. -/
structure RunOptions where
  file : String
  injections : Option String
  settings : Option String
  count : Option Nat
  timeout : Double
  verbose : Bool

/-- A command. -/
inductive Command
  | run (options : RunOptions)
  | validate (file : String)
  | nodes
  | init (output : String)

/-- Why arguments are no command. Asking for help is no mistake. -/
inductive UsageFault
  | help
  | noCommand
  | unknownCommand (name : String)
  | unknownOption (word : String)
  | noValue (option : String)
  | needlessValue (option : String)
  | badValue (option value : String)
  | repeated (option : String)
  | needlessOperand (word : String)
  | missing (name : String)

/-- The words for it. -/
def UsageFault.message : UsageFault → String
  | .help => "usage: flow <run|validate|nodes|init> [options]"
  | .noCommand => "a command is needed: run, validate, nodes or init"
  | .unknownCommand name => "unrecognized command '" ++ name ++ "'"
  | .unknownOption word => "unexpected argument '" ++ word ++ "'"
  | .noValue option => "a value is needed for '--" ++ option ++ "'"
  | .needlessValue option => "no value is taken by '--" ++ option ++ "'"
  | .badValue option value => "invalid value '" ++ value ++ "' for '" ++ option ++ "'"
  | .repeated option => "the argument '--" ++ option ++ "' cannot be used multiple times"
  | .needlessOperand word => "unexpected argument '" ++ word ++ "'"
  | .missing name => "the argument '" ++ name ++ "' is needed"

/-! ## Values -/

namespace Argument

/-- A path is any text but the empty one. -/
def isPath (s : String) : Bool := s ≠ ""

/-- A count: a numeral of 64 bits. -/
def count? (s : String) : Option Nat :=
  Text.word? 10 s.toList

/-- A number: a decimal literal, or a word for an infinity or for what is no number, in any case and
with an optional sign. -/
def number? (s : String) : Option Double :=
  let (negative, letters) := Double.spanSign s.toList
  let word := String.ofList (letters.map Char.toLower)
  if word = "inf" ∨ word = "infinity" then some (.infinite negative)
  else if word = "nan" then some .nan
  else Double.ofDecimalLiteral? s.toList

end Argument

/-! ## Options -/

/-- An option of a command: its forms, and the values that it takes if it takes any. -/
structure OptionSpec where
  short : Char
  long : String
  accepts : Option (String → Bool)

namespace OptionSpec

/-- An option whose value is a path. -/
def path (short : Char) (long : String) : OptionSpec :=
  { short, long, accepts := some Argument.isPath }

end OptionSpec

/-- What has been read: the values of options by their long form, the operands, the option whose
value comes next, and whether only operands can follow. -/
structure ReadArguments where
  options : List (String × String)
  operands : List String
  pending : Option OptionSpec
  operandsOnly : Bool

namespace ReadArguments

/-- Nothing. -/
def blank : ReadArguments :=
  { options := [], operands := [], pending := none, operandsOnly := false }

/-- The value of an option. -/
def value? (r : ReadArguments) (long : String) : Option String :=
  r.options.lookup long

/-- Adds an option with its value. -/
def add (r : ReadArguments) (o : OptionSpec) (value : String) : Except UsageFault ReadArguments :=
  if (r.value? o.long).isSome then .error (.repeated o.long)
  else
    match o.accepts with
    | none => .ok { r with options := (o.long, "") :: r.options }
    | some accepts =>
      if accepts value then .ok { r with options := (o.long, value) :: r.options, pending := none }
      else .error (.badValue o.long value)

/-- Reads an option in its long form. -/
def readLong (specs : List OptionSpec) (r : ReadArguments) (word : List Char) :
    Except UsageFault ReadArguments :=
  let name := String.ofList (word.takeWhile (· != '='))
  match specs.find? fun o => o.long == name with
  | none => .error (if name = "help" then .help else .unknownOption ("--" ++ name))
  | some o =>
    match o.accepts, word.dropWhile (· != '=') with
    | none, [] => r.add o ""
    | none, _ => .error (.needlessValue name)
    | some _, [] => .ok { r with pending := some o }
    | some _, _ :: value => r.add o (String.ofList value)

/-- Reads options in their short form, one after the other. What follows one that takes a value is
its value. -/
def readShort (specs : List OptionSpec) (r : ReadArguments) :
    List Char → Except UsageFault ReadArguments
  | [] => .ok r
  | c :: rest =>
    match specs.find? fun o => o.short == c with
    | none => .error (if c = 'h' then .help else .unknownOption (String.ofList ['-', c]))
    | some o =>
      match o.accepts, rest with
      | none, rest =>
        match r.add o "" with
        | .error e => .error e
        | .ok r => readShort specs r rest
      | some _, [] => .ok { r with pending := some o }
      | some _, '=' :: value => r.add o (String.ofList value)
      | some _, value => r.add o (String.ofList value)

/-- Reads one argument. -/
def readOne (specs : List OptionSpec) (r : ReadArguments) (word : String) :
    Except UsageFault ReadArguments :=
  if r.operandsOnly then .ok { r with operands := r.operands ++ [word] }
  else
    match r.pending, word.toList with
    | some o, '-' :: _ :: _ => .error (.noValue o.long)
    | some o, _ => r.add o word
    | none, ['-', '-'] => .ok { r with operandsOnly := true }
    | none, '-' :: '-' :: long => readLong specs r long
    | none, '-' :: c :: short => readShort specs r (c :: short)
    | none, _ => .ok { r with operands := r.operands ++ [word] }

/-- Reads all arguments of a command that takes at most `limit` operands. -/
def readAll (specs : List OptionSpec) (limit : Nat) (r : ReadArguments) :
    List String → Except UsageFault ReadArguments
  | [] =>
    match r.pending with
    | some o => .error (.noValue o.long)
    | none => .ok r
  | word :: rest =>
    match r.readOne specs word with
    | .error e => .error e
    | .ok r =>
      if limit < r.operands.length then .error (.needlessOperand word)
      else readAll specs limit r rest

end ReadArguments

/-! ## Commands -/

namespace Command

/-- The options of `run`. -/
def runSpecs : List OptionSpec :=
  [.path 'f' "file", .path 'i' "injections", .path 's' "settings",
   { short := 'c', long := "count", accepts := some fun s => (Argument.count? s).isSome },
   { short := 't', long := "timeout", accepts := some fun s => (Argument.number? s).isSome },
   { short := 'v', long := "verbose", accepts := none }]

/-- The command `run`, which needs a file. Without a timeout it waits for five seconds. -/
def ofRun (r : ReadArguments) : Except UsageFault Command :=
  match r.value? "file" with
  | none => .error (.missing "--file")
  | some file =>
    .ok (.run
      { file, injections := r.value? "injections", settings := r.value? "settings",
        count := (r.value? "count").bind Argument.count?
        timeout := ((r.value? "timeout").bind Argument.number?).getD (Double.ofNat 5)
        verbose := (r.value? "verbose").isSome })

/-- The command `validate`, which needs a file. -/
def ofValidate (r : ReadArguments) : Except UsageFault Command :=
  match r.operands with
  | [file] => if Argument.isPath file then .ok (.validate file) else .error (.badValue "file" file)
  | _ => .error (.missing "file")

/-- The command of some arguments. -/
def parse : List String → Except UsageFault Command
  | [] => .error .noCommand
  | name :: rest =>
    let read (specs : List OptionSpec) (limit : Nat) := ReadArguments.blank.readAll specs limit rest
    match name with
    | "run" => (read runSpecs 0).bind ofRun
    | "validate" => (read [] 1).bind ofValidate
    | "nodes" => (read [] 0).map fun _ => .nodes
    | "init" =>
      (read [.path 'o' "output"] 0).map fun r => .init ((r.value? "output").getD "flows.json")
    | "help" | "-h" | "--help" => .error .help
    | _ => .error (.unknownCommand name)

end Command

end Wireflow
