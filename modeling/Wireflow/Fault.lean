/-
What goes wrong in a node, while it is configured or while it handles a message, and the words for
it.
-/
import Wireflow.Context.Scope
import Wireflow.Disk
import Wireflow.Json.Reader
import Wireflow.Path.Basic
import Wireflow.Record

namespace Wireflow

/-- Why a store did not do what it was asked to. -/
inductive StoreFault
  | unbound (source : String)
  | unwritable (keys : List Key) (scope : Scope)
  | disk (error : DiskError)
  | notAnObject (file : String)

/-- The words for it. -/
def StoreFault.message : StoreFault → String
  | .unbound source => "key '" ++ source ++ "' did not resolve against the message"
  | .unwritable keys scope =>
    "cannot write " ++ ".".intercalate (keys.map Key.text) ++ " in " ++ scope.text
  | .disk e => e.message
  | .notAnObject file => file ++ " does not hold a JSON object"

/-- Why a configuration is refused. -/
inductive ConfigFault
  | record (error : RecordError)
  | unknownType (name : String)
  | badNumber (shown : String)
  | badJson
  | badBuffer
  | noBuffer (shown : String)
  | noByte (shown : String)
  | noLiteral (type : String)
  | unwritable (type : String)
  | changeAction (name : String)
  | changeRule (name : String)
  | noDestination
  | valueKind (name : String)
  | noOperator (shown : String)
  | unsupportedOperator (name : String)
  | unknownOperator (name : String)
  | badPattern (pattern reason : String)
  | onceDelay (seconds : Double)
  | repeatInterval (seconds : Double)
  | crontabFields (crontab : String) (count : Nat)
  | badCrontab (crontab reason : String)

/-- The words for it. -/
def ConfigFault.message : ConfigFault → String
  | .record e => e.message
  | .unknownType name => "unsupported property type '" ++ name ++ "'"
  | .badNumber shown => "invalid number literal " ++ shown
  | .badJson => "invalid JSON literal: " ++ Json.syntaxFault
  | .badBuffer => "invalid buffer literal: " ++ Json.syntaxFault
  | .noBuffer shown => "invalid buffer literal " ++ shown
  | .noByte shown => "buffer element " ++ shown ++ " is not a byte"
  | .noLiteral type => "'" ++ type ++ "' is not a literal type"
  | .unwritable type => "cannot write to a '" ++ type ++ "' property"
  | .changeAction name => "change action '" ++ name ++ "' is not supported"
  | .changeRule name => "change rule '" ++ name ++ "' is not supported"
  | .noDestination => "move rule needs a destination"
  | .valueKind name => "istype: unknown type '" ++ name ++ "'"
  | .noOperator shown => "invalid rule operator " ++ shown
  | .unsupportedOperator name => "switch operator '" ++ name ++ "' is not supported"
  | .unknownOperator name => "unknown switch operator '" ++ name ++ "'"
  | .badPattern pattern reason => "invalid regex '" ++ pattern ++ "': " ++ reason
  | .onceDelay seconds => "invalid onceDelay " ++ seconds.plainText
  | .repeatInterval seconds => "invalid repeat interval " ++ seconds.plainText
  | .crontabFields crontab count =>
    "crontab '" ++ crontab ++ "' has " ++ Text.decimal count ++ " fields"
  | .badCrontab crontab reason => "invalid crontab '" ++ crontab ++ "': " ++ reason

/-- What went wrong in a node. -/
inductive NodeFault
  | configuration (fault : ConfigFault)
  | path (error : PathError)
  | store (name : String) (fault : StoreFault)
  | unsettable (source : String)
  | failed (reason : String)
  | cancelled

/-- The words for it. -/
def NodeFault.message : NodeFault → String
  | .configuration fault => "Configuration error: " ++ fault.message
  | .path e => "Invalid property expression: " ++ e.message
  | .store name fault => "Context store '" ++ name ++ "' failed: " ++ fault.message
  | .unsettable source => "Execution failed: cannot set msg." ++ source
  | .failed reason => "Execution failed: " ++ reason
  | .cancelled => "Cancelled"

/-- What is wrong with a record of a flow document. -/
inductive DocumentFault
  | notAnArray
  | noId (record : Json)
  | noType (id : Identifier)
  | subflow (id : Identifier)
  | noOwner (type : String) (id : Identifier)
  | record (type : String) (id : Identifier) (error : RecordError)
  | flowEnv (id : Identifier) (fault : NodeFault)
  | groupEnv (id : Identifier) (fault : NodeFault)
  | nestedGroup (id : Identifier)

/-- The words for it. -/
def DocumentFault.message : DocumentFault → String
  | .notAnArray => "flow document must be a JSON array"
  | .noId j => "record without string id: " ++ j.compact
  | .noType id => "record " ++ id.text ++ " has no type"
  | .subflow id => "subflow " ++ id.text ++ ": subflows are not supported"
  | .noOwner type id => type ++ " " ++ id.text ++ ": node records need an owning flow (z)"
  | .record type id e => type ++ " " ++ id.text ++ ": " ++ e.message
  | .flowEnv id fault => "flow " ++ id.text ++ " env: " ++ fault.message
  | .groupEnv id fault => "group " ++ id.text ++ " env: " ++ fault.message
  | .nestedGroup id => "group " ++ id.text ++ " is nested in itself"

/-- Why no graph can be built. -/
inductive GraphFault
  | invalidRecord (fault : DocumentFault)
  | invalidId (text : String)
  | duplicateId (id : Identifier)
  | unknownFlow (node flow : Identifier)
  | unknownGroup (node group : Identifier)
  | unknownType (node : Identifier) (type : String)
  | danglingWire (source target : Identifier)
  | invalidConfig (node : Identifier) (type : String) (fault : NodeFault)

/-- The words for it, those of what lies behind it included. -/
def GraphFault.message : GraphFault → String
  | .invalidRecord fault => "Invalid flow record: " ++ fault.message
  | .invalidId text => "Invalid element id: " ++ text
  | .duplicateId id => "Duplicate element id: " ++ id.text
  | .unknownFlow node flow => "Node " ++ node.text ++ " belongs to unknown flow " ++ flow.text
  | .unknownGroup node group => "Node " ++ node.text ++ " belongs to unknown group " ++ group.text
  | .unknownType node type => "Node " ++ node.text ++ " has unknown type '" ++ type ++ "'"
  | .danglingWire source target =>
    "Node " ++ source.text ++ " is wired to missing node " ++ target.text
  | .invalidConfig node type fault =>
    "Node " ++ node.text ++ " (" ++ type ++ ") rejected its configuration: " ++ fault.message

end Wireflow
