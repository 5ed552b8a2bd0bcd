/-
Scopes of context data: one for every flow and a global one, with the name of the file that holds a
scope's entries.
-/
import Wireflow.Identifier
import Wireflow.Text.Search

namespace Wireflow

/-- Whose entries they are. -/
inductive Scope
  | flow (id : Identifier)
  | global
deriving DecidableEq

namespace Scope

/-- The text of a scope in messages. -/
def text : Scope → String
  | .flow id => "flow:" ++ id.text
  | .global => "global"

/-- The name of the file of a scope. -/
def fileName : Scope → String
  | .global => "global.json"
  | .flow id => "flow-" ++ id.text ++ ".json"

/-- What stands before an ending, when the text has it. -/
def beforeEnd? (ending cs : List Char) : Option (List Char) :=
  (Text.dropStart? ending.reverse cs.reverse).map List.reverse

/-- The scope whose file may have this name. -/
def ofFileName? (name : String) : Option Scope :=
  match beforeEnd? ".json".toList name.toList with
  | none => none
  | some stem =>
    if stem = "global".toList then some .global
    else
      match Text.dropStart? "flow-".toList stem with
      | some id => (Identifier.ofText? (String.ofList id)).map .flow
      | none => none

end Scope

end Wireflow
