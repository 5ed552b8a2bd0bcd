/-
Writing JSON text: on one line without spaces, or with one item a line and two blanks a level. All
characters but quotes, backslashes and control characters stand for themselves.
-/
import Wireflow.Json.Numeral

namespace Wireflow.Json

/-- The text of a character inside a string. -/
def escapeChar (c : Char) : List Char :=
  match c with
  | '"' => ['\\', '"']
  | '\\' => ['\\', '\\']
  | '\x08' => ['\\', 'b']
  | '\x0C' => ['\\', 'f']
  | '\n' => ['\\', 'n']
  | '\r' => ['\\', 'r']
  | '\t' => ['\\', 't']
  | _ =>
    if c.toNat < 0x20 then
      '\\' :: 'u' :: Text.padZeros 4 (Nat.toDigits 16 c.toNat)
    else [c]

/-- A string in quotes. -/
def quoted (s : String) : List Char :=
  '"' :: (s.toList.flatMap escapeChar ++ ['"'])

/-- Texts with a separator between them. -/
def joined (separator : List Char) : List (List Char) → List Char
  | [] => []
  | [t] => t
  | t :: rest => t ++ separator ++ joined separator rest

mutual

/-- The text of a tree without white space. -/
def compactChars : Json → List Char
  | .null => "null".toList
  | .bool b => if b then "true".toList else "false".toList
  | .number n => n.chars
  | .string s => quoted s
  | .array items => '[' :: (joined [','] (compactItems items) ++ [']'])
  | .object members => '{' :: (joined [','] (compactMembers members) ++ ['}'])

/-- The texts of the items. -/
def compactItems : List Json → List (List Char)
  | [] => []
  | j :: rest => compactChars j :: compactItems rest

/-- The texts of the members. -/
def compactMembers : List (String × Json) → List (List Char)
  | [] => []
  | (name, j) :: rest => (quoted name ++ ':' :: compactChars j) :: compactMembers rest

end

/-- The text of a tree without white space. -/
def compact (j : Json) : String :=
  String.ofList j.compactChars

/-- A line break and the indentation of a level. -/
def lineBreak (level : Nat) : List Char :=
  '\n' :: List.replicate (2 * level) ' '

mutual

/-- The text of a tree with one item a line. -/
def indentedChars (level : Nat) : Json → List Char
  | .null => "null".toList
  | .bool b => if b then "true".toList else "false".toList
  | .number n => n.chars
  | .string s => quoted s
  | .array [] => ['[', ']']
  | .array (j :: rest) =>
    '[' :: (indentedItems (level + 1) (j :: rest) ++ lineBreak level ++ [']'])
  | .object [] => ['{', '}']
  | .object (m :: rest) =>
    '{' :: (indentedMembers (level + 1) (m :: rest) ++ lineBreak level ++ ['}'])

/-- The items, each on a line of its own. -/
def indentedItems (level : Nat) : List Json → List Char
  | [] => []
  | [j] => lineBreak level ++ indentedChars level j
  | j :: rest => lineBreak level ++ indentedChars level j ++ ',' :: indentedItems level rest

/-- The members, each on a line of its own. -/
def indentedMembers (level : Nat) : List (String × Json) → List Char
  | [] => []
  | [(name, j)] => lineBreak level ++ quoted name ++ ':' :: ' ' :: indentedChars level j
  | (name, j) :: rest =>
    lineBreak level ++ quoted name ++ ':' :: ' ' :: indentedChars level j ++
      ',' :: indentedMembers level rest

end

/-- The text of a tree with one item a line and two blanks a level. -/
def indented (j : Json) : String :=
  String.ofList (j.indentedChars 0)

end Wireflow.Json
