/-
Reading JSON text. The reader is strict: no comments, no trailing commas, no lone surrogate escapes,
no control characters in strings, and at most 127 containers inside one another. Of members with one
name the last counts.
-/
import Wireflow.Json.Numeral

namespace Wireflow.Json

/-- White space between the tokens of JSON. -/
def isSpace (c : Char) : Bool :=
  c = ' ' || c = '\n' || c = '\t' || c = '\r'

/-- The text after its leading white space. -/
def skipSpace (cs : List Char) : List Char :=
  cs.dropWhile isSpace

/-- The value of four hexadecimal digits. -/
def hexUnit? (a b c d : Char) : Option Nat :=
  Text.numeral? 16 [a, b, c, d]

/-- A unit that opens a surrogate pair. -/
def isHighSurrogate (n : Nat) : Bool := 0xD800 ≤ n && n < 0xDC00

/-- A unit that ends a surrogate pair. -/
def isLowSurrogate (n : Nat) : Bool := 0xDC00 ≤ n && n < 0xE000

/-- The character of a surrogate pair. -/
def pairChar (high low : Nat) : Char :=
  Char.ofNat (0x10000 + (high - 0xD800) * 0x400 + (low - 0xDC00))

/-- The character that a backslash and a letter stand for. -/
def simpleEscape? : Char → Option Char
  | '"' => some '"'
  | '\\' => some '\\'
  | '/' => some '/'
  | 'b' => some '\x08'
  | 'f' => some '\x0C'
  | 'n' => some '\n'
  | 'r' => some '\r'
  | 't' => some '\t'
  | _ => none

/-- The characters of a string up to its closing quote, and what follows the quote. -/
def stringBody? : List Char → Option (List Char × List Char)
  | [] => none
  | '"' :: rest => some ([], rest)
  | '\\' :: 'u' :: a :: b :: c :: d :: rest =>
    match hexUnit? a b c d with
    | none => none
    | some unit =>
      if isLowSurrogate unit then none
      else if isHighSurrogate unit then
        match rest with
        | '\\' :: 'u' :: e :: f :: g :: h :: rest' =>
          match hexUnit? e f g h with
          | none => none
          | some low =>
            if isLowSurrogate low then
              (stringBody? rest').map fun r => (pairChar unit low :: r.1, r.2)
            else none
        | _ => none
      else (stringBody? rest).map fun r => (Char.ofNat unit :: r.1, r.2)
  | '\\' :: c :: rest =>
    match simpleEscape? c with
    | some e => (stringBody? rest).map fun r => (e :: r.1, r.2)
    | none => none
  | c :: rest =>
    if c.toNat < 0x20 || c = '\\' then none
    else (stringBody? rest).map fun r => (c :: r.1, r.2)

/-- How many containers may stand inside one another. -/
def depthLimit : Nat := 127

mutual

/-- A value at the start of a text, after white space, and what follows it. `depth` containers may
still be entered; `fuel` bounds the recursion. -/
def value? : Nat → Nat → List Char → Option (Json × List Char)
  | 0, _, _ => none
  | fuel + 1, depth, cs =>
    match skipSpace cs with
    | 'n' :: 'u' :: 'l' :: 'l' :: rest => some (.null, rest)
    | 't' :: 'r' :: 'u' :: 'e' :: rest => some (.bool true, rest)
    | 'f' :: 'a' :: 'l' :: 's' :: 'e' :: rest => some (.bool false, rest)
    | '"' :: rest => (stringBody? rest).map fun r => (.string (String.ofList r.1), r.2)
    | '[' :: rest =>
      match depth with
      | 0 => none
      | depth + 1 =>
        match skipSpace rest with
        | ']' :: rest' => some (.array [], rest')
        | rest' => (items? fuel depth rest').map fun r => (.array r.1, r.2)
    | '{' :: rest =>
      match depth with
      | 0 => none
      | depth + 1 =>
        match skipSpace rest with
        | '}' :: rest' => some (.object [], rest')
        | rest' => (members? fuel depth rest').map fun r => (.object (Table.ofList r.1), r.2)
    | cs' => (Number.read? cs').map fun r => (.number r.1, r.2)

/-- The items of an array up to its closing bracket. -/
def items? : Nat → Nat → List Char → Option (List Json × List Char)
  | 0, _, _ => none
  | fuel + 1, depth, cs =>
    match value? fuel depth cs with
    | none => none
    | some (item, rest) =>
      match skipSpace rest with
      | ',' :: rest' => (items? fuel depth rest').map fun r => (item :: r.1, r.2)
      | ']' :: rest' => some ([item], rest')
      | _ => none

/-- The members of an object up to its closing brace, as they are written. -/
def members? : Nat → Nat → List Char → Option (List (String × Json) × List Char)
  | 0, _, _ => none
  | fuel + 1, depth, cs =>
    match skipSpace cs with
    | '"' :: rest =>
      match stringBody? rest with
      | none => none
      | some (name, rest) =>
        match skipSpace rest with
        | ':' :: rest =>
          match value? fuel depth rest with
          | none => none
          | some (item, rest) =>
            match skipSpace rest with
            | ',' :: rest' =>
              (members? fuel depth rest').map fun r => ((String.ofList name, item) :: r.1, r.2)
            | '}' :: rest' => some ([(String.ofList name, item)], rest')
            | _ => none
        | _ => none
    | _ => none

end

/-- The words for a text that is no JSON. -/
def syntaxFault : String := "not a JSON text"

/-- The tree of a JSON text, none when it is not JSON. -/
def parse? (s : String) : Option Json :=
  let cs := s.toList
  match value? (2 * cs.length + 2) depthLimit cs with
  | some (j, rest) => if (skipSpace rest).isEmpty then some j else none
  | none => none

end Wireflow.Json
