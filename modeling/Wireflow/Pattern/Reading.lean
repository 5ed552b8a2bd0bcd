/-
Reading the text of a pattern into an expression tree. Groups may have names and flags, classes may
hold one another and be cut with one another, and there is neither looking around nor referring
back.
-/
import Wireflow.Pattern.CharClass
import Wireflow.Text.Blank
import Wireflow.Text.Numeral
import Wireflow.Text.Search

namespace Wireflow

/-- Why a text is no pattern. -/
inductive PatternFault
  | unclosedGroup
  | unopenedGroup
  | lookAround
  | badGroupName
  | badFlags
  | nothingToRepeat
  | badCount
  | unclosedClass
  | badRange
  | badEscape
  | badClassItem
  | unknownProperty
  | notText
  | tooDeep
  | tooLarge
deriving DecidableEq

/-- The words for it. -/
def PatternFault.message : PatternFault → String
  | .unclosedGroup => "unclosed group"
  | .unopenedGroup => "unopened group"
  | .lookAround => "look-around is not supported"
  | .badGroupName => "invalid capture group name"
  | .badFlags => "invalid flags"
  | .nothingToRepeat => "repetition operator missing expression"
  | .badCount => "invalid repetition count"
  | .unclosedClass => "unclosed character class"
  | .badRange => "invalid character class range"
  | .badEscape => "invalid escape sequence"
  | .badClassItem => "invalid item in character class"
  | .unknownProperty => "Unicode property not found"
  | .notText => "pattern can match invalid UTF-8"
  | .tooDeep => "exceeded the maximum number of nested expressions"
  | .tooLarge => "compiled pattern exceeds the size limit"

namespace Pattern

/-- A flag of a group. -/
inductive Flag
  | ignoreCase
  | multiLine
  | dotAll
  | swapGreed
  | unicode
  | crlf
  | extended
deriving DecidableEq

/-- Flags that are set and flags that are cleared, in the order in which they are written. -/
abbrev FlagItems := List (Flag × Bool)

/-- A class of one letter after a backslash. -/
inductive LetterClass
  | digit
  | blank
  | word
deriving DecidableEq

/-- A condition on a place, as it is written. -/
inductive Mark
  | caret
  | dollar
  | textStart
  | textEnd
  | boundary
  | noBoundary
  | wordStart
  | wordEnd
  | wordStartHalf
  | wordEndHalf
deriving DecidableEq

/-- How two classes are cut with one another. -/
inductive ClassOp
  | inter
  | diff
  | symDiff
deriving DecidableEq

/-- A class of characters, as it is written. -/
inductive ClassTree
  | none
  | char (c : Char)
  | range (first last : Char)
  | letter (k : LetterClass) (negated : Bool)
  | ascii (s : CharSet) (negated : Bool)
  | property (s : CharSet) (negated : Bool)
  | bracket (inner : ClassTree) (negated : Bool)
  | union (a b : ClassTree)
  | op (k : ClassOp) (a b : ClassTree)

/-- How deep classes stand inside one another: in the items of a class, and in the class itself.
Several items are one level more than one item. -/
def ClassTree.depths : ClassTree → Nat × Nat
  | .bracket inner _ => (inner.depths.2 + 1, inner.depths.2 + 1)
  | .op _ a b => (max a.depths.2 b.depths.2 + 1, max a.depths.2 b.depths.2 + 1)
  | .union .none b => (b.depths.2, b.depths.2)
  | .union a b => (max a.depths.1 b.depths.2, max a.depths.1 b.depths.2 + 1)
  | _ => (0, 0)

/-- A pattern, as it is written. `byte` marks a character that is written as a byte, `lazy` a
repetition with a mark to take as little as it can, `captured` a group whose part of the text is
kept. -/
inductive Tree
  | empty
  | flags (items : FlagItems)
  | char (c : Char) (byte : Bool)
  | dot
  | mark (m : Mark)
  | class (s : ClassTree)
  | repeated (t : Tree) (lazy : Bool) (least : Nat) (greatest : Option Nat)
  | group (items : FlagItems) (captured : Bool) (t : Tree)
  | seq (ts : List Tree)
  | alt (ts : List Tree)

/-- A result of reading. -/
abbrev Read (α : Type) := Except PatternFault α

/-! ## Small pieces -/

/-- The text after blanks and comments, when those are to be passed over. -/
def skip (extended : Bool) (cs : List Char) : List Char :=
  if !extended then cs
  else go false cs
where
  /-- Passes over blanks, and over a comment up to the end of its line. -/
  go : Bool → List Char → List Char
    | _, [] => []
    | true, c :: rest => if c = '\n' then go false rest else go true rest
    | false, c :: rest =>
      if Text.isBlank c then go false rest
      else if c = '#' then go true rest
      else c :: rest

/-- Characters with a meaning of their own. -/
def isMeta (c : Char) : Bool :=
  ['\\', '.', '+', '*', '?', '(', ')', '|', '[', ']', '\x7b', '\x7d', '^', '$', '#', '&', '-',
    '~'].contains c

/-- Characters that stand for themselves after a backslash. -/
def isPlainEscape (c : Char) : Bool :=
  isMeta c || (c.toNat < 0x80 && !c.isAlphanum && c != '<' && c != '>')

/-- The character of a number. -/
def charOf? (n : Nat) : Option Char :=
  if n.isValidChar then some (Char.ofNat n) else none

/-- A fixed number of hexadecimal digits. -/
def hexFixed (extended : Bool) : Nat → List Char → List Char → Read (List Char × List Char)
  | 0, digits, cs => .ok (digits.reverse, cs)
  | n + 1, digits, cs =>
    match cs with
    | [] => .error .badEscape
    | c :: rest =>
      if Text.isDigitOf 16 c then hexFixed extended n (c :: digits) (skip extended rest)
      else .error .badEscape

/-- Hexadecimal digits up to a closing brace. -/
def hexBraced (extended : Bool) (fuel : Nat) (digits cs : List Char) :
    Read (List Char × List Char) :=
  match fuel, skip extended cs with
  | 0, _ => .error .badEscape
  | _, [] => .error .badEscape
  | fuel + 1, c :: rest =>
    if c = '\x7d' then .ok (digits.reverse, rest)
    else if Text.isDigitOf 16 c then hexBraced extended fuel (c :: digits) rest
    else .error .badEscape

/-- A character by its number; `width` digits, or any number of them in braces. -/
def hexChar (extended : Bool) (width : Nat) (cs : List Char) : Read (Char × Bool × List Char) :=
  match skip extended cs with
  | '\x7b' :: rest =>
    match hexBraced extended (rest.length + 1) [] rest with
    | .error e => .error e
    | .ok (digits, rest) =>
      match (Text.numeral? 16 digits).bind charOf? with
      | some c => .ok (c, false, rest)
      | none => .error .badEscape
  | cs =>
    match hexFixed extended width [] cs with
    | .error e => .error e
    | .ok (digits, rest) =>
      match (Text.numeral? 16 digits).bind charOf? with
      | some c => .ok (c, width = 2, rest)
      | none => .error .badEscape

/-- The name of a property up to a closing brace. -/
def bracedName (extended : Bool) (fuel : Nat) (name cs : List Char) :
    Read (List Char × List Char) :=
  match fuel, skip extended cs with
  | 0, _ => .error .badEscape
  | _, [] => .error .badEscape
  | fuel + 1, c :: rest =>
    if c = '\x7d' then .ok (name.reverse, rest) else bracedName extended fuel (c :: name) rest

/-- The class that a name in braces means: a name alone, or a property and its value. With the sign
for unequal between the two, it is all characters that are not in it. -/
def propertyOf (name : List Char) : Read (CharSet × Bool) :=
  let cut (sign : String) := Text.splitAt? sign.toList name
  let find (p v : List Char) := CharClass.ofNameValue? (String.ofList p) (String.ofList v)
  let (found, unequal) := match cut "!=", cut ":", cut "=" with
    | some (p, v), _, _ => (find p v, true)
    | none, some (p, v), _ => (find p v, false)
    | none, none, some (p, v) => (find p v, false)
    | none, none, none => (CharClass.ofName? (String.ofList name), false)
  match found with
  | some s => .ok (s, unequal)
  | none => .error .unknownProperty

/-- A class of Unicode after its letter. -/
def unicodeClass (extended negated : Bool) (cs : List Char) : Read (ClassTree × List Char) :=
  match skip extended cs with
  | [] => .error .badEscape
  | '\x7b' :: rest =>
    match bracedName extended (rest.length + 1) [] rest with
    | .error e => .error e
    | .ok (name, rest) =>
      match propertyOf name with
      | .error e => .error e
      | .ok (s, unequal) => .ok (.property s (negated != unequal), rest)
  | c :: rest =>
    if c = '\\' then .error .badEscape
    else
      match CharClass.ofName? (String.ofList [c]) with
      | some s => .ok (.property s negated, rest)
      | none => .error .unknownProperty

/-- What an escape stands for. -/
inductive Escaped
  | char (c : Char) (byte : Bool)
  | class (s : ClassTree)
  | mark (m : Mark)

/-- A word in braces after a word boundary; none when a count stands there instead. -/
def boundaryWord? (extended : Bool) (fuel : Nat) (word cs : List Char) :
    Read (List Char × List Char) :=
  match fuel, cs with
  | 0, _ => .error .badEscape
  | _, [] => .error .badEscape
  | fuel + 1, c :: rest =>
    if c.isAlpha || c = '-' then boundaryWord? extended fuel (c :: word) (skip extended rest)
    else if c = '\x7d' then .ok (word.reverse, rest)
    else .error .badEscape

/-- A word boundary, perhaps of a special kind that stands in braces. -/
def boundary (extended : Bool) (cs : List Char) : Read (Escaped × List Char) :=
  match cs with
  | '\x7b' :: rest =>
    match skip extended rest with
    | [] => .error .badEscape
    | c :: inner =>
      if c.isAlpha || c = '-' then
        match boundaryWord? extended (inner.length + 2) [] (c :: inner) with
        | .error e => .error e
        | .ok (word, rest) =>
          match String.ofList word with
          | "start" => .ok (.mark .wordStart, rest)
          | "end" => .ok (.mark .wordEnd, rest)
          | "start-half" => .ok (.mark .wordStartHalf, rest)
          | "end-half" => .ok (.mark .wordEndHalf, rest)
          | _ => .error .badEscape
      else .ok (.mark .boundary, cs)
  | cs => .ok (.mark .boundary, cs)

/-- What stands after a backslash. -/
def escape (extended : Bool) (cs : List Char) : Read (Escaped × List Char) :=
  let letter (k : LetterClass) (negated : Bool) (rest : List Char) : Read (Escaped × List Char) :=
    .ok (.class (.letter k negated), rest)
  let hex (width : Nat) (rest : List Char) : Read (Escaped × List Char) :=
    match hexChar extended width rest with
    | .ok (c, byte, rest) => .ok (.char c byte, rest)
    | .error e => .error e
  let property (negated : Bool) (rest : List Char) : Read (Escaped × List Char) :=
    match unicodeClass extended negated rest with
    | .ok (s, rest) => .ok (.class s, rest)
    | .error e => .error e
  let char (c : Char) (rest : List Char) : Read (Escaped × List Char) := .ok (.char c false, rest)
  match cs with
  | [] => .error .badEscape
  | c :: rest =>
    match c with
    | 'x' => hex 2 rest
    | 'u' => hex 4 rest
    | 'U' => hex 8 rest
    | 'p' => property false rest
    | 'P' => property true rest
    | 'd' => letter .digit false rest
    | 'D' => letter .digit true rest
    | 's' => letter .blank false rest
    | 'S' => letter .blank true rest
    | 'w' => letter .word false rest
    | 'W' => letter .word true rest
    | 'a' => char '\x07' rest
    | 'f' => char '\x0C' rest
    | 't' => char '\t' rest
    | 'n' => char '\n' rest
    | 'r' => char '\r' rest
    | 'v' => char '\x0B' rest
    | 'A' => .ok (.mark .textStart, rest)
    | 'z' => .ok (.mark .textEnd, rest)
    | 'b' => boundary extended rest
    | 'B' => .ok (.mark .noBoundary, rest)
    | '<' => .ok (.mark .wordStart, rest)
    | '>' => .ok (.mark .wordEnd, rest)
    | c => if isPlainEscape c then char c rest else .error .badEscape

/-! ## Classes -/

/-- The name of a class of ASCII between colons, and whether it is negated. -/
def asciiClass? (cs : List Char) : Option (ClassTree × List Char) :=
  match cs with
  | '[' :: ':' :: rest =>
    let (negated, rest) := match rest with
      | '^' :: rest => (true, rest)
      | _ => (false, rest)
    let name := rest.takeWhile fun c => c != ':'
    match rest.dropWhile fun c => c != ':' with
    | ':' :: ']' :: rest =>
      (CharClass.ascii? (String.ofList name)).map fun s => (.ascii s negated, rest)
    | _ => none
  | _ => none

/-- A part of a class: a character, or a class after a backslash. -/
def classPart (extended : Bool) (cs : List Char) : Read (Escaped × List Char) :=
  match cs with
  | [] => .error .unclosedClass
  | '\\' :: rest => escape extended rest
  | c :: rest => .ok (.char c false, rest)

/-- A part of a class on its own. -/
def partSet : Escaped → Read ClassTree
  | .char c _ => .ok (.char c)
  | .class s => .ok s
  | .mark _ => .error .badClassItem

/-- The character that decides whether a dash makes a range: the next one that is no blank. Where
blanks are passed over it may be one of a comment, but not the sign that starts the comment; when
there is none, it is the one right after the dash. -/
def afterDash? (extended : Bool) (cs : List Char) : Option Char :=
  if !extended then cs.head?
  else
    let next := match cs.dropWhile Text.isBlank with
      | '#' :: rest => rest.dropWhile Text.isBlank
      | rest => rest
    (next.head?).or cs.head?

/-- A part of a class, or a range of two. -/
def classRange (extended : Bool) (cs : List Char) : Read (ClassTree × List Char) :=
  match classPart extended cs with
  | .error e => .error e
  | .ok (first, rest) =>
    let alone (rest : List Char) : Read (ClassTree × List Char) :=
      match partSet first with
      | .ok s => .ok (s, rest)
      | .error e => .error e
    match skip extended rest with
    | [] => .error .unclosedClass
    | '-' :: after =>
      if afterDash? extended after = some ']' ∨ afterDash? extended after = some '-' then
        alone ('-' :: after)
      else
        match classPart extended (skip extended after) with
        | .error e => .error e
        | .ok (last, rest) =>
          match first, last with
          | .char a _, .char b _ => if a ≤ b then .ok (.range a b, rest) else .error .badRange
          | _, _ => .error .badRange
    | rest => alone rest

/-- Dashes at the start of a class, which stand for themselves. -/
def leadingDashes (extended : Bool) (fuel : Nat) (s : ClassTree) (cs : List Char) :
    ClassTree × List Char :=
  match fuel, cs with
  | fuel + 1, '-' :: rest =>
    leadingDashes extended fuel (.union s (.char '-')) (skip extended rest)
  | _, cs => (s, cs)

/-- The start of a class after its bracket: a negation, dashes, and a closing bracket that comes
first and stands for itself. -/
def classStart (extended : Bool) (cs : List Char) : Bool × ClassTree × List Char :=
  let cs := skip extended cs
  let (negated, cs) := match cs with
    | '^' :: rest => (true, skip extended rest)
    | cs => (false, cs)
  match cs with
  | ']' :: rest => (negated, .union .none (.char ']'), skip extended rest)
  | cs =>
    let (s, cs) := leadingDashes extended (cs.length + 1) .none cs
    (negated, s, cs)

/-- A class cut with the one before it. -/
def cut : Option (ClassOp × ClassTree) → ClassTree → ClassTree
  | none, s => s
  | some (k, left), s => .op k left s

/-- The rest of a class up to its closing bracket. `left` is what stands before an operation, `s`
what has been read since. -/
def classBody (extended : Bool) : Nat → Option (ClassOp × ClassTree) → ClassTree → List Char →
    Read (ClassTree × List Char)
  | 0, _, _, _ => .error .unclosedClass
  | fuel + 1, left, s, cs =>
    match skip extended cs with
    | [] => .error .unclosedClass
    | ']' :: rest => .ok (cut left s, rest)
    | '&' :: '&' :: rest => classBody extended fuel (some (.inter, cut left s)) .none rest
    | '-' :: '-' :: rest => classBody extended fuel (some (.diff, cut left s)) .none rest
    | '~' :: '~' :: rest => classBody extended fuel (some (.symDiff, cut left s)) .none rest
    | '[' :: rest =>
      match asciiClass? ('[' :: rest) with
      | some (k, rest) => classBody extended fuel left (.union s k) rest
      | none =>
        let (negated, first, rest) := classStart extended rest
        match classBody extended fuel none first rest with
        | .error e => .error e
        | .ok (inner, rest) => classBody extended fuel left (.union s (.bracket inner negated)) rest
    | cs =>
      match classRange extended cs with
      | .error e => .error e
      | .ok (k, rest) => classBody extended fuel left (.union s k) rest

/-- A class after its bracket. -/
def classTree (extended : Bool) (cs : List Char) : Read (ClassTree × List Char) :=
  let (negated, first, rest) := classStart extended cs
  match classBody extended (rest.length + 1) none first rest with
  | .error e => .error e
  | .ok (inner, rest) => .ok (.bracket inner negated, rest)

/-! ## Groups -/

/-- A character of a group's name. -/
def isNameChar (first : Bool) (c : Char) : Bool :=
  c = '_' || Text.alphabeticSet.mem c ||
    (!first && (c = '.' || c = '[' || c = ']' || Text.numberSet.mem c))

/-- The name of a group up to its closing angle. -/
def groupName (cs : List Char) : Read (String × List Char) :=
  let name := cs.takeWhile fun c => c != '>'
  match cs.dropWhile fun c => c != '>' with
  | '>' :: rest =>
    match name with
    | [] => .error .badGroupName
    | c :: more =>
      if isNameChar true c && more.all (isNameChar false) then .ok (String.ofList name, rest)
      else .error .badGroupName
  | _ => .error .badGroupName

/-- The flag of a letter. -/
def flagOf? : Char → Option Flag
  | 'i' => some .ignoreCase
  | 'm' => some .multiLine
  | 's' => some .dotAll
  | 'U' => some .swapGreed
  | 'u' => some .unicode
  | 'R' => some .crlf
  | 'x' => some .extended
  | _ => none

/-- Flags up to a colon or a closing bracket. A dash clears those after it; it comes at most once
and not last. -/
def flagItems : Option Bool → FlagItems → List Char → Read (FlagItems × List Char)
  | _, _, [] => .error .badFlags
  | dash, items, c :: rest =>
    if c = ':' ∨ c = ')' then
      if dash = some true then .error .badFlags else .ok (items.reverse, c :: rest)
    else if c = '-' then
      if dash.isSome then .error .badFlags else flagItems (some true) items rest
    else
      match flagOf? c with
      | none => .error .badFlags
      | some f =>
        if items.any fun e => e.1 = f then .error .badFlags
        else flagItems (dash.map fun _ => false) ((f, dash.isNone) :: items) rest

/-- The last setting of a flag among some items. -/
def settingOf? (f : Flag) (items : FlagItems) : Option Bool :=
  (items.find? fun e => e.1 = f).map (·.2)

/-- What stands after the bracket of a group. -/
inductive GroupStart
  | flags (items : FlagItems)
  | group (items : FlagItems) (captured : Bool) (name : Option String)

/-- Reads what stands after the bracket of a group. -/
def groupStart (extended : Bool) (cs : List Char) : Read (GroupStart × List Char) :=
  let named (rest : List Char) : Read (GroupStart × List Char) :=
    match groupName rest with
    | .ok (name, rest) => .ok (.group [] true (some name), rest)
    | .error e => .error e
  match skip extended cs with
  | '?' :: '=' :: _ => .error .lookAround
  | '?' :: '!' :: _ => .error .lookAround
  | '?' :: '<' :: '=' :: _ => .error .lookAround
  | '?' :: '<' :: '!' :: _ => .error .lookAround
  | '?' :: 'P' :: '<' :: rest => named rest
  | '?' :: '<' :: rest => named rest
  | '?' :: rest =>
    match flagItems none [] rest with
    | .error e => .error e
    | .ok (items, ')' :: rest) =>
      if items.isEmpty then .error .nothingToRepeat else .ok (.flags items, rest)
    | .ok (items, rest) => .ok (.group items false none, rest.tail)
  | rest => .ok (.group [] true none, rest)

/-! ## Repetitions -/

/-- Whether there is something that can be repeated. -/
def repeatable? : List Tree → Read (Tree × List Tree)
  | [] => .error .nothingToRepeat
  | .empty :: _ => .error .nothingToRepeat
  | .flags _ :: _ => .error .nothingToRepeat
  | t :: rest => .ok (t, rest)

/-- Digits and what follows them. What is passed over may stand between them. -/
def spanCount (extended : Bool) : Nat → List Char → List Char × List Char
  | fuel + 1, c :: rest =>
    if c.isDigit then
      let r := spanCount extended fuel (skip extended rest)
      (c :: r.1, r.2)
    else ([], c :: rest)
  | _, cs => ([], cs)

/-- A number between blanks. -/
def count? (extended : Bool) (cs : List Char) : Option Nat × List Char :=
  let cs := cs.dropWhile Text.isBlank
  let (digits, rest) := spanCount extended cs.length cs
  let rest := rest.dropWhile Text.isBlank
  match Text.numeral? 10 digits with
  | some n => (if n < Text.halfWordSize then some n else none, rest)
  | none => (none, rest)

/-- Whether there is a mark that a repetition takes as little as it can, and the text after it. -/
def lazyMark : List Char → Bool × List Char
  | '?' :: rest => (true, rest)
  | cs => (false, cs)

/-- The counts of a repetition after the opening brace. -/
def counts (extended : Bool) (cs : List Char) : Read (Nat × Option Nat × List Char) :=
  let (least, rest) := count? extended (skip extended cs)
  match least with
  | none => .error .badCount
  | some least =>
    match skip extended rest with
    | ',' :: rest =>
      match skip extended rest with
      | '\x7d' :: rest => .ok (least, none, skip extended rest)
      | rest =>
        let (greatest, rest) := count? extended rest
        match greatest, skip extended rest with
        | some greatest, '\x7d' :: rest =>
          if least ≤ greatest then .ok (least, some greatest, skip extended rest)
          else .error .badCount
        | _, _ => .error .badCount
    | '\x7d' :: rest => .ok (least, some least, skip extended rest)
    | _ => .error .badCount

/-! ## Patterns -/

/-- What has been read so far: the rest of the text, whether blanks are passed over, and the names
of the groups. -/
structure State where
  rest : List Char
  extended : Bool
  names : List String

/-- The tree of a sequence that has been read backwards. -/
def sequence (backwards : List Tree) : Tree :=
  match backwards with
  | [] => .empty
  | [t] => t
  | ts => .seq ts.reverse

/-- The tree of alternatives that have been read backwards. -/
def alternatives (backwards : List Tree) : Tree :=
  match backwards with
  | [t] => t
  | ts => .alt ts.reverse

/-- Reads alternatives up to a closing bracket or the end. `branches` and `items` hold what has been
read, the last first. -/
def body : Nat → State → List Tree → List Tree → Read (Tree × State)
  | 0, _, _, _ => .error .tooDeep
  | fuel + 1, st, branches, items =>
    let again (rest : List Char) (t : Tree) (items : List Tree) :=
      body fuel { st with rest } branches (t :: items)
    let repeated (rest : List Char) (t : Tree) (least : Nat) (greatest : Option Nat)
        (items : List Tree) :=
      let (lazy, rest) := lazyMark rest
      again rest (.repeated t lazy least greatest) items
    let repetition (rest : List Char) (least : Nat) (greatest : Option Nat) :=
      match repeatable? items with
      | .error e => .error e
      | .ok (t, items) => repeated rest t least greatest items
    match skip st.extended st.rest with
    | [] => .ok (alternatives (sequence items :: branches), { st with rest := [] })
    | ')' :: rest =>
      .ok (alternatives (sequence items :: branches), { st with rest := ')' :: rest })
    | '|' :: rest => body fuel { st with rest } (sequence items :: branches) []
    | '(' :: rest =>
      match groupStart st.extended rest with
      | .error e => .error e
      | .ok (.flags set, rest) =>
        body fuel { st with rest, extended := (settingOf? .extended set).getD st.extended } branches
          (.flags set :: items)
      | .ok (.group set captured name, rest) =>
        let names := match name with
          | some name => name :: st.names
          | none => st.names
        if (match name with
          | some name => st.names.contains name
          | none => false) then .error .badGroupName
        else
          match body fuel
              { rest, extended := (settingOf? .extended set).getD st.extended, names } [] [] with
          | .error e => .error e
          | .ok (inner, after) =>
            match after.rest with
            | ')' :: rest =>
              body fuel { rest, extended := st.extended, names := after.names } branches
                (.group set captured inner :: items)
            | _ => .error .unclosedGroup
    | '[' :: rest =>
      match classTree st.extended rest with
      | .error e => .error e
      | .ok (s, rest) => again rest (.class s) items
    | '?' :: rest => repetition rest 0 (some 1)
    | '*' :: rest => repetition rest 0 none
    | '+' :: rest => repetition rest 1 none
    | '\x7b' :: rest =>
      match repeatable? items with
      | .error e => .error e
      | .ok (t, items) =>
        match counts st.extended rest with
        | .error e => .error e
        | .ok (least, greatest, rest) => repeated rest t least greatest items
    | '\\' :: rest =>
      match escape st.extended rest with
      | .error e => .error e
      | .ok (.char c byte, rest) => again rest (.char c byte) items
      | .ok (.class s, rest) => again rest (.class s) items
      | .ok (.mark m, rest) => again rest (.mark m) items
    | '.' :: rest => again rest .dot items
    | '^' :: rest => again rest (.mark .caret) items
    | '$' :: rest => again rest (.mark .dollar) items
    | c :: rest => again rest (.char c false) items

/-- The tree of a whole pattern. -/
def parse (s : String) : Read Tree :=
  let cs := s.toList
  match body (cs.length + 1) { rest := cs, extended := false, names := [] } [] [] with
  | .error e => .error e
  | .ok (t, st) => if st.rest.isEmpty then .ok t else .error .unopenedGroup

end Pattern

end Wireflow
