/-
From the tree of a pattern to the expression that it means: the flags are carried along from left to
right, up to the end of the group that sets them.
-/
import Wireflow.Pattern.Reading
import Wireflow.Pattern.Size

namespace Wireflow.Pattern

/-- The flags in force. -/
structure Flags where
  ignoreCase : Bool
  multiLine : Bool
  dotAll : Bool
  swapGreed : Bool
  unicode : Bool
  crlf : Bool
deriving DecidableEq

namespace Flags

/-- The flags at the start of a pattern. -/
def initial (ignoreCase : Bool) : Flags :=
  { ignoreCase, multiLine := false, dotAll := false, swapGreed := false, unicode := true,
    crlf := false }

/-- The flags after some have been set or cleared. -/
def apply (f : Flags) (items : FlagItems) : Flags :=
  items.foldl (fun f e =>
    match e.1 with
    | .ignoreCase => { f with ignoreCase := e.2 }
    | .multiLine => { f with multiLine := e.2 }
    | .dotAll => { f with dotAll := e.2 }
    | .unicode => { f with unicode := e.2 }
    | .crlf => { f with crlf := e.2 }
    | .swapGreed => { f with swapGreed := e.2 }
    | .extended => f) f

end Flags

/-- A set with all characters that differ in case only, when case is disregarded. -/
def caseless (f : Flags) (s : CharSet) : CharSet :=
  if !f.ignoreCase then s else if f.unicode then s.folded else s.asciiFolded

/-- A set, or all other characters. Without Unicode these would be bytes that are no characters. -/
def negatedIf (f : Flags) (negated : Bool) (s : CharSet) : Read CharSet :=
  if !negated then .ok s else if f.unicode then .ok s.compl else .error .notText

/-- The class of a letter. -/
def letterClass (f : Flags) : LetterClass → CharSet
  | .digit => if f.unicode then Text.digitSet else CharClass.asciiDigits
  | .blank => if f.unicode then Text.listedSet "White_Space" else CharClass.asciiBlanks
  | .word => if f.unicode then Text.wordSet else CharClass.asciiWord

/-- The set that a class means. Without Unicode a class holds no characters beyond ASCII. -/
def charSet (f : Flags) : ClassTree → Read CharSet
  | .none => .ok .empty
  | .char c =>
    if !f.unicode && c.toNat ≥ 0x80 then .error .notText else .ok (.single c)
  | .range a b =>
    if !f.unicode && b.toNat ≥ 0x80 then .error .notText else .ok (.range a.toNat b.toNat)
  | .letter k negated => negatedIf f negated (letterClass f k)
  | .ascii s negated => negatedIf f negated (caseless f s)
  | .property s negated =>
    if f.unicode then negatedIf f negated (caseless f s) else .error .notText
  | .bracket inner negated =>
    match charSet f inner with
    | .ok s => negatedIf f negated (caseless f s)
    | .error e => .error e
  | .union a b =>
    match charSet f a with
    | .error e => .error e
    | .ok a =>
      match charSet f b with
      | .error e => .error e
      | .ok b => .ok (a.union b)
  | .op k a b =>
    match charSet f a with
    | .error e => .error e
    | .ok a =>
      match charSet f b with
      | .error e => .error e
      | .ok b =>
        let a := caseless f a
        let b := caseless f b
        .ok (match k with
          | .inter => a.inter b
          | .diff => a.diff b
          | .symDiff => a.symDiff b)

/-- The set of any character, line ends apart when they are not to be matched. -/
def dotSet (f : Flags) : CharSet :=
  if f.dotAll then CharSet.empty.compl
  else if f.crlf then ((CharSet.single '\n').union (.single '\r')).compl
  else (CharSet.single '\n').compl

/-- The condition that a mark means. -/
def lookOf (f : Flags) : Mark → Look
  | .caret => if f.multiLine then .lineStart f.crlf else .start
  | .dollar => if f.multiLine then .lineEnd f.crlf else .finish
  | .textStart => .start
  | .textEnd => .finish
  | .boundary => .boundary (!f.unicode) false
  | .noBoundary => .boundary (!f.unicode) true
  | .wordStart => .wordStart (!f.unicode)
  | .wordEnd => .wordEnd (!f.unicode)
  | .wordStartHalf => .wordStartHalf (!f.unicode)
  | .wordEndHalf => .wordEndHalf (!f.unicode)

/-- How deep expressions may stand inside one another. -/
def depthLimit : Nat := 250

mutual

/-- The expression of a tree, and the flags after it. -/
def regex (depth : Nat) (f : Flags) : Tree → Read (Regex × Flags)
  | .empty => .ok (.empty, f)
  | .flags items => .ok (.empty, f.apply items)
  | .char c byte =>
    if byte && !f.unicode && c.toNat ≥ 0x80 then .error .notText
    else .ok (.ofSet (caseless f (.single c)), f)
  | .dot => if f.unicode then .ok (.set (dotSet f), f) else .error .notText
  | .mark m => .ok (.look (lookOf f m), f)
  | .class s =>
    if depthLimit < depth + s.depths.2 then .error .tooDeep
    else
      match charSet f s with
      | .error e => .error e
      | .ok s => .ok (.ofSet s, f)
  | .repeated t lazy least greatest =>
    if depth ≥ depthLimit then .error .tooDeep
    else
      match regex (depth + 1) f t with
      | .error e => .error e
      | .ok (r, f) => .ok (r.repetition (lazy != f.swapGreed) least greatest, f)
  | .group items captured t =>
    if depth ≥ depthLimit then .error .tooDeep
    else
      match regex (depth + 1) (f.apply items) t with
      | .error e => .error e
      | .ok (r, _) => .ok (if captured then .group r else r, f)
  | .seq ts =>
    if depth ≥ depthLimit then .error .tooDeep
    else
      match regexes (depth + 1) f ts with
      | .error e => .error e
      | .ok (rs, f) => .ok (.concat rs, f)
  | .alt ts =>
    if depth ≥ depthLimit then .error .tooDeep
    else
      match regexes (depth + 1) f ts with
      | .error e => .error e
      | .ok (rs, f) => .ok (.alternation rs, f)

/-- The expressions of some trees, and the flags after the last. -/
def regexes (depth : Nat) (f : Flags) : List Tree → Read (List Regex × Flags)
  | [] => .ok ([], f)
  | t :: rest =>
    match regex depth f t with
    | .error e => .error e
    | .ok (r, f) =>
      match regexes depth f rest with
      | .error e => .error e
      | .ok (rs, f) => .ok (r :: rs, f)

end

/-- The expression of the text of a pattern. -/
def compile (ignoreCase : Bool) (s : String) : Read Regex :=
  match parse s with
  | .error e => .error e
  | .ok t =>
    match regex 0 (Flags.initial ignoreCase) t with
    | .error e => .error e
    | .ok (r, _) => if Automaton.fits r then .ok r else .error .tooLarge

end Wireflow.Pattern
