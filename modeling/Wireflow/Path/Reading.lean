/-
Reading the text of a path: a name, then names after points and keys in brackets up to the end. A
key is quoted, a numeral, or a reference `msg.` to another path.
-/
import Wireflow.Path.Basic
import Wireflow.Text.Search

namespace Wireflow

namespace Path

/-- A character that ends a name. -/
def endsName (c : Char) : Bool :=
  c = '.' || c = '[' || c = ']'

/-- A blank inside brackets. -/
def isPadding (c : Char) : Bool :=
  c = ' ' || c = '\t'

/-- The characters of a name, and what follows them. -/
def spanName (cs : List Char) : List Char × List Char :=
  (cs.takeWhile fun c => !endsName c, cs.dropWhile fun c => !endsName c)

/-- A quoted key up to its closing quote. A backslash takes the next character as it is. -/
def quotedKey? (quote : Char) : List Char → Option (List Char × List Char)
  | [] => none
  | '\\' :: [] => none
  | '\\' :: c :: rest => (quotedKey? quote rest).map fun r => (c :: r.1, r.2)
  | c :: rest =>
    if c = quote then some ([], rest)
    else (quotedKey? quote rest).map fun r => (c :: r.1, r.2)

/-- A reference up to the bracket that closes it, brackets inside it being balanced; and what
follows, which starts with that bracket. -/
def spanReference : Nat → List Char → List Char × List Char
  | _, [] => ([], [])
  | depth, c :: rest =>
    if c = ']' ∧ depth = 0 then ([], c :: rest)
    else
      let depth := if c = '[' then depth + 1 else if c = ']' then depth - 1 else depth
      let r := spanReference depth rest
      (c :: r.1, r.2)

theorem length_spanReference (depth : Nat) (cs : List Char) :
    (spanReference depth cs).1.length + (spanReference depth cs).2.length = cs.length := by
  induction cs generalizing depth with
  | nil => rfl
  | cons c rest ih =>
    simp only [spanReference]
    split
    · simp
    · have := ih (if c = '[' then depth + 1 else if c = ']' then depth - 1 else depth)
      simp only [List.length_cons]
      omega

theorem length_of_quotedKey? {quote : Char} {cs key rest : List Char}
    (h : quotedKey? quote cs = some (key, rest)) : rest.length < cs.length := by
  fun_induction quotedKey? quote cs generalizing key rest with
  | case1 => cases h
  | case2 => cases h
  | case3 c tail ih =>
    obtain ⟨r, hr, heq⟩ := Option.map_eq_some_iff.1 h
    cases heq
    have := ih hr
    simp only [List.length_cons]
    omega
  | case4 tail => cases h; simp
  | case5 c tail _ _ hne ih =>
    obtain ⟨r, hr, heq⟩ := Option.map_eq_some_iff.1 h
    cases heq
    have := ih hr
    simp only [List.length_cons]
    omega

/-- What a bracket holds: a key of its own, or a reference that is still to be read. -/
inductive Bracket
  | key (segment : Segment)
  | reference (inner : List Char)

/-- What stands after an opening bracket and its blanks, and what follows it; or where it goes wrong
and why. -/
def bracket (cs : List Char) : Except (List Char × PathFault) (Bracket × List Char) :=
  match cs with
  | [] => .error (cs, .noIndex)
  | c :: rest =>
    if c = '"' ∨ c = '\x27' then
      match quotedKey? c rest with
      | some (key, rest) => .ok (.key (.name (String.ofList key)), rest)
      | none => .error ([], .notTerminated)
    else if c.isDigit then
      let digits := cs.takeWhile Char.isDigit
      let rest := cs.dropWhile Char.isDigit
      let n := Text.digitsValue 10 digits
      if n < Text.wordSize then .ok (.key (.index n), rest) else .error (rest, .indexTooGreat)
    else
      match Text.dropStart? ['m', 's', 'g', '.'] cs with
      | some rest =>
        let (inner, rest) := spanReference 0 rest
        .ok (.reference inner, rest)
      | none => .error (cs, .noIndex)

theorem length_dropWhile_le (p : Char → Bool) (cs : List Char) :
    (cs.dropWhile p).length ≤ cs.length :=
  (List.dropWhile_suffix p).length_le

theorem length_of_bracket_key {cs rest : List Char} {s : Segment}
    (h : bracket cs = .ok (.key s, rest)) : rest.length ≤ cs.length := by
  unfold bracket at h
  split at h
  · cases h
  · rename_i c tail
    split at h
    · split at h
      · rename_i key tail' hq
        cases h
        have := length_of_quotedKey? hq
        simp only [List.length_cons]
        omega
      · cases h
    · split at h
      · simp only at h
        split at h
        · cases h; exact length_dropWhile_le _ _
        · cases h
      · split at h <;> simp at h

theorem length_of_bracket_reference {cs inner rest : List Char}
    (h : bracket cs = .ok (.reference inner, rest)) :
    inner.length + rest.length + 4 = cs.length := by
  unfold bracket at h
  split at h
  · cases h
  · split at h
    · split at h <;> simp at h
    · split at h
      · simp only at h
        split at h <;> simp at h
      · split at h
        · rename_i after hd
          have h1 := Text.length_of_dropStart? hd
          have h2 := length_spanReference 0 after
          simp only [Except.ok.injEq, Prod.mk.injEq, Bracket.reference.injEq] at h
          obtain ⟨rfl, rfl⟩ := h
          simp only [List.length_cons, List.length_nil] at h1 ⊢
          omega
        · cases h

/-- What follows a closing bracket, when the text goes on with one after blanks. -/
def close (cs : List Char) : Except (List Char × PathFault) (List Char) :=
  match cs.dropWhile isPadding with
  | ']' :: rest => .ok rest
  | rest => .error (rest, .notClosed)

theorem length_of_close {cs rest : List Char} (h : close cs = .ok rest) :
    rest.length < cs.length := by
  unfold close at h
  have hle := length_dropWhile_le isPadding cs
  split at h
  · rename_i tail heq
    rw [heq] at hle
    cases h
    simp only [List.length_cons] at hle
    omega
  · cases h

/-- The error at a place of the whole text. -/
def faultAt (whole rest : List Char) (fault : PathFault) : PathError :=
  .badSyntax (String.ofList whole) (whole.length - rest.length) fault

/-- A name at the start of `cs`, without blanks around it. -/
def nameStep (whole cs : List Char) : Except PathError (Segment × List Char) :=
  let name := Text.trimChars (spanName cs).1
  if name.isEmpty then .error (faultAt whole (spanName cs).2 .noName)
  else .ok (.name (String.ofList name), (spanName cs).2)

theorem length_of_nameStep {whole cs rest : List Char} {s : Segment}
    (h : nameStep whole cs = .ok (s, rest)) : rest.length ≤ cs.length := by
  unfold nameStep at h
  simp only at h
  split at h
  · cases h
  · cases h; exact length_dropWhile_le _ _

/-- The name that a path starts with. -/
def start (cs : List Char) : Except PathError (Segment × List Char) :=
  if (Text.trimChars cs).isEmpty then .error .empty else nameStep cs cs

theorem length_of_start {cs rest : List Char} {s : Segment}
    (h : start cs = .ok (s, rest)) : rest.length ≤ cs.length := by
  unfold start at h
  split at h
  · cases h
  · exact length_of_nameStep h

theorem length_trimChars_le (cs : List Char) : (Text.trimChars cs).length ≤ cs.length := by
  unfold Text.trimChars Text.dropBlankEnd
  rw [List.length_reverse]
  refine Nat.le_trans (length_dropWhile_le _ _) ?_
  rw [List.length_reverse]
  exact length_dropWhile_le _ _

/-- The steps after the first name, up to the end of the text. -/
def steps (whole cs : List Char) : Except PathError (List Segment) :=
  match cs with
  | [] => .ok []
  | c :: rest =>
    if c = '.' then
      match h : nameStep whole rest with
      | .error e => .error e
      | .ok (segment, after) =>
        have := length_of_nameStep h
        match steps whole after with
        | .error e => .error e
        | .ok segments => .ok (segment :: segments)
    else if c = '[' then
      match h : bracket (rest.dropWhile isPadding) with
      | .error (place, fault) => .error (faultAt whole place fault)
      | .ok (.key segment, after) =>
        match hc : close after with
        | .error (place, fault) => .error (faultAt whole place fault)
        | .ok after' =>
          have := length_of_bracket_key h
          have := length_of_close hc
          have := length_dropWhile_le isPadding rest
          match steps whole after' with
          | .error e => .error e
          | .ok segments => .ok (segment :: segments)
      | .ok (.reference inner, after) =>
        have := length_of_bracket_reference h
        have := length_dropWhile_le isPadding rest
        have := length_trimChars_le inner
        match hs : start (Text.trimChars inner) with
        | .error e => .error e
        | .ok (first, more) =>
          have := length_of_start hs
          match steps (Text.trimChars inner) more with
          | .error e => .error e
          | .ok innerSegments =>
            match hc : close after with
            | .error (place, fault) => .error (faultAt whole place fault)
            | .ok after' =>
              have := length_of_close hc
              match steps whole after' with
              | .error e => .error e
              | .ok segments =>
                .ok (.reference (String.ofList (Text.trimChars inner)) (first :: innerSegments) ::
                  segments)
    else .error (faultAt whole cs .noStep)
termination_by cs.length
decreasing_by all_goals (simp only [List.length_cons]; omega)

/-- The segments of a whole path. -/
def segmentsOf (cs : List Char) : Except PathError (List Segment) :=
  match start cs with
  | .error e => .error e
  | .ok (first, rest) =>
    match steps cs rest with
    | .error e => .error e
    | .ok segments => .ok (first :: segments)

/-- The path of a text. -/
def parse (s : String) : Except PathError Path :=
  match segmentsOf s.toList with
  | .error e => .error e
  | .ok segments => .ok { source := s, segments }

end Path

end Wireflow
