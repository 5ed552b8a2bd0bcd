/-
The grammar of paths without references to the message, as a relation between a text and its steps,
and that reading accepts exactly this grammar. A name is written without points and brackets, a key in
brackets is quoted or a numeral, and every step of the text is a step of the path, in order. Any text
can be written as a quoted key.
-/
import Wireflow.Path.Reading
import Wireflow.Proofs.Text.Blank
import Wireflow.Proofs.Text.Span
import Mathlib.Tactic

namespace Wireflow

/-- The step stands for itself: it is no reference to the message. -/
def Segment.IsDirect : Segment → Prop
  | .reference _ _ => False
  | _ => True

namespace Path

/-! ## The grammar -/

/-- A name with blanks around it, which are no part of it. -/
def WrittenName (w : List Char) (s : Segment) : Prop :=
  (∀ c ∈ w, c ≠ '.' ∧ c ≠ '[' ∧ c ≠ ']') ∧ Text.trimChars w ≠ [] ∧
    s = .name (String.ofList (Text.trimChars w))

/-- What stands between two quotes, and the text that it means: a character after a backslash means
itself, and so does any character but the quote and the backslash. -/
inductive Quoted (quote : Char) : List Char → List Char → Prop
  | nil : Quoted quote [] []
  | escaped (c : Char) {w text : List Char} : Quoted quote w text →
      Quoted quote ('\\' :: c :: w) (c :: text)
  | plain {c : Char} {w text : List Char} : c ≠ quote → c ≠ '\\' → Quoted quote w text →
      Quoted quote (c :: w) (c :: text)

/-- A key in brackets: a text between quotes, or the numeral of a 64-bit word. -/
inductive WrittenKey : List Char → Segment → Prop
  | quoted {quote : Char} {w text : List Char} : quote = '"' ∨ quote = '\x27' →
      Quoted quote w text → WrittenKey (quote :: (w ++ [quote])) (.name (String.ofList text))
  | index {digits : List Char} : digits ≠ [] → (∀ c ∈ digits, c.isDigit = true) →
      Text.digitsValue 10 digits < Text.wordSize →
      WrittenKey digits (.index (Text.digitsValue 10 digits))

/-- A step after the first: a name after a point, or a key in brackets with blanks around it. -/
inductive WrittenStep : List Char → Segment → Prop
  | name {w : List Char} {s : Segment} : WrittenName w s → WrittenStep ('.' :: w) s
  | key {before w after : List Char} {s : Segment} : (∀ c ∈ before, c = ' ' ∨ c = '\t') →
      WrittenKey w s → (∀ c ∈ after, c = ' ' ∨ c = '\t') →
      WrittenStep ('[' :: (before ++ w ++ after ++ [']'])) s

/-- A path: a name and any number of steps, up to the end of the text. -/
def Written (text : List Char) (segments : List Segment) : Prop :=
  ∃ w s ws ss, WrittenName w s ∧ List.Forall₂ WrittenStep ws ss ∧ text = w ++ ws.flatten ∧
    segments = s :: ss

theorem endsName_eq_false {c : Char} : endsName c = false ↔ c ≠ '.' ∧ c ≠ '[' ∧ c ≠ ']' := by
  simp [endsName, and_assoc]

theorem isPadding_iff {c : Char} : isPadding c = true ↔ c = ' ' ∨ c = '\t' := by
  simp [isPadding]

/-! ## Names -/

theorem nameStep_eq_ok_iff {whole cs rest : List Char} {s : Segment} :
    nameStep whole cs = .ok (s, rest) ↔
      ∃ w, WrittenName w s ∧ cs = w ++ rest ∧ ∀ c ∈ rest.head?, endsName c = true := by
  unfold nameStep spanName
  dsimp only
  constructor
  · intro h
    split at h
    · cases h
    · rename_i hname
      cases h
      refine ⟨cs.takeWhile fun c => !endsName c, ⟨fun c hc => ?_, by simpa using hname, rfl⟩,
        List.takeWhile_append_dropWhile.symm, fun c hc => ?_⟩
      · exact endsName_eq_false.1 (by simpa using List.mem_takeWhile_imp hc)
      · simpa using Text.head?_dropWhile_eq_false c hc
  · rintro ⟨w, ⟨hw, hname, rfl⟩, rfl, hrest⟩
    obtain ⟨htake, hdrop⟩ := Text.span_append (p := fun c => !endsName c)
      (fun c hc => by simp [endsName_eq_false.2 (hw c hc)]) (fun c hc => by simp [hrest c hc])
    rw [htake, hdrop, if_neg (by simpa using hname)]

/-! ## Keys -/

theorem quotedKey?_cons {quote c : Char} (hback : c ≠ '\\') (rest : List Char) :
    quotedKey? quote (c :: rest) =
      if c = quote then some ([], rest)
      else (quotedKey? quote rest).map fun r => (c :: r.1, r.2) := by
  rw [quotedKey?]
  · exact fun h _ => hback h
  · exact fun _ _ h _ => hback h

theorem quotedKey?_eq_some_iff {quote : Char} (hquote : quote ≠ '\\') {cs text rest : List Char} :
    quotedKey? quote cs = some (text, rest) ↔
      ∃ w, Quoted quote w text ∧ cs = w ++ quote :: rest := by
  constructor
  · intro h
    fun_induction quotedKey? quote cs generalizing text rest with
    | case1 => cases h
    | case2 => cases h
    | case3 c tail ih =>
      obtain ⟨r, hr, heq⟩ := Option.map_eq_some_iff.1 h
      cases heq
      obtain ⟨w, hw, rfl⟩ := ih hr
      exact ⟨_, .escaped c hw, rfl⟩
    | case4 tail =>
      cases h
      exact ⟨[], .nil, rfl⟩
    | case5 c tail hlast hback hne ih =>
      obtain ⟨r, hr, heq⟩ := Option.map_eq_some_iff.1 h
      cases heq
      obtain ⟨w, hw, rfl⟩ := ih hr
      refine ⟨_, .plain hne (fun hc => ?_) hw, rfl⟩
      obtain ⟨c', tail', htail⟩ := List.exists_cons_of_ne_nil (hlast hc)
      exact hback c' tail' hc htail
  · rintro ⟨w, hw, rfl⟩
    induction hw with
    | nil => rw [List.nil_append, quotedKey?_cons hquote, if_pos rfl]
    | escaped c _ ih => simp [quotedKey?, ih]
    | plain hne hback _ ih => rw [List.cons_append, quotedKey?_cons hback, if_neg hne, ih]; rfl

/-- What is read in brackets is a key as the grammar has it. -/
theorem writtenKey_of_bracket {cs rest : List Char} {s : Segment}
    (h : bracket cs = .ok (.key s, rest)) : ∃ w, WrittenKey w s ∧ cs = w ++ rest := by
  unfold bracket at h
  split at h
  · cases h
  · rename_i c tail
    split at h
    · rename_i hquote
      split at h
      · rename_i text rest' htext
        cases h
        have hback : c ≠ '\\' := by rcases hquote with rfl | rfl <;> decide
        obtain ⟨w, hw, rfl⟩ := (quotedKey?_eq_some_iff hback).1 htext
        exact ⟨_, .quoted hquote hw, by simp⟩
      · cases h
    · split at h
      · rename_i hdigit
        dsimp only at h
        split at h
        · rename_i hsize
          cases h
          refine ⟨_, .index ?_ (fun c hc => List.mem_takeWhile_imp hc) hsize,
            List.takeWhile_append_dropWhile.symm⟩
          simp [List.takeWhile_cons_of_pos hdigit]
        · cases h
      · split at h <;> simp at h

theorem ne_quote_of_isDigit {c : Char} (h : c.isDigit = true) : ¬(c = '"' ∨ c = '\x27') := by
  rintro (rfl | rfl) <;> revert h <;> decide

/-- A key as the grammar has it is read in brackets, when no digit follows. -/
theorem bracket_of_writtenKey {w rest : List Char} {s : Segment} (h : WrittenKey w s)
    (hrest : ∀ c ∈ rest.head?, c.isDigit = false) : bracket (w ++ rest) = .ok (.key s, rest) := by
  cases h with
  | @quoted quote w text hquote hw =>
    have hback : quote ≠ '\\' := by rcases hquote with rfl | rfl <;> decide
    have htext : quotedKey? quote (w ++ [quote] ++ rest) = some (text, rest) :=
      (quotedKey?_eq_some_iff hback).2 ⟨w, hw, by simp⟩
    rw [List.cons_append]
    unfold bracket
    dsimp only
    rw [if_pos hquote, htext]
  | index hne hdigits hsize =>
    obtain ⟨htake, hdrop⟩ := Text.span_append hdigits hrest
    obtain ⟨c, tail, rfl⟩ := List.exists_cons_of_ne_nil hne
    have hc : c.isDigit = true := hdigits c List.mem_cons_self
    rw [List.cons_append] at htake hdrop ⊢
    unfold bracket
    dsimp only
    rw [if_neg (ne_quote_of_isDigit hc), if_pos hc, htake, hdrop, if_pos hsize]

/-- A key starts with a quote or a digit, so the blanks before it end there. -/
theorem head?_of_writtenKey {w : List Char} {s : Segment} (h : WrittenKey w s) (rest : List Char) :
    ∀ c ∈ (w ++ rest).head?, isPadding c = false := by
  cases h with
  | quoted hquote _ => rcases hquote with rfl | rfl <;> simp [isPadding]
  | index hne hdigits _ =>
    obtain ⟨c, tail, rfl⟩ := List.exists_cons_of_ne_nil hne
    have hc : c.isDigit = true := hdigits c List.mem_cons_self
    intro c' hc'
    obtain rfl : c = c' := by simpa using hc'
    cases hpad : isPadding c with
    | false => rfl
    | true => rcases isPadding_iff.1 hpad with rfl | rfl <;> revert hc <;> decide

theorem close_eq_ok_iff {cs rest : List Char} :
    close cs = .ok rest ↔ ∃ w, (∀ c ∈ w, c = ' ' ∨ c = '\t') ∧ cs = w ++ ']' :: rest := by
  unfold close
  constructor
  · intro h
    split at h
    · rename_i tail htail
      cases h
      refine ⟨cs.takeWhile isPadding, fun c hc => isPadding_iff.1 (List.mem_takeWhile_imp hc), ?_⟩
      rw [← htail, List.takeWhile_append_dropWhile]
    · cases h
  · rintro ⟨w, hw, rfl⟩
    have hstop : ∀ c ∈ (']' :: rest).head?, isPadding c = false := by simp [isPadding]
    obtain ⟨-, hdrop⟩ := Text.span_append (fun c hc => isPadding_iff.2 (hw c hc)) hstop
    rw [hdrop]
    rfl

/-! ## Steps -/

theorem steps_name {whole rest after : List Char} {s : Segment}
    (hname : nameStep whole rest = .ok (s, after)) :
    steps whole ('.' :: rest) = (steps whole after).map (s :: ·) := by
  rw [steps]
  dsimp only
  rw [if_pos rfl]
  split
  · rename_i e he
    rw [hname] at he
    cases he
  · rename_i s' after' heq
    rw [hname] at heq
    cases heq
    cases steps whole after <;> rfl

theorem steps_key {whole rest after after' : List Char} {s : Segment}
    (hkey : bracket (rest.dropWhile isPadding) = .ok (.key s, after))
    (hclose : close after = .ok after') :
    steps whole ('[' :: rest) = (steps whole after').map (s :: ·) := by
  rw [steps]
  dsimp only
  rw [if_neg (by decide), if_pos rfl]
  split
  · rename_i e he
    rw [hkey] at he
    cases he
  · rename_i s' cs heq
    rw [hkey] at heq
    cases heq
    split
    · rename_i e he
      rw [hclose] at he
      cases he
    · rename_i cs' heq
      rw [hclose] at heq
      cases heq
      cases steps whole after' <;> rfl
  · rename_i inner cs heq
    rw [hkey] at heq
    cases heq

/-- Everything that steps can be read from: nothing, a name, a key, or a reference. -/
theorem steps_cases {whole cs : List Char} {segments : List Segment}
    (h : steps whole cs = .ok segments) :
    (cs = [] ∧ segments = []) ∨
    (∃ rest s after ss, cs = '.' :: rest ∧ nameStep whole rest = .ok (s, after) ∧
      steps whole after = .ok ss ∧ segments = s :: ss) ∨
    (∃ rest s after after' ss, cs = '[' :: rest ∧
      bracket (rest.dropWhile isPadding) = .ok (.key s, after) ∧ close after = .ok after' ∧
      steps whole after' = .ok ss ∧ segments = s :: ss) ∨
    ∃ rest inner after after' innerSegments ss, cs = '[' :: rest ∧
      bracket (rest.dropWhile isPadding) = .ok (.reference inner, after) ∧
      segmentsOf (Text.trimChars inner) = .ok innerSegments ∧ close after = .ok after' ∧
      steps whole after' = .ok ss ∧
      segments = .reference (String.ofList (Text.trimChars inner)) innerSegments :: ss := by
  rw [steps.eq_def] at h
  split at h
  · cases h
    exact .inl ⟨rfl, rfl⟩
  · rename_i c rest
    split at h
    · rename_i hpoint
      subst hpoint
      split at h
      · cases h
      · rename_i s after hname
        split at h
        · cases h
        · rename_i ss hsteps
          cases h
          exact .inr (.inl ⟨rest, s, after, ss, rfl, hname, hsteps, rfl⟩)
    · split at h
      · rename_i hopen
        subst hopen
        split at h
        · cases h
        · rename_i s after hkey
          split at h
          · cases h
          · rename_i after' hclose
            split at h
            · cases h
            · rename_i ss hsteps
              cases h
              exact .inr (.inr (.inl ⟨rest, s, after, after', ss, rfl, hkey, hclose, hsteps, rfl⟩))
        · rename_i inner after hinner
          split at h
          · cases h
          · rename_i first more hstart
            split at h
            · cases h
            · rename_i innerSegments hmore
              split at h
              · cases h
              · rename_i after' hclose
                split at h
                · cases h
                · rename_i ss hsteps
                  cases h
                  have hsegments : segmentsOf (Text.trimChars inner) =
                      .ok (first :: innerSegments) := by
                    unfold segmentsOf
                    rw [hstart]
                    dsimp only
                    rw [hmore]
                  exact .inr (.inr (.inr ⟨rest, inner, after, after', _, ss, rfl, hinner,
                    hsegments, hclose, hsteps, rfl⟩))
      · cases h

/-- A key that is read and closed is written in brackets. -/
theorem writtenStep_of_key {rest after after' : List Char} {s : Segment}
    (hkey : bracket (rest.dropWhile isPadding) = .ok (.key s, after))
    (hclose : close after = .ok after') : ∃ w, WrittenStep w s ∧ '[' :: rest = w ++ after' := by
  obtain ⟨w, hw, hrest⟩ := writtenKey_of_bracket hkey
  obtain ⟨padding, hpadding, rfl⟩ := close_eq_ok_iff.1 hclose
  have hbefore : ∀ c ∈ rest.takeWhile isPadding, c = ' ' ∨ c = '\t' := fun c hc =>
    isPadding_iff.1 (List.mem_takeWhile_imp hc)
  have hsplit := List.takeWhile_append_dropWhile (p := isPadding) (l := rest)
  rw [hrest] at hsplit
  refine ⟨_, .key hbefore hw hpadding, ?_⟩
  generalize rest.takeWhile isPadding = before at hsplit ⊢
  simp [← hsplit]

/-- The steps that are read from a text, none of them a reference, are written in it. -/
theorem written_of_steps {whole : List Char} {segments : List Segment} :
    ∀ {cs : List Char}, steps whole cs = .ok segments → (∀ s ∈ segments, s.IsDirect) →
      ∃ ws, List.Forall₂ WrittenStep ws segments ∧ cs = ws.flatten := by
  induction segments with
  | nil =>
    intro cs h _
    rcases steps_cases h with ⟨rfl, -⟩ | ⟨_, _, _, _, -, -, -, heq⟩ |
      ⟨_, _, _, _, _, -, -, -, -, heq⟩ | ⟨_, _, _, _, _, _, -, -, -, -, -, heq⟩
    · exact ⟨[], .nil, rfl⟩
    · cases heq
    · cases heq
    · cases heq
  | cons s ss ih =>
    intro cs h hdirect
    obtain ⟨hs, hss⟩ := List.forall_mem_cons.1 hdirect
    rcases steps_cases h with ⟨-, heq⟩ | ⟨rest, _, after, _, rfl, hname, hsteps, heq⟩ |
      ⟨rest, _, after, after', _, rfl, hkey, hclose, hsteps, heq⟩ |
      ⟨_, _, _, _, _, _, -, -, -, -, -, heq⟩
    · cases heq
    · cases heq
      obtain ⟨w, hw, rfl, -⟩ := nameStep_eq_ok_iff.1 hname
      obtain ⟨ws, hws, rfl⟩ := ih hsteps hss
      exact ⟨('.' :: w) :: ws, .cons (.name hw) hws, rfl⟩
    · cases heq
      obtain ⟨w, hw, hrest⟩ := writtenStep_of_key hkey hclose
      obtain ⟨ws, hws, rfl⟩ := ih hsteps hss
      exact ⟨w :: ws, .cons hw hws, hrest⟩
    · cases heq
      exact hs.elim

theorem head?_flatten_of_written {ws : List (List Char)} {ss : List Segment}
    (h : List.Forall₂ WrittenStep ws ss) : ∀ c ∈ ws.flatten.head?, endsName c = true := by
  cases h with
  | nil => simp
  | cons hw _ => cases hw <;> simp [endsName]

/-- What is written as a step is read as this step, and what follows is read as it would be on its
own; only a name goes on up to a character that ends it. -/
theorem steps_written {whole w rest : List Char} {s : Segment} (h : WrittenStep w s)
    (hrest : w.head? = some '[' ∨ ∀ c ∈ rest.head?, endsName c = true) :
    steps whole (w ++ rest) = (steps whole rest).map (s :: ·) := by
  cases h with
  | @name w _ hw =>
    rcases hrest with hopen | hrest
    · cases hopen
    · exact steps_name (nameStep_eq_ok_iff.2 ⟨w, hw, rfl, hrest⟩)
  | @key before w after _ hbefore hw hafter =>
    -- the blanks and the bracket after the key are no digits, so a numeral ends before them
    have hend : ∀ c ∈ (after ++ ']' :: rest).head?, c.isDigit = false := by
      cases after with
      | nil => simp
      | cons c _ =>
        rcases hafter c List.mem_cons_self with rfl | rfl <;> simp
    have hstop := head?_of_writtenKey hw (after ++ ']' :: rest)
    obtain ⟨-, hdrop⟩ := Text.span_append (fun c hc => isPadding_iff.2 (hbefore c hc)) hstop
    have hkey := bracket_of_writtenKey hw hend
    rw [← hdrop] at hkey
    have hclose : close (after ++ ']' :: rest) = .ok rest := close_eq_ok_iff.2 ⟨after, hafter, rfl⟩
    have hsteps : steps whole ('[' :: (before ++ (w ++ (after ++ ']' :: rest)))) = _ :=
      steps_key hkey hclose
    simpa using hsteps

/-- What is written as steps is read as these steps. -/
theorem steps_of_written {whole : List Char} {ws : List (List Char)} {ss : List Segment}
    (h : List.Forall₂ WrittenStep ws ss) : steps whole ws.flatten = .ok ss := by
  induction h with
  | nil =>
    rw [List.flatten_nil, steps]
  | cons hw hws ih =>
    rw [List.flatten_cons, steps_written hw (.inr (head?_flatten_of_written hws)), ih]
    rfl

theorem WrittenName.isDirect {w : List Char} {s : Segment} (h : WrittenName w s) : s.IsDirect := by
  rw [h.2.2]
  trivial

theorem WrittenStep.isDirect {w : List Char} {s : Segment} (h : WrittenStep w s) : s.IsDirect := by
  cases h with
  | name hw => exact hw.isDirect
  | key _ hw _ => cases hw <;> trivial

theorem isDirect_of_written {ws : List (List Char)} {ss : List Segment}
    (h : List.Forall₂ WrittenStep ws ss) : ∀ s ∈ ss, s.IsDirect := by
  induction h with
  | nil => simp
  | cons hw _ ih => exact List.forall_mem_cons.2 ⟨hw.isDirect, ih⟩

/-! ## Whole paths -/

theorem segmentsOf_eq_ok_iff {cs : List Char} {segments : List Segment} :
    (segmentsOf cs = .ok segments ∧ ∀ s ∈ segments, s.IsDirect) ↔ Written cs segments := by
  unfold segmentsOf start
  constructor
  · rintro ⟨h, hdirect⟩
    split at h
    · cases h
    · rename_i first rest hstart
      split at h
      · cases h
      · rename_i ss hsteps
        cases h
        split at hstart
        · cases hstart
        · obtain ⟨w, hw, rfl, -⟩ := nameStep_eq_ok_iff.1 hstart
          obtain ⟨ws, hws, rfl⟩ := written_of_steps hsteps (List.forall_mem_cons.1 hdirect).2
          exact ⟨w, first, ws, ss, hw, hws, rfl, rfl⟩
  · rintro ⟨w, s, ws, ss, hw, hws, rfl, rfl⟩
    have hname : nameStep (w ++ ws.flatten) (w ++ ws.flatten) = .ok (s, ws.flatten) :=
      nameStep_eq_ok_iff.2 ⟨w, hw, rfl, head?_flatten_of_written hws⟩
    have hblank : ¬Text.trimChars (w ++ ws.flatten) = [] := by
      intro hnil
      refine hw.2.1 (Text.trimChars_eq_nil_iff.2 fun c hc => ?_)
      exact Text.trimChars_eq_nil_iff.1 hnil c (List.mem_append_left _ hc)
    rw [if_neg (by simpa using hblank), hname]
    dsimp only
    rw [steps_of_written hws]
    exact ⟨rfl, List.forall_mem_cons.2 ⟨hw.isDirect, isDirect_of_written hws⟩⟩

theorem parse_eq_ok_iff {text : String} {p : Path} :
    parse text = .ok p ↔ p.source = text ∧ segmentsOf text.toList = .ok p.segments := by
  unfold parse
  constructor
  · intro h
    split at h
    · cases h
    · rename_i segments hsegments
      cases h
      exact ⟨rfl, hsegments⟩
  · rintro ⟨rfl, hsegments⟩
    rw [hsegments]

/-! ## Texts as keys -/

/-- A text with a backslash before each character that is marked. -/
def escaped (marked : Char → Bool) (cs : List Char) : List Char :=
  cs.flatMap fun c => if marked c then ['\\', c] else [c]

/-- A text between quotes means itself when each quote and each backslash has a backslash before it. -/
theorem quoted_escaped {quote : Char} {marked : Char → Bool} (hquote : marked quote = true)
    (hback : marked '\\' = true) (cs : List Char) : Quoted quote (escaped marked cs) cs := by
  induction cs with
  | nil => exact .nil
  | cons c rest ih =>
    unfold escaped
    rw [List.flatMap_cons]
    cases hc : marked c with
    | true => exact .escaped c ih
    | false =>
      refine .plain ?_ ?_ ih
      · rintro rfl
        rw [hquote] at hc
        cases hc
      · rintro rfl
        rw [hback] at hc
        cases hc

/-- The path of one entry of an object: a name, and any text as a key between quotes. -/
theorem written_key (key : List Char) {marked : Char → Bool} (hquote : marked '"' = true)
    (hback : marked '\\' = true) :
    Written (['a', '[', '"'] ++ escaped marked key ++ ['"', ']'])
      [.name "a", .name (String.ofList key)] := by
  have hname : WrittenName ['a'] (.name "a") := ⟨by simp, by decide, rfl⟩
  have hkey : WrittenStep ('[' :: ([] ++ ('"' :: (escaped marked key ++ ['"'])) ++ [] ++ [']']))
      (.name (String.ofList key)) :=
    .key (by simp) (.quoted (.inl rfl) (quoted_escaped hquote hback key)) (by simp)
  exact ⟨_, _, _, _, hname, .cons hkey .nil, by simp, rfl⟩

/-- A path without references is read from a text exactly when the text is written by the grammar and
means the steps of the path. Any text at all can be written as a key between quotes, with a backslash
before each quote and each backslash and before whatever else one likes. -/
theorem parse_iff_written (text : String) :
    (∀ p, (parse text = .ok p ∧ ∀ s ∈ p.segments, s.IsDirect) ↔
      p.source = text ∧ Written text.toList p.segments) ∧
    ∀ marked : Char → Bool, marked '"' = true → marked '\\' = true →
      ∃ p, parse (String.ofList (['a', '[', '"'] ++ escaped marked text.toList ++ ['"', ']'])) =
        .ok p ∧ p.segments = [.name "a", .name text] := by
  refine ⟨fun p => ?_, fun marked hquote hback => ?_⟩
  · rw [parse_eq_ok_iff, and_assoc, segmentsOf_eq_ok_iff]
  · have hkey := written_key text.toList hquote hback
    rw [String.ofList_toList, ← segmentsOf_eq_ok_iff] at hkey
    refine ⟨⟨_, _⟩, parse_eq_ok_iff.2 ⟨rfl, ?_⟩, rfl⟩
    rw [String.toList_ofList]
    exact hkey.1

/-- Blanks, an escaped quote and leading zeros are read as the grammar has them; no steps are written
by a numeral in two parts; and a text with quotes and a backslash is a key. -/
theorem parse_iff_written_mixed :
    Written "list [\t'it\\'s' ].x y [007]".toList
      [.name "list", .name "it's", .name "x y", .index 7] ∧
    (∀ segments, ¬Written "a[1 2]".toList segments) ∧
    ∃ p, parse "a[\"\\\"\\\\'\"]" = .ok p ∧ p.segments = [.name "a", .name "\"\\'"] := by
  obtain ⟨p, hparse, hsegments⟩ : ∃ p, parse "list [\t'it\\'s' ].x y [007]" = .ok p ∧
      p.segments = [.name "list", .name "it's", .name "x y", .index 7] := ⟨_, by cbv, rfl⟩
  refine ⟨?_, fun segments hwritten => ?_, ?_⟩
  · rw [← hsegments]
    exact (((parse_iff_written _).1 p).1 ⟨hparse, by simp [hsegments, Segment.IsDirect]⟩).2
  · obtain ⟨e, he⟩ : ∃ e, parse "a[1 2]" = .error e := ⟨_, by cbv⟩
    rw [(((parse_iff_written "a[1 2]").1 ⟨_, segments⟩).2 ⟨rfl, hwritten⟩).1] at he
    cases he
  · exact (parse_iff_written "\"\\'").2 (fun c => c = '"' || c = '\\') (by decide) (by decide)

end Path

end Wireflow
