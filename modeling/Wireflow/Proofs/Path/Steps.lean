/-
The texts of paths, references among their steps. A reference is cut out of the text by counting
brackets, quoted or not, so what stands in one has balanced brackets. Main statement: a path is read from
a text exactly when its steps are written there one after the other, and the blanks around it are no part
of it.
-/
import Wireflow.Proofs.Path.Grammar

namespace Wireflow

namespace Path

/-! ## Balanced brackets -/

/-- Every bracket that is closed has been opened before, and every bracket that is opened is closed.
-/
structure Balanced (cs : List Char) : Prop where
  opened : ∀ p, p <+: cs → p.count ']' ≤ p.count '['
  closed : cs.count ']' = cs.count '['

theorem balanced_of_plain {cs : List Char} (h : ∀ c ∈ cs, c ≠ '[' ∧ c ≠ ']') : Balanced cs := by
  have hnone : ∀ p, p <+: cs → p.count '[' = 0 ∧ p.count ']' = 0 := by
    intro p hp
    refine ⟨List.count_eq_zero.2 fun hc => ?_, List.count_eq_zero.2 fun hc => ?_⟩
    · exact (h _ (hp.subset hc)).1 rfl
    · exact (h _ (hp.subset hc)).2 rfl
  refine ⟨fun p hp => ?_, ?_⟩
  · have := hnone p hp
    omega
  · have := hnone cs (List.prefix_refl cs)
    omega

theorem Balanced.append {a b : List Char} (ha : Balanced a) (hb : Balanced b) :
    Balanced (a ++ b) := by
  have hclosed := ha.closed
  refine ⟨fun p hp => ?_, ?_⟩
  · -- a prefix ends in the first text, or takes all of it and goes on into the second
    rcases List.prefix_or_prefix_of_prefix hp (List.prefix_append a b) with hp | ⟨q, rfl⟩
    · exact ha.opened p hp
    · have := hb.opened q ((List.prefix_append_right_inj a).1 hp)
      simp only [List.count_append]
      omega
  · have := hb.closed
    simp only [List.count_append]
    omega

/-- A balanced text in brackets is balanced. -/
theorem Balanced.bracketed {cs : List Char} (h : Balanced cs) : Balanced ('[' :: (cs ++ [']'])) := by
  have hclosed : ('[' :: (cs ++ [']'])).count ']' = ('[' :: (cs ++ [']'])).count '[' := by
    have := h.closed
    simp
    omega
  refine ⟨fun p hp => ?_, hclosed⟩
  rcases List.prefix_cons_iff.1 hp with rfl | ⟨q, rfl, hq⟩
  · simp
  · rcases List.prefix_concat_iff.1 hq with rfl | hq
    · exact hclosed.le
    · have := h.opened q hq
      simp
      omega

/-! ## The text that is cut out -/

/-- Along a reference the depth goes up with a bracket that is opened and down with one that is
closed. -/
theorem count_depth {c : Char} {depth : Nat} (h : ¬(c = ']' ∧ depth = 0)) :
    depth + [c].count '[' =
      (if c = '[' then depth + 1 else if c = ']' then depth - 1 else depth) + [c].count ']' := by
  by_cases hopen : c = '['
  · subst hopen
    simp
  · by_cases hclose : c = ']'
    · subst hclose
      simp at h ⊢
      omega
    · simp [hopen, hclose]

theorem count_cons_eq (x c : Char) (cs : List Char) :
    (c :: cs).count x = [c].count x + cs.count x := by
  rw [← List.count_append]
  rfl

/-- A reference goes as far as its brackets are balanced, and ends before a bracket that closes one
more. -/
theorem spanReference_append {depth : Nat} {cs : List Char} (rest : List Char)
    (hopened : ∀ p, p <+: cs → p.count ']' ≤ depth + p.count '[')
    (hclosed : cs.count ']' = depth + cs.count '[') :
    spanReference depth (cs ++ ']' :: rest) = (cs, ']' :: rest) := by
  induction cs generalizing depth with
  | nil =>
    obtain rfl : 0 = depth := by simpa using hclosed
    simp [spanReference]
  | cons c cs ih =>
    have hstay : ¬(c = ']' ∧ depth = 0) := by
      rintro ⟨rfl, rfl⟩
      simpa using hopened [']'] (by simp)
    have hdepth := count_depth hstay
    rw [List.cons_append, spanReference, if_neg hstay]
    dsimp only
    rw [ih]
    · intro p hp
      have := hopened (c :: p) (List.cons_prefix_cons.2 ⟨rfl, hp⟩)
      rw [count_cons_eq ']', count_cons_eq '['] at this
      omega
    · rw [count_cons_eq ']', count_cons_eq '['] at hclosed
      omega

/-- Whatever is cut out, its brackets are balanced up to where it ends, and it ends with the text or
before a bracket that closes one more. -/
theorem spanReference_spec {depth : Nat} {cs inner rest : List Char}
    (h : spanReference depth cs = (inner, rest)) :
    cs = inner ++ rest ∧ (∀ p, p <+: inner → p.count ']' ≤ depth + p.count '[') ∧
      (rest = [] ∨ ∃ tail, rest = ']' :: tail ∧ inner.count ']' = depth + inner.count '[') := by
  induction cs generalizing depth inner rest with
  | nil =>
    cases h
    simp
  | cons c cs ih =>
    rw [spanReference] at h
    split at h
    · rename_i hstop
      obtain ⟨rfl, rfl⟩ := hstop
      cases h
      simp
    · rename_i hstay
      have hdepth := count_depth hstay
      dsimp only at h
      cases h
      obtain ⟨hcs, hopened, hend⟩ := ih (Prod.mk.eta.symm)
      refine ⟨by rw [List.cons_append, ← hcs], fun p hp => ?_, ?_⟩
      · rcases List.prefix_cons_iff.1 hp with rfl | ⟨q, rfl, hq⟩
        · simp
        · have := hopened q hq
          rw [count_cons_eq ']', count_cons_eq '[']
          omega
      · rcases hend with hend | ⟨tail, hend, hcount⟩
        · exact .inl hend
        · refine .inr ⟨tail, hend, ?_⟩
          rw [count_cons_eq ']', count_cons_eq '[']
          omega

/-! ## Steps with references -/

/-- A step of a path as it is written, references among them: a reference to a path stands between
`[msg.` and `]`, its brackets are balanced, and the blanks around it are no part of it. -/
inductive StepText : List Char → Segment → Prop
  | direct {w : List Char} {s : Segment} : WrittenStep w s → StepText w s
  | reference {before inner : List Char} {segments : List Segment} :
      (∀ c ∈ before, c = ' ' ∨ c = '\t') → Balanced inner →
      segmentsOf (Text.trimChars inner) = .ok segments →
      StepText ('[' :: (before ++ 'm' :: 's' :: 'g' :: '.' :: (inner ++ [']'])))
        (.reference (String.ofList (Text.trimChars inner)) segments)

/-- A reference that is read and closed goes before the steps that follow it. -/
theorem steps_reference {whole rest inner after after' : List Char} {segments : List Segment}
    (hbracket : bracket (rest.dropWhile isPadding) = .ok (.reference inner, after))
    (hinner : segmentsOf (Text.trimChars inner) = .ok segments)
    (hclose : close after = .ok after') :
    steps whole ('[' :: rest) = (steps whole after').map
      (.reference (String.ofList (Text.trimChars inner)) segments :: ·) := by
  unfold segmentsOf at hinner
  split at hinner
  · cases hinner
  · rename_i first more hstart
    split at hinner
    · cases hinner
    · rename_i innerSegments hmore
      cases hinner
      rw [steps]
      dsimp only
      rw [if_neg (by decide), if_pos rfl]
      split
      · rename_i e he
        rw [hbracket] at he
        cases he
      · rename_i s cs heq
        rw [hbracket] at heq
        cases heq
      · rename_i inner' cs heq
        rw [hbracket] at heq
        cases heq
        split
        · rename_i e he
          rw [hstart] at he
          cases he
        · rename_i first' more' heq
          rw [hstart] at heq
          cases heq
          rw [hmore]
          dsimp only
          split
          · rename_i e he
            rw [hclose] at he
            cases he
          · rename_i cs' heq
            rw [hclose] at heq
            cases heq
            cases steps whole after' <;> rfl

/-- What follows a step is read as it would be on its own; only a name goes on up to a character that
ends it. -/
theorem steps_stepText {whole w rest : List Char} {s : Segment} (h : StepText w s)
    (hrest : w.head? = some '[' ∨ ∀ c ∈ rest.head?, endsName c = true) :
    steps whole (w ++ rest) = (steps whole rest).map (s :: ·) := by
  cases h with
  | direct hw => exact steps_written hw hrest
  | @reference before inner segments hbefore hinner hsegments =>
    have hspan : spanReference 0 (inner ++ ']' :: rest) = (inner, ']' :: rest) := by
      apply spanReference_append
      · simpa using hinner.opened
      · simpa using hinner.closed
    have hstop : ∀ c ∈ ('m' :: 's' :: 'g' :: '.' :: (inner ++ ']' :: rest)).head?,
        isPadding c = false := by
      simp [isPadding]
    obtain ⟨-, hdrop⟩ := Text.span_append (fun c hc => isPadding_iff.2 (hbefore c hc)) hstop
    have hbracket : bracket ((before ++ 'm' :: 's' :: 'g' :: '.' :: (inner ++ ']' :: rest)).dropWhile
        isPadding) = .ok (.reference inner, ']' :: rest) := by
      rw [hdrop]
      simp [bracket, Text.dropStart?, hspan]
    have hclose : close (']' :: rest) = .ok rest := close_eq_ok_iff.2 ⟨[], by simp, rfl⟩
    simpa using steps_reference hbracket hsegments hclose

/-- A step is a name after a point, or stands in brackets. -/
theorem stepText_cases {w : List Char} {s : Segment} (h : StepText w s) :
    (∃ name, w = '.' :: name ∧ WrittenName name s) ∨ ∃ inside, w = '[' :: (inside ++ [']']) := by
  cases h with
  | direct hw =>
    cases hw with
    | @name name _ hname => exact .inl ⟨name, rfl, hname⟩
    | @key before w after _ _ _ _ => exact .inr ⟨before ++ w ++ after, by simp⟩
  | @reference before inner _ _ _ _ =>
    exact .inr ⟨before ++ 'm' :: 's' :: 'g' :: '.' :: inner, by simp⟩

theorem head?_flatten_of_stepTexts {ws : List (List Char)} {ss : List Segment}
    (h : List.Forall₂ StepText ws ss) : ∀ c ∈ ws.flatten.head?, endsName c = true := by
  cases h with
  | nil => simp
  | cons hw _ => rcases stepText_cases hw with ⟨name, rfl, -⟩ | ⟨inside, rfl⟩ <;> simp [endsName]

theorem spanReference_of_bracket {cs inner after : List Char}
    (h : bracket cs = .ok (.reference inner, after)) :
    ∃ rest, cs = 'm' :: 's' :: 'g' :: '.' :: rest ∧ spanReference 0 rest = (inner, after) := by
  unfold bracket at h
  split at h
  · cases h
  · split at h
    · split at h <;> simp at h
    · split at h
      · dsimp only at h
        split at h <;> simp at h
      · split at h
        · rename_i rest hrest
          cases h
          exact ⟨rest, Text.dropStart?_eq_some_iff.1 hrest, rfl⟩
        · cases h

/-- A reference that is read and closed is written in brackets that are balanced. -/
theorem stepText_of_reference {rest inner after after' : List Char} {segments : List Segment}
    (hbracket : bracket (rest.dropWhile isPadding) = .ok (.reference inner, after))
    (hsegments : segmentsOf (Text.trimChars inner) = .ok segments)
    (hclose : close after = .ok after') :
    ∃ w, StepText w (.reference (String.ofList (Text.trimChars inner)) segments) ∧
      '[' :: rest = w ++ after' := by
  obtain ⟨text, htext, hspan⟩ := spanReference_of_bracket hbracket
  obtain ⟨padding, hpadding, hafter⟩ := close_eq_ok_iff.1 hclose
  obtain ⟨rfl, hopened, hend⟩ := spanReference_spec hspan
  have hbefore : ∀ c ∈ rest.takeWhile isPadding, c = ' ' ∨ c = '\t' := fun c hc =>
    isPadding_iff.1 (List.mem_takeWhile_imp hc)
  have hsplit := List.takeWhile_append_dropWhile (p := isPadding) (l := rest)
  rw [htext] at hsplit
  rcases hend with rfl | ⟨tail, rfl, hcount⟩
  · simp at hafter
  · -- the reference ends right before the bracket that closes it, so no blanks are left between
    have hnone : padding = [] := by
      cases padding with
      | nil => rfl
      | cons c padding =>
        obtain rfl : ']' = c := (List.cons.inj hafter).1
        simpa using hpadding ']' List.mem_cons_self
    subst hnone
    obtain rfl : tail = after' := (List.cons.inj hafter).2
    refine ⟨_, .reference hbefore ⟨by simpa using hopened, by simpa using hcount⟩ hsegments, ?_⟩
    generalize rest.takeWhile isPadding = before at hsplit ⊢
    simp [← hsplit]

/-- Steps are read from a text exactly when they are written in it. -/
theorem steps_eq_ok_iff {whole : List Char} {segments : List Segment} {cs : List Char} :
    steps whole cs = .ok segments ↔
      ∃ ws, List.Forall₂ StepText ws segments ∧ cs = ws.flatten := by
  constructor
  · intro h
    induction segments generalizing cs with
    | nil =>
      rcases steps_cases h with ⟨rfl, -⟩ | ⟨_, _, _, _, -, -, -, heq⟩ |
        ⟨_, _, _, _, _, -, -, -, -, heq⟩ | ⟨_, _, _, _, _, _, -, -, -, -, -, heq⟩
      · exact ⟨[], .nil, rfl⟩
      · cases heq
      · cases heq
      · cases heq
    | cons s ss ih =>
      rcases steps_cases h with ⟨-, heq⟩ | ⟨rest, _, after, _, rfl, hname, hsteps, heq⟩ |
        ⟨rest, _, after, after', _, rfl, hkey, hclose, hsteps, heq⟩ |
        ⟨rest, inner, after, after', _, _, rfl, hinner, hsegments, hclose, hsteps, heq⟩
      · cases heq
      · cases heq
        obtain ⟨w, hw, rfl, -⟩ := nameStep_eq_ok_iff.1 hname
        obtain ⟨ws, hws, rfl⟩ := ih hsteps
        exact ⟨('.' :: w) :: ws, .cons (.direct (.name hw)) hws, rfl⟩
      · cases heq
        obtain ⟨w, hw, hrest⟩ := writtenStep_of_key hkey hclose
        obtain ⟨ws, hws, rfl⟩ := ih hsteps
        exact ⟨w :: ws, .cons (.direct hw) hws, hrest⟩
      · cases heq
        obtain ⟨w, hw, hrest⟩ := stepText_of_reference hinner hsegments hclose
        obtain ⟨ws, hws, rfl⟩ := ih hsteps
        exact ⟨w :: ws, .cons hw hws, hrest⟩
  · rintro ⟨ws, hws, rfl⟩
    induction hws with
    | nil => rw [List.flatten_nil, steps]
    | cons hw hws ih =>
      rw [List.flatten_cons, steps_stepText hw (.inr (head?_flatten_of_stepTexts hws)), ih]
      rfl

/-- A path is written like the steps after a point. -/
theorem segmentsOf_eq_ok_iff_stepTexts {cs : List Char} {segments : List Segment} :
    segmentsOf cs = .ok segments ↔
      ∃ ws, List.Forall₂ StepText ws segments ∧ '.' :: cs = ws.flatten := by
  rw [← @steps_eq_ok_iff cs]
  unfold segmentsOf start
  constructor
  · intro h
    split at h
    · cases h
    · rename_i first rest hstart
      split at h
      · cases h
      · rename_i ss hsteps
        cases h
        split at hstart
        · cases hstart
        · rw [steps_name hstart, hsteps]
          rfl
  · intro h
    rcases steps_cases h with ⟨heq, -⟩ | ⟨rest, s, after, ss, heq, hname, hsteps, rfl⟩ |
      ⟨_, _, _, _, _, heq, -⟩ | ⟨_, _, _, _, _, _, heq, -⟩
    · cases heq
    · cases heq
      have hblank : ¬Text.trimChars cs = [] := by
        intro hnil
        obtain ⟨w, ⟨-, hw, -⟩, rfl, -⟩ := nameStep_eq_ok_iff.1 hname
        refine hw (Text.trimChars_eq_nil_iff.2 fun c hc => ?_)
        exact Text.trimChars_eq_nil_iff.1 hnil c (List.mem_append_left _ hc)
      rw [if_neg (by simpa using hblank), hname]
      dsimp only
      rw [hsteps]
    · cases heq
    · cases heq

/-! ## Blanks around a path -/

theorem endsName_eq_false_of_isBlank {c : Char} (h : Text.isBlank c = true) : endsName c = false := by
  refine endsName_eq_false.2 ⟨?_, ?_, ?_⟩ <;> rintro rfl <;> revert h <;> decide

theorem not_isBlank_of_endsName {c : Char} (h : endsName c = true) : ¬Text.isBlank c = true := by
  intro hblank
  rw [endsName_eq_false_of_isBlank hblank] at h
  cases h

/-- Blanks before a path are read with its first name, which they are no part of. -/
theorem nameStep_blank_append {before : List Char} (h : ∀ c ∈ before, Text.isBlank c = true)
    (whole cs : List Char) : nameStep whole (before ++ cs) = nameStep whole cs := by
  have hname : ∀ c ∈ before, (!endsName c) = true := fun c hc => by
    simp [endsName_eq_false_of_isBlank (h c hc)]
  unfold nameStep spanName
  rw [List.takeWhile_append_of_pos hname, List.dropWhile_append_of_pos hname,
    Text.trimChars_blank_append h]

theorem steps_blank_append {before : List Char} (h : ∀ c ∈ before, Text.isBlank c = true)
    {whole cs : List Char} {ss : List Segment} :
    steps whole ('.' :: (before ++ cs)) = .ok ss ↔ steps whole ('.' :: cs) = .ok ss := by
  constructor
  · intro hsteps
    rcases steps_cases hsteps with ⟨heq, -⟩ | ⟨_, _, _, _, heq, hname, hmore, rfl⟩ |
      ⟨_, _, _, _, _, heq, -⟩ | ⟨_, _, _, _, _, _, heq, -⟩ <;> cases heq
    rw [nameStep_blank_append h] at hname
    rw [steps_name hname, hmore]
    rfl
  · intro hsteps
    rcases steps_cases hsteps with ⟨heq, -⟩ | ⟨_, _, _, _, heq, hname, hmore, rfl⟩ |
      ⟨_, _, _, _, _, heq, -⟩ | ⟨_, _, _, _, _, _, heq, -⟩ <;> cases heq
    rw [← nameStep_blank_append h] at hname
    rw [steps_name hname, hmore]
    rfl

/-- Blanks after steps belong to the last name and are no part of it. -/
theorem stepTexts_of_append_blank {ws : List (List Char)} {ss : List Segment}
    (h : List.Forall₂ StepText ws ss) : ∀ {cs after : List Char}, ws.flatten = cs ++ after →
      (∀ c ∈ after, Text.isBlank c = true) → ∃ ws', List.Forall₂ StepText ws' ss ∧
        cs = ws'.flatten := by
  induction h with
  | nil =>
    intro cs after hcs _
    obtain ⟨rfl, -⟩ := List.append_eq_nil_iff.1 hcs.symm
    exact ⟨[], .nil, rfl⟩
  | @cons w s ws ss hw hws ih =>
    intro cs after hcs hafter
    rw [List.flatten_cons] at hcs
    rcases List.append_eq_append_iff.1 hcs with ⟨cs', rfl, hrest⟩ | ⟨tail, hwhole, rfl⟩
    · obtain ⟨ws', hws', rfl⟩ := ih hrest hafter
      exact ⟨w :: ws', .cons hw hws', rfl⟩
    · -- the blanks reach back into this step, so no other step follows it
      have hlast : ws = [] ∧ ss = [] := by
        cases hws with
        | nil => exact ⟨rfl, rfl⟩
        | cons hw' _ =>
          rcases stepText_cases hw' with ⟨name, rfl, -⟩ | ⟨inside, rfl⟩
          · exact absurd (hafter '.' (by simp)) (not_isBlank_of_endsName rfl)
          · exact absurd (hafter '[' (by simp)) (not_isBlank_of_endsName rfl)
      obtain ⟨rfl, rfl⟩ := hlast
      have htail : ∀ c ∈ tail, Text.isBlank c = true := fun c hc =>
        hafter c (List.mem_append_left _ hc)
      rcases stepText_cases hw with ⟨name, rfl, hname⟩ | ⟨inside, rfl⟩
      · cases cs with
        | nil =>
          obtain rfl : '.' :: name = tail := hwhole
          exact absurd (htail '.' List.mem_cons_self) (not_isBlank_of_endsName rfl)
        | cons c cs =>
          obtain ⟨rfl, hrest⟩ := List.cons.inj hwhole
          obtain rfl : name = cs ++ tail := hrest
          obtain ⟨hplain, hne, rfl⟩ := hname
          rw [Text.trimChars_append_blank htail] at hne ⊢
          refine ⟨['.' :: cs], .cons (.direct (.name ⟨fun c hc => ?_, hne, rfl⟩)) .nil, by simp⟩
          exact hplain c (List.mem_append_left _ hc)
      · -- a bracket is no blank, so nothing is left to take away
        rcases List.eq_nil_or_concat tail with rfl | ⟨tail, c, rfl⟩
        · rw [List.append_nil] at hwhole
          exact ⟨[cs], .cons (hwhole ▸ hw) .nil, by simp⟩
        · rw [← List.cons_append, List.concat_eq_append, ← List.append_assoc] at hwhole
          obtain rfl : ']' = c := (List.cons.inj (List.append_inj' hwhole rfl).2).1
          exact absurd (htail ']' (by simp)) (not_isBlank_of_endsName rfl)

/-- A path without the blanks at its ends is the same path. -/
theorem segmentsOf_trimChars {cs : List Char} {ss : List Segment} (h : segmentsOf cs = .ok ss) :
    segmentsOf (Text.trimChars cs) = .ok ss := by
  obtain ⟨before, after, hbefore, hafter, hcs⟩ := Text.exists_trimChars cs
  rw [segmentsOf_eq_ok_iff_stepTexts, ← @steps_eq_ok_iff cs, hcs, steps_blank_append hbefore,
    steps_eq_ok_iff] at h
  obtain ⟨ws, hws, hflat⟩ := h
  rw [← List.cons_append] at hflat
  exact segmentsOf_eq_ok_iff_stepTexts.2 (stepTexts_of_append_blank hws hflat.symm hafter)

end Path

end Wireflow
