/-
Paths in place of an index: the text of a path between `a[msg.` and `]`. A path can be referred to
exactly when the brackets of its text are balanced. Brackets that no quoted key holds always are, and a
reference to a path with balanced brackets has balanced brackets again, so references nest to any depth.
-/
import Wireflow.Proofs.Path.Steps

namespace Wireflow

/-- A name without brackets, or no name at all. -/
def Segment.IsPlain : Segment → Prop
  | .name text => ∀ c ∈ text.toList, c ≠ '[' ∧ c ≠ ']'
  | _ => True

namespace Path

/-! ## Brackets that are closed too often -/

/-- Steps start with a point or an opening bracket. -/
theorem steps_cons_ne_ok {c : Char} (hpoint : c ≠ '.') (hopen : c ≠ '[') (whole rest : List Char)
    (ss : List Segment) : steps whole (c :: rest) ≠ .ok ss := by
  intro hsteps
  rcases steps_cases hsteps with ⟨heq, -⟩ | ⟨_, _, _, _, heq, -⟩ | ⟨_, _, _, _, _, heq, -⟩ |
    ⟨_, _, _, _, _, _, heq, -⟩
  · cases heq
  · exact hpoint (List.cons.inj heq).1
  · exact hopen (List.cons.inj heq).1
  · exact hopen (List.cons.inj heq).1

theorem map_ne_ok {r : Except PathError (List Segment)} (h : ∀ ss, r ≠ .ok ss) (s : Segment)
    (ss : List Segment) : r.map (s :: ·) ≠ .ok ss := by
  intro hmap
  cases r with
  | error e => cases hmap
  | ok ss' => exact h ss' rfl

/-- After the steps of a path, and after blanks that may follow them, no closing bracket can be read.
-/
theorem steps_close_ne_ok {ws : List (List Char)} {ss : List Segment}
    (h : List.Forall₂ StepText ws ss) {after : List Char}
    (hafter : ∀ c ∈ after, Text.isBlank c = true) (whole rest : List Char) :
    ∀ ss', steps whole (ws.flatten ++ (after ++ ']' :: rest)) ≠ .ok ss' := by
  have hclose := steps_cons_ne_ok (c := ']') (by decide) (by decide) whole rest
  induction h with
  | nil =>
    cases after with
    | nil => exact hclose
    | cons c after =>
      have hc := endsName_eq_false.1 (endsName_eq_false_of_isBlank (hafter c List.mem_cons_self))
      exact steps_cons_ne_ok hc.1 hc.2.1 whole _
  | @cons w s ws ss hw hws ih =>
    rw [List.flatten_cons, List.append_assoc]
    rcases stepText_cases hw with ⟨name, rfl, hplain, hne, rfl⟩ | ⟨inside, rfl⟩
    · cases hws with
      | nil =>
        -- the blanks are read with the last name, and the bracket is what stands after it
        have hname : nameStep whole ((name ++ after) ++ ']' :: rest) =
            .ok (.name (String.ofList (Text.trimChars (name ++ after))), ']' :: rest) := by
          refine nameStep_eq_ok_iff.2 ⟨name ++ after, ⟨fun c hc => ?_, ?_, rfl⟩, rfl, by simp [endsName]⟩
          · rcases List.mem_append.1 hc with hc | hc
            · exact hplain c hc
            · exact endsName_eq_false.1 (endsName_eq_false_of_isBlank (hafter c hc))
          · rwa [Text.trimChars_append_blank hafter]
        rw [List.flatten_nil, List.nil_append, List.cons_append, ← List.append_assoc,
          steps_name hname]
        exact map_ne_ok hclose _
      | cons hw' _ =>
        rw [steps_stepText hw (.inr ?_)]
        · exact map_ne_ok ih _
        · rcases stepText_cases hw' with ⟨name', rfl, -⟩ | ⟨inside, rfl⟩ <;> simp [endsName]
    · rw [steps_stepText hw (.inl rfl)]
      exact map_ne_ok ih _

/-- A text that goes on after a whole path with a closing bracket is no path. -/
theorem segmentsOf_close_ne_ok {cs : List Char} {ss : List Segment}
    (h : segmentsOf (Text.trimChars cs) = .ok ss) (rest : List Char) (ss' : List Segment) :
    segmentsOf (cs ++ ']' :: rest) ≠ .ok ss' := by
  obtain ⟨before, after, hbefore, hafter, hcs⟩ := Text.exists_trimChars cs
  obtain ⟨ws, hws, hflat⟩ := segmentsOf_eq_ok_iff_stepTexts.1 h
  intro hlong
  rw [segmentsOf_eq_ok_iff_stepTexts, ← @steps_eq_ok_iff cs, hcs, List.append_assoc,
    steps_blank_append hbefore, List.append_assoc, ← List.cons_append, hflat] at hlong
  exact steps_close_ne_ok hws hafter _ rest ss' hlong

/-! ## Brackets in quoted keys -/

/-- A quoted key is written with brackets only when it holds some. -/
theorem Quoted.plain_of_text {quote : Char} {w text : List Char} (h : Quoted quote w text)
    (htext : ∀ c ∈ text, c ≠ '[' ∧ c ≠ ']') : ∀ c ∈ w, c ≠ '[' ∧ c ≠ ']' := by
  induction h with
  | nil => simp
  | escaped c _ ih =>
    obtain ⟨hc, hrest⟩ := List.forall_mem_cons.1 htext
    exact List.forall_mem_cons.2 ⟨by decide, List.forall_mem_cons.2 ⟨hc, ih hrest⟩⟩
  | plain _ _ _ ih =>
    obtain ⟨hc, hrest⟩ := List.forall_mem_cons.1 htext
    exact List.forall_mem_cons.2 ⟨hc, ih hrest⟩

theorem WrittenKey.plain {w : List Char} {s : Segment} (h : WrittenKey w s) (hs : s.IsPlain) :
    ∀ c ∈ w, c ≠ '[' ∧ c ≠ ']' := by
  cases h with
  | @quoted quote w text hquote hw =>
    have hinside := hw.plain_of_text (by simpa [Segment.IsPlain] using hs)
    have hends : quote ≠ '[' ∧ quote ≠ ']' := by rcases hquote with rfl | rfl <;> decide
    intro c hc
    simp only [List.mem_cons, List.mem_append, List.not_mem_nil, or_false] at hc
    rcases hc with rfl | hc | rfl
    · exact hends
    · exact hinside c hc
    · exact hends
  | index _ hdigits _ =>
    intro c hc
    have := hdigits c hc
    constructor <;> rintro rfl <;> revert this <;> decide

/-- Only a quoted key can unbalance the brackets of a step. -/
theorem StepText.balanced {w : List Char} {s : Segment} (h : StepText w s) (hs : s.IsPlain) :
    Balanced w := by
  cases h with
  | direct hw =>
    cases hw with
    | name hname =>
      refine balanced_of_plain (List.forall_mem_cons.2 ⟨by decide, fun c hc => ?_⟩)
      exact (hname.1 c hc).2
    | @key before w after _ hbefore hkey hafter =>
      apply Balanced.bracketed
      refine balanced_of_plain fun c hc => ?_
      simp only [List.mem_append] at hc
      rcases hc with (hc | hc) | hc
      · rcases hbefore c hc with rfl | rfl <;> decide
      · exact hkey.plain hs c hc
      · rcases hafter c hc with rfl | rfl <;> decide
  | @reference before inner _ hbefore hinner _ =>
    have hblanks : Balanced before := balanced_of_plain fun c hc => by
      rcases hbefore c hc with rfl | rfl <;> decide
    have hmark : Balanced ['m', 's', 'g', '.'] := balanced_of_plain (by simp)
    simpa using (hblanks.append (hmark.append hinner)).bracketed

/-- A path no name of which holds a bracket has balanced brackets. -/
theorem balanced_of_segmentsOf {cs : List Char} {ss : List Segment} (h : segmentsOf cs = .ok ss)
    (hplain : ∀ s ∈ ss, s.IsPlain) : Balanced cs := by
  obtain ⟨ws, hws, hflat⟩ := segmentsOf_eq_ok_iff_stepTexts.1 h
  have hsteps : Balanced ws.flatten := by
    clear hflat h
    induction hws with
    | nil => exact balanced_of_plain (by simp)
    | cons hw _ ih =>
      obtain ⟨hs, hss⟩ := List.forall_mem_cons.1 hplain
      rw [List.flatten_cons]
      exact (hw.balanced hs).append (ih hss)
  rw [← hflat] at hsteps
  -- the point before the path is no bracket
  refine ⟨fun p hp => ?_, by simpa using hsteps.closed⟩
  simpa using hsteps.opened ('.' :: p) (List.cons_prefix_cons.2 ⟨rfl, hp⟩)

/-! ## Paths as indices -/

/-- The path that takes the value at another path as an index. -/
def referenced (e : String) : String :=
  "a[msg." ++ e ++ "]"

theorem toList_referenced (e : String) :
    (referenced e).toList = 'a' :: '[' :: 'm' :: 's' :: 'g' :: '.' :: (e.toList ++ [']']) := by
  simp [referenced]

theorem balanced_referenced {e : String} (h : Balanced e.toList) :
    Balanced (referenced e).toList := by
  have hmark : Balanced ['m', 's', 'g', '.'] := balanced_of_plain (by simp)
  have hname : Balanced ['a'] := balanced_of_plain (by simp)
  rw [toList_referenced]
  simpa using hname.append (hmark.append h).bracketed

/-- A reference that ends the text and is read refers to all that stands before the last bracket: cut
off earlier, it would leave a path that a bracket goes on from. -/
theorem balanced_of_steps_reference {whole cs : List Char} {segments ss : List Segment}
    (h : segmentsOf cs = .ok segments)
    (hread : steps whole ('[' :: 'm' :: 's' :: 'g' :: '.' :: (cs ++ [']'])) = .ok ss) :
    Balanced cs ∧ ss = [.reference (String.ofList (Text.trimChars cs)) segments] := by
  have hbracket : bracket (('m' :: 's' :: 'g' :: '.' :: (cs ++ [']'])).dropWhile isPadding) =
      .ok (.reference (spanReference 0 (cs ++ [']'])).1, (spanReference 0 (cs ++ [']'])).2) := by
    simp [bracket, isPadding, Text.dropStart?]
  rcases steps_cases hread with ⟨heq, -⟩ | ⟨_, _, _, _, heq, -⟩ |
    ⟨_, _, _, _, _, heq, hkey, -⟩ | ⟨_, inner, after, after', _, _, heq, hinner, hsegments, hclose,
      hmore, rfl⟩
  · cases heq
  · cases heq
  · cases heq
    rw [hbracket] at hkey
    cases hkey
  · cases heq
    rw [hbracket] at hinner
    obtain ⟨⟨⟩, ⟨⟩⟩ := hinner
    obtain ⟨hcs, hopened, hend⟩ := spanReference_spec (Prod.mk.eta (p := spanReference 0 (cs ++ [']']))).symm
    generalize (spanReference 0 (cs ++ [']'])).1 = inner at *
    generalize (spanReference 0 (cs ++ [']'])).2 = after at *
    obtain ⟨padding, hpadding, hafter⟩ := close_eq_ok_iff.1 hclose
    rcases hend with rfl | ⟨tail, rfl, hcount⟩
    · simp at hafter
    · rcases List.eq_nil_or_concat tail with rfl | ⟨tail, c, rfl⟩
      · obtain rfl : cs = inner := (List.append_inj' hcs rfl).1
        rw [segmentsOf_trimChars h] at hsegments
        cases hsegments
        obtain ⟨rfl, hnone⟩ : padding = [] ∧ after' = [] := by
          cases padding with
          | nil => simpa using hafter
          | cons c padding => simp at hafter
        rw [hnone, steps] at hmore
        cases hmore
        exact ⟨⟨by simpa using hopened, by simpa using hcount⟩, rfl⟩
      · rw [List.concat_eq_append, ← List.cons_append, ← List.append_assoc] at hcs
        obtain rfl : cs = inner ++ ']' :: tail := (List.append_inj' hcs rfl).1
        exact absurd h (segmentsOf_close_ne_ok hsegments tail segments)

theorem writtenName_a : WrittenName ['a'] (.name "a") := by
  have htrim : Text.trimChars ['a'] = ['a'] := rfl
  refine ⟨by simp, ?_, rfl⟩
  rw [htrim]
  exact List.cons_ne_nil _ _

/-- A reference to a path is read exactly when the brackets of the path are balanced, and then it is
what is referred to. -/
theorem segmentsOf_referenced_iff {e : String} {ss : List Segment}
    (h : segmentsOf e.toList = .ok ss) (ss' : List Segment) :
    segmentsOf (referenced e).toList = .ok ss' ↔
      Balanced e.toList ∧ ss' = [.name "a", .reference (Text.trim e) ss] := by
  rw [toList_referenced]
  constructor
  · intro hread
    have hname : nameStep [] ('a' :: '[' :: 'm' :: 's' :: 'g' :: '.' :: (e.toList ++ [']'])) =
        .ok (.name "a", '[' :: 'm' :: 's' :: 'g' :: '.' :: (e.toList ++ [']'])) :=
      nameStep_eq_ok_iff.2 ⟨['a'], writtenName_a, rfl, by simp [endsName]⟩
    rw [segmentsOf_eq_ok_iff_stepTexts, ← @steps_eq_ok_iff [], steps_name hname] at hread
    cases hsteps : steps [] ('[' :: 'm' :: 's' :: 'g' :: '.' :: (e.toList ++ [']'])) with
    | error err =>
      rw [hsteps] at hread
      cases hread
    | ok more =>
      rw [hsteps] at hread
      cases hread
      obtain ⟨hbalanced, rfl⟩ := balanced_of_steps_reference h hsteps
      exact ⟨hbalanced, rfl⟩
  · rintro ⟨hbalanced, rfl⟩
    have hname : StepText ['.', 'a'] (.name "a") :=
      .direct (.name writtenName_a)
    have href : StepText ('[' :: ([] ++ 'm' :: 's' :: 'g' :: '.' :: (e.toList ++ [']'])))
        (.reference (Text.trim e) ss) :=
      .reference (by simp) hbalanced (segmentsOf_trimChars h)
    exact segmentsOf_eq_ok_iff_stepTexts.2 ⟨_, .cons hname (.cons href .nil), by simp⟩

/-- The steps of a path that has been put in place of an index again and again. -/
def nested (e : String) (segments : List Segment) : Nat → List Segment
  | 0 => segments
  | n + 1 => [.name "a", .reference (Text.trim (referenced^[n] e)) (nested e segments n)]

theorem parse_iterate_referenced {e : String} {p : Path} (h : parse e = .ok p)
    (hbalanced : Balanced e.toList) (n : Nat) :
    Balanced (referenced^[n] e).toList ∧
      parse (referenced^[n] e) = .ok ⟨referenced^[n] e, nested e p.segments n⟩ := by
  induction n with
  | zero => exact ⟨hbalanced, parse_eq_ok_iff.2 ⟨rfl, (parse_eq_ok_iff.1 h).2⟩⟩
  | succ n ih =>
    obtain ⟨hn, hparse⟩ := ih
    rw [Function.iterate_succ_apply']
    refine ⟨balanced_referenced hn, parse_eq_ok_iff.2 ⟨rfl, ?_⟩⟩
    exact (segmentsOf_referenced_iff (parse_eq_ok_iff.1 hparse).2 _).2 ⟨hn, rfl⟩

/-- A path can be put in place of an index exactly when the brackets of its text are balanced, and then
it is read as a reference to its own steps, to any depth. They are balanced when no name of the path
holds a bracket. -/
theorem parse_referenced_iff {e : String} {p : Path} (h : parse e = .ok p) :
    (∀ q, parse (referenced e) = .ok q ↔ Balanced e.toList ∧
      q = ⟨referenced e, [.name "a", .reference (Text.trim e) p.segments]⟩) ∧
    (Balanced e.toList → ∀ n, parse (referenced^[n] e) =
      .ok ⟨referenced^[n] e, nested e p.segments n⟩) ∧
    ((∀ s ∈ p.segments, s.IsPlain) → Balanced e.toList) := by
  have hsegments := (parse_eq_ok_iff.1 h).2
  refine ⟨fun q => ?_, fun hbalanced n => (parse_iterate_referenced h hbalanced n).2,
    balanced_of_segmentsOf hsegments⟩
  rw [parse_eq_ok_iff, segmentsOf_referenced_iff hsegments]
  constructor
  · rintro ⟨hsource, hbalanced, hq⟩
    refine ⟨hbalanced, ?_⟩
    rw [← hsource, ← hq]
  · rintro ⟨hbalanced, rfl⟩
    exact ⟨rfl, hbalanced, rfl⟩

/-- A path with a reference of its own, a quoted key and a blank at its end nests twice. -/
theorem parse_referenced_iff_twice :
    ∃ p, parse "b['x y'][msg.c[0]].d " = .ok p ∧ Balanced "b['x y'][msg.c[0]].d ".toList ∧
      parse "a[msg.a[msg.b['x y'][msg.c[0]].d ]]" =
        .ok ⟨"a[msg.a[msg.b['x y'][msg.c[0]].d ]]",
          [.name "a", .reference "a[msg.b['x y'][msg.c[0]].d ]"
            [.name "a", .reference "b['x y'][msg.c[0]].d" p.segments]]⟩ := by
  obtain ⟨p, hparse, hsegments⟩ : ∃ p, parse "b['x y'][msg.c[0]].d " = .ok p ∧
      p.segments = [.name "b", .name "x y", .reference "c[0]" [.name "c", .index 0], .name "d"] :=
    ⟨_, by cbv, rfl⟩
  obtain ⟨-, hnest, hplain⟩ := parse_referenced_iff hparse
  have hbalanced : Balanced "b['x y'][msg.c[0]].d ".toList := by
    apply hplain
    rw [hsegments]
    simp [Segment.IsPlain]
  exact ⟨p, hparse, hbalanced, hnest hbalanced 2⟩

/-- A path with a closing bracket in a quoted key is a path, but cannot be put in place of an index. -/
theorem not_parse_referenced_bracket :
    (∃ p, parse "b[\"]\"]" = .ok p ∧ p.segments = [.name "b", .name "]"]) ∧
      ∀ q, parse (referenced "b[\"]\"]") ≠ .ok q := by
  refine ⟨⟨_, by cbv, rfl⟩, fun q hq => ?_⟩
  obtain ⟨e, he⟩ : ∃ e, parse (referenced "b[\"]\"]") = .error e := ⟨_, by cbv⟩
  rw [he] at hq
  cases hq

end Path

end Wireflow
