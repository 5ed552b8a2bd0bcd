/-
What an expression matches. The words of an expression are laid down as a relation, without places and
sets of them, and the places that a match leads to turn out to be the ends of the words that stand there.
Conditions on places are left out, since a word does not tell where it stands.
-/
import Wireflow.Pattern.Basic
import Mathlib.Tactic

namespace Wireflow

namespace Regex

/-- The texts that an expression without conditions on places matches. -/
inductive Word : Regex → List Char → Prop
  | empty : Word .empty []
  | text {cs : List Char} : Word (.text cs) cs
  | set {s : CharSet} {c : Char} : s.mem c = true → Word (.set s) [c]
  | group {r : Regex} {w : List Char} : Word r w → Word (.group r) w
  | done : Word (.seq []) []
  | next {r : Regex} {rs : List Regex} {u v : List Char} :
      Word r u → Word (.seq rs) v → Word (.seq (r :: rs)) (u ++ v)
  | alt {r : Regex} {rs : List Regex} {w : List Char} : r ∈ rs → Word r w → Word (.alt rs) w
  | repeated {r : Regex} {lazy : Bool} {least : Nat} {greatest : Option Nat}
      {ws : List (List Char)} : least ≤ ws.length →
      (∀ n, greatest = some n → ws.length ≤ max least n) → (∀ w ∈ ws, Word r w) →
      Word (.repeated r lazy least greatest) ws.flatten

variable {r : Regex} {rs : List Regex} {w : List Char}

theorem word_text_iff {cs : List Char} : (text cs).Word w ↔ w = cs :=
  ⟨fun h => by cases h; rfl, fun h => h ▸ .text⟩

theorem word_seq_nil_iff : (seq []).Word w ↔ w = [] :=
  ⟨fun h => by cases h; rfl, fun h => h ▸ .done⟩

theorem word_group_iff : (group r).Word w ↔ r.Word w :=
  ⟨fun h => by cases h with | group h => exact h, .group⟩

theorem word_seq_cons_iff :
    (seq (r :: rs)).Word w ↔ ∃ u v, r.Word u ∧ (seq rs).Word v ∧ w = u ++ v :=
  ⟨fun h => by cases h with | next hu hv => exact ⟨_, _, hu, hv, rfl⟩,
    fun ⟨_, _, hu, hv, hw⟩ => hw ▸ .next hu hv⟩

theorem word_alt_iff : (alt rs).Word w ↔ ∃ r ∈ rs, r.Word w :=
  ⟨fun h => by cases h with | alt hr hw => exact ⟨_, hr, hw⟩, fun ⟨_, hr, hw⟩ => .alt hr hw⟩

/-! ## Words at places -/

/-- A word stands in a text from one place to another. -/
def Stands (cs w : List Char) (i j : Nat) : Prop :=
  w <+: cs.drop i ∧ j = i + w.length

/-- A step leads from some places to the ends of all words of a language that stand there. -/
def Leads (cs : List Char) (step : List Nat → List Nat) (L : List Char → Prop) : Prop :=
  ∀ places j, j ∈ step places ↔ ∃ i ∈ places, ∃ w, L w ∧ Stands cs w i j

variable {cs u v : List Char} {i j : Nat} {step step' : List Nat → List Nat}
  {L L' : List Char → Prop} {places : List Nat}

theorem stands_nil : Stands cs [] i j ↔ j = i := by
  simp [Stands]

theorem stands_append : Stands cs (u ++ v) i j ↔ ∃ k, Stands cs u i k ∧ Stands cs v k j := by
  unfold Stands
  constructor
  · rintro ⟨⟨rest, hrest⟩, rfl⟩
    refine ⟨i + u.length, ⟨⟨v ++ rest, ?_⟩, rfl⟩, ⟨rest, ?_⟩, ?_⟩
    · rw [← hrest, List.append_assoc]
    · rw [← List.drop_drop, ← hrest, List.append_assoc, List.drop_left]
    · rw [List.length_append, Nat.add_assoc]
  · rintro ⟨k, ⟨⟨rest, hrest⟩, rfl⟩, ⟨rest', hrest'⟩, rfl⟩
    refine ⟨⟨rest', ?_⟩, by rw [List.length_append, Nat.add_assoc]⟩
    rw [← List.drop_drop, ← hrest, List.drop_left] at hrest'
    rw [List.append_assoc, hrest', hrest]

theorem Leads.comp (h : Leads cs step L) (h' : Leads cs step' L') :
    Leads cs (fun places => step' (step places)) fun w => ∃ u v, L u ∧ L' v ∧ w = u ++ v := by
  intro places j
  rw [h']
  constructor
  · rintro ⟨k, hk, v, hv, hstands⟩
    obtain ⟨i, hi, u, hu, hstands'⟩ := (h places k).1 hk
    exact ⟨i, hi, u ++ v, ⟨u, v, hu, hv, rfl⟩, stands_append.2 ⟨k, hstands', hstands⟩⟩
  · rintro ⟨i, hi, _, ⟨u, v, hu, hv, rfl⟩, hstands⟩
    obtain ⟨k, hstands, hstands'⟩ := stands_append.1 hstands
    exact ⟨k, (h places k).2 ⟨i, hi, u, hu, hstands⟩, v, hv, hstands'⟩

theorem Leads.congr (h : Leads cs step L) (hL : ∀ w, L w ↔ L' w) : Leads cs step L' := by
  intro places j
  simp only [h places j, hL]

theorem mem_merge (as bs : List Nat) : j ∈ merge as bs ↔ j ∈ as ∨ j ∈ bs := by
  fun_induction merge as bs with
  | case1 bs => simp
  | case2 as => simp
  | case3 a as b bs hlt ih => simp only [List.mem_cons, ih]; tauto
  | case4 a as b bs hlt hgt ih => simp only [List.mem_cons, ih]; tauto
  | case5 a as b bs hlt hgt ih =>
    obtain rfl : a = b := by omega
    simp only [List.mem_cons, ih]
    tauto

theorem leads_follow (p : Char → Bool) :
    Leads cs (follow cs.toArray p) fun w => ∃ c, p c = true ∧ w = [c] := by
  intro places j
  unfold follow Stands
  simp only [List.mem_map, List.mem_filter, List.getElem?_toArray]
  constructor
  · rintro ⟨i, ⟨hi, hc⟩, rfl⟩
    cases hget : cs[i]? with
    | none => rw [hget] at hc; cases hc
    | some c =>
      rw [hget] at hc
      obtain ⟨hlt, rfl⟩ := List.getElem?_eq_some_iff.1 hget
      refine ⟨i, hi, [cs[i]], ⟨_, hc, rfl⟩, ⟨cs.drop (i + 1), ?_⟩, rfl⟩
      rw [List.drop_eq_getElem_cons hlt, List.singleton_append]
  · rintro ⟨i, hi, _, ⟨c, hc, rfl⟩, ⟨rest, hrest⟩, rfl⟩
    have hget : cs[i]? = some c := by
      rw [← List.head?_drop, ← hrest]
      rfl
    exact ⟨i, ⟨hi, by rw [hget]; exact hc⟩, rfl⟩

/-! ## Repetitions -/

/-- The words that are made of as many words of a language as some numbers allow. -/
def Repeats (L : List Char → Prop) (count : Nat → Prop) (w : List Char) : Prop :=
  ∃ ws : List (List Char), count ws.length ∧ (∀ u ∈ ws, L u) ∧ w = ws.flatten

theorem word_repeated_iff {lazy : Bool} {least : Nat} {greatest : Option Nat} :
    (repeated r lazy least greatest).Word w ↔
      Repeats r.Word (fun n => least ≤ n ∧ ∀ m, greatest = some m → n ≤ max least m) w :=
  ⟨fun h => by cases h with | repeated hl hg hws => exact ⟨_, ⟨hl, hg⟩, hws, rfl⟩,
    fun ⟨_, hn, hws, hw⟩ => hw ▸ .repeated hn.1 hn.2 hws⟩

/-- Words of one character each are the characters of the text that they make up. -/
theorem eq_map_flatten {ws : List (List Char)} {p : Char → Prop} (h : ∀ u ∈ ws, ∃ c, p c ∧ u = [c]) :
    ws = ws.flatten.map fun c => [c] := by
  induction ws with
  | nil => rfl
  | cons u ws ih =>
    obtain ⟨⟨c, -, rfl⟩, hws⟩ := List.forall_mem_cons.1 h
    rw [List.flatten_cons, List.singleton_append, List.map_cons, ← ih hws]

/-- The words of an unbounded run of a set are made of its characters. -/
theorem word_run_iff {s : CharSet} {lazy : Bool} {least : Nat} :
    (repeated (set s) lazy least none).Word w ↔ least ≤ w.length ∧ ∀ c ∈ w, s.mem c = true := by
  rw [word_repeated_iff]
  constructor
  · rintro ⟨ws, ⟨hleast, -⟩, hws, rfl⟩
    have hone : ∀ u ∈ ws, ∃ c, s.mem c = true ∧ u = [c] := by
      intro u hu
      cases hws u hu with
      | set hc => exact ⟨_, hc, rfl⟩
    constructor
    · rw [eq_map_flatten hone, List.length_map] at hleast
      exact hleast
    · intro c hc
      obtain ⟨u, hu, hcu⟩ := List.mem_flatten.1 hc
      obtain ⟨c', hc', rfl⟩ := hone u hu
      rw [List.mem_singleton.1 hcu]
      exact hc'
  · rintro ⟨hleast, hw⟩
    refine ⟨w.map fun c => [c], ⟨by simpa using hleast, nofun⟩, ?_, (List.flatMap_singleton' w).symm⟩
    intro u hu
    obtain ⟨c, hc, rfl⟩ := List.mem_map.1 hu
    exact .set (hw c hc)

theorem times_of_fixed (h : step places = places) (n : Nat) : times step n places = places := by
  cases n with
  | zero => rfl
  | succ n => simp [times, h]

theorem times_succ (step : List Nat → List Nat) (n : Nat) (places : List Nat) :
    times step (n + 1) places = times step n (step places) := by
  rw [times]
  split
  · rename_i h
    rw [beq_iff_eq.1 h, times_of_fixed (beq_iff_eq.1 h)]
  · rfl

theorem Leads.times (h : Leads cs step L) (n : Nat) :
    Leads cs (Regex.times step n) (Repeats L (· = n)) := by
  induction n with
  | zero =>
    intro places j
    constructor
    · intro hj
      exact ⟨j, hj, [], ⟨[], rfl, by simp, rfl⟩, stands_nil.2 rfl⟩
    · rintro ⟨i, hi, _, ⟨ws, hn, -, rfl⟩, hstands⟩
      rw [List.length_eq_zero_iff.1 hn, List.flatten_nil, stands_nil] at hstands
      rw [hstands]
      exact hi
  | succ n ih =>
    intro places j
    rw [times_succ, h.comp ih places j]
    refine exists_congr fun i => and_congr_right fun _ => exists_congr fun w => ?_
    refine and_congr_left fun _ => ?_
    constructor
    · rintro ⟨u, _, hu, ⟨ws, rfl, hws, rfl⟩, rfl⟩
      exact ⟨u :: ws, rfl, List.forall_mem_cons.2 ⟨hu, hws⟩, rfl⟩
    · rintro ⟨_ | ⟨u, ws⟩, hn, hws, rfl⟩
      · cases hn
      · obtain ⟨hu, hws⟩ := List.forall_mem_cons.1 hws
        exact ⟨u, _, hu, ⟨ws, Nat.succ.inj hn, hws, rfl⟩, rfl⟩

theorem within_of_fixed (h : merge places (step places) = places) (n : Nat) :
    within step n places = places := by
  cases n with
  | zero => rfl
  | succ n => simp [within, h]

theorem within_succ (step : List Nat → List Nat) (n : Nat) (places : List Nat) :
    within step (n + 1) places = within step n (merge places (step places)) := by
  rw [within]
  split
  · rename_i h
    rw [beq_iff_eq.1 h, within_of_fixed (beq_iff_eq.1 h)]
  · rfl

theorem Leads.within (h : Leads cs step L) (n : Nat) :
    Leads cs (Regex.within step n) (Repeats L (· ≤ n)) := by
  induction n with
  | zero => exact (h.times 0).congr fun w => by simp [Repeats]
  | succ n ih =>
    intro places j
    rw [within_succ, ih]
    constructor
    · rintro ⟨i, hi, _, ⟨ws, hn, hws, rfl⟩, hstands⟩
      rcases (mem_merge _ _).1 hi with hi | hi
      · exact ⟨i, hi, _, ⟨ws, Nat.le_succ_of_le hn, hws, rfl⟩, hstands⟩
      · obtain ⟨i', hi', u, hu, hstands'⟩ := (h places i).1 hi
        refine ⟨i', hi', u ++ ws.flatten, ⟨u :: ws, Nat.succ_le_succ hn, ?_, rfl⟩, ?_⟩
        · exact List.forall_mem_cons.2 ⟨hu, hws⟩
        · exact stands_append.2 ⟨i, hstands', hstands⟩
    · rintro ⟨i, hi, _, ⟨_ | ⟨u, ws⟩, hn, hws, rfl⟩, hstands⟩
      · exact ⟨i, (mem_merge _ _).2 (.inl hi), [], ⟨[], Nat.zero_le n, by simp, rfl⟩, hstands⟩
      · obtain ⟨hu, hws⟩ := List.forall_mem_cons.1 hws
        obtain ⟨k, hstands, hstands'⟩ := stands_append.1 hstands
        exact ⟨k, (mem_merge _ _).2 (.inr ((h places k).2 ⟨i, hi, u, hu, hstands⟩)), _,
          ⟨ws, Nat.le_of_succ_le_succ hn, hws, rfl⟩, hstands'⟩

/-- So many words and then at most so many more. -/
theorem repeats_append_iff {least more : Nat} :
    (∃ u v, Repeats L (· = least) u ∧ Repeats L (· ≤ more) v ∧ w = u ++ v) ↔
      Repeats L (fun n => least ≤ n ∧ n ≤ least + more) w := by
  constructor
  · rintro ⟨_, _, ⟨us, rfl, hus, rfl⟩, ⟨vs, hn, hvs, rfl⟩, rfl⟩
    refine ⟨us ++ vs, ?_, fun u hu => (List.mem_append.1 hu).elim (hus u) (hvs u), by simp⟩
    rw [List.length_append]
    omega
  · rintro ⟨ws, hn, hws, rfl⟩
    refine ⟨(ws.take least).flatten, (ws.drop least).flatten, ⟨_, ?_, ?_, rfl⟩, ⟨_, ?_, ?_, rfl⟩, ?_⟩
    · rw [List.length_take]
      omega
    · exact fun u hu => hws u (List.mem_of_mem_take hu)
    · rw [List.length_drop]
      omega
    · exact fun u hu => hws u (List.mem_of_mem_drop hu)
    · rw [← List.flatten_append, List.take_append_drop]

theorem length_le_length_flatten {ws : List (List Char)} (h : ∀ w ∈ ws, w ≠ []) :
    ws.length ≤ ws.flatten.length := by
  have hone : ∀ n ∈ ws.map List.length, 1 ≤ n := by
    intro n hn
    obtain ⟨w, hw, rfl⟩ := List.mem_map.1 hn
    exact List.length_pos_iff.2 (h w hw)
  simpa using List.length_le_sum_of_one_le _ hone

/-- A word that stands in a text is made of no more words than are asked for and the text has
characters: all further words that are empty can be left out. -/
theorem Repeats.short {least : Nat} (hw : Repeats L (least ≤ ·) w) (hstands : Stands cs w i j) :
    Repeats L (fun n => least ≤ n ∧ n ≤ least + (cs.length + 1)) w := by
  obtain ⟨ws, hn, hws, rfl⟩ := hw
  let more := (ws.drop least).filter fun u => !u.isEmpty
  have hmore : more.flatten = (ws.drop least).flatten := List.flatten_filter_not_isEmpty
  have hflatten : ws.flatten = (ws.take least).flatten ++ more.flatten := by
    rw [hmore, ← List.flatten_append, List.take_append_drop]
  have hlength : more.length ≤ cs.length := by
    have hstanding := hstands.1.length_le
    have hle : more.length ≤ more.flatten.length :=
      length_le_length_flatten fun u hu => by simpa using (List.mem_filter.1 hu).2
    rw [hflatten, List.length_append, List.length_drop] at hstanding
    omega
  refine ⟨ws.take least ++ more, ?_, fun u hu => ?_, by rw [List.flatten_append, hflatten]⟩
  · rw [List.length_append, List.length_take]
    omega
  · rcases List.mem_append.1 hu with hu | hu
    · exact hws u (List.mem_of_mem_take hu)
    · exact hws u (List.mem_of_mem_drop (List.mem_filter.1 hu).1)

/-! ## Matching -/

mutual

/-- An expression has no conditions on places. -/
def isPlain : Regex → Bool
  | .look _ => false
  | .group r => isPlain r
  | .seq rs => arePlain rs
  | .alt rs => arePlain rs
  | .repeated r _ _ _ => isPlain r
  | _ => true

/-- None of some expressions has conditions on places. -/
def arePlain : List Regex → Bool
  | [] => true
  | r :: rs => isPlain r && arePlain rs

end

theorem leads_text (cs w : List Char) :
    Leads cs (fun places => w.foldl (fun places c => follow cs.toArray (· == c) places) places)
      (· = w) := by
  induction w with
  | nil =>
    intro places j
    simp [stands_nil]
  | cons c w ih =>
    refine ((leads_follow (· == c)).comp ih).congr fun u => ?_
    simp

mutual

/-- An expression leads from places to the ends of its words. -/
theorem leads_ends (cs : List Char) :
    ∀ r : Regex, r.isPlain = true → Leads cs (ends cs.toArray r) r.Word
  | .empty, _ => by
    intro places j
    constructor
    · intro hj
      exact ⟨j, hj, [], .empty, stands_nil.2 rfl⟩
    · rintro ⟨i, hi, _, ⟨⟩, hstands⟩
      rw [stands_nil.1 hstands]
      exact hi
  | .text w, _ =>
    (leads_text cs w).congr fun u => ⟨fun h => h ▸ .text, fun h => by cases h; rfl⟩
  | .set s, _ =>
    (leads_follow s.mem).congr fun u =>
      ⟨fun ⟨c, hc, hu⟩ => hu ▸ .set hc, fun h => by cases h with | set hc => exact ⟨_, hc, rfl⟩⟩
  | .look l, h => by cases h
  | .group r, h =>
    (leads_ends cs r h).congr fun u => word_group_iff.symm
  | .seq rs, h => leads_endsOfAll cs rs h
  | .alt rs, h => leads_endsOfAny cs rs h
  | .repeated r lazy least greatest, h => by
    have hr := leads_ends cs r h
    have hleads (more : Nat) := (hr.times least).comp (hr.within more)
    cases greatest with
    | some n =>
      refine (hleads (n - least)).congr fun w => repeats_append_iff.trans ?_
      rw [word_repeated_iff]
      refine exists_congr fun ws => and_congr_left fun _ => ?_
      simp only [Option.some.injEq, forall_eq']
      omega
    | none =>
      intro places j
      refine ((hleads (cs.toArray.size + 1)).congr (fun w => repeats_append_iff) places j).trans ?_
      refine exists_congr fun i => and_congr_right fun _ => exists_congr fun w => ?_
      refine and_congr_left fun hstands => ?_
      rw [word_repeated_iff]
      constructor
      · rintro ⟨ws, hn, hws, hw⟩
        exact ⟨ws, ⟨hn.1, nofun⟩, hws, hw⟩
      · rintro ⟨ws, hn, hws, hw⟩
        exact Repeats.short ⟨ws, hn.1, hws, hw⟩ hstands

theorem leads_endsOfAll (cs : List Char) :
    ∀ rs : List Regex, arePlain rs = true → Leads cs (endsOfAll cs.toArray rs) (Regex.seq rs).Word
  | [], _ => by
    intro places j
    constructor
    · intro hj
      exact ⟨j, hj, [], .done, stands_nil.2 rfl⟩
    · rintro ⟨i, hi, _, ⟨⟩, hstands⟩
      rw [stands_nil.1 hstands]
      exact hi
  | r :: rs, h => by
    obtain ⟨hr, hrs⟩ := Bool.and_eq_true_iff.1 h
    exact ((leads_ends cs r hr).comp (leads_endsOfAll cs rs hrs)).congr fun w =>
      word_seq_cons_iff.symm

theorem leads_endsOfAny (cs : List Char) :
    ∀ rs : List Regex, arePlain rs = true → Leads cs (endsOfAny cs.toArray rs) (Regex.alt rs).Word
  | [], _ => by
    intro places j
    simp [endsOfAny, word_alt_iff]
  | r :: rs, h => by
    obtain ⟨hr, hrs⟩ := Bool.and_eq_true_iff.1 h
    intro places j
    refine (mem_merge _ _).trans ?_
    rw [leads_ends cs r hr places j, leads_endsOfAny cs rs hrs places j, ← exists_or]
    refine exists_congr fun i => ?_
    rw [← and_or_left, ← exists_or]
    refine and_congr_right fun _ => exists_congr fun w => ?_
    rw [← or_and_right, word_alt_iff, word_alt_iff]
    simp

end

end Regex

end Wireflow
