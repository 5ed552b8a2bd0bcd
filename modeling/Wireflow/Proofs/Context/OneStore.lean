/-
One store for every name, whatever the tasks do. What every step keeps is kept along a run, so a look-up
has answered the store that its name still has at the end; and as at most one call is answered in a
step, a run is the sequence of the calls that it answers. An activity has at most five steps to take,
and what the others do between them takes it no step back.
-/
import Wireflow.Proofs.Context.Sharing

namespace Wireflow

namespace Sharing

variable {s : Sharing}

/-! ## Runs -/

theorem Coherent.run (moves : List Move) :
    ∀ {s : Sharing}, s.Coherent → s.Extends (s.run moves).2 ∧ (s.run moves).2.Coherent := by
  induction moves with
  | nil => exact fun {s} h => ⟨.refl s, h⟩
  | cons m rest ih =>
    intro s h
    obtain ⟨hext, hcoherent, -⟩ := h.step m
    obtain ⟨hext', hcoherent'⟩ := ih hcoherent
    exact ⟨hext.trans hext', hcoherent'⟩

/-- What a look-up has answered is still the store of its name at the end. -/
theorem Coherent.returned (moves : List Move) {i : Nat} {name : Option String} {a : Place} :
    ∀ {s : Sharing}, s.Coherent → .returned i name a ∈ (s.run moves).1 →
      (s.run moves).2.pool.find? name = some a := by
  induction moves with
  | nil => exact fun {s} _ hmem => absurd hmem List.not_mem_nil
  | cons m rest ih =>
    intro s h hmem
    obtain ⟨-, hcoherent, hshows⟩ := h.step m
    rcases List.mem_append.1 hmem with hmem | hmem
    · exact (hcoherent.run rest).1.pool.find? (hshows.returned i name a hmem)
    · exact ih hcoherent hmem

/-- Contexts that make the answered calls one after the other give the same answers, and are alike to
those that are shown at the end. -/
theorem Coherent.calls_answers (moves : List Move) :
    ∀ {s : Sharing} {c : Contexts}, s.Coherent → c.Alike s.view →
      (c.calls ((answers (s.run moves).1).map (·.1))).1 = (answers (s.run moves).1).map (·.2) ∧
      (c.calls ((answers (s.run moves).1).map (·.1))).2.Alike (s.run moves).2.view := by
  induction moves with
  | nil => exact fun _ halike => ⟨rfl, halike⟩
  | cons m rest ih =>
    intro s c h halike
    obtain ⟨-, hcoherent, hshows⟩ := h.step m
    have hanswers : answers (s.run (m :: rest)).1 =
        answers (s.step m).1 ++ answers ((s.step m).2.run rest).1 := List.filterMap_append
    rw [hanswers]
    rcases hshows.effect with ⟨hnone, hview⟩ | ⟨i, x, answer, hseen, hcall⟩
    · -- without an answer at most a store has been opened, which does not show
      rw [hnone, List.nil_append]
      refine ih hcoherent ?_
      rcases hview with hview | ⟨name, hview⟩
      · rw [hview]
        exact halike
      · rw [hview]
        exact halike.trans (Contexts.Alike.opened s.view name).symm
    · rw [hseen]
      obtain ⟨hanswer, hafter⟩ := halike.call x
      rw [hcall] at hanswer hafter
      obtain ⟨hrest, hend⟩ := ih hcoherent hafter
      exact ⟨congrArg₂ List.cons hanswer hrest, hend⟩

/-! ## Every activity comes to its end -/

/-- What has to show of an errand in its end: its look-up has answered, or its call. -/
def Errand.EndsIn (i : Nat) (seen : List Seen) : Errand → Prop
  | .fetch name => ∃ a, .returned i name a ∈ seen
  | .direct x => ∃ answer, .answered i x answer ∈ seen
  | .through _ x => ∃ answer, .answered i x answer ∈ seen

/-- What has still to show of an activity. -/
def Activity.EndsIn (i : Nat) (seen : List Seen) : Activity → Prop
  | .asked e | .searching e | .making e | .holding _ e => e.EndsIn i seen
  | .acting _ x => ∃ answer, .answered i x answer ∈ seen
  | .done => True

/-- How many steps an activity takes at most. -/
def Activity.left : Activity → Nat
  | .asked _ => 5
  | .searching _ => 4
  | .making _ => 3
  | .holding _ _ => 2
  | .acting _ _ => 1
  | .done => 0

/-- It is a step of activity `i`. -/
def Move.advances (i : Nat) : Move → Bool
  | .advance j => i == j
  | _ => false

theorem Errand.EndsIn.mono {i : Nat} {seen later : List Seen} {e : Errand} (h : e.EndsIn i later) :
    e.EndsIn i (seen ++ later) := by
  cases e <;> exact h.imp fun _ hmem => List.mem_append_right seen hmem

theorem Activity.EndsIn.mono {i : Nat} {seen later : List Seen} {t : Activity}
    (h : t.EndsIn i later) : t.EndsIn i (seen ++ later) := by
  cases t with
  | asked e => exact Errand.EndsIn.mono h
  | searching e => exact Errand.EndsIn.mono h
  | making e => exact Errand.EndsIn.mono h
  | holding a e => exact Errand.EndsIn.mono h
  | acting a x => exact h.imp fun _ hmem => List.mem_append_right seen hmem
  | done => trivial

/-- A step brings an activity closer to its end, and what had to show of it shows then or later. -/
theorem proceed_ends (s : Sharing) (i : Nat) (t : Activity) (later : List Seen) :
    (s.proceed i t).1.left ≤ t.left - 1 ∧
      ((s.proceed i t).1.EndsIn i later → t.EndsIn i ((s.proceed i t).2.1 ++ later)) := by
  cases t with
  | asked e =>
    cases e with
    | fetch name => exact ⟨le_rfl, id⟩
    | direct x =>
      simp only [proceed]
      split
      · exact ⟨Nat.zero_le _, fun _ => ⟨_, List.mem_cons_self⟩⟩
      · exact ⟨le_rfl, id⟩
    | through ref x =>
      simp only [proceed]
      split
      · exact ⟨Nat.zero_le _, fun _ => ⟨_, List.mem_cons_self⟩⟩
      · cases s.cached? ref with
        | some a => exact ⟨show 1 ≤ 5 - 1 by omega, id⟩
        | none => exact ⟨le_rfl, id⟩
  | searching e =>
    simp only [proceed]
    cases s.pool.find? e.name with
    | some a => exact ⟨show 2 ≤ 4 - 1 by omega, id⟩
    | none => exact ⟨le_rfl, id⟩
  | making e => exact ⟨le_rfl, id⟩
  | holding a e =>
    cases e with
    | fetch name => exact ⟨Nat.zero_le _, fun _ => ⟨a, List.mem_cons_self⟩⟩
    | direct x => exact ⟨le_rfl, fun h => h.imp fun _ hmem => List.mem_cons_of_mem _ hmem⟩
    | through ref x => exact ⟨le_rfl, fun h => h.imp fun _ hmem => List.mem_cons_of_mem _ hmem⟩
  | acting a x => exact ⟨le_rfl, fun _ => ⟨_, List.mem_cons_self⟩⟩
  | done => exact ⟨le_rfl, id⟩

theorem Coherent.step_advance (h : s.Coherent) {i : Nat} {t : Activity}
    (ht : s.activities[i]? = some t) :
    (s.step (.advance i)).1 = (s.proceed i t).2.1 ∧
      (s.step (.advance i)).2.activities[i]? = some (s.proceed i t).1 := by
  have hactivities := (h.proceed i (h.activities t (List.mem_of_getElem? ht))).activities
  have hi : i < s.activities.length := (List.getElem?_eq_some_iff.1 ht).1
  simp only [Sharing.step, ht, hactivities]
  exact ⟨trivial, List.getElem?_set_self hi⟩

/-- What the others do leaves an activity where it is. -/
theorem Coherent.step_other (h : s.Coherent) {i : Nat} {t : Activity}
    (ht : s.activities[i]? = some t) {m : Move} (hm : m.advances i = false) :
    (s.step m).2.activities[i]? = some t := by
  cases m with
  | refer r => exact ht
  | copy ref =>
    simp only [Sharing.step]
    cases s.refs[ref]? <;> exact ht
  | ask q =>
    simp only [Sharing.step]
    cases s.errand? q with
    | none => exact ht
    | some e =>
      dsimp only
      rw [List.getElem?_append_left (List.getElem?_eq_some_iff.1 ht).1]
      exact ht
  | advance j =>
    have hne : j ≠ i := fun hj => by simp [Move.advances, hj] at hm
    simp only [Sharing.step]
    cases hj : s.activities[j]? with
    | none => exact ht
    | some u =>
      have hactivities := (h.proceed j (h.activities u (List.mem_of_getElem? hj))).activities
      dsimp only
      rw [hactivities, List.getElem?_set_ne hne]
      exact ht

/-- An activity that takes as many steps as it has left comes to its end, whatever comes between
them. -/
theorem Coherent.endsIn (i : Nat) (moves : List Move) :
    ∀ {s : Sharing} {t : Activity}, s.Coherent → s.activities[i]? = some t →
      t.left ≤ moves.countP (Move.advances i) → t.EndsIn i (s.run moves).1 := by
  induction moves with
  | nil =>
    intro s t _ _ hleft
    -- only an activity that is done has no step left
    cases t with
    | done => trivial
    | _ => exact absurd hleft (by simp [Activity.left])
  | cons m rest ih =>
    intro s t h ht hleft
    obtain ⟨-, hcoherent, -⟩ := h.step m
    show t.EndsIn i ((s.step m).1 ++ ((s.step m).2.run rest).1)
    cases hm : m.advances i with
    | false =>
      rw [List.countP_cons_of_neg (by simp [hm])] at hleft
      exact (ih hcoherent (h.step_other ht hm) hleft).mono
    | true =>
      obtain rfl : m = .advance i := by
        cases m with
        | advance j => exact congrArg Move.advance (beq_iff_eq.1 hm).symm
        | _ => cases hm
      obtain ⟨hseen, hnext⟩ := h.step_advance ht
      obtain ⟨hcloser, hends⟩ := s.proceed_ends i t ((s.step (.advance i)).2.run rest).1
      rw [List.countP_cons_of_pos hm] at hleft
      rw [hseen]
      exact hends (ih hcoherent hnext (by omega))

/-- A request is answered after five steps of its activity. -/
theorem Coherent.endsIn_ask (h : s.Coherent) {q : Request} {e : Errand} (he : s.errand? q = some e)
    {later : List Move} (hcount : 5 ≤ later.countP (Move.advances s.activities.length)) :
    e.EndsIn s.activities.length (s.run (.ask q :: later)).1 := by
  obtain ⟨-, hcoherent, -⟩ := h.step (.ask q)
  have hasked : (s.step (.ask q)).2.activities[s.activities.length]? = some (.asked e) := by
    simp only [Sharing.step, he]
    exact List.getElem?_concat_length
  have hends : e.EndsIn _ _ := hcoherent.endsIn _ later hasked hcount
  exact hends.mono

/-! ## One store for every name -/

/-- Tasks share the stores of contexts as they are made. After whatever has come, in whatever order:
all look-ups of a name, no name meaning the default store, have answered the same store; whatever
comes later, a name keeps its store, with its directory, and what a reference remembers is the store
that its name has. When the next step of anything answers a call, made directly or through a
reference, its answer and what it does to the contexts are those of that call on the contexts as they
are; when it answers none, it opens at most a store that nobody configured. So contexts that make the
answered calls one after the other answer the same and hold the same. And a request that is made now,
through a reference with a full cell or an empty one, is answered after at most five steps of its
own, whatever comes between them. -/
theorem one_store_for_every_name {c : Contexts} (hc : c.Made) (moves : List Move) :
    let run := (Sharing.of c).run moves
    let now := run.2
    (∀ i j m n a b, .returned i m a ∈ run.1 → .returned j n b ∈ run.1 →
      c.nameOf m = c.nameOf n → a = b) ∧
    (∀ later n a, Table.get? n now.pool.table = some a →
      let pool := (now.run later).2.pool
      Table.get? n pool.table = some a ∧ (pool.heap a).name = (now.pool.heap a).name ∧
        (pool.heap a).directory = (now.pool.heap a).directory) ∧
    (∀ r ∈ now.refs, ∀ a, r.2 = some a → now.pool.find? r.1.key.store = some a) ∧
    (∀ m i x answer, .answered i x answer ∈ (now.step m).1 →
      now.view.call x = (answer, (now.step m).2.view)) ∧
    (∀ m, answers (now.step m).1 = [] →
      (now.step m).2.view = now.view ∨ ∃ name, (now.step m).2.view = now.view.opened name) ∧
    (c.calls ((answers run.1).map (·.1))).1 = (answers run.1).map (·.2) ∧
    (c.calls ((answers run.1).map (·.1))).2.Alike now.view ∧
    ∀ q e, now.errand? q = some e → ∀ later,
      5 ≤ later.countP (Move.advances now.activities.length) →
      e.EndsIn now.activities.length (now.run (.ask q :: later)).1 := by
  intro run now
  have hstart := Coherent.of hc
  obtain ⟨hext, hnow⟩ := hstart.run moves
  have hview : (Sharing.of c).view = c := StorePool.view_of c
  obtain ⟨hanswers, halike⟩ := hstart.calls_answers moves (by rw [hview]; exact .refl c)
  refine ⟨?_, ?_, hnow.refs, ?_, ?_, hanswers, halike, ?_⟩
  · intro i j m n a b ha hb hname
    have hm : now.pool.find? m = some a := hstart.returned moves ha
    have hn : now.pool.find? n = some b := hstart.returned moves hb
    have hsame : now.pool.find? m = now.pool.find? n := by
      unfold StorePool.find?
      rw [hext.pool.nameOf, hext.pool.nameOf]
      exact congrArg (Table.get? · _) hname
    exact Option.some.inj (hm.symm.trans (hsame.trans hn))
  · intro later n a ha
    have hlater := (hnow.run later).1.pool
    exact ⟨hlater.table n a ha, hlater.kept a (hnow.pool.below n a ha)⟩
  · intro m i x answer hmem
    exact (hnow.step m).2.2.answered hmem
  · intro m hnone
    exact (hnow.step m).2.2.unanswered hnone
  · intro q e he later hcount
    exact hnow.endsIn_ask he hcount

/-- Three tasks miss the same store before any of them makes it: a write through a reference, a look-up
through a copy of it, and a request for the store itself. The look-up comes first and finds nothing;
when it is made again, with the cell full, it finds what has been written. -/
theorem one_store_for_every_name_race :
    let other : ContextRef :=
      ⟨.global, { store := some "other", path := { source := "n", segments := [.name "n"] } }⟩
    let identity : Identity :=
      { id := ⟨1⟩, name := "", type := "change", flow := { id := ⟨2⟩, label := "", env := [] },
        groups := [] }
    let moves : List Move :=
      [.refer other, .copy 0, .ask (.write 0 identity none (some (.bool true))),
        .ask (.read 1 identity none), .ask (.store (some "other")), .advance 0, .advance 0, .advance 1,
        .advance 1, .advance 2, .advance 2, .advance 2, .advance 1, .advance 0, .advance 1, .advance 1,
        .advance 0, .advance 0, .ask (.read 1 identity none), .advance 3, .advance 3, .advance 2]
    let c := Contexts.inMemory Disk.empty
    let run := (of c).run moves
    c.Made ∧
      run.1 =
        [.returned 1 (some "other") 1, .answered 1 (other.reading identity none) (.found none),
          .returned 0 (some "other") 1,
          .answered 0 (other.writing identity none (some (.bool true))) (.written (.ok ())),
          .answered 3 (other.reading identity none) (.found (some (.bool true))),
          .returned 2 (some "other") 1] ∧
      (c.calls ((answers run.1).map (·.1))).1 = (answers run.1).map (·.2) := by
  refine ⟨.inMemory Disk.empty, by cbv, ?_⟩
  exact (one_store_for_every_name (.inMemory Disk.empty) _).2.2.2.2.2.1

end Sharing

end Wireflow
