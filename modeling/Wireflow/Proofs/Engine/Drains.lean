/-
Work that makes more work. Items wait in a multiset; to treat one is to take it out, to add what it
calls for, and to gain what it yields, all of which depend on the item alone. The items then form a
forest that does not depend on the order of treatment: if one order comes to an end every order does,
after as many items, and the gains add up to the same.
-/
import Mathlib.Algebra.Order.Group.Multiset
import Mathlib.Tactic.Abel

namespace Wireflow

variable {α : Type u} {β : Type v} [AddCommMonoid β] {next : α → Multiset α} {yield : α → β}

/-- Treating some items and all that they call for takes so many steps and gains so much. -/
inductive Drains (next : α → Multiset α) (yield : α → β) : Multiset α → ℕ → β → Prop
  | empty : Drains next yield 0 0 0
  | step {a : α} {items : Multiset α} {steps : ℕ} {gain : β} :
      Drains next yield (items + next a) steps gain →
      Drains next yield (a ::ₘ items) (steps + 1) (yield a + gain)

namespace Drains

/-- Any item can be treated first. -/
theorem of_cons {waiting : Multiset α} {steps : ℕ} {gain : β}
    (h : Drains next yield waiting steps gain) :
    ∀ {a : α} {items : Multiset α}, waiting = a ::ₘ items →
      ∃ steps' gain', steps = steps' + 1 ∧ gain = yield a + gain' ∧
        Drains next yield (items + next a) steps' gain' := by
  induction h with
  | empty =>
    intro a items heq
    exact absurd heq.symm (Multiset.cons_ne_zero)
  | @step b others steps gain hrest ih =>
    intro a items heq
    rcases Multiset.cons_eq_cons.1 heq with ⟨rfl, rfl⟩ | ⟨-, common, rfl, rfl⟩
    · exact ⟨steps, gain, rfl, rfl, hrest⟩
    · -- the two items are different ones, and their treatments change places
      obtain ⟨steps', gain', rfl, rfl, hboth⟩ := ih (Multiset.cons_add a common (next b))
      refine ⟨steps' + 1, yield b + gain', rfl, by abel, ?_⟩
      rw [Multiset.cons_add]
      refine .step ?_
      rw [add_right_comm]
      exact hboth

/-- A run: at every moment either nothing waits and all stays as it is, or some item is treated. -/
structure Run (next : α → Multiset α) (yield : α → β) (waiting : ℕ → Multiset α)
    (total : ℕ → β) : Prop where
  idle : ∀ n, waiting n = 0 → waiting (n + 1) = 0 ∧ total (n + 1) = total n
  busy : ∀ n, waiting n ≠ 0 → ∃ a items, waiting n = a ::ₘ items ∧
    waiting (n + 1) = items + next a ∧ total (n + 1) = total n + yield a

namespace Run

variable {waiting : ℕ → Multiset α} {total : ℕ → β}

/-- What is left of a run after its first step. -/
theorem tail (h : Run next yield waiting total) :
    Run next yield (fun n => waiting (n + 1)) (fun n => total (n + 1)) where
  idle := fun n => h.idle (n + 1)
  busy := fun n => h.busy (n + 1)

/-- Once nothing waits any more, it stays so. -/
theorem stays (h : Run next yield waiting total) {m n : ℕ} (hmn : m ≤ n) (hm : waiting m = 0) :
    waiting n = 0 ∧ total n = total m := by
  induction hmn with
  | refl => exact ⟨hm, rfl⟩
  | step _ ih =>
    obtain ⟨hwaiting, htotal⟩ := h.idle _ ih.1
    exact ⟨hwaiting, htotal.trans ih.2⟩

/-- A run that comes to an end drains what it began with. -/
theorem drains (n : ℕ) :
    ∀ {waiting : ℕ → Multiset α} {total : ℕ → β}, Run next yield waiting total →
      waiting n = 0 → ∃ steps ≤ n, ∃ gain, Drains next yield (waiting 0) steps gain := by
  induction n with
  | zero =>
    intro waiting total _ hn
    exact ⟨0, le_rfl, 0, hn ▸ .empty⟩
  | succ n ih =>
    intro waiting total h hn
    by_cases hzero : waiting 0 = 0
    · exact ⟨0, Nat.zero_le _, 0, hzero ▸ .empty⟩
    · obtain ⟨a, items, hfirst, hnext, -⟩ := h.busy 0 hzero
      obtain ⟨steps, hsteps, gain, hdrains⟩ := ih h.tail hn
      refine ⟨steps + 1, Nat.succ_le_succ hsteps, yield a + gain, ?_⟩
      rw [hfirst]
      exact .step (hnext ▸ hdrains)

/-- A run whose beginning can be drained comes to its end after just as many steps and with the same
gain, whatever its order is. -/
theorem of_drains {steps : ℕ} :
    ∀ {gain : β} {waiting : ℕ → Multiset α} {total : ℕ → β}, Run next yield waiting total →
      Drains next yield (waiting 0) steps gain →
        waiting steps = 0 ∧ total steps = total 0 + gain := by
  induction steps with
  | zero =>
    intro gain waiting total _ hdrains
    generalize hwaiting : waiting 0 = items at hdrains
    cases hdrains with
    | empty => exact ⟨rfl, (add_zero _).symm⟩
  | succ steps ih =>
    intro gain waiting total h hdrains
    have hzero : waiting 0 ≠ 0 := by
      intro hwaiting
      rw [hwaiting] at hdrains
      generalize hitems : (0 : Multiset α) = items at hdrains
      cases hdrains with
      | step _ => exact Multiset.zero_ne_cons hitems
    obtain ⟨a, items, hfirst, hnext, htotal⟩ := h.busy 0 hzero
    obtain ⟨steps', gain', hsteps, rfl, hrest⟩ := hdrains.of_cons hfirst
    obtain rfl := Nat.succ.inj hsteps
    obtain ⟨hend, hgain⟩ := ih h.tail (hnext.symm ▸ hrest)
    exact ⟨hend, by rw [hgain, htotal, add_assoc]⟩

/-- Two runs of the same items come to an end together, with the same gain. -/
theorem agree {waiting' : ℕ → Multiset α} {total' : ℕ → β} (h : Run next yield waiting total)
    (h' : Run next yield waiting' total') (hwaiting : waiting' 0 = waiting 0)
    (htotal : total' 0 = total 0) {n : ℕ} (hn : waiting n = 0) :
    waiting' n = 0 ∧ total' n = total n := by
  obtain ⟨steps, hsteps, gain, hdrains⟩ := h.drains n hn
  obtain ⟨hend, hgain⟩ := h.of_drains hdrains
  obtain ⟨hend', hgain'⟩ := h'.of_drains (hwaiting ▸ hdrains)
  obtain ⟨-, hlast⟩ := h.stays hsteps hend
  obtain ⟨hlast', hsame⟩ := h'.stays hsteps hend'
  exact ⟨hlast', by rw [hsame, hgain', htotal, ← hgain, hlast]⟩

end Run

end Drains

end Wireflow
