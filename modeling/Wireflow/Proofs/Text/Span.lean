/-
Runs of characters of one kind at the start of a text.
-/
import Mathlib.Data.List.TakeWhile

namespace Wireflow.Text

variable {p : Char → Bool} {w rest cs : List Char}

/-- A run of characters is taken up to the first character that is not of its kind. -/
theorem span_append (hw : ∀ c ∈ w, p c = true) (hrest : ∀ c ∈ rest.head?, p c = false) :
    (w ++ rest).takeWhile p = w ∧ (w ++ rest).dropWhile p = rest := by
  have hstop : rest.takeWhile p = [] ∧ rest.dropWhile p = rest := by
    cases rest with
    | nil => exact ⟨rfl, rfl⟩
    | cons c tail =>
      have hc : p c = false := hrest c rfl
      simp [hc]
  rw [List.takeWhile_append_of_pos hw, List.dropWhile_append_of_pos hw, hstop.1, hstop.2]
  exact ⟨List.append_nil w, rfl⟩

theorem head?_dropWhile_eq_false : ∀ c ∈ (cs.dropWhile p).head?, p c = false := by
  intro c hc
  have := List.head?_dropWhile_not p cs
  rw [Option.mem_def.1 hc] at this
  simpa using this

end Wireflow.Text
