/-
Trimming: what is cut off at the two ends of a text is blank, and blanks that are put there are cut off
again.
-/
import Wireflow.Text.Blank
import Mathlib.Data.List.TakeWhile

namespace Wireflow.Text

variable {before after cs : List Char}

/-- A text without blanks is its own trimmed text. -/
theorem trimChars_eq_self (h : ∀ c ∈ cs, isBlank c = false) : trimChars cs = cs := by
  have hdrop : ∀ cs : List Char, (∀ c ∈ cs, isBlank c = false) → cs.dropWhile isBlank = cs := by
    intro cs hcs
    cases cs with
    | nil => rfl
    | cons c rest => rw [List.dropWhile_cons_of_neg (by simp [hcs c])]
  unfold trimChars dropBlankEnd
  rw [hdrop cs h, hdrop cs.reverse (by simpa using h), List.reverse_reverse]

theorem trimChars_eq_nil_iff : trimChars cs = [] ↔ ∀ c ∈ cs, isBlank c = true := by
  unfold trimChars dropBlankEnd
  rw [List.reverse_eq_nil_iff, List.dropWhile_eq_nil_iff]
  simp only [List.mem_reverse]
  constructor
  · intro h c hc
    rw [← List.takeWhile_append_dropWhile (p := isBlank) (l := cs)] at hc
    rcases List.mem_append.1 hc with hc | hc
    · exact List.mem_takeWhile_imp hc
    · exact h c hc
  · intro h c hc
    exact h c ((List.dropWhile_suffix _).subset hc)

theorem trimChars_blank_append (h : ∀ c ∈ before, isBlank c = true) (cs : List Char) :
    trimChars (before ++ cs) = trimChars cs := by
  unfold trimChars
  rw [List.dropWhile_append_of_pos h]

theorem dropBlankEnd_append_blank (h : ∀ c ∈ after, isBlank c = true) (cs : List Char) :
    dropBlankEnd (cs ++ after) = dropBlankEnd cs := by
  unfold dropBlankEnd
  rw [List.reverse_append, List.dropWhile_append_of_pos fun c hc => h c (List.mem_reverse.1 hc)]

theorem trimChars_append_blank (h : ∀ c ∈ after, isBlank c = true) (cs : List Char) :
    trimChars (cs ++ after) = trimChars cs := by
  -- nothing is left of a text of blanks alone, so the two ends are only trimmed apart otherwise
  by_cases hall : ∀ c ∈ cs, isBlank c = true
  · rw [trimChars_eq_nil_iff.2 hall, trimChars_eq_nil_iff]
    intro c hc
    exact (List.mem_append.1 hc).elim (hall c) (h c)
  · have hne : cs.dropWhile isBlank ≠ [] := by
      rw [ne_eq, List.dropWhile_eq_nil_iff]
      exact hall
    unfold trimChars
    rw [List.dropWhile_append, if_neg (by simpa using hne), dropBlankEnd_append_blank h]

/-- A text is what is left of it between the blanks at its ends. -/
theorem exists_trimChars (cs : List Char) : ∃ before after,
    (∀ c ∈ before, isBlank c = true) ∧ (∀ c ∈ after, isBlank c = true) ∧
      cs = before ++ (trimChars cs ++ after) := by
  refine ⟨cs.takeWhile isBlank, ((cs.dropWhile isBlank).reverse.takeWhile isBlank).reverse,
    fun c hc => List.mem_takeWhile_imp hc,
    fun c hc => List.mem_takeWhile_imp (List.mem_reverse.1 hc), ?_⟩
  unfold trimChars dropBlankEnd
  rw [← List.reverse_append, List.takeWhile_append_dropWhile, List.reverse_reverse,
    List.takeWhile_append_dropWhile]

/-- Nothing but blanks is trimmed away. -/
theorem mem_trimChars {c : Char} (hc : c ∈ cs) (hblank : isBlank c = false) : c ∈ trimChars cs := by
  obtain ⟨before, after, hbefore, hafter, hcs⟩ := exists_trimChars cs
  have hne : isBlank c ≠ true := by simp [hblank]
  rw [hcs, List.mem_append, List.mem_append] at hc
  rcases hc with hc | hc | hc
  · exact absurd (hbefore c hc) hne
  · exact hc
  · exact absurd (hafter c hc) hne

/-- Trimming twice is trimming once. -/
theorem trimChars_trimChars (cs : List Char) : trimChars (trimChars cs) = trimChars cs := by
  obtain ⟨before, after, hbefore, hafter, hcs⟩ := exists_trimChars cs
  calc trimChars (trimChars cs) = trimChars (before ++ (trimChars cs ++ after)) := by
        rw [trimChars_blank_append hbefore, trimChars_append_blank hafter]
    _ = trimChars cs := congrArg trimChars hcs.symm

theorem trim_trim (s : String) : trim (trim s) = trim s := by
  unfold trim
  rw [String.toList_ofList, trimChars_trimChars]

end Wireflow.Text
