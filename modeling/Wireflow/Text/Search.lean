/-
Parts of lists of characters: cutting a part off at the start, and finding the first place where a
part occurs.
-/

namespace Wireflow.Text

/-- The rest of a list after a leading part, when it starts with that part. -/
def dropStart? [DecidableEq α] : List α → List α → Option (List α)
  | [], rest => some rest
  | _ :: _, [] => none
  | a :: part, b :: rest => if a = b then dropStart? part rest else none

theorem dropStart?_eq_some_iff [DecidableEq α] {part cs rest : List α} :
    dropStart? part cs = some rest ↔ cs = part ++ rest := by
  induction part generalizing cs with
  | nil => simp [dropStart?, eq_comm]
  | cons a part ih =>
    cases cs with
    | nil => simp [dropStart?]
    | cons b cs =>
      by_cases h : a = b
      · simp [dropStart?, h, ih]
      · simp only [dropStart?, h, if_false, List.cons_append, List.cons.injEq]
        constructor
        · intro h'; cases h'
        · intro h'; exact absurd h'.1.symm h

/-- The rest is never longer than the list it was cut from. -/
theorem length_of_dropStart? [DecidableEq α] {part cs rest : List α}
    (h : dropStart? part cs = some rest) : rest.length + part.length = cs.length := by
  rw [dropStart?_eq_some_iff.1 h, List.length_append, Nat.add_comm]

/-- What stands before and after the first place where a part occurs. -/
def splitAt? (part : List Char) : List Char → Option (List Char × List Char)
  | [] => (dropStart? part []).map fun rest => ([], rest)
  | c :: cs =>
    match dropStart? part (c :: cs) with
    | some rest => some ([], rest)
    | none => (splitAt? part cs).map fun r => (c :: r.1, r.2)

/-- A part occurs in a text. -/
def occursIn (part s : String) : Bool :=
  (splitAt? part.toList s.toList).isSome

end Wireflow.Text
