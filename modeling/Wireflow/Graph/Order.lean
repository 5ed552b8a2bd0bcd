/-
The order in which nodes start: downstream nodes before the nodes that feed them. A depth-first
search finishes every node after all it leads to, unless the wires run in a circle. A node that is its
own target ends the search. Any other circle is noticed by a second search, which goes back along the
wires from each node, the last one to be finished first, and must not find another one on the way.
-/
import Wireflow.Identifier

namespace Wireflow.StartOrder

variable (nodes : List Identifier) (targets : Identifier → List Identifier)

/-! ## Forwards -/

/-- The nodes that have not been seen. -/
def unseen (seen : List Identifier) : List Identifier :=
  nodes.filter fun i => decide (i ∉ seen)

theorem length_unseen_lt {seen : List Identifier} {i : Identifier} (hi : i ∈ nodes)
    (hs : i ∉ seen) :
    (unseen nodes (i :: seen)).length < (unseen nodes seen).length := by
  have h : unseen nodes (i :: seen) = (unseen nodes seen).filter fun j => decide (j ≠ i) := by
    unfold unseen
    rw [List.filter_filter]
    congr 1
    funext j
    by_cases h1 : j = i <;> by_cases h2 : j ∈ seen <;> simp [h1, h2]
  rw [h]
  refine List.length_filter_lt_length_iff_exists.2 ⟨i, ?_, by simp⟩
  simp [unseen, hi, hs]

/-- The search from a stack: the nodes that have been seen, and those that are finished in their order.
A node on top that is seen for the first time stays, with its targets that have not been seen on top
of it, unless it is one of them; then there is no order. One that has been seen is taken off, and
finished when it was not yet. -/
def search (stack seen finished : List Identifier) :
    Option (List Identifier × List Identifier) :=
  match stack with
  | [] => some (seen, finished)
  | top :: rest =>
    if _h : top ∈ nodes ∧ top ∉ seen then
      if top ∈ targets top then none
      else
        search ((targets top).filter (fun t => decide (t ∉ top :: seen)) ++ top :: rest)
          (top :: seen) finished
    else
      search rest seen
        (if top ∈ finished ∨ top ∉ nodes then finished else finished ++ [top])
termination_by ((unseen nodes seen).length, stack.length)
decreasing_by
  · exact Prod.Lex.left _ _ (length_unseen_lt nodes _h.1 _h.2)
  · exact Prod.Lex.right _ (by simp)

/-- The search from every node in turn that has not been seen. -/
def searchAll : List Identifier → List Identifier → List Identifier → Option (List Identifier)
  | [], _, finished => some finished
  | i :: rest, seen, finished =>
    if i ∈ seen then searchAll rest seen finished
    else
      match search nodes targets [i] seen finished with
      | none => none
      | some (seen, finished) => searchAll rest seen finished

/-! ## Backwards -/

/-- The nodes that lead to a node, one for each wire to it. -/
def sources (i : Identifier) : List Identifier :=
  nodes.flatMap fun s => ((targets s).filter fun t => t == i).map fun _ => s

/-- The next node that is found from a stack, and the stack that it leaves: the first one from the top
that has not been found, and then the nodes that lead to it and have not been found on top of the
rest. -/
def next? (stack found : List Identifier) : Option (Identifier × List Identifier) :=
  match stack with
  | [] => none
  | top :: rest =>
    if top ∈ found then next? rest found
    else
      some (top, (sources nodes targets top).filter (fun s => decide (s ∉ top :: found)) ++ rest)

/-- Whether no more than one node is found from each node in turn. -/
def findsAlone (found : List Identifier) : List Identifier → Bool
  | [] => true
  | i :: rest =>
    match next? nodes targets [i] found with
    | none => findsAlone found rest
    | some (first, stack) =>
      match next? nodes targets stack (first :: found) with
      | none => findsAlone (first :: found) rest
      | some _ => false

/-- The order of finishing, when no circle is noticed on either way. -/
def order? : Option (List Identifier) :=
  match searchAll nodes targets nodes [] [] with
  | none => none
  | some finished => if findsAlone nodes targets [] finished.reverse then some finished else none

end Wireflow.StartOrder
