/-
The queues of an engine. Its letters stand in one list, and the queue of a node is what is addressed
to it: taking the oldest letter of one node takes the head of its queue and leaves the queues of all
others as they are.
-/
import Wireflow.Engine.Basic
import Mathlib.Data.List.Nodup

namespace Wireflow.Engine

/-- The messages of the letters to a node, the oldest first. -/
def queueOf (id : Identifier) (mail : List Letter) : List Message :=
  (mail.filter fun l => l.target == id).map (·.msg)

theorem queue_eq (e : Engine) (id : Identifier) : e.queue id = queueOf id e.mail := rfl

@[simp] theorem queueOf_nil (id : Identifier) : queueOf id [] = [] := rfl

theorem queueOf_cons (id : Identifier) (l : Letter) (mail : List Letter) :
    queueOf id (l :: mail) = (if l.target = id then [l.msg] else []) ++ queueOf id mail := by
  by_cases h : l.target = id <;> simp [queueOf, h]

@[simp] theorem queueOf_append (id : Identifier) (mail more : List Letter) :
    queueOf id (mail ++ more) = queueOf id mail ++ queueOf id more := by
  simp [queueOf]

/-- One copy for each of several targets is one copy in the queue of each of them. -/
theorem queueOf_copies {targets : List Identifier} (h : targets.Nodup) (id : Identifier)
    (msg : Message) :
    queueOf id (targets.map fun t => { target := t, msg }) =
      if id ∈ targets then [msg] else [] := by
  induction targets with
  | nil => simp
  | cons t rest ih =>
    obtain ⟨ht, hrest⟩ := List.nodup_cons.1 h
    rw [List.map_cons, queueOf_cons, ih hrest]
    by_cases htid : t = id
    · subst htid; simp [ht]
    · simp [htid, Ne.symm htid]

/-- The letter that is taken is the first one to the node, and all others stay where they are. -/
theorem takeLetter?_eq_some_iff {id : Identifier} {msg : Message} {mail others : List Letter} :
    takeLetter? id mail = some (msg, others) ↔
      ∃ before after, mail = before ++ { target := id, msg } :: after ∧
        (∀ l ∈ before, l.target ≠ id) ∧ others = before ++ after := by
  induction mail generalizing others with
  | nil => simp [takeLetter?]
  | cons l rest ih =>
    unfold takeLetter?
    split
    · rename_i hl
      constructor
      · intro h
        cases h
        exact ⟨[], rest, by simp [← hl], by simp, rfl⟩
      · rintro ⟨before, after, hmail, hbefore, rfl⟩
        cases before with
        | nil => cases hmail; rfl
        | cons b before => cases hmail; exact absurd hl (hbefore _ (by simp))
    · rename_i hl
      constructor
      · intro h
        obtain ⟨r, hr, heq⟩ := Option.map_eq_some_iff.1 h
        cases heq
        obtain ⟨before, after, rfl, hbefore, hothers⟩ := ih.1 hr
        exact ⟨l :: before, after, rfl, List.forall_mem_cons.2 ⟨hl, hbefore⟩, by rw [hothers]; rfl⟩
      · rintro ⟨before, after, hmail, hbefore, rfl⟩
        cases before with
        | nil => cases hmail; exact absurd rfl hl
        | cons b before =>
          cases hmail
          rw [ih.2 ⟨before, after, rfl, fun l hl => hbefore l (List.mem_cons_of_mem _ hl), rfl⟩]
          rfl

theorem queueOf_eq_nil_iff {id : Identifier} {mail : List Letter} :
    queueOf id mail = [] ↔ ∀ l ∈ mail, l.target ≠ id := by
  simp [queueOf]

/-- Something waits only for nodes that letters are addressed to. -/
theorem mem_of_queueOf_ne_nil {id : Identifier} {mail : List Letter} {ids : List Identifier}
    (hknown : ∀ l ∈ mail, l.target ∈ ids) (h : queueOf id mail ≠ []) : id ∈ ids := by
  by_contra hid
  refine h (queueOf_eq_nil_iff.2 ?_)
  rintro l hl rfl
  exact hid (hknown l hl)

/-- Taking a letter takes the head of its queue, and nothing else. -/
theorem queueOf_takeLetter? {id : Identifier} {msg : Message} {mail others : List Letter}
    (h : takeLetter? id mail = some (msg, others)) :
    queueOf id mail = msg :: queueOf id others ∧
      ∀ x, x ≠ id → queueOf x mail = queueOf x others := by
  obtain ⟨before, after, rfl, hbefore, rfl⟩ := takeLetter?_eq_some_iff.1 h
  refine ⟨?_, fun x hx => ?_⟩
  · simp [queueOf_cons, queueOf_eq_nil_iff.2 hbefore]
  · simp [queueOf_cons, Ne.symm hx]

/-- A letter can be taken as soon as something waits. -/
theorem exists_takeLetter? {id : Identifier} {msg : Message} {waiting : List Message} :
    ∀ {mail : List Letter}, queueOf id mail = msg :: waiting →
      ∃ others, takeLetter? id mail = some (msg, others)
  | [], h => by cases h
  | l :: rest, h => by
    rw [queueOf_cons] at h
    unfold takeLetter?
    split
    · rename_i hl
      rw [if_pos hl] at h
      cases h
      exact ⟨rest, rfl⟩
    · rename_i hl
      rw [if_neg hl] at h
      obtain ⟨others, hothers⟩ := exists_takeLetter? h
      exact ⟨l :: others, by rw [hothers]; rfl⟩

/-- Sorting letters by the nodes that they go to keeps the queue of each of these nodes. -/
theorem queueOf_flatMap {ids : List Identifier} (h : ids.Nodup) (id : Identifier)
    (mail : List Letter) :
    queueOf id (ids.flatMap fun i => mail.filter fun l => l.target == i) =
      if id ∈ ids then queueOf id mail else [] := by
  induction ids with
  | nil => rfl
  | cons i rest ih =>
    obtain ⟨hi, hrest⟩ := List.nodup_cons.1 h
    rw [List.flatMap_cons, queueOf_append, ih hrest]
    by_cases hid : id = i
    · subst hid
      rw [if_neg hi, if_pos (by simp), List.append_nil]
      simp [queueOf]
    · have hother : queueOf id (mail.filter fun l => l.target == i) = [] := by
        refine queueOf_eq_nil_iff.2 fun l hl => ?_
        rw [show l.target = i by simpa using (List.mem_filter.1 hl).2]
        exact Ne.symm hid
      rw [hother, List.nil_append]
      simp [hid]

end Wireflow.Engine
