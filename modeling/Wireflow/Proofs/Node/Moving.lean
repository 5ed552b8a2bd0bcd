/-
Moves that fail. A move takes what stands at its source out before it writes it to its destination, and
does not put it back when the write fails: the moved value is lost. Nothing else is. With stores in
memory the removal itself always goes through, a write to context data that fails changes nothing, and
one into the message changes no more than a failed write does.
-/
import Wireflow.Node.Change
import Wireflow.Proofs.Context.Agreement
import Wireflow.Proofs.Path.Writing

namespace Wireflow

namespace Target

variable {s : Setting} {msg msg' : Message} {contexts : Contexts} {v : Value}

/-- The value has been taken out at a target, and all else is as it was. -/
def TakenOut (t : Target) (s : Setting) (msg : Message) (v : Value) (msg' : Message)
    (contexts : Contexts) : Prop :=
  match t with
  | .message path =>
    contexts = s.contexts ∧ ∃ keys, path.bind? (some msg.entries) = some keys ∧
      msg.entries.remove keys = (some v, msg'.entries)
  | .context r =>
    let scope := r.kind.scope s.identity
    msg' = msg ∧ ∃ keys entries, r.key.path.bind? (some msg.entries) = some keys ∧
      ((s.contexts.store r.key.store).entries scope).remove keys = (some v, entries) ∧
      contexts = s.contexts.put r.key.store scope entries

/-- A failed write at a target leaves the message as it is, or keeps what it holds when it goes into
it. -/
def Spares (t : Target) (before after : Message) : Prop :=
  match t with
  | .message _ => before.entries.Keeps after.entries
  | .context _ => after = before

/-- What stands at a target in the message, or in a store in memory, can always be taken out. -/
theorem set_none (t : Target) (hmemory : ∀ name, (s.contexts.store name).directory = none)
    (h : t.get? s msg = some v) :
    ∃ msg' contexts, t.set s msg none = (.ok (), msg', contexts) ∧
      t.TakenOut s msg v msg' contexts := by
  cases t with
  | message path =>
    have hget : msg.getPath? path = some v := h
    unfold Message.getPath? at hget
    split at hget
    · rename_i keys hkeys
      have hremove : msg.entries.remove keys = (some v, (msg.removePath path).2.entries) := by
        rw [← hget, ← Entries.fst_remove]
        simp only [Message.removePath, hkeys]
      exact ⟨_, _, rfl, rfl, keys, hkeys, hremove⟩
    · cases hget
  | context r =>
    have hget : s.contexts.get? (r.kind.scope s.identity) r.key (some msg) = some v := h
    unfold Contexts.get? at hget
    split at hget
    · cases hget
    · rename_i keys hkeys
      let scope := r.kind.scope s.identity
      let entries := (((s.contexts.store r.key.store).entries scope).remove keys).2
      have hset : r.set s (some msg) none = .ok (s.contexts.put r.key.store scope entries) := by
        unfold ContextRef.set
        -- a store in memory has no file that could not be written
        rw [Contexts.set_eq, hkeys]
        unfold Store.set
        dsimp only
        rw [Store.setBy_of_memory (hmemory _)]
        rfl
      refine ⟨msg, s.contexts.put r.key.store scope entries, ?_, rfl, keys, entries, hkeys, ?_, rfl⟩
      · simp only [Target.set, hset]
      · rw [← hget]
        exact Prod.ext (Entries.fst_remove _ keys) rfl

/-- A write that fails leaves the contexts alone and spares the message. -/
theorem set_error (t : Target) {fault : NodeFault}
    (h : t.set s msg (some v) = (.error fault, msg', contexts)) :
    contexts = s.contexts ∧ t.Spares msg msg' := by
  cases t with
  | message path =>
    have hfails : (msg.setPath path v).1 = false := by
      cases hset : (msg.setPath path v).1 with
      | false => rfl
      | true => simp [Target.set, hset] at h
    simp only [Target.set, Prod.mk.injEq] at h
    obtain ⟨-, rfl, rfl⟩ := h
    refine ⟨rfl, ?_⟩
    unfold Message.setPath at hfails ⊢
    cases hkeys : path.bind? (some msg.entries) with
    | none => exact .refl _
    | some keys =>
      rw [hkeys] at hfails
      exact Entries.keeps_assign hfails
  | context r =>
    simp only [Target.set] at h
    cases hset : r.set s (some msg) (some v) with
    | ok c =>
      rw [hset] at h
      cases h
    | error e =>
      rw [hset] at h
      cases h
      exact ⟨rfl, rfl⟩

end Target

namespace ChangeRule

/-- With stores in memory, a move that fails loses the value that stood at its source and nothing else:
the contexts are as they were with the value taken out, and so is the message, but for what a failed
write into it may leave behind. -/
theorem failed_move_loses_one_value {s : Setting} {msg msg' : Message} {contexts : Contexts}
    {source destination : Target} {fault : NodeFault}
    (hmemory : ∀ name, (s.contexts.store name).directory = none)
    (h : (move source destination).apply s msg = (.error fault, msg', contexts)) :
    ∃ v rest, source.get? s msg = some v ∧ source.TakenOut s msg v rest contexts ∧
      destination.Spares rest msg' := by
  rw [apply] at h
  split at h
  · cases h
  · cases hget : source.get? s msg with
    | none =>
      rw [hget] at h
      cases h
    | some v =>
      -- the removal goes through, so it is the write that fails
      obtain ⟨rest, taken, hset, htaken⟩ := source.set_none hmemory hget
      rw [hget] at h
      dsimp only at h
      rw [hset] at h
      obtain ⟨rfl, hspares⟩ := destination.set_error h
      exact ⟨v, rest, rfl, htaken, hspares⟩

/-- The setting of a node in a flow whose data hold one entry. -/
def keptSetting : Setting where
  identity :=
    { id := ⟨16⟩, name := "", type := "change", flow := { id := ⟨1⟩, label := "", env := [] },
      groups := [] }
  process := []
  contexts := (Contexts.inMemory Disk.empty).put none (.flow ⟨1⟩) [("kept", .bool true)]
  now := Double.zero

theorem keptSetting_memory (name : Option String) :
    (keptSetting.contexts.store name).directory = none :=
  (((Contexts.MadeInMemory.inMemory Disk.empty).shows.put none (.flow ⟨1⟩)
    [("kept", .bool true)]).store_memory name).1

/-- An entry of the message that moves to a place which it names itself: once it is taken out, there
is no such place any more. -/
theorem failed_move_loses_one_value_nested :
    let source : Target := .message { source := "key", segments := [.name "key"] }
    let destination : Target := .context ⟨.flow,
      { store := none
        path := { source := "a[msg.key]", segments := [.name "a", .reference "key" [.name "key"]] } }⟩
    let msg : Message := ⟨[("key", .string "k"), ("payload", .bool true)]⟩
    (∀ name, (keptSetting.contexts.store name).directory = none) ∧
      (move source destination).apply keptSetting msg =
        (.error (.store "memory" (.unbound "a[msg.key]")), ⟨[("payload", .bool true)]⟩,
          keptSetting.contexts) ∧
      ∃ v rest, source.get? keptSetting msg = some v ∧
        source.TakenOut keptSetting msg v rest keptSetting.contexts ∧
        destination.Spares rest ⟨[("payload", .bool true)]⟩ := by
  intro source destination msg
  have happly : (move source destination).apply keptSetting msg =
      (.error (.store "memory" (.unbound "a[msg.key]")), ⟨[("payload", .bool true)]⟩,
        keptSetting.contexts) := by cbv
  exact ⟨keptSetting_memory, happly, failed_move_loses_one_value keptSetting_memory happly⟩

/-- A move that fails does not leave everything as it was: an entry of the flow that cannot be written
below a text in the message is gone. -/
theorem not_failed_move_keeps_all :
    ¬∀ (now : Double) (config : ChangeRuleConfig) (source destination : Target) (s : Setting)
        (msg msg' : Message) (contexts : Contexts) (fault : NodeFault),
      compile now config = .ok (move source destination) →
      (∀ name, (s.contexts.store name).directory = none) →
      (move source destination).apply s msg = (.error fault, msg', contexts) →
      msg' = msg ∧ ∀ name scope,
        (contexts.store name).entries scope = (s.contexts.store name).entries scope := by
  intro h
  let config : ChangeRuleConfig :=
    { action := "move", target := "kept", targetType := some "flow",
      value := some (.string "payload.x"), valueType := some "msg" }
  let source : Target :=
    .context ⟨.flow, { store := none, path := { source := "kept", segments := [.name "kept"] } }⟩
  let destination : Target :=
    .message { source := "payload.x", segments := [.name "payload", .name "x"] }
  let msg : Message := ⟨[("_msgid", .string "m1"), ("payload", .string "text")]⟩
  have hcompile : compile Double.zero config = .ok (move source destination) := by cbv
  have happly : ∃ contexts fault,
      (move source destination).apply keptSetting msg = (.error fault, msg, contexts) ∧
        (contexts.store none).entries (.flow ⟨1⟩) = [] := ⟨_, _, by cbv, by cbv⟩
  obtain ⟨contexts, fault, happly, hempty⟩ := happly
  have hkept : (keptSetting.contexts.store none).entries (.flow ⟨1⟩) = [("kept", .bool true)] := by
    cbv
  have hsame := (h Double.zero config source destination keptSetting msg msg contexts fault hcompile
    keptSetting_memory happly).2 none (.flow ⟨1⟩)
  rw [hempty, hkept] at hsame
  cases hsame

end ChangeRule

end Wireflow
