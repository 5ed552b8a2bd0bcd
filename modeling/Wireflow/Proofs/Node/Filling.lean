/-
What inject nodes fill into a message. Properties are filled in one after the other, each evaluated
against what those before it have left. One without a value leaves the message alone, and one that cannot
be set is reported. It need not leave the message alone: the write makes the containers that are missing on
its way before it finds out that it cannot go on. It loses nothing, though, and leaves the message exactly
as it was when its path cannot be bound or runs into something that stands there.
-/
import Wireflow.Node.Inject
import Wireflow.Proofs.Value.Order

namespace Wireflow

/-- A path cannot be bound to a message, or its keys lead to no slot that could be written. -/
def Path.Obstructed (p : Path) (msg : Message) : Prop :=
  ∀ keys, p.bind? (some msg.entries) = some keys → msg.entries.Blocked keys

namespace Message

variable {msg : Message} {path : Path} {v : Value}

theorem setPath_ordered (h : msg.entries.Ordered) (path : Path) (hv : v.Ordered) :
    (msg.setPath path v).2.entries.Ordered := by
  unfold setPath
  cases path.bind? (some msg.entries) with
  | none => exact h
  | some keys => exact h.assign hv keys

/-- A value that cannot be set loses nothing. -/
theorem keeps_setPath (h : (msg.setPath path v).1 = false) :
    msg.entries.Keeps (msg.setPath path v).2.entries := by
  unfold setPath at h ⊢
  cases hkeys : path.bind? (some msg.entries) with
  | none => exact .refl _
  | some keys =>
    rw [hkeys] at h
    exact Entries.keeps_assign h

/-- A value that cannot be set leaves the message as it was exactly when its path is obstructed. -/
theorem setPath_eq_self_iff (hordered : msg.entries.Ordered) (h : (msg.setPath path v).1 = false) :
    (msg.setPath path v).2 = msg ↔ path.Obstructed msg := by
  unfold setPath Path.Obstructed at *
  cases hkeys : path.bind? (some msg.entries) with
  | none => exact iff_of_true rfl nofun
  | some keys =>
    rw [hkeys] at h
    have hsame := Entries.snd_assign_eq_self_iff hordered h
    simp only [Option.some.injEq, forall_eq']
    rw [← hsame]
    exact ⟨fun heq => congrArg Message.entries heq, fun heq => congrArg Message.mk heq⟩

end Message

namespace Filling

/-- The warning for a property that cannot be set. -/
def warning (f : Filling) : Effect :=
  .notice (.warning ("cannot set msg." ++ f.path.source))

/-- Properties are filled into a message in order. One without a value leaves the message alone, and one
whose value can be set changes it by that. One that cannot be set is reported, and is related to the
message before and after it by `leaves`. -/
inductive Fills (s : Setting) (leaves : Filling → Message → Message → Prop) :
    Message → List Filling → List Filling → Message → Prop
  | nil {msg : Message} : Fills s leaves msg [] [] msg
  | absent {f : Filling} {rest reported : List Filling} {msg msg' : Message} :
      f.value.evaluate? s (some msg) = none → Fills s leaves msg rest reported msg' →
      Fills s leaves msg (f :: rest) reported msg'
  | set {f : Filling} {rest reported : List Filling} {msg next msg' : Message} {v : Value} :
      f.value.evaluate? s (some msg) = some v → msg.setPath f.path v = (true, next) →
      Fills s leaves next rest reported msg' → Fills s leaves msg (f :: rest) reported msg'
  | unset {f : Filling} {rest reported : List Filling} {msg next msg' : Message} {v : Value} :
      f.value.evaluate? s (some msg) = some v → (msg.setPath f.path v).1 = false →
      leaves f msg next → Fills s leaves next rest reported msg' →
      Fills s leaves msg (f :: rest) (f :: reported) msg'

/-- One property after the other is filled in, with a warning for each that cannot be set and for no
other. Such a property loses nothing of the message, and leaves it as it was exactly when its path is
obstructed. The objects in the message and in what the properties stand for list their entries in the
order of the names, which tables that are filled by writing always do. -/
theorem fill_spares_message {s : Setting} {msg : Message} {fillings : List Filling}
    (hmsg : msg.entries.Ordered)
    (hvalues : ∀ f ∈ fillings, ∀ m : Message, m.entries.Ordered →
      ∀ v, f.value.evaluate? s (some m) = some v → v.Ordered) :
    ∃ reported, (fill s msg fillings).1 = reported.map warning ∧
      Fills s (fun f before after => before.entries.Keeps after.entries ∧
        (after = before ↔ f.path.Obstructed before))
        msg fillings reported (fill s msg fillings).2 := by
  induction fillings generalizing msg with
  | nil => exact ⟨[], rfl, .nil⟩
  | cons f rest ih =>
    obtain ⟨hf, hrest⟩ := List.forall_mem_cons.1 hvalues
    rw [fill]
    cases hv : f.value.evaluate? s (some msg) with
    | none =>
      obtain ⟨reported, hwarnings, hfills⟩ := ih hmsg hrest
      exact ⟨reported, hwarnings, .absent hv hfills⟩
    | some v =>
      obtain ⟨reported, hwarnings, hfills⟩ :=
        ih (Message.setPath_ordered hmsg f.path (hf msg hmsg v hv)) hrest
      dsimp only
      cases hset : (msg.setPath f.path v).1 with
      | true => exact ⟨reported, hwarnings, .set hv (Prod.ext hset rfl) hfills⟩
      | false =>
        refine ⟨f :: reported, congrArg (warning f :: ·) hwarnings, .unset hv hset ?_ hfills⟩
        exact ⟨Message.keeps_setPath hset, Message.setPath_eq_self_iff hmsg hset⟩

/-- The setting of an inject node in a flow without data. -/
def bareSetting : Setting where
  identity :=
    { id := ⟨16⟩, name := "", type := "inject", flow := { id := ⟨1⟩, label := "", env := [] },
      groups := [] }
  process := []
  contexts := Contexts.inMemory Disk.empty
  now := Double.zero

/-- Two properties that cannot be set: one that lies too far beyond the end of an array which is not there
yet, and one below a text. -/
theorem fill_spares_message_twice :
    let far : Filling :=
      { path := { source := "list[2000]", segments := [.name "list", .index 2000] }
        value := .constant (.string "x") }
    let below : Filling :=
      { path := { source := "payload.x", segments := [.name "payload", .name "x"] }
        value := .constant (.string "x") }
    let msg : Message := ⟨[("_msgid", .string "m1"), ("payload", .string "text")]⟩
    (msg.entries.Ordered ∧ ∀ f ∈ [far, below], ∀ m : Message, m.entries.Ordered →
      ∀ v, f.value.evaluate? bareSetting (some m) = some v → v.Ordered) ∧
    (fill bareSetting msg [far, below]).2 =
      ⟨[("_msgid", .string "m1"), ("list", .array []), ("payload", .string "text")]⟩ ∧
    ∃ reported, (fill bareSetting msg [far, below]).1 = reported.map warning ∧
      Fills bareSetting (fun f before after => before.entries.Keeps after.entries ∧
        (after = before ↔ f.path.Obstructed before))
        msg [far, below] reported (fill bareSetting msg [far, below]).2 := by
  intro far below msg
  have hmsg : msg.entries.Ordered := by
    refine Value.ordered_object (by unfold Table.Sorted; decide) fun e he => ?_
    rcases List.mem_cons.1 he with rfl | he
    · exact Value.IsScalar.ordered trivial
    · obtain rfl := List.mem_singleton.1 he
      exact Value.IsScalar.ordered trivial
  have hvalues : ∀ f ∈ [far, below], ∀ m : Message, m.entries.Ordered →
      ∀ v, f.value.evaluate? bareSetting (some m) = some v → v.Ordered := by
    intro f hf m _ v hv
    rcases List.mem_cons.1 hf with rfl | hf
    · cases hv
      exact Value.IsScalar.ordered trivial
    · obtain rfl := List.mem_singleton.1 hf
      cases hv
      exact Value.IsScalar.ordered trivial
  exact ⟨⟨hmsg, hvalues⟩, by cbv, fill_spares_message hmsg hvalues⟩

/-- A property that cannot be set does not always leave the message as it was: the array that it reaches
too far into is there afterwards. -/
theorem not_fill_skips :
    ¬∀ (now : Double) (config : InjectConfig) (fillings : List Filling) (s : Setting) (msg : Message),
      ofConfig now config = .ok fillings →
      ∃ reported, (fill s msg fillings).1 = reported.map warning ∧
        Fills s (fun _ before after => after = before) msg fillings reported
          (fill s msg fillings).2 := by
  intro h
  let config : InjectConfig :=
    { InjectConfig.blank with
      props := some [{ path := "list[2000]", value := some (.string "x"), valueType := none }] }
  let far : Filling :=
    { path := { source := "list[2000]", segments := [.name "list", .index 2000] }
      value := .constant (.string "x") }
  let msg : Message := ⟨[("_msgid", .string "m1")]⟩
  have hconfig : ofConfig Double.zero config = .ok [far] := by cbv
  have hfill : (fill bareSetting msg [far]).2 =
      ⟨[("_msgid", .string "m1"), ("list", .array [])]⟩ := by cbv
  have hfails : (msg.setPath far.path (.string "x")).1 = false := by cbv
  obtain ⟨reported, -, hfills⟩ := h Double.zero config [far] bareSetting msg hconfig
  rw [hfill] at hfills
  cases hfills with
  | absent hv _ => cases hv
  | set hv hset _ =>
    cases hv
    rw [hset] at hfails
    cases hfails
  | unset _ _ hleft hrest =>
    cases hrest
    exact absurd (congrArg (·.entries.length) hleft) (by decide)

end Filling

end Wireflow
