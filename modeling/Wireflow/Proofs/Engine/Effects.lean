/-
What the effects of nodes do to an engine: a delivery puts one letter for every target of the port
behind all others, in the order of the wires, and nothing else that a node does touches the letters.
So a whole reaction appends the letters of its effects, and makes known one failure or none.
-/
import Wireflow.Proofs.Engine.Mail
import Wireflow.Proofs.Engine.Stations

namespace Wireflow

/-- The event tells that a node failed. -/
def Event.isFailed : Event → Bool
  | .failed _ _ => true
  | _ => false

/-- What is made known of how a node failed. -/
def failuresOf (id : Identifier) : Except NodeFault Unit → List Event
  | .ok _ => []
  | .error fault => [.failed id fault]

namespace Effect

/-- The letters that an effect of a node sends off. -/
def letters (targets : Identifier → Nat → List Identifier) (id : Identifier) :
    Effect → List Letter
  | .send port msg => (targets id port).map fun t => { target := t, msg }
  | _ => []

/-- The message that an effect hands over to whoever collects the output. -/
def observed : Effect → List Message
  | .observe msg => [msg]
  | _ => []

end Effect

namespace Engine

/-! ## Deliveries -/

/-- The engine with a copy of a message for each of some targets, and as many deliveries made known
in the same order. -/
def withCopies (e : Engine) (source : Identifier) (port : Nat) (msg : Message)
    (targets : List Identifier) : Engine :=
  { e with
    mail := e.mail ++ targets.map fun t => { target := t, msg }
    events := e.events ++ targets.map fun t => .delivered source port t msg.id? }

theorem post_eq {e : Engine} {t : Identifier} (ht : t ∈ e.nodeIds) (source : Identifier)
    (port : Nat) (msg : Message) :
    e.post source port msg.id? t msg = e.withCopies source port msg [t] := by
  obtain ⟨s, hs⟩ := exists_station? ht
  unfold post
  rw [hs]
  rfl

/-- Handing over makes a copy for every target: the last one takes the message itself, and until
then it is pending. -/
theorem hand_eq {targets : List Identifier} (source : Identifier) (port : Nat) (msg : Message) :
    ∀ {e : Engine}, (∀ t ∈ targets, t ∈ e.nodeIds) →
      hand source port msg.id? (some msg) targets e = e.withCopies source port msg targets := by
  induction targets with
  | nil =>
    intro e _
    simp [hand, withCopies]
  | cons t rest ih =>
    intro e h
    obtain ⟨ht, hrest⟩ := List.forall_mem_cons.1 h
    cases rest with
    | nil => simpa [hand] using post_eq ht source port msg
    | cons t' rest =>
      have hnext := ih (e := e.withCopies source port msg [t]) hrest
      simp only [hand, post_eq ht, List.isEmpty_cons, Bool.false_eq_true, if_false] at hnext ⊢
      rw [hnext]
      simp [withCopies]

/-- A delivery makes one copy for every target of the port. -/
theorem deliver_eq {e : Engine} (h : Wired e.stations) (source : Identifier) (port : Nat)
    (msg : Message) :
    e.deliver source port msg = e.withCopies source port msg (e.targets source port) := by
  have hknown := (targets_wired h source port).2
  revert hknown
  unfold deliver targets
  cases e.station? source with
  | none => simp [withCopies]
  | some s =>
    dsimp only
    intro hknown
    cases hport : s.ports[port]? with
    | none => simp [withCopies]
    | some targets =>
      rw [hport] at hknown
      exact hand_eq source port msg hknown

/-- What a delivery does to a queue. -/
theorem queue_deliver {e : Engine} (h : Wired e.stations) (source : Identifier) (port : Nat)
    (msg : Message) (id : Identifier) :
    (e.deliver source port msg).queue id =
      e.queue id ++ if id ∈ e.targets source port then [msg] else [] := by
  rw [deliver_eq h, queue_eq, queue_eq]
  simp only [withCopies, queueOf_append, queueOf_copies (targets_wired h source port).1]

/-! ## The start and injections -/

theorem startStation_keeps (e : Engine) (s : Station) :
    (e.startStation s).stations = e.stations ∧ (e.startStation s).mail = e.mail ∧
      (e.startStation s).phase = e.phase := by
  unfold startStation
  dsimp only
  split <;> exact ⟨rfl, rfl, rfl⟩

theorem startAll_keeps (ss : List Station) :
    ∀ e : Engine, (ss.foldl startStation e).stations = e.stations ∧
      (ss.foldl startStation e).mail = e.mail ∧ (ss.foldl startStation e).phase = e.phase := by
  induction ss with
  | nil => exact fun _ => ⟨rfl, rfl, rfl⟩
  | cons s rest ih =>
    intro e
    obtain ⟨hstations, hmail, hphase⟩ := startStation_keeps e s
    obtain ⟨hstations', hmail', hphase'⟩ := ih (e.startStation s)
    exact ⟨hstations'.trans hstations, hmail'.trans hmail, hphase'.trans hphase⟩

/-- The start keeps the stations, and sorts the letters by the nodes that they go to. -/
theorem start_keeps (e : Engine) :
    e.start.2.stations = e.stations ∧
      (e.start.2.mail = e.mail ∨
        e.start.2.mail = e.nodeIds.flatMap fun id => e.mail.filter fun l => l.target == id) := by
  unfold start
  split
  · exact ⟨rfl, .inl rfl⟩
  · obtain ⟨hstations, hmail, -⟩ := startAll_keeps e.stations
      { e with phase := .running, started := some e.clock.elapsed,
               mail := e.nodeIds.flatMap fun id => e.mail.filter fun l => l.target == id }
    exact ⟨hstations, .inr hmail⟩

theorem phase_start {e : Engine} (h : e.phase = .built) : e.start.2.phase = .running := by
  unfold start
  rw [if_neg (not_not.2 h)]
  exact (startAll_keeps e.stations _).2.2

/-- The start loses no letter and adds none. -/
theorem mem_mail_start {e : Engine} {l : Letter} (hl : l ∈ e.start.2.mail) : l ∈ e.mail := by
  rcases e.start_keeps.2 with hmail | hmail
  · exact hmail ▸ hl
  · rw [hmail] at hl
    obtain ⟨i, -, hi⟩ := List.mem_flatMap.1 hl
    exact (List.mem_filter.1 hi).1

theorem queue_start {e : Engine} (hwired : Wired e.stations)
    (hknown : ∀ l ∈ e.mail, l.target ∈ e.nodeIds) (id : Identifier) :
    e.start.2.queue id = e.queue id := by
  rcases e.start_keeps.2 with hmail | hmail
  · rw [queue_eq, hmail, queue_eq]
  · rw [queue_eq, hmail, queueOf_flatMap (show e.nodeIds.Nodup from hwired.nodup)]
    split
    · rfl
    · rename_i hid
      by_contra hqueue
      exact hid (mem_of_queueOf_ne_nil hknown (Ne.symm hqueue))

/-- An injection that succeeds puts the message behind all others to a node that is there. -/
theorem inject_eq_ok {e e' : Engine} {target : Identifier} {msg : Message}
    (h : e.inject target msg = (.ok (), e')) :
    target ∈ e.nodeIds ∧ e' = { e with mail := e.mail ++ [{ target, msg }] } := by
  unfold inject at h
  split at h
  · cases h
  · split at h
    · cases h
    · rename_i s hs
      obtain ⟨hmem, rfl⟩ := mem_of_station? hs
      cases h
      exact ⟨List.mem_map_of_mem hmem, rfl⟩

/-- An injection that fails leaves the engine as it is. -/
theorem inject_eq_error {e e' : Engine} {target : Identifier} {msg : Message} {fault : EngineFault}
    (h : e.inject target msg = (.error fault, e')) : e' = e := by
  unfold inject at h
  split at h
  · cases h; rfl
  · split at h
    · cases h; rfl
    · cases h

/-! ## Effects and reactions -/

/-- Letters that nodes send off are addressed to nodes that are there. -/
theorem target_of_mem_letters {e : Engine} (h : Wired e.stations) {id : Identifier}
    {effect : Effect} {l : Letter} (hl : l ∈ effect.letters e.targets id) :
    l.target ∈ e.nodeIds := by
  cases effect with
  | send port msg =>
    obtain ⟨t, ht, rfl⟩ := List.mem_map.1 hl
    exact (targets_wired h id port).2 t ht
  | observe msg => cases hl
  | notice n => cases hl

/-- What an engine has done since another state of it: it has sent letters off, handed messages
over and made failures known. Its nodes and its wires are the same, and so is its phase. -/
structure Advances (e e' : Engine) (letters : List Letter) (observed : List Message)
    (failures : List Event) : Prop where
  stations : e'.stations = e.stations
  process : e'.process = e.process
  phase : e'.phase = e.phase
  mail : e'.mail = e.mail ++ letters
  outputs : e'.outputs = e.outputs ++ observed
  failures : e'.events.filter Event.isFailed = e.events.filter Event.isFailed ++ failures

namespace Advances

variable {e e₁ e₂ : Engine} {l₁ l₂ : List Letter} {o₁ o₂ : List Message} {f₁ f₂ : List Event}

theorem trans (h₁ : Advances e e₁ l₁ o₁ f₁) (h₂ : Advances e₁ e₂ l₂ o₂ f₂) :
    Advances e e₂ (l₁ ++ l₂) (o₁ ++ o₂) (f₁ ++ f₂) where
  stations := h₂.stations.trans h₁.stations
  process := h₂.process.trans h₁.process
  phase := h₂.phase.trans h₁.phase
  mail := by rw [h₂.mail, h₁.mail, List.append_assoc]
  outputs := by rw [h₂.outputs, h₁.outputs, List.append_assoc]
  failures := by rw [h₂.failures, h₁.failures, List.append_assoc]

theorem queue (h : Advances e e₁ l₁ o₁ f₁) (id : Identifier) :
    e₁.queue id = e.queue id ++ queueOf id l₁ := by
  rw [queue_eq, queue_eq, h.mail, queueOf_append]

end Advances

theorem perform_advances {e : Engine} (h : Wired e.stations) (id : Identifier) (effect : Effect) :
    Advances e (e.perform id effect) (effect.letters e.targets id) effect.observed [] := by
  cases effect with
  | send port msg =>
    rw [show e.perform id (.send port msg) = e.deliver id port msg from rfl, deliver_eq h]
    have hquiet : ((e.targets id port).map fun t => Event.delivered id port t msg.id?).filter
        Event.isFailed = [] := by
      simp [Event.isFailed]
    refine ⟨rfl, rfl, rfl, rfl, (List.append_nil _).symm, ?_⟩
    simp only [withCopies, List.filter_append, hquiet]
  | observe msg =>
    exact ⟨rfl, rfl, rfl, (List.append_nil _).symm, rfl, (List.append_nil _).symm⟩
  | notice n =>
    refine ⟨rfl, rfl, rfl, (List.append_nil _).symm, (List.append_nil _).symm, ?_⟩
    simp [perform, publish, Event.isFailed]

theorem performAll_advances (id : Identifier) (effects : List Effect) :
    ∀ {e : Engine}, Wired e.stations →
      Advances e (effects.foldl (perform id) e) (effects.flatMap (Effect.letters e.targets id))
        (effects.flatMap Effect.observed) [] := by
  induction effects with
  | nil =>
    intro e _
    exact ⟨rfl, rfl, rfl, (List.append_nil _).symm, (List.append_nil _).symm,
      (List.append_nil _).symm⟩
  | cons effect rest ih =>
    intro e h
    have hfirst := perform_advances h id effect
    have hrest := ih (e := e.perform id effect) (hfirst.stations ▸ h)
    rw [targets_congr hfirst.stations] at hrest
    exact hfirst.trans hrest

theorem conclude_advances (e : Engine) (id : Identifier) (outcome : Except NodeFault Unit) :
    Advances e (e.conclude id outcome) [] [] (failuresOf id outcome) := by
  cases outcome with
  | ok _ =>
    exact ⟨rfl, rfl, rfl, (List.append_nil _).symm, (List.append_nil _).symm,
      (List.append_nil _).symm⟩
  | error fault =>
    refine ⟨rfl, rfl, rfl, (List.append_nil _).symm, (List.append_nil _).symm, ?_⟩
    simp [conclude, publish, failuresOf, Event.isFailed]

/-- A node that acts on a message brings about the effects of its reaction, and then its failure if
it fails. -/
theorem act_advances {e : Engine} (h : Wired e.stations) (s : Station) (msg : Message) :
    Advances e (e.act s msg) ((e.react s msg).effects.flatMap (Effect.letters e.targets s.id))
      ((e.react s msg).effects.flatMap Effect.observed)
      (failuresOf s.id (e.react s msg).outcome) := by
  unfold act
  have heffects := performAll_advances s.id (e.react s msg).effects
    (e := { e with contexts := (e.react s msg).contexts }) h
  have hall := heffects.trans (conclude_advances _ s.id (e.react s msg).outcome)
  simp only [List.append_nil, List.nil_append] at hall
  exact ⟨hall.stations, hall.process, hall.phase, hall.mail, hall.outputs, hall.failures⟩

/-! ## Turns -/

theorem turn?_eq_some_iff {e : Engine} {id : Identifier} {s : Station} {msg : Message}
    {others : List Letter} :
    e.turn? id = some (s, msg, others) ↔
      e.phase = .running ∧ e.station? id = some s ∧ takeLetter? id e.mail = some (msg, others) := by
  unfold turn?
  split
  · rename_i hphase
    simp [hphase]
  · rename_i hphase
    cases hs : e.station? id <;> cases ht : takeLetter? id e.mail <;>
      simp_all [Prod.ext_iff]

/-- In a running engine it is the turn of every node that something waits for. -/
theorem exists_turn? {e : Engine} {id : Identifier} {msg : Message} {waiting : List Message}
    (hphase : e.phase = .running) (hid : id ∈ e.nodeIds) (hqueue : e.queue id = msg :: waiting) :
    ∃ s others, e.turn? id = some (s, msg, others) := by
  obtain ⟨s, hs⟩ := exists_station? hid
  obtain ⟨others, hothers⟩ := exists_takeLetter? hqueue
  exact ⟨s, others, turn?_eq_some_iff.2 ⟨hphase, hs, hothers⟩⟩

theorem handle_eq {e : Engine} {id : Identifier} {s : Station} {msg : Message}
    {others : List Letter} (h : e.turn? id = some (s, msg, others)) :
    e.handle id = { e with mail := others }.act s msg := by
  unfold handle
  rw [h]

/-- A node that handles a message takes it out of its queue before it acts on it. -/
theorem handle_advances {e : Engine} (h : Wired e.stations) {id : Identifier} {s : Station}
    {msg : Message} {others : List Letter} (hturn : e.turn? id = some (s, msg, others)) :
    Advances { e with mail := others } (e.handle id)
      ((e.react s msg).effects.flatMap (Effect.letters e.targets id))
      ((e.react s msg).effects.flatMap Effect.observed)
      (failuresOf id (e.react s msg).outcome) := by
  obtain ⟨-, hs, -⟩ := turn?_eq_some_iff.1 hturn
  obtain ⟨-, rfl⟩ := mem_of_station? hs
  rw [handle_eq hturn]
  exact act_advances (e := { e with mail := others }) h s msg

/-- What a turn does to the queues: the node's own one loses its head, and then all of them get what
the reaction sends off. -/
theorem queue_handle {e : Engine} (h : Wired e.stations) {id : Identifier} {s : Station}
    {msg : Message} {others : List Letter} (hturn : e.turn? id = some (s, msg, others))
    (x : Identifier) :
    (e.handle id).queue x = (if x = id then (e.queue x).tail else e.queue x) ++
      queueOf x ((e.react s msg).effects.flatMap (Effect.letters e.targets id)) := by
  obtain ⟨-, -, hletter⟩ := turn?_eq_some_iff.1 hturn
  obtain ⟨hhead, hothers⟩ := queueOf_takeLetter? hletter
  -- the letter is out of its queue before the reaction, so a failure cannot keep it there
  rw [(handle_advances h hturn).queue]
  congr 1
  split
  · rename_i hx
    rw [hx, queue_eq e, hhead]
    rfl
  · rename_i hx
    exact (hothers x hx).symm

end Engine

end Wireflow
