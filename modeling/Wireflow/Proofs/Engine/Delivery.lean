/-
No message is lost, doubled, changed or overtaken. In a run of an engine its nodes work at the same
time: each takes a message when it is free and goes through its reaction one effect at a time, and
the moves of different nodes, injections, the start and alarms come in any order. Whatever the order,
what a node has taken followed by what waits for it is what has been sent to it, in the order of
sending.

The invariant of a run compares the queues with a log of what was sent and taken; that all letters
are addressed to nodes of the engine is the part of it that the start needs.
-/
import Wireflow.Proofs.Engine.Effects
import Mathlib.Logic.Function.Basic

namespace Wireflow

/-! ## Runs -/

/-- What is left of a reaction: what the node still does, and how it ends then. -/
structure Work where
  effects : List Effect
  outcome : Except NodeFault Unit

/-- An engine with its nodes at work: a node that has no work left is free. -/
structure Shift where
  engine : Engine
  work : Identifier → Option Work

/-- Something that can come next: a message from outside, the start, a free node that takes the
oldest message of its queue, an alarm that goes off at a free node, or a node at work that does its
next effect, or ends when there is none. -/
inductive Move
  | inject (target : Identifier) (msg : Message)
  | start
  | take (node : Identifier)
  | wake (place : Nat)
  | proceed (node : Identifier)

/-- What a log tells of a move. -/
inductive Deed
  | injected (target : Identifier) (msg : Message)
  | took (node : Identifier) (msg : Message)
  | sent (source : Identifier) (port : Nat) (msg : Message)

namespace Deed

/-- The message that a node took. -/
def takenBy (id : Identifier) : Deed → List Message
  | .took node msg => if node = id then [msg] else []
  | _ => []

/-- The message that was sent to a node: from outside, or on a port with a wire to it. -/
def sentTo (targets : Identifier → Nat → List Identifier) (id : Identifier) : Deed → List Message
  | .injected target msg => if target = id then [msg] else []
  | .took _ _ => []
  | .sent source port msg => if id ∈ targets source port then [msg] else []

end Deed

/-- What the log tells of an effect of a node. -/
def Effect.deeds (id : Identifier) : Effect → List Deed
  | .send port msg => [.sent id port msg]
  | _ => []

namespace Shift

/-- An engine whose nodes are all free. -/
def resting (e : Engine) : Shift := { engine := e, work := fun _ => none }

/-- A node sets to work on a message. -/
def setTo (σ : Shift) (e : Engine) (s : Station) (msg : Message) : Shift :=
  let r := e.react s msg
  { engine := { e with contexts := r.contexts }
    work := Function.update σ.work s.id (some { effects := r.effects, outcome := r.outcome }) }

/-- Makes a move, and logs it. A move that cannot be made changes nothing. -/
def step (σ : Shift) : Move → List Deed × Shift
  | .inject target msg =>
    match σ.engine.inject target msg with
    | (.ok _, e) => ([.injected target msg], { σ with engine := e })
    | (.error _, _) => ([], σ)
  | .start => ([], { σ with engine := σ.engine.start.2 })
  | .take node =>
    match σ.work node, σ.engine.turn? node with
    | none, some (s, msg, mail) => ([.took node msg], σ.setTo { σ.engine with mail } s msg)
    | _, _ => ([], σ)
  | .wake place =>
    match σ.engine.agenda[place]? with
    | none => ([], σ)
    | some (id, alarm) =>
      let (fresh, e) := σ.engine.dismiss id alarm (σ.engine.agenda.eraseIdx place)
      match σ.work id, e.station? id with
      | none, some s => ([], σ.setTo e s (.empty fresh))
      | _, _ => ([], σ)
  | .proceed node =>
    match σ.work node with
    | none => ([], σ)
    | some { effects := [], outcome } =>
      ([], { engine := σ.engine.conclude node outcome,
             work := Function.update σ.work node none })
    | some { effects := effect :: rest, outcome } =>
      (effect.deeds node,
        { engine := σ.engine.perform node effect,
          work := Function.update σ.work node (some { effects := rest, outcome }) })

/-- Makes moves in order. -/
def run (σ : Shift) : List Move → List Deed × Shift
  | [] => ([], σ)
  | move :: rest => ((σ.step move).1 ++ ((σ.step move).2.run rest).1, ((σ.step move).2.run rest).2)

end Shift

/-! ## What a move does to the queues -/

theorem sentTo_deeds {targets : Identifier → Nat → List Identifier}
    (h : ∀ source port, (targets source port).Nodup) (source id : Identifier) (effect : Effect) :
    (effect.deeds source).flatMap (Deed.sentTo targets id) =
      Engine.queueOf id (effect.letters targets source) := by
  cases effect with
  | send port msg =>
    simp [Effect.deeds, Effect.letters, Deed.sentTo, Engine.queueOf_copies (h source port)]
  | observe msg => rfl
  | notice n => rfl

/-- What the log tells of a whole reaction are its letters. -/
theorem sentTo_flatMap {targets : Identifier → Nat → List Identifier}
    (h : ∀ source port, (targets source port).Nodup) (source id : Identifier)
    (effects : List Effect) :
    (effects.flatMap (Effect.deeds source)).flatMap (Deed.sentTo targets id) =
      Engine.queueOf id (effects.flatMap (Effect.letters targets source)) := by
  induction effects with
  | nil => rfl
  | cons effect rest ih =>
    rw [List.flatMap_cons, List.flatMap_append, List.flatMap_cons, Engine.queueOf_append, ih,
      sentTo_deeds h]

namespace Shift

/-- What holds throughout a run that began at an engine: its stations are there and all letters are
addressed to them, and what a node has taken followed by what waits for it is what has been sent to
it. -/
structure Conserved (e₀ : Engine) (log : List Deed) (σ : Shift) : Prop where
  stations : σ.engine.stations = e₀.stations
  known : ∀ l ∈ σ.engine.mail, l.target ∈ e₀.nodeIds
  queues : ∀ id, log.flatMap (Deed.takenBy id) ++ σ.engine.queue id =
    log.flatMap (Deed.sentTo e₀.targets id)

namespace Conserved

variable {e₀ : Engine} {log : List Deed} {σ : Shift}

theorem nodeIds (h : Conserved e₀ log σ) : σ.engine.nodeIds = e₀.nodeIds := by
  unfold Engine.nodeIds
  rw [h.stations]

/-- Whatever waits for a node of a running engine can be taken. -/
theorem exists_turn? (h : Conserved e₀ log σ) {id : Identifier} {msg : Message}
    {waiting : List Message} (hphase : σ.engine.phase = .running)
    (hqueue : σ.engine.queue id = msg :: waiting) :
    ∃ s others, σ.engine.turn? id = some (s, msg, others) := by
  refine Engine.exists_turn? hphase (h.nodeIds ▸ ?_) hqueue
  refine Engine.mem_of_queueOf_ne_nil h.known ?_
  rw [← Engine.queue_eq, hqueue]
  exact List.cons_ne_nil _ _

/-- A move that leaves the letters as they are and that the log does not tell of. -/
theorem silent (h : Conserved e₀ log σ) {σ' : Shift}
    (hstations : σ'.engine.stations = σ.engine.stations) (hmail : σ'.engine.mail = σ.engine.mail) :
    Conserved e₀ (log ++ []) σ' where
  stations := hstations.trans h.stations
  known := by rw [hmail]; exact h.known
  queues := fun id => by
    rw [List.append_nil, Engine.queue_eq, hmail]
    exact h.queues id

/-- A move that sends letters off, which the log tells of. -/
theorem append (h : Conserved e₀ log σ) {deeds : List Deed} {letters : List Letter} {σ' : Shift}
    (hstations : σ'.engine.stations = σ.engine.stations)
    (hmail : σ'.engine.mail = σ.engine.mail ++ letters)
    (hknown : ∀ l ∈ letters, l.target ∈ e₀.nodeIds)
    (htaken : ∀ id, deeds.flatMap (Deed.takenBy id) = [])
    (hsent : ∀ id, deeds.flatMap (Deed.sentTo e₀.targets id) = Engine.queueOf id letters) :
    Conserved e₀ (log ++ deeds) σ' where
  stations := hstations.trans h.stations
  known := by
    rw [hmail]
    exact fun l hl => (List.mem_append.1 hl).elim (h.known l) (hknown l)
  queues := fun id => by
    rw [List.flatMap_append, List.flatMap_append, htaken, hsent, ← h.queues, Engine.queue_eq,
      hmail, Engine.queueOf_append, List.append_nil, List.append_assoc]
    rfl

/-- A node takes the head of its queue, which the log tells of. -/
theorem take (h : Conserved e₀ log σ) {id : Identifier} {msg : Message} {others : List Letter}
    {σ' : Shift} (hletter : Engine.takeLetter? id σ.engine.mail = some (msg, others))
    (hstations : σ'.engine.stations = σ.engine.stations) (hmail : σ'.engine.mail = others) :
    Conserved e₀ (log ++ [.took id msg]) σ' where
  stations := hstations.trans h.stations
  known := by
    obtain ⟨before, after, heq, -, rfl⟩ := Engine.takeLetter?_eq_some_iff.1 hletter
    rw [hmail]
    refine fun l hl => h.known l ?_
    rw [heq]
    exact (List.mem_append.1 hl).elim (List.mem_append_left _)
      fun hl => List.mem_append_right _ (List.mem_cons_of_mem _ hl)
  queues := fun x => by
    obtain ⟨hhead, hothers⟩ := Engine.queueOf_takeLetter? hletter
    have hx := h.queues x
    rw [List.flatMap_append, List.flatMap_append, ← hx, Engine.queue_eq, hmail, Engine.queue_eq]
    by_cases hid : x = id
    · subst hid
      simp [Deed.takenBy, Deed.sentTo, hhead]
    · simp [Deed.takenBy, Deed.sentTo, hothers x hid, Ne.symm hid]

/-- No move breaks it. -/
theorem step (hwired : Wired e₀.stations) (h : Conserved e₀ log σ) (move : Move) :
    Conserved e₀ (log ++ (σ.step move).1) (σ.step move).2 := by
  have hw : Wired σ.engine.stations := h.stations ▸ hwired
  cases move with
  | inject target msg =>
    unfold Shift.step
    dsimp only
    split
    · rename_i hinject
      obtain ⟨htarget, rfl⟩ := Engine.inject_eq_ok hinject
      refine h.append rfl rfl (by simpa [← h.nodeIds] using htarget) (fun id => rfl) fun id => ?_
      simp [Deed.sentTo, Engine.queueOf_cons]
    · exact h.silent rfl rfl
  | start =>
    have hstations := σ.engine.start_keeps.1
    refine ⟨hstations.trans h.stations, fun l hl => ?_, fun id => ?_⟩
    · exact h.known l (Engine.mem_mail_start hl)
    · have hqueue := Engine.queue_start hw (by rw [h.nodeIds]; exact h.known) id
      change _ ++ σ.engine.start.2.queue id = _
      rw [hqueue]
      simpa [Shift.step] using h.queues id
  | take node =>
    unfold Shift.step
    dsimp only
    split
    · rename_i s msg others _ hturn
      exact h.take (Engine.turn?_eq_some_iff.1 hturn).2.2 rfl rfl
    · exact h.silent rfl rfl
  | wake place =>
    unfold Shift.step
    dsimp only
    split
    · exact h.silent rfl rfl
    · split
      · exact h.silent rfl rfl
      · exact h.silent rfl rfl
  | proceed node =>
    unfold Shift.step
    dsimp only
    split
    · exact h.silent rfl rfl
    · rename_i outcome _
      have hend := Engine.conclude_advances σ.engine node outcome
      exact h.silent hend.stations (by rw [hend.mail, List.append_nil])
    · rename_i effect rest outcome _
      have hperform := Engine.perform_advances hw node effect
      have htargets := Engine.targets_congr h.stations
      refine h.append hperform.stations hperform.mail ?_ (fun id => ?_) fun id => ?_
      · exact fun l hl => h.nodeIds ▸ Engine.target_of_mem_letters hw hl
      · cases effect <;> rfl
      · rw [htargets]
        exact sentTo_deeds (fun source port => (Engine.targets_wired hwired source port).1) _ _ _

/-- So a whole run keeps it. -/
theorem run (hwired : Wired e₀.stations) (moves : List Move) :
    ∀ {log : List Deed} {σ : Shift}, Conserved e₀ log σ →
      Conserved e₀ (log ++ (σ.run moves).1) (σ.run moves).2 := by
  induction moves with
  | nil => intro log σ h; exact h.silent rfl rfl
  | cons move rest ih =>
    intro log σ h
    have hrest := ih (h.step hwired move)
    rw [List.append_assoc] at hrest
    exact hrest

end Conserved

/-! ## Reactions as runs -/

/-- A node at work comes to the end of its reaction: its effects have come about in order, its
failure is known if it failed, and it is free. -/
theorem run_work (id : Identifier) (outcome : Except NodeFault Unit) (effects : List Effect) :
    ∀ σ : Shift, σ.work id = some { effects, outcome } →
      σ.run (List.replicate (effects.length + 1) (.proceed id)) =
        (effects.flatMap (Effect.deeds id),
          { engine := (effects.foldl (Engine.perform id) σ.engine).conclude id outcome
            work := Function.update σ.work id none }) := by
  induction effects with
  | nil =>
    intro σ h
    simp [run, step, h]
  | cons effect rest ih =>
    intro σ h
    have hrest := ih (σ.step (.proceed id)).2 (by simp [step, h])
    rw [List.length_cons, List.replicate_succ, run, hrest]
    simp [step, h]

/-- A node that is set to work and does nothing but its work acts on the message. -/
theorem run_setTo (e : Engine) (s : Station) (msg : Message) :
    (((resting e).setTo e s msg).run
      (List.replicate ((e.react s msg).effects.length + 1) (.proceed s.id))).2 =
        resting (e.act s msg) := by
  rw [run_work s.id (e.react s msg).outcome (e.react s msg).effects]
  · simp [setTo, resting, Engine.act]
  · simp [setTo]

/-- To handle a message in one go is one of the runs. -/
theorem run_take {e : Engine} {id : Identifier} {s : Station} {msg : Message}
    {others : List Letter} (h : e.turn? id = some (s, msg, others)) :
    ((resting e).run
      (.take id :: List.replicate ((e.react s msg).effects.length + 1) (.proceed id))).2 =
        resting (e.handle id) := by
  obtain ⟨-, rfl⟩ := Engine.mem_of_station? (Engine.turn?_eq_some_iff.1 h).2.1
  have hstep : ((resting e).step (.take s.id)).2 =
      (resting { e with mail := others }).setTo { e with mail := others } s msg := by
    simp [step, resting, h, setTo]
  rw [run, hstep, Engine.handle_eq h]
  exact run_setTo { e with mail := others } s msg

/-! ## Engines of documents -/

/-- In every run of an engine that is built from a document, at every moment of it: the ports lead
where the wires of the document do; what a node has taken followed by what waits for it is what has
been sent to it, in that order; a delivery puts one copy behind all others for each target of the
port in the order of the wires, and makes one delivery known for each; whatever waits for a node can
be taken by it, and the one that takes it is the instance of that node's definition; and a message
that is handled with a fault makes this one failure known and leaves all others where they are. -/
theorem run_conserves {records : Json} {d : Document} {w : Surroundings}
    {settings : EngineSettings} {e : Engine} (hparse : Document.parse records = .ok d)
    (hbuild : (Engine.build w settings d).1 = .ok e) (moves : List Move) :
    let log := ((resting e).run moves).1
    let now := ((resting e).run moves).2.engine
    (∀ n ∈ d.nodes, Graph.isActive d n = true →
      ∀ port, e.targets n.id port = d.reached ((n.wires[port]?).getD [])) ∧
    (∀ id, log.flatMap (Deed.takenBy id) ++ now.queue id =
      log.flatMap (Deed.sentTo e.targets id)) ∧
    (∀ source port msg,
      let after := now.deliver source port msg
      after.mail = now.mail ++ (e.targets source port).map (fun t => { target := t, msg }) ∧
      after.events = now.events ++
        (e.targets source port).map (fun t => .delivered source port t msg.id?) ∧
      ∀ id, after.queue id = now.queue id ++ if id ∈ e.targets source port then [msg] else []) ∧
    (∀ id msg waiting, now.phase = .running → now.queue id = msg :: waiting →
      ∃ s others, now.turn? id = some (s, msg, others)) ∧
    ∀ id s msg others, now.turn? id = some (s, msg, others) →
      s.id = id ∧ d.Makes w s ∧
      ∀ fault, (now.react s msg).outcome = .error fault →
        let after := now.handle id
        let sent := (now.react s msg).effects.flatMap (Effect.deeds id)
        after.events.filter Event.isFailed =
          now.events.filter Event.isFailed ++ [.failed id fault] ∧
        after.phase = .running ∧ after.stations = now.stations ∧
        ∀ x, after.queue x = (if x = id then (now.queue x).tail else now.queue x) ++
          sent.flatMap (Deed.sentTo e.targets x) := by
  intro log now
  have hfresh := Engine.build_fresh hparse hbuild
  have hwired := hfresh.wired
  have hstart : Conserved e [] (resting e) :=
    ⟨rfl, by simp [resting, hfresh.mail], fun id => by simp [resting, Engine.queue_eq, hfresh.mail]⟩
  have hnow : Conserved e log ((resting e).run moves).2 := hstart.run hwired moves
  have hw : Wired now.stations := hnow.stations ▸ hwired
  have htargets : now.targets = e.targets := Engine.targets_congr hnow.stations
  refine ⟨?_, hnow.queues, ?_, ?_, ?_⟩
  · exact fun n hn hactive port => hfresh.targets_eq (Document.nodeIds_nodup hparse) hn hactive port
  · intro source port msg after
    have hdeliver := Engine.deliver_eq hw source port msg
    refine ⟨?_, ?_, fun id => ?_⟩
    · simp only [after, hdeliver, Engine.withCopies, htargets]
    · simp only [after, hdeliver, Engine.withCopies, htargets]
    · rw [Engine.queue_deliver hw, htargets]
  · exact fun id msg waiting hphase hqueue => hnow.exists_turn? hphase hqueue
  · intro id s msg others hturn
    obtain ⟨hphase, hs, -⟩ := Engine.turn?_eq_some_iff.1 hturn
    obtain ⟨hmem, hid⟩ := Engine.mem_of_station? hs
    refine ⟨hid, hfresh.makes s (hnow.stations ▸ hmem), ?_⟩
    intro fault hfault after sent
    have hafter := Engine.handle_advances hw hturn
    refine ⟨?_, hafter.phase.trans hphase, hafter.stations, fun x => ?_⟩
    · rw [hafter.failures, hfault]
      rfl
    · rw [sentTo_flatMap fun source port => (Engine.targets_wired hwired source port).1, ← htargets]
      exact Engine.queue_handle hw hturn x

/-- A message to the junction of the fork: both sinks get it, and one of them has not taken it
yet. -/
theorem run_conserves_fork :
    let moves : List Move := [.inject ⟨2⟩ (.empty "a"), .start, .take ⟨2⟩, .proceed ⟨2⟩, .take ⟨4⟩]
    let r := (resting Engine.Fork.engine).run moves
    (∀ id, r.1.flatMap (Deed.takenBy id) ++ r.2.engine.queue id =
      r.1.flatMap (Deed.sentTo Engine.Fork.engine.targets id)) ∧
    r.1.length = 4 ∧ (r.2.engine.queue ⟨3⟩).length = 1 ∧ (r.2.engine.queue ⟨4⟩).length = 0 := by
  intro moves r
  refine ⟨?_, by decide +kernel, by decide +kernel, by decide +kernel⟩
  exact (run_conserves Engine.Fork.parse_records Engine.Fork.build_document moves).2.1

end Shift

end Wireflow
