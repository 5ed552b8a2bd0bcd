/-
Sessions: an engine with the calls that are made of it, and the tasks of its nodes and their alarms
at the same time. A start first gives every node a task for its queue and then runs the start hooks
one by one; a stop cancels the tasks, waits until none is left, runs the close hooks in any order and
only then says that the engine is stopped. Between any two steps of a call the tasks go on in any
order, also after they have been cancelled, and a cancelled one may end wherever it watches for that.

When nothing comes between its steps, a call does what it does in one go: a start is the start of the
engine, a stop is its stop, and a task that takes a message and goes through with it is a node that
handles it.
-/
import Wireflow.Proofs.Engine.Delivery

namespace Wireflow

/-! ## Tasks and calls -/

/-- What keeps a task going: the queue of its node, or an alarm of it. -/
inductive Origin
  | queue
  | alarm (alarm : Alarm)

/-- How far a task has come: it waits for a message, it holds one and its node may not be free, or it
is at work on it. -/
inductive Stage
  | waiting
  | holding (msg : Message)
  | working (work : Work)

/-- A task of a node. -/
structure Task where
  node : Identifier
  origin : Origin
  stage : Stage

/-- It has its node to itself. -/
def Task.isWorking (t : Task) : Bool :=
  match t.stage with
  | .working _ => true
  | _ => false

/-- The task of a node's queue, at its beginning. -/
def Task.ofQueue (s : Station) : Task :=
  { node := s.id, origin := .queue, stage := .waiting }

/-- How far the call has come that has the engine to itself, if there is one: a start that gives the
nodes their tasks, or one that runs their start hooks; a stop that waits for all tasks, or one that
runs the close hooks. -/
inductive Call
  | none
  | spawning (left : List Station)
  | starting (left : List Station)
  | waiting
  | closing (left : List Station)

/-- An engine with its tasks, whether they are cancelled, the call that is on, and the nodes whose
queue takes no message any more because its task has ended. Timers that sleep are the alarms of the
engine. -/
structure Session where
  engine : Engine
  tasks : List Task
  cancelled : Bool
  call : Call
  ended : List Identifier

/-! ## What can come next -/

/-- Something that a task does; tasks and alarms are named by their places. The task of a queue takes
the oldest message of it. A task that holds a message gets its node when this is free. One at work
does its next effect, or ends its work when there is none; when it is cancelled it may leave out what
it was going to send. An alarm goes off. A cancelled task ends: that of a queue at any time, that of an
alarm before it goes off or before it gets its node. -/
inductive Stir
  | take (place : Nat)
  | lock (place : Nat)
  | proceed (place : Nat)
  | skip (place : Nat)
  | ring (place : Nat)
  | quit (place : Nat)
  | expire (place : Nat)

/-- Something that can come next: a call, the next step of the call that is on, the close hook of one
of the nodes that are left, or something that a task does. -/
inductive Action
  | start
  | stop
  | inject (target : Identifier) (msg : Message)
  | advance
  | close (place : Nat)
  | stir (s : Stir)

/-- What a log tells: the answer of a call, and that a hook of a node has run. -/
inductive Happening
  | started (answer : Except EngineFault Unit)
  | injected (target : Identifier) (answer : Except EngineFault Unit)
  | stopped
  | startHook (node : Identifier)
  | closeHook (node : Identifier)

namespace Engine

/-- What is made known when a node ends: its failure, if it fails, and that it is closed. -/
def farewell (s : Station) : List Event :=
  (s.node.closeFault.map fun fault => .failed s.id fault).toList ++ [.nodeClosed s.id]

theorem closeStation_eq (e : Engine) (s : Station) :
    e.closeStation s = { e with events := e.events ++ farewell s } := by
  unfold closeStation farewell
  cases s.node.closeFault <;> simp [publish]

theorem closeAll_eq (ss : List Station) :
    ∀ e : Engine, ss.foldl closeStation e = { e with events := e.events ++ ss.flatMap farewell } := by
  induction ss with
  | nil => simp
  | cons s rest ih =>
    intro e
    rw [List.foldl_cons, ih, closeStation_eq, List.flatMap_cons, List.append_assoc]

/-- A delivery hands the message to all targets of the port. -/
theorem deliver_eq_hand (e : Engine) (source : Identifier) (port : Nat) (msg : Message) :
    e.deliver source port msg = hand source port msg.id? (some msg) (e.targets source port) e := by
  unfold deliver targets
  cases e.station? source with
  | none => rfl
  | some s =>
    dsimp only
    cases s.ports[port]? <;> rfl

/-- The engine at another time and with other alarms. -/
def withTime (e : Engine) (clock : Clock) (agenda : Agenda Identifier) : Engine :=
  { e with clock, agenda }

theorem hand_withTime (clock : Clock) (agenda : Agenda Identifier) (source : Identifier) (port : Nat)
    (msgId : Option String) (targets : List Identifier) :
    ∀ (pending : Option Message) (e : Engine),
      hand source port msgId pending targets (e.withTime clock agenda) =
        (hand source port msgId pending targets e).withTime clock agenda := by
  induction targets with
  | nil => exact fun _ _ => rfl
  | cons t rest ih =>
    intro pending e
    cases pending with
    | none => rfl
    | some msg =>
      have hpost : (e.withTime clock agenda).post source port msgId t msg =
          (e.post source port msgId t msg).withTime clock agenda := by
        have hstation : (e.withTime clock agenda).station? t = e.station? t := rfl
        unfold post
        rw [hstation]
        cases e.station? t <;> rfl
      rw [hand, hand, hpost, ih]

/-- What nodes bring about takes no time and leaves the alarms alone. -/
theorem performAll_withTime (clock : Clock) (agenda : Agenda Identifier) (id : Identifier)
    (effects : List Effect) :
    ∀ e : Engine, effects.foldl (perform id) (e.withTime clock agenda) =
      (effects.foldl (perform id) e).withTime clock agenda := by
  induction effects with
  | nil => exact fun _ => rfl
  | cons effect rest ih =>
    intro e
    have heffect : (e.withTime clock agenda).perform id effect =
        (e.perform id effect).withTime clock agenda := by
      cases effect with
      | send port msg =>
        rw [perform, deliver_eq_hand, perform, deliver_eq_hand]
        exact hand_withTime clock agenda id port _ _ _ e
      | observe msg => rfl
      | notice n => rfl
    rw [List.foldl_cons, heffect, ih]
    rfl

theorem conclude_withTime (clock : Clock) (agenda : Agenda Identifier) (id : Identifier)
    (outcome : Except NodeFault Unit) (e : Engine) :
    (e.withTime clock agenda).conclude id outcome =
      (e.conclude id outcome).withTime clock agenda := by
  cases outcome <;> rfl

end Engine

namespace Session

/-- An engine with no call and no task. -/
def opened (e : Engine) : Session :=
  { engine := e, tasks := [], cancelled := false, call := .none, ended := [] }

/-! ## Tasks -/

/-- No task is left, and no timer sleeps. -/
def Idle (σ : Session) : Prop :=
  σ.tasks = [] ∧ σ.engine.agenda = []

/-- A node has a task that is at work. -/
def isBusy (σ : Session) (id : Identifier) : Bool :=
  σ.tasks.any fun t => t.node == id && t.isWorking

/-- What a node does; it sends nothing to a queue whose task has ended. -/
def perform (σ : Session) (id : Identifier) : Effect → Engine
  | .send port msg =>
    Engine.hand id port msg.id? (some msg)
      ((σ.engine.targets id port).filter fun t => decide (t ∉ σ.ended)) σ.engine
  | effect => σ.engine.perform id effect

/-- A task that holds a message has its node to itself and goes to work. -/
def setTo (σ : Session) (place : Nat) (t : Task) (s : Station) (msg : Message) : Session :=
  let r := σ.engine.react s msg
  { σ with
    engine := { σ.engine with contexts := r.contexts }
    tasks := σ.tasks.set place
      { t with stage := .working { effects := r.effects, outcome := r.outcome } } }

/-- A task has ended its work: that of a queue waits again, and a timer sleeps until its next alarm, if
there is one. -/
def conclude (σ : Session) (place : Nat) (t : Task) (outcome : Except NodeFault Unit) : Session :=
  let e := σ.engine.conclude t.node outcome
  match t.origin with
  | .queue => { σ with engine := e, tasks := σ.tasks.set place { t with stage := .waiting } }
  | .alarm a =>
    { σ with
      engine := { e with agenda := Agenda.follow t.node e.clock a e.agenda }
      tasks := σ.tasks.eraseIdx place }

/-- A task does something. What it cannot do changes nothing. -/
def stir (σ : Session) : Stir → Session
  | .take place =>
    match σ.tasks[place]? with
    | some { node, origin := .queue, stage := .waiting } =>
      match Engine.takeLetter? node σ.engine.mail with
      | some (msg, mail) =>
        { σ with
          engine := { σ.engine with mail }
          tasks := σ.tasks.set place { node, origin := .queue, stage := .holding msg } }
      | none => σ
    | _ => σ
  | .lock place =>
    match σ.tasks[place]? with
    | some { node, origin, stage := .holding msg } =>
      if σ.isBusy node then σ
      else
        match σ.engine.station? node with
        | some s => σ.setTo place { node, origin, stage := .holding msg } s msg
        | none => σ
    | _ => σ
  | .proceed place =>
    match σ.tasks[place]? with
    | some { node, origin, stage := .working { effects := effect :: rest, outcome } } =>
      { σ with
        engine := σ.perform node effect
        tasks := σ.tasks.set place
          { node, origin, stage := .working { effects := rest, outcome } } }
    | some { node, origin, stage := .working { effects := [], outcome } } =>
      σ.conclude place { node, origin, stage := .working { effects := [], outcome } } outcome
    | _ => σ
  | .skip place =>
    match σ.tasks[place]?, σ.cancelled with
    | some { node, origin, stage := .working { effects := .send _ _ :: rest, outcome } }, true =>
      { σ with
        tasks := σ.tasks.set place
          { node, origin, stage := .working { effects := rest, outcome } } }
    | _, _ => σ
  | .ring place =>
    match σ.engine.agenda[place]? with
    | some (node, alarm) =>
      { σ with
        engine :=
          { σ.engine with
            clock := σ.engine.clock.forwardTo alarm.wake
            ids := σ.engine.ids.take.2
            agenda := σ.engine.agenda.eraseIdx place }
        tasks := σ.tasks ++
          [{ node, origin := .alarm alarm, stage := .holding (.empty σ.engine.ids.take.1) }] }
    | none => σ
  | .quit place =>
    match σ.tasks[place]?, σ.cancelled with
    | some { node, origin := .queue, .. }, true =>
      -- the messages that wait for the node are gone with its queue
      { σ with
        engine := { σ.engine with mail := σ.engine.mail.filter fun l => l.target != node }
        tasks := σ.tasks.eraseIdx place
        ended := node :: σ.ended }
    | some { origin := .alarm _, stage := .working _, .. }, true => σ
    | some { origin := .alarm _, .. }, true => { σ with tasks := σ.tasks.eraseIdx place }
    | _, _ => σ
  | .expire place =>
    if σ.cancelled then
      { σ with engine := { σ.engine with agenda := σ.engine.agenda.eraseIdx place } }
    else σ

/-! ## Calls -/

/-- The next step of the call that is on. A stop waits while there are tasks or timers. -/
def advance (σ : Session) : List Happening × Session :=
  match σ.call with
  | .none => ([], σ)
  | .spawning (s :: left) =>
    ([], { σ with tasks := σ.tasks ++ [.ofQueue s], call := .spawning left })
  | .spawning [] => ([], { σ with call := .starting σ.engine.stations })
  | .starting (s :: left) =>
    ([.startHook s.id], { σ with engine := σ.engine.startStation s, call := .starting left })
  | .starting [] =>
    ([.started (.ok ())],
      { σ with
        engine := σ.engine.publish (.engineStarted σ.engine.stations.length)
        call := .none })
  | .waiting =>
    match σ.tasks, σ.engine.agenda with
    | [], [] => ([], { σ with call := .closing σ.engine.stations })
    | _, _ => ([], σ)
  | .closing (_ :: _) => ([], σ)
  | .closing [] =>
    ([.stopped],
      { σ with
        engine :=
          { σ.engine with phase := .stopped, mail := [] }.publish (.engineStopped σ.engine.runtime)
        call := .none })

/-- Does what comes next, and logs it. While a call is on, no other one can be made; what cannot come
next changes nothing. -/
def step (σ : Session) : Action → List Happening × Session
  | .start =>
    match σ.call with
    | .none =>
      if σ.engine.phase ≠ .built then ([.started (.error (.notStartable σ.engine.phase))], σ)
      else
        let mail := σ.engine.nodeIds.flatMap fun id => σ.engine.mail.filter fun l => l.target == id
        ([], { σ with
          engine :=
            { σ.engine with phase := .running, started := some σ.engine.clock.elapsed, mail }
          call := .spawning σ.engine.stations })
    | _ => ([], σ)
  | .stop =>
    match σ.call with
    | .none =>
      if σ.engine.phase = .stopped then ([.stopped], σ)
      else ([], { σ with cancelled := true, call := .waiting })
    | _ => ([], σ)
  | .inject target msg =>
    match σ.call with
    | .none =>
      let r := σ.engine.inject target msg
      ([.injected target r.1], { σ with engine := r.2 })
    | _ => ([], σ)
  | .advance => σ.advance
  | .close place =>
    match σ.call with
    | .closing left =>
      match left[place]? with
      | some s =>
        ([.closeHook s.id],
          { σ with engine := σ.engine.closeStation s, call := .closing (left.eraseIdx place) })
      | none => ([], σ)
    | _ => ([], σ)
  | .stir m => ([], σ.stir m)

/-- Does one thing after the other. -/
def run (σ : Session) : List Action → List Happening × Session
  | [] => ([], σ)
  | a :: rest => ((σ.step a).1 ++ ((σ.step a).2.run rest).1, ((σ.step a).2.run rest).2)

theorem run_append (as bs : List Action) :
    ∀ σ : Session, σ.run (as ++ bs) =
      ((σ.run as).1 ++ ((σ.run as).2.run bs).1, ((σ.run as).2.run bs).2) := by
  induction as with
  | nil => exact fun _ => rfl
  | cons a rest ih =>
    intro σ
    rw [List.cons_append, run, ih, run, List.append_assoc]

/-! ## Calls in one go -/

theorem run_spawning (left : List Station) :
    ∀ σ : Session, σ.call = .spawning left →
      σ.run (List.replicate (left.length + 1) .advance) =
        ([], { σ with
          tasks := σ.tasks ++ left.map Task.ofQueue
          call := .starting σ.engine.stations }) := by
  induction left with
  | nil =>
    intro σ h
    simp [run, step, advance, h]
  | cons s left ih =>
    intro σ h
    have hrest := ih { σ with tasks := σ.tasks ++ [.ofQueue s], call := .spawning left } rfl
    rw [List.length_cons, List.replicate_succ, run]
    simp only [step, advance, h, hrest]
    simp

theorem run_starting (left : List Station) :
    ∀ σ : Session, σ.call = .starting left →
      σ.run (List.replicate (left.length + 1) .advance) =
        (left.map (fun s => .startHook s.id) ++ [.started (.ok ())],
          { σ with
            engine := (left.foldl Engine.startStation σ.engine).publish
              (.engineStarted σ.engine.stations.length)
            call := .none }) := by
  induction left with
  | nil =>
    intro σ h
    simp [run, step, advance, h]
  | cons s left ih =>
    intro σ h
    have hrest := ih { σ with engine := σ.engine.startStation s, call := .starting left } rfl
    rw [List.length_cons, List.replicate_succ, run]
    simp only [step, advance, h, hrest, (Engine.startStation_keeps σ.engine s).1]
    simp

/-- A start that nothing comes between is the start of the engine: every start hook has run once, and
every node has a task for its queue. -/
theorem run_start {e : Engine} (h : e.phase = .built) :
    (opened e).run (.start :: (List.replicate (e.stations.length + 1) .advance ++
        List.replicate (e.stations.length + 1) .advance)) =
      (e.stations.map (fun s => .startHook s.id) ++ [.started e.start.1],
        { opened e with engine := e.start.2, tasks := e.stations.map Task.ofQueue }) := by
  have hstart : (opened e).step .start = ([], { opened e with
      engine := { e with phase := .running, started := some e.clock.elapsed,
                         mail := e.nodeIds.flatMap fun id => e.mail.filter fun l => l.target == id }
      call := .spawning e.stations }) := by
    simp [step, opened, h]
  rw [run, hstart, run_append, run_spawning e.stations _ rfl, run_starting e.stations _ rfl]
  simp [opened, Engine.start, h]

theorem run_closing (left : List Station) :
    ∀ σ : Session, σ.call = .closing left →
      σ.run (List.replicate left.length (.close 0)) =
        (left.map fun s => .closeHook s.id,
          { σ with engine := left.foldl Engine.closeStation σ.engine, call := .closing [] }) := by
  induction left with
  | nil =>
    intro σ h
    obtain ⟨engine, tasks, cancelled, call, ended⟩ := σ
    cases h
    rfl
  | cons s left ih =>
    intro σ h
    have hrest := ih { σ with engine := σ.engine.closeStation s, call := .closing left } rfl
    rw [List.length_cons, List.replicate_succ, run]
    simp only [step, h, List.getElem?_cons_zero, List.eraseIdx_cons_zero, hrest]
    simp

/-- A stop that waits goes on to the close hooks when no task and no timer is left. -/
theorem step_waiting {σ : Session} (hcall : σ.call = .waiting) (hidle : σ.Idle) :
    σ.step .advance = ([], { σ with call := .closing σ.engine.stations }) := by
  simp [step, advance, hcall, hidle.1, hidle.2]

/-- A stop that finds no task and no timer, and that nothing comes between, is the stop of the
engine. -/
theorem run_stop {σ : Session} (hcall : σ.call = .none) (hphase : σ.engine.phase ≠ .stopped)
    (hidle : σ.Idle) :
    σ.run (.stop :: .advance :: (List.replicate σ.engine.stations.length (.close 0) ++ [.advance])) =
      (σ.engine.stations.map (fun s => .closeHook s.id) ++ [.stopped],
        { σ with engine := σ.engine.stop, cancelled := true, call := .none }) := by
  have hstop : σ.step .stop = ([], { σ with cancelled := true, call := .waiting }) := by
    simp [step, hcall, hphase]
  have hwaiting : ({ σ with cancelled := true, call := .waiting } : Session).Idle := hidle
  rw [run, hstop, run, step_waiting rfl hwaiting, run_append, run_closing σ.engine.stations _ rfl]
  simp [run, step, advance, Engine.stop, hphase, Engine.closeAll_eq, Engine.publish, Engine.runtime,
    hidle.2]

/-! ## Tasks in one go -/

theorem perform_eq {σ : Session} (h : σ.ended = []) (id : Identifier) (effect : Effect) :
    σ.perform id effect = σ.engine.perform id effect := by
  cases effect with
  | send port msg =>
    have hall : ((σ.engine.targets id port).filter fun t => decide (t ∉ σ.ended)) =
        σ.engine.targets id port := by
      simp [h]
    rw [perform, hall, Engine.perform, Engine.deliver_eq_hand]
  | observe msg => rfl
  | notice n => rfl

/-- A task at work goes through with it when nothing comes between. -/
theorem run_proceed (place : Nat) (node : Identifier) (origin : Origin)
    (outcome : Except NodeFault Unit) (effects : List Effect) :
    ∀ σ : Session, σ.ended = [] →
      σ.tasks[place]? = some { node, origin, stage := .working { effects, outcome } } →
      let done : Task := { node, origin, stage := .working { effects := [], outcome } }
      σ.run (List.replicate (effects.length + 1) (.stir (.proceed place))) =
        ([], { σ with
          engine := effects.foldl (Engine.perform node) σ.engine
          tasks := σ.tasks.set place done }.conclude place done outcome) := by
  induction effects with
  | nil =>
    intro σ _ h
    obtain ⟨hplace, htask⟩ := List.getElem?_eq_some_iff.1 h
    have hsame : σ.tasks.set place { node, origin, stage := .working { effects := [], outcome } } =
        σ.tasks := by
      rw [← htask, List.set_getElem_self]
    simp [run, step, stir, h, hsame]
  | cons effect rest ih =>
    intro σ hended h
    obtain ⟨hplace, -⟩ := List.getElem?_eq_some_iff.1 h
    have hstep : σ.stir (.proceed place) = { σ with
        engine := σ.engine.perform node effect
        tasks := σ.tasks.set place
          { node, origin, stage := .working { effects := rest, outcome } } } := by
      simp [stir, h, perform_eq hended]
    have hrest := ih (σ.stir (.proceed place)) (by rw [hstep]; exact hended)
      (by rw [hstep]; exact List.getElem?_set_self hplace)
    rw [List.length_cons, List.replicate_succ, run]
    dsimp only [step] at hrest ⊢
    rw [hrest, hstep]
    simp

/-- So does one that gets its node. -/
theorem run_lock {σ : Session} {place : Nat} {origin : Origin} {s : Station} {msg : Message}
    (hended : σ.ended = []) (hstation : σ.engine.station? s.id = some s)
    (htask : σ.tasks[place]? = some { node := s.id, origin, stage := .holding msg })
    (hfree : σ.isBusy s.id = false) :
    let r := σ.engine.react s msg
    let done : Task := { node := s.id, origin, stage := .working { effects := [], outcome := r.outcome } }
    σ.run (.stir (.lock place) :: List.replicate (r.effects.length + 1) (.stir (.proceed place))) =
      ([], { σ with
        engine := r.effects.foldl (Engine.perform s.id) { σ.engine with contexts := r.contexts }
        tasks := σ.tasks.set place done }.conclude place done r.outcome) := by
  intro r done
  obtain ⟨hplace, -⟩ := List.getElem?_eq_some_iff.1 htask
  have hlock : σ.stir (.lock place) =
      σ.setTo place { node := s.id, origin, stage := .holding msg } s msg := by
    simp [stir, htask, hfree, hstation]
  have hproceed := run_proceed place s.id origin r.outcome r.effects (σ.stir (.lock place))
    (by rw [hlock]; exact hended) (by rw [hlock]; exact List.getElem?_set_self hplace)
  rw [run]
  dsimp only [step] at hproceed ⊢
  rw [hproceed, hlock]
  simp [setTo, r, done]

/-- A task that is not at work keeps no node from the others. -/
theorem isBusy_of_tasks {σ σ' : Session} {id : Identifier} (hfree : σ.isBusy id = false)
    (htasks : ∀ t ∈ σ'.tasks, t ∈ σ.tasks ∨ t.isWorking = false) : σ'.isBusy id = false := by
  unfold isBusy at hfree ⊢
  rw [List.any_eq_false] at hfree ⊢
  intro t ht
  rcases htasks t ht with ht | ht
  · exact hfree t ht
  · simp [ht]

/-- A task of a queue that takes a message while its node is free, and goes through with it, is a node
that handles the message. -/
theorem run_take {σ : Session} {place : Nat} {s : Station} {msg : Message} {others : List Letter}
    (hended : σ.ended = []) (htask : σ.tasks[place]? = some (.ofQueue s))
    (hfree : σ.isBusy s.id = false) (hturn : σ.engine.turn? s.id = some (s, msg, others)) :
    σ.run (.stir (.take place) :: .stir (.lock place) ::
        List.replicate ((σ.engine.react s msg).effects.length + 1) (.stir (.proceed place))) =
      ([], { σ with engine := σ.engine.handle s.id }) := by
  obtain ⟨-, hstation, hletter⟩ := Engine.turn?_eq_some_iff.1 hturn
  obtain ⟨hplace, hthere⟩ := List.getElem?_eq_some_iff.1 htask
  let held : Task := { node := s.id, origin := .queue, stage := .holding msg }
  have htake : σ.stir (.take place) =
      { σ with engine := { σ.engine with mail := others }, tasks := σ.tasks.set place held } := by
    simp [stir, htask, Task.ofQueue, hletter, held]
  have hstill : (σ.stir (.take place)).isBusy s.id = false := by
    refine isBusy_of_tasks hfree fun t ht => ?_
    rw [htake] at ht
    rcases List.mem_or_eq_of_mem_set ht with ht | rfl
    · exact .inl ht
    · exact .inr rfl
  have hback : σ.tasks.set place { node := s.id, origin := .queue, stage := .waiting } =
      σ.tasks := by
    have hqueue : (⟨s.id, .queue, .waiting⟩ : Task) = σ.tasks[place] := hthere.symm
    rw [hqueue, List.set_getElem_self]
  have hlock := run_lock (σ := σ.stir (.take place)) (by rw [htake]; exact hended)
    (by rw [htake]; exact hstation) (by rw [htake]; exact List.getElem?_set_self hplace) hstill
  rw [run]
  dsimp only [step]
  rw [htake] at hlock ⊢
  refine (congrArg (fun r => (([] : List Happening) ++ r.1, r.2)) hlock).trans ?_
  rw [Engine.handle_eq hturn]
  simp only [conclude, List.set_set, hback]
  rfl

/-- An alarm that goes off while its node is free, and that the node goes through with, is the alarm of
the engine. -/
theorem run_ring {σ : Session} {place : Nat} {s : Station} {alarm : Alarm} (hended : σ.ended = [])
    (hstation : σ.engine.station? s.id = some s)
    (halarm : σ.engine.agenda[place]? = some (s.id, alarm)) (hfree : σ.isBusy s.id = false) :
    let others := σ.engine.agenda.eraseIdx place
    let e := (σ.engine.dismiss s.id alarm others).2
    σ.run (.stir (.ring place) :: .stir (.lock σ.tasks.length) ::
        List.replicate ((e.react s (.empty σ.engine.ids.take.1)).effects.length + 1)
          (.stir (.proceed σ.tasks.length))) =
      ([], { σ with engine := σ.engine.fire s.id alarm others }) := by
  intro others e
  let held : Task :=
    { node := s.id, origin := .alarm alarm, stage := .holding (.empty σ.engine.ids.take.1) }
  have hring : σ.stir (.ring place) =
      { σ with engine := e.withTime e.clock others, tasks := σ.tasks ++ [held] } := by
    simp [stir, halarm, e, Engine.dismiss, held, Engine.withTime, others]
  have hstill : (σ.stir (.ring place)).isBusy s.id = false := by
    refine isBusy_of_tasks hfree fun t ht => ?_
    rw [hring] at ht
    rcases List.mem_append.1 ht with ht | ht
    · exact .inl ht
    · exact .inr (List.mem_singleton.1 ht ▸ rfl)
  have hfire : σ.engine.fire s.id alarm others = e.act s (.empty σ.engine.ids.take.1) := by
    have hstation' : e.station? s.id = some s := hstation
    unfold Engine.fire
    dsimp only
    rw [show (σ.engine.dismiss s.id alarm others).2 = e from rfl, hstation']
    rfl
  -- the alarm that follows is set before the node acts in one case, and after it in the other
  have hact : (e.act s (.empty σ.engine.ids.take.1)).withTime e.clock e.agenda =
      e.act s (.empty σ.engine.ids.take.1) := by
    unfold Engine.act
    dsimp only
    rw [← Engine.conclude_withTime, ← Engine.performAll_withTime]
    rfl
  have hlast : (σ.stir (.ring place)).tasks[σ.tasks.length]? = some held := by
    rw [hring]
    simp
  have hlock := run_lock (σ := σ.stir (.ring place)) (by rw [hring]; exact hended)
    (by rw [hring]; exact hstation) hlast hstill
  let r := e.react s (.empty σ.engine.ids.take.1)
  have hends (t : Task) : ((σ.tasks ++ [held]).set σ.tasks.length t).eraseIdx σ.tasks.length =
      σ.tasks := by
    simp [List.eraseIdx_append_of_length_le]
  have hengine : (r.effects.foldl (Engine.perform s.id)
      ({ e with contexts := r.contexts }.withTime e.clock others)).conclude s.id r.outcome =
        (e.act s (.empty σ.engine.ids.take.1)).withTime e.clock others := by
    rw [Engine.performAll_withTime, Engine.conclude_withTime]
    rfl
  rw [run]
  dsimp only [step]
  rw [hring] at hlock ⊢
  refine (congrArg (fun r => (([] : List Happening) ++ r.1, r.2)) hlock).trans ?_
  rw [hfire, ← hact]
  simp only [conclude, hends]
  change ([], ({ σ with engine := _ } : Session)) = _
  congr 2
  exact congrArg (fun x : Engine => x.withTime x.clock (Agenda.follow s.id x.clock alarm x.agenda))
    hengine

end Session

end Wireflow
