/-
Timers that repeat. An alarm of a period is followed by another one when it is over, so as soon as a node
with a period has started, one of its alarms is always set or on the way, whatever the tasks do, until
they are cancelled; and the node can always go through with the next one. For a period of no length
there is no alarm at all.

The invariant looks at the alarms of a session: those that are set and those that have gone off and are
not over. A step leaves them as they are, replaces one by the alarm that follows it, adds those of a node
that starts, or, after a cancellation, loses some.
-/
import Wireflow.Proofs.Engine.Lifecycle
import Wireflow.Proofs.Node.Timing

namespace Wireflow

/-! ## Alarms of a period -/

namespace Alarm

variable {a : Alarm} {p : Nat}

/-- The alarm belongs to a period, or the period begins with it. -/
def Keeps (p : Nat) (a : Alarm) : Prop :=
  a.sequel = .restart p ∨ a.sequel = .every p

/-- An alarm of a period with a length is followed by another one, at the end of the period at the
earliest. -/
theorem Keeps.exists_following? (h : a.Keeps p) (hp : 0 < p) (clock : Clock) :
    ∃ b, a.following? clock = some b ∧ b.Keeps p ∧
      (a.due ≤ clock.elapsed → a.due + p ≤ b.due) := by
  unfold following?
  rcases h with h | h
  · rw [h]
    exact ⟨_, if_neg hp.ne', .inr rfl, fun hdue => Nat.add_le_add_right hdue p⟩
  · rw [h]
    exact ⟨_, rfl, .inr rfl, fun _ => le_rfl⟩

/-- An alarm does not go off before it is due. -/
theorem due_le_wake (a : Alarm) : a.due ≤ a.wake := by
  unfold wake millisecondLength
  omega

/-- No alarm of a period comes of it: a period that would begin with it has no length, or it is one of a
crontab. -/
def Ends (a : Alarm) : Prop :=
  a.sequel = .restart 0 ∨ ∃ c time, a.sequel = .crontab c time

theorem ends_of_ofCrontab? {clock : Clock} {c : Crontab} {after : Nat}
    (h : ofCrontab? clock c after = some a) : a.Ends := by
  obtain ⟨seconds, -, rfl⟩ := Option.map_eq_some_iff.1 h
  exact .inr ⟨c, _, rfl⟩

theorem Ends.following? {clock : Clock} {b : Alarm} (h : a.Ends) (hb : a.following? clock = some b) :
    b.Ends := by
  unfold Alarm.following? at hb
  rcases h with h | ⟨c, time, h⟩
  · rw [h] at hb
    cases hb
  · rw [h] at hb
    exact ends_of_ofCrontab? hb

end Alarm

theorem Agenda.mem_follow_iff {α : Type} {x : α × Alarm} {owner : α} {clock : Clock} {a : Alarm}
    {agenda : Agenda α} : x ∈ Agenda.follow owner clock a agenda ↔
      x ∈ agenda ∨ ∃ b, a.following? clock = some b ∧ x = (owner, b) := by
  unfold Agenda.follow
  rw [List.mem_append, Option.mem_toList, Option.map_eq_some_iff]
  simp only [eq_comm (a := x)]

/-- The alarm of a task that is on the way with it, and its node. -/
def Task.alarm? : Task → Option (Identifier × Alarm)
  | { node, origin := .alarm a, stage := .holding _ } => some (node, a)
  | { node, origin := .alarm a, stage := .working _ } => some (node, a)
  | _ => none

namespace Engine

/-- The alarms that a node sets when it starts. -/
def alarmsOf (s : Station) (clock : Clock) : Agenda Identifier :=
  match s.node.startFault with
  | some _ => []
  | none => (s.node.timers.filterMap (Alarm.ofTimer? clock)).map fun a => (s.id, a)

theorem agenda_startStation (e : Engine) (s : Station) :
    (e.startStation s).agenda = e.agenda ++ alarmsOf s e.clock := by
  unfold startStation alarmsOf
  dsimp only
  cases s.node.startFault with
  | some fault => exact (List.append_nil _).symm
  | none => rfl

theorem id_of_mem_alarmsOf {s : Station} {clock : Clock} {id : Identifier} {a : Alarm}
    (h : (id, a) ∈ alarmsOf s clock) : s.id = id := by
  unfold alarmsOf at h
  split at h
  · cases h
  · obtain ⟨alarm, -, heq⟩ := List.mem_map.1 h
    exact congrArg Prod.fst heq

theorem conclude_time (e : Engine) (id : Identifier) (outcome : Except NodeFault Unit) :
    (e.conclude id outcome).clock = e.clock ∧ (e.conclude id outcome).agenda = e.agenda := by
  cases outcome <;> exact ⟨rfl, rfl⟩

theorem act_agenda (e : Engine) (s : Station) (msg : Message) : (e.act s msg).agenda = e.agenda := by
  have heffects := performAll_withTime e.clock e.agenda s.id (e.react s msg).effects
    { e with contexts := (e.react s msg).contexts }
  unfold act
  dsimp only
  rw [(conclude_time ..).2]
  have hagenda := congrArg Engine.agenda heffects
  exact hagenda

/-- An alarm that has gone off leaves the others and the one that follows it. -/
theorem fire_agenda (e : Engine) (id : Identifier) (a : Alarm) (others : Agenda Identifier) :
    (e.fire id a others).agenda = Agenda.follow id (e.clock.forwardTo a.wake) a others := by
  unfold fire
  dsimp only
  split
  · rw [act_agenda]
    rfl
  · rfl

end Engine

namespace Session

variable {σ : Session} {id : Identifier} {p : Nat}

/-- The alarms that are set, and those that have gone off and are not over. -/
def alarms (σ : Session) : Agenda Identifier :=
  σ.engine.agenda ++ σ.tasks.filterMap Task.alarm?

theorem perform_agenda (σ : Session) (id : Identifier) (effect : Effect) :
    (σ.perform id effect).agenda = σ.engine.agenda := by
  cases effect with
  | send port msg =>
    have hhand := Engine.hand_withTime σ.engine.clock σ.engine.agenda id port msg.id?
      ((σ.engine.targets id port).filter fun t => decide (t ∉ σ.ended)) (some msg) σ.engine
    have hagenda := congrArg Engine.agenda hhand
    exact hagenda
  | observe msg => rfl
  | notice n => rfl

/-! ## What a step does to the alarms -/

theorem filterMap_set {tasks : List Task} {place : Nat} {t t' : Task}
    (h : tasks[place]? = some t) (hsame : t'.alarm? = t.alarm?) :
    (tasks.set place t').filterMap Task.alarm? = tasks.filterMap Task.alarm? := by
  induction tasks generalizing place with
  | nil => rfl
  | cons first rest ih =>
    cases place with
    | zero =>
      cases h
      rw [List.set_cons_zero, List.filterMap_cons, List.filterMap_cons, hsame]
    | succ place => rw [List.set_cons_succ, List.filterMap_cons, List.filterMap_cons, ih h]

/-- What a step can do to the alarms: nothing; one is over and the one that follows it takes its place; a
node starts and sets its alarms; some are lost, which only happens after a cancellation. -/
inductive Passes (σ σ' : Session) : Prop
  | same : σ'.alarms.Perm σ.alarms → Passes σ σ'
  | follow (id : Identifier) (a : Alarm) (others : Agenda Identifier) :
      σ.alarms.Perm ((id, a) :: others) →
      σ'.alarms.Perm (Agenda.follow id σ.engine.clock a others) → Passes σ σ'
  | arm (s : Station) (left : List Station) : σ.call = .starting (s :: left) →
      σ'.alarms.Perm (σ.alarms ++ Engine.alarmsOf s σ.engine.clock) → Passes σ σ'
  | lose : σ.cancelled = true → σ'.alarms ⊆ σ.alarms → Passes σ σ'

/-- A task that goes on keeps its alarm. -/
theorem passes_set {σ' : Session} {place : Nat} {t t' : Task} (h : σ.tasks[place]? = some t)
    (htasks : σ'.tasks = σ.tasks.set place t') (hagenda : σ'.engine.agenda = σ.engine.agenda)
    (hsame : t'.alarm? = t.alarm?) : Passes σ σ' := by
  refine .same (.of_eq ?_)
  rw [alarms, alarms, hagenda, htasks, filterMap_set h hsame]

theorem passes_conclude {place : Nat} {node : Identifier} {origin : Origin} {work : Work}
    {outcome : Except NodeFault Unit}
    (h : σ.tasks[place]? = some { node, origin, stage := .working work }) :
    Passes σ (σ.conclude place { node, origin, stage := .working work } outcome) := by
  obtain ⟨hclock, hagenda⟩ := σ.engine.conclude_time node outcome
  cases origin with
  | queue =>
    have htasks : (σ.conclude place ⟨node, .queue, .working work⟩ outcome).tasks =
        σ.tasks.set place ⟨node, .queue, .waiting⟩ := rfl
    exact passes_set h htasks hagenda rfl
  | alarm a =>
    obtain ⟨hplace, hthere⟩ := List.getElem?_eq_some_iff.1 h
    have htasks := List.getElem_cons_eraseIdx_perm hplace
    rw [hthere] at htasks
    refine .follow node a (σ.engine.agenda ++ (σ.tasks.eraseIdx place).filterMap Task.alarm?) ?_ ?_
    · exact ((htasks.symm.filterMap Task.alarm?).append_left _).trans List.perm_middle
    · unfold conclude alarms Agenda.follow
      dsimp only
      rw [hclock, hagenda, List.append_assoc, List.append_assoc]
      exact List.perm_append_comm.append_left _

theorem passes_stir (σ : Session) (m : Stir) : Passes σ (σ.stir m) := by
  cases m with
  | take place =>
    rw [stir]
    split
    · rename_i htask
      split
      · exact passes_set htask rfl rfl rfl
      · exact .same (.refl _)
    · exact .same (.refl _)
  | lock place =>
    rw [stir]
    split
    · rename_i origin _ htask
      split
      · exact .same (.refl _)
      · split
        · exact passes_set htask rfl rfl (by cases origin <;> rfl)
        · exact .same (.refl _)
    · exact .same (.refl _)
  | proceed place =>
    rw [stir]
    split
    · rename_i origin _ _ _ htask
      exact passes_set htask rfl (σ.perform_agenda _ _) (by cases origin <;> rfl)
    · rename_i htask
      exact passes_conclude htask
    · exact .same (.refl _)
  | skip place =>
    rw [stir]
    split
    · rename_i origin _ _ _ _ htask _
      exact passes_set htask rfl rfl (by cases origin <;> rfl)
    · exact .same (.refl _)
  | ring place =>
    rw [stir]
    split
    · rename_i node alarm halarm
      obtain ⟨hplace, hthere⟩ := List.getElem?_eq_some_iff.1 halarm
      have hagenda := List.getElem_cons_eraseIdx_perm hplace
      rw [hthere] at hagenda
      refine .same ?_
      unfold alarms
      dsimp only
      rw [List.filterMap_append, ← List.append_assoc]
      exact List.perm_append_comm.trans (hagenda.append_right _)
    · exact .same (.refl _)
  | quit place =>
    have htasks : ((σ.tasks.eraseIdx place).filterMap Task.alarm?).Sublist
        (σ.tasks.filterMap Task.alarm?) := (List.eraseIdx_sublist ..).filterMap _
    rw [stir]
    split
    · exact .lose ‹_› ((List.Sublist.refl _).append htasks).subset
    · exact .same (.refl _)
    · exact .lose ‹_› ((List.Sublist.refl _).append htasks).subset
    · exact .same (.refl _)
  | expire place =>
    have hagenda : (σ.engine.agenda.eraseIdx place).Sublist σ.engine.agenda :=
      List.eraseIdx_sublist ..
    rw [stir]
    split
    · exact .lose ‹_› (hagenda.append (.refl _)).subset
    · exact .same (.refl _)

/-- A node that starts sets its alarms. -/
theorem alarms_starting {s : Station} {left : List Station} (hcall : σ.call = .starting (s :: left)) :
    (σ.step .advance).2.alarms.Perm (σ.alarms ++ Engine.alarmsOf s σ.engine.clock) := by
  have hstep : (σ.step .advance).2 =
      { σ with engine := σ.engine.startStation s, call := .starting left } := by
    simp only [step, advance, hcall]
  unfold alarms
  rw [hstep]
  dsimp only
  rw [Engine.agenda_startStation, List.append_assoc, List.append_assoc]
  exact List.perm_append_comm.append_left _

theorem passes_step (σ : Session) (a : Action) : Passes σ (σ.step a).2 := by
  cases a with
  | start =>
    rw [step]
    split
    · split <;> exact .same (.refl _)
    · exact .same (.refl _)
  | stop =>
    rw [step]
    split
    · split <;> exact .same (.refl _)
    · exact .same (.refl _)
  | inject target msg =>
    rw [step]
    split
    · refine .same (.of_eq ?_)
      unfold alarms
      dsimp only
      rw [(σ.engine.inject_keeps target msg).2.2]
    · exact .same (.refl _)
  | advance =>
    rw [step, advance]
    split
    · exact .same (.refl _)
    · refine .same (.of_eq ?_)
      unfold alarms
      dsimp only
      rw [List.filterMap_append]
      exact congrArg _ (List.append_nil _)
    · exact .same (.refl _)
    · rename_i s left hcall
      have harm := alarms_starting hcall
      simp only [step, advance, hcall] at harm
      exact .arm s left hcall harm
    · exact .same (.refl _)
    · split <;> exact .same (.refl _)
    · exact .same (.refl _)
    · exact .same (.refl _)
  | close place =>
    rw [step]
    split
    · split
      · refine .same (.of_eq ?_)
        unfold alarms
        rw [Engine.closeStation_eq]
      · exact .same (.refl _)
    · exact .same (.refl _)
  | stir m => exact σ.passes_stir m

/-! ## Until a cancellation -/

/-- A session of an engine: it has the nodes of the engine, starts none but these, and no queue has ended
unless tasks have been cancelled. -/
structure Hosts (e : Engine) (σ : Session) : Prop where
  stations : σ.engine.stations = e.stations
  starting : ∀ left, σ.call = .starting left → ∀ s ∈ left, s ∈ e.stations
  ended : σ.cancelled = false → σ.ended = []

theorem stir_ended (h : σ.cancelled = false) (m : Stir) : (σ.stir m).ended = σ.ended := by
  cases m with
  | take place =>
    rw [stir]
    split
    · split <;> rfl
    · rfl
  | lock place =>
    rw [stir]
    split
    · split
      · rfl
      · split <;> rfl
    · rfl
  | proceed place =>
    rw [stir]
    split
    · rfl
    · unfold conclude
      dsimp only
      split <;> rfl
    · rfl
  | skip place => rw [stir]; split <;> rfl
  | ring place => rw [stir]; split <;> rfl
  | quit place => simp [stir, h]
  | expire place => rw [stir, if_neg (by simp [h])]

/-- Only a stop cancels tasks, a cancellation is not taken back, and without one no queue ends. -/
theorem step_cancelled (σ : Session) (a : Action) :
    (σ.step a).2.cancelled = σ.cancelled ∧ (σ.step a).2.ended = σ.ended ∨
      (σ.step a).2.cancelled = true := by
  cases a with
  | start =>
    rw [step]
    split
    · split <;> exact .inl ⟨rfl, rfl⟩
    · exact .inl ⟨rfl, rfl⟩
  | stop =>
    rw [step]
    split
    · split
      · exact .inl ⟨rfl, rfl⟩
      · exact .inr rfl
    · exact .inl ⟨rfl, rfl⟩
  | inject target msg => rw [step]; split <;> exact .inl ⟨rfl, rfl⟩
  | advance =>
    rw [step, advance]
    split
    · exact .inl ⟨rfl, rfl⟩
    · exact .inl ⟨rfl, rfl⟩
    · exact .inl ⟨rfl, rfl⟩
    · exact .inl ⟨rfl, rfl⟩
    · exact .inl ⟨rfl, rfl⟩
    · split <;> exact .inl ⟨rfl, rfl⟩
    · exact .inl ⟨rfl, rfl⟩
    · exact .inl ⟨rfl, rfl⟩
  | close place =>
    rw [step]
    split
    · split <;> exact .inl ⟨rfl, rfl⟩
    · exact .inl ⟨rfl, rfl⟩
  | stir m =>
    have hsame : (σ.stir m).cancelled = σ.cancelled := (σ.stir_keeps m).2.2.2
    cases hcancelled : σ.cancelled with
    | false => exact .inl ⟨hsame.trans hcancelled, stir_ended hcancelled m⟩
    | true => exact .inr (hsame.trans hcancelled)

theorem cancelled_of_step {a : Action} (h : (σ.step a).2.cancelled = false) :
    σ.cancelled = false := by
  rcases σ.step_cancelled a with ⟨hsame, -⟩ | hcancelled
  · exact hsame.symm.trans h
  · rw [hcancelled] at h
    cases h

theorem cancelled_of_run (actions : List Action) :
    ∀ {σ : Session}, (σ.run actions).2.cancelled = false → σ.cancelled = false := by
  induction actions with
  | nil => exact id
  | cons a rest ih => exact fun h => cancelled_of_step (ih h)

/-- A start hook that runs is that of the node that starts. -/
theorem startHook_of_step {a : Action} (h : .startHook id ∈ (σ.step a).1) :
    a = .advance ∧ ∃ s left, σ.call = .starting (s :: left) ∧ s.id = id := by
  cases a with
  | start =>
    rw [step] at h
    split at h
    · split at h <;> simp at h
    · simp at h
  | stop =>
    rw [step] at h
    split at h
    · split at h <;> simp at h
    · simp at h
  | inject target msg => rw [step] at h; split at h <;> simp at h
  | advance =>
    rw [step, advance] at h
    split at h
    case h_4 s left hcall => exact ⟨rfl, s, left, hcall, by simpa [eq_comm] using h⟩
    case h_6 => split at h <;> simp at h
    all_goals simp at h
  | close place =>
    rw [step] at h
    split at h
    · split at h <;> simp at h
    · simp at h
  | stir m => simp [step] at h

/-- The nodes that are left to be started are those that were left, or all of them. -/
theorem starting_of_step {a : Action} {left : List Station}
    (h : (σ.step a).2.call = .starting left) :
    σ.call = .starting left ∨ (∃ s, σ.call = .starting (s :: left)) ∨ left = σ.engine.stations := by
  cases a with
  | start =>
    rw [step] at h
    split at h
    · rename_i hcall
      split at h
      · exact .inl h
      · cases h
    · exact .inl h
  | stop =>
    rw [step] at h
    split at h
    · split at h
      · exact .inl h
      · cases h
    · exact .inl h
  | inject target msg => rw [step] at h; split at h <;> exact .inl h
  | advance =>
    rw [step, advance] at h
    split at h
    case h_3 => exact .inr (.inr (Call.starting.inj h).symm)
    case h_4 s left' hcall =>
      cases h
      exact .inr (.inl ⟨s, hcall⟩)
    case h_6 =>
      split at h
      · cases h
      · exact .inl h
    case h_1 => exact .inl h
    case h_7 => exact .inl h
    all_goals cases h
  | close place =>
    rw [step] at h
    split at h
    · split at h
      · cases h
      · exact .inl h
    · exact .inl h
  | stir m => exact .inl ((σ.stir_keeps m).2.2.1.symm.trans h)

namespace Hosts

variable {e : Engine}

theorem step (h : Hosts e σ) (a : Action) : Hosts e (σ.step a).2 where
  stations := (σ.step_stations a).trans h.stations
  starting := by
    intro left hcall s hs
    rcases starting_of_step hcall with hsame | ⟨first, hmore⟩ | hall
    · exact h.starting left hsame s hs
    · exact h.starting _ hmore s (List.mem_cons_of_mem _ hs)
    · exact h.stations ▸ hall ▸ hs
  ended := by
    intro hcancelled
    rcases σ.step_cancelled a with ⟨hsame, hended⟩ | hnot
    · exact hended.trans (h.ended (hsame.symm.trans hcancelled))
    · rw [hnot] at hcancelled
      cases hcancelled

theorem run (actions : List Action) :
    ∀ {σ : Session}, Hosts e σ → Hosts e (σ.run actions).2 := by
  induction actions with
  | nil => exact id
  | cons a rest ih => exact fun h => ih (h.step a)

end Hosts

/-- A session of an engine whose tasks have not been cancelled: no queue has ended. -/
structure Live (e : Engine) (σ : Session) : Prop where
  stations : σ.engine.stations = e.stations
  cancelled : σ.cancelled = false
  ended : σ.ended = []

/-! ## A period with a length -/

/-- An alarm of a node keeps a period going. -/
def Ticks (σ : Session) (id : Identifier) (p : Nat) : Prop :=
  ∃ a : Alarm, a.Keeps p ∧ (id, a) ∈ σ.alarms

namespace Ticks

theorem step (h : σ.Ticks id p) (hp : 0 < p) (hcancelled : σ.cancelled = false) (a : Action) :
    (σ.step a).2.Ticks id p := by
  obtain ⟨alarm, hkeeps, hmem⟩ := h
  cases σ.passes_step a with
  | same hsame => exact ⟨alarm, hkeeps, hsame.mem_iff.2 hmem⟩
  | follow node gone others hfrom hto =>
    rcases List.mem_cons.1 (hfrom.mem_iff.1 hmem) with heq | hother
    · -- the alarm is over, and the next one of the period takes its place
      cases heq
      obtain ⟨next, hnext, hkeeps', -⟩ := hkeeps.exists_following? hp σ.engine.clock
      exact ⟨next, hkeeps', hto.mem_iff.2 (Agenda.mem_follow_iff.2 (.inr ⟨next, hnext, rfl⟩))⟩
    · exact ⟨alarm, hkeeps, hto.mem_iff.2 (Agenda.mem_follow_iff.2 (.inl hother))⟩
  | arm s left hcall hto => exact ⟨alarm, hkeeps, hto.mem_iff.2 (List.mem_append_left _ hmem)⟩
  | lose hlost hto =>
    rw [hlost] at hcancelled
    cases hcancelled

/-- The period goes on until tasks are cancelled. -/
theorem run (hp : 0 < p) (actions : List Action) :
    ∀ {σ : Session}, σ.Ticks id p → (σ.run actions).2.cancelled = false →
      (σ.run actions).2.Ticks id p := by
  induction actions with
  | nil => exact fun h _ => h
  | cons a rest ih =>
    intro σ h hcancelled
    exact ih (h.step hp (cancelled_of_step (cancelled_of_run rest hcancelled)) a) hcancelled

end Ticks

variable {e : Engine} {s : Station} {fillings : List Filling} {t : Timing}

/-- An inject node with a period sets an alarm that keeps it going. -/
theorem exists_keeps_alarmsOf (hnode : s.node = .inject fillings t) (hperiod : t.period = some p)
    (hp : 0 < p) (clock : Clock) : ∃ a : Alarm, a.Keeps p ∧ (s.id, a) ∈ Engine.alarmsOf s clock := by
  obtain ⟨delay, period, crontab⟩ := t
  cases hperiod
  unfold Engine.alarmsOf
  rw [hnode]
  cases delay with
  | none =>
    refine ⟨_, .inr rfl, List.mem_map.2 ⟨_, List.mem_filterMap.2 ⟨.every p, ?_, if_neg hp.ne'⟩, rfl⟩⟩
    exact List.mem_append_left _ (List.mem_singleton_self _)
  | some delay =>
    refine ⟨_, .inl rfl, List.mem_map.2 ⟨_, List.mem_filterMap.2 ⟨.once delay p, ?_, rfl⟩, rfl⟩⟩
    exact List.mem_append_left _ (List.mem_singleton_self _)

/-- As soon as the node has started, its period goes on until tasks are cancelled. -/
theorem ticks_of_startHook (hids : e.nodeIds.Nodup) (hs : s ∈ e.stations)
    (hnode : s.node = .inject fillings t) (hperiod : t.period = some p) (hp : 0 < p)
    (actions : List Action) :
    ∀ {σ : Session}, Hosts e σ → .startHook s.id ∈ (σ.run actions).1 →
      (σ.run actions).2.cancelled = false → (σ.run actions).2.Ticks s.id p := by
  induction actions with
  | nil => exact fun _ hhook _ => absurd hhook List.not_mem_nil
  | cons a rest ih =>
    intro σ h hhook hcancelled
    rcases List.mem_append.1 hhook with hnow | hlater
    · obtain ⟨rfl, first, left, hcall, hid⟩ := startHook_of_step hnow
      have hfirst : first ∈ e.stations := h.starting _ hcall first List.mem_cons_self
      obtain rfl : first = s := List.inj_on_of_nodup_map hids hfirst hs hid
      obtain ⟨alarm, hkeeps, hmem⟩ := exists_keeps_alarmsOf hnode hperiod hp σ.engine.clock
      have hstarted : (σ.step .advance).2.Ticks first.id p :=
        ⟨alarm, hkeeps, (alarms_starting hcall).mem_iff.2 (List.mem_append_right _ hmem)⟩
      exact hstarted.run hp rest hcancelled
    · exact ih (h.step a) hlater hcancelled

/-! ## A period of no length -/

/-- An inject node with a period of no length sets no alarm of a period. -/
theorem ends_of_mem_alarmsOf (hnode : s.node = .inject fillings t) (hperiod : t.period = some 0)
    {clock : Clock} {a : Alarm} (h : (id, a) ∈ Engine.alarmsOf s clock) : a.Ends := by
  obtain ⟨delay, period, crontab⟩ := t
  cases hperiod
  unfold Engine.alarmsOf at h
  rw [hnode] at h
  obtain ⟨alarm, halarm, heq⟩ := List.mem_map.1 h
  cases heq
  obtain ⟨timer, htimer, hfirst⟩ := List.mem_filterMap.1 halarm
  rcases List.mem_append.1 htimer with hrepeat | hcrontab
  · cases delay with
    | none =>
      obtain rfl := List.mem_singleton.1 hrepeat
      cases hfirst
    | some delay =>
      obtain rfl := List.mem_singleton.1 hrepeat
      cases hfirst
      exact .inl rfl
  · obtain ⟨c, -, rfl⟩ := Option.map_eq_some_iff.1 (Option.mem_toList.1 hcrontab)
    exact Alarm.ends_of_ofCrontab? hfirst

/-- No alarm of a period is ever set for the node, whatever comes. -/
theorem ends_of_run (hids : e.nodeIds.Nodup) (hs : s ∈ e.stations)
    (hnode : s.node = .inject fillings t) (hperiod : t.period = some 0) (actions : List Action) :
    ∀ {σ : Session}, Hosts e σ → (∀ a, (s.id, a) ∈ σ.alarms → a.Ends) →
      ∀ a, (s.id, a) ∈ (σ.run actions).2.alarms → a.Ends := by
  induction actions with
  | nil => exact fun _ h => h
  | cons act rest ih =>
    intro σ hhosts h
    refine ih (hhosts.step act) fun a ha => ?_
    cases σ.passes_step act with
    | same hsame => exact h a (hsame.mem_iff.1 ha)
    | follow node gone others hfrom hto =>
      rcases Agenda.mem_follow_iff.1 (hto.mem_iff.1 ha) with hother | ⟨next, hnext, heq⟩
      · exact h a (hfrom.mem_iff.2 (List.mem_cons_of_mem _ hother))
      · cases heq
        exact (h gone (hfrom.mem_iff.2 List.mem_cons_self)).following? hnext
    | arm first left hcall hto =>
      rcases List.mem_append.1 (hto.mem_iff.1 ha) with hbefore | hset
      · exact h a hbefore
      · have hfirst : first ∈ e.stations := hhosts.starting _ hcall first List.mem_cons_self
        obtain rfl : first = s :=
          List.inj_on_of_nodup_map hids hfirst hs (Engine.id_of_mem_alarmsOf hset)
        exact ends_of_mem_alarmsOf hnode hperiod hset
    | lose hlost hto => exact h a (hto ha)

/-! ## The next alarm -/

theorem run_stirs_snd (ms : List Stir) (σ : Session) :
    (σ.run (ms.map .stir)).2 = ms.foldl Session.stir σ := by
  rw [run_stirs]

namespace Live

theorem station? (h : Live e σ) (id : Identifier) : σ.engine.station? id = e.station? id := by
  unfold Engine.station?
  rw [h.stations]

theorem stirs (ms : List Stir) : ∀ {σ : Session}, Live e σ → Live e (ms.foldl Session.stir σ) := by
  induction ms with
  | nil => exact id
  | cons m rest ih =>
    intro σ h
    obtain ⟨hstations, -, -, hcancelled⟩ := σ.stir_keeps m
    exact ih ⟨hstations.trans h.stations, hcancelled.trans h.cancelled,
      (stir_ended h.cancelled m).trans h.ended⟩

theorem ticks (h : Live e σ) (hp : 0 < p) (hticks : σ.Ticks id p) (ms : List Stir) :
    (ms.foldl Session.stir σ).Ticks id p := by
  have hrun := hticks.run hp (ms.map .stir)
  rw [run_stirs_snd] at hrun
  exact hrun (h.stirs ms).cancelled

end Live

/-- A task that is at work can go through with it; then it waits, or it is over. -/
theorem exists_stirs_conclude {place : Nat} {node : Identifier} {origin : Origin} {work : Work}
    (hended : σ.ended = []) (h : σ.tasks[place]? = some { node, origin, stage := .working work }) :
    ∃ ms : List Stir, (ms.foldl Session.stir σ).ended = [] ∧
      ((ms.foldl Session.stir σ).tasks.Perm
          ({ node, origin, stage := .waiting } :: σ.tasks.eraseIdx place) ∨
        (ms.foldl Session.stir σ).tasks = σ.tasks.eraseIdx place) := by
  obtain ⟨effects, outcome⟩ := work
  obtain ⟨hplace, -⟩ := List.getElem?_eq_some_iff.1 h
  have hrun := congrArg Prod.snd (run_proceed place node origin outcome effects σ hended h)
  refine ⟨List.replicate (effects.length + 1) (.proceed place), ?_⟩
  rw [← run_stirs_snd, List.map_replicate, hrun]
  cases origin with
  | queue =>
    refine ⟨hended, .inl ?_⟩
    simp only [conclude, List.set_set]
    exact List.set_perm_cons_eraseIdx hplace _
  | alarm a =>
    refine ⟨hended, .inr ?_⟩
    simp only [conclude]
    exact List.eraseIdx_set_eq

/-- What is at work at a node can be gone through with, so that the node is free. -/
theorem exists_stirs_free (id : Identifier) (n : Nat) :
    ∀ σ : Session, σ.ended = [] → σ.tasks.countP (fun t => t.node == id && t.isWorking) = n →
      ∃ ms : List Stir, (ms.foldl Session.stir σ).isBusy id = false := by
  induction n with
  | zero =>
    intro σ _ hcount
    exact ⟨[], List.any_eq_false.2 (List.countP_eq_zero.1 hcount)⟩
  | succ n ih =>
    intro σ hended hcount
    obtain ⟨t, ht, hbusy⟩ : ∃ t ∈ σ.tasks, (t.node == id && t.isWorking) = true :=
      List.countP_pos_iff.1 (by rw [hcount]; exact Nat.succ_pos n)
    obtain ⟨place, htask⟩ := List.mem_iff_getElem?.1 ht
    obtain ⟨node, origin, stage⟩ := t
    cases stage with
    | waiting => simp [Task.isWorking] at hbusy
    | holding msg => simp [Task.isWorking] at hbusy
    | working work =>
      obtain ⟨hplace, hthere⟩ := List.getElem?_eq_some_iff.1 htask
      have hothers := (List.getElem_cons_eraseIdx_perm hplace).countP_eq
        (fun t => t.node == id && t.isWorking)
      rw [hthere, List.countP_cons, if_pos hbusy, hcount] at hothers
      obtain ⟨ms, hended', htasks⟩ := exists_stirs_conclude hended htask
      obtain ⟨ms', hfree⟩ := ih _ hended' (by
        rcases htasks with hwaits | hover
        · rw [hwaits.countP_eq, List.countP_cons_of_neg (by simp [Task.isWorking])]
          omega
        · rw [hover]
          omega)
      exact ⟨ms ++ ms', by rw [List.foldl_append]; exact hfree⟩

/-- While the node is free, an alarm of the period is set or can be gone through with, so that the next
one is set. -/
theorem exists_stirs_set (hlive : Live e σ) (hstation : e.station? s.id = some s)
    (hfree : σ.isBusy s.id = false) (hp : 0 < p) (hticks : σ.Ticks s.id p) :
    ∃ (ms : List Stir) (a : Alarm), (s.id, a) ∈ (ms.foldl Session.stir σ).engine.agenda ∧
      a.Keeps p ∧ (ms.foldl Session.stir σ).isBusy s.id = false := by
  obtain ⟨a, hkeeps, hmem⟩ := hticks
  rcases List.mem_append.1 hmem with hset | hgone
  · exact ⟨[], a, hset, hkeeps, hfree⟩
  · obtain ⟨⟨node, origin, stage⟩, ht, halarm⟩ := List.mem_filterMap.1 hgone
    cases origin with
    | queue => cases halarm
    | alarm gone =>
      cases stage with
      | waiting => cases halarm
      | working work =>
        cases halarm
        simpa [Task.isWorking] using List.any_eq_false.1 hfree _ ht
      | holding msg =>
        cases halarm
        obtain ⟨place, htask⟩ := List.mem_iff_getElem?.1 ht
        have hrun := congrArg Prod.snd
          (run_lock hlive.ended ((hlive.station? s.id).trans hstation) htask hfree)
        let effects := (σ.engine.react s msg).effects
        refine ⟨.lock place :: List.replicate (effects.length + 1) (.proceed place), ?_⟩
        rw [← run_stirs_snd, List.map_cons, List.map_replicate, hrun]
        obtain ⟨b, hb, hnext, -⟩ := hkeeps.exists_following? hp
          ((effects.foldl (Engine.perform s.id)
            { σ.engine with contexts := (σ.engine.react s msg).contexts }).conclude s.id
              (σ.engine.react s msg).outcome).clock
        refine ⟨b, Agenda.mem_follow_iff.2 (.inr ⟨b, hb, rfl⟩), hnext,
          isBusy_of_tasks hfree fun t ht => .inl ?_⟩
        simp only [conclude, List.eraseIdx_set_eq] at ht
        exact List.mem_of_mem_eraseIdx ht

/-- After some moves an alarm of the period is set and the node is free. -/
theorem exists_stirs_ready (hlive : Live e σ) (hstation : e.station? s.id = some s) (hp : 0 < p)
    (hticks : σ.Ticks s.id p) :
    ∃ (ms : List Stir) (a : Alarm), (s.id, a) ∈ (ms.foldl Session.stir σ).engine.agenda ∧
      a.Keeps p ∧ (ms.foldl Session.stir σ).isBusy s.id = false := by
  obtain ⟨ms, hfree⟩ := exists_stirs_free s.id _ σ hlive.ended rfl
  obtain ⟨ms', a, hset⟩ :=
    exists_stirs_set (hlive.stirs ms) hstation hfree hp (hlive.ticks hp hticks ms)
  rw [← List.foldl_append] at hset
  exact ⟨ms ++ ms', a, hset⟩

/-- The period of a node can go on: some moves lead to where an alarm of it is set, more of them to where
the engine has fired that alarm, and the next alarm of the period is then set, a period later at the
earliest. -/
def GoesOn (σ : Session) (id : Identifier) (p : Nat) : Prop :=
  ∃ (before : List Stir) (after : List Action) (place : Nat) (a b : Alarm),
    let ρ := before.foldl Session.stir σ
    let e := ρ.engine.fire id a (ρ.engine.agenda.eraseIdx place)
    ρ.engine.agenda[place]? = some (id, a) ∧ a.Keeps p ∧
      ρ.run after = ([], { ρ with engine := e }) ∧
      (id, b) ∈ e.agenda ∧ b.Keeps p ∧ a.due + p ≤ b.due

theorem goesOn_of_ticks (hlive : Live e σ) (hstation : e.station? s.id = some s) (hp : 0 < p)
    (hticks : σ.Ticks s.id p) : σ.GoesOn s.id p := by
  obtain ⟨ms, a, hset, hkeeps, hfree⟩ := exists_stirs_ready hlive hstation hp hticks
  have hready := hlive.stirs ms
  obtain ⟨place, halarm⟩ := List.mem_iff_getElem?.1 hset
  have hring := run_ring hready.ended ((hready.station? s.id).trans hstation) halarm hfree
  obtain ⟨b, hb, hnext, hdue⟩ := hkeeps.exists_following? hp
    ((ms.foldl Session.stir σ).engine.clock.forwardTo a.wake)
  refine ⟨ms, _, place, a, b, halarm, hkeeps, hring, ?_, hnext, hdue ?_⟩
  · rw [Engine.fire_agenda]
    exact Agenda.mem_follow_iff.2 (.inr ⟨b, hb, rfl⟩)
  · exact a.due_le_wake.trans (Nat.le_max_right _ _)

end Session

/-! ## Configurations that are accepted -/

namespace Timing

/-- Whether a period has a length is decided by half a nanosecond. -/
theorem period_pos_iff {c : InjectConfig} {t : Timing} (h : ofConfig c = .ok t) {p : Nat}
    (hp : t.period = some p) : 0 < p ↔ ∃ m, c.period = some (.finite false m) ∧
      Magnitude.one < 2 * (m.units * secondLength) := by
  obtain ⟨seconds, hseconds, rfl⟩ := period_eq_some h hp
  rw [Duration.ofSeconds_pos_iff, hseconds]
  simp only [Option.some.injEq]

/-- A configuration that is accepted can be converted. Its period, if it has one, has a length exactly when
it is more than half a nanosecond. Then, in every session of an engine with the node, the period goes
on as soon as the node has started, until tasks are cancelled; else no alarm of a period is ever set for
the node. -/
theorem repeats_by_length {c : InjectConfig} {t : Timing} (h : ofConfig c = .ok t) :
    Converts c t ∧ ∀ p, t.period = some p →
      (0 < p ↔ ∃ m, c.period = some (.finite false m) ∧
        Magnitude.one < 2 * (m.units * secondLength)) ∧
      ∀ (e : Engine) (s : Station) (fillings : List Filling) (actions : List Action),
        e.nodeIds.Nodup → e.agenda = [] → s ∈ e.stations → s.node = .inject fillings t →
        let log := ((Session.opened e).run actions).1
        let now := ((Session.opened e).run actions).2
        (0 < p → .startHook s.id ∈ log → now.cancelled = false → now.GoesOn s.id p) ∧
        (p = 0 → ∀ a, (s.id, a) ∈ now.alarms → ∀ q, a.sequel ≠ .every q) := by
  refine ⟨converts_of_ofConfig h, fun p hperiod => ⟨period_pos_iff h hperiod, ?_⟩⟩
  intro e s fillings actions hids hagenda hs hnode log now
  have hopened : Session.Hosts e (.opened e) := ⟨rfl, nofun, fun _ => rfl⟩
  refine ⟨fun hp hhook hcancelled => ?_, ?_⟩
  · have hhosts : Session.Hosts e now := hopened.run actions
    have hstation : e.station? s.id = some s := find?_key_of_nodup hids hs
    exact Session.goesOn_of_ticks ⟨hhosts.stations, hcancelled, hhosts.ended hcancelled⟩ hstation hp
      (Session.ticks_of_startHook hids hs hnode hperiod hp actions hopened hhook hcancelled)
  · rintro rfl a ha q hq
    have hnone : ∀ a, (s.id, a) ∈ (Session.opened e).alarms → a.Ends := by
      simp [Session.alarms, Session.opened, hagenda]
    rcases Session.ends_of_run hids hs hnode hperiod actions hopened hnone a ha with
      hends | ⟨c, time, hends⟩
    · rw [hends] at hq
      cases hq
    · rw [hends] at hq
      cases hq

/-- A configuration with a period and nothing else. -/
def configEvery (seconds : Double) : InjectConfig :=
  { InjectConfig.blank with period := some seconds }

theorem ofConfig_configEvery {seconds : Double} (haccepts : accepts seconds = true)
    (hne : seconds.numEq .zero = false) : ofConfig (configEvery seconds) =
      .ok { delay := none, period := some (Duration.ofSeconds seconds), crontab := none } := by
  have hperiod : periodOf (configEvery seconds) = .ok (some (Duration.ofSeconds seconds)) := by
    unfold periodOf configEvery
    dsimp only
    rw [if_neg (by simp [haccepts]), if_neg (by simp [hne])]
  exact ofConfig_eq_ok_iff.2 ⟨rfl, hperiod, rfl⟩

/-- A node with a period of a second. -/
def secondly : Station :=
  { identity := (Engine.Fork.graphNode ⟨2⟩ "inject" []).identity
    node := .inject [] { delay := none, period := some secondLength, crontab := none }
    ports := [[]] }

/-- An engine with this node only. -/
def secondlyEngine : Engine :=
  { Engine.Fork.engine with stations := [secondly] }

/-- When the engine has been started, the node goes on once a second. -/
theorem repeats_by_length_secondly : ofConfig (configEvery (Double.ofNat 1)) =
      .ok { delay := none, period := some secondLength, crontab := none } ∧
    ((Session.opened secondlyEngine).run (.start :: List.replicate 4 .advance)).2.GoesOn ⟨2⟩
      secondLength := by
  have hsecond : Duration.ofSeconds (Double.ofNat 1) = secondLength := by decide +kernel
  have hconfig : ofConfig (configEvery (Double.ofNat 1)) = _ :=
    ofConfig_configEvery (by decide +kernel) (by decide +kernel)
  rw [hsecond] at hconfig
  obtain ⟨-, hperiod⟩ := repeats_by_length hconfig
  obtain ⟨hgoes, -⟩ := (hperiod secondLength rfl).2 secondlyEngine secondly []
    (.start :: List.replicate 4 .advance) (List.nodup_singleton _) rfl (List.mem_singleton_self _)
    rfl
  have hrun : (Session.opened secondlyEngine).run (.start :: List.replicate 4 .advance) = _ :=
    Session.run_start (e := secondlyEngine) rfl
  refine ⟨hconfig, hgoes (by decide) ?_ ?_⟩
  · rw [hrun]
    exact List.mem_cons_self
  · rw [hrun]
    rfl

/-- A configuration that is accepted need not have a period with a length: a tenth of a nanosecond is
not zero, but it is rounded to no length at all. -/
theorem not_period_pos : ¬∀ (c : InjectConfig) (t : Timing), ofConfig c = .ok t →
    Converts c t ∧ ∀ p, t.period = some p → 0 < p := by
  intro h
  have hnothing : Duration.ofSeconds (Double.ofRatio false 1 (10 ^ 10)) = 0 := by decide +kernel
  have hconfig : ofConfig (configEvery (Double.ofRatio false 1 (10 ^ 10))) = _ :=
    ofConfig_configEvery (by decide +kernel) (by decide +kernel)
  have hpos := (h _ _ hconfig).2 _ rfl
  rw [hnothing] at hpos
  exact absurd hpos (Nat.lt_irrefl 0)

end Timing

end Wireflow
