/-
The life of an engine. Whatever calls are made of it, and however its tasks and timers come between
their steps: it is started once at most and only before anything else, every start hook runs once at
most, and when a stop has returned every close hook has run once and nothing happens any more.

The invariant says where a session stands: which hooks have run so far, which are left, and when no
task and no timer can be there. A stop only goes on to the close hooks when there is none, nothing but
a start brings one about, and no start comes after a stop; so there is nothing left that could send,
hand over or make known anything.
-/
import Wireflow.Proofs.Engine.Session

namespace Wireflow

/-- How phases follow one another. -/
inductive Phase.Leads : Phase → Phase → Prop
  | start : Leads .built .running
  | discard : Leads .built .stopped
  | stop : Leads .running .stopped

namespace Happening

/-- A start has succeeded. -/
def isStart : Happening → Bool
  | .started (.ok _) => true
  | _ => false

/-- The node whose start hook has run. -/
def startHook? : Happening → Option Identifier
  | .startHook node => some node
  | _ => none

/-- The node whose close hook has run. -/
def closeHook? : Happening → Option Identifier
  | .closeHook node => some node
  | _ => none

end Happening

/-! ## What tasks and calls leave alone -/

namespace Engine

theorem hand_keeps (source : Identifier) (port : Nat) (msgId : Option String)
    (targets : List Identifier) :
    ∀ (pending : Option Message) (e : Engine),
      (hand source port msgId pending targets e).stations = e.stations ∧
        (hand source port msgId pending targets e).phase = e.phase := by
  induction targets with
  | nil => exact fun _ _ => ⟨rfl, rfl⟩
  | cons t rest ih =>
    intro pending e
    cases pending with
    | none => exact ⟨rfl, rfl⟩
    | some msg =>
      have hpost : (e.post source port msgId t msg).stations = e.stations ∧
          (e.post source port msgId t msg).phase = e.phase := by
        unfold post
        split <;> exact ⟨rfl, rfl⟩
      rw [hand]
      obtain ⟨hstations, hphase⟩ := ih (if rest.isEmpty then none else some msg)
        (e.post source port msgId t msg)
      exact ⟨hstations.trans hpost.1, hphase.trans hpost.2⟩

theorem conclude_keeps (e : Engine) (id : Identifier) (outcome : Except NodeFault Unit) :
    (e.conclude id outcome).stations = e.stations ∧ (e.conclude id outcome).phase = e.phase := by
  cases outcome <;> exact ⟨rfl, rfl⟩

theorem inject_keeps (e : Engine) (target : Identifier) (msg : Message) :
    (e.inject target msg).2.stations = e.stations ∧ (e.inject target msg).2.phase = e.phase ∧
      (e.inject target msg).2.agenda = e.agenda := by
  unfold inject
  split
  · exact ⟨rfl, rfl, rfl⟩
  · split <;> exact ⟨rfl, rfl, rfl⟩

theorem inject_of_stopped {e : Engine} (h : e.phase = .stopped) (target : Identifier)
    (msg : Message) : e.inject target msg = (.error .stopped, e) := by
  unfold inject
  rw [if_pos h]

end Engine

namespace Session

theorem perform_keeps (σ : Session) (id : Identifier) (effect : Effect) :
    (σ.perform id effect).stations = σ.engine.stations ∧
      (σ.perform id effect).phase = σ.engine.phase := by
  cases effect with
  | send port msg => exact Engine.hand_keeps id port _ _ _ σ.engine
  | observe msg => exact ⟨rfl, rfl⟩
  | notice n => exact ⟨rfl, rfl⟩

/-- Tasks change neither the phase nor the call that is on, and call nothing off. -/
theorem stir_keeps (σ : Session) (m : Stir) :
    (σ.stir m).engine.stations = σ.engine.stations ∧ (σ.stir m).engine.phase = σ.engine.phase ∧
      (σ.stir m).call = σ.call ∧ (σ.stir m).cancelled = σ.cancelled := by
  cases m with
  | take place =>
    rw [stir]
    split
    · split <;> exact ⟨rfl, rfl, rfl, rfl⟩
    · exact ⟨rfl, rfl, rfl, rfl⟩
  | lock place =>
    rw [stir]
    split
    · split
      · exact ⟨rfl, rfl, rfl, rfl⟩
      · split <;> exact ⟨rfl, rfl, rfl, rfl⟩
    · exact ⟨rfl, rfl, rfl, rfl⟩
  | proceed place =>
    rw [stir]
    split
    · obtain ⟨hstations, hphase⟩ := σ.perform_keeps _ _
      exact ⟨hstations, hphase, rfl, rfl⟩
    · rename_i node origin outcome _
      obtain ⟨hstations, hphase⟩ := σ.engine.conclude_keeps node outcome
      unfold conclude
      dsimp only
      split <;> exact ⟨hstations, hphase, rfl, rfl⟩
    · exact ⟨rfl, rfl, rfl, rfl⟩
  | skip place => rw [stir]; split <;> exact ⟨rfl, rfl, rfl, rfl⟩
  | ring place => rw [stir]; split <;> exact ⟨rfl, rfl, rfl, rfl⟩
  | quit place => rw [stir]; split <;> exact ⟨rfl, rfl, rfl, rfl⟩
  | expire place => rw [stir]; split <;> exact ⟨rfl, rfl, rfl, rfl⟩

/-- Without tasks and timers there is nothing that could do anything. -/
theorem stir_of_idle {σ : Session} (h : σ.Idle) (m : Stir) : σ.stir m = σ := by
  obtain ⟨htasks, hagenda⟩ := h
  cases m with
  | ring place => simp [stir, hagenda]
  | expire place =>
    rw [stir]
    split
    · rw [hagenda, List.eraseIdx_nil, ← hagenda]
    · rfl
  | _ => simp [stir, htasks]

theorem step_stations (σ : Session) (a : Action) :
    (σ.step a).2.engine.stations = σ.engine.stations := by
  cases a with
  | start =>
    rw [step]
    split
    · split <;> rfl
    · rfl
  | stop =>
    rw [step]
    split
    · split <;> rfl
    · rfl
  | inject target msg =>
    rw [step]
    split
    · exact (σ.engine.inject_keeps target msg).1
    · rfl
  | advance =>
    rw [step, advance]
    split
    · rfl
    · rfl
    · rfl
    · exact (σ.engine.startStation_keeps _).1
    · rfl
    · split <;> rfl
    · rfl
    · rfl
  | close place =>
    rw [step]
    split
    · split
      · rw [Engine.closeStation_eq]
      · rfl
    · rfl
  | stir m => exact (σ.stir_keeps m).1

/-- Whatever comes next, the phase stays or goes on. -/
theorem step_phase (σ : Session) (a : Action) :
    (σ.step a).2.engine.phase = σ.engine.phase ∨
      σ.engine.phase.Leads (σ.step a).2.engine.phase := by
  cases a with
  | start =>
    rw [step]
    split
    · split
      · exact .inl rfl
      · rename_i hphase
        rw [not_not] at hphase
        rw [hphase]
        exact .inr .start
    · exact .inl rfl
  | stop =>
    rw [step]
    split
    · split <;> exact .inl rfl
    · exact .inl rfl
  | inject target msg =>
    rw [step]
    split
    · exact .inl (σ.engine.inject_keeps target msg).2.1
    · exact .inl rfl
  | advance =>
    rw [step, advance]
    split
    · exact .inl rfl
    · exact .inl rfl
    · exact .inl rfl
    · exact .inl (σ.engine.startStation_keeps _).2.2
    · exact .inl rfl
    · split <;> exact .inl rfl
    · exact .inl rfl
    · cases hphase : σ.engine.phase with
      | built => exact .inr .discard
      | running => exact .inr .stop
      | stopped => exact .inl rfl
  | close place =>
    rw [step]
    split
    · split
      · rw [Engine.closeStation_eq]
        exact .inl rfl
      · exact .inl rfl
    · exact .inl rfl
  | stir m => exact .inl (σ.stir_keeps m).2.1

/-! ## Where a session stands -/

/-- What a log tells: the start hooks and the close hooks that have run, in order, and how often a
start has succeeded. -/
structure Told (log : List Happening) (started closed : List Identifier) (starts : Nat) : Prop where
  started : log.filterMap Happening.startHook? = started
  closed : log.filterMap Happening.closeHook? = closed
  starts : (log.filter Happening.isStart).length = starts

/-- Logs one after the other. -/
theorem Told.append {log log' : List Happening} {started started' closed closed' : List Identifier}
    {n n' : Nat} (h : Told log started closed n) (h' : Told log' started' closed' n') :
    Told (log ++ log') (started ++ started') (closed ++ closed') (n + n') where
  started := by rw [List.filterMap_append, h.started, h'.started]
  closed := by rw [List.filterMap_append, h.closed, h'.closed]
  starts := by rw [List.filter_append, List.length_append, h.starts, h'.starts]

/-- What is logged that tells of none of it. -/
theorem Told.quiet {log log' : List Happening} {started closed : List Identifier} {n : Nat}
    (h : Told log started closed n) (h' : Told log' [] [] 0) : Told (log ++ log') started closed n := by
  simpa using h.append h'

/-- How a session has begun when a call is over: not at all, or with one start of all nodes. -/
inductive Begun (e₀ : Engine) : Phase → List Identifier → Nat → Prop
  | never : Begun e₀ .built [] 0
  | once : Begun e₀ .running e₀.nodeIds 1

namespace Begun

variable {e₀ : Engine} {phase : Phase} {started : List Identifier} {n : Nat}

theorem ne_stopped (h : Begun e₀ phase started n) : phase ≠ .stopped := by
  cases h <;> decide

theorem le_one (h : Begun e₀ phase started n) : n ≤ 1 := by
  cases h <;> decide

theorem nodup (h : Begun e₀ phase started n) (hids : e₀.nodeIds.Nodup) : started.Nodup := by
  cases h with
  | never => exact List.nodup_nil
  | once => exact hids

end Begun

/-- Where a session stands that began with an engine, by its log and the call that is on. Before a stop
goes on to the close hooks tasks and timers are there only if there was a start, and afterwards there
are none. -/
inductive Stands (e₀ : Engine) (log : List Happening) (σ : Session) : Call → Prop
  | free {started : List Identifier} {n : Nat} (begun : Begun e₀ σ.engine.phase started n)
      (idle : σ.engine.phase = .built → σ.Idle) (told : Told log started [] n)
      (ahead : .stopped ∉ log) : Stands e₀ log σ .none
  | spawning {left : List Station} (phase : σ.engine.phase = .running) (told : Told log [] [] 0)
      (ahead : .stopped ∉ log) : Stands e₀ log σ (.spawning left)
  | starting {started : List Identifier} {left : List Station} (phase : σ.engine.phase = .running)
      (hooks : started ++ left.map (·.id) = e₀.nodeIds) (told : Told log started [] 0)
      (ahead : .stopped ∉ log) : Stands e₀ log σ (.starting left)
  | waiting {started : List Identifier} {n : Nat} (begun : Begun e₀ σ.engine.phase started n)
      (cancelled : σ.cancelled = true) (told : Told log started [] n) (ahead : .stopped ∉ log) : Stands e₀ log σ .waiting
  | closing {started closed : List Identifier} {left : List Station} {n : Nat}
      (begun : Begun e₀ σ.engine.phase started n) (idle : σ.Idle)
      (hooks : (closed ++ left.map (·.id)).Perm e₀.nodeIds) (told : Told log started closed n)
      (ahead : .stopped ∉ log) : Stands e₀ log σ (.closing left)
  | stopped {phase : Phase} {started closed : List Identifier} {n : Nat}
      (now : σ.engine.phase = .stopped) (begun : Begun e₀ phase started n) (idle : σ.Idle)
      (mail : σ.engine.mail = []) (hooks : closed.Perm e₀.nodeIds)
      (told : Told log started closed n) (returned : .stopped ∈ log) : Stands e₀ log σ .none

namespace Stands

variable {e₀ : Engine} {log : List Happening} {σ : Session}

/-- A step that changes nothing and logs nothing of what the log is read for. -/
theorem quiet {c : Call} (h : Stands e₀ log σ c) {x : List Happening} (hx : Told x [] [] 0)
    (hstops : .stopped ∉ x) : Stands e₀ (log ++ x) σ c := by
  have hstill (ahead : .stopped ∉ log) : .stopped ∉ log ++ x := by simp [ahead, hstops]
  cases h with
  | free begun idle told ahead => exact .free begun idle (told.quiet hx) (hstill ahead)
  | spawning phase told ahead => exact .spawning phase (told.quiet hx) (hstill ahead)
  | starting phase hooks told ahead => exact .starting phase hooks (told.quiet hx) (hstill ahead)
  | waiting begun cancelled told ahead =>
    exact .waiting begun cancelled (told.quiet hx) (hstill ahead)
  | closing begun idle hooks told ahead =>
    exact .closing begun idle hooks (told.quiet hx) (hstill ahead)
  | stopped now begun idle mail hooks told returned =>
    exact .stopped now begun idle mail hooks (told.quiet hx) (List.mem_append_left _ returned)

theorem silent {c : Call} (h : Stands e₀ log σ c) : Stands e₀ (log ++ []) σ c :=
  h.quiet ⟨rfl, rfl, rfl⟩ (by simp)

/-- The call of a session at which it stands. -/
theorem at_call {c : Call} (h : Stands e₀ log σ σ.call) (hc : σ.call = c) : Stands e₀ log σ c :=
  hc ▸ h

theorem start (h : Stands e₀ log σ σ.call) :
    Stands e₀ (log ++ (σ.step .start).1) (σ.step .start).2 (σ.step .start).2.call := by
  rw [step]
  split
  · rename_i hcall
    split
    · exact h.quiet ⟨rfl, rfl, rfl⟩ (by simp)
    · rename_i hphase
      rw [not_not] at hphase
      rw [List.append_nil]
      cases h.at_call hcall with
      | free begun _ told ahead =>
        rw [hphase] at begun
        cases begun
        exact .spawning rfl told ahead
      | stopped now _ _ _ _ _ _ =>
        rw [hphase] at now
        cases now
  · exact h.silent

theorem stop (h : Stands e₀ log σ σ.call) :
    Stands e₀ (log ++ (σ.step .stop).1) (σ.step .stop).2 (σ.step .stop).2.call := by
  rw [step]
  split
  · rename_i hcall
    split
    · rename_i hphase
      rw [hcall]
      cases h.at_call hcall with
      | free begun _ _ _ =>
        rw [hphase] at begun
        cases begun
      | stopped now begun idle mail hooks told returned =>
        exact .stopped now begun idle mail hooks (told.quiet ⟨rfl, rfl, rfl⟩)
          (List.mem_append_left _ returned)
    · rename_i hphase
      rw [List.append_nil]
      cases h.at_call hcall with
      | free begun _ told ahead => exact .waiting begun rfl told ahead
      | stopped now _ _ _ _ _ _ => exact absurd now hphase
  · exact h.silent

theorem inject (h : Stands e₀ log σ σ.call) (target : Identifier) (msg : Message) :
    Stands e₀ (log ++ (σ.step (.inject target msg)).1) (σ.step (.inject target msg)).2
      (σ.step (.inject target msg)).2.call := by
  rw [step]
  split
  · rename_i hcall
    obtain ⟨-, hphase, hagenda⟩ := σ.engine.inject_keeps target msg
    dsimp only
    rw [hcall]
    cases h.at_call hcall with
    | free begun idle told ahead =>
      refine .free (by rw [hphase]; exact begun) (fun hbuilt => ?_) (told.quiet ⟨rfl, rfl, rfl⟩)
        (by simp [ahead])
      obtain ⟨htasks, hnone⟩ := idle (hphase ▸ hbuilt)
      exact ⟨htasks, hagenda.trans hnone⟩
    | stopped now begun idle mail hooks told returned =>
      rw [Engine.inject_of_stopped now]
      exact .stopped now begun idle mail hooks (told.quiet ⟨rfl, rfl, rfl⟩)
        (List.mem_append_left _ returned)
  · exact h.silent

theorem close (h : Stands e₀ log σ σ.call) (place : Nat) :
    Stands e₀ (log ++ (σ.step (.close place)).1) (σ.step (.close place)).2
      (σ.step (.close place)).2.call := by
  rw [step]
  split
  · rename_i left hcall
    split
    · rename_i s hs
      obtain ⟨hplace, rfl⟩ := List.getElem?_eq_some_iff.1 hs
      cases h.at_call hcall with
      | @closing started closed _ n begun idle hooks told ahead =>
        rw [Engine.closeStation_eq]
        have htold : Told [.closeHook left[place].id] [] [left[place].id] 0 := ⟨rfl, rfl, rfl⟩
        have hleft : (left[place].id :: (left.eraseIdx place).map (·.id)).Perm (left.map (·.id)) :=
          (List.getElem_cons_eraseIdx_perm hplace).map Station.id
        have hhooks : (closed ++ [left[place].id] ++ (left.eraseIdx place).map (·.id)).Perm
            e₀.nodeIds := by
          rw [List.append_assoc, List.singleton_append]
          exact (hleft.append_left closed).trans hooks
        refine .closing begun idle hhooks ?_ (by simp [ahead])
        simpa using told.append htold
    · exact h.silent
  · exact h.silent

theorem advance (hstations : σ.engine.stations = e₀.stations) (h : Stands e₀ log σ σ.call) :
    Stands e₀ (log ++ (σ.step .advance).1) (σ.step .advance).2 (σ.step .advance).2.call := by
  rw [step, Session.advance]
  split
  · exact h.silent
  · rename_i s left hcall
    rw [List.append_nil]
    cases h.at_call hcall with
    | spawning phase told ahead => exact .spawning phase told ahead
  · rename_i hcall
    rw [List.append_nil]
    cases h.at_call hcall with
    | spawning phase told ahead =>
      refine .starting phase ?_ told ahead
      rw [hstations]
      rfl
  · rename_i s left hcall
    cases h.at_call hcall with
    | @starting started _ phase hooks told ahead =>
      have htold : Told [.startHook s.id] [s.id] [] 0 := ⟨rfl, rfl, rfl⟩
      refine .starting ((σ.engine.startStation_keeps s).2.2.trans phase) ?_ (told.append htold)
        (by simp [ahead])
      simpa using hooks
  · rename_i hcall
    cases h.at_call hcall with
    | @starting started _ phase hooks told ahead =>
      have htold : Told [.started (.ok ())] [] [] 1 := ⟨rfl, rfl, rfl⟩
      have hall : started = e₀.nodeIds := by simpa using hooks
      have hbegun : Begun e₀ σ.engine.phase started 1 := by
        rw [phase, hall]
        exact .once
      refine .free hbegun (fun hbuilt => ?_) (by simpa using told.append htold) (by simp [ahead])
      exact absurd (phase.symm.trans hbuilt) (by decide)
  · rename_i hcall
    split
    · rename_i htasks hagenda
      rw [List.append_nil]
      cases h.at_call hcall with
      | waiting begun _ told ahead =>
        refine .closing begun ⟨htasks, hagenda⟩ ?_ told ahead
        rw [List.nil_append, hstations]
        exact .refl _
    · exact h.silent
  · exact h.silent
  · rename_i hcall
    cases h.at_call hcall with
    | @closing started closed _ n begun idle hooks told ahead =>
      have htold : Told [.stopped] [] [] 0 := ⟨rfl, rfl, rfl⟩
      exact .stopped rfl begun idle rfl (by simpa using hooks) (told.quiet htold) (by simp)

theorem stir (h : Stands e₀ log σ σ.call) (m : Stir) : Stands e₀ log (σ.stir m) (σ.stir m).call := by
  obtain ⟨-, hphase, hcall, hcancelled⟩ := σ.stir_keeps m
  rw [hcall]
  generalize hc : σ.call = c at h ⊢
  cases h with
  | free begun idle told ahead =>
    refine .free (by rw [hphase]; exact begun) (fun hbuilt => ?_) told ahead
    have hidle := idle (hphase ▸ hbuilt)
    rw [stir_of_idle hidle]
    exact hidle
  | spawning phase told ahead => exact .spawning (hphase.trans phase) told ahead
  | starting phase hooks told ahead => exact .starting (hphase.trans phase) hooks told ahead
  | waiting begun cancelled told ahead =>
    exact .waiting (by rw [hphase]; exact begun) (hcancelled.trans cancelled) told ahead
  | closing begun idle hooks told ahead =>
    rw [stir_of_idle idle]
    exact .closing begun idle hooks told ahead
  | stopped now begun idle mail hooks told returned =>
    rw [stir_of_idle idle]
    exact .stopped now begun idle mail hooks told returned

/-- Whatever comes next, the session stands where its log says. -/
theorem step (hstations : σ.engine.stations = e₀.stations) (h : Stands e₀ log σ σ.call)
    (a : Action) : Stands e₀ (log ++ (σ.step a).1) (σ.step a).2 (σ.step a).2.call := by
  cases a with
  | start => exact h.start
  | stop => exact h.stop
  | inject target msg => exact h.inject target msg
  | advance => exact h.advance hstations
  | close place => exact h.close place
  | stir m =>
    have hstir := (h.stir m).silent
    exact hstir

/-- So a whole run keeps it. -/
theorem run (as : List Action) :
    ∀ {log : List Happening} {σ : Session}, σ.engine.stations = e₀.stations →
      Stands e₀ log σ σ.call →
      Stands e₀ (log ++ (σ.run as).1) (σ.run as).2 (σ.run as).2.call := by
  induction as with
  | nil => exact fun _ h => h.silent
  | cons a rest ih =>
    intro log σ hstations h
    have hrest := ih ((σ.step_stations a).trans hstations) (h.step hstations a)
    rw [List.append_assoc] at hrest
    exact hrest

end Stands

/-! ## What the place tells -/

namespace Stands

variable {e₀ : Engine} {log : List Happening} {σ : Session} {c : Call}

/-- A start has succeeded once at most. -/
theorem starts_le_one (h : Stands e₀ log σ c) : (log.filter Happening.isStart).length ≤ 1 := by
  cases h with
  | free begun _ told _ => exact told.starts ▸ begun.le_one
  | spawning _ told _ => exact told.starts ▸ Nat.zero_le 1
  | starting _ _ told _ => exact told.starts ▸ Nat.zero_le 1
  | waiting begun _ told _ => exact told.starts ▸ begun.le_one
  | closing begun _ _ told _ => exact told.starts ▸ begun.le_one
  | stopped _ begun _ _ _ told _ => exact told.starts ▸ begun.le_one

/-- No start hook has run twice. -/
theorem nodup_startHooks (h : Stands e₀ log σ c) (hids : e₀.nodeIds.Nodup) :
    (log.filterMap Happening.startHook?).Nodup := by
  cases h with
  | free begun _ told _ => exact told.started ▸ begun.nodup hids
  | spawning _ told _ => exact told.started ▸ List.nodup_nil
  | starting _ hooks told _ =>
    rw [told.started]
    rw [← hooks] at hids
    exact (List.nodup_append.1 hids).1
  | waiting begun _ told _ => exact told.started ▸ begun.nodup hids
  | closing begun _ _ told _ => exact told.started ▸ begun.nodup hids
  | stopped _ begun _ _ _ told _ => exact told.started ▸ begun.nodup hids

/-- The engine is stopped exactly when a stop has returned. -/
theorem stopped_iff (h : Stands e₀ log σ c) : σ.engine.phase = .stopped ↔ .stopped ∈ log := by
  cases h with
  | free begun _ _ ahead => exact iff_of_false begun.ne_stopped ahead
  | spawning phase _ ahead => exact iff_of_false (by simp [phase]) ahead
  | starting phase _ _ ahead => exact iff_of_false (by simp [phase]) ahead
  | waiting begun _ _ ahead => exact iff_of_false begun.ne_stopped ahead
  | closing begun _ _ _ ahead => exact iff_of_false begun.ne_stopped ahead
  | stopped now _ _ _ _ _ returned => exact iff_of_true now returned

end Stands

/-- A stopped engine takes no message from outside. -/
theorem step_inject_of_stopped {σ : Session} (hcall : σ.call = .none)
    (hphase : σ.engine.phase = .stopped) (target : Identifier) (msg : Message) :
    σ.step (.inject target msg) = ([.injected target (.error .stopped)], σ) := by
  obtain ⟨engine, tasks, cancelled, call, ended⟩ := σ
  cases hcall
  rw [step]
  dsimp only
  rw [Engine.inject_of_stopped hphase]

/-- A stopped engine without tasks and timers stays as it is. -/
theorem step_stopped {σ : Session} (hcall : σ.call = .none) (hphase : σ.engine.phase = .stopped)
    (hidle : σ.Idle) (a : Action) : (σ.step a).2 = σ := by
  cases a with
  | start => simp [step, hcall, hphase]
  | stop => simp [step, hcall, hphase]
  | inject target msg => rw [step_inject_of_stopped hcall hphase]
  | advance => simp [step, advance, hcall]
  | close place => simp [step, hcall]
  | stir m => exact stir_of_idle hidle m

theorem run_stopped {σ : Session} (hcall : σ.call = .none) (hphase : σ.engine.phase = .stopped)
    (hidle : σ.Idle) (as : List Action) : (σ.run as).2 = σ := by
  induction as with
  | nil => rfl
  | cons a rest ih =>
    rw [run, step_stopped hcall hphase hidle]
    exact ih

/-! ## Stops come to their end -/

theorem run_stirs (ms : List Stir) :
    ∀ σ : Session, σ.run (ms.map .stir) = ([], ms.foldl Session.stir σ) := by
  induction ms with
  | nil => exact fun _ => rfl
  | cons m rest ih =>
    intro σ
    rw [List.map_cons, run, List.foldl_cons]
    dsimp only [step]
    rw [ih]
    rfl

theorem stirs_keep (ms : List Stir) :
    ∀ σ : Session, (ms.foldl Session.stir σ).call = σ.call ∧
      (ms.foldl Session.stir σ).cancelled = σ.cancelled := by
  induction ms with
  | nil => exact fun _ => ⟨rfl, rfl⟩
  | cons m rest ih =>
    intro σ
    obtain ⟨-, -, hcall, hcancelled⟩ := σ.stir_keeps m
    obtain ⟨hcall', hcancelled'⟩ := ih (σ.stir m)
    exact ⟨hcall'.trans hcall, hcancelled'.trans hcancelled⟩

/-- The work of an alarm can be gone through with, and then its task is over. -/
theorem exists_stirs_work (node : Identifier) (a : Alarm) (outcome : Except NodeFault Unit)
    (others : List Task) (effects : List Effect) :
    ∀ σ : Session, σ.tasks =
        { node, origin := .alarm a, stage := .working { effects, outcome } } :: others →
      ∃ ms : List Stir, (ms.foldl Session.stir σ).tasks = others := by
  induction effects with
  | nil =>
    intro σ h
    refine ⟨[.proceed 0], ?_⟩
    simp [stir, conclude, h]
  | cons effect rest ih =>
    intro σ h
    obtain ⟨ms, hms⟩ := ih (σ.stir (.proceed 0)) (by simp [stir, h])
    exact ⟨.proceed 0 :: ms, hms⟩

/-- Tasks that are cancelled can all end. -/
theorem exists_stirs_tasks (ts : List Task) :
    ∀ σ : Session, σ.cancelled = true → σ.tasks = ts →
      ∃ ms : List Stir, (ms.foldl Session.stir σ).tasks = [] := by
  induction ts with
  | nil => exact fun σ _ h => ⟨[], h⟩
  | cons t others ih =>
    intro σ hcancelled h
    obtain ⟨ms, hms⟩ : ∃ ms : List Stir, (ms.foldl Session.stir σ).tasks = others := by
      obtain ⟨node, origin, stage⟩ := t
      cases origin with
      | queue => exact ⟨[.quit 0], by simp [stir, h, hcancelled]⟩
      | alarm a =>
        cases stage with
        | waiting => exact ⟨[.quit 0], by simp [stir, h, hcancelled]⟩
        | holding msg => exact ⟨[.quit 0], by simp [stir, h, hcancelled]⟩
        | working work => exact exists_stirs_work node a work.outcome others work.effects σ h
    obtain ⟨ms', hms'⟩ := ih _ ((stirs_keep ms σ).2.trans hcancelled) hms
    exact ⟨ms ++ ms', by rw [List.foldl_append, hms']⟩

/-- And so can all timers that sleep. -/
theorem exists_stirs_agenda (n : Nat) :
    ∀ σ : Session, σ.cancelled = true → σ.tasks = [] → σ.engine.agenda.length = n →
      ∃ ms : List Stir, (ms.foldl Session.stir σ).Idle := by
  induction n with
  | zero => exact fun σ _ htasks h => ⟨[], htasks, List.length_eq_zero_iff.1 h⟩
  | succ n ih =>
    intro σ hcancelled htasks h
    have hexpire : σ.stir (.expire 0) =
        { σ with engine := { σ.engine with agenda := σ.engine.agenda.eraseIdx 0 } } := by
      simp [stir, hcancelled]
    obtain ⟨ms, hms⟩ := ih (σ.stir (.expire 0)) (by rw [hexpire]; exact hcancelled)
      (by rw [hexpire]; exact htasks) (by
        rw [hexpire]
        simp [h])
    exact ⟨.expire 0 :: ms, hms⟩

/-- A stop that waits can come to its end. -/
theorem exists_run_stopped {e₀ : Engine} {log : List Happening} {σ : Session}
    (h : Stands e₀ log σ σ.call) (hcall : σ.call = .waiting) :
    ∃ as : List Action, .stopped ∈ (σ.run as).1 := by
  have hcancelled : σ.cancelled = true := by
    cases h.at_call hcall with
    | waiting _ cancelled _ _ => exact cancelled
  obtain ⟨ms, hms⟩ := exists_stirs_tasks _ σ hcancelled rfl
  obtain ⟨hcall₁, hcancelled₁⟩ := stirs_keep ms σ
  obtain ⟨ms', hidle⟩ := exists_stirs_agenda _ _ (hcancelled₁.trans hcancelled) hms rfl
  obtain ⟨hcall₂, -⟩ := stirs_keep ms' (ms.foldl Session.stir σ)
  rw [← List.foldl_append] at hidle hcall₂
  -- nothing is left to wait for, so the close hooks run, and the stop returns
  generalize hρ : (ms ++ ms').foldl Session.stir σ = ρ at hidle hcall₂
  refine ⟨(ms ++ ms').map .stir ++
    .advance :: (List.replicate ρ.engine.stations.length (.close 0) ++ [.advance]), ?_⟩
  have hclosing := step_waiting (hcall₂.trans (hcall₁.trans hcall)) hidle
  rw [run_append, run_stirs, hρ, run, hclosing, run_append, run_closing ρ.engine.stations _ rfl]
  simp [run, step, advance]

end Session

/-! ## Engines of documents -/

namespace Engine

theorem agenda_of_build {w : Surroundings} {settings : EngineSettings} {d : Document} {e : Engine}
    (h : (build w settings d).1 = .ok e) : e.agenda = [] := by
  unfold build at h
  split at h
  · cases h
  · rename_i g _
    split at h
    · cases h
    · split at h
      · cases h
      · rename_i e' he
        cases h
        unfold ofGraph at he
        cases hinstances : instancesOf w g.nodes with
        | error fault => rw [hinstances] at he; cases he
        | ok instances =>
          rw [hinstances] at he
          obtain rfl := Except.ok.inj he
          rfl

/-- In every session of an engine that is built from a document, at every moment of it: the phase only
goes from built to running or stopped and from running to stopped; a start has succeeded once at most,
and one that does not find a built engine is refused and changes nothing; no start hook has run twice;
the engine is stopped exactly when a stop has returned. Then every close hook has run once; starts and
messages from outside are refused; nothing waits in a queue; and whatever comes, nothing changes any
more, so that no message is delivered or handed over and nothing made known. -/
theorem session_lifecycle {records : Json} {d : Document} {w : Surroundings}
    {settings : EngineSettings} {e : Engine} (hparse : Document.parse records = .ok d)
    (hbuild : (build w settings d).1 = .ok e) (actions : List Action) :
    let log := ((Session.opened e).run actions).1
    let now := ((Session.opened e).run actions).2
    (∀ a, (now.step a).2.engine.phase = now.engine.phase ∨
      now.engine.phase.Leads (now.step a).2.engine.phase) ∧
    (log.filter Happening.isStart).length ≤ 1 ∧
    (now.call = .none → now.engine.phase ≠ .built →
      now.step .start = ([.started (.error (.notStartable now.engine.phase))], now)) ∧
    (log.filterMap Happening.startHook?).Nodup ∧
    (now.engine.phase = .stopped ↔ .stopped ∈ log) ∧
    (.stopped ∈ log →
      (∀ id ∈ e.nodeIds, (log.filterMap Happening.closeHook?).count id = 1) ∧
      now.step .start = ([.started (.error (.notStartable .stopped))], now) ∧
      (∀ id msg, now.step (.inject id msg) = ([.injected id (.error .stopped)], now)) ∧
      now.engine.mail = [] ∧
      ∀ more, (now.run more).2 = now) := by
  intro log now
  have hfresh := build_fresh hparse hbuild
  have hids : e.nodeIds.Nodup := hfresh.wired.nodup
  have hbegun : Session.Begun e e.phase [] 0 := hfresh.phase ▸ .never
  have hstart : Session.Stands e [] (Session.opened e) .none :=
    .free hbegun (fun _ => ⟨rfl, agenda_of_build hbuild⟩) ⟨rfl, rfl, rfl⟩ (by simp)
  have hnow : Session.Stands e log now now.call :=
    Session.Stands.run actions (show (Session.opened e).engine.stations = e.stations from rfl) hstart
  refine ⟨now.step_phase, hnow.starts_le_one, fun hcall hphase => ?_, hnow.nodup_startHooks hids,
    hnow.stopped_iff, fun hover => ?_⟩
  · simp [Session.step, hcall, hphase]
  · have hphase := hnow.stopped_iff.2 hover
    generalize hc : now.call = c at hnow
    cases hnow with
    | @stopped _ _ closed _ _ _ hidle hmail hhooks htold _ =>
      refine ⟨fun id hid => ?_, ?_, fun id msg => ?_, hmail, Session.run_stopped hc hphase hidle⟩
      · rw [htold.closed, hhooks.count_eq, List.count_eq_one_of_mem hids hid]
      · simp [Session.step, hc, hphase]
      · exact Session.step_inject_of_stopped hc hphase id msg
    | free _ _ _ ahead => exact absurd hover ahead
    | spawning _ _ ahead => exact absurd hover ahead
    | starting _ _ _ ahead => exact absurd hover ahead
    | waiting _ _ _ ahead => exact absurd hover ahead
    | closing _ _ _ _ ahead => exact absurd hover ahead

/-- A message to the junction of the fork is on its way when the engine is stopped: the junction has
been at work on it and still sends one copy, the tasks end one after the other, and the nodes are
closed in another order than they were started. -/
theorem session_lifecycle_fork :
    let actions : List Action := [.inject ⟨2⟩ (.empty "a"), .start] ++ List.replicate 8 .advance ++
      [.stir (.take 2), .stir (.lock 2), .stop, .advance, .stir (.quit 1), .stir (.proceed 1),
       .stir (.quit 0), .stir (.quit 0), .advance, .close 1, .close 1, .close 0, .advance]
    let r := (Session.opened Fork.engine).run actions
    r.2.engine.phase = .stopped ∧ r.2.engine.events.length = 9 ∧
      (r.1.filterMap Happening.startHook?) = [⟨3⟩, ⟨4⟩, ⟨2⟩] ∧
      (r.1.filterMap Happening.closeHook?) = [⟨4⟩, ⟨2⟩, ⟨3⟩] ∧
      (r.2.run [.stop, .inject ⟨2⟩ (.empty "b"), .start, .stir (.take 0)]).2 = r.2 := by
  intro actions r
  have hphase : r.2.engine.phase = .stopped := by decide +kernel
  obtain ⟨-, -, -, -, hstopped, hover⟩ :=
    session_lifecycle Fork.parse_records Fork.build_document actions
  refine ⟨hphase, by decide +kernel, by decide +kernel, by decide +kernel, ?_⟩
  exact (hover (hstopped.1 hphase)).2.2.2.2 _

end Engine

end Wireflow
