/-
Schedules do not matter to plain nodes. In a running engine all of whose nodes are plain, a letter
calls for the same letters, outputs and failures whenever it is handled; so the letters form a forest
that no schedule changes. Two schedules that go on as long as something waits come to an end after
the same number of steps, with the same outputs of each node and the same failures up to order.
-/
import Wireflow.Engine.Run
import Wireflow.Proofs.Engine.Delivery
import Wireflow.Proofs.Engine.Drains
import Wireflow.Proofs.Node.Plain
import Mathlib.Algebra.Group.Prod

namespace Wireflow.Engine

/-! ## Schedules -/

/-- Nothing waits for any node. -/
def Idle (e : Engine) : Prop := ∀ id, e.queue id = []

/-- What comes next at each step: the time that has passed by then, and the node that handles the
oldest message of its queue. -/
abbrev Schedule := ℕ → ℕ × Identifier

/-- The engine after some steps of a schedule. -/
def after (e : Engine) (σ : Schedule) : ℕ → Engine
  | 0 => e
  | n + 1 => ((e.after σ n).forwardTo (σ n).1).handle (σ n).2

/-- As long as something waits, it is the turn of a node that something waits for. -/
def Follows (e : Engine) (σ : Schedule) : Prop :=
  ∀ n, ¬(e.after σ n).Idle → (e.after σ n).queue (σ n).2 ≠ []

/-- What a node hands over to whoever collects the output when it is its turn. -/
def observations (e : Engine) (id : Identifier) : List Message :=
  match e.turn? id with
  | some (s, msg, _) => (e.react s msg).effects.flatMap Effect.observed
  | none => []

/-- What has been handed over after some steps of a schedule, and by whom. -/
def outputLog (e : Engine) (σ : Schedule) : ℕ → List (Identifier × Message)
  | 0 => []
  | n + 1 => e.outputLog σ n ++
    (((e.after σ n).forwardTo (σ n).1).observations (σ n).2).map fun msg => ((σ n).2, msg)

/-- What one node has handed over. -/
def handedOver (e : Engine) (σ : Schedule) (n : ℕ) (id : Identifier) : List Message :=
  ((e.outputLog σ n).filter fun o => o.1 == id).map (·.2)

/-- Puts messages from outside into the queues of nodes, one after the other. -/
def injectAll (e : Engine) (injections : List (Identifier × Message)) : Engine :=
  injections.foldl (fun e i => (e.inject i.1 i.2).2) e

theorem idle_iff {e : Engine} : e.Idle ↔ e.mail = [] := by
  constructor
  · intro h
    by_contra hmail
    obtain ⟨l, rest, hl⟩ := List.exists_cons_of_ne_nil hmail
    have hqueue := h l.target
    rw [queue_eq, hl, queueOf_cons, if_pos rfl] at hqueue
    cases hqueue
  · intro h id
    rw [queue_eq, h]
    rfl

/-! ## What a letter calls for -/

/-- What the node of a letter does with it, and how it ends. -/
def answer (e : Engine) (l : Letter) : List Effect × Except NodeFault Unit :=
  match e.station? l.target with
  | some s => ((e.react s l.msg).effects, (e.react s l.msg).outcome)
  | none => ([], .ok ())

/-- The letters that a letter calls for. -/
def lettersOf (e : Engine) (l : Letter) : Multiset Letter :=
  ((e.answer l).1.flatMap (Effect.letters e.targets l.target) : List Letter)

/-- The outputs and the failures that a letter yields. -/
def yieldOf (e : Engine) (l : Letter) : Multiset (Identifier × Message) × Multiset Event :=
  ((((e.answer l).1.flatMap Effect.observed).map fun msg => (l.target, msg) :
      List (Identifier × Message)),
    (failuresOf l.target (e.answer l).2 : List Event))

/-- A running engine that has the nodes of another one, and letters to these only. -/
structure Continues (e₀ e : Engine) : Prop where
  stations : e.stations = e₀.stations
  process : e.process = e₀.process
  phase : e.phase = .running
  known : ∀ l ∈ e.mail, l.target ∈ e₀.nodeIds

variable {e₀ e : Engine}

/-- A node without letters does nothing. -/
theorem handle_idle (h : e.mail = []) (id : Identifier) :
    e.handle id = e ∧ e.observations id = [] := by
  have hturn : e.turn? id = none := by
    cases hturn : e.turn? id with
    | none => rfl
    | some turn =>
      obtain ⟨s, msg, others⟩ := turn
      obtain ⟨-, -, hletter⟩ := turn?_eq_some_iff.1 hturn
      rw [h] at hletter
      cases hletter
  unfold handle observations
  rw [hturn]
  exact ⟨rfl, rfl⟩

/-- To handle a message is to take a letter out and to add what it calls for. What it calls for and
what it yields is the same as it was at the beginning. -/
theorem handle_plain (hwired : Wired e₀.stations) (hplain : ∀ s ∈ e₀.stations, s.node.Plain)
    (h : Continues e₀ e) {id : Identifier} (hqueue : e.queue id ≠ []) :
    ∃ (l : Letter) (others : Multiset Letter), (e.mail : Multiset Letter) = l ::ₘ others ∧
      ((e.handle id).mail : Multiset Letter) = others + e₀.lettersOf l ∧
      (((e.observations id).map fun msg => (id, msg) : List (Identifier × Message)) :
        Multiset (Identifier × Message)) = (e₀.yieldOf l).1 ∧
      ((e.handle id).events.filter Event.isFailed : Multiset Event) =
        (e.events.filter Event.isFailed : Multiset Event) + (e₀.yieldOf l).2 ∧
      (e.handle id).outputs = e.outputs ++ e.observations id ∧
      Continues e₀ (e.handle id) := by
  have hw : Wired e.stations := h.stations ▸ hwired
  have hids : e.nodeIds = e₀.nodeIds := by unfold nodeIds; rw [h.stations]
  have htargets : e.targets = e₀.targets := targets_congr h.stations
  have hid : id ∈ e₀.nodeIds := mem_of_queueOf_ne_nil h.known hqueue
  obtain ⟨msg, waiting, hhead⟩ := List.exists_cons_of_ne_nil hqueue
  obtain ⟨s, others, hturn⟩ := exists_turn? h.phase (hids ▸ hid) hhead
  obtain ⟨-, hs, hletter⟩ := turn?_eq_some_iff.1 hturn
  obtain ⟨before, after, hmail, -, rfl⟩ := takeLetter?_eq_some_iff.1 hletter
  have hanswer : e₀.answer { target := id, msg } =
      ((e.react s msg).effects, (e.react s msg).outcome) := by
    have hs₀ : e₀.station? id = some s := by
      unfold station? at hs ⊢
      rw [← h.stations]
      exact hs
    have halike : (e₀.setting s).Alike (e.setting s) := ⟨rfl, h.process⟩
    -- a plain node reads neither the clock nor the contexts, which is all that has changed
    obtain ⟨heffects, hend⟩ := (hplain s (mem_of_station? hs₀).1).receive_alike halike msg
    unfold answer
    rw [hs₀]
    exact Prod.ext heffects.symm hend.symm
  have hstep := handle_advances hw hturn
  rw [htargets] at hstep
  have hobserved : e.observations id = (e.react s msg).effects.flatMap Effect.observed := by
    unfold observations
    rw [hturn]
  refine ⟨{ target := id, msg }, (before ++ after : List Letter), ?_, ?_, ?_, ?_, ?_, ?_⟩
  · rw [hmail]
    exact Multiset.coe_eq_coe.2 List.perm_middle
  · rw [hstep.mail]
    unfold lettersOf
    rw [hanswer]
    rfl
  · unfold yieldOf
    rw [hanswer, hobserved]
  · rw [hstep.failures]
    unfold yieldOf
    rw [hanswer]
    rfl
  · rw [hstep.outputs, hobserved]
  · refine ⟨hstep.stations.trans h.stations, hstep.process.trans h.process,
      hstep.phase.trans h.phase, fun l hl => ?_⟩
    rw [hstep.mail] at hl
    rcases List.mem_append.1 hl with hl | hl
    · refine h.known l ?_
      rw [hmail]
      exact (List.perm_middle.mem_iff).2 (List.mem_cons_of_mem _ hl)
    · obtain ⟨effect, -, hl⟩ := List.mem_flatMap.1 hl
      exact target_of_mem_letters hwired hl

/-- Time that passes leaves the letters and all that is known as they are. -/
theorem Continues.forwardTo (h : Continues e₀ e) (time : ℕ) : Continues e₀ (e.forwardTo time) :=
  ⟨h.stations, h.process, h.phase, h.known⟩

/-- A schedule keeps an engine running with the same nodes. -/
theorem continues_after (hwired : Wired e₀.stations) (hplain : ∀ s ∈ e₀.stations, s.node.Plain)
    (h : Continues e₀ e₀) {σ : Schedule} (hσ : e₀.Follows σ) (n : ℕ) :
    Continues e₀ (e₀.after σ n) ∧
      (e₀.after σ n).outputs = e₀.outputs ++ (e₀.outputLog σ n).map (·.2) := by
  induction n with
  | zero => exact ⟨h, (List.append_nil _).symm⟩
  | succ n ih =>
    obtain ⟨hn, houtputs⟩ := ih
    have hlater := hn.forwardTo (σ n).1
    unfold after outputLog
    by_cases hidle : (e₀.after σ n).Idle
    · have hmail : ((e₀.after σ n).forwardTo (σ n).1).mail = [] := idle_iff.1 hidle
      obtain ⟨hsame, hnothing⟩ := handle_idle hmail (σ n).2
      rw [hsame, hnothing]
      refine ⟨hlater, ?_⟩
      rw [List.map_nil, List.append_nil]
      exact houtputs
    · obtain ⟨l, others, -, -, -, -, hout, hnext⟩ := handle_plain hwired hplain hlater (hσ n hidle)
      refine ⟨hnext, ?_⟩
      rw [hout, List.map_append, List.map_map, ← List.append_assoc, ← houtputs]
      simp [forwardTo, Function.comp_def]

/-- A schedule of plain nodes treats one letter after the other. -/
theorem run_of_follows (hwired : Wired e₀.stations) (hplain : ∀ s ∈ e₀.stations, s.node.Plain)
    (h : Continues e₀ e₀) {σ : Schedule} (hσ : e₀.Follows σ) :
    Drains.Run e₀.lettersOf e₀.yieldOf (fun n => ((e₀.after σ n).mail : Multiset Letter))
      (fun n => ((e₀.outputLog σ n : Multiset (Identifier × Message)),
        ((e₀.after σ n).events.filter Event.isFailed : Multiset Event))) where
  idle := by
    intro n hmail
    have hmail : ((e₀.after σ n).forwardTo (σ n).1).mail = [] := (Multiset.coe_eq_zero _).1 hmail
    obtain ⟨hsame, hnothing⟩ := handle_idle hmail (σ n).2
    simp only [after, outputLog, hsame, hnothing, List.map_nil, List.append_nil]
    exact ⟨(Multiset.coe_eq_zero _).2 hmail, rfl⟩
  busy := by
    intro n hmail
    have hbusy : ¬(e₀.after σ n).Idle := fun hidle => hmail ((Multiset.coe_eq_zero _).2 (idle_iff.1 hidle))
    have hlater := (continues_after hwired hplain h hσ n).1.forwardTo (σ n).1
    obtain ⟨l, others, htaken, hmore, hlog, hfailures, -, -⟩ :=
      handle_plain hwired hplain hlater (hσ n hbusy)
    refine ⟨l, others, htaken, hmore, Prod.ext ?_ hfailures⟩
    rw [Prod.fst_add, ← hlog]
    rfl

/-- Two schedules come to an end together, with the same outputs and failures up to order. -/
theorem agree_of_follows (hwired : Wired e₀.stations) (hplain : ∀ s ∈ e₀.stations, s.node.Plain)
    (h : Continues e₀ e₀) {σ τ : Schedule} (hσ : e₀.Follows σ) (hτ : e₀.Follows τ) {n : ℕ}
    (hn : (e₀.after σ n).Idle) :
    (e₀.after τ n).Idle ∧ (e₀.outputLog σ n).Perm (e₀.outputLog τ n) ∧
      ((e₀.after σ n).events.filter Event.isFailed).Perm
        ((e₀.after τ n).events.filter Event.isFailed) := by
  have hmail := (Multiset.coe_eq_zero _).2 (idle_iff.1 hn)
  obtain ⟨hend, htotal⟩ := (run_of_follows hwired hplain h hσ).agree
    (run_of_follows hwired hplain h hτ) rfl rfl hmail
  obtain ⟨hlog, hfailures⟩ := Prod.ext_iff.1 htotal
  exact ⟨idle_iff.2 ((Multiset.coe_eq_zero _).1 hend), (Multiset.coe_eq_coe.1 hlog).symm,
    (Multiset.coe_eq_coe.1 hfailures).symm⟩

/-- A schedule that comes to an end has to be looked at no further. -/
theorem follows_of_idle {σ : Schedule} {n : ℕ} (hn : (e.after σ n).Idle)
    (h : ∀ m < n, (e.after σ m).queue (σ m).2 ≠ []) : e.Follows σ := by
  intro m hm
  by_cases hmn : m < n
  · exact h m hmn
  · refine absurd ?_ hm
    clear hm
    induction Nat.le_of_not_lt hmn with
    | refl => exact hn
    | step hle ih =>
      rename_i k
      have hmail : ((e.after σ k).forwardTo (σ k).1).mail = [] :=
        idle_iff.1 (ih (Nat.not_lt.2 hle))
      unfold after
      rw [(handle_idle hmail (σ k).2).1]
      exact idle_iff.2 hmail

/-! ## Engines of documents -/

theorem injectAll_keeps (injections : List (Identifier × Message)) :
    ∀ e : Engine, (∀ l ∈ e.mail, l.target ∈ e.nodeIds) →
      (e.injectAll injections).stations = e.stations ∧
        (e.injectAll injections).phase = e.phase ∧
        ∀ l ∈ (e.injectAll injections).mail, l.target ∈ e.nodeIds := by
  induction injections with
  | nil => exact fun e hknown => ⟨rfl, rfl, hknown⟩
  | cons i rest ih =>
    intro e hknown
    unfold injectAll
    rw [List.foldl_cons]
    cases hinject : e.inject i.1 i.2 with
    | mk r e' =>
      cases r with
      | error fault =>
        obtain rfl := inject_eq_error hinject
        exact ih e' hknown
      | ok _ =>
        obtain ⟨htarget, rfl⟩ := inject_eq_ok hinject
        refine ih { e with mail := e.mail ++ [{ target := i.1, msg := i.2 }] } fun l hl => ?_
        rcases List.mem_append.1 hl with hl | hl
        · exact hknown l hl
        · rw [List.mem_singleton.1 hl]
          exact htarget

/-- An engine of standard node types has plain nodes only when no record of a node that takes part names
the type of the date or one of context data, and no node has timers. -/
theorem plain_of_build {records : Json} {d : Document} {w : Surroundings}
    {settings : EngineSettings} {e : Engine} (hparse : Document.parse records = .ok d)
    (hbuild : (build w settings d).1 = .ok e) (hregistry : w.registry = .standard)
    (hwords : ∀ n ∈ d.nodes, Graph.isActive d n = true →
      ∀ word ∈ n.typeWords, word ∉ PropertyType.unsteadyWords)
    (htimers : ∀ s ∈ e.stations, s.node.timers = []) : ∀ s ∈ e.stations, s.node.Plain := by
  intro s hs
  obtain ⟨n, hn, hactive, -, hmake, -⟩ := (build_fresh hparse hbuild).makes s hs
  rw [hregistry] at hmake
  exact Node.plain_of_make hmake (hwords n hn hactive) (htimers s hs)

/-- The schedule of an engine that is built from a document, has plain nodes only, and has been
started with any messages from outside before and after its start, does not matter. When nothing
waits any more after some steps of one schedule, nothing waits after as many steps of the other, and
every node has handed over the same messages, and the same failures are known, up to their order. -/
theorem schedules_agree {records : Json} {d : Document} {w : Surroundings}
    {settings : EngineSettings} {e : Engine} (hparse : Document.parse records = .ok d)
    (hbuild : (build w settings d).1 = .ok e) (hplain : ∀ s ∈ e.stations, s.node.Plain)
    (early late : List (Identifier × Message)) :
    let running := ((e.injectAll early).start.2).injectAll late
    ∀ σ τ : Schedule, running.Follows σ → running.Follows τ →
      ∀ n, ((running.after σ n).Idle ↔ (running.after τ n).Idle) ∧
        ((running.after σ n).Idle →
          (∀ id, (running.handedOver σ n id).Perm (running.handedOver τ n id)) ∧
          (running.after σ n).outputs.Perm (running.after τ n).outputs ∧
          ((running.after σ n).events.filter Event.isFailed).Perm
            ((running.after τ n).events.filter Event.isFailed)) := by
  intro running σ τ hσ hτ n
  have hfresh := build_fresh hparse hbuild
  -- injections and the start keep the nodes, and letters go to nodes only
  obtain ⟨hstations₁, hphase₁, hknown₁⟩ := injectAll_keeps early e (by simp [hfresh.mail])
  obtain ⟨hstations₂, hphase₂, hknown₂⟩ := injectAll_keeps late (e.injectAll early).start.2 (by
    intro l hl
    have htarget := hknown₁ l (mem_mail_start hl)
    unfold nodeIds at htarget ⊢
    rwa [start_keeps (e.injectAll early) |>.1, hstations₁])
  have hstations : running.stations = e.stations :=
    hstations₂.trans ((start_keeps (e.injectAll early)).1.trans hstations₁)
  have hwired : Wired running.stations := hstations ▸ hfresh.wired
  have hplain' : ∀ s ∈ running.stations, s.node.Plain := hstations ▸ hplain
  have hrunning : Continues running running := by
    refine ⟨rfl, rfl, hphase₂.trans (phase_start (hphase₁.trans hfresh.phase)), fun l hl => ?_⟩
    have htarget := hknown₂ l hl
    unfold nodeIds at htarget ⊢
    rwa [hstations₂]
  refine ⟨⟨fun hn => ?_, fun hn => ?_⟩, fun hn => ?_⟩
  · exact (agree_of_follows hwired hplain' hrunning hσ hτ hn).1
  · exact (agree_of_follows hwired hplain' hrunning hτ hσ hn).1
  · obtain ⟨-, hlog, hfailures⟩ := agree_of_follows hwired hplain' hrunning hσ hτ hn
    refine ⟨fun id => (hlog.filter _).map _, ?_, hfailures⟩
    rw [(continues_after hwired hplain' hrunning hσ n).2,
      (continues_after hwired hplain' hrunning hτ n).2]
    exact (hlog.map _).append_left _

/-- A message to the junction of the fork: whichever of the two sinks comes first, both have handed
it over after three steps. -/
theorem schedules_agree_fork :
    let running := ((Fork.engine.injectAll [(⟨2⟩, .empty "a")]).start.2).injectAll []
    let σ : Schedule := fun n => (0, [⟨2⟩, ⟨3⟩, ⟨4⟩].getD n ⟨2⟩)
    let τ : Schedule := fun n => (n, [⟨2⟩, ⟨4⟩, ⟨3⟩].getD n ⟨2⟩)
    running.Follows σ ∧ running.Follows τ ∧ (running.after σ 3).Idle ∧ (running.after τ 3).Idle ∧
      (∀ id, (running.handedOver σ 3 id).Perm (running.handedOver τ 3 id)) ∧
      (running.handedOver σ 3 ⟨3⟩).length = 1 := by
  intro running σ τ
  have hσ₃ : (running.after σ 3).Idle :=
    idle_iff.2 (List.length_eq_zero_iff.1 (by decide +kernel))
  have hτ₃ : (running.after τ 3).Idle :=
    idle_iff.2 (List.length_eq_zero_iff.1 (by decide +kernel))
  have hσ : running.Follows σ := follows_of_idle hσ₃ fun m hm => List.ne_nil_of_length_pos <|
    (by decide +kernel : ∀ m < 3, 0 < ((running.after σ m).queue (σ m).2).length) m hm
  have hτ : running.Follows τ := follows_of_idle hτ₃ fun m hm => List.ne_nil_of_length_pos <|
    (by decide +kernel : ∀ m < 3, 0 < ((running.after τ m).queue (τ m).2).length) m hm
  have hplain : ∀ s ∈ Fork.engine.stations, s.node.Plain := by
    refine plain_of_build Fork.parse_records Fork.build_document rfl ?_ ?_
    · decide +kernel
    · simp only [Fork.engine, List.forall_mem_cons]
      exact ⟨rfl, rfl, rfl, List.forall_mem_nil _⟩
  have hagree := schedules_agree Fork.parse_records Fork.build_document hplain [(⟨2⟩, .empty "a")]
    [] σ τ hσ hτ 3
  exact ⟨hσ, hτ, hσ₃, hagree.1.1 hσ₃, (hagree.2 hσ₃).1, by decide +kernel⟩

end Wireflow.Engine
