/-
Change, switch and inject nodes use the context data of their own flow and the global data alone.
Whatever their configuration says, whatever message they get and however they end, they leave all
other scopes as they are; and what other scopes hold changes nothing of what they do. The scope of
every reference is taken from the identity of the node, so each step of a node, a value that is read or
a target that is written, stays within the two scopes, and a run of steps does so too, also one that
stops halfway.
-/
import Wireflow.Proofs.Context.Directories
import Wireflow.Proofs.Node.Making

namespace Wireflow

theorem ContextKind.seenFrom (i : Identity) (kind : ContextKind) :
    (kind.scope i).SeenFrom i.flow.id := by
  cases kind with
  | flow => exact .inl rfl
  | global => exact .inr rfl

/-- How steps on a message end, and the message and the context data that they leave. -/
abbrev Course := Except NodeFault Unit × Message × Contexts

/-- The courses that the same steps take from two contexts end alike, leave the same message, and make
the same changes in scopes that a flow sees. -/
structure SameCourse (flow : Identifier) (c c' : Contexts) (r r' : Course) : Prop where
  outcome : r'.1 = r.1
  message : r'.2.1 = r.2.1
  changes : Contexts.SameChanges flow c c' r.2.2 r'.2.2

/-- What is the same from where some changes have led is the same from the start. -/
theorem SameCourse.after {flow : Identifier} {c c' d d' : Contexts} {r r' : Course}
    (hr : SameCourse flow d d' r r') (h : Contexts.SameChanges flow c c' d d') :
    SameCourse flow c c' r r' :=
  ⟨hr.outcome, hr.message, h.trans hr.changes⟩

section

variable {s : Setting} {c' : Contexts} (h : s.contexts.Agree s.identity.flow.id c')
include h

/-! ## What is read -/

theorem ContextRef.get?_agree (r : ContextRef) (m : Option Message) :
    r.get? { s with contexts := c' } m = r.get? s m :=
  h.get? (r.kind.seenFrom s.identity) r.key m

theorem Property.evaluate?_agree (p : Property) (m : Option Message) :
    p.evaluate? { s with contexts := c' } m = p.evaluate? s m := by
  cases p with
  | context r => exact r.get?_agree h m
  | _ => rfl

theorem Target.get?_agree (t : Target) (msg : Message) :
    t.get? { s with contexts := c' } msg = t.get? s msg := by
  cases t with
  | message path => rfl
  | context r => exact r.get?_agree h (some msg)

/-! ## What is written -/

/-- Steps that leave the context data alone take the same course when they end alike. -/
theorem SameCourse.still (outcome : Except NodeFault Unit) (msg : Message) :
    SameCourse s.identity.flow.id s.contexts c' (outcome, msg, s.contexts) (outcome, msg, c') :=
  ⟨rfl, rfl, .refl h⟩

theorem Target.set_agree (t : Target) (msg : Message) (v : Option Value) :
    SameCourse s.identity.flow.id s.contexts c' (t.set s msg v)
      (t.set { s with contexts := c' } msg v) := by
  cases t with
  | message path => cases v <;> exact .still h _ _
  | context r =>
    unfold Target.set ContextRef.set
    rcases h.set (r.kind.seenFrom s.identity) r.key (some msg) v with
      ⟨fault, hset, hset'⟩ | ⟨d, d', hset, hset', hchanges⟩
    · simp only [hset, hset']
      exact .still h _ _
    · simp only [hset, hset']
      exact ⟨rfl, rfl, hchanges⟩

/-! ## Nodes -/

theorem ChangeRule.apply_agree (r : ChangeRule) (msg : Message) :
    SameCourse s.identity.flow.id s.contexts c' (r.apply s msg)
      (r.apply { s with contexts := c' } msg) := by
  cases r with
  | set target value =>
    unfold apply
    dsimp only
    rw [value.evaluate?_agree h]
    exact target.set_agree h msg _
  | delete target => exact target.set_agree h msg none
  | move source destination =>
    unfold apply
    dsimp only
    split
    · exact .still h _ _
    · rw [source.get?_agree h]
      split
      · exact .still h _ _
      · rename_i v _
        -- the destination is written to in contexts that agree after the source has been removed
        obtain ⟨hend, hmsg, hchanges⟩ := source.set_agree h msg none
        revert hend hmsg hchanges
        rcases source.set s msg none with ⟨outcome, msg₁, d⟩
        rcases source.set { s with contexts := c' } msg none with ⟨outcome', msg', d'⟩
        rintro ⟨rfl⟩ ⟨rfl⟩ hchanges
        cases outcome with
        | error fault => exact ⟨rfl, rfl, hchanges⟩
        | ok _ =>
          have hdestination :=
            destination.set_agree (s := { s with contexts := d }) hchanges.1 msg₁ (some v)
          exact hdestination.after hchanges

end

/-- By induction on the rules: each is applied in contexts that agree, and the first that fails ends
both runs. -/
theorem ChangeRule.applyAll_agree (rules : List ChangeRule) :
    ∀ {s : Setting} {c' : Contexts} (msg : Message), s.contexts.Agree s.identity.flow.id c' →
      SameCourse s.identity.flow.id s.contexts c' (applyAll s msg rules)
        (applyAll { s with contexts := c' } msg rules) := by
  induction rules with
  | nil => exact fun msg h => .still h _ msg
  | cons r rest ih =>
    intro s c' msg h
    -- both runs have come to the same end of the first rule, with the same message
    obtain ⟨hend, hmsg, hchanges⟩ := r.apply_agree h msg
    unfold applyAll
    revert hend hmsg hchanges
    rcases r.apply s msg with ⟨outcome, msg₁, d⟩
    rcases r.apply { s with contexts := c' } msg with ⟨outcome', msg', d'⟩
    rintro ⟨rfl⟩ ⟨rfl⟩ hchanges
    cases outcome with
    | error fault => exact ⟨rfl, rfl, hchanges⟩
    | ok _ => exact (ih (s := { s with contexts := d }) msg₁ hchanges.1).after hchanges

/-- A node does the same with a message in settings whose contexts agree: it has the same effects, ends
in the same way, and makes the same changes in scopes that its flow sees. -/
def Node.KeepsToFlow (node : Node) : Prop :=
  ∀ (s : Setting) (c' : Contexts) (msg : Message), s.contexts.Agree s.identity.flow.id c' →
    (node.receive { s with contexts := c' } msg).effects = (node.receive s msg).effects ∧
      (node.receive { s with contexts := c' } msg).outcome = (node.receive s msg).outcome ∧
      Contexts.SameChanges s.identity.flow.id s.contexts c' (node.receive s msg).contexts
        (node.receive { s with contexts := c' } msg).contexts

namespace Node

theorem keepsToFlow_change (rules : List ChangeRule) : (change rules).KeepsToFlow := by
  intro s c' msg h
  obtain ⟨hend, hmsg, hchanges⟩ := ChangeRule.applyAll_agree rules msg h
  have hreceive (s : Setting) : (change rules).receive s msg = changeReaction rules s msg := rfl
  rw [hreceive, hreceive]
  unfold changeReaction
  revert hend hmsg hchanges
  rcases ChangeRule.applyAll s msg rules with ⟨outcome, msg₁, d⟩
  rcases ChangeRule.applyAll { s with contexts := c' } msg rules with ⟨outcome', msg', d'⟩
  rintro ⟨rfl⟩ ⟨rfl⟩ hchanges
  cases outcome with
  | error fault => exact ⟨rfl, rfl, hchanges⟩
  | ok _ => exact ⟨rfl, rfl, hchanges⟩

theorem keepsToFlow_switch (w : Switch) : (switch w).KeepsToFlow := by
  intro s c' msg h
  have hroute : w.route { s with contexts := c' } msg = w.route s msg :=
    Switch.route_congr (w.property.evaluate?_agree h _) fun _ _ p _ => p.evaluate?_agree h _
  have hreceive (s : Setting) : (switch w).receive s msg =
      .quiet s ((w.route s msg).map fun port => .send port msg) := rfl
  rw [hreceive, hreceive, hroute]
  exact ⟨rfl, rfl, .refl h⟩

theorem keepsToFlow_inject (fillings : List Filling) (timing : Timing) :
    (inject fillings timing).KeepsToFlow := by
  intro s c' msg h
  have hfill : Filling.fill { s with contexts := c' } msg fillings = Filling.fill s msg fillings :=
    Filling.fill_congr fillings (fun f _ => f.value.evaluate?_agree h) msg
  have hreceive (s : Setting) : (inject fillings timing).receive s msg =
      injectReaction fillings s msg := rfl
  rw [hreceive, hreceive]
  unfold injectReaction
  rw [hfill]
  exact ⟨rfl, rfl, .refl h⟩

/-- Whatever a change, switch or inject node is configured to do, it leaves every scope but that of its
flow and the global one as it is in every store, however it ends. With contexts that agree in these two
scopes it has the same effects, ends in the same way, and makes the same changes, after which the
contexts still agree. Contexts that calls have reached from the same opened stores agree when they have
the same entries in the two scopes. -/
theorem receive_within_flow {now : Double} {n : NodeDefinition} {node : Node}
    (hnode : changeOf now n = .ok node ∨ switchOf now n = .ok node ∨ injectOf now n = .ok node)
    (s : Setting) (msg : Message) :
    (∀ name scope, scope ≠ .flow s.identity.flow.id → scope ≠ .global →
      ((node.receive s msg).contexts.store name).entries scope =
        (s.contexts.store name).entries scope) ∧
    (∀ c', s.contexts.Agree s.identity.flow.id c' →
      (node.receive { s with contexts := c' } msg).effects = (node.receive s msg).effects ∧
      (node.receive { s with contexts := c' } msg).outcome = (node.receive s msg).outcome ∧
      (node.receive s msg).contexts.Agree s.identity.flow.id
        (node.receive { s with contexts := c' } msg).contexts ∧
      ∃ changes : List ContextChange,
        (∀ x ∈ changes, x.scope = .flow s.identity.flow.id ∨ x.scope = .global) ∧
        (node.receive s msg).contexts = s.contexts.amendAll changes ∧
        (node.receive { s with contexts := c' } msg).contexts = c'.amendAll changes) ∧
    ∀ settings disk disk' c xs ys, Contexts.ofSettings settings disk = (.ok c, disk') →
      s.contexts = (c.calls xs).2 →
      (∀ name scope, scope = .flow s.identity.flow.id ∨ scope = .global →
        ((c.calls ys).2.store name).entries scope = (s.contexts.store name).entries scope) →
      s.contexts.Agree s.identity.flow.id (c.calls ys).2 := by
  have hkeeps : node.KeepsToFlow := by
    rcases hnode with h | h | h
    · obtain ⟨-, -, rules, -, -, -, rfl⟩ := changeOf_eq_ok h
      exact keepsToFlow_change rules
    · obtain ⟨-, -, -, -, -, -, rfl⟩ := switchOf_eq_ok h
      exact keepsToFlow_switch _
    · obtain ⟨-, fillings, timing, -, -, -, rfl⟩ := injectOf_eq_ok h
      exact keepsToFlow_inject fillings timing
  refine ⟨fun name scope hflow hglobal => ?_, fun c' h => hkeeps s c' msg h, ?_⟩
  · -- a run beside itself makes changes in scopes that are seen
    have hchanges := (hkeeps s s.contexts msg (.refl _ _)).2.2
    exact hchanges.entries_eq (fun hseen => hseen.elim hflow hglobal) name
  · intro settings disk disk' c xs ys hopen hreached hentries
    rw [hreached] at hentries ⊢
    exact (Contexts.agree_calls_iff (Contexts.rooted_ofSettings hopen) xs ys).2 hentries

namespace Halfway

/-- A change node that keeps the payload in the data of its flow, and then writes below it. -/
def record : NodeDefinition :=
  { id := ⟨16⟩, type := "change", flow := ⟨1⟩, group := none, name := "", wires := [],
    disabled := false
    config := [("rules", .array
      [.object [("p", .string "seen"), ("pt", .string "flow"), ("t", .string "set"),
         ("to", .string "payload"), ("tot", .string "msg")],
       .object [("p", .string "seen.deep"), ("pt", .string "flow"), ("t", .string "set"),
         ("to", .string "x")]])] }

/-- The node in its flow, with the stores as they are made. -/
def setting : Setting where
  identity :=
    { id := ⟨16⟩, name := "", type := "change", flow := { id := ⟨1⟩, label := "", env := [] },
      groups := [] }
  process := []
  contexts := .inMemory Disk.empty
  now := Double.zero

/-- A write of another flow. -/
def write : ContextCall :=
  .set (.flow ⟨2⟩) { store := none, path := { source := "own", segments := [.name "own"] } } none
    (some (.string "kept"))

/-- The stores after the write. -/
def written : Contexts := (setting.contexts.calls [write]).2

/-- The message. -/
def message : Message := ⟨[("payload", .string "hello")]⟩

theorem ofSettings_plain :
    Contexts.ofSettings .plain Disk.empty = (.ok setting.contexts, Disk.empty) := by cbv

theorem written_eq :
    written = setting.contexts.amend ⟨none, .flow ⟨2⟩, [("own", .string "kept")]⟩ := by cbv

/-- The flow of the node does not see the write. -/
theorem entries_written (name : Option String) {scope : Scope}
    (hscope : scope = .flow setting.identity.flow.id ∨ scope = .global) :
    (written.store name).entries scope = (setting.contexts.store name).entries scope := by
  rw [written_eq, Contexts.entries_amend_of_ne]
  rintro rfl
  rcases hscope with h | h <;> cases h

end Halfway

/-- The second rule fails, so the message goes no further, but what the first rule has kept stays kept.
It is the same after another flow has written, whose own data stay as they were. -/
theorem receive_within_flow_halfway :
    ∃ node fault, changeOf Double.zero Halfway.record = .ok node ∧
      let reaction :=
        node.receive { Halfway.setting with contexts := Halfway.written } Halfway.message
      reaction.outcome = .error fault ∧ reaction.effects = [] ∧
      (reaction.contexts.store none).entries (.flow ⟨1⟩) = [("seen", .string "hello")] ∧
      (reaction.contexts.store none).entries (.flow ⟨2⟩) = [("own", .string "kept")] := by
  obtain ⟨node, fault, hnode, houtcome, heffects, hseen⟩ :
      ∃ node fault, changeOf Double.zero Halfway.record = .ok node ∧
        (node.receive Halfway.setting Halfway.message).outcome = .error fault ∧
        (node.receive Halfway.setting Halfway.message).effects = [] ∧
        ((node.receive Halfway.setting Halfway.message).contexts.store none).entries (.flow ⟨1⟩) =
          [("seen", .string "hello")] := ⟨_, _, by cbv, by cbv, by cbv, by cbv⟩
  obtain ⟨-, hsame, hreached⟩ :=
    receive_within_flow (.inl hnode) Halfway.setting Halfway.message
  obtain ⟨heffects', houtcome', hagree, -⟩ :=
    hsame _ (hreached _ _ _ _ [] [Halfway.write] Halfway.ofSettings_plain rfl
      fun name _ => Halfway.entries_written name)
  have hframe := (receive_within_flow (.inl hnode)
    { Halfway.setting with contexts := Halfway.written } Halfway.message).1
  refine ⟨node, fault, hnode, houtcome'.trans houtcome, heffects'.trans heffects, ?_, ?_⟩
  · exact (hagree.entries none _ (.inl rfl)).trans hseen
  · rw [hframe none (.flow ⟨2⟩) (by decide) (by decide), Halfway.written_eq]
    cbv

end Node

end Wireflow
