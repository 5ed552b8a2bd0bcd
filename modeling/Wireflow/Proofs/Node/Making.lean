/-
How nodes are made. A record is made into one of five kinds of nodes, with the rules or fillings of the
configuration that is read from it; each of them comes from its own written form, and what a rule of a
switch compares with is compiled with the word for a type that stands there, or with that of a literal.
-/
import Wireflow.Node.Registry
import Wireflow.Proofs.Node.Evaluation
import Wireflow.Proofs.Table

namespace Wireflow

/-! ## Lists up to the first fault -/

theorem map_eq_ok_iff {f : α → β} {x : Except ε α} {b : β} :
    x.map f = .ok b ↔ ∃ a, x = .ok a ∧ f a = b := by
  cases x <;> simp [Except.map]

/-- Whatever comes out of a loop that compiles the items of a list up to the first one that is refused
is compiled from an item. -/
theorem exists_of_loop (f : α → Except ε β) (loop : List α → Except ε (List β))
    (hnil : loop [] = .ok [])
    (hcons : ∀ a rest, loop (a :: rest) = (f a).bind fun b => (loop rest).map (b :: ·))
    {as : List α} : ∀ {bs : List β}, loop as = .ok bs → ∀ b ∈ bs, ∃ a ∈ as, f a = .ok b := by
  induction as with
  | nil =>
    intro bs h b hb
    obtain rfl := Except.ok.inj (hnil.symm.trans h)
    cases hb
  | cons a rest ih =>
    intro bs h b hb
    rw [hcons] at h
    cases hfirst : f a with
    | error e => rw [hfirst] at h; cases h
    | ok first =>
      rw [hfirst] at h
      obtain ⟨others, hothers, rfl⟩ := map_eq_ok_iff.1 h
      rcases List.mem_cons.1 hb with rfl | hb
      · exact ⟨a, List.mem_cons_self, hfirst⟩
      · obtain ⟨a', ha', hb'⟩ := ih hothers b hb
        exact ⟨a', List.mem_cons_of_mem _ ha', hb'⟩

/-! ## Switches -/

namespace SwitchRule

variable {now : Double} {c : SwitchRuleConfig} {r : SwitchRule}

/-- An operand is compiled with its own type, or without one as a number or a string. -/
theorem exists_word_operand (now : Double) (value : Option Json) (type : Option String) :
    ∃ word, (type = some word ∨ word = "num" ∨ word = "str") ∧
      operand now value type = Property.compile now word (value.getD (.string "")) := by
  unfold operand
  dsimp only
  split
  · rename_i hword
    cases type with
    | none => exact absurd rfl hword
    | some word => exact ⟨word, .inl rfl, rfl⟩
  · split
    · exact ⟨_, .inr (.inl rfl), rfl⟩
    · split
      · exact ⟨_, .inr (.inl rfl), rfl⟩
      · exact ⟨_, .inr (.inr rfl), rfl⟩
    · exact ⟨_, .inr (.inr rfl), rfl⟩

theorem ofPattern_operands (h : ofPattern now c = .ok r) : ∀ p ∈ r.operands,
    Property.compile now (c.firstType.getD "str") (c.first.getD (.string "")) = .ok p := by
  unfold ofPattern at h
  split at h
  · cases h
  · rename_i p hp
    split at h
    · cases h
      exact List.forall_mem_singleton.2 hp
    · split at h
      · cases h
        exact List.forall_mem_nil _
      · cases h

/-- What a rule compares with is what it is written with. -/
theorem compile_operands (h : compile now c = .ok r) : ∀ p ∈ r.operands,
    operand now c.first c.firstType = .ok p ∨ operand now c.second c.secondType = .ok p ∨
      Property.compile now (c.firstType.getD "str") (c.first.getD (.string "")) = .ok p := by
  unfold compile at h
  dsimp only at h
  split at h
  · cases h
  · rename_i name _
    split at h
    case h_7 =>
      split at h
      · cases h
      · rename_i a ha
        obtain ⟨b, hb, rfl⟩ := map_eq_ok_iff.1 h
        exact List.forall_mem_cons.2 ⟨.inl ha, List.forall_mem_singleton.2 (.inr (.inl hb))⟩
    case h_9 => exact fun p hp => .inr (.inr (ofPattern_operands h p hp))
    case h_10 =>
      split at h
      · cases h
        exact List.forall_mem_nil _
      · cases h
    -- the other operators have one operand or none, or are refused
    all_goals first
      | cases h; done
      | cases h; exact List.forall_mem_nil _
      | obtain ⟨p, hp, rfl⟩ := map_eq_ok_iff.1 h
        exact List.forall_mem_singleton.2 (.inl hp)

theorem exists_of_compileAll {configs : List SwitchRuleConfig} {rules : List SwitchRule}
    (h : compileAll now configs = .ok rules) : ∀ r ∈ rules, ∃ c ∈ configs, compile now c = .ok r :=
  exists_of_loop (compile now) (compileAll now) rfl
    (fun a rest => by rw [compileAll]; cases compile now a <;> rfl) h

end SwitchRule

/-! ## Change nodes -/

/-- The rules that a configuration means are those of its list, or a single one whose value, if it has
one, is a path into the message or a literal. -/
theorem ChangeConfig.mem_effectiveRules {c : ChangeConfig} {rules : List ChangeRuleConfig}
    (h : c.effectiveRules = .ok rules) : ∀ r ∈ rules, r ∈ c.rules ∨
      r.targetType = none ∧ ∀ word ∈ r.valueType, word = "msg" ∨ word = "str" := by
  have hvalue (value : Option Json) : (singleValue value).2 = "msg" ∨ (singleValue value).2 = "str" := by
    unfold singleValue
    split
    · exact .inr rfl
    · split
      · exact .inl rfl
      · exact .inr rfl
    · exact .inr rfl
  unfold effectiveRules at h
  split at h
  · cases h
    exact fun r hr => .inl hr
  · dsimp only at h
    split at h
    · cases h
      exact List.forall_mem_nil _
    · cases h
      refine List.forall_mem_singleton.2 (.inr ⟨rfl, fun word hword => ?_⟩)
      obtain rfl := Option.mem_some_iff.1 hword
      exact hvalue c.value
    · cases h
      exact List.forall_mem_singleton.2 (.inr ⟨rfl, nofun⟩)
    · cases h

theorem ChangeRule.exists_of_compileRules {now : Double} {configs : List ChangeRuleConfig}
    {rules : List ChangeRule} (h : Node.compileRules now configs = .ok rules) :
    ∀ r ∈ rules, ∃ c ∈ configs, compile now c = .ok r :=
  exists_of_loop (compile now) (Node.compileRules now) rfl
    (fun a rest => by rw [Node.compileRules]; cases compile now a <;> rfl) h

/-! ## Inject nodes -/

namespace Filling

theorem make_eq_ok {path : String} {value : Except NodeFault Property} {f : Filling}
    (h : make path value = .ok f) : value = .ok f.value := by
  unfold make at h
  split at h
  · cases h
  · obtain ⟨p, hp, rfl⟩ := map_eq_ok_iff.1 h
    exact hp

theorem exists_of_compileAll {now : Double} {c : InjectConfig} {props : List PropConfig}
    {fillings : List Filling} (h : compileAll now c props = .ok fillings) :
    ∀ f ∈ fillings, ∃ prop ∈ props, compile now c prop = .ok f :=
  exists_of_loop (compile now c) (compileAll now c) rfl
    (fun a rest => by rw [compileAll]; cases compile now c a <;> rfl) h

end Filling

/-! ## Nodes of records -/

namespace Node

variable {now : Double} {n : NodeDefinition} {node : Node}

theorem switchOf_eq_ok (h : switchOf now n = .ok node) : ∃ config property rules,
    Record.ofMembers SwitchConfig.fields SwitchConfig.blank n.config = .ok config ∧
      Property.compile now (config.propertyType.getD "msg") (.string config.property) =
        .ok property ∧
      SwitchRule.compileAll now config.rules = .ok rules ∧
      node = switch { property, rules, checkAll := config.checkAll } := by
  unfold switchOf at h
  split at h
  · cases h
  · rename_i config hconfig
    split at h
    · cases h
    · rename_i property hproperty
      obtain ⟨rules, hrules, rfl⟩ := map_eq_ok_iff.1 h
      exact ⟨config, property, rules, hconfig, hproperty, hrules, rfl⟩

theorem changeOf_eq_ok (h : changeOf now n = .ok node) : ∃ config configs rules,
    Record.ofMembers ChangeConfig.fields ChangeConfig.blank n.config = .ok config ∧
      config.effectiveRules = .ok configs ∧ compileRules now configs = .ok rules ∧
      node = change rules := by
  unfold changeOf at h
  split at h
  · cases h
  · rename_i config hconfig
    split at h
    · cases h
    · rename_i configs hconfigs
      obtain ⟨rules, hrules, rfl⟩ := map_eq_ok_iff.1 h
      exact ⟨config, configs, rules, hconfig, hconfigs, hrules, rfl⟩

theorem injectOf_eq_ok (h : injectOf now n = .ok node) : ∃ config fillings timing,
    Record.ofMembers InjectConfig.fields InjectConfig.blank n.config = .ok config ∧
      Filling.ofConfig now config = .ok fillings ∧ Timing.ofConfig config = .ok timing ∧
      node = inject fillings timing := by
  unfold injectOf at h
  split at h
  · cases h
  · rename_i config hconfig
    split at h
    · cases h
    · rename_i fillings hfillings
      split at h
      · cases h
      · rename_i timing htiming
        cases h
        exact ⟨config, fillings, timing, hconfig, hfillings, htiming, rfl⟩

theorem sinkOf_eq_ok (h : sinkOf n = .ok node) : ∃ active shown, node = sink n.type active shown := by
  unfold sinkOf at h
  split at h
  · cases h
  · split at h
    · cases h
    · cases h
      exact ⟨_, _, rfl⟩

/-- The standard types make five kinds of nodes. -/
theorem make_standard_eq_ok (h : Registry.standard.make now n = .ok node) :
    n.type = "inject" ∧ injectOf now n = .ok node ∨ n.type = "switch" ∧ switchOf now n = .ok node ∨
      n.type = "change" ∧ changeOf now n = .ok node ∨ n.type = "junction" ∧ node = junction ∨
      sinkOf n = .ok node := by
  have htypes : Registry.standard.types =
      [("change", Registry.changeType), ("console-json", Registry.sinkType "console-json"),
        ("debug", Registry.sinkType "debug"), ("inject", Registry.injectType),
        ("junction", Registry.junctionType), ("switch", Registry.switchType),
        ("test-once", Registry.sinkType "test-once")] := by rfl
  unfold Registry.make Registry.get? at h
  split at h
  · cases h
  · rename_i t hget
    split at h
    · rename_i node' hmake
      cases h
      have hmem := Table.mem_of_get?_eq_some hget
      rw [htypes] at hmem
      simp only [List.mem_cons, List.not_mem_nil, or_false, Prod.mk.injEq] at hmem
      rcases hmem with ⟨htype, rfl⟩ | ⟨htype, rfl⟩ | ⟨htype, rfl⟩ | ⟨htype, rfl⟩ | ⟨htype, rfl⟩ |
        ⟨htype, rfl⟩ | ⟨htype, rfl⟩
      · exact .inr (.inr (.inl ⟨htype, hmake⟩))
      · exact .inr (.inr (.inr (.inr hmake)))
      · exact .inr (.inr (.inr (.inr hmake)))
      · exact .inl ⟨htype, hmake⟩
      · exact .inr (.inr (.inr (.inl ⟨htype, (Except.ok.inj hmake).symm⟩)))
      · exact .inr (.inl ⟨htype, hmake⟩)
      · exact .inr (.inr (.inr (.inr hmake)))
    · cases h

end Node

end Wireflow
