/-
Plain nodes: junctions, switches, change nodes, sinks and inject nodes without timers, none of whose
properties is the date or stands in context data. What a plain node does with a message depends on
who the node is, on the variables of the process and on the message alone, not on the time and not on
what other nodes have stored.
-/
import Wireflow.Proofs.Node.Making

namespace Wireflow

/-- Settings of one node in one process, perhaps at different times and with different data. -/
structure Setting.Alike (s s' : Setting) : Prop where
  identity : s'.identity = s.identity
  process : s'.process = s.process

/-! ## Properties and targets -/

/-- The property is neither the date nor in context data. -/
def Property.IsPlain : Property → Prop
  | .date | .context _ => False
  | _ => True

/-- The target is in the message. -/
def Target.IsPlain : Target → Prop
  | .message _ => True
  | .context _ => False

section

variable {s s' : Setting} (hs : s.Alike s') (msg : Message)
include hs

theorem Property.evaluate?_alike {p : Property} (hp : p.IsPlain) (m : Option Message) :
    p.evaluate? s' m = p.evaluate? s m := by
  cases p with
  | constant v => rfl
  | template text => simp only [evaluate?, hs.identity, hs.process]
  | date => exact hp.elim
  | «variable» name => simp only [evaluate?, hs.identity, hs.process]
  | message path => rfl
  | context ref => exact hp.elim

omit hs in
variable (s s') in
theorem Target.get?_alike {t : Target} (ht : t.IsPlain) : t.get? s' msg = t.get? s msg := by
  cases t with
  | message path => rfl
  | context ref => exact ht.elim

omit hs in
variable (s s') in
/-- A write to a message leaves the context data as they are, whether it succeeds or not. -/
theorem Target.set_alike {t : Target} (ht : t.IsPlain) (v : Option Value) :
    (t.set s' msg v).1 = (t.set s msg v).1 ∧ (t.set s' msg v).2.1 = (t.set s msg v).2.1 := by
  cases t with
  | message path => cases v <;> exact ⟨rfl, rfl⟩
  | context ref => exact ht.elim

/-! ## Change nodes -/

/-- All targets and values of a rule are plain. -/
def ChangeRule.IsPlain : ChangeRule → Prop
  | .set target value => target.IsPlain ∧ value.IsPlain
  | .delete target => target.IsPlain
  | .move source destination => source.IsPlain ∧ destination.IsPlain

/-- A rule ends in the same way and leaves the same message. -/
theorem ChangeRule.apply_alike {r : ChangeRule} (hr : r.IsPlain) :
    (r.apply s' msg).1 = (r.apply s msg).1 ∧ (r.apply s' msg).2.1 = (r.apply s msg).2.1 := by
  cases r with
  | set target value =>
    unfold apply
    dsimp only
    rw [Property.evaluate?_alike hs hr.2]
    exact Target.set_alike s s' msg hr.1 _
  | delete target => exact Target.set_alike s s' msg hr _
  | move source destination =>
    unfold apply
    dsimp only
    split
    · exact ⟨rfl, rfl⟩
    · rw [Target.get?_alike s s' msg hr.1]
      split
      · exact ⟨rfl, rfl⟩
      · -- what the source leaves is the message that the destination is written to
        obtain ⟨hend, hmsg⟩ := Target.set_alike s s' msg hr.1 none
        revert hend hmsg
        rcases source.set s' msg none with ⟨end', msg', contexts'⟩
        rcases source.set s msg none with ⟨end₁, msg₁, contexts₁⟩
        rintro ⟨rfl⟩ ⟨rfl⟩
        cases end' with
        | error fault => exact ⟨rfl, rfl⟩
        | ok _ => exact Target.set_alike _ _ msg' hr.2 _

omit hs in
theorem ChangeRule.applyAll_alike (rules : List ChangeRule) (hrules : ∀ r ∈ rules, r.IsPlain) :
    ∀ {s s' : Setting} (msg : Message), s.Alike s' →
      (applyAll s' msg rules).1 = (applyAll s msg rules).1 ∧
        (applyAll s' msg rules).2.1 = (applyAll s msg rules).2.1 := by
  induction rules with
  | nil => exact fun _ _ => ⟨rfl, rfl⟩
  | cons r rest ih =>
    intro s s' msg hs
    obtain ⟨hr, hrest⟩ := List.forall_mem_cons.1 hrules
    obtain ⟨hend, hmsg⟩ := apply_alike hs msg hr
    unfold applyAll
    revert hend hmsg
    rcases r.apply s' msg with ⟨end', msg', contexts'⟩
    rcases r.apply s msg with ⟨end₁, msg₁, contexts₁⟩
    rintro ⟨rfl⟩ ⟨rfl⟩
    cases end' with
    | error fault => exact ⟨rfl, rfl⟩
    | ok _ => exact ih hrest msg' ⟨hs.identity, hs.process⟩

/-! ## What plain nodes do -/

/-- The node is of one of the five kinds, and plain. -/
inductive Node.Plain : Node → Prop
  | junction : Plain .junction
  | sink (type : String) (active : Bool) (shown : Shown) : Plain (.sink type active shown)
  | switch {w : Switch} : w.property.IsPlain → (∀ r ∈ w.rules, ∀ p ∈ r.operands, p.IsPlain) →
      Plain (.switch w)
  | change {rules : List ChangeRule} : (∀ r ∈ rules, r.IsPlain) → Plain (.change rules)
  | inject {fillings : List Filling} {timing : Timing} : (∀ f ∈ fillings, f.value.IsPlain) →
      timing.timers = [] → Plain (.inject fillings timing)

/-- A plain node does the same with a message in settings that are alike, and ends in the same
way. -/
theorem Node.Plain.receive_alike {node : Node} (h : node.Plain) :
    (node.receive s' msg).effects = (node.receive s msg).effects ∧
      (node.receive s' msg).outcome = (node.receive s msg).outcome := by
  cases h with
  | junction => exact ⟨rfl, rfl⟩
  | sink type active shown => exact ⟨rfl, rfl⟩
  | @switch w hproperty hrules =>
    have hreceive (s : Setting) : (Node.switch w).receive s msg =
        .quiet s ((w.route s msg).map fun port => .send port msg) := rfl
    have hroute : w.route s' msg = w.route s msg :=
      Switch.route_congr (Property.evaluate?_alike hs hproperty _) fun r hr p hp =>
        Property.evaluate?_alike hs (hrules r hr p hp) _
    rw [hreceive, hreceive, hroute]
    exact ⟨rfl, rfl⟩
  | @change rules hrules =>
    obtain ⟨hend, hmsg⟩ := ChangeRule.applyAll_alike rules hrules msg hs
    have hreceive (s : Setting) : (Node.change rules).receive s msg = changeReaction rules s msg :=
      rfl
    rw [hreceive, hreceive]
    unfold changeReaction
    revert hend hmsg
    rcases ChangeRule.applyAll s' msg rules with ⟨end', msg', contexts'⟩
    rcases ChangeRule.applyAll s msg rules with ⟨end₁, msg₁, contexts₁⟩
    rintro ⟨rfl⟩ ⟨rfl⟩
    cases end' <;> exact ⟨rfl, rfl⟩
  | @inject fillings timing hplain _ =>
    have hreceive (s : Setting) : (Node.inject fillings timing).receive s msg =
        .quiet s ((Filling.fill s msg fillings).1 ++
          [.send 0 (Filling.fill s msg fillings).2]) := rfl
    have hfill : Filling.fill s' msg fillings = Filling.fill s msg fillings :=
      Filling.fill_congr fillings (fun f hf => Property.evaluate?_alike hs (hplain f hf)) msg
    rw [hreceive, hreceive, hfill]
    exact ⟨rfl, rfl⟩

end

/-! ## Records of plain nodes -/

namespace PropertyType

/-- The words for the types of the date and of context data. -/
def unsteadyWords : List String := ["date", "flow", "global"]

theorem name_of_parse {word : String} {type : PropertyType} (h : parse word = .ok type) :
    type.name = word := by
  unfold parse at h
  split at h
  · rename_i found hfind
    cases h
    simpa using List.find?_some hfind
  · cases h

theorem steady_of_parse {word : String} {type : PropertyType} (h : parse word = .ok type)
    (hword : word ∉ unsteadyWords) : type ≠ .date ∧ type ≠ .flow ∧ type ≠ .global := by
  obtain rfl := name_of_parse h
  refine ⟨?_, ?_, ?_⟩ <;> rintro rfl <;> exact hword (by decide)

/-- Where no type is named another word stands for it. -/
theorem getD_steady {type : Option String} {usual : String}
    (htype : ∀ word ∈ type.toList, word ∉ unsteadyWords) (husual : usual ∉ unsteadyWords) :
    type.getD usual ∉ unsteadyWords := by
  cases type with
  | none => exact husual
  | some word => exact htype word (by simp)

end PropertyType

open PropertyType

/-- A property is plain unless it is written with the type of the date, of flow data or of global
data. -/
theorem Property.isPlain_of_compile {now : Double} {word : String} {raw : Json} {p : Property}
    (h : compile now word raw = .ok p) (hword : word ∉ unsteadyWords) : p.IsPlain := by
  unfold compile at h
  split at h
  · rename_i type hparse
    obtain ⟨hdate, hflow, hglobal⟩ := steady_of_parse hparse hword
    unfold compileTyped at h
    dsimp only at h
    split at h
    · cases h
      split <;> exact trivial
    · exact absurd rfl hdate
    · obtain ⟨path, -, rfl⟩ := map_eq_ok_iff.1 h
      exact trivial
    · exact absurd rfl hflow
    · exact absurd rfl hglobal
    · split at h
      · cases h; exact trivial
      · split at h
        · cases h; exact trivial
        · cases h
  · cases h

/-- A target is plain unless it is written with the type of flow data or of global data. -/
theorem Target.isPlain_of_compile {word path : String} {t : Target}
    (h : Target.compile word path = .ok t) (hword : word ∉ unsteadyWords) : t.IsPlain := by
  unfold Target.compile at h
  split at h
  · cases h
  · obtain ⟨path, -, rfl⟩ := map_eq_ok_iff.1 h
    exact trivial
  · rename_i hparse
    exact absurd rfl (steady_of_parse hparse hword).2.1
  · rename_i hparse
    exact absurd rfl (steady_of_parse hparse hword).2.2
  · cases h

/-! ### Switches -/

/-- The types that a rule of a switch names. -/
def SwitchRuleConfig.typeWords (c : SwitchRuleConfig) : List String :=
  c.firstType.toList ++ c.secondType.toList

/-- The types that a switch names. -/
def SwitchConfig.typeWords (c : SwitchConfig) : List String :=
  c.propertyType.toList ++ c.rules.flatMap SwitchRuleConfig.typeWords

theorem SwitchRule.isPlain_of_operand {now : Double} {value : Option Json} {type : Option String}
    {p : Property} (h : operand now value type = .ok p)
    (htype : ∀ word ∈ type.toList, word ∉ unsteadyWords) : p.IsPlain := by
  obtain ⟨word, hword, heq⟩ := exists_word_operand now value type
  rw [heq] at h
  refine Property.isPlain_of_compile h ?_
  rcases hword with rfl | rfl | rfl
  · exact htype word (by simp)
  · decide
  · decide

theorem SwitchRule.isPlain_of_compile {now : Double} {c : SwitchRuleConfig} {r : SwitchRule}
    (h : compile now c = .ok r) (hwords : ∀ word ∈ c.typeWords, word ∉ unsteadyWords) :
    ∀ p ∈ r.operands, p.IsPlain := by
  obtain ⟨hfirst, hsecond⟩ := List.forall_mem_append.1 hwords
  intro p hp
  rcases compile_operands h p hp with hp | hp | hp
  · exact isPlain_of_operand hp hfirst
  · exact isPlain_of_operand hp hsecond
  · exact Property.isPlain_of_compile hp (getD_steady hfirst (by decide))

/-! ### Change nodes -/

/-- The types that a rule of a change node names. -/
def ChangeRuleConfig.typeWords (c : ChangeRuleConfig) : List String :=
  c.targetType.toList ++ c.valueType.toList

/-- The types that a change node names. -/
def ChangeConfig.typeWords (c : ChangeConfig) : List String :=
  c.rules.flatMap ChangeRuleConfig.typeWords

theorem ChangeRule.isPlain_of_compile {now : Double} {c : ChangeRuleConfig} {r : ChangeRule}
    (h : compile now c = .ok r) (hwords : ∀ word ∈ c.typeWords, word ∉ unsteadyWords) :
    r.IsPlain := by
  obtain ⟨htargetType, hvalueType⟩ := List.forall_mem_append.1 hwords
  unfold compile at h
  split at h
  · cases h
  · rename_i target htarget
    have htargetPlain : target.IsPlain :=
      Target.isPlain_of_compile htarget (getD_steady htargetType (by decide))
    split at h
    · obtain ⟨value, hvalue, rfl⟩ := map_eq_ok_iff.1 h
      exact ⟨htargetPlain,
        Property.isPlain_of_compile hvalue (getD_steady hvalueType (by decide))⟩
    · cases h
      exact htargetPlain
    · split at h
      · obtain ⟨destination, hdestination, rfl⟩ := map_eq_ok_iff.1 h
        exact ⟨htargetPlain,
          Target.isPlain_of_compile hdestination (getD_steady hvalueType (by decide))⟩
      · cases h
    · cases h

/-! ### Inject nodes -/

namespace InjectConfig

/-- The type of the payload: the one that is named, else that of the date when there is no payload or
an empty one, else that of strings. -/
def payloadWord (c : InjectConfig) : String :=
  let type := c.payloadType.getD ""
  if type ≠ "" then type
  else
    match c.payload.getD (.string "") with
    | .string "" => "date"
    | _ => "str"

theorem payloadProperty_eq (now : Double) (c : InjectConfig) :
    c.payloadProperty now = Property.compile now c.payloadWord (c.payload.getD (.string "")) := by
  rfl

/-- The types that a property of a list names. -/
def propWords (c : InjectConfig) (prop : PropConfig) : List String :=
  match prop.value, prop.path with
  | none, "payload" => [c.payloadWord]
  | none, "topic" => []
  | _, _ => prop.valueType.toList

/-- The types that an inject node names, and that of its payload. -/
def typeWords (c : InjectConfig) : List String :=
  match c.props with
  | some props => props.flatMap c.propWords
  | none => [c.payloadWord]

theorem isPlain_of_payloadProperty {now : Double} {c : InjectConfig} {p : Property}
    (h : c.payloadProperty now = .ok p) (hword : ∀ word ∈ [c.payloadWord], word ∉ unsteadyWords) :
    p.IsPlain := by
  rw [payloadProperty_eq] at h
  exact Property.isPlain_of_compile h (hword _ (List.mem_singleton_self _))

theorem isPlain_of_topicProperty {now : Double} {c : InjectConfig} {p : Property}
    (h : c.topicProperty now = .ok p) : p.IsPlain :=
  Property.isPlain_of_compile h (by decide)

end InjectConfig

namespace Filling

theorem isPlain_of_compile {now : Double} {c : InjectConfig} {prop : PropConfig} {f : Filling}
    (h : compile now c prop = .ok f) (hwords : ∀ word ∈ c.propWords prop, word ∉ unsteadyWords) :
    f.value.IsPlain := by
  have hvalue := make_eq_ok h
  unfold InjectConfig.propWords at hwords
  split at hvalue
  · rename_i hnone hpath
    rw [hnone, hpath] at hwords
    exact InjectConfig.isPlain_of_payloadProperty hvalue hwords
  · exact InjectConfig.isPlain_of_topicProperty hvalue
  · rename_i hpayload htopic
    split at hwords
    · exact absurd ‹_› (hpayload ‹_›)
    · exact absurd ‹_› (htopic ‹_›)
    · exact Property.isPlain_of_compile hvalue (getD_steady hwords (by decide))

theorem isPlain_of_ofConfig {now : Double} {c : InjectConfig} {fillings : List Filling}
    (h : ofConfig now c = .ok fillings) (hwords : ∀ word ∈ c.typeWords, word ∉ unsteadyWords) :
    ∀ f ∈ fillings, f.value.IsPlain := by
  unfold ofConfig at h
  unfold InjectConfig.typeWords at hwords
  split at h
  · rename_i props hprops
    rw [hprops] at hwords
    intro f hf
    obtain ⟨prop, hprop, hcompile⟩ := exists_of_compileAll h f hf
    exact isPlain_of_compile hcompile fun word hword =>
      hwords word (List.mem_flatMap.2 ⟨prop, hprop, hword⟩)
  · rename_i hprops
    rw [hprops] at hwords
    split at h
    · cases h
    · rename_i payload hpayload
      obtain ⟨topic, htopic, rfl⟩ := map_eq_ok_iff.1 h
      exact List.forall_mem_cons.2
        ⟨InjectConfig.isPlain_of_payloadProperty (make_eq_ok hpayload) hwords,
          List.forall_mem_singleton.2 (InjectConfig.isPlain_of_topicProperty (make_eq_ok htopic))⟩

end Filling

/-! ### Nodes -/

/-- The types that a configuration names, when one can be read. -/
def Record.wordsOf (fields : List (Member σ)) (blank : σ) (words : σ → List String)
    (members : List (String × Json)) : List String :=
  match ofMembers fields blank members with
  | .ok config => words config
  | .error _ => []

/-- The types that the record of a node names. -/
def NodeDefinition.typeWords (n : NodeDefinition) : List String :=
  match n.type with
  | "inject" => Record.wordsOf InjectConfig.fields .blank InjectConfig.typeWords n.config
  | "switch" => Record.wordsOf SwitchConfig.fields .blank SwitchConfig.typeWords n.config
  | "change" => Record.wordsOf ChangeConfig.fields .blank ChangeConfig.typeWords n.config
  | _ => []

/-- A node of a standard type is plain when its record names neither the type of the date nor one of
context data, and it has no timers. -/
theorem Node.plain_of_make {now : Double} {n : NodeDefinition} {node : Node}
    (h : Registry.standard.make now n = .ok node)
    (hwords : ∀ word ∈ n.typeWords, word ∉ unsteadyWords) (htimers : node.timers = []) :
    node.Plain := by
  rcases make_standard_eq_ok h with
    ⟨htype, h⟩ | ⟨htype, h⟩ | ⟨htype, h⟩ | ⟨-, rfl⟩ | h
  · obtain ⟨config, fillings, timing, hconfig, hfillings, -, rfl⟩ := injectOf_eq_ok h
    have hnamed : n.typeWords = config.typeWords := by
      simp only [NodeDefinition.typeWords, htype, Record.wordsOf, hconfig]
    rw [hnamed] at hwords
    exact .inject (Filling.isPlain_of_ofConfig hfillings hwords) htimers
  · obtain ⟨config, property, rules, hconfig, hproperty, hrules, rfl⟩ := switchOf_eq_ok h
    have hnamed : n.typeWords = config.typeWords := by
      simp only [NodeDefinition.typeWords, htype, Record.wordsOf, hconfig]
    rw [hnamed] at hwords
    obtain ⟨hpropertyType, hrulesTypes⟩ := List.forall_mem_append.1 hwords
    refine .switch (Property.isPlain_of_compile hproperty (getD_steady hpropertyType (by decide)))
      fun r hr => ?_
    obtain ⟨c, hc, hcompile⟩ := SwitchRule.exists_of_compileAll hrules r hr
    exact SwitchRule.isPlain_of_compile hcompile fun word hword =>
      hrulesTypes word (List.mem_flatMap.2 ⟨c, hc, hword⟩)
  · obtain ⟨config, configs, rules, hconfig, hconfigs, hrules, rfl⟩ := changeOf_eq_ok h
    have hnamed : n.typeWords = config.typeWords := by
      simp only [NodeDefinition.typeWords, htype, Record.wordsOf, hconfig]
    rw [hnamed] at hwords
    refine .change fun r hr => ?_
    obtain ⟨c, hc, hcompile⟩ := ChangeRule.exists_of_compileRules hrules r hr
    refine ChangeRule.isPlain_of_compile hcompile fun word hword => ?_
    rcases ChangeConfig.mem_effectiveRules hconfigs c hc with hlisted | ⟨htarget, hvalue⟩
    · exact hwords word (List.mem_flatMap.2 ⟨c, hlisted, hword⟩)
    · -- the older form of a single rule names no types of its own
      rw [ChangeRuleConfig.typeWords, htarget] at hword
      rcases hvalue word (by simpa using hword) with rfl | rfl <;> decide
  · exact .junction
  · obtain ⟨active, shown, rfl⟩ := sinkOf_eq_ok h
    exact .sink n.type active shown

end Wireflow
