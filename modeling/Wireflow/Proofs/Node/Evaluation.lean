/-
What switches and inject nodes make of a message in a setting depends on the values that their
properties have there, and on nothing else of the setting.
-/
import Wireflow.Node.Inject
import Wireflow.Node.Switch

namespace Wireflow

/-- The properties that a rule compares with. -/
def SwitchRule.operands : SwitchRule → List Property
  | .compare _ p | .contains p | .dynamicPattern _ p | .hasName p => [p]
  | .between a b => [a, b]
  | .pattern _ _ | .kind _ | .flag _ | .empty _ | .null _ | .otherwise => []

variable {s s' : Setting} {msg : Message}

/-! ## Switches -/

theorem SwitchRule.onOperand_congr {p : Property}
    (h : p.evaluate? s' (some msg) = p.evaluate? s (some msg)) (test : Value → Bool) :
    onOperand s' msg p test = onOperand s msg p test := by
  unfold onOperand
  rw [h]

theorem SwitchRule.holdsOf_congr {r : SwitchRule}
    (h : ∀ p ∈ r.operands, p.evaluate? s' (some msg) = p.evaluate? s (some msg)) (left : Value) :
    r.holdsOf s' msg left = r.holdsOf s msg left := by
  cases r with
  | between a b =>
    have ha := h a (by simp [operands])
    have hb := h b (by simp [operands])
    simp only [holdsOf, onOperand_congr ha, onOperand_congr hb]
  | compare c p => exact onOperand_congr (h p (by simp [operands])) _
  | contains p => exact onOperand_congr (h p (by simp [operands])) _
  | hasName p => exact onOperand_congr (h p (by simp [operands])) _
  | dynamicPattern ignoreCase p =>
    simp only [holdsOf, onOperand_congr (h p (by simp [operands]))]
  | _ => rfl

theorem SwitchRule.holds_congr {r : SwitchRule}
    (h : ∀ p ∈ r.operands, p.evaluate? s' (some msg) = p.evaluate? s (some msg))
    (left : Option Value) (matched : Bool) :
    r.holds s' msg left matched = r.holds s msg left matched := by
  have hof := fun v => holdsOf_congr h v
  cases r with
  | null expected => cases expected <;> rfl
  | _ => simp only [holds, hof]

theorem Switch.portsFrom_congr {left : Option Value} {checkAll : Bool} (rules : List SwitchRule)
    (h : ∀ r ∈ rules, ∀ p ∈ r.operands, p.evaluate? s' (some msg) = p.evaluate? s (some msg)) :
    ∀ (port : Nat) (matched : Bool), portsFrom s' msg left checkAll port matched rules =
      portsFrom s msg left checkAll port matched rules := by
  induction rules with
  | nil => exact fun _ _ => rfl
  | cons r rest ih =>
    intro port matched
    obtain ⟨hr, hrest⟩ := List.forall_mem_cons.1 h
    unfold portsFrom
    rw [SwitchRule.holds_congr hr, ih hrest, ih hrest]

/-- A message goes out of the same ports when the property of the switch and those of its rules have
the same values. -/
theorem Switch.route_congr {w : Switch}
    (hproperty : w.property.evaluate? s' (some msg) = w.property.evaluate? s (some msg))
    (hrules : ∀ r ∈ w.rules, ∀ p ∈ r.operands,
      p.evaluate? s' (some msg) = p.evaluate? s (some msg)) : w.route s' msg = w.route s msg := by
  unfold route
  rw [hproperty, portsFrom_congr w.rules hrules]

/-! ## Inject nodes -/

/-- The same is filled into a message when the values have the same value whatever has been filled in
before. -/
theorem Filling.fill_congr (fillings : List Filling)
    (h : ∀ f ∈ fillings, ∀ m, f.value.evaluate? s' m = f.value.evaluate? s m) :
    ∀ msg : Message, fill s' msg fillings = fill s msg fillings := by
  induction fillings with
  | nil => exact fun _ => rfl
  | cons f rest ih =>
    intro msg
    obtain ⟨hf, hrest⟩ := List.forall_mem_cons.1 h
    unfold fill
    rw [hf]
    split
    · exact ih hrest msg
    · dsimp only
      rw [ih hrest]

end Wireflow
