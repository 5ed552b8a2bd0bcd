/-
Where a switch sends a message. When all rules count, the ports are those of the rules that hold, in
ascending order, and a rule for all other messages holds when no rule before it does. When only the first
rule counts, its port is the first of these. So the message always goes somewhere when the last rule is
for all other messages.
-/
import Wireflow.Node.Switch
import Mathlib.Tactic

namespace Wireflow

variable {s : Setting} {msg : Message} {left : Option Value}

/-- Only a rule for all other messages asks whether an earlier rule holds. -/
theorem SwitchRule.holds_of_ne_otherwise {r : SwitchRule} (h : r ≠ .otherwise)
    (matched matched' : Bool) : r.holds s msg left matched = r.holds s msg left matched' := by
  cases r with
  | otherwise => exact absurd rfl h
  | null expected => cases expected <;> rfl
  | _ => rfl

namespace Switch

variable {checkAll : Bool} {port i : Nat} {matched : Bool} {rules : List SwitchRule} {r : SwitchRule}

/-! ## All rules that hold -/

/-- The first rule gives its port when it holds, and the others are asked after it. -/
theorem portsFrom_cons (port : Nat) (matched : Bool) (r : SwitchRule) (rest : List SwitchRule) :
    portsFrom s msg left true port matched (r :: rest) =
      (if r.holds s msg left matched then [port] else []) ++
        portsFrom s msg left true (port + 1) (matched || r.holds s msg left matched) rest := by
  rw [portsFrom]
  cases r.holds s msg left matched <;> simp

theorem bounds_of_mem_portsFrom (h : i ∈ portsFrom s msg left true port matched rules) :
    port ≤ i ∧ i < port + rules.length := by
  induction rules generalizing port matched with
  | nil => cases h
  | cons r rest ih =>
    rw [portsFrom_cons, List.mem_append] at h
    rw [List.length_cons]
    rcases h with h | h
    · obtain rfl : i = port := List.mem_singleton.1 (List.mem_ite_nil_right.1 h).2
      omega
    · have := ih h
      omega

theorem portsFrom_ascends (port : Nat) (matched : Bool) (rules : List SwitchRule) :
    (portsFrom s msg left true port matched rules).Pairwise (· < ·) := by
  induction rules generalizing port matched with
  | nil => exact .nil
  | cons r rest ih =>
    rw [portsFrom_cons, List.pairwise_append]
    refine ⟨by split <;> simp, ih _ _, fun i hi j hj => ?_⟩
    obtain rfl : i = port := List.mem_singleton.1 (List.mem_ite_nil_right.1 hi).2
    exact Nat.lt_of_succ_le (bounds_of_mem_portsFrom hj).1

/-- A rule gives its port exactly when it holds, an earlier rule holding if one has given its port or
had held before. -/
theorem mem_portsFrom_iff {n : Nat} (h : rules[n]? = some r) :
    port + n ∈ portsFrom s msg left true port matched rules ↔
      r.holds s msg left (matched ||
        (portsFrom s msg left true port matched rules).any (· < port + n)) := by
  induction rules generalizing port matched n with
  | nil => cases h
  | cons head rest ih =>
    rw [portsFrom_cons, List.mem_append, List.any_append]
    cases n with
    | zero =>
      cases h
      -- the ports of the later rules are greater, so none of them is this one or below it
      have hlater : ∀ matched', port ∉ portsFrom s msg left true (port + 1) matched' rest :=
        fun _ hmem => absurd (bounds_of_mem_portsFrom hmem).1 (by omega)
      have hnone : ∀ matched',
          (portsFrom s msg left true (port + 1) matched' rest).any (· < port) = false := by
        intro matched'
        rw [List.any_eq_false]
        intro j hj
        have := (bounds_of_mem_portsFrom hj).1
        simp only [decide_eq_true_eq]
        omega
      rw [Nat.add_zero, hnone]
      cases hholds : r.holds s msg left matched <;> simp [hlater, hholds]
    | succ n =>
      rw [show port + (n + 1) = port + 1 + n by omega, ih h]
      have hother : port + 1 + n ∉ if head.holds s msg left matched then [port] else [] := by
        have : port + 1 + n ≠ port := by omega
        split <;> simp [this]
      have hbelow : (if head.holds s msg left matched then [port] else []).any
          (· < port + 1 + n) = head.holds s msg left matched := by
        have : port < port + 1 + n := by omega
        cases head.holds s msg left matched <;> simp [this]
      rw [hbelow, Bool.or_assoc]
      simp only [hother, false_or]

/-! ## The first rule that holds -/

/-- When only the first rule counts that holds, its port is the first of all. -/
theorem portsFrom_first (port : Nat) (matched : Bool) (rules : List SwitchRule) :
    portsFrom s msg left false port matched rules =
      (portsFrom s msg left true port matched rules).take 1 := by
  induction rules generalizing port matched with
  | nil => rfl
  | cons r rest ih =>
    rw [portsFrom_cons, portsFrom]
    cases hholds : r.holds s msg left matched with
    | false => simpa using ih (port + 1) matched
    | true => simp

/-! ## Routing -/

/-- A switch goes by its rules. When all of them count, it gives in ascending order the ports of the
rules that hold: a rule for all other messages holds when no smaller port is given, and every other rule
when its own test does, whatever rules before it do. When only the first counts, it gives the first of
these ports. It sends the message itself out of each port that it gives, in that order, and does nothing
else. It gives at least one port when its last rule is for all other messages. -/
theorem route_by_rules (w : Switch) (s : Setting) (msg : Message) :
    let left := w.property.evaluate? s (some msg)
    let all := { w with checkAll := true }.route s msg
    (all.Pairwise (· < ·) ∧ (∀ i ∈ all, i < w.rules.length) ∧
      ∀ i r, w.rules[i]? = some r →
        (r ≠ .otherwise → ∀ matched, i ∈ all ↔ r.holds s msg left matched) ∧
        (r = .otherwise → (i ∈ all ↔ ∀ j ∈ all, ¬j < i))) ∧
    { w with checkAll := false }.route s msg = all.take 1 ∧
    (Node.switch w).receive s msg =
      { effects := (w.route s msg).map (.send · msg), contexts := s.contexts, outcome := .ok () } ∧
    (w.rules.getLast? = some .otherwise → w.route s msg ≠ []) := by
  intro left all
  have hmem : ∀ i r, w.rules[i]? = some r →
      (i ∈ all ↔ r.holds s msg left (all.any (· < i))) := by
    intro i r hr
    have hi : 0 + i ∈ all ↔ r.holds s msg left (false || all.any (· < 0 + i)) :=
      mem_portsFrom_iff hr
    rwa [Nat.zero_add, Bool.false_or] at hi
  have hfirst : { w with checkAll := false }.route s msg = all.take 1 := portsFrom_first 0 false w.rules
  refine ⟨⟨portsFrom_ascends 0 false w.rules, fun i hi => ?_, fun i r hr => ⟨?_, ?_⟩⟩, hfirst, rfl, ?_⟩
  · have hlt : i < 0 + w.rules.length := (bounds_of_mem_portsFrom hi).2
    rwa [Nat.zero_add] at hlt
  · intro hne matched
    rw [hmem i r hr, SwitchRule.holds_of_ne_otherwise hne _ matched]
  · rintro rfl
    rw [hmem i _ hr]
    simp [SwitchRule.holds]
  · intro hlast
    have hr : w.rules[w.rules.length - 1]? = some .otherwise := by
      rwa [← List.getLast?_eq_getElem?]
    have hne : all ≠ [] := by
      intro hnone
      have hi := hmem _ _ hr
      rw [hnone] at hi
      simp [SwitchRule.holds] at hi
    rcases hw : w.checkAll with _ | _
    · rw [show w = { w with checkAll := false } by rw [← hw], hfirst]
      simpa using hne
    · rw [show w = { w with checkAll := true } by rw [← hw]]
      exact hne

/-- A rule for all other messages that holds, one after a rule that holds, and a rule between them. -/
theorem route_by_rules_others :
    let s : Setting :=
      { identity :=
          { id := ⟨16⟩, name := "", type := "switch", flow := { id := ⟨1⟩, label := "", env := [] },
            groups := [] }
        process := [], contexts := .inMemory Disk.empty, now := Double.zero }
    let w : Switch :=
      { property := .message { source := "payload", segments := [.name "payload"] }
        rules := [.flag true, .otherwise, .flag false, .otherwise], checkAll := true }
    let msg : Message := ⟨[("payload", .bool false)]⟩
    (w.rules[1]? = some .otherwise ∧ w.rules[2]? = some (.flag false) ∧
      w.rules[3]? = some .otherwise ∧ w.rules.getLast? = some .otherwise) ∧
    (1 ∈ w.route s msg ∧ 2 ∈ w.route s msg ∧ 3 ∉ w.route s msg ∧ w.route s msg ≠ []) ∧
    { w with checkAll := false }.route s msg = [1] := by
  intro s w msg
  obtain ⟨⟨-, -, hrules⟩, hfirst, -, hlast⟩ := route_by_rules w s msg
  have hall : w.route s msg = [1, 2] := by cbv
  have hne : SwitchRule.flag false ≠ .otherwise := fun h => by cases h
  have htwo : 2 ∈ w.route s msg := ((hrules 2 (.flag false) rfl).1 hne true).2 (by cbv)
  have hone : 1 ∈ w.route s msg := by
    refine ((hrules 1 .otherwise rfl).2 rfl).2 fun j hj hlt => ?_
    rw [show Switch.route { w with checkAll := true } s msg = [1, 2] from hall] at hj
    simp at hj
    omega
  have hthree : 3 ∉ w.route s msg := fun h =>
    ((hrules 3 .otherwise rfl).2 rfl).1 h 2 htwo (by decide)
  refine ⟨⟨rfl, rfl, rfl, rfl⟩, ⟨hone, htwo, hthree, hlast rfl⟩, ?_⟩
  rw [hfirst, show Switch.route { w with checkAll := true } s msg = [1, 2] from hall]
  rfl

end Switch

end Wireflow
