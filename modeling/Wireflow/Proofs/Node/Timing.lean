/-
The durations of inject nodes. A configuration is accepted by its seconds, and a node acts by whole
nanoseconds. The seconds that are accepted can always be converted, but a period that is not zero as a
number of seconds can be zero as a duration: this is so up to half a nanosecond.
-/
import Wireflow.Node.Inject
import Wireflow.Proofs.Path.Indices
import Wireflow.Proofs.Value.Bounds

namespace Wireflow

/-! ## Rounding -/

theorem roundHalfEven_le_succ (num den : Nat) : roundHalfEven num den ≤ num / den + 1 := by
  unfold roundHalfEven
  dsimp only
  split_ifs <;> omega

/-- A fraction is not rounded to zero exactly when it is more than a half. -/
theorem roundHalfEven_pos_iff {num den : Nat} (h : 0 < den) :
    0 < roundHalfEven num den ↔ den < 2 * num := by
  rcases Nat.lt_or_ge num den with hlt | hge
  · unfold roundHalfEven
    simp only [Nat.div_eq_of_lt hlt, Nat.mod_eq_of_lt hlt]
    split_ifs <;> omega
  · have hpos : 0 < num / den := Nat.div_pos hge h
    exact iff_of_true (hpos.trans_le (div_le_roundHalfEven num den)) (by omega)

/-! ## Conversion -/

namespace Duration

variable {seconds : Double}

/-- The nanoseconds of a number of seconds, if it can be converted: it is finite and not below zero, and
there are less than `2 ^ 64` whole seconds after rounding. -/
def ofSeconds? : Double → Option Nat
  | .finite negative m =>
    let length := roundHalfEven (m.units * secondLength) Magnitude.one
    if negative = true ∧ m.units ≠ 0 then none
    else if length / secondLength < 2 ^ 64 then some length
    else none
  | _ => none

/-- A duration has a length exactly when it is more than half a nanosecond. -/
theorem ofSeconds_pos_iff : 0 < ofSeconds seconds ↔
    ∃ m, seconds = .finite false m ∧ Magnitude.one < 2 * (m.units * secondLength) := by
  have hone : 0 < Magnitude.one := Nat.pos_of_ne_zero Magnitude.one_ne_zero
  cases seconds with
  | nan => simp [ofSeconds]
  | infinite negative => simp [ofSeconds]
  | finite negative m =>
    cases negative with
    | true => simp [ofSeconds]
    | false => simp [ofSeconds, roundHalfEven_pos_iff hone]

end Duration

namespace Timing

variable {seconds : Double} {c : InjectConfig} {t : Timing}

/-- What is accepted is a size up to the longest, or zero with a minus. -/
theorem accepts_eq_true (h : accepts seconds = true) : ∃ negative m,
    seconds = .finite negative m ∧ m.units ≤ 2147483 * Magnitude.one ∧
      (negative = true → m.units = 0) := by
  obtain ⟨longest, hlongest⟩ : ∃ m : Magnitude, m.units = 2147483 * Magnitude.one :=
    Magnitude.exists_units_eq (by decide)
  have hplace : Timing.longest.place? = some (longest.units : Int) := by
    rw [Timing.longest, Double.ofNat, Double.ofRatio_of_units hlongest.symm]
    exact Eq.refl _
  have hzero : Double.zero.place? = some 0 := by
    have hunits : Magnitude.zero.units = 0 := (Magnitude.units_eq_zero_iff _).2 rfl
    rw [Double.zero, Double.place?, hunits]
    rfl
  unfold accepts at h
  simp only [Bool.and_eq_true, Double.numLe_iff, hplace, hzero, Option.some.injEq] at h
  obtain ⟨⟨hfinite, p, q, rfl, hq, hlow⟩, p', q', hp', rfl, hhigh⟩ := h
  cases hq.symm.trans hp'
  cases seconds with
  | nan => cases hfinite
  | infinite negative => cases hfinite
  | finite negative m =>
    refine ⟨negative, m, rfl, ?_⟩
    cases negative with
    | false =>
      have hunits : (m.units : Int) = q := Option.some.inj hq
      exact ⟨by omega, by simp⟩
    | true =>
      have hunits : -(m.units : Int) = q := Option.some.inj hq
      exact ⟨by omega, fun _ => by omega⟩

/-- Seconds that are accepted can be converted. -/
theorem ofSeconds?_of_accepts (h : accepts seconds = true) :
    Duration.ofSeconds? seconds = some (Duration.ofSeconds seconds) := by
  obtain ⟨negative, m, rfl, hle, hsign⟩ := accepts_eq_true h
  have hone : 0 < Magnitude.one := Nat.pos_of_ne_zero Magnitude.one_ne_zero
  have hlength : roundHalfEven (m.units * secondLength) Magnitude.one ≤
      2147483 * secondLength + 1 := by
    refine (roundHalfEven_le_succ _ _).trans (Nat.succ_le_succ ?_)
    refine Nat.div_le_of_le_mul ?_
    calc m.units * secondLength
        ≤ 2147483 * Magnitude.one * secondLength := Nat.mul_le_mul_right _ hle
      _ = Magnitude.one * (2147483 * secondLength) := by
        rw [Nat.mul_comm 2147483, Nat.mul_assoc]
  have hrange : roundHalfEven (m.units * secondLength) Magnitude.one / secondLength < 2 ^ 64 :=
    Nat.div_lt_of_lt_mul (hlength.trans_lt (by decide))
  unfold Duration.ofSeconds?
  dsimp only
  rw [if_neg fun hnegative => hnegative.2 (hsign hnegative.1), if_pos hrange]
  cases negative with
  | false => rfl
  | true =>
    rw [hsign rfl, Nat.zero_mul]
    simp [Duration.ofSeconds, roundHalfEven, hone]

/-! ## Configurations that are accepted -/

theorem ofConfig_eq_ok_iff : ofConfig c = .ok t ↔
    delayOf c = .ok t.delay ∧ periodOf c = .ok t.period ∧ crontabOf c = .ok t.crontab := by
  obtain ⟨delay, period, crontab⟩ := t
  unfold ofConfig
  cases delayOf c with
  | error e => simp
  | ok d =>
    cases periodOf c with
    | error e => simp
    | ok p => cases crontabOf c <;> simp [Except.map]

/-- The delay and the period of a timing are those of a configuration, converted to nanoseconds; a
period of zero seconds is none. -/
structure Converts (c : InjectConfig) (t : Timing) : Prop where
  delay : c.once = true →
    ∃ d, Duration.ofSeconds? (c.onceDelay.getD usualDelay) = some d ∧ t.delay = some d
  no_delay : c.once = false → t.delay = none
  period : ∀ seconds, c.period = some seconds → seconds.numEq .zero = false →
    ∃ p, Duration.ofSeconds? seconds = some p ∧ t.period = some p
  no_period : (∀ seconds, c.period = some seconds → seconds.numEq .zero = true) → t.period = none

/-- A configuration that is accepted is converted. -/
theorem converts_of_ofConfig (h : ofConfig c = .ok t) : Converts c t := by
  obtain ⟨hdelay, hperiod, -⟩ := ofConfig_eq_ok_iff.1 h
  unfold delayOf at hdelay
  unfold periodOf at hperiod
  dsimp only at hdelay
  refine ⟨fun honce => ?_, fun honce => ?_, fun seconds hseconds hne => ?_, fun hnone => ?_⟩
  · rw [honce] at hdelay
    by_cases haccepts : accepts (c.onceDelay.getD usualDelay) = true
    · rw [if_neg (by simp), if_pos haccepts] at hdelay
      exact ⟨_, ofSeconds?_of_accepts haccepts, (Except.ok.inj hdelay).symm⟩
    · rw [if_neg (by simp), if_neg haccepts] at hdelay
      cases hdelay
  · rw [honce, if_pos (by simp)] at hdelay
    exact (Except.ok.inj hdelay).symm
  · rw [hseconds] at hperiod
    dsimp only at hperiod
    by_cases haccepts : accepts seconds = true
    · rw [if_neg (by simp [haccepts]), if_neg (by simp [hne])] at hperiod
      exact ⟨_, ofSeconds?_of_accepts haccepts, (Except.ok.inj hperiod).symm⟩
    · rw [if_pos (by simp [haccepts])] at hperiod
      cases hperiod
  · split at hperiod
    · exact (Except.ok.inj hperiod).symm
    · rename_i seconds hseconds
      split at hperiod
      · cases hperiod
      · rw [if_pos (hnone seconds hseconds)] at hperiod
        exact (Except.ok.inj hperiod).symm

/-- A period comes from seconds that are accepted and not zero. -/
theorem period_eq_some (h : ofConfig c = .ok t) {p : Nat} (hp : t.period = some p) :
    ∃ seconds, c.period = some seconds ∧ p = Duration.ofSeconds seconds := by
  obtain ⟨-, hperiod, -⟩ := ofConfig_eq_ok_iff.1 h
  unfold periodOf at hperiod
  rw [hp] at hperiod
  split at hperiod
  · cases hperiod
  · rename_i seconds hseconds
    split_ifs at hperiod
    · cases hperiod
    · exact ⟨seconds, hseconds, (Option.some.inj (Except.ok.inj hperiod)).symm⟩

end Timing

end Wireflow
