/-
Values through JSON: what a value is after a trip to JSON and back. Bytes become the array of their
numbers, numbers that are not finite become null, and zero loses its sign; all else comes back as it
was. Whole numbers go as integers below `9 * 10 ^ 15` and come back exactly, since they are whole
counts of the unit one.
-/
import Wireflow.Value.Json

namespace Wireflow

/-! ## Numbers -/

namespace Magnitude

theorem twoPow_ne_zero (n : Nat) : Nat.pow 2 n ≠ 0 := Nat.ne_of_gt (Nat.two_pow_pos n)

theorem one_ne_zero : one ≠ 0 := by
  unfold one
  apply twoPow_ne_zero

theorem units_eq_zero_iff (m : Magnitude) : m.units = 0 ↔ m.mantissa = 0 := by
  unfold units
  rw [Nat.mul_eq_zero, or_iff_left (twoPow_ne_zero m.exponent)]

end Magnitude

namespace Double

/-- The number of a size that is a whole count of ones. -/
theorem ofRatio_of_units {m : Magnitude} {count : Nat} (h : count * Magnitude.one = m.units)
    (negative : Bool) : ofRatio negative count 1 = .finite negative m := by
  unfold ofRatio
  rw [h, Magnitude.round?_units]
  rfl

/-- A number that has an integer below a bound is finite, and a whole count of ones. -/
theorem wholeBelow?_eq_some {bound : Nat} {d : Double} {z : Int}
    (h : d.wholeBelow? bound = some z) :
    ∃ negative m count, d = .finite negative m ∧ count * Magnitude.one = m.units ∧ count < bound ∧
      z = if negative then -(count : Int) else count := by
  unfold wholeBelow? at h
  split at h
  · rename_i hd
    cases h
    rw [Bool.and_eq_true] at hd
    obtain ⟨hwhole, hbelow⟩ := hd
    cases d with
    | finite negative m =>
      unfold isWhole at hwhole
      refine ⟨negative, m, m.units / Magnitude.one, rfl, ?_, of_decide_eq_true hbelow, ?_⟩
      · exact Nat.div_mul_cancel (Nat.dvd_of_mod_eq_zero (of_decide_eq_true hwhole))
      · cases negative <;> rfl
    | nan => cases hwhole
    | infinite negative => cases hwhole
  · cases h

/-- Zero has an integer below every bound that is not zero. -/
theorem wholeBelow?_zero {bound : Nat} (hbound : 0 < bound) {negative : Bool} {m : Magnitude}
    (h : m.mantissa = 0) : (finite negative m).wholeBelow? bound ≠ none := by
  have hunits := m.units_eq_zero_iff.2 h
  have hwhole : (finite negative m).isWhole = true := by
    show decide (m.units % Magnitude.one = 0) = true
    rw [hunits, Nat.zero_mod]
    rfl
  have habs : (finite negative m).wholeAbs = 0 := by
    show m.units / Magnitude.one = 0
    rw [hunits, Nat.zero_div]
  unfold wholeBelow?
  rw [hwhole, habs, Bool.true_and, decide_eq_true hbound]
  exact Option.some_ne_none _

end Double

/-- A number as it is after a trip to JSON and back. -/
def Double.jsonNormal : Double → Value
  | .finite negative m => .number (.finite (negative && m.mantissa != 0) m)
  | _ => .null

namespace Value

/-- A number comes back from JSON as it was, but for the sign of zero; one that is not finite comes
back as null. -/
theorem ofJson_numberJson (d : Double) : ofJson (numberJson d) = d.jsonNormal := by
  unfold numberJson
  split
  · rename_i z hz
    obtain ⟨negative, m, count, rfl, hunits, hbelow, hsign⟩ := Double.wholeBelow?_eq_some hz
    have hword : Json.InWord z := by
      unfold Json.InWord
      unfold integerBound at hbelow
      split at hsign <;> omega
    have habs : z.natAbs = count := by split at hsign <;> omega
    have hzero : count = 0 ↔ m.mantissa = 0 := by
      rw [← m.units_eq_zero_iff, ← hunits, Nat.mul_eq_zero, or_iff_left Magnitude.one_ne_zero]
    -- only zero has an integer without a sign of its own
    have hnegative : decide (z < 0) = (negative && m.mantissa != 0) := by
      rw [Bool.eq_iff_iff, decide_eq_true_iff, Bool.and_eq_true, bne_iff_ne, ne_eq, ← hzero]
      cases negative with
      | false =>
        rw [if_neg Bool.false_ne_true] at hsign
        exact ⟨fun hz => by omega, fun h => absurd h.1 Bool.false_ne_true⟩
      | true =>
        rw [if_pos rfl] at hsign
        exact ⟨fun hz => ⟨rfl, by omega⟩, fun ⟨_, hcount⟩ => by omega⟩
    rw [dif_pos hword]
    change Value.number (Double.ofRatio (decide (z < 0)) z.natAbs 1) = _
    rw [habs, hnegative, Double.ofRatio_of_units hunits]
    rfl
  · rename_i hwhole
    cases d with
    | finite negative m =>
      have hzero : (m.mantissa != 0) = true :=
        bne_iff_ne.2 fun h => Double.wholeBelow?_zero (by decide) h hwhole
      show Value.number (.finite negative m) = .number (.finite (negative && m.mantissa != 0) m)
      rw [hzero, Bool.and_true]
    | nan => rfl
    | infinite negative => rfl

/-! ## Values -/

mutual

/-- A value as it is after a trip to JSON and back: bytes are arrays of their numbers, numbers that
are not finite are null, and zero has no sign, at every depth. -/
def jsonNormal : Value → Value
  | .null => .null
  | .bool b => .bool b
  | .number d => d.jsonNormal
  | .string s => .string s
  | .bytes b => .array (b.map fun x => .number (Double.ofNat x.toNat))
  | .array items => .array (jsonNormalItems items)
  | .object entries => .object (jsonNormalEntries entries)

/-- The items as they are afterwards. -/
def jsonNormalItems : List Value → List Value
  | [] => []
  | v :: rest => jsonNormal v :: jsonNormalItems rest

/-- The entries as they are afterwards. -/
def jsonNormalEntries : List (String × Value) → List (String × Value)
  | [] => []
  | (name, v) :: rest => (name, jsonNormal v) :: jsonNormalEntries rest

end

/-- The number of a byte comes back as it was. -/
theorem ofJson_byte (x : UInt8) : ofJson (Json.ofNat x.toNat) = .number (Double.ofNat x.toNat) := by
  have hx : x.toNat < 256 := x.toNat_lt
  have hword : Json.InWord (x.toNat : Int) := by unfold Json.InWord; omega
  unfold Json.ofNat
  rw [dif_pos hword]
  change Value.number (Double.ofRatio (decide ((x.toNat : Int) < 0)) (x.toNat : Int).natAbs 1) = _
  rw [decide_eq_false (by omega), Int.natAbs_natCast]
  rfl

theorem ofJsonItems_bytes (b : List UInt8) :
    ofJsonItems (b.map fun x => Json.ofNat x.toNat) =
      b.map fun x => .number (Double.ofNat x.toNat) := by
  induction b with
  | nil => rfl
  | cons x rest ih => rw [List.map_cons, ofJsonItems, ofJson_byte, ih, List.map_cons]

mutual

/-- A value comes back from JSON in its normal form. -/
theorem ofJson_toJson : ∀ v : Value, ofJson v.toJson = v.jsonNormal
  | .null => rfl
  | .bool _ => rfl
  | .number d => ofJson_numberJson d
  | .string _ => rfl
  | .bytes b => by rw [toJson, ofJson, ofJsonItems_bytes, jsonNormal]
  | .array items => by rw [toJson, ofJson, ofJsonItems_toJsonItems, jsonNormal]
  | .object entries => by rw [toJson, ofJson, ofJsonMembers_toJsonEntries, jsonNormal]

theorem ofJsonItems_toJsonItems :
    ∀ items : List Value, ofJsonItems (toJsonItems items) = jsonNormalItems items
  | [] => rfl
  | v :: rest => by
    rw [toJsonItems, ofJsonItems, ofJson_toJson v, ofJsonItems_toJsonItems rest, jsonNormalItems]

theorem ofJsonMembers_toJsonEntries :
    ∀ entries : List (String × Value),
      ofJsonMembers (toJsonEntries entries) = jsonNormalEntries entries
  | [] => rfl
  | (name, v) :: rest => by
    rw [toJsonEntries, ofJsonMembers, ofJson_toJson v, ofJsonMembers_toJsonEntries rest,
      jsonNormalEntries]

end

end Value

end Wireflow
