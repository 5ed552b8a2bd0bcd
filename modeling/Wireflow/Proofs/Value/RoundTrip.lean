/-
Values and messages through JSON and back. A value comes back in its normal form, and the normal form
is the value itself exactly when JSON has all its parts: no bytes, and only finite numbers. What has
been to JSON once is not changed by another trip. A message comes back with all its entries; only an
identifier that it has lost is given anew.
-/
import Wireflow.Message
import Wireflow.Proofs.Value.Json
import Mathlib.Tactic

namespace Wireflow

/-! ## Numbers -/

namespace Magnitude

theorem one_eq : one = Nat.pow 2 1074 := by
  unfold one
  exact Eq.refl _

theorem log2_mul_lt {count bits unit k : Nat} (h : count < 2 ^ bits) (hbits : 0 < bits)
    (hunit : unit = Nat.pow 2 k) : (count * unit).log2 < bits + k := by
  subst hunit
  rcases Nat.eq_zero_or_pos count with rfl | hpos
  · rw [Nat.zero_mul, Nat.log2_zero]
    omega
  · have hpow := Nat.two_pow_pos k
    refine (Nat.log2_lt (Nat.mul_ne_zero (by omega) (by rw [Nat.pow_eq]; omega))).2 ?_
    rw [Nat.pow_eq, Nat.pow_add]
    exact Nat.mul_lt_mul_of_pos_right h hpow

/-- An integer of 64 bits is far below the greatest number. -/
theorem isSome_round?_word {count : Nat} (h : count < 2 ^ 64) :
    (round? (count * one) 1).isSome = true := by
  have hexp : exponentFor (count * one) ≤ 2044 := by
    have hlog := log2_mul_lt h (by decide) one_eq
    unfold exponentFor
    omega
  unfold round?
  simp only [Nat.div_one]
  split
  · rw [dif_pos (by omega)]; rfl
  · rw [dif_pos (by omega)]; rfl

end Magnitude

namespace Double

theorem isFinite_ofInt {z : Int} (h : Json.InWord z) : (ofInt z).isFinite = true := by
  have hword : z.natAbs < 2 ^ 64 := by unfold Json.InWord at h; omega
  obtain ⟨m, hm⟩ := Option.isSome_iff_exists.1 (Magnitude.isSome_round?_word hword)
  unfold ofInt ofRatio
  rw [hm]
  rfl

/-- The two zeros are equal as numbers, and every finite number is equal to itself. -/
theorem numEq_finite {negative negative' : Bool} {m : Magnitude}
    (h : negative = negative' ∨ m.mantissa = 0) :
    (finite negative m).numEq (finite negative' m) = true := by
  have hplace : (finite negative m).place? = (finite negative' m).place? := by
    rcases h with rfl | hzero
    · rfl
    · have hunits := m.units_eq_zero_iff.2 hzero
      cases negative <;> cases negative' <;> simp [place?, hunits]
  unfold numEq compare?
  rw [hplace]
  cases negative' <;> simp [place?]

end Double

namespace Value

/-! ## Values that JSON has -/

mutual

/-- JSON has all parts of the value: no bytes, and only finite numbers, at every depth. -/
def IsNative : Value → Prop
  | .number d => d.isFinite = true
  | .bytes _ => False
  | .array items => NativeItems items
  | .object entries => NativeEntries entries
  | _ => True

/-- JSON has all parts of the items. -/
def NativeItems : List Value → Prop
  | [] => True
  | v :: rest => v.IsNative ∧ NativeItems rest

/-- JSON has all parts of the entries. -/
def NativeEntries : List (String × Value) → Prop
  | [] => True
  | (_, v) :: rest => v.IsNative ∧ NativeEntries rest

end

theorem same_jsonNormal_number (d : Double) :
    same d.jsonNormal (.number d) = true ↔ d.isFinite = true := by
  cases d with
  | nan => simp [Double.jsonNormal, same, Double.isFinite]
  | infinite negative => simp [Double.jsonNormal, same, Double.isFinite]
  | finite negative m =>
    simp only [Double.jsonNormal, same, Double.isFinite, iff_true]
    apply Double.numEq_finite
    -- the normal form keeps the sign of all numbers but zero
    by_cases hzero : m.mantissa = 0
    · exact .inr hzero
    · left; simp [hzero]

mutual

/-- The normal form equals the value exactly when JSON has all its parts. -/
theorem same_jsonNormal_iff : ∀ v : Value, same v.jsonNormal v = true ↔ v.IsNative
  | .null => by simp [jsonNormal, same, IsNative]
  | .bool b => by simp [jsonNormal, same, IsNative]
  | .number d => by rw [jsonNormal, same_jsonNormal_number, IsNative]
  | .string s => by simp [jsonNormal, same, IsNative]
  | .bytes b => by simp [jsonNormal, same, IsNative]
  | .array items => by rw [jsonNormal, same, sameItems_jsonNormalItems_iff items, IsNative]
  | .object entries => by
    rw [jsonNormal, same, sameEntries_jsonNormalEntries_iff entries, IsNative]

theorem sameItems_jsonNormalItems_iff :
    ∀ items : List Value, sameItems (jsonNormalItems items) items = true ↔ NativeItems items
  | [] => by simp [jsonNormalItems, sameItems, NativeItems]
  | v :: rest => by
    rw [jsonNormalItems, sameItems, Bool.and_eq_true, same_jsonNormal_iff v,
      sameItems_jsonNormalItems_iff rest, NativeItems]

theorem sameEntries_jsonNormalEntries_iff :
    ∀ entries : List (String × Value),
      sameEntries (jsonNormalEntries entries) entries = true ↔ NativeEntries entries
  | [] => by simp [jsonNormalEntries, sameEntries, NativeEntries]
  | (name, v) :: rest => by
    rw [jsonNormalEntries, sameEntries, Bool.and_eq_true, Bool.and_eq_true, same_jsonNormal_iff v,
      sameEntries_jsonNormalEntries_iff rest, NativeEntries]
    simp

end

/-! ## A second trip -/

/-- The number of a byte is in normal form. -/
theorem jsonNormal_byte (x : UInt8) :
    (Double.ofNat x.toNat).jsonNormal = .number (Double.ofNat x.toNat) := by
  have hx : x.toNat < 2 ^ 64 := by
    have := x.toNat_lt
    omega
  obtain ⟨m, hm⟩ := Option.isSome_iff_exists.1 (Magnitude.isSome_round?_word hx)
  unfold Double.ofNat Double.ofRatio
  rw [hm]
  rfl

theorem jsonNormal_jsonNormal_number (d : Double) : d.jsonNormal.jsonNormal = d.jsonNormal := by
  cases d with
  | nan => rfl
  | infinite negative => rfl
  | finite negative m =>
    -- the sign that zero has lost is lost already
    simp [Double.jsonNormal, jsonNormal]

theorem jsonNormalItems_bytes (b : List UInt8) :
    jsonNormalItems (b.map fun x => .number (Double.ofNat x.toNat)) =
      b.map fun x => .number (Double.ofNat x.toNat) := by
  induction b with
  | nil => rfl
  | cons x rest ih =>
    rw [List.map_cons, jsonNormalItems, ih, jsonNormal, jsonNormal_byte]

mutual

/-- The normal form is in normal form. -/
theorem jsonNormal_jsonNormal : ∀ v : Value, v.jsonNormal.jsonNormal = v.jsonNormal
  | .null => rfl
  | .bool _ => rfl
  | .number d => jsonNormal_jsonNormal_number d
  | .string _ => rfl
  | .bytes b => by rw [jsonNormal, jsonNormal, jsonNormalItems_bytes]
  | .array items => by rw [jsonNormal, jsonNormal, jsonNormalItems_jsonNormalItems items]
  | .object entries => by rw [jsonNormal, jsonNormal, jsonNormalEntries_jsonNormalEntries entries]

theorem jsonNormalItems_jsonNormalItems :
    ∀ items : List Value, jsonNormalItems (jsonNormalItems items) = jsonNormalItems items
  | [] => rfl
  | v :: rest => by
    rw [jsonNormalItems, jsonNormalItems, jsonNormal_jsonNormal v,
      jsonNormalItems_jsonNormalItems rest]

theorem jsonNormalEntries_jsonNormalEntries :
    ∀ entries : List (String × Value),
      jsonNormalEntries (jsonNormalEntries entries) = jsonNormalEntries entries
  | [] => rfl
  | (name, v) :: rest => by
    rw [jsonNormalEntries, jsonNormalEntries, jsonNormal_jsonNormal v,
      jsonNormalEntries_jsonNormalEntries rest]

end

/-! ## Trees as values -/

mutual

/-- A JSON tree is a value that JSON has: its integers are rounded to finite numbers. -/
theorem isNative_ofJson : ∀ j : Json, (ofJson j).IsNative
  | .null => trivial
  | .bool _ => trivial
  | .number (.integer _ hword) => Double.isFinite_ofInt hword
  | .number (.float _ _) => rfl
  | .string _ => trivial
  | .array items => nativeItems_ofJsonItems items
  | .object members => nativeEntries_ofJsonMembers members

theorem nativeItems_ofJsonItems : ∀ items : List Json, NativeItems (ofJsonItems items)
  | [] => trivial
  | j :: rest => ⟨isNative_ofJson j, nativeItems_ofJsonItems rest⟩

theorem nativeEntries_ofJsonMembers :
    ∀ members : List (String × Json), NativeEntries (ofJsonMembers members)
  | [] => trivial
  | (_, j) :: rest => ⟨isNative_ofJson j, nativeEntries_ofJsonMembers rest⟩

end

/-! ## Messages -/

theorem get?_jsonNormalEntries (name : String) (entries : Entries) :
    Table.get? name (jsonNormalEntries entries) = (Table.get? name entries).map jsonNormal := by
  induction entries with
  | nil => rfl
  | cons e rest ih =>
    obtain ⟨k, v⟩ := e
    rw [jsonNormalEntries, Table.get?_cons, Table.get?_cons]
    split
    · rfl
    · exact ih

/-- Equal entries stay equal when the same text is put under the same name in both. -/
theorem sameEntries_insert_string (name text : String) :
    ∀ {a b : List (String × Value)}, sameEntries a b = true →
      sameEntries (Table.insert name (.string text) a) (Table.insert name (.string text) b) = true
  | [], [], _ => by simp [Table.insert, sameEntries, same]
  | (k, v) :: a, (l, w) :: b, h => by
    simp only [sameEntries, Bool.and_eq_true, beq_iff_eq] at h
    obtain ⟨⟨rfl, hv⟩, hrest⟩ := h
    simp only [Table.insert]
    split
    · simp [sameEntries, same, hrest]
    · split
      · simp [sameEntries, same, hv, hrest]
      · simp [sameEntries, hv, sameEntries_insert_string name text hrest]

end Value

namespace Message

open Value (jsonNormalEntries NativeEntries get?_jsonNormalEntries)

/-- A message comes back from JSON with its entries in normal form, identified anew when it has no
identifier. -/
theorem ofJson?_toJson (fresh : String) (m : Message) :
    ofJson? fresh m.toJson = some (ofEntries fresh (jsonNormalEntries m.entries)) := by
  unfold ofJson? toJson
  rw [Value.ofJson, Value.ofJsonMembers_toJsonEntries]

theorem ofEntries_of_get?_eq_some {fresh : String} {entries : Entries} {v : Value}
    (h : Table.get? idName entries = some v) : ofEntries fresh entries = ⟨entries⟩ := by
  unfold ofEntries
  rw [h]

theorem ofEntries_of_get?_eq_none {fresh : String} {entries : Entries}
    (h : Table.get? idName entries = none) :
    ofEntries fresh entries = ⟨Table.insert idName (.string fresh) entries⟩ := by
  unfold ofEntries
  rw [h]

/-- The identifier of a message is the same in the normal form of its entries. -/
theorem id?_jsonNormalEntries (m : Message) : id? ⟨jsonNormalEntries m.entries⟩ = m.id? := by
  unfold id? get?
  rw [get?_jsonNormalEntries]
  cases Table.get? idName m.entries with
  | none => rfl
  | some v =>
    cases v with
    | number d => cases d <;> rfl
    | _ => rfl

/-- Values and messages through JSON. A value comes back in its normal form, which equals the value
exactly when JSON has all its parts, and a second trip changes nothing more. The value of a JSON tree
comes back equal. A message all of whose values JSON has comes back equal, its identifier included,
when it has one; a message that has lost its identifier comes back with the fresh one, and equal apart
from it. -/
theorem json_round_trip :
    (∀ v : Value, Value.ofJson v.toJson = v.jsonNormal ∧
      (Value.same (Value.ofJson v.toJson) v = true ↔ v.IsNative) ∧
      Value.ofJson (Value.ofJson v.toJson).toJson = Value.ofJson v.toJson) ∧
    (∀ j : Json, Value.same (Value.ofJson (Value.ofJson j).toJson) (Value.ofJson j) = true) ∧
    ∀ (fresh : String) (m : Message), NativeEntries m.entries →
      ∃ m', ofJson? fresh m.toJson = some m' ∧
        (m.get? idName ≠ none → m'.same m = true ∧ m'.id? = m.id?) ∧
        (m.get? idName = none → m'.same (m.insert idName (.string fresh)) = true) := by
  refine ⟨fun v => ⟨Value.ofJson_toJson v, ?_, ?_⟩, fun j => ?_, fun fresh m hnative => ?_⟩
  · rw [Value.ofJson_toJson]
    exact Value.same_jsonNormal_iff v
  · rw [Value.ofJson_toJson, Value.ofJson_toJson, Value.jsonNormal_jsonNormal]
  · rw [Value.ofJson_toJson]
    exact (Value.same_jsonNormal_iff _).2 (Value.isNative_ofJson j)
  · have hsame := (Value.sameEntries_jsonNormalEntries_iff m.entries).2 hnative
    have hget := get?_jsonNormalEntries idName m.entries
    refine ⟨_, ofJson?_toJson fresh m, fun hid => ?_, fun hid => ?_⟩
    · -- the identifier is found in the normal form, so no fresh one is put in
      obtain ⟨v, hv⟩ := Option.ne_none_iff_exists'.1 hid
      rw [show Table.get? idName m.entries = some v from hv] at hget
      rw [ofEntries_of_get?_eq_some hget]
      exact ⟨hsame, id?_jsonNormalEntries m⟩
    · rw [show Table.get? idName m.entries = none from hid] at hget
      rw [ofEntries_of_get?_eq_none hget]
      exact Value.sameEntries_insert_string idName fresh hsame

/-- A message with a negative zero and a nested null comes back equal, and under its own
identifier. -/
theorem json_round_trip_negative_zero :
    let m : Message := ⟨[("_msgid", .string "m1"),
      ("payload", .array [.number (.finite true Magnitude.zero), .object [("n", .null)]])]⟩
    NativeEntries m.entries ∧ m.get? idName ≠ none ∧
      ∃ m', ofJson? "m2" m.toJson = some m' ∧ m'.same m = true ∧ m'.id? = some "m1" := by
  intro m
  have hnative : NativeEntries m.entries := ⟨trivial, ⟨rfl, ⟨trivial, trivial⟩, trivial⟩, trivial⟩
  have hid : m.get? idName ≠ none := by simp [m, get?, Table.get?, idName]
  obtain ⟨m', hback, hsame, -⟩ := json_round_trip.2.2 "m2" m hnative
  exact ⟨hnative, hid, m', hback, (hsame hid).1, (hsame hid).2⟩

/-- A message from which the identifier has been removed does not come back as it was: it is given a
new one, whichever that is. -/
theorem not_restored_without_id :
    let m := (ofEntries "m1" [("payload", .bool true)]).erase idName
    NativeEntries m.entries ∧
      ∀ fresh, ∃ m', ofJson? fresh m.toJson = some m' ∧ m'.same m = false := by
  intro m
  refine ⟨⟨trivial, trivial⟩, fun fresh => ⟨_, ofJson?_toJson fresh m, ?_⟩⟩
  rfl

end Message

end Wireflow
