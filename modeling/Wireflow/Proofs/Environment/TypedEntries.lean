/-
Entries and properties of the same type and value. Both are compiled from the word for a type and a raw
value: an entry is asked for by its name, a property is evaluated in a setting. The two compilers accept
the same values, and what they make of them has the same value in every process but for one type. The
name of a variable is a template in a property when it has an opening, while an entry takes it as it is
written.
-/
import Wireflow.Proofs.Environment.Substitution

namespace Wireflow

/-! ## Compiling -/

/-- The types whose values an environment and a node's configuration can both hold. -/
def PropertyType.ofEntries : List PropertyType :=
  [.str, .num, .bool, .json, .bin, .env]

/-- The property of the type and the value of an entry. -/
def EnvEntry.property : EnvEntry → Property
  | .value v => .constant v
  | .template text => .template text
  | .variable other =>
    if Template.isTemplate other then .template other else .variable (Text.trim other)

variable {now : Double} {type : PropertyType} {raw : Json} {name : String} {e : EnvEntry}

/-- A property is compiled as its entry is, and refused for the same fault. -/
theorem Property.compile_eq_map (htype : type ∈ PropertyType.ofEntries) (now : Double)
    (name : String) (raw : Json) :
    Property.compile now type.name raw =
      (EnvVar.compile now ⟨name, raw, type.name⟩).map EnvEntry.property := by
  unfold Property.compile EnvVar.compile
  simp only [PropertyType.parse_name]
  unfold Property.compileTyped
  cases type with
  | str => by_cases hmarks : Template.isTemplate raw.plainText = true <;> simp [hmarks] <;> rfl
  | env => rfl
  | num => cases hread : Literal.read now .num raw <;> simp [hread] <;> rfl
  | bool => cases hread : Literal.read now .bool raw <;> simp [hread] <;> rfl
  | json => cases hread : Literal.read now .json raw <;> simp [hread] <;> rfl
  | bin => cases hread : Literal.read now .bin raw <;> simp [hread] <;> rfl
  | date => simp [PropertyType.ofEntries] at htype
  | msg => simp [PropertyType.ofEntries] at htype
  | flow => simp [PropertyType.ofEntries] at htype
  | global => simp [PropertyType.ofEntries] at htype

/-- An entry names another variable exactly when its type says so, by its text as it is written. -/
theorem EnvVar.compile_eq_variable_iff (h : EnvVar.compile now ⟨name, raw, type.name⟩ = .ok e)
    (other : String) : e = .variable other ↔ type = .env ∧ other = raw.plainText := by
  unfold EnvVar.compile at h
  split at h
  · cases h
  · rename_i htype
    cases (PropertyType.parse_name type).symm.trans htype
    cases h
    simp [eq_comm]
  · rename_i htype
    cases (PropertyType.parse_name type).symm.trans htype
    cases h
    by_cases hmarks : Template.isTemplate raw.plainText = true <;> simp [hmarks]
  · rename_i henv _ htype
    cases (PropertyType.parse_name type).symm.trans htype
    split at h
    · cases h
      simpa using fun htype' => absurd htype' henv
    · cases h

theorem EnvList.compile_singleton (now : Double) (v : EnvVar) :
    EnvList.compile now [v] = (v.compile now).map fun e => [(v.name, e)] := by
  unfold compile
  cases v.compile now <;> rfl

/-! ## Values -/

namespace Identity

/-- The identity with other entries of its flow. -/
def withEnv (i : Identity) (l : EnvList) : Identity :=
  { i with flow := { i.flow with env := l } }

variable {i : Identity} {p : ProcessEnv}

theorem sameNames_withEnv (i : Identity) (l : EnvList) : SameNames i (i.withEnv l) :=
  ⟨rfl, rfl, rfl, rfl, rfl⟩

/-- Without groups, the one entry of the flow is resolved against the process. -/
theorem env?_withEnv (hgroups : i.groups = []) (hreserved : i.reserved? name = none)
    (hname : Text.trim name = name) (e : EnvEntry) :
    (i.withEnv [(name, e)]).env? p name = i.entryValue? p [] e := by
  have hsame := sameNames_withEnv i [(name, e)]
  have hlevels : (i.withEnv [(name, e)]).levels = [[(name, e)]] := by
    unfold levels withEnv
    rw [hgroups]
    rfl
  have hfind : EnvList.find? [(name, e)] name = some e := by
    simp [EnvList.find?]
  unfold env? reservedOr
  rw [hname, hsame.reserved?_eq, hreserved, hlevels, resolve_cons, hfind]
  exact hsame.entryValue?_eq (hsame.resolve_eq (fun _ => rfl) []) e

/-- Without groups and entries, only the process is asked. -/
theorem resolve_levels (hgroups : i.groups = []) (henv : i.flow.env = []) :
    i.resolve p i.levels = i.resolve p [] := by
  unfold levels
  rw [hgroups, henv]
  funext name
  exact resolve_cons i p [] [] name

/-- An entry has the value of its property, unless it names a variable by a text with an opening. -/
theorem evaluate?_property (hgroups : i.groups = []) (henv : i.flow.env = [])
    (hplain : ∀ other, e = .variable other → Template.isTemplate other = false)
    (contexts : Contexts) (time : Double) (msg : Option Message) :
    e.property.evaluate? ⟨i, p, contexts, time⟩ msg = i.entryValue? p [] e := by
  cases e with
  | value v => rfl
  | template text =>
    show some (Value.string (i.substitute p text)) = _
    unfold substitute entryValue?
    rw [resolve_levels hgroups henv]
  | «variable» other =>
    have hproperty : (EnvEntry.variable other).property = .variable (Text.trim other) := by
      simp [EnvEntry.property, hplain other rfl]
    rw [hproperty]
    show i.env? p (Text.trim other) = _
    unfold env? entryValue?
    rw [resolve_levels hgroups henv, Text.trim_trim]

/-- No name with an opening is reserved. -/
theorem reserved?_trim_of_isTemplate (i : Identity) {text : String}
    (h : Template.isTemplate text = true) : i.reserved? (Text.trim text) = none := by
  have hdollar : '$' ∈ (Text.trim text).toList := by
    unfold Text.trim
    rw [String.toList_ofList]
    exact Text.mem_trimChars ((Template.marks_iff.1 h).subset (by simp)) rfl
  rw [← Option.not_isSome_iff_eq_none, isSome_reserved?_iff]
  generalize Text.trim text = name at hdollar
  rintro (hname | ⟨hname, -⟩)
  · simp only [List.mem_cons, List.not_mem_nil, or_false] at hname
    rcases hname with rfl | rfl | rfl | rfl | rfl <;> revert hdollar <;> decide
  · simp only [List.mem_cons, List.not_mem_nil, or_false] at hname
    rcases hname with rfl | rfl <;> revert hdollar <;> decide

/-- A name with an opening is looked up as it is written by an entry, and expanded by a property. -/
theorem entryValue?_of_isTemplate {text : String} (h : Template.isTemplate text = true) :
    i.entryValue? p [] (.variable text) = p.find? (Text.trim text) := by
  show i.reservedOr (i.resolve p []) (Text.trim text) = p.find? (Text.trim text)
  unfold reservedOr
  rw [reserved?_trim_of_isTemplate i h]
  rfl

/-- An entry and a property of the same type and value are compiled or refused together. The variable of
the entry then has the value of the property in every process, unless the type is that of a variable and
the text has an opening: the property replaces the references of the text, and the entry asks the process
for a variable with that text as its name. -/
theorem env?_eq_evaluate?_iff (now : Double) {type : PropertyType} (raw : Json) {name : String}
    {i : Identity} (htype : type ∈ PropertyType.ofEntries) (hname : Text.trim name = name)
    (hreserved : i.reserved? name = none) (hgroups : i.groups = []) (henv : i.flow.env = []) :
    ((∃ l, EnvList.compile now [⟨name, raw, type.name⟩] = .ok l) ↔
      ∃ prop, Property.compile now type.name raw = .ok prop) ∧
    ∀ l prop, EnvList.compile now [⟨name, raw, type.name⟩] = .ok l →
      Property.compile now type.name raw = .ok prop →
      ((∀ p contexts time msg,
          (i.withEnv l).env? p name = prop.evaluate? ⟨i, p, contexts, time⟩ msg) ↔
        (type = .env → ¬['$', '\x7b'] <:+: raw.plainText.toList)) ∧
      (type = .env → ['$', '\x7b'] <:+: raw.plainText.toList → ∀ p contexts time msg,
        (i.withEnv l).env? p name = p.find? (Text.trim raw.plainText) ∧
          prop.evaluate? ⟨i, p, contexts, time⟩ msg =
            some (.string (i.substitute p raw.plainText))) := by
  rw [EnvList.compile_singleton, Property.compile_eq_map htype now name raw]
  cases hcompile : EnvVar.compile now ⟨name, raw, type.name⟩ with
  | error fault => simp [Except.map]
  | ok e =>
    refine ⟨⟨fun _ => ⟨_, rfl⟩, fun _ => ⟨_, rfl⟩⟩, ?_⟩
    rintro _ _ ⟨⟩ ⟨⟩
    have hother := EnvVar.compile_eq_variable_iff hcompile
    simp only [env?_withEnv hgroups hreserved hname]
    have hdiffer : type = .env → ['$', '\x7b'] <:+: raw.plainText.toList →
        ∀ p contexts time msg, i.entryValue? p [] e = p.find? (Text.trim raw.plainText) ∧
          e.property.evaluate? ⟨i, p, contexts, time⟩ msg =
            some (.string (i.substitute p raw.plainText)) := by
      intro henvType hopen p contexts time msg
      obtain rfl := (hother raw.plainText).2 ⟨henvType, rfl⟩
      have hmarks : Template.isTemplate raw.plainText = true := Template.marks_iff.2 hopen
      have hproperty : (EnvEntry.variable raw.plainText).property = .template raw.plainText :=
        if_pos hmarks
      rw [entryValue?_of_isTemplate hmarks, hproperty]
      exact ⟨rfl, rfl⟩
    refine ⟨⟨?_, ?_⟩, hdiffer⟩
    · -- in a process without variables the entry has no value
      intro hagree henvType hopen
      obtain ⟨hentry, hproperty⟩ := hdiffer henvType hopen [] (.inMemory .empty) .zero none
      have hfound := (hagree [] (.inMemory .empty) .zero none).trans hproperty
      rw [hentry] at hfound
      cases hfound
    · intro hplain p contexts time msg
      refine (evaluate?_property hgroups henv ?_ contexts time msg).symm
      intro other hvariable
      obtain ⟨henvType, rfl⟩ := (hother other).1 hvariable
      exact Bool.eq_false_iff.2 fun hmarks => hplain henvType (Template.marks_iff.1 hmarks)

/-- A node in a flow without entries. -/
def bare : Identity where
  id := ⟨1⟩
  name := "node one"
  type := "inject"
  flow := { id := ⟨256⟩, label := "Flow 1", env := [] }
  groups := []

/-- The name of a variable between blanks says the same in an entry and in a property; a reference to it
is looked up as it is written by an entry. -/
theorem env?_eq_evaluate?_iff_reference :
    (∀ p contexts time msg, (bare.withEnv [("X", .variable " FOO ")]).env? p "X" =
      (Property.variable "FOO").evaluate? ⟨bare, p, contexts, time⟩ msg) ∧
    ∀ p contexts time msg,
      (bare.withEnv [("X", .variable "$\x7bFOO\x7d")]).env? p "X" = p.find? "$\x7bFOO\x7d" ∧
        (Property.template "$\x7bFOO\x7d").evaluate? ⟨bare, p, contexts, time⟩ msg =
          some (.string (bare.substitute p "$\x7bFOO\x7d")) := by
  have htype : PropertyType.env ∈ PropertyType.ofEntries := by decide
  have htrim : Text.trim "X" = "X" := by cbv
  obtain ⟨-, hplain⟩ :=
    env?_eq_evaluate?_iff .zero (.string " FOO ") htype htrim (i := bare) rfl rfl rfl
  obtain ⟨-, hopening⟩ :=
    env?_eq_evaluate?_iff .zero (.string "$\x7bFOO\x7d") htype htrim (i := bare) rfl rfl rfl
  obtain ⟨hagree, -⟩ := hplain [("X", .variable " FOO ")] (.variable "FOO") rfl (by cbv)
  obtain ⟨-, hdiffer⟩ :=
    hopening [("X", .variable "$\x7bFOO\x7d")] (.template "$\x7bFOO\x7d") rfl (by cbv)
  have htext : Text.trim (Json.string "$\x7bFOO\x7d").plainText = "$\x7bFOO\x7d" := by cbv
  rw [htext] at hdiffer
  exact ⟨hagree.2 fun _ => by decide, hdiffer rfl (by decide)⟩

/-- The entry of a reference has no value in a process with the variable, whose value the property of the
same type and text has. -/
theorem not_env?_eq_evaluate? :
    ¬∀ (now : Double) (type : PropertyType) (raw : Json) (name : String) (i : Identity),
      type ∈ PropertyType.ofEntries → Text.trim name = name → i.reserved? name = none →
      i.groups = [] → i.flow.env = [] →
      ∀ l prop, EnvList.compile now [⟨name, raw, type.name⟩] = .ok l →
        Property.compile now type.name raw = .ok prop →
        ∀ p contexts time msg,
          (i.withEnv l).env? p name = prop.evaluate? ⟨i, p, contexts, time⟩ msg := by
  intro h
  let p : ProcessEnv := [("FOO", "bar")]
  have hagree := h .zero .env (.string "$\x7bFOO\x7d") "X" bare (by decide) (by cbv) rfl rfl rfl
    [("X", .variable "$\x7bFOO\x7d")] (.template "$\x7bFOO\x7d") rfl (by cbv) p (.inMemory .empty)
    .zero none
  have hentry : (bare.withEnv [("X", .variable "$\x7bFOO\x7d")]).env? p "X" = none := by cbv
  rw [hentry] at hagree
  cases hagree

end Identity

end Wireflow
