/-
Which lists of records are documents. A list is accepted exactly when each of its records can be read
on its own, their identifiers differ as numbers, and the owners that groups and nodes name are in the
list, before or after them. So the order of the records does not matter for acceptance, and another
order gives the same definitions in that other order.
-/
import Wireflow.Proofs.Document.Identifiers
import Mathlib.Data.List.Forall2
import Mathlib.Data.List.Perm.Basic

namespace Wireflow

/-! ## Settings of a node -/

namespace Record

/-- What no field touches stays as it was before the members were read. -/
theorem readMembers_keeps {fields : List (Member σ)} (get : σ → α)
    (hkeep : ∀ f ∈ fields, ∀ j s s', f.read j s = .ok s' → get s' = get s)
    (members : List (String × Json)) :
    ∀ (seen : List String) (s s' : σ), readMembers fields seen members s = .ok s' →
      get s' = get s := by
  induction members with
  | nil =>
    intro seen s s' h
    cases h
    rfl
  | cons m rest ih =>
    obtain ⟨name, j⟩ := m
    intro seen s s' h
    unfold readMembers at h
    split at h
    · exact ih seen s s' h
    · rename_i f hfind
      split at h
      · cases h
      · split at h
        · rename_i s₁ hread
          rw [ih _ s₁ s' h, hkeep f (List.mem_of_find?_eq_some hfind) j s s₁ hread]
        · cases h

end Record

/-- The settings of a node are the members of its record that are no field of every node. -/
theorem NodeDefinition.config_of_ofJson {members : List (String × Json)} {n : NodeDefinition}
    (h : ofJson (.object members) = .ok n) :
    n.config = members.filter fun m => m.1 ∉ ["id", "type", "z", "g", "name", "wires", "d"] := by
  unfold ofJson Record.ofMembers at h
  dsimp only at h
  split at h
  · cases h
  · rename_i n' hread
    split at h
    · cases h
    · cases h
      rw [Record.readMembers_keeps NodeDefinition.config ?_ members [] _ n hread]
      · unfold settingsOf
        refine List.filter_congr fun m _ => Bool.eq_iff_iff.2 ?_
        simp [fields, Record.field, @eq_comm _ m.1]
      · intro f hf j s s' hs
        unfold fields at hf
        simp only [List.mem_cons, List.not_mem_nil, or_false] at hf
        rcases hf with rfl | rfl | rfl | rfl | rfl | rfl | rfl
        all_goals
          obtain ⟨a, -, rfl⟩ := Record.field_read_eq_ok.1 hs
          rfl

/-! ## One record -/

namespace DocumentRecord

/-- The record is an object with an identifier, which is written as a text. -/
def HasId (j : Json) (i : Identifier) : Prop :=
  ∃ text, j.member? "id" = some (.string text) ∧ Identifier.ofText? text = some i

/-- The record is neither that of a flow or a group nor a comment. -/
def IsNode (j : Json) : Prop :=
  typeOf j ∉ ["tab", "group", "comment"]

instance (j : Json) : Decidable (IsNode j) := by
  unfold IsNode; infer_instance

/-- What a record stands for: a comment for nothing, any other record for the definition that it can
be read into. -/
inductive Reads (j : Json) : DocumentRecord → Prop
  | flow {f : FlowDefinition} : typeOf j = "tab" → FlowDefinition.ofJson j = .ok f →
      Reads j (.flow f)
  | group {g : GroupDefinition} : typeOf j = "group" → GroupDefinition.ofJson j = .ok g →
      Reads j (.group g)
  | node {n : NodeDefinition} : IsNode j → typeOf j ≠ "" → typeOf j ≠ "subflow" →
      (j.member? "z").isSome → NodeDefinition.ofJson j = .ok n → Reads j (.node n)
  | comment : typeOf j = "comment" → Reads j .comment

theorem idOf_eq_ok_iff {j : Json} {i : Identifier} : idOf j = .ok i ↔ HasId j i := by
  unfold idOf HasId
  constructor
  · intro h
    split at h
    · rename_i text htext
      split at h
      · rename_i i' hi
        cases h
        exact ⟨text, htext, hi⟩
      · cases h
    · cases h
  · rintro ⟨text, htext, hi⟩
    rw [htext]
    dsimp only
    rw [hi]

theorem HasId.unique {j : Json} {i i' : Identifier} (h : HasId j i) (h' : HasId j i') : i = i' := by
  rw [← idOf_eq_ok_iff] at h h'
  exact Except.ok.inj (h.symm.trans h')

theorem checked_eq_ok_iff {type : String} {id : Identifier} {r : Record.Read α}
    {make : α → DocumentRecord} {record : DocumentRecord} :
    checked type id r make = .ok record ↔ ∃ a, r = .ok a ∧ make a = record := by
  constructor
  · exact checked_eq_ok
  · rintro ⟨a, rfl, rfl⟩
    rfl

/-- The identifier of a record plays no part in what is read from it. -/
theorem ofJson_eq_ok_iff {id : Identifier} {j : Json} {record : DocumentRecord} :
    ofJson id j = .ok record ↔ Reads j record := by
  constructor
  · intro h
    unfold ofJson at h
    split at h
    · rename_i htype
      obtain ⟨f, hf, rfl⟩ := checked_eq_ok h
      exact .flow htype hf
    · rename_i htype
      obtain ⟨g, hg, rfl⟩ := checked_eq_ok h
      exact .group htype hg
    · cases h
    · cases h
    · rename_i htype
      cases h
      exact .comment htype
    · rename_i htab hgroup hnone hsub hcomment
      split at h
      · cases h
      · rename_i z hz
        obtain ⟨n, hn, rfl⟩ := checked_eq_ok h
        refine .node ?_ hnone hsub (by rw [hz]; rfl) hn
        simp only [IsNode, List.mem_cons, List.not_mem_nil, or_false, not_or]
        exact ⟨htab, hgroup, hcomment⟩
  · intro h
    unfold ofJson
    cases h with
    | flow htype hf => rw [htype]; exact checked_eq_ok_iff.2 ⟨_, hf, rfl⟩
    | group htype hg => rw [htype]; exact checked_eq_ok_iff.2 ⟨_, hg, rfl⟩
    | comment htype => rw [htype]; rfl
    | @node n hnode hnone hsub hz hn =>
      simp only [IsNode, List.mem_cons, List.not_mem_nil, or_false, not_or] at hnode
      obtain ⟨htab, hgroup, hcomment⟩ := hnode
      obtain ⟨z, hz⟩ := Option.isSome_iff_exists.1 hz
      split
      · contradiction
      · contradiction
      · contradiction
      · contradiction
      · contradiction
      · rw [hz]
        exact checked_eq_ok_iff.2 ⟨n, hn, rfl⟩

/-- What a record stands for has the identifier of the record. -/
theorem Reads.hasId {j : Json} {record : DocumentRecord} {i i' : Identifier} (h : Reads j record)
    (hj : HasId j i) (hi : record.id? = some i') : HasId j i' := by
  have hid := idOf_eq_ok_iff.2 hj
  rw [id?_of_ofJson (ofJson_eq_ok_iff.2 h) hid hi]
  exact hj

/-! ## Lists of records -/

/-- A list is read when each of its records is, and their identifiers are new and differ. -/
theorem ofList_eq_ok_iff {js : List Json} :
    ∀ {seen : List Identifier} {records : List DocumentRecord},
      ofList seen js = .ok records ↔
        List.Forall₂ Reads js records ∧
          ∃ ids, List.Forall₂ HasId js ids ∧ ids.Nodup ∧ ∀ i ∈ ids, i ∉ seen := by
  induction js with
  | nil =>
    intro seen records
    constructor
    · intro h
      cases h
      exact ⟨.nil, [], .nil, List.nodup_nil, by simp⟩
    · rintro ⟨h, -⟩
      cases h
      rfl
  | cons j rest ih =>
    intro seen records
    constructor
    · intro h
      unfold ofList at h
      split at h
      · cases h
      · rename_i id hid
        split at h
        · cases h
        · rename_i hseen
          split at h
          · cases h
          · rename_i record hrecord
            split at h
            · cases h
            · rename_i records' hrest
              cases h
              obtain ⟨hreads, ids, hids, hnodup, hnew⟩ := ih.1 hrest
              refine ⟨.cons (ofJson_eq_ok_iff.1 hrecord) hreads, id :: ids,
                .cons (idOf_eq_ok_iff.1 hid) hids, ?_, ?_⟩
              · exact List.nodup_cons.2 ⟨fun hin => hnew id hin List.mem_cons_self, hnodup⟩
              · refine List.forall_mem_cons.2 ⟨hseen, fun i hi hin => ?_⟩
                exact hnew i hi (List.mem_cons_of_mem _ hin)
    · rintro ⟨hreads, ids, hids, hnodup, hnew⟩
      cases hreads with
      | @cons _ record _ records' hrecord hreads =>
        cases hids with
        | @cons _ id _ ids hid hids =>
          obtain ⟨hnot, hnodup⟩ := List.nodup_cons.1 hnodup
          obtain ⟨hseen, hnew⟩ := List.forall_mem_cons.1 hnew
          have hrest : ofList (id :: seen) rest = .ok records' := by
            refine ih.2 ⟨hreads, ids, hids, hnodup, fun i hi hin => ?_⟩
            rcases List.mem_cons.1 hin with rfl | hin
            · exact hnot hi
            · exact hnew i hi hin
          unfold ofList
          rw [idOf_eq_ok_iff.2 hid]
          dsimp only
          rw [if_neg hseen, ofJson_eq_ok_iff.2 hrecord]
          dsimp only
          rw [hrest]

/-! ## Items and what they stand for -/

theorem forall₂_mem_left {R : α → β → Prop} {as : List α} {bs : List β} (h : List.Forall₂ R as bs) :
    ∀ a ∈ as, ∃ b ∈ bs, R a b := by
  induction h with
  | nil => simp
  | @cons a b as bs hab _ ih =>
    refine List.forall_mem_cons.2 ⟨⟨b, List.mem_cons_self, hab⟩, fun a' ha' => ?_⟩
    obtain ⟨b', hb', hR⟩ := ih a' ha'
    exact ⟨b', List.mem_cons_of_mem _ hb', hR⟩

/-- What the items of a list stand for has what the items have. -/
theorem exists_mem_iff {R : α → β → Prop} {P : α → Prop} {Q : β → Prop} {as : List α} {bs : List β}
    (h : List.Forall₂ R as bs) (hR : ∀ a b, R a b → (P a ↔ Q b)) :
    (∃ a ∈ as, P a) ↔ ∃ b ∈ bs, Q b := by
  constructor
  · rintro ⟨a, ha, hP⟩
    obtain ⟨b, hb, hab⟩ := forall₂_mem_left h a ha
    exact ⟨b, hb, (hR a b hab).1 hP⟩
  · rintro ⟨b, hb, hQ⟩
    obtain ⟨a, ha, hab⟩ := forall₂_mem_left h.flip b hb
    exact ⟨a, ha, (hR a b hab).2 hQ⟩

/-- When every item stands for something, the list does. -/
theorem exists_forall₂ {R : α → β → Prop} {as : List α} (h : ∀ a ∈ as, ∃ b, R a b) :
    ∃ bs, List.Forall₂ R as bs := by
  induction as with
  | nil => exact ⟨[], .nil⟩
  | cons a as ih =>
    obtain ⟨⟨b, hb⟩, hrest⟩ := List.forall_mem_cons.1 h
    obtain ⟨bs, hbs⟩ := ih hrest
    exact ⟨b :: bs, .cons hb hbs⟩

/-- The records of one kind, and what they stand for: both lists are in the order of the document. -/
theorem forall₂_kind (kind? : DocumentRecord → Option α) {p : Json → Prop} [DecidablePred p]
    {R : Json → α → Prop} {S : Json → DocumentRecord → Prop}
    (hkind : ∀ j record, S j record →
      (p j ∧ ∃ a, kind? record = some a ∧ R j a) ∨ (¬p j ∧ kind? record = none))
    {js : List Json} {records : List DocumentRecord} (h : List.Forall₂ S js records) :
    List.Forall₂ R (js.filter p) (records.filterMap kind?) := by
  induction h with
  | nil => exact .nil
  | @cons j record js records hj _ ih =>
    rcases hkind j record hj with ⟨hp, a, ha, hR⟩ | ⟨hp, hnone⟩
    · rw [List.filter_cons_of_pos (by simpa using hp), List.filterMap_cons_some ha]
      exact .cons hR ih
    · rw [List.filter_cons_of_neg (by simpa using hp), List.filterMap_cons_none hnone]
      exact ih

end DocumentRecord

/-! ## Documents -/

namespace Document

open DocumentRecord

/-- Some record of this type has the identifier. -/
def HasRecord (records : List Json) (type : String) (i : Identifier) : Prop :=
  ∃ j ∈ records, typeOf j = type ∧ HasId j i

/-- The owners that an element names are in the list: its flow, and the group it is in. -/
def Owned (records : List Json) (flow : Identifier) (group : Option Identifier) : Prop :=
  HasRecord records "tab" flow ∧ ∀ g, group = some g → HasRecord records "group" g

/-- The list can be a document: its records have identifiers that differ and types, each can be read
into its definition, and all owners are there. -/
structure WellFormed (records : List Json) : Prop where
  ids : ∃ ids, List.Forall₂ HasId records ids ∧ ids.Nodup
  types : ∀ j ∈ records, ∃ type, j.member? "type" = some (.string type) ∧ type ≠ "" ∧
    type ≠ "subflow"
  flows : ∀ j ∈ records, typeOf j = "tab" → ∃ f, FlowDefinition.ofJson j = .ok f
  groups : ∀ j ∈ records, typeOf j = "group" → ∃ g, GroupDefinition.ofJson j = .ok g ∧
    Owned records g.flow g.parent
  nodes : ∀ j ∈ records, IsNode j → (j.member? "z").isSome ∧
    ∃ n, NodeDefinition.ofJson j = .ok n ∧ Owned records n.flow n.group

/-- The document holds what the records say: the definition of each record that is no comment, once and
in the order of the records, with the identifier of the record; and with a node those members of its
record that no other field of it holds. -/
structure Holds (d : Document) (records : List Json) : Prop where
  flows : List.Forall₂ (fun j f => FlowDefinition.ofJson j = .ok f ∧ HasId j f.id)
    (records.filter fun j => typeOf j = "tab") d.flows
  groups : List.Forall₂ (fun j g => GroupDefinition.ofJson j = .ok g ∧ HasId j g.id)
    (records.filter fun j => typeOf j = "group") d.groups
  nodes : List.Forall₂
    (fun j n => NodeDefinition.ofJson j = .ok n ∧ HasId j n.id ∧
      ∃ members, j = .object members ∧ n.config =
        members.filter fun m => m.1 ∉ ["id", "type", "z", "g", "name", "wires", "d"])
    (records.filter IsNode) d.nodes

/-! ### What is read -/

theorem typeOf_eq_iff {j : Json} {type : String} (h : type ≠ "") :
    typeOf j = type ↔ j.member? "type" = some (.string type) := by
  unfold typeOf
  constructor
  · intro htype
    split at htype
    · rename_i s hs
      rw [hs, htype]
    · exact absurd htype.symm h
  · intro htype
    rw [htype]

/-- A document of records that were read holds what they say. -/
theorem holds_ofRecords {js : List Json} {records : List DocumentRecord} {ids : List Identifier}
    (hreads : List.Forall₂ Reads js records) (hids : List.Forall₂ HasId js ids) :
    (ofRecords records).Holds js := by
  have hid : ∀ j ∈ js, ∃ i, HasId j i := fun j hj => by
    obtain ⟨i, -, hi⟩ := forall₂_mem_left hids j hj
    exact ⟨i, hi⟩
  have h := (List.forall₂_and_left _ _).2 ⟨hid, hreads⟩
  refine ⟨forall₂_kind DocumentRecord.flow? ?_ h,
    forall₂_kind DocumentRecord.group? ?_ h,
    forall₂_kind DocumentRecord.node? ?_ h⟩
  all_goals
    rintro j record ⟨⟨i, hi⟩, hreads⟩
    have hid := fun i' (hi' : record.id? = some i') => hreads.hasId hi hi'
  · cases hreads with
    | flow htype hf => exact .inl ⟨htype, _, rfl, hf, hid _ rfl⟩
    | group htype _ => exact .inr ⟨by simp [htype], rfl⟩
    | node hnode => exact .inr ⟨fun htype => hnode (by simp [htype]), rfl⟩
    | comment htype => exact .inr ⟨by simp [htype], rfl⟩
  · cases hreads with
    | flow htype _ => exact .inr ⟨by simp [htype], rfl⟩
    | group htype hg => exact .inl ⟨htype, _, rfl, hg, hid _ rfl⟩
    | node hnode => exact .inr ⟨fun htype => hnode (by simp [htype]), rfl⟩
    | comment htype => exact .inr ⟨by simp [htype], rfl⟩
  · cases hreads with
    | flow htype _ => exact .inr ⟨by simp [IsNode, htype], rfl⟩
    | group htype _ => exact .inr ⟨by simp [IsNode, htype], rfl⟩
    | comment htype => exact .inr ⟨by simp [IsNode, htype], rfl⟩
    | node hnode _ _ _ hn =>
      obtain ⟨members, rfl⟩ := exists_members (idOf_eq_ok_iff.2 hi)
      exact .inl ⟨hnode, _, rfl, hn, hid _ rfl, members, rfl, NodeDefinition.config_of_ofJson hn⟩

/-! ### Acceptance -/

theorem firstOwnerFault?_eq_none_iff {d : Document} :
    d.firstOwnerFault? = none ↔
      (∀ g ∈ d.groups, d.ownerFault? g.id g.flow g.parent = none) ∧
        ∀ n ∈ d.nodes, d.ownerFault? n.id n.flow n.group = none := by
  unfold firstOwnerFault?
  cases h : d.groups.findSome? fun g => d.ownerFault? g.id g.flow g.parent with
  | none =>
    dsimp only
    rw [List.findSome?_eq_none_iff] at h ⊢
    exact ⟨fun hnodes => ⟨h, hnodes⟩, And.right⟩
  | some fault =>
    obtain ⟨g, hg, hfault⟩ := List.exists_of_findSome?_eq_some h
    refine ⟨(by cases ·), fun hnone => ?_⟩
    rw [hnone.1 g hg] at hfault
    cases hfault

/-- In a document that holds what the records say, the owners are those that the records have. -/
theorem Holds.ownerFault?_eq_none_iff {d : Document} {records : List Json} (h : d.Holds records)
    {id flow : Identifier} {group : Option Identifier} :
    d.ownerFault? id flow group = none ↔ Owned records flow group := by
  have hflow (i : Identifier) : HasRecord records "tab" i ↔ ∃ f ∈ d.flows, f.id = i := by
    rw [← exists_mem_iff (P := fun j => HasId j i) h.flows]
    · simp [HasRecord, and_assoc]
    · rintro j f ⟨-, hf⟩
      exact ⟨fun hi => hf.unique hi, fun hi => hi ▸ hf⟩
  have hgroup (i : Identifier) : HasRecord records "group" i ↔ ∃ g ∈ d.groups, g.id = i := by
    rw [← exists_mem_iff (P := fun j => HasId j i) h.groups]
    · simp [HasRecord, and_assoc]
    · rintro j g ⟨-, hg⟩
      exact ⟨fun hi => hg.unique hi, fun hi => hi ▸ hg⟩
  rw [Document.ownerFault?_eq_none_iff]
  unfold Owned
  simp only [hflow, hgroup]

/-- A list of records is a document when each record is read, their identifiers differ, and no owner
is missing. -/
theorem parse_array_eq_ok_iff {js : List Json} {d : Document} :
    parse (.array js) = .ok d ↔
      ∃ records, List.Forall₂ Reads js records ∧
        (∃ ids, List.Forall₂ HasId js ids ∧ ids.Nodup) ∧ d = ofRecords records ∧
          d.firstOwnerFault? = none := by
  unfold parse
  dsimp only
  constructor
  · intro h
    split at h
    · cases h
    · rename_i records hrecords
      split at h
      · cases h
      · rename_i howner
        cases h
        obtain ⟨hreads, ids, hids, hnodup, -⟩ := ofList_eq_ok_iff.1 hrecords
        exact ⟨records, hreads, ⟨ids, hids, hnodup⟩, rfl, howner⟩
  · rintro ⟨records, hreads, ⟨ids, hids, hnodup⟩, rfl, howner⟩
    rw [ofList_eq_ok_iff.2 ⟨hreads, ids, hids, hnodup, by simp⟩]
    dsimp only
    rw [howner]

theorem holds_of_parse {js : List Json} {d : Document} (h : parse (.array js) = .ok d) :
    d.Holds js := by
  obtain ⟨records, hreads, ⟨ids, hids, -⟩, rfl, -⟩ := parse_array_eq_ok_iff.1 h
  exact holds_ofRecords hreads hids

/-- The records of a document are as they have to be. -/
theorem wellFormed_of_parse {js : List Json} {d : Document} (h : parse (.array js) = .ok d) :
    WellFormed js := by
  have hd := holds_of_parse h
  obtain ⟨records, hreads, hids, rfl, howner⟩ := parse_array_eq_ok_iff.1 h
  obtain ⟨hgroups, hnodes⟩ := firstOwnerFault?_eq_none_iff.1 howner
  refine ⟨hids, fun j hj => ?_, fun j hj htype => ?_, fun j hj htype => ?_, fun j hj hnode => ?_⟩
  · obtain ⟨record, -, hread⟩ := forall₂_mem_left hreads j hj
    have htype : typeOf j ≠ "" ∧ typeOf j ≠ "subflow" := by
      cases hread with
      | flow htype => simp [htype]
      | group htype => simp [htype]
      | comment htype => simp [htype]
      | node _ hnone hsub => exact ⟨hnone, hsub⟩
    exact ⟨_, (typeOf_eq_iff htype.1).1 rfl, htype⟩
  · obtain ⟨f, -, hf, -⟩ := forall₂_mem_left hd.flows j (List.mem_filter.2 ⟨hj, by simpa using htype⟩)
    exact ⟨f, hf⟩
  · obtain ⟨g, hg, hread, -⟩ :=
      forall₂_mem_left hd.groups j (List.mem_filter.2 ⟨hj, by simpa using htype⟩)
    exact ⟨g, hread, hd.ownerFault?_eq_none_iff.1 (hgroups g hg)⟩
  · obtain ⟨n, hn, hread, -⟩ :=
      forall₂_mem_left hd.nodes j (List.mem_filter.2 ⟨hj, by simpa using hnode⟩)
    refine ⟨?_, n, hread, hd.ownerFault?_eq_none_iff.1 (hnodes n hn)⟩
    obtain ⟨record, -, hrecord⟩ := forall₂_mem_left hreads j hj
    cases hrecord with
    | flow htype => exact absurd (by simp [htype]) hnode
    | group htype => exact absurd (by simp [htype]) hnode
    | comment htype => exact absurd (by simp [htype]) hnode
    | node _ _ _ hz => exact hz

/-- Records that are as they have to be are a document. -/
theorem WellFormed.parse {js : List Json} (h : WellFormed js) :
    ∃ d, Document.parse (.array js) = .ok d := by
  obtain ⟨ids, hids, hnodup⟩ := h.ids
  have hread : ∀ j ∈ js, ∃ record, Reads j record := by
    intro j hj
    obtain ⟨type, htype, hnone, hsub⟩ := h.types j hj
    obtain rfl := (typeOf_eq_iff hnone).2 htype
    by_cases htab : typeOf j = "tab"
    · obtain ⟨f, hf⟩ := h.flows j hj htab
      exact ⟨_, .flow htab hf⟩
    · by_cases hgroup : typeOf j = "group"
      · obtain ⟨g, hg, -⟩ := h.groups j hj hgroup
        exact ⟨_, .group hgroup hg⟩
      · by_cases hcomment : typeOf j = "comment"
        · exact ⟨_, .comment hcomment⟩
        · have hnode : IsNode j := by simp [IsNode, htab, hgroup, hcomment]
          obtain ⟨hz, n, hn, -⟩ := h.nodes j hj hnode
          exact ⟨_, .node hnode hnone hsub hz hn⟩
  obtain ⟨records, hreads⟩ := exists_forall₂ hread
  have hd := holds_ofRecords hreads hids
  refine ⟨ofRecords records, parse_array_eq_ok_iff.2 ⟨records, hreads, ⟨ids, hids, hnodup⟩, rfl,
    firstOwnerFault?_eq_none_iff.2 ⟨fun g hg => ?_, fun n hn => ?_⟩⟩⟩
  · obtain ⟨j, hj, hread, -⟩ := forall₂_mem_left hd.groups.flip g hg
    obtain ⟨hj, htype⟩ := List.mem_filter.1 hj
    obtain ⟨g', hread', howned⟩ := h.groups j hj (by simpa using htype)
    obtain rfl := Except.ok.inj (hread.symm.trans hread')
    exact hd.ownerFault?_eq_none_iff.2 howned
  · obtain ⟨j, hj, hread, -⟩ := forall₂_mem_left hd.nodes.flip n hn
    obtain ⟨hj, htype⟩ := List.mem_filter.1 hj
    obtain ⟨-, n', hread', howned⟩ := h.nodes j hj (by simpa using htype)
    obtain rfl := Except.ok.inj (hread.symm.trans hread')
    exact hd.ownerFault?_eq_none_iff.2 howned

/-! ### Order of the records -/

theorem HasRecord.perm {js js' : List Json} (h : js'.Perm js) {type : String} {i : Identifier}
    (hi : HasRecord js type i) : HasRecord js' type i := by
  obtain ⟨j, hj, hj'⟩ := hi
  exact ⟨j, h.mem_iff.2 hj, hj'⟩

theorem Owned.perm {js js' : List Json} (h : js'.Perm js) {flow : Identifier}
    {group : Option Identifier} (howned : Owned js flow group) : Owned js' flow group :=
  ⟨howned.1.perm h, fun g hg => (howned.2 g hg).perm h⟩

/-- In another order the records are as they have to be, too. -/
theorem WellFormed.perm {js js' : List Json} (h : js'.Perm js) (hjs : WellFormed js) :
    WellFormed js' := by
  obtain ⟨ids, hids, hnodup⟩ := hjs.ids
  obtain ⟨ids', hids', hperm⟩ := List.perm_comp_forall₂ h hids
  refine ⟨⟨ids', hids', hperm.nodup_iff.2 hnodup⟩, fun j hj => hjs.types j (h.mem_iff.1 hj),
    fun j hj => hjs.flows j (h.mem_iff.1 hj), fun j hj htype => ?_, fun j hj hnode => ?_⟩
  · obtain ⟨g, hg, howned⟩ := hjs.groups j (h.mem_iff.1 hj) htype
    exact ⟨g, hg, howned.perm h⟩
  · obtain ⟨hz, n, hn, howned⟩ := hjs.nodes j (h.mem_iff.1 hj) hnode
    exact ⟨hz, n, hn, howned.perm h⟩

/-- What the items of a list stand for is determined item by item, so it is permuted with them. -/
theorem perm_of_forall₂ {R : α → β → Prop} (hR : ∀ a b b', R a b → R a b' → b = b')
    {as as' : List α} {bs bs' : List β} (h : as'.Perm as) (hbs : List.Forall₂ R as bs)
    (hbs' : List.Forall₂ R as' bs') : bs'.Perm bs := by
  obtain ⟨bs'', hbs'', hperm⟩ := List.perm_comp_forall₂ h hbs
  rwa [List.right_unique_forall₂' (fun {a b b'} => hR a b b') hbs' hbs'']

/-- A list of records is accepted exactly when it is well formed, and then the document holds what the
records say, in their order. Any order of accepted records is accepted, and gives the same definitions
in that order. -/
theorem parse_iff_wellFormed (js : List Json) :
    ((∃ d, parse (.array js) = .ok d) ↔ WellFormed js) ∧
    ∀ d, parse (.array js) = .ok d →
      d.Holds js ∧
      ∀ js', js'.Perm js → ∃ d', parse (.array js') = .ok d' ∧ d'.Holds js' ∧
        d'.flows.Perm d.flows ∧ d'.groups.Perm d.groups ∧ d'.nodes.Perm d.nodes := by
  refine ⟨⟨fun ⟨d, h⟩ => wellFormed_of_parse h, WellFormed.parse⟩, fun d h => ?_⟩
  have hd := holds_of_parse h
  refine ⟨hd, fun js' hperm => ?_⟩
  obtain ⟨d', h'⟩ := ((wellFormed_of_parse h).perm hperm).parse
  have hd' := holds_of_parse h'
  refine ⟨d', h', hd', ?_, ?_, ?_⟩
  · refine perm_of_forall₂ (fun j f f' hf hf' => ?_) (hperm.filter _) hd.flows hd'.flows
    exact Except.ok.inj (hf.1.symm.trans hf'.1)
  · refine perm_of_forall₂ (fun j g g' hg hg' => ?_) (hperm.filter _) hd.groups hd'.groups
    exact Except.ok.inj (hg.1.symm.trans hg'.1)
  · refine perm_of_forall₂ (fun j n n' hn hn' => ?_) (hperm.filter _) hd.nodes hd'.nodes
    exact Except.ok.inj (hn.1.symm.trans hn'.1)

/-! ### Owners that come last

A node stands before its group, the group before the one around it, and the flow of all comes last. -/

namespace Backwards

/-- The node, which has a setting and a wire to itself. -/
def node : Json :=
  .object [("g", .string "3"), ("id", .string "0A"), ("repeat", .string "1"),
    ("type", .string "inject"), ("wires", .array [.array [.string "a"]]), ("z", .string "1")]

/-- The records. -/
def records : List Json :=
  [node, .object [("id", .string "2"), ("type", .string "comment")],
   .object [("g", .string "4"), ("id", .string "3"), ("type", .string "group"), ("z", .string "01")],
   .object [("id", .string "4"), ("type", .string "group"), ("z", .string "1")],
   .object [("id", .string "1"), ("type", .string "tab")]]

/-- A comment whose identifier is that of the node in other letters. -/
def double : Json :=
  .object [("id", .string " 00a "), ("type", .string "comment")]

/-- The document of the records. -/
def document : Document :=
  { flows := [{ id := ⟨1⟩, label := "", disabled := false, env := [] }]
    groups :=
      [{ id := ⟨3⟩, name := "", flow := ⟨1⟩, parent := some ⟨4⟩, env := [] },
       { id := ⟨4⟩, name := "", flow := ⟨1⟩, parent := none, env := [] }]
    nodes :=
      [{ id := ⟨10⟩, type := "inject", flow := ⟨1⟩, group := some ⟨3⟩, name := "",
         wires := [[⟨10⟩]], disabled := false, config := [("repeat", .string "1")] }] }

theorem parse_records : parse (.array records) = .ok document := by cbv

theorem parse_double : ∃ fault, parse (.array (records ++ [double])) = .error fault := ⟨_, by cbv⟩

end Backwards

/-- The records are well formed and accepted in the opposite order too; with a comment that repeats the
identifier of the node they are not well formed. -/
theorem parse_iff_wellFormed_backwards :
    WellFormed Backwards.records ∧ Backwards.document.Holds Backwards.records ∧
    (∃ d, parse (.array Backwards.records.reverse) = .ok d ∧
      d.nodes.Perm Backwards.document.nodes) ∧
    ¬WellFormed (Backwards.records ++ [Backwards.double]) := by
  obtain ⟨hiff, hparse⟩ := parse_iff_wellFormed Backwards.records
  obtain ⟨hholds, horder⟩ := hparse _ Backwards.parse_records
  obtain ⟨d, hd, -, -, -, hnodes⟩ := horder _ (List.reverse_perm _)
  refine ⟨hiff.1 ⟨_, Backwards.parse_records⟩, hholds, ⟨d, hd, hnodes⟩, fun h => ?_⟩
  obtain ⟨d', hd'⟩ := (parse_iff_wellFormed (Backwards.records ++ [Backwards.double])).1.2 h
  obtain ⟨fault, hfault⟩ := Backwards.parse_double
  rw [hfault] at hd'
  cases hd'

end Document

end Wireflow
