/-
The identifiers of a parsed document: the identifier that is looked up in a record before it is read
is the one that the record gets, so no two flows, groups or nodes of a document share one. The owners
that its groups and nodes name are there.
-/
import Wireflow.Document
import Mathlib.Data.List.Nodup

namespace Wireflow

/-! ## Fields of a record -/

namespace Record

theorem field_read_eq_ok {name : String} {presence : Presence} {read : Json → Read α}
    {put : σ → α → σ} {j : Json} {s s' : σ} :
    (field name presence read put).read j s = .ok s' ↔ ∃ a, read j = .ok a ∧ put s a = s' := by
  unfold field
  dsimp only
  cases read j <;> simp

/-- A field that has been read stays as it is: no other field touches it, and it is not read again.
So a record holds what was read from the first member of the field's name. -/
theorem readMembers_field {fields : List (Member σ)} {P : Json → α → Prop} (name : String)
    (get : σ → α) (hname : ∃ f ∈ fields, f.name = name)
    (hself : ∀ f ∈ fields, f.name = name → ∀ j s s', f.read j s = .ok s' → P j (get s'))
    (hother : ∀ f ∈ fields, f.name ≠ name → ∀ j s s', f.read j s = .ok s' → get s' = get s)
    (members : List (String × Json)) :
    ∀ (seen : List String) (s s' : σ), readMembers fields seen members s = .ok s' →
      (name ∈ seen → get s' = get s) ∧
      (name ∉ seen → ∀ j, Table.get? name members = some j → P j (get s')) := by
  induction members with
  | nil =>
    intro seen s s' h
    cases h
    exact ⟨fun _ => rfl, fun _ j hj => by cases hj⟩
  | cons m rest ih =>
    obtain ⟨n, j⟩ := m
    intro seen s s' h
    unfold readMembers at h
    split at h
    · rename_i hnone
      obtain ⟨f, hf, hfn⟩ := hname
      have hne : name ≠ n := by
        rintro rfl
        simpa [hfn] using List.find?_eq_none.1 hnone f hf
      simpa [Table.get?_cons, hne] using ih seen s s' h
    · rename_i f hfind
      have hf : f ∈ fields := List.mem_of_find?_eq_some hfind
      have hfn : f.name = n := by simpa using List.find?_some hfind
      split at h
      · cases h
      · rename_i hseen
        split at h
        · rename_i s₁ hread
          have hrest := ih (n :: seen) s₁ s' h
          by_cases hn : n = name
          · -- the field itself: what is read now is final
            subst hn
            refine ⟨fun hin => absurd hin hseen, fun _ j' hj' => ?_⟩
            rw [Table.get?_cons, if_pos rfl] at hj'
            cases hj'
            rw [hrest.1 (List.mem_cons_self ..)]
            exact hself f hf hfn _ _ _ hread
          · have hkeep := hother f hf (by rw [hfn]; exact hn) _ _ _ hread
            refine ⟨fun hin => ?_, fun hout j' hj' => ?_⟩
            · rw [hrest.1 (List.mem_cons_of_mem _ hin), hkeep]
            · rw [Table.get?_cons, if_neg (Ne.symm hn)] at hj'
              exact hrest.2 (by simp [Ne.symm hn, hout]) j' hj'
        · cases h

/-- Of all fields only that of the identifier changes the identifier of a record, to the one that it
reads. -/
structure Identified (fields : List (Member σ)) (idOf : σ → Identifier) : Prop where
  named : ∃ f ∈ fields, f.name = "id"
  read : ∀ f ∈ fields, ∀ j s s', f.read j s = .ok s' →
    if f.name = "id" then identifier j = .ok (idOf s') else idOf s' = idOf s

/-- A record has the identifier that is looked up in its members before it is read. -/
theorem Identified.id_of_ofMembers {fields : List (Member σ)} {idOf : σ → Identifier}
    (h : Identified fields idOf) {blank s : σ} {members : List (String × Json)} {id : Identifier}
    (hs : ofMembers fields blank members = .ok s)
    (hid : DocumentRecord.idOf (.object members) = .ok id) : idOf s = id := by
  unfold DocumentRecord.idOf at hid
  split at hid
  · rename_i text htext
    split at hid
    · rename_i i hi
      cases hid
      unfold ofMembers at hs
      split at hs
      · cases hs
      · rename_i s' hread
        split at hs
        · cases hs
        · cases hs
          -- no identifier has been read when the first member is reached
          have hfield := (readMembers_field (P := fun j i => identifier j = .ok i) "id" idOf h.named
            (fun f hf hname j s s' hj => by simpa [hname] using h.read f hf j s s' hj)
            (fun f hf hname j s s' hj => by simpa [hname] using h.read f hf j s s' hj)
            members [] blank s hread).2 (by simp) _ htext
          simpa [identifier, Record.text, hi] using hfield.symm
    · cases hid
  · cases hid

end Record

/-! ## Records of flows, groups and nodes -/

theorem FlowDefinition.identified : Record.Identified fields FlowDefinition.id where
  named := ⟨_, List.mem_cons_self .., rfl⟩
  read := by
    intro f hf j s s' h
    unfold fields at hf
    simp only [List.mem_cons, List.not_mem_nil, or_false] at hf
    rcases hf with rfl | rfl | rfl | rfl
    all_goals
      obtain ⟨a, ha, rfl⟩ := Record.field_read_eq_ok.1 h
      simp [Record.field, ha]

theorem GroupDefinition.identified : Record.Identified fields GroupDefinition.id where
  named := ⟨_, List.mem_cons_self .., rfl⟩
  read := by
    intro f hf j s s' h
    unfold fields at hf
    simp only [List.mem_cons, List.not_mem_nil, or_false] at hf
    rcases hf with rfl | rfl | rfl | rfl | rfl
    all_goals
      obtain ⟨a, ha, rfl⟩ := Record.field_read_eq_ok.1 h
      simp [Record.field, ha]

theorem NodeDefinition.identified : Record.Identified fields NodeDefinition.id where
  named := ⟨_, List.mem_cons_self .., rfl⟩
  read := by
    intro f hf j s s' h
    unfold fields at hf
    simp only [List.mem_cons, List.not_mem_nil, or_false] at hf
    rcases hf with rfl | rfl | rfl | rfl | rfl | rfl | rfl
    all_goals
      obtain ⟨a, ha, rfl⟩ := Record.field_read_eq_ok.1 h
      simp [Record.field, ha]

/-! ## Documents -/

namespace DocumentRecord

/-- The flow of a record, if it is one. -/
def flow? : DocumentRecord → Option FlowDefinition
  | .flow f => some f
  | _ => none

/-- The group of a record, if it is one. -/
def group? : DocumentRecord → Option GroupDefinition
  | .group g => some g
  | _ => none

/-- The node of a record, if it is one. -/
def node? : DocumentRecord → Option NodeDefinition
  | .node n => some n
  | _ => none

/-- The identifier of what a record is; a comment is nothing. -/
def id? : DocumentRecord → Option Identifier
  | .flow f => some f.id
  | .group g => some g.id
  | .node n => some n.id
  | .comment => none

theorem checked_eq_ok {type : String} {id : Identifier} {r : Record.Read α}
    {make : α → DocumentRecord} {record : DocumentRecord}
    (h : checked type id r make = .ok record) : ∃ a, r = .ok a ∧ make a = record := by
  unfold checked at h
  split at h
  · cases h; exact ⟨_, rfl, rfl⟩
  · cases h

/-- A record that has an identifier is an object. -/
theorem exists_members {j : Json} {id : Identifier} (h : idOf j = .ok id) :
    ∃ members, j = .object members := by
  cases j with
  | object members => exact ⟨members, rfl⟩
  | _ => cases h

/-- What a record is has the identifier that was looked up in it. -/
theorem id?_of_ofJson {id i : Identifier} {j : Json} {record : DocumentRecord}
    (hrecord : ofJson id j = .ok record) (hid : idOf j = .ok id) (hi : record.id? = some i) :
    i = id := by
  obtain ⟨members, rfl⟩ := exists_members hid
  unfold ofJson at hrecord
  split at hrecord
  · obtain ⟨f, hf, rfl⟩ := checked_eq_ok hrecord
    cases hi
    exact FlowDefinition.identified.id_of_ofMembers hf hid
  · obtain ⟨g, hg, rfl⟩ := checked_eq_ok hrecord
    cases hi
    exact GroupDefinition.identified.id_of_ofMembers hg hid
  · cases hrecord
  · cases hrecord
  · cases hrecord
    cases hi
  · split at hrecord
    · cases hrecord
    · obtain ⟨n, hn, rfl⟩ := checked_eq_ok hrecord
      cases hi
      exact NodeDefinition.identified.id_of_ofMembers hn hid

/-- The records of a list have identifiers of their own, and none that was seen before. -/
theorem ids_of_ofList (js : List Json) :
    ∀ (seen : List Identifier) (records : List DocumentRecord), ofList seen js = .ok records →
      (records.filterMap id?).Nodup ∧ ∀ i ∈ records.filterMap id?, i ∉ seen := by
  induction js with
  | nil =>
    intro seen records h
    cases h
    simp
  | cons j rest ih =>
    intro seen records h
    unfold ofList at h
    split at h
    · cases h
    · rename_i id hid
      split at h
      · cases h
      · rename_i hseen
        split at h
        · cases h
        · rename_i record hrecord
          split at h
          · cases h
          · rename_i records' hrest
            cases h
            obtain ⟨hnodup, hnot⟩ := ih _ _ hrest
            have hout : ∀ i ∈ records'.filterMap id?, i ∉ seen := fun i hi hin =>
              hnot i hi (List.mem_cons_of_mem _ hin)
            cases hi : record.id? with
            | none =>
              rw [List.filterMap_cons_none hi]
              exact ⟨hnodup, hout⟩
            | some i =>
              obtain rfl := id?_of_ofJson hrecord hid hi
              rw [List.filterMap_cons_some hi]
              refine ⟨List.nodup_cons.2 ⟨fun hin => hnot i hin (List.mem_cons_self ..), hnodup⟩, ?_⟩
              exact List.forall_mem_cons.2 ⟨hseen, hout⟩

/-- Records of one kind have identifiers of their own when all records do. -/
theorem nodup_ids {kind? : DocumentRecord → Option α} {id : α → Identifier}
    (hkind : ∀ record a, kind? record = some a → record.id? = some (id a))
    {records : List DocumentRecord} (h : (records.filterMap id?).Nodup) :
    ((records.filterMap kind?).map id).Nodup := by
  refine List.Sublist.nodup ?_ h
  clear h
  induction records with
  | nil => exact .slnil
  | cons record rest ih =>
    cases hrecord : kind? record with
    | none =>
      rw [List.filterMap_cons_none hrecord]
      cases hid : record.id? with
      | none => rw [List.filterMap_cons_none hid]; exact ih
      | some i => rw [List.filterMap_cons_some hid]; exact ih.cons i
    | some a =>
      rw [List.filterMap_cons_some hrecord, List.filterMap_cons_some (hkind record a hrecord)]
      exact ih.cons_cons (id a)

end DocumentRecord

namespace Document

/-- A parsed document is made of records with identifiers of their own, and its owners are there. -/
theorem parse_eq_ok {j : Json} {d : Document} (h : parse j = .ok d) :
    ∃ records : List DocumentRecord, d = ofRecords records ∧
      (records.filterMap DocumentRecord.id?).Nodup ∧ d.firstOwnerFault? = none := by
  unfold parse at h
  split at h
  · split at h
    · cases h
    · rename_i records hrecords
      dsimp only at h
      split at h
      · cases h
      · rename_i howner
        cases h
        exact ⟨records, rfl, (DocumentRecord.ids_of_ofList _ _ _ hrecords).1, howner⟩
  · cases h

theorem ofRecords_eq (records : List DocumentRecord) :
    ofRecords records =
      { flows := records.filterMap DocumentRecord.flow?
        groups := records.filterMap DocumentRecord.group?
        nodes := records.filterMap DocumentRecord.node? } := rfl

/-- No two nodes of a parsed document share an identifier. -/
theorem nodeIds_nodup {j : Json} {d : Document} (h : parse j = .ok d) :
    (d.nodes.map (·.id)).Nodup := by
  obtain ⟨records, rfl, hnodup, -⟩ := parse_eq_ok h
  rw [ofRecords_eq]
  refine DocumentRecord.nodup_ids (fun record n hn => ?_) hnodup
  cases record <;> cases hn
  rfl

/-- No two groups of a parsed document share an identifier. -/
theorem groupIds_nodup {j : Json} {d : Document} (h : parse j = .ok d) :
    (d.groups.map (·.id)).Nodup := by
  obtain ⟨records, rfl, hnodup, -⟩ := parse_eq_ok h
  rw [ofRecords_eq]
  refine DocumentRecord.nodup_ids (fun record g hg => ?_) hnodup
  cases record <;> cases hg
  rfl

/-- No two flows of a parsed document share an identifier. -/
theorem flowIds_nodup {j : Json} {d : Document} (h : parse j = .ok d) :
    (d.flows.map (·.id)).Nodup := by
  obtain ⟨records, rfl, hnodup, -⟩ := parse_eq_ok h
  rw [ofRecords_eq]
  refine DocumentRecord.nodup_ids (fun record f hf => ?_) hnodup
  cases record <;> cases hf
  rfl

/-! ### Owners -/

theorem ownerFault?_eq_none_iff {d : Document} {id flow : Identifier} {group : Option Identifier} :
    d.ownerFault? id flow group = none ↔
      (∃ f ∈ d.flows, f.id = flow) ∧ ∀ g, group = some g → ∃ h ∈ d.groups, h.id = g := by
  unfold ownerFault?
  by_cases hflow : ∃ f ∈ d.flows, f.id = flow
  · cases group with
    | none => simp [hflow]
    | some g => by_cases hgroup : ∃ h ∈ d.groups, h.id = g <;> simp [hflow, hgroup]
  · simp [hflow]

/-- The flow of a group and the group around it are in the document. -/
theorem owners_of_mem_groups {j : Json} {d : Document} (h : parse j = .ok d) {g : GroupDefinition}
    (hg : g ∈ d.groups) :
    (∃ f ∈ d.flows, f.id = g.flow) ∧ ∀ p, g.parent = some p → ∃ h ∈ d.groups, h.id = p := by
  obtain ⟨-, -, -, howner⟩ := parse_eq_ok h
  unfold firstOwnerFault? at howner
  split at howner
  · cases howner
  · rename_i hgroups
    exact ownerFault?_eq_none_iff.1 (List.findSome?_eq_none_iff.1 hgroups g hg)

/-- The flow of a node and the group that it is in are in the document. -/
theorem owners_of_mem_nodes {j : Json} {d : Document} (h : parse j = .ok d) {n : NodeDefinition}
    (hn : n ∈ d.nodes) :
    (∃ f ∈ d.flows, f.id = n.flow) ∧ ∀ g, n.group = some g → ∃ h ∈ d.groups, h.id = g := by
  obtain ⟨-, -, -, howner⟩ := parse_eq_ok h
  unfold firstOwnerFault? at howner
  split at howner
  · cases howner
  · exact ownerFault?_eq_none_iff.1 (List.findSome?_eq_none_iff.1 howner n hn)

end Document

end Wireflow
