/-
The groups around a group. Nothing keeps the parents of a document from running in a circle, so the walk
from a group outwards remembers the groups that it has passed. It takes at most one round more than there
are groups, and ends in one of two ways: at a group without a parent, with the identities of the groups in
the order in which it has passed them, or at a group that it comes to a second time.
-/
import Wireflow.Proofs.Graph.Building
import Mathlib

namespace Wireflow

namespace Document

/-- A group and those around it: its parent, the parent of that one, and so on up to a group without a
parent. -/
inductive Around (d : Document) : Identifier → List GroupDefinition → Prop
  | outermost {g : GroupDefinition} (hg : g ∈ d.groups) (hparent : g.parent = none) :
    Around d g.id [g]
  | inside {g : GroupDefinition} {parent : Identifier} {outer : List GroupDefinition}
    (hg : g ∈ d.groups) (hparent : g.parent = some parent) (houter : Around d parent outer) :
    Around d g.id (g :: outer)

/-- Identities are those of a group and of the groups around it, each once and the innermost first. -/
def Chained (now : Double) (d : Document) (id : Identifier) (identities : List GroupIdentity) : Prop :=
  ∃ around, d.Around id around ∧ (around.map (·.id)).Nodup ∧
    List.Forall₂ (fun g i => Graph.groupIdentity now g = .ok i) around identities

theorem Around.mem_groups {d : Document} {id : Identifier} {around : List GroupDefinition}
    (h : d.Around id around) : ∀ g ∈ around, g ∈ d.groups := by
  induction h with
  | outermost hg _ => simpa using hg
  | inside hg _ _ ih => exact List.forall_mem_cons.2 ⟨hg, ih⟩

end Document

namespace Graph

/-! ## The walk in rounds -/

/-- The groups around every group of a document, with their identities. -/
def groupChains (now : Double) (d : Document) :
    Except GraphFault (List (Identifier × List GroupIdentity)) :=
  match each (groupIdentity now) d.groups with
  | .error e => .error e
  | .ok identities => each (chainIdentities d.groups identities) d.groups

/-- Where a walk outwards is: the identities that it has gathered, the groups that it has passed, and the
group that is next. -/
structure Walk where
  gathered : List GroupIdentity
  passed : List Identifier
  next : Option Identifier

section Walk

variable (groups : List GroupDefinition) (identities : List GroupIdentity) (origin : Identifier)

/-- A walk at its first group. -/
def Walk.start : Walk := { gathered := [], passed := [], next := some origin }

/-- The round of a walk at a group. -/
def Walk.round (w : Walk) (id : Identifier) : Except GraphFault Walk :=
  if id ∈ w.passed then .error (.invalidRecord (.nestedGroup origin))
  else
    match identities.find? fun i => i.id == id with
    | none => .error (.unknownGroup origin id)
    | some i =>
      .ok
        { gathered := w.gathered ++ [i], passed := id :: w.passed,
          next := (groups.find? fun g => g.id == id).bind (·.parent) }

/-- A walk ends after a number of rounds, with what it has gathered or with a fault. -/
inductive Walk.Ends : Nat → Walk → Except GraphFault (List GroupIdentity) → Prop
  | done {w : Walk} : w.next = none → Ends 0 w (.ok w.gathered)
  | fault {w : Walk} {id : Identifier} {e : GraphFault} : w.next = some id →
      w.round groups identities origin id = .error e → Ends 1 w (.error e)
  | round {w w' : Walk} {id : Identifier} {n : Nat} {r : Except GraphFault (List GroupIdentity)} :
      w.next = some id → w.round groups identities origin id = .ok w' → Ends n w' r →
      Ends (n + 1) w r

end Walk

/-- The identities of some groups. -/
def identitiesOf (identities : List GroupIdentity) (definitions : List GroupDefinition) :
    List GroupIdentity :=
  definitions.filterMap fun g => identities.find? fun i => i.id == g.id

/-- Identities are found for the same identifiers as groups. -/
def SameIds (groups : List GroupDefinition) (identities : List GroupIdentity) : Prop :=
  ∀ id, (identities.find? fun i => i.id == id).isSome = (groups.find? fun g => g.id == id).isSome

variable {groups : List GroupDefinition} {identities : List GroupIdentity}

/-- At a group that has not been passed, the walk goes on to its parent. -/
theorem Walk.exists_round (hsame : SameIds groups identities) {w : Walk} {id : Identifier}
    {g : GroupDefinition} (hpassed : id ∉ w.passed)
    (hfind : (groups.find? fun g => g.id == id) = some g) (origin : Identifier) :
    ∃ w', w.round groups identities origin id = .ok w' ∧ w'.passed = id :: w.passed ∧
      w'.next = g.parent ∧ ∀ outer, w'.gathered ++ identitiesOf identities outer =
        w.gathered ++ identitiesOf identities (g :: outer) := by
  have hsome := hsame id
  rw [hfind, Option.isSome_some, Option.isSome_iff_exists] at hsome
  obtain ⟨i, hi⟩ := hsome
  obtain ⟨-, hid⟩ := mem_of_find?_key hfind
  refine ⟨{ gathered := w.gathered ++ [i], passed := id :: w.passed, next := g.parent }, ?_, rfl, rfl,
    fun outer => ?_⟩
  · unfold Walk.round
    rw [if_neg hpassed, hi, hfind]
    rfl
  · unfold identitiesOf
    rw [List.filterMap_cons, hid, hi, List.append_assoc, List.singleton_append]

/-- A walk takes no more rounds than there are groups ahead of it and one to come to an end, and gathers
what the groups from where it is outwards are. -/
theorem ends_of_chain (hsame : SameIds groups identities) (origin : Identifier)
    (passed : List Identifier) (id : Identifier) (w : Walk) (hpassed : w.passed = passed)
    (hnext : w.next = some id) :
    ∃ n ≤ (ahead groups passed).length + 1, Walk.Ends groups identities origin n w
      ((chain groups origin passed id).map (w.gathered ++ identitiesOf identities ·)) := by
  fun_induction chain groups origin passed id generalizing w with
  | case1 passed id hp =>
    refine ⟨1, by omega, .fault hnext ?_⟩
    unfold Walk.round
    rw [hpassed, if_pos hp]
  | case2 passed id hp hnone =>
    refine ⟨1, by omega, .fault hnext ?_⟩
    have hunknown := hsame id
    rw [hnone, Option.isSome_none, Option.isSome_eq_false_iff, Option.isNone_iff_eq_none] at hunknown
    unfold Walk.round
    rw [hpassed, if_neg hp, hunknown]
  | case3 passed id hp g hfind hparent =>
    obtain ⟨w', hround, -, hnext', hgathered⟩ :=
      Walk.exists_round hsame (hpassed ▸ hp) hfind origin
    refine ⟨1, by omega, .round hnext hround ?_⟩
    show Walk.Ends groups identities origin 0 w' (.ok (w.gathered ++ identitiesOf identities [g]))
    rw [← hgathered []]
    simpa [identitiesOf] using Walk.Ends.done (hnext'.trans hparent)
  | case4 passed id hp g hfind parent hparent e hrec ih =>
    obtain ⟨w', hround, hpassed', hnext', -⟩ :=
      Walk.exists_round hsame (hpassed ▸ hp) hfind origin
    obtain ⟨n, hn, hends⟩ := ih w' (hpassed'.trans (by rw [hpassed])) (hnext'.trans hparent)
    rw [hrec] at hends
    have hlt := length_ahead_lt hfind hp
    exact ⟨n + 1, by omega, .round hnext hround hends⟩
  | case5 passed id hp g hfind parent hparent outer hrec ih =>
    obtain ⟨w', hround, hpassed', hnext', hgathered⟩ :=
      Walk.exists_round hsame (hpassed ▸ hp) hfind origin
    obtain ⟨n, hn, hends⟩ := ih w' (hpassed'.trans (by rw [hpassed])) (hnext'.trans hparent)
    rw [hrec] at hends
    have hlt := length_ahead_lt hfind hp
    refine ⟨n + 1, by omega, .round hnext hround ?_⟩
    show Walk.Ends groups identities origin n w' (.ok (w.gathered ++ identitiesOf identities (g :: outer)))
    rw [← hgathered outer]
    exact hends

/-- The walk from a group ends as the chain of the group is computed. -/
theorem ends_of_chainIdentities (hsame : SameIds groups identities) (g : GroupDefinition) :
    ∃ n ≤ groups.length + 1, Walk.Ends groups identities g.id n (.start g.id)
      ((chainIdentities groups identities g).map Prod.snd) := by
  obtain ⟨n, hn, hends⟩ := ends_of_chain hsame g.id [] g.id (.start g.id) rfl rfl
  have hahead : (ahead groups []).length ≤ groups.length := List.length_filter_le _ _
  refine ⟨n, by omega, ?_⟩
  unfold chainIdentities
  cases hchain : chain groups g.id [] g.id with
  | error e =>
    rw [hchain] at hends
    exact hends
  | ok around =>
    rw [hchain] at hends
    exact hends

/-! ## What a walk gathers -/

/-- A walk that comes to an end has passed the group and those around it, and none that it had passed
before. -/
theorem around_of_chain {d : Document} {origin : Identifier} {passed : List Identifier}
    {id : Identifier} {around : List GroupDefinition}
    (h : chain d.groups origin passed id = .ok around) :
    d.Around id around ∧ (around.map (·.id)).Nodup ∧ ∀ p ∈ passed, p ∉ around.map (·.id) := by
  fun_induction chain d.groups origin passed id generalizing around with
  | case1 => cases h
  | case2 => cases h
  | case3 passed id hp g hfind hparent =>
    cases h
    obtain ⟨hg, rfl⟩ := mem_of_find?_key hfind
    refine ⟨.outermost hg hparent, by simp, ?_⟩
    rintro p hpassed hmem
    rw [List.map_singleton, List.mem_singleton] at hmem
    exact hp (hmem ▸ hpassed)
  | case4 => cases h
  | case5 passed id hp g hfind parent hparent outer hrec ih =>
    cases h
    obtain ⟨hg, rfl⟩ := mem_of_find?_key hfind
    obtain ⟨haround, hnodup, hnew⟩ := ih hrec
    refine ⟨.inside hg hparent haround, ?_, ?_⟩
    · rw [List.map_cons, List.nodup_cons]
      exact ⟨hnew g.id List.mem_cons_self, hnodup⟩
    · intro p hpassed hmem
      rw [List.map_cons, List.mem_cons] at hmem
      rcases hmem with rfl | hmem
      · exact hp hpassed
      · exact hnew p (List.mem_cons_of_mem _ hpassed) hmem

section Identities

variable {now : Double} {d : Document} {g : GroupDefinition}

theorem groupIdentity_id {i : GroupIdentity} (h : groupIdentity now g = .ok i) : i.id = g.id := by
  unfold groupIdentity at h
  split at h
  · cases h
    rfl
  · cases h

/-- The identities have the identifiers of the groups, in their order. -/
theorem ids_of_each (h : each (groupIdentity now) d.groups = .ok identities) :
    identities.map (·.id) = d.groups.map (·.id) :=
  map_eq_of_each_eq_ok h fun _ _ _ hi => groupIdentity_id hi

/-- The identity of a group is found by the identifier of the group. -/
theorem find?_identity (hnodup : (d.groups.map (·.id)).Nodup)
    (h : each (groupIdentity now) d.groups = .ok identities) (hg : g ∈ d.groups) :
    ∃ i, groupIdentity now g = .ok i ∧ (identities.find? fun i => i.id == g.id) = some i := by
  obtain ⟨i, hi, hidentity⟩ := exists_of_each_eq_ok h hg
  refine ⟨i, hidentity, ?_⟩
  rw [← groupIdentity_id hidentity]
  exact find?_key_of_nodup (ids_of_each h ▸ hnodup) hi

theorem sameIds_of_each (h : each (groupIdentity now) d.groups = .ok identities) :
    SameIds d.groups identities := by
  intro id
  rw [Bool.eq_iff_iff, List.find?_isSome, List.find?_isSome]
  simp only [beq_iff_eq]
  have hmem : id ∈ identities.map (·.id) ↔ id ∈ d.groups.map (·.id) := by rw [ids_of_each h]
  simpa using hmem

/-- The identities of groups of the document are one for each of them. -/
theorem forall₂_identitiesOf (hnodup : (d.groups.map (·.id)).Nodup)
    (h : each (groupIdentity now) d.groups = .ok identities) {around : List GroupDefinition}
    (haround : ∀ g ∈ around, g ∈ d.groups) :
    List.Forall₂ (fun g i => groupIdentity now g = .ok i) around
      (identitiesOf identities around) := by
  induction around with
  | nil => exact .nil
  | cons g rest ih =>
    obtain ⟨hg, hrest⟩ := List.forall_mem_cons.1 haround
    obtain ⟨i, hidentity, hfind⟩ := find?_identity hnodup h hg
    unfold identitiesOf
    rw [List.filterMap_cons, hfind]
    exact .cons hidentity (ih hrest)

/-- What is gathered for a group. -/
theorem chained_of_chainIdentities (hnodup : (d.groups.map (·.id)).Nodup)
    (h : each (groupIdentity now) d.groups = .ok identities)
    {c : Identifier × List GroupIdentity} (hc : chainIdentities d.groups identities g = .ok c) :
    c.1 = g.id ∧ d.Chained now c.1 c.2 := by
  unfold chainIdentities at hc
  split at hc
  · cases hc
  · rename_i around hchain
    cases hc
    obtain ⟨haround, haroundNodup, -⟩ := around_of_chain hchain
    exact ⟨rfl, around, haround, haroundNodup,
      forall₂_identitiesOf hnodup h haround.mem_groups⟩

end Identities

/-! ## The groups of a document -/

section Chains

variable {now : Double} {d : Document}

/-- All lists of entries of groups make sense when all identities do. -/
theorem exists_identities (hentries : ∀ g ∈ d.groups, ∃ l, EnvList.compile now g.env = .ok l) :
    ∃ identities, each (groupIdentity now) d.groups = .ok identities := by
  cases h : each (groupIdentity now) d.groups with
  | ok identities => exact ⟨identities, rfl⟩
  | error e =>
    obtain ⟨g, hg, hfault⟩ := exists_of_each_eq_error h
    obtain ⟨l, hl⟩ := hentries g hg
    unfold groupIdentity at hfault
    rw [hl] at hfault
    cases hfault

theorem groupChains_eq (h : each (groupIdentity now) d.groups = .ok identities) :
    groupChains now d = each (chainIdentities d.groups identities) d.groups := by
  unfold groupChains
  rw [h]

/-- What keeps the chains from being gathered is a group that leads into a circle. -/
theorem circular_of_groupChains {records : Json} (hparse : Document.parse records = .ok d)
    (hidentities : each (groupIdentity now) d.groups = .ok identities) {e : GraphFault}
    (h : groupChains now d = .error e) :
    ∃ g ∈ d.groups, d.Circular g.id ∧ e = .invalidRecord (.nestedGroup g.id) := by
  rw [groupChains_eq hidentities] at h
  obtain ⟨g, hg, hfault⟩ := exists_of_each_eq_error h
  unfold chainIdentities at hfault
  split at hfault
  · rename_i hchain
    cases hfault
    obtain ⟨heq, hcircle⟩ := chain_eq_error
      (fun g hg => (Document.owners_of_mem_groups hparse hg).2) hchain ⟨g, hg, rfl⟩ (by simp)
    exact ⟨g, hg, hcircle, heq⟩
  · cases hfault

theorem not_circular_of_groupChains (hnodup : (d.groups.map (·.id)).Nodup)
    {chains : List (Identifier × List GroupIdentity)} (h : groupChains now d = .ok chains)
    {g : GroupDefinition} (hg : g ∈ d.groups) : ¬d.Circular g.id := by
  unfold groupChains at h
  split at h
  · cases h
  · obtain ⟨c, -, hc⟩ := exists_of_each_eq_ok h hg
    unfold chainIdentities at hc
    split at hc
    · cases hc
    · rename_i hchain
      exact not_circular_of_chain hnodup hchain

/-- The chains are those of all groups, in the order of the document. -/
theorem chained_of_groupChains (hnodup : (d.groups.map (·.id)).Nodup)
    {chains : List (Identifier × List GroupIdentity)} (h : groupChains now d = .ok chains) :
    chains.map (·.1) = d.groups.map (·.id) ∧ ∀ c ∈ chains, d.Chained now c.1 c.2 := by
  unfold groupChains at h
  split at h
  · cases h
  · rename_i identities hidentities
    constructor
    · exact map_eq_of_each_eq_ok h fun g _ c hc =>
        (chained_of_chainIdentities hnodup hidentities hc).1
    · intro c hc
      obtain ⟨g, -, hchain⟩ := exists_of_mem_each h hc
      exact (chained_of_chainIdentities hnodup hidentities hchain).2

/-- A node without a group has no groups around it, another one the chain of its group. -/
theorem groups_of_graphNode {flows : List FlowIdentity}
    {chains : List (Identifier × List GroupIdentity)} {known active : List Identifier}
    {n : NodeDefinition} {g : GraphNode} (h : graphNode flows chains known active n = .ok g) :
    g.definition = n ∧ (n.group = none → g.identity.groups = []) ∧
      ∀ id, n.group = some id → chains.lookup id = some g.identity.groups := by
  unfold graphNode at h
  split at h
  · cases h
  · dsimp only at h
    cases hgroup : n.group with
    | none =>
      rw [hgroup] at h
      dsimp only at h
      split at h
      · cases h
      · cases h
        exact ⟨rfl, fun _ => rfl, nofun⟩
    | some id =>
      rw [hgroup] at h
      dsimp only at h
      cases hlookup : chains.lookup id with
      | none =>
        rw [hlookup] at h
        cases h
      | some chain =>
        rw [hlookup] at h
        dsimp only at h
        split at h
        · cases h
        · cases h
          refine ⟨rfl, nofun, ?_⟩
          rintro _ ⟨⟩
          exact hlookup

/-- The walk outwards from every group of a parsed document takes at most one round more than there are
groups, circles of parents or not, and ends as the chain of the group is computed. Unless the entries of a
group make no sense, chains are missing exactly when some group leads into a circle; otherwise there is
one for every group, of the group and those around it. A graph that is built gives every node the chain
of its own group, and nothing to a node without one. -/
theorem groupChains_outwards {records : Json} {d : Document}
    (hparse : Document.parse records = .ok d) (now : Double) :
    (∀ identities, each (groupIdentity now) d.groups = .ok identities → ∀ g ∈ d.groups,
      ∃ n ≤ d.groups.length + 1, Walk.Ends d.groups identities g.id n (.start g.id)
        ((chainIdentities d.groups identities g).map Prod.snd)) ∧
    ((∀ g ∈ d.groups, ∃ l, EnvList.compile now g.env = .ok l) →
      ((∃ e, groupChains now d = .error e) ↔ ∃ g ∈ d.groups, d.Circular g.id) ∧
      ∀ e, groupChains now d = .error e →
        ∃ g ∈ d.groups, d.Circular g.id ∧ e = .invalidRecord (.nestedGroup g.id)) ∧
    (∀ chains, groupChains now d = .ok chains →
      chains.map (·.1) = d.groups.map (·.id) ∧ ∀ c ∈ chains, d.Chained now c.1 c.2) ∧
    ∀ graph, build now d = .ok graph → ∃ chains, groupChains now d = .ok chains ∧
      ∀ n ∈ graph.nodes, (n.definition.group = none → n.identity.groups = []) ∧
        ∀ id, n.definition.group = some id →
          (id, n.identity.groups) ∈ chains ∧ d.Chained now id n.identity.groups := by
  have hnodup := Document.groupIds_nodup hparse
  refine ⟨?_, fun hentries => ⟨⟨?_, ?_⟩, ?_⟩, fun chains => chained_of_groupChains hnodup, ?_⟩
  · intro identities hidentities g hg
    exact ends_of_chainIdentities (sameIds_of_each hidentities) g
  · rintro ⟨e, he⟩
    obtain ⟨identities, hidentities⟩ := exists_identities hentries
    obtain ⟨g, hg, hcircle, -⟩ := circular_of_groupChains hparse hidentities he
    exact ⟨g, hg, hcircle⟩
  · rintro ⟨g, hg, hcircle⟩
    cases h : groupChains now d with
    | error e => exact ⟨e, rfl⟩
    | ok chains => exact absurd hcircle (not_circular_of_groupChains hnodup h hg)
  · intro e he
    obtain ⟨identities, hidentities⟩ := exists_identities hentries
    exact circular_of_groupChains hparse hidentities he
  · intro graph hgraph
    obtain ⟨flows, identities, chains, nodes, -, hidentities, hchains, hnodes, rfl⟩ :=
      build_eq_ok hgraph
    have hgathered : groupChains now d = .ok chains :=
      (groupChains_eq hidentities).trans hchains
    have hids : (nodes.map fun n => n.identity.id) = d.activeIds :=
      map_eq_of_each_eq_ok hnodes fun n _ g hg => (graphNode_eq_ok hg).2.1
    have hperm : (ofNodes nodes).nodes.Perm nodes :=
      ofNodes_perm (hids ▸ activeIds_nodup (Document.nodeIds_nodup hparse))
    refine ⟨chains, hgathered, fun n hn => ?_⟩
    obtain ⟨definition, -, hplace⟩ := exists_of_mem_each hnodes (hperm.mem_iff.1 hn)
    obtain ⟨rfl, hnone, hsome⟩ := groups_of_graphNode hplace
    refine ⟨hnone, fun id hid => ?_⟩
    have hmem : (id, n.identity.groups) ∈ chains := by
      obtain ⟨before, after, hsplit, -⟩ := List.lookup_eq_some_iff.1 (hsome id hid)
      rw [hsplit]
      exact List.mem_append_right _ List.mem_cons_self
    exact ⟨hmem, (chained_of_groupChains hnodup hgathered).2 _ hmem⟩

end Chains

/-! ### A group inside another -/

namespace Outwards

/-- The records of a flow with a group inside another, and a node in the inner one. -/
def records : Json :=
  .array
    [.object [("id", .string "1"), ("type", .string "tab")],
     .object [("g", .string "b"), ("id", .string "a"), ("name", .string "inner"),
       ("type", .string "group"), ("z", .string "1")],
     .object [("id", .string "b"), ("name", .string "outer"), ("type", .string "group"),
       ("z", .string "1")],
     .object [("g", .string "a"), ("id", .string "2"), ("type", .string "debug"),
       ("z", .string "1")]]

/-- The node. -/
def node : NodeDefinition :=
  { id := ⟨2⟩, type := "debug", flow := ⟨1⟩, group := some ⟨10⟩, name := "", wires := [],
    disabled := false, config := [] }

/-- The document of the records. -/
def document : Document :=
  { flows := [{ id := ⟨1⟩, label := "", disabled := false, env := [] }]
    groups :=
      [{ id := ⟨10⟩, name := "inner", flow := ⟨1⟩, parent := some ⟨11⟩, env := [] },
       { id := ⟨11⟩, name := "outer", flow := ⟨1⟩, parent := none, env := [] }]
    nodes := [node] }

theorem parse_records : Document.parse records = .ok document := by cbv

/-- The identities of the groups, from the inner one outwards. -/
def chain : List GroupIdentity :=
  [{ id := ⟨10⟩, name := "inner", env := [] }, { id := ⟨11⟩, name := "outer", env := [] }]

/-- The graph of the document. -/
def graph : Graph :=
  { nodes :=
      [{ definition := node, ports := [],
         identity :=
          { id := ⟨2⟩, name := "", type := "debug", flow := { id := ⟨1⟩, label := "", env := [] },
            groups := chain } }]
    cyclic := false }

theorem build_document : build Double.zero document = .ok graph := by cbv

/-- The identities of the groups that lead into a circle. -/
def loopIdentities : List GroupIdentity :=
  [{ id := ⟨10⟩, name := "", env := [] }, { id := ⟨11⟩, name := "", env := [] }]

end Outwards

/-- The walk from a group that leads into a circle ends with a fault after at most three rounds, and then
there are no chains; a node in an inner group has the inner and the outer group in its identity. -/
theorem groupChains_outwards_nested :
    (∃ n ≤ 3, Walk.Ends Loop.nestedDocument.groups Outwards.loopIdentities ⟨10⟩ n (.start ⟨10⟩)
      (.error (.invalidRecord (.nestedGroup ⟨10⟩)))) ∧
    (∃ e, groupChains Double.zero Loop.nestedDocument = .error e) ∧
    Outwards.document.Chained Double.zero ⟨10⟩ Outwards.chain := by
  obtain ⟨hends, hloop, -⟩ := groupChains_outwards Loop.parse_nestedRecords Double.zero
  obtain ⟨-, -, -, hgraph⟩ := groupChains_outwards Outwards.parse_records Double.zero
  refine ⟨?_, ?_, ?_⟩
  · have hfault : (chainIdentities Loop.nestedDocument.groups Outwards.loopIdentities
        (Loop.group ⟨10⟩ ⟨11⟩)).map Prod.snd = .error (.invalidRecord (.nestedGroup ⟨10⟩)) := by
      cbv
    rw [← hfault]
    exact hends Outwards.loopIdentities (by cbv) (Loop.group ⟨10⟩ ⟨11⟩) List.mem_cons_self
  · have hentries : ∀ g ∈ Loop.nestedDocument.groups,
        ∃ l, EnvList.compile Double.zero g.env = .ok l := by
      intro g hg
      have hempty : g.env = [] := by
        simp only [Loop.nestedDocument, List.mem_cons, List.not_mem_nil, or_false] at hg
        rcases hg with rfl | rfl <;> rfl
      exact ⟨[], by rw [hempty]; rfl⟩
    have hinner : Loop.nestedDocument.Inside ⟨10⟩ ⟨11⟩ :=
      ⟨Loop.group ⟨10⟩ ⟨11⟩, List.mem_cons_self, rfl, rfl⟩
    have houter : Loop.nestedDocument.Inside ⟨11⟩ ⟨11⟩ :=
      ⟨Loop.group ⟨11⟩ ⟨11⟩, List.mem_cons_of_mem _ List.mem_cons_self, rfl, rfl⟩
    exact (hloop hentries).1.2
      ⟨Loop.group ⟨10⟩ ⟨11⟩, List.mem_cons_self, ⟨11⟩, .single hinner, .single houter⟩
  · obtain ⟨chains, -, hnodes⟩ := hgraph Outwards.graph Outwards.build_document
    exact ((hnodes _ List.mem_cons_self).2 ⟨10⟩ rfl).2

end Graph

end Wireflow
