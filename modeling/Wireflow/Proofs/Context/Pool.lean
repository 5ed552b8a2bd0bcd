/-
The stores of an engine as they lie in memory: a table leads from names to places, and what lies at a
place may be in the hands of several holders at once. A look-up of a name and the insertion of a
missing store are separate operations, so a name may have got its store between the two.

Contexts are what a pool shows: each name with the store at its place. Looking up shows nothing,
inserting shows as opening the store of the name, and a call made at the place of its store shows as
the call of the contexts. A name that has a place keeps it.
-/
import Wireflow.Proofs.Context.Agreement
import Wireflow.Proofs.Context.Ledger
import Wireflow.Proofs.Table
import Mathlib.Tactic

namespace Wireflow

/-! ## Contexts as they are made -/

namespace Contexts

/-- Contexts as they are made: the default store alone, or the stores of settings. -/
inductive Made : Contexts → Prop
  | inMemory (disk : Disk) : Made (inMemory disk)
  | ofSettings {settings : ContextSettings} {disk disk' : Disk} {c : Contexts} :
      Contexts.ofSettings settings disk = (.ok c, disk') → Made c

theorem sorted_openAll (kinds : List (String × StoreKind)) :
    ∀ {disk disk' : Disk} {opened stores : Table Store}, opened.Sorted →
      openAll disk opened kinds = (.ok stores, disk') → stores.Sorted := by
  induction kinds with
  | nil =>
    intro disk disk' opened stores hopened h
    cases h
    exact hopened
  | cons k rest ih =>
    intro disk disk' opened stores hopened h
    obtain ⟨name, kind⟩ := k
    cases kind with
    | memory => exact ih (hopened.insert name _) h
    | onDisk base =>
      unfold openAll at h
      split at h
      · exact ih (hopened.insert name _) h
      · cases h

theorem Made.sorted {c : Contexts} (h : c.Made) : c.stores.Sorted := by
  cases h with
  | inMemory disk => exact List.pairwise_singleton _ _
  | @ofSettings settings disk disk' _ h =>
    unfold Contexts.ofSettings at h
    split at h
    · cases h
    · rename_i stores disk₁ hopen
      have hsorted := sorted_openAll _ List.Pairwise.nil hopen
      cases h
      dsimp only
      split
      · exact hsorted
      · exact hsorted.insert _ _

/-- Two contexts with the same store under every name, made or not. -/
structure Alike (c d : Contexts) : Prop where
  defaultName : c.defaultName = d.defaultName
  disk : c.disk = d.disk
  store : ∀ name, c.store name = d.store name

namespace Alike

variable {c d : Contexts}

theorem refl (c : Contexts) : c.Alike c := ⟨rfl, rfl, fun _ => rfl⟩

theorem symm (h : c.Alike d) : d.Alike c :=
  ⟨h.defaultName.symm, h.disk.symm, fun name => (h.store name).symm⟩

theorem trans {e : Contexts} (h : c.Alike d) (h' : d.Alike e) : c.Alike e :=
  ⟨h.defaultName.trans h'.defaultName, h.disk.trans h'.disk,
    fun name => (h.store name).trans (h'.store name)⟩

/-- A store that is made on its first use was there before, for all that can be seen. -/
theorem opened (c : Contexts) (name : Option String) : (c.opened name).Alike c :=
  ⟨defaultName_opened c name, disk_opened c name, store_opened c name⟩

theorem insert (h : c.Alike d) (name : Option String) (store : Store) (disk : Disk) :
    Alike { c with stores := Table.insert (c.nameOf name) store c.stores, disk }
      { d with stores := Table.insert (d.nameOf name) store d.stores, disk } := by
  have hname : ∀ other, c.nameOf other = d.nameOf other := fun other => by
    rw [nameOf, nameOf, h.defaultName]
  refine ⟨h.defaultName, rfl, fun other => ?_⟩
  have hstore := h.store other
  unfold Contexts.store at hstore ⊢
  show (Table.get? (c.nameOf other) (Table.insert (c.nameOf name) store c.stores)).getD
      (Store.memory (c.nameOf other)) =
    (Table.get? (d.nameOf other) (Table.insert (d.nameOf name) store d.stores)).getD
      (Store.memory (d.nameOf other))
  rw [hname, hname] at *
  by_cases hn : d.nameOf other = d.nameOf name
  · rw [hn, Table.get?_insert_self, Table.get?_insert_self]
  · rw [Table.get?_insert_of_ne hn, Table.get?_insert_of_ne hn]
    exact hstore

/-- A call answers the same, and leaves contexts that are alike again. -/
theorem call (h : c.Alike d) (x : ContextCall) :
    (c.call x).1 = (d.call x).1 ∧ (c.call x).2.Alike (d.call x).2 := by
  have hopened : ∀ name, (c.opened name).Alike (d.opened name) := fun name =>
    (opened c name).trans (h.trans (opened d name).symm)
  cases x with
  | get scope key msg =>
    simp only [Contexts.call, Contexts.get?, h.store]
    refine ⟨trivial, ?_⟩
    split
    · exact h
    · exact hopened key.store
  | set scope key msg v =>
    simp only [Contexts.call, Contexts.set_eq, h.store, h.disk]
    cases key.path.bind? (msg.map (·.entries)) with
    | none => exact ⟨rfl, hopened key.store⟩
    | some keys =>
      dsimp only
      cases (d.store key.store).set scope keys v d.disk with
      | error fault => exact ⟨rfl, hopened key.store⟩
      | ok r => exact ⟨rfl, h.insert key.store r.1 r.2⟩

end Alike

end Contexts

/-! ## Pools -/

/-- Where a store lies. -/
abbrev Place := Nat

/-- Stores in memory: what lies at each of the places up to now, and the places of the stores that
have a name. -/
structure StorePool where
  defaultName : String
  heap : Place → Store
  made : Nat
  table : Table Place
  disk : Disk

/-- The key that a call is about. -/
def ContextCall.key : ContextCall → ContextKey
  | .get _ key _ => key
  | .set _ key _ _ => key

namespace StorePool

/-- The pool of contexts: their stores lie side by side. -/
def of (c : Contexts) : StorePool :=
  { defaultName := c.defaultName
    heap := fun a => ((c.stores[a]?).map (·.2)).getD (Store.memory c.defaultName)
    made := c.stores.length
    table := c.stores.mapIdx fun a e => (e.1, a)
    disk := c.disk }

/-- The contexts that a pool shows. -/
def view (p : StorePool) : Contexts :=
  { defaultName := p.defaultName, stores := Table.mapValues p.heap p.table, disk := p.disk }

/-- The name of the store that is meant. -/
def nameOf (p : StorePool) (name : Option String) : String :=
  name.getD p.defaultName

/-- Looks a name up. -/
def find? (p : StorePool) (name : Option String) : Option Place :=
  Table.get? (p.nameOf name) p.table

/-- Looks a name up again and makes a store in memory for it when it still has none. -/
def enter (p : StorePool) (name : Option String) : Place × StorePool :=
  match p.find? name with
  | some a => (a, p)
  | none =>
    (p.made,
      { p with
        heap := Function.update p.heap p.made (Store.memory (p.nameOf name))
        made := p.made + 1
        table := Table.insert (p.nameOf name) p.made p.table })

/-- Makes a call at the store of a place, whatever its name is. -/
def perform (p : StorePool) (a : Place) : ContextCall → ContextAnswer × StorePool
  | .get scope key msg =>
    match key.path.bind? (msg.map (·.entries)) with
    | none => (.found none, p)
    | some keys => (.found ((p.heap a).get? scope keys), p)
  | .set scope key msg v =>
    match key.path.bind? (msg.map (·.entries)) with
    | none => (.written (.error (.store (p.heap a).name (.unbound key.path.source))), p)
    | some keys =>
      match (p.heap a).set scope keys v p.disk with
      | .error fault => (.written (.error (.store (p.heap a).name fault)), p)
      | .ok (store, disk) =>
        (.written (.ok ()), { p with heap := Function.update p.heap a store, disk })

/-! ### What a pool keeps -/

/-- The names of a pool ascend, each has a place where a store has been made, and no two share one. -/
structure Coherent (p : StorePool) : Prop where
  sorted : p.table.Sorted
  below : ∀ n a, Table.get? n p.table = some a → a < p.made
  apart : ∀ m n a, Table.get? m p.table = some a → Table.get? n p.table = some a → m = n

/-- How a pool may go on: names keep their places, and the stores there their names and directories.
-/
structure Extends (p q : StorePool) : Prop where
  defaultName : q.defaultName = p.defaultName
  table : ∀ n a, Table.get? n p.table = some a → Table.get? n q.table = some a
  made : p.made ≤ q.made
  kept : ∀ a < p.made, (q.heap a).name = (p.heap a).name ∧ (q.heap a).directory = (p.heap a).directory

variable {p q : StorePool}

theorem Extends.refl (p : StorePool) : p.Extends p :=
  ⟨rfl, fun _ _ h => h, le_rfl, fun _ _ => ⟨rfl, rfl⟩⟩

theorem Extends.trans {r : StorePool} (h : p.Extends q) (h' : q.Extends r) : p.Extends r := by
  refine ⟨h'.defaultName.trans h.defaultName, fun n a ha => h'.table n a (h.table n a ha),
    h.made.trans h'.made, fun a ha => ?_⟩
  obtain ⟨hname, hdirectory⟩ := h.kept a ha
  obtain ⟨hname', hdirectory'⟩ := h'.kept a (ha.trans_le h.made)
  exact ⟨hname'.trans hname, hdirectory'.trans hdirectory⟩

theorem Extends.nameOf (h : p.Extends q) (name : Option String) : q.nameOf name = p.nameOf name := by
  unfold StorePool.nameOf
  rw [h.defaultName]

theorem Extends.find? (h : p.Extends q) {name : Option String} {a : Place}
    (ha : p.find? name = some a) : q.find? name = some a := by
  unfold StorePool.find?
  rw [h.nameOf]
  exact h.table _ a ha

/-! ### Looking up and inserting -/

theorem enter_of_find? {name : Option String} {a : Place} (h : p.find? name = some a) :
    p.enter name = (a, p) := by
  unfold enter
  rw [h]

theorem enter_of_missing {name : Option String} (h : p.find? name = none) :
    p.enter name = (p.made,
      { p with
        heap := Function.update p.heap p.made (Store.memory (p.nameOf name))
        made := p.made + 1
        table := Table.insert (p.nameOf name) p.made p.table }) := by
  unfold enter
  rw [h]

theorem extends_enter (p : StorePool) (name : Option String) : p.Extends (p.enter name).2 := by
  cases h : p.find? name with
  | some a =>
    rw [enter_of_find? h]
    exact .refl p
  | none =>
    rw [enter_of_missing h]
    refine ⟨rfl, fun n a ha => ?_, Nat.le_succ _, fun a ha => ?_⟩
    · -- a name that has a place is not the one that had none
      have hn : n ≠ p.nameOf name := fun he => by
        rw [he] at ha
        exact Option.some_ne_none a (ha.symm.trans h)
      exact (Table.get?_insert_of_ne hn _ _).trans ha
    · simp only [Function.update_of_ne ha.ne, and_self]

/-- After an insertion the name has the place that was answered. -/
theorem find?_enter (p : StorePool) (name : Option String) :
    (p.enter name).2.find? name = some (p.enter name).1 := by
  cases h : p.find? name with
  | some a =>
    rw [enter_of_find? h]
    exact h
  | none =>
    rw [enter_of_missing h]
    exact Table.get?_insert_self _ _ _

theorem Coherent.enter (h : p.Coherent) (name : Option String) : (p.enter name).2.Coherent := by
  cases hfind : p.find? name with
  | some a =>
    rw [enter_of_find? hfind]
    exact h
  | none =>
    rw [enter_of_missing hfind]
    -- the new place is above all others, so no other name has it
    have hget : ∀ n a, Table.get? n (Table.insert (p.nameOf name) p.made p.table) = some a →
        (n = p.nameOf name ∧ a = p.made) ∨ (Table.get? n p.table = some a ∧ a < p.made) := by
      intro n a ha
      by_cases hn : n = p.nameOf name
      · subst hn
        rw [Table.get?_insert_self] at ha
        exact .inl ⟨rfl, (Option.some.inj ha).symm⟩
      · rw [Table.get?_insert_of_ne hn] at ha
        exact .inr ⟨ha, h.below n a ha⟩
    refine ⟨h.sorted.insert _ _, fun n a ha => ?_, fun m n a hm hn => ?_⟩
    · rcases hget n a ha with ⟨-, rfl⟩ | ⟨-, hlt⟩
      · exact Nat.lt_succ_self _
      · exact Nat.lt_succ_of_lt hlt
    · rcases hget m a hm with ⟨rfl, rfl⟩ | ⟨hm, hlt⟩ <;> rcases hget n _ hn with ⟨rfl, he⟩ | ⟨hn, hlt'⟩
      · rfl
      · exact absurd hlt' (lt_irrefl _)
      · exact absurd hlt (he ▸ lt_irrefl _)
      · exact h.apart m n a hm hn

theorem get?_view (p : StorePool) (n : String) :
    Table.get? n p.view.stores = (Table.get? n p.table).map p.heap :=
  Table.get?_mapValues p.heap p.table n

/-- A look-up that finds a place shows that the store there is the one of the name. -/
theorem opened_view {name : Option String} {a : Place} (h : p.find? name = some a) :
    p.view.opened name = p.view := by
  have hget := p.get?_view (p.nameOf name)
  unfold Contexts.opened
  rw [show p.view.nameOf name = p.nameOf name from rfl, hget, show Table.get? _ _ = _ from h]
  rfl

theorem store_view {name : Option String} {a : Place} (h : p.find? name = some a) :
    p.view.store name = p.heap a := by
  have hget := p.get?_view (p.nameOf name)
  unfold Contexts.store
  rw [show p.view.nameOf name = p.nameOf name from rfl, hget, show Table.get? _ _ = _ from h]
  rfl

/-- An insertion shows as opening the store of the name. -/
theorem view_enter (h : p.Coherent) (name : Option String) :
    (p.enter name).2.view = p.view.opened name := by
  cases hfind : p.find? name with
  | some a => rw [enter_of_find? hfind, opened_view hfind]
  | none =>
    have hmissing : Table.get? (p.view.nameOf name) p.view.stores = none := by
      rw [get?_view, show Table.get? (p.view.nameOf name) p.table = none from hfind]
      rfl
    rw [enter_of_missing hfind]
    unfold Contexts.opened
    rw [hmissing]
    -- both are sorted, so it is enough to look at each name
    refine congrArg (Contexts.mk _ · _) (Table.Sorted.ext ((h.sorted.insert _ _).mapValues _)
      ((h.sorted.mapValues _).insert _ _) fun n => ?_)
    show Table.get? n (Table.mapValues _ (Table.insert (p.nameOf name) p.made p.table)) =
      Table.get? n (Table.insert (p.nameOf name) _ (Table.mapValues p.heap p.table))
    rw [Table.get?_mapValues]
    by_cases hn : n = p.nameOf name
    · subst hn
      rw [Table.get?_insert_self, Table.get?_insert_self]
      exact congrArg some (Function.update_self _ _ _)
    · rw [Table.get?_insert_of_ne hn, Table.get?_insert_of_ne hn, Table.get?_mapValues]
      exact Option.map_congr fun a ha => Function.update_of_ne (h.below n a ha).ne _ _

/-! ### Calls -/

/-- A call changes nothing, or it puts a store of the same name and directory in the place of the one
it was made at. -/
theorem perform_cases (p : StorePool) (a : Place) (x : ContextCall) :
    (p.perform a x).2 = p ∨
      ∃ store disk, store.name = (p.heap a).name ∧ store.directory = (p.heap a).directory ∧
        (p.perform a x).2 = { p with heap := Function.update p.heap a store, disk } := by
  cases x with
  | get scope key msg =>
    left
    simp only [perform]
    split <;> rfl
  | set scope key msg v =>
    simp only [perform, Store.set_eq]
    cases key.path.bind? (msg.map (·.entries)) with
    | none => exact .inl rfl
    | some keys =>
      dsimp only
      cases Store.changed? ((p.heap a).entries scope) keys v with
      | none => exact .inl rfl
      | some entries =>
        dsimp only
        cases (p.heap a).fileFault? scope p.disk with
        | some e => exact .inl rfl
        | none =>
          right
          exact ⟨(p.heap a).put scope entries, _, rfl, rfl, rfl⟩

theorem extends_perform (p : StorePool) (a : Place) (x : ContextCall) :
    p.Extends (p.perform a x).2 := by
  rcases p.perform_cases a x with h | ⟨store, disk, hname, hdirectory, h⟩
  · rw [h]
    exact .refl p
  · rw [h]
    refine ⟨rfl, fun _ _ hget => hget, le_rfl, fun b _ => ?_⟩
    by_cases hb : b = a
    · subst hb
      simp only [Function.update_self]
      exact ⟨hname, hdirectory⟩
    · simp only [Function.update_of_ne hb, and_self]

theorem Coherent.perform (h : p.Coherent) (a : Place) (x : ContextCall) :
    (p.perform a x).2.Coherent := by
  rcases p.perform_cases a x with hp | ⟨store, disk, -, -, hp⟩
  · rw [hp]
    exact h
  · rw [hp]
    exact ⟨h.sorted, h.below, h.apart⟩

/-- Replacing what lies at the place of a name shows as putting it under that name. -/
theorem view_update (h : p.Coherent) {name : Option String} {a : Place}
    (ha : p.find? name = some a) (store : Store) (disk : Disk) :
    view { p with heap := Function.update p.heap a store, disk } =
      { p.view with stores := Table.insert (p.view.nameOf name) store p.view.stores, disk } := by
  refine congrArg (Contexts.mk _ · _) ((h.sorted.mapValues _).ext ((h.sorted.mapValues _).insert _ _)
    fun n => ?_)
  show Table.get? n (Table.mapValues (Function.update p.heap a store) p.table) =
    Table.get? n (Table.insert (p.nameOf name) store (Table.mapValues p.heap p.table))
  rw [Table.get?_mapValues]
  by_cases hn : n = p.nameOf name
  · subst hn
    rw [show Table.get? _ p.table = some a from ha, Option.map_some, Function.update_self,
      Table.get?_insert_self]
  · rw [Table.get?_insert_of_ne hn, Table.get?_mapValues]
    -- another name has another place
    refine Option.map_congr fun b hb => Function.update_of_ne ?_ _ _
    rintro rfl
    exact hn (h.apart n (p.nameOf name) b hb ha)

/-- A call at the place of its store shows as the call of the contexts, with the same answer. -/
theorem call_view (h : p.Coherent) {a : Place} {x : ContextCall}
    (ha : p.find? x.key.store = some a) :
    p.view.call x = ((p.perform a x).1, (p.perform a x).2.view) := by
  cases x with
  | get scope key msg =>
    have hstore : p.view.store key.store = p.heap a := store_view ha
    have hopened : p.view.opened key.store = p.view := opened_view ha
    simp only [Contexts.call, Contexts.get?, perform, hstore, hopened]
    cases key.path.bind? (msg.map (·.entries)) <;> rfl
  | set scope key msg v =>
    -- the store is there, so the write of the contexts opens none
    have hstore : p.view.store key.store = p.heap a := store_view ha
    have hopened : p.view.opened key.store = p.view := opened_view ha
    simp only [Contexts.call, Contexts.set_eq, perform, hstore, hopened]
    cases key.path.bind? (msg.map (·.entries)) with
    | none => rfl
    | some keys =>
      dsimp only
      rw [show p.view.disk = p.disk from rfl]
      cases (p.heap a).set scope keys v p.disk with
      | error fault => rfl
      | ok r => exact congrArg (Prod.mk _) (view_update h ha r.1 r.2).symm

/-! ### The pool of contexts -/

theorem view_of (c : Contexts) : (of c).view = c := by
  have hstores : Table.mapValues (of c).heap (of c).table = c.stores := by
    refine List.ext_getElem (by simp [Table.mapValues, of]) fun a h₁ h₂ => ?_
    simp [Table.mapValues, of, h₂]
  unfold view
  rw [hstores]
  rfl

theorem Coherent.of {c : Contexts} (h : c.stores.Sorted) : (StorePool.of c).Coherent := by
  have hsorted : (StorePool.of c).table.Sorted := by
    refine List.pairwise_iff_getElem.2 fun i j hi hj hij => ?_
    simp only [StorePool.of, List.getElem_mapIdx]
    exact List.pairwise_iff_getElem.1 h i j _ _ hij
  -- a place is the position of its store in the list, so it tells the name
  have hget : ∀ n a, Table.get? n (StorePool.of c).table = some a →
      ∃ ha : a < c.stores.length, c.stores[a].1 = n := by
    intro n a ha
    obtain ⟨i, hi, he⟩ := List.getElem_of_mem (Table.mem_of_get?_eq_some ha)
    simp only [StorePool.of, List.getElem_mapIdx, Prod.mk.injEq] at he
    obtain ⟨hname, rfl⟩ := he
    exact ⟨_, hname⟩
  refine ⟨hsorted, fun n a ha => (hget n a ha).1, fun m n a hm hn => ?_⟩
  obtain ⟨_, hm⟩ := hget m a hm
  obtain ⟨_, hn⟩ := hget n a hn
  exact hm.symm.trans hn

end StorePool

end Wireflow
