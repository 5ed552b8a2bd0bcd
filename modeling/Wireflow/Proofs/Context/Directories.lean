/-
The directories of stores. Opening makes them, and no write to a store can put a file on the way to one
of them; so whether the file of a scope can be written never changes, and two states of the same stores
agree for a flow as soon as they have the same entries in the scopes that it sees.
-/
import Wireflow.Proofs.Context.Agreement

namespace Wireflow

/-! ## Ways -/

namespace Disk

/-- A way is there when every path on it leads to a directory. -/
theorem wayFault?_eq_none_iff {d : Disk} (rest : DiskPath) :
    ∀ {done : DiskPath}, d.wayFault? done rest = none ↔
      ∀ r, r ≠ [] → r <+: rest → d.find? (done ++ r) = some .directory := by
  induction rest with
  | nil =>
    intro done
    refine ⟨fun _ r hr hprefix => absurd (List.prefix_nil.1 hprefix) hr, fun _ => rfl⟩
  | cons name rest ih =>
    intro done
    have hstep : d.wayFault? done (name :: rest) = none ↔
        d.find? (done ++ [name]) = some .directory ∧ d.wayFault? (done ++ [name]) rest = none := by
      rw [wayFault?]
      rcases d.find? (done ++ [name]) with _ | _ | _ <;> simp
    rw [hstep, ih]
    constructor
    · rintro ⟨hname, hrest⟩ r hr hprefix
      obtain ⟨name', r, rfl⟩ := List.exists_cons_of_ne_nil hr
      obtain ⟨rfl, hbelow⟩ := List.cons_prefix_cons.1 hprefix
      rw [List.append_cons]
      by_cases hlast : r = []
      · subst hlast
        simpa using hname
      · exact hrest r hlast hbelow
    · intro h
      refine ⟨h [name] (by simp) (by simp), fun r _ hprefix => ?_⟩
      rw [← List.append_cons]
      exact h (name :: r) (by simp) (List.cons_prefix_cons.2 ⟨rfl, hprefix⟩)

/-- Directories stay when a way is made. -/
theorem find?_directory_of_makeWay {p : DiskPath} (rest : DiskPath) :
    ∀ {d d' : Disk} {done : DiskPath}, d.makeWay done rest = .ok d' →
      d.find? p = some .directory → d'.find? p = some .directory := by
  induction rest with
  | nil =>
    intro d d' done h hp
    cases h
    exact hp
  | cons name rest ih =>
    intro d d' done h hp
    unfold makeWay at h
    dsimp only at h
    split at h
    · exact ih h hp
    · cases h
    · refine ih h ?_
      by_cases hpath : p = done ++ [name]
      · subst hpath
        exact find?_put_self d (by simp) _
      · rw [find?_put_of_ne hpath, hp]

theorem wayFault?_of_makeDirectory {d d' : Disk} {path way : DiskPath}
    (hmake : d.makeDirectory path = .ok d') (h : d.wayFault? [] way = none) :
    d'.wayFault? [] way = none :=
  (wayFault?_eq_none_iff way).2 fun r hr hprefix =>
    find?_directory_of_makeWay path hmake ((wayFault?_eq_none_iff way).1 h r hr hprefix)

/-- A path at which a file can be written stands on no way that is there. -/
theorem not_prefix_of_wayFault? {d : Disk} {path way : DiskPath} (hfile : d.writeFault? path = none)
    (hway : d.wayFault? [] way = none) : ¬path <+: way := by
  intro hprefix
  obtain ⟨-, hdirectory⟩ := writeFault?_eq_none_iff.1 hfile
  by_cases hroot : path = []
  · subst hroot
    exact hdirectory rfl
  · exact hdirectory ((wayFault?_eq_none_iff way).1 hway path hroot hprefix)

end Disk

theorem Store.exists_directory_of_file? {s : Store} {scope : Scope} {path : DiskPath}
    (h : s.file? scope = some path) :
    ∃ directory, s.directory = some directory ∧ path.dropLast = Disk.pathOf directory := by
  obtain ⟨directory, hdirectory, rfl⟩ := Option.map_eq_some_iff.1 h
  obtain ⟨hslash, hlength⟩ := scope.fileName_plain
  exact ⟨directory, hdirectory, by rw [Disk.pathOf_join hslash hlength]; simp⟩

/-! ## Calls -/

namespace Contexts

variable {c d : Contexts}

/-- The directories of all stores are there. -/
def Rooted (c : Contexts) : Prop :=
  ∀ name directory, (c.store name).directory = some directory →
    c.disk.wayFault? [] (Disk.pathOf directory) = none

/-- The contexts have the same stores, and the file of a scope that cannot be written in one of them
cannot be written in the other. -/
structure SameStores (c d : Contexts) : Prop where
  defaultName : d.defaultName = c.defaultName
  name : ∀ name, (d.store name).name = (c.store name).name
  directory : ∀ name, (d.store name).directory = (c.store name).directory
  files : ∀ name scope, (d.store name).fileFault? scope d.disk = (c.store name).fileFault? scope c.disk

theorem SameStores.refl (c : Contexts) : c.SameStores c :=
  ⟨rfl, fun _ => rfl, fun _ => rfl, fun _ _ => rfl⟩

theorem SameStores.trans {e : Contexts} (h : c.SameStores d) (h' : d.SameStores e) :
    c.SameStores e where
  defaultName := h'.defaultName.trans h.defaultName
  name name := (h'.name name).trans (h.name name)
  directory name := (h'.directory name).trans (h.directory name)
  files name scope := (h'.files name scope).trans (h.files name scope)

theorem SameStores.opened (c : Contexts) (name : Option String) : c.SameStores (c.opened name) :=
  ⟨defaultName_opened c name, fun n => by rw [store_opened], fun n => by rw [store_opened],
    fun n scope => by rw [store_opened, disk_opened]⟩

theorem Rooted.opened (h : c.Rooted) (name : Option String) : (c.opened name).Rooted := by
  intro n directory hdirectory
  rw [store_opened] at hdirectory
  rw [disk_opened]
  exact h n directory hdirectory

/-- A file that can be written stands on the way to no directory of a store. -/
theorem Rooted.amend (h : c.Rooted) {x : ContextChange}
    (hfile : (c.store x.store).fileFault? x.scope c.disk = none) :
    (c.amend x).Rooted ∧ c.SameStores (c.amend x) := by
  -- on the way to a directory there are only directories, and these cannot be written
  have hblocked : ∀ {path : DiskPath} {name directory}, (c.store x.store).file? x.scope = some path →
      (c.store name).directory = some directory → ¬path <+: Disk.pathOf directory := by
    intro path name directory hpath hdirectory
    unfold Store.fileFault? at hfile
    rw [hpath] at hfile
    exact Disk.not_prefix_of_wayFault? hfile (h name directory hdirectory)
  refine ⟨fun name directory hdirectory => ?_, rfl, name_amend c x, directory_amend c x, ?_⟩
  · rw [directory_amend] at hdirectory
    change ((c.store x.store).filed x.scope x.entries c.disk).wayFault? [] _ = none
    unfold Store.filed
    split
    · exact h name directory hdirectory
    · rename_i path hpath
      rw [Disk.wayFault?_put_of_not_prefix]
      · exact h name directory hdirectory
      · rintro r - hr rfl
        exact hblocked hpath hdirectory hr
  · intro name scope
    rw [fileFault?_amend hfile]
    split
    · rename_i path path' hpath hpath'
      obtain ⟨directory, hdirectory, hdropLast⟩ := Store.exists_directory_of_file? hpath'
      rw [if_neg]
      rw [hdropLast]
      exact hblocked hpath hdirectory
    · rfl

theorem Rooted.call (h : c.Rooted) (x : ContextCall) :
    (c.call x).2.Rooted ∧ c.SameStores (c.call x).2 := by
  cases x with
  | get scope key msg =>
    simp only [Contexts.call]
    split
    · exact ⟨h, .refl c⟩
    · exact ⟨h.opened key.store, .opened c key.store⟩
  | set scope key msg v =>
    simp only [Contexts.call]
    split
    · rename_i d hset
      rw [set_eq_amend] at hset
      split at hset
      · cases hset
      · split at hset
        · cases hset
        · split at hset
          · cases hset
          · rename_i hfile
            cases hset
            exact h.amend hfile
    · exact ⟨h.opened key.store, .opened c key.store⟩

theorem Rooted.calls (xs : List ContextCall) :
    ∀ {c : Contexts}, c.Rooted → (c.calls xs).2.Rooted ∧ c.SameStores (c.calls xs).2 := by
  induction xs with
  | nil => exact fun h => ⟨h, .refl _⟩
  | cons x rest ih =>
    intro c h
    obtain ⟨hroot, hsame⟩ := h.call x
    obtain ⟨hroot', hsame'⟩ := ih hroot
    exact ⟨hroot', hsame.trans hsame'⟩

/-- Whatever calls have been made to the stores of an engine, two states of them agree exactly when
they have the same entries in the scopes that are seen. -/
theorem agree_calls_iff {flow : Identifier} (h : c.Rooted) (xs ys : List ContextCall) :
    (c.calls xs).2.Agree flow (c.calls ys).2 ↔
      ∀ name scope, scope.SeenFrom flow →
        ((c.calls ys).2.store name).entries scope = ((c.calls xs).2.store name).entries scope := by
  have hxs := (Rooted.calls xs h).2
  have hys := (Rooted.calls ys h).2
  refine ⟨fun hagree => hagree.entries, fun hentries => ?_⟩
  exact ⟨hys.defaultName.trans hxs.defaultName.symm,
    fun name => (hys.name name).trans (hxs.name name).symm,
    fun name => (hys.directory name).trans (hxs.directory name).symm, hentries,
    fun name scope _ => (hys.files name scope).trans (hxs.files name scope).symm⟩

/-! ## Opening -/

/-- The directories of the stores of a table are there. -/
def Standing (disk : Disk) (stores : Table Store) : Prop :=
  ∀ name s directory, Table.get? name stores = some s → s.directory = some directory →
    disk.wayFault? [] (Disk.pathOf directory) = none

theorem Standing.insert {disk : Disk} {stores : Table Store} (h : Standing disk stores)
    (name : String) {s : Store} (hs : ∀ directory, s.directory = some directory →
      disk.wayFault? [] (Disk.pathOf directory) = none) :
    Standing disk (Table.insert name s stores) := by
  intro n t directory ht hdirectory
  by_cases hn : n = name
  · subst hn
    rw [Table.get?_insert_self] at ht
    cases ht
    exact hs directory hdirectory
  · rw [Table.get?_insert_of_ne hn] at ht
    exact h n t directory ht hdirectory

theorem Standing.openAll (kinds : List (String × StoreKind)) :
    ∀ {disk disk' : Disk} {opened stores : Table Store},
      Contexts.openAll disk opened kinds = (.ok stores, disk') → Standing disk opened →
        Standing disk' stores := by
  induction kinds with
  | nil =>
    intro disk disk' opened stores hopen h
    cases hopen
    exact h
  | cons k rest ih =>
    intro disk disk' opened stores hopen h
    obtain ⟨name, kind⟩ := k
    cases kind with
    | memory => exact ih hopen (h.insert name (by rintro _ ⟨⟩))
    | onDisk base =>
      unfold Contexts.openAll at hopen
      split at hopen
      · rename_i s disk₁ hs
        obtain ⟨hdirectory, hmake, -⟩ := Store.openAt_eq_ok hs
        have hkept : Standing disk₁ opened := fun n t directory ht hd =>
          Disk.wayFault?_of_makeDirectory hmake (h n t directory ht hd)
        refine ih hopen (hkept.insert name fun directory hd => ?_)
        rw [hdirectory] at hd
        cases hd
        exact Disk.wayFault?_makeWay _ hmake
      · cases hopen

theorem rooted_of_standing (h : Standing c.disk c.stores) : c.Rooted := by
  intro name directory hdirectory
  unfold store at hdirectory
  cases hs : Table.get? (c.nameOf name) c.stores with
  | none => rw [hs] at hdirectory; cases hdirectory
  | some s =>
    rw [hs] at hdirectory
    exact h _ s directory hs hdirectory

/-- Stores that have been opened have their directories. -/
theorem rooted_ofSettings {settings : ContextSettings} {disk disk' : Disk}
    (h : ofSettings settings disk = (.ok c, disk')) : c.Rooted := by
  unfold ofSettings at h
  split at h
  · cases h
  · rename_i stores disk₁ hopen
    have hstand := Standing.openAll settings.stores hopen (by rintro _ _ _ ⟨⟩)
    cases h
    refine rooted_of_standing ?_
    dsimp only
    split
    · exact hstand
    · exact hstand.insert _ (by rintro _ ⟨⟩)

end Contexts

end Wireflow
