/-
Context data as a flow sees them: its own scope and the global one of every store. Of contexts that
agree in these scopes every look-up in them answers the same, and every write to them ends in the same
way and makes the same change. What stands in other scopes, in other flows' files or elsewhere on the
disk does not matter, and is not changed.
-/
import Wireflow.Proofs.Context.Files
import Wireflow.Proofs.Context.Ledger
import Wireflow.Proofs.Context.Loading

namespace Wireflow

/-! ## Writing files -/

namespace Disk

/-- Why no file can be written at a path. -/
def writeFault? (d : Disk) (path : DiskPath) : Option DiskError :=
  match d.wayFault? [] path.dropLast, d.find? path with
  | some e, _ => some e
  | none, some .directory => some .isDirectory
  | none, _ => none

theorem write_eq (d : Disk) (path : DiskPath) (content : ByteArray) :
    d.write path content =
      match d.writeFault? path with
      | some e => .error e
      | none => .ok (d.put path (.file content)) := by
  unfold write writeFault?
  cases d.wayFault? [] path.dropLast with
  | some e => rfl
  | none =>
    rcases d.find? path with _ | _ | _ <;> rfl

theorem writeFault?_eq_none_iff {d : Disk} {path : DiskPath} :
    d.writeFault? path = none ↔
      d.wayFault? [] path.dropLast = none ∧ d.find? path ≠ some .directory := by
  unfold writeFault?
  cases d.wayFault? [] path.dropLast with
  | some e => simp
  | none => rcases d.find? path with _ | _ | _ <;> simp

theorem find?_put_self (d : Disk) {path : DiskPath} (h : path ≠ []) (entry : DiskEntry) :
    (d.put path entry).find? path = some entry := by
  simp [find?, put, h]

/-- A file at the end of a way that was there blocks every way that goes on from it. -/
theorem wayFault?_put_of_prefix {d : Disk} {content : ByteArray} (rest : DiskPath) :
    ∀ {done r : DiskPath}, r ≠ [] → r <+: rest → d.wayFault? done r.dropLast = none →
      (d.put (done ++ r) (.file content)).wayFault? done rest = some .notDirectory := by
  induction rest with
  | nil =>
    intro done r hr hprefix _
    exact absurd (List.prefix_nil.1 hprefix) hr
  | cons name rest ih =>
    intro done r hr hprefix hway
    obtain ⟨name', r, rfl⟩ := List.exists_cons_of_ne_nil hr
    obtain ⟨rfl, hbelow⟩ := List.cons_prefix_cons.1 hprefix
    unfold wayFault?
    dsimp only
    -- up to the file the way is as it was, and there it ends
    by_cases hlast : r = []
    · subst hlast
      rw [find?_put_self d (by simp)]
    · have hne : done ++ [name'] ≠ done ++ name' :: r := by simpa using Ne.symm hlast
      rw [List.dropLast_cons_of_ne_nil hlast] at hway
      unfold wayFault? at hway
      dsimp only at hway
      rw [find?_put_of_ne hne]
      split at hway
      · rw [List.append_cons]
        exact ih hlast hbelow hway
      · cases hway
      · cases hway

/-- After a file has been written at one path, writing at another one fails below the file, where it
may have failed for another reason, and else as before. -/
theorem writeFault?_put {d : Disk} {path : DiskPath} (h : d.writeFault? path = none)
    (content : ByteArray) (p : DiskPath) :
    (d.put path (.file content)).writeFault? p =
      if path <+: p.dropLast then some .notDirectory else d.writeFault? p := by
  obtain ⟨hway, hfile⟩ := writeFault?_eq_none_iff.1 h
  have hroot : path ≠ [] := by
    rintro rfl
    exact hfile rfl
  unfold writeFault?
  by_cases hprefix : path <+: p.dropLast
  · have hput : (d.put path (.file content)).wayFault? [] p.dropLast = some .notDirectory :=
      wayFault?_put_of_prefix p.dropLast hroot hprefix hway
    rw [if_pos hprefix, hput]
  · have hput : (d.put path (.file content)).wayFault? [] p.dropLast = d.wayFault? [] p.dropLast :=
      wayFault?_put_of_not_prefix p.dropLast fun r _ hr hpath => hprefix (hpath ▸ hr)
    rw [if_neg hprefix, hput]
    by_cases hp : p = path
    · -- a file that is written again was no directory before either
      subst hp
      rw [hway, find?_put_self d hroot]
      rcases hfind : d.find? p with _ | _ | _
      · rfl
      · exact absurd hfind hfile
      · rfl
    · rw [find?_put_of_ne hp]

end Disk

/-! ## Files of scopes -/

namespace Store

/-- The file of a scope, when the store has files. -/
def file? (s : Store) (scope : Scope) : Option DiskPath :=
  s.directory.map fun directory => Disk.pathOf (Disk.join directory scope.fileName)

/-- Why the file of a scope cannot be written. -/
def fileFault? (s : Store) (scope : Scope) (disk : Disk) : Option DiskError :=
  (s.file? scope).bind disk.writeFault?

/-- The disk with some entries in the file of a scope. -/
def filed (s : Store) (scope : Scope) (entries : Entries) (disk : Disk) : Disk :=
  match s.file? scope with
  | none => disk
  | some path => disk.put path (.file (fileContent entries))

/-- A change is kept when it reaches its end and the file of the scope can be written. -/
theorem set_eq (s : Store) (scope : Scope) (keys : List Key) (v : Option Value) (disk : Disk) :
    s.set scope keys v disk =
      match changed? (s.entries scope) keys v with
      | none => .error (.unwritable keys scope)
      | some entries =>
        match s.fileFault? scope disk with
        | some e => .error (.disk e)
        | none => .ok (s.put scope entries, s.filed scope entries disk) := by
  unfold set setBy persistBy fileFault? filed file?
  cases changed? (s.entries scope) keys v with
  | none => rfl
  | some entries =>
    cases s.directory with
    | none => rfl
    | some directory =>
      dsimp only [Option.map_some, Option.bind_some]
      rw [Disk.write_eq]
      cases disk.writeFault? (Disk.pathOf (Disk.join directory scope.fileName)) <;> rfl

/-- Whether a file can be written after another one has been depends on the two paths, and on whether
it could be written before. -/
theorem fileFault?_filed {s t : Store} {scope : Scope} {disk : Disk}
    (h : s.fileFault? scope disk = none) (entries : Entries) (scope' : Scope) :
    t.fileFault? scope' (s.filed scope entries disk) =
      match s.file? scope, t.file? scope' with
      | some path, some path' =>
        if path <+: path'.dropLast then some .notDirectory else t.fileFault? scope' disk
      | _, _ => t.fileFault? scope' disk := by
  unfold fileFault? filed at *
  cases hs : s.file? scope with
  | none => rfl
  | some path =>
    cases ht : t.file? scope' with
    | none => rfl
    | some path' =>
      rw [hs] at h
      exact Disk.writeFault?_put h _ path'

end Store

/-! ## Changes -/

/-- A change of context data: the entries that a scope of a store gets. -/
structure ContextChange where
  store : Option String
  scope : Scope
  entries : Entries

namespace Contexts

/-- The contexts with a change made, and written to the file of its scope. -/
def amend (c : Contexts) (x : ContextChange) : Contexts :=
  { c.put x.store x.scope x.entries with
    disk := (c.store x.store).filed x.scope x.entries c.disk }

/-- The contexts with changes made in order. -/
def amendAll (c : Contexts) (xs : List ContextChange) : Contexts :=
  xs.foldl amend c

theorem amendAll_append (c : Contexts) (xs ys : List ContextChange) :
    c.amendAll (xs ++ ys) = (c.amendAll xs).amendAll ys :=
  List.foldl_append

theorem store_amend (c : Contexts) (x : ContextChange) (name : Option String) :
    (c.amend x).store name =
      if c.nameOf name = c.nameOf x.store then (c.store x.store).put x.scope x.entries
      else c.store name := by
  change (c.put x.store x.scope x.entries).store (some (c.nameOf name)) = _
  split
  · rename_i hname
    rw [hname, store_put_self]
  · rename_i hname
    rw [store_put_of_ne c hname]
    rfl

/-- What new entries of the scope leave alone in the store of a change, the change leaves alone in every
store. -/
theorem store_amend_keeps {α : Type} (f : Store → α) {c : Contexts} {x : ContextChange}
    (hput : f ((c.store x.store).put x.scope x.entries) = f (c.store x.store))
    (name : Option String) : f ((c.amend x).store name) = f (c.store name) := by
  rw [store_amend]
  split
  · rename_i hname
    rw [hput, store_eq_store_some c name, hname]
    rfl
  · rfl

theorem name_amend (c : Contexts) (x : ContextChange) (name : Option String) :
    ((c.amend x).store name).name = (c.store name).name :=
  store_amend_keeps (fun s => s.name) rfl name

theorem directory_amend (c : Contexts) (x : ContextChange) (name : Option String) :
    ((c.amend x).store name).directory = (c.store name).directory :=
  store_amend_keeps (fun s => s.directory) rfl name

/-- A change is seen in its own scope only. -/
theorem entries_amend_of_ne (c : Contexts) {x : ContextChange} {scope : Scope}
    (h : scope ≠ x.scope) (name : Option String) :
    ((c.amend x).store name).entries scope = (c.store name).entries scope :=
  store_amend_keeps (fun s => s.entries scope) (Store.entries_put_of_ne h _ _) name

theorem entries_amendAll_of_ne {scope : Scope} {xs : List ContextChange}
    (h : ∀ x ∈ xs, scope ≠ x.scope) (name : Option String) :
    ∀ c : Contexts, ((c.amendAll xs).store name).entries scope = (c.store name).entries scope := by
  induction xs with
  | nil => exact fun _ => rfl
  | cons x rest ih =>
    intro c
    obtain ⟨hx, hrest⟩ := List.forall_mem_cons.1 h
    rw [← c.entries_amend_of_ne hx name]
    exact ih hrest (c.amend x)

/-- After a change a file that lies below the file of the change cannot be written, any other one as
before. -/
theorem fileFault?_amend {c : Contexts} {x : ContextChange}
    (h : (c.store x.store).fileFault? x.scope c.disk = none) (name : Option String)
    (scope : Scope) :
    ((c.amend x).store name).fileFault? scope (c.amend x).disk =
      match (c.store x.store).file? x.scope, (c.store name).file? scope with
      | some path, some path' =>
        if path <+: path'.dropLast then some .notDirectory
        else (c.store name).fileFault? scope c.disk
      | _, _ => (c.store name).fileFault? scope c.disk := by
  rw [← Store.fileFault?_filed h x.entries scope]
  unfold Store.fileFault? Store.file?
  rw [directory_amend]
  rfl

/-- A write that succeeds makes one change, of the scope that it is made in. -/
theorem set_eq_amend (c : Contexts) (scope : Scope) (key : ContextKey) (msg : Option Message)
    (v : Option Value) :
    c.set scope key msg v =
      match key.path.bind? (msg.map (·.entries)) with
      | none => .error (.store (c.store key.store).name (.unbound key.path.source))
      | some keys =>
        match Store.changed? ((c.store key.store).entries scope) keys v with
        | none => .error (.store (c.store key.store).name (.unwritable keys scope))
        | some entries =>
          match (c.store key.store).fileFault? scope c.disk with
          | some e => .error (.store (c.store key.store).name (.disk e))
          | none => .ok (c.amend ⟨key.store, scope, entries⟩) := by
  rw [set_eq]
  cases key.path.bind? (msg.map (·.entries)) with
  | none => rfl
  | some keys =>
    dsimp only
    rw [Store.set_eq]
    cases Store.changed? ((c.store key.store).entries scope) keys v with
    | none => rfl
    | some entries => cases (c.store key.store).fileFault? scope c.disk <;> rfl

end Contexts

/-! ## Agreement -/

/-- The scope is seen from a flow: its own scope, or the global one. -/
def Scope.SeenFrom (flow : Identifier) (scope : Scope) : Prop :=
  scope = .flow flow ∨ scope = .global

namespace Contexts

/-- The contexts agree in what a flow sees: they have the same stores, with the same entries in the
scopes that it sees. A change is kept only after it has been written to its file, so a file of these
scopes that cannot be written in one of the contexts cannot be written in the other. -/
structure Agree (flow : Identifier) (c c' : Contexts) : Prop where
  defaultName : c'.defaultName = c.defaultName
  name : ∀ name, (c'.store name).name = (c.store name).name
  directory : ∀ name, (c'.store name).directory = (c.store name).directory
  entries : ∀ name scope, scope.SeenFrom flow →
    (c'.store name).entries scope = (c.store name).entries scope
  files : ∀ name scope, scope.SeenFrom flow →
    (c'.store name).fileFault? scope c'.disk = (c.store name).fileFault? scope c.disk

variable {flow : Identifier} {c c' d d' : Contexts}

theorem Agree.refl (flow : Identifier) (c : Contexts) : c.Agree flow c :=
  ⟨rfl, fun _ => rfl, fun _ => rfl, fun _ _ _ => rfl, fun _ _ _ => rfl⟩

theorem Agree.file? (h : c.Agree flow c') (name : Option String) (scope : Scope) :
    (c'.store name).file? scope = (c.store name).file? scope := by
  unfold Store.file?
  rw [h.directory]

/-- Contexts agree after the same change of a scope that is seen, when its file can be written. -/
theorem Agree.amend (h : c.Agree flow c') {x : ContextChange} (hx : x.scope.SeenFrom flow)
    (hfile : (c.store x.store).fileFault? x.scope c.disk = none) :
    (c.amend x).Agree flow (c'.amend x) where
  defaultName := h.defaultName
  name name := by rw [name_amend, name_amend, h.name]
  directory name := by rw [directory_amend, directory_amend, h.directory]
  entries name scope hscope := by
    have hname : ∀ name, c'.nameOf name = c.nameOf name := fun name => by
      unfold nameOf
      rw [h.defaultName]
    rw [store_amend, store_amend, hname, hname]
    split
    · by_cases hs : scope = x.scope
      · subst hs
        rw [Store.entries_put_self, Store.entries_put_self]
      · rw [Store.entries_put_of_ne hs, Store.entries_put_of_ne hs, h.entries _ _ hscope]
    · exact h.entries name scope hscope
  files name scope hscope := by
    have hfile' : (c'.store x.store).fileFault? x.scope c'.disk = none := by
      rw [h.files _ _ hx, hfile]
    rw [fileFault?_amend hfile, fileFault?_amend hfile', h.file?, h.file?, h.files _ _ hscope]

/-- The same changes of scopes that are seen lead from two contexts to two others, which agree. -/
def SameChanges (flow : Identifier) (c c' d d' : Contexts) : Prop :=
  d.Agree flow d' ∧ ∃ changes : List ContextChange, (∀ x ∈ changes, x.scope.SeenFrom flow) ∧
    d = c.amendAll changes ∧ d' = c'.amendAll changes

theorem SameChanges.refl (h : c.Agree flow c') : SameChanges flow c c' c c' :=
  ⟨h, [], by simp, rfl, rfl⟩

theorem SameChanges.trans {e e' : Contexts} (h : SameChanges flow c c' d d')
    (h' : SameChanges flow d d' e e') : SameChanges flow c c' e e' := by
  obtain ⟨-, xs, hxs, rfl, rfl⟩ := h
  obtain ⟨hagree, ys, hys, rfl, rfl⟩ := h'
  refine ⟨hagree, xs ++ ys, fun x hx => ?_, ?_, ?_⟩
  · exact (List.mem_append.1 hx).elim (hxs x) (hys x)
  · rw [amendAll_append]
  · rw [amendAll_append]

/-- Scopes that are not seen stay as they are. -/
theorem SameChanges.entries_eq (h : SameChanges flow c c' d d') {scope : Scope}
    (hscope : ¬scope.SeenFrom flow) (name : Option String) :
    (d.store name).entries scope = (c.store name).entries scope := by
  obtain ⟨-, xs, hxs, rfl, -⟩ := h
  refine entries_amendAll_of_ne (fun x hx heq => hscope ?_) name c
  rw [heq]
  exact hxs x hx

/-- A look-up in a scope that is seen answers the same. -/
theorem Agree.get? (h : c.Agree flow c') {scope : Scope} (hscope : scope.SeenFrom flow)
    (key : ContextKey) (msg : Option Message) :
    c'.get? scope key msg = c.get? scope key msg := by
  unfold Contexts.get? Store.get?
  rw [h.entries _ _ hscope]

/-- A write to a scope that is seen fails alike, or makes the same change. -/
theorem Agree.set (h : c.Agree flow c') {scope : Scope} (hscope : scope.SeenFrom flow)
    (key : ContextKey) (msg : Option Message) (v : Option Value) :
    (∃ fault, c.set scope key msg v = .error fault ∧ c'.set scope key msg v = .error fault) ∨
      ∃ d d', c.set scope key msg v = .ok d ∧ c'.set scope key msg v = .ok d' ∧
        SameChanges flow c c' d d' := by
  rw [set_eq_amend, set_eq_amend, h.name, h.entries _ _ hscope, h.files _ _ hscope]
  cases key.path.bind? (msg.map (·.entries)) with
  | none => exact .inl ⟨_, rfl, rfl⟩
  | some keys =>
    dsimp only
    cases Store.changed? ((c.store key.store).entries scope) keys v with
    | none => exact .inl ⟨_, rfl, rfl⟩
    | some entries =>
      dsimp only
      cases hfile : (c.store key.store).fileFault? scope c.disk with
      | some e => exact .inl ⟨_, rfl, rfl⟩
      | none =>
        let x : ContextChange := ⟨key.store, scope, entries⟩
        refine .inr ⟨_, _, rfl, rfl, h.amend (x := x) hscope hfile, [x], ?_, rfl, rfl⟩
        rintro y hy
        obtain rfl := List.mem_singleton.1 hy
        exact hscope

end Contexts

end Wireflow
