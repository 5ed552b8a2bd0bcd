/-
What is on disk is what is in memory. However writes to a store on disk succeed and fail, every scope
that has been written has one file, its file holds the entries that the store holds, and no other
file of a scope is there; so the store that is opened on these files afterwards has the same entries
as they are after a trip to JSON and back.

A write goes to the file before it is kept, so a write that fails at either step changes neither
side. The names of the files are read back as the scopes that they are of.
-/
import Wireflow.Proofs.Context.Listing
import Wireflow.Proofs.Json.Trees
import Wireflow.Proofs.Value.Json

namespace Wireflow

/-! ## Runs of writes -/

/-- A write of a value, or a removal for none, and why the system refuses to write the file of the
scope, if it does: the file then stays as it is. -/
structure Put where
  scope : Scope
  keys : List Key
  value : Option Value
  refusal : Option DiskError

/-- How the system writes the file. -/
def Put.write (p : Put) : Disk → DiskPath → ByteArray → Except DiskError Disk :=
  match p.refusal with
  | none => Disk.write
  | some e => fun _ _ _ => .error e

/-- A file that is written holds what was written to it. -/
theorem Put.write_eq_ok {p : Put} {disk disk' : Disk} {path : DiskPath} {content : ByteArray}
    (h : p.write disk path content = .ok disk') : disk' = disk.put path (.file content) := by
  unfold Put.write at h
  cases hrefusal : p.refusal with
  | none => rw [hrefusal] at h; exact Disk.write_eq_ok h
  | some e => rw [hrefusal] at h; cases h

namespace Store

/-- Performs writes in order. The answers stand beside the writes. -/
def puts (s : Store) (disk : Disk) :
    List Put → List (Put × Except StoreFault Unit) × Store × Disk
  | [] => ([], s, disk)
  | p :: rest =>
    match s.setBy p.write p.scope p.keys p.value disk with
    | .ok (s', disk') =>
      let r := puts s' disk' rest
      ((p, .ok ()) :: r.1, r.2)
    | .error fault =>
      let r := puts s disk rest
      ((p, .error fault) :: r.1, r.2)

/-- The scopes that have been written with success. -/
def written (answers : List (Put × Except StoreFault Unit)) : List Scope :=
  answers.filterMap fun a =>
    match a.2 with
    | .ok _ => some a.1.scope
    | .error _ => none

/-! ## Files -/

/-- What is read from the file of a scope are its entries as they are after a trip to JSON. -/
theorem entriesOf?_fileContent {entries e : Entries}
    (hread : (Value.toJson (.object entries)).ReadsBack)
    (h : entriesOf? (fileContent entries) = some e) : e = Value.jsonNormalEntries entries := by
  unfold entriesOf? fileContent at h
  rw [fromUTF8?_toUTF8] at h
  dsimp only at h
  split at h
  · rename_i members hparse
    cases h
    have hmembers := hread _ hparse
    rw [Value.toJson] at hmembers
    rw [Json.object.inj hmembers, Value.ofJsonMembers_toJsonEntries]
  · cases h

/-- The store of a directory and the disk: the directory holds one file for every scope that has been
written, with the entries of the scope, and no other files; scopes that have not been written have no
entries. -/
structure Mirrors (directory : String) (s : Store) (disk : Disk) (done : List Scope) : Prop where
  directory_eq : s.directory = some directory
  listed : ∀ x ∈ disk.list (Disk.pathOf directory),
    ∃ scope ∈ done, x = (scope.fileName, .file (fileContent (s.entries scope)))
  filed : ∀ scope ∈ done, (scope.fileName, .file (fileContent (s.entries scope))) ∈
    disk.list (Disk.pathOf directory)
  unwritten : ∀ scope, scope ∉ done → s.entries scope = []

/-- A write that succeeds has put the same entries into the file of the scope and into the store. -/
theorem setBy_eq_ok {p : Put} {s s' : Store} {disk disk' : Disk} {directory : String}
    (hdirectory : s.directory = some directory)
    (h : s.setBy p.write p.scope p.keys p.value disk = .ok (s', disk')) :
    ∃ entries, s' = s.put p.scope entries ∧
      disk' = disk.put (Disk.pathOf directory ++ [p.scope.fileName]) (.file (fileContent entries)) := by
  obtain ⟨hslash, hlength⟩ := p.scope.fileName_plain
  unfold setBy at h
  split at h
  · cases h
  · rename_i entries _
    split at h
    · rename_i disk₁ hpersist
      cases h
      refine ⟨entries, rfl, ?_⟩
      unfold persistBy at hpersist
      rw [hdirectory] at hpersist
      dsimp only at hpersist
      split at hpersist
      · rename_i disk₂ hwrite
        cases hpersist
        rw [Put.write_eq_ok hwrite, Disk.pathOf_join hslash hlength]
      · cases hpersist
    · cases h

namespace Mirrors

variable {directory : String} {s : Store} {disk : Disk} {done : List Scope}

/-- A write that succeeds changes the file and the entries of its scope alike, and no others. -/
theorem set (h : Mirrors directory s disk done) {p : Put} {s' : Store} {disk' : Disk}
    (hset : s.setBy p.write p.scope p.keys p.value disk = .ok (s', disk')) :
    Mirrors directory s' disk' (done ++ [p.scope]) := by
  obtain ⟨entries, rfl, rfl⟩ := setBy_eq_ok h.directory_eq hset
  refine ⟨h.directory_eq, fun x hx => ?_, fun scope hscope => ?_, fun scope hscope => ?_⟩
  · obtain ⟨name, entry⟩ := x
    rcases Disk.mem_list_put.1 hx with ⟨rfl, rfl⟩ | ⟨hname, hx⟩
    · exact ⟨p.scope, by simp, by rw [entries_put_self]⟩
    · obtain ⟨scope, hscope, heq⟩ := h.listed _ hx
      cases heq
      have hne : scope ≠ p.scope := fun heq => hname (heq ▸ rfl)
      exact ⟨scope, List.mem_append_left _ hscope, by rw [entries_put_of_ne hne]⟩
  · rw [Disk.mem_list_put]
    by_cases hp : scope = p.scope
    · subst hp
      exact .inl ⟨rfl, by rw [entries_put_self]⟩
    · have hdone : scope ∈ done := by simpa [hp] using hscope
      rw [entries_put_of_ne hp]
      exact .inr ⟨fun hname => hp (Scope.fileName_injective hname), h.filed scope hdone⟩
  · have hnot : scope ∉ done ∧ scope ≠ p.scope := by simpa using hscope
    rw [entries_put_of_ne hnot.2]
    exact h.unwritten scope hnot.1

/-- So do any writes, whether they succeed or fail. -/
theorem puts (ps : List Put) :
    ∀ {s : Store} {disk : Disk} {done : List Scope}, Mirrors directory s disk done →
      Mirrors directory (s.puts disk ps).2.1 (s.puts disk ps).2.2
        (done ++ written (s.puts disk ps).1) := by
  induction ps with
  | nil => intro s disk done h; simpa [Store.puts, written] using h
  | cons p rest ih =>
    intro s disk done h
    unfold Store.puts
    cases hset : s.setBy p.write p.scope p.keys p.value disk with
    | ok r =>
      obtain ⟨s', disk'⟩ := r
      have hrest := ih (h.set hset)
      rw [List.append_assoc] at hrest
      exact hrest
    | error fault => exact ih h

end Mirrors

/-! ## Opening -/

/-- A store that has been opened holds what was loaded from the files of its directory. -/
theorem openAt_eq_ok {name base : String} {disk disk' : Disk} {s : Store}
    (h : openAt name base disk = (.ok s, disk')) :
    s.directory = some (Disk.join base name) ∧
      disk.makeDirectory (Disk.pathOf (Disk.join base name)) = .ok disk' ∧
      load (Disk.join base name) (disk'.list (Disk.pathOf (Disk.join base name))) [] =
        .ok s.scopes := by
  unfold openAt at h
  dsimp only at h
  split at h
  · cases h
  · rename_i disk₁ hmake
    split at h
    · rename_i scopes hload
      cases h
      exact ⟨rfl, hmake, hload⟩
    · cases h

/-- What is loaded from files of scopes: for every scope that has a file what the file holds, and
what was there before for all others. -/
theorem entriesIn_load {directory : String} (content : Scope → ByteArray) (held : Scope → Entries)
    (files : List (String × DiskEntry)) :
    ∀ {before after : List (Scope × Entries)},
      (∀ x ∈ files, ∃ scope : Scope, x = (scope.fileName, .file (content scope)) ∧
        ∀ e, entriesOf? (content scope) = some e → e = held scope) →
      load directory files before = .ok after → ∀ scope : Scope,
        entriesIn scope after =
          if scope.fileName ∈ files.map (·.1) then held scope else entriesIn scope before := by
  intro before after hfiles h scope
  have hheld : ∀ e ∈ heldIn scope files, scope.fileName ∈ files.map (·.1) ∧ e = held scope := by
    intro e he
    obtain ⟨x, hx, hscope, hxe⟩ := mem_heldIn.1 he
    obtain ⟨owner, rfl, howner⟩ := hfiles x hx
    rw [Scope.ofFileName?_fileName] at hscope
    cases hscope
    exact ⟨List.mem_map.2 ⟨_, hx, rfl⟩, howner e hxe⟩
  rw [entriesIn_of_load h]
  split
  · -- the file of the scope has been read, so there is a last one
    rename_i hin
    obtain ⟨x, hx, hname⟩ := List.mem_map.1 hin
    have hscope : Scope.ofFileName? x.1 = some scope := by
      rw [hname, Scope.ofFileName?_fileName]
    obtain ⟨e, he⟩ := Option.isSome_iff_exists.1 (exists_load_eq_ok_iff.1 ⟨_, h⟩ x hx scope hscope)
    have hne : heldIn scope files ≠ [] := List.ne_nil_of_mem (mem_heldIn.2 ⟨x, hx, hscope, he⟩)
    rw [List.getLast?_eq_some_getLast hne, Option.getD_some]
    exact (hheld _ (List.getLast_mem hne)).2
  · rename_i hnot
    rw [List.eq_nil_iff_forall_not_mem.2 fun e he => hnot (hheld e he).1]
    rfl

namespace Mirrors

variable {name base : String} {s s₁ : Store} {disk disk₁ : Disk} {done : List Scope}

/-- A store that has been opened on an empty directory begins so: nothing has been loaded. -/
theorem opened (h : openAt name base disk = (.ok s, disk₁))
    (hempty : disk₁.list (Disk.pathOf (Disk.join base name)) = []) :
    Mirrors (Disk.join base name) s disk₁ [] := by
  obtain ⟨hdirectory, -, hload⟩ := openAt_eq_ok h
  rw [hempty] at hload
  refine ⟨hdirectory, by simp [hempty], by simp, fun scope _ => ?_⟩
  unfold entries
  rw [← Except.ok.inj hload]
  rfl

/-- To make the way to the directory again changes no file in it. -/
theorem makeDirectory {directory : String} (h : Mirrors directory s disk done)
    (hmake : disk.makeDirectory (Disk.pathOf directory) = .ok disk₁) :
    Mirrors directory s disk₁ done where
  directory_eq := h.directory_eq
  listed := fun x hx => h.listed x ((Disk.mem_list_makeDirectory hmake).1 hx)
  filed := fun scope hscope => (Disk.mem_list_makeDirectory hmake).2 (h.filed scope hscope)
  unwritten := h.unwritten

/-- The files are those of the scopes that have been written. -/
theorem mem_files {directory : String} (h : Mirrors directory s disk done) (scope : Scope) :
    scope.fileName ∈ (disk.list (Disk.pathOf directory)).map (·.1) ↔ scope ∈ done := by
  constructor
  · intro hname
    obtain ⟨x, hx, hfile⟩ := List.mem_map.1 hname
    obtain ⟨owner, howner, rfl⟩ := h.listed x hx
    rwa [← Scope.fileName_injective hfile]
  · intro hscope
    exact List.mem_map.2 ⟨_, h.filed scope hscope, rfl⟩

/-- A store that is opened on the files has the entries of the other one, as they are after a trip to
JSON and back. -/
theorem entries_reopened (h : Mirrors (Disk.join base name) s disk done)
    (hread : ∀ scope ∈ done, (Value.toJson (.object (s.entries scope))).ReadsBack)
    (hreopen : openAt name base disk = (.ok s₁, disk₁)) (scope : Scope) :
    s₁.entries scope = Value.jsonNormalEntries (s.entries scope) := by
  obtain ⟨-, hmake, hload⟩ := openAt_eq_ok hreopen
  have hfiles := h.makeDirectory hmake
  have hloaded := entriesIn_load (fun scope => fileContent (s.entries scope))
    (fun scope => Value.jsonNormalEntries (s.entries scope)) _ (fun x hx => by
      obtain ⟨owner, howner, rfl⟩ := hfiles.listed x hx
      exact ⟨owner, rfl, fun e he => entriesOf?_fileContent (hread owner howner) he⟩) hload scope
  show entriesIn scope s₁.scopes = _
  rw [hloaded]
  split
  · rfl
  · -- a scope without a file has not been written, so it has no entries here either
    rename_i hname
    rw [h.unwritten scope fun hscope => hname ((hfiles.mem_files scope).2 hscope)]
    rfl

/-- It has no scopes but those that have been written. -/
theorem mem_reopened (h : Mirrors (Disk.join base name) s disk done)
    (hreopen : openAt name base disk = (.ok s₁, disk₁)) {scope : Scope}
    (hscope : scope ∈ s₁.scopes.map (·.1)) : scope ∈ done := by
  obtain ⟨-, hmake, hload⟩ := openAt_eq_ok hreopen
  rcases (mem_of_load hload).1 hscope with ⟨x, hx, hname⟩ | hnone
  · obtain ⟨owner, howner, rfl⟩ := (h.makeDirectory hmake).listed x hx
    rw [Scope.ofFileName?_fileName] at hname
    exact Option.some.inj hname ▸ howner
  · cases hnone

end Mirrors

/-! ## A small run -/

/-- A store that has just been opened on an empty disk. -/
def sample : Store := { name := "s", directory := some "d/s", scopes := [] }

/-- The disk on which it has been opened. -/
def sampleDisk : Disk := ⟨[(["d", "s"], .directory), (["d"], .directory)]⟩

/-- Bytes for the global entries, and a write to the entries of a flow that the system refuses. -/
def samplePuts : List Put :=
  [⟨.global, [.name "b"], some (.bytes [1, 255]), none⟩,
    ⟨.flow ⟨1⟩, [.name "x"], some .null, some .isDirectory⟩]

/-- The global entries after the writes. -/
def sampleEntries : Entries := [("b", .bytes [1, 255])]

/-- The disk with a file of global entries. -/
def sampleDiskWith (content : ByteArray) : Disk :=
  ⟨(["d", "s", "global.json"], .file content) :: sampleDisk.entries⟩

theorem list_sampleDisk : sampleDisk.list ["d", "s"] = [] := by
  simp [Disk.list, sampleDisk]

theorem puts_sample : sample.puts sampleDisk samplePuts =
    ([(⟨.global, [.name "b"], some (.bytes [1, 255]), none⟩, .ok ()),
      (⟨.flow ⟨1⟩, [.name "x"], some .null, some .isDirectory⟩, .error (.disk .isDirectory))],
      { sample with scopes := [(.global, sampleEntries)] },
      sampleDiskWith (fileContent sampleEntries)) := by
  have hpath : Disk.pathOf (Disk.join "d/s" Scope.global.fileName) = ["d", "s", "global.json"] := by
    decide +kernel
  have hwrite (content : ByteArray) :
      sampleDisk.write ["d", "s", "global.json"] content = .ok (sampleDiskWith content) := rfl
  have hchanged : changed? (sample.entries .global) [.name "b"] (some (.bytes [1, 255])) =
      some sampleEntries := rfl
  have hfirst : sample.setBy Disk.write .global [.name "b"] (some (.bytes [1, 255])) sampleDisk =
      .ok ({ sample with scopes := [(.global, sampleEntries)] },
        sampleDiskWith (fileContent sampleEntries)) := by
    unfold setBy persistBy
    rw [hchanged]
    dsimp only [sample]
    rw [hpath, hwrite]
    rfl
  unfold samplePuts puts
  dsimp only [Put.write]
  rw [hfirst]
  rfl

theorem toJson_sampleEntries : Value.toJson (.object sampleEntries) =
    .object [("b", .array [Json.ofNat 1, Json.ofNat 255])] := rfl

theorem accepted_sampleEntries : (Value.toJson (.object sampleEntries)).Accepted := by
  rw [toJson_sampleEntries]
  simp [Json.Accepted, Json.AcceptedItems, Json.AcceptedMembers, Json.accepted_ofNat]

theorem reread_sampleEntries :
    (Value.toJson (.object sampleEntries)).reread = Value.toJson (.object sampleEntries) := by
  rw [toJson_sampleEntries]
  simp [Json.reread, Json.rereadItems, Json.rereadMembers, Json.reread_ofNat, Table.ofList,
    Table.insert]

theorem depth_sampleEntries : (Value.toJson (.object sampleEntries)).depth = 2 := by
  rw [toJson_sampleEntries]
  simp [Json.depth, Json.depthItems, Json.depthMembers, Json.depth_ofNat]

/-- The file of the global entries holds what the store holds. -/
theorem entriesOf?_sampleEntries :
    entriesOf? (fileContent sampleEntries) = some (Value.jsonNormalEntries sampleEntries) := by
  have hparse : Json.parse? (Value.toJson (.object sampleEntries)).indented =
      some (Value.toJson (.object sampleEntries)) := by
    rw [Json.parse?_indented accepted_sampleEntries, reread_sampleEntries, depth_sampleEntries]
    rfl
  rw [Value.toJson] at hparse
  rw [fileContent, Value.toJson, entriesOf?_toUTF8 hparse, Value.ofJsonMembers_toJsonEntries]

theorem join_sample : Disk.join "d" "s" = "d/s" := by decide +kernel

theorem pathOf_sample : Disk.pathOf "d/s" = ["d", "s"] := by decide +kernel

theorem openAt_empty : openAt "s" "d" Disk.empty = (.ok sample, sampleDisk) := by
  have hmake : Disk.empty.makeDirectory ["d", "s"] = .ok sampleDisk := rfl
  unfold openAt
  rw [join_sample]
  dsimp only
  rw [pathOf_sample, hmake]
  dsimp only
  rw [list_sampleDisk]
  rfl

theorem openAt_sampleDiskWith {content : ByteArray} {e : Entries}
    (h : entriesOf? content = some e) : openAt "s" "d" (sampleDiskWith content) =
      (.ok { sample with scopes := [(.global, e)] }, sampleDiskWith content) := by
  have hmake : (sampleDiskWith content).makeDirectory ["d", "s"] = .ok (sampleDiskWith content) :=
    rfl
  have hlist : (sampleDiskWith content).list ["d", "s"] =
      [(Scope.global.fileName, .file content)] := by
    simp [Disk.list, sampleDiskWith, sampleDisk, Scope.fileName]
  unfold openAt
  rw [join_sample]
  dsimp only
  rw [pathOf_sample, hmake]
  dsimp only
  rw [hlist, load, Scope.ofFileName?_fileName]
  dsimp only
  rw [h]
  rfl

/-! ## What is there again -/

/-- A store that is opened again after any writes to a directory that was empty at first holds, for
every scope, the entries that the writes have left in memory, as they are after a trip to JSON and
back. A scope that has not been written with success is not there, and has no entries on either
side. That the files are read back as they were written is asked of the trees of the last files. -/
theorem openAt_after_puts {name base : String} {disk disk₀ disk₁ : Disk} {s₀ s₁ : Store}
    (hopen : openAt name base disk = (.ok s₀, disk₀))
    (hempty : disk₀.list (Disk.pathOf (Disk.join base name)) = []) (ps : List Put)
    (hread : ∀ scope ∈ written (s₀.puts disk₀ ps).1,
      (Value.toJson (.object ((s₀.puts disk₀ ps).2.1.entries scope))).ReadsBack)
    (hreopen : openAt name base (s₀.puts disk₀ ps).2.2 = (.ok s₁, disk₁)) :
    let r := s₀.puts disk₀ ps
    (∀ scope, s₁.entries scope = Value.jsonNormalEntries (r.2.1.entries scope)) ∧
    (∀ scope, scope ∉ written r.1 → r.2.1.entries scope = [] ∧ s₁.entries scope = []) ∧
    ∀ scope ∈ s₁.scopes.map (·.1), scope ∈ written r.1 := by
  intro r
  have hend : Mirrors (Disk.join base name) r.2.1 r.2.2 (written r.1) :=
    (Mirrors.opened hopen hempty).puts ps
  refine ⟨fun scope => hend.entries_reopened hread hreopen scope, fun scope hscope => ?_,
    fun scope hscope => hend.mem_reopened hreopen hscope⟩
  have hnone := hend.unwritten scope hscope
  refine ⟨hnone, ?_⟩
  rw [hend.entries_reopened hread hreopen, hnone]
  rfl

theorem openAt_after_puts_sample : ∃ s₁ disk₁,
    openAt "s" "d" (sample.puts sampleDisk samplePuts).2.2 = (.ok s₁, disk₁) ∧
      s₁.entries .global =
        [("b", .array [.number (Double.ofNat 1), .number (Double.ofNat 255)])] ∧
      s₁.entries (.flow ⟨1⟩) = [] := by
  have hempty : sampleDisk.list (Disk.pathOf (Disk.join "d" "s")) = [] := by
    rw [join_sample, pathOf_sample, list_sampleDisk]
  have hscopes : written (sample.puts sampleDisk samplePuts).1 = [.global] := by
    rw [puts_sample]
    rfl
  have hentries : (sample.puts sampleDisk samplePuts).2.1.entries .global = sampleEntries := by
    rw [puts_sample]
    rfl
  have hreads : ∀ scope ∈ written (sample.puts sampleDisk samplePuts).1,
      (Value.toJson (.object ((sample.puts sampleDisk samplePuts).2.1.entries scope))).ReadsBack := by
    intro scope hscope
    rw [hscopes, List.mem_singleton] at hscope
    rw [hscope, hentries]
    exact Json.readsBack_of_reread accepted_sampleEntries reread_sampleEntries
  have hreopen : openAt "s" "d" (sample.puts sampleDisk samplePuts).2.2 =
      (.ok { sample with scopes := [(.global, Value.jsonNormalEntries sampleEntries)] },
        sampleDiskWith (fileContent sampleEntries)) := by
    rw [puts_sample]
    exact openAt_sampleDiskWith entriesOf?_sampleEntries
  obtain ⟨hsame, hnone, -⟩ := openAt_after_puts openAt_empty hempty samplePuts hreads hreopen
  refine ⟨_, _, hreopen, ?_, (hnone _ ?_).2⟩
  · rw [hsame, hentries]
    rfl
  · rw [hscopes]
    decide

end Store

end Wireflow
