/-
When a store on disk opens again. It does exactly when no scope that has been written goes deeper than
the reader of JSON lets it; the writer has no such limit, so a store can take what it cannot load. As
long as the keys of a write and the value at their end stay within the limit together, what has been
written can be loaded.
-/
import Wireflow.Proofs.Context.Reopening
import Wireflow.Proofs.Value.Nesting

namespace Wireflow

/-! ## The way to a directory -/

namespace Disk

theorem find?_put_of_ne {d : Disk} {path p : DiskPath} (h : p ≠ path) (entry : DiskEntry) :
    (d.put path entry).find? p = d.find? p := by
  have hpath : (path == p) = false := by simpa using Ne.symm h
  have hother : ∀ e ∈ d.entries, (e.1 == p) = true → (e.1 != path) = true := by
    intro e _ he
    simpa [eq_of_beq he] using h
  unfold find? put
  rw [List.find?_cons_of_neg (by simp [hpath]), List.find?_filter]
  congr 3
  funext e
  by_cases he : (e.1 == p) = true
  · simp [eq_of_beq he, h]
  · simp [he]

/-- Making a way changes nothing that a path as short as the start of the way leads to. -/
theorem find?_makeWay (rest : DiskPath) :
    ∀ {d d' : Disk} {done p : DiskPath}, d.makeWay done rest = .ok d' → p.length ≤ done.length →
      d'.find? p = d.find? p := by
  induction rest with
  | nil =>
    intro d d' done p h _
    cases h
    rfl
  | cons name rest ih =>
    intro d d' done p h hp
    have hlonger : p.length ≤ (done ++ [name]).length := by
      rw [List.length_append]
      omega
    unfold makeWay at h
    dsimp only at h
    split at h
    · exact ih h hlonger
    · cases h
    · rw [ih h hlonger, find?_put_of_ne]
      rintro rfl
      rw [List.length_append, List.length_singleton] at hp
      omega

/-- A way that has been made is there. -/
theorem wayFault?_makeWay (rest : DiskPath) :
    ∀ {d d' : Disk} {done : DiskPath}, d.makeWay done rest = .ok d' →
      d'.wayFault? done rest = none := by
  induction rest with
  | nil => exact fun _ => rfl
  | cons name rest ih =>
    intro d d' done h
    have hstep : d'.find? (done ++ [name]) = some .directory := by
      unfold makeWay at h
      dsimp only at h
      split at h
      · rename_i hfind
        rw [find?_makeWay rest h le_rfl, hfind]
      · cases h
      · rw [find?_makeWay rest h le_rfl]
        simp [find?, put]
    unfold wayFault?
    dsimp only
    rw [hstep]
    unfold makeWay at h
    dsimp only at h
    split at h
    · exact ih h
    · cases h
    · exact ih h

/-- A way that is there is not made again. -/
theorem makeWay_of_wayFault? (rest : DiskPath) :
    ∀ {d : Disk} {done : DiskPath}, d.wayFault? done rest = none → d.makeWay done rest = .ok d := by
  induction rest with
  | nil => exact fun _ => rfl
  | cons name rest ih =>
    intro d done h
    unfold wayFault? at h
    unfold makeWay
    dsimp only at h ⊢
    split at h
    · exact ih h
    · cases h
    · cases h

/-- A path that does not stand on a way does not matter to it. -/
theorem wayFault?_put_of_not_prefix {d : Disk} {path : DiskPath} {entry : DiskEntry}
    (rest : DiskPath) : ∀ {done : DiskPath}, (∀ r, r ≠ [] → r <+: rest → done ++ r ≠ path) →
      (d.put path entry).wayFault? done rest = d.wayFault? done rest := by
  induction rest with
  | nil => exact fun _ => rfl
  | cons name rest ih =>
    intro done h
    have hne : done ++ [name] ≠ path := h [name] (by simp) (by simp)
    have hrest : ∀ r, r ≠ [] → r <+: rest → done ++ [name] ++ r ≠ path := by
      intro r _ hr
      rw [← List.append_cons]
      exact h (name :: r) (by simp) (List.cons_prefix_cons.2 ⟨rfl, hr⟩)
    unfold wayFault?
    dsimp only
    rw [find?_put_of_ne hne, ih hrest]

end Disk

namespace Store

/-! ## Loading -/

/-- The content of the file of a scope is read exactly when its entries are not nested too deeply. -/
theorem entriesOf?_isSome_iff {entries : Entries}
    (haccepted : (Value.toJson (.object entries)).Accepted) :
    (entriesOf? (fileContent entries)).isSome = true ↔
      (Value.object entries).nesting ≤ Json.depthLimit := by
  unfold entriesOf? fileContent
  rw [fromUTF8?_toUTF8]
  dsimp only
  rw [Json.parse?_indented haccepted, Value.depth_toJson]
  by_cases hdepth : (Value.object entries).nesting ≤ Json.depthLimit
  · simp [hdepth, Value.toJson, Json.reread]
  · simp [hdepth]

/-- Files of scopes are loaded exactly when each of them is read. -/
theorem load_isOk_iff (directory : String) (content : Scope → ByteArray)
    (files : List (String × DiskEntry)) :
    ∀ before : List (Scope × Entries),
      (∀ x ∈ files, ∃ scope : Scope, x = (scope.fileName, .file (content scope))) →
        ((∃ after, load directory files before = .ok after) ↔
          ∀ scope : Scope, scope.fileName ∈ files.map (·.1) →
            (entriesOf? (content scope)).isSome = true) := by
  intro before hfiles
  rw [exists_load_eq_ok_iff]
  constructor
  · intro h scope hname
    obtain ⟨x, hx, hname⟩ := List.mem_map.1 hname
    obtain ⟨owner, rfl⟩ := hfiles x hx
    rw [← Scope.fileName_injective hname]
    exact h _ hx owner (Scope.ofFileName?_fileName owner)
  · intro h x hx scope hscope
    obtain ⟨owner, rfl⟩ := hfiles x hx
    exact h owner (List.mem_map.2 ⟨_, hx, rfl⟩)

namespace Mirrors

variable {name base : String} {s : Store} {disk : Disk} {done : List Scope}

/-- A store opens on the files of another one exactly when none of the scopes that have been written is
nested too deeply. -/
theorem opens_iff (h : Mirrors (Disk.join base name) s disk done)
    (hway : disk.wayFault? [] (Disk.pathOf (Disk.join base name)) = none)
    (haccepted : ∀ scope ∈ done, (Value.toJson (.object (s.entries scope))).Accepted) :
    (∃ s₁ disk₁, openAt name base disk = (.ok s₁, disk₁)) ↔
      ∀ scope ∈ done, (Value.object (s.entries scope)).nesting ≤ Json.depthLimit := by
  have hmake : disk.makeDirectory (Disk.pathOf (Disk.join base name)) = .ok disk :=
    Disk.makeWay_of_wayFault? _ hway
  have hload := load_isOk_iff (Disk.join base name) (fun scope => fileContent (s.entries scope))
    (disk.list (Disk.pathOf (Disk.join base name))) [] fun x hx => by
      obtain ⟨scope, -, rfl⟩ := h.listed x hx
      exact ⟨scope, rfl⟩
  have hopen : (∃ s₁ disk₁, openAt name base disk = (.ok s₁, disk₁)) ↔
      ∃ after, load (Disk.join base name) (disk.list (Disk.pathOf (Disk.join base name))) [] =
        .ok after := by
    constructor
    · rintro ⟨s₁, disk₁, hopen⟩
      obtain ⟨-, hmake', hloaded⟩ := openAt_eq_ok hopen
      rw [hmake] at hmake'
      cases hmake'
      exact ⟨_, hloaded⟩
    · rintro ⟨after, hafter⟩
      unfold openAt
      dsimp only
      rw [hmake]
      dsimp only
      rw [hafter]
      exact ⟨_, _, rfl⟩
  rw [hopen, hload]
  refine forall_congr' fun scope => ?_
  rw [h.mem_files scope]
  exact forall_congr' fun hscope => entriesOf?_isSome_iff (haccepted scope hscope)

end Mirrors

/-! ## Runs of writes -/

/-- Writes put files below the directory of the store, so the way to it stays. -/
theorem wayFault?_puts {directory : String} (ps : List Put) :
    ∀ {s : Store} {disk : Disk}, s.directory = some directory →
      disk.wayFault? [] (Disk.pathOf directory) = none →
      (s.puts disk ps).2.2.wayFault? [] (Disk.pathOf directory) = none := by
  induction ps with
  | nil => exact fun _ h => h
  | cons p rest ih =>
    intro s disk hdirectory h
    unfold puts
    cases hset : s.setBy p.write p.scope p.keys p.value disk with
    | ok r =>
      obtain ⟨s', disk'⟩ := r
      obtain ⟨entries, rfl, rfl⟩ := setBy_eq_ok hdirectory hset
      refine ih hdirectory ?_
      rw [Disk.wayFault?_put_of_not_prefix, h]
      -- the file is one name longer than the way
      rintro r - hr rfl
      have hlength := hr.length_le
      rw [List.length_append, List.length_singleton] at hlength
      omega
    | error fault => exact ih hdirectory h

/-- A change of entries takes them no deeper than they were or than its keys and value together. -/
theorem nesting_changed {entries entries' : Entries} {keys : List Key} {value : Option Value} {n : Nat}
    (hentries : (Value.object entries).nesting ≤ n)
    (hvalue : ∀ v, value = some v → keys.length + v.nesting ≤ n)
    (h : changed? entries keys value = some entries') : (Value.object entries').nesting ≤ n := by
  cases value with
  | none =>
    cases h
    exact Value.nesting_remove hentries keys
  | some v =>
    unfold changed? at h
    dsimp only at h
    split at h
    · cases h
      exact Value.nesting_assign hentries (hvalue v rfl)
    · cases h

/-- So do any writes, whether they succeed or fail. -/
theorem nesting_puts (ps : List Put) {n : Nat}
    (hps : ∀ p ∈ ps, ∀ v, p.value = some v → p.keys.length + v.nesting ≤ n) :
    ∀ {s : Store} {disk : Disk}, (∀ scope, (Value.object (s.entries scope)).nesting ≤ n) →
      ∀ scope, (Value.object ((s.puts disk ps).2.1.entries scope)).nesting ≤ n := by
  induction ps with
  | nil => exact fun h => h
  | cons p rest ih =>
    intro s disk h
    obtain ⟨hp, hrest⟩ := List.forall_mem_cons.1 hps
    unfold puts
    cases hset : s.setBy p.write p.scope p.keys p.value disk with
    | ok r =>
      obtain ⟨s', disk'⟩ := r
      refine ih hrest fun scope => ?_
      unfold setBy at hset
      split at hset
      · cases hset
      · rename_i entries hchanged
        split at hset
        · cases hset
          by_cases hscope : scope = p.scope
          · rw [hscope, entries_put_self]
            exact nesting_changed (h p.scope) hp hchanged
          · rw [entries_put_of_ne hscope]
            exact h scope
        · cases hset
    | error fault => exact ih hrest h

/-- What is left of an empty directory after any writes: the files mirror the entries, and the way to
them is there. -/
theorem mirrors_puts {name base : String} {disk disk₀ : Disk} {s₀ : Store}
    (hopen : openAt name base disk = (.ok s₀, disk₀))
    (hempty : disk₀.list (Disk.pathOf (Disk.join base name)) = []) (ps : List Put) :
    Mirrors (Disk.join base name) (s₀.puts disk₀ ps).2.1 (s₀.puts disk₀ ps).2.2
        (written (s₀.puts disk₀ ps).1) ∧
      (s₀.puts disk₀ ps).2.2.wayFault? [] (Disk.pathOf (Disk.join base name)) = none := by
  obtain ⟨hdirectory, hmake, -⟩ := openAt_eq_ok hopen
  exact ⟨(Mirrors.opened hopen hempty).puts ps,
    wayFault?_puts ps hdirectory (Disk.wayFault?_makeWay _ hmake)⟩

/-- A store that is opened again after any writes to a directory that was empty at first opens exactly
when no scope that has been written is nested deeper than the reader of JSON accepts. It does when the
keys of every write and the value at their end stay within this limit together. That the numbers of the
files are read is asked of the trees of the last files. -/
theorem openAt_after_puts_iff {name base : String} {disk disk₀ : Disk} {s₀ : Store}
    (hopen : openAt name base disk = (.ok s₀, disk₀))
    (hempty : disk₀.list (Disk.pathOf (Disk.join base name)) = []) (ps : List Put)
    (hnumbers : ∀ scope ∈ written (s₀.puts disk₀ ps).1,
      (Value.toJson (.object ((s₀.puts disk₀ ps).2.1.entries scope))).Accepted) :
    let r := s₀.puts disk₀ ps
    ((∃ s₁ disk₁, openAt name base r.2.2 = (.ok s₁, disk₁)) ↔
      ∀ scope ∈ written r.1, (Value.object (r.2.1.entries scope)).nesting ≤ Json.depthLimit) ∧
    ((∀ p ∈ ps, ∀ v, p.value = some v → p.keys.length + v.nesting ≤ Json.depthLimit) →
      ∃ s₁ disk₁, openAt name base r.2.2 = (.ok s₁, disk₁)) := by
  intro r
  obtain ⟨hmirrors, hway⟩ := mirrors_puts hopen hempty ps
  have hopens := hmirrors.opens_iff hway hnumbers
  refine ⟨hopens, fun hps => hopens.2 fun scope _ => nesting_puts ps hps (fun scope => ?_) scope⟩
  rw [(Mirrors.opened hopen hempty).unwritten scope (by simp)]
  decide

/-! ## Tall runs

A run of one write that sets a value at the end of a row of names, from an empty directory. -/

/-- The row of names, with so many names after the first one. -/
def row (n : Nat) : List String :=
  "a" :: List.replicate n "a"

/-- The write to the global entries. -/
def tallPut (n : Nat) : Put :=
  ⟨.global, (row n).map Key.name, some (.bool true), none⟩

/-- The global entries afterwards. -/
def tallEntries (n : Nat) : Entries :=
  [("a", Value.tower (List.replicate n "a") (.bool true))]

theorem nesting_tallEntries (n : Nat) : (Value.object (tallEntries n)).nesting = n + 1 := by
  have hflat : (Value.bool true).nesting = 0 := rfl
  have htower := Value.nesting_tower (row n) (.bool true)
  rw [row, List.length_cons, List.length_replicate, hflat] at htower
  exact htower

theorem accepted_tallEntries (n : Nat) : (Value.toJson (.object (tallEntries n))).Accepted :=
  Value.accepted_toJson_tower (v := .bool true) trivial (row n)

/-- However many names there are, the write succeeds. -/
theorem puts_tall (n : Nat) : sample.puts sampleDisk [tallPut n] =
    ([(tallPut n, .ok ())], { sample with scopes := [(.global, tallEntries n)] },
      sampleDiskWith (fileContent (tallEntries n))) := by
  have hpath : Disk.pathOf (Disk.join "d/s" Scope.global.fileName) = ["d", "s", "global.json"] := by
    decide +kernel
  have hwrite (content : ByteArray) :
      sampleDisk.write ["d", "s", "global.json"] content = .ok (sampleDiskWith content) := rfl
  have hnone : Table.get? (Key.name "a").text (sample.entries .global) = none := rfl
  have hchanged : changed? (sample.entries .global) ((row n).map Key.name) (some (.bool true)) =
      some (tallEntries n) := by
    rw [row, List.map_cons, changed?, Entries.assign]
    dsimp only
    rw [hnone, Option.getD_none, Value.assignIn_null]
    rfl
  have hset : sample.setBy Disk.write .global ((row n).map Key.name) (some (.bool true)) sampleDisk =
      .ok ({ sample with scopes := [(.global, tallEntries n)] },
        sampleDiskWith (fileContent (tallEntries n))) := by
    unfold setBy persistBy
    rw [hchanged]
    dsimp only [sample]
    rw [hpath, hwrite]
    rfl
  rw [puts, tallPut]
  dsimp only [Put.write]
  rw [hset]
  rfl

theorem list_sample : sampleDisk.list (Disk.pathOf (Disk.join "d" "s")) = [] := by
  rw [join_sample, pathOf_sample, list_sampleDisk]

theorem written_tall (n : Nat) : written (sample.puts sampleDisk [tallPut n]).1 = [.global] := by
  rw [puts_tall]
  rfl

theorem entries_tall (n : Nat) :
    (sample.puts sampleDisk [tallPut n]).2.1.entries .global = tallEntries n := by
  rw [puts_tall]
  rfl

theorem accepted_tall (n : Nat) : ∀ scope ∈ written (sample.puts sampleDisk [tallPut n]).1,
    (Value.toJson (.object ((sample.puts sampleDisk [tallPut n]).2.1.entries scope))).Accepted := by
  intro scope hscope
  rw [written_tall, List.mem_singleton] at hscope
  rw [hscope, entries_tall]
  exact accepted_tallEntries n

theorem short_tall {n : Nat} (h : n + 1 ≤ Json.depthLimit) : ∀ p ∈ [tallPut n], ∀ v,
    p.value = some v → p.keys.length + v.nesting ≤ Json.depthLimit := by
  have hlength : (tallPut n).keys.length = n + 1 := by
    rw [tallPut, List.length_map, row, List.length_cons, List.length_replicate]
  intro p hp v hv
  rw [List.mem_singleton] at hp
  subst hp
  cases hv
  rw [hlength]
  exact h

/-- What has been written can be loaded again as long as the row is not longer than the reader of JSON
accepts. -/
theorem opens_tall_iff (n : Nat) :
    (∃ s₁ disk₁, openAt "s" "d" (sample.puts sampleDisk [tallPut n]).2.2 = (.ok s₁, disk₁)) ↔
      n + 1 ≤ Json.depthLimit := by
  obtain ⟨hmirrors, hway⟩ := mirrors_puts openAt_empty list_sample [tallPut n]
  rw [hmirrors.opens_iff hway (accepted_tall n), written_tall]
  simp only [List.mem_singleton, forall_eq]
  rw [entries_tall, nesting_tallEntries]

/-- A row of 127 names stays within the limit. -/
theorem openAt_after_puts_iff_tall :
    ∃ s₁ disk₁, openAt "s" "d" (sample.puts sampleDisk [tallPut 126]).2.2 = (.ok s₁, disk₁) := by
  have hlimit : 126 + 1 ≤ Json.depthLimit := by decide
  -- the length of the row must stay folded, or the run is computed from it
  generalize 126 = n at hlimit ⊢
  obtain ⟨-, hopens⟩ :=
    openAt_after_puts_iff openAt_empty list_sample [tallPut n] (accepted_tall n)
  exact hopens (short_tall hlimit)

/-- Not everything that a store has taken can be loaded again: a row of 128 names is written, and the
store does not open afterwards. -/
theorem not_opens_after_puts_tall :
    ¬∀ (name base : String) (disk disk₀ : Disk) (s₀ : Store) (ps : List Put),
      openAt name base disk = (.ok s₀, disk₀) →
      disk₀.list (Disk.pathOf (Disk.join base name)) = [] →
      (∀ a ∈ (s₀.puts disk₀ ps).1, a.2 = .ok ()) →
      ∃ s₁ disk₁, openAt name base (s₀.puts disk₀ ps).2.2 = (.ok s₁, disk₁) := by
  intro h
  have hopens := h "s" "d" Disk.empty sampleDisk sample [tallPut 127] openAt_empty list_sample ?_
  · exact absurd ((opens_tall_iff 127).1 hopens) (by decide)
  · rw [puts_tall]
    intro a ha
    cases List.mem_singleton.1 ha
    rfl

end Store

end Wireflow
