/-
The order in which a directory is listed. A store on disk takes the files of its directory as the
system lists them, and of several files of one scope the last one counts. So the order never decides
whether the store opens, nor which scopes it then has, but it does decide on the entries of a scope
exactly when two files of the scope hold different ones. There can be several, since an identifier has
several spellings.
-/
import Wireflow.Context.Store
import Wireflow.Proofs.Context.Files
import Mathlib.Data.List.Permutation

namespace Wireflow.Store

/-! ## Files that are loaded -/

/-- The entries that are read from what a name in a directory leads to, when it is a file of a JSON
object. -/
def heldBy? : DiskEntry → Option Entries
  | .directory => none
  | .file content => entriesOf? content

/-- What the files of a scope hold, in the order in which they are listed. -/
def heldIn (scope : Scope) (files : List (String × DiskEntry)) : List Entries :=
  files.filterMap fun x => if Scope.ofFileName? x.1 = some scope then heldBy? x.2 else none

theorem fromUTF8?_toUTF8 (s : String) : String.fromUTF8? s.toUTF8 = some s := by
  simp only [String.fromUTF8?, String.toUTF8_eq_toByteArray, dif_pos s.isValidUTF8]
  rfl

theorem entriesOf?_toUTF8 {text : String} {members : List (String × Json)}
    (h : Json.parse? text = some (.object members)) :
    entriesOf? text.toUTF8 = some (Value.ofJsonMembers members) := by
  unfold entriesOf?
  rw [fromUTF8?_toUTF8]
  dsimp only
  rw [h]

variable {directory : String} {scope : Scope} {x : String × DiskEntry} {held : Entries}
  {files files' : List (String × DiskEntry)} {before after : List (Scope × Entries)}

theorem mem_heldIn : held ∈ heldIn scope files ↔
    ∃ x ∈ files, Scope.ofFileName? x.1 = some scope ∧ heldBy? x.2 = some held := by
  simp [heldIn]

theorem heldIn_cons_self (hscope : Scope.ofFileName? x.1 = some scope)
    (hheld : heldBy? x.2 = some held) : heldIn scope (x :: files) = held :: heldIn scope files :=
  List.filterMap_cons_some (by rw [if_pos hscope, hheld])

theorem heldIn_cons_of_ne (hscope : Scope.ofFileName? x.1 ≠ some scope) :
    heldIn scope (x :: files) = heldIn scope files :=
  List.filterMap_cons_none (if_neg hscope)

theorem heldIn_append (files files' : List (String × DiskEntry)) :
    heldIn scope (files ++ files') = heldIn scope files ++ heldIn scope files' :=
  List.filterMap_append

theorem heldIn_perm (h : files.Perm files') : (heldIn scope files).Perm (heldIn scope files') :=
  h.filterMap _

/-- A file of no scope is passed over, and what is read from the file of a scope takes the place of
the entries of the scope. -/
theorem load_cons_eq_ok_iff : load directory (x :: files) before = .ok after ↔
    Scope.ofFileName? x.1 = none ∧ load directory files before = .ok after ∨
    ∃ owner held, Scope.ofFileName? x.1 = some owner ∧ heldBy? x.2 = some held ∧
      load directory files (putIn owner held before) = .ok after := by
  obtain ⟨file, entry⟩ := x
  rw [load]
  cases Scope.ofFileName? file with
  | none => simp
  | some owner =>
    cases entry with
    | directory => simp [heldBy?]
    | file content => cases hheld : entriesOf? content <;> simp [heldBy?, hheld]

/-- The files can be loaded exactly when those of scopes can be read. -/
theorem exists_load_eq_ok_iff : (∃ after, load directory files before = .ok after) ↔
    ∀ x ∈ files, ∀ scope, Scope.ofFileName? x.1 = some scope → (heldBy? x.2).isSome = true := by
  induction files generalizing before with
  | nil => simp [load]
  | cons x rest ih =>
    simp only [load_cons_eq_ok_iff, List.forall_mem_cons]
    constructor
    · rintro ⟨after, ⟨hnone, h⟩ | ⟨owner, held, howner, hheld, h⟩⟩
      · exact ⟨by simp [hnone], ih.1 ⟨after, h⟩⟩
      · exact ⟨by simp [hheld], ih.1 ⟨after, h⟩⟩
    · rintro ⟨hx, hrest⟩
      cases howner : Scope.ofFileName? x.1 with
      | none =>
        obtain ⟨after, h⟩ := ih.2 hrest
        exact ⟨after, .inl ⟨rfl, h⟩⟩
      | some owner =>
        obtain ⟨held, hheld⟩ := Option.isSome_iff_exists.1 (hx owner howner)
        obtain ⟨after, h⟩ := ih.2 hrest
        exact ⟨after, .inr ⟨owner, held, rfl, hheld, h⟩⟩

/-- The entries of a scope are those of its last file, or what they were before when it has none. -/
theorem entriesIn_of_load (h : load directory files before = .ok after) :
    entriesIn scope after = (heldIn scope files).getLast?.getD (entriesIn scope before) := by
  induction files generalizing before with
  | nil =>
    cases h
    rfl
  | cons x rest ih =>
    obtain ⟨hnone, h⟩ | ⟨owner, held, howner, hheld, h⟩ := load_cons_eq_ok_iff.1 h
    · rw [ih h, heldIn_cons_of_ne (by simp [hnone])]
    · rw [ih h]
      by_cases hscope : scope = owner
      · subst hscope
        rw [heldIn_cons_self howner hheld, entriesIn_putIn_self, List.getLast?_cons]
        rfl
      · have hne : Scope.ofFileName? x.1 ≠ some scope := by simpa [howner] using Ne.symm hscope
        rw [heldIn_cons_of_ne hne, entriesIn_putIn_of_ne hscope]

theorem mem_putIn {owner : Scope} {entries : Entries} {scopes : List (Scope × Entries)} :
    scope ∈ (putIn owner entries scopes).map (·.1) ↔
      scope = owner ∨ scope ∈ scopes.map (·.1) := by
  induction scopes with
  | nil => simp [putIn]
  | cons x rest ih =>
    obtain ⟨first, e⟩ := x
    unfold putIn
    split
    · rename_i h
      subst h
      simp
    · rw [List.map_cons, List.mem_cons, ih, List.map_cons, List.mem_cons]
      exact or_left_comm

/-- The scopes that have a file are there afterwards, and those that were there before. -/
theorem mem_of_load (h : load directory files before = .ok after) : scope ∈ after.map (·.1) ↔
    (∃ x ∈ files, Scope.ofFileName? x.1 = some scope) ∨ scope ∈ before.map (·.1) := by
  induction files generalizing before with
  | nil =>
    cases h
    simp
  | cons x rest ih =>
    simp only [List.exists_mem_cons_iff]
    obtain ⟨hnone, h⟩ | ⟨owner, held, howner, -, h⟩ := load_cons_eq_ok_iff.1 h
    · simp [ih h, hnone]
    · rw [ih h, mem_putIn, howner, Option.some.injEq, eq_comm (a := owner)]
      exact or_left_comm.trans or_assoc.symm

/-! ## Orders of a listing -/

/-- Any file of a listing may be the last one of it. -/
theorem exists_perm_concat (h : x ∈ files) :
    ∃ rest : List (String × DiskEntry), (rest ++ [x]).Perm files := by
  obtain ⟨l₁, l₂, rfl⟩ := List.append_of_mem h
  exact ⟨l₁ ++ l₂, (List.perm_append_singleton x _).trans List.perm_middle.symm⟩

/-- Entries that are the same in all places of a list are its last ones in any order. -/
theorem getLast?_eq_of_perm {l l' : List Entries} (h : l.Perm l')
    (hsame : ∀ a ∈ l, ∀ b ∈ l, a = b) : l.getLast? = l'.getLast? := by
  cases hl : l.getLast? with
  | none =>
    rw [List.getLast?_eq_none_iff] at hl
    subst hl
    rw [List.nil_perm.1 h]
    rfl
  | some a =>
    cases hl' : l'.getLast? with
    | none =>
      rw [List.getLast?_eq_none_iff] at hl'
      subst hl'
      rw [List.perm_nil.1 h] at hl
      cases hl
    | some b =>
      rw [hsame a (List.mem_of_getLast? hl) b (h.mem_iff.2 (List.mem_of_getLast? hl'))]

/-! ## Opening -/

/-- What is in the directory of a store by the time it is opened, by name. -/
def listing (name base : String) (disk : Disk) : List (String × DiskEntry) :=
  let path := Disk.pathOf (Disk.join base name)
  match disk.makeDirectory path with
  | .error _ => []
  | .ok disk => disk.list path

/-- Opens the store of a name when the system lists its directory as these files, in this order. -/
def openListed (name base : String) (disk : Disk) (files : List (String × DiskEntry)) :
    Except StoreFault Store × Disk :=
  let directory := Disk.join base name
  match disk.makeDirectory (Disk.pathOf directory) with
  | .error e => (.error (.disk e), disk)
  | .ok disk =>
    match load directory files [] with
    | .ok scopes => (.ok { name, directory := some directory, scopes }, disk)
    | .error e => (.error e, disk)

variable {name base : String} {disk : Disk} {s s' : Store}

/-- To open a store is to open it with what is in its directory listed by name. -/
theorem openAt_eq_openListed (name base : String) (disk : Disk) :
    openAt name base disk = openListed name base disk (listing name base disk) := by
  unfold openAt openListed listing
  dsimp only
  cases disk.makeDirectory (Disk.pathOf (Disk.join base name)) <;> rfl

theorem openListed_eq_ok_iff : (openListed name base disk files).1 = .ok s ↔
    (∃ disk', disk.makeDirectory (Disk.pathOf (Disk.join base name)) = .ok disk') ∧
    s.name = name ∧ s.directory = some (Disk.join base name) ∧
      load (Disk.join base name) files [] = .ok s.scopes := by
  unfold openListed
  dsimp only
  cases disk.makeDirectory (Disk.pathOf (Disk.join base name)) with
  | error e => simp
  | ok disk' =>
    cases load (Disk.join base name) files [] with
    | error e => simp
    | ok scopes =>
      obtain ⟨n, d, e⟩ := s
      simp [eq_comm]

/-- What is on disk afterwards does not depend on the files. -/
theorem openListed_snd (name base : String) (disk : Disk) (files files' : List (String × DiskEntry)) :
    (openListed name base disk files).2 = (openListed name base disk files').2 := by
  unfold openListed
  dsimp only
  cases disk.makeDirectory (Disk.pathOf (Disk.join base name)) with
  | error e => rfl
  | ok disk' =>
    cases load (Disk.join base name) files [] <;> cases load (Disk.join base name) files' [] <;> rfl

/-- A store that is opened when the system lists its directory in some order. -/
def OpensAs (name base : String) (disk : Disk) (s : Store) : Prop :=
  ∃ files, files.Perm (listing name base disk) ∧ (openListed name base disk files).1 = .ok s

/-- If the store opens on the files in one order, it opens in any other. -/
theorem exists_openListed_of_perm (h : files.Perm files')
    (hopen : (openListed name base disk files).1 = .ok s) :
    ∃ s', (openListed name base disk files').1 = .ok s' := by
  obtain ⟨hmake, -, -, hload⟩ := openListed_eq_ok_iff.1 hopen
  obtain ⟨scopes, hload'⟩ : ∃ after, load (Disk.join base name) files' [] = .ok after :=
    exists_load_eq_ok_iff.2 fun x hx =>
      exists_load_eq_ok_iff.1 ⟨s.scopes, hload⟩ x (h.mem_iff.2 hx)
  exact ⟨⟨name, some (Disk.join base name), scopes⟩,
    openListed_eq_ok_iff.2 ⟨hmake, rfl, rfl, hload'⟩⟩

theorem entries_of_openListed (h : (openListed name base disk files).1 = .ok s) (scope : Scope) :
    s.entries scope = (heldIn scope files).getLast?.getD [] :=
  entriesIn_of_load (openListed_eq_ok_iff.1 h).2.2.2

namespace OpensAs

/-- The scopes that are there are those that have a file. -/
theorem mem_scopes_iff (h : OpensAs name base disk s) : scope ∈ s.scopes.map (·.1) ↔
    ∃ x ∈ listing name base disk, Scope.ofFileName? x.1 = some scope := by
  obtain ⟨files, hperm, hopen⟩ := h
  rw [mem_of_load (openListed_eq_ok_iff.1 hopen).2.2.2]
  simp [hperm.mem_iff]

/-- What any file of a scope holds are the entries of the scope in some order. -/
theorem exists_entries_eq (h : OpensAs name base disk s)
    (hheld : held ∈ heldIn scope (listing name base disk)) :
    ∃ s', OpensAs name base disk s' ∧ s'.entries scope = held := by
  obtain ⟨files, hperm, hopen⟩ := h
  obtain ⟨x, hx, hscope, hx'⟩ := mem_heldIn.1 hheld
  obtain ⟨rest, hrest⟩ := exists_perm_concat hx
  obtain ⟨s', hopen'⟩ := exists_openListed_of_perm (hperm.trans hrest.symm) hopen
  refine ⟨s', ⟨_, hrest, hopen'⟩, ?_⟩
  rw [entries_of_openListed hopen', heldIn_append, heldIn_cons_self hscope hx',
    List.getLast?_append]
  rfl

/-- Files of a scope that hold the same give the scope its entries in any order. -/
theorem entries_eq (h : OpensAs name base disk s) (h' : OpensAs name base disk s')
    (hsame : ∀ a ∈ heldIn scope (listing name base disk),
      ∀ b ∈ heldIn scope (listing name base disk), a = b) :
    s.entries scope = s'.entries scope := by
  obtain ⟨files, hperm, hopen⟩ := h
  obtain ⟨files', hperm', hopen'⟩ := h'
  have hheld : (heldIn scope files).Perm (heldIn scope (listing name base disk)) := heldIn_perm hperm
  rw [entries_of_openListed hopen, entries_of_openListed hopen',
    getLast?_eq_of_perm (hheld.trans (heldIn_perm hperm').symm) fun a ha b hb =>
      hsame a (hheld.mem_iff.1 ha) b (hheld.mem_iff.1 hb)]

/-- Files that a store has written itself are one for each scope, so their order does not matter. -/
theorem entries_eq_of_fileName (h : OpensAs name base disk s) (h' : OpensAs name base disk s')
    (hnodup : ((listing name base disk).map (·.1)).Nodup)
    (hwritten : ∀ x ∈ listing name base disk, ∀ scope, Scope.ofFileName? x.1 = some scope →
      x.1 = scope.fileName) :
    s.entries scope = s'.entries scope := by
  refine h.entries_eq h' fun a ha b hb => ?_
  obtain ⟨x, hx, hxscope, hxa⟩ := mem_heldIn.1 ha
  obtain ⟨y, hy, hyscope, hyb⟩ := mem_heldIn.1 hb
  have hname : x.1 = y.1 := (hwritten x hx _ hxscope).trans (hwritten y hy _ hyscope).symm
  have hfile : x = y := List.inj_on_of_nodup_map hnodup hx hy hname
  rw [hfile, hyb] at hxa
  exact (Option.some.inj hxa).symm

end OpensAs

/-! ## Two spellings of one flow -/

/-- A file of a flow without entries. -/
def blankFile : String × DiskEntry :=
  ("flow-1.json", .file "\x7b\x7d".toUTF8)

/-- A file of the same flow with an entry. -/
def nullFile : String × DiskEntry :=
  ("flow-01.json", .file "\x7b\"n\":null\x7d".toUTF8)

/-- A disk with both files in the directory of a store. -/
def respelledDisk : Disk :=
  ⟨[(["d", "s", blankFile.1], blankFile.2), (["d", "s", nullFile.1], nullFile.2),
    (["d", "s"], .directory), (["d"], .directory)]⟩

theorem ofFileName?_blankFile : Scope.ofFileName? blankFile.1 = some (.flow ⟨1⟩) := by
  decide +kernel

theorem ofFileName?_nullFile : Scope.ofFileName? nullFile.1 = some (.flow ⟨1⟩) := by
  decide +kernel

theorem heldBy?_blankFile : heldBy? blankFile.2 = some [] := by
  have hparse : Json.parse? "\x7b\x7d" = some (.object []) := by cbv
  dsimp only [blankFile, heldBy?]
  rw [entriesOf?_toUTF8 hparse, Value.ofJsonMembers]

theorem heldBy?_nullFile : heldBy? nullFile.2 = some [("n", .null)] := by
  have hparse : Json.parse? "\x7b\"n\":null\x7d" = some (.object [("n", .null)]) := by cbv
  dsimp only [nullFile, heldBy?]
  rw [entriesOf?_toUTF8 hparse]
  rfl

theorem makeDirectory_respelledDisk :
    respelledDisk.makeDirectory (Disk.pathOf (Disk.join "d" "s")) = .ok respelledDisk := by
  have hpath : Disk.pathOf (Disk.join "d" "s") = ["d", "s"] := by decide +kernel
  rw [hpath]
  rfl

theorem listing_respelledDisk : (listing "s" "d" respelledDisk).Perm [blankFile, nullFile] := by
  have hpath : Disk.pathOf (Disk.join "d" "s") = ["d", "s"] := by decide +kernel
  unfold listing
  dsimp only
  rw [makeDirectory_respelledDisk, hpath]
  dsimp only
  refine (List.mergeSort_perm ..).trans ?_
  simp [respelledDisk]

/-- A store opens on the two files in any order. -/
theorem exists_openListed_respelledDisk (h : files.Perm [blankFile, nullFile]) :
    ∃ s, (openListed "s" "d" respelledDisk files).1 = .ok s := by
  obtain ⟨scopes, hload⟩ : ∃ after, load (Disk.join "d" "s") files [] = .ok after :=
    exists_load_eq_ok_iff.2 (by simp [h.mem_iff, heldBy?_blankFile, heldBy?_nullFile])
  exact ⟨⟨"s", some (Disk.join "d" "s"), scopes⟩,
    openListed_eq_ok_iff.2 ⟨⟨_, makeDirectory_respelledDisk⟩, rfl, rfl, hload⟩⟩

/-! ## What the order decides -/

/-- A store is opened with its directory listed by name. In which order the system lists it does not
matter for the disk, for whether the store opens, and for which scopes are then there. The entries of a
scope are the same for all orders exactly when all files of the scope hold the same. -/
theorem openListed_by_order (name base : String) (disk : Disk) :
    openAt name base disk = openListed name base disk (listing name base disk) ∧
    (∀ files files', files.Perm (listing name base disk) → files'.Perm (listing name base disk) →
      (openListed name base disk files).2 = (openListed name base disk files').2 ∧
      ((∃ s, (openListed name base disk files).1 = .ok s) ↔
        ∃ s, (openListed name base disk files').1 = .ok s)) ∧
    (∀ s s', OpensAs name base disk s → OpensAs name base disk s' → ∀ scope,
      (scope ∈ s.scopes.map (·.1) ↔ scope ∈ s'.scopes.map (·.1))) ∧
    ∀ s₀, OpensAs name base disk s₀ → ∀ scope,
      ((∀ s s', OpensAs name base disk s → OpensAs name base disk s' →
          s.entries scope = s'.entries scope) ↔
        ∀ a ∈ heldIn scope (listing name base disk), ∀ b ∈ heldIn scope (listing name base disk),
          a = b) := by
  refine ⟨openAt_eq_openListed .., fun files files' hfiles hfiles' => ⟨openListed_snd .., ?_, ?_⟩,
    fun s s' hs hs' scope => by rw [hs.mem_scopes_iff, hs'.mem_scopes_iff],
    fun s₀ hs₀ scope => ⟨fun hagree a ha b hb => ?_, fun hsame s s' hs hs' =>
      hs.entries_eq hs' hsame⟩⟩
  · rintro ⟨s, hs⟩
    exact exists_openListed_of_perm (hfiles.trans hfiles'.symm) hs
  · rintro ⟨s, hs⟩
    exact exists_openListed_of_perm (hfiles'.trans hfiles.symm) hs
  · obtain ⟨s, hs, rfl⟩ := hs₀.exists_entries_eq ha
    obtain ⟨s', hs', rfl⟩ := hs₀.exists_entries_eq hb
    exact hagree s s' hs hs'

/-- With two files of one flow the store opens in both orders. The global entries, which have no file,
are the same, and those of the flow are not. -/
theorem openListed_by_order_respelled :
    (∃ s, (openListed "s" "d" respelledDisk [nullFile, blankFile]).1 = .ok s) ∧
    (∀ s s', OpensAs "s" "d" respelledDisk s → OpensAs "s" "d" respelledDisk s' →
      s.entries .global = s'.entries .global) ∧
    ¬∀ s s', OpensAs "s" "d" respelledDisk s → OpensAs "s" "d" respelledDisk s' →
      s.entries (.flow ⟨1⟩) = s'.entries (.flow ⟨1⟩) := by
  obtain ⟨-, hopens, -, hentries⟩ := openListed_by_order "s" "d" respelledDisk
  have hperm := listing_respelledDisk
  obtain ⟨s₀, hs₀⟩ := exists_openListed_respelledDisk (.refl _)
  have hfirst : OpensAs "s" "d" respelledDisk s₀ := ⟨_, hperm.symm, hs₀⟩
  refine ⟨(hopens _ _ hperm.symm ((List.Perm.swap ..).trans hperm.symm)).2.1 ⟨s₀, hs₀⟩,
    (hentries s₀ hfirst .global).2 fun a ha => ?_, fun hflow => ?_⟩
  · obtain ⟨x, hx, hscope, -⟩ := mem_heldIn.1 ha
    rw [hperm.mem_iff] at hx
    simp only [List.mem_cons, List.not_mem_nil, or_false] at hx
    rcases hx with rfl | rfl
    · rw [ofFileName?_blankFile] at hscope
      cases hscope
    · rw [ofFileName?_nullFile] at hscope
      cases hscope
  · have hblank : [] ∈ heldIn (.flow ⟨1⟩) (listing "s" "d" respelledDisk) :=
      mem_heldIn.2 ⟨blankFile, hperm.mem_iff.2 (by simp), ofFileName?_blankFile, heldBy?_blankFile⟩
    have hnull : [("n", .null)] ∈ heldIn (.flow ⟨1⟩) (listing "s" "d" respelledDisk) :=
      mem_heldIn.2 ⟨nullFile, hperm.mem_iff.2 (by simp), ofFileName?_nullFile, heldBy?_nullFile⟩
    cases (hentries s₀ hfirst (.flow ⟨1⟩)).1 hflow _ hblank _ hnull

/-- The order can decide on the entries: of two files of one flow the last one counts, and they need
not hold the same. -/
theorem not_openListed_agree :
    ¬∀ (name base : String) (disk : Disk) (files files' : List (String × DiskEntry)),
      files.Perm (listing name base disk) → files'.Perm (listing name base disk) →
        (∃ e e', (openListed name base disk files).1 = .error e ∧
          (openListed name base disk files').1 = .error e') ∨
        ∃ s s', (openListed name base disk files).1 = .ok s ∧
          (openListed name base disk files').1 = .ok s' ∧
          ∀ scope, s.entries scope = s'.entries scope := by
  intro h
  have hblank : heldIn (.flow ⟨1⟩) [nullFile, blankFile] = [[("n", .null)], []] := by
    rw [heldIn_cons_self ofFileName?_nullFile heldBy?_nullFile,
      heldIn_cons_self ofFileName?_blankFile heldBy?_blankFile]
    rfl
  have hnull : heldIn (.flow ⟨1⟩) [blankFile, nullFile] = [[], [("n", .null)]] := by
    rw [heldIn_cons_self ofFileName?_blankFile heldBy?_blankFile,
      heldIn_cons_self ofFileName?_nullFile heldBy?_nullFile]
    rfl
  obtain ⟨s₀, hs₀⟩ := exists_openListed_respelledDisk (.refl _)
  obtain ⟨e, _, he, -⟩ | ⟨s, s', hs, hs', hagree⟩ := h "s" "d" respelledDisk [blankFile, nullFile]
    [nullFile, blankFile] listing_respelledDisk.symm
    ((List.Perm.swap ..).trans listing_respelledDisk.symm)
  · rw [hs₀] at he
    cases he
  · have hflow := hagree (.flow ⟨1⟩)
    rw [entries_of_openListed hs, entries_of_openListed hs', hblank, hnull] at hflow
    cases hflow

end Wireflow.Store
