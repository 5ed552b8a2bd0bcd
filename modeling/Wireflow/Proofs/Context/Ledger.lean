/-
Contexts in memory against one flat ledger. Whatever calls reach them in whatever order, contexts
that hold nothing at first answer as a ledger does that has one list of entries for every name of a
store and every scope. Stores that are made on their first use, lists of scopes that grow as scopes
turn up, and changes that are made on a copy never show: a write is seen under its own store and
scope and nowhere else, and a write that fails is not seen at all.
-/
import Wireflow.Context.Stores
import Mathlib.Tactic

namespace Wireflow

/-! ## Calls -/

/-- A call on contexts: a look-up, or a write (a removal for none). The calls of several nodes that
come one after the other are one list of calls. -/
inductive ContextCall
  | get (scope : Scope) (key : ContextKey) (msg : Option Message)
  | set (scope : Scope) (key : ContextKey) (msg : Option Message) (v : Option Value)

/-- The answer to a call. -/
inductive ContextAnswer
  | found (v : Option Value)
  | written (r : Except NodeFault Unit)

/-- The call can change the entries of a scope of a store. -/
def ContextCall.Writes (defaultName name : String) (scope : Scope) : ContextCall → Prop
  | .get _ _ _ => False
  | .set s key _ _ => key.store.getD defaultName = name ∧ s = scope

namespace Contexts

/-- Performs a call. The store of its key is there afterwards, also when a write fails; a look-up
whose key cannot be bound does not ask for it. -/
def call (c : Contexts) : ContextCall → ContextAnswer × Contexts
  | .get scope key msg =>
    (.found (c.get? scope key msg),
      match key.path.bind? (msg.map (·.entries)) with
      | none => c
      | some _ => c.opened key.store)
  | .set scope key msg v =>
    match c.set scope key msg v with
    | .ok c' => (.written (.ok ()), c')
    | .error fault => (.written (.error fault), c.opened key.store)

/-- Performs calls in order. -/
def calls (c : Contexts) : List ContextCall → List ContextAnswer × Contexts
  | [] => ([], c)
  | x :: rest => ((c.call x).1 :: ((c.call x).2.calls rest).1, ((c.call x).2.calls rest).2)

/-- Contexts as they are made: the default store alone, or the stores of settings that put none on
disk. -/
inductive MadeInMemory : Contexts → Prop
  | inMemory (disk : Disk) : MadeInMemory (inMemory disk)
  | ofSettings {settings : ContextSettings} {disk disk' : Disk} {c : Contexts} :
      (∀ s ∈ settings.stores, s.2 = .memory) →
      Contexts.ofSettings settings disk = (.ok c, disk') → MadeInMemory c

end Contexts

/-! ## The ledger -/

/-- The entries of every scope of every store, by the name of the store. -/
structure Ledger where
  defaultName : String
  entries : String → Scope → Entries

namespace Ledger

/-- No entries at all. -/
def blank (defaultName : String) : Ledger := { defaultName, entries := fun _ _ => [] }

/-- The ledger with the entries of one scope of one store replaced. -/
def put (l : Ledger) (name : String) (scope : Scope) (entries : Entries) : Ledger :=
  { l with entries := fun n s => if n = name ∧ s = scope then entries else l.entries n s }

/-- What stands at a key of a scope, nothing when the key cannot be bound. -/
def look? (l : Ledger) (scope : Scope) (key : ContextKey) (msg : Option Message) : Option Value :=
  match key.path.bind? (msg.map (·.entries)) with
  | none => none
  | some keys => (l.entries (key.store.getD l.defaultName) scope).lookup? keys

/-- Writes a value at a key of a scope, or removes what stands there for none. -/
def write (l : Ledger) (scope : Scope) (key : ContextKey) (msg : Option Message)
    (v : Option Value) : Except NodeFault Ledger :=
  let name := key.store.getD l.defaultName
  match key.path.bind? (msg.map (·.entries)) with
  | none => .error (.store name (.unbound key.path.source))
  | some keys =>
    match v with
    | some v =>
      let r := (l.entries name scope).assign keys v
      if r.1 then .ok (l.put name scope r.2)
      else .error (.store name (.unwritable keys scope))
    | none => .ok (l.put name scope ((l.entries name scope).remove keys).2)

/-- Performs a call. A write that fails leaves the ledger as it was. -/
def call (l : Ledger) : ContextCall → ContextAnswer × Ledger
  | .get scope key msg => (.found (l.look? scope key msg), l)
  | .set scope key msg v =>
    match l.write scope key msg v with
    | .ok l' => (.written (.ok ()), l')
    | .error fault => (.written (.error fault), l)

/-- Performs calls in order. -/
def calls (l : Ledger) : List ContextCall → List ContextAnswer × Ledger
  | [] => ([], l)
  | x :: rest => ((l.call x).1 :: ((l.call x).2.calls rest).1, ((l.call x).2.calls rest).2)

theorem entries_put_self (l : Ledger) (name : String) (scope : Scope) (entries : Entries) :
    (l.put name scope entries).entries name scope = entries := by
  simp [put]

theorem entries_put_of_ne (l : Ledger) {name n : String} {scope s : Scope} (entries : Entries)
    (h : ¬(n = name ∧ s = scope)) : (l.put name scope entries).entries n s = l.entries n s := by
  simp [put, h]

/-- A write that succeeds puts what the store's own change makes of the entries in their place. -/
theorem write_eq_ok_iff {l l' : Ledger} {scope : Scope} {key : ContextKey} {msg : Option Message}
    {v : Option Value} :
    l.write scope key msg v = .ok l' ↔
      ∃ keys entries, key.path.bind? (msg.map (·.entries)) = some keys ∧
        Store.changed? (l.entries (key.store.getD l.defaultName) scope) keys v = some entries ∧
        l' = l.put (key.store.getD l.defaultName) scope entries := by
  unfold write
  cases hb : key.path.bind? (msg.map (·.entries)) with
  | none => simp
  | some keys =>
    cases v with
    | none =>
      constructor
      · intro h; cases h; exact ⟨keys, _, rfl, rfl, rfl⟩
      · rintro ⟨_, _, ⟨⟩, ⟨⟩, rfl⟩; rfl
    | some v =>
      unfold Store.changed?
      dsimp only
      by_cases ha : ((l.entries (key.store.getD l.defaultName) scope).assign keys v).1 = true
      · rw [if_pos ha]
        constructor
        · intro h; cases h; exact ⟨keys, _, rfl, if_pos ha, rfl⟩
        · rintro ⟨_, _, ⟨⟩, h, rfl⟩
          rw [if_pos ha] at h
          cases h; rfl
      · rw [if_neg ha]
        constructor
        · intro h; cases h
        · rintro ⟨_, _, ⟨⟩, h, -⟩
          rw [if_neg ha] at h
          cases h

/-- A call leaves the ledger as it is, or replaces the entries that it writes. -/
theorem call_cases (l : Ledger) (x : ContextCall) :
    (l.call x).2 = l ∨ ∃ name scope entries, x.Writes l.defaultName name scope ∧
      (l.call x).2 = l.put name scope entries := by
  cases x with
  | get scope key msg => exact .inl rfl
  | set scope key msg v =>
    simp only [call]
    cases hw : l.write scope key msg v with
    | error fault => exact .inl rfl
    | ok l' =>
      obtain ⟨keys, entries, -, -, rfl⟩ := write_eq_ok_iff.1 hw
      exact .inr ⟨_, scope, entries, ⟨rfl, rfl⟩, rfl⟩

theorem defaultName_call (l : Ledger) (x : ContextCall) :
    (l.call x).2.defaultName = l.defaultName := by
  rcases l.call_cases x with h | ⟨name, scope, entries, -, h⟩
  · rw [h]
  · rw [h]; rfl

theorem defaultName_calls (l : Ledger) (xs : List ContextCall) :
    (l.calls xs).2.defaultName = l.defaultName := by
  induction xs generalizing l with
  | nil => rfl
  | cons x rest ih =>
    show ((l.call x).2.calls rest).2.defaultName = _
    rw [ih, defaultName_call]

/-- Entries stay as they are until a call writes them. -/
theorem entries_calls_of_not_writes {name : String} {scope : Scope} (l : Ledger)
    (xs : List ContextCall) (h : ∀ x ∈ xs, ¬x.Writes l.defaultName name scope) :
    (l.calls xs).2.entries name scope = l.entries name scope := by
  induction xs generalizing l with
  | nil => rfl
  | cons x rest ih =>
    show ((l.call x).2.calls rest).2.entries name scope = _
    rw [ih _ fun y hy => by
      rw [defaultName_call]; exact h y (List.mem_cons_of_mem x hy)]
    rcases l.call_cases x with hx | ⟨n, s, entries, hw, hx⟩
    · rw [hx]
    · rw [hx]
      refine entries_put_of_ne l entries ?_
      rintro ⟨rfl, rfl⟩
      exact h x List.mem_cons_self hw

end Ledger

/-- Entries that have been changed are what writing or removing makes of them. -/
theorem Store.eq_of_changed? {old entries : Entries} {keys : List Key} {v : Option Value} :
    Store.changed? old keys v = some entries → entries =
      match v with
      | some v => (old.assign keys v).2
      | none => (old.remove keys).2 := by
  intro h
  unfold Store.changed? at h
  cases v with
  | none => exact (Option.some.inj h).symm
  | some v =>
    dsimp only at h
    split at h
    · exact (Option.some.inj h).symm
    · cases h

/-! ## Contexts show a ledger -/

namespace Contexts

/-- Contexts in memory show a ledger: every store is in memory under its own name, and every scope
of every store, made or not, has the entries that the ledger has for it. -/
structure Shows (c : Contexts) (l : Ledger) : Prop where
  defaultName : c.defaultName = l.defaultName
  memory : ∀ n s, Table.get? n c.stores = some s → s.directory = none ∧ s.name = n
  entries : ∀ name scope, (c.store (some name)).entries scope = l.entries name scope

theorem store_eq_store_some (c : Contexts) (name : Option String) :
    c.store name = c.store (some (c.nameOf name)) := rfl

theorem Shows.store_memory {c : Contexts} {l : Ledger} (h : c.Shows l) (name : Option String) :
    (c.store name).directory = none ∧ (c.store name).name = c.nameOf name := by
  unfold store
  cases hs : Table.get? (c.nameOf name) c.stores with
  | none => exact ⟨rfl, rfl⟩
  | some s => exact h.memory _ s hs

theorem Shows.entries_store {c : Contexts} {l : Ledger} (h : c.Shows l) (name : Option String)
    (scope : Scope) :
    (c.store name).entries scope = l.entries (name.getD l.defaultName) scope := by
  rw [store_eq_store_some, h.entries, nameOf, h.defaultName]

/-- Making a store shows nothing. -/
theorem Shows.opened {c : Contexts} {l : Ledger} (h : c.Shows l) (name : Option String) :
    (c.opened name).Shows l := by
  refine ⟨by rw [defaultName_opened]; exact h.defaultName, ?_, fun n scope => ?_⟩
  · intro n s hs
    -- a store that is made now is as the look-up of a missing store has it
    unfold Contexts.opened at hs
    split at hs
    · exact h.memory n s hs
    · by_cases hn : n = c.nameOf name
      · subst hn
        rw [Table.get?_insert_self] at hs
        cases hs
        exact ⟨rfl, rfl⟩
      · rw [Table.get?_insert_of_ne hn] at hs
        exact h.memory n s hs
  · rw [store_opened]
    exact h.entries n scope

/-- The contexts with the entries of a scope of a store replaced. -/
def put (c : Contexts) (name : Option String) (scope : Scope) (entries : Entries) : Contexts :=
  { c with stores := Table.insert (c.nameOf name) ((c.store name).put scope entries) c.stores }

theorem store_put_self (c : Contexts) (name : Option String) (scope : Scope) (entries : Entries) :
    (c.put name scope entries).store (some (c.nameOf name)) = (c.store name).put scope entries := by
  simp [put, store, nameOf]

theorem store_put_of_ne (c : Contexts) {name : Option String} {n : String} (h : n ≠ c.nameOf name)
    (scope : Scope) (entries : Entries) :
    (c.put name scope entries).store (some n) = c.store (some n) := by
  unfold nameOf at h
  simp [put, store, nameOf, Table.get?_insert_of_ne h]

/-- Replacing the entries of a scope in a store shows as the ledger with them replaced. -/
theorem Shows.put {c : Contexts} {l : Ledger} (h : c.Shows l) (name : Option String)
    (scope : Scope) (entries : Entries) :
    (c.put name scope entries).Shows (l.put (name.getD l.defaultName) scope entries) := by
  have hname : c.nameOf name = name.getD l.defaultName := by rw [nameOf, h.defaultName]
  refine ⟨h.defaultName, fun n s hs => ?_, fun n s => ?_⟩
  · unfold Contexts.put at hs
    by_cases hn : n = c.nameOf name
    · subst hn
      rw [Table.get?_insert_self] at hs
      cases hs
      exact h.store_memory name
    · rw [Table.get?_insert_of_ne hn] at hs
      exact h.memory n s hs
  · by_cases hn : n = c.nameOf name
    · subst hn
      rw [store_put_self]
      by_cases hs : s = scope
      · subst hs
        rw [Store.entries_put_self, hname, Ledger.entries_put_self]
      · rw [Store.entries_put_of_ne hs, Ledger.entries_put_of_ne _ _ fun hc => hs hc.2,
          h.entries_store, hname]
    · rw [store_put_of_ne c hn, Ledger.entries_put_of_ne _ _ fun hc => hn (hname ▸ hc.1)]
      exact h.entries n s

/-- A look-up answers what the ledger has. -/
theorem Shows.get? {c : Contexts} {l : Ledger} (h : c.Shows l) (scope : Scope) (key : ContextKey)
    (msg : Option Message) : c.get? scope key msg = l.look? scope key msg := by
  unfold Contexts.get? Ledger.look? Store.get?
  cases key.path.bind? (msg.map (·.entries)) with
  | none => rfl
  | some keys =>
    dsimp only
    rw [h.entries_store]

/-- A write ends as on the ledger, with the same words, and shows as the ledger afterwards. -/
theorem Shows.set {c : Contexts} {l : Ledger} (h : c.Shows l) (scope : Scope) (key : ContextKey)
    (msg : Option Message) (v : Option Value) :
    (∃ fault, c.set scope key msg v = .error fault ∧ l.write scope key msg v = .error fault) ∨
      ∃ c' l', c.set scope key msg v = .ok c' ∧ l.write scope key msg v = .ok l' ∧
        c'.Shows l' := by
  obtain ⟨hdir, hname⟩ := h.store_memory key.store
  have hkey : c.nameOf key.store = key.store.getD l.defaultName := by rw [nameOf, h.defaultName]
  -- the write goes to a store that is there by now, and is in memory, so no file can fail
  have hput := h.put key.store scope
  unfold Contexts.put at hput
  rw [hkey] at hput
  rw [set_eq]
  unfold Ledger.write Store.set
  cases key.path.bind? (msg.map (·.entries)) with
  | none => left; exact ⟨_, rfl, by rw [hname, hkey]⟩
  | some keys =>
    dsimp only
    rw [Store.setBy_of_memory hdir, h.entries_store, hname, hkey]
    unfold Store.changed?
    cases v with
    | none => right; exact ⟨_, _, rfl, rfl, hput _⟩
    | some v =>
      dsimp only
      by_cases ha : ((l.entries (key.store.getD l.defaultName) scope).assign keys v).1 = true
      · rw [if_pos ha, if_pos ha]
        right; exact ⟨_, _, rfl, rfl, hput _⟩
      · rw [if_neg ha, if_neg ha]
        left; exact ⟨_, rfl, rfl⟩

/-- One call answers as on the ledger and leaves contexts that show the ledger afterwards. -/
theorem Shows.call {c : Contexts} {l : Ledger} (h : c.Shows l) (x : ContextCall) :
    (c.call x).1 = (l.call x).1 ∧ (c.call x).2.Shows (l.call x).2 := by
  cases x with
  | get scope key msg =>
    refine ⟨congrArg ContextAnswer.found (h.get? scope key msg), ?_⟩
    simp only [Contexts.call, Ledger.call]
    split
    · exact h
    · exact h.opened key.store
  | set scope key msg v =>
    simp only [Contexts.call, Ledger.call]
    rcases h.set scope key msg v with ⟨fault, hc, hl⟩ | ⟨c', l', hc, hl, h'⟩
    · rw [hc, hl]; exact ⟨rfl, h.opened key.store⟩
    · rw [hc, hl]; exact ⟨rfl, h'⟩

/-- A run of calls answers as on the ledger. -/
theorem Shows.calls {c : Contexts} {l : Ledger} (h : c.Shows l) (xs : List ContextCall) :
    (c.calls xs).1 = (l.calls xs).1 ∧ (c.calls xs).2.Shows (l.calls xs).2 := by
  induction xs generalizing c l with
  | nil => exact ⟨rfl, h⟩
  | cons x rest ih =>
    obtain ⟨hx, hs⟩ := h.call x
    obtain ⟨hrest, hend⟩ := ih hs
    refine ⟨?_, hend⟩
    show (c.call x).1 :: ((c.call x).2.calls rest).1 = _
    rw [hx, hrest]; rfl

/-! ## Contexts as they are made -/

/-- Stores that are all as they are made in memory. -/
def Fresh (stores : Table Store) : Prop :=
  ∀ n s, Table.get? n stores = some s → s = Store.memory n

theorem Fresh.nil : Fresh [] := by
  intro n s h
  cases h

theorem Fresh.insert {stores : Table Store} (h : Fresh stores) (name : String) :
    Fresh (Table.insert name (Store.memory name) stores) := by
  intro n s hs
  by_cases hn : n = name
  · subst hn
    rw [Table.get?_insert_self] at hs
    cases hs; rfl
  · rw [Table.get?_insert_of_ne hn] at hs
    exact h n s hs

theorem openAll_of_memory {kinds : List (String × StoreKind)} (hk : ∀ s ∈ kinds, s.2 = .memory)
    (disk : Disk) {opened : Table Store} (h : Fresh opened) :
    ∃ stores, openAll disk opened kinds = (.ok stores, disk) ∧ Fresh stores := by
  induction kinds generalizing opened with
  | nil => exact ⟨opened, rfl, h⟩
  | cons k rest ih =>
    obtain ⟨name, kind⟩ := k
    obtain rfl : kind = .memory := hk _ List.mem_cons_self
    exact ih (fun s hs => hk s (List.mem_cons_of_mem _ hs)) (h.insert name)

theorem shows_blank_of_fresh {c : Contexts} (h : Fresh c.stores) :
    c.Shows (Ledger.blank c.defaultName) := by
  refine ⟨rfl, fun n s hs => by rw [h n s hs]; exact ⟨rfl, rfl⟩, fun name scope => ?_⟩
  unfold store
  cases hs : Table.get? (c.nameOf (some name)) c.stores with
  | none => rfl
  | some s => rw [h _ s hs]; rfl

/-- Contexts made in memory show a blank ledger. -/
theorem MadeInMemory.shows {c : Contexts} (h : c.MadeInMemory) :
    c.Shows (Ledger.blank c.defaultName) := by
  apply shows_blank_of_fresh
  cases h with
  | inMemory disk => exact Fresh.nil.insert "memory"
  | ofSettings hk hc =>
    obtain ⟨stores, hopen, hfresh⟩ := openAll_of_memory hk _ Fresh.nil
    unfold Contexts.ofSettings at hc
    rw [hopen] at hc
    dsimp only at hc
    split at hc
    · cases hc; exact hfresh
    · cases hc; exact hfresh.insert _

theorem defaultName_call (c : Contexts) (x : ContextCall) :
    (c.call x).2.defaultName = c.defaultName := by
  cases x with
  | get scope key msg =>
    simp only [call]
    split
    · rfl
    · exact defaultName_opened c key.store
  | set scope key msg v =>
    simp only [call]
    cases h : c.set scope key msg v with
    | error fault => exact defaultName_opened c key.store
    | ok c' =>
      rw [set_eq] at h
      split at h
      · cases h
      · split at h
        · cases h
        · cases h; rfl

/-! ## What a run of calls shows -/

/-- A write that fails changes no entries: at most it has made its store. -/
theorem entries_of_set_error {c : Contexts} {l : Ledger} (h : c.Shows l) {scope : Scope}
    {key : ContextKey} {msg : Option Message} {v : Option Value} {fault : NodeFault}
    (hfail : (c.call (.set scope key msg v)).1 = .written (.error fault)) (name : String)
    (s : Scope) : ((c.call (.set scope key msg v)).2.store (some name)).entries s =
      (c.store (some name)).entries s := by
  simp only [call] at hfail ⊢
  rcases h.set scope key msg v with ⟨fault', hc, -⟩ | ⟨c', l', hc, -, -⟩
  · rw [hc, store_opened]
  · rw [hc] at hfail; cases hfail

/-- A write that succeeds has bound its key and put what it makes of the entries in their place. -/
theorem Shows.set_ok {c : Contexts} {l : Ledger} (h : c.Shows l) {scope : Scope} {key : ContextKey}
    {msg : Option Message} {v : Option Value}
    (hok : (c.call (.set scope key msg v)).1 = .written (.ok ())) :
    ∃ keys entries, key.path.bind? (msg.map (·.entries)) = some keys ∧
      Store.changed? ((c.store (some (key.store.getD l.defaultName))).entries scope) keys v =
        some entries ∧
      (c.call (.set scope key msg v)).2.Shows (l.put (key.store.getD l.defaultName) scope entries) := by
  simp only [Contexts.call] at hok ⊢
  rcases h.set scope key msg v with ⟨fault', hc, -⟩ | ⟨c', l', hc, hl, h'⟩
  · rw [hc] at hok; cases hok
  · obtain ⟨keys, entries, hb, hch, rfl⟩ := Ledger.write_eq_ok_iff.1 hl
    rw [← h.entries] at hch
    rw [hc]
    exact ⟨keys, entries, hb, hch, h'⟩

/-- Any run of calls on contexts made in memory answers as a blank ledger does, call by call, and
afterwards every scope of every store holds what the ledger has for it. In the state reached, a
write that fails changes no entries at all; one that succeeds changes the entries of its own store
and scope alone, into what writing or removing makes of them; and whatever calls come later, these
entries stand until one of them writes to the same scope of the same store. -/
theorem calls_eq_ledger {c : Contexts} (h : c.MadeInMemory) (xs : List ContextCall) :
    let run := c.calls xs
    let ledger := (Ledger.blank c.defaultName).calls xs
    run.1 = ledger.1 ∧
    (∀ name scope, (run.2.store (some name)).entries scope = ledger.2.entries name scope) ∧
    (∀ scope key msg v fault, (run.2.call (.set scope key msg v)).1 = .written (.error fault) →
      ∀ name s, ((run.2.call (.set scope key msg v)).2.store (some name)).entries s =
        (run.2.store (some name)).entries s) ∧
    (∀ scope key msg v, (run.2.call (.set scope key msg v)).1 = .written (.ok ()) →
      let after := (run.2.call (.set scope key msg v)).2
      let name := key.store.getD c.defaultName
      let old := (run.2.store (some name)).entries scope
      (∃ keys, key.path.bind? (msg.map (·.entries)) = some keys ∧
        (after.store (some name)).entries scope =
          match v with
          | some v => (old.assign keys v).2
          | none => (old.remove keys).2) ∧
      (∀ n s, ¬(n = name ∧ s = scope) →
        (after.store (some n)).entries s = (run.2.store (some n)).entries s) ∧
      ∀ later : List ContextCall, (∀ x ∈ later, ¬x.Writes c.defaultName name scope) →
        ((after.calls later).2.store (some name)).entries scope =
          (after.store (some name)).entries scope) := by
  intro run ledger
  obtain ⟨hanswers, hshows⟩ := h.shows.calls xs
  have hdefault : ledger.2.defaultName = c.defaultName := Ledger.defaultName_calls _ xs
  refine ⟨hanswers, hshows.entries, ?_, ?_⟩
  · intro scope key msg v fault hfail name s
    exact entries_of_set_error hshows hfail name s
  · intro scope key msg v hok after name old
    obtain ⟨keys, entries, hb, hch, hafter⟩ := hshows.set_ok hok
    rw [hdefault] at hch hafter
    refine ⟨⟨keys, hb, ?_⟩, ?_, ?_⟩
    · rw [hafter.entries, Ledger.entries_put_self]
      exact Store.eq_of_changed? hch
    · intro n s hns
      rw [hafter.entries, Ledger.entries_put_of_ne _ _ hns]
      exact (hshows.entries n s).symm
    · intro later hlater
      -- the later calls answer as on the ledger too, and there only writes change entries
      rw [(hafter.calls later).2.entries, hafter.entries]
      refine Ledger.entries_calls_of_not_writes _ later fun x hx => ?_
      rw [show (ledger.2.put name scope entries).defaultName = c.defaultName from hdefault]
      exact hlater x hx

/-- With two stores: what is written under one name is read under that name and not under the
other. -/
theorem calls_eq_ledger_two_stores :
    let settings : ContextSettings := { defaultName := "main", stores := [("other", .memory)] }
    let n : ContextKey := { store := none, path := { source := "n", segments := [.name "n"] } }
    let xs : List ContextCall :=
      [.set .global n none (some (.bool true)), .get .global { n with store := some "other" } none,
        .get .global n none]
    ∃ c, ofSettings settings Disk.empty = (.ok c, Disk.empty) ∧ c.MadeInMemory ∧
      (c.calls xs).1 = ((Ledger.blank "main").calls xs).1 ∧
      (c.calls xs).1 = [.written (.ok ()), .found none, .found (some (.bool true))] := by
  intro settings n xs
  have hk : ∀ s ∈ settings.stores, s.2 = StoreKind.memory := by simp [settings]
  refine ⟨_, rfl, ?_, ?_, by cbv⟩
  · exact .ofSettings hk (rfl : ofSettings settings Disk.empty = _)
  · exact (calls_eq_ledger (.ofSettings hk (rfl : ofSettings settings Disk.empty = _)) xs).1

end Contexts

end Wireflow
