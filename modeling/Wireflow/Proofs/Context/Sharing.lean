/-
Context stores under many hands. Tasks ask for stores by name, make calls, and use references, each of
which remembers the store that its first use has found; a reference may be in the hands of several
tasks, and a copy of it takes along what it remembers. A task holds at most one lock at a time, and one
step of it is what it does under one lock: it looks a name up, it looks it up again and makes the
missing store, it fills the cell of a reference that is still empty, or it reads or writes at a store.
Between any two steps of a task the others go on in any order.

Every step keeps it that whoever has a store, a cell as well as a task, has the one that its name leads
to. So a step that answers a call, made directly or through a reference, is that call on the contexts
that are shown, and any other step shows at most that a store is opened.
-/
import Wireflow.Proofs.Context.Pool
import Wireflow.Property.Basic

namespace Wireflow

/-- The call that a look-up at a reference stands for. -/
def ContextRef.reading (r : ContextRef) (i : Identity) (msg : Option Message) : ContextCall :=
  .get (r.kind.scope i) r.key msg

/-- The call that a write at a reference stands for. -/
def ContextRef.writing (r : ContextRef) (i : Identity) (msg : Option Message) (v : Option Value) :
    ContextCall :=
  .set (r.kind.scope i) r.key msg v

theorem ContextRef.call_reading (r : ContextRef) (s : Setting) (msg : Option Message) :
    (s.contexts.call (r.reading s.identity msg)).1 = .found (r.get? s msg) := rfl

theorem ContextRef.call_writing (r : ContextRef) (s : Setting) (msg : Option Message)
    (v : Option Value) :
    s.contexts.call (r.writing s.identity msg v) =
      match r.set s msg v with
      | .ok contexts => (.written (.ok ()), contexts)
      | .error fault => (.written (.error fault), s.contexts.opened r.key.store) := rfl

/-- A look-up whose key cannot be bound; it asks for no store. -/
def ContextCall.isVoid : ContextCall → Bool
  | .get _ key msg =>
    match key.path.bind? (msg.map (·.entries)) with
    | none => true
    | some _ => false
  | .set .. => false

theorem ContextCall.call_of_isVoid {x : ContextCall} (h : x.isVoid = true) (c : Contexts) :
    c.call x = (.found none, c) := by
  cases x with
  | get scope key msg =>
    simp only [Contexts.call, Contexts.get?]
    cases hkeys : key.path.bind? (msg.map (·.entries)) with
    | none => rfl
    | some keys => simp only [isVoid, hkeys, Bool.false_eq_true] at h
  | set scope key msg v => cases h

namespace Sharing

/-! ## Tasks at work -/

/-- What a task asks for: the store of a name, a call, or a look-up or a write at a reference, which
is named by its index. -/
inductive Request
  | store (name : Option String)
  | call (x : ContextCall)
  | read (ref : Nat) (identity : Identity) (msg : Option Message)
  | write (ref : Nat) (identity : Identity) (msg : Option Message) (v : Option Value)

/-- What an activity is to end with: the store of a name, or a call that is made directly or through
the cell of a reference. -/
inductive Errand
  | fetch (name : Option String)
  | direct (x : ContextCall)
  | through (ref : Nat) (x : ContextCall)

/-- The name that an errand looks up. -/
def Errand.name : Errand → Option String
  | .fetch name => name
  | .direct x => x.key.store
  | .through _ x => x.key.store

/-- How far an activity has come: it has been asked, it is going to look its name up, it has found
none and is going to make a store, it has been answered a store, it is going to make its call at a
store, or it is done. -/
inductive Activity
  | asked (e : Errand)
  | searching (e : Errand)
  | making (e : Errand)
  | holding (a : Place) (e : Errand)
  | acting (a : Place) (x : ContextCall)
  | done

/-- What shows outside: a look-up of an activity has answered a store, or its call has been answered.
-/
inductive Seen
  | returned (activity : Nat) (name : Option String) (a : Place)
  | answered (activity : Nat) (x : ContextCall) (answer : ContextAnswer)

/-- What comes next: a new reference, a copy of one, a request, or the next step of an activity. -/
inductive Move
  | refer (r : ContextRef)
  | copy (ref : Nat)
  | ask (q : Request)
  | advance (activity : Nat)

end Sharing

open Sharing in
/-- Stores, the references to them, each with the cell of the store that it remembers, and the
activities of all tasks. -/
structure Sharing where
  pool : StorePool
  refs : List (ContextRef × Option Place)
  activities : List Activity

namespace Sharing

/-- The stores of contexts, with no reference and no activity. -/
def of (c : Contexts) : Sharing :=
  { pool := .of c, refs := [], activities := [] }

/-- The contexts that are shown. -/
def view (s : Sharing) : Contexts :=
  s.pool.view

/-- What an activity for a request has to do, when the reference is there. -/
def errand? (s : Sharing) : Request → Option Errand
  | .store name => some (.fetch name)
  | .call x => some (.direct x)
  | .read ref identity msg => (s.refs[ref]?).map fun r => .through ref (r.1.reading identity msg)
  | .write ref identity msg v =>
    (s.refs[ref]?).map fun r => .through ref (r.1.writing identity msg v)

/-- The store that a reference remembers. -/
def cached? (s : Sharing) (ref : Nat) : Option Place :=
  (s.refs[ref]?).bind (·.2)

/-- Fills the cell of a reference, unless it has been filled by then, and answers what it holds. -/
def remember (s : Sharing) (ref : Nat) (a : Place) : Place × Sharing :=
  match s.refs[ref]? with
  | some (_, some b) => (b, s)
  | some (r, none) => (a, { s with refs := s.refs.set ref (r, some a) })
  | none => (a, s)

/-- The next step of activity `i`, which has come to `t`: how far it has come then, what shows, and
what it does to the stores and references. -/
def proceed (s : Sharing) (i : Nat) (t : Activity) : Activity × List Seen × Sharing :=
  match t with
  | .asked (.fetch name) => (.searching (.fetch name), [], s)
  | .asked (.direct x) =>
    if x.isVoid then (.done, [.answered i x (.found none)], s) else (.searching (.direct x), [], s)
  | .asked (.through ref x) =>
    if x.isVoid then (.done, [.answered i x (.found none)], s)
    else
      match s.cached? ref with
      | some a => (.acting a x, [], s)
      | none => (.searching (.through ref x), [], s)
  | .searching e =>
    match s.pool.find? e.name with
    | some a => (.holding a e, [], s)
    | none => (.making e, [], s)
  | .making e => (.holding (s.pool.enter e.name).1 e, [], { s with pool := (s.pool.enter e.name).2 })
  | .holding a (.fetch name) => (.done, [.returned i name a], s)
  | .holding a (.direct x) => (.acting a x, [.returned i x.key.store a], s)
  | .holding a (.through ref x) =>
    (.acting (s.remember ref a).1 x, [.returned i x.key.store a], (s.remember ref a).2)
  | .acting a x =>
    (.done, [.answered i x (s.pool.perform a x).1], { s with pool := (s.pool.perform a x).2 })
  | .done => (.done, [], s)

/-- Does what comes next. What cannot come next changes nothing. -/
def step (s : Sharing) : Move → List Seen × Sharing
  | .refer r => ([], { s with refs := s.refs ++ [(r, none)] })
  | .copy ref =>
    match s.refs[ref]? with
    | some r => ([], { s with refs := s.refs ++ [r] })
    | none => ([], s)
  | .ask q =>
    match s.errand? q with
    | some e => ([], { s with activities := s.activities ++ [.asked e] })
    | none => ([], s)
  | .advance i =>
    match s.activities[i]? with
    | some t =>
      let r := s.proceed i t
      (r.2.1, { r.2.2 with activities := r.2.2.activities.set i r.1 })
    | none => ([], s)

/-- Does one thing after the other. -/
def run (s : Sharing) : List Move → List Seen × Sharing
  | [] => ([], s)
  | m :: rest => ((s.step m).1 ++ ((s.step m).2.run rest).1, ((s.step m).2.run rest).2)

/-- The calls that have been answered, in the order of their answers. -/
def answers (seen : List Seen) : List (ContextCall × ContextAnswer) :=
  seen.filterMap fun
    | .answered _ x answer => some (x, answer)
    | .returned .. => none

/-! ## What every step keeps -/

variable {s s' : Sharing}

/-- A reference is still there, for the same key. -/
def Refers (s : Sharing) : Errand → Prop
  | .through ref x => ∃ r, s.refs[ref]? = some r ∧ r.1.key = x.key
  | _ => True

/-- An activity that has a store has the one of its name. -/
def Agrees (s : Sharing) : Activity → Prop
  | .asked e | .searching e | .making e => s.Refers e
  | .holding a e => s.Refers e ∧ s.pool.find? e.name = some a
  | .acting a x => s.pool.find? x.key.store = some a
  | .done => True

/-- The names lead to stores of their own, and whoever has a store has the one that its name leads
to: the cells of references as well as the activities. -/
structure Coherent (s : Sharing) : Prop where
  pool : s.pool.Coherent
  refs : ∀ r ∈ s.refs, ∀ a, r.2 = some a → s.pool.find? r.1.key.store = some a
  activities : ∀ t ∈ s.activities, s.Agrees t

/-- How stores and references may go on: the names keep their stores, the references their keys. -/
structure Extends (s s' : Sharing) : Prop where
  pool : s.pool.Extends s'.pool
  refs : ∀ (i : Nat) (r : ContextRef × Option Place), s.refs[i]? = some r →
    ∃ r', s'.refs[i]? = some r' ∧ r'.1 = r.1

theorem Extends.refl (s : Sharing) : s.Extends s :=
  ⟨.refl s.pool, fun _ r h => ⟨r, h, rfl⟩⟩

theorem Extends.trans {s'' : Sharing} (h : s.Extends s') (h' : s'.Extends s'') : s.Extends s'' := by
  refine ⟨h.pool.trans h'.pool, fun i r hr => ?_⟩
  obtain ⟨r', hr', he⟩ := h.refs i r hr
  obtain ⟨r'', hr'', he'⟩ := h'.refs i r' hr'
  exact ⟨r'', hr'', he'.trans he⟩

theorem Extends.refers (h : s.Extends s') {e : Errand} (he : s.Refers e) : s'.Refers e := by
  cases e with
  | fetch name => trivial
  | direct x => trivial
  | through ref x =>
    obtain ⟨r, hr, hkey⟩ := he
    obtain ⟨r', hr', hsame⟩ := h.refs ref r hr
    exact ⟨r', hr', hsame ▸ hkey⟩

theorem Extends.agrees (h : s.Extends s') {t : Activity} (ht : s.Agrees t) : s'.Agrees t := by
  cases t with
  | asked e => exact h.refers ht
  | searching e => exact h.refers ht
  | making e => exact h.refers ht
  | holding a e => exact ⟨h.refers ht.1, h.pool.find? ht.2⟩
  | acting a x => exact h.pool.find? ht
  | done => trivial

/-- What shows of a step, and how the contexts that are shown go on: by an answered call, which is
the call of the contexts, or without one, when at most the store of a name is opened. A look-up has
answered the store of its name. -/
structure Shows (s : Sharing) (seen : List Seen) (s' : Sharing) : Prop where
  returned : ∀ i name a, .returned i name a ∈ seen → s'.pool.find? name = some a
  effect : (answers seen = [] ∧ (s'.view = s.view ∨ ∃ name, s'.view = s.view.opened name)) ∨
    ∃ i x answer, seen = [.answered i x answer] ∧ s.view.call x = (answer, s'.view)

theorem Shows.quiet (h : s'.view = s.view) : s.Shows [] s' :=
  ⟨fun _ _ _ hmem => absurd hmem List.not_mem_nil, .inl ⟨rfl, .inl h⟩⟩

theorem Shows.look (h : s'.view = s.view) (i : Nat) {name : Option String} {a : Place}
    (ha : s'.pool.find? name = some a) : s.Shows [.returned i name a] s' := by
  refine ⟨fun j n b hmem => ?_, .inl ⟨rfl, .inl h⟩⟩
  cases List.mem_singleton.1 hmem
  exact ha

theorem Shows.call {i : Nat} {x : ContextCall} {answer : ContextAnswer}
    (h : s.view.call x = (answer, s'.view)) : s.Shows [.answered i x answer] s' := by
  refine ⟨fun j n b hmem => ?_, .inr ⟨i, x, answer, rfl, h⟩⟩
  cases List.mem_singleton.1 hmem

/-- An answer that shows is that of the call on the contexts as they were. -/
theorem Shows.answered {seen : List Seen} (h : s.Shows seen s') {i : Nat} {x : ContextCall}
    {answer : ContextAnswer} (hmem : .answered i x answer ∈ seen) :
    s.view.call x = (answer, s'.view) := by
  rcases h.effect with ⟨hnone, -⟩ | ⟨j, y, other, rfl, hcall⟩
  · have hanswer : (x, answer) ∈ answers seen := List.mem_filterMap.2 ⟨_, hmem, rfl⟩
    rw [hnone] at hanswer
    cases hanswer
  · cases List.mem_singleton.1 hmem
    exact hcall

/-- Without an answer at most a store is opened. -/
theorem Shows.unanswered {seen : List Seen} (h : s.Shows seen s') (hnone : answers seen = []) :
    s'.view = s.view ∨ ∃ name, s'.view = s.view.opened name := by
  rcases h.effect with ⟨-, hview⟩ | ⟨j, y, other, rfl, -⟩
  · exact hview
  · cases hnone

/-! ## Cells -/

/-- Stores and references that go on leave all that is known of them true; what has to be looked at
is what is new. -/
theorem Coherent.extend (h : s.Coherent) (hext : s.Extends s') (hpool : s'.pool.Coherent)
    (hrefs : ∀ r ∈ s'.refs, ∀ a, r.2 = some a → s'.pool.find? r.1.key.store = some a)
    (hactivities : s'.activities = s.activities) : s'.Coherent := by
  refine ⟨hpool, hrefs, fun t ht => ?_⟩
  rw [hactivities] at ht
  exact hext.agrees (h.activities t ht)

/-- A cell that is filled holds the store of its reference's name. -/
theorem Coherent.cached? (h : s.Coherent) {ref : Nat} {x : ContextCall}
    (hrefers : s.Refers (.through ref x)) {a : Place} (ha : s.cached? ref = some a) :
    s.pool.find? x.key.store = some a := by
  obtain ⟨r, hr, hkey⟩ := hrefers
  unfold Sharing.cached? at ha
  rw [hr] at ha
  rw [← hkey]
  exact h.refs r (List.mem_of_getElem? hr) a ha

/-- Whoever comes first fills the cell, and all who come get the store of the name. -/
theorem remember_spec (h : s.Coherent) {ref : Nat} {x : ContextCall} {a : Place}
    (hrefers : s.Refers (.through ref x)) (ha : s.pool.find? x.key.store = some a) :
    s.Extends (s.remember ref a).2 ∧ (s.remember ref a).2.Coherent ∧
      (s.remember ref a).2.pool = s.pool ∧ (s.remember ref a).2.activities = s.activities ∧
      s.pool.find? x.key.store = some (s.remember ref a).1 := by
  obtain ⟨⟨r, cell⟩, hr, hkey⟩ := hrefers
  have hmem := List.mem_of_getElem? hr
  unfold remember
  rw [hr]
  cases cell with
  | some b =>
    -- another use has been faster; what it has put into the cell is the store of the same name
    refine ⟨.refl s, h, rfl, rfl, ?_⟩
    rw [← hkey]
    exact h.refs _ hmem b rfl
  | none =>
    have hext : s.Extends { s with refs := s.refs.set ref (r, some a) } := by
      refine ⟨.refl s.pool, fun i q hq => ?_⟩
      by_cases hi : ref = i
      · subst hi
        cases hr.symm.trans hq
        exact ⟨_, List.getElem?_set_self (List.getElem?_eq_some_iff.1 hr).1, rfl⟩
      · exact ⟨q, (List.getElem?_set_ne hi).trans hq, rfl⟩
    refine ⟨hext, h.extend hext h.pool (fun q hq b hb => ?_) rfl, rfl, rfl, ha⟩
    rcases List.mem_or_eq_of_mem_set hq with hq | rfl
    · exact h.refs q hq b hb
    · cases hb
      show s.pool.find? r.key.store = some a
      rw [show r.key = x.key from hkey]
      exact ha

/-- Stores that go on by an operation of the pool leave what is known true. -/
theorem Coherent.withPool (h : s.Coherent) {pool : StorePool} (hext : s.pool.Extends pool)
    (hpool : pool.Coherent) :
    s.Extends { s with pool } ∧ Coherent { s with pool } := by
  have hs : s.Extends { s with pool } := ⟨hext, fun _ r hr => ⟨r, hr, rfl⟩⟩
  exact ⟨hs, h.extend hs hpool (fun r hr a ha => hext.find? (h.refs r hr a ha)) rfl⟩

/-! ## Steps -/

/-- What the step of an activity keeps, where it leads, and what shows of it. -/
structure Sound (s : Sharing) (r : Activity × List Seen × Sharing) : Prop where
  extended : s.Extends r.2.2
  coherent : r.2.2.Coherent
  activities : r.2.2.activities = s.activities
  agrees : r.2.2.Agrees r.1
  shows : s.Shows r.2.1 r.2.2

/-- A step that leaves stores and references alone. -/
theorem Coherent.still (h : s.Coherent) (t : Activity) (ht : s.Agrees t) {seen : List Seen}
    (hshows : s.Shows seen s) : s.Sound (t, seen, s) :=
  ⟨.refl s, h, rfl, ht, hshows⟩

theorem Coherent.proceed_asked (h : s.Coherent) (i : Nat) {e : Errand} (he : s.Refers e) :
    s.Sound (s.proceed i (.asked e)) := by
  have hvoid : ∀ {x : ContextCall}, x.isVoid = true →
      s.Sound (.done, [.answered i x (.found none)], s) := fun hx =>
    h.still .done trivial (.call (ContextCall.call_of_isVoid hx s.view))
  cases e with
  | fetch name => exact h.still (.searching (.fetch name)) trivial (.quiet rfl)
  | direct x =>
    simp only [proceed]
    split
    · rename_i hx
      exact hvoid hx
    · exact h.still (.searching (.direct x)) trivial (.quiet rfl)
  | through ref x =>
    simp only [proceed]
    split
    · rename_i hx
      exact hvoid hx
    · cases hc : s.cached? ref with
      | some a => exact h.still (.acting a x) (h.cached? he hc) (.quiet rfl)
      | none => exact h.still (.searching (.through ref x)) he (.quiet rfl)

theorem Coherent.proceed_holding (h : s.Coherent) (i : Nat) {e : Errand} {a : Place}
    (he : s.Refers e) (ha : s.pool.find? e.name = some a) :
    s.Sound (s.proceed i (.holding a e)) := by
  cases e with
  | fetch name => exact h.still .done trivial (.look rfl i ha)
  | direct x => exact h.still (.acting a x) ha (.look rfl i ha)
  | through ref x =>
    obtain ⟨hext, hcoherent, hpool, hactivities, hplace⟩ := remember_spec h he ha
    refine ⟨hext, hcoherent, hactivities, ?_, .look (congrArg StorePool.view hpool) i ?_⟩
    · show (s.remember ref a).2.pool.find? x.key.store = some (s.remember ref a).1
      rw [hpool]
      exact hplace
    · rw [hpool]
      exact ha

/-- One step of an activity. Between a look-up that has found nothing and the insertion another task
may have made the store; the insertion then answers that one. -/
theorem Coherent.proceed (h : s.Coherent) (i : Nat) {t : Activity} (ht : s.Agrees t) :
    s.Sound (s.proceed i t) := by
  cases t with
  | asked e => exact h.proceed_asked i ht
  | searching e =>
    simp only [Sharing.proceed]
    cases hfind : s.pool.find? e.name with
    | some a => exact h.still (.holding a e) ⟨ht, hfind⟩ (.quiet rfl)
    | none => exact h.still (.making e) ht (.quiet rfl)
  | making e =>
    obtain ⟨hext, hcoherent⟩ := h.withPool (s.pool.extends_enter e.name) (h.pool.enter e.name)
    refine ⟨hext, hcoherent, rfl, ⟨hext.refers ht, s.pool.find?_enter e.name⟩, ?_, ?_⟩
    · exact fun _ _ _ hmem => absurd hmem List.not_mem_nil
    · exact .inl ⟨rfl, .inr ⟨e.name, StorePool.view_enter h.pool e.name⟩⟩
  | holding a e => exact h.proceed_holding i ht.1 ht.2
  | acting a x =>
    obtain ⟨hext, hcoherent⟩ := h.withPool (s.pool.extends_perform a x) (h.pool.perform a x)
    exact ⟨hext, hcoherent, rfl, trivial, .call (StorePool.call_view h.pool ht)⟩
  | done => exact h.still .done trivial (.quiet rfl)

/-- New references bring along what is known of the ones they are copies of. -/
theorem Coherent.refer (h : s.Coherent) {r : ContextRef × Option Place}
    (hr : ∀ a, r.2 = some a → s.pool.find? r.1.key.store = some a) :
    s.Extends { s with refs := s.refs ++ [r] } ∧ Coherent { s with refs := s.refs ++ [r] } := by
  have hext : s.Extends { s with refs := s.refs ++ [r] } := by
    refine ⟨.refl s.pool, fun i q hq => ⟨q, ?_, rfl⟩⟩
    rw [List.getElem?_append_left (List.getElem?_eq_some_iff.1 hq).1]
    exact hq
  refine ⟨hext, h.extend hext h.pool (fun q hq a ha => ?_) rfl⟩
  rcases List.mem_append.1 hq with hq | hq
  · exact h.refs q hq a ha
  · cases List.mem_singleton.1 hq
    exact hr a ha

/-- An activity refers to a reference that is there when it begins. -/
theorem refers_errand? {q : Request} {e : Errand} (h : s.errand? q = some e) : s.Refers e := by
  cases q with
  | store name =>
    cases h
    trivial
  | call x =>
    cases h
    trivial
  | read ref identity msg =>
    obtain ⟨r, hr, rfl⟩ := Option.map_eq_some_iff.1 h
    exact ⟨r, hr, rfl⟩
  | write ref identity msg v =>
    obtain ⟨r, hr, rfl⟩ := Option.map_eq_some_iff.1 h
    exact ⟨r, hr, rfl⟩

/-- One step keeps what is known, whoever makes it. -/
theorem Coherent.step (h : s.Coherent) (m : Move) :
    s.Extends (s.step m).2 ∧ (s.step m).2.Coherent ∧ s.Shows (s.step m).1 (s.step m).2 := by
  have hnothing : s.Extends s ∧ s.Coherent ∧ s.Shows [] s := ⟨.refl s, h, .quiet rfl⟩
  cases m with
  | refer r =>
    obtain ⟨hext, hcoherent⟩ := h.refer (r := (r, none)) fun a ha => nomatch ha
    exact ⟨hext, hcoherent, .quiet rfl⟩
  | copy ref =>
    simp only [Sharing.step]
    cases hr : s.refs[ref]? with
    | none => exact hnothing
    | some r =>
      obtain ⟨hext, hcoherent⟩ := h.refer (h.refs r (List.mem_of_getElem? hr))
      exact ⟨hext, hcoherent, .quiet rfl⟩
  | ask q =>
    simp only [Sharing.step]
    cases he : s.errand? q with
    | none => exact hnothing
    | some e =>
      refine ⟨⟨.refl s.pool, fun i r hr => ⟨r, hr, rfl⟩⟩, ⟨h.pool, h.refs, fun t ht => ?_⟩, .quiet rfl⟩
      rcases List.mem_append.1 ht with ht | ht
      · exact h.activities t ht
      · cases List.mem_singleton.1 ht
        exact refers_errand? he
  | advance i =>
    simp only [Sharing.step]
    cases ht : s.activities[i]? with
    | none => exact hnothing
    | some t =>
      obtain ⟨hext, hcoherent, hactivities, hagrees, hshows⟩ :=
        h.proceed i (h.activities t (List.mem_of_getElem? ht))
      refine ⟨⟨hext.pool, hext.refs⟩, ⟨hcoherent.pool, hcoherent.refs, fun u hu => ?_⟩,
        ⟨hshows.returned, hshows.effect⟩⟩
      -- the others know what they knew, which has stayed true
      rcases List.mem_or_eq_of_mem_set hu with hu | rfl
      · exact hcoherent.activities u hu
      · exact hagrees

theorem Coherent.of {c : Contexts} (h : c.Made) : (Sharing.of c).Coherent :=
  ⟨.of h.sorted, fun _ hr => absurd hr List.not_mem_nil, fun _ ht => absurd ht List.not_mem_nil⟩

end Sharing

end Wireflow
