/-
Tables from names to values, kept as lists sorted by name. A look-up takes the first entry of a
name, so the laws of reading after writing hold of every list, sorted or not; that the lists are
sorted makes equal tables equal lists.
-/

namespace Wireflow

/-- A table from names to values: entries in ascending order of their names. -/
abbrev Table (α : Type u) := List (String × α)

namespace Table

variable {α : Type u}

/-- The value under a name. -/
def get? (k : String) : Table α → Option α
  | [] => none
  | (k', v) :: rest => if k = k' then some v else get? k rest

/-- The table with a value under a name, in place of the one it had. -/
def insert (k : String) (v : α) : Table α → Table α
  | [] => [(k, v)]
  | (k', v') :: rest =>
    if k = k' then (k, v) :: rest
    else if k < k' then (k, v) :: (k', v') :: rest
    else (k', v') :: insert k v rest

/-- The table without a name. -/
def erase (k : String) : Table α → Table α
  | [] => []
  | (k', v) :: rest => if k = k' then erase k rest else (k', v) :: erase k rest

/-- The names, in order. -/
def keys (t : Table α) : List String :=
  t.map (·.1)

/-- Whether a name has a value. -/
def contains (k : String) (t : Table α) : Bool :=
  (t.get? k).isSome

/-- The table of a list of entries; a later entry of a name replaces an earlier one. -/
def ofList (entries : List (String × α)) : Table α :=
  entries.foldl (fun t e => t.insert e.1 e.2) []

/-- The table with every value replaced by its image. -/
def mapValues (f : α → β) (t : Table α) : Table β :=
  t.map fun e => (e.1, f e.2)

/-! ## Reading after writing -/

@[simp] theorem get?_nil (k : String) : get? k ([] : Table α) = none := rfl

theorem get?_cons (k k' : String) (v : α) (t : Table α) :
    get? k ((k', v) :: t) = if k = k' then some v else get? k t := rfl

@[simp] theorem get?_insert_self (k : String) (v : α) (t : Table α) :
    (t.insert k v).get? k = some v := by
  induction t with
  | nil => simp [insert, get?]
  | cons e t ih =>
    obtain ⟨k', v'⟩ := e
    simp only [insert]
    split
    · simp [get?]
    · split
      · simp [get?]
      · rename_i h _
        simp [get?, h, ih]

theorem get?_insert_of_ne {k k₀ : String} (h : k₀ ≠ k) (v : α) (t : Table α) :
    (t.insert k v).get? k₀ = t.get? k₀ := by
  induction t with
  | nil => simp [insert, get?, h]
  | cons e t ih =>
    obtain ⟨k', v'⟩ := e
    simp only [insert]
    split
    · rename_i hk; subst hk; simp [get?, h]
    · split
      · simp [get?, h]
      · simp [get?, ih]

@[simp] theorem get?_erase_self (k : String) (t : Table α) : (t.erase k).get? k = none := by
  induction t with
  | nil => rfl
  | cons e t ih =>
    obtain ⟨k', v'⟩ := e
    simp only [erase]
    split
    · exact ih
    · rename_i h; simp [get?, h, ih]

theorem get?_erase_of_ne {k k₀ : String} (h : k₀ ≠ k) (t : Table α) :
    (t.erase k).get? k₀ = t.get? k₀ := by
  induction t with
  | nil => rfl
  | cons e t ih =>
    obtain ⟨k', v'⟩ := e
    simp only [erase]
    split
    · rename_i hk; subst hk; simp [get?, h, ih]
    · simp [get?, ih]

@[simp] theorem insert_insert (k : String) (v w : α) (t : Table α) :
    (t.insert k v).insert k w = t.insert k w := by
  induction t with
  | nil => simp [insert]
  | cons e t ih =>
    obtain ⟨k', v'⟩ := e
    simp only [insert]
    split
    · simp [insert]
    · split
      · simp [insert]
      · rename_i h₁ h₂; simp [insert, h₁, h₂, ih]

theorem erase_of_get?_eq_none {k : String} {t : Table α} (h : t.get? k = none) : t.erase k = t := by
  induction t with
  | nil => rfl
  | cons e t ih =>
    obtain ⟨k', v'⟩ := e
    simp only [get?] at h
    split at h
    · cases h
    · rename_i hk; simp [erase, hk, ih h]

end Table

end Wireflow
