/-
The text of a tree with one item a line is read back. It is accepted exactly when its containers are
not nested too deeply, and what is read is the tree as it was, but for its fractional numbers, which
come back as they are read, and for members of an object that are not in order.
-/
import Mathlib.Data.List.DropRight
import Wireflow.Proofs.Json.Tokens

namespace Wireflow.Json

/-! ## What is read -/

/-- The number that is read from the text of a number. -/
def Number.reread (n : Number) : Number :=
  match read? n.chars with
  | some (n', _) => n'
  | none => n

/-- The text of a number is read as a number, up to its end. -/
def Number.Accepted (n : Number) : Prop :=
  read? n.chars = some (n.reread, [])

theorem Number.reread_integer (z : Int) (h : InWord z) :
    reread (.integer z h) = .integer z h := by
  unfold reread
  rw [read?_integer]

theorem Number.accepted_integer (z : Int) (h : InWord z) : Accepted (.integer z h) := by
  unfold Accepted
  rw [reread_integer, read?_integer]

mutual

/-- How many containers stand inside one another. -/
def depth : Json → Nat
  | .array items => depthItems items + 1
  | .object members => depthMembers members + 1
  | _ => 0

/-- How many containers stand inside one another in the items. -/
def depthItems : List Json → Nat
  | [] => 0
  | j :: rest => max (depth j) (depthItems rest)

/-- How many containers stand inside one another in the members. -/
def depthMembers : List (String × Json) → Nat
  | [] => 0
  | (_, j) :: rest => max (depth j) (depthMembers rest)

end

mutual

/-- The tree that is read from the text of a tree. -/
def reread : Json → Json
  | .number n => .number n.reread
  | .array items => .array (rereadItems items)
  | .object members => .object (Table.ofList (rereadMembers members))
  | j => j

/-- The items that are read. -/
def rereadItems : List Json → List Json
  | [] => []
  | j :: rest => reread j :: rereadItems rest

/-- The members that are read, as they stand in the text. -/
def rereadMembers : List (String × Json) → List (String × Json)
  | [] => []
  | (name, j) :: rest => (name, reread j) :: rereadMembers rest

end

mutual

/-- All numbers of a tree are accepted. -/
def Accepted : Json → Prop
  | .number n => n.Accepted
  | .array items => AcceptedItems items
  | .object members => AcceptedMembers members
  | _ => True

/-- All numbers of the items are accepted. -/
def AcceptedItems : List Json → Prop
  | [] => True
  | j :: rest => Accepted j ∧ AcceptedItems rest

/-- All numbers of the members are accepted. -/
def AcceptedMembers : List (String × Json) → Prop
  | [] => True
  | (_, j) :: rest => Accepted j ∧ AcceptedMembers rest

end

/-! ## White space -/

theorem skipSpace_cons {c : Char} {rest : List Char} (h : isSpace c = false) :
    skipSpace (c :: rest) = c :: rest := by
  unfold skipSpace
  rw [List.dropWhile_cons_of_neg (by simp [h])]

@[simp] theorem skipSpace_lineBreak (level : Nat) (rest : List Char) :
    skipSpace (lineBreak level ++ rest) = skipSpace rest := by
  unfold lineBreak skipSpace
  rw [List.cons_append, List.dropWhile_cons_of_pos (by decide)]
  induction 2 * level with
  | zero => rfl
  | succ n ih => rw [List.replicate_succ, List.cons_append, List.dropWhile_cons_of_pos (by decide), ih]

theorem skipSpace_skipSpace (cs : List Char) : skipSpace (skipSpace cs) = skipSpace cs := by
  unfold skipSpace
  exact List.dropWhile_idempotent _ _

theorem length_lineBreak (level : Nat) : (lineBreak level).length = 2 * level + 1 := by
  simp [lineBreak]

/-- A value is read alike after any white space. -/
theorem value?_congr {fuel depth : Nat} {cs cs' : List Char} (h : skipSpace cs = skipSpace cs') :
    value? fuel depth cs = value? fuel depth cs' := by
  cases fuel with
  | zero => rfl
  | succ fuel => simp only [value?, h]

theorem items?_congr {fuel depth : Nat} {cs cs' : List Char} (h : skipSpace cs = skipSpace cs') :
    items? fuel depth cs = items? fuel depth cs' := by
  cases fuel with
  | zero => rfl
  | succ fuel => simp only [items?, value?_congr h]

theorem members?_congr {fuel depth : Nat} {cs cs' : List Char} (h : skipSpace cs = skipSpace cs') :
    members? fuel depth cs = members? fuel depth cs' := by
  cases fuel with
  | zero => rfl
  | succ fuel => simp only [members?, h]

/-! ## How a value starts -/

/-- A character that a value may start with. -/
def opens (c : Char) : Bool :=
  c.isDigit || c = '-' || c = 'n' || c = 't' || c = 'f' || c = '"' || c = '[' || c = '{'

/-- A number that is read starts with a minus or a digit. -/
theorem Number.eq_cons_of_read? {cs : List Char} {r : Number × List Char} (h : read? cs = some r) :
    ∃ c tail, cs = c :: tail ∧ (c = '-' ∨ c.isDigit = true) := by
  cases cs with
  | nil => cases h
  | cons c tail =>
    refine ⟨c, tail, rfl, ?_⟩
    by_cases hminus : c = '-'
    · exact .inl hminus
    · right
      by_contra hdigit
      have hwhole : wholeDigits? (c :: tail) = none := by
        simp [wholeDigits?, Double.spanDigits, hdigit]
      have hsign : spanMinus (c :: tail) = (false, c :: tail) := by
        simp [spanMinus, hminus]
      unfold read? at h
      rw [hsign] at h
      dsimp only at h
      rw [hwhole] at h
      cases h

theorem opens_of_number {c : Char} (h : c = '-' ∨ c.isDigit = true) : opens c = true := by
  rcases h with rfl | h
  · decide
  · simp [opens, h]

theorem opens_ne {c : Char} (h : opens c = true) : isSpace c = false ∧ c ≠ ']' := by
  constructor
  · rw [Bool.eq_false_iff]
    intro hspace
    simp only [isSpace, Bool.or_eq_true, decide_eq_true_eq] at hspace
    rcases hspace with ((rfl | rfl) | rfl) | rfl <;> exact absurd h (by decide)
  · rintro rfl
    exact absurd h (by decide)

theorem indentedChars_eq_cons {j : Json} (h : j.Accepted) (level : Nat) :
    ∃ c tail, indentedChars level j = c :: tail ∧ opens c = true := by
  cases j with
  | null => exact ⟨_, _, rfl, by decide⟩
  | bool b => cases b <;> exact ⟨_, _, rfl, by decide⟩
  | number n =>
    rw [Accepted] at h
    obtain ⟨c, tail, hcs, hc⟩ := Number.eq_cons_of_read? h
    exact ⟨c, tail, by rw [indentedChars, hcs], opens_of_number hc⟩
  | string s => exact ⟨_, _, rfl, by decide⟩
  | array items => cases items <;> exact ⟨_, _, rfl, by decide⟩
  | object members => cases members <;> exact ⟨_, _, rfl, by decide⟩

/-! ## Reading back -/

theorem value?_number {fuel depth : Nat} {n : Number} (h : n.Accepted) {rest : List Char}
    (hstops : Number.Stops rest) :
    value? (fuel + 1) depth (n.chars ++ rest) = some (.number n.reread, rest) := by
  obtain ⟨c, tail, hcs, hc⟩ := Number.eq_cons_of_read? h
  have hspace := (opens_ne (opens_of_number hc)).1
  have hread : Number.read? (c :: (tail ++ rest)) = some (n.reread, rest) := by
    rw [← List.cons_append, ← hcs, Number.read?_append hstops, h]
    rfl
  have hne (x : Char) (hx : x ≠ '-' ∧ x.isDigit = false) : c ≠ x := by
    rintro rfl
    rcases hc with hminus | hdigit
    · exact hx.1 hminus
    · exact absurd hdigit (by simp [hx.2])
  rw [hcs, List.cons_append]
  simp [value?, skipSpace_cons hspace, hne 'n' (by decide), hne 't' (by decide), hne 'f' (by decide),
    hne '"' (by decide), hne '[' (by decide), hne '{' (by decide), hread]

theorem value?_array {fuel depth : Nat} {cs tail : List Char} {c : Char}
    (h : skipSpace cs = c :: tail) (hc : c ≠ ']') :
    value? (fuel + 1) (depth + 1) ('[' :: cs) =
      (items? fuel depth cs).map fun r => (.array r.1, r.2) := by
  -- white space before the first item is passed over here and again by the items
  have hitems : items? fuel depth (c :: tail) = items? fuel depth cs := by
    rw [← h]
    exact items?_congr (skipSpace_skipSpace cs)
  simp [value?, skipSpace_cons, isSpace, h, hc, hitems]

theorem value?_object {fuel depth : Nat} {cs tail : List Char} {c : Char}
    (h : skipSpace cs = c :: tail) (hc : c ≠ '}') :
    value? (fuel + 1) (depth + 1) ('{' :: cs) =
      (members? fuel depth cs).map fun r => (.object (Table.ofList r.1), r.2) := by
  have hmembers : members? fuel depth (c :: tail) = members? fuel depth cs := by
    rw [← h]
    exact members?_congr (skipSpace_skipSpace cs)
  simp [value?, skipSpace_cons, isSpace, h, hc, hmembers]

/-- The members from one whose value has been read: what follows it is a comma and the other members,
or the closing brace. -/
def membersFrom? (fuel depth : Nat) (name : String) :
    Option (Json × List Char) → Option (List (String × Json) × List Char)
  | none => none
  | some (item, rest) =>
    match skipSpace rest with
    | ',' :: rest' => (members? fuel depth rest').map fun r => ((name, item) :: r.1, r.2)
    | '}' :: rest' => some ([(name, item)], rest')
    | _ => none

theorem members?_name (fuel depth level : Nat) (name : String) (cs : List Char) :
    members? (fuel + 1) depth (lineBreak level ++ (quoted name ++ ':' :: ' ' :: cs)) =
      membersFrom? fuel depth name (value? fuel depth cs) := by
  have hbody := stringBody?_flatMap name.toList (':' :: ' ' :: cs)
  have hvalue : value? fuel depth (' ' :: cs) = value? fuel depth cs :=
    value?_congr (by simp [skipSpace, isSpace])
  have hcolon : skipSpace (':' :: ' ' :: cs) = ':' :: ' ' :: cs := skipSpace_cons (by decide)
  rw [members?, skipSpace_lineBreak, quoted, List.cons_append, List.append_assoc,
    List.singleton_append, skipSpace_cons (by decide)]
  simp only [hbody, hcolon, hvalue, String.ofList_toList]
  rfl

/-- An item that is not the last has a comma and the other items after it. -/
theorem indentedItems_cons_cons (level : Nat) (j j' : Json) (js : List Json) :
    indentedItems level (j :: j' :: js) =
      lineBreak level ++ (indentedChars level j ++ ',' :: indentedItems level (j' :: js)) := by
  rw [indentedItems, List.append_assoc]
  simp

/-- A member that is not the last has a comma and the other members after it. -/
theorem indentedMembers_cons_cons (level : Nat) (name : String) (j : Json)
    (m : String × Json) (ms : List (String × Json)) :
    indentedMembers level ((name, j) :: m :: ms) =
      lineBreak level ++ (quoted name ++ ':' :: ' ' ::
        (indentedChars level j ++ ',' :: indentedMembers level (m :: ms))) := by
  rw [indentedMembers]
  · simp
  · simp

theorem skipSpace_indentedItems {j : Json} (h : j.Accepted) (level : Nat) (js : List Json)
    (rest : List Char) : ∃ c tail,
      skipSpace (indentedItems level (j :: js) ++ rest) = c :: tail ∧ opens c = true := by
  obtain ⟨c, tail, hcs, hc⟩ := indentedChars_eq_cons h level
  have hspace := (opens_ne hc).1
  cases js with
  | nil => simp [indentedItems, hcs, skipSpace_cons hspace, hc]
  | cons j' js => simp [indentedItems_cons_cons, hcs, skipSpace_cons hspace, hc]

theorem skipSpace_indentedMembers (level : Nat) (m : String × Json) (ms : List (String × Json))
    (rest : List Char) : ∃ tail,
      skipSpace (indentedMembers level (m :: ms) ++ rest) = '"' :: tail := by
  obtain ⟨name, j⟩ := m
  cases ms <;> simp [indentedMembers, quoted, skipSpace_cons, isSpace]

mutual

theorem value?_indentedChars (j : Json) (haccepted : j.Accepted) (level fuel depth : Nat)
    {rest : List Char} (hstops : Number.Stops rest)
    (hfuel : (indentedChars level j).length ≤ fuel) :
    value? fuel depth (indentedChars level j ++ rest) =
      if j.depth ≤ depth then some (j.reread, rest) else none := by
  -- no text of a tree is empty, so there is fuel for its first step
  obtain ⟨fuel, rfl⟩ : ∃ n, fuel = n + 1 := by
    obtain ⟨c, tail, hcs, -⟩ := indentedChars_eq_cons haccepted level
    rw [hcs, List.length_cons] at hfuel
    exact ⟨fuel - 1, by omega⟩
  cases j with
  | null => simp [indentedChars, value?, skipSpace_cons, isSpace, reread, Json.depth]
  | bool b => cases b <;> simp [indentedChars, value?, skipSpace_cons, isSpace, reread, Json.depth]
  | number n =>
    rw [indentedChars, value?_number haccepted hstops]
    simp [Json.depth, reread]
  | string s =>
    have hbody := stringBody?_flatMap s.toList rest
    rw [indentedChars, quoted, List.cons_append, List.append_assoc, List.singleton_append]
    simp [value?, skipSpace_cons, isSpace, reread, Json.depth, hbody]
  | array items =>
    cases items with
    | nil =>
      cases depth <;>
        simp [indentedChars, value?, skipSpace_cons, isSpace, Json.depth, depthItems, reread,
          rereadItems]
    | cons j js =>
      rw [indentedChars, List.length_cons, List.length_append, List.length_append] at hfuel
      rw [indentedChars, List.cons_append, List.append_assoc, List.append_assoc,
        List.singleton_append]
      cases depth with
      | zero => simp [value?, skipSpace_cons, isSpace, Json.depth]
      | succ depth =>
        obtain ⟨c, tail, hcs, hc⟩ := skipSpace_indentedItems haccepted.1 (level + 1) js
          (lineBreak level ++ ']' :: rest)
        rw [value?_array hcs (opens_ne hc).2, items?_indentedItems (j :: js) (by simp) haccepted
          (level + 1) level fuel depth rest (by omega), Json.depth, reread]
        by_cases hdepth : depthItems (j :: js) ≤ depth <;> simp [hdepth]
  | object members =>
    cases members with
    | nil =>
      cases depth <;>
        simp [indentedChars, value?, skipSpace_cons, isSpace, Json.depth, depthMembers, reread,
          rereadMembers, Table.ofList]
    | cons m ms =>
      rw [indentedChars, List.length_cons, List.length_append, List.length_append] at hfuel
      rw [indentedChars, List.cons_append, List.append_assoc, List.append_assoc,
        List.singleton_append]
      cases depth with
      | zero => simp [value?, skipSpace_cons, isSpace, Json.depth]
      | succ depth =>
        obtain ⟨tail, hcs⟩ := skipSpace_indentedMembers (level + 1) m ms
          (lineBreak level ++ '}' :: rest)
        rw [value?_object hcs (by decide), members?_indentedMembers (m :: ms) (by simp) haccepted
          (level + 1) level fuel depth rest (by omega), Json.depth, reread]
        by_cases hdepth : depthMembers (m :: ms) ≤ depth <;> simp [hdepth]

theorem items?_indentedItems (items : List Json) (hne : items ≠ [])
    (haccepted : AcceptedItems items) (level outer fuel depth : Nat) (rest : List Char)
    (hfuel : (indentedItems level items).length ≤ fuel) :
    items? fuel depth (indentedItems level items ++ (lineBreak outer ++ ']' :: rest)) =
      if depthItems items ≤ depth then some (rereadItems items, rest) else none := by
  cases items with
  | nil => exact absurd rfl hne
  | cons j js =>
    cases js with
    | nil =>
      rw [indentedItems, List.length_append, length_lineBreak] at hfuel
      obtain ⟨fuel, rfl⟩ : ∃ n, fuel = n + 1 := ⟨fuel - 1, by omega⟩
      have hstops : Number.Stops (lineBreak outer ++ ']' :: rest) := Number.stops_cons (by decide)
      have hitem := value?_indentedChars j haccepted.1 level fuel depth hstops (by omega)
      rw [indentedItems, List.append_assoc, items?, value?_congr (skipSpace_lineBreak level _),
        hitem]
      by_cases hdepth : j.depth ≤ depth
      · simp [hdepth, depthItems, rereadItems, skipSpace_cons, isSpace]
      · simp [hdepth, depthItems]
    | cons j' js =>
      rw [indentedItems_cons_cons, List.length_append, List.length_append, List.length_cons,
        length_lineBreak] at hfuel
      obtain ⟨fuel, rfl⟩ : ∃ n, fuel = n + 1 := ⟨fuel - 1, by omega⟩
      have hstops : Number.Stops
          (',' :: (indentedItems level (j' :: js) ++ (lineBreak outer ++ ']' :: rest))) :=
        Number.stops_cons (by decide)
      have hitem := value?_indentedChars j haccepted.1 level fuel depth hstops (by omega)
      have hrest := items?_indentedItems (j' :: js) (by simp) haccepted.2 level outer fuel depth
        rest (by omega)
      rw [indentedItems_cons_cons, List.append_assoc, List.append_assoc, List.cons_append, items?,
        value?_congr (skipSpace_lineBreak level _), hitem, depthItems, rereadItems]
      simp only [Nat.max_le]
      by_cases hdepth : j.depth ≤ depth
      · rw [if_pos hdepth]
        dsimp only
        rw [skipSpace_cons (by decide)]
        simp only [hrest]
        by_cases hothers : depthItems (j' :: js) ≤ depth <;> simp [hdepth, hothers]
      · simp [hdepth]

theorem members?_indentedMembers (members : List (String × Json)) (hne : members ≠ [])
    (haccepted : AcceptedMembers members) (level outer fuel depth : Nat) (rest : List Char)
    (hfuel : (indentedMembers level members).length ≤ fuel) :
    members? fuel depth (indentedMembers level members ++ (lineBreak outer ++ '}' :: rest)) =
      if depthMembers members ≤ depth then some (rereadMembers members, rest) else none := by
  cases members with
  | nil => exact absurd rfl hne
  | cons m ms =>
    obtain ⟨name, j⟩ := m
    cases ms with
    | nil =>
      rw [indentedMembers, List.length_append, List.length_append, length_lineBreak,
        List.length_cons, List.length_cons] at hfuel
      obtain ⟨fuel, rfl⟩ : ∃ n, fuel = n + 1 := ⟨fuel - 1, by omega⟩
      have hstops : Number.Stops (lineBreak outer ++ '}' :: rest) := Number.stops_cons (by decide)
      have hitem := value?_indentedChars j haccepted.1 level fuel depth hstops (by omega)
      rw [indentedMembers, List.append_assoc, List.append_assoc, List.cons_append, List.cons_append,
        members?_name, hitem]
      by_cases hdepth : j.depth ≤ depth
      · simp [membersFrom?, hdepth, depthMembers, rereadMembers, skipSpace_cons, isSpace]
      · simp [membersFrom?, hdepth, depthMembers]
    | cons m ms =>
      rw [indentedMembers_cons_cons, List.length_append, List.length_append, List.length_cons,
        List.length_cons, List.length_append, List.length_cons, length_lineBreak] at hfuel
      obtain ⟨fuel, rfl⟩ : ∃ n, fuel = n + 1 := ⟨fuel - 1, by omega⟩
      have hstops : Number.Stops
          (',' :: (indentedMembers level (m :: ms) ++ (lineBreak outer ++ '}' :: rest))) :=
        Number.stops_cons (by decide)
      have hitem := value?_indentedChars j haccepted.1 level fuel depth hstops (by omega)
      have hrest := members?_indentedMembers (m :: ms) (by simp) haccepted.2 level outer fuel depth
        rest (by omega)
      rw [indentedMembers_cons_cons, List.append_assoc, List.append_assoc, List.cons_append,
        List.cons_append, List.append_assoc, List.cons_append, members?_name, hitem, depthMembers,
        rereadMembers]
      simp only [Nat.max_le]
      by_cases hdepth : j.depth ≤ depth
      · rw [if_pos hdepth, membersFrom?, skipSpace_cons (by decide)]
        simp only [hrest]
        by_cases hothers : depthMembers (m :: ms) ≤ depth <;> simp [hdepth, hothers]
      · simp [membersFrom?, hdepth]

end

/-- The text of a tree is accepted exactly when its containers are not nested too deeply. -/
theorem parse?_indented {j : Json} (h : j.Accepted) :
    parse? j.indented = if j.depth ≤ depthLimit then some j.reread else none := by
  have hvalue := value?_indentedChars j h 0 (2 * (indentedChars 0 j).length + 2) depthLimit
    Number.stops_nil (by omega)
  rw [List.append_nil] at hvalue
  unfold parse? indented
  dsimp only
  rw [String.toList_ofList, hvalue]
  by_cases hdepth : j.depth ≤ depthLimit
  · simp [hdepth, skipSpace]
  · simp [hdepth]

/-- What is read from the text of a tree, if anything is, is the tree. -/
def ReadsBack (j : Json) : Prop :=
  ∀ j', parse? j.indented = some j' → j' = j

/-- A tree reads back when all its numbers do and the members of its objects are in order. -/
theorem readsBack_of_reread {j : Json} (haccepted : j.Accepted) (hreread : j.reread = j) :
    j.ReadsBack := by
  intro j' hparse
  rw [parse?_indented haccepted, hreread] at hparse
  split at hparse
  · exact (Option.some.inj hparse).symm
  · cases hparse

/-! ## Integers -/

/-- A number that fits 64 bits stands for itself, any other is null. -/
theorem ofNat_cases (n : Nat) : (∃ h, ofNat n = .number (.integer n h)) ∨ ofNat n = .null :=
  if h : InWord n then .inl ⟨h, dif_pos h⟩ else .inr (dif_neg h)

theorem accepted_ofNat (n : Nat) : (ofNat n).Accepted := by
  have hcases := ofNat_cases n
  -- the bound of 64 bits must stay folded, or the tree is computed from it
  generalize ofNat n = j at hcases ⊢
  obtain ⟨h, rfl⟩ | rfl := hcases
  · exact Number.accepted_integer n h
  · trivial

theorem reread_ofNat (n : Nat) : (ofNat n).reread = ofNat n := by
  obtain ⟨h, heq⟩ | heq := ofNat_cases n
  · rw [heq, reread, Number.reread_integer]
  · rw [heq, reread] <;> simp

theorem depth_ofNat (n : Nat) : (ofNat n).depth = 0 := by
  obtain ⟨h, heq⟩ | heq := ofNat_cases n <;> rw [heq, Json.depth] <;> simp

end Wireflow.Json
