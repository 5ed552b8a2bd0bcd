/-
What is put in the place of references. A text is passed once, from the left: where a reference starts it
is taken as a whole and replaced, any other character stays, and what has been put in is not looked at
again. References are the matches of one pattern, and they never overlap in two ways: at most one starts
at a place, and it ends at its first closing brace.
-/
import Wireflow.Pattern.Compile
import Wireflow.Property.Basic
import Wireflow.Proofs.Environment.Levels
import Wireflow.Proofs.Pattern.Matching
import Wireflow.Proofs.Text.Blank
import Mathlib

namespace Wireflow

namespace Template

/-! ## References -/

/-- A character that names are made of: neither a blank nor a closing brace. -/
def InName (c : Char) : Prop := c ≠ '\x7d' ∧ ¬Text.isBlank c

/-- The text of a reference to a name: the opening, the name between blanks, and the closing brace. -/
inductive IsReference : List Char → List Char → Prop
  | mk {before name after : List Char} (hbefore : ∀ c ∈ before, Text.isBlank c) (hname : name ≠ [])
    (hchars : ∀ c ∈ name, InName c) (hafter : ∀ c ∈ after, Text.isBlank c) :
    IsReference ('$' :: '\x7b' :: (before ++ (name ++ (after ++ ['\x7d'])))) name

variable {cs ref name rest : List Char}

theorem inName_iff {c : Char} : InName c ↔ (!(c == '\x7d' || Text.isBlank c)) = true := by
  simp [InName]

/-- What is read after an opening is a reference. -/
theorem reference?_of_isReference (h : IsReference ref name) (hcs : '$' :: '\x7b' :: cs = ref ++ rest) :
    reference? cs = some (name, rest) := by
  obtain ⟨hbefore, hname, hchars, hafter⟩ := h
  rename_i before after
  obtain ⟨c, name, rfl⟩ := List.exists_cons_of_ne_nil hname
  have hc := hchars c List.mem_cons_self
  have hpos : ∀ c' ∈ c :: name, (!(c' == '\x7d' || Text.isBlank c')) = true :=
    fun c' hc' => inName_iff.1 (hchars c' hc')
  have hcs : cs = before ++ (c :: name ++ (after ++ '\x7d' :: rest)) := by
    simpa using hcs
  -- the run of the name ends at the blanks after it, or at the brace
  have hend : (after ++ '\x7d' :: rest).takeWhile (fun c => !(c == '\x7d' || Text.isBlank c)) = [] ∧
      (after ++ '\x7d' :: rest).dropWhile (fun c => !(c == '\x7d' || Text.isBlank c)) =
        after ++ '\x7d' :: rest := by
    cases after with
    | nil => simp
    | cons a after =>
      have ha := hafter a List.mem_cons_self
      simp [ha]
  unfold reference?
  dsimp only
  rw [hcs, List.dropWhile_append_of_pos hbefore, List.cons_append,
    List.dropWhile_cons_of_neg (by simpa using hc.2), ← List.cons_append,
    List.takeWhile_append_of_pos hpos, List.dropWhile_append_of_pos hpos, hend.1, hend.2,
    List.dropWhile_append_of_pos hafter, List.dropWhile_cons_of_neg (by decide)]
  simp

theorem isReference_of_reference? (h : reference? cs = some (name, rest)) :
    ∃ ref, IsReference ref name ∧ '$' :: '\x7b' :: cs = ref ++ rest := by
  unfold reference? at h
  dsimp only at h
  split at h
  · rename_i tail htail
    split at h
    · cases h
    · rename_i hname
      cases h
      let others := (cs.dropWhile Text.isBlank).dropWhile fun c => !(c == '\x7d' || Text.isBlank c)
      have hbefore : ∀ c ∈ cs.takeWhile Text.isBlank, Text.isBlank c :=
        fun c hc => List.mem_takeWhile_imp hc
      have hafter : ∀ c ∈ others.takeWhile Text.isBlank, Text.isBlank c :=
        fun c hc => List.mem_takeWhile_imp hc
      have hchars := fun c hc => inName_iff.2 (List.mem_takeWhile_imp
        (p := fun c => !(c == '\x7d' || Text.isBlank c)) (l := cs.dropWhile Text.isBlank) (x := c) hc)
      refine ⟨_, .mk hbefore (by simpa using hname) hchars hafter, ?_⟩
      -- the blanks, the name and the blanks that were passed over, put together again
      have hsplit (p : Char → Bool) (l : List Char) : l.takeWhile p ++ l.dropWhile p = l :=
        List.takeWhile_append_dropWhile
      rw [List.cons_append, List.cons_append, List.append_assoc, List.append_assoc,
        List.append_assoc, List.singleton_append, ← htail, hsplit, hsplit, hsplit]
  · cases h

/-- Every reference starts with the opening. -/
theorem IsReference.exists_eq (h : IsReference ref name) : ∃ cs, ref = '$' :: '\x7b' :: cs := by
  cases h
  exact ⟨_, rfl⟩

theorem IsReference.inName (h : IsReference ref name) : ∀ c ∈ name, InName c := by
  cases h
  assumption

/-! ## The scan -/

variable {meaning : String → String}

theorem expand_reference (href : IsReference ref name) (rest : List Char) :
    expand meaning (ref ++ rest) = (meaning (String.ofList name)).toList ++ expand meaning rest := by
  obtain ⟨cs, rfl⟩ := href.exists_eq
  have hread : reference? (cs ++ rest) = some (name, rest) := reference?_of_isReference href rfl
  rw [List.cons_append, List.cons_append, expand]
  split
  · rename_i hread'
    cases hread.symm.trans hread'
    rfl
  · rename_i hnone
    cases hread.symm.trans hnone

theorem expand_char {c : Char} (h : ∀ ref name, IsReference ref name → ¬ref <+: c :: cs) :
    expand meaning (c :: cs) = c :: expand meaning cs := by
  by_cases hopen : ∃ inner, c = '$' ∧ cs = '\x7b' :: inner
  · obtain ⟨inner, rfl, rfl⟩ := hopen
    rw [expand]
    split
    · rename_i hread
      obtain ⟨ref, href, heq⟩ := isReference_of_reference? hread
      exact absurd ⟨_, heq.symm⟩ (h ref _ href)
    · rfl
  · rw [expand]
    rintro rest rfl rfl
    exact hopen ⟨_, rfl, rfl⟩

theorem expand_nil : expand meaning [] = [] := by
  rw [expand]

theorem marks_iff : marks cs = true ↔ ['$', '\x7b'] <:+: cs := by
  fun_induction marks cs with
  | case1 rest => exact iff_of_true rfl ⟨[], rest, rfl⟩
  | case2 c rest hne ih =>
    rw [ih, List.infix_cons_iff]
    constructor
    · exact .inr
    · rintro (⟨tail, htail⟩ | h)
      · cases htail
        exact absurd rfl (hne _ rfl)
      · exact h
  | case3 => simp

/-- A text without an opening holds no reference, and stays. -/
theorem expand_eq_self (h : ¬['$', '\x7b'] <:+: cs) : expand meaning cs = cs := by
  induction cs with
  | nil => rw [expand]
  | cons c cs ih =>
    rw [List.infix_cons_iff, not_or] at h
    rw [expand_char, ih h.2]
    intro ref name href hprefix
    obtain ⟨inner, rfl⟩ := href.exists_eq
    apply h.1
    exact (show ['$', '\x7b'] <+: '$' :: '\x7b' :: inner from ⟨inner, rfl⟩).trans hprefix

/-! ## The pattern -/

/-- The pattern that references are written by. -/
def pattern : String := "\\$\\\x7b\\s*([^\x7d\\s]+)\\s*\\\x7d"

/-- The blanks, as a set. -/
def blanks : CharSet :=
  ⟨[(9, 13), (32, 32), (133, 133), (160, 160), (5760, 5760), (8192, 8202), (8232, 8233),
    (8239, 8239), (8287, 8287), (12288, 12288)]⟩

/-- The characters of names, as a set. -/
def nameChars : CharSet :=
  ⟨[(0, 8), (14, 31), (33, 124), (126, 132), (134, 159), (161, 5759), (5761, 8191), (8203, 8231),
    (8234, 8238), (8240, 8286), (8288, 12287), (12289, 1114111)]⟩

/-- What the pattern is read as. -/
def expression : Regex :=
  .seq [.text ['$', '\x7b'], .repeated (.set blanks) false 0 none,
    .group (.repeated (.set nameChars) false 1 none), .repeated (.set blanks) false 0 none,
    .text ['\x7d']]

theorem mem_blanks (c : Char) : blanks.mem c = true ↔ Text.isBlank c = true := by
  simp only [CharSet.mem, CharSet.has, blanks, Text.isBlank, List.any_cons, List.any_nil,
    Bool.or_eq_true, Bool.and_eq_true, decide_eq_true_eq, beq_iff_eq, Bool.false_eq_true, or_false]
  omega

theorem mem_nameChars (c : Char) : nameChars.mem c = true ↔ InName c := by
  have hlt : c.toNat < 1114112 := by
    have hvalid := c.valid
    unfold UInt32.isValidChar Nat.isValidChar at hvalid
    show c.val.toNat < 1114112
    omega
  have hbrace : c = '\x7d' ↔ c.toNat = 125 := Char.toNat_inj.symm
  unfold InName
  rw [ne_eq, hbrace, ← mem_blanks]
  simp only [CharSet.mem, CharSet.has, blanks, nameChars, List.any_cons, List.any_nil,
    Bool.or_eq_true, Bool.and_eq_true, decide_eq_true_eq, Bool.false_eq_true, or_false]
  omega

/-- The words of the expression are the references. -/
theorem word_expression_iff : expression.Word ref ↔ ∃ name, IsReference ref name := by
  unfold expression
  simp only [Regex.word_seq_cons_iff, Regex.word_seq_nil_iff, Regex.word_text_iff,
    Regex.word_group_iff, Regex.word_run_iff, mem_blanks, mem_nameChars]
  constructor
  · rintro ⟨_, _, rfl, ⟨before, _, ⟨-, hbefore⟩, ⟨name, _, ⟨hname, hchars⟩,
      ⟨after, _, ⟨-, hafter⟩, ⟨_, _, rfl, rfl, rfl⟩, rfl⟩, rfl⟩, rfl⟩, rfl⟩
    exact ⟨name, .mk hbefore (List.length_pos_iff.1 hname) hchars hafter⟩
  · rintro ⟨name, hbefore, hname, hchars, hafter⟩
    exact ⟨_, _, rfl, ⟨_, _, ⟨Nat.zero_le _, hbefore⟩, ⟨_, _, ⟨List.length_pos_iff.2 hname, hchars⟩,
      ⟨_, _, ⟨Nat.zero_le _, hafter⟩, ⟨_, _, rfl, rfl, rfl⟩, rfl⟩, rfl⟩, rfl⟩, rfl⟩

/-- The pattern is read as the expression. -/
theorem read_pattern : ∃ tree, Pattern.parse pattern = .ok tree ∧
    Pattern.regex 0 (.initial false) tree = .ok (expression, .initial false) :=
  ⟨_, by cbv, by cbv⟩

/-- From any place of a text the expression leads to the ends of the references that start there. -/
theorem mem_ends_expression_iff (cs : List Char) (i j : Nat) :
    j ∈ expression.ends cs.toArray [i] ↔
      ∃ ref name, IsReference ref name ∧ ref <+: cs.drop i ∧ j = i + ref.length := by
  rw [Regex.leads_ends cs expression rfl [i] j]
  simp only [List.mem_singleton, exists_eq_left, word_expression_iff, Regex.Stands]
  constructor
  · rintro ⟨ref, ⟨name, href⟩, hstands⟩
    exact ⟨ref, name, href, hstands⟩
  · rintro ⟨ref, name, href, hstands⟩
    exact ⟨ref, ⟨name, href⟩, hstands⟩

end Template

/-! ## Scans -/

/-- What is put in the place of a name: nothing without a value, the text of a string, number or
boolean, and the compact JSON text of any other value. -/
inductive Inserted : Option Value → List Char → Prop
  | nothing : Inserted none []
  | string (s : String) : Inserted (some (.string s)) s.toList
  | number (n : Double) : Inserted (some (.number n)) n.text.toList
  | bool (b : Bool) : Inserted (some (.bool b)) (if b then "true" else "false").toList
  | json {v : Value} : v = .null ∨ v.isCompound = true → Inserted (some v) v.toJson.compact.toList

theorem inserted_none_iff {s : List Char} : Inserted none s ↔ [] = s := by
  constructor
  · rintro ⟨⟩
    rfl
  · rintro rfl
    exact .nothing

theorem inserted_some_iff {v : Value} {s : List Char} :
    Inserted (some v) s ↔ v.templateText.toList = s := by
  constructor
  · rintro (_ | _ | _ | _ | h)
    · rfl
    · rfl
    · rfl
    · have hnone : v.toText? = none := by
        rcases h with rfl | h
        · rfl
        · cases v with
          | null => rfl
          | bytes _ => rfl
          | array _ => rfl
          | object _ => rfl
          | bool _ => cases h
          | number _ => cases h
          | string _ => cases h
      unfold Value.templateText
      rw [hnone]
      rfl
  · rintro rfl
    cases v with
    | null => exact .json (.inl rfl)
    | bool b => exact .bool b
    | number n => exact .number n
    | string s => exact .string s
    | bytes b => exact .json (.inr rfl)
    | array a => exact .json (.inr rfl)
    | object m => exact .json (.inr rfl)

namespace Identity

open Template

/-- One pass over a text from the left. A reference is taken as a whole, and what is put in its place is
not passed again; where none starts, a character stays. -/
inductive Scans (i : Identity) (p : ProcessEnv) : List Char → List Char → Prop
  | done : Scans i p [] []
  | replaced {ref name rest inserted s : List Char} : IsReference ref name →
      Inserted (i.env? p (String.ofList name)) inserted → Scans i p rest s →
      Scans i p (ref ++ rest) (inserted ++ s)
  | copied {c : Char} {rest s : List Char} :
      (∀ ref name, IsReference ref name → ¬ref <+: c :: rest) → Scans i p rest s →
      Scans i p (c :: rest) (c :: s)

variable {i : Identity} {p : ProcessEnv}

/-- What a name of a reference is replaced by in a template. -/
theorem inserted_env_iff {name : List Char} (hname : ∀ c ∈ name, InName c) {s : List Char} :
    Inserted (i.env? p (String.ofList name)) s ↔
      (meaningText (i.reservedOr (i.resolve p i.levels)) (String.ofList name)).toList = s := by
  -- names hold no blanks, so that nothing of them is trimmed away
  have htrim : Text.trim (String.ofList name) = String.ofList name := by
    unfold Text.trim
    rw [String.toList_ofList, Text.trimChars_eq_self fun c hc => by simpa using (hname c hc).2]
  unfold env? meaningText
  rw [htrim]
  cases i.reservedOr (i.resolve p i.levels) (String.ofList name) with
  | none => exact inserted_none_iff
  | some v => exact inserted_some_iff

/-- A text is passed in exactly one way, and the outcome is the text with its references expanded. -/
theorem scans_iff {cs s : List Char} :
    i.Scans p cs s ↔ expand (meaningText (i.reservedOr (i.resolve p i.levels))) cs = s := by
  constructor
  · intro h
    induction h with
    | done => exact expand_nil
    | replaced href hinserted _ ih =>
      rw [expand_reference href, (inserted_env_iff href.inName).1 hinserted, ih]
    | copied hnone _ ih => rw [expand_char hnone, ih]
  · rintro rfl
    fun_induction expand (meaningText (i.reservedOr (i.resolve p i.levels))) cs with
    | case1 rest name after hread _ ih =>
      obtain ⟨ref, href, heq⟩ := isReference_of_reference? hread
      rw [heq]
      exact .replaced href ((inserted_env_iff href.inName).2 rfl) ih
    | case2 rest hread ih =>
      refine .copied ?_ ih
      rintro ref name href ⟨after, hafter⟩
      cases hread.symm.trans (reference?_of_isReference href hafter.symm)
    | case3 c rest hne ih =>
      refine .copied ?_ ih
      rintro ref name href ⟨after, hafter⟩
      obtain ⟨inner, rfl⟩ := href.exists_eq
      cases hafter
      exact hne _ rfl rfl
    | case4 => exact .done

/-- A text without an opening is what it is expanded to. -/
theorem substitute_eq_self {text : String} (h : ¬['$', '\x7b'] <:+: text.toList) :
    i.substitute p text = text := by
  unfold substitute
  rw [expand_eq_self h, String.ofList_toList]

end Identity

/-! ## Literal texts -/

/-- A literal text is compiled to a constant when it has no opening, and always to what has the value of
its template. -/
theorem Property.compile_text (now : Double) (raw : Json) :
    ∃ prop, Property.compile now "str" raw = .ok prop ∧
      (prop.constant?.isSome = true ↔ ¬['$', '\x7b'] <:+: raw.plainText.toList) ∧
      ∀ s msg, prop.evaluate? s msg = (Property.template raw.plainText).evaluate? s msg := by
  have hparse : PropertyType.parse "str" = .ok .str := PropertyType.parse_name .str
  unfold Property.compile Property.compileTyped Template.isTemplate
  simp only [hparse, true_and]
  by_cases hmarks : Template.marks raw.plainText.toList = true
  · rw [if_pos hmarks]
    refine ⟨_, rfl, ?_, fun s msg => rfl⟩
    simp [Property.constant?, ← Template.marks_iff, hmarks]
  · rw [if_neg hmarks]
    refine ⟨_, rfl, ?_, fun s msg => ?_⟩
    · simp [Property.constant?, ← Template.marks_iff, hmarks]
    · rw [Template.marks_iff] at hmarks
      show some (Value.string raw.plainText) =
        some (.string (s.identity.substitute s.process raw.plainText))
      rw [Identity.substitute_eq_self hmarks]

/-- The entry that is found: the last one of the name. -/
theorem EnvList.find?_append_cons (before after : EnvList) (name other : String) (e : EnvEntry) :
    find? (before ++ (name, e) :: after) other =
      (after.find? other).or (if name == other then some e else before.find? other) := by
  unfold find?
  rw [List.reverse_append, List.reverse_cons, List.append_assoc, List.find?_append,
    List.singleton_append, List.find?_cons]
  cases after.reverse.find? fun e => e.1 == other with
  | some x => rfl
  | none => cases name == other <;> simp

/-- Two entries with the same value at every level can stand for each other in every list. -/
theorem Identity.resolve_congr_entry {e e' : EnvEntry}
    (h : ∀ (i : Identity) p outer, i.entryValue? p outer e = i.entryValue? p outer e')
    (i : Identity) (p : ProcessEnv) (before after : EnvList) (name : String)
    (outer : List EnvList) :
    i.resolve p ((before ++ (name, e) :: after) :: outer) =
      i.resolve p ((before ++ (name, e') :: after) :: outer) := by
  funext other
  rw [resolve_cons, resolve_cons, EnvList.find?_append_cons, EnvList.find?_append_cons]
  cases after.find? other with
  | some x => rfl
  | none =>
    by_cases hname : (name == other) = true
    · simp only [hname, Option.none_or, if_true]
      exact h i p outer
    · simp only [hname, Option.none_or, Bool.false_eq_true, if_false]

/-- An entry with a literal text is compiled to a value when the text has no opening, and always to what
its template resolves to. -/
theorem EnvVar.compile_text (now : Double) (name : String) (raw : Json) :
    ∃ e, EnvVar.compile now ⟨name, raw, "str"⟩ = .ok e ∧
      ((∃ v, e = .value v) ↔ ¬['$', '\x7b'] <:+: raw.plainText.toList) ∧
      ∀ (i : Identity) p before after outer,
        i.resolve p ((before ++ (name, e) :: after) :: outer) =
          i.resolve p ((before ++ (name, .template raw.plainText) :: after) :: outer) := by
  have hparse : PropertyType.parse "str" = .ok .str := PropertyType.parse_name .str
  unfold EnvVar.compile Template.isTemplate
  simp only [hparse]
  by_cases hmarks : Template.marks raw.plainText.toList = true
  · rw [if_pos hmarks]
    refine ⟨_, rfl, ?_, fun i p before after outer => rfl⟩
    simp [← Template.marks_iff, hmarks]
  · rw [if_neg hmarks]
    refine ⟨_, rfl, ?_, fun i p before after outer => ?_⟩
    · simp [← Template.marks_iff, hmarks]
    · rw [Template.marks_iff] at hmarks
      refine Identity.resolve_congr_entry (fun i p outer => ?_) i p before after name outer
      show some (Value.string raw.plainText) = some (.string (String.ofList (Template.expand _ _)))
      rw [Template.expand_eq_self hmarks, String.ofList_toList]

/-- A list with an entry inside is compiled part by part. -/
theorem EnvList.compile_append_cons {now : Double} {vars more : List EnvVar} {v : EnvVar}
    {e : EnvEntry} {before after : EnvList} (hvars : compile now vars = .ok before)
    (hv : v.compile now = .ok e) (hmore : compile now more = .ok after) :
    compile now (vars ++ v :: more) = .ok (before ++ (v.name, e) :: after) := by
  induction vars generalizing before with
  | nil =>
    cases hvars
    rw [List.nil_append, compile, hv, hmore]
    rfl
  | cons w rest ih =>
    rw [compile] at hvars
    rw [List.cons_append, compile]
    cases hw : w.compile now with
    | error fault =>
      rw [hw] at hvars
      cases hvars
    | ok x =>
      rw [hw] at hvars
      cases hrest : compile now rest with
      | error fault =>
        rw [hrest] at hvars
        cases hvars
      | ok entries =>
        rw [hrest] at hvars
        cases hvars
        rw [ih hrest]
        rfl

/-- Wherever an entry with a literal text stands in a list, the list resolves names as if it held the
template of the text there. -/
theorem EnvList.compile_text {now : Double} {vars more : List EnvVar} {before after : EnvList}
    (hvars : compile now vars = .ok before) (hmore : compile now more = .ok after) (name : String)
    (raw : Json) :
    ∃ e, compile now (vars ++ ⟨name, raw, "str"⟩ :: more) = .ok (before ++ (name, e) :: after) ∧
      ((∃ v, e = .value v) ↔ ¬['$', '\x7b'] <:+: raw.plainText.toList) ∧
      ∀ (i : Identity) p outer, i.resolve p ((before ++ (name, e) :: after) :: outer) =
        i.resolve p ((before ++ (name, .template raw.plainText) :: after) :: outer) := by
  obtain ⟨e, he, hvalue, hresolve⟩ := EnvVar.compile_text now name raw
  exact ⟨e, compile_append_cons hvars he hmore, hvalue, fun i p => hresolve i p before after⟩

/-! ## One pass -/

namespace Identity

open Template

/-- The text with its references replaced is the one outcome of a pass over it from the left: each
reference is taken where it starts and replaced by the value of its name, and all else stays. References
are what the pattern matches. So a text without an opening stays as it is, and a literal text may be
compiled to a constant then, in a property and in an entry. -/
theorem substitute_in_one_pass (i : Identity) (p : ProcessEnv) (text : String) :
    (∀ s : List Char, i.Scans p text.toList s ↔ (i.substitute p text).toList = s) ∧
    ((∃ tree, Pattern.parse pattern = .ok tree ∧
        Pattern.regex 0 (.initial false) tree = .ok (expression, .initial false)) ∧
      ∀ (cs : List Char) (i j : Nat), j ∈ expression.ends cs.toArray [i] ↔
        ∃ ref name, IsReference ref name ∧ ref <+: cs.drop i ∧ j = i + ref.length) ∧
    (¬['$', '\x7b'] <:+: text.toList → i.substitute p text = text) ∧
    (∀ now raw, ∃ prop, Property.compile now "str" raw = .ok prop ∧
      (prop.constant?.isSome = true ↔ ¬['$', '\x7b'] <:+: raw.plainText.toList) ∧
      ∀ s msg, prop.evaluate? s msg = (Property.template raw.plainText).evaluate? s msg) ∧
    ∀ now vars more before after, EnvList.compile now vars = .ok before →
      EnvList.compile now more = .ok after → ∀ name raw,
      ∃ e, EnvList.compile now (vars ++ ⟨name, raw, "str"⟩ :: more) =
          .ok (before ++ (name, e) :: after) ∧
        ((∃ v, e = .value v) ↔ ¬['$', '\x7b'] <:+: raw.plainText.toList) ∧
        ∀ (i : Identity) p outer, i.resolve p ((before ++ (name, e) :: after) :: outer) =
          i.resolve p ((before ++ (name, .template raw.plainText) :: after) :: outer) := by
  refine ⟨fun s => ?_, ⟨read_pattern, mem_ends_expression_iff⟩, substitute_eq_self,
    Property.compile_text, fun _ _ _ _ _ => EnvList.compile_text⟩
  unfold substitute
  rw [String.toList_ofList]
  exact scans_iff

namespace Openings

/-- A node in a flow with a text that looks like a reference, and a list. -/
def identity : Identity where
  id := ⟨1⟩
  name := "node one"
  type := "inject"
  flow :=
    { id := ⟨256⟩, label := "Flow 1",
      env := [("A", .value (.string "$\x7bB\x7d")), ("B", .value (.array [.null, .bool true]))] }
  groups := []

end Openings

/-- An opening inside a reference belongs to its name, what is put in is not replaced in its turn, and
openings of nothing stay. -/
theorem substitute_in_one_pass_openings :
    Openings.identity.Scans []
      "$\x7b$\x7bA\x7d\x7d $\x7b A\t\x7d $\x7bB\x7d $\x7b\x7d $\x7bA B\x7d $\x7bA".toList
      "\x7d $\x7bB\x7d [null,true] $\x7b\x7d $\x7bA B\x7d $\x7bA".toList ∧
    ¬['$', '\x7b'] <:+: "$A \x7bB\x7d $".toList ∧
    Openings.identity.substitute [] "$A \x7bB\x7d $" = "$A \x7bB\x7d $" ∧
    ∃ e, EnvList.compile .zero [⟨"B", .bool true, "bool"⟩, ⟨"A", .string "$A \x7bB\x7d $", "str"⟩] =
        .ok [("B", .value (.bool true)), ("A", e)] ∧ ∃ v, e = .value v := by
  have hplain : ¬['$', '\x7b'] <:+: "$A \x7bB\x7d $".toList := by decide
  obtain ⟨hscans, -⟩ := substitute_in_one_pass Openings.identity []
    "$\x7b$\x7bA\x7d\x7d $\x7b A\t\x7d $\x7bB\x7d $\x7b\x7d $\x7bA B\x7d $\x7bA"
  obtain ⟨-, -, hsame, -, hentry⟩ := substitute_in_one_pass Openings.identity [] "$A \x7bB\x7d $"
  obtain ⟨e, he, hvalue, -⟩ := hentry .zero [⟨"B", .bool true, "bool"⟩] []
    [("B", .value (.bool true))] [] rfl rfl "A" (.string "$A \x7bB\x7d $")
  exact ⟨(hscans _).2 (by cbv), hplain, hsame hplain, e, he, hvalue.2 hplain⟩

end Identity

end Wireflow
