/-
The files of scopes: the name of a scope's file is read as that scope, so no two scopes share a file
and no file is taken for one of another scope. Below a directory a file has the path of the directory
and its own name, and what a directory lists is what stands directly in it.
-/
import Wireflow.Context.Scope
import Wireflow.Disk
import Wireflow.Proofs.Text.Numeral
import Mathlib.Data.List.Basic

namespace Wireflow

/-! ## Names of files -/

namespace Scope

theorem beforeEnd?_append (stem ending : List Char) :
    beforeEnd? ending (stem ++ ending) = some stem := by
  unfold beforeEnd?
  rw [List.reverse_append, Text.dropStart?_eq_some_iff.2 rfl, Option.map_some, List.reverse_reverse]

/-- The name of the file of a scope is read as the scope. -/
theorem ofFileName?_fileName (s : Scope) : ofFileName? s.fileName = some s := by
  cases s with
  | global => decide
  | flow id =>
    have hname : (Scope.flow id).fileName.toList =
        ("flow-".toList ++ id.text.toList) ++ ".json".toList := by
      simp [fileName, String.toList_append]
    unfold ofFileName?
    rw [hname, beforeEnd?_append]
    dsimp only
    rw [if_neg (by simp), Text.dropStart?_eq_some_iff.2 rfl]
    dsimp only
    rw [String.ofList_toList, Identifier.ofText?_text]
    rfl

/-- No two scopes share a file. -/
theorem fileName_injective : Function.Injective fileName := by
  intro s t h
  have hs := ofFileName?_fileName s
  rw [h, ofFileName?_fileName t] at hs
  exact (Option.some.inj hs).symm

/-- The name of a file is one step of a path, and none of those that have a meaning of their own. -/
theorem fileName_plain (s : Scope) : '/' ∉ s.fileName.toList ∧ 2 < s.fileName.toList.length := by
  cases s with
  | global => decide
  | flow id =>
    have hname : (Scope.flow id).fileName.toList =
        ("flow-".toList ++ id.text.toList) ++ ".json".toList := by
      simp [fileName, String.toList_append]
    have hid : '/' ∉ id.text.toList := by
      intro hc
      rw [Identifier.toList_text] at hc
      have hdigit : Text.isDigitOf 16 '/' = true :=
        Text.isDigitOf_of_mem_padZeros (by omega) (fun c hc =>
          Text.isDigitOf_of_mem_toDigits (by omega) (by omega) _ hc) _ hc
      exact absurd hdigit (by decide)
    rw [hname]
    refine ⟨?_, ?_⟩
    · simp only [List.mem_append, not_or]
      exact ⟨⟨by decide, hid⟩, by decide⟩
    · simp

end Scope

/-! ## Paths -/

namespace Disk

/-- The names so far, the last one first, after the steps of a path text. -/
theorem foldl_pushName_cons {name : List Char} (xs : List Char) (hname : '/' ∉ name) :
    ((xs ++ '/' :: name).splitOn '/').foldl pushName [] =
      pushName ((xs.splitOn '/').foldl pushName []) name := by
  rw [List.splitOn_append_cons_self, List.foldl_append, List.splitOn_eq_singleton hname]
  rfl

/-- A name below a directory is one more step of its path, whether the directory is the current one,
ends with a slash or does not. -/
theorem pathOf_join {name : String} (hslash : '/' ∉ name.toList) (hlength : 2 < name.toList.length)
    (base : String) : pathOf (join base name) = pathOf base ++ [name] := by
  have hpush (names : List String) : pushName names name.toList = name :: names := by
    unfold pushName
    rw [if_neg, if_neg, String.ofList_toList]
    · intro h; rw [h] at hlength; simp at hlength
    · rintro (h | h) <;> rw [h] at hlength <;> simp at hlength
  have hhead : ¬name.toList.head? = some '/' := fun h => hslash (List.mem_of_head? h)
  unfold join
  rw [if_neg hhead]
  split
  · rename_i hbase
    unfold pathOf
    rw [hbase, List.splitOn_eq_singleton hslash, List.foldl_cons, List.foldl_nil, hpush]
    rfl
  · rename_i hbase
    split
    · -- the slash at the end opens an empty step, which says nothing
      rename_i hlast
      obtain ⟨xs, hxs⟩ : ∃ xs, base.toList = xs ++ ['/'] :=
        ⟨base.toList.dropLast, (List.dropLast_append_getLast? _ hlast).symm⟩
      unfold pathOf
      rw [String.toList_append, hxs, List.append_assoc, List.singleton_append,
        foldl_pushName_cons xs hslash, foldl_pushName_cons xs (by simp), hpush,
        List.reverse_cons]
      rfl
    · unfold pathOf
      rw [String.toList_append, String.toList_append, List.append_assoc]
      change (List.foldl pushName [] ((base.toList ++ '/' :: name.toList).splitOn '/')).reverse = _
      rw [foldl_pushName_cons base.toList hslash, hpush, List.reverse_cons]

/-! ## What a directory lists -/

theorem mem_list {d : Disk} {path : DiskPath} {name : String} {entry : DiskEntry} :
    (name, entry) ∈ d.list path ↔ (path ++ [name], entry) ∈ d.entries := by
  unfold list
  rw [List.mem_mergeSort, List.mem_filterMap]
  constructor
  · rintro ⟨⟨p, x⟩, he, h⟩
    split at h
    · rename_i last hlast
      split at h
      · rename_i hpath
        cases h
        rw [← hpath, List.dropLast_append_getLast? _ hlast]
        exact he
      · cases h
    · cases h
  · intro he
    exact ⟨_, he, by simp⟩

/-- Writing below a directory changes what it lists under that name, and nothing else. -/
theorem mem_list_put {d : Disk} {path : DiskPath} {name n : String} {entry x : DiskEntry} :
    (n, x) ∈ (d.put (path ++ [name]) entry).list path ↔
      n = name ∧ x = entry ∨ n ≠ name ∧ (n, x) ∈ d.list path := by
  rw [mem_list, mem_list]
  unfold put
  rw [List.mem_cons, List.mem_filter]
  by_cases h : n = name <;> simp [h]

theorem write_eq_ok {d d' : Disk} {path : DiskPath} {content : ByteArray}
    (h : d.write path content = .ok d') : d' = d.put path (.file content) := by
  unfold write at h
  split at h
  · cases h
  · split at h
    · cases h
    · cases h; rfl

/-- Making the way to a directory changes nothing that stands directly in it. -/
theorem mem_list_makeWay {path : DiskPath} {name : String} {entry : DiskEntry} (rest : DiskPath) :
    ∀ {d d' : Disk} {done : DiskPath}, done ++ rest = path → d.makeWay done rest = .ok d' →
      ((name, entry) ∈ d'.list path ↔ (name, entry) ∈ d.list path) := by
  induction rest with
  | nil =>
    intro d d' done _ h
    cases h
    rfl
  | cons step rest ih =>
    intro d d' done hpath h
    have hnext : (done ++ [step]) ++ rest = path := by simpa using hpath
    unfold makeWay at h
    dsimp only at h
    split at h
    · exact ih hnext h
    · cases h
    · rw [ih hnext h, mem_list, mem_list]
      -- the new directory is on the way to the path, so it is shorter than anything below it
      have hne : path ++ [name] ≠ done ++ [step] := by
        intro heq
        have hlength := congrArg List.length heq
        rw [← hpath] at hlength
        simp at hlength
      unfold put
      rw [List.mem_cons, List.mem_filter]
      simp [hne]

theorem mem_list_makeDirectory {d d' : Disk} {path : DiskPath} {name : String} {entry : DiskEntry}
    (h : d.makeDirectory path = .ok d') :
    (name, entry) ∈ d'.list path ↔ (name, entry) ∈ d.list path :=
  mem_list_makeWay path rfl h

end Disk

end Wireflow
