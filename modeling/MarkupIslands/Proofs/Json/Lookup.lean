import Mathlib.Data.List.Sort
import MarkupIslands.Json.Basic

/-!
# Maps by their lookups

A map is given by what its keys look up, and each way of building a map says what its keys look up.
An object is the list of the entries of a map, so two objects are equal exactly when every key looks
up the same in both.
-/

namespace MarkupIslands

variable {ν : Type u} {μ : Type v}

theorem lookup_entry_cons (entry : String × ν) (rest : List (String × ν)) (key : String) :
    (entry :: rest).lookup key = if key = entry.1 then some entry.2 else rest.lookup key := by
  by_cases h : key = entry.1
  · rw [if_pos h, h, List.lookup_cons_self]
  · rw [if_neg h, List.lookup_cons, beq_eq_false_iff_ne.mpr h]

theorem mem_of_lookup {entries : List (String × ν)} {key : String} {value : ν}
    (h : entries.lookup key = some value) : (key, value) ∈ entries := by
  obtain ⟨before, after, rfl, -⟩ := List.lookup_eq_some_iff.mp h
  exact List.mem_append_right _ List.mem_cons_self

/-- In ascending order, the entries of a list are what its keys look up. -/
theorem mem_iff_lookup {entries : List (String × ν)} (h : Ascending entries) (key : String)
    (value : ν) : (key, value) ∈ entries ↔ entries.lookup key = some value := by
  refine ⟨fun hmem ↦ ?_, mem_of_lookup⟩
  induction entries with
  | nil => cases hmem
  | cons entry rest ih =>
    obtain ⟨hfirst, hrest⟩ := List.pairwise_cons.mp h
    rw [lookup_entry_cons]
    rcases List.mem_cons.mp hmem with rfl | hmem
    · exact if_pos rfl
    · rw [if_neg (String.ne_of_lt (hfirst _ hmem)).symm, ih hrest hmem]

/-- Leaving entries out by their keys leaves the others to be found. -/
theorem lookup_filter (p : String → Bool) (entries : List (String × ν)) (key : String) :
    (entries.filter fun entry ↦ p entry.1).lookup key =
      if p key then entries.lookup key else none := by
  induction entries with
  | nil => simp
  | cons entry rest ih =>
    rw [List.filter_cons, lookup_entry_cons]
    by_cases hkey : key = entry.1
    · subst hkey
      cases hp : p entry.1 with
      | true => simp [lookup_entry_cons]
      | false => simpa [hp] using ih
    · cases p entry.1 <;> simp [lookup_entry_cons, hkey, ih]

namespace KeyMap

theorem lookup_entries (m : KeyMap ν) (key : String) : m.entries.lookup key = m.get? key := rfl

theorem mem_entries_iff (m : KeyMap ν) (key : String) (value : ν) :
    (key, value) ∈ m.entries ↔ m.get? key = some value :=
  mem_iff_lookup m.ascending key value

theorem mem_values_iff (m : KeyMap ν) (value : ν) :
    value ∈ m.values ↔ ∃ key, m.get? key = some value := by
  simp [values, ← mem_entries_iff]

/-- A map is given by what its keys look up. -/
theorem ext_get? {m n : KeyMap ν} (h : ∀ key, m.get? key = n.get? key) : m = n := by
  have : Std.Irrefl fun a b : String × ν ↦ a.1 < b.1 := ⟨fun a ↦ String.lt_irrefl a.1⟩
  have : Std.Antisymm fun a b : String × ν ↦ a.1 < b.1 :=
    ⟨fun a b hab hba ↦ absurd (String.lt_trans hab hba) (String.lt_irrefl a.1)⟩
  ext1
  refine m.ascending.eq_of_mem_iff n.ascending fun entry ↦ ?_
  rw [mem_entries_iff, mem_entries_iff, h]

/-! ## What the keys of a map look up -/

@[simp]
theorem get?_empty (key : String) : (empty : KeyMap ν).get? key = none := rfl

@[simp]
theorem get?_map (m : KeyMap ν) (change : ν → μ) (key : String) :
    (m.map change).get? key = (m.get? key).map change := by
  simp only [get?, map]
  induction m.entries with
  | nil => rfl
  | cons entry rest ih =>
    rw [List.map_cons, lookup_entry_cons, lookup_entry_cons, ih]
    split <;> rfl

/-- Writing entries one after the other: what is written last counts. -/
theorem get?_foldl_insert (entries : List (String × ν)) (m : KeyMap ν) (key : String) :
    (entries.foldl (fun m entry ↦ m.insert entry.1 entry.2) m).get? key =
      (entries.reverse.lookup key).or (m.get? key) := by
  induction entries generalizing m with
  | nil => rfl
  | cons entry rest ih =>
    rw [List.foldl_cons, ih, List.reverse_cons, List.lookup_append, Option.or_assoc, get?_insert,
      lookup_entry_cons]
    split <;> rfl

/-- A map of a list answers with the last entry of a key. -/
theorem get?_ofList (entries : List (String × ν)) (key : String) :
    (ofList entries).get? key = entries.reverse.lookup key := by
  rw [ofList, get?_foldl_insert, get?_empty, Option.or_none]

@[simp]
theorem ofList_nil : ofList ([] : List (String × ν)) = empty := rfl

@[simp]
theorem get?_ofList_append (entries more : List (String × ν)) (key : String) :
    (ofList (entries ++ more)).get? key =
      ((ofList more).get? key).or ((ofList entries).get? key) := by
  simp only [get?_ofList, List.reverse_append, List.lookup_append]

@[simp]
theorem get?_ofList_cons (entry : String × ν) (rest : List (String × ν)) (key : String) :
    (ofList (entry :: rest)).get? key =
      ((ofList rest).get? key).or (if key = entry.1 then some entry.2 else none) := by
  rw [get?_ofList, get?_ofList, List.reverse_cons, List.lookup_append, lookup_entry_cons]
  rfl

/-- Entries in ascending order make the map that has them. -/
@[simp]
theorem ofList_entries (m : KeyMap ν) : ofList m.entries = m := by
  apply ext_get?
  intro key
  rw [get?_ofList]
  cases h : m.entries.reverse.lookup key with
  | none =>
    rw [List.lookup_eq_none_iff] at h
    exact (List.lookup_eq_none_iff.mpr fun entry hmem ↦ h entry (List.mem_reverse.mpr hmem)).symm
  | some value =>
    have hmem := List.mem_reverse.mp (mem_of_lookup h)
    exact ((m.mem_entries_iff key value).mp hmem).symm

@[simp]
theorem get?_ofList_filter (p : String → Bool) (entries : List (String × ν)) (key : String) :
    (ofList (entries.filter fun entry ↦ p entry.1)).get? key =
      if p key then (ofList entries).get? key else none := by
  rw [get?_ofList, get?_ofList, ← List.filter_reverse, lookup_filter]

theorem get?_merge (m n : KeyMap ν) (key : String) :
    (m.merge n).get? key = (n.get? key).or (m.get? key) := by
  rw [merge, get?_foldl_insert, ← get?_ofList, ofList_entries]

end KeyMap

end MarkupIslands
