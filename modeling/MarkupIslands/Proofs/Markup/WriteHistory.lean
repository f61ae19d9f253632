import Mathlib.Data.Finset.Card
import MarkupIslands.Markup.Properties
import MarkupIslands.Proofs.Json.Lookup

/-!
# Properties and the writes they have seen

A property map is what a sequence of writes makes of it. Each write is one step: the names keep the
order in which they were first written, and a name looks up what was last written to it. By
induction, so does the map after any number of writes.
-/

namespace MarkupIslands.Markup

/-- Whether a value is what a sequence of writes leaves under a name. -/
def IsLastWrite (writes : List (String × PropertyValue)) (name : String) (value : PropertyValue) :
    Prop :=
  ∃ before behind, writes = before ++ (name, value) :: behind ∧ name ∉ behind.map Prod.fst

/-- Read from behind, a list of writes answers with the last one under a name. -/
theorem lookup_reverse_eq_some_iff (writes : List (String × PropertyValue)) (name : String)
    (value : PropertyValue) :
    writes.reverse.lookup name = some value ↔ IsLastWrite writes name value := by
  rw [List.lookup_eq_some_iff]
  constructor
  · rintro ⟨behind, before, hwrites, hbehind⟩
    refine ⟨before.reverse, behind.reverse, ?_, ?_⟩
    · rw [← List.reverse_reverse writes, hwrites]
      simp
    · intro hmem
      obtain ⟨write, hwrite, hname⟩ := List.mem_map.mp hmem
      have hne := hbehind write (List.mem_reverse.mp hwrite)
      exact bne_iff_ne.mp hne hname.symm
  · rintro ⟨before, behind, rfl, hbehind⟩
    refine ⟨behind.reverse, before.reverse, by simp, ?_⟩
    intro write hwrite
    apply bne_iff_ne.mpr
    rintro rfl
    exact hbehind (List.mem_map_of_mem (List.mem_reverse.mp hwrite))

theorem lookup_reverse_eq_none {writes : List (String × PropertyValue)} {name : String}
    (h : name ∉ writes.map Prod.fst) : writes.reverse.lookup name = none := by
  rw [Option.eq_none_iff_forall_ne_some]
  intro value hvalue
  exact h (List.mem_map_of_mem (List.mem_reverse.mp (mem_of_lookup hvalue)))

/-- In a list without repetition, positions ascend. -/
theorem pairwise_idxOf_of_nodup {names : List String} (h : names.Nodup) :
    names.Pairwise fun name later ↦ names.idxOf name < names.idxOf later := by
  rw [List.pairwise_iff_getElem]
  intro i j hi hj hij
  rw [h.idxOf_getElem, h.idxOf_getElem]
  exact hij

namespace Properties

def insertAll (properties : Properties) (writes : List (String × PropertyValue)) : Properties :=
  writes.foldl (fun properties write ↦ properties.insert write.1 write.2) properties

theorem insertAll_append (properties : Properties) (writes more : List (String × PropertyValue)) :
    properties.insertAll (writes ++ more) = (properties.insertAll writes).insertAll more :=
  List.foldl_append

/-! ## Entries and lookups -/

/-- The entries of a map are what its names look up. -/
theorem mem_entries_iff (properties : Properties) (name : String) (value : PropertyValue) :
    (name, value) ∈ properties.entries ↔ properties.get? name = some value := by
  refine ⟨fun hmem ↦ ?_, mem_of_lookup⟩
  obtain ⟨before, behind, heq⟩ := List.append_of_mem hmem
  have hnodup := properties.nodup
  rw [heq, List.map_append, List.nodup_append] at hnodup
  rw [get?, heq, List.lookup_eq_some_iff]
  refine ⟨before, behind, rfl, fun entry hentry ↦ bne_iff_ne.mpr ?_⟩
  exact (hnodup.2.2 _ (List.mem_map_of_mem hentry) _ List.mem_cons_self).symm

theorem contains_iff_mem_names (properties : Properties) (name : String) :
    properties.contains name ↔ name ∈ properties.names := by
  rw [contains, Option.isSome_iff_exists, names, List.mem_map]
  constructor
  · rintro ⟨value, hvalue⟩
    exact ⟨(name, value), (mem_entries_iff properties name value).mpr hvalue, rfl⟩
  · rintro ⟨⟨other, value⟩, hmem, rfl⟩
    exact ⟨value, (mem_entries_iff properties other value).mp hmem⟩

/-! ## Steps and runs -/

/-- What a map shows of its past: it began as `start` and has seen the given writes. -/
structure Reflects (properties start : Properties) (writes : List (String × PropertyValue)) :
    Prop where
  mem_names_iff : ∀ name, name ∈ properties.names ↔ name ∈ start.names ++ writes.map Prod.fst
  names_ascend : properties.names.Pairwise fun name later ↦
    (start.names ++ writes.map Prod.fst).idxOf name <
      (start.names ++ writes.map Prod.fst).idxOf later
  get?_eq : ∀ name, properties.get? name = (writes.reverse.lookup name).or (start.get? name)

theorem reflects_self (properties : Properties) : properties.Reflects properties [] where
  mem_names_iff := by simp
  names_ascend := by
    rw [List.map_nil, List.append_nil]
    exact pairwise_idxOf_of_nodup properties.nodup
  get?_eq _ := rfl

variable {properties start : Properties} {writes : List (String × PropertyValue)}

/-- One write keeps the order of first writes and decides what its name looks up. -/
theorem Reflects.insert (h : properties.Reflects start writes) (name : String)
    (value : PropertyValue) :
    (properties.insert name value).Reflects start (writes ++ [(name, value)]) := by
  have hhistory : start.names ++ (writes ++ [(name, value)]).map Prod.fst =
      (start.names ++ writes.map Prod.fst) ++ [name] := by simp
  -- the names seen so far stay where they were
  have hold : properties.names.Pairwise fun first later ↦
      ((start.names ++ writes.map Prod.fst) ++ [name]).idxOf first <
        ((start.names ++ writes.map Prod.fst) ++ [name]).idxOf later := by
    apply h.names_ascend.imp_of_mem
    intro first later hfirst hlater hlt
    rw [List.idxOf_append_of_mem ((h.mem_names_iff first).mp hfirst),
      List.idxOf_append_of_mem ((h.mem_names_iff later).mp hlater)]
    exact hlt
  refine ⟨fun other ↦ ?_, ?_, fun other ↦ ?_⟩
  · rw [hhistory, List.mem_append, ← h.mem_names_iff, names_insert, List.mem_singleton]
    split
    · rename_i hname
      simp only [iff_self_or]
      rintro rfl
      exact hname
    · rw [List.mem_append, List.mem_singleton]
  · rw [hhistory, names_insert]
    split
    · exact hold
    · rename_i hname
      rw [h.mem_names_iff] at hname
      refine List.pairwise_append.mpr ⟨hold, List.pairwise_singleton _ _, ?_⟩
      intro first hfirst later hlater
      obtain rfl := List.mem_singleton.mp hlater
      have hmem := (h.mem_names_iff first).mp hfirst
      rw [List.idxOf_append_of_mem hmem, List.idxOf_append_of_notMem hname]
      exact Nat.lt_add_right _ (List.idxOf_lt_length_of_mem hmem)
  · rw [get?_insert, List.reverse_concat, lookup_entry_cons, h.get?_eq]
    split <;> rfl

/-- A sequence of writes is added to those that a map already shows. -/
theorem Reflects.insertAll (h : properties.Reflects start writes)
    (more : List (String × PropertyValue)) :
    (properties.insertAll more).Reflects start (writes ++ more) := by
  induction more generalizing properties writes with
  | nil =>
    rw [List.append_nil]
    exact h
  | cons write more ih =>
    have hnext := ih (h.insert write.1 write.2)
    rw [List.append_assoc] at hnext
    exact hnext

/-- After a sequence of writes, a map shows exactly these writes. -/
theorem reflects_insertAll (start : Properties) (writes : List (String × PropertyValue)) :
    (start.insertAll writes).Reflects start writes :=
  (reflects_self start).insertAll writes

/-! ## Maps made of writes -/

theorem reflects_ofList (writes : List (String × PropertyValue)) :
    (ofList writes).Reflects empty writes :=
  reflects_insertAll empty writes

theorem mem_names_ofList_iff (writes : List (String × PropertyValue)) (name : String) :
    name ∈ (ofList writes).names ↔ name ∈ writes.map Prod.fst :=
  (reflects_ofList writes).mem_names_iff name

/-- The names stand in the order of their first writes. -/
theorem names_ofList_ascend (writes : List (String × PropertyValue)) :
    (ofList writes).names.Pairwise fun name later ↦
      (writes.map Prod.fst).idxOf name < (writes.map Prod.fst).idxOf later :=
  (reflects_ofList writes).names_ascend

/-- The value of a name is that of its last write. -/
theorem get?_ofList_eq_some_iff (writes : List (String × PropertyValue)) (name : String)
    (value : PropertyValue) :
    (ofList writes).get? name = some value ↔ IsLastWrite writes name value := by
  have hempty : empty.get? name = none := rfl
  rw [(reflects_ofList writes).get?_eq, hempty, Option.or_none, lookup_reverse_eq_some_iff]

/-- Each name counts once, however often it is written. -/
theorem size_ofList (writes : List (String × PropertyValue)) :
    (ofList writes).size = (writes.map Prod.fst).toFinset.card := by
  have hnames : (ofList writes).names.toFinset = (writes.map Prod.fst).toFinset := by
    ext name
    rw [List.mem_toFinset, List.mem_toFinset, mem_names_ofList_iff]
  calc
    (ofList writes).size = (ofList writes).names.length := (List.length_map _).symm
    _ = (ofList writes).names.toFinset.card :=
      (List.toFinset_card_of_nodup (ofList writes).nodup).symm
    _ = (writes.map Prod.fst).toFinset.card := by rw [hnames]

end Properties

end MarkupIslands.Markup
