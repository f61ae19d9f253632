/-!
# Maps with text keys

A finite map from texts to values, kept as its entries in strictly ascending order of their keys
(by code point). The order makes the representation unique, so two maps are equal exactly when
their entries are, and it is the order in which the entries are visited everywhere.
-/

namespace MarkupIslands

/-- Writes one entry into a list of entries in ascending order. -/
def putEntry {ν : Type u} (key : String) (value : ν) : List (String × ν) → List (String × ν)
  | [] => [(key, value)]
  | entry :: rest =>
    if key < entry.1 then (key, value) :: entry :: rest
    else if key = entry.1 then (key, value) :: rest
    else entry :: putEntry key value rest

/-- A write brings no entry but its own. -/
theorem mem_putEntry {ν : Type u} {key : String} {value : ν} {entries : List (String × ν)}
    {entry : String × ν} (h : entry ∈ putEntry key value entries) :
    entry = (key, value) ∨ entry ∈ entries := by
  induction entries with
  | nil => simpa [putEntry] using h
  | cons first rest ih =>
    unfold putEntry at h
    split at h
    · simpa using h
    · split at h
      · rcases List.mem_cons.mp h with h | h
        · exact .inl h
        · exact .inr (List.mem_cons_of_mem _ h)
      · rcases List.mem_cons.mp h with h | h
        · exact .inr (h ▸ List.mem_cons_self)
        · exact (ih h).imp_right (List.mem_cons_of_mem _)

/-- The keys of the entries ascend strictly. -/
def Ascending {ν : Type u} (entries : List (String × ν)) : Prop :=
  entries.Pairwise fun a b ↦ a.1 < b.1

theorem ascending_putEntry {ν : Type u} (key : String) (value : ν) {entries : List (String × ν)}
    (h : Ascending entries) : Ascending (putEntry key value entries) := by
  induction entries with
  | nil => simp [putEntry, Ascending]
  | cons first rest ih =>
    obtain ⟨hfirst, hrest⟩ := List.pairwise_cons.mp h
    unfold putEntry
    split
    · rename_i hlt
      refine List.pairwise_cons.mpr ⟨fun entry hentry ↦ ?_, h⟩
      rcases List.mem_cons.mp hentry with rfl | hentry
      · exact hlt
      · exact String.lt_trans hlt (hfirst entry hentry)
    · split
      · rename_i heq
        refine List.pairwise_cons.mpr ⟨fun entry hentry ↦ ?_, hrest⟩
        exact heq ▸ hfirst entry hentry
      · rename_i hlt hne
        refine List.pairwise_cons.mpr ⟨fun entry hentry ↦ ?_, ih hrest⟩
        rcases mem_putEntry hentry with rfl | hentry
        · grind
        · exact hfirst entry hentry

/-- A finite map from texts to values. -/
structure KeyMap (ν : Type u) where
  entries : List (String × ν)
  ascending : Ascending entries

namespace KeyMap

variable {ν : Type u} {μ : Type v}

@[ext]
theorem ext {m n : KeyMap ν} (h : m.entries = n.entries) : m = n := by
  cases m; cases n; cases h; rfl

instance [DecidableEq ν] : DecidableEq (KeyMap ν) := fun m n ↦
  decidable_of_iff (m.entries = n.entries) ⟨ext, fun h ↦ h ▸ rfl⟩

def empty : KeyMap ν := ⟨[], .nil⟩

instance : Inhabited (KeyMap ν) := ⟨empty⟩

def isEmpty (m : KeyMap ν) : Bool := m.entries.isEmpty

def keys (m : KeyMap ν) : List String := m.entries.map Prod.fst

def values (m : KeyMap ν) : List ν := m.entries.map Prod.snd

def get? (m : KeyMap ν) (key : String) : Option ν := m.entries.lookup key

def contains (m : KeyMap ν) (key : String) : Bool := (m.get? key).isSome

/-- Writes one entry; the value of a key that is already there is replaced. -/
def insert (m : KeyMap ν) (key : String) (value : ν) : KeyMap ν :=
  ⟨putEntry key value m.entries, ascending_putEntry key value m.ascending⟩

def erase (m : KeyMap ν) (key : String) : KeyMap ν :=
  ⟨m.entries.filter (·.1 != key), m.ascending.filter _⟩

def singleton (key : String) (value : ν) : KeyMap ν := ⟨[(key, value)], by simp [Ascending]⟩

def map (m : KeyMap ν) (change : ν → μ) : KeyMap μ where
  entries := m.entries.map fun entry ↦ (entry.1, change entry.2)
  ascending := by
    rw [Ascending, List.pairwise_map]
    exact m.ascending

/-- Writes all entries of `n` into `m`; on a common key the value of `n` wins. -/
def merge (m n : KeyMap ν) : KeyMap ν :=
  n.entries.foldl (fun m entry ↦ m.insert entry.1 entry.2) m

/-- The map of the given entries; of two entries with one key the later one counts. -/
def ofList (entries : List (String × ν)) : KeyMap ν :=
  entries.foldl (fun m entry ↦ m.insert entry.1 entry.2) empty

@[simp]
theorem entries_empty : (empty : KeyMap ν).entries = [] := rfl

@[simp]
theorem entries_singleton (key : String) (value : ν) :
    (singleton key value).entries = [(key, value)] := rfl

@[simp]
theorem merge_empty (m : KeyMap ν) : m.merge empty = m := rfl

/-- Reading the key just written gives the written value, any other key its old value. -/
theorem get?_insert (m : KeyMap ν) (key other : String) (value : ν) :
    (m.insert key value).get? other = if other = key then some value else m.get? other := by
  obtain ⟨entries, hentries⟩ := m
  simp only [get?, insert]
  clear hentries
  induction entries with
  | nil =>
    by_cases h : other = key
    · simp [putEntry, h]
    · simp [putEntry, List.lookup_cons, h, beq_eq_false_iff_ne.mpr h]
  | cons entry rest ih =>
    obtain ⟨k, old⟩ := entry
    unfold putEntry
    by_cases h : other = key
    · subst h
      split
      · simp
      · split
        · simp
        · rename_i hne
          simpa [List.lookup_cons, beq_eq_false_iff_ne.mpr hne] using ih
    · split
      · simp [List.lookup_cons, beq_eq_false_iff_ne.mpr h]
      · split
        · rename_i heq
          simp only at heq
          subst heq
          simp [List.lookup_cons, beq_eq_false_iff_ne.mpr h]
        · simp only [List.lookup_cons, ih, h, if_false]

end KeyMap

end MarkupIslands
