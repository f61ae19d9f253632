/-!
# Properties of an element

An insertion-ordered map from names to values. Writing a name that is already there overwrites its
value in place, so the names stay pairwise different and keep the order of their first insertion.
-/

namespace MarkupIslands.Markup

/-- A property is a text or a switch; a switch that is off is not written at all. -/
inductive PropertyValue
  | text (value : String)
  | switch (isOn : Bool)
deriving DecidableEq, Repr

/-- The entry list after one write: in place if the name is there, at the end otherwise. -/
def putProperty (name : String) (value : PropertyValue) :
    List (String × PropertyValue) → List (String × PropertyValue)
  | [] => [(name, value)]
  | entry :: rest =>
    if entry.1 = name then (name, value) :: rest else entry :: putProperty name value rest

/-- A write never moves a name, and appends a new one. -/
theorem map_fst_putProperty (name : String) (value : PropertyValue)
    (entries : List (String × PropertyValue)) :
    (putProperty name value entries).map Prod.fst =
      if name ∈ entries.map Prod.fst then entries.map Prod.fst
      else entries.map Prod.fst ++ [name] := by
  induction entries with
  | nil => rfl
  | cons entry rest ih =>
    by_cases h : entry.1 = name
    · simp [putProperty, h]
    · have h' : name ≠ entry.1 := fun e ↦ h e.symm
      simp only [putProperty, h, if_false, List.map_cons, ih, List.mem_cons, h', false_or]
      split <;> rfl

/-- The property map of an element. -/
structure Properties where
  entries : List (String × PropertyValue)
  nodup : (entries.map Prod.fst).Nodup
deriving DecidableEq

namespace Properties

@[ext]
theorem ext {p q : Properties} (h : p.entries = q.entries) : p = q := by
  cases p; cases q; cases h; rfl

def empty : Properties := ⟨[], .nil⟩

instance : Inhabited Properties := ⟨empty⟩

/-- The names in the order of their first insertion. -/
def names (properties : Properties) : List String := properties.entries.map Prod.fst

def size (properties : Properties) : Nat := properties.entries.length

def isEmpty (properties : Properties) : Bool := properties.entries.isEmpty

def get? (properties : Properties) (name : String) : Option PropertyValue :=
  properties.entries.lookup name

def contains (properties : Properties) (name : String) : Bool := (properties.get? name).isSome

/-- Writes one property, in place if its name is already there. -/
def insert (properties : Properties) (name : String) (value : PropertyValue) : Properties where
  entries := putProperty name value properties.entries
  nodup := by
    rw [map_fst_putProperty]
    have hnodup := properties.nodup
    split
    · exact hnodup
    · rename_i hname
      rw [List.nodup_append]
      refine ⟨hnodup, by simp, ?_⟩
      intro a ha b hb
      simp only [List.mem_singleton] at hb
      subst hb
      exact fun e ↦ hname (e ▸ ha)

def ofList (entries : List (String × PropertyValue)) : Properties :=
  entries.foldl (fun properties entry ↦ properties.insert entry.1 entry.2) empty

@[simp]
theorem entries_empty : empty.entries = [] := rfl

@[simp]
theorem names_empty : empty.names = [] := rfl

theorem names_insert (properties : Properties) (name : String) (value : PropertyValue) :
    (properties.insert name value).names =
      if name ∈ properties.names then properties.names else properties.names ++ [name] :=
  map_fst_putProperty name value properties.entries

/-- Reading the name just written gives the written value, any other name its old value. -/
theorem get?_insert (properties : Properties) (name other : String) (value : PropertyValue) :
    (properties.insert name value).get? other =
      if other = name then some value else properties.get? other := by
  simp only [get?, insert]
  induction properties.entries with
  | nil =>
    by_cases h : other = name
    · simp [putProperty, h]
    · simp [putProperty, List.lookup_cons, h, beq_eq_false_iff_ne.mpr h]
  | cons entry rest ih =>
    obtain ⟨key, old⟩ := entry
    by_cases hkey : key = name
    · subst hkey
      by_cases h : other = key
      · simp [putProperty, h]
      · simp [putProperty, List.lookup_cons, h, beq_eq_false_iff_ne.mpr h]
    · by_cases h : other = key
      · subst h
        simp [putProperty, hkey]
      · simp [putProperty, hkey, List.lookup_cons, beq_eq_false_iff_ne.mpr h, ih]

end Properties

end MarkupIslands.Markup
