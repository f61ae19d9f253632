import MarkupIslands.Ui.Project

/-!
# Components by their places

The places of a project are counted with the root first and the named components after it, in the
order of their keys. A component can be replaced in its place. What the places do not show is the
frame of a project, and frame and components together make up the whole project.
-/

namespace MarkupIslands

namespace KeyMap

variable {ν : Type u}

theorem ascending_iff_keys (entries : List (String × ν)) :
    Ascending entries ↔ (entries.map Prod.fst).Pairwise (· < ·) := by
  rw [Ascending, List.pairwise_map]

theorem map_fst_modify (entries : List (String × ν)) (place : Nat) (value : ν) :
    (entries.modify place fun entry ↦ (entry.1, value)).map Prod.fst = entries.map Prod.fst := by
  induction entries generalizing place with
  | nil => rw [List.modify_nil]
  | cons entry rest ih => cases place <;> simp [ih]

theorem map_snd_modify (entries : List (String × ν)) (place : Nat) (value : ν) :
    (entries.modify place fun entry ↦ (entry.1, value)).map Prod.snd =
      (entries.map Prod.snd).set place value := by
  induction entries generalizing place with
  | nil => rw [List.modify_nil]; rfl
  | cons entry rest ih => cases place <;> simp [ih]

/-- The map with another value in one place of the order of its keys. -/
def setValue (m : KeyMap ν) (place : Nat) (value : ν) : KeyMap ν where
  entries := m.entries.modify place fun entry ↦ (entry.1, value)
  ascending := by
    rw [ascending_iff_keys, map_fst_modify, ← ascending_iff_keys]
    exact m.ascending

@[simp]
theorem values_empty : (empty : KeyMap ν).values = [] := rfl

@[simp]
theorem keys_setValue (m : KeyMap ν) (place : Nat) (value : ν) :
    (m.setValue place value).keys = m.keys :=
  map_fst_modify m.entries place value

@[simp]
theorem keys_map {μ : Type v} (m : KeyMap ν) (change : ν → μ) : (m.map change).keys = m.keys := by
  simp [keys, map, Function.comp_def]

@[simp]
theorem values_map {μ : Type v} (m : KeyMap ν) (change : ν → μ) :
    (m.map change).values = m.values.map change := by
  simp [values, map, Function.comp_def]

@[simp]
theorem values_setValue (m : KeyMap ν) (place : Nat) (value : ν) :
    (m.setValue place value).values = m.values.set place value :=
  map_snd_modify m.entries place value

/-- A map is given by its keys and its values. -/
theorem eq_of_keys_of_values {m n : KeyMap ν} (hkeys : m.keys = n.keys)
    (hvalues : m.values = n.values) : m = n := by
  have hzip (map : KeyMap ν) : map.entries = map.keys.zip map.values := by
    rw [keys, values, ← List.unzip_fst, ← List.unzip_snd, List.zip_unzip]
  ext1
  rw [hzip m, hzip n, hkeys, hvalues]

end KeyMap

namespace Ui.Project

/-- A project without its components: their keys stay. -/
def frame (project : Project) : Option String × Option (List String) × KeyMap Json :=
  (project.name, project.components.map KeyMap.keys, project.extra)

/-- A project is given by its frame and its components. -/
theorem eq_of_frame_of_allComponents {p q : Project} (hframe : p.frame = q.frame)
    (hcomponents : p.allComponents = q.allComponents) : p = q := by
  obtain ⟨pname, proot, pcomponents, pextra⟩ := p
  obtain ⟨qname, qroot, qcomponents, qextra⟩ := q
  simp only [frame, allComponents, named, Prod.mk.injEq, List.cons.injEq] at hframe hcomponents
  obtain ⟨rfl, hkeys, rfl⟩ := hframe
  obtain ⟨rfl, hvalues⟩ := hcomponents
  have hcomponents : pcomponents = qcomponents := by
    cases pcomponents with
    | none =>
      cases qcomponents with
      | none => rfl
      | some named' => cases hkeys
    | some named =>
      cases qcomponents with
      | none => cases hkeys
      | some named' =>
        rw [KeyMap.eq_of_keys_of_values (Option.some.inj hkeys) hvalues]
  rw [hcomponents]

def mapComponents (project : Project) (change : Component → Component) : Project :=
  { project with
    root := change project.root
    components := project.components.map (·.map change) }

@[simp]
theorem frame_mapComponents (project : Project) (change : Component → Component) :
    (project.mapComponents change).frame = project.frame := by
  simp [frame, mapComponents, Function.comp_def]

@[simp]
theorem allComponents_mapComponents (project : Project) (change : Component → Component) :
    (project.mapComponents change).allComponents = project.allComponents.map change := by
  cases h : project.components <;> simp [allComponents, named, mapComponents, h]

def setComponent (project : Project) (component : Component) : Nat → Project
  | 0 => { project with root := component }
  | place + 1 =>
    { project with components := project.components.map (·.setValue place component) }

@[simp]
theorem frame_setComponent (project : Project) (component : Component) (place : Nat) :
    (project.setComponent component place).frame = project.frame := by
  cases place <;> simp [frame, setComponent, Function.comp_def]

@[simp]
theorem allComponents_setComponent (project : Project) (component : Component) (place : Nat) :
    (project.setComponent component place).allComponents =
      project.allComponents.set place component := by
  cases place with
  | zero => rfl
  | succ place =>
    cases h : project.components <;> simp [allComponents, named, setComponent, h]

end Ui.Project

end MarkupIslands
