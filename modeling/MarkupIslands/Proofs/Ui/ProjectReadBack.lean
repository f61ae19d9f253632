import MarkupIslands.Proofs.Ui.ProjectReading
import MarkupIslands.Proofs.Ui.ReadBack

/-!
# Reading projects back

Each record reads back exactly if what it holds reads back and no member that it carries along has
the name of one of its fields. A record that has been read meets this, and adding imports or
packages that meet it keeps it.
-/

namespace MarkupIslands.Ui

theorem forall_mem_values_merge {α : Type} {p : α → Prop} {m n : KeyMap α}
    (hm : ∀ a ∈ m.values, p a) (hn : ∀ a ∈ n.values, p a) : ∀ a ∈ (m.merge n).values, p a := by
  intro a hmem
  obtain ⟨key, hkey⟩ := (KeyMap.mem_values_iff _ a).mp hmem
  rw [KeyMap.get?_merge, Option.or_eq_some_iff] at hkey
  rcases hkey with hkey | ⟨-, hkey⟩
  · exact hn a ((KeyMap.mem_values_iff n a).mpr ⟨key, hkey⟩)
  · exact hm a ((KeyMap.mem_values_iff m a).mpr ⟨key, hkey⟩)

/-- No member that was carried along has the name of a field. -/
theorem get?_eq_none_of_others {known : List String} {members : List (String × Json)}
    {extra : KeyMap Json} (h : Decode.others known members = extra) :
    ∀ key ∈ known, extra.get? key = none := by
  intro key hkey
  rw [← h, get?_others, if_pos hkey]

/-! ## Imports -/

namespace ImportDetails

theorem ofJson_toJson_iff {details : ImportDetails} :
    ofJson details.toJson = .ok details ↔ ∀ key ∈ fieldNames, details.extra.get? key = none := by
  rw [ofJson_eq_ok_iff, toJson_eq, ← true_and (∀ key ∈ fieldNames, _)]
  refine reads_record_iff details.get?_fields_of_not_mem fun members hlookup ↦ iff_true_intro ?_
  have halias : members.lookup "importAlias" = details.importAlias.map .text := by
    rw [hlookup _ (by decide)]; simp [fields]
  have hnamed : members.lookup "namedImport" = details.namedImport.map .boolean := by
    rw [hlookup _ (by decide)]; simp [fields]
  exact ⟨(Decode.optional_of_lookup halias (by simp)).mpr fun _ _ ↦ rfl,
    (Decode.optional_of_lookup hnamed (by simp)).mpr fun _ _ ↦ rfl⟩

theorem ofJson_toJson_of_read {json : Json} {details : ImportDetails}
    (h : ofJson json = .ok details) : ofJson details.toJson = .ok details := by
  obtain ⟨members, -, -, hextra⟩ := ofJson_eq_ok_iff.mp h
  exact ofJson_toJson_iff.mpr (get?_eq_none_of_others hextra)

end ImportDetails

namespace ImportDefinition

theorem ofJson_toJson_iff {definition : ImportDefinition} :
    ofJson definition.toJson = .ok definition ↔
      ∀ details ∈ definition.details, ImportDetails.ofJson details.toJson = .ok details := by
  have hlookup (key : String) : (KeyMap.ofList definition.fields).entries.lookup key =
    (KeyMap.ofList definition.fields).get? key := rfl
  have hsource : (KeyMap.ofList definition.fields).entries.lookup "type" =
      some (.text definition.source.name) := by
    rw [hlookup]; simp [fields]
  have hpath : (KeyMap.ofList definition.fields).entries.lookup "path" =
      some (.text definition.path) := by
    rw [hlookup]; simp [fields]
  have hversion : (KeyMap.ofList definition.fields).entries.lookup "version" =
      definition.version.map .text := by
    rw [hlookup]; simp [fields]
  have hdetails : (KeyMap.ofList definition.fields).entries.lookup "meta" =
      definition.details.map ImportDetails.toJson := by
    rw [hlookup]; simp [fields]
  have hvariant : Decode.variant ImportSource.names (.text definition.source.name) =
      .ok definition.source := by
    cases definition.source <;> rfl
  rw [toJson_eq, Json.ofMembers, ofJson, ofMembers_eq_ok_iff,
    Decode.optional_of_lookup hdetails (by simp [ImportDetails.toJson, Json.ofMembers]),
    Decode.field_of_lookup hsource, Decode.field_of_lookup hpath,
    Decode.optional_of_lookup hversion (by simp)]
  simp [hvariant, Decode.text]

/-- The details of an import have been read, in whichever form the import is written. -/
theorem exists_details_of_read {json : Json} {definition : ImportDefinition}
    (h : ofJson json = .ok definition) :
    ∀ details ∈ definition.details, ∃ inner, ImportDetails.ofJson inner = .ok details := by
  intro details hmem
  cases json with
  | object members =>
    obtain ⟨inner, -, hinner⟩ :=
      Decode.exists_of_optional (ofMembers_eq_ok_iff.mp h).1 details hmem
    exact ⟨inner, hinner⟩
  | array items =>
    obtain ⟨found, hfound, heq⟩ : ∃ found,
        Decode.item (Decode.orNull ImportDetails.ofJson) items 3 = .ok found ∧
          found.join = definition.details := by
      simp only [ofJson, ofItems, bind_eq_ok_iff] at h
      obtain ⟨source, -, h⟩ := h
      cases source with
      | none => cases h
      | some source =>
        obtain ⟨path, -, h⟩ := bind_eq_ok_iff.mp h
        cases path with
        | none => cases h
        | some path =>
          simp only [bind_eq_ok_iff, pure_eq_ok_iff] at h
          obtain ⟨_, -, found, hfound, _, -, rfl⟩ := h
          exact ⟨found, hfound, rfl⟩
    rw [← heq, Option.mem_def, Option.join_eq_some_iff] at hmem
    exact Decode.exists_of_item_orNull hfound details hmem
  | _ => simp [ofJson, Decode.wrongType] at h

theorem ofJson_toJson_of_read {json : Json} {definition : ImportDefinition}
    (h : ofJson json = .ok definition) : ofJson definition.toJson = .ok definition := by
  rw [ofJson_toJson_iff]
  intro details hmem
  obtain ⟨inner, hinner⟩ := exists_details_of_read h details hmem
  exact ImportDetails.ofJson_toJson_of_read hinner

end ImportDefinition

namespace Imports

theorem ofJson_toJson_iff {imports : Imports} :
    ofJson imports.toJson = .ok imports ↔
      ∀ definition ∈ imports.values, ImportDefinition.ofJson definition.toJson = .ok definition :=
  Decode.map_ofKeyMap_map_eq_ok_iff

theorem ofJson_toJson_of_read {json : Json} {imports : Imports} (h : ofJson json = .ok imports) :
    ofJson imports.toJson = .ok imports := by
  rw [ofJson_toJson_iff]
  intro definition hmem
  obtain ⟨inner, hinner⟩ := Decode.exists_of_map h definition hmem
  exact ImportDefinition.ofJson_toJson_of_read hinner

end Imports

/-! ## Components and projects -/

namespace Component

theorem ofJson_toJson_iff {component : Component} :
    ofJson component.toJson = .ok component ↔
      ((∀ imports ∈ component.importDefinitions, Imports.ofJson imports.toJson = .ok imports) ∧
        component.node.ReadsBack) ∧ ∀ key ∈ fieldNames, component.extra.get? key = none := by
  rw [ofJson_eq_ok_iff, toJson_eq]
  refine reads_record_iff component.get?_fields_of_not_mem fun members hlookup ↦ ?_
  have hname : members.lookup "name" = some (.text component.name) := by
    rw [hlookup _ (by decide)]; simp [fields]
  have hnode : members.lookup "node" = some component.node.toJson := by
    rw [hlookup _ (by decide)]; simp [fields]
  have himports : members.lookup "importDefinitions" =
      component.importDefinitions.map Imports.toJson := by
    rw [hlookup _ (by decide)]; simp [fields]
  rw [Decode.optional_of_lookup himports (by simp [Imports.toJson, Json.ofKeyMap]),
    Decode.field_of_lookup hname, hnode]
  simp [Decode.text, Node.ReadsBack]

theorem ofJson_toJson_of_read {json : Json} {component : Component}
    (h : ofJson json = .ok component) : ofJson component.toJson = .ok component := by
  obtain ⟨members, rfl, ⟨himports, -, hnode⟩, hextra⟩ := ofJson_eq_ok_iff.mp h
  refine ofJson_toJson_iff.mpr ⟨⟨fun imports hmem ↦ ?_, ?_⟩, get?_eq_none_of_others hextra⟩
  · obtain ⟨_, -, hread⟩ := Decode.exists_of_optional himports imports hmem
    exact Imports.ofJson_toJson_of_read hread
  · obtain ⟨inner, -, hread⟩ := Option.map_eq_some_iff.mp hnode
    exact hread ▸ readsBack_nodeOfJson inner

/-- Merged imports can be read back if both parts can. -/
theorem ofJson_toJson_mergeImports {component : Component} {definitions : Imports}
    (hcomponent : ofJson component.toJson = .ok component)
    (hdefinitions : Imports.ofJson definitions.toJson = .ok definitions) :
    ofJson (component.mergeImports definitions).toJson =
      .ok (component.mergeImports definitions) := by
  unfold mergeImports
  split
  · exact hcomponent
  · obtain ⟨⟨himports, hnode⟩, hextra⟩ := ofJson_toJson_iff.mp hcomponent
    refine ofJson_toJson_iff.mpr ⟨⟨?_, hnode⟩, hextra⟩
    rintro _ ⟨⟩
    rw [Imports.ofJson_toJson_iff] at hdefinitions ⊢
    refine forall_mem_values_merge ?_ hdefinitions
    cases h : component.importDefinitions with
    | none => simp [imports, h, KeyMap.values]
    | some old => simpa [imports, h] using Imports.ofJson_toJson_iff.mp (himports old h)

end Component

namespace Project

theorem ofJson_toJson_iff {project : Project} :
    ofJson project.toJson = .ok project ↔
      (∀ component ∈ project.allComponents,
        Component.ofJson component.toJson = .ok component) ∧
      ∀ key ∈ fieldNames, project.extra.get? key = none := by
  rw [ofJson_eq_ok_iff, toJson_eq]
  refine reads_record_iff project.get?_fields_of_not_mem fun members hlookup ↦ ?_
  have hname : members.lookup "name" = project.name.map .text := by
    rw [hlookup _ (by decide)]; simp [fields]
  have hroot : members.lookup "root" = some project.root.toJson := by
    rw [hlookup _ (by decide)]; simp [fields]
  have hcomponents : members.lookup "components" = project.components.map componentsToJson := by
    rw [hlookup _ (by decide)]; simp [fields]
  have hnames : Decode.optional Decode.text members "name" = .ok project.name :=
    (Decode.optional_of_lookup hname (by simp)).mpr fun _ _ ↦ rfl
  rw [Decode.optional_of_lookup hcomponents (by simp [componentsToJson, Json.ofKeyMap]),
    Decode.field_of_lookup hroot]
  simp only [hnames, true_and, allComponents, named, List.forall_mem_cons, componentsToJson,
    Decode.map_ofKeyMap_map_eq_ok_iff]
  cases project.components <;> simp [and_comm, KeyMap.values]

theorem ofJson_toJson_of_read {json : Json} {project : Project}
    (h : ofJson json = .ok project) : ofJson project.toJson = .ok project := by
  obtain ⟨members, rfl, ⟨hcomponents, -, hroot⟩, hextra⟩ := ofJson_eq_ok_iff.mp h
  refine ofJson_toJson_iff.mpr ⟨?_, get?_eq_none_of_others hextra⟩
  rw [allComponents, List.forall_mem_cons]
  constructor
  · obtain ⟨_, -, hread⟩ := Decode.exists_of_field hroot project.root rfl
    exact Component.ofJson_toJson_of_read hread
  · intro component hmem
    cases hnamed : project.components with
    | none => simp [named, hnamed, KeyMap.values] at hmem
    | some components =>
      rw [named, hnamed, Option.getD_some] at hmem
      obtain ⟨_, -, hread⟩ := Decode.exists_of_optional hcomponents components hnamed
      obtain ⟨inner, hinner⟩ := Decode.exists_of_map hread component hmem
      exact Component.ofJson_toJson_of_read hinner

end Project

/-! ## Bundles -/

namespace Strategy

theorem ofJson_toJson_iff {strategy : Strategy} :
    ofJson strategy.toJson = .ok strategy ↔
      ∀ key ∈ fieldNames, strategy.extra.get? key = none := by
  rw [ofJson_eq_ok_iff, toJson_eq, ← true_and (∀ key ∈ fieldNames, _)]
  refine reads_record_iff strategy.get?_fields_of_not_mem fun members hlookup ↦ iff_true_intro ?_
  have hid : members.lookup "id" = some (.text strategy.id) := by
    rw [hlookup _ (by decide)]; simp [fields]
  exact (Decode.field_of_lookup hid).mpr rfl

theorem ofJson_toJson_of_read {json : Json} {strategy : Strategy}
    (h : ofJson json = .ok strategy) : ofJson strategy.toJson = .ok strategy := by
  obtain ⟨members, -, -, hextra⟩ := ofJson_eq_ok_iff.mp h
  exact ofJson_toJson_iff.mpr (get?_eq_none_of_others hextra)

end Strategy

namespace Packages

theorem ofJson_toJson (packages : Packages) : ofJson packages.toJson = .ok packages :=
  Decode.map_ofKeyMap_map_eq_ok_iff.mpr fun _ _ ↦ rfl

end Packages

namespace Bundle

theorem ofJson_toJson_iff {bundle : Bundle} :
    ofJson bundle.toJson = .ok bundle ↔
      (Strategy.ofJson bundle.strategy.toJson = .ok bundle.strategy ∧
        Project.ofJson bundle.project.toJson = .ok bundle.project) ∧
      ∀ key ∈ fieldNames, bundle.extra.get? key = none := by
  rw [ofJson_eq_ok_iff, toJson_eq]
  refine reads_record_iff bundle.get?_fields_of_not_mem fun members hlookup ↦ ?_
  have hstrategy : members.lookup "strategy" = some bundle.strategy.toJson := by
    rw [hlookup _ (by decide)]; simp [fields]
  have hproject : members.lookup "uidl" = some bundle.project.toJson := by
    rw [hlookup _ (by decide)]; simp [fields]
  have hdependencies : members.lookup "dependencies" =
      bundle.dependencies.map Packages.toJson := by
    rw [hlookup _ (by decide)]; simp [fields]
  rw [Decode.optional_of_lookup hdependencies (by simp [Packages.toJson, Json.ofKeyMap]),
    Decode.field_of_lookup hstrategy, Decode.field_of_lookup hproject]
  simp [Packages.ofJson_toJson]

/-- A bundle that has been read reads back. -/
theorem ofJson_toJson_of_read {json : Json} {bundle : Bundle}
    (h : ofJson json = .ok bundle) : ofJson bundle.toJson = .ok bundle := by
  obtain ⟨members, rfl, ⟨-, hstrategy, hproject⟩, hextra⟩ := ofJson_eq_ok_iff.mp h
  obtain ⟨_, -, hstrategy⟩ := Decode.exists_of_field hstrategy bundle.strategy rfl
  obtain ⟨_, -, hproject⟩ := Decode.exists_of_field hproject bundle.project rfl
  exact ofJson_toJson_iff.mpr
    ⟨⟨Strategy.ofJson_toJson_of_read hstrategy, Project.ofJson_toJson_of_read hproject⟩,
      get?_eq_none_of_others hextra⟩

theorem ofJson_toJson_of_mem {bundle : Bundle} (h : ofJson bundle.toJson = .ok bundle) :
    ∀ component ∈ bundle.project.allComponents,
      Component.ofJson component.toJson = .ok component :=
  (Project.ofJson_toJson_iff.mp (ofJson_toJson_iff.mp h).1.2).1

theorem readsBack_node_of_mem {bundle : Bundle} (h : ofJson bundle.toJson = .ok bundle) :
    ∀ component ∈ bundle.project.allComponents, component.node.ReadsBack := by
  intro component hmem
  exact (Component.ofJson_toJson_iff.mp (ofJson_toJson_of_mem h component hmem)).1.2

theorem ofJson_toJson_addPackages {bundle : Bundle} (h : ofJson bundle.toJson = .ok bundle)
    (packages : Packages) :
    ofJson (bundle.addPackages packages).toJson = .ok (bundle.addPackages packages) := by
  rw [ofJson_toJson_iff] at h ⊢
  unfold addPackages
  split <;> exact h

end Bundle

end MarkupIslands.Ui
