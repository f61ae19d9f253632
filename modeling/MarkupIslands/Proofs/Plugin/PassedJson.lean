import MarkupIslands.Proofs.Plugin.JsonBoundary
import MarkupIslands.Proofs.Plugin.PassThrough
import MarkupIslands.Proofs.Ui.ProjectReading
import MarkupIslands.Proofs.Ui.WrittenForm

/-!
# Documents for targets that are not supported

A document whose target is not supported is to come back from both hooks as it was handed over. What
comes back is the document as it is read and written again. All records but two kinds carry the
members along that are no fields of theirs: the nodes that wrap other nodes, and imports. A document
comes back as it was exactly if none of these has such members.
-/

namespace MarkupIslands

open MarkupIslands.Island MarkupIslands.Ui

namespace Ui

/-! ## Forms of documents -/

variable (fits : List String → List (String × Json) → Prop)

/-- An import is written as an object. -/
def ImportForm (json : Json) : Prop :=
  ∃ members, json = .object members ∧ fits ImportDefinition.fieldNames members

/-- The tree and the imports of a component are written as objects. -/
structure ComponentForm (component : Json) : Prop where
  node : ∀ json, component.get? "node" = some json → NodeForm fits json
  imports : ∀ members, component.get? "importDefinitions" = some (.object members) →
    ∀ member ∈ members, ImportForm fits member.2

/-- The components of a document are written in the form that is told by `fits`. -/
def DocumentForm (document : Json) : Prop :=
  ∀ component ∈ componentsIn document, ComponentForm fits component

variable {fits}

/-! ## Imports and components that are written as they were received -/

/-- The details of an import keep members that are no fields. -/
theorem restores_importDetails {json : Json} (hplain : json.IsPlain) :
    Restores ImportDetails.ofJson ImportDetails.toJson json := by
  intro details h
  obtain ⟨members, rfl, ⟨halias, hnamed⟩, hextra⟩ := ImportDetails.ofJson_eq_ok_iff.mp h
  obtain ⟨m, rfl⟩ := hplain.exists_keyMap
  have haliases : details.importAlias.map .text = m.get? "importAlias" :=
    (restores_optional_iff hplain halias).mpr fun json _ ↦ restores_text json
  have hnames : details.namedImport.map .boolean = m.get? "namedImport" :=
    (restores_optional_iff hplain hnamed).mpr fun json _ ↦ restores_boolean json
  rw [ImportDetails.toJson_eq, ← hextra,
    ofMembers_others_eq_object_iff details.get?_fields_of_not_mem]
  simp only [ImportDetails.fieldNames, List.forall_mem_cons, ImportDetails.fields]
  simp [haliases, hnames]

theorem find_importSource {name : String} {source : ImportSource}
    (h : Decode.variant.find ImportSource.names name = .ok source) : source.name = name := by
  unfold Decode.variant.find at h
  split at h
  · rename_i found hfound
    obtain rfl := Except.ok.inj h
    have hmem := mem_of_lookup hfound
    simp only [ImportSource.names, List.mem_cons, Prod.mk.injEq, List.not_mem_nil, or_false] at hmem
    rcases hmem with ⟨rfl, rfl⟩ | ⟨rfl, rfl⟩ | ⟨rfl, rfl⟩ <;> rfl
  · cases h

/-- In a plain value a source can only be written by its name. -/
theorem restores_importSource {json : Json} (hplain : json.IsPlain) :
    Restores (Decode.variant ImportSource.names) (fun source ↦ .text source.name) json := by
  intro source h
  unfold Decode.variant at h
  split at h
  · exact congrArg Json.text (find_importSource h)
  · rename_i name value
    obtain ⟨found, -, h⟩ := bind_eq_ok_iff.mp h
    split at h
    · exact absurd (hplain.member List.mem_cons_self).nullFree id
    · cases h
  · cases h
  · cases h

/-- An import written as an object is written as it was received exactly if it has no members that
are no fields. -/
theorem toJson_importDefinition_eq_iff {members : List (String × Json)}
    {definition : ImportDefinition} (hplain : (Json.object members).IsPlain)
    (h : ImportDefinition.ofJson (.object members) = .ok definition) :
    definition.toJson = .object members ↔ HasOnly ImportDefinition.fieldNames members := by
  obtain ⟨m, rfl⟩ := hplain.exists_keyMap
  obtain ⟨hdetails, hpath, hsource, hversion⟩ := ImportDefinition.ofMembers_eq_ok_iff.mp h
  have hsources : some (Json.text definition.source.name) = m.get? "type" :=
    (restores_field_iff hsource).mpr fun json hjson ↦ restores_importSource (hplain.lookup hjson)
  have hpaths : some (Json.text definition.path) = m.get? "path" :=
    (restores_field_iff hpath).mpr fun json _ ↦ restores_text json
  have hversions : definition.version.map .text = m.get? "version" :=
    (restores_optional_iff hplain hversion).mpr fun json _ ↦ restores_text json
  have hdetails : definition.details.map ImportDetails.toJson = m.get? "meta" :=
    (restores_optional_iff hplain hdetails).mpr
      fun json hjson ↦ restores_importDetails (hplain.lookup hjson)
  rw [ImportDefinition.toJson_eq, ofMembers_eq_object_iff_of_fields
    definition.get?_fields_of_not_mem, HasOnly]
  refine and_iff_right ?_
  simp only [ImportDefinition.fieldNames, List.forall_mem_cons, ImportDefinition.fields]
  simp [hsources, hpaths, hversions, hdetails]

/-- A component is written as it was received exactly if its tree and its imports are. -/
theorem toJson_component_eq_iff {json : Json} {component : Component} (hplain : json.IsPlain)
    (hform : ComponentForm (fun _ _ ↦ True) json) (h : Component.ofJson json = .ok component) :
    component.toJson = json ↔ ComponentForm HasOnly json := by
  obtain ⟨_, rfl, ⟨himports, hname, hnode⟩, hextra⟩ := Component.ofJson_eq_ok_iff.mp h
  obtain ⟨m, rfl⟩ := hplain.exists_keyMap
  obtain ⟨inner, hinner, hread⟩ := Option.map_eq_some_iff.mp hnode
  have hnames : some (Json.text component.name) = m.get? "name" :=
    (restores_field_iff hname).mpr fun json _ ↦ restores_text json
  have hnodes : some component.node.toJson = m.get? "node" ↔
      ∀ json, m.get? "node" = some json → NodeForm HasOnly json := by
    have hplain := hplain.lookup hinner
    have hnodeform := hform.node inner hinner
    rw [m.lookup_entries] at hinner
    simp only [← hread, hinner, Option.some.injEq, forall_eq']
    exact ⟨form_of_toJson_nodeOfJson hnodeform hplain, fun h ↦ toJson_nodeOfJson_of_form h hplain⟩
  have hmaps : component.importDefinitions.map Imports.toJson = m.get? "importDefinitions" ↔
      ∀ members, m.get? "importDefinitions" = some (.object members) →
        ∀ member ∈ members, ImportForm HasOnly member.2 := by
    refine (restores_optional_map_iff hplain himports).trans ?_
    refine forall₂_congr fun members hmembers ↦ forall₂_congr fun member hmem ↦ ?_
    obtain ⟨definition, hread⟩ := (exists_of_optional_map hplain himports hmembers).2 member hmem
    obtain ⟨fields, heq, -⟩ := hform.imports members hmembers member hmem
    have hplain := (hplain.lookup hmembers).member hmem
    rw [restores_iff_of_read hread]
    rw [heq] at hread hplain ⊢
    simp [toJson_importDefinition_eq_iff hplain hread, ImportForm]
  have hparts : ComponentForm HasOnly (.object m.entries) ↔
      (∀ json, m.get? "node" = some json → NodeForm HasOnly json) ∧
        ∀ members, m.get? "importDefinitions" = some (.object members) →
          ∀ member ∈ members, ImportForm HasOnly member.2 :=
    ⟨fun h ↦ ⟨h.node, h.imports⟩, fun h ↦ ⟨h.1, h.2⟩⟩
  rw [hparts, ← hnodes, ← hmaps, Component.toJson_eq, ← hextra,
    ofMembers_others_eq_object_iff component.get?_fields_of_not_mem]
  simp only [Component.fieldNames, List.forall_mem_cons, Component.fields]
  simp [hnames]

/-! ## Documents that are written as they were received -/

/-- A project is written as it was received exactly if its components are. -/
theorem toJson_project_eq_iff {json : Json} {project : Project} (hplain : json.IsPlain)
    (hform : ∀ component ∈ componentsOf json, ComponentForm (fun _ _ ↦ True) component)
    (h : Project.ofJson json = .ok project) :
    project.toJson = json ↔ ∀ component ∈ componentsOf json, ComponentForm HasOnly component := by
  obtain ⟨_, rfl, ⟨hcomponents, hname, hroot⟩, hextra⟩ := Project.ofJson_eq_ok_iff.mp h
  obtain ⟨m, rfl⟩ := hplain.exists_keyMap
  have hnames : project.name.map .text = m.get? "name" :=
    (restores_optional_iff hplain hname).mpr fun json _ ↦ restores_text json
  have hroots : some project.root.toJson = m.get? "root" ↔
      ∀ component, m.get? "root" = some component → ComponentForm HasOnly component := by
    obtain ⟨root, hlookup, hread⟩ := Decode.exists_of_field hroot project.root rfl
    have hrootform := hform root (mem_componentsOf.mpr (.inl hlookup))
    have hroot := toJson_component_eq_iff (hplain.lookup hlookup) hrootform hread
    rw [m.lookup_entries] at hlookup
    simp only [hlookup, Option.some.injEq, hroot, forall_eq']
  have hmaps : project.components.map Project.componentsToJson = m.get? "components" ↔
      ∀ members, m.get? "components" = some (.object members) →
        ∀ member ∈ members, ComponentForm HasOnly member.2 := by
    refine (restores_optional_map_iff hplain hcomponents).trans ?_
    refine forall₂_congr fun members hmembers ↦ forall₂_congr fun member hmember ↦ ?_
    obtain ⟨component, hread⟩ :=
      (exists_of_optional_map hplain hcomponents hmembers).2 member hmember
    rw [restores_iff_of_read hread]
    exact toJson_component_eq_iff ((hplain.lookup hmembers).member hmember)
      (hform member.2 (mem_componentsOf.mpr (.inr ⟨members, hmembers, member, hmember, rfl⟩))) hread
  have hparts : (∀ component ∈ componentsOf (.object m.entries), ComponentForm HasOnly component) ↔
      (∀ component, m.get? "root" = some component → ComponentForm HasOnly component) ∧
        ∀ members, m.get? "components" = some (.object members) →
          ∀ member ∈ members, ComponentForm HasOnly member.2 := by
    simp only [mem_componentsOf]
    constructor
    · exact fun h ↦ ⟨fun component hcomponent ↦ h component (.inl hcomponent),
        fun members hmembers member hmem ↦ h member.2 (.inr ⟨members, hmembers, member, hmem, rfl⟩)⟩
    · rintro ⟨hroot, hnamed⟩ component (hcomponent | ⟨members, hmembers, member, hmem, rfl⟩)
      · exact hroot component hcomponent
      · exact hnamed members hmembers member hmem
  rw [hparts, ← hroots, ← hmaps, Project.toJson_eq, ← hextra,
    ofMembers_others_eq_object_iff project.get?_fields_of_not_mem]
  simp only [Project.fieldNames, List.forall_mem_cons, Project.fields]
  simp [hnames]

theorem restores_strategy {json : Json} (hplain : json.IsPlain) :
    Restores Strategy.ofJson Strategy.toJson json := by
  intro strategy h
  obtain ⟨_, rfl, hid, hextra⟩ := Strategy.ofJson_eq_ok_iff.mp h
  obtain ⟨m, rfl⟩ := hplain.exists_keyMap
  have hids : some (Json.text strategy.id) = m.get? "id" :=
    (restores_field_iff hid).mpr fun json _ ↦ restores_text json
  rw [Strategy.toJson_eq, ← hextra,
    ofMembers_others_eq_object_iff strategy.get?_fields_of_not_mem]
  simp only [Strategy.fieldNames, List.forall_mem_cons, Strategy.fields]
  simp [hids]

/-- A document is written as it was received exactly if its components are. -/
theorem toJson_bundle_eq_iff {json : Json} {bundle : Bundle} (hplain : json.IsPlain)
    (hform : DocumentForm (fun _ _ ↦ True) json) (h : Bundle.ofJson json = .ok bundle) :
    bundle.toJson = json ↔ DocumentForm HasOnly json := by
  obtain ⟨_, rfl, ⟨hdependencies, hstrategy, hproject⟩, hextra⟩ := Bundle.ofJson_eq_ok_iff.mp h
  obtain ⟨m, rfl⟩ := hplain.exists_keyMap
  have hpackages : bundle.dependencies.map Packages.toJson = m.get? "dependencies" :=
    (restores_optional_map_iff hplain hdependencies).mpr
      fun _ _ member _ ↦ restores_text member.2
  have hstrategies : some bundle.strategy.toJson = m.get? "strategy" :=
    (restores_field_iff hstrategy).mpr fun json hjson ↦ restores_strategy (hplain.lookup hjson)
  have hprojects : some bundle.project.toJson = m.get? "uidl" ↔
      DocumentForm HasOnly (.object m.entries) := by
    obtain ⟨project, hlookup, hread⟩ := Decode.exists_of_field hproject bundle.project rfl
    have hcomponents : componentsIn (.object m.entries) = componentsOf project := by
      simp [componentsIn, Json.get?, hlookup]
    rw [DocumentForm, hcomponents] at hform ⊢
    rw [KeyMap.get?, hlookup, Option.some.injEq]
    exact toJson_project_eq_iff (hplain.lookup hlookup) hform hread
  rw [← hprojects, Bundle.toJson_eq, ← hextra,
    ofMembers_others_eq_object_iff bundle.get?_fields_of_not_mem]
  simp only [Bundle.fieldNames, List.forall_mem_cons, Bundle.fields]
  simp [hpackages, hstrategies]

end Ui

namespace Plugin

/-- A document without nulls whose records, nodes and values are written as objects, for a target
that is not supported: both hooks return the same document. It is the one that was handed over
exactly if no wrapping node and no import has members that are no fields; such members are lost, and
all others are kept. -/
theorem unsupported_json_unchanged_iff (plugin : Plugin) (document : Json) (bundle : Bundle)
    (hgate : plugin.parserGate.CanOpen) (hcanonical : document.Canonical)
    (hnull : document.NullFree) (hform : DocumentForm (fun _ _ ↦ True) document)
    (hread : readBundle document = .ok bundle) (hid : bundle.strategy.id ∉ Target.supportedIds) :
    ∃ out, (plugin.runBeforeJson document).result = .ok out ∧
      plugin.runAfterJson document = .ok out ∧
      (out = document ↔ DocumentForm HasOnly document) := by
  have hnone := (Target.ofId?_eq_none_iff bundle.strategy.id).mpr hid
  refine ⟨bundle.toJson, ?_, ?_, ?_⟩
  · rw [runBeforeJson, hread]
    exact congrArg (Except.map Bundle.toJson) ((result_runBefore_eq_ok_iff hid).mpr hgate)
  · rw [runAfterJson, hread, Except.map, runAfter_of_ofId?_eq_none hnone]
  · exact toJson_bundle_eq_iff ⟨hcanonical, hnull⟩ hform (readBundle_eq_ok_iff.mp hread)

/-- A document whose only node is a condition with the given members. -/
def conditionDocument (members : List (String × Json)) : Json :=
  .object [("strategy", .object [("id", .text "vue")]), ("uidl", .object [("root", .object
    [("name", .text "Root"), ("node", tagged "conditional" (.object members))])])]

def innerNode : Json := tagged "static" (.text "shown")

theorem isPlain_innerNode : innerNode.IsPlain :=
  .object_pair (by decide) (.text "shown") (.text "static")

theorem isPlain_conditionDocument {members : List (String × Json)}
    (h : (Json.object members).IsPlain) : (conditionDocument members).IsPlain :=
  have hnode : (tagged "conditional" (.object members)).IsPlain :=
    .object_pair (by decide) h (.text "conditional")
  .object_pair (by decide) (.object_singleton (.text "vue"))
    (.object_singleton (.object_pair (by decide) (.text "Root") hnode))

theorem documentForm_conditionDocument {fits : List String → List (String × Json) → Prop}
    {members : List (String × Json)} (hfits : fits ["node", "reference", "value"] members)
    (hnode : members.lookup "node" = some innerNode) :
    DocumentForm fits (conditionDocument members) := by
  intro component hmem
  obtain rfl : component = .object
      [("name", .text "Root"), ("node", tagged "conditional" (.object members))] := by
    exact List.mem_singleton.mp hmem
  constructor
  · rintro _ ⟨⟩
    refine .wrapper rfl hfits fun inner hinner ↦ ?_
    obtain rfl := Option.some.inj (hnode.symm.trans hinner)
    exact .leaf rfl
  · intro _ h
    cases h

def conditionBundle : Bundle where
  project :=
    { root :=
        { name := "Root", node := .conditional (.static (.text "shown")) none none } }
  strategy := { id := "vue" }

/-- A condition without other members comes back as it was. -/
theorem runBeforeJson_conditionDocument :
    "vue" ∉ Target.supportedIds ∧
      readBundle (conditionDocument [("node", innerNode)]) = .ok conditionBundle ∧
      ∃ out, (runBeforeJson {} (conditionDocument [("node", innerNode)])).result = .ok out ∧
        runAfterJson {} (conditionDocument [("node", innerNode)]) = .ok out ∧
        out = conditionDocument [("node", innerNode)] := by
  have hread : readBundle (conditionDocument [("node", innerNode)]) = .ok conditionBundle := rfl
  have hplain : (conditionDocument [("node", innerNode)]).IsPlain :=
    isPlain_conditionDocument (.object_singleton isPlain_innerNode)
  obtain ⟨out, hbefore, hafter, hout⟩ := unsupported_json_unchanged_iff {}
    (conditionDocument [("node", innerNode)]) conditionBundle (.inr ⟨defaultParser, rfl⟩)
    hplain.canonical hplain.nullFree (documentForm_conditionDocument trivial rfl) hread (by decide)
  exact ⟨by decide, hread, out, hbefore, hafter,
    hout.mpr (documentForm_conditionDocument (by simp [HasOnly]) rfl)⟩

/-- The members of a condition that another stage has left a note in. -/
def notedMembers : List (String × Json) :=
  [("node", innerNode), ("note", .text "of another stage")]

/-- Not every such document comes back as it was: a condition loses its other members. -/
theorem unsupported_json_changes :
    ¬ ∀ (plugin : Plugin) (document : Json) (bundle : Bundle), plugin.parserGate.CanOpen →
      document.Canonical → document.NullFree → DocumentForm (fun _ _ ↦ True) document →
      readBundle document = .ok bundle → bundle.strategy.id ∉ Target.supportedIds →
        (plugin.runBeforeJson document).result = .ok document ∧
          plugin.runAfterJson document = .ok document := by
  intro hunchanged
  have hplain : (conditionDocument notedMembers).IsPlain :=
    isPlain_conditionDocument (.object_pair (by decide) isPlain_innerNode (.text _))
  have hafter := (hunchanged {} (conditionDocument notedMembers) conditionBundle
    (.inr ⟨defaultParser, rfl⟩) hplain.canonical hplain.nullFree
    (documentForm_conditionDocument trivial rfl) rfl (by decide)).2
  have hlost : runAfterJson {} (conditionDocument notedMembers) =
    .ok (conditionDocument [("node", innerNode)]) := rfl
  rw [hlost] at hafter
  simp [conditionDocument, tagged, notedMembers] at hafter

end Plugin

end MarkupIslands
