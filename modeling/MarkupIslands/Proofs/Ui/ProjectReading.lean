import MarkupIslands.Proofs.Ui.NodeReading

/-!
# Reading projects

The records from an import up to a bundle, each by what its fields are read from and by the fields
that it is written with.
-/

namespace MarkupIslands.Ui

namespace ImportDetails

def fieldNames : List String := ["importAlias", "namedImport"]

def fields (details : ImportDetails) : List (String × Json) :=
  Json.member "importAlias" (details.importAlias.map .text) ++
    Json.member "namedImport" (details.namedImport.map .boolean)

theorem toJson_eq (details : ImportDetails) :
    details.toJson = .ofMembers (details.fields ++ details.extra.entries) := rfl

theorem get?_fields_of_not_mem (details : ImportDetails) :
    ∀ key ∉ fieldNames, (KeyMap.ofList details.fields).get? key = none := by
  intro key hkey
  simp [fieldNames] at hkey
  simp [fields, hkey]

theorem ofJson_eq_ok_iff {json : Json} {details : ImportDetails} :
    ofJson json = .ok details ↔ ∃ members, json = .object members ∧
      (Decode.optional Decode.text members "importAlias" = .ok details.importAlias ∧
        Decode.optional Decode.boolean members "namedImport" = .ok details.namedImport) ∧
      Decode.others fieldNames members = details.extra := by
  cases json with
  | object members =>
    simp only [ofJson, fieldNames, bind_eq_ok_iff, pure_eq_ok_iff]
    constructor
    · rintro ⟨importAlias, halias, namedImport, hnamed, rfl⟩
      exact ⟨members, rfl, ⟨halias, hnamed⟩, rfl⟩
    · rintro ⟨_, ⟨⟩, ⟨halias, hnamed⟩, hextra⟩
      exact ⟨_, halias, _, hnamed, by rw [hextra]⟩
  | _ => simp [ofJson, Decode.wrongType]

end ImportDetails

namespace ImportDefinition

def fieldNames : List String := ["type", "path", "version", "meta"]

def fields (definition : ImportDefinition) : List (String × Json) :=
  ("type", .text definition.source.name) :: ("path", .text definition.path) ::
    Json.member "version" (definition.version.map .text) ++
    Json.member "meta" (definition.details.map ImportDetails.toJson)

theorem toJson_eq (definition : ImportDefinition) :
    definition.toJson = .ofMembers definition.fields := rfl

theorem get?_fields_of_not_mem (definition : ImportDefinition) :
    ∀ key ∉ fieldNames, (KeyMap.ofList definition.fields).get? key = none := by
  intro key hkey
  simp [fieldNames] at hkey
  simp [fields, hkey]

theorem ofMembers_eq_ok_iff {members : List (String × Json)} {definition : ImportDefinition} :
    ofMembers members = .ok definition ↔
      Decode.optional ImportDetails.ofJson members "meta" = .ok definition.details ∧
      Decode.field Decode.text members "path" = .ok (some definition.path) ∧
      Decode.field (Decode.variant ImportSource.names) members "type" =
        .ok (some definition.source) ∧
      Decode.optional Decode.text members "version" = .ok definition.version := by
  simp only [ofMembers, bind_eq_ok_iff, pure_eq_ok_iff, Decode.require_eq_ok_iff]
  constructor
  · rintro ⟨details, hdetails, _, hpath, _, hsource, version, hversion, source, rfl, path, rfl, rfl⟩
    exact ⟨hdetails, hpath, hsource, hversion⟩
  · rintro ⟨hdetails, hpath, hsource, hversion⟩
    exact ⟨_, hdetails, _, hpath, _, hsource, _, hversion, _, rfl, _, rfl, rfl⟩

end ImportDefinition

namespace Component

def fieldNames : List String := ["name", "node", "importDefinitions"]

def fields (component : Component) : List (String × Json) :=
  ("name", .text component.name) :: ("node", component.node.toJson) ::
    Json.member "importDefinitions" (component.importDefinitions.map Imports.toJson)

theorem toJson_eq (component : Component) :
    component.toJson = .ofMembers (component.fields ++ component.extra.entries) := rfl

theorem get?_fields_of_not_mem (component : Component) :
    ∀ key ∉ fieldNames, (KeyMap.ofList component.fields).get? key = none := by
  intro key hkey
  simp [fieldNames] at hkey
  simp [fields, hkey]

theorem ofJson_eq_ok_iff {json : Json} {component : Component} :
    ofJson json = .ok component ↔ ∃ members, json = .object members ∧
      (Decode.optional Imports.ofJson members "importDefinitions" =
          .ok component.importDefinitions ∧
        Decode.field Decode.text members "name" = .ok (some component.name) ∧
        (members.lookup "node").map nodeOfJson = some component.node) ∧
      Decode.others fieldNames members = component.extra := by
  cases json with
  | object members =>
    simp only [ofJson, fieldNames, bind_eq_ok_iff, pure_eq_ok_iff, Decode.require_eq_ok_iff]
    constructor
    · rintro ⟨imports, himports, _, hname, name, rfl, node, hnode, rfl⟩
      exact ⟨members, rfl, ⟨himports, hname, hnode⟩, rfl⟩
    · rintro ⟨_, ⟨⟩, ⟨himports, hname, hnode⟩, hextra⟩
      exact ⟨_, himports, _, hname, _, rfl, _, hnode, by rw [hextra]⟩
  | _ => simp [ofJson, Decode.wrongType]

end Component

namespace Project

def fieldNames : List String := ["name", "root", "components"]

def fields (project : Project) : List (String × Json) :=
  Json.member "name" (project.name.map .text) ++ ("root", project.root.toJson) ::
    Json.member "components" (project.components.map componentsToJson)

theorem toJson_eq (project : Project) :
    project.toJson = .ofMembers (project.fields ++ project.extra.entries) := rfl

theorem get?_fields_of_not_mem (project : Project) :
    ∀ key ∉ fieldNames, (KeyMap.ofList project.fields).get? key = none := by
  intro key hkey
  simp [fieldNames] at hkey
  simp [fields, hkey]

theorem ofJson_eq_ok_iff {json : Json} {project : Project} :
    ofJson json = .ok project ↔ ∃ members, json = .object members ∧
      (Decode.optional (Decode.map Component.ofJson) members "components" =
          .ok project.components ∧
        Decode.optional Decode.text members "name" = .ok project.name ∧
        Decode.field Component.ofJson members "root" = .ok (some project.root)) ∧
      Decode.others fieldNames members = project.extra := by
  cases json with
  | object members =>
    simp only [ofJson, fieldNames, bind_eq_ok_iff, pure_eq_ok_iff, Decode.require_eq_ok_iff]
    constructor
    · rintro ⟨components, hcomponents, name, hname, _, hroot, root, rfl, rfl⟩
      exact ⟨members, rfl, ⟨hcomponents, hname, hroot⟩, rfl⟩
    · rintro ⟨_, ⟨⟩, ⟨hcomponents, hname, hroot⟩, hextra⟩
      exact ⟨_, hcomponents, _, hname, _, hroot, _, rfl, by rw [hextra]⟩
  | _ => simp [ofJson, Decode.wrongType]

end Project

namespace Strategy

def fieldNames : List String := ["id"]

def fields (strategy : Strategy) : List (String × Json) := [("id", .text strategy.id)]

theorem toJson_eq (strategy : Strategy) :
    strategy.toJson = .ofMembers (strategy.fields ++ strategy.extra.entries) := rfl

theorem get?_fields_of_not_mem (strategy : Strategy) :
    ∀ key ∉ fieldNames, (KeyMap.ofList strategy.fields).get? key = none := by
  intro key hkey
  simp [fieldNames] at hkey
  simp [fields, hkey]

theorem ofJson_eq_ok_iff {json : Json} {strategy : Strategy} :
    ofJson json = .ok strategy ↔ ∃ members, json = .object members ∧
      Decode.field Decode.text members "id" = .ok (some strategy.id) ∧
      Decode.others fieldNames members = strategy.extra := by
  cases json with
  | object members =>
    simp only [ofJson, fieldNames, bind_eq_ok_iff, pure_eq_ok_iff, Decode.require_eq_ok_iff]
    constructor
    · rintro ⟨_, hid, id, rfl, rfl⟩
      exact ⟨members, rfl, hid, rfl⟩
    · rintro ⟨_, ⟨⟩, hid, hextra⟩
      exact ⟨_, hid, _, rfl, by rw [hextra]⟩
  | _ => simp [ofJson, Decode.wrongType]

end Strategy

namespace Bundle

def fieldNames : List String := ["uidl", "strategy", "dependencies"]

def fields (bundle : Bundle) : List (String × Json) :=
  ("uidl", bundle.project.toJson) :: ("strategy", bundle.strategy.toJson) ::
    Json.member "dependencies" (bundle.dependencies.map Packages.toJson)

theorem toJson_eq (bundle : Bundle) :
    bundle.toJson = .ofMembers (bundle.fields ++ bundle.extra.entries) := rfl

theorem get?_fields_of_not_mem (bundle : Bundle) :
    ∀ key ∉ fieldNames, (KeyMap.ofList bundle.fields).get? key = none := by
  intro key hkey
  simp [fieldNames] at hkey
  simp [fields, hkey]

theorem ofJson_eq_ok_iff {json : Json} {bundle : Bundle} :
    ofJson json = .ok bundle ↔ ∃ members, json = .object members ∧
      (Decode.optional Packages.ofJson members "dependencies" = .ok bundle.dependencies ∧
        Decode.field Strategy.ofJson members "strategy" = .ok (some bundle.strategy) ∧
        Decode.field Project.ofJson members "uidl" = .ok (some bundle.project)) ∧
      Decode.others fieldNames members = bundle.extra := by
  cases json with
  | object members =>
    simp only [ofJson, fieldNames, bind_eq_ok_iff, pure_eq_ok_iff, Decode.require_eq_ok_iff]
    constructor
    · rintro ⟨dependencies, hdependencies, _, hstrategy, _, hproject, project, rfl, strategy, rfl,
        rfl⟩
      exact ⟨members, rfl, ⟨hdependencies, hstrategy, hproject⟩, rfl⟩
    · rintro ⟨_, ⟨⟩, ⟨hdependencies, hstrategy, hproject⟩, hextra⟩
      exact ⟨_, hdependencies, _, hstrategy, _, hproject, _, rfl, _, rfl, by rw [hextra]⟩
  | _ => simp [ofJson, Decode.wrongType]

end Bundle

/-! ## Components as JSON -/

/-- The components of a project: the root and the named ones. -/
def componentsOf (project : Json) : List Json :=
  (project.get? "root").toList ++
    match project.get? "components" with
    | some (.object members) => members.map Prod.snd
    | _ => []

theorem mem_componentsOf {project component : Json} :
    component ∈ componentsOf project ↔ project.get? "root" = some component ∨
      ∃ members, project.get? "components" = some (.object members) ∧
        ∃ member ∈ members, member.2 = component := by
  rw [componentsOf, List.mem_append, Option.mem_toList]
  refine or_congr Iff.rfl ?_
  split
  · rename_i members hmembers
    simp [hmembers]
  · rename_i hmembers
    constructor
    · intro hmem
      cases hmem
    · rintro ⟨members, heq, -⟩
      exact absurd heq (hmembers members)

/-- The components of a document. -/
def componentsIn (document : Json) : List Json :=
  (document.get? "uidl").toList.flatMap componentsOf

end MarkupIslands.Ui
