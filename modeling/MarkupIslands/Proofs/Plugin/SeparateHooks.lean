import MarkupIslands.Proofs.Island.ImportPropagation
import MarkupIslands.Proofs.Plugin.LoadsOfCall

/-!
# What each hook changes

The earlier hook changes the trees and the imports of components, and of a tree only its outermost
islands. The later hook changes the packages of the bundle. Neither reads what the other changes, so
their order does not matter, also when an island cannot be resolved. The later hook adds packages
that a second run adds again, which makes no difference.
-/

namespace MarkupIslands

open MarkupIslands.Island MarkupIslands.Ui

/-- Entries that have been written once are not changed by writing them again. -/
theorem KeyMap.merge_merge {ν : Type u} (m n : KeyMap ν) : (m.merge n).merge n = m.merge n := by
  apply KeyMap.ext_get?
  intro key
  rw [KeyMap.get?_merge, KeyMap.get?_merge]
  cases n.get? key <;> rfl

/-- Changes that agree on the components of a project change it in the same way. -/
theorem Ui.Project.mapComponents_congr {project : Project} {f g : Component → Component}
    (h : ∀ component ∈ project.allComponents, f component = g component) :
    project.mapComponents f = project.mapComponents g := by
  apply Project.eq_of_frame_of_allComponents
  · rw [Project.frame_mapComponents, Project.frame_mapComponents]
  · rw [Project.allComponents_mapComponents, Project.allComponents_mapComponents]
    exact List.map_congr_left h

namespace Island

/-- A resolution leaves the field of the imports as it is or adds at least one import. -/
theorem importDefinitions_resolveComponent (tools : Tools) (target : Target) (options : Options)
    (component : Component) :
    let resolved := (resolveComponent tools target options component).component
    resolved.importDefinitions = component.importDefinitions ∨
      ∃ definitions : Imports, definitions.isEmpty = false ∧
        resolved.importDefinitions = some (component.imports.merge definitions) := by
  intro resolved
  cases h : (resolveComponent tools target options component).result with
  | error failure =>
    have hfailure := result_resolveComponent_eq_error_iff.mp h
    exact .inl (by simp only [resolved, resolveComponent_of_failure hfailure])
  | ok report =>
    obtain ⟨content, -, -, hresolved⟩ := exists_content_of_ok h
    have himports := congrArg Component.importDefinitions hresolved
    simp only [Component.importDefinitions_mergeImports] at himports
    by_cases hneeds : report.needsScriptRuntime
    · cases hempty : (componentImports target options).isEmpty with
      | true => exact .inl (by simpa [hneeds, hempty] using himports)
      | false => exact .inr ⟨_, hempty, by simpa [hneeds, hempty] using himports⟩
    · exact .inl (by simpa [hneeds] using himports)

end Island

namespace Plugin

/-- The outcome is the same if the results are put into the same form. -/
theorem Outcome.map_congr {α β : Type} {outcome : Outcome α} {f g : α → β}
    (h : ∀ value, outcome.result = .ok value → f value = g value) :
    outcome.map f = outcome.map g := by
  obtain ⟨plugin, result, calls⟩ := outcome
  cases result with
  | error failure => rfl
  | ok value => simp [Outcome.map, Except.map, h value rfl]

variable {plugin : Plugin} {bundle : Bundle}

/-! ## The earlier hook -/

/-- The earlier hook hands on the packages that it is given, and does nothing else with them. -/
theorem runBefore_setDependencies (plugin : Plugin) (bundle : Bundle)
    (dependencies : Option Packages) :
    plugin.runBefore { bundle with dependencies := dependencies } =
      (plugin.runBefore bundle).map fun next ↦ { next with dependencies := dependencies } := by
  unfold runBefore
  rcases plugin.parserGate.obtain with ⟨parserGate, failure | parser⟩
  · rfl
  · cases Target.ofId? bundle.strategy.id with
    | none => rfl
    | some target =>
      rcases hserializer : plugin.serializerGate.obtain target with
        ⟨serializerGate, failure | serializer⟩
      · simp only [hserializer]
        rfl
      · simp only [hserializer]
        cases (resolveProject ⟨parser.value, serializer.value⟩ target plugin.options
          bundle.project).result <;> rfl

/-- The earlier hook changes the project and nothing else of the bundle. -/
theorem exists_project_of_runBefore {next : Bundle}
    (h : (plugin.runBefore bundle).result = .ok next) :
    ∃ project, next = { bundle with project := project } := by
  rcases runBefore_cases h with ⟨-, rfl⟩ | ⟨target, tools, reports, -, -, rfl⟩
  · exact ⟨_, rfl⟩
  · exact ⟨_, rfl⟩

/-- Every component of a project that has been resolved has containers in the places of its
islands and imports of its own or more. -/
theorem project_resolveProject_of_ok {tools : Tools} {target : Target} {options : Options}
    {project : Project} {reports : List Report}
    (h : (resolveProject tools target options project).result = .ok reports) :
    (resolveProject tools target options project).project =
      project.mapComponents fun component ↦
        { component with
          node := component.node.changeIslands fun island ↦
            container island ((tools.write component.name island).toOption.getD "")
          importDefinitions :=
            (resolveComponent tools target options component).component.importDefinitions } := by
  rw [project_resolveProject]
  apply Project.mapComponents_congr
  intro component hmem
  rw [result_resolveProject, collect_eq_ok_iff] at h
  obtain ⟨report, -, hreport⟩ := List.mem_map.mp (h ▸ List.mem_map_of_mem hmem)
  obtain ⟨content, hcontent, -, hresolved⟩ := exists_content_of_ok hreport.symm
  have hnode : component.node.changeIslands (fun island ↦ container island (content island)) =
      component.node.changeIslands fun island ↦
        container island ((tools.write component.name island).toOption.getD "") := by
    rw [← refill_map_outermostIslands, ← refill_map_outermostIslands]
    refine congrArg (fun places ↦ component.node.refill places) (List.map_congr_left ?_)
    intro island hisland
    simp only [hcontent island hisland]
    rfl
  rw [hresolved, hnode]

/-! ## The later hook -/

/-- The packages of a bundle for an identifier, once those that the target needs are there. -/
def packagesFor (options : Options) (id : String) (dependencies : Option Packages) :
    Option Packages :=
  match Target.ofId? id with
  | none => dependencies
  | some target =>
    if (projectPackages target options).isEmpty then dependencies
    else some ((dependencies.getD .empty).merge (projectPackages target options))

theorem runAfter_eq (plugin : Plugin) (bundle : Bundle) :
    plugin.runAfter bundle =
      { bundle with
        dependencies := packagesFor plugin.options bundle.strategy.id bundle.dependencies } := by
  unfold runAfter packagesFor
  cases Target.ofId? bundle.strategy.id with
  | none => rfl
  | some target =>
    simp only [Bundle.addPackages]
    split <;> rfl

/-- Adding the packages a second time changes nothing. -/
theorem packagesFor_packagesFor (options : Options) (id : String)
    (dependencies : Option Packages) :
    packagesFor options id (packagesFor options id dependencies) =
      packagesFor options id dependencies := by
  unfold packagesFor
  cases Target.ofId? id with
  | none => rfl
  | some target =>
    cases h : (projectPackages target options).isEmpty with
    | true => simp [h]
    | false => simp [h, KeyMap.merge_merge]

/-- The hooks change different parts of a bundle, and it does not matter which of them runs first.

* The earlier hook puts containers into the places of outermost islands and adds imports to
  components; all other fields of the bundle, the project, the components and the trees are the ones
  from before, also where they are absent.
* The later hook changes nothing but the packages.
* Running the one and then the other comes to the same in both orders: the same bundle or the same
  failure, with the same uses of the collaborators.
* Running the later hook twice is running it once. -/
theorem hooks_change_separate_parts (plugin : Plugin) (bundle : Bundle) :
    (∀ next, (plugin.runBefore bundle).result = .ok next →
      ∃ (change : Component → Element → Element) (imports : Component → Option Imports),
        (∀ component island, change component island = island ∨
          ∃ content, change component island = container island content) ∧
        (∀ component, imports component = component.importDefinitions ∨
          ∃ definitions : Imports, definitions.isEmpty = false ∧
            imports component = some (component.imports.merge definitions)) ∧
        next = { bundle with
          project := bundle.project.mapComponents fun component ↦
            { component with
              node := component.node.changeIslands (change component)
              importDefinitions := imports component } }) ∧
    (∃ dependencies, (Hook.run plugin bundle .after).result =
      .ok { bundle with dependencies := dependencies }) ∧
    (plugin.runBefore bundle).map (plugin.runBefore bundle).plugin.runAfter =
      plugin.runBefore (plugin.runAfter bundle) ∧
    plugin.runAfter (plugin.runAfter bundle) = plugin.runAfter bundle := by
  refine ⟨fun next hnext ↦ ?_, ?_, ?_, ?_⟩
  · rcases runBefore_cases hnext with ⟨-, rfl⟩ | ⟨target, tools, reports, -, hreports, rfl⟩
    · refine ⟨fun _ ↦ id, Component.importDefinitions, fun _ _ ↦ .inl rfl, fun _ ↦ .inl rfl, ?_⟩
      simp only [changeIslands_id]
      rw [Project.mapComponents_eq_self fun _ _ ↦ rfl]
    · let content (component : Component) (island : Element) : String :=
        (tools.write component.name island).toOption.getD ""
      refine ⟨fun component island ↦ container island (content component island), _,
        fun _ _ ↦ .inr ⟨_, rfl⟩,
        importDefinitions_resolveComponent tools target plugin.options, ?_⟩
      rw [project_resolveProject_of_ok hreports]
  · exact ⟨_, congrArg Except.ok (runAfter_eq plugin bundle)⟩
  · have hoptions : (plugin.runBefore bundle).plugin.options = plugin.options :=
      options_run plugin ⟨.before, bundle⟩
    calc
      (plugin.runBefore bundle).map (plugin.runBefore bundle).plugin.runAfter =
          (plugin.runBefore bundle).map fun next ↦ { next with
            dependencies :=
              packagesFor plugin.options bundle.strategy.id bundle.dependencies } := by
        apply Outcome.map_congr
        intro next hnext
        obtain ⟨project, rfl⟩ := exists_project_of_runBefore hnext
        rw [runAfter_eq, hoptions]
      _ = plugin.runBefore { bundle with
            dependencies := packagesFor plugin.options bundle.strategy.id bundle.dependencies } :=
        (runBefore_setDependencies plugin bundle _).symm
      _ = plugin.runBefore (plugin.runAfter bundle) := by rw [runAfter_eq plugin bundle]
  · rw [runAfter_eq plugin bundle, runAfter_eq]
    simp only [packagesFor_packagesFor]

/-- A bundle that depends on another version of the package that the later hook adds. -/
def pinnedBundle (project : Project) : Bundle where
  project := project
  strategy := { id := "react" }
  dependencies := some (.singleton "dangerous-html" "1.0.0")

/-- The later hook replaces the version, whether the islands have been resolved before it or not,
and a project that cannot be resolved fails on either side of it. -/
theorem hooks_pinnedBundle :
    (∃ next, (plainTextPlugin.runBefore (pinnedBundle nestedProject)).result = .ok next ∧
      next.dependencies = (pinnedBundle nestedProject).dependencies ∧
      (∃ (change : Component → Element → Element) (imports : Component → Option Imports),
        next.project = nestedProject.mapComponents fun component ↦
          { component with
            node := component.node.changeIslands (change component)
            importDefinitions := imports component }) ∧
      (plainTextPlugin.runBefore (plainTextPlugin.runAfter (pinnedBundle nestedProject))).result =
        .ok { next with dependencies := some (.singleton "dangerous-html" "^0.1.13") }) ∧
    (plainTextPlugin.runBefore (plainTextPlugin.runAfter (pinnedBundle failingProject))).result =
      .error (.invalidNode "Aside" "`html` attribute content is not a string") := by
  obtain ⟨hframe, -, horder, -⟩ :=
    hooks_change_separate_parts plainTextPlugin (pinnedBundle nestedProject)
  obtain ⟨-, -, hfailing, -⟩ :=
    hooks_change_separate_parts plainTextPlugin (pinnedBundle failingProject)
  refine ⟨⟨_, rfl, rfl, ?_, ?_⟩, ?_⟩
  · obtain ⟨change, imports, -, -, hnext⟩ := hframe _ rfl
    exact ⟨change, imports, congrArg Bundle.project hnext⟩
  · rw [← horder]
    rfl
  · rw [← hfailing]
    rfl

end Plugin

end MarkupIslands
