import MarkupIslands.Proofs.Island.Interleaving

/-!
# Resolving a project again

A resolved component has no islands left, so a later resolution finds nothing to do, whatever its
collaborators and its target are. In a component that failed, the first island that is left is the
one that could not be resolved; with the same collaborators it fails again, before anything else is
changed.
-/

namespace MarkupIslands

open MarkupIslands.Ui

/-- A change that leaves every component as it is leaves the project as it is. -/
theorem Ui.Project.mapComponents_eq_self {project : Project} {change : Component → Component}
    (h : ∀ component ∈ project.allComponents, change component = component) :
    project.mapComponents change = project := by
  apply Project.eq_of_frame_of_allComponents
  · rw [Project.frame_mapComponents]
  · rw [Project.allComponents_mapComponents]
    exact (List.map_congr_left h).trans (List.map_id' _)

namespace Island

variable {tools : Tools} {target : Target} {options : Options} {component : Component}

/-! ## Components -/

/-- The islands left after a failure begin with the one that failed. -/
theorem resolveIslands_drop {name : String} {progress : Progress} {islands : List Element}
    {failure : Failure}
    (h : (resolveIslands tools name progress islands).failure = some failure) (again : Progress) :
    let left := islands.drop (resolveIslands tools name progress islands).value.length
    (resolveIslands tools name again left).value = [] ∧
      (resolveIslands tools name again left).failure = some failure := by
  induction islands generalizing progress with
  | nil => cases h
  | cons island rest ih =>
    cases hwrite : tools.write name island with
    | error other =>
      rw [resolveIslands_cons_error hwrite] at h ⊢
      simp only [List.length_nil, List.drop_zero]
      rw [resolveIslands_cons_error hwrite]
      exact ⟨rfl, h⟩
    | ok content =>
      rw [resolveIslands_cons_ok hwrite] at h ⊢
      exact ih h

/-- The islands of a component that its resolution leaves. -/
theorem outermostIslands_resolveComponent (tools : Tools) (target : Target) (options : Options)
    (component : Component) :
    (resolveComponent tools target options component).component.node.outermostIslands =
      component.node.outermostIslands.drop
        (resolveIslands tools component.name {} component.node.outermostIslands).value.length := by
  rw [node_resolveComponent]
  exact outermostIslands_refill (fun _ ↦ outermostIslands_of_mem_resolveIslands) _

/-- A resolution that succeeds leaves no islands. -/
theorem outermostIslands_resolveComponent_of_ok {report : Report}
    (h : (resolveComponent tools target options component).result = .ok report) :
    (resolveComponent tools target options component).component.node.outermostIslands = [] := by
  have hresult := result_resolveComponent tools target options component
  cases hfailure :
      (resolveIslands tools component.name {} component.node.outermostIslands).failure with
  | some failure => simp [h, hfailure] at hresult
  | none =>
    rw [outermostIslands_resolveComponent, length_value_resolveIslands hfailure, List.drop_length]

/-- A component without islands is left as it is, and no collaborator is used. -/
theorem resolveComponent_of_outermostIslands_eq_nil (h : component.node.outermostIslands = []) :
    resolveComponent tools target options component =
      ⟨component, .ok ⟨component.name, 0, false⟩, []⟩ := by
  rw [resolveComponent, walk_resolver, h, resolveIslands, Walked.map, refill_nil]
  rfl

/-- A resolution that fails changes the tree of the component and nothing else of it. -/
theorem resolveComponent_of_failure {failure : Failure}
    (h : (resolveIslands tools component.name {} component.node.outermostIslands).failure =
      some failure) :
    resolveComponent tools target options component =
      let walked := resolveIslands tools component.name {} component.node.outermostIslands
      ⟨{ component with node := component.node.refill walked.value }, .error failure,
        walked.state.calls⟩ := by
  rw [resolveComponent, walk_resolver, conclude]
  simp only [Walked.map, h]

/-- A component fails exactly if one of its islands does. -/
theorem result_resolveComponent_eq_error_iff {failure : Failure} :
    (resolveComponent tools target options component).result = .error failure ↔
      (resolveIslands tools component.name {} component.node.outermostIslands).failure =
        some failure := by
  rw [result_resolveComponent]
  cases h : (resolveIslands tools component.name {} component.node.outermostIslands).failure <;>
    simp only [h] <;> simp

/-- A component that failed fails again in the same way and is not changed any further. -/
theorem resolveComponent_again_of_error {failure : Failure}
    (h : (resolveComponent tools target options component).result = .error failure) :
    let resolved := (resolveComponent tools target options component).component
    (resolveComponent tools target options resolved).component = resolved ∧
      (resolveComponent tools target options resolved).result = .error failure := by
  intro resolved
  have hfailure := result_resolveComponent_eq_error_iff.mp h
  obtain ⟨hvalue, hagain⟩ := resolveIslands_drop hfailure {}
  have hname : resolved.name = component.name := by
    simp only [resolved, resolveComponent_of_failure hfailure]
  rw [← outermostIslands_resolveComponent tools target options component, ← hname] at hvalue hagain
  rw [resolveComponent_of_failure hagain]
  refine ⟨?_, rfl⟩
  simp only [resolved] at hvalue ⊢
  rw [hvalue, refill_nil]

/-- A component is not changed by a second resolution with the same collaborators. -/
theorem component_resolveComponent_again (tools : Tools) (target : Target) (options : Options)
    (component : Component) :
    let resolved := (resolveComponent tools target options component).component
    (resolveComponent tools target options resolved).component = resolved := by
  intro resolved
  cases h : (resolveComponent tools target options component).result with
  | error failure => exact (resolveComponent_again_of_error h).1
  | ok report =>
    have hislands := outermostIslands_resolveComponent_of_ok h
    simp only [resolved]
    rw [resolveComponent_of_outermostIslands_eq_nil hislands]

/-! ## Projects -/

theorem calls_resolveProject (tools : Tools) (target : Target) (options : Options)
    (project : Project) :
    (resolveProject tools target options project).calls =
      project.allComponents.flatMap fun component ↦
        (resolveComponent tools target options component).calls := by
  cases h : project.components <;>
    simp [resolveProject, Project.allComponents, Project.named, h, List.flatMap_map]

/-- A project without islands is left as it is, and no collaborator is used. -/
theorem resolveProject_of_outermostIslands_eq_nil {project : Project}
    (h : ∀ component ∈ project.allComponents, component.node.outermostIslands = [])
    (tools : Tools) (target : Target) (options : Options) :
    let again := resolveProject tools target options project
    again.project = project ∧
      again.result =
        .ok (project.allComponents.map fun component ↦ ⟨component.name, 0, false⟩) ∧
      again.calls = [] := by
  have hcomponent (component : Component) (hmem : component ∈ project.allComponents) :
      resolveComponent tools target options component = _ :=
    resolveComponent_of_outermostIslands_eq_nil (h component hmem)
  refine ⟨?_, ?_, ?_⟩
  · rw [project_resolveProject]
    exact Project.mapComponents_eq_self fun component hmem ↦ by rw [hcomponent component hmem]
  · rw [result_resolveProject, collect_eq_ok_iff, List.map_map]
    exact List.map_congr_left fun component hmem ↦ by rw [hcomponent component hmem]; rfl
  · rw [calls_resolveProject, List.flatMap_eq_nil_iff]
    intro component hmem
    rw [hcomponent component hmem]

/-- After a resolution that succeeds no component has an island. -/
theorem outermostIslands_of_mem_resolveProject {project : Project} {reports : List Report}
    (h : (resolveProject tools target options project).result = .ok reports) :
    ∀ component ∈ (resolveProject tools target options project).project.allComponents,
      component.node.outermostIslands = [] := by
  rw [result_resolveProject, collect_eq_ok_iff] at h
  rw [project_resolveProject, Project.allComponents_mapComponents]
  intro resolved hmem
  obtain ⟨component, hcomponent, rfl⟩ := List.mem_map.mp hmem
  have hresult : (resolveComponent tools target options component).result ∈
      reports.map Except.ok := by
    rw [← h]
    exact List.mem_map_of_mem hcomponent
  obtain ⟨report, -, hreport⟩ := List.mem_map.mp hresult
  exact outermostIslands_resolveComponent_of_ok hreport.symm

/-- A second resolution with the same collaborators changes nothing, also after a failure. -/
theorem project_resolveProject_again (tools : Tools) (target : Target) (options : Options)
    (project : Project) :
    let resolved := (resolveProject tools target options project).project
    (resolveProject tools target options resolved).project = resolved := by
  intro resolved
  have hresolved : resolved = _ := project_resolveProject tools target options project
  rw [project_resolveProject]
  apply Project.mapComponents_eq_self
  rw [hresolved, Project.allComponents_mapComponents]
  intro component hmem
  obtain ⟨original, -, rfl⟩ := List.mem_map.mp hmem
  exact component_resolveComponent_again tools target options original

/-- A failure is reported again by a second resolution with the same collaborators. -/
theorem result_resolveProject_again {project : Project} {failure : Failure}
    (h : (resolveProject tools target options project).result = .error failure) :
    (resolveProject tools target options
      (resolveProject tools target options project).project).result = .error failure := by
  rw [result_resolveProject, collect_map_eq_error_iff] at h ⊢
  obtain ⟨before, component, after, hcomponents, hbefore, hfailure⟩ := h
  rw [project_resolveProject, Project.allComponents_mapComponents, hcomponents, List.map_append,
    List.map_cons]
  refine ⟨_, _, _, rfl, ?_, (resolveComponent_again_of_error hfailure).2⟩
  intro other hmem
  obtain ⟨original, horiginal, rfl⟩ := List.mem_map.mp hmem
  obtain ⟨report, hreport⟩ := hbefore original horiginal
  have hislands := outermostIslands_resolveComponent_of_ok hreport
  rw [resolveComponent_of_outermostIslands_eq_nil hislands]
  exact ⟨_, rfl⟩

/-- Islands are resolved at most once. After a resolution that succeeds, every later one, whatever
its collaborators, target and options, reports no islands for every component, leaves the project
as it is and uses no collaborator. After one that fails, a repetition with the same arguments leaves
the partly changed project as it is and fails in the same way. -/
theorem resolveProject_resolves_at_most_once (tools : Tools) (target : Target) (options : Options)
    (project : Project) :
    let first := resolveProject tools target options project
    (∀ reports, first.result = .ok reports →
      ∀ (tools' : Tools) (target' : Target) (options' : Options),
        let later := resolveProject tools' target' options' first.project
        later.project = first.project ∧
          later.result = .ok (first.project.allComponents.map fun component ↦
            { component := component.name, islands := 0, needsScriptRuntime := false }) ∧
          later.calls = []) ∧
    (∀ failure, first.result = .error failure →
      let repeated := resolveProject tools target options first.project
      repeated.project = first.project ∧ repeated.result = .error failure) := by
  intro first
  refine ⟨fun reports hreports tools' target' options' ↦ ?_, fun failure hfailure ↦ ?_⟩
  · exact resolveProject_of_outermostIslands_eq_nil
      (outermostIslands_of_mem_resolveProject hreports) tools' target' options'
  · exact ⟨project_resolveProject_again tools target options project,
      result_resolveProject_again hfailure⟩

def refusingTools : Tools where
  parser text := .error (.parse text)
  serializer _ := .error (.serialize "")

def nestedProject : Project := { root := nestedIslands }

/-- Tools that can read no markup are not asked after the islands have been resolved, and a project
with islands that cannot be resolved fails a second time in the same way. -/
theorem resolveProject_again_nested_and_failing :
    (resolveProject plainTextTools .react {} nestedProject).result = .ok [⟨"App", 2, false⟩] ∧
    (resolveProject refusingTools .html {}
      (resolveProject plainTextTools .react {} nestedProject).project).result =
        .ok [⟨"App", 0, false⟩] ∧
    (resolveProject plainTextTools .react {} failingProject).result =
      .error (.invalidNode "Aside" "`html` attribute content is not a string") ∧
    (resolveProject plainTextTools .react {}
      (resolveProject plainTextTools .react {} failingProject).project).result =
        .error (.invalidNode "Aside" "`html` attribute content is not a string") :=
  have hnested := resolveProject_resolves_at_most_once plainTextTools .react {} nestedProject
  have hfailing := resolveProject_resolves_at_most_once plainTextTools .react {} failingProject
  ⟨rfl, (hnested.1 _ rfl refusingTools .html {}).2.1, rfl, (hfailing.2 _ rfl).2⟩

end Island

end MarkupIslands
