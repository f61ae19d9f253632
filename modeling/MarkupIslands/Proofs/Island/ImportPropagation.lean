import MarkupIslands.Proofs.Island.FirstFailure
import MarkupIslands.Proofs.Json.Lookup

/-!
# Imports of a resolved component

A component needs the script runtime if the written markup of one of its islands holds the script
marker. Then it imports what its target has for that: each of these imports takes the place of one
with the same name, and all other imports stay. In every other case the field of the imports is the
one from before, be it absent, empty or filled.
-/

namespace MarkupIslands

open MarkupIslands.Ui

namespace Ui.Component

theorem importDefinitions_mergeImports (component : Component) (definitions : Imports) :
    (component.mergeImports definitions).importDefinitions =
      if definitions.isEmpty then component.importDefinitions
      else some (component.imports.merge definitions) := by
  unfold mergeImports
  split <;> rfl

/-- Adding imports changes no other field, and does not depend on the tree. -/
theorem mergeImports_setNode (component : Component) (node : Node) (definitions : Imports) :
    mergeImports { component with node := node } definitions =
      { component with
        node := node
        importDefinitions := (component.mergeImports definitions).importDefinitions } := by
  rw [importDefinitions_mergeImports, mergeImports]
  split <;> rfl

end Ui.Component

namespace Island

theorem needsScriptRuntime_iff_isInfix (content : String) :
    needsScriptRuntime content ↔ scriptMarker.toList <:+: content.toList := by
  rw [needsScriptRuntime, Text.contains, Text.holds_iff_isInfix]

/-- Plain markup is the only target that needs no imports for scripts. -/
theorem isEmpty_componentImports (target : Target) (options : Options) :
    (componentImports target options).isEmpty = decide (target = .html) := by
  cases target <;> rfl

variable {tools : Tools} {target : Target} {options : Options} {component : Component}

/-- The need for the script runtime is taken over from island to island. -/
theorem needsScriptRuntime_resolveIslands {name : String} {content : Element → String}
    {islands : List Element}
    (h : ∀ island ∈ islands, tools.write name island = .ok (content island))
    (progress : Progress) :
    (resolveIslands tools name progress islands).state.needsScriptRuntime =
      (progress.needsScriptRuntime ||
        islands.any fun island ↦ needsScriptRuntime (content island)) := by
  induction islands generalizing progress with
  | nil => exact (Bool.or_false _).symm
  | cons island rest ih =>
    have hisland := h island List.mem_cons_self
    have hrest := fun other hmem ↦ h other (List.mem_cons_of_mem island hmem)
    calc
      (resolveIslands tools name progress (island :: rest)).state.needsScriptRuntime =
          (resolveIslands tools name (resolveIsland tools name progress island).1
            rest).state.needsScriptRuntime := by
        rw [resolveIslands_cons_ok hisland, Walked.map]
      _ = (progress.needsScriptRuntime || needsScriptRuntime (content island) ||
            rest.any fun island ↦ needsScriptRuntime (content island)) := by
        rw [ih hrest, (resolveIsland_fst tools name hisland progress).2]
      _ = _ := by rw [List.any_cons, Bool.or_assoc]

/-- A resolution that succeeds, written out: the containers in the places of the islands, and the
imports if an island needs them. -/
theorem exists_content_of_ok {report : Report}
    (h : (resolveComponent tools target options component).result = .ok report) :
    ∃ content : Element → String,
      (∀ island ∈ component.node.outermostIslands,
        tools.write component.name island = .ok (content island)) ∧
      report = ⟨component.name, component.node.outermostIslands.length,
        component.node.outermostIslands.any fun island ↦ needsScriptRuntime (content island)⟩ ∧
      (resolveComponent tools target options component).component =
        { component with
          node := component.node.changeIslands fun island ↦ container island (content island)
          importDefinitions :=
            if report.needsScriptRuntime then
              (component.mergeImports (componentImports target options)).importDefinitions
            else component.importDefinitions } := by
  have hfailure :
      (resolveIslands tools component.name {} component.node.outermostIslands).failure = none := by
    rw [result_resolveComponent] at h
    cases hfailure :
        (resolveIslands tools component.name {} component.node.outermostIslands).failure with
    | none => rfl
    | some failure => simp [hfailure] at h
  obtain ⟨content, hcontent⟩ :=
    exists_content ((failure_resolveIslands_eq_none_iff _ _).mp hfailure)
  have hreport : report = ⟨component.name, component.node.outermostIslands.length,
      component.node.outermostIslands.any fun island ↦ needsScriptRuntime (content island)⟩ := by
    rw [result_resolveComponent] at h
    simp only [hfailure, Except.ok.injEq] at h
    rw [← h, islands_resolveIslands hcontent, needsScriptRuntime_resolveIslands hcontent,
      Nat.zero_add, Bool.false_or]
  refine ⟨content, hcontent, hreport, ?_⟩
  have hneeds : (resolveIslands tools component.name {}
      component.node.outermostIslands).state.needsScriptRuntime = report.needsScriptRuntime := by
    rw [needsScriptRuntime_resolveIslands hcontent, Bool.false_or, hreport]
  rw [resolveComponent, walk_resolver, conclude]
  simp only [Walked.map, hfailure, hneeds, value_resolveIslands hcontent,
    refill_map_outermostIslands]
  split
  · exact Component.mergeImports_setNode component _ _
  · rfl

/-- A component whose resolution succeeds needs the script runtime exactly if the written markup of
one of its islands holds the script marker. If it does and is for one of the script targets, it
imports everything that the target has for components with scripts, also in place of imports of its
own with the same name, and keeps all imports with other names. Otherwise the field of its imports
stays as it is. -/
theorem resolveComponent_imports_script_runtime (tools : Tools) (target : Target)
    (options : Options) (component : Component) (report : Report)
    (h : (resolveComponent tools target options component).result = .ok report) :
    let resolved := (resolveComponent tools target options component).component
    (report.needsScriptRuntime = true ↔
      ∃ island ∈ component.node.outermostIslands, ∃ content,
        tools.write component.name island = .ok content ∧
          "<Script".toList <:+: content.toList) ∧
    (report.needsScriptRuntime = true → target = .react ∨ target = .next →
      ∃ imports, resolved.importDefinitions = some imports ∧
        (∀ name definition,
          (componentImports target options).get? name = some definition →
            imports.get? name = some definition) ∧
        (∀ name, (componentImports target options).get? name = none →
          imports.get? name = component.imports.get? name)) ∧
    (report.needsScriptRuntime = false ∨ target = .html →
      resolved.importDefinitions = component.importDefinitions) := by
  intro resolved
  obtain ⟨content, hcontent, hreport, hresolved⟩ := exists_content_of_ok h
  have himports : resolved.importDefinitions =
      if report.needsScriptRuntime then
        (component.mergeImports (componentImports target options)).importDefinitions
      else component.importDefinitions := congrArg Component.importDefinitions hresolved
  rw [Component.importDefinitions_mergeImports, isEmpty_componentImports] at himports
  refine ⟨?_, fun hneeds htarget ↦ ?_, fun hneither ↦ ?_⟩
  · rw [hreport, List.any_eq_true]
    refine exists_congr fun island ↦ and_congr_right fun hmem ↦ ?_
    rw [needsScriptRuntime_iff_isInfix, hcontent island hmem]
    simp only [Except.ok.injEq, exists_eq_left']
    rfl
  · have hscript : target ≠ .html := by rcases htarget with rfl | rfl <;> decide
    refine ⟨component.imports.merge (componentImports target options), ?_, ?_, ?_⟩
    · rw [himports, if_pos hneeds, decide_eq_false hscript]
      rfl
    · intro name definition hdefinition
      rw [KeyMap.get?_merge, hdefinition, Option.some_or]
    · intro name hnone
      rw [KeyMap.get?_merge, hnone, Option.none_or]
  · rcases hneither with hneeds | htarget
    · rw [himports, hneeds]
      rfl
    · rw [himports, decide_eq_true htarget]
      split <;> rfl

/-- A component with a script in one of its islands and with imports of its own, one of them under
the name of the runtime component. -/
def importingComponent : Component where
  name := "App"
  node := .element { elementType := "div", children := some [islandOf "run()" []] }
  importDefinitions := some <|
    KeyMap.insert (.singleton "Script" { source := .localPath, path := "./script" })
      "Button" { source := .library, path := "buttons" }

/-- The import under the name of the runtime component is replaced and the other one stays. -/
theorem resolveComponent_importingComponent :
    let resolution := resolveComponent scriptTools .next {} importingComponent
    resolution.result = .ok ⟨"App", 1, true⟩ ∧
      ∃ imports, resolution.component.importDefinitions = some imports ∧
        imports.get? "Script" = some (scriptRuntimeImport {}) ∧
        imports.get? "Button" = importingComponent.imports.get? "Button" := by
  intro resolution
  obtain ⟨-, himports, -⟩ :=
    resolveComponent_imports_script_runtime scriptTools .next {} importingComponent
      ⟨"App", 1, true⟩ rfl
  obtain ⟨imports, hfield, hown, hother⟩ := himports rfl (.inr rfl)
  exact ⟨rfl, imports, hfield, hown "Script" _ rfl, hother "Button" rfl⟩

end Island

end MarkupIslands
