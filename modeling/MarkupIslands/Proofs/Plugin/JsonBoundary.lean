import MarkupIslands.Plugin.Hooks
import MarkupIslands.Proofs.Island.Interleaving
import MarkupIslands.Proofs.Ui.ProjectReadBack

/-!
# Hooks on JSON

A host hands over JSON and gets JSON back, so between two hooks a bundle is written and read again.
Reading what was written gives the bundle again, however the hooks have changed it: an island gives
way to its container, a component gets imports, the bundle gets packages. A chain of hooks on JSON
therefore comes to what it comes to on bundles that are read once, outcome by outcome.
-/

namespace MarkupIslands

open MarkupIslands.Island MarkupIslands.Ui

namespace Island

/-- A container can be read back where the island could. -/
theorem readsBack_container {island : Element} (h : (Node.element island).ReadsBack)
    (content : String) : (Node.element (container island content)).ReadsBack := by
  obtain ⟨-, hextra⟩ := elementOfJson_elementToJson_iff.mp (readsBack_element_iff.mp h)
  refine readsBack_element_iff.mpr (elementOfJson_elementToJson_iff.mpr ⟨⟨?_, ?_, ?_⟩, hextra⟩)
  · simp [container, KeyMap.values]
  · have hstyle : (Value.ofText "contents").ReadsBack :=
      Value.readsBack_ofJson (tagged "static" (.text "contents"))
    simpa [container, KeyMap.values] using hstyle
  · simpa [container] using readsBack_of_leafOf? (rfl : leafOf? "inject" (.text content) = _)

theorem ofJson_toJson_componentImports (target : Target) (options : Options) :
    Imports.ofJson (componentImports target options).toJson =
      .ok (componentImports target options) := by
  rw [Imports.ofJson_toJson_iff]
  cases target with
  | html => simp [componentImports, KeyMap.values]
  | react | next =>
    simp [componentImports, KeyMap.values, ImportDefinition.ofJson_toJson_iff,
      scriptRuntimeImport, ImportDetails.ofJson_toJson_iff]

end Island

namespace Plugin

/-! ## Changes of a bundle -/

/-- A single change that a hook makes to a bundle. -/
inductive Change : Bundle → Bundle → Prop
  /-- An island of a component gives way to its container; the islands before it stay. -/
  | resolve {bundle : Bundle} {place : Nat} {component : Component} {before : List Element}
    {island : Element} {after : List Element}
    (hcomponent : bundle.project.allComponents[place]? = some component)
    (hislands : component.node.outermostIslands = before ++ island :: after) (content : String) :
    Change bundle { bundle with
      project := bundle.project.setComponent
        { component with
          node := component.node.refill (before ++ [container island content]) } place }
  /-- A component gets the imports that its containers need. -/
  | addImports {bundle : Bundle} {place : Nat} {component : Component}
    (hcomponent : bundle.project.allComponents[place]? = some component)
    (target : Target) (options : Options) :
    Change bundle { bundle with
      project := bundle.project.setComponent
        (component.mergeImports (componentImports target options)) place }
  /-- The bundle gets packages. -/
  | addPackages {bundle : Bundle} (packages : Packages) :
    Change bundle (bundle.addPackages packages)

/-- A project with one readable component in place of another can be read back. -/
theorem ofJson_toJson_setComponent {project : Project} {component : Component}
    (hproject : Project.ofJson project.toJson = .ok project)
    (hcomponent : Component.ofJson component.toJson = .ok component) (place : Nat) :
    Project.ofJson (project.setComponent component place).toJson =
      .ok (project.setComponent component place) := by
  rw [Project.ofJson_toJson_iff, Project.allComponents_setComponent] at *
  obtain ⟨hcomponents, hextra⟩ := hproject
  refine ⟨fun other hmem ↦ ?_, ?_⟩
  · rcases List.mem_or_eq_of_mem_set hmem with hmem | rfl
    · exact hcomponents other hmem
    · exact hcomponent
  · cases place <;> exact hextra

/-- A change keeps that a bundle reads back. -/
theorem ofJson_toJson_of_change {bundle next : Bundle} (hchange : Change bundle next)
    (h : Bundle.ofJson bundle.toJson = .ok bundle) : Bundle.ofJson next.toJson = .ok next := by
  obtain ⟨⟨hstrategy, hproject⟩, hextra⟩ := Bundle.ofJson_toJson_iff.mp h
  have hcomponents := Bundle.ofJson_toJson_of_mem h
  cases hchange with
  | resolve hcomponent hislands content =>
    rename_i component before island after
    refine Bundle.ofJson_toJson_iff.mpr
      ⟨⟨hstrategy, ofJson_toJson_setComponent hproject ?_ _⟩, hextra⟩
    obtain ⟨⟨himports, hnode⟩, hextra⟩ := Component.ofJson_toJson_iff.mp
      (hcomponents component (List.mem_of_getElem? hcomponent))
    refine Component.ofJson_toJson_iff.mpr ⟨⟨himports, readsBack_refill hnode ?_⟩, hextra⟩
    have hread := readsBack_of_mem_outermostIslands hnode
    rw [hislands] at hread
    have hisland : (Node.element island).ReadsBack := hread island (by simp)
    intro element hmem
    rcases List.mem_append.mp hmem with hbefore | hcontainer
    · exact hread element (List.mem_append_left _ hbefore)
    · obtain rfl := List.mem_singleton.mp hcontainer
      exact readsBack_container hisland content
  | addImports hcomponent target options =>
    rename_i component
    refine Bundle.ofJson_toJson_iff.mpr
      ⟨⟨hstrategy, ofJson_toJson_setComponent hproject ?_ _⟩, hextra⟩
    exact Component.ofJson_toJson_mergeImports
      (hcomponents component (List.mem_of_getElem? hcomponent))
      (ofJson_toJson_componentImports target options)
  | addPackages packages => exact Bundle.ofJson_toJson_addPackages h packages

/-- Whatever hooks do to a bundle that can be read back, it can be read back. -/
theorem ofJson_toJson_of_changes {bundle final : Bundle}
    (hchanges : Relation.ReflTransGen Change bundle final)
    (h : Bundle.ofJson bundle.toJson = .ok bundle) : Bundle.ofJson final.toJson = .ok final := by
  induction hchanges with
  | refl => exact h
  | tail _ hchange ih => exact ofJson_toJson_of_change hchange ih

/-! ## The changes that hooks make -/

theorem setComponent_self {project : Project} {component : Component} {place : Nat}
    (h : project.allComponents[place]? = some component) :
    project.setComponent component place = project := by
  refine Project.eq_of_frame_of_allComponents (Project.frame_setComponent _ _ _) ?_
  rw [Project.allComponents_setComponent]
  obtain ⟨hplace, rfl⟩ := List.getElem?_eq_some_iff.mp h
  exact List.set_getElem_self hplace

/-- A step of a task makes at most one change. -/
theorem changes_of_step {tools : Tools} {target : Target} {options : Options} {run next : Run}
    (bundle : Bundle) (hstep : Run.Step tools target options run next) :
    Relation.ReflTransGen Change { bundle with project := run.project }
      { bundle with project := next.project } := by
  obtain ⟨place, hcomponent, -, -⟩ := hstep
  rename_i component task
  cases hislands : component.node.outermostIslands with
  | nil =>
    rw [step_of_nil hislands, conclude]
    dsimp only
    split
    · exact .single (.addImports hcomponent target options)
    · rw [setComponent_self hcomponent]
  | cons island rest =>
    cases hwrite : tools.write component.name island with
    | ok content =>
      rw [step_of_ok hislands hwrite]
      have hfirst : component.node.outermostIslands = [] ++ island :: rest := hislands
      exact .single (.resolve hcomponent hfirst content)
    | error failure =>
      rw [step_of_error hislands hwrite, setComponent_self hcomponent]

/-- Every step of a run is a change of the bundle. -/
theorem changes_of_steps {tools : Tools} {target : Target} {options : Options} {run final : Run}
    (bundle : Bundle) (hsteps : Relation.ReflTransGen (Run.Step tools target options) run final) :
    Relation.ReflTransGen Change { bundle with project := run.project }
      { bundle with project := final.project } := by
  induction hsteps with
  | refl => exact .refl
  | tail _ hstep ih => exact ih.trans (changes_of_step bundle hstep)

/-- Resolving a project is a run of its tasks, so it is made of single changes. -/
theorem changes_resolveProject (tools : Tools) (target : Target) (options : Options)
    (bundle : Bundle) :
    Relation.ReflTransGen Change bundle
      { bundle with project := (resolveProject tools target options bundle.project).project } := by
  obtain ⟨final, hsteps, hfinished⟩ :=
    (Run.settles_start tools target options bundle.project).exists_finished
  rw [project_resolveProject, ← ((Run.settles_start tools target options bundle.project).steps
    hsteps).project_eq hfinished]
  exact changes_of_steps bundle hsteps

variable {plugin : Plugin} {bundle : Bundle}

/-- An earlier hook that succeeds leaves the bundle as it is or resolves its project. -/
theorem runBefore_cases {next : Bundle} (h : (plugin.runBefore bundle).result = .ok next) :
    Target.ofId? bundle.strategy.id = none ∧ next = bundle ∨
      ∃ target tools reports, Target.ofId? bundle.strategy.id = some target ∧
        (resolveProject tools target plugin.options bundle.project).result = .ok reports ∧
        next = { bundle with
          project := (resolveProject tools target plugin.options bundle.project).project } := by
  cases hparser : plugin.parserGate.obtain with | mk parsers parser
  cases htarget : Target.ofId? bundle.strategy.id with
  | none =>
    cases parser with
    | error failure => simp [runBefore, hparser] at h
    | ok parser => exact .inl ⟨rfl, by simpa [runBefore, hparser, htarget] using h.symm⟩
  | some target =>
    cases hserializer : plugin.serializerGate.obtain target with | mk serializers serializer
    cases parser with
    | error failure => simp [runBefore, hparser] at h
    | ok parser =>
      cases serializer with
      | error failure => simp [runBefore, hparser, htarget, hserializer] at h
      | ok serializer =>
        let tools : Tools := ⟨parser.value, serializer.value⟩
        have hresult : (plugin.runBefore bundle).result =
            (resolveProject tools target plugin.options bundle.project).result.map fun _ ↦
              { bundle with project :=
                  (resolveProject tools target plugin.options bundle.project).project } := by
          simp [runBefore, hparser, htarget, hserializer, tools]
        rw [h] at hresult
        cases hreports : (resolveProject tools target plugin.options bundle.project).result with
        | error failure => simp [hreports, Except.map] at hresult
        | ok reports =>
          rw [hreports] at hresult
          exact .inr ⟨target, tools, reports, rfl, hreports, Except.ok.inj hresult⟩

/-- The earlier hook gets to its bundle by single changes. -/
theorem changes_runBefore {next : Bundle} (h : (plugin.runBefore bundle).result = .ok next) :
    Relation.ReflTransGen Change bundle next := by
  rcases runBefore_cases h with ⟨-, rfl⟩ | ⟨target, tools, _, -, -, rfl⟩
  · exact .refl
  · exact changes_resolveProject tools target plugin.options bundle

/-- The later hook gets to its bundle by single changes as well. -/
theorem changes_runAfter (plugin : Plugin) (bundle : Bundle) :
    Relation.ReflTransGen Change bundle (plugin.runAfter bundle) := by
  unfold runAfter
  split
  · exact .refl
  · exact .single (.addPackages _)

/-! ## Chains of hooks -/

/-- The hooks of a plugin. -/
inductive Hook
  | before
  | after
deriving DecidableEq, Repr

def Hook.run (plugin : Plugin) (bundle : Bundle) : Hook → Outcome Bundle
  | .before => plugin.runBefore bundle
  | .after => { plugin, result := .ok (plugin.runAfter bundle) }

def Hook.runJson (plugin : Plugin) (json : Json) : Hook → Outcome Json
  | .before => plugin.runBeforeJson json
  | .after => { plugin, result := plugin.runAfterJson json }

/-- The outcomes of hooks that run one after the other, each on the plugin and the result that the
one before it has left. The first failure ends the chain. -/
def chain {α : Type} (run : Plugin → α → Hook → Outcome α) (plugin : Plugin) (given : α) :
    List Hook → List (Outcome α)
  | [] => []
  | hook :: hooks =>
    let outcome := run plugin given hook
    match outcome.result with
    | .ok next => outcome :: chain run outcome.plugin next hooks
    | .error _ => [outcome]

theorem readBundle_eq_ok_iff {json : Json} {bundle : Bundle} :
    readBundle json = .ok bundle ↔ Bundle.ofJson json = .ok bundle := by
  unfold readBundle
  cases Bundle.ofJson json <;> simp

/-- A hook on JSON that can be read runs on what is read. -/
theorem runJson_of_read {json : Json} (h : readBundle json = .ok bundle) (hook : Hook) :
    Hook.runJson plugin json hook = (Hook.run plugin bundle hook).map Bundle.toJson := by
  cases hook with
  | before => rw [Hook.runJson, runBeforeJson, h, Hook.run]
  | after => rw [Hook.runJson, runAfterJson, h]; rfl

/-- A bundle that cannot be read is refused before the plugin is touched. -/
theorem runJson_of_failure {json : Json} {failure : Failure}
    (h : readBundle json = .error failure) (hook : Hook) :
    Hook.runJson plugin json hook = { plugin, result := .error failure } := by
  cases hook with
  | before => rw [Hook.runJson, runBeforeJson, h]
  | after => rw [Hook.runJson, runAfterJson, h]; rfl

theorem changes_run {hook : Hook} {next : Bundle}
    (h : (Hook.run plugin bundle hook).result = .ok next) :
    Relation.ReflTransGen Change bundle next := by
  cases hook with
  | before => exact changes_runBefore h
  | after => exact Except.ok.inj h ▸ changes_runAfter plugin bundle

/-- Every result along a chain of hooks is reached by single changes. -/
theorem changes_chain {hooks : List Hook} {outcome : Outcome Bundle} {next : Bundle}
    (hmem : outcome ∈ chain Hook.run plugin bundle hooks) (h : outcome.result = .ok next) :
    Relation.ReflTransGen Change bundle next := by
  induction hooks generalizing plugin bundle with
  | nil => cases hmem
  | cons hook hooks ih =>
    rw [chain] at hmem
    split at hmem
    · rename_i second hsecond
      rcases List.mem_cons.mp hmem with rfl | hmem
      · exact changes_run h
      · exact (changes_run hsecond).trans (ih hmem)
    · obtain rfl := List.mem_singleton.mp hmem
      exact changes_run h

/-- A chain of hooks on JSON that is read as a bundle, where every bundle that the hooks reach reads
back: between two hooks nothing is lost. -/
theorem chain_runJson_of_read {json : Json} (hread : readBundle json = .ok bundle)
    (hback : Bundle.ofJson bundle.toJson = .ok bundle) (hooks : List Hook) :
    chain Hook.runJson plugin json hooks =
      (chain Hook.run plugin bundle hooks).map (Outcome.map Bundle.toJson) := by
  induction hooks generalizing plugin json bundle with
  | nil => rfl
  | cons hook hooks ih =>
    rw [chain, chain, runJson_of_read hread]
    cases hresult : (Hook.run plugin bundle hook).result with
    | error failure => simp [Outcome.map, hresult, Except.map]
    | ok next =>
      have hnext := ofJson_toJson_of_changes (changes_run hresult) hback
      simp only [Outcome.map, hresult, Except.map, List.map_cons]
      rw [ih (readBundle_eq_ok_iff.mpr hnext) hnext]

/-- Hooks that run on JSON, each on what the one before it has written, come to the same outcomes as
hooks that run on the bundle that is read at the start: the same results once written, the same
failure at the same place, the same plugins and uses of collaborators. JSON that is no bundle is
refused by the first hook. The reason is that every bundle that single changes make of the one read
at the start reads back, and that the hooks make no other changes. -/
theorem chain_runJson_eq (plugin : Plugin) (json : Json) (hooks : List Hook) :
    (chain Hook.runJson plugin json hooks =
      match readBundle json with
      | .ok bundle => (chain Hook.run plugin bundle hooks).map (Outcome.map Bundle.toJson)
      | .error failure => (hooks.take 1).map fun _ ↦ { plugin, result := .error failure }) ∧
    ∀ bundle, readBundle json = .ok bundle →
      (∀ next, Relation.ReflTransGen Change bundle next → readBundle next.toJson = .ok next) ∧
      ∀ outcome ∈ chain Hook.run plugin bundle hooks, ∀ next, outcome.result = .ok next →
        Relation.ReflTransGen Change bundle next := by
  have hback {bundle : Bundle} (hread : readBundle json = .ok bundle) :
      Bundle.ofJson bundle.toJson = .ok bundle :=
    Bundle.ofJson_toJson_of_read (readBundle_eq_ok_iff.mp hread)
  refine ⟨?_, fun bundle hread ↦ ⟨fun next hchanges ↦ ?_, fun outcome hmem next h ↦ ?_⟩⟩
  · cases hread : readBundle json with
    | ok bundle => exact chain_runJson_of_read hread (hback hread) hooks
    | error failure =>
      cases hooks with
      | nil => rfl
      | cons hook hooks => rw [chain, runJson_of_failure hread]; rfl
  · exact readBundle_eq_ok_iff.mpr (ofJson_toJson_of_changes hchanges (hback hread))
  · exact changes_chain hmem h

/-- A plugin whose collaborators take all markup as text. -/
def plainTextPlugin : Plugin where
  parserGate := { loader := fun _ ↦ .ok plainTextTools.parser }
  serializerGate := { loader := fun _ _ ↦ .ok plainTextTools.serializer }

/-- A bundle with an absent field written as null, a condition written as a pair and a list, and a
slot with members that are no fields. -/
def looseForms : Json :=
  .object [("dependencies", .null), ("strategy", .object [("id", .text "react")]),
    ("uidl", .object [("root", .object [("name", .text "Root"), ("node",
      .object [("content", .object [("fallback",
          .array [.text "conditional", .array [(islandOf "a & b" []).toJson, .null]]),
          ("key", .text "1")]),
        ("id", .text "2"), ("type", .text "slot")])])])]

def looseBundle : Bundle where
  project :=
    { root :=
        { name := "Root"
          node := .slot none (some (.conditional (islandOf "a & b" []) none none)) } }
  strategy := { id := "react" }

/-- Between the hooks the loose forms have become plain ones, and the outcomes are the same. -/
theorem chain_runJson_looseForms :
    readBundle looseForms = .ok looseBundle ∧
      chain Hook.runJson plainTextPlugin looseForms [.before, .after, .before] =
        (chain Hook.run plainTextPlugin looseBundle [.before, .after, .before]).map
          (Outcome.map Bundle.toJson) ∧
      (chain Hook.run plainTextPlugin looseBundle [.before, .after, .before]).length = 3 ∧
      readBundle (looseBundle.addPackages (.singleton "dangerous-html" "^0.1.13")).toJson =
        .ok (looseBundle.addPackages (.singleton "dangerous-html" "^0.1.13")) := by
  have hread : readBundle looseForms = .ok looseBundle := rfl
  obtain ⟨hchain, hbundle⟩ :=
    chain_runJson_eq plainTextPlugin looseForms [.before, .after, .before]
  rw [hread] at hchain
  exact ⟨hread, hchain, rfl, (hbundle looseBundle hread).1 _ (.single (.addPackages _))⟩

end Plugin

end MarkupIslands
