import MarkupIslands.Plugin.Hooks

/-!
# Projects for targets that are not supported

A project whose target is not supported is to pass through both hooks as it is. The later hook looks
at the target first and lets it pass. The earlier hook obtains the parser first, so the project
passes exactly if the parser is there or can be loaded now; otherwise the failed load is reported.
Once the parser has been loaded it stays, and from then on every such project passes.
-/

namespace MarkupIslands

open MarkupIslands.Island MarkupIslands.Ui

namespace Island.Target

def supportedIds : List String := ids.map Prod.fst

theorem ofId?_eq_none_iff (id : String) : ofId? id = none ↔ id ∉ supportedIds := by
  rw [ofId?, List.lookup_eq_none_iff, supportedIds, List.mem_map]
  constructor
  · rintro hnone ⟨entry, hentry, rfl⟩
    exact absurd (hnone entry hentry) (by simp)
  · intro hid entry hentry
    apply bne_iff_ne.mpr
    rintro rfl
    exact hid ⟨entry, hentry, rfl⟩

end Island.Target

namespace Plugin

/-! ## The gate to the parser -/

namespace ParserGate

variable {gate : ParserGate}

/-- Whether the parser is there or the next load brings it. -/
def CanOpen (gate : ParserGate) : Prop :=
  gate.isLoaded ∨ ∃ parser, gate.loader (gate.loads + 1) = .ok parser

theorem obtain_of_loaded {parser : Loaded Parser} (h : gate.parser = some parser) :
    gate.obtain = (gate, .ok parser) := by
  rw [ParserGate.obtain, h]

/-- Obtaining the parser succeeds exactly if the gate can open. -/
theorem exists_obtain_eq_ok_iff : (∃ parser, gate.obtain.2 = .ok parser) ↔ gate.CanOpen := by
  rcases gate with ⟨loader, loads, _ | parser⟩
  · cases hload : loader (loads + 1) <;> simp [CanOpen, isLoaded, ParserGate.obtain, hload]
  · simp [CanOpen, isLoaded, ParserGate.obtain]

/-- A gate that is open stays open. -/
theorem isLoaded_obtain (h : gate.isLoaded) : gate.obtain.1.isLoaded := by
  obtain ⟨parser, hparser⟩ := Option.isSome_iff_exists.mp h
  rwa [obtain_of_loaded hparser]

/-- A gate is open once the parser has been obtained. -/
theorem isLoaded_of_obtain_eq_ok {parser : Loaded Parser} (h : gate.obtain.2 = .ok parser) :
    gate.obtain.1.isLoaded := by
  rcases gate with ⟨loader, loads, _ | loaded⟩
  · cases hload : loader (loads + 1) with
    | error failure => simp [ParserGate.obtain, hload] at h
    | ok value => simp [ParserGate.obtain, hload, isLoaded]
  · rfl

end ParserGate

/-! ## One run of a hook -/

variable {plugin : Plugin} {bundle : Bundle}

/-- Every run of the earlier hook obtains the parser. -/
theorem parserGate_runBefore (plugin : Plugin) (bundle : Bundle) :
    (plugin.runBefore bundle).plugin.parserGate = plugin.parserGate.obtain.1 := by
  unfold runBefore
  rcases plugin.parserGate.obtain with ⟨gate, failure | parser⟩
  · rfl
  · cases Target.ofId? bundle.strategy.id with
    | none => rfl
    | some target =>
      rcases hserializer : plugin.serializerGate.obtain target with
        ⟨serializers, failure | serializer⟩ <;> simp only [hserializer]

/-- Without a target the earlier hook obtains the parser and does nothing else. -/
theorem runBefore_of_ofId?_eq_none (h : Target.ofId? bundle.strategy.id = none) :
    plugin.runBefore bundle =
      { plugin := { plugin with parserGate := plugin.parserGate.obtain.1 }
        result := plugin.parserGate.obtain.2.map fun _ ↦ bundle } := by
  unfold runBefore
  rcases plugin.parserGate.obtain with ⟨gate, failure | parser⟩
  · rfl
  · rw [h]
    rfl

theorem runAfter_of_ofId?_eq_none (h : Target.ofId? bundle.strategy.id = none) :
    plugin.runAfter bundle = bundle := by
  rw [runAfter, h]

/-- A project without a target passes exactly if the parser can be loaded. -/
theorem result_runBefore_eq_ok_iff (h : bundle.strategy.id ∉ Target.supportedIds) :
    (plugin.runBefore bundle).result = .ok bundle ↔ plugin.parserGate.CanOpen := by
  have hnone := (Target.ofId?_eq_none_iff bundle.strategy.id).mpr h
  rw [runBefore_of_ofId?_eq_none hnone, ← ParserGate.exists_obtain_eq_ok_iff]
  cases plugin.parserGate.obtain.2 <;> simp [Except.map]

/-- A project for a target that is not supported passes the later hook, and the earlier one exactly
if the parser is there or can be loaded now. Otherwise the earlier hook reports the failed load.
Neither hook uses the parser or a serializer, and none of the serializers is loaded. -/
theorem unsupported_passes_iff_parser_loads (plugin : Plugin) (bundle : Bundle)
    (h : bundle.strategy.id ∉ Target.supportedIds) :
    ((plugin.runBefore bundle).result = .ok bundle ↔ plugin.parserGate.CanOpen) ∧
      (∀ failure, (plugin.runBefore bundle).result = .error failure ↔
        plugin.parserGate.obtain.2 = .error failure) ∧
      (plugin.runBefore bundle).calls = [] ∧
      (plugin.runBefore bundle).plugin.serializerGate = plugin.serializerGate ∧
      plugin.runAfter bundle = bundle := by
  have hnone := (Target.ofId?_eq_none_iff bundle.strategy.id).mpr h
  refine ⟨result_runBefore_eq_ok_iff h, ?_⟩
  rw [runBefore_of_ofId?_eq_none hnone]
  refine ⟨?_, rfl, rfl, runAfter_of_ofId?_eq_none hnone⟩
  intro failure
  cases plugin.parserGate.obtain.2 <;> simp [Except.map]

/-- The parser of a plugin fails to load at its first try. -/
def failingFirstLoad : Plugin where
  parserGate :=
    { loader := fun load ↦
        if load ≤ 1 then .error (.parserLoad "attempt 1") else .ok defaultParser }

def emptyBundle (target : String) : Bundle where
  project := { root := { name := "Root", node := .element { elementType := "container" } } }
  strategy := { id := target }

/-- A failed load is reported for a project that no collaborator is needed for. -/
theorem runBefore_failingFirstLoad :
    "vue" ∉ Target.supportedIds ∧
      ¬ failingFirstLoad.parserGate.CanOpen ∧
      (failingFirstLoad.runBefore (emptyBundle "vue")).result ≠ .ok (emptyBundle "vue") := by
  have hclosed : ¬ failingFirstLoad.parserGate.CanOpen := by
    rintro (hloaded | ⟨parser, hparser⟩)
    · cases hloaded
    · cases hparser
  refine ⟨by decide, hclosed, fun hpasses ↦ hclosed ?_⟩
  exact (unsupported_passes_iff_parser_loads failingFirstLoad (emptyBundle "vue")
    (by decide)).1.mp hpasses

/-- Not every project for a target that is not supported passes through the earlier hook. -/
theorem unsupported_does_not_always_pass :
    ¬ ∀ (plugin : Plugin) (bundle : Bundle), bundle.strategy.id ∉ Target.supportedIds →
      (plugin.runBefore bundle).result = .ok bundle ∧ plugin.runAfter bundle = bundle ∧
        (plugin.runBefore bundle).calls = [] := by
  intro hpasses
  have hresult := (hpasses failingFirstLoad (emptyBundle "vue") (by decide)).1
  cases hresult

/-! ## Runs one after the other -/

/-- The plugin after it has run the earlier hook on some projects. -/
def afterRuns (plugin : Plugin) (bundles : List Bundle) : Plugin :=
  bundles.foldl (fun plugin bundle ↦ (plugin.runBefore bundle).plugin) plugin

/-- A parser that is loaded stays loaded. -/
theorem isLoaded_runBefore (bundle : Bundle) (h : plugin.parserGate.isLoaded) :
    (plugin.runBefore bundle).plugin.parserGate.isLoaded := by
  rw [parserGate_runBefore]
  exact ParserGate.isLoaded_obtain h

theorem isLoaded_afterRuns (bundles : List Bundle) (h : plugin.parserGate.isLoaded) :
    (plugin.afterRuns bundles).parserGate.isLoaded := by
  induction bundles generalizing plugin with
  | nil => exact h
  | cons bundle bundles ih => exact ih (isLoaded_runBefore bundle h)

/-- Once a run has obtained the parser, every later project for a target that is not supported
passes. -/
theorem runBefore_afterRuns_of_obtained {parser : Loaded Parser} (first : Bundle)
    (between : List Bundle) (hparser : plugin.parserGate.obtain.2 = .ok parser)
    (h : bundle.strategy.id ∉ Target.supportedIds) :
    (((plugin.runBefore first).plugin.afterRuns between).runBefore bundle).result = .ok bundle := by
  have hloaded : (plugin.runBefore first).plugin.parserGate.isLoaded := by
    rw [parserGate_runBefore]
    exact ParserGate.isLoaded_of_obtain_eq_ok hparser
  apply (result_runBefore_eq_ok_iff h).mpr
  exact .inl (isLoaded_afterRuns between hloaded)

end Plugin

end MarkupIslands
