import MarkupIslands.Proofs.Island.FirstFailure
import MarkupIslands.Proofs.Plugin.LoadsOfCall
import MarkupIslands.Proofs.Plugin.PassThrough

/-!
# The loads of a plugin

Over any calls of its hooks, a plugin loads a collaborator in exactly those calls that ask for it
while none of its loads has succeeded yet. So at most one load of each collaborator succeeds, and
what that load has brought is used from then on. A call in which a load fails uses neither the
parser nor a serializer.
-/

namespace MarkupIslands

open MarkupIslands.Island MarkupIslands.Ui

namespace Plugin

/-- The loads of a collaborator that calls make one after the other. -/
def loadsOver (plugin : Plugin) : List HookCall → Collaborator → List Nat
  | [], _ => []
  | call :: calls, collaborator =>
    plugin.loadsBy call collaborator ++ (call.run plugin).plugin.loadsOver calls collaborator

/-- The plugin after some calls. -/
def afterCalls (plugin : Plugin) (calls : List HookCall) : Plugin :=
  calls.foldl (fun plugin call ↦ (call.run plugin).plugin) plugin

/-- A plugin that has not been called yet. -/
def withLoaders (options : Options) (parserLoader : Nat → Except Failure Parser)
    (serializerLoader : Format → Nat → Except Failure Serializer) : Plugin where
  options := options
  parserGate := { loader := parserLoader }
  serializerGate := { loader := serializerLoader }

variable {plugin : Plugin} {call : HookCall} {collaborator : Collaborator}

/-! ## What the loads leave behind -/

/-- Whether one of some loads of a collaborator has brought the given handle. -/
def Brought (first : Plugin) (collaborator : Collaborator) (loads : List Nat)
    (handle : collaborator.Handle) : Prop :=
  ∃ number ∈ loads, first.loader collaborator number = .ok handle

/-- The plugin is the first one after the given loads, which have brought what it keeps. -/
structure Recorded (first : Plugin) (loads : Collaborator → List Nat) (plugin : Plugin) : Prop where
  options : plugin.options = first.options
  loader (collaborator : Collaborator) : plugin.loader collaborator = first.loader collaborator
  kept (collaborator : Collaborator) :
    (loads collaborator).filter (first.brings collaborator) =
      ((plugin.kept? collaborator).map Loaded.load).toList
  brought (collaborator : Collaborator) (loaded : Loaded collaborator.Handle) :
    plugin.kept? collaborator = some loaded →
      first.loader collaborator loaded.load = .ok loaded.value
  parserLoads : plugin.parserGate.loads = (loads .parser).length
  serializerLoads : plugin.serializerGate.loads =
    (loads (.serializer .markup)).length + (loads (.serializer .jsx)).length

namespace Recorded

variable {first : Plugin} {loads : Collaborator → List Nat}

theorem brings_eq (h : Recorded first loads plugin) (collaborator : Collaborator) :
    plugin.brings collaborator = first.brings collaborator := by
  funext number
  rw [Plugin.brings, h.loader, Plugin.brings]

/-- A call keeps the record if its loads are added to it. -/
theorem run (h : Recorded first loads plugin) (call : HookCall) :
    Recorded first (fun collaborator ↦ loads collaborator ++ plugin.loadsBy call collaborator)
      (call.run plugin).plugin where
  options := (options_run plugin call).trans h.options
  loader collaborator := (loader_run plugin call collaborator).trans (h.loader collaborator)
  kept collaborator := by
    rw [List.filter_append, h.kept, ← h.brings_eq]
    exact kept?_append_loadsBy
  brought collaborator := by
    rw [← h.loader collaborator]
    apply loader_of_kept?_run
    rw [h.loader collaborator]
    exact h.brought collaborator
  parserLoads := by
    rw [parserGate_loads_run, h.parserLoads, List.length_append]
  serializerLoads := by
    rw [serializerGate_loads_run, h.serializerLoads, List.length_append, List.length_append]
    omega

/-- A record can be continued over any number of calls. -/
theorem afterCalls (h : Recorded first loads plugin) (calls : List HookCall) :
    Recorded first (fun collaborator ↦ loads collaborator ++ plugin.loadsOver calls collaborator)
      (plugin.afterCalls calls) := by
  -- the loads so far grow with every call, so they are kept general
  induction calls generalizing loads plugin with
  | nil => simpa [loadsOver, Plugin.afterCalls] using h
  | cons call calls ih =>
    have hrest := ih (h.run call)
    simp only [List.append_assoc] at hrest
    exact hrest

theorem withLoaders (options : Options) (parserLoader : Nat → Except Failure Parser)
    (serializerLoader : Format → Nat → Except Failure Serializer) :
    Recorded (Plugin.withLoaders options parserLoader serializerLoader) (fun _ ↦ [])
      (Plugin.withLoaders options parserLoader serializerLoader) where
  options := rfl
  loader _ := rfl
  kept collaborator := by
    rcases collaborator with _ | _ | _ <;> rfl
  brought collaborator loaded hkept := by
    rcases collaborator with _ | _ | _ <;> cases hkept
  parserLoads := rfl
  serializerLoads := rfl

/-- A collaborator is kept once one of its loads has succeeded. -/
theorem kept?_eq_none_iff (h : Recorded first loads plugin) :
    plugin.kept? collaborator = none ↔
      ∀ number ∈ loads collaborator, ¬ first.brings collaborator number := by
  calc
    plugin.kept? collaborator = none ↔
        ((plugin.kept? collaborator).map Loaded.load).toList = [] := by simp
    _ ↔ ∀ number ∈ loads collaborator, ¬ first.brings collaborator number := by
      rw [← h.kept, List.filter_eq_nil_iff]

theorem isSome_kept?_iff (h : Recorded first loads plugin) :
    (plugin.kept? collaborator).isSome ↔
      ∃ number ∈ loads collaborator, first.brings collaborator number := by
  rw [Option.isSome_iff_ne_none, ne_eq, h.kept?_eq_none_iff]
  simp

/-- A collaborator is brought at most once. -/
theorem length_filter_le (h : Recorded first loads plugin) (collaborator : Collaborator) :
    ((loads collaborator).filter (first.brings collaborator)).length ≤ 1 := by
  rw [h.kept]
  cases plugin.kept? collaborator <;> simp

/-- What is kept has been brought by one of the loads. -/
theorem brought_of_kept? (h : Recorded first loads plugin)
    {loaded : Loaded collaborator.Handle} (hkept : plugin.kept? collaborator = some loaded) :
    first.Brought collaborator (loads collaborator) loaded.value := by
  have hmem : loaded.load ∈ ((plugin.kept? collaborator).map Loaded.load).toList := by
    rw [hkept]
    exact List.mem_singleton_self _
  rw [← h.kept, List.mem_filter] at hmem
  exact ⟨loaded.load, hmem.1, h.brought collaborator loaded hkept⟩

end Recorded

/-! ## Every call -/

theorem map_eq_error_iff {α β : Type} {f : α → β} {result : Except Failure α}
    {failure : Failure} : result.map f = .error failure ↔ result = .error failure := by
  cases result <;> simp [Except.map]

/-- What a call does after the given past loads, if collaborators are loaded until a load of them
has succeeded and not again. -/
structure LoadsOnce (first : Plugin) (past now : Collaborator → List Nat) (call : HookCall)
    (outcome : Outcome Bundle) : Prop where
  /-- The earlier hook loads the parser as long as no load of it has succeeded. -/
  parser_iff : now .parser ≠ [] ↔
    call.hook = .before ∧ ∀ number ∈ past .parser, ¬ first.brings .parser number
  /-- Once the parser is there, the earlier hook loads the serializer for its target as long as no
  load of the serializer of that format has succeeded. -/
  serializer_iff (format : Format) : now (.serializer format) ≠ [] ↔
    call.format? = some format ∧
      (∃ number ∈ past .parser ++ now .parser, first.brings .parser number) ∧
      ∀ number ∈ past (.serializer format), ¬ first.brings (.serializer format) number
  /-- The later hook loads nothing. -/
  later (collaborator : Collaborator) : call.hook = .after → now collaborator = []
  /-- A call loads no collaborator twice. -/
  length_now_le (collaborator : Collaborator) : (now collaborator).length ≤ 1
  /-- At most one load of a collaborator succeeds. -/
  length_successful_le (collaborator : Collaborator) :
    ((past collaborator ++ now collaborator).filter (first.brings collaborator)).length ≤ 1
  /-- There are no other calls of the loader of the parser. -/
  parserGate_loads : outcome.plugin.parserGate.loads = (past .parser ++ now .parser).length
  /-- There are no other calls of the loader of the serializers. -/
  serializerGate_loads : outcome.plugin.serializerGate.loads =
    (past (.serializer .markup) ++ now (.serializer .markup)).length +
      (past (.serializer .jsx) ++ now (.serializer .jsx)).length
  /-- A load that fails ends the call, and no collaborator is used. -/
  failed_load (collaborator : Collaborator) (number : Nat) (failure : Failure) :
    number ∈ now collaborator → first.loader collaborator number = .error failure →
      outcome.result = .error failure ∧ outcome.calls = []
  /-- If no load fails, a project for a target is resolved with what the loads have brought. -/
  resolves (target : Target) : call.hook = .before →
    Target.ofId? call.bundle.strategy.id = some target →
    (∀ collaborator, ∀ number ∈ now collaborator, first.brings collaborator number) →
    ∃ parser serializer,
      first.Brought .parser (past .parser ++ now .parser) parser ∧
      first.Brought (.serializer target.format)
        (past (.serializer target.format) ++ now (.serializer target.format)) serializer ∧
      let resolution :=
        resolveProject ⟨parser, serializer⟩ target first.options call.bundle.project
      outcome.result = resolution.result.map (fun _ ↦
        { call.bundle with project := resolution.project }) ∧
      outcome.calls = resolution.calls
  /-- In the later hook and without a target nothing is resolved. -/
  passes : call.hook = .after ∨ Target.ofId? call.bundle.strategy.id = none → outcome.calls = []
  /-- A call reports a failure to load only if a load fails in it, or if a collaborator that it uses
  answers with such a failure. -/
  load_failure (failure : Failure) : outcome.result = .error failure → failure.isLoadFailure →
    (∃ collaborator, ∃ number ∈ now collaborator,
        first.loader collaborator number = .error failure) ∧ outcome.calls = [] ∨
      ∃ format parser serializer,
        first.Brought .parser (past .parser ++ now .parser) parser ∧
        first.Brought (.serializer format)
          (past (.serializer format) ++ now (.serializer format)) serializer ∧
        ∃ used ∈ outcome.calls, Tools.Fails ⟨parser, serializer⟩ failure used

/-- No parser or serializer that a plugin can load answers a use with a failure to load. -/
def HidesNoLoads (first : Plugin) : Prop :=
  ∀ {format : Format} {parserLoad serializerLoad : Nat} {parser : Parser}
    {serializer : Serializer} {failure : Failure} {used : Call},
    first.loader .parser parserLoad = .ok parser →
      first.loader (.serializer format) serializerLoad = .ok serializer →
      Tools.Fails ⟨parser, serializer⟩ failure used → ¬ failure.isLoadFailure

/-- If collaborators do not report loads of their own, a call that returns a failure to load has
used neither the parser nor a serializer. -/
theorem LoadsOnce.calls_eq_nil {first : Plugin} {past now : Collaborator → List Nat}
    {outcome : Outcome Bundle} (h : LoadsOnce first past now call outcome)
    (hfirst : first.HidesNoLoads) {failure : Failure} (hresult : outcome.result = .error failure)
    (hload : failure.isLoadFailure) : outcome.calls = [] := by
  rcases h.load_failure failure hresult hload with ⟨-, hcalls⟩ | hused
  · exact hcalls
  · obtain ⟨format, parser, serializer, ⟨_, -, hparser⟩, ⟨_, -, hserializer⟩, used, -, hfails⟩ :=
      hused
    exact absurd hload (hfirst hparser hserializer hfails)

/-- The library's own parser and serializers answer every use. -/
theorem hidesNoLoads_of_default {options : Options} {parserLoader : Nat → Except Failure Parser}
    {serializerLoader : Format → Nat → Except Failure Serializer}
    (hparser : ∀ load parser, parserLoader load = .ok parser → parser = defaultParser)
    (hserializer : ∀ format load serializer,
      serializerLoader format load = .ok serializer → serializer = defaultSerializer format) :
    (withLoaders options parserLoader serializerLoader).HidesNoLoads := by
  intro format parserLoad serializerLoad parser serializer failure used hfirst hsecond hfails
  obtain rfl := hparser parserLoad parser hfirst
  obtain rfl := hserializer format serializerLoad serializer hsecond
  cases used with
  | parse text => cases hfails
  | serialize tree => cases format <;> cases hfails

namespace Recorded

variable {first : Plugin} {loads : Collaborator → List Nat}

/-- Where no load of the call fails, the call resolves the project with the collaborators brought so
far. -/
theorem resolves (h : Recorded first loads plugin) {target : Target}
    (hhook : call.hook = .before) (htarget : Target.ofId? call.bundle.strategy.id = some target)
    (hnow : ∀ collaborator, ∀ number ∈ plugin.loadsBy call collaborator,
      first.brings collaborator number) :
    ∃ parser serializer,
      first.Brought .parser (loads .parser ++ plugin.loadsBy call .parser) parser ∧
      first.Brought (.serializer target.format)
        (loads (.serializer target.format) ++ plugin.loadsBy call (.serializer target.format))
        serializer ∧
      let resolution :=
        resolveProject ⟨parser, serializer⟩ target first.options call.bundle.project
      (call.run plugin).result = resolution.result.map (fun _ ↦
        { call.bundle with project := resolution.project }) ∧
      (call.run plugin).calls = resolution.calls := by
  rcases run_cases plugin call with ⟨collaborator, number, hnumber, failure, hfailure, -⟩ |
    ⟨hpasses, -⟩ | ⟨other, parser, serializer, -, hother, hparser, hserializer, hresult, hcalls⟩
  · have hbrings := hnow collaborator number hnumber
    rw [brings, ← h.loader, hfailure] at hbrings
    cases hbrings
  · rw [hhook, htarget] at hpasses
    simp at hpasses
  · obtain rfl := Option.some.inj (hother.symm.trans htarget)
    refine ⟨parser.value, serializer.value, (h.run call).brought_of_kept? hparser,
      (h.run call).brought_of_kept? hserializer, ?_⟩
    rw [← h.options]
    exact ⟨hresult, hcalls⟩

/-- A load failure comes from a load, or from a collaborator that answers a use with one. -/
theorem load_failure (h : Recorded first loads plugin) {failure : Failure}
    (hresult : (call.run plugin).result = .error failure) (hload : failure.isLoadFailure) :
    (∃ collaborator, ∃ number ∈ plugin.loadsBy call collaborator,
        first.loader collaborator number = .error failure) ∧ (call.run plugin).calls = [] ∨
      ∃ format parser serializer,
        first.Brought .parser (loads .parser ++ plugin.loadsBy call .parser) parser ∧
        first.Brought (.serializer format)
          (loads (.serializer format) ++ plugin.loadsBy call (.serializer format)) serializer ∧
        ∃ used ∈ (call.run plugin).calls, Tools.Fails ⟨parser, serializer⟩ failure used := by
  rcases run_cases plugin call with ⟨collaborator, number, hnumber, other, hother, herror⟩ |
    ⟨-, ⟨bundle, hok⟩, -⟩ |
    ⟨target, parser, serializer, -, -, hparser, hserializer, hresolved, hcalls⟩
  · obtain rfl := Except.error.inj (herror.symm.trans hresult)
    refine .inl ⟨⟨collaborator, number, hnumber, ?_⟩, (run_of_failed_load hnumber hother).2⟩
    rw [← h.loader, hother]
  · cases hok.symm.trans hresult
  · refine .inr ⟨target.format, parser.value, serializer.value,
      (h.run call).brought_of_kept? hparser,
      (h.run call).brought_of_kept? hserializer, ?_⟩
    rw [hresolved, map_eq_error_iff] at hresult
    rcases cause_of_resolveProject_eq_error hresult with ⟨name, message, rfl⟩ | hcause
    -- an island that is not formed as it should be is no failure to load
    · cases hload
    · rwa [hcalls]

/-- Every call on a plugin with a record loads as it should. -/
theorem loadsOnce (h : Recorded first loads plugin) (call : HookCall) :
    LoadsOnce first loads (plugin.loadsBy call) call (call.run plugin) where
  parser_iff := by
    rw [loadsBy_ne_nil_iff, h.kept?_eq_none_iff]
    rfl
  serializer_iff format := by
    rw [loadsBy_ne_nil_iff, h.kept?_eq_none_iff, Asks, (h.run call).isSome_kept?_iff, and_assoc]
  later collaborator hhook := by
    refine (idle_of_not_asks fun hasks ↦ ?_).2
    cases collaborator with
    | parser => cases hhook.symm.trans hasks
    | serializer format => cases (format?_eq_none_of_hook hhook).symm.trans hasks.1
  length_now_le _ := length_loadsBy_le
  length_successful_le := (h.run call).length_filter_le
  parserGate_loads := (h.run call).parserLoads
  serializerGate_loads := (h.run call).serializerLoads
  failed_load collaborator number failure hnumber hfailure := by
    apply run_of_failed_load hnumber
    rw [h.loader, hfailure]
  resolves _ := h.resolves
  passes := calls_run_eq_nil
  load_failure _ := h.load_failure

end Recorded

/-- In a plugin with the library's own parser and serializers, whatever has been called before, a
call that returns a failure to load has used neither the parser nor a serializer. -/
theorem calls_run_eq_nil_of_load_failure (options : Options)
    {parserLoader : Nat → Except Failure Parser}
    {serializerLoader : Format → Nat → Except Failure Serializer}
    (hparser : ∀ load parser, parserLoader load = .ok parser → parser = defaultParser)
    (hserializer : ∀ format load serializer,
      serializerLoader format load = .ok serializer → serializer = defaultSerializer format)
    (earlier : List HookCall) {failure : Failure}
    (hresult : (call.run
      ((withLoaders options parserLoader serializerLoader).afterCalls earlier)).result =
        .error failure)
    (hload : failure.isLoadFailure) :
    (call.run ((withLoaders options parserLoader serializerLoader).afterCalls earlier)).calls =
      [] := by
  have hpast := (Recorded.withLoaders options parserLoader serializerLoader).afterCalls earlier
  exact (hpast.loadsOnce call).calls_eq_nil (hidesNoLoads_of_default hparser hserializer) hresult
    hload

/-- Whatever its loaders do and whatever has been called before, a plugin loads each collaborator in
the calls that ask for it until a load of it succeeds, then never again, and resolves every island
with what this load has brought. -/
theorem loadsOnce_run (options : Options) (parserLoader : Nat → Except Failure Parser)
    (serializerLoader : Format → Nat → Except Failure Serializer) (earlier : List HookCall)
    (call : HookCall) :
    let first := withLoaders options parserLoader serializerLoader
    let plugin := first.afterCalls earlier
    LoadsOnce first (first.loadsOver earlier) (plugin.loadsBy call) call (call.run plugin) := by
  intro first plugin
  have hpast : Recorded first (first.loadsOver earlier) plugin :=
    (Recorded.withLoaders options parserLoader serializerLoader).afterCalls earlier
  exact hpast.loadsOnce call

/-- Calls of the earlier hook on projects without content, for the given targets. -/
def emptyCalls (targets : List String) : List HookCall :=
  targets.map fun target ↦ ⟨.before, emptyBundle target⟩

-- the first load of each loader fails, and the script targets share their serializer
example :
    let first := withLoaders {}
      (fun number ↦ if number = 1 then .error (.parserLoad "") else .ok defaultParser)
      (fun format number ↦
        if number = 1 then .error (.serializerLoad format.name "")
        else .ok (defaultSerializer format))
    let loads := first.loadsOver (emptyCalls ["react", "vue", "react", "next", "html", "react"])
    loads .parser = [1, 2] ∧ loads (.serializer .jsx) = [1, 2] ∧
      loads (.serializer .markup) = [3] :=
  ⟨rfl, rfl, rfl⟩

end Plugin

end MarkupIslands
