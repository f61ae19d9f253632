import MarkupIslands.Proofs.Plugin.JsonBoundary
import MarkupIslands.Proofs.Plugin.Obtaining

/-!
# The loads of a call

A call of the earlier hook asks for the parser and, if it has the parser and a target, for the
serializer of that target. Which loads it makes is read off the counters of the gates. A
collaborator is loaded if the call asks for it while nothing is kept of it; a load that fails ends
the call before any collaborator is used.
-/

namespace MarkupIslands

open MarkupIslands.Island MarkupIslands.Ui

namespace Plugin

/-! ## Collaborators and calls -/

/-- What a plugin loads: its parser, and for each format a serializer. -/
inductive Collaborator
  | parser
  | serializer (format : Format)

/-- What a load of a collaborator brings. -/
abbrev Collaborator.Handle : Collaborator → Type
  | .parser => Parser
  | .serializer _ => Serializer

def loader (plugin : Plugin) : (collaborator : Collaborator) →
    Nat → Except Failure collaborator.Handle
  | .parser => plugin.parserGate.loader
  | .serializer format => plugin.serializerGate.loader format

/-- What is kept of a collaborator. -/
def kept? (plugin : Plugin) : (collaborator : Collaborator) → Option (Loaded collaborator.Handle)
  | .parser => plugin.parserGate.parser
  | .serializer format => plugin.serializerGate.loaded? format

/-- The counter of the loader of a collaborator. The serializers have one loader. -/
def loadCount (plugin : Plugin) : Collaborator → Nat
  | .parser => plugin.parserGate.loads
  | .serializer _ => plugin.serializerGate.loads

/-- Whether a load of a collaborator succeeds. -/
def brings (plugin : Plugin) (collaborator : Collaborator) (number : Nat) : Bool :=
  (plugin.loader collaborator number).isOk

structure HookCall where
  hook : Hook
  bundle : Bundle

namespace HookCall

def run (call : HookCall) (plugin : Plugin) : Outcome Bundle :=
  call.hook.run plugin call.bundle

/-- The format that the earlier hook writes markup in. -/
def format? (call : HookCall) : Option Format :=
  match call.hook with
  | .before => (Target.ofId? call.bundle.strategy.id).map Target.format
  | .after => none

/-- Whether a load that the call makes is one of the collaborator. -/
def concerns (call : HookCall) : Collaborator → Bool
  | .parser => true
  | .serializer format => call.format? == some format

end HookCall

/-- The loads of a collaborator that a call makes. -/
def loadsBy (plugin : Plugin) (call : HookCall) (collaborator : Collaborator) : List Nat :=
  if call.concerns collaborator then
    numbersBetween (plugin.loadCount collaborator)
      ((call.run plugin).plugin.loadCount collaborator)
  else []

/-! ## One call -/

/-- The courses that a call can take. -/
inductive Course (plugin : Plugin) (call : HookCall) : Outcome Bundle → Prop
  /-- The later hook leaves the plugin as it is. -/
  | later (hhook : call.hook = .after) :
    Course plugin call { plugin, result := .ok (plugin.runAfter call.bundle) }
  /-- The parser cannot be obtained. -/
  | noParser (hhook : call.hook = .before) {failure : Failure}
    (hparser : plugin.parserGate.obtain.2 = .error failure) :
    Course plugin call
      { plugin := { plugin with parserGate := plugin.parserGate.obtain.1 }
        result := .error failure }
  /-- The target is not supported. -/
  | noTarget (hhook : call.hook = .before) {parser : Loaded Parser}
    (hparser : plugin.parserGate.obtain.2 = .ok parser)
    (htarget : Target.ofId? call.bundle.strategy.id = none) :
    Course plugin call
      { plugin := { plugin with parserGate := plugin.parserGate.obtain.1 }
        result := .ok call.bundle }
  /-- The serializer cannot be obtained. -/
  | noSerializer (hhook : call.hook = .before) {parser : Loaded Parser} {target : Target}
    {failure : Failure} (hparser : plugin.parserGate.obtain.2 = .ok parser)
    (htarget : Target.ofId? call.bundle.strategy.id = some target)
    (hserializer : (plugin.serializerGate.obtain target).2 = .error failure) :
    Course plugin call
      { plugin := { plugin with
          parserGate := plugin.parserGate.obtain.1
          serializerGate := (plugin.serializerGate.obtain target).1 }
        result := .error failure }
  /-- The islands are resolved. -/
  | resolves (hhook : call.hook = .before) {parser : Loaded Parser} {target : Target}
    {serializer : Loaded Serializer} (hparser : plugin.parserGate.obtain.2 = .ok parser)
    (htarget : Target.ofId? call.bundle.strategy.id = some target)
    (hserializer : (plugin.serializerGate.obtain target).2 = .ok serializer)
    {resolution : ProjectResolution}
    (hresolution : resolution = resolveProject ⟨parser.value, serializer.value⟩ target
      plugin.options call.bundle.project) :
    Course plugin call
      { plugin := { plugin with
          parserGate := plugin.parserGate.obtain.1
          serializerGate := (plugin.serializerGate.obtain target).1 }
        result := resolution.result.map fun _ ↦
          { call.bundle with project := resolution.project }
        calls := resolution.calls }

/-- Every call takes one of the courses. -/
theorem course_run (plugin : Plugin) (call : HookCall) :
    Course plugin call (call.run plugin) := by
  cases hhook : call.hook with
  | after =>
    have hlater : Course plugin call _ := .later hhook
    simpa [HookCall.run, hhook, Hook.run] using hlater
  | before =>
    cases hparser : plugin.parserGate.obtain with | mk parserGate parser
    cases parser with
    | error failure =>
      simpa [HookCall.run, hhook, Hook.run, runBefore, hparser] using
        Course.noParser hhook (congrArg Prod.snd hparser)
    | ok parser =>
      cases htarget : Target.ofId? call.bundle.strategy.id with
      | none =>
        simpa [HookCall.run, hhook, Hook.run, runBefore, hparser, htarget] using
          Course.noTarget hhook (congrArg Prod.snd hparser) htarget
      | some target =>
        cases hserializer : plugin.serializerGate.obtain target with | mk serializerGate serializer
        cases serializer with
        | error failure =>
          simpa [HookCall.run, hhook, Hook.run, runBefore, hparser, htarget, hserializer] using
            Course.noSerializer hhook (congrArg Prod.snd hparser) htarget
              (congrArg Prod.snd hserializer)
        | ok serializer =>
          simpa [HookCall.run, hhook, Hook.run, runBefore, hparser, htarget, hserializer] using
            Course.resolves hhook (congrArg Prod.snd hparser) htarget
              (congrArg Prod.snd hserializer) rfl

/-- Whether a call asks for a collaborator. The parser is obtained before a serializer. -/
def Asks (plugin : Plugin) (call : HookCall) : Collaborator → Prop
  | .parser => call.hook = .before
  | .serializer format =>
    call.format? = some format ∧ ((call.run plugin).plugin.kept? .parser).isSome

variable {plugin : Plugin} {call : HookCall} {collaborator : Collaborator}

theorem format?_eq_some {target : Target} (hhook : call.hook = .before)
    (htarget : Target.ofId? call.bundle.strategy.id = some target) :
    call.format? = some target.format := by
  rw [HookCall.format?, hhook, htarget]
  rfl

theorem format?_eq_none_of_hook (hhook : call.hook = .after) : call.format? = none := by
  rw [HookCall.format?, hhook]

theorem format?_eq_none_of_target (htarget : Target.ofId? call.bundle.strategy.id = none) :
    call.format? = none := by
  rw [HookCall.format?, htarget]
  cases call.hook <;> rfl

theorem isSome_parser_obtain {parser : Loaded Parser}
    (h : plugin.parserGate.obtain.2 = .ok parser) : plugin.parserGate.obtain.1.parser.isSome := by
  rw [(plugin.parserGate.obtains.result_eq_ok_iff parser).mp h]
  rfl

theorem parser_obtain_eq_none {failure : Failure}
    (h : plugin.parserGate.obtain.2 = .error failure) :
    plugin.parserGate.obtain.1.parser = none := by
  have hobtains := plugin.parserGate.obtains
  rw [h] at hobtains
  exact hobtains.kept_eq_none

/-- No call changes a loader. -/
theorem loader_run (plugin : Plugin) (call : HookCall) (collaborator : Collaborator) :
    (call.run plugin).plugin.loader collaborator = plugin.loader collaborator := by
  have hcourse := course_run plugin call
  generalize call.run plugin = outcome at *
  cases hcourse <;> cases collaborator <;>
    simp [loader, ParserGate.loader_obtain, SerializerGate.loader_obtain]

theorem options_run (plugin : Plugin) (call : HookCall) :
    (call.run plugin).plugin.options = plugin.options := by
  have hcourse := course_run plugin call
  generalize call.run plugin = outcome at *
  cases hcourse <;> rfl

/-- A collaborator that a call asks for is obtained, and the call fails if it cannot be. -/
theorem obtains_of_asks (h : plugin.Asks call collaborator) :
    ∃ result, Obtains (plugin.loader collaborator) (plugin.loadCount collaborator)
        (plugin.kept? collaborator) ((call.run plugin).plugin.loadCount collaborator)
        ((call.run plugin).plugin.kept? collaborator) result ∧
      ∀ failure, result = .error failure →
        (call.run plugin).result = .error failure ∧ (call.run plugin).calls = [] := by
  have hcourse := course_run plugin call
  cases collaborator with
  | parser =>
    generalize call.run plugin = outcome at *
    cases hcourse with
    | later hhook => exact absurd (hhook.symm.trans h) (by decide)
    | noParser _ hparser =>
      refine ⟨_, plugin.parserGate.obtains, ?_⟩
      rw [hparser]
      rintro failure ⟨⟩
      exact ⟨rfl, rfl⟩
    | noTarget _ hparser | noSerializer _ hparser | resolves _ hparser =>
      exact ⟨_, plugin.parserGate.obtains, by simp [hparser]⟩
  | serializer format =>
    -- without a parser or without a target the call does not get as far as asking
    obtain ⟨hformat, hkept⟩ := h
    generalize call.run plugin = outcome at *
    cases hcourse with
    | later hhook => simp [format?_eq_none_of_hook hhook] at hformat
    | noParser _ hparser => simp [kept?, parser_obtain_eq_none hparser] at hkept
    | noTarget _ _ htarget => simp [format?_eq_none_of_target htarget] at hformat
    | noSerializer hhook _ htarget hserializer =>
      obtain rfl := Option.some.inj ((format?_eq_some hhook htarget).symm.trans hformat)
      refine ⟨_, plugin.serializerGate.obtains _, ?_⟩
      rw [hserializer]
      rintro failure ⟨⟩
      exact ⟨rfl, rfl⟩
    | resolves hhook _ htarget hserializer =>
      obtain rfl := Option.some.inj ((format?_eq_some hhook htarget).symm.trans hformat)
      exact ⟨_, plugin.serializerGate.obtains _, by simp [hserializer]⟩

/-- A call does nothing to a collaborator that it does not ask for. -/
theorem idle_of_not_asks (h : ¬ plugin.Asks call collaborator) :
    (call.run plugin).plugin.kept? collaborator = plugin.kept? collaborator ∧
      plugin.loadsBy call collaborator = [] := by
  have hcourse := course_run plugin call
  cases collaborator with
  | parser =>
    unfold loadsBy
    generalize call.run plugin = outcome at *
    cases hcourse with
    | later => simp
    | noParser hhook | noTarget hhook | noSerializer hhook | resolves hhook =>
      exact absurd hhook h
  | serializer format =>
    unfold Asks at h
    unfold loadsBy
    generalize call.run plugin = outcome at *
    cases hcourse with
    | later | noParser | noTarget => simp [kept?, loadCount]
    | noSerializer hhook hparser htarget | resolves hhook hparser htarget =>
      have hformat := format?_eq_some hhook htarget
      have hne : format ≠ _ := fun heq ↦ h ⟨heq ▸ hformat, isSome_parser_obtain hparser⟩
      refine ⟨SerializerGate.loaded?_obtain_of_ne _ hne, if_neg ?_⟩
      rw [HookCall.concerns, hformat, beq_iff_eq, Option.some.injEq]
      exact fun heq ↦ hne heq.symm

theorem loadsBy_of_asks (h : plugin.Asks call collaborator) :
    plugin.loadsBy call collaborator =
      numbersBetween (plugin.loadCount collaborator)
        ((call.run plugin).plugin.loadCount collaborator) := by
  apply if_pos
  cases collaborator with
  | parser => rfl
  | serializer format => rw [HookCall.concerns, h.1, beq_self_eq_true]

/-- A collaborator is loaded by a call that asks for it while nothing is kept of it. -/
theorem loadsBy_ne_nil_iff :
    plugin.loadsBy call collaborator ≠ [] ↔
      plugin.Asks call collaborator ∧ plugin.kept? collaborator = none := by
  by_cases h : plugin.Asks call collaborator
  · obtain ⟨result, hobtains, -⟩ := obtains_of_asks h
    rw [loadsBy_of_asks h, hobtains.numbers_ne_nil_iff, and_iff_right h]
  · simp [h, (idle_of_not_asks h).2]

/-- A call loads a collaborator at most once. -/
theorem length_loadsBy_le : (plugin.loadsBy call collaborator).length ≤ 1 := by
  by_cases h : plugin.Asks call collaborator
  · obtain ⟨result, hobtains, -⟩ := obtains_of_asks h
    rw [loadsBy_of_asks h]
    exact hobtains.length_numbers_le
  · simp [(idle_of_not_asks h).2]

/-- What is kept after a call is what was kept before it or what the call has loaded. -/
theorem kept?_append_loadsBy :
    ((plugin.kept? collaborator).map Loaded.load).toList ++
        (plugin.loadsBy call collaborator).filter (plugin.brings collaborator) =
      (((call.run plugin).plugin.kept? collaborator).map Loaded.load).toList := by
  by_cases h : plugin.Asks call collaborator
  · obtain ⟨result, hobtains, -⟩ := obtains_of_asks h
    rw [loadsBy_of_asks h]
    exact hobtains.kept_append
  · obtain ⟨hkept, hloads⟩ := idle_of_not_asks h
    rw [hkept, hloads, List.filter_nil, List.append_nil]

theorem loader_of_kept?_run
    (h : ∀ loaded, plugin.kept? collaborator = some loaded →
      plugin.loader collaborator loaded.load = .ok loaded.value) :
    ∀ loaded, (call.run plugin).plugin.kept? collaborator = some loaded →
      plugin.loader collaborator loaded.load = .ok loaded.value := by
  by_cases hasks : plugin.Asks call collaborator
  · obtain ⟨result, hobtains, -⟩ := obtains_of_asks hasks
    exact hobtains.loader_of_kept h
  · rwa [(idle_of_not_asks hasks).1]

/-- A call in which a load fails reports that failure and uses nothing. -/
theorem run_of_failed_load {number : Nat} {failure : Failure}
    (hnumber : number ∈ plugin.loadsBy call collaborator)
    (hfailure : plugin.loader collaborator number = .error failure) :
    (call.run plugin).result = .error failure ∧ (call.run plugin).calls = [] := by
  have hasks : plugin.Asks call collaborator :=
    (loadsBy_ne_nil_iff.mp (List.ne_nil_of_mem hnumber)).1
  obtain ⟨result, hobtains, hresult⟩ := obtains_of_asks hasks
  rw [loadsBy_of_asks hasks] at hnumber
  exact hresult failure ((hobtains.result_eq_error_iff failure).mpr ⟨number, hnumber, hfailure⟩)

/-- The loads of a call are all the calls of the loaders that it makes. -/
theorem parserGate_loads_run :
    (call.run plugin).plugin.parserGate.loads =
      plugin.parserGate.loads + (plugin.loadsBy call .parser).length := by
  have hcourse := course_run plugin call
  unfold loadsBy
  generalize call.run plugin = outcome at *
  cases hcourse with
  | later => simp
  | noParser | noTarget | noSerializer | resolves =>
    exact plugin.parserGate.obtains.add_length_numbers.symm

/-- The common counter of the serializers counts the loads of both. -/
theorem serializerGate_loads_run :
    (call.run plugin).plugin.serializerGate.loads =
      plugin.serializerGate.loads + (plugin.loadsBy call (.serializer .markup)).length +
        (plugin.loadsBy call (.serializer .jsx)).length := by
  have hcourse := course_run plugin call
  unfold loadsBy
  generalize call.run plugin = outcome at *
  cases hcourse with
  | later | noParser | noTarget => simp [loadCount]
  | @noSerializer hhook parser target _ _ htarget | @resolves hhook parser target _ _ htarget =>
    have hadd := (plugin.serializerGate.obtains target).add_length_numbers
    have hformat := format?_eq_some hhook htarget
    cases htarget : target.format <;>
      simp [HookCall.concerns, hformat, htarget, loadCount, hadd]

/-- A call fails in a load, or it has nothing to resolve, or it resolves the project with what is
kept of the parser and of the serializer. -/
theorem run_cases (plugin : Plugin) (call : HookCall) :
    (∃ collaborator, ∃ number ∈ plugin.loadsBy call collaborator, ∃ failure,
        plugin.loader collaborator number = .error failure ∧
          (call.run plugin).result = .error failure) ∨
      (call.hook = .after ∨ Target.ofId? call.bundle.strategy.id = none) ∧
        (∃ bundle, (call.run plugin).result = .ok bundle) ∧ (call.run plugin).calls = [] ∨
      ∃ target parser serializer, call.hook = .before ∧
        Target.ofId? call.bundle.strategy.id = some target ∧
        (call.run plugin).plugin.kept? .parser = some parser ∧
        (call.run plugin).plugin.kept? (.serializer target.format) = some serializer ∧
        let resolution := resolveProject ⟨parser.value, serializer.value⟩ target plugin.options
          call.bundle.project
        (call.run plugin).result = resolution.result.map (fun _ ↦
          { call.bundle with project := resolution.project }) ∧
        (call.run plugin).calls = resolution.calls := by
  have hcourse := course_run plugin call
  generalize hrun : call.run plugin = outcome at hcourse
  cases hcourse with
  | later hhook => exact .inr (.inl ⟨.inl hhook, ⟨_, rfl⟩, rfl⟩)
  | noParser hhook hparser =>
    obtain ⟨number, hnumber, hfailure⟩ :=
      (plugin.parserGate.obtains.result_eq_error_iff _).mp hparser
    refine .inl ⟨.parser, number, ?_, _, hfailure, rfl⟩
    have hasks : plugin.Asks call .parser := hhook
    rw [loadsBy_of_asks hasks, hrun]
    exact hnumber
  | noTarget hhook hparser htarget => exact .inr (.inl ⟨.inr htarget, ⟨_, rfl⟩, rfl⟩)
  | noSerializer hhook hparser htarget hserializer =>
    obtain ⟨number, hnumber, hfailure⟩ :=
      ((plugin.serializerGate.obtains _).result_eq_error_iff _).mp hserializer
    refine .inl ⟨.serializer _, number, ?_, _, hfailure, rfl⟩
    have hasks : plugin.Asks call (.serializer _) :=
      ⟨format?_eq_some hhook htarget, by rw [hrun]; exact isSome_parser_obtain hparser⟩
    rw [loadsBy_of_asks hasks, hrun]
    exact hnumber
  | resolves hhook hparser htarget hserializer hresolution =>
    refine .inr (.inr ⟨_, _, _, hhook, htarget,
      (plugin.parserGate.obtains.result_eq_ok_iff _).mp hparser,
      ((plugin.serializerGate.obtains _).result_eq_ok_iff _).mp hserializer, ?_⟩)
    rw [← hresolution]
    exact ⟨rfl, rfl⟩

theorem calls_run_eq_nil
    (h : call.hook = .after ∨ Target.ofId? call.bundle.strategy.id = none) :
    (call.run plugin).calls = [] := by
  rcases run_cases plugin call with ⟨collaborator, number, hnumber, failure, hfailure, -⟩ |
    ⟨-, -, hcalls⟩ | ⟨target, -, -, hhook, htarget, -⟩
  · exact (run_of_failed_load hnumber hfailure).2
  · exact hcalls
  · rw [hhook, htarget] at h
    simp at h

end Plugin

end MarkupIslands
