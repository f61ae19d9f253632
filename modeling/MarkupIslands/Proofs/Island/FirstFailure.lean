import Mathlib.Data.List.Basic
import MarkupIslands.Jsx.Print
import MarkupIslands.Proofs.Island.Repetition

/-!
# The first failure of a component

A resolution that fails stops at the first island that cannot be resolved. The islands before it
have given way to their containers, it and everything after it stay as they were, and so do the
name, the imports and the foreign fields of the component. What the parser is asked to read up to
then is the markup of these islands, each once and in document order.
-/

namespace MarkupIslands.Island

open MarkupIslands.Ui

/-- The markup of an element, if the element carries it as a text. -/
def markupText? (element : Element) : Option String :=
  (element.attributes.get? markupAttribute).bind Value.text?

/-- The text that a use of the parser reads. -/
def Call.readText? : Call → Option String
  | .parse text => some text
  | .serialize _ => none

/-- The uses of the collaborators for one island, up to a failure. -/
def Tools.callsFor (tools : Tools) (component : String) (island : Element) : List Call :=
  match markup island component with
  | .error _ => []
  | .ok text =>
    match tools.parser text with
    | .error _ => [.parse text]
    | .ok tree => [.parse text, .serialize tree]

def Tools.Fails (tools : Tools) (failure : Failure) : Call → Prop
  | .parse text => tools.parser text = .error failure
  | .serialize tree => tools.serializer tree = .error failure

variable {tools : Tools} {component : String}

/-! ## One island -/

/-- An island has the attribute of its markup, so the only thing that can be wrong with it is that
the attribute holds no text. -/
theorem markup_of_isIsland {island : Element} (h : island.isIsland) (component : String) :
    markup island component =
      match markupText? island with
      | some text => .ok text
      | none => .error (.invalidNode component "`html` attribute content is not a string") := by
  have hattribute : (island.attributes.get? markupAttribute).isSome := by
    rw [ElementOf.isIsland, Bool.and_eq_true] at h
    exact h.2
  obtain ⟨value, hvalue⟩ := Option.isSome_iff_exists.mp hattribute
  cases htext : value.text? <;>
    simp only [markup, markupText?, hvalue, Option.bind_some, htext]

/-- An element whose markup is no text is an invalid node. -/
theorem exists_message_of_markup_eq_error {element : Element} {failure : Failure}
    (h : markup element component = .error failure) :
    ∃ message, failure = .invalidNode component message := by
  unfold markup at h
  split at h
  · split at h
    · cases h
    · exact ⟨_, (Except.error.inj h).symm⟩
  · exact ⟨_, (Except.error.inj h).symm⟩

theorem write_eq_ok_iff_of_isIsland {island : Element} (h : island.isIsland) {content : String} :
    tools.write component island = .ok content ↔
      ∃ text tree, markupText? island = some text ∧ tools.parser text = .ok tree ∧
        tools.serializer tree = .ok content := by
  rw [write_eq_ok_iff, markup_of_isIsland h]
  cases markupText? island <;> simp

/-- The three causes for which an island cannot be resolved. -/
theorem write_eq_error_iff_of_isIsland {island : Element} (h : island.isIsland)
    {failure : Failure} :
    tools.write component island = .error failure ↔
      markupText? island = none ∧
          failure = .invalidNode component "`html` attribute content is not a string" ∨
        ∃ text, markupText? island = some text ∧
          (tools.parser text = .error failure ∨
            ∃ tree, tools.parser text = .ok tree ∧ tools.serializer tree = .error failure) := by
  rw [Tools.write, markup_of_isIsland h]
  cases markupText? island with
  | none => simp [bind, Except.bind, eq_comm]
  | some text => cases hparse : tools.parser text <;> simp [bind, Except.bind, hparse]

/-- The uses for an island depend on the island alone, not on what has come before it. -/
theorem calls_resolveIsland (progress : Progress) (island : Element) :
    (resolveIsland tools component progress island).1.calls =
      progress.calls ++ tools.callsFor component island := by
  unfold resolveIsland Tools.callsFor
  cases markup island component with
  | error failure => simp
  | ok text =>
    cases hparse : tools.parser text with
    | error failure => simp [hparse, Progress.log]
    | ok tree =>
      cases hserialize : tools.serializer tree <;> simp [hparse, hserialize, Progress.log]

/-- A failure comes from an island that is not formed as it should be, or from a collaborator that
is used. -/
theorem cause_of_write_eq_error {island : Element} {failure : Failure}
    (h : tools.write component island = .error failure) :
    (∃ message, failure = .invalidNode component message) ∨
      ∃ call ∈ tools.callsFor component island, tools.Fails failure call := by
  unfold Tools.write at h
  unfold Tools.callsFor
  cases hmarkup : markup island component with
  | error other =>
    rw [hmarkup] at h
    obtain rfl := Except.error.inj h
    exact .inl (exists_message_of_markup_eq_error hmarkup)
  | ok text =>
    right
    cases hparse : tools.parser text with
    | error other =>
      refine ⟨.parse text, by simp [hparse], ?_⟩
      simpa [Tools.Fails, hmarkup, hparse, bind, Except.bind] using h
    | ok tree =>
      refine ⟨.serialize tree, by simp [hparse], ?_⟩
      simpa [Tools.Fails, hmarkup, hparse, bind, Except.bind] using h

/-- The parser reads the markup of an island once, if the markup is a text. -/
theorem filterMap_readText?_callsFor {island : Element} (h : island.isIsland) :
    (tools.callsFor component island).filterMap Call.readText? = (markupText? island).toList := by
  rw [Tools.callsFor, markup_of_isIsland h]
  cases markupText? island with
  | none => rfl
  | some text => cases hparse : tools.parser text <;> simp [hparse, Call.readText?]

/-! ## Islands one after the other -/

/-- The collaborators are used for the resolved islands and for the one that failed, if any. -/
theorem calls_resolveIslands (progress : Progress) (islands : List Element) :
    let walked := resolveIslands tools component progress islands
    walked.state.calls = progress.calls ++
      (islands.take (walked.value.length + 1)).flatMap (tools.callsFor component) := by
  induction islands generalizing progress with
  | nil => simp [resolveIslands]
  | cons island rest ih =>
    cases hwrite : tools.write component island with
    | error failure =>
      simp [resolveIslands_cons_error hwrite, calls_resolveIsland]
    | ok content =>
      simp only [resolveIslands_cons_ok hwrite, Walked.map, List.length_cons]
      rw [ih, calls_resolveIsland, List.take_succ_cons, List.flatMap_cons, List.append_assoc]

/-- A walk that fails has an island that it failed on: those before it could be written, and it
could not. -/
theorem exists_first_failure {progress : Progress} {islands : List Element} {failure : Failure}
    (h : (resolveIslands tools component progress islands).failure = some failure) :
    ∃ resolved failing rest, islands = resolved ++ failing :: rest ∧
      (∀ island ∈ resolved, ∃ content, tools.write component island = .ok content) ∧
      tools.write component failing = .error failure := by
  induction islands generalizing progress with
  | nil => cases h
  | cons island rest ih =>
    cases hwrite : tools.write component island with
    | error other =>
      rw [resolveIslands_cons_error hwrite, Option.some.injEq] at h
      exact ⟨[], island, rest, rfl, by simp, h ▸ hwrite⟩
    | ok content =>
      rw [resolveIslands_cons_ok hwrite] at h
      obtain ⟨resolved, failing, after, rfl, hresolved, hfailing⟩ := ih h
      refine ⟨island :: resolved, failing, after, rfl, ?_, hfailing⟩
      exact List.forall_mem_cons.mpr ⟨⟨content, hwrite⟩, hresolved⟩

/-- If all islands can be resolved, their contents are a function of the islands. -/
theorem exists_content {islands : List Element}
    (h : ∀ island ∈ islands, ∃ content, tools.write component island = .ok content) :
    ∃ content : Element → String,
      ∀ island ∈ islands, tools.write component island = .ok (content island) := by
  refine ⟨fun island ↦ (tools.write component island).toOption.getD "", fun island hmem ↦ ?_⟩
  obtain ⟨text, htext⟩ := h island hmem
  simp only [htext]
  rfl

/-- What is put into the places of the islands before the first that fails. -/
theorem value_resolveIslands_of_failing {content : Element → String} {resolved : List Element}
    (h : ∀ island ∈ resolved, tools.write component island = .ok (content island))
    {failing : Element} {failure : Failure}
    (hfailing : tools.write component failing = .error failure) (progress : Progress)
    (rest : List Element) :
    (resolveIslands tools component progress (resolved ++ failing :: rest)).value =
      resolved.map fun island ↦ container island (content island) := by
  have hnone : (resolveIslands tools component progress resolved).failure = none :=
    (failure_resolveIslands_eq_none_iff progress resolved).mpr
      fun island hmem ↦ ⟨_, h island hmem⟩
  rw [resolveIslands_append hnone, resolveIslands_cons_error hfailing, Walked.map,
    List.append_nil, value_resolveIslands h]

/-! ## Components -/

/-- The places after the resolved islands are filled with what stands there. -/
theorem refill_containers_append {node : Node} {resolved rest : List Element}
    (h : node.outermostIslands = resolved ++ rest) (content : Element → String) :
    node.refill (resolved.map (fun island ↦ container island (content island)) ++ rest) =
      node.refill (resolved.map fun island ↦ container island (content island)) := by
  have hrest : rest = node.outermostIslands.drop
      (resolved.map fun island ↦ container island (content island)).length := by
    rw [h, List.length_map, List.drop_left]
  rw [hrest]
  apply refill_append_drop
  intro element hmem
  obtain ⟨island, -, rfl⟩ := List.mem_map.mp hmem
  exact outermostIslands_container island (content island)

theorem isIsland_of_mem_outermostIslands {node : Node} {island : Element}
    (h : island ∈ node.outermostIslands) : island.isIsland :=
  (List.mem_filter.mp h).2

/-- The collaborators are used for the islands up to the failing one and for none behind it. -/
theorem calls_resolveComponent_of_failing {target : Target} {options : Options}
    {component : Component} {content : Element → String} {resolved rest : List Element}
    {failing : Element} {failure : Failure}
    (hislands : component.node.outermostIslands = resolved ++ failing :: rest)
    (hresolved : ∀ island ∈ resolved,
      tools.write component.name island = .ok (content island))
    (hfailing : tools.write component.name failing = .error failure) :
    (resolveComponent tools target options component).calls =
      (resolved ++ [failing]).flatMap (tools.callsFor component.name) := by
  have htake : (resolved ++ failing :: rest).take (resolved.length + 1) =
      resolved ++ [failing] := by
    rw [List.take_length_add_append, List.take_succ_cons, List.take_zero]
  calc
    (resolveComponent tools target options component).calls =
        (resolveIslands tools component.name {} component.node.outermostIslands).state.calls := by
      rw [resolveComponent, walk_resolver, conclude]
      split <;> rfl
    _ = (resolved ++ [failing]).flatMap (tools.callsFor component.name) := by
      rw [calls_resolveIslands, hislands, value_resolveIslands_of_failing hresolved hfailing,
        List.length_map, htake]
      rfl

/-- A component fails because it is not formed as it should be or because a collaborator that is
used fails. -/
theorem cause_of_resolveComponent_eq_error {target : Target} {options : Options}
    {component : Component} {failure : Failure}
    (h : (resolveComponent tools target options component).result = .error failure) :
    (∃ message, failure = .invalidNode component.name message) ∨
      ∃ call ∈ (resolveComponent tools target options component).calls,
        tools.Fails failure call := by
  obtain ⟨resolved, failing, rest, hislands, hresolved, hfailing⟩ :=
    exists_first_failure (result_resolveComponent_eq_error_iff.mp h)
  obtain ⟨content, hcontent⟩ := exists_content hresolved
  refine (cause_of_write_eq_error hfailing).imp_right ?_
  rintro ⟨call, hcall, hfails⟩
  rw [calls_resolveComponent_of_failing hislands hcontent hfailing]
  exact ⟨call, List.mem_flatMap.mpr ⟨failing, by simp, hcall⟩, hfails⟩

/-- A project fails on an unreadable island or on a failure that a collaborator answered with. -/
theorem cause_of_resolveProject_eq_error {target : Target} {options : Options}
    {project : Project} {failure : Failure}
    (h : (resolveProject tools target options project).result = .error failure) :
    (∃ name message, failure = .invalidNode name message) ∨
      ∃ call ∈ (resolveProject tools target options project).calls, tools.Fails failure call := by
  rw [result_resolveProject, collect_map_eq_error_iff] at h
  obtain ⟨before, component, after, hcomponents, -, hfailure⟩ := h
  rcases cause_of_resolveComponent_eq_error hfailure with hmessage | ⟨call, hcall, hfails⟩
  · exact .inl ⟨component.name, hmessage⟩
  · right
    rw [calls_resolveProject, hcomponents]
    exact ⟨call, List.mem_flatMap.mpr ⟨component, by simp, hcall⟩, hfails⟩

/-- A component whose resolution fails has been resolved up to the first island that cannot be
resolved. That island carries its markup not as a text, or the parser refuses its markup, or the
serializer refuses what is read, and the failure is the one of that cause. The islands before it
have become containers of their written markup; nothing else of the component is changed, neither
its other islands nor its imports, whatever the resolved islands need. The parser has read the
markup of the resolved islands, then that of the failing one if it is a text, and nothing more. -/
theorem resolveComponent_stops_at_first_failure (tools : Tools) (target : Target)
    (options : Options) (component : Component) (failure : Failure)
    (h : (resolveComponent tools target options component).result = .error failure) :
    let resolution := resolveComponent tools target options component
    ∃ (resolved : List Element) (failing : Element) (rest : List Element)
      (content : Element → String),
      component.node.outermostIslands = resolved ++ failing :: rest ∧
      (∀ island ∈ resolved, ∃ text tree, markupText? island = some text ∧
        tools.parser text = .ok tree ∧ tools.serializer tree = .ok (content island)) ∧
      (markupText? failing = none ∧
          failure = .invalidNode component.name "`html` attribute content is not a string" ∨
        ∃ text, markupText? failing = some text ∧
          (tools.parser text = .error failure ∨
            ∃ tree, tools.parser text = .ok tree ∧ tools.serializer tree = .error failure)) ∧
      resolution.component =
        { component with
          node := component.node.refill
            (resolved.map (fun island ↦ container island (content island)) ++ failing :: rest) } ∧
      resolution.calls.filterMap Call.readText? =
        (resolved ++ [failing]).filterMap markupText? := by
  intro resolution
  have hfailure := result_resolveComponent_eq_error_iff.mp h
  obtain ⟨resolved, failing, rest, hislands, hresolved, hfailing⟩ := exists_first_failure hfailure
  obtain ⟨content, hcontent⟩ := exists_content hresolved
  have hisland : ∀ island ∈ resolved ++ failing :: rest, island.isIsland :=
    fun island hmem ↦ isIsland_of_mem_outermostIslands (hislands ▸ hmem)
  refine ⟨resolved, failing, rest, content, hislands, fun island hmem ↦ ?_, ?_, ?_, ?_⟩
  · exact (write_eq_ok_iff_of_isIsland (hisland island (List.mem_append_left _ hmem))).mp
      (hcontent island hmem)
  · exact (write_eq_error_iff_of_isIsland (hisland failing (by simp))).mp hfailing
  · rw [refill_containers_append hislands]
    simp only [resolution, resolveComponent_of_failure hfailure, hislands,
      value_resolveIslands_of_failing hcontent hfailing]
  · rw [calls_resolveComponent_of_failing hislands hcontent hfailing, List.filterMap_flatMap]
    have hsplit : resolved ++ failing :: rest = (resolved ++ [failing]) ++ rest := by simp
    have hread : ∀ island ∈ resolved ++ [failing],
        (tools.callsFor component.name island).filterMap Call.readText? =
          (markupText? island).toList := fun island hmem ↦
      filterMap_readText?_callsFor (hisland island (hsplit ▸ List.mem_append_left rest hmem))
    rw [List.flatMap_congr hread, List.filterMap_eq_flatMap_toList]

/-- Tools that take all markup as the body of a script and write it as a component source. -/
def scriptTools : Tools where
  parser text := .ok [.element "script" .empty [.text text]]
  serializer tree := .ok (Jsx.sourceOfMarkup tree)

/-- A component with three islands, of which the second does not carry its markup as a text. -/
def interruptedIslands : Component where
  name := "App"
  node := .element
    { elementType := "div"
      children := some
        [islandOf "run()" [], .conditional (unreadable "App").node none none,
          islandOf "stop()" []] }

/-- The island before the failure is resolved, and its script brings no import. -/
theorem resolveComponent_interruptedIslands :
    let resolution := resolveComponent scriptTools .react {} interruptedIslands
    resolution.result =
        .error (.invalidNode "App" "`html` attribute content is not a string") ∧
      needsScriptRuntime
        (Jsx.sourceOfMarkup [.element "script" .empty [.text "run()"]]) = true ∧
      resolution.component.importDefinitions = none ∧
      ∃ (resolved : List Element) (failing : Element) (rest : List Element)
        (content : Element → String),
        interruptedIslands.node.outermostIslands = resolved ++ failing :: rest ∧
        (∀ island ∈ resolved, ∃ text tree, markupText? island = some text ∧
          scriptTools.parser text = .ok tree ∧
            scriptTools.serializer tree = .ok (content island)) ∧
        resolution.calls.filterMap Call.readText? =
          (resolved ++ [failing]).filterMap markupText? ∧
        resolution.calls.filterMap Call.readText? = ["run()"] := by
  intro resolution
  obtain ⟨resolved, failing, rest, content, hislands, hresolved, -, -, hread⟩ :=
    resolveComponent_stops_at_first_failure scriptTools .react {} interruptedIslands _ rfl
  exact ⟨rfl, by decide, rfl, resolved, failing, rest, content, hislands, hresolved, hread, rfl⟩

end MarkupIslands.Island
