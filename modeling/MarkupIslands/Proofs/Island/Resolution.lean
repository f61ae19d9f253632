import MarkupIslands.Island.Resolve
import MarkupIslands.Proofs.Ui.OutermostIslands

/-!
# Resolving a component island by island

The walk over a component does nothing but resolve its outermost islands one after the other and
put the containers in their places (`walk_resolver`). All that a tree contributes is the list of its
outermost islands, so what a resolution does is proved on lists.
-/

namespace MarkupIslands.Island

open MarkupIslands.Ui

def Tools.write (tools : Tools) (component : String) (island : Element) :
    Except Failure String := do
  let text ← markup island component
  let tree ← tools.parser text
  tools.serializer tree

variable (tools : Tools) (component : String)

theorem write_eq_ok_iff {island : Element} {content : String} :
    tools.write component island = .ok content ↔
      ∃ text tree, markup island component = .ok text ∧ tools.parser text = .ok tree ∧
        tools.serializer tree = .ok content := by
  unfold Tools.write
  cases markup island component with
  | error failure => simp [bind, Except.bind]
  | ok text => cases hparse : tools.parser text <;> simp [bind, Except.bind, hparse]

/-- A resolved island is counted, and its written markup is searched for a relocated script. -/
theorem resolveIsland_fst {island : Element} {content : String}
    (h : tools.write component island = .ok content) (progress : Progress) :
    (resolveIsland tools component progress island).1.islands = progress.islands + 1 ∧
      (resolveIsland tools component progress island).1.needsScriptRuntime =
        (progress.needsScriptRuntime || needsScriptRuntime content) := by
  obtain ⟨text, tree, hmarkup, hparse, hserialize⟩ := (write_eq_ok_iff tools component).mp h
  simp [resolveIsland, hmarkup, hparse, hserialize, Progress.log]

/-- An island becomes a container of its written markup, or the walk fails at it. -/
theorem resolveIsland_eq (progress : Progress) (island : Element) :
    resolveIsland tools component progress island =
      ((resolveIsland tools component progress island).1,
        match tools.write component island with
        | .ok content => .become (container island content)
        | .error failure => .fail failure) := by
  refine Prod.ext rfl ?_
  unfold resolveIsland Tools.write
  cases markup island component with
  | error failure => rfl
  | ok text =>
    cases hparse : tools.parser text with
    | error failure => simp [bind, Except.bind, hparse]
    | ok tree =>
      cases hserialize : tools.serializer tree with
      | error failure => simp [bind, Except.bind, hparse, hserialize]
      | ok content => simp [bind, Except.bind, hparse, hserialize]

/-- Resolves islands one after the other, up to the first that fails. The value is the list of the
containers of those that were resolved. -/
def resolveIslands (progress : Progress) : List Element → Walked Progress Failure (List Element)
  | [] => ⟨[], progress, none⟩
  | island :: rest =>
    let next := (resolveIsland tools component progress island).1
    match tools.write component island with
    | .ok content => (resolveIslands next rest).map (container island content :: ·)
    | .error failure => ⟨[], next, some failure⟩

variable {tools component}

theorem resolveIslands_cons_ok {island : Element} {content : String}
    (h : tools.write component island = .ok content) (progress : Progress) (rest : List Element) :
    resolveIslands tools component progress (island :: rest) =
      (resolveIslands tools component (resolveIsland tools component progress island).1 rest).map
        (container island content :: ·) := by
  rw [resolveIslands, h]

theorem resolveIslands_cons_error {island : Element} {failure : Failure}
    (h : tools.write component island = .error failure) (progress : Progress)
    (rest : List Element) :
    resolveIslands tools component progress (island :: rest) =
      ⟨[], (resolveIsland tools component progress island).1, some failure⟩ := by
  rw [resolveIslands, h]

/-- Islands after a failure are not looked at. -/
theorem resolveIslands_append_of_failure {progress : Progress} {islands : List Element}
    {failure : Failure}
    (h : (resolveIslands tools component progress islands).failure = some failure)
    (more : List Element) :
    resolveIslands tools component progress (islands ++ more) =
      resolveIslands tools component progress islands := by
  induction islands generalizing progress with
  | nil => cases h
  | cons island rest ih =>
    cases hwrite : tools.write component island with
    | error _ =>
      rw [List.cons_append, resolveIslands_cons_error hwrite, resolveIslands_cons_error hwrite]
    | ok content =>
      rw [resolveIslands_cons_ok hwrite] at h
      rw [List.cons_append, resolveIslands_cons_ok hwrite, resolveIslands_cons_ok hwrite, ih h]

/-- Islands without a failure can be resolved ahead of the others. -/
theorem resolveIslands_append {progress : Progress} {islands : List Element}
    (h : (resolveIslands tools component progress islands).failure = none) (more : List Element) :
    resolveIslands tools component progress (islands ++ more) =
      (resolveIslands tools component (resolveIslands tools component progress islands).state
        more).map ((resolveIslands tools component progress islands).value ++ ·) := by
  induction islands generalizing progress with
  | nil => rfl
  | cons island rest ih =>
    cases hwrite : tools.write component island with
    | error _ => simp [resolveIslands_cons_error hwrite] at h
    | ok content =>
      rw [resolveIslands_cons_ok hwrite] at h
      rw [List.cons_append, resolveIslands_cons_ok hwrite, resolveIslands_cons_ok hwrite, ih h]
      rfl

theorem length_value_resolveIslands_le (progress : Progress) (islands : List Element) :
    (resolveIslands tools component progress islands).value.length ≤ islands.length := by
  induction islands generalizing progress with
  | nil => exact Nat.le_refl 0
  | cons island rest ih =>
    cases hwrite : tools.write component island with
    | error _ =>
      rw [resolveIslands_cons_error hwrite]
      exact Nat.zero_le _
    | ok content =>
      rw [resolveIslands_cons_ok hwrite]
      exact Nat.succ_le_succ (ih _)

theorem length_value_resolveIslands {progress : Progress} {islands : List Element}
    (h : (resolveIslands tools component progress islands).failure = none) :
    (resolveIslands tools component progress islands).value.length = islands.length := by
  induction islands generalizing progress with
  | nil => rfl
  | cons island rest ih =>
    cases hwrite : tools.write component island with
    | error _ => simp [resolveIslands_cons_error hwrite] at h
    | ok content =>
      rw [resolveIslands_cons_ok hwrite] at h ⊢
      exact congrArg Nat.succ (ih h)

/-- A container is no island, and what it holds has none. -/
theorem outermostIslands_container (island : Element) (content : String) :
    (Node.element (container island content)).outermostIslands = [] := by
  rw [outermostIslands_element, isIsland_container]
  rfl

/-- A container holds no island. -/
theorem outermostIslands_of_mem_resolveIslands {progress : Progress} {islands : List Element}
    {element : Element}
    (h : element ∈ (resolveIslands tools component progress islands).value) :
    (Node.element element).outermostIslands = [] := by
  induction islands generalizing progress with
  | nil => cases h
  | cons island rest ih =>
    cases hwrite : tools.write component island with
    | error _ => simp [resolveIslands_cons_error hwrite] at h
    | ok content =>
      rw [resolveIslands_cons_ok hwrite] at h
      rcases List.mem_cons.mp h with rfl | h
      · exact outermostIslands_container island content
      · exact ih h

/-! ## The walk over a tree -/

theorem visit_resolver (progress : Progress) (node : Node)
    (inside : Progress → Walked Progress Failure Node) :
    (resolver tools component).visit progress node inside = inside progress := rfl

theorem onElement_resolver (progress : Progress) (element : Element) :
    (resolver tools component).onElement progress element =
      if element.isIsland then resolveIsland tools component progress element
      else (progress, .enter element.elementType) := rfl

/-- The step over a list of nodes: each takes the containers of its own islands, and a failure
leaves the nodes behind it as they are. -/
theorem walkNodes_resolver {nodes : List Node}
    (h : ∀ node ∈ nodes, ∀ progress, (resolver tools component).walkInside progress node =
      (resolveIslands tools component progress node.outermostIslands).map
        fun containers ↦ node.refill containers) (progress : Progress) :
    (resolver tools component).walkNodes progress nodes =
      (resolveIslands tools component progress (nodes.flatMap Node.outermostIslands)).map
        fun containers ↦ refillNodes containers nodes := by
  induction nodes generalizing progress with
  | nil => rfl
  | cons node rest ih =>
    have hrest := ih fun node hmem ↦ h node (List.mem_cons_of_mem _ hmem)
    have hfirst : (resolver tools component).visit progress node
        (fun progress ↦ (resolver tools component).walkInside progress node) =
          (resolveIslands tools component progress node.outermostIslands).map
            fun containers ↦ node.refill containers := h node List.mem_cons_self progress
    rw [Visitor.walkNodes, hfirst, List.flatMap_cons]
    cases hfailure :
        (resolveIslands tools component progress node.outermostIslands).failure with
    | none =>
      rw [resolveIslands_append hfailure]
      simp only [Walked.map, hfailure, hrest]
      have hlength := length_value_resolveIslands hfailure
      rw [refillNodes, refill_append _ _ _ (Nat.le_of_eq hlength.symm), List.drop_left' hlength]
    | some failure =>
      rw [resolveIslands_append_of_failure hfailure]
      simp only [Walked.map, hfailure]
      rw [refillNodes, List.drop_eq_nil_of_le (length_value_resolveIslands_le _ _),
        refillNodes_nil]

theorem walkElement_resolver_of_isIsland {island : Element} (h : island.isIsland)
    (progress : Progress) :
    (resolver tools component).walkElement progress island =
      (resolveIslands tools component progress [island]).map (·.headD island) := by
  rw [Visitor.walkElement_eq, onElement_resolver, if_pos h, resolveIsland_eq]
  cases hwrite : tools.write component island with
  | error failure => rw [resolveIslands_cons_error hwrite]; rfl
  | ok content => rw [resolveIslands_cons_ok hwrite]; rfl

theorem walkElement_resolver_of_not_isIsland {element : Element} (h : ¬ element.isIsland)
    (progress : Progress) :
    (resolver tools component).walkElement progress element =
      ((resolver tools component).walkChildren progress element.children).map
        fun children ↦ { element with children } := by
  rw [Visitor.walkElement_eq, onElement_resolver, if_neg h]

/-- Walking a container changes nothing, uses no collaborator and does not fail. -/
theorem walkElement_resolver_container (progress : Progress) (island : Element)
    (content : String) :
    (resolver tools component).walkElement progress (container island content) =
      ⟨container island content, progress, none⟩ := by
  have hcontainer : ¬ (container island content).isIsland := by simp
  rw [walkElement_resolver_of_not_isIsland hcontainer]
  rfl

/-- A walk that goes on into the container comes to the same as one that stops at the island. -/
theorem walkElement_resolver_eq_walk_container {island : Element} {content : String}
    (h : island.isIsland) (hwrite : tools.write component island = .ok content)
    (progress : Progress) :
    (resolver tools component).walkElement progress island =
      (resolver tools component).walkElement (resolveIsland tools component progress island).1
        (container island content) := by
  rw [walkElement_resolver_of_isIsland h, resolveIslands_cons_ok hwrite,
    walkElement_resolver_container]
  rfl

/-- The walk resolves the outermost islands in document order and leaves all else as it is. -/
theorem walkInside_resolver (progress : Progress) (node : Node) :
    (resolver tools component).walkInside progress node =
      (resolveIslands tools component progress node.outermostIslands).map
        fun containers ↦ node.refill containers := by
  induction node using Node.treeInduction generalizing progress with
  | element element ih =>
    rw [Visitor.walkInside, outermostIslands_element]
    split
    · rename_i hisland
      rw [walkElement_resolver_of_isIsland hisland, Walked.map_map]
      simp only [refill_element, if_pos hisland]
      rfl
    · rename_i hisland
      rw [walkElement_resolver_of_not_isIsland hisland, Walked.map_map]
      simp only [refill_element, if_neg hisland]
      cases hchildren : element.children with
      | none =>
        rw [Visitor.walkChildren, ElementOf.childList, hchildren]
        rfl
      | some children =>
        rw [childList_of_mem (Option.mem_def.mpr hchildren)] at ih ⊢
        rw [Visitor.walkChildren, walkNodes_resolver ih, Walked.map_map, Walked.map_map]
        rfl
  | conditional node _ _ ih | repeated node _ _ ih =>
    rw [Visitor.walkInside, visit_resolver, ih, Walked.map_map]
    rfl
  | slot name fallback ih =>
    cases fallback with
    | none => rfl
    | some node =>
      rw [Visitor.walkInside, Visitor.walkFallback, visit_resolver, ih node rfl, Walked.map_map,
        Walked.map_map, outermostIslands_slot]
      simp only [refill_slot]
      simp
      rfl
  | inject | static | dynamic | raw | other => rfl

/-! ## What a resolution comes to -/

/-- The walk succeeds if and only if the markup of every outermost island can be written. -/
theorem failure_resolveIslands_eq_none_iff (progress : Progress) (islands : List Element) :
    (resolveIslands tools component progress islands).failure = none ↔
      ∀ island ∈ islands, ∃ content, tools.write component island = .ok content := by
  induction islands generalizing progress with
  | nil => simp [resolveIslands]
  | cons island rest ih =>
    cases hwrite : tools.write component island with
    | error failure => simp [resolveIslands_cons_error hwrite, hwrite]
    | ok content => simp [resolveIslands_cons_ok hwrite, hwrite, Walked.map, ih]

/-- Where every island can be written, the containers are those with the written markup. -/
theorem value_resolveIslands {content : Element → String} {islands : List Element}
    (h : ∀ island ∈ islands, tools.write component island = .ok (content island))
    (progress : Progress) :
    (resolveIslands tools component progress islands).value =
      islands.map fun island ↦ container island (content island) := by
  induction islands generalizing progress with
  | nil => rfl
  | cons island rest ih =>
    rw [resolveIslands_cons_ok (h island List.mem_cons_self), List.map_cons,
      ← ih fun island hmem ↦ h island (List.mem_cons_of_mem _ hmem)]
    rfl

theorem islands_resolveIslands {content : Element → String} {islands : List Element}
    (h : ∀ island ∈ islands, tools.write component island = .ok (content island))
    (progress : Progress) :
    (resolveIslands tools component progress islands).state.islands =
      progress.islands + islands.length := by
  induction islands generalizing progress with
  | nil => rfl
  | cons island rest ih =>
    have hisland := h island List.mem_cons_self
    rw [resolveIslands_cons_ok hisland, Walked.map,
      ih fun island hmem ↦ h island (List.mem_cons_of_mem _ hmem),
      (resolveIsland_fst tools component hisland progress).1, List.length_cons]
    omega

/-- A walk resolves the outermost islands of a tree and puts the containers into their places. -/
theorem walk_resolver (progress : Progress) (node : Node) :
    (resolver tools component).walk progress node =
      (resolveIslands tools component progress node.outermostIslands).map
        fun containers ↦ node.refill containers := by
  rw [Visitor.walk, visit_resolver, walkInside_resolver]

theorem node_resolveComponent (tools : Tools) (target : Target) (options : Options)
    (component : Component) :
    (resolveComponent tools target options component).component.node =
      component.node.refill
        (resolveIslands tools component.name {} component.node.outermostIslands).value := by
  rw [resolveComponent, node_conclude, walk_resolver, Walked.map]

theorem result_resolveComponent (tools : Tools) (target : Target) (options : Options)
    (component : Component) :
    (resolveComponent tools target options component).result =
      let walked := resolveIslands tools component.name {} component.node.outermostIslands
      match walked.failure with
      | some failure => .error failure
      | none => .ok ⟨component.name, walked.state.islands, walked.state.needsScriptRuntime⟩ := by
  rw [resolveComponent, result_conclude, walk_resolver]
  rfl

/-- A component whose resolution succeeds shows its old tree with every outermost island, and
nothing else, replaced by a container of the island's written markup. No island is left, and the
report counts the outermost islands, so that islands inside of islands play no part. -/
theorem resolveComponent_changes_outermost_islands (tools : Tools) (target : Target)
    (options : Options) (component : Component) (report : Report)
    (h : (resolveComponent tools target options component).result = .ok report) :
    let resolved := (resolveComponent tools target options component).component
    ∃ content : Element → String,
      (∀ island ∈ component.node.outermostIslands,
        tools.write component.name island = .ok (content island)) ∧
      resolved.node = component.node.changeIslands (fun island ↦
        { elementType := "container"
          name := island.name
          attrs := some .empty
          style := some (.singleton "display" (.static (.text "contents")))
          children := some [.inject (content island)]
          extra := island.extra }) ∧
      (∀ element ∈ resolved.node.elements, element.isIsland = false) ∧
      report.islands = component.node.outermostIslands.length := by
  intro resolved
  have hresult := result_resolveComponent tools target options component
  have hnode : resolved.node = _ := node_resolveComponent tools target options component
  cases hfailure :
      (resolveIslands tools component.name {} component.node.outermostIslands).failure with
  | some failure => simp [h, hfailure] at hresult
  | none =>
    -- the content of an island is what its markup is written as; elsewhere it does not matter
    let content : Element → String := fun island ↦
      (tools.write component.name island).toOption.getD ""
    have hwrite : ∀ island ∈ component.node.outermostIslands,
        tools.write component.name island = .ok (content island) := by
      intro island hmem
      obtain ⟨text, htext⟩ := (failure_resolveIslands_eq_none_iff _ _).mp hfailure island hmem
      simp only [content, htext]
      rfl
    refine ⟨content, hwrite, ?_, ?_, ?_⟩
    · rw [hnode, value_resolveIslands hwrite, refill_map_outermostIslands]
      rfl
    · rw [← outermostIslands_eq_nil_iff, hnode,
        outermostIslands_refill fun element ↦ outermostIslands_of_mem_resolveIslands,
        length_value_resolveIslands hfailure, List.drop_length]
    · simp only [h, hfailure] at hresult
      obtain rfl := Except.ok.inj hresult
      exact (islands_resolveIslands hwrite _).trans (Nat.zero_add _)

/-- Tools that take all markup as text and write it as plain markup. -/
def plainTextTools : Tools where
  parser text := .ok [.text text]
  serializer tree := .ok (Markup.Root.toHtml tree)

def islandOf (markup : String) (children : List Node) : Node :=
  .element
    { elementType := islandType
      attrs := some (.singleton markupAttribute (.ofText markup))
      children := some children }

/-- A component with two outermost islands, one of them under a condition, and with an island that
stands inside of the other. -/
def nestedIslands : Component where
  name := "App"
  node := .element
    { elementType := "div"
      children := some
        [.conditional (islandOf "<b>" []) none none, islandOf "a & b" [islandOf "<i>" []]] }

/-- Of three islands, of which one stands inside of another, two are resolved. -/
theorem resolveComponent_nestedIslands :
    (resolveComponent plainTextTools .react {} nestedIslands).result = .ok ⟨"App", 2, false⟩ ∧
      ∃ content : Element → String,
        (∀ island ∈ nestedIslands.node.outermostIslands,
          plainTextTools.write "App" island = .ok (content island)) ∧
        (resolveComponent plainTextTools .react {} nestedIslands).component.node =
          nestedIslands.node.changeIslands (fun island ↦
            { elementType := "container"
              name := island.name
              attrs := some .empty
              style := some (.singleton "display" (.static (.text "contents")))
              children := some [.inject (content island)]
              extra := island.extra }) ∧
        (∀ element ∈
            (resolveComponent plainTextTools .react {} nestedIslands).component.node.elements,
          element.isIsland = false) ∧
        (⟨"App", 2, false⟩ : Report).islands = nestedIslands.node.outermostIslands.length :=
  ⟨rfl, resolveComponent_changes_outermost_islands plainTextTools .react {} nestedIslands _ rfl⟩

end MarkupIslands.Island
