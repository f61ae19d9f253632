import MarkupIslands.Proofs.Island.Repetition
import MarkupIslands.Proofs.Plugin.JsonBoundary
import MarkupIslands.Proofs.Plugin.PassThrough

/-!
# Islands that the earlier hook does not see

On JSON, an island is an object that names the type element and whose content names the island type
and has the attribute of the markup. The earlier hook sees the islands of the tree that was read. A
node whose content does not fit its kind is read as a leaf that is kept as received, so what stands
in it is not part of that tree. After a successful run an island can still be found on the JSON, and
these leaves are the only places where.
-/

namespace MarkupIslands

open MarkupIslands.Island MarkupIslands.Ui

namespace Ui

/-! ## Trees as they stand on JSON -/

/-- The nodes that stand directly in the content of a kind: the children of an element, the node in
a condition or a repetition, the fallback of a slot. -/
def nodesHeldBy (kind : String) (content : Json) : List Json :=
  match kind with
  | "element" =>
    match content.get? "children" with
    | some (.array items) => items
    | _ => []
  | "conditional" | "repeat" => (content.get? "node").toList
  | "slot" => (content.get? "fallback").toList
  | _ => []

/-- The nodes that stand directly in a node on JSON. -/
def heldNodes (json : Json) : List Json :=
  match json.get? "type", json.get? "content" with
  | some (.text kind), some content => nodesHeldBy kind content
  | _, _ => []

/-- An island on JSON. -/
def IsIslandJson (json : Json) : Prop :=
  json.get? "type" = some (.text "element") ∧ ∃ content, json.get? "content" = some content ∧
    content.get? "elementType" = some (.text islandType) ∧
    ∃ attributes, content.get? "attrs" = some (.object attributes) ∧
      (attributes.lookup markupAttribute).isSome

/-- An island is reached from a node on JSON. -/
def Exposes (json : Json) : Prop :=
  ∃ inner, Relation.ReflTransGen (fun outer inner ↦ inner ∈ heldNodes outer) json inner ∧
    IsIslandJson inner

/-- An island is reached at a node or below one that it holds. -/
theorem exposes_iff {json : Json} :
    Exposes json ↔ IsIslandJson json ∨ ∃ inner ∈ heldNodes json, Exposes inner := by
  constructor
  · rintro ⟨island, hreached, hisland⟩
    rcases hreached.cases_head with rfl | ⟨inner, hinner, hreached⟩
    · exact .inl hisland
    · exact .inr ⟨inner, hinner, island, hreached, hisland⟩
  · rintro (hisland | ⟨inner, hinner, island, hreached, hisland⟩)
    · exact ⟨json, .refl, hisland⟩
    · exact ⟨island, .head hinner hreached, hisland⟩

/-- The JSON that a tree keeps as received, in a place that a walk for islands comes to. -/
inductive Node.Keeps (json : Json) : Node → Prop
  | other : Keeps json (.other json)
  | element {element : Element} {child : Node} (hisland : element.isIsland = false)
    (hchild : child ∈ element.childList) (hkeeps : Keeps json child) : Keeps json (.element element)
  | conditional {node : Node} {reference value : Option Json} (hkeeps : Keeps json node) :
    Keeps json (.conditional node reference value)
  | repeated {node : Node} {dataSource details : Option Json} (hkeeps : Keeps json node) :
    Keeps json (.repeated node dataSource details)
  | slot {name : Option String} {fallback : Node} (hkeeps : Keeps json fallback) :
    Keeps json (.slot name (some fallback))

theorem heldNodes_tagged (kind : String) (content : Json) :
    heldNodes (tagged kind content) = nodesHeldBy kind content := rfl

theorem get?_elementToJson {element : Element} (h : (Node.element element).ReadsBack)
    {key : String} (hkey : key ∈ elementFields) :
    (elementToJson element).get? key = (KeyMap.ofList element.fields).get? key := by
  have hextra := (elementOfJson_elementToJson_iff.mp (readsBack_element_iff.mp h)).2
  rw [elementToJson_eq]
  exact lookup_record hextra hkey

/-- The children of an element are the nodes that its JSON holds. -/
theorem heldNodes_element {element : Element} (h : (Node.element element).ReadsBack) :
    heldNodes (Node.element element).toJson = element.childList.map Node.toJson := by
  rw [Node.toJson, heldNodes_tagged, nodesHeldBy, get?_elementToJson h (by decide)]
  cases hchildren : element.children <;>
    simp [ElementOf.fields, ElementOf.childList, hchildren]

/-- An element is an island on JSON exactly if it is one in the tree. -/
theorem isIslandJson_element {element : Element} (h : (Node.element element).ReadsBack) :
    IsIslandJson (Node.element element).toJson ↔ element.isIsland := by
  have htype : (elementToJson element).get? "elementType" = some (.text element.elementType) := by
    rw [get?_elementToJson h (by decide)]; simp [ElementOf.fields]
  have hattrs : (elementToJson element).get? "attrs" = element.attrs.map valuesToJson := by
    rw [get?_elementToJson h (by decide)]; simp [ElementOf.fields]
  have hattributes : (∃ attributes,
      (elementToJson element).get? "attrs" = some (.object attributes) ∧
        (attributes.lookup markupAttribute).isSome) ↔
      element.attributes.contains markupAttribute := by
    rw [hattrs, ElementOf.attributes]
    cases element.attrs with
    | none => simp [KeyMap.contains]
    | some values =>
      have hlookup : (values.map Value.toJson).entries.lookup markupAttribute =
          (values.get? markupAttribute).map Value.toJson := values.get?_map Value.toJson _
      simp only [valuesToJson, Json.ofKeyMap, Option.map_some, Option.some.injEq,
        Json.object.injEq, exists_eq_left', hlookup, Option.isSome_map, Option.getD_some,
        KeyMap.contains]
  have hisland : IsIslandJson (Node.element element).toJson ↔
      (elementToJson element).get? "elementType" = some (.text islandType) ∧
        ∃ attributes, (elementToJson element).get? "attrs" = some (.object attributes) ∧
          (attributes.lookup markupAttribute).isSome := by
    refine (and_iff_right rfl).trans ⟨?_, fun hcontent ↦ ⟨_, rfl, hcontent⟩⟩
    rintro ⟨_, ⟨⟩, hcontent⟩
    exact hcontent
  rw [hisland, hattributes, htype]
  simp [ElementOf.isIsland]

theorem nodesHeldBy_wrapper {kind : String} {wrapper : Wrapper} (h : wrapper? kind = some wrapper)
    (json : Json) (first second : Option Json) :
    nodesHeldBy kind (wrapperJson json (wrapper.first, first) (wrapper.second, second)) =
      [json] := by
  have hnode : (wrapperJson json (wrapper.first, first) (wrapper.second, second)).get? "node" =
      some json := (get?_wrapperFields h json first second).1
  rcases wrapper?_eq_some_iff.mp h with ⟨rfl, -⟩ | ⟨rfl, -⟩ <;>
    rw [nodesHeldBy, hnode, Option.toList_some]

theorem nodesHeldBy_slot (name : Option String) (fallback : Option Node) :
    nodesHeldBy "slot" (.ofMembers (Json.member "name" (name.map .text) ++
      Json.member "fallback" (fallbackToJson fallback))) = fallback.toList.map Node.toJson := by
  have hfallback : (Json.ofMembers (Json.member "name" (name.map .text) ++
      Json.member "fallback" (fallbackToJson fallback))).get? "fallback" =
        fallbackToJson fallback := by
    rw [Json.ofMembers, Json.get?, KeyMap.lookup_entries]
    simp
  rw [nodesHeldBy, hfallback]
  cases fallback <;> rfl

/-- A node that is no element is no island. -/
theorem exposes_tagged_iff {kind : String} (h : kind ≠ "element") {content : Json} :
    Exposes (tagged kind content) ↔ ∃ inner ∈ nodesHeldBy kind content, Exposes inner := by
  rw [exposes_iff, heldNodes_tagged, or_iff_right]
  rintro ⟨hkind, -⟩
  have hkind : some (Json.text kind) = some (.text "element") := hkind
  exact h (by simpa using hkind)

theorem keeps_element_iff {element : Element} {json : Json} :
    (Node.element element).Keeps json ↔
      element.isIsland = false ∧ ∃ child ∈ element.childList, child.Keeps json := by
  constructor
  · rintro ⟨⟩
    exact ⟨‹_›, _, ‹_›, ‹_›⟩
  · rintro ⟨hisland, child, hchild, hkeeps⟩
    exact .element hisland hchild hkeeps

theorem keeps_conditional_iff {node : Node} {reference value : Option Json} {json : Json} :
    (Node.conditional node reference value).Keeps json ↔ node.Keeps json :=
  ⟨fun | .conditional hkeeps => hkeeps, .conditional⟩

theorem keeps_repeated_iff {node : Node} {dataSource details : Option Json} {json : Json} :
    (Node.repeated node dataSource details).Keeps json ↔ node.Keeps json :=
  ⟨fun | .repeated hkeeps => hkeeps, .repeated⟩

theorem keeps_slot_iff {name : Option String} {fallback : Option Node} {json : Json} :
    (Node.slot name fallback).Keeps json ↔ ∃ node ∈ fallback, node.Keeps json := by
  constructor
  · rintro ⟨⟩
    exact ⟨_, rfl, ‹_›⟩
  · rintro ⟨node, rfl, hkeeps⟩
    exact .slot hkeeps

theorem keeps_other_iff {kept json : Json} : (Node.other kept).Keeps json ↔ kept = json :=
  ⟨fun | .other => rfl, fun | rfl => .other⟩

theorem exists_exposes_toJson_iff {nodes : List Node}
    (h : ∀ node ∈ nodes, Exposes node.toJson ↔
      node.outermostIslands ≠ [] ∨ ∃ json, node.Keeps json ∧ Exposes json) :
    (∃ inner ∈ nodes.map Node.toJson, Exposes inner) ↔
      nodes.flatMap Node.outermostIslands ≠ [] ∨
        ∃ json, (∃ node ∈ nodes, node.Keeps json) ∧ Exposes json := by
  rw [Ne, List.flatMap_eq_nil_iff]
  constructor
  · rintro ⟨_, hmem, hexposes⟩
    obtain ⟨node, hnode, rfl⟩ := List.mem_map.mp hmem
    rcases (h node hnode).mp hexposes with hislands | ⟨json, hkeeps, hjson⟩
    · exact .inl fun hnone ↦ hislands (hnone node hnode)
    · exact .inr ⟨json, ⟨node, hnode, hkeeps⟩, hjson⟩
  · rintro (hislands | ⟨json, ⟨node, hnode, hkeeps⟩, hjson⟩)
    · push Not at hislands
      obtain ⟨node, hnode, hislands⟩ := hislands
      exact ⟨_, List.mem_map_of_mem hnode, (h node hnode).mpr (.inl hislands)⟩
    · exact ⟨_, List.mem_map_of_mem hnode, (h node hnode).mpr (.inr ⟨json, hkeeps, hjson⟩)⟩

/-- From the JSON of a tree, an island is reached exactly if the tree has an island or keeps JSON
that an island is reached from. -/
theorem exposes_toJson_iff {node : Node} (h : node.ReadsBack) :
    Exposes node.toJson ↔
      node.outermostIslands ≠ [] ∨ ∃ json, node.Keeps json ∧ Exposes json := by
  induction node using Node.treeInduction with
  | element element ih =>
    rw [exposes_iff, isIslandJson_element h, heldNodes_element h, outermostIslands_element]
    cases hisland : element.isIsland with
    | true => simp
    | false =>
      have hchildren := readsBack_of_mem_childList h
      have hheld := exists_exposes_toJson_iff fun child hchild ↦
        ih child hchild (hchildren child hchild)
      simp only [Bool.false_eq_true, false_or, if_false, keeps_element_iff, hisland, true_and]
      exact hheld
  | conditional node reference value ih =>
    rw [Node.toJson, exposes_tagged_iff (by decide),
      nodesHeldBy_wrapper (wrapper?_eq_some_iff.mpr (.inl ⟨rfl, rfl⟩)) _ reference value]
    simp only [List.mem_singleton, exists_eq_left, ih (readsBack_conditional_iff.mp h).1,
      keeps_conditional_iff, outermostIslands_conditional]
  | repeated node dataSource details ih =>
    rw [Node.toJson, exposes_tagged_iff (by decide),
      nodesHeldBy_wrapper (wrapper?_eq_some_iff.mpr (.inr ⟨rfl, rfl⟩)) _ dataSource details]
    simp only [List.mem_singleton, exists_eq_left, ih (readsBack_repeated_iff.mp h).1,
      keeps_repeated_iff, outermostIslands_repeated]
  | slot name fallback ih =>
    have hfallback := readsBack_slot_iff.mp h
    rw [Node.toJson, exposes_tagged_iff (by decide), nodesHeldBy_slot, outermostIslands_slot,
      exists_exposes_toJson_iff fun node hnode ↦ ih node (Option.mem_toList.mp hnode)
        (hfallback node (Option.mem_toList.mp hnode)).1]
    simp only [keeps_slot_iff, Option.mem_toList, Option.mem_def]
  | inject | static | dynamic | raw =>
    rw [Node.toJson, exposes_tagged_iff (by decide)]
    refine iff_of_false ?_ ?_
    · rintro ⟨_, hinner, -⟩
      exact List.not_mem_nil hinner
    · rintro (hislands | ⟨_, ⟨⟩, -⟩)
      exact hislands rfl
  | other json =>
    simp [Node.toJson, Node.outermostIslands, Node.reached, keeps_other_iff]

/-- Filling the places of islands changes nothing of what a tree keeps as received. -/
theorem keeps_refill_iff {node : Node} {elements : List Element} {json : Json}
    (helements : ∀ element ∈ elements, ¬ (Node.element element).Keeps json) :
    (node.refill elements).Keeps json ↔ node.Keeps json := by
  have hnodes (nodes : List Node)
      (ih : ∀ node ∈ nodes, ∀ elements : List Element,
        (∀ element ∈ elements, ¬ (Node.element element).Keeps json) →
          ((node.refill elements).Keeps json ↔ node.Keeps json))
      (elements : List Element)
      (helements : ∀ element ∈ elements, ¬ (Node.element element).Keeps json) :
      (∃ node ∈ refillNodes elements nodes, node.Keeps json) ↔ ∃ node ∈ nodes, node.Keeps json := by
    induction nodes generalizing elements with
    | nil => simp [refillNodes]
    | cons node rest ihrest =>
      rw [refillNodes, List.exists_mem_cons_iff, List.exists_mem_cons_iff,
        ih node List.mem_cons_self elements helements,
        ihrest (fun node h ↦ ih node (List.mem_cons_of_mem _ h)) _
          fun element h ↦ helements element (List.mem_of_mem_drop h)]
  induction node using Node.treeInduction generalizing elements with
  | element element ih =>
    rw [refill_element]
    cases hisland : element.isIsland with
    | true =>
      cases elements with
      | nil => rfl
      | cons first rest =>
        have hfirst := helements first List.mem_cons_self
        simp [hfirst, keeps_element_iff, hisland]
    | false =>
      simp only [Bool.false_eq_true, if_false, keeps_element_iff, isIsland_setChildren, hisland,
        true_and]
      cases hchildren : element.children with
      | none => simp [ElementOf.childList, hchildren]
      | some children =>
        rw [childList_of_mem hchildren] at ih ⊢
        simpa [ElementOf.childList] using hnodes children
          (fun node hnode elements ↦ ih node hnode) elements helements
  | conditional node reference value ih =>
    exact keeps_conditional_iff.trans ((ih helements).trans keeps_conditional_iff.symm)
  | repeated node dataSource details ih =>
    exact keeps_repeated_iff.trans ((ih helements).trans keeps_repeated_iff.symm)
  | slot name fallback ih =>
    rw [refill_slot, keeps_slot_iff, keeps_slot_iff]
    cases fallback with
    | none => simp
    | some node => simpa using ih node rfl helements
  | inject | static | dynamic | raw | other => rfl

/-- What a tree that reads back keeps is kept because it does not read as a node of a known kind. -/
theorem nodeOfJson_of_keeps {node : Node} (h : node.ReadsBack) {json : Json}
    (hkeeps : node.Keeps json) : nodeOfJson json = .other json := by
  induction hkeeps with
  | other => exact h
  | element _ hchild _ ih => exact ih (readsBack_of_mem_childList h _ hchild)
  | conditional _ ih => exact ih (readsBack_conditional_iff.mp h).1
  | repeated _ ih => exact ih (readsBack_repeated_iff.mp h).1
  | slot _ ih => exact ih (readsBack_slot_iff.mp h _ rfl).1

/-- JSON that an island is reached from is of a kind that holds nodes. -/
theorem kind_of_exposes {json : Json} (h : Exposes json) :
    ∃ kind ∈ ["element", "conditional", "repeat", "slot"],
      json.get? "type" = some (.text kind) := by
  rcases exposes_iff.mp h with ⟨hkind, -⟩ | ⟨inner, hinner, -⟩
  · exact ⟨"element", by decide, hkind⟩
  · unfold heldNodes at hinner
    split at hinner
    · rename_i kind content hkind hcontent
      refine ⟨kind, ?_, hkind⟩
      unfold nodesHeldBy at hinner
      split at hinner <;> simp_all
    · cases hinner

/-! ## Components of a written bundle -/

theorem get?_node_toJson {component : Component}
    (h : Component.ofJson component.toJson = .ok component) :
    component.toJson.get? "node" = some component.node.toJson := by
  refine (lookup_record (Component.ofJson_toJson_iff.mp h).2 (by decide)).trans ?_
  simp

/-- The components of a project are found in its JSON. -/
theorem componentsOf_toJson {project : Project} (h : Project.ofJson project.toJson = .ok project) :
    componentsOf project.toJson = project.allComponents.map Component.toJson := by
  have hextra := (Project.ofJson_toJson_iff.mp h).2
  have hroot : project.toJson.get? "root" = some project.root.toJson := by
    refine (lookup_record hextra (by decide)).trans ?_
    simp
  have hcomponents : project.toJson.get? "components" =
      project.components.map Project.componentsToJson := by
    refine (lookup_record hextra (by decide)).trans ?_
    simp
  rw [componentsOf, hroot, hcomponents, Project.allComponents, Project.named]
  cases project.components with
  | none => rfl
  | some components =>
    exact congrArg (project.root.toJson :: ·) (components.values_map Component.toJson)

theorem componentsIn_toJson {bundle : Bundle} (h : Bundle.ofJson bundle.toJson = .ok bundle) :
    componentsIn bundle.toJson = bundle.project.allComponents.map Component.toJson := by
  obtain ⟨⟨-, hproject⟩, hextra⟩ := Bundle.ofJson_toJson_iff.mp h
  have hlookup : bundle.toJson.get? "uidl" = some bundle.project.toJson := by
    refine (lookup_record hextra (by decide)).trans ?_
    simp
  rw [componentsIn, hlookup, Option.toList_some, List.flatMap_singleton,
    componentsOf_toJson hproject]

/-- An island is reached from the tree of a component of the document. -/
def ShowsIsland (document : Json) : Prop :=
  ∃ component ∈ componentsIn document, ∃ node, component.get? "node" = some node ∧ Exposes node

/-- A document of a bundle shows an island exactly if the tree of a component exposes one. -/
theorem showsIsland_toJson_iff {bundle : Bundle} (h : Bundle.ofJson bundle.toJson = .ok bundle) :
    ShowsIsland bundle.toJson ↔
      ∃ component ∈ bundle.project.allComponents, Exposes component.node.toJson := by
  have hcomponents := Bundle.ofJson_toJson_of_mem h
  rw [ShowsIsland, componentsIn_toJson h]
  constructor
  · rintro ⟨_, hmem, node, hnode, hexposes⟩
    obtain ⟨component, hcomponent, rfl⟩ := List.mem_map.mp hmem
    rw [get?_node_toJson (hcomponents component hcomponent)] at hnode
    exact ⟨component, hcomponent, Option.some.inj hnode ▸ hexposes⟩
  · rintro ⟨component, hcomponent, hexposes⟩
    exact ⟨_, List.mem_map_of_mem hcomponent, _,
      get?_node_toJson (hcomponents component hcomponent), hexposes⟩

end Ui

/-! ## Resolved trees -/

namespace Island

theorem not_keeps_of_mem_resolveIslands {tools : Tools} {name : String} {progress : Progress}
    {islands : List Element} {json : Json} :
    ∀ element ∈ (resolveIslands tools name progress islands).value,
      ¬ (Node.element element).Keeps json := by
  induction islands generalizing progress with
  | nil => simp [resolveIslands]
  | cons island rest ih =>
    cases hwrite : tools.write name island with
    | error _ => simp [resolveIslands_cons_error hwrite]
    | ok content =>
      rw [resolveIslands_cons_ok hwrite]
      refine List.forall_mem_cons.mpr ⟨fun hkeeps ↦ ?_, ih⟩
      obtain ⟨-, child, hchild, hkeeps⟩ := keeps_element_iff.mp hkeeps
      obtain rfl : child = .inject content := List.mem_singleton.mp hchild
      cases hkeeps

/-- A component that was resolved shows an island on JSON exactly if its tree keeps JSON that shows
one. -/
theorem exposes_resolveComponent_iff {tools : Tools} {target : Target} {options : Options}
    {component : Component} {report : Report}
    (h : (resolveComponent tools target options component).result = .ok report)
    (hback : (resolveComponent tools target options component).component.node.ReadsBack) :
    Exposes (resolveComponent tools target options component).component.node.toJson ↔
      ∃ json, component.node.Keeps json ∧ Exposes json := by
  rw [exposes_toJson_iff hback, outermostIslands_resolveComponent_of_ok h, node_resolveComponent]
  simp [keeps_refill_iff not_keeps_of_mem_resolveIslands]

end Island

namespace Plugin

/-- After a run of the earlier hook that succeeds, an island can be reached on the JSON it returns
exactly if an island is reached from JSON that the tree of some component keeps as received. Such
JSON names a kind that holds nodes, but does not read as a node of it. -/
theorem showsIsland_runBeforeJson_iff (plugin : Plugin) (document out : Json) (bundle : Bundle)
    (hread : readBundle document = .ok bundle) (hid : bundle.strategy.id ∈ Target.supportedIds)
    (hout : (plugin.runBeforeJson document).result = .ok out) :
    (ShowsIsland out ↔ ∃ component ∈ bundle.project.allComponents, ∃ json,
      component.node.Keeps json ∧ Exposes json) ∧
    ∀ component ∈ bundle.project.allComponents, ∀ json, component.node.Keeps json → Exposes json →
      nodeOfJson json = .other json ∧
        ∃ kind ∈ ["element", "conditional", "repeat", "slot"],
          json.get? "type" = some (.text kind) := by
  have hback := Bundle.ofJson_toJson_of_read (readBundle_eq_ok_iff.mp hread)
  refine ⟨?_, fun component hcomponent json hkeeps hexposes ↦ ⟨?_, kind_of_exposes hexposes⟩⟩
  · obtain ⟨next, hnext, rfl⟩ : ∃ next, (plugin.runBefore bundle).result = .ok next ∧
        next.toJson = out := by
      rw [runBeforeJson, hread] at hout
      cases hresult : (plugin.runBefore bundle).result with
      | error failure => simp [Outcome.map, hresult, Except.map] at hout
      | ok next => exact ⟨next, rfl, by simpa [Outcome.map, hresult, Except.map] using hout⟩
    have hnextback := ofJson_toJson_of_changes (changes_runBefore hnext) hback
    rw [showsIsland_toJson_iff hnextback]
    rcases runBefore_cases hnext with ⟨hnone, -⟩ | ⟨target, tools, reports, -, hreports, rfl⟩
    · exact absurd hid ((Target.ofId?_eq_none_iff _).mp hnone)
    · have hnodes := Bundle.readsBack_node_of_mem hnextback
      rw [project_resolveProject, Project.allComponents_mapComponents] at hnodes ⊢
      rw [result_resolveProject, collect_eq_ok_iff] at hreports
      simp only [List.mem_map, exists_exists_and_eq_and]
      refine exists_congr fun component ↦ and_congr_right fun hmem ↦ ?_
      obtain ⟨report, -, hreport⟩ := List.mem_map.mp (hreports ▸ List.mem_map_of_mem hmem)
      exact exposes_resolveComponent_iff hreport.symm (hnodes _ (List.mem_map_of_mem hmem))
  · exact nodeOfJson_of_keeps (Bundle.readsBack_node_of_mem hback component hcomponent) hkeeps

/-- An element whose name is a number, so that it does not read, with an island in it. -/
def misnamedElement : Json :=
  tagged "element" (.object [("children", .array [(islandOf "a & b" []).toJson]),
    ("elementType", .text "div"), ("name", .number (.integer 5))])

def misnamedDocument : Json :=
  .object [("strategy", .object [("id", .text "html")]), ("uidl", .object [("root", .object
    [("name", .text "Root"),
      ("node", tagged "conditional" (.object [("node", misnamedElement)]))])])]

def misnamedBundle : Bundle where
  project := { root := { name := "Root", node := .conditional (.other misnamedElement) none none } }
  strategy := { id := "html" }

/-- The island can be reached although the element around it does not read. -/
theorem exposes_misnamedElement : Exposes misnamedElement := by
  refine exposes_iff.mpr (.inr ⟨(islandOf "a & b" []).toJson, List.mem_cons_self, ?_⟩)
  exact exposes_iff.mpr (.inl ⟨rfl, _, rfl, rfl, _, rfl, rfl⟩)

/-- The island in the misnamed element is still there after the run. -/
theorem showsIsland_misnamedDocument :
    readBundle misnamedDocument = .ok misnamedBundle ∧ "html" ∈ Target.supportedIds ∧
      (runBeforeJson {} misnamedDocument).result = .ok misnamedDocument ∧
      ShowsIsland misnamedDocument ∧ nodeOfJson misnamedElement = .other misnamedElement := by
  have hread : readBundle misnamedDocument = .ok misnamedBundle := rfl
  have hid : "html" ∈ Target.supportedIds := by decide
  have hout : (runBeforeJson {} misnamedDocument).result = .ok misnamedDocument := rfl
  have hroot : misnamedBundle.project.root ∈ misnamedBundle.project.allComponents :=
    List.mem_cons_self
  have hkeeps : misnamedBundle.project.root.node.Keeps misnamedElement := .conditional .other
  obtain ⟨hshows, hkept⟩ := showsIsland_runBeforeJson_iff {} misnamedDocument misnamedDocument
    misnamedBundle hread hid hout
  exact ⟨hread, hid, hout,
    hshows.mpr ⟨_, hroot, misnamedElement, hkeeps, exposes_misnamedElement⟩,
    (hkept _ hroot _ hkeeps exposes_misnamedElement).1⟩

/-- A run that succeeds does not always leave a document without islands. -/
theorem islands_left_after_success :
    ¬ ∀ (plugin : Plugin) (document out : Json) (bundle : Bundle),
      readBundle document = .ok bundle → bundle.strategy.id ∈ Target.supportedIds →
        (plugin.runBeforeJson document).result = .ok out → ¬ ShowsIsland out := by
  intro hnone
  refine hnone {} misnamedDocument misnamedDocument misnamedBundle rfl (by decide) rfl ?_
  refine ⟨_, List.mem_cons_self, _, rfl, exposes_iff.mpr (.inr ⟨misnamedElement, ?_,
    exposes_misnamedElement⟩)⟩
  exact List.mem_cons_self

end Plugin

end MarkupIslands
