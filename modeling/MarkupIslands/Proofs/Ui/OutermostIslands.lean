import MarkupIslands.Ui.Walk

/-!
# Outermost islands

An island is outermost if it is reached from the top of a tree without going into another island.
A tree is its outermost islands together with the rest, which `Node.refill` makes precise: it puts
other elements in the places of the outermost islands, in document order. The laws below say what
is left of the islands after some of the places have been filled, and that places can be filled one
after the other.
-/

namespace MarkupIslands.Ui

/-- Induction over trees. What an element or a slot holds has the property if every node that it
directly holds has it. -/
@[elab_as_elim]
theorem Node.treeInduction {motive : Node → Prop}
    (element : ∀ element : Element, (∀ node ∈ element.childList, motive node) →
      motive (.element element))
    (conditional : ∀ node reference value, motive node →
      motive (.conditional node reference value))
    (repeated : ∀ node dataSource details, motive node →
      motive (.repeated node dataSource details))
    (slot : ∀ name fallback, (∀ node ∈ fallback, motive node) → motive (.slot name fallback))
    (inject : ∀ markup, motive (.inject markup)) (static : ∀ content, motive (.static content))
    (dynamic : ∀ content, motive (.dynamic content)) (raw : ∀ content, motive (.raw content))
    (other : ∀ json, motive (.other json)) (node : Node) : motive node := by
  refine @Node.rec motive (fun element ↦ ∀ node ∈ element.childList, motive node)
    (fun fallback ↦ ∀ node ∈ fallback, motive node)
    (fun children ↦ ∀ node ∈ children.getD [], motive node)
    (fun nodes ↦ ∀ node ∈ nodes, motive node)
    element inject static dynamic raw conditional repeated slot other ?_ ?_ ?_ ?_ ?_ ?_ ?_ node
  · intro _ _ _ _ _ _ children
    exact children
  · simp
  · simp
  · simp
  · intro _ nodes
    exact nodes
  · simp
  · intro _ _ first rest
    simpa using ⟨first, rest⟩

/-! ## Elements of a tree -/

mutual

/-- The elements reached from a node, in document order, if a walk goes only into those that
`enters` holds of. -/
def Node.reached (enters : Element → Bool) : Node → List Element
  | .element element => reachedFromElement enters element
  | .conditional node _ _ | .repeated node _ _ => node.reached enters
  | .slot _ fallback => reachedFromFallback enters fallback
  | .inject _ | .static _ | .dynamic _ | .raw _ | .other _ => []

def reachedFromElement (enters : Element → Bool) : ElementOf Node → List Element
  | ⟨elementType, name, attrs, style, children, extra⟩ =>
    let element : Element := ⟨elementType, name, attrs, style, children, extra⟩
    element :: if enters element then reachedFromChildren enters children else []

def reachedFromChildren (enters : Element → Bool) : Option (List Node) → List Element
  | none => []
  | some children => reachedFromNodes enters children

def reachedFromFallback (enters : Element → Bool) : Option Node → List Element
  | none => []
  | some node => node.reached enters

def reachedFromNodes (enters : Element → Bool) : List Node → List Element
  | [] => []
  | node :: rest => node.reached enters ++ reachedFromNodes enters rest

end

def Node.elements (node : Node) : List Element := node.reached fun _ ↦ true

/-- The outermost islands of a tree, in document order: the islands among the elements reached
without going into an island. -/
def Node.outermostIslands (node : Node) : List Element :=
  (node.reached fun element ↦ !element.isIsland).filter ElementOf.isIsland

theorem reachedFromNodes_eq_flatMap (enters : Element → Bool) (nodes : List Node) :
    reachedFromNodes enters nodes = nodes.flatMap (Node.reached enters) := by
  induction nodes with
  | nil => rfl
  | cons node rest ih => rw [reachedFromNodes, ih, List.flatMap_cons]

theorem reached_element (enters : Element → Bool) (element : Element) :
    (Node.element element).reached enters =
      element ::
        if enters element then element.childList.flatMap (Node.reached enters) else [] := by
  obtain ⟨elementType, name, attrs, style, children, extra⟩ := element
  rw [Node.reached, reachedFromElement]
  cases children with
  | none => rfl
  | some children => simp only [reachedFromChildren, reachedFromNodes_eq_flatMap]; rfl

theorem reached_slot (enters : Element → Bool) (name : Option String) (fallback : Option Node) :
    (Node.slot name fallback).reached enters = fallback.toList.flatMap (Node.reached enters) := by
  cases fallback with
  | none => rfl
  | some node => simp [Node.reached, reachedFromFallback]

/-- An island hides the islands inside it. -/
theorem outermostIslands_element (element : Element) :
    (Node.element element).outermostIslands =
      if element.isIsland then [element]
      else element.childList.flatMap Node.outermostIslands := by
  rw [Node.outermostIslands, reached_element]
  cases h : element.isIsland with
  | true => simp [h]
  | false =>
    simp only [h, Bool.not_false, if_true, List.filter_cons_of_neg, Bool.false_eq_true,
      not_false_eq_true, List.filter_flatMap]
    rfl

@[simp]
theorem outermostIslands_conditional (node : Node) (reference value : Option Json) :
    (Node.conditional node reference value).outermostIslands = node.outermostIslands := rfl

@[simp]
theorem outermostIslands_repeated (node : Node) (dataSource details : Option Json) :
    (Node.repeated node dataSource details).outermostIslands = node.outermostIslands := rfl

theorem outermostIslands_slot (name : Option String) (fallback : Option Node) :
    (Node.slot name fallback).outermostIslands =
      fallback.toList.flatMap Node.outermostIslands := by
  rw [Node.outermostIslands, reached_slot, List.filter_flatMap]
  rfl

/-! ## Other elements in the places of the outermost islands -/

mutual

/-- The tree with every outermost island changed, and nothing else. -/
def Node.changeIslands (change : Element → Element) : Node → Node
  | .element element => .element (changeIslandsOfElement change element)
  | .conditional node reference value =>
    .conditional (node.changeIslands change) reference value
  | .repeated node dataSource details => .repeated (node.changeIslands change) dataSource details
  | .slot name fallback => .slot name (changeIslandsOfFallback change fallback)
  | .inject markup => .inject markup
  | .static content => .static content
  | .dynamic content => .dynamic content
  | .raw content => .raw content
  | .other json => .other json

def changeIslandsOfElement (change : Element → Element) : ElementOf Node → Element
  | ⟨elementType, name, attrs, style, children, extra⟩ =>
    let element : Element := ⟨elementType, name, attrs, style, children, extra⟩
    if element.isIsland then change element
    else ⟨elementType, name, attrs, style, changeIslandsOfChildren change children, extra⟩

def changeIslandsOfChildren (change : Element → Element) :
    Option (List Node) → Option (List Node)
  | none => none
  | some children => some (changeIslandsOfNodes change children)

def changeIslandsOfFallback (change : Element → Element) : Option Node → Option Node
  | none => none
  | some node => some (node.changeIslands change)

def changeIslandsOfNodes (change : Element → Element) : List Node → List Node
  | [] => []
  | node :: rest => node.changeIslands change :: changeIslandsOfNodes change rest

end

mutual

/-- The tree with the given elements in the places of its outermost islands, in document order. If
the elements run out, the remaining islands stay. -/
def Node.refill (elements : List Element) : Node → Node
  | .element element => .element (refillElement elements element)
  | .conditional node reference value => .conditional (node.refill elements) reference value
  | .repeated node dataSource details => .repeated (node.refill elements) dataSource details
  | .slot name fallback => .slot name (refillFallback elements fallback)
  | .inject markup => .inject markup
  | .static content => .static content
  | .dynamic content => .dynamic content
  | .raw content => .raw content
  | .other json => .other json

def refillElement (elements : List Element) : ElementOf Node → Element
  | ⟨elementType, name, attrs, style, children, extra⟩ =>
    let element : Element := ⟨elementType, name, attrs, style, children, extra⟩
    if element.isIsland then elements.headD element
    else ⟨elementType, name, attrs, style, refillChildren elements children, extra⟩

def refillChildren (elements : List Element) : Option (List Node) → Option (List Node)
  | none => none
  | some children => some (refillNodes elements children)

def refillFallback (elements : List Element) : Option Node → Option Node
  | none => none
  | some node => some (node.refill elements)

/-- Each node takes as many elements as it has outermost islands. -/
def refillNodes (elements : List Element) : List Node → List Node
  | [] => []
  | node :: rest =>
    node.refill elements :: refillNodes (elements.drop node.outermostIslands.length) rest

end

theorem changeIslandsOfNodes_eq_map (change : Element → Element) (nodes : List Node) :
    changeIslandsOfNodes change nodes = nodes.map (Node.changeIslands change) := by
  induction nodes with
  | nil => rfl
  | cons node rest ih => rw [changeIslandsOfNodes, ih, List.map_cons]

theorem changeIslands_element (change : Element → Element) (element : Element) :
    (Node.element element).changeIslands change = .element
      (if element.isIsland then change element
      else { element with
        children := element.children.map (List.map (Node.changeIslands change)) }) := by
  obtain ⟨elementType, name, attrs, style, children, extra⟩ := element
  rw [Node.changeIslands, changeIslandsOfElement]
  cases children with
  | none => rfl
  | some children => simp only [changeIslandsOfChildren, changeIslandsOfNodes_eq_map]; rfl

theorem refill_element (elements : List Element) (element : Element) :
    (Node.element element).refill elements = .element
      (if element.isIsland then elements.headD element
      else { element with children := element.children.map (refillNodes elements) }) := by
  obtain ⟨elementType, name, attrs, style, children, extra⟩ := element
  rw [Node.refill, refillElement]
  cases children <;> rfl

theorem refill_slot (elements : List Element) (name : Option String) (fallback : Option Node) :
    (Node.slot name fallback).refill elements =
      .slot name (fallback.map (Node.refill elements)) := by
  cases fallback <;> rfl

/-! ## Laws of refilling -/

@[simp]
theorem isIsland_setChildren (element : Element) (children : Option (List Node)) :
    ElementOf.isIsland { element with children := children } = element.isIsland := rfl

theorem childList_of_mem {element : Element} {children : List Node}
    (h : children ∈ element.children) : element.childList = children := by
  rw [ElementOf.childList, Option.mem_def.mp h, Option.getD_some]

theorem refillNodes_nil_of_forall (nodes : List Node) (h : ∀ node ∈ nodes, node.refill [] = node) :
    refillNodes [] nodes = nodes := by
  induction nodes with
  | nil => rfl
  | cons node rest ih =>
    rw [refillNodes, List.drop_nil, h node List.mem_cons_self,
      ih fun node hmem ↦ h node (List.mem_cons_of_mem _ hmem)]

/-- Without elements to put in, a tree stays as it is. -/
@[simp]
theorem refill_nil (node : Node) : node.refill [] = node := by
  induction node using Node.treeInduction with
  | element element ih =>
    rw [refill_element, List.headD_nil]
    split
    · rfl
    · have hchildren : element.children.map (refillNodes []) = element.children.map id := by
        refine Option.map_congr fun children hmem ↦ ?_
        rw [childList_of_mem hmem] at ih
        exact refillNodes_nil_of_forall children ih
      rw [hchildren, Option.map_id]
      rfl
  | conditional node _ _ ih | repeated node _ _ ih => rw [Node.refill, ih]
  | slot name fallback ih =>
    cases fallback with
    | none => rfl
    | some node => rw [refill_slot, Option.map_some, ih node rfl]
  | inject | static | dynamic | raw | other => rfl

@[simp]
theorem refillNodes_nil (nodes : List Node) : refillNodes [] nodes = nodes :=
  refillNodes_nil_of_forall nodes fun node _ ↦ refill_nil node

/-- Elements beyond the number of outermost islands are not used. -/
theorem refill_append (elements more : List Element) (node : Node)
    (h : node.outermostIslands.length ≤ elements.length) :
    node.refill (elements ++ more) = node.refill elements := by
  have hnodes (nodes : List Node)
      (ih : ∀ node ∈ nodes, ∀ elements : List Element,
        node.outermostIslands.length ≤ elements.length →
          node.refill (elements ++ more) = node.refill elements)
      (elements : List Element)
      (h : (nodes.flatMap Node.outermostIslands).length ≤ elements.length) :
      refillNodes (elements ++ more) nodes = refillNodes elements nodes := by
    induction nodes generalizing elements with
    | nil => rfl
    | cons node rest ihrest =>
      rw [List.flatMap_cons, List.length_append] at h
      have hnode : node.outermostIslands.length ≤ elements.length := by omega
      have hrest : (rest.flatMap Node.outermostIslands).length ≤
          (elements.drop node.outermostIslands.length).length := by
        rw [List.length_drop]
        omega
      rw [refillNodes, refillNodes, ih node List.mem_cons_self elements hnode,
        List.drop_append_of_le_length hnode,
        ihrest (fun node h ↦ ih node (List.mem_cons_of_mem _ h)) _ hrest]
  induction node using Node.treeInduction generalizing elements with
  | element element ih =>
    rw [outermostIslands_element] at h
    rw [refill_element, refill_element]
    split
    · rename_i hisland
      rw [if_pos hisland] at h
      cases elements with
      | nil => simp at h
      | cons first rest => rfl
    · rename_i hisland
      rw [if_neg hisland] at h
      have hchildren : element.children.map (refillNodes (elements ++ more)) =
          element.children.map (refillNodes elements) := by
        refine Option.map_congr fun children hmem ↦ ?_
        rw [childList_of_mem hmem] at ih h
        exact hnodes children (fun node hnode elements ↦ ih node hnode elements) elements h
      rw [hchildren]
  | conditional node _ _ ih | repeated node _ _ ih => rw [Node.refill, Node.refill, ih _ h]
  | slot name fallback ih =>
    rw [outermostIslands_slot] at h
    rw [refill_slot, refill_slot]
    congr 1
    refine Option.map_congr fun node hmem ↦ ih node hmem _ ?_
    simpa [Option.mem_def.mp hmem] using h
  | inject | static | dynamic | raw | other => rfl

/-- A change of every outermost island is a refilling with all of them changed. -/
theorem refill_map_outermostIslands (change : Element → Element) (node : Node) :
    node.refill (node.outermostIslands.map change) = node.changeIslands change := by
  have hnodes (nodes : List Node)
      (ih : ∀ node ∈ nodes,
        node.refill (node.outermostIslands.map change) = node.changeIslands change) :
      refillNodes ((nodes.flatMap Node.outermostIslands).map change) nodes =
        nodes.map (Node.changeIslands change) := by
    induction nodes with
    | nil => rfl
    | cons node rest ihrest =>
      rw [List.flatMap_cons, List.map_append, refillNodes,
        refill_append _ _ _ (Nat.le_of_eq (List.length_map _).symm), ih node List.mem_cons_self,
        List.drop_left' (List.length_map _),
        ihrest fun node h ↦ ih node (List.mem_cons_of_mem _ h), List.map_cons]
  induction node using Node.treeInduction with
  | element element ih =>
    rw [outermostIslands_element, refill_element, changeIslands_element]
    split
    · rfl
    · have hchildren : element.children.map
          (refillNodes ((element.childList.flatMap Node.outermostIslands).map change)) =
            element.children.map (List.map (Node.changeIslands change)) := by
        refine Option.map_congr fun children hmem ↦ ?_
        rw [childList_of_mem hmem] at ih ⊢
        exact hnodes children ih
      rw [hchildren]
  | conditional node _ _ ih | repeated node _ _ ih =>
    simp only [Node.refill, outermostIslands_conditional, outermostIslands_repeated, ih,
      Node.changeIslands]
  | slot name fallback ih =>
    cases fallback with
    | none => rfl
    | some node =>
      rw [outermostIslands_slot, refill_slot]
      simp [ih node rfl, Node.changeIslands, changeIslandsOfFallback]
  | inject | static | dynamic | raw | other => rfl

/-- A filled place is no island any more, if the elements that fill the places hold none. -/
theorem outermostIslands_refill {elements : List Element}
    (clean : ∀ element ∈ elements, (Node.element element).outermostIslands = []) (node : Node) :
    (node.refill elements).outermostIslands = node.outermostIslands.drop elements.length := by
  have hnodes (nodes : List Node)
      (ih : ∀ node ∈ nodes, ∀ elements : List Element,
        (∀ element ∈ elements, (Node.element element).outermostIslands = []) →
          (node.refill elements).outermostIslands =
            node.outermostIslands.drop elements.length)
      (elements : List Element)
      (clean : ∀ element ∈ elements, (Node.element element).outermostIslands = []) :
      (refillNodes elements nodes).flatMap Node.outermostIslands =
        (nodes.flatMap Node.outermostIslands).drop elements.length := by
    induction nodes generalizing elements with
    | nil => rw [refillNodes, List.flatMap_nil, List.drop_nil]
    | cons node rest ihrest =>
      rw [refillNodes, List.flatMap_cons, List.flatMap_cons, List.drop_append,
        ih node List.mem_cons_self elements clean,
        ihrest (fun node h ↦ ih node (List.mem_cons_of_mem _ h)) _
          (fun element h ↦ clean element (List.mem_of_mem_drop h)), List.length_drop]
  induction node using Node.treeInduction generalizing elements with
  | element element ih =>
    rw [refill_element, outermostIslands_element element]
    split
    · cases elements with
      | nil =>
        rename_i hisland
        rw [List.headD_nil, outermostIslands_element, if_pos hisland, List.length_nil,
          List.drop_zero]
      | cons first rest =>
        rw [List.headD_cons, clean first List.mem_cons_self]
        simp
    · rename_i hisland
      rw [outermostIslands_element, isIsland_setChildren, if_neg hisland]
      cases hchildren : element.children with
      | none => simp [ElementOf.childList, hchildren]
      | some children =>
        rw [childList_of_mem (Option.mem_def.mpr hchildren)] at ih ⊢
        exact hnodes children (fun node hnode elements clean ↦ ih node hnode clean) elements clean
  | conditional node _ _ ih | repeated node _ _ ih => exact ih clean
  | slot name fallback ih =>
    rw [refill_slot, outermostIslands_slot, outermostIslands_slot]
    cases fallback with
    | none => simp
    | some node => simpa using ih node rfl clean
  | inject | static | dynamic | raw | other => exact List.drop_nil.symm

/-- A tree without islands has no places to fill. -/
theorem refill_eq_self {node : Node} (h : node.outermostIslands = []) (elements : List Element) :
    node.refill elements = node := by
  calc
    node.refill elements = node.refill ([] ++ elements) := by rw [List.nil_append]
    _ = node.refill [] := refill_append [] elements node (by simp [h])
    _ = node := refill_nil node

/-- Places can be filled one after the other. -/
theorem refill_refill (first : List Element)
    (clean : ∀ element ∈ first, (Node.element element).outermostIslands = [])
    (second : List Element) (node : Node) :
    (node.refill first).refill second = node.refill (first ++ second) := by
  have hnodes (nodes : List Node)
      (ih : ∀ node ∈ nodes, ∀ first : List Element,
        (∀ element ∈ first, (Node.element element).outermostIslands = []) →
          ∀ second, (node.refill first).refill second = node.refill (first ++ second))
      (first : List Element)
      (clean : ∀ element ∈ first, (Node.element element).outermostIslands = [])
      (second : List Element) :
      refillNodes second (refillNodes first nodes) = refillNodes (first ++ second) nodes := by
    induction nodes generalizing first second with
    | nil => rfl
    | cons node rest ihrest =>
      rw [refillNodes, refillNodes, refillNodes, ih node List.mem_cons_self first clean,
        outermostIslands_refill clean, List.length_drop,
        ihrest (fun node h ↦ ih node (List.mem_cons_of_mem _ h)) _
          (fun element h ↦ clean element (List.mem_of_mem_drop h)), List.drop_append]
  induction node using Node.treeInduction generalizing first second with
  | element element ih =>
    rw [refill_element first, refill_element (first ++ second)]
    split
    · cases first with
      | nil =>
        rename_i hisland
        rw [List.headD_nil, refill_element, if_pos hisland, List.nil_append]
      | cons place rest =>
        rw [List.headD_cons, List.cons_append, List.headD_cons,
          refill_eq_self (clean place List.mem_cons_self)]
    · rename_i hisland
      rw [refill_element, isIsland_setChildren, if_neg hisland, Option.map_map]
      have hchildren : element.children.map (refillNodes second ∘ refillNodes first) =
          element.children.map (refillNodes (first ++ second)) := by
        refine Option.map_congr fun children hmem ↦ ?_
        rw [childList_of_mem hmem] at ih
        exact hnodes children (fun node hnode first clean second ↦ ih node hnode first clean second)
          first clean second
      rw [hchildren]
  | conditional node _ _ ih | repeated node _ _ ih =>
    rw [Node.refill, Node.refill, Node.refill, ih first clean]
  | slot name fallback ih =>
    cases fallback with
    | none => rfl
    | some node => simp only [refill_slot, Option.map_some, ih node rfl first clean]
  | inject | static | dynamic | raw | other => rfl

/-- A change that leaves every island as it is leaves the tree as it is. -/
theorem changeIslands_id (node : Node) : node.changeIslands id = node := by
  induction node using Node.treeInduction with
  | element element ih =>
    rw [changeIslands_element]
    split
    · rfl
    · have hchildren : element.children.map (List.map (Node.changeIslands id)) =
          element.children.map id := by
        refine Option.map_congr fun children hmem ↦ ?_
        rw [childList_of_mem hmem] at ih
        exact (List.map_congr_left ih).trans (List.map_id children)
      rw [hchildren, Option.map_id]
      rfl
  | conditional node _ _ ih | repeated node _ _ ih => rw [Node.changeIslands, ih]
  | slot name fallback ih =>
    cases fallback with
    | none => rfl
    | some node => rw [Node.changeIslands, changeIslandsOfFallback, ih node rfl]
  | inject | static | dynamic | raw | other => rfl

/-- The outermost islands stand in their own places. -/
theorem refill_outermostIslands (node : Node) : node.refill node.outermostIslands = node := by
  calc
    node.refill node.outermostIslands = node.refill (node.outermostIslands.map id) := by
      rw [List.map_id]
    _ = node.changeIslands id := refill_map_outermostIslands id node
    _ = node := changeIslands_id node

/-- Filling the first places leaves the islands in the others as they are. -/
theorem refill_append_drop {elements : List Element}
    (clean : ∀ element ∈ elements, (Node.element element).outermostIslands = []) (node : Node) :
    node.refill (elements ++ node.outermostIslands.drop elements.length) =
      node.refill elements := by
  rw [← refill_refill elements clean, ← outermostIslands_refill clean, refill_outermostIslands]

/-- A tree without outermost islands has no islands at all. -/
theorem outermostIslands_eq_nil_iff (node : Node) :
    node.outermostIslands = [] ↔ ∀ element ∈ node.elements, element.isIsland = false := by
  induction node using Node.treeInduction with
  | element element ih =>
    rw [outermostIslands_element, Node.elements, reached_element]
    split
    · rename_i hisland
      simp [hisland]
    · rename_i hisland
      have hnodes : (∀ node ∈ element.childList, node.outermostIslands = []) ↔
          ∀ node ∈ element.childList, ∀ element ∈ node.elements, element.isIsland = false :=
        forall₂_congr ih
      rw [List.flatMap_eq_nil_iff, hnodes]
      constructor
      · intro h inner hinner
        rcases List.mem_cons.mp hinner with rfl | hinner
        · exact eq_false_of_ne_true hisland
        · obtain ⟨node, hnode, hreached⟩ := List.mem_flatMap.mp (by simpa using hinner)
          exact h node hnode inner hreached
      · intro h node hnode inner hinner
        refine h inner (List.mem_cons_of_mem _ ?_)
        simpa using ⟨node, hnode, hinner⟩
  | conditional node _ _ ih | repeated node _ _ ih => exact ih
  | slot name fallback ih =>
    rw [outermostIslands_slot, Node.elements, reached_slot]
    cases fallback with
    | none => simp
    | some node => simpa [Node.elements] using ih node rfl
  | inject | static | dynamic | raw | other =>
    simp [Node.outermostIslands, Node.elements, Node.reached]

end MarkupIslands.Ui
