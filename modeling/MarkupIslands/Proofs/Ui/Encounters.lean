import MarkupIslands.Proofs.Ui.OutermostIslands
import MarkupIslands.Ui.Survey

/-!
# What a survey can meet

A tree of interface nodes is read as a tree of encounters, one inside the other. The encounters of a
survey are those of the tree that is cut at what the survey does not go into, in pre-order. Each of
them stands at the position of its node, so encounters at nodes side by side are told apart.
-/

namespace MarkupIslands.Ui

/-! ## Labelled trees -/

/-- A tree with a label at every place. -/
inductive LabelTree (α : Type)
  | node (label : α) (inside : List (LabelTree α))

namespace LabelTree

variable {α : Type}

mutual

/-- The tree without what is inside of the labels that `stops` holds of. -/
def cut (stops : α → Bool) : LabelTree α → LabelTree α
  | .node label inside => .node label (if stops label then [] else cutAll stops inside)

def cutAll (stops : α → Bool) : List (LabelTree α) → List (LabelTree α)
  | [] => []
  | tree :: rest => tree.cut stops :: cutAll stops rest

end

mutual

def preorder : LabelTree α → List α
  | .node label inside => label :: preorderAll inside

def preorderAll : List (LabelTree α) → List α
  | [] => []
  | tree :: rest => tree.preorder ++ preorderAll rest

end

theorem preorderAll_singleton (stops : α → Bool) (tree : LabelTree α) :
    preorderAll (cutAll stops [tree]) = (tree.cut stops).preorder := List.append_nil _

end LabelTree

/-! ## Encounters of a tree -/

/-- Where a node stands in a tree: how many nodes stand before it inside the node around it, and
where that one stands. -/
abbrev Position := List Nat

/-- What a survey can write down, with the position of the node that it is about. -/
abbrev Encounter := Position × Sighting

mutual

/-- What there is to meet inside a node at a position. -/
def Node.encountersInside (position : Position) : Node → List (LabelTree Encounter)
  | .element element => [encountersOfElement position element]
  | .conditional node _ _ | .repeated node _ _ =>
    [.node (0 :: position, .node node.kind) (node.encountersInside (0 :: position))]
  | .slot _ fallback => encountersOfFallback position fallback
  | .inject _ | .static _ | .dynamic _ | .raw _ | .other _ => []

def encountersOfElement (position : Position) : ElementOf Node → LabelTree Encounter
  | ⟨elementType, _, _, _, children, _⟩ =>
    .node (position, .element elementType) (encountersOfChildren position children)

/-- The children of an element are met as a whole, if there are any or an empty list is there. -/
def encountersOfChildren (position : Position) :
    Option (List Node) → List (LabelTree Encounter)
  | none => []
  | some children =>
    [.node (position, .children children.length) (encountersOfNodes position 0 children)]

def encountersOfFallback (position : Position) :
    Option Node → List (LabelTree Encounter)
  | none => []
  | some node => [.node (0 :: position, .node node.kind) (node.encountersInside (0 :: position))]

/-- The encounters at some of the nodes inside a node, with the number of nodes before them. -/
def encountersOfNodes (position : Position) (index : Nat) :
    List Node → List (LabelTree Encounter)
  | [] => []
  | node :: rest =>
    .node (index :: position, .node node.kind) (node.encountersInside (index :: position)) ::
      encountersOfNodes position (index + 1) rest

end

/-- What there is to meet at a node that stands at a position. -/
def Node.encounters (position : Position) (node : Node) : LabelTree Encounter :=
  .node (position, .node node.kind) (node.encountersInside position)

/-! ## Encounters of a survey -/

namespace Survey

/-- Whether a survey does not go on inside an encounter. -/
def stopsAt (survey : Survey) : Encounter → Bool
  | (_, .node kind) => survey.prunedKinds.contains kind
  | (_, .element elementType) => survey.prunedTypes.contains elementType
  | (_, .children _) => false

/-- What a survey meets at a node if it never fails, in pre-order. -/
def met (survey : Survey) (position : Position) (node : Node) : List Encounter :=
  ((node.encounters position).cut survey.stopsAt).preorder

/-- What is met inside a node that the survey goes into. -/
def metInside (survey : Survey) (position : Position) (node : Node) : List Encounter :=
  LabelTree.preorderAll (LabelTree.cutAll survey.stopsAt (node.encountersInside position))

/-- What is met at some of the nodes inside a node, with the number of nodes before them. -/
def metAmong (survey : Survey) (position : Position) (index : Nat) (nodes : List Node) :
    List Encounter :=
  LabelTree.preorderAll (LabelTree.cutAll survey.stopsAt (encountersOfNodes position index nodes))

/-- What is met at the children of an element. -/
def metChildren (survey : Survey) (position : Position) (element : Element) : List Encounter :=
  match element.children with
  | none => []
  | some children =>
    (position, .children children.length) :: survey.metAmong position 0 children

variable {survey : Survey} {position : Position} {index : Nat} {encounter : Encounter}

theorem met_eq (survey : Survey) (position : Position) (node : Node) :
    survey.met position node = (position, .node node.kind) ::
      if survey.stopsAt (position, .node node.kind) then []
      else survey.metInside position node := by
  rw [met, Node.encounters, LabelTree.cut, LabelTree.preorder]
  split <;> rfl

theorem metAmong_cons (survey : Survey) (position : Position) (index : Nat) (node : Node)
    (rest : List Node) :
    survey.metAmong position index (node :: rest) =
      survey.met (index :: position) node ++ survey.metAmong position (index + 1) rest := rfl

/-- The element itself is met first, then its children if the survey goes into it. -/
theorem metInside_element (survey : Survey) (position : Position) (element : Element) :
    survey.metInside position (.element element) =
      (position, .element element.elementType) ::
        if survey.stopsAt (position, .element element.elementType) then []
        else survey.metChildren position element := by
  obtain ⟨elementType, name, attrs, style, children, extra⟩ := element
  rw [metInside, Node.encountersInside, LabelTree.preorderAll_singleton, encountersOfElement,
    LabelTree.cut, LabelTree.preorder]
  split
  · rfl
  · cases children with
    | none => rfl
    | some children => exact congrArg _ (LabelTree.preorderAll_singleton ..)

@[simp]
theorem metInside_conditional (survey : Survey) (position : Position) (node : Node)
    (reference value : Option Json) :
    survey.metInside position (.conditional node reference value) =
      survey.met (0 :: position) node := LabelTree.preorderAll_singleton ..

@[simp]
theorem metInside_repeated (survey : Survey) (position : Position) (node : Node)
    (dataSource details : Option Json) :
    survey.metInside position (.repeated node dataSource details) =
      survey.met (0 :: position) node := LabelTree.preorderAll_singleton ..

@[simp]
theorem metInside_slot (survey : Survey) (position : Position) (name : Option String)
    (node : Node) :
    survey.metInside position (.slot name (some node)) = survey.met (0 :: position) node :=
  LabelTree.preorderAll_singleton ..

/-! ### Positions of encounters -/

/-- All encounters inside a node stand at its position or below it. -/
def StandsBelow (survey : Survey) (node : Node) : Prop :=
  ∀ position, ∀ encounter ∈ survey.met position node, position <:+ encounter.1

theorem suffix_of_index {below : Position} (h : (index :: position) <:+ below) :
    position <:+ below :=
  (List.suffix_cons index position).trans h

theorem standsBelow_of_inside {node : Node}
    (h : ∀ position, ∀ encounter ∈ survey.metInside position node, position <:+ encounter.1) :
    survey.StandsBelow node := by
  intro position encounter hmem
  rw [met_eq, List.mem_cons] at hmem
  obtain rfl | hmem := hmem
  · exact List.suffix_rfl
  · split at hmem
    · cases hmem
    · exact h position encounter hmem

/-- What is met among some nodes stands at one of their places or below it. -/
theorem exists_suffix_of_mem_metAmong {nodes : List Node}
    (hnodes : ∀ node ∈ nodes, survey.StandsBelow node)
    (h : encounter ∈ survey.metAmong position index nodes) :
    ∃ i, index ≤ i ∧ (i :: position) <:+ encounter.1 := by
  induction nodes generalizing index with
  | nil => cases h
  | cons node rest ih =>
    rw [metAmong_cons, List.mem_append] at h
    obtain h | h := h
    · exact ⟨index, Nat.le_refl index, hnodes node List.mem_cons_self _ encounter h⟩
    · obtain ⟨i, hi, hsuffix⟩ := ih (fun node hmem ↦ hnodes node (List.mem_cons_of_mem _ hmem)) h
      exact ⟨i, Nat.le_of_succ_le hi, hsuffix⟩

theorem suffix_of_mem_metChildren {element : Element}
    (helement : ∀ node ∈ element.childList, survey.StandsBelow node)
    (h : encounter ∈ survey.metChildren position element) : position <:+ encounter.1 := by
  rw [metChildren] at h
  split at h
  · cases h
  · rename_i children hchildren
    rw [childList_of_mem hchildren] at helement
    obtain rfl | h := List.mem_cons.mp h
    · exact List.suffix_rfl
    · obtain ⟨i, -, hsuffix⟩ := exists_suffix_of_mem_metAmong helement h
      exact suffix_of_index hsuffix

/-- Positions grow on the way into a tree. -/
theorem standsBelow (survey : Survey) (node : Node) : survey.StandsBelow node := by
  induction node using Node.treeInduction with
  | element element ih =>
    refine standsBelow_of_inside fun position encounter h ↦ ?_
    rw [metInside_element, List.mem_cons] at h
    obtain rfl | h := h
    · exact List.suffix_rfl
    · split at h
      · cases h
      · exact suffix_of_mem_metChildren ih h
  | conditional node _ _ ih | repeated node _ _ ih =>
    refine standsBelow_of_inside fun position encounter h ↦ ?_
    simp only [metInside_conditional, metInside_repeated] at h
    exact suffix_of_index (ih _ encounter h)
  | slot name fallback ih =>
    refine standsBelow_of_inside fun position encounter h ↦ ?_
    cases fallback with
    | none => cases h
    | some node =>
      rw [metInside_slot] at h
      exact suffix_of_index (ih node rfl _ encounter h)
  | inject | static | dynamic | raw | other => exact standsBelow_of_inside fun _ _ h ↦ by cases h

/-- A node stands at another position than those inside it. -/
theorem ne_of_below {below : Position} (h : (index :: position) <:+ below) : below ≠ position := by
  rintro rfl
  have hlength := h.length_le
  rw [List.length_cons] at hlength
  omega

/-- Positions below different nodes inside a node are different. -/
theorem ne_of_suffix {i j : Nat} {below other : Position} (hne : i ≠ j)
    (hi : (i :: position) <:+ below) (hj : (j :: position) <:+ other) : other ≠ below := by
  rintro rfl
  have hsuffix := List.suffix_of_suffix_length_le hi hj (Nat.le_refl _)
  exact hne (List.cons.inj (hsuffix.eq_of_length rfl)).1

/-- Nothing that is met at a node stands below one of the nodes behind it. -/
theorem ne_of_mem_met {i : Nat} (hi : index + 1 ≤ i) {below : Position}
    (hbelow : (i :: position) <:+ below) (node : Node) :
    ∀ encounter ∈ survey.met (index :: position) node, encounter.1 ≠ below :=
  fun encounter hmem ↦
    ne_of_suffix (Nat.ne_of_gt hi) hbelow (survey.standsBelow node _ encounter hmem)

/-- Nothing that is met at the nodes behind a node stands below it. -/
theorem ne_of_mem_metAmong {below : Position} (hbelow : (index :: position) <:+ below)
    (nodes : List Node) :
    ∀ encounter ∈ survey.metAmong position (index + 1) nodes, encounter.1 ≠ below := by
  intro encounter hmem
  obtain ⟨i, hi, hsuffix⟩ :=
    exists_suffix_of_mem_metAmong (fun node _ ↦ survey.standsBelow node) hmem
  exact ne_of_suffix (Nat.ne_of_lt hi) hbelow hsuffix

end Survey

end MarkupIslands.Ui
