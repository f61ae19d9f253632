import Mathlib.Data.List.TakeWhile
import MarkupIslands.Proofs.Ui.Encounters

/-!
# What a survey writes down

A survey writes down its encounters up to the first one that it fails on, and renames the elements
that it has met before that one. Everything else stays as it is.
-/

namespace MarkupIslands.Ui

/-! ## Types by positions -/

mutual

/-- The tree with the type of every element changed as its position says, and nothing else. -/
def Node.mapTypes (change : Position → String → String) (position : Position) : Node → Node
  | .element element => .element (mapTypesOfElement change position element)
  | .conditional node reference value =>
    .conditional (node.mapTypes change (0 :: position)) reference value
  | .repeated node dataSource details =>
    .repeated (node.mapTypes change (0 :: position)) dataSource details
  | .slot name fallback => .slot name (mapTypesOfFallback change position fallback)
  | .inject markup => .inject markup
  | .static content => .static content
  | .dynamic content => .dynamic content
  | .raw content => .raw content
  | .other json => .other json

def mapTypesOfElement (change : Position → String → String) (position : Position) :
    ElementOf Node → Element
  | ⟨elementType, name, attrs, style, children, extra⟩ =>
    ⟨change position elementType, name, attrs, style, mapTypesOfChildren change position children,
      extra⟩

def mapTypesOfChildren (change : Position → String → String) (position : Position) :
    Option (List Node) → Option (List Node)
  | none => none
  | some children => some (mapTypesOfNodes change position 0 children)

def mapTypesOfFallback (change : Position → String → String) (position : Position) :
    Option Node → Option Node
  | none => none
  | some node => some (node.mapTypes change (0 :: position))

def mapTypesOfNodes (change : Position → String → String) (position : Position) (index : Nat) :
    List Node → List Node
  | [] => []
  | node :: rest =>
    node.mapTypes change (index :: position) :: mapTypesOfNodes change position (index + 1) rest

end

section

variable {change change' : Position → String → String} {position : Position} {index : Nat}

theorem mapTypes_element (change : Position → String → String) (position : Position)
    (element : Element) :
    (Node.element element).mapTypes change position = .element { element with
      elementType := change position element.elementType
      children := element.children.map (mapTypesOfNodes change position 0) } := by
  obtain ⟨elementType, name, attrs, style, children, extra⟩ := element
  cases children <;> rfl

theorem mapTypes_slot (change : Position → String → String) (position : Position)
    (name : Option String) (fallback : Option Node) :
    (Node.slot name fallback).mapTypes change position =
      .slot name (fallback.map (Node.mapTypes change (0 :: position))) := by
  cases fallback <;> rfl

theorem mapTypesOfNodes_congr {nodes : List Node}
    (hnodes : ∀ node ∈ nodes, ∀ position, (∀ below, position <:+ below →
      change below = change' below) → node.mapTypes change position =
        node.mapTypes change' position)
    (h : ∀ i, index ≤ i → ∀ below, (i :: position) <:+ below → change below = change' below) :
    mapTypesOfNodes change position index nodes = mapTypesOfNodes change' position index nodes := by
  induction nodes generalizing index with
  | nil => rfl
  | cons node rest ih =>
    rw [mapTypesOfNodes, mapTypesOfNodes,
      hnodes node List.mem_cons_self _ (h index (Nat.le_refl index)),
      ih (fun node hmem ↦ hnodes node (List.mem_cons_of_mem _ hmem))
        fun i hi ↦ h i (Nat.le_of_succ_le hi)]

/-- Only the positions of a tree count for the change of its types. -/
theorem mapTypes_congr (node : Node) :
    ∀ position, (∀ below, position <:+ below → change below = change' below) →
      node.mapTypes change position = node.mapTypes change' position := by
  induction node using Node.treeInduction with
  | element element ih =>
    intro position h
    have hchildren : element.children.map (mapTypesOfNodes change position 0) =
        element.children.map (mapTypesOfNodes change' position 0) := by
      refine Option.map_congr fun children hmem ↦ ?_
      rw [childList_of_mem hmem] at ih
      exact mapTypesOfNodes_congr ih fun i _ below hsuffix ↦
        h below (Survey.suffix_of_index hsuffix)
    rw [mapTypes_element, mapTypes_element, h position List.suffix_rfl, hchildren]
  | conditional node _ _ ih | repeated node _ _ ih =>
    intro position h
    rw [Node.mapTypes, Node.mapTypes,
      ih _ fun below hsuffix ↦ h below (Survey.suffix_of_index hsuffix)]
  | slot name fallback ih =>
    intro position h
    rw [mapTypes_slot, mapTypes_slot]
    congr 1
    exact Option.map_congr fun node hmem ↦
      ih node hmem _ fun below hsuffix ↦ h below (Survey.suffix_of_index hsuffix)
  | inject | static | dynamic | raw | other => exact fun _ _ ↦ rfl

theorem mapTypesOfNodes_same_of_forall {nodes : List Node}
    (hnodes : ∀ node ∈ nodes, ∀ position, node.mapTypes (fun _ type ↦ type) position = node)
    (position : Position) (index : Nat) :
    mapTypesOfNodes (fun _ type ↦ type) position index nodes = nodes := by
  induction nodes generalizing index with
  | nil => rfl
  | cons node rest ih =>
    rw [mapTypesOfNodes, hnodes node List.mem_cons_self,
      ih fun node hmem ↦ hnodes node (List.mem_cons_of_mem _ hmem)]

/-- A change that changes no type leaves the tree as it is. -/
theorem mapTypes_same (node : Node) :
    ∀ position, node.mapTypes (fun _ type ↦ type) position = node := by
  induction node using Node.treeInduction with
  | element element ih =>
    intro position
    have hchildren : element.children.map (mapTypesOfNodes (fun _ type ↦ type) position 0) =
        element.children.map id := by
      refine Option.map_congr fun children hmem ↦ ?_
      rw [childList_of_mem hmem] at ih
      exact mapTypesOfNodes_same_of_forall ih position 0
    rw [mapTypes_element, hchildren, Option.map_id]
    rfl
  | conditional node _ _ ih | repeated node _ _ ih =>
    intro position
    rw [Node.mapTypes, ih]
  | slot name fallback ih =>
    intro position
    cases fallback with
    | none => rfl
    | some node => rw [mapTypes_slot, Option.map_some, ih node rfl]
  | inject | static | dynamic | raw | other => exact fun _ ↦ rfl

@[simp]
theorem mapTypesOfNodes_same (position : Position) (index : Nat) (nodes : List Node) :
    mapTypesOfNodes (fun _ type ↦ type) position index nodes = nodes :=
  mapTypesOfNodes_same_of_forall (fun node _ ↦ mapTypes_same node) position index

/-- Some nodes stay as they are if nothing is changed at or below their positions. -/
theorem mapTypesOfNodes_eq_self {nodes : List Node}
    (h : ∀ i, index ≤ i → ∀ below, (i :: position) <:+ below → change below = id) :
    mapTypesOfNodes change position index nodes = nodes :=
  (mapTypesOfNodes_congr (fun node _ ↦ mapTypes_congr node) h).trans
    (mapTypesOfNodes_same position index nodes)

end

/-! ## Walks -/

namespace Visitor

variable {σ ε : Type} {visitor : Visitor σ ε} {s : σ} {node : Node} {rest : List Node}

theorem walkNodes_of_failure {error : ε} (h : (visitor.walk s node).failure = some error) :
    visitor.walkNodes s (node :: rest) =
      ⟨(visitor.walk s node).value :: rest, (visitor.walk s node).state, some error⟩ := by
  rw [walk] at h
  rw [walkNodes, walk, h]

theorem walkNodes_of_success (h : (visitor.walk s node).failure = none) :
    visitor.walkNodes s (node :: rest) =
      (visitor.walkNodes (visitor.walk s node).state rest).map
        ((visitor.walk s node).value :: ·) := by
  rw [walk] at h
  rw [walkNodes, walk, h]

end Visitor

/-! ## Up to the first failure -/

namespace Survey

def failsAt (survey : Survey) : Encounter → Bool
  | (_, .element elementType) => survey.failingType = some elementType
  | (_, .node _) | (_, .children _) => false

def beforeFailure (survey : Survey) (met : List Encounter) : List Encounter :=
  met.takeWhile (!survey.failsAt ·)

/-- The encounters up to the first one that a survey fails on, this one included. -/
def upToFailure (survey : Survey) (met : List Encounter) : List Encounter :=
  survey.beforeFailure met ++ (met.find? survey.failsAt).toList

variable {survey : Survey} {position below : Position} {index : Nat} {encounter : Encounter}
  {met more : List Encounter}

theorem beforeFailure_cons (survey : Survey) (encounter : Encounter) (met : List Encounter) :
    survey.beforeFailure (encounter :: met) =
      if survey.failsAt encounter then [] else encounter :: survey.beforeFailure met := by
  cases h : survey.failsAt encounter <;> simp [beforeFailure, h]

theorem upToFailure_cons (survey : Survey) (encounter : Encounter) (met : List Encounter) :
    survey.upToFailure (encounter :: met) =
      if survey.failsAt encounter then [encounter] else encounter :: survey.upToFailure met := by
  cases h : survey.failsAt encounter <;> simp [upToFailure, beforeFailure, h]

/-- A failure among the earlier encounters hides the later ones. -/
theorem beforeFailure_append (survey : Survey) (met more : List Encounter) :
    survey.beforeFailure (met ++ more) =
      if met.any survey.failsAt then survey.beforeFailure met
      else met ++ survey.beforeFailure more := by
  induction met with
  | nil => rfl
  | cons encounter met ih =>
    rw [List.cons_append, beforeFailure_cons, beforeFailure_cons, ih, List.any_cons]
    cases survey.failsAt encounter <;> cases met.any survey.failsAt <;> rfl

theorem upToFailure_append (survey : Survey) (met more : List Encounter) :
    survey.upToFailure (met ++ more) =
      if met.any survey.failsAt then survey.upToFailure met
      else met ++ survey.upToFailure more := by
  induction met with
  | nil => rfl
  | cons encounter met ih =>
    rw [List.cons_append, upToFailure_cons, upToFailure_cons, ih, List.any_cons]
    cases survey.failsAt encounter <;> cases met.any survey.failsAt <;> rfl

theorem mem_of_mem_beforeFailure (h : encounter ∈ survey.beforeFailure met) : encounter ∈ met :=
  (List.takeWhile_sublist _).subset h

theorem beforeFailure_of_any_eq_false (h : met.any survey.failsAt = false) :
    survey.beforeFailure met = met := by
  refine List.takeWhile_eq_self_iff.mpr fun encounter hmem ↦ ?_
  rw [Bool.not_eq_true', ← Bool.not_eq_true]
  exact List.any_eq_false.mp h encounter hmem

theorem upToFailure_of_any_eq_false (h : met.any survey.failsAt = false) :
    survey.upToFailure met = met := by
  have hfind : met.find? survey.failsAt = none :=
    List.find?_eq_none.mpr (List.any_eq_false.mp h)
  rw [upToFailure, beforeFailure_of_any_eq_false h, hfind, Option.toList_none, List.append_nil]

/-- A survey fails if it meets an element of the failing type. -/
theorem any_failsAt_iff : met.any survey.failsAt ↔ ∃ elementType,
    survey.failingType = some elementType ∧ ∃ position, (position, .element elementType) ∈ met := by
  rw [List.any_eq_true]
  constructor
  · rintro ⟨⟨position, sighting⟩, hmem, hfails⟩
    cases sighting with
    | element elementType => exact ⟨elementType, of_decide_eq_true hfails, position, hmem⟩
    | node | children => cases hfails
  · rintro ⟨elementType, htype, position, hmem⟩
    exact ⟨_, hmem, decide_eq_true htype⟩

/-! ## Renamed elements -/

def newType (survey : Survey) (elementType : String) : String :=
  (survey.renamed.get? elementType).getD elementType

/-- The type of an element at a position if those met before the first failure are renamed. -/
def changes (survey : Survey) (met : List Encounter) (position : Position) (elementType : String) :
    String :=
  if (position, .element elementType) ∈ survey.beforeFailure met then survey.newType elementType
  else elementType

theorem changes_congr (h : ∀ elementType, (below, .element elementType) ∈ survey.beforeFailure met ↔
    (below, .element elementType) ∈ survey.beforeFailure more) :
    survey.changes met below = survey.changes more below := by
  funext elementType
  simp only [changes, h elementType]

/-- Where nothing is met, nothing is changed. -/
theorem changes_of_forall_ne (h : ∀ encounter ∈ met, encounter.1 ≠ below) :
    survey.changes met below = id :=
  funext fun _ ↦ if_neg fun hmem ↦ h _ (mem_of_mem_beforeFailure hmem) rfl

theorem changes_cons_of_ne (h : ∀ elementType, encounter ≠ (below, .element elementType))
    (hfails : survey.failsAt encounter = false) :
    survey.changes (encounter :: met) below = survey.changes met below := by
  apply changes_congr
  intro elementType
  rw [beforeFailure_cons, hfails, if_neg Bool.false_ne_true, List.mem_cons,
    or_iff_right (h elementType).symm]

theorem changes_cons_self {elementType : String}
    (hfails : survey.failsAt (position, .element elementType) = false) :
    survey.changes ((position, .element elementType) :: met) position elementType =
      survey.newType elementType := by
  have hmem : (position, .element elementType) ∈
      survey.beforeFailure ((position, .element elementType) :: met) := by
    rw [beforeFailure_cons, hfails, if_neg Bool.false_ne_true]
    exact List.mem_cons_self
  exact if_pos hmem

theorem changes_cons_of_fails (hfails : survey.failsAt encounter) :
    survey.changes (encounter :: met) = fun _ elementType ↦ elementType := by
  funext below elementType
  have hmem : (below, .element elementType) ∉ survey.beforeFailure (encounter :: met) := by
    rw [beforeFailure_cons, if_pos hfails]
    exact List.not_mem_nil
  exact if_neg hmem

/-- Encounters elsewhere do not matter to the element at a position. -/
theorem changes_append_left (h : ∀ encounter ∈ more, encounter.1 ≠ below) :
    survey.changes (met ++ more) below = survey.changes met below := by
  apply changes_congr
  intro elementType
  have hne : (below, Sighting.element elementType) ∉ survey.beforeFailure more :=
    fun hmem ↦ h _ (mem_of_mem_beforeFailure hmem) rfl
  rw [beforeFailure_append]
  split
  · exact Iff.rfl
  · rename_i hany
    rw [List.mem_append, or_iff_left hne,
      beforeFailure_of_any_eq_false (Bool.eq_false_iff.mpr hany)]

theorem changes_append_right (h : ∀ encounter ∈ met, encounter.1 ≠ below)
    (hany : met.any survey.failsAt = false) :
    survey.changes (met ++ more) below = survey.changes more below := by
  apply changes_congr
  intro elementType
  rw [beforeFailure_append, hany, if_neg Bool.false_ne_true, List.mem_append,
    or_iff_right fun hmem ↦ h _ hmem rfl]

/-- Behind a failure nothing is changed. -/
theorem changes_append_of_any (h : ∀ encounter ∈ met, encounter.1 ≠ below)
    (hany : met.any survey.failsAt) : survey.changes (met ++ more) below = id := by
  have hsame : survey.changes (met ++ more) below = survey.changes met below := by
    apply changes_congr
    intro elementType
    rw [beforeFailure_append, hany, if_pos rfl]
  rw [hsame, changes_of_forall_ne h]

section

variable (node : Node) (rest : List Node)

/-- What is met behind a node does not change the node. -/
theorem mapTypes_changes_append :
    node.mapTypes (survey.changes (survey.met (index :: position) node ++
        survey.metAmong position (index + 1) rest)) (index :: position) =
      node.mapTypes (survey.changes (survey.met (index :: position) node)) (index :: position) :=
  mapTypes_congr node _ fun _ hbelow ↦ changes_append_left (ne_of_mem_metAmong hbelow rest)

/-- What is met at a node does not change the nodes behind it. -/
theorem mapTypesOfNodes_changes_append
    (hany : (survey.met (index :: position) node).any survey.failsAt = false) :
    mapTypesOfNodes (survey.changes (survey.met (index :: position) node ++
        survey.metAmong position (index + 1) rest)) position (index + 1) rest =
      mapTypesOfNodes (survey.changes (survey.metAmong position (index + 1) rest)) position
        (index + 1) rest :=
  mapTypesOfNodes_congr (fun node _ ↦ mapTypes_congr node) fun _ hi _ hbelow ↦
    changes_append_right (ne_of_mem_met hi hbelow node) hany

/-- Behind a node that the survey fails in nothing changes. -/
theorem mapTypesOfNodes_changes_of_any
    (hany : (survey.met (index :: position) node).any survey.failsAt) :
    mapTypesOfNodes (survey.changes (survey.met (index :: position) node ++
        survey.metAmong position (index + 1) rest)) position (index + 1) rest = rest :=
  mapTypesOfNodes_eq_self fun _ hi _ hbelow ↦
    changes_append_of_any (ne_of_mem_met hi hbelow node) hany

end

/-! ## Walks that follow a survey -/

variable {α β : Type} {log : List Sighting}

/-- A walk that comes with a log follows a survey: it adds the encounters up to the first failure to
the log, fails if there is one, and leaves what the renaming before it makes of its value. -/
structure Follows (survey : Survey) (log : List Sighting) (met : List Encounter)
    (renamed : (Position → String → String) → α) (walked : Walked (List Sighting) String α) :
    Prop where
  state : walked.state = log ++ (survey.upToFailure met).map Prod.snd
  failure : walked.failure = if met.any survey.failsAt then survey.failingType else none
  value : walked.value = renamed (survey.changes met)

namespace Follows

variable {renamed : (Position → String → String) → α} {walked : Walked (List Sighting) String α}

theorem map (h : survey.Follows log met renamed walked) (f : α → β) :
    survey.Follows log met (fun change ↦ f (renamed change)) (walked.map f) :=
  ⟨h.state, h.failure, congrArg f h.value⟩

/-- Nothing is met and nothing is changed. -/
theorem idle {value : α} (h : renamed (fun _ elementType ↦ elementType) = value) :
    survey.Follows log [] renamed ⟨value, log, none⟩ :=
  ⟨(List.append_nil log).symm, rfl, h.symm⟩

/-- A survey fails exactly if it meets an element of the failing type. -/
theorem failure_eq_some_iff (h : survey.Follows log met renamed walked) (error : String) :
    walked.failure = some error ↔
      survey.failingType = some error ∧ ∃ position, (position, .element error) ∈ met := by
  rw [h.failure]
  constructor
  · intro hfailure
    split at hfailure
    · rename_i hany
      obtain ⟨elementType, htype, hmem⟩ := any_failsAt_iff.mp hany
      obtain rfl := Option.some.inj (htype.symm.trans hfailure)
      exact ⟨htype, hmem⟩
    · cases hfailure
  · rintro ⟨htype, hmem⟩
    rw [if_pos (any_failsAt_iff.mpr ⟨error, htype, hmem⟩), htype]

/-- An encounter that is neither renamed nor fails is written down, and the walk goes on. -/
theorem cons (hfails : survey.failsAt encounter = false)
    (hother : ∀ elementType, encounter.2 ≠ .element elementType)
    (h : survey.Follows (log ++ [encounter.2]) met renamed walked) :
    survey.Follows log (encounter :: met) renamed walked := by
  have hchanges : survey.changes (encounter :: met) = survey.changes met :=
    funext fun _ ↦ changes_cons_of_ne
      (fun elementType heq ↦ hother elementType (congrArg Prod.snd heq)) hfails
  refine ⟨?_, ?_, ?_⟩
  · rw [h.state, upToFailure_cons, hfails, if_neg Bool.false_ne_true, List.map_cons,
      List.append_assoc, List.singleton_append]
  · rw [h.failure, List.any_cons, hfails, Bool.false_or]
  · rw [hchanges, h.value]

/-- An element that a survey does not fail on is written down and gets its new type. -/
theorem cons_element {element : Element}
    {walked : Walked (List Sighting) String (Option (List Node))}
    (hfails : survey.failsAt (position, .element element.elementType) = false)
    (h : survey.Follows (log ++ [.element element.elementType]) met
      (fun change ↦ element.children.map (mapTypesOfNodes change position 0)) walked) :
    survey.Follows log ((position, .element element.elementType) :: met)
      (fun change ↦ { element with
        elementType := change position element.elementType
        children := element.children.map (mapTypesOfNodes change position 0) })
      (walked.map fun children ↦ { element with
        elementType := survey.newType element.elementType
        children }) := by
  have hchildren : element.children.map (mapTypesOfNodes
      (survey.changes ((position, .element element.elementType) :: met)) position 0) =
        element.children.map (mapTypesOfNodes (survey.changes met) position 0) := by
    refine Option.map_congr fun children _ ↦
      mapTypesOfNodes_congr (fun node _ ↦ mapTypes_congr node) ?_
    exact fun i _ below hbelow ↦ changes_cons_of_ne
      (fun elementType heq ↦ ne_of_below hbelow (congrArg Prod.fst heq).symm) hfails
  refine ⟨?_, ?_, ?_⟩
  · rw [upToFailure_cons, hfails, if_neg Bool.false_ne_true, List.map_cons,
      ← List.singleton_append, ← List.append_assoc]
    exact h.state
  · rw [List.any_cons, hfails, Bool.false_or]
    exact h.failure
  · rw [changes_cons_self hfails, hchildren, ← h.value]
    rfl

/-- The nodes behind one that the walk fails in are not met. -/
theorem cons_of_any {node : Node} {rest : List Node}
    (h : survey.Follows log (survey.met (index :: position) node)
      (fun change ↦ node.mapTypes change (index :: position)) (survey.visitor.walk log node))
    (hany : (survey.met (index :: position) node).any survey.failsAt) :
    survey.Follows log (survey.metAmong position index (node :: rest))
      (fun change ↦ mapTypesOfNodes change position index (node :: rest))
      (survey.visitor.walkNodes log (node :: rest)) := by
  obtain ⟨error, herror, -⟩ := any_failsAt_iff.mp hany
  have hfailure : (survey.visitor.walk log node).failure = some error := by
    rw [h.failure, if_pos hany, herror]
  rw [Visitor.walkNodes_of_failure hfailure, metAmong_cons]
  refine ⟨?_, ?_, ?_⟩
  · rw [upToFailure_append, if_pos hany]
    exact h.state
  · rw [List.any_append, hany, Bool.true_or, if_pos rfl, herror]
  · rw [mapTypesOfNodes, mapTypes_changes_append, mapTypesOfNodes_changes_of_any node rest hany]
    exact congrArg (· :: rest) h.value

/-- A node that the walk does not fail in is left behind, and the walk goes on. -/
theorem cons_of_any_eq_false {node : Node} {rest : List Node}
    (h : survey.Follows log (survey.met (index :: position) node)
      (fun change ↦ node.mapTypes change (index :: position)) (survey.visitor.walk log node))
    (hany : (survey.met (index :: position) node).any survey.failsAt = false)
    (hrest : survey.Follows (survey.visitor.walk log node).state
      (survey.metAmong position (index + 1) rest)
      (fun change ↦ mapTypesOfNodes change position (index + 1) rest)
      (survey.visitor.walkNodes (survey.visitor.walk log node).state rest)) :
    survey.Follows log (survey.metAmong position index (node :: rest))
      (fun change ↦ mapTypesOfNodes change position index (node :: rest))
      (survey.visitor.walkNodes log (node :: rest)) := by
  have hfailure : (survey.visitor.walk log node).failure = none := by
    rw [h.failure, hany, if_neg Bool.false_ne_true]
  have hstate : (survey.visitor.walk log node).state =
      log ++ (survey.met (index :: position) node).map Prod.snd := by
    rw [h.state, upToFailure_of_any_eq_false hany]
  rw [Visitor.walkNodes_of_success hfailure, metAmong_cons]
  refine ⟨?_, ?_, ?_⟩
  · rw [upToFailure_append, hany, if_neg Bool.false_ne_true, List.map_append, ← List.append_assoc,
      ← hstate]
    exact hrest.state
  · rw [List.any_append, hany, Bool.false_or]
    exact hrest.failure
  · rw [mapTypesOfNodes, mapTypes_changes_append, mapTypesOfNodes_changes_append node rest hany,
      ← h.value]
    exact congrArg _ hrest.value

end Follows

/-- A survey goes through nodes one after the other. -/
theorem follows_walkNodes {nodes : List Node}
    (hnodes : ∀ node ∈ nodes, ∀ log position, survey.Follows log (survey.met position node)
      (fun change ↦ node.mapTypes change position) (survey.visitor.walk log node)) :
    ∀ log position index, survey.Follows log (survey.metAmong position index nodes)
      (fun change ↦ mapTypesOfNodes change position index nodes)
      (survey.visitor.walkNodes log nodes) := by
  induction nodes with
  | nil => exact fun log position index ↦ .idle rfl
  | cons node rest ih =>
    intro log position index
    have hnode := hnodes node List.mem_cons_self log (index :: position)
    have hrest := ih fun node hmem ↦ hnodes node (List.mem_cons_of_mem _ hmem)
    cases hany : (survey.met (index :: position) node).any survey.failsAt with
    | true => exact hnode.cons_of_any hany
    | false => exact hnode.cons_of_any_eq_false hany (hrest _ position (index + 1))

theorem onElement_eq (survey : Survey) (log : List Sighting) (position : Position)
    (element : Element) :
    survey.visitor.onElement log element =
      (log ++ [.element element.elementType],
        if survey.failsAt (position, .element element.elementType) then .fail element.elementType
        else if survey.stopsAt (position, .element element.elementType) then
          .become (element.setType (survey.newType element.elementType))
        else .enter (survey.newType element.elementType)) := by
  refine congrArg (Prod.mk _) ?_
  by_cases hfails : survey.failingType = some element.elementType
  · simp [decide, failsAt, hfails]
  · simp [decide, failsAt, stopsAt, newType, hfails]

/-- The step over an element, given that the walks over its children follow the survey. -/
theorem follows_walkElement {element : Element}
    (hchildren : ∀ log, survey.Follows log (survey.metChildren position element)
      (fun change ↦ element.children.map (mapTypesOfNodes change position 0))
      (survey.visitor.walkChildren log element.children)) (log : List Sighting) :
    survey.Follows log (survey.metInside position (.element element))
      (fun change ↦ { element with
        elementType := change position element.elementType
        children := element.children.map (mapTypesOfNodes change position 0) })
      (survey.visitor.walkElement log element) := by
  have hsame : element.children.map (mapTypesOfNodes (fun _ type ↦ type) position 0) =
      element.children := by
    cases element.children <;> simp
  rw [Visitor.walkElement_eq, metInside_element, survey.onElement_eq log position]
  cases hfails : survey.failsAt (position, .element element.elementType) with
  | true =>
    refine ⟨?_, ?_, ?_⟩
    · rw [upToFailure_cons, if_pos hfails]
      rfl
    · rw [List.any_cons, hfails, Bool.true_or, if_pos rfl]
      exact (of_decide_eq_true hfails).symm
    · rw [changes_cons_of_fails hfails, hsame]
      rfl
  | false =>
    cases hstops : survey.stopsAt (position, .element element.elementType) with
    | true => exact .cons_element hfails (.idle hsame)
    | false => exact .cons_element hfails (hchildren _)

/-- A survey visits a node before what is inside of it. -/
theorem follows_walk_of_inside {node : Node}
    (h : ∀ log position, survey.Follows log (survey.metInside position node)
      (fun change ↦ node.mapTypes change position) (survey.visitor.walkInside log node))
    (log : List Sighting) (position : Position) :
    survey.Follows log (survey.met position node) (fun change ↦ node.mapTypes change position)
      (survey.visitor.walk log node) := by
  have hnode : survey.visitor.onNode log node =
      (log ++ [.node node.kind], !survey.stopsAt (position, .node node.kind)) := rfl
  rw [met_eq, Visitor.walk, Visitor.visit, hnode]
  apply Follows.cons rfl fun _ ↦ Sighting.noConfusion
  cases survey.stopsAt (position, .node node.kind) with
  | true => exact .idle (mapTypes_same node position)
  | false => exact h _ position

/-- The induction over the tree: each kind of node passes on what its parts have met. -/
theorem follows_walk (node : Node) : ∀ log position,
    survey.Follows log (survey.met position node) (fun change ↦ node.mapTypes change position)
      (survey.visitor.walk log node) := by
  induction node using Node.treeInduction with
  | element element ih =>
    refine follows_walk_of_inside fun log position ↦ ?_
    have hrenamed : (fun change ↦ (Node.element element).mapTypes change position) =
        fun change ↦ Node.element { element with
          elementType := change position element.elementType
          children := element.children.map (mapTypesOfNodes change position 0) } :=
      funext fun change ↦ mapTypes_element change position element
    rw [hrenamed, Visitor.walkInside]
    refine (follows_walkElement (fun log ↦ ?_) log).map Node.element
    rw [metChildren]
    cases hchildren : element.children with
    | none => exact .idle rfl
    | some children =>
      rw [childList_of_mem hchildren] at ih
      exact .cons rfl (fun _ ↦ Sighting.noConfusion)
        ((follows_walkNodes ih _ position 0).map some)
  | conditional node reference value ih =>
    refine follows_walk_of_inside fun log position ↦ ?_
    rw [metInside_conditional]
    exact (ih log (0 :: position)).map fun node ↦ Node.conditional node reference value
  | repeated node dataSource details ih =>
    refine follows_walk_of_inside fun log position ↦ ?_
    rw [metInside_repeated]
    exact (ih log (0 :: position)).map fun node ↦ Node.repeated node dataSource details
  | slot name fallback ih =>
    refine follows_walk_of_inside fun log position ↦ ?_
    cases fallback with
    | none => exact .idle rfl
    | some node =>
      rw [metInside_slot]
      exact (ih node rfl log (0 :: position)).map fun node ↦ Node.slot name (some node)
  | inject | static | dynamic | raw | other => exact follows_walk_of_inside fun _ _ ↦ .idle rfl

/-- A survey writes down what it meets in pre-order up to the first element that it fails on, fails
exactly if there is one, with the type of this element, and renames the elements before it. -/
theorem run_follows_met (survey : Survey) (node : Node) :
    (survey.run node).state = (survey.upToFailure (survey.met [] node)).map Prod.snd ∧
      (∀ error, (survey.run node).failure = some error ↔
        survey.failingType = some error ∧
          ∃ position, (position, .element error) ∈ survey.met [] node) ∧
      (survey.run node).value = node.mapTypes (survey.changes (survey.met [] node)) [] := by
  have hfollows : survey.Follows [] (survey.met [] node) (fun change ↦ node.mapTypes change [])
      (survey.run node) := follows_walk node [] []
  exact ⟨hfollows.state, hfollows.failure_eq_some_iff, hfollows.value⟩

/-- An element that the survey does not go into, and one in a fallback that it fails on. -/
example :
    let survey : Survey := { prunedTypes := ["b"], failingType := some "c" }
    let pruned : Node := .element { elementType := "b", children := some [] }
    let failing : Node := .slot none (some (.element { elementType := "c" }))
    let walked := survey.run
      (.element { elementType := "a", children := some [pruned, failing, pruned] })
    walked.failure = some "c" ∧
      walked.state = [.node "element", .element "a", .children 3, .node "element", .element "b",
        .node "slot", .node "element", .element "c"] := by
  decide

end Survey

end MarkupIslands.Ui
