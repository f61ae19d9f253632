import MarkupIslands.Ui.Node

/-!
# Walking a user-interface tree

A walk visits a tree depth first, a node before what is inside it, in document order. A visitor
keeps a state, may change elements on the way, may stop at a node or an element without going
inside, and may fail; the first failure ends the walk, and what was changed before it stays
changed. The walk goes through the children of elements, the node of conditions and repetitions and
the fallback of slots.
-/

namespace MarkupIslands.Ui

/-- What a visitor does at an element. -/
inductive Decision (ε : Type)
  /-- The walk fails at the element, which stays as it is. -/
  | fail (error : ε)
  /-- The element takes another form, and the walk does not go inside. -/
  | become (element : Element)
  /-- The element takes another type, and the walk goes on to its children. -/
  | enter (elementType : String)

/-- A visitor; by default it goes everywhere and changes nothing. -/
structure Visitor (σ ε : Type) where
  /-- The new state, and whether the walk goes into the node. -/
  onNode : σ → Node → σ × Bool := fun s _ ↦ (s, true)
  onElement : σ → Element → σ × Decision ε := fun s element ↦ (s, .enter element.elementType)
  onChildren : σ → List Node → σ := fun s _ ↦ s

/-- The outcome of a walk. -/
structure Walked (σ ε α : Type) where
  value : α
  state : σ
  failure : Option ε := none

namespace Walked

variable {σ ε α β γ : Type}

def map (f : α → β) (walked : Walked σ ε α) : Walked σ ε β :=
  ⟨f walked.value, walked.state, walked.failure⟩

@[simp]
theorem map_map (f : α → β) (g : β → γ) (walked : Walked σ ε α) :
    (walked.map f).map g = walked.map (g ∘ f) := rfl

end Walked

namespace Visitor

variable {σ ε : Type}

def visit (visitor : Visitor σ ε) (s : σ) (node : Node) (inside : σ → Walked σ ε Node) :
    Walked σ ε Node :=
  match visitor.onNode s node with
  | (s, true) => inside s
  | (s, false) => ⟨node, s, none⟩

mutual

/-- Walks what is inside a node. -/
def walkInside (visitor : Visitor σ ε) (s : σ) : Node → Walked σ ε Node
  | .element element => (visitor.walkElement s element).map .element
  | .conditional node reference value =>
    (visitor.visit s node fun s ↦ visitor.walkInside s node).map fun node ↦
      .conditional node reference value
  | .repeated node dataSource details =>
    (visitor.visit s node fun s ↦ visitor.walkInside s node).map fun node ↦
      .repeated node dataSource details
  | .slot name fallback => (visitor.walkFallback s fallback).map fun fallback ↦ .slot name fallback
  | .inject markup => ⟨.inject markup, s, none⟩
  | .static content => ⟨.static content, s, none⟩
  | .dynamic content => ⟨.dynamic content, s, none⟩
  | .raw content => ⟨.raw content, s, none⟩
  | .other json => ⟨.other json, s, none⟩

/-- Walks an element that has been reached. -/
def walkElement (visitor : Visitor σ ε) (s : σ) : ElementOf Node → Walked σ ε Element
  | ⟨elementType, name, attrs, style, children, extra⟩ =>
    let element : Element := ⟨elementType, name, attrs, style, children, extra⟩
    match visitor.onElement s element with
    | (s, .fail error) => ⟨element, s, some error⟩
    | (s, .become element) => ⟨element, s, none⟩
    | (s, .enter elementType) =>
      (visitor.walkChildren s children).map fun children ↦
        ⟨elementType, name, attrs, style, children, extra⟩

def walkChildren (visitor : Visitor σ ε) (s : σ) :
    Option (List Node) → Walked σ ε (Option (List Node))
  | none => ⟨none, s, none⟩
  | some children => (visitor.walkNodes (visitor.onChildren s children) children).map some

def walkFallback (visitor : Visitor σ ε) (s : σ) : Option Node → Walked σ ε (Option Node)
  | none => ⟨none, s, none⟩
  | some node => (visitor.visit s node fun s ↦ visitor.walkInside s node).map some

/-- Walks nodes one after the other, up to the first failure. -/
def walkNodes (visitor : Visitor σ ε) (s : σ) : List Node → Walked σ ε (List Node)
  | [] => ⟨[], s, none⟩
  | node :: rest =>
    let first := visitor.visit s node fun s ↦ visitor.walkInside s node
    match first.failure with
    | some error => ⟨first.value :: rest, first.state, some error⟩
    | none => (visitor.walkNodes first.state rest).map (first.value :: ·)

end

/-- The decision of the visitor says how an element comes out of a walk. -/
theorem walkElement_eq (visitor : Visitor σ ε) (s : σ) (element : Element) :
    visitor.walkElement s element =
      match visitor.onElement s element with
      | (s, .fail error) => ⟨element, s, some error⟩
      | (s, .become element) => ⟨element, s, none⟩
      | (s, .enter elementType) =>
        (visitor.walkChildren s element.children).map fun children ↦
          { element with elementType, children } := by
  obtain ⟨elementType, name, attrs, style, children, extra⟩ := element
  rw [walkElement]

def walk (visitor : Visitor σ ε) (s : σ) (node : Node) : Walked σ ε Node :=
  visitor.visit s node fun s ↦ visitor.walkInside s node

end Visitor

end MarkupIslands.Ui
