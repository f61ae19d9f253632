import MarkupIslands.Markup.Properties

/-!
# Markup trees

The tree of a piece of markup: elements carry properties and children, while texts, comments and
document type declarations are leaves. The root of a piece is the list of its top-level nodes.
-/

namespace MarkupIslands.Markup

/-- A node of a markup tree. -/
inductive Node
  | element (tag : String) (properties : Properties) (children : List Node)
  | text (value : String)
  | comment (value : String)
  | doctype (name : String)

instance : Inhabited Node := ⟨.text ""⟩

/-- The top-level nodes of a piece of markup. -/
abbrev Root := List Node

/-- An element on its own, for code that builds one. -/
structure Element where
  tag : String
  properties : Properties := .empty
  children : List Node := []

namespace Element

def toNode (element : Element) : Node :=
  .element element.tag element.properties element.children

end Element

namespace Node

mutual

def same : Node → Node → Bool
  | .element tag properties children, .element tag' properties' children' =>
    tag == tag' && decide (properties = properties') && sameList children children'
  | .text value, .text value' => value == value'
  | .comment value, .comment value' => value == value'
  | .doctype name, .doctype name' => name == name'
  | _, _ => false

def sameList : List Node → List Node → Bool
  | [], [] => true
  | node :: rest, node' :: rest' => same node node' && sameList rest rest'
  | _, _ => false

end

mutual

/-- The decided equality is the equality of trees. -/
theorem eq_of_same : ∀ {a b : Node}, same a b = true → a = b
  | .element .., .element .., h => by
    simp only [same, Bool.and_eq_true, beq_iff_eq, decide_eq_true_eq] at h
    obtain ⟨⟨rfl, rfl⟩, hchildren⟩ := h
    rw [eq_of_sameList hchildren]
  | .text _, .text _, h => by simpa [same] using h
  | .comment _, .comment _, h => by simpa [same] using h
  | .doctype _, .doctype _, h => by simpa [same] using h
  | .element .., .text _, h | .element .., .comment _, h | .element .., .doctype _, h
  | .text _, .element .., h | .text _, .comment _, h | .text _, .doctype _, h
  | .comment _, .element .., h | .comment _, .text _, h | .comment _, .doctype _, h
  | .doctype _, .element .., h | .doctype _, .text _, h | .doctype _, .comment _, h => by
    simp [same] at h

theorem eq_of_sameList : ∀ {a b : List Node}, sameList a b = true → a = b
  | [], [], _ => rfl
  | _ :: _, _ :: _, h => by
    simp only [sameList, Bool.and_eq_true] at h
    rw [eq_of_same h.1, eq_of_sameList h.2]
  | [], _ :: _, h | _ :: _, [], h => by simp [sameList] at h

end

mutual

theorem same_self : ∀ a : Node, same a a = true
  | .element _ _ children => by simp [same, sameList_self children]
  | .text _ | .comment _ | .doctype _ => by simp [same]

theorem sameList_self : ∀ a : List Node, sameList a a = true
  | [] => rfl
  | node :: rest => by simp [sameList, same_self node, sameList_self rest]

end

instance : DecidableEq Node := fun a b ↦
  if h : same a b then isTrue (eq_of_same h)
  else isFalse fun e ↦ h (e ▸ same_self a)

end Node

end MarkupIslands.Markup
