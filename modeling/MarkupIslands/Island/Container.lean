import MarkupIslands.Island.Failure
import MarkupIslands.Ui.Node

/-!
# Islands and their containers

An island carries raw markup as a text. Once the markup has been written for the target, a container
takes the island's place: it has no layout of its own, and its only child is the written text, which
goes into the output as it is. A container is no island, so no island is resolved twice.
-/

namespace MarkupIslands.Island

open MarkupIslands.Ui

/-- The raw markup of an island. Anything but a text is a failure of the component. -/
def markup (element : Element) (component : String) : Except Failure String :=
  match element.attributes.get? markupAttribute with
  | some value =>
    match value.text? with
    | some text => .ok text
    | none => .error (.invalidNode component "`html` attribute content is not a string")
  | none => .error (.invalidNode component "markup island has no `html` attribute")

/-- The container that takes the place of an element. Name and foreign fields are kept. -/
def container (element : Element) (content : String) : Element :=
  { element with
    elementType := containerType
    attrs := some .empty
    style := some (.singleton "display" (.ofText "contents"))
    children := some [.inject content] }

@[simp]
theorem isIsland_container (element : Element) (content : String) :
    (container element content).isIsland = false := by
  have h : (containerType == islandType) = false := by decide
  simp [ElementOf.isIsland, container, h]

end MarkupIslands.Island
