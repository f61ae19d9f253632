import MarkupIslands.Markup.Node

/-!
# Building elements

The edits that code generators make on elements. Every edit applies to one element; a list of
elements is edited element by element, so all of them receive the same change.
-/

namespace MarkupIslands.Markup

/-- One change to an element. -/
inductive Edit
  | setSwitch (name : String) (isOn : Bool)
  | setText (name value : String)
  | setClass (value : String)
  | addText (value : String)
  | addChild (child : Node)

namespace Edit

/-- The value that stands for a switch: the empty text for "on", which both output formats write
as the bare name, and a switch that is off otherwise. -/
def switchValue (isOn : Bool) : PropertyValue := if isOn then .text "" else .switch false

def property? : Edit → Option (String × PropertyValue)
  | .setSwitch name isOn => some (name, switchValue isOn)
  | .setText name value => some (name, .text value)
  | .setClass value => some ("class", .text value)
  | .addText _ | .addChild _ => none

def child? : Edit → Option Node
  | .addText value => some (.text value)
  | .addChild child => some child
  | .setSwitch .. | .setText .. | .setClass .. => none

def apply (edit : Edit) (element : Element) : Element where
  tag := element.tag
  properties :=
    match edit.property? with
    | some (name, value) => element.properties.insert name value
    | none => element.properties
  children := element.children ++ edit.child?.toList

@[simp]
theorem tag_apply (edit : Edit) (element : Element) : (edit.apply element).tag = element.tag := rfl

@[simp]
theorem children_apply (edit : Edit) (element : Element) :
    (edit.apply element).children = element.children ++ edit.child?.toList := rfl

/-- All elements of a list receive the same edit. -/
def applyAll (edit : Edit) (elements : List Element) : List Element := elements.map edit.apply

end Edit

end MarkupIslands.Markup
