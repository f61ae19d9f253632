import MarkupIslands.Ui.Import
import MarkupIslands.Ui.NodeJson

/-!
# Components

A component has a name, a tree and the imports that its code needs.
-/

namespace MarkupIslands.Ui

structure Component where
  name : String
  node : Node
  importDefinitions : Option Imports := none
  extra : KeyMap Json := .empty

namespace Component

def imports (component : Component) : Imports := component.importDefinitions.getD .empty

/-- Adds imports, which take the place of those with the same name. Adding none leaves an absent
field absent. -/
def mergeImports (component : Component) (definitions : Imports) : Component :=
  if definitions.isEmpty then component
  else { component with importDefinitions := some (component.imports.merge definitions) }

@[simp]
theorem name_mergeImports (component : Component) (definitions : Imports) :
    (component.mergeImports definitions).name = component.name := by
  unfold mergeImports
  split <;> rfl

@[simp]
theorem node_mergeImports (component : Component) (definitions : Imports) :
    (component.mergeImports definitions).node = component.node := by
  unfold mergeImports
  split <;> rfl

def ofJson : Json → Decoded Component
  | .object members => do
    let importDefinitions ← Decode.optional Imports.ofJson members "importDefinitions"
    let name ← Decode.field Decode.text members "name"
    let name ← Decode.require "name" name
    let node ← Decode.require "node" ((members.lookup "node").map nodeOfJson)
    return { name, node, importDefinitions,
             extra := Decode.others ["name", "node", "importDefinitions"] members }
  | json => Decode.wrongType json (.record "ComponentUidl")

def toJson (component : Component) : Json :=
  .ofMembers (("name", .text component.name) :: ("node", component.node.toJson) ::
    Json.member "importDefinitions" (component.importDefinitions.map Imports.toJson) ++
    component.extra.entries)

end Component

end MarkupIslands.Ui
