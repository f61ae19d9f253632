import MarkupIslands.Ui.Component

/-!
# Projects

A project has a root component and named components. A bundle is what a stage of the pipeline
receives and hands on: the project, the strategy that names the kind of code to write, and
the packages that the written code depends on.
-/

namespace MarkupIslands.Ui

/-- A project. -/
structure Project where
  name : Option String := none
  root : Component
  components : Option (KeyMap Component) := none
  extra : KeyMap Json := .empty

/-- The kind of code to write, by its identifier. -/
structure Strategy where
  id : String
  extra : KeyMap Json := .empty

/-- What a stage receives and hands on. -/
structure Bundle where
  project : Project
  strategy : Strategy
  dependencies : Option (KeyMap String) := none
  extra : KeyMap Json := .empty

namespace Project

def named (project : Project) : KeyMap Component := project.components.getD .empty

/-- All components: the root first, then the named ones in the order of their keys. -/
def allComponents (project : Project) : List Component := project.root :: project.named.values

def ofJson : Json → Decoded Project
  | .object members => do
    let components ← Decode.optional (Decode.map Component.ofJson) members "components"
    let name ← Decode.optional Decode.text members "name"
    let root ← Decode.field Component.ofJson members "root"
    let root ← Decode.require "root" root
    return { name, root, components,
             extra := Decode.others ["name", "root", "components"] members }
  | json => Decode.wrongType json (.record "ProjectUidl")

def componentsToJson (components : KeyMap Component) : Json :=
  .ofKeyMap (components.map Component.toJson)

def toJson (project : Project) : Json :=
  .ofMembers (Json.member "name" (project.name.map .text) ++ ("root", project.root.toJson) ::
    Json.member "components" (project.components.map componentsToJson) ++
    project.extra.entries)

end Project

namespace Strategy

def ofJson : Json → Decoded Strategy
  | .object members => do
    let id ← Decode.field Decode.text members "id"
    let id ← Decode.require "id" id
    return { id, extra := Decode.others ["id"] members }
  | json => Decode.wrongType json (.record "ProjectStrategy")

def toJson (strategy : Strategy) : Json :=
  .ofMembers (("id", .text strategy.id) :: strategy.extra.entries)

end Strategy

/-- The packages of a manifest, by name, with their version ranges. -/
abbrev Packages := KeyMap String

namespace Packages

def ofJson (json : Json) : Decoded Packages := Decode.map Decode.text json

def toJson (packages : Packages) : Json := .ofKeyMap (packages.map .text)

end Packages

namespace Bundle

def packages (bundle : Bundle) : Packages := bundle.dependencies.getD .empty

/-- Adds packages, which take the place of those with the same name. Adding none leaves an absent
field absent. -/
def addPackages (bundle : Bundle) (packages : Packages) : Bundle :=
  if packages.isEmpty then bundle
  else { bundle with dependencies := some (bundle.packages.merge packages) }

def ofJson : Json → Decoded Bundle
  | .object members => do
    let dependencies ← Decode.optional Packages.ofJson members "dependencies"
    let strategy ← Decode.field Strategy.ofJson members "strategy"
    let project ← Decode.field Project.ofJson members "uidl"
    let project ← Decode.require "uidl" project
    let strategy ← Decode.require "strategy" strategy
    return { project, strategy, dependencies,
             extra := Decode.others ["uidl", "strategy", "dependencies"] members }
  | json => Decode.wrongType json (.record "ProjectStructure")

def toJson (bundle : Bundle) : Json :=
  .ofMembers (("uidl", bundle.project.toJson) :: ("strategy", bundle.strategy.toJson) ::
    Json.member "dependencies" (bundle.dependencies.map Packages.toJson) ++
    bundle.extra.entries)

/-- Two bundles are the same if they are written the same. -/
def same (a b : Bundle) : Bool := a.toJson.same b.toJson

end Bundle

end MarkupIslands.Ui
