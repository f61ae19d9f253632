import MarkupIslands.Ui.DecodeError

/-!
# Imports of a component

What a component imports, by local name: where the import comes from, under which path and version,
and details for the code that is written for it.
-/

namespace MarkupIslands.Ui

/-- Where an import comes from. -/
inductive ImportSource
  | package
  | library
  | localPath
deriving DecidableEq, Repr

namespace ImportSource

/-- The written names, in the order in which a message lists them. -/
def names : List (String × ImportSource) :=
  [("package", .package), ("library", .library), ("local", .localPath)]

def name : ImportSource → String
  | .package => "package"
  | .library => "library"
  | .localPath => "local"

end ImportSource

structure ImportDetails where
  importAlias : Option String := none
  namedImport : Option Bool := none
  extra : KeyMap Json := .empty

structure ImportDefinition where
  source : ImportSource
  path : String
  version : Option String := none
  details : Option ImportDetails := none

namespace ImportDetails

def ofJson : Json → Decoded ImportDetails
  | .object members => do
    let importAlias ← Decode.optional Decode.text members "importAlias"
    let namedImport ← Decode.optional Decode.boolean members "namedImport"
    return { importAlias, namedImport,
             extra := Decode.others ["importAlias", "namedImport"] members }
  | json => Decode.wrongType json (.record "ImportMeta")

def toJson (details : ImportDetails) : Json :=
  .ofMembers (Json.member "importAlias" (details.importAlias.map .text) ++
    Json.member "namedImport" (details.namedImport.map .boolean) ++ details.extra.entries)

end ImportDetails

namespace ImportDefinition

/-- An import written as an array of its fields: source, path, version and details, of which the
last two may be left out. -/
def ofItems (items : List Json) : Decoded ImportDefinition := do
  let tooShort {α : Type} : Decoded α := .error (.tooShort items.length "ImportDefinition" 4)
  let some source ← Decode.item (Decode.variant ImportSource.names) items 0 | tooShort
  let some path ← Decode.item Decode.text items 1 | tooShort
  let version ← Decode.item (Decode.orNull Decode.text) items 2
  let details ← Decode.item (Decode.orNull ImportDetails.ofJson) items 3
  Decode.noMoreThan 4 items
  return { source, path, version := version.join, details := details.join }

/-- An import written as an object. Members that are no fields are dropped. -/
def ofMembers (members : List (String × Json)) : Decoded ImportDefinition := do
  let details ← Decode.optional ImportDetails.ofJson members "meta"
  let path ← Decode.field Decode.text members "path"
  let source ← Decode.field (Decode.variant ImportSource.names) members "type"
  let version ← Decode.optional Decode.text members "version"
  let source ← Decode.require "type" source
  let path ← Decode.require "path" path
  return { source, path, version, details }

def ofJson : Json → Decoded ImportDefinition
  | .object members => ofMembers members
  | .array items => ofItems items
  | json => Decode.wrongType json (.record "ImportDefinition")

def toJson (definition : ImportDefinition) : Json :=
  .ofMembers (("type", .text definition.source.name) :: ("path", .text definition.path) ::
    Json.member "version" (definition.version.map .text) ++
    Json.member "meta" (definition.details.map ImportDetails.toJson))

end ImportDefinition

abbrev Imports := KeyMap ImportDefinition

namespace Imports

def ofJson (json : Json) : Decoded Imports := Decode.map ImportDefinition.ofJson json

def toJson (imports : Imports) : Json := .ofKeyMap (imports.map ImportDefinition.toJson)

end Imports

end MarkupIslands.Ui
