import MarkupIslands.Ui.DecodeError

/-!
# Targets and options

The kinds of project that code is written for, the format in which each takes markup, and the
options of a run. All options have defaults.
-/

namespace MarkupIslands.Island

open MarkupIslands.Ui

/-- The format in which markup goes into the written code. -/
inductive Format
  | markup
  | jsx
deriving DecidableEq, Repr

def Format.name : Format → String
  | .markup => "markup"
  | .jsx => "jsx"

/-- The supported kinds of project. -/
inductive Target
  | html
  | react
  | next
deriving DecidableEq, Repr

namespace Target

def ids : List (String × Target) := [("html", .html), ("react", .react), ("next", .next)]

def id : Target → String
  | .html => "html"
  | .react => "react"
  | .next => "next"

/-- The target of an identifier; none if the target is not supported. -/
def ofId? (id : String) : Option Target := ids.lookup id

def format : Target → Format
  | .html => .markup
  | .react | .next => .jsx

def ofJson (json : Json) : Decoded Target := Decode.variant ids json

def toJson (target : Target) : Json := .text target.id

theorem ofId?_id (target : Target) : ofId? target.id = some target := by cases target <;> decide

end Target

/-- The package that runs relocated scripts. -/
structure ScriptRuntime where
  package : String := "dangerous-html"
  /-- The version in the imports of a component. -/
  version : String := "0.1.13"
  importAlias : String := "dangerous-html/react"
  /-- The version range in the manifest of a project. -/
  projectVersion : String := "^0.1.13"
deriving DecidableEq, Repr

/-- The options of a run. -/
structure Options where
  scriptRuntime : ScriptRuntime := {}
deriving DecidableEq, Repr

namespace ScriptRuntime

/-- The runtime with those fields changed that are given. -/
def ofFields (package version importAlias projectVersion : Option String) : ScriptRuntime :=
  let default : ScriptRuntime := {}
  { package := package.getD default.package
    version := version.getD default.version
    importAlias := importAlias.getD default.importAlias
    projectVersion := projectVersion.getD default.projectVersion }

def ofJson : Json → Decoded ScriptRuntime
  | .object members => do
    let importAlias ← Decode.field Decode.text members "importAlias"
    let package ← Decode.field Decode.text members "package"
    let projectVersion ← Decode.field Decode.text members "projectVersion"
    let version ← Decode.field Decode.text members "version"
    return ofFields package version importAlias projectVersion
  | .array items => do
    let package ← Decode.item Decode.text items 0
    let version ← Decode.item Decode.text items 1
    let importAlias ← Decode.item Decode.text items 2
    let projectVersion ← Decode.item Decode.text items 3
    Decode.noMoreThan 4 items
    return ofFields package version importAlias projectVersion
  | json => Decode.wrongType json (.record "ScriptRuntimeOptions")

def toJson (runtime : ScriptRuntime) : Json :=
  .ofMembers [("package", .text runtime.package), ("version", .text runtime.version),
    ("importAlias", .text runtime.importAlias), ("projectVersion", .text runtime.projectVersion)]

end ScriptRuntime

namespace Options

def ofJson : Json → Decoded Options
  | .object members => do
    let scriptRuntime ← Decode.field ScriptRuntime.ofJson members "scriptRuntime"
    return { scriptRuntime := scriptRuntime.getD {} }
  | .array items => do
    let scriptRuntime ← Decode.item ScriptRuntime.ofJson items 0
    Decode.noMoreThan 1 items
    return { scriptRuntime := scriptRuntime.getD {} }
  | json => Decode.wrongType json (.record "EmbedOptions")

def toJson (options : Options) : Json :=
  .ofMembers [("scriptRuntime", options.scriptRuntime.toJson)]

end Options

end MarkupIslands.Island
