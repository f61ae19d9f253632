import MarkupIslands.Island.Document
import MarkupIslands.Plugin.Gate

/-!
# Hooks around code generation

Before code is written for a project, `runBefore` resolves its islands; afterwards `runAfter` notes
the packages that the code depends on. Projects for targets that are not supported pass through.
The parser is obtained before the target is looked at.
-/

namespace MarkupIslands.Plugin

open MarkupIslands.Island MarkupIslands.Ui

end MarkupIslands.Plugin

namespace MarkupIslands

/-- A plugin: its options and its collaborators. -/
structure Plugin where
  options : Island.Options := {}
  parserGate : Plugin.ParserGate := .default
  serializerGate : Plugin.SerializerGate := .default

namespace Plugin

open MarkupIslands.Island MarkupIslands.Ui

/-- The outcome of a hook: the plugin afterwards, the result, and the uses of the collaborators. -/
structure Outcome (α : Type) where
  plugin : Plugin
  result : Except Failure α
  calls : List Call := []

/-- The outcome with its result in another form. -/
def Outcome.map {α β : Type} (f : α → β) (outcome : Outcome α) : Outcome β :=
  ⟨outcome.plugin, outcome.result.map f, outcome.calls⟩

/-- Resolves the islands of a project. -/
def runBefore (plugin : Plugin) (bundle : Bundle) : Outcome Bundle :=
  let (parserGate, parser) := plugin.parserGate.obtain
  let plugin := { plugin with parserGate }
  match parser with
  | .error failure => { plugin, result := .error failure }
  | .ok parser =>
    match Target.ofId? bundle.strategy.id with
    | none => { plugin, result := .ok bundle }
    | some target =>
      let (serializerGate, serializer) := plugin.serializerGate.obtain target
      let plugin := { plugin with serializerGate }
      match serializer with
      | .error failure => { plugin, result := .error failure }
      | .ok serializer =>
        let resolution :=
          resolveProject ⟨parser.value, serializer.value⟩ target plugin.options bundle.project
        { plugin
          result := resolution.result.map fun _ ↦ { bundle with project := resolution.project }
          calls := resolution.calls }

/-- Notes the packages that the written code depends on. -/
def runAfter (plugin : Plugin) (bundle : Bundle) : Bundle :=
  match Target.ofId? bundle.strategy.id with
  | none => bundle
  | some target => bundle.addPackages (projectPackages target plugin.options)

def readBundle (json : Json) : Except Failure Bundle :=
  match Bundle.ofJson json with
  | .ok bundle => .ok bundle
  | .error error => .error (.invalidDocument error.message)

def runBeforeJson (plugin : Plugin) (json : Json) : Outcome Json :=
  match readBundle json with
  | .error failure => { plugin, result := .error failure }
  | .ok bundle => (plugin.runBefore bundle).map Bundle.toJson

def runAfterJson (plugin : Plugin) (json : Json) : Except Failure Json :=
  (readBundle json).map fun bundle ↦ (plugin.runAfter bundle).toJson

end Plugin

end MarkupIslands
