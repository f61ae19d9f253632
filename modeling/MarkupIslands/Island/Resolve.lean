import MarkupIslands.Island.Container
import MarkupIslands.Island.Dependencies
import MarkupIslands.Markup.Node
import MarkupIslands.Ui.Component
import MarkupIslands.Ui.Walk

/-!
# Resolving the islands of a component

A component is walked, and every island met is parsed, written for the target and replaced by a
container. Islands among an island's former children are not met, and in a container there is
nothing to meet, so the walk stops at it. The first failure ends the walk, and the islands before
it stay replaced. If an island needed the script runtime and all went well, the component imports
it.
-/

namespace MarkupIslands.Island

open MarkupIslands.Ui

/-- Reads the raw markup of an island. -/
abbrev Parser := String → Except Failure Markup.Root

/-- Writes the markup of an island for a target. -/
abbrev Serializer := Markup.Root → Except Failure String

/-- A use of a collaborator. -/
inductive Call
  | parse (text : String)
  | serialize (tree : Markup.Root)

def Call.isParse : Call → Bool
  | .parse _ => true
  | .serialize _ => false

/-- The collaborators that resolve islands. -/
structure Tools where
  parser : Parser
  serializer : Serializer

/-- What a walk over a component has come to. -/
structure Progress where
  islands : Nat := 0
  needsScriptRuntime : Bool := false
  /-- The uses of the collaborators, in their order. -/
  calls : List Call := []

namespace Progress

/-- The progress after one more use of a collaborator. -/
def log (progress : Progress) (call : Call) : Progress :=
  { progress with calls := progress.calls ++ [call] }

end Progress

def resolveIsland (tools : Tools) (component : String) (progress : Progress) (element : Element) :
    Progress × Decision Failure :=
  match markup element component with
  | .error failure => (progress, .fail failure)
  | .ok text =>
    let progress := progress.log (.parse text)
    match tools.parser text with
    | .error failure => (progress, .fail failure)
    | .ok tree =>
      let progress := progress.log (.serialize tree)
      match tools.serializer tree with
      | .error failure => (progress, .fail failure)
      | .ok content =>
        ({ progress with
            islands := progress.islands + 1
            needsScriptRuntime :=
              progress.needsScriptRuntime || Island.needsScriptRuntime content },
          .become (container element content))

/-- The visitor that resolves the islands of a component. -/
def resolver (tools : Tools) (component : String) : Visitor Progress Failure where
  onElement progress element :=
    if element.isIsland then resolveIsland tools component progress element
    else (progress, .enter element.elementType)

structure Report where
  component : String
  islands : Nat
  needsScriptRuntime : Bool
deriving DecidableEq, Repr

/-- A component after its islands have been looked at, with the uses of the collaborators. -/
structure Resolution where
  component : Component
  result : Except Failure Report
  calls : List Call

/-- What a walk over the tree of a component means for the component. After a failure its imports
stay as they are. -/
def conclude (target : Target) (options : Options) (component : Component)
    (walked : Walked Progress Failure Node) : Resolution :=
  let progress := walked.state
  let component := { component with node := walked.value }
  match walked.failure with
  | some failure => ⟨component, .error failure, progress.calls⟩
  | none =>
    let report := ⟨component.name, progress.islands, progress.needsScriptRuntime⟩
    let component :=
      if progress.needsScriptRuntime then component.mergeImports (componentImports target options)
      else component
    ⟨component, .ok report, progress.calls⟩

/-- Resolves the islands of a component. -/
def resolveComponent (tools : Tools) (target : Target) (options : Options) (component : Component) :
    Resolution :=
  conclude target options component ((resolver tools component.name).walk {} component.node)

/-- The tree stays as the walk has left it, whatever becomes of the imports. -/
@[simp]
theorem node_conclude (target : Target) (options : Options) (component : Component)
    (walked : Walked Progress Failure Node) :
    (conclude target options component walked).component.node = walked.value := by
  unfold conclude
  split
  · rfl
  · dsimp only
    split
    · rw [Component.node_mergeImports]
    · rfl

theorem result_conclude (target : Target) (options : Options) (component : Component)
    (walked : Walked Progress Failure Node) :
    (conclude target options component walked).result =
      match walked.failure with
      | some failure => .error failure
      | none => .ok ⟨component.name, walked.state.islands, walked.state.needsScriptRuntime⟩ := by
  unfold conclude
  split <;> rfl

end MarkupIslands.Island
