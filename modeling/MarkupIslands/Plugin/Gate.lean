import MarkupIslands.Island.Resolve
import MarkupIslands.Jsx.Print
import MarkupIslands.Markup.Parse

/-!
# Loading collaborators

A collaborator is loaded when it is first asked for, and kept. A load that fails leaves nothing
behind, so the next request tries again. Loaders are told how many loads were tried before. The two
script targets share one serializer.
-/

namespace MarkupIslands.Plugin

open MarkupIslands.Island

/-- A loaded collaborator, and which load brought it. -/
structure Loaded (α : Type) where
  load : Nat
  value : α

/-- The parser of a plugin: its loader, the number of loads tried, and the parser once loaded. -/
structure ParserGate where
  loader : Nat → Except Failure Parser
  loads : Nat := 0
  parser : Option (Loaded Parser) := none

namespace ParserGate

def isLoaded (gate : ParserGate) : Bool := gate.parser.isSome

/-- The parser, loaded now if it has not been loaded before. -/
def obtain (gate : ParserGate) : ParserGate × Except Failure (Loaded Parser) :=
  match gate.parser with
  | some parser => (gate, .ok parser)
  | none =>
    let load := gate.loads + 1
    match gate.loader load with
    | .error failure => ({ gate with loads := load }, .error failure)
    | .ok value => ({ gate with loads := load, parser := some ⟨load, value⟩ }, .ok ⟨load, value⟩)

end ParserGate

/-- The serializers of a plugin. One loader brings both, and counts the loads of both. -/
structure SerializerGate where
  loader : Format → Nat → Except Failure Serializer
  loads : Nat := 0
  markup : Option (Loaded Serializer) := none
  jsx : Option (Loaded Serializer) := none

namespace SerializerGate

def loaded? (gate : SerializerGate) : Format → Option (Loaded Serializer)
  | .markup => gate.markup
  | .jsx => gate.jsx

def isLoaded (gate : SerializerGate) (target : Target) : Bool :=
  (gate.loaded? target.format).isSome

def keep (gate : SerializerGate) (format : Format) (serializer : Loaded Serializer) :
    SerializerGate :=
  match format with
  | .markup => { gate with markup := some serializer }
  | .jsx => { gate with jsx := some serializer }

/-- The serializer of a target, loaded now if it has not been loaded before. -/
def obtain (gate : SerializerGate) (target : Target) :
    SerializerGate × Except Failure (Loaded Serializer) :=
  match gate.loaded? target.format with
  | some serializer => (gate, .ok serializer)
  | none =>
    let load := gate.loads + 1
    let gate := { gate with loads := load }
    match gate.loader target.format load with
    | .error failure => (gate, .error failure)
    | .ok value => (gate.keep target.format ⟨load, value⟩, .ok ⟨load, value⟩)

/-- The serializer for an identifier; none if its target is not supported. -/
def obtainForId (gate : SerializerGate) (id : String) :
    SerializerGate × Except Failure (Option (Loaded Serializer)) :=
  match Target.ofId? id with
  | none => (gate, .ok none)
  | some target =>
    let (gate, result) := gate.obtain target
    (gate, result.map some)

end SerializerGate

def defaultParser : Parser := fun text ↦ .ok (Markup.parse text)

def defaultSerializer : Format → Serializer
  | .markup => fun tree ↦ .ok (Markup.Root.toHtml tree)
  | .jsx => fun tree ↦ .ok (Jsx.sourceOfMarkup tree)

def ParserGate.default : ParserGate := { loader := fun _ ↦ .ok defaultParser }

def SerializerGate.default : SerializerGate :=
  { loader := fun format _ ↦ .ok (defaultSerializer format) }

end MarkupIslands.Plugin
