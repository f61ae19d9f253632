import MarkupIslands.Jsx.Node
import MarkupIslands.Jsx.Style
import MarkupIslands.Markup.Html

/-!
# JSX from markup

A markup tree becomes a JSX tree of the same shape. Scripts are the exception: a component
framework never runs a `script` element, so each one is written as markup and handed to a runtime
component as a string. Comments and document type declarations are dropped. Text and values that
JSX would misread become string expressions.
-/

namespace MarkupIslands.Jsx

open MarkupIslands.Text

def scriptComponent : String := "Script"

/-- Whether JSX would misread a text: it holds a brace, a markup character or the start of a
character reference. -/
def needsExpression (text : String) : Bool :=
  text.toList.any fun c ↦ c == '\x7b' || c == '\x7d' || c == '<' || c == '>' || c == '&'

/-- Whether an attribute value cannot stand as it is between double quotes. -/
def needsQuoting (value : String) : Bool :=
  value.toList.any fun c ↦
    c == '"' || c == '\\' || c == '\x7b' || c == '\x7d' || c == '&' || c == '<' || c == '>' ||
      c == '\n' || c == '\r'

/-- The attribute of a property under its JSX name; a switch that is off has none. -/
def convertProperty (name : String) : Markup.PropertyValue → Option (String × AttributeValue)
  | .switch false => none
  | .switch true => some (attributeName name, .bare)
  | .text value => some (attributeName name,
      if name.toLower = "style" then .expression (String.ofList (Style.source value.toList))
      else if value.isEmpty && Markup.isBooleanAttribute name then .bare
      else if needsQuoting value then .expression (quote value)
      else .text value)

/-- An attribute as an entry of a spread object. -/
def spreadEntry (name : String) (value : AttributeValue) : List Char :=
  quoteChars name.toList ++ ':' :: ' ' ::
    match value with
    | .bare => "true".toList
    | .text value => quoteChars value.toList
    | .expression source => source.toList

/-- The attributes of an element: those that JSX can spell in the order of the properties, then one
spread object with all others. -/
def convertProperties (properties : Markup.Properties) : List Attribute :=
  let converted := properties.entries.filterMap fun (name, value) ↦ convertProperty name value
  let (spelled, others) := converted.partition fun (name, _) ↦ isSpellable name.toList
  spelled.map (fun (name, value) ↦ .named name value) ++
    if others.isEmpty then []
    else [.spread (String.ofList (Style.objectSource
      (others.map fun (name, value) ↦ spreadEntry name value)))]

/-- The runtime component that stands for a script with the given markup. -/
def relocatedScript (markup : String) : Node :=
  .element scriptComponent [.named "html" (.expression (quote markup))] [] false

mutual

def convertNode : Markup.Node → Option Node
  | .element tag properties children =>
    if tag = "script" then
      some (relocatedScript (Markup.Node.element tag properties children).toHtml)
    else some (.element tag (convertProperties properties) (convertNodes children)
      (Markup.isVoid tag))
  | .text value =>
    if needsExpression value then some (.expression (quote value)) else some (.text value)
  | .comment _ | .doctype _ => none

def convertNodes : List Markup.Node → List Node
  | [] => []
  | node :: rest =>
    match convertNode node with
    | some converted => converted :: convertNodes rest
    | none => convertNodes rest

end

/-- The JSX tree of a piece of markup: its only top-level node, or a fragment of all of them. -/
def ofMarkup (root : Markup.Root) : Node :=
  match convertNodes root with
  | [node] => node
  | nodes => .fragment nodes

/-- A node is converted without regard to its siblings. -/
theorem convertNodes_eq_filterMap (nodes : List Markup.Node) :
    convertNodes nodes = nodes.filterMap convertNode := by
  induction nodes with
  | nil => rfl
  | cons node rest ih =>
    rw [convertNodes, List.filterMap_cons, ih]
    cases convertNode node <;> rfl

end MarkupIslands.Jsx
