import MarkupIslands.Markup.Node
import MarkupIslands.Markup.Vocabulary

/-!
# Plain markup output

A tree is written as markup text: void elements have no content and no closing tag, the text of a
raw-text element stands as it is, all other text and every property value have their markup
characters replaced by references. Comments and names are written as they are.
-/

namespace MarkupIslands.Markup.Html

/-- A character of a text. -/
def escapeText (c : Char) : List Char :=
  if c = '&' then "&amp;".toList
  else if c = '<' then "&lt;".toList
  else if c = '>' then "&gt;".toList
  else [c]

/-- A character of a property value, which stands between double quotes. -/
def escapeValue (c : Char) : List Char :=
  if c = '"' then "&quot;".toList else escapeText c

/-- A property with its leading space. A switch that is off leaves nothing; a switch that is on and
an empty text under a boolean name leave the bare name. -/
def writeProperty (name : String) : PropertyValue → List Char
  | .switch false => []
  | .switch true => ' ' :: name.toList
  | .text value =>
    if value.isEmpty && isBooleanAttribute name then ' ' :: name.toList
    else ' ' :: name.toList ++ '=' :: '"' :: value.toList.flatMap escapeValue ++ ['"']

def writeProperties (properties : Properties) : List Char :=
  properties.entries.flatMap fun entry ↦ writeProperty entry.1 entry.2

def writeComment (value : String) : List Char := "<!--".toList ++ value.toList ++ "-->".toList

/-- A document type declaration; the empty name stands for the default one. -/
def writeDoctype (name : String) : List Char :=
  "<!doctype ".toList ++ (if name.isEmpty then "html" else name).toList ++ ['>']

mutual

/-- A node; `raw` says that it stands directly inside a raw-text element. -/
def writeNode (raw : Bool) : Node → List Char
  | .element tag properties children =>
    '<' :: tag.toList ++ writeProperties properties ++ '>' ::
      (if isVoid tag then []
      else writeNodes (isRawText tag) children ++ '<' :: '/' :: tag.toList ++ ['>'])
  | .text value => if raw then value.toList else value.toList.flatMap escapeText
  | .comment value => writeComment value
  | .doctype name => writeDoctype name

def writeNodes (raw : Bool) : List Node → List Char
  | [] => []
  | node :: rest => writeNode raw node ++ writeNodes raw rest

end

end Html

/-- The markup text of a piece. -/
def Root.toHtml (root : Root) : String := String.ofList (Html.writeNodes false root)

def Node.toHtml (node : Node) : String := String.ofList (Html.writeNode false node)

namespace Html

theorem writeNodes_eq_flatMap (raw : Bool) (nodes : List Node) :
    writeNodes raw nodes = nodes.flatMap (writeNode raw) := by
  induction nodes with
  | nil => rfl
  | cons node rest ih => rw [writeNodes, ih, List.flatMap_cons]

theorem writeNodes_append (raw : Bool) (nodes others : List Node) :
    writeNodes raw (nodes ++ others) = writeNodes raw nodes ++ writeNodes raw others := by
  rw [writeNodes_eq_flatMap, List.flatMap_append, ← writeNodes_eq_flatMap, ← writeNodes_eq_flatMap]

/-- A void element is its opening tag alone, whatever its children are. -/
theorem writeNode_of_isVoid (raw : Bool) {tag : String} (properties : Properties)
    (children : List Node) (h : isVoid tag) :
    writeNode raw (.element tag properties children) =
      '<' :: tag.toList ++ writeProperties properties ++ ['>'] := by
  simp [writeNode, h]

end Html

end MarkupIslands.Markup
