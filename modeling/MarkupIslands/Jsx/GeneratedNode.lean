import MarkupIslands.Jsx.Node
import MarkupIslands.Markup.Node

/-!
# Nodes of generated code

Code generators handle nodes of two families, markup and JSX. A node is made in its family and stays
in it, so what can be done with a node is told from the way it was made.
-/

namespace MarkupIslands.Jsx

inductive GeneratedNode
  | markup (node : Markup.Node)
  | root (nodes : Markup.Root)
  | jsx (node : Node)

namespace GeneratedNode

/-- Whether a node is markup that can hold children: an element or a whole piece. -/
def isMarkupElement : GeneratedNode → Bool
  | .markup (.element ..) | .root _ => true
  | .markup (.text _) | .markup (.comment _) | .markup (.doctype _) | .jsx _ => false

end GeneratedNode

end MarkupIslands.Jsx
