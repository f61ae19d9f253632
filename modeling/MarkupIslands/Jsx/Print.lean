import MarkupIslands.Jsx.OfMarkup

/-!
# JSX source

Writes a JSX tree as source text. An element is closed at once only if it asks for that and has no
children.
-/

namespace MarkupIslands.Jsx

/-- An attribute with its leading space. -/
def writeAttribute : Attribute → List Char
  | .named name .bare => ' ' :: name.toList
  | .named name (.text value) => ' ' :: name.toList ++ '=' :: '"' :: value.toList ++ ['"']
  | .named name (.expression source) =>
    ' ' :: name.toList ++ '=' :: '\x7b' :: source.toList ++ ['\x7d']
  | .spread object => ' ' :: '\x7b' :: '.' :: '.' :: '.' :: object.toList ++ ['\x7d']

theorem exists_writeAttribute_eq (attr : Attribute) :
    ∃ text, writeAttribute attr = ' ' :: text := by
  unfold writeAttribute
  split <;> exact ⟨_, rfl⟩

mutual

def writeNode : Node → List Char
  | .element name attributes children selfClosing =>
    '<' :: name.toList ++ attributes.flatMap writeAttribute ++
      (if selfClosing && children.isEmpty then [' ', '/', '>']
      else '>' :: writeNodes children ++ '<' :: '/' :: name.toList ++ ['>'])
  | .fragment children => '<' :: '>' :: writeNodes children ++ ['<', '/', '>']
  | .text value => value.toList
  | .expression source => '\x7b' :: source.toList ++ ['\x7d']

def writeNodes : List Node → List Char
  | [] => []
  | node :: rest => writeNode node ++ writeNodes rest

end

def Node.toSource (node : Node) : String := String.ofList (writeNode node)

theorem writeNodes_eq_flatMap (nodes : List Node) : writeNodes nodes = nodes.flatMap writeNode := by
  induction nodes with
  | nil => rfl
  | cons node rest ih => rw [writeNodes, ih, List.flatMap_cons]

theorem writeNodes_append (nodes others : List Node) :
    writeNodes (nodes ++ others) = writeNodes nodes ++ writeNodes others := by
  rw [writeNodes_eq_flatMap, List.flatMap_append, ← writeNodes_eq_flatMap, ← writeNodes_eq_flatMap]

theorem writeNodes_convertNodes_cons (node : Markup.Node) (nodes : List Markup.Node) :
    writeNodes (convertNodes (node :: nodes)) =
      (convertNode node).toList.flatMap writeNode ++ writeNodes (convertNodes nodes) := by
  rw [convertNodes]
  cases convertNode node <;> simp [writeNodes]

/-- The JSX source of a piece of markup. -/
def sourceOfMarkup (root : Markup.Root) : String := (ofMarkup root).toSource

end MarkupIslands.Jsx
