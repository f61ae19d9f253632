import MarkupIslands.Ui.Walk

/-!
# Surveys of a tree

A survey is a walk that writes down what it meets. It can be told which kinds of node and which
types of element not to go into, which type of element to fail on, and which types to rename.
-/

namespace MarkupIslands.Ui

/-- What a survey writes down. -/
inductive Sighting
  | node (kind : String)
  | element (elementType : String)
  | children (count : Nat)
deriving DecidableEq, Repr

/-- What a survey is told. -/
structure Survey where
  prunedKinds : List String := []
  prunedTypes : List String := []
  failingType : Option String := none
  renamed : KeyMap String := .empty

namespace Survey

def decide (survey : Survey) (element : Element) : Decision String :=
  let elementType := element.elementType
  if survey.failingType = some elementType then .fail elementType
  else
    let newType := (survey.renamed.get? elementType).getD elementType
    if survey.prunedTypes.contains elementType then .become (element.setType newType)
    else .enter newType

/-- The visitor that writes a survey down. -/
def visitor (survey : Survey) : Visitor (List Sighting) String where
  onNode log node := (log ++ [.node node.kind], !survey.prunedKinds.contains node.kind)
  onElement log element := (log ++ [.element element.elementType], survey.decide element)
  onChildren log children := log ++ [.children children.length]

def run (survey : Survey) (node : Node) : Walked (List Sighting) String Node :=
  survey.visitor.walk [] node

end Survey

/-- The types of the elements of a tree, in the order of a walk. -/
def Node.elementTypes (node : Node) : List String :=
  let visitor : Visitor (List String) Empty :=
    { onElement := fun types element ↦
        (types ++ [element.elementType], .enter element.elementType) }
  (visitor.walk [] node).state

end MarkupIslands.Ui
