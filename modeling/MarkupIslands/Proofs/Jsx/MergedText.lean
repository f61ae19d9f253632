import MarkupIslands.Jsx.Print
import MarkupIslands.Proofs.Text.Merging

/-!
# Merged texts

Neighbouring texts of a JSX tree are written without anything between them, and an empty text is
not written at all. A tree is brought into a form in which every text stands for itself: texts that
stand next to each other become one, and empty ones go.
-/

namespace MarkupIslands.Jsx

open HasText (AreApart StandsApart areApart_prepend beginsWithText prepend)

def Node.text? : Node → Option String
  | .text value => some value
  | .element .. | .fragment _ | .expression _ => none

instance : HasText Node where
  text := .text
  text? := Node.text?
  text?_eq_some_iff {node value} := by cases node <;> simp [Node.text?]

mutual

/-- The tree with neighbouring texts merged and empty texts dropped. -/
def Node.mergeTexts : Node → Node
  | .element name attributes children selfClosing =>
    .element name attributes (mergeTextsIn children) selfClosing
  | .fragment children => .fragment (mergeTextsIn children)
  | .text value => .text value
  | .expression source => .expression source

def mergeTextsIn : List Node → List Node
  | [] => []
  | node :: rest => prepend node.mergeTexts (mergeTextsIn rest)

end

mutual

/-- No text below a node is empty or stands next to another one. -/
def Node.IsMerged : Node → Prop
  | .element _ _ children _ | .fragment children => AreMerged children
  | .text _ | .expression _ => True

def AreMerged : List Node → Prop
  | [] => True
  | node :: rest => node.IsMerged ∧ AreMerged rest ∧ StandsApart node rest

end

theorem areMerged_iff {nodes : List Node} :
    AreMerged nodes ↔ (∀ node ∈ nodes, node.IsMerged) ∧ AreApart nodes := by
  induction nodes with
  | nil => simp [AreMerged, AreApart]
  | cons node rest ih =>
    rw [AreMerged, ih, List.forall_mem_cons, AreApart]
    tauto

theorem areMerged_prepend {node : Node} {nodes : List Node} (hnode : node.IsMerged)
    (hnodes : AreMerged nodes) : AreMerged (prepend node nodes) := by
  obtain ⟨hmerged, hapart⟩ := areMerged_iff.mp hnodes
  apply areMerged_iff.mpr
  constructor
  · exact HasText.forall_mem_prepend (fun _ _ _ _ ↦ trivial) hnode hmerged
  · exact areApart_prepend node hapart

/-- Merging does not change what is written. -/
theorem writeNodes_prepend (node : Node) (nodes : List Node) :
    writeNodes (prepend node nodes) = writeNode node ++ writeNodes nodes := by
  rw [writeNodes_eq_flatMap, writeNodes_eq_flatMap]
  apply HasText.flatMap_prepend
  · rfl
  · intro value next
    exact String.toList_append

mutual

/-- Merging leaves nothing to merge. -/
theorem isMerged_mergeTexts : ∀ node : Node, node.mergeTexts.IsMerged
  | .element _ _ children _ | .fragment children => areMerged_mergeTextsIn children
  | .text _ | .expression _ => trivial

theorem areMerged_mergeTextsIn : ∀ nodes : List Node, AreMerged (mergeTextsIn nodes)
  | [] => trivial
  | node :: rest => areMerged_prepend (isMerged_mergeTexts node) (areMerged_mergeTextsIn rest)

end

end MarkupIslands.Jsx
