import MarkupIslands.Markup.Parse
import MarkupIslands.Proofs.Jsx.Outline
import MarkupIslands.Proofs.Jsx.Readability

/-!
# Children of void elements

Void elements have no content, but a tree can give them children: one that is built by hand, or one
that is read from a drawing with a `link` in it. Plain markup leaves such children out at every
depth. JSX closes a void element at once only if no child is left of it, and otherwise writes the
children and a closing tag.
-/

namespace MarkupIslands.Jsx

open Markup (isVoid)

/-! ## Void elements without children -/

mutual

/-- The node without the children of void elements, at every depth. -/
def emptyVoids : Markup.Node → Markup.Node
  | .element tag properties children =>
    .element tag properties (if isVoid tag then [] else emptyVoidsAmong children)
  | .text value => .text value
  | .comment value => .comment value
  | .doctype name => .doctype name

def emptyVoidsAmong : List Markup.Node → List Markup.Node
  | [] => []
  | node :: rest => emptyVoids node :: emptyVoidsAmong rest

end

mutual

/-- Whether no void element of a node has a child that is shown. A script counts as a text. -/
def voidsShowNothing : Markup.Node → Bool
  | .element tag _ children =>
    tag = "script" ||
      if isVoid tag then !children.any isShown else voidsAmongShowNothing children
  | .text _ | .comment _ | .doctype _ => true

def voidsAmongShowNothing : List Markup.Node → Bool
  | [] => true
  | node :: rest => voidsShowNothing node && voidsAmongShowNothing rest

end

theorem isShown_emptyVoids (node : Markup.Node) : isShown (emptyVoids node) = isShown node := by
  cases node <;> rfl

theorem countP_isShown_emptyVoidsAmong (nodes : List Markup.Node) :
    (emptyVoidsAmong nodes).countP isShown = nodes.countP isShown := by
  induction nodes with
  | nil => rfl
  | cons node nodes ih =>
    rw [emptyVoidsAmong, List.countP_cons, List.countP_cons, ih, isShown_emptyVoids]

/-! ## Plain markup -/

mutual

/-- Markup text never shows what a void element holds. -/
theorem writeNode_emptyVoids (raw : Bool) : ∀ node : Markup.Node,
    Markup.Html.writeNode raw (emptyVoids node) = Markup.Html.writeNode raw node
  | .element tag properties children => by
    cases hvoid : isVoid tag with
    | true =>
      rw [emptyVoids, Markup.Html.writeNode_of_isVoid raw properties _ hvoid,
        Markup.Html.writeNode_of_isVoid raw properties _ hvoid]
    | false =>
      rw [emptyVoids, hvoid, if_neg Bool.false_ne_true, Markup.Html.writeNode,
        Markup.Html.writeNode, writeNodes_emptyVoidsAmong (Markup.isRawText tag) children]
  | .text _ | .comment _ | .doctype _ => rfl

theorem writeNodes_emptyVoidsAmong (raw : Bool) : ∀ nodes : List Markup.Node,
    Markup.Html.writeNodes raw (emptyVoidsAmong nodes) = Markup.Html.writeNodes raw nodes
  | [] => rfl
  | node :: nodes => by
    rw [emptyVoidsAmong, Markup.Html.writeNodes, Markup.Html.writeNodes,
      writeNode_emptyVoids raw node, writeNodes_emptyVoidsAmong raw nodes]

end

theorem node_toHtml_emptyVoids (node : Markup.Node) : (emptyVoids node).toHtml = node.toHtml :=
  congrArg String.ofList (writeNode_emptyVoids false node)

theorem toHtml_emptyVoidsAmong (root : Markup.Root) :
    Markup.Root.toHtml (emptyVoidsAmong root) = root.toHtml :=
  congrArg String.ofList (writeNodes_emptyVoidsAmong false root)

/-! ## JSX without shown children -/

theorem convertNodes_eq_nil_iff (nodes : List Markup.Node) :
    convertNodes nodes = [] ↔ nodes.any isShown = false := by
  rw [← List.length_eq_zero_iff, length_convertNodes, List.countP_eq_zero, List.any_eq_false]

theorem convertNode_script (properties : Markup.Properties) (children : List Markup.Node) :
    convertNode (.element "script" properties children) =
      some (relocatedScript (Markup.Node.element "script" properties children).toHtml) := by
  rw [convertNode, if_pos rfl]

/-- A script is taken over as markup text, which never shows what void elements hold. -/
theorem convertNode_emptyVoids_script (properties : Markup.Properties)
    (children : List Markup.Node) :
    convertNode (emptyVoids (.element "script" properties children)) =
      convertNode (.element "script" properties children) := by
  have hhtml := node_toHtml_emptyVoids (.element "script" properties children)
  rw [emptyVoids] at hhtml ⊢
  rw [convertNode_script, convertNode_script, hhtml]

mutual

/-- Where void elements show nothing, their children are not missed. -/
theorem convertNode_emptyVoids : ∀ {node : Markup.Node}, voidsShowNothing node →
    convertNode (emptyVoids node) = convertNode node
  | .element tag properties children, h => by
    by_cases hscript : tag = "script"
    · subst hscript
      exact convertNode_emptyVoids_script properties children
    · rw [voidsShowNothing, decide_eq_false hscript, Bool.false_or] at h
      rw [emptyVoids, convertNode, convertNode, if_neg hscript, if_neg hscript]
      cases hvoid : isVoid tag with
      | true =>
        rw [hvoid, if_pos rfl, Bool.not_eq_true'] at h
        rw [if_pos rfl, (convertNodes_eq_nil_iff children).mpr h]
        rfl
      | false =>
        rw [hvoid, if_neg Bool.false_ne_true] at h
        rw [if_neg Bool.false_ne_true, convertNodes_emptyVoidsAmong h]
  | .text _, _ | .comment _, _ | .doctype _, _ => rfl

theorem convertNodes_emptyVoidsAmong : ∀ {nodes : List Markup.Node}, voidsAmongShowNothing nodes →
    convertNodes (emptyVoidsAmong nodes) = convertNodes nodes
  | [], _ => rfl
  | node :: nodes, h => by
    obtain ⟨hnode, hnodes⟩ := Bool.and_eq_true_iff.mp h
    rw [emptyVoidsAmong, convertNodes, convertNodes, convertNode_emptyVoids hnode,
      convertNodes_emptyVoidsAmong hnodes]

end

/-! ## JSX with shown children -/

theorem writeContent_open_append (name : String) (children : List Node) (x : List Char) :
    writeContent name children false ++ x =
      '>' :: (writeNodes children ++ ('<' :: '/' :: name.toList ++ '>' :: x)) := by
  simp [writeContent]

/-- An element that is closed at once is not written like one with children. -/
theorem writeContent_closed_append_iff (name : String) (children : List Node) (x y : List Char) :
    writeContent name [] true ++ x = writeContent name children true ++ y ↔
      children = [] ∧ x = y := by
  cases children with
  | nil => simp [writeContent]
  | cons child children => simp [writeContent]

mutual

/-- Where the JSX of a node stays the same without the children of void elements, none of them was
shown. -/
theorem voidsShowNothing_of_append_eq : ∀ {node : Markup.Node} {x y : List Char},
    (convertNode (emptyVoids node)).toList.flatMap writeNode ++ x =
      (convertNode node).toList.flatMap writeNode ++ y → voidsShowNothing node ∧ x = y
  | .element tag properties children, x, y, h => by
    by_cases hscript : tag = "script"
    · subst hscript
      rw [convertNode_emptyVoids_script] at h
      exact ⟨rfl, List.append_cancel_left h⟩
    · rw [voidsShowNothing, decide_eq_false hscript, Bool.false_or]
      simp only [emptyVoids, convertNode, if_neg hscript, Option.toList_some,
        List.flatMap_singleton, writeNode_element_append, List.cons.injEq, true_and] at h
      have hcontent := List.append_cancel_left (List.append_cancel_left h)
      cases hvoid : isVoid tag with
      | true =>
        rw [hvoid, if_pos rfl] at hcontent
        obtain ⟨hnil, hxy⟩ := (writeContent_closed_append_iff tag _ x y).mp hcontent
        rw [if_pos rfl, (convertNodes_eq_nil_iff children).mp hnil]
        exact ⟨rfl, hxy⟩
      | false =>
        rw [hvoid, if_neg Bool.false_ne_true, writeContent_open_append, writeContent_open_append,
          List.cons.injEq] at hcontent
        obtain ⟨hchildren, hrest⟩ := voidsAmongShowNothing_of_append_eq hcontent.2
        rw [if_neg Bool.false_ne_true]
        exact ⟨hchildren, (List.cons.inj (List.append_cancel_left hrest)).2⟩
  | .text _, _, _, h => ⟨rfl, List.append_cancel_left h⟩
  | .comment _, _, _, h => ⟨rfl, h⟩
  | .doctype _, _, _, h => ⟨rfl, h⟩

/-- Read from the left, equal sources agree node for node, so no void element can show a child in
one of them only. -/
theorem voidsAmongShowNothing_of_append_eq : ∀ {nodes : List Markup.Node} {x y : List Char},
    writeNodes (convertNodes (emptyVoidsAmong nodes)) ++ x =
      writeNodes (convertNodes nodes) ++ y → voidsAmongShowNothing nodes ∧ x = y
  | [], _, _, h => ⟨rfl, h⟩
  | node :: nodes, x, y, h => by
    rw [emptyVoidsAmong, writeNodes_convertNodes_cons, writeNodes_convertNodes_cons,
      List.append_assoc, List.append_assoc] at h
    obtain ⟨hnode, hrest⟩ := voidsShowNothing_of_append_eq h
    obtain ⟨hnodes, hxy⟩ := voidsAmongShowNothing_of_append_eq hrest
    exact ⟨Bool.and_eq_true_iff.mpr ⟨hnode, hnodes⟩, hxy⟩

end

/-! ## Whole trees -/

theorem ofMarkup_congr {root other : Markup.Root} (h : convertNodes root = convertNodes other) :
    ofMarkup root = ofMarkup other := by
  rw [ofMarkup, ofMarkup, h]

/-- Two pieces that show as many top-level nodes have the same source exactly if their nodes are
written alike. -/
theorem sourceOfMarkup_eq_iff_of_countP {root other : Markup.Root}
    (h : root.countP isShown = other.countP isShown) :
    sourceOfMarkup root = sourceOfMarkup other ↔
      writeNodes (convertNodes root) = writeNodes (convertNodes other) := by
  have hsource : sourceOfMarkup root = sourceOfMarkup other ↔
      writeNode (ofMarkup root) = writeNode (ofMarkup other) := String.ofList_inj
  rw [← length_convertNodes, ← length_convertNodes] at h
  rw [hsource]
  obtain ⟨node, hnode, htree⟩ | ⟨hlength, htree⟩ := ofMarkup_cases root
  · obtain ⟨node', hnode', htree'⟩ | ⟨hlength', -⟩ := ofMarkup_cases other
    · rw [htree, htree', hnode, hnode']
      simp [writeNodes]
    · exact absurd (by rw [← h, hnode]; rfl) hlength'
  · obtain ⟨node', hnode', -⟩ | ⟨-, htree'⟩ := ofMarkup_cases other
    · exact absurd (by rw [h, hnode']; rfl) hlength
    · rw [htree, htree', writeNode, writeNode]
      simp

/-- Plain markup is the same without the children of void elements. JSX is the same exactly if no
such child is shown, which means that all of them are comments and document type declarations or
stand inside a script. -/
theorem outputs_emptyVoids_iff (root : Markup.Root) :
    Markup.Root.toHtml (emptyVoidsAmong root) = root.toHtml ∧
      (sourceOfMarkup (emptyVoidsAmong root) = sourceOfMarkup root ↔
        voidsAmongShowNothing root) := by
  refine ⟨toHtml_emptyVoidsAmong root, ?_⟩
  constructor
  · intro h
    rw [sourceOfMarkup_eq_iff_of_countP (countP_isShown_emptyVoidsAmong root)] at h
    have hrest : writeNodes (convertNodes (emptyVoidsAmong root)) ++ [] =
        writeNodes (convertNodes root) ++ [] := by rw [h]
    exact (voidsAmongShowNothing_of_append_eq hrest).1
  · intro h
    rw [sourceOfMarkup, sourceOfMarkup, ofMarkup_congr (convertNodes_emptyVoidsAmong h)]

def drawing : Markup.Root := [.element "svg" .empty [.element "link" .empty [.text "x"]]]

/-- The drawing is what its markup is read as, and its JSX has the text and a closing tag. -/
theorem sourceOfMarkup_emptyVoids_drawing_ne :
    Markup.parse "<svg><link>x</link></svg>" = drawing ∧
      sourceOfMarkup drawing = "<svg><link>x</link></svg>" ∧
      sourceOfMarkup (emptyVoidsAmong drawing) ≠ sourceOfMarkup drawing := by
  decide +kernel

end MarkupIslands.Jsx
