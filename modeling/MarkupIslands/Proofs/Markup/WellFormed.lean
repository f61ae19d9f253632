import MarkupIslands.Proofs.Jsx.ReadableTree
import MarkupIslands.Proofs.Markup.ShownForm
import MarkupIslands.Proofs.Text.Search

/-!
# Trees whose text does not break off early

Names, comments and raw texts are written as they are, so they must not hold what ends them: names
hold no delimiters, a comment does not hold the end of a comment, and the text of a script or a
style sheet does not hold the end tag of its element. Nothing is asked of other texts and of
property values. The shown form of such a tree is such a tree.
-/

namespace MarkupIslands.Markup

open MarkupIslands.Text
open MarkupIslands.Jsx (isTagName)

def attributeDelimiters : List Char := [' ', '\t', '\n', '\x0c', '\r', '"', '=', '<', '>', '/']

/-- Whether a text can be the name of an attribute: it is not empty and holds no delimiters. -/
def isAttributeName (name : List Char) : Bool :=
  !name.isEmpty && name.all (!attributeDelimiters.contains ·)

def commentEnd : List Char := "-->".toList

/-- What the end tag of an element begins with. -/
def endTagStart (tag : String) : List Char := '<' :: '/' :: tag.toList

def Node.isText : Node → Bool
  | .text _ => true
  | _ => false

/-- The texts among some siblings as one text. -/
def joinedText : List Node → List Char
  | [] => []
  | .text value :: rest => value.toList ++ joinedText rest
  | _ :: rest => joinedText rest

mutual

/-- Whether no part of a node ends before its end. -/
def Node.isWellFormed : Node → Bool
  | .element tag properties children =>
    isTagName tag.toList && properties.names.all (isAttributeName ·.toList) &&
      (!isRawText tag ||
        children.all Node.isText && !holds (endTagStart tag) (joinedText children)) &&
      areWellFormed children
  | .text _ => true
  | .comment value => !holds commentEnd value.toList
  | .doctype name => !name.toList.contains '>'

def areWellFormed : List Node → Bool
  | [] => true
  | node :: rest => node.isWellFormed && areWellFormed rest

end

/-- The demands on an element in words that proofs use. -/
theorem isWellFormed_element_iff {tag : String} {properties : Properties} {children : List Node} :
    (Node.element tag properties children).isWellFormed ↔
      isTagName tag.toList ∧ (∀ name ∈ properties.names, isAttributeName name.toList) ∧
        (isRawText tag →
          children.all Node.isText ∧ holds (endTagStart tag) (joinedText children) = false) ∧
        areWellFormed children := by
  simp only [Node.isWellFormed, Bool.and_eq_true, Bool.or_eq_true, Bool.not_eq_true',
    List.all_eq_true, and_assoc]
  cases isRawText tag <;> simp

/-! ## Raw text -/

theorem joinedText_eq_flatMap (nodes : List Node) :
    joinedText nodes = nodes.flatMap fun node ↦ joinedText [node] := by
  induction nodes with
  | nil => rfl
  | cons node rest ih =>
    rw [List.flatMap_cons, ← ih]
    cases node <;> simp [joinedText]

theorem joinedText_prepend (node : Node) (nodes : List Node) :
    joinedText (HasText.prepend node nodes) = joinedText [node] ++ joinedText nodes := by
  rw [joinedText_eq_flatMap (HasText.prepend node nodes), joinedText_eq_flatMap nodes]
  apply HasText.flatMap_prepend
  · rfl
  · intro value next
    simp [HasText.text, joinedText]

/-- Merging texts leaves the joined text as it is. -/
theorem joinedText_shownAmong (nodes : List Node) :
    joinedText (shownAmong nodes) = joinedText nodes := by
  induction nodes with
  | nil => rfl
  | cons node nodes ih =>
    rw [shownAmong, joinedText_prepend, ih]
    cases node <;> simp [Node.shown, joinedText]

theorem all_isText_prepend {node : Node} {nodes : List Node} (hnode : node.isText)
    (hnodes : nodes.all Node.isText) : (HasText.prepend node nodes).all Node.isText := by
  rw [List.all_eq_true] at hnodes ⊢
  exact HasText.forall_mem_prepend (fun _ _ _ _ ↦ rfl) hnode hnodes

theorem all_isText_shownAmong {nodes : List Node} (h : nodes.all Node.isText) :
    (shownAmong nodes).all Node.isText := by
  induction nodes with
  | nil => rfl
  | cons node nodes ih =>
    obtain ⟨hnode, hnodes⟩ := Bool.and_eq_true_iff.mp h
    cases node with
    | text value => exact all_isText_prepend rfl (ih hnodes)
    | element | comment | doctype => cases hnode

/-- Siblings that are texts are written as their joined text. -/
theorem writeNodes_true_of_all_isText {nodes : List Node} (h : nodes.all Node.isText) :
    Html.writeNodes true nodes = joinedText nodes := by
  induction nodes with
  | nil => rfl
  | cons node nodes ih =>
    obtain ⟨hnode, hnodes⟩ := Bool.and_eq_true_iff.mp h
    cases node with
    | text value => rw [Html.writeNodes, ih hnodes, joinedText, Html.writeNode, if_pos rfl]
    | element | comment | doctype => cases hnode

/-- Reduced siblings that are texts are told by their joined text. -/
theorem eq_of_joinedText_eq {nodes others : List Node} (hnodes : nodes.all Node.isText)
    (hothers : others.all Node.isText) (hreduced : AreReduced nodes)
    (hreduced' : AreReduced others) (heq : joinedText nodes = joinedText others) :
    nodes = others := by
  -- reduced texts stand alone, and the empty text is not among them
  have hsingle {nodes : List Node} (hnodes : nodes.all Node.isText) (hreduced : AreReduced nodes) :
      nodes = if joinedText nodes = [] then [] else [.text (String.ofList (joinedText nodes))] := by
    match nodes with
    | [] => rfl
    | .text value :: rest =>
      obtain ⟨hne, hrest⟩ := hreduced.2.2 value rfl
      cases rest with
      | nil =>
        have hchars : value.toList ≠ [] := fun h ↦ hne (String.toList_eq_nil_iff.mp h)
        simp [joinedText, hchars]
      | cons next rest =>
        cases next with
        | text => cases hrest
        | element | comment | doctype => cases (Bool.and_eq_true_iff.mp hnodes).2
    | .element .. :: _ | .comment _ :: _ | .doctype _ :: _ => cases hnodes
  rw [hsingle hnodes hreduced, hsingle hothers hreduced', heq]

/-! ## The shown form is well-formed -/

theorem areWellFormed_iff {nodes : List Node} :
    areWellFormed nodes ↔ ∀ node ∈ nodes, node.isWellFormed := by
  induction nodes with
  | nil => simp [areWellFormed]
  | cons node rest ih => rw [areWellFormed, Bool.and_eq_true, ih, List.forall_mem_cons]

theorem areWellFormed_prepend {node : Node} {nodes : List Node} (hnode : node.isWellFormed)
    (hnodes : areWellFormed nodes) : areWellFormed (HasText.prepend node nodes) := by
  rw [areWellFormed_iff] at hnodes ⊢
  exact HasText.forall_mem_prepend (fun _ _ _ _ ↦ rfl) hnode hnodes

mutual

/-- What is seen of a well-formed node is well-formed. -/
theorem isWellFormed_shown : ∀ {node : Node}, node.isWellFormed → node.shown.isWellFormed
  | .element tag properties children, h => by
    obtain ⟨htag, hnames, hraw, hchildren⟩ := isWellFormed_element_iff.mp h
    have hshown := areWellFormed_shownAmong hchildren
    rw [Node.shown]
    apply isWellFormed_element_iff.mpr
    refine ⟨htag, fun name hname ↦ hnames name (mem_names_of_mem_names_shown hname),
      fun hrawTag ↦ ?_, ?_⟩
    · obtain ⟨htexts, hholds⟩ := hraw hrawTag
      rw [isVoid_eq_false_of_isRawText hrawTag, if_neg Bool.false_ne_true, joinedText_shownAmong]
      exact ⟨all_isText_shownAmong htexts, hholds⟩
    · split
      · rfl
      · exact hshown
  | .text _, _ => rfl
  | .comment _, h => h
  | .doctype name, h => by
    rw [Node.shown]
    split
    · decide
    · exact h

theorem areWellFormed_shownAmong : ∀ {nodes : List Node}, areWellFormed nodes →
    areWellFormed (shownAmong nodes)
  | [], _ => rfl
  | node :: nodes, h => by
    obtain ⟨hnode, hnodes⟩ := Bool.and_eq_true_iff.mp h
    exact areWellFormed_prepend (isWellFormed_shown hnode) (areWellFormed_shownAmong hnodes)

end

end MarkupIslands.Markup
