import MarkupIslands.Proofs.Jsx.ReadableTree

/-!
# Unique readability of JSX sources

A JSX source is read back from left to right: at every point the next characters tell what is
written there, whatever the names, values, styles and texts in the tree are. So two pieces of markup
with ordinary element names have the same source only if they have the same JSX tree, up to
neighbouring and empty texts.
-/

namespace MarkupIslands.Jsx

open MarkupIslands.Text

variable {x y : List Char}

/-! ## Reading trees -/

/-- Where the siblings of a node end: at an end tag or at the end of the source. -/
def EndsSiblings (text : List Char) : Prop := text = [] ∨ ∃ rest, text = '<' :: '/' :: rest

def isTextPart (c : Char) : Bool :=
  !(c == '\x7b' || c == '\x7d' || c == '<' || c == '>' || c == '&')

theorem isTextPart_of_isReadable {value : String} (h : (Node.text value).IsReadable) :
    ∀ c ∈ value.toList, isTextPart c := by
  intro c hc
  rw [isTextPart, Bool.not_eq_true']
  exact Bool.eq_false_iff.mpr (List.any_eq_false.mp h c hc)

def writeContent (name : String) (children : List Node) (selfClosing : Bool) : List Char :=
  if selfClosing && children.isEmpty then [' ', '/', '>']
  else '>' :: writeNodes children ++ '<' :: '/' :: name.toList ++ ['>']

theorem writeNode_element_append (name : String) (attrs : List Attribute) (children : List Node)
    (selfClosing : Bool) (text : List Char) :
    writeNode (.element name attrs children selfClosing) ++ text =
      '<' :: (name.toList ++ (attrs.flatMap writeAttribute ++
        (writeContent name children selfClosing ++ text))) := by
  rw [writeNode, ← writeContent]
  simp

theorem isTagEnd_writeContent (name : String) (children : List Node) (selfClosing : Bool)
    (text : List Char) : IsTagEnd (writeContent name children selfClosing ++ text) := by
  unfold writeContent
  split
  · exact .inr ⟨_, rfl⟩
  · exact .inl ⟨_, rfl⟩

/-- A node that is no text begins with a brace or with a bracket that no end tag begins with. -/
theorem head_writeNode {node : Node} (hnode : node.IsReadable)
    (htext : ∀ value, node ≠ .text value) (text : List Char) :
    (∃ rest, writeNode node ++ text = '\x7b' :: rest) ∨
      ∃ c rest, writeNode node ++ text = '<' :: c :: rest ∧ c ≠ '/' := by
  cases node with
  | element name attrs children selfClosing =>
    obtain ⟨c, rest, hchars, hstart⟩ := exists_eq_cons_of_isTagName hnode.1
    rw [writeNode_element_append, hchars]
    refine .inr ⟨c, _, rfl, ?_⟩
    rintro rfl
    exact absurd hstart (by decide)
  | fragment children => exact .inr ⟨'>', _, rfl, by decide⟩
  | text value => exact absurd rfl (htext value)
  | expression source => exact .inl ⟨_, rfl⟩

/-- All nodes but texts begin with a character that ends a text. -/
theorem exists_head_writeNode {node : Node} (hnode : node.IsReadable)
    (htext : ∀ value, node ≠ .text value) (text : List Char) :
    ∃ c rest, writeNode node ++ text = c :: rest ∧ isTextPart c = false := by
  rcases head_writeNode hnode htext text with ⟨rest, h⟩ | ⟨c, rest, h, -⟩
  · exact ⟨'\x7b', rest, h, by decide⟩
  · exact ⟨'<', c :: rest, h, by decide⟩

/-- Behind a text comes a character that cannot go on it, unless another text comes. -/
theorem head_writeNodes {nodes : List Node} (hnodes : AreReadable nodes)
    (htext : HasText.beginsWithText nodes = false) (hx : EndsSiblings x) :
    ∀ c, (writeNodes nodes ++ x).head? = some c → isTextPart c = false := by
  intro c hc
  cases nodes with
  | nil =>
    rcases hx with rfl | ⟨rest, rfl⟩
    · cases hc
    · obtain rfl := Option.some.inj hc
      decide
  | cons node nodes =>
    have hne : ∀ value, node ≠ .text value := by
      rintro value rfl
      cases htext
    obtain ⟨d, rest, h, hd⟩ := exists_head_writeNode hnodes.1 hne (writeNodes nodes ++ x)
    rw [writeNodes, List.append_assoc, h] at hc
    obtain rfl := Option.some.inj hc
    exact hd

/-- A text that is written at all does not begin like any other node or like an end tag. -/
theorem head_text {value : String} (hvalue : (Node.text value).IsReadable) (hne : value ≠ "")
    (text : List Char) :
    ∃ c rest, writeNode (.text value) ++ text = c :: rest ∧ isTextPart c := by
  cases hchars : value.toList with
  | nil => exact absurd (String.toList_eq_nil_iff.mp hchars) hne
  | cons c rest =>
    refine ⟨c, rest ++ text, by rw [writeNode, hchars, List.cons_append], ?_⟩
    exact isTextPart_of_isReadable hvalue c (hchars ▸ List.mem_cons_self)

/-- A node is not taken for the end of its siblings. -/
theorem not_endsSiblings_writeNode {node : Node} (hnode : node.IsReadable)
    (hne : ∀ value, node = .text value → value ≠ "") (text : List Char) :
    ¬ EndsSiblings (writeNode node ++ text) := by
  intro hend
  by_cases htext : ∃ value, node = .text value
  · obtain ⟨value, rfl⟩ := htext
    obtain ⟨c, rest, h, hc⟩ := head_text hnode (hne value rfl) text
    rw [h] at hend
    rcases hend with heq | ⟨_, heq⟩
    · cases heq
    · obtain rfl := (List.cons.inj heq).1
      exact absurd hc (by decide)
  · rcases head_writeNode hnode (fun value hvalue ↦ htext ⟨value, hvalue⟩) text with
      ⟨rest, h⟩ | ⟨c, rest, h, hc⟩
    · rw [h] at hend
      rcases hend with heq | ⟨_, heq⟩ <;> cases heq
    · rw [h] at hend
      rcases hend with heq | ⟨_, heq⟩
      · cases heq
      · exact hc (List.cons.inj (List.cons.inj heq).2).1

/-- A text without a text behind it can be told from what is written. -/
theorem text_append_inj {node other : Node} {nodes others : List Node}
    (htext : ∃ value, node = .text value) (hnode : node.IsReadable) (hother : other.IsReadable)
    (hmerged : AreMerged (node :: nodes)) (hmerged' : AreMerged (other :: others))
    (hx : HasText.beginsWithText nodes = false → ∀ c, x.head? = some c → isTextPart c = false)
    (hy : HasText.beginsWithText others = false → ∀ c, y.head? = some c → isTextPart c = false)
    (heq : writeNode node ++ x = writeNode other ++ y) : node = other ∧ x = y := by
  obtain ⟨value, rfl⟩ := htext
  obtain ⟨hne, hnodes⟩ := hmerged.2.2 value rfl
  by_cases hother' : ∃ value, other = .text value
  · obtain ⟨value', rfl⟩ := hother'
    obtain ⟨-, hothers⟩ := hmerged'.2.2 value' rfl
    obtain ⟨hvalue, hrest⟩ := append_inj_of_stops (isTextPart_of_isReadable hnode)
      (isTextPart_of_isReadable hother) (hx hnodes) (hy hothers) heq
    rw [String.toList_inj.mp hvalue]
    exact ⟨rfl, hrest⟩
  · obtain ⟨c, _, h, hc⟩ := head_text hnode hne x
    obtain ⟨d, _, h', hd⟩ := exists_head_writeNode hother (not_exists.mp hother') y
    obtain rfl : c = d := (List.cons.inj (h.symm.trans (heq.trans h'))).1
    exact absurd hc (Bool.eq_false_iff.mp hd)

/-- An element name is not empty, so no opening tag is taken for that of a fragment. -/
theorem element_append_ne_fragment {name : String} (hname : isTagName name.toList)
    (attrs : List Attribute) (children others : List Node) (selfClosing : Bool) :
    writeNode (.element name attrs children selfClosing) ++ x ≠
      writeNode (.fragment others) ++ y := by
  obtain ⟨c, rest, hchars, hstart⟩ := exists_eq_cons_of_isTagName hname
  rw [writeNode_element_append, hchars]
  intro heq
  obtain rfl : c = '>' := (List.cons.inj (List.cons.inj heq).2).1
  exact absurd hstart (by decide)

/-- The name and the attributes of an element can be told from what is written. -/
theorem element_append_inj {name name' : String} {attrs attrs' : List Attribute}
    {children children' : List Node} {selfClosing selfClosing' : Bool}
    (hnode : (Node.element name attrs children selfClosing).IsReadable)
    (hother : (Node.element name' attrs' children' selfClosing').IsReadable)
    (heq : writeNode (.element name attrs children selfClosing) ++ x =
      writeNode (.element name' attrs' children' selfClosing') ++ y) :
    name = name' ∧ attrs = attrs' ∧ writeContent name children selfClosing ++ x =
      writeContent name' children' selfClosing' ++ y := by
  have hend := isTagEnd_writeContent name children selfClosing x
  have hend' := isTagEnd_writeContent name' children' selfClosing' y
  rw [writeNode_element_append, writeNode_element_append, List.cons.injEq] at heq
  obtain ⟨hname, hrest⟩ := append_inj_of_stops (isTagPart_of_isTagName hnode.1)
    (isTagPart_of_isTagName hother.1)
    ((endsAttribute_attributes attrs hend).head (by decide) (by decide))
    ((endsAttribute_attributes attrs' hend').head (by decide) (by decide)) heq.2
  exact ⟨String.toList_inj.mp hname, attributes_append_inj hnode.2.1 hother.2.1 hend hend' hrest⟩

/-- The content of an element can be told from what is written if its children can. -/
theorem writeContent_append_inj {name : String} {children children' : List Node}
    {selfClosing : Bool} (hempty : selfClosing → children = [])
    (hempty' : selfClosing → children' = [])
    (hchildren : ∀ {x y : List Char}, EndsSiblings x → EndsSiblings y →
      writeNodes children ++ x = writeNodes children' ++ y → children = children' ∧ x = y)
    (heq : writeContent name children selfClosing ++ x =
      writeContent name children' selfClosing ++ y) : children = children' ∧ x = y := by
  cases selfClosing with
  | true =>
    obtain rfl := hempty rfl
    obtain rfl := hempty' rfl
    exact ⟨rfl, List.append_cancel_left heq⟩
  | false =>
    simp only [writeContent, Bool.false_and, Bool.false_eq_true, if_false, List.cons_append,
      List.append_assoc, List.nil_append, List.cons.injEq, true_and] at heq
    obtain ⟨rfl, hrest⟩ := hchildren (.inr ⟨_, rfl⟩) (.inr ⟨_, rfl⟩) heq
    simpa using hrest

mutual

/-- A node that is no text can be told from what is written. -/
theorem writeNode_append_inj : ∀ {node other : Node}, node.IsReadable → other.IsReadable →
    node.IsMerged → other.IsMerged → (∀ value, node ≠ .text value) →
    (∀ value, other ≠ .text value) → ∀ {x y : List Char},
    writeNode node ++ x = writeNode other ++ y → node = other ∧ x = y
  | .element name attrs children selfClosing, .element name' attrs' children' selfClosing',
    hnode, hother, hmerged, hmerged', _, _, x, y, heq => by
    obtain ⟨rfl, rfl, hcontent⟩ := element_append_inj hnode hother heq
    obtain ⟨-, -, hvoid, hempty, hchildren⟩ := hnode
    obtain ⟨-, -, hvoid', hempty', hchildren'⟩ := hother
    obtain rfl : selfClosing = selfClosing' := hvoid.trans hvoid'.symm
    obtain ⟨rfl, hend⟩ := writeContent_append_inj hempty hempty'
      (writeNodes_append_inj hchildren hchildren' hmerged hmerged') hcontent
    exact ⟨rfl, hend⟩
  | .fragment children, .fragment children', hnode, hother, hmerged, hmerged', _, _, x, y, heq => by
    simp only [writeNode, List.cons_append, List.append_assoc, List.nil_append, List.cons.injEq,
      true_and] at heq
    obtain ⟨rfl, hend⟩ := writeNodes_append_inj hnode hother hmerged hmerged' (.inr ⟨_, rfl⟩)
      (.inr ⟨_, rfl⟩) heq
    simpa using hend
  | .expression source, .expression source', hnode, hother, _, _, _, _, x, y, heq => by
    simp only [writeNode, List.cons_append, List.append_assoc, List.nil_append, List.cons.injEq,
      true_and] at heq
    obtain ⟨hsource, hend⟩ := prefixFree_expressions.append_inj hnode hother heq
    rw [String.toList_inj.mp hsource]
    exact ⟨rfl, (List.cons.inj hend).2⟩
  | .text value, _, _, _, _, _, hne, _, _, _, _ | _, .text value, _, _, _, _, _, hne, _, _, _ =>
    absurd rfl (hne value)
  | .element .., .fragment .., hnode, _, _, _, _, _, _, _, heq =>
    absurd heq (element_append_ne_fragment hnode.1 _ _ _ _)
  | .fragment .., .element .., _, hother, _, _, _, _, _, _, heq =>
    absurd heq.symm (element_append_ne_fragment hother.1 _ _ _ _)
  | .element .., .expression .., _, _, _, _, _, _, _, _, heq
  | .fragment .., .expression .., _, _, _, _, _, _, _, _, heq
  | .expression .., .element .., _, _, _, _, _, _, _, _, heq
  | .expression .., .fragment .., _, _, _, _, _, _, _, _, heq => by
    simp [writeNode] at heq

/-- Siblings can be told from what is written. -/
theorem writeNodes_append_inj : ∀ {nodes others : List Node}, AreReadable nodes →
    AreReadable others → AreMerged nodes → AreMerged others → ∀ {x y : List Char},
    EndsSiblings x → EndsSiblings y → writeNodes nodes ++ x = writeNodes others ++ y →
    nodes = others ∧ x = y
  | [], [], _, _, _, _, _, _, _, _, heq => ⟨rfl, heq⟩
  | [], other :: others, _, hothers, _, hmerged, x, y, hx, _, heq => by
    rw [writeNodes, List.nil_append, writeNodes, List.append_assoc] at heq
    exact absurd (heq ▸ hx) (not_endsSiblings_writeNode hothers.1
      (fun value hvalue ↦ (hmerged.2.2 value hvalue).1) _)
  | node :: nodes, [], hnodes, _, hmerged, _, x, y, _, hy, heq => by
    rw [writeNodes, List.nil_append, writeNodes, List.append_assoc] at heq
    exact absurd (heq ▸ hy) (not_endsSiblings_writeNode hnodes.1
      (fun value hvalue ↦ (hmerged.2.2 value hvalue).1) _)
  | node :: nodes, other :: others, hnodes, hothers, hmerged, hmerged', x, y, hx, hy, heq => by
    rw [writeNodes, List.append_assoc, writeNodes, List.append_assoc] at heq
    have hfirst : node = other ∧ writeNodes nodes ++ x = writeNodes others ++ y := by
      -- what follows a text is known not to be a text, so texts are read apart from other nodes
      by_cases hnode : ∃ value, node = .text value
      · exact text_append_inj hnode hnodes.1 hothers.1 hmerged hmerged'
          (fun h ↦ head_writeNodes hnodes.2 h hx) (fun h ↦ head_writeNodes hothers.2 h hy) heq
      · by_cases hother : ∃ value, other = .text value
        · obtain ⟨hsame, hrest⟩ := text_append_inj hother hothers.1 hnodes.1 hmerged' hmerged
            (fun h ↦ head_writeNodes hothers.2 h hy) (fun h ↦ head_writeNodes hnodes.2 h hx)
            heq.symm
          exact ⟨hsame.symm, hrest.symm⟩
        · exact writeNode_append_inj hnodes.1 hothers.1 hmerged.1 hmerged'.1
            (not_exists.mp hnode) (not_exists.mp hother) heq
    obtain ⟨rfl, hrest⟩ := hfirst
    obtain ⟨rfl, hend⟩ :=
      writeNodes_append_inj hnodes.2 hothers.2 hmerged.2.1 hmerged'.2.1 hx hy hrest
    exact ⟨rfl, hend⟩

end

theorem writeNode_text_ne {value : String} {node : Node} (hvalue : (Node.text value).IsReadable)
    (hnode : node.IsReadable) (htext : ∀ value, node ≠ .text value) :
    writeNode (.text value) ≠ writeNode node := by
  intro heq
  obtain ⟨c, _, h, hc⟩ := exists_head_writeNode hnode htext []
  rw [List.append_nil, ← heq, writeNode] at h
  have hpart := isTextPart_of_isReadable hvalue c (h ▸ List.mem_cons_self)
  exact absurd hpart (Bool.eq_false_iff.mp hc)

/-- A whole tree can be told from its source. -/
theorem writeNode_inj {node other : Node} (hnode : node.IsReadable) (hother : other.IsReadable)
    (hmerged : node.IsMerged) (hmerged' : other.IsMerged)
    (heq : writeNode node = writeNode other) : node = other := by
  by_cases htext : ∃ value, node = .text value
  · obtain ⟨value, rfl⟩ := htext
    by_cases htext' : ∃ value, other = .text value
    · obtain ⟨value', rfl⟩ := htext'
      rw [String.toList_inj.mp heq]
    · exact absurd heq (writeNode_text_ne hnode hother (not_exists.mp htext'))
  · by_cases htext' : ∃ value, other = .text value
    · obtain ⟨value', rfl⟩ := htext'
      exact absurd heq.symm (writeNode_text_ne hother hnode (not_exists.mp htext))
    · have hends : writeNode node ++ [] = writeNode other ++ [] := congrArg (· ++ []) heq
      exact (writeNode_append_inj hnode hother hmerged hmerged' (not_exists.mp htext)
        (not_exists.mp htext') hends).1

/-! ## Sources of markup -/

/-- Two pieces of markup with ordinary element names and childless void elements have the same JSX
source exactly if they have the same JSX tree, up to neighbouring and empty texts. -/
theorem sourceOfMarkup_eq_iff {first second : Markup.Root} (hfirst : areOrdinary first)
    (hsecond : areOrdinary second) :
    sourceOfMarkup first = sourceOfMarkup second ↔
      (ofMarkup first).mergeTexts = (ofMarkup second).mergeTexts := by
  have hreadable := isReadable_ofMarkup hfirst
  have hreadable' := isReadable_ofMarkup hsecond
  calc
    sourceOfMarkup first = sourceOfMarkup second ↔
        writeNode (ofMarkup first) = writeNode (ofMarkup second) := String.ofList_inj
    _ ↔ writeNode (ofMarkup first).mergeTexts = writeNode (ofMarkup second).mergeTexts := by
      rw [writeNode_mergeTexts hreadable, writeNode_mergeTexts hreadable']
    _ ↔ (ofMarkup first).mergeTexts = (ofMarkup second).mergeTexts :=
      ⟨writeNode_inj (isReadable_mergeTexts hreadable) (isReadable_mergeTexts hreadable')
        (isMerged_mergeTexts _) (isMerged_mergeTexts _), congrArg writeNode⟩

/-- Texts that stand next to each other are written like one text, while a value that tries to end
its quotes is not written like two attributes. -/
theorem sourceOfMarkup_split_text_and_quoted_value :
    sourceOfMarkup [.element "p" .empty [.text "a", .text "", .text "b"]] =
        sourceOfMarkup [.element "p" .empty [.text "ab"]] ∧
      sourceOfMarkup [.element "p" (.ofList [("title", .text "a\" id=\"b")]) []] ≠
        sourceOfMarkup [.element "p" (.ofList [("title", .text "a"), ("id", .text "b")]) []] := by
  refine ⟨(sourceOfMarkup_eq_iff (by decide) (by decide)).mpr rfl, fun h ↦ ?_⟩
  have htrees := (sourceOfMarkup_eq_iff (by decide) (by decide)).mp h
  injection htrees with _ hattrs
  exact absurd hattrs (by decide +kernel)

end MarkupIslands.Jsx
