import MarkupIslands.Jsx.OfMarkup
import MarkupIslands.Proofs.Text.Quoted

/-!
# What JSX keeps of markup

Converting markup to JSX changes how texts, properties and scripts are spelled, but not what is
shown. The outline of a tree says what is shown: its elements by name, its texts and the markup of
its scripts, in document order. It is read off a JSX tree on one side and off the markup on the
other, and the two agree.
-/

namespace MarkupIslands.Jsx

open MarkupIslands.Text

/-- What is shown of a node. A script is shown as the markup that the runtime component receives. -/
inductive Outline
  | element (name : String) (children : List Outline)
  | text (value : String)
  | script (markup : String)

/-! ## Reading a JSX tree -/

/-- The text that an attribute value denotes. -/
def AttributeValue.text? : AttributeValue → Option String
  | .bare => none
  | .text value => some value
  | .expression source => unquote? source

/-- The text of the first attribute with the given name. -/
def attributeText? (name : String) : List Attribute → Option String
  | [] => none
  | .named other value :: rest => if other = name then value.text? else attributeText? name rest
  | .spread _ :: rest => attributeText? name rest

mutual

/-- The outline of a JSX node. An expression is read as a string literal, and the runtime component
as a script. A fragment is no node of an outline. -/
def Node.outline? : Node → Option Outline
  | .element name attributes children _ =>
    if name = scriptComponent then (attributeText? "html" attributes).map .script
    else (outlines? children).map (.element name)
  | .text value => some (.text value)
  | .expression source => (unquote? source).map .text
  | .fragment _ => none

def outlines? : List Node → Option (List Outline)
  | [] => some []
  | node :: rest => do
    let outline ← node.outline?
    let others ← outlines? rest
    return outline :: others

end

/-- The outlines of a whole tree: of the nodes of a fragment, or of the one node that it is. -/
def Node.readBack? : Node → Option (List Outline)
  | .fragment children => outlines? children
  | node => node.outline?.map fun outline ↦ [outline]

mutual

/-- A JSX node with everything below it, in document order. -/
def Node.subnodes : Node → List Node
  | .element name attributes children selfClosing =>
    .element name attributes children selfClosing :: subnodesAmong children
  | .fragment children => .fragment children :: subnodesAmong children
  | .text value => [.text value]
  | .expression source => [.expression source]

def subnodesAmong : List Node → List Node
  | [] => []
  | node :: rest => node.subnodes ++ subnodesAmong rest

end

def Node.elementName? : Node → Option String
  | .element name .. => some name
  | _ => none

def Node.elementNames (node : Node) : List String := node.subnodes.filterMap Node.elementName?

/-! ## Reading markup -/

mutual

/-- The outline of a markup node. Comments and document type declarations are not shown. -/
def outlineOf? : Markup.Node → Option Outline
  | .element tag properties children =>
    if tag = "script" then
      some (.script (Markup.Node.element tag properties children).toHtml)
    else some (.element tag (outlinesOf children))
  | .text value => some (.text value)
  | .comment _ | .doctype _ => none

def outlinesOf : List Markup.Node → List Outline
  | [] => []
  | node :: rest => (outlineOf? node).toList ++ outlinesOf rest

end

def isShown : Markup.Node → Bool
  | .element .. | .text _ => true
  | .comment _ | .doctype _ => false

mutual

/-- The names of all elements of a markup node, those inside scripts included. -/
def tagsOf : Markup.Node → List String
  | .element tag _ children => tag :: tagsAmong children
  | .text _ | .comment _ | .doctype _ => []

def tagsAmong : List Markup.Node → List String
  | [] => []
  | node :: rest => tagsOf node ++ tagsAmong rest

end

/-! ## Converted nodes -/

/-- A node as the conversion makes them, without regard to what is below it. -/
def Node.IsConverted : Node → Prop
  | .element name .. => name ≠ "script"
  | .text value => needsExpression value = false
  | .expression _ => True
  | .fragment _ => False

theorem forall_mem_subnodes_relocatedScript (markup : String) :
    ∀ node ∈ (relocatedScript markup).subnodes, node.IsConverted := by
  have hname : scriptComponent ≠ "script" := by decide
  exact List.forall_mem_singleton.mpr hname

mutual

/-- Every node of a converted one is a node as the conversion makes them. -/
theorem isConverted_of_mem_subnodes : ∀ {node : Markup.Node} {converted : Node},
    convertNode node = some converted → ∀ sub ∈ converted.subnodes, sub.IsConverted
  | .element tag properties children, converted, h => by
    rw [convertNode] at h
    split at h
    · obtain rfl := Option.some.inj h
      exact forall_mem_subnodes_relocatedScript _
    · rename_i htag
      obtain rfl := Option.some.inj h
      rw [Node.subnodes, List.forall_mem_cons]
      exact ⟨htag, isConverted_of_mem_subnodesAmong children⟩
  | .text value, converted, h => by
    rw [convertNode] at h
    split at h
    · obtain rfl := Option.some.inj h
      exact List.forall_mem_singleton.mpr trivial
    · rename_i hplain
      obtain rfl := Option.some.inj h
      exact List.forall_mem_singleton.mpr (Bool.eq_false_iff.mpr hplain)
  | .comment _, _, h | .doctype _, _, h => by
    cases h

theorem isConverted_of_mem_subnodesAmong : ∀ nodes : List Markup.Node,
    ∀ sub ∈ subnodesAmong (convertNodes nodes), sub.IsConverted
  | [] => fun _ hsub ↦ absurd hsub List.not_mem_nil
  | node :: nodes => by
    rw [convertNodes]
    split
    · rename_i converted hconverted
      rw [subnodesAmong, List.forall_mem_append]
      exact ⟨isConverted_of_mem_subnodes hconverted, isConverted_of_mem_subnodesAmong nodes⟩
    · exact isConverted_of_mem_subnodesAmong nodes

end

/-- Only comments and document type declarations are lost. -/
theorem isSome_convertNode (node : Markup.Node) : (convertNode node).isSome = isShown node := by
  cases node with
  | element => rw [convertNode, ← apply_ite some]; rfl
  | text => rw [convertNode, ← apply_ite some]; rfl
  | comment | doctype => rfl

/-- One JSX node comes from each node that is shown. -/
theorem length_convertNodes (nodes : List Markup.Node) :
    (convertNodes nodes).length = nodes.countP isShown := by
  rw [convertNodes_eq_filterMap, List.length_filterMap_eq_countP]
  exact List.countP_congr fun node _ ↦ by rw [isSome_convertNode]

theorem outlineOf?_of_not_isShown {node : Markup.Node} (h : isShown node = false) :
    outlineOf? node = none := by
  cases node with
  | element | text => cases h
  | comment | doctype => rfl

/-! ## Both outlines -/

theorem outline?_relocatedScript (markup : String) :
    (relocatedScript markup).outline? = some (.script markup) := by
  rw [relocatedScript, Node.outline?, if_pos rfl, attributeText?, if_pos rfl,
    AttributeValue.text?, unquote?_quote, Option.map_some]

mutual

/-- A converted node is read with the outline of the markup node. -/
theorem exists_outline_of_convertNode : ∀ {node : Markup.Node} {converted : Node},
    convertNode node = some converted → scriptComponent ∉ tagsOf node →
    ∃ outline, outlineOf? node = some outline ∧ converted.outline? = some outline
  | .element tag properties children, converted, h, htags => by
    rw [convertNode] at h
    split at h
    · rename_i hscript
      obtain rfl := Option.some.inj h
      rw [outlineOf?, if_pos hscript]
      exact ⟨_, rfl, outline?_relocatedScript _⟩
    · rename_i hscript
      obtain rfl := Option.some.inj h
      -- the element keeps its name, and only its name tells it from the runtime component
      obtain ⟨htag, hchildren⟩ := List.ne_and_not_mem_of_not_mem_cons htags
      rw [outlineOf?, if_neg hscript, Node.outline?, if_neg (Ne.symm htag),
        outlines?_convertNodes hchildren]
      exact ⟨_, rfl, rfl⟩
  | .text value, converted, h, _ => by
    rw [convertNode] at h
    refine ⟨.text value, rfl, ?_⟩
    split at h
    · obtain rfl := Option.some.inj h
      rw [Node.outline?, unquote?_quote, Option.map_some]
    · obtain rfl := Option.some.inj h
      rfl
  | .comment _, _, h, _ | .doctype _, _, h, _ => by
    cases h

/-- What is shown of some nodes is read back from their conversions. -/
theorem outlines?_convertNodes : ∀ {nodes : List Markup.Node},
    scriptComponent ∉ tagsAmong nodes →
    outlines? (convertNodes nodes) = some (outlinesOf nodes)
  | [], _ => rfl
  | node :: nodes, htags => by
    rw [tagsAmong, List.mem_append, not_or] at htags
    obtain ⟨hnode, hnodes⟩ := htags
    have hrest := outlines?_convertNodes hnodes
    rw [convertNodes, outlinesOf]
    split
    · rename_i converted hconverted
      obtain ⟨outline, hshown, hread⟩ := exists_outline_of_convertNode hconverted hnode
      rw [outlines?, hread, hrest, hshown]
      rfl
    · rename_i hnone
      have hhidden : isShown node = false := by rw [← isSome_convertNode, hnone, Option.isSome_none]
      rw [hrest, outlineOf?_of_not_isShown hhidden]
      rfl

end

/-! ## Whole trees -/

/-- A piece becomes its only shown node, or a fragment of all that are shown. -/
theorem ofMarkup_cases (root : Markup.Root) :
    (∃ node, convertNodes root = [node] ∧ ofMarkup root = node) ∨
      (convertNodes root).length ≠ 1 ∧ ofMarkup root = .fragment (convertNodes root) := by
  unfold ofMarkup
  split
  · rename_i node hnode
    exact .inl ⟨node, hnode, rfl⟩
  · rename_i hmany
    refine .inr ⟨fun hone ↦ ?_, rfl⟩
    obtain ⟨node, hnode⟩ := List.length_eq_one_iff.mp hone
    exact hmany node hnode

/-- A converted node is never a fragment. -/
theorem ne_fragment_of_convertNodes {root : Markup.Root} {node : Node}
    (h : convertNodes root = [node]) (children : List Node) : node ≠ .fragment children := by
  rintro rfl
  have hmem : Node.fragment children ∈ subnodesAmong (convertNodes root) := by
    rw [h]
    exact List.mem_cons_self
  exact isConverted_of_mem_subnodesAmong root _ hmem

theorem readBack?_of_ne_fragment {node : Node} (h : ∀ children, node ≠ .fragment children) :
    node.readBack? = outlines? [node] := by
  cases node with
  | fragment children => exact absurd rfl (h children)
  | element | text | expression =>
    rw [Node.readBack?, outlines?, outlines?]
    · exact Option.map_eq_bind
    · intro children hfragment
      cases hfragment

theorem readBack?_ofMarkup_eq (root : Markup.Root) :
    (ofMarkup root).readBack? = outlines? (convertNodes root) := by
  obtain ⟨node, hnode, htree⟩ | ⟨-, htree⟩ := ofMarkup_cases root
  · rw [htree, hnode, readBack?_of_ne_fragment (ne_fragment_of_convertNodes hnode)]
  · rw [htree, Node.readBack?]

/-- A piece becomes a fragment unless exactly one of its nodes is shown. -/
theorem exists_fragment_iff (root : Markup.Root) :
    (∃ children, ofMarkup root = .fragment children) ↔ root.countP isShown ≠ 1 := by
  rw [← length_convertNodes]
  obtain ⟨node, hnode, htree⟩ | ⟨hlength, htree⟩ := ofMarkup_cases root
  · rw [htree, hnode]
    exact iff_of_false (not_exists.mpr (ne_fragment_of_convertNodes hnode)) fun h ↦ h rfl
  · exact iff_of_true ⟨_, htree⟩ hlength

/-- Below the top of a tree there are converted nodes only. -/
theorem cases_of_mem_subnodes {root : Markup.Root} {sub : Node}
    (h : sub ∈ (ofMarkup root).subnodes) : (∃ children, sub = .fragment children) ∨
      sub.IsConverted := by
  have hconverted := isConverted_of_mem_subnodesAmong root
  obtain ⟨node, hnode, htree⟩ | ⟨-, htree⟩ := ofMarkup_cases root
  · rw [htree] at h
    rw [hnode, subnodesAmong, subnodesAmong, List.append_nil] at hconverted
    exact .inr (hconverted sub h)
  · rw [htree] at h
    obtain rfl | hsub := List.mem_cons.mp h
    · exact .inl ⟨_, rfl⟩
    · exact .inr (hconverted sub hsub)

/-- No script is left in a JSX tree under its own name. -/
theorem script_not_mem_elementNames (root : Markup.Root) :
    "script" ∉ (ofMarkup root).elementNames := by
  intro hmem
  obtain ⟨sub, hsub, hname⟩ := List.mem_filterMap.mp hmem
  cases sub with
  | element name attributes children selfClosing =>
    obtain rfl := Option.some.inj hname
    obtain ⟨_, hfragment⟩ | hconverted := cases_of_mem_subnodes hsub
    · cases hfragment
    · exact hconverted rfl
  | fragment | text | expression => cases hname

/-- The JSX of a piece of markup without elements called like the runtime component shows what the
markup shows, in the same order at every depth. It holds no script element, and it is a fragment
exactly if the number of top-level nodes that are shown is not one. -/
theorem readBack?_ofMarkup {root : Markup.Root} (h : scriptComponent ∉ tagsAmong root) :
    (ofMarkup root).readBack? = some (outlinesOf root) ∧
      "script" ∉ (ofMarkup root).elementNames ∧
      ((∃ children, ofMarkup root = .fragment children) ↔ root.countP isShown ≠ 1) := by
  refine ⟨?_, script_not_mem_elementNames root, exists_fragment_iff root⟩
  rw [readBack?_ofMarkup_eq, outlines?_convertNodes h]

/-- A piece with a comment, texts of both kinds and scripts at two depths, of which the inner one
has a child. -/
def scriptedMarkup : Markup.Root :=
  [.doctype "html",
    .element "div" .empty
      [.text "a", .comment "hidden", .text "1 < 2",
        .element "script" (.ofList [("src", .text "x.js")]) [.text "a && b", .comment "kept"]],
    .comment "hidden"]

/-- One node is left at the top, with its texts as they were and the script as its markup. -/
theorem readBack?_scriptedMarkup :
    scriptComponent ∉ tagsAmong scriptedMarkup ∧
      (ofMarkup scriptedMarkup).readBack? =
        some [.element "div" [.text "a", .text "1 < 2",
          .script "<script src=\"x.js\">a && b<!--kept--></script>"]] ∧
      ¬ ∃ children, ofMarkup scriptedMarkup = .fragment children := by
  have htags : scriptComponent ∉ tagsAmong scriptedMarkup := by decide
  obtain ⟨hread, -, hfragment⟩ := readBack?_ofMarkup htags
  refine ⟨htags, hread.trans ?_, fun h ↦ hfragment.mp h rfl⟩
  rfl

end MarkupIslands.Jsx
