import MarkupIslands.Proofs.Jsx.Attributes
import MarkupIslands.Proofs.Jsx.MergedText

/-!
# Readable trees

The JSX trees whose sources can be read back. Merging their texts keeps them readable and does not
change what is written, and the conversion of markup with ordinary element names makes no others.
-/

namespace MarkupIslands.Jsx

open MarkupIslands.Text

/-! ## Trees that can be read back -/

def isTagPart (c : Char) : Bool :=
  c.isAlphanum || c == '-' || c == '_' || c == '.' || c == ':'

/-- Whether a text is an ordinary element name: a letter with letters, digits, dashes, underscores,
dots and colons behind it. -/
def isTagName : List Char → Bool
  | [] => false
  | c :: rest => c.isAlpha && rest.all isTagPart

theorem exists_eq_cons_of_isTagName {name : List Char} (h : isTagName name) :
    ∃ c rest, name = c :: rest ∧ c.isAlpha := by
  cases name with
  | nil => exact absurd h Bool.false_ne_true
  | cons c rest => exact ⟨c, rest, rfl, (Bool.and_eq_true_iff.mp h).1⟩

theorem isTagPart_of_isTagName {name : List Char} (h : isTagName name) :
    ∀ c ∈ name, isTagPart c := by
  cases name with
  | nil => exact fun _ hmem ↦ absurd hmem List.not_mem_nil
  | cons c rest =>
    obtain ⟨hstart, hrest⟩ := Bool.and_eq_true_iff.mp h
    refine List.forall_mem_cons.mpr ⟨?_, List.all_eq_true.mp hrest⟩
    simp [isTagPart, Char.isAlphanum, hstart]

mutual

/-- The nodes that can be read back. An element closes itself exactly if its name is that of a void
element, and then it has no children. -/
def Node.IsReadable : Node → Prop
  | .element name attributes children selfClosing =>
    isTagName name.toList ∧ (∀ attr ∈ attributes, attr.IsReadable) ∧
      selfClosing = Markup.isVoid name ∧ (selfClosing → children = []) ∧ AreReadable children
  | .fragment children => AreReadable children
  | .text value => needsExpression value = false
  | .expression source => source.toList ∈ expressions

def AreReadable : List Node → Prop
  | [] => True
  | node :: rest => node.IsReadable ∧ AreReadable rest

end

theorem areReadable_iff {nodes : List Node} :
    AreReadable nodes ↔ ∀ node ∈ nodes, node.IsReadable := by
  induction nodes with
  | nil => simp [AreReadable]
  | cons node rest ih => rw [AreReadable, ih, List.forall_mem_cons]

theorem isReadable_text_append {value next : String} (hvalue : (Node.text value).IsReadable)
    (hnext : (Node.text next).IsReadable) : (Node.text (value ++ next)).IsReadable := by
  rw [Node.IsReadable, needsExpression, String.toList_append, List.any_append]
  exact Bool.or_eq_false_iff.mpr ⟨hvalue, hnext⟩

theorem areReadable_prepend {node : Node} {nodes : List Node} (hnode : node.IsReadable)
    (hnodes : AreReadable nodes) : AreReadable (HasText.prepend node nodes) := by
  rw [areReadable_iff] at hnodes ⊢
  exact HasText.forall_mem_prepend (fun _ _ ↦ isReadable_text_append) hnode hnodes

mutual

/-- Merging texts keeps a tree readable. -/
theorem isReadable_mergeTexts : ∀ {node : Node}, node.IsReadable → node.mergeTexts.IsReadable
  | .element .., ⟨hname, hattrs, hvoid, hempty, hchildren⟩ =>
    ⟨hname, hattrs, hvoid, fun h ↦ by rw [hempty h, mergeTextsIn],
      areReadable_mergeTextsIn hchildren⟩
  | .fragment _, h => areReadable_mergeTextsIn h
  | .text _, h | .expression _, h => h

theorem areReadable_mergeTextsIn : ∀ {nodes : List Node}, AreReadable nodes →
    AreReadable (mergeTextsIn nodes)
  | [], _ => trivial
  | _ :: _, ⟨hnode, hrest⟩ =>
    areReadable_prepend (isReadable_mergeTexts hnode) (areReadable_mergeTextsIn hrest)

end

mutual

/-- Merging texts does not change what is written. -/
theorem writeNode_mergeTexts : ∀ {node : Node}, node.IsReadable →
    writeNode node.mergeTexts = writeNode node
  | .element _ _ _ selfClosing, ⟨_, _, _, hempty, hchildren⟩ => by
    rw [Node.mergeTexts, writeNode, writeNode, writeNodes_mergeTextsIn hchildren]
    cases selfClosing with
    | false => rfl
    | true => rw [hempty rfl, mergeTextsIn]
  | .fragment _, h => by
    rw [Node.mergeTexts, writeNode, writeNode, writeNodes_mergeTextsIn h]
  | .text _, _ | .expression _, _ => rfl

theorem writeNodes_mergeTextsIn : ∀ {nodes : List Node}, AreReadable nodes →
    writeNodes (mergeTextsIn nodes) = writeNodes nodes
  | [], _ => rfl
  | _ :: _, ⟨hnode, hrest⟩ => by
    rw [mergeTextsIn, writeNodes_prepend, writeNode_mergeTexts hnode,
      writeNodes_mergeTextsIn hrest, writeNodes]

end

/-! ## Converted markup -/

mutual

/-- Whether all elements of a markup node have ordinary names, and the void ones no children. -/
def isOrdinary : Markup.Node → Bool
  | .element tag _ children =>
    isTagName tag.toList && (!Markup.isVoid tag || children.isEmpty) && areOrdinary children
  | .text _ | .comment _ | .doctype _ => true

def areOrdinary : List Markup.Node → Bool
  | [] => true
  | node :: rest => isOrdinary node && areOrdinary rest

end

theorem isReadable_relocatedScript (markup : String) : (relocatedScript markup).IsReadable := by
  have hattr : (Attribute.named "html" (.expression (quote markup))).IsReadable :=
    ⟨by decide, quote_mem_expressions markup⟩
  exact ⟨by decide, List.forall_mem_singleton.mpr hattr, by decide, fun _ ↦ rfl, trivial⟩

mutual

/-- Markup with ordinary names becomes a tree that can be read back. -/
theorem isReadable_of_convertNode : ∀ {node : Markup.Node} {converted : Node}, isOrdinary node →
    convertNode node = some converted → converted.IsReadable
  | .element tag properties children, converted, h, hconverted => by
    rw [convertNode] at hconverted
    split at hconverted
    · obtain rfl := Option.some.inj hconverted
      exact isReadable_relocatedScript _
    · obtain rfl := Option.some.inj hconverted
      simp only [isOrdinary, Bool.and_eq_true, Bool.or_eq_true, Bool.not_eq_true'] at h
      obtain ⟨⟨hname, hvoid⟩, hchildren⟩ := h
      refine ⟨hname, fun _ ↦ isReadable_of_mem_convertProperties, rfl, fun hclosing ↦ ?_,
        areReadable_convertNodes hchildren⟩
      have hempty := hvoid.resolve_left (by simp [hclosing])
      rw [List.isEmpty_iff.mp hempty, convertNodes]
  | .text value, converted, _, hconverted => by
    rw [convertNode] at hconverted
    split at hconverted
    · obtain rfl := Option.some.inj hconverted
      exact quote_mem_expressions value
    · rename_i hplain
      obtain rfl := Option.some.inj hconverted
      exact Bool.eq_false_iff.mpr hplain
  | .comment _, _, _, hconverted | .doctype _, _, _, hconverted => by
    cases hconverted

theorem areReadable_convertNodes : ∀ {nodes : List Markup.Node}, areOrdinary nodes →
    AreReadable (convertNodes nodes)
  | [], _ => trivial
  | node :: nodes, h => by
    obtain ⟨hnode, hnodes⟩ := Bool.and_eq_true_iff.mp h
    rw [convertNodes]
    split
    · rename_i converted hconverted
      exact ⟨isReadable_of_convertNode hnode hconverted, areReadable_convertNodes hnodes⟩
    · exact areReadable_convertNodes hnodes

end

theorem isReadable_ofMarkup {root : Markup.Root} (h : areOrdinary root) :
    (ofMarkup root).IsReadable := by
  have hnodes := areReadable_convertNodes h
  unfold ofMarkup
  split
  · rename_i node hnode
    rw [hnode] at hnodes
    exact hnodes.1
  · exact hnodes

end MarkupIslands.Jsx
