import MarkupIslands.Island.Dependencies
import MarkupIslands.Jsx.Print
import MarkupIslands.Proofs.Text.Search

/-!
# What sets off the script marker

Written JSX is searched for the start of the runtime component. A relocated script writes it, but
the writer also takes texts over from the tree: names, values, declarations of inline styles and
texts between tags. The marker is found exactly if a script was relocated or one of these texts
spells it by itself. It never arises from two texts together.
-/

namespace MarkupIslands.Island

open MarkupIslands.Jsx MarkupIslands.Text

/-! ## What the writer takes over -/

/-- The texts that the JSX of a property takes over. -/
def propertyPieces (name : String) : Markup.PropertyValue → List (List Char)
  | .switch false => []
  | .switch true => [(attributeName name).toList]
  | .text value => (attributeName name).toList ::
      if name.toLower = "style" then
        ((Style.declarations value.toList).filterMap Style.entry?).flatMap fun (name, value) ↦
          [Style.key name, value]
      else [value.toList]

mutual

/-- The texts that the JSX of a markup node takes over, a tag with its bracket. -/
def pieces : Markup.Node → List (List Char)
  | .element tag properties children =>
    ('<' :: tag.toList) ::
      properties.entries.flatMap (fun (name, value) ↦ propertyPieces name value) ++
        piecesOfNodes children
  | .text value => [value.toList]
  | .comment _ | .doctype _ => []

def piecesOfNodes : List Markup.Node → List (List Char)
  | [] => []
  | node :: rest => pieces node ++ piecesOfNodes rest

end

mutual

def hasScript : Markup.Node → Bool
  | .element tag _ children => tag = "script" || hasScriptAmong children
  | .text _ | .comment _ | .doctype _ => false

def hasScriptAmong : List Markup.Node → Bool
  | [] => false
  | node :: rest => hasScript node || hasScriptAmong rest

end

/-! ## The marker in written attributes -/

def marker : List Char := ['<', 'S', 'c', 'r', 'i', 'p', 't']

theorem toList_scriptMarker : scriptMarker.toList = marker := by
  simp [scriptMarker, scriptComponent, marker]

@[simp]
theorem holds_marker_nil : holds marker [] = false := rfl

/-- No character of the marker has another written form, so a literal holds it exactly if its text
does. -/
theorem escape_of_mem_marker {c : Char} (hc : c ∈ marker) : escape c = [c] := by
  simp only [marker, List.mem_cons, List.not_mem_nil, or_false] at hc
  rcases hc with rfl | rfl | rfl | rfl | rfl | rfl | rfl <;> rfl

theorem holds_marker_quoteChars (text : List Char) :
    holds marker (quoteChars text) = holds marker text :=
  holds_quoteChars (fun _ ↦ escape_of_mem_marker) text

/-- The marker does not stand across a character that it does not have. -/
theorem holds_marker_append_cons {c : Char} (hc : c ∉ marker) (text rest : List Char) :
    holds marker (text ++ c :: rest) = (holds marker text || holds marker rest) :=
  holds_append_cons hc text rest

theorem holds_marker_cons {c : Char} (hc : c ∉ marker) (rest : List Char) :
    holds marker (c :: rest) = holds marker rest :=
  holds_cons (List.cons_ne_nil _ _) hc rest

theorem holds_marker_objectSource (entries : List (List Char)) :
    holds marker (Style.objectSource entries) = entries.any (holds marker) := by
  unfold Style.objectSource
  split
  · rename_i hempty
    rw [List.isEmpty_iff.mp hempty]
    decide
  · rw [List.cons_append, List.cons_append, holds_marker_cons (by decide),
      holds_marker_cons (by decide), holds_marker_append_cons (by decide),
      holds_intercalate (by decide) (by decide) (by decide)]
    exact Bool.or_false _

/-- Quotes around a key do not make or hide a marker. -/
theorem holds_marker_keySource (name : List Char) :
    holds marker (Style.keySource name) = holds marker (Style.key name) := by
  unfold Style.keySource
  split
  · rfl
  · exact holds_marker_quoteChars _

theorem holds_marker_source (style : List Char) :
    holds marker (Style.source style) =
      ((Style.declarations style).filterMap Style.entry?).any fun (name, value) ↦
        holds marker (Style.key name) || holds marker value := by
  rw [Style.source, holds_marker_objectSource, List.any_map]
  congr 1
  funext ⟨name, value⟩
  rw [Function.comp_apply, holds_marker_append_cons (by decide), holds_marker_cons (by decide),
    holds_marker_keySource, holds_marker_quoteChars]

def valueHoldsMarker : AttributeValue → Bool
  | .bare => false
  | .text value => holds marker value.toList
  | .expression source => holds marker source.toList

/-- Whether the marker stands in the name or in the value of a converted property. -/
def propertyHoldsMarker : String × AttributeValue → Bool
  | (name, value) => holds marker name.toList || valueHoldsMarker value

/-- It makes no difference to the marker whether a property is spelled or spread. -/
theorem holds_marker_spreadEntry (name : String) (value : AttributeValue) :
    holds marker (spreadEntry name value) = propertyHoldsMarker (name, value) := by
  unfold spreadEntry propertyHoldsMarker
  rw [holds_marker_append_cons (by decide), holds_marker_cons (by decide),
    holds_marker_quoteChars]
  cases value with
  | bare => rfl
  | text value => rw [holds_marker_quoteChars]; rfl
  | expression source => rfl

theorem holds_marker_named (name : String) (value : AttributeValue) :
    holds marker (writeAttribute (.named name value)) = propertyHoldsMarker (name, value) := by
  cases value <;>
    simp (disch := decide) only [writeAttribute, List.cons_append, List.append_assoc,
      holds_marker_cons, holds_marker_append_cons, holds_marker_nil, propertyHoldsMarker,
      valueHoldsMarker, Bool.or_false]

theorem holds_marker_spread (object : String) :
    holds marker (writeAttribute (.spread object)) = holds marker object.toList := by
  simp (disch := decide) only [writeAttribute, List.cons_append, holds_marker_cons,
    holds_marker_append_cons, holds_marker_nil, Bool.or_false]

/-- Written attributes begin with a blank. -/
theorem head_attributes (attrs : List Attribute) {rest : List Char}
    (hrest : ∀ c, rest.head? = some c → c ∉ marker) :
    ∀ c, (attrs.flatMap writeAttribute ++ rest).head? = some c → c ∉ marker := by
  intro c hc
  cases attrs with
  | nil => exact hrest c hc
  | cons attr attrs =>
    obtain ⟨text, htext⟩ := exists_writeAttribute_eq attr
    rw [List.flatMap_cons, htext] at hc
    obtain rfl : ' ' = c := Option.some.inj hc
    decide

/-- The marker does not run from one written attribute into the next. -/
theorem holds_marker_attributes (attrs : List Attribute) {rest : List Char}
    (hrest : ∀ c, rest.head? = some c → c ∉ marker) :
    holds marker (attrs.flatMap writeAttribute ++ rest) =
      (attrs.any (holds marker ∘ writeAttribute) || holds marker rest) := by
  induction attrs with
  | nil => rw [List.flatMap_nil, List.nil_append, List.any_nil, Bool.false_or]
  | cons attr attrs ih =>
    rw [List.flatMap_cons, List.append_assoc,
      holds_append_of_head (by decide) (head_attributes attrs hrest), ih, List.any_cons,
      Bool.or_assoc, Function.comp_apply]

/-- The marker stands in a converted property exactly if it stands in a text taken over from it. -/
theorem any_convertProperty (name : String) (value : Markup.PropertyValue) :
    (convertProperty name value).any propertyHoldsMarker =
      (propertyPieces name value).any (holds marker) := by
  unfold convertProperty propertyPieces
  split
  · rfl
  · simp [propertyHoldsMarker, valueHoldsMarker]
  · split
    · simp [propertyHoldsMarker, valueHoldsMarker, holds_marker_source, List.any_flatMap]
    · split
      · rename_i h
        have hempty : _ = "" := String.isEmpty_iff.mp (Bool.and_eq_true_iff.mp h).1
        simp [propertyHoldsMarker, valueHoldsMarker, hempty]
      · split <;> simp [propertyHoldsMarker, valueHoldsMarker, holds_marker_quoteChars]

theorem any_named (spelled : List (String × AttributeValue)) :
    (spelled.map fun (name, value) ↦ Attribute.named name value).any
      (holds marker ∘ writeAttribute) = spelled.any propertyHoldsMarker := by
  rw [List.any_map]
  exact congrArg spelled.any (funext fun (name, value) ↦ holds_marker_named name value)

theorem any_spread (others : List (String × AttributeValue)) :
    (if others.isEmpty then []
      else [Attribute.spread (String.ofList (Style.objectSource
        (others.map fun (name, value) ↦ spreadEntry name value)))]).any
      (holds marker ∘ writeAttribute) = others.any propertyHoldsMarker := by
  cases others with
  | nil => rfl
  | cons other others =>
    rw [List.isEmpty_cons, if_neg Bool.false_ne_true, List.any_cons, List.any_nil,
      Bool.or_false, Function.comp_apply, holds_marker_spread, String.toList_ofList,
      holds_marker_objectSource, List.any_map]
    exact congrArg (List.any _) (funext fun (name, value) ↦ holds_marker_spreadEntry name value)

/-- Whether something is found does not depend on the order in which one looks. -/
theorem any_partition {α : Type} (p found : α → Bool) (items : List α) :
    ((items.partition p).1.any found || (items.partition p).2.any found) = items.any found := by
  rw [List.partition_eq_filter_filter, List.any_filter, List.any_filter]
  induction items with
  | nil => rfl
  | cons item items ih =>
    simp only [List.any_cons, ← ih]
    cases h : p item <;> simp [h, Bool.or_assoc, Bool.or_left_comm]

/-- The marker stands in the attributes of a converted element exactly if it stands in a text taken
over from its properties. -/
theorem holds_marker_convertProperties (properties : Markup.Properties) :
    (convertProperties properties).any (holds marker ∘ writeAttribute) =
      (properties.entries.flatMap fun (name, value) ↦ propertyPieces name value).any
        (holds marker) := by
  calc
    (convertProperties properties).any (holds marker ∘ writeAttribute) =
        (properties.entries.filterMap fun (name, value) ↦ convertProperty name value).any
          propertyHoldsMarker := by
      rw [← any_partition (fun property ↦ isSpellable property.1.toList) propertyHoldsMarker,
        ← any_named, ← any_spread, ← List.any_append]
      rfl
    _ = (properties.entries.flatMap fun (name, value) ↦ propertyPieces name value).any
        (holds marker) := by
      rw [List.any_filterMap, List.any_flatMap]
      refine congrArg (List.any _) (funext fun (name, value) ↦ ?_)
      rw [← any_convertProperty]
      dsimp only
      cases convertProperty name value <;> rfl

/-! ## The marker in written trees -/

/-- A relocated script spells the marker. -/
theorem holds_marker_relocatedScript (markup : String) (rest : List Char) :
    holds marker (writeNode (relocatedScript markup) ++ rest) = true := by
  rw [holds_iff_isInfix]
  exact ⟨[], _, rfl⟩

theorem holds_marker_tag (name : List Char) :
    (holds marker ('<' :: name) || holds marker name) = holds marker ('<' :: name) := by
  rw [holds, Bool.or_assoc, Bool.or_self]

theorem holds_marker_endTag (name rest : List Char) :
    holds marker ('<' :: '/' :: (name ++ '>' :: rest)) =
      (holds marker name || holds marker rest) := by
  calc
    holds marker (['<'] ++ '/' :: (name ++ '>' :: rest)) =
        (holds marker ['<'] || holds marker (name ++ '>' :: rest)) :=
      holds_marker_append_cons (by decide) _ _
    _ = (holds marker name || holds marker rest) := holds_marker_append_cons (by decide) _ _

/-- The marker stands in an element exactly if it stands in its name with the bracket, in an
attribute or between its tags. -/
theorem holds_marker_element (name : String) (attrs : List Attribute) (children : List Jsx.Node)
    (selfClosing : Bool) {inside : Bool}
    (hinside : ∀ rest, holds marker (writeNodes children ++ rest) = (inside || holds marker rest))
    (rest : List Char) :
    holds marker (writeNode (.element name attrs children selfClosing) ++ rest) =
      (holds marker ('<' :: name.toList) || attrs.any (holds marker ∘ writeAttribute) || inside ||
        holds marker rest) := by
  -- the end of the tag keeps its name and its attributes apart from everything behind them
  have htag (text : List Char) (hhead : ∀ c, text.head? = some c → c ∉ marker) :
      holds marker ('<' :: name.toList ++ attrs.flatMap writeAttribute ++ text) =
        (holds marker ('<' :: name.toList) || attrs.any (holds marker ∘ writeAttribute) ||
          holds marker text) := by
    rw [List.append_assoc, holds_append_of_head (by decide) (head_attributes attrs hhead),
      holds_marker_attributes attrs hhead, Bool.or_assoc]
  rw [writeNode, List.append_assoc]
  split
  · rename_i h
    have hnone : inside = false := by
      have hempty := hinside []
      rw [List.isEmpty_iff.mp (Bool.and_eq_true_iff.mp h).2] at hempty
      simpa [writeNodes] using hempty.symm
    rw [htag _ (by simp [marker]), hnone, Bool.or_false]
    simp (disch := decide) only [List.cons_append, List.nil_append, holds_marker_cons]
  · rw [htag _ (by simp [marker])]
    simp (disch := decide) only [List.cons_append, List.append_assoc, List.nil_append,
      holds_marker_cons, hinside, holds_marker_endTag]
    -- the name in the end tag finds nothing that the name in the tag does not find
    rw [← holds_marker_tag]
    ac_rfl

theorem holds_marker_text (value : String) (rest : List Char) :
    holds marker (writeNode
        (if needsExpression value then .expression (quote value) else .text value) ++ rest) =
      (holds marker value.toList || holds marker rest) := by
  split
  · simp (disch := decide) only [writeNode, toList_quote, List.cons_append, List.append_assoc,
      List.nil_append, holds_marker_cons, holds_marker_append_cons, holds_marker_quoteChars]
  · rename_i hplain
    have hbracket : '<' ∉ value.toList := by
      intro hmem
      refine hplain (List.any_eq_true.mpr ⟨'<', hmem, by decide⟩)
    rw [writeNode, marker, holds_append_of_not_mem hbracket, holds_eq_false_of_not_mem hbracket,
      Bool.false_or]

mutual

/-- The marker comes from a relocated script or from a text that the conversion takes over, and
never from the border of two of them. -/
theorem holds_marker_convertNode : ∀ (node : Markup.Node) (rest : List Char),
    holds marker ((convertNode node).toList.flatMap writeNode ++ rest) =
      (hasScript node || (pieces node).any (holds marker) || holds marker rest)
  | .element tag properties children, rest => by
    rw [convertNode]
    split
    · rename_i hscript
      simp [hasScript, hscript, holds_marker_relocatedScript]
    · rename_i hscript
      have hinside := holds_marker_convertNodes children
      simp only [Option.toList_some, List.flatMap_singleton,
        holds_marker_element _ _ _ _ hinside, holds_marker_convertProperties, hasScript, pieces,
        hscript, decide_false, Bool.false_or, List.cons_append, List.any_cons, List.any_append]
      ac_rfl
  | .text value, rest => by
    have htext := holds_marker_text value rest
    rw [convertNode, ← apply_ite some, Option.toList_some, List.flatMap_singleton, htext]
    simp [hasScript, pieces]
  | .comment _, rest => by simp [convertNode, hasScript, pieces]
  | .doctype _, rest => by simp [convertNode, hasScript, pieces]

theorem holds_marker_convertNodes : ∀ (nodes : List Markup.Node) (rest : List Char),
    holds marker (writeNodes (convertNodes nodes) ++ rest) =
      (hasScriptAmong nodes || (piecesOfNodes nodes).any (holds marker) || holds marker rest)
  | [], rest => by simp [convertNodes, writeNodes, hasScriptAmong, piecesOfNodes]
  | node :: nodes, rest => by
    rw [writeNodes_convertNodes_cons, List.append_assoc, holds_marker_convertNode node,
      holds_marker_convertNodes nodes, hasScriptAmong, piecesOfNodes, List.any_append]
    ac_rfl

end

theorem holds_marker_ofMarkup (root : Markup.Root) :
    holds marker (writeNode (ofMarkup root)) =
      (hasScriptAmong root || (piecesOfNodes root).any (holds marker)) := by
  unfold ofMarkup
  split
  · rename_i node hsingle
    simpa [hsingle, writeNodes] using holds_marker_convertNodes root []
  · calc
      holds marker (['<'] ++ '>' :: (writeNodes (convertNodes root) ++ ['<', '/', '>'])) =
          holds marker (writeNodes (convertNodes root) ++ ['<', '/', '>']) :=
        holds_marker_append_cons (by decide) _ _
      _ = (hasScriptAmong root || (piecesOfNodes root).any (holds marker)) := by
        rw [holds_marker_convertNodes]
        exact Bool.or_false _

/-- The marker is found in the JSX of a piece of markup exactly if the markup holds a script or a
text that the writer takes over spells the marker. So it tells whether there is a script exactly
for the pieces of markup where such a text does not come without a script. -/
theorem needsScriptRuntime_sourceOfMarkup_iff (root : Markup.Root) :
    (needsScriptRuntime (sourceOfMarkup root) ↔
      hasScriptAmong root ∨ ∃ piece ∈ piecesOfNodes root, scriptMarker.toList <:+: piece) ∧
    ((needsScriptRuntime (sourceOfMarkup root) ↔ hasScriptAmong root) ↔
      ((∃ piece ∈ piecesOfNodes root, scriptMarker.toList <:+: piece) →
        hasScriptAmong root)) := by
  have hfound : needsScriptRuntime (sourceOfMarkup root) ↔
      hasScriptAmong root ∨ ∃ piece ∈ piecesOfNodes root, scriptMarker.toList <:+: piece := by
    rw [needsScriptRuntime, contains, sourceOfMarkup, Node.toSource, String.toList_ofList,
      toList_scriptMarker, holds_marker_ofMarkup, Bool.or_eq_true, List.any_eq_true]
    simp only [holds_iff_isInfix]
  refine ⟨hfound, ?_⟩
  rw [hfound]
  exact ⟨fun h hspelled ↦ h.mp (.inr hspelled), fun h ↦ ⟨(·.elim id h), .inl⟩⟩

/-- A text that shows the runtime component sets off the marker without a script. -/
theorem needsScriptRuntime_without_script :
    ¬ (needsScriptRuntime (sourceOfMarkup [.element "p" .empty [.text "<Script>"]]) ↔
      hasScriptAmong [.element "p" .empty [.text "<Script>"]]) := by
  decide

end MarkupIslands.Island
