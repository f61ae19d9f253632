import MarkupIslands.Markup.Html
import MarkupIslands.Proofs.Text.Merging

/-!
# What the text of a tree shows

Some differences between trees are not seen in their markup text: a switch that is off, an empty
text under a boolean name in place of a switch that is on, the children of a void element, an empty
document type name in place of the default one, and the way in which a text is cut into neighbouring
or empty texts. The shown form of a tree is the tree without these differences. It is written like
the tree itself.
-/

namespace MarkupIslands.Markup

open HasText (AreApart StandsApart areApart_prepend beginsWithText prepend)

/-! ## Properties -/

/-- What the text of a property shows of its value. -/
def PropertyValue.shown? (name : String) : PropertyValue → Option PropertyValue
  | .switch isOn => if isOn then some (.switch true) else none
  | .text value =>
    if value.isEmpty && isBooleanAttribute name then some (.switch true) else some (.text value)

/-- What the text of a property shows. -/
def shownProperty? (entry : String × PropertyValue) : Option (String × PropertyValue) :=
  (entry.2.shown? entry.1).map (entry.1, ·)

theorem fst_shownProperty? {entry shown : String × PropertyValue}
    (h : shownProperty? entry = some shown) : shown.1 = entry.1 := by
  obtain ⟨value, -, rfl⟩ := Option.map_eq_some_iff.mp h
  rfl

/-- Leaving out what is not seen keeps the order of the names. -/
theorem sublist_map_fst_filterMap_shownProperty? (entries : List (String × PropertyValue)) :
    ((entries.filterMap shownProperty?).map Prod.fst).Sublist (entries.map Prod.fst) := by
  induction entries with
  | nil => exact .slnil
  | cons entry entries ih =>
    rw [List.filterMap_cons]
    cases hshown : shownProperty? entry with
    | none => exact ih.cons entry.1
    | some shown =>
      rw [List.map_cons, List.map_cons, fst_shownProperty? hshown]
      exact ih.cons_cons entry.1

def Properties.shown (properties : Properties) : Properties where
  entries := properties.entries.filterMap shownProperty?
  nodup := properties.nodup.sublist (sublist_map_fst_filterMap_shownProperty? _)

/-- The shown form of a value shows itself. -/
theorem PropertyValue.shown?_shown? {name : String} {value shown : PropertyValue}
    (h : value.shown? name = some shown) : shown.shown? name = some shown := by
  cases value with
  | switch isOn =>
    cases isOn with
    | false => cases h
    | true =>
      obtain rfl := Option.some.inj h
      rfl
  | text value =>
    rw [PropertyValue.shown?] at h
    split at h
    · obtain rfl := Option.some.inj h
      rfl
    · rename_i hplain
      obtain rfl := Option.some.inj h
      rw [PropertyValue.shown?, if_neg hplain]

theorem shown?_of_mem_shown {properties : Properties} {entry : String × PropertyValue}
    (h : entry ∈ properties.shown.entries) : entry.2.shown? entry.1 = some entry.2 := by
  obtain ⟨original, -, horiginal⟩ := List.mem_filterMap.mp h
  obtain ⟨value, hvalue, rfl⟩ := Option.map_eq_some_iff.mp horiginal
  exact PropertyValue.shown?_shown? hvalue

theorem mem_names_of_mem_names_shown {properties : Properties} {name : String}
    (h : name ∈ properties.shown.names) : name ∈ properties.names :=
  (sublist_map_fst_filterMap_shownProperty? properties.entries).subset h

/-! ## Trees -/

def Node.text? : Node → Option String
  | .text value => some value
  | .element .. | .comment _ | .doctype _ => none

instance : HasText Node where
  text := .text
  text? := Node.text?
  text?_eq_some_iff {node value} := by cases node <;> simp [Node.text?]

mutual

/-- The tree that is seen in the text of a node. -/
def Node.shown : Node → Node
  | .element tag properties children =>
    .element tag properties.shown (if isVoid tag then [] else shownAmong children)
  | .text value => .text value
  | .comment value => .comment value
  | .doctype name => .doctype (if name.isEmpty then "html" else name)

def shownAmong : List Node → List Node
  | [] => []
  | node :: rest => prepend node.shown (shownAmong rest)

end

/-! ## The shown form is written like the tree -/

namespace Html

def writeEntries (entries : List (String × PropertyValue)) : List Char :=
  entries.flatMap fun entry ↦ writeProperty entry.1 entry.2

/-- A property is written like what is seen of it. -/
theorem writeProperty_shown (name : String) (value : PropertyValue) :
    ((value.shown? name).elim [] (writeProperty name)) = writeProperty name value := by
  cases value with
  | switch isOn => cases isOn <;> rfl
  | text value =>
    rw [PropertyValue.shown?]
    split
    · rename_i hbare
      rw [Option.elim_some, writeProperty, writeProperty, if_pos hbare]
    · rfl

theorem writeProperties_shown (properties : Properties) :
    writeProperties properties.shown = writeProperties properties := by
  unfold writeProperties Properties.shown
  dsimp only
  induction properties.entries with
  | nil => rfl
  | cons entry entries ih =>
    rw [List.flatMap_cons, ← writeProperty_shown, List.filterMap_cons, shownProperty?]
    cases entry.2.shown? entry.1 with
    | none => exact ih
    | some shown => rw [Option.map_some, List.flatMap_cons, ih, Option.elim_some]

theorem writeDoctype_shown (name : String) :
    writeDoctype (if name.isEmpty then "html" else name) = writeDoctype name := by
  by_cases h : name.isEmpty
  · obtain rfl := String.isEmpty_iff.mp h
    rfl
  · rw [if_neg h]

theorem writeNodes_prepend (raw : Bool) (node : Node) (nodes : List Node) :
    writeNodes raw (prepend node nodes) = writeNode raw node ++ writeNodes raw nodes := by
  rw [writeNodes_eq_flatMap, writeNodes_eq_flatMap]
  apply HasText.flatMap_prepend
  · cases raw <;> rfl
  · intro value next
    cases raw <;> simp [HasText.text, writeNode]

mutual

/-- The shown form of a node is written like the node itself. -/
theorem writeNode_shown (raw : Bool) : ∀ node : Node, writeNode raw node.shown = writeNode raw node
  | .element tag properties children => by
    rw [Node.shown, writeNode, writeNode, writeProperties_shown]
    by_cases hvoid : isVoid tag
    · rw [if_pos hvoid, if_pos hvoid]
    · rw [if_neg hvoid, if_neg hvoid, if_neg hvoid, writeNodes_shownAmong]
  | .text _ | .comment _ => rfl
  | .doctype name => writeDoctype_shown name

theorem writeNodes_shownAmong (raw : Bool) : ∀ nodes : List Node,
    writeNodes raw (shownAmong nodes) = writeNodes raw nodes
  | [] => rfl
  | node :: nodes => by
    rw [shownAmong, writeNodes_prepend, writeNode_shown, writeNodes_shownAmong, writeNodes]

end

end Html

/-! ## Reduced trees -/

mutual

/-- Nothing in the tree is hidden from its text, and no text stands next to another one. -/
def Node.IsReduced : Node → Prop
  | .element tag properties children =>
    (∀ entry ∈ properties.entries, entry.2.shown? entry.1 = some entry.2) ∧
      (isVoid tag → children = []) ∧ AreReduced children
  | .text _ | .comment _ => True
  | .doctype name => name ≠ ""

def AreReduced : List Node → Prop
  | [] => True
  | node :: rest => node.IsReduced ∧ AreReduced rest ∧ StandsApart node rest

end

theorem areReduced_iff {nodes : List Node} :
    AreReduced nodes ↔ (∀ node ∈ nodes, node.IsReduced) ∧ AreApart nodes := by
  induction nodes with
  | nil => simp [AreReduced, AreApart]
  | cons node rest ih =>
    rw [AreReduced, ih, List.forall_mem_cons, AreApart]
    tauto

theorem areReduced_prepend {node : Node} {nodes : List Node} (hnode : node.IsReduced)
    (hnodes : AreReduced nodes) : AreReduced (prepend node nodes) := by
  obtain ⟨hreduced, hapart⟩ := areReduced_iff.mp hnodes
  apply areReduced_iff.mpr
  constructor
  · exact HasText.forall_mem_prepend (fun _ _ _ _ ↦ trivial) hnode hreduced
  · exact areApart_prepend node hapart

mutual

/-- Nothing of what is seen is hidden. -/
theorem isReduced_shown : ∀ node : Node, node.shown.IsReduced
  | .element tag properties children => by
    refine ⟨fun entry hentry ↦ shown?_of_mem_shown hentry, fun hvoid ↦ if_pos hvoid, ?_⟩
    split
    · trivial
    · exact areReduced_shownAmong children
  | .text _ | .comment _ => trivial
  | .doctype name => by
    rw [Node.shown, Node.IsReduced]
    split
    · decide
    · rename_i hname
      rintro rfl
      exact hname rfl

theorem areReduced_shownAmong : ∀ nodes : List Node, AreReduced (shownAmong nodes)
  | [] => trivial
  | node :: nodes => areReduced_prepend (isReduced_shown node) (areReduced_shownAmong nodes)

end

end MarkupIslands.Markup
