import MarkupIslands.Jsx.Print
import MarkupIslands.Markup.Edit
import MarkupIslands.Proofs.Markup.WriteHistory

/-!
# Elements after a sequence of edits

Edits are made one after the other, each on a whole list of elements. Every element comes out as if
the sequence had been made on it alone: its children are followed by the appended ones, and each
property holds what was last written to it. A property that was last switched off is left out of
both outputs, wherever the element stands.
-/

namespace MarkupIslands.Markup

/-! ## Nodes that are written alike -/

/-- Both outputs write two nodes alike. -/
structure Node.IsWrittenLike (node other : Node) : Prop where
  html : ∀ raw, Html.writeNode raw node = Html.writeNode raw other
  jsx : Jsx.convertNode node = Jsx.convertNode other

/-- An element around a node, with the siblings of the node. -/
structure Frame where
  tag : String
  properties : Properties
  before : List Node
  behind : List Node

/-- The element of a frame with a node in its place. -/
def Frame.around (frame : Frame) (node : Node) : Node :=
  .element frame.tag frame.properties (frame.before ++ node :: frame.behind)

/-- A node inside the given elements, from the inside out. -/
def Node.within (node : Node) (frames : List Frame) : Node :=
  frames.foldl (fun node frame ↦ frame.around node) node

/-- Whether both outputs of a tree are the same with either node, wherever in the tree it stands. -/
def Node.IsInterchangeable (node other : Node) : Prop :=
  ∀ (frames : List Frame) (before behind : List Node),
    Root.toHtml (before ++ node.within frames :: behind) =
        Root.toHtml (before ++ other.within frames :: behind) ∧
      Jsx.sourceOfMarkup (before ++ node.within frames :: behind) =
        Jsx.sourceOfMarkup (before ++ other.within frames :: behind)

/-- Elements of one name are written alike if their properties and their children are. -/
theorem Node.isWrittenLike_element {tag : String} {properties others : Properties}
    {children nodes : List Node}
    (hproperties : Html.writeProperties properties = Html.writeProperties others)
    (hattributes : Jsx.convertProperties properties = Jsx.convertProperties others)
    (hwritten : ∀ raw, Html.writeNodes raw children = Html.writeNodes raw nodes)
    (hconverted : Jsx.convertNodes children = Jsx.convertNodes nodes) :
    (Node.element tag properties children).IsWrittenLike (.element tag others nodes) := by
  have hhtml (raw : Bool) : Html.writeNode raw (.element tag properties children) =
      Html.writeNode raw (.element tag others nodes) := by
    rw [Html.writeNode, Html.writeNode, hproperties, hwritten]
  -- a script goes over into the other output with its whole markup
  have hscript : (Node.element tag properties children).toHtml =
      (Node.element tag others nodes).toHtml := congrArg String.ofList (hhtml false)
  refine ⟨hhtml, ?_⟩
  rw [Jsx.convertNode, Jsx.convertNode, hscript, hattributes, hconverted]

namespace Node.IsWrittenLike

variable {node other : Node}

theorem writeNodes_eq (h : node.IsWrittenLike other) (raw : Bool) (before behind : List Node) :
    Html.writeNodes raw (before ++ node :: behind) =
      Html.writeNodes raw (before ++ other :: behind) := by
  rw [Html.writeNodes_append, Html.writeNodes_append, Html.writeNodes, Html.writeNodes, h.html]

theorem convertNodes_eq (h : node.IsWrittenLike other) (before behind : List Node) :
    Jsx.convertNodes (before ++ node :: behind) = Jsx.convertNodes (before ++ other :: behind) := by
  rw [Jsx.convertNodes_eq_filterMap, Jsx.convertNodes_eq_filterMap, List.filterMap_append,
    List.filterMap_append, List.filterMap_cons, List.filterMap_cons, h.jsx]

theorem around (h : node.IsWrittenLike other) (frame : Frame) :
    (frame.around node).IsWrittenLike (frame.around other) := by
  apply isWrittenLike_element rfl rfl
  · intro raw
    exact h.writeNodes_eq raw frame.before frame.behind
  · exact h.convertNodes_eq frame.before frame.behind

/-- Written alike goes from a node to the tree around it, one frame at a time. -/
theorem within (h : node.IsWrittenLike other) (frames : List Frame) :
    (node.within frames).IsWrittenLike (other.within frames) := by
  induction frames generalizing node other with
  | nil => exact h
  | cons frame frames ih => exact ih (h.around frame)

/-- Nodes that are written alike can take each other's place in any tree. -/
theorem isInterchangeable (h : node.IsWrittenLike other) : node.IsInterchangeable other := by
  intro frames before behind
  have hwithin := h.within frames
  constructor
  · exact congrArg String.ofList (hwithin.writeNodes_eq false before behind)
  · rw [Jsx.sourceOfMarkup, Jsx.sourceOfMarkup, Jsx.ofMarkup, Jsx.ofMarkup,
      hwithin.convertNodes_eq]

end Node.IsWrittenLike

/-! ## Switches that are off -/

def Properties.without (properties : Properties) (name : String) : Properties where
  entries := properties.entries.filter (·.1 != name)
  nodup := properties.nodup.sublist (List.filter_sublist.map Prod.fst)

def Element.without (element : Element) (name : String) : Element :=
  { element with properties := element.properties.without name }

theorem flatMap_filter_of_forall {α : Type u} {β : Type v} {keeps : α → Bool} {write : α → List β}
    {items : List α} (h : ∀ item ∈ items, keeps item = false → write item = []) :
    (items.filter keeps).flatMap write = items.flatMap write := by
  induction items with
  | nil => rfl
  | cons item items ih =>
    obtain ⟨hitem, hitems⟩ := List.forall_mem_cons.mp h
    rw [List.filter_cons, List.flatMap_cons, ← ih hitems]
    cases hkeeps : keeps item with
    | true => rfl
    | false =>
      rw [hitem hkeeps]
      rfl

theorem filterMap_filter_of_forall {α : Type u} {β : Type v} {keeps : α → Bool}
    {convert : α → Option β} {items : List α}
    (h : ∀ item ∈ items, keeps item = false → convert item = none) :
    (items.filter keeps).filterMap convert = items.filterMap convert := by
  rw [List.filterMap_eq_flatMap_toList, List.filterMap_eq_flatMap_toList]
  apply flatMap_filter_of_forall
  intro item hitem hkeeps
  rw [h item hitem hkeeps]
  rfl

section Without

variable {properties : Properties} {name : String}

theorem eq_switch_of_mem (h : properties.get? name = some (.switch false))
    {entry : String × PropertyValue} (hentry : entry ∈ properties.entries)
    (hname : (entry.1 != name) = false) : entry = (name, .switch false) := by
  obtain ⟨other, value⟩ := entry
  obtain rfl : other = name := by simpa using hname
  rw [Properties.mem_entries_iff, h] at hentry
  rw [Option.some.inj hentry]

/-- A switch that is off can be left out of markup text. -/
theorem writeProperties_without (h : properties.get? name = some (.switch false)) :
    Html.writeProperties (properties.without name) = Html.writeProperties properties := by
  apply flatMap_filter_of_forall
  intro entry hentry hname
  rw [eq_switch_of_mem h hentry hname]
  rfl

/-- A switch that is off can be left out of JSX. -/
theorem convertProperties_without (h : properties.get? name = some (.switch false)) :
    Jsx.convertProperties (properties.without name) = Jsx.convertProperties properties := by
  have hentries : (properties.without name).entries =
      properties.entries.filter (·.1 != name) := rfl
  rw [Jsx.convertProperties, Jsx.convertProperties, hentries, filterMap_filter_of_forall]
  intro entry hentry hname
  rw [eq_switch_of_mem h hentry hname]
  rfl

/-- A property that is switched off might as well not be there. -/
theorem isWrittenLike_without {element : Element}
    (h : element.properties.get? name = some (.switch false)) :
    element.toNode.IsWrittenLike (element.without name).toNode := by
  have hproperties := writeProperties_without h
  have hattributes := convertProperties_without h
  exact Node.isWrittenLike_element hproperties.symm hattributes.symm (fun _ ↦ rfl) rfl

end Without

/-! ## Sequences of edits -/

namespace Edit

/-- What an edit writes: a switch that is on as an empty text, and a text or a class as one text. -/
inductive Writes : Edit → String → PropertyValue → Prop
  | switchOn (name : String) : Writes (.setSwitch name true) name (.text "")
  | switchOff (name : String) : Writes (.setSwitch name false) name (.switch false)
  | text (name value : String) : Writes (.setText name value) name (.text value)
  | className (value : String) : Writes (.setClass value) "class" (.text value)

theorem writes_iff {edit : Edit} {name : String} {value : PropertyValue} :
    edit.Writes name value ↔ edit.property? = some (name, value) := by
  constructor
  · intro h
    cases h <;> rfl
  · intro h
    cases edit with
    | setSwitch written isOn =>
      obtain ⟨rfl, rfl⟩ := Prod.mk.inj (Option.some.inj h)
      cases isOn with
      | false => exact .switchOff written
      | true => exact .switchOn written
    | setText written text =>
      obtain ⟨rfl, rfl⟩ := Prod.mk.inj (Option.some.inj h)
      exact .text written text
    | setClass text =>
      obtain ⟨rfl, rfl⟩ := Prod.mk.inj (Option.some.inj h)
      exact .className text
    | addText | addChild => cases h

/-- Whether a value is what the last of some edits that write a name writes under it. -/
def LastWrites (edits : List Edit) (name : String) (value : PropertyValue) : Prop :=
  ∃ before edit behind, edits = before ++ edit :: behind ∧ edit.Writes name value ∧
    ∀ later ∈ behind, ∀ other, ¬ later.Writes name other

/-- An element after a sequence of edits. -/
def applySequence (edits : List Edit) (element : Element) : Element :=
  edits.foldl (fun element edit ↦ edit.apply element) element

/-- A list of elements after a sequence of edits, each of which is made on the whole list. -/
def applySequenceToAll (edits : List Edit) (elements : List Element) : List Element :=
  edits.foldl (fun elements edit ↦ edit.applyAll elements) elements

/-- Editing all elements edit by edit is editing every element on its own. -/
theorem applySequenceToAll_eq_map (edits : List Edit) (elements : List Element) :
    applySequenceToAll edits elements = elements.map (applySequence edits) := by
  induction edits generalizing elements with
  | nil => exact (List.map_id elements).symm
  | cons edit edits ih =>
    calc
      applySequenceToAll (edit :: edits) elements =
          applySequenceToAll edits (elements.map edit.apply) := rfl
      _ = (elements.map edit.apply).map (applySequence edits) := ih _
      _ = elements.map (applySequence (edit :: edits)) := List.map_map

theorem tag_applySequence (edits : List Edit) (element : Element) :
    (applySequence edits element).tag = element.tag := by
  induction edits generalizing element with
  | nil => rfl
  | cons edit edits ih => exact (ih (edit.apply element)).trans (tag_apply edit element)

/-- Appended children stand behind the old ones in the order of the edits. -/
theorem children_applySequence (edits : List Edit) (element : Element) :
    (applySequence edits element).children = element.children ++ edits.filterMap child? := by
  rw [List.filterMap_eq_flatMap_toList]
  induction edits generalizing element with
  | nil => exact (List.append_nil _).symm
  | cons edit edits ih =>
    have hrest := ih (edit.apply element)
    rw [children_apply, List.append_assoc] at hrest
    exact hrest

theorem properties_apply (edit : Edit) (element : Element) :
    (edit.apply element).properties = element.properties.insertAll edit.property?.toList := by
  cases edit <;> rfl

/-- Making edits is making the writes that they stand for. -/
theorem properties_applySequence (edits : List Edit) (element : Element) :
    (applySequence edits element).properties =
      element.properties.insertAll (edits.filterMap property?) := by
  rw [List.filterMap_eq_flatMap_toList]
  induction edits generalizing element with
  | nil => rfl
  | cons edit edits ih =>
    have hrest := ih (edit.apply element)
    rw [properties_apply, ← Properties.insertAll_append] at hrest
    exact hrest

variable {edits : List Edit} {name : String} {value : PropertyValue}

theorem LastWrites.isLastWrite (h : LastWrites edits name value) :
    IsLastWrite (edits.filterMap property?) name value := by
  obtain ⟨before, edit, behind, rfl, hedit, hbehind⟩ := h
  refine ⟨before.filterMap property?, behind.filterMap property?, ?_, ?_⟩
  · rw [List.filterMap_append, List.filterMap_cons_some (writes_iff.mp hedit)]
  · intro hname
    obtain ⟨⟨other, written⟩, hwrite, rfl⟩ := List.mem_map.mp hname
    obtain ⟨later, hlater, hproperty⟩ := List.mem_filterMap.mp hwrite
    exact hbehind later hlater written (writes_iff.mpr hproperty)

theorem get?_applySequence (element : Element) (h : LastWrites edits name value) :
    (applySequence edits element).properties.get? name = some value := by
  have hlast := (lookup_reverse_eq_some_iff _ name value).mpr h.isLastWrite
  rw [properties_applySequence, (Properties.reflects_insertAll _ _).get?_eq, hlast, Option.some_or]

/-- What no edit writes stays as it was. -/
theorem get?_applySequence_of_not_writes (element : Element)
    (h : ∀ edit ∈ edits, ∀ value, ¬ edit.Writes name value) :
    (applySequence edits element).properties.get? name = element.properties.get? name := by
  have hname : name ∉ (edits.filterMap property?).map Prod.fst := by
    intro hmem
    obtain ⟨⟨other, written⟩, hwrite, rfl⟩ := List.mem_map.mp hmem
    obtain ⟨edit, hedit, hproperty⟩ := List.mem_filterMap.mp hwrite
    exact h edit hedit written (writes_iff.mpr hproperty)
  rw [properties_applySequence, (Properties.reflects_insertAll _ _).get?_eq,
    lookup_reverse_eq_none hname, Option.none_or]

/-- A sequence of edits on a list of elements is the same sequence on each of them alone. An element
keeps its name and its children, with the new children behind them in the order of the edits. A
property that is not written stays as it is, and one that is written holds what was last written to
it. If that is a switch that is off, both outputs are as if the element did not have the property,
wherever in a tree the element stands. -/
theorem applySequence_uniform (edits : List Edit) (elements : List Element) :
    applySequenceToAll edits elements = elements.map (applySequence edits) ∧
      ∀ element : Element,
        (applySequence edits element).tag = element.tag ∧
          (applySequence edits element).children =
            element.children ++ edits.filterMap child? ∧
          (∀ name, (∀ edit ∈ edits, ∀ value, ¬ edit.Writes name value) →
            (applySequence edits element).properties.get? name = element.properties.get? name) ∧
          (∀ name value, LastWrites edits name value →
            (applySequence edits element).properties.get? name = some value) ∧
          ∀ name, LastWrites edits name (.switch false) →
            (applySequence edits element).toNode.IsInterchangeable
              ((applySequence edits element).without name).toNode := by
  refine ⟨applySequenceToAll_eq_map edits elements, fun element ↦ ?_⟩
  refine ⟨tag_applySequence edits element, children_applySequence edits element, ?_, ?_, ?_⟩
  · intro name hname
    exact get?_applySequence_of_not_writes element hname
  · intro name value hlast
    exact get?_applySequence element hlast
  · intro name hlast
    exact (isWrittenLike_without (get?_applySequence element hlast)).isInterchangeable

def linkEdits : List Edit :=
  [.setText "class" "wide", .setSwitch "hidden" true, .addText "x", .setClass "narrow",
    .setSwitch "hidden" false, .addChild (.element "i" .empty [])]

def link : Element :=
  ⟨"a", .ofList [("id", .text "l"), ("hidden", .text "until-found")], [.text "old"]⟩

/-- The link has its last class and is not hidden. -/
theorem applySequence_linkEdits :
    (∀ edit ∈ linkEdits, ∀ value, ¬ edit.Writes "id" value) ∧
      (applySequence linkEdits link).properties.get? "id" = some (.text "l") ∧
      LastWrites linkEdits "class" (.text "narrow") ∧
      (applySequence linkEdits link).properties.get? "class" = some (.text "narrow") ∧
      LastWrites linkEdits "hidden" (.switch false) ∧
      Root.toHtml [(applySequence linkEdits link).toNode] =
        "<a id=\"l\" class=\"narrow\">oldx<i></i></a>" ∧
      Jsx.sourceOfMarkup [(applySequence linkEdits link).toNode] =
        "<a id=\"l\" className=\"narrow\">oldx<i></i></a>" := by
  obtain ⟨-, -, hkept, hwritten, hoff⟩ := (applySequence_uniform linkEdits [link]).2 link
  have hid : ∀ edit ∈ linkEdits, ∀ value, ¬ edit.Writes "id" value := by
    simp [linkEdits, writes_iff, property?]
  have hclass : LastWrites linkEdits "class" (.text "narrow") := by
    refine ⟨linkEdits.take 3, _, linkEdits.drop 4, rfl, .className "narrow", ?_⟩
    simp [linkEdits, writes_iff, property?]
  have hhidden : LastWrites linkEdits "hidden" (.switch false) := by
    refine ⟨linkEdits.take 4, _, linkEdits.drop 5, rfl, .switchOff "hidden", ?_⟩
    simp [linkEdits, writes_iff, property?]
  obtain ⟨hhtml, hjsx⟩ := hoff "hidden" hhidden [] [] []
  refine ⟨hid, ?_, hclass, hwritten "class" _ hclass, hhidden, ?_, ?_⟩
  · exact (hkept "id" hid).trans (by decide)
  · exact hhtml.trans (by decide +kernel)
  · exact hjsx.trans (by decide +kernel)

end Edit

end MarkupIslands.Markup
