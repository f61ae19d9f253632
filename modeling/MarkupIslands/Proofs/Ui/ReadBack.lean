import MarkupIslands.Proofs.Ui.NodeReading
import MarkupIslands.Proofs.Ui.OutermostIslands

/-!
# Reading back what was written

A node reads back if reading what it is written as gives the node again. Whatever has been read
reads back, although reading puts other forms of a node into one form and keeps what it cannot read;
and so does a tree in which other elements that read back have taken the places of its islands.
-/

namespace MarkupIslands.Ui

/-! ## Values -/

theorem map_textContent?_eq_some_iff {α : Type} {make : String → α} {json : Json} {a : α} :
    (textContent? json).map make = some a ↔ ∃ text, json = .text text ∧ make text = a := by
  cases json <;> simp [textContent?]

namespace Value

/-- Reading what the value is written as gives the value. -/
def ReadsBack (value : Value) : Prop := ofJson value.toJson = value

theorem toJson_of_ofContent? {kind : String} {content : Json} {value : Value}
    (h : ofContent? kind content = some value) : value.toJson = tagged kind content := by
  unfold ofContent? at h
  split at h <;> grind [toJson, map_textContent?_eq_some_iff]

/-- A value is kept as received, or it is written with the kind and the content it was read from. -/
theorem ofJson_cases (json : Json) :
    ofJson json = .other json ∨ ∃ kind content, tagged? kinds json = some (kind, content) ∧
      ofContent? kind content = some (ofJson json) := by
  unfold ofJson
  cases htag : tagged? kinds json with
  | none => exact .inl rfl
  | some tag =>
    cases hvalue : ofContent? tag.1 tag.2 with
    | none => exact .inl (by simp [hvalue])
    | some value => exact .inr ⟨tag.1, tag.2, rfl, by simp [hvalue]⟩

theorem readsBack_ofJson (json : Json) : (ofJson json).ReadsBack := by
  rcases ofJson_cases json with hother | ⟨kind, content, -, hvalue⟩
  · rw [ReadsBack, hother]
    exact hother
  · rw [ReadsBack, toJson_of_ofContent? hvalue, ofJson]
    simp [hvalue]

end Value

/-! ## Nodes -/

def Node.ReadsBack (node : Node) : Prop := nodeOfJson node.toJson = node

theorem toJson_of_leafOf? {kind : String} {content : Json} {node : Node}
    (h : leafOf? kind content = some node) : node.toJson = tagged kind content := by
  unfold leafOf? at h
  split at h <;> grind [Node.toJson, map_textContent?_eq_some_iff]

theorem nodeOfContent_of_leafOf? {kind : String} {content : Json} {node : Node}
    (h : leafOf? kind content = some node) : nodeOfContent kind content = some node := by
  have hkind : kind ≠ "element" ∧ kind ≠ "slot" ∧ wrapper? kind = none := by
    unfold leafOf? at h
    split at h <;> simp_all [wrapper?]
  obtain ⟨helement, hslot, hwrapper⟩ := hkind
  cases content <;> simpa [nodeOfContent, helement, hslot, hwrapper] using h

theorem readsBack_of_leafOf? {kind : String} {content : Json} {node : Node}
    (h : leafOf? kind content = some node) : node.ReadsBack := by
  rw [Node.ReadsBack, toJson_of_leafOf? h, nodeOfJson_tagged, nodeOfContent_of_leafOf? h,
    Option.getD_some]

def ElementOf.fields (element : Element) : List (String × Json) :=
  ("elementType", .text element.elementType) :: Json.member "name" (element.name.map .text) ++
    Json.member "attrs" (element.attrs.map valuesToJson) ++
    Json.member "style" (element.style.map valuesToJson) ++
    Json.member "children" (element.children.map fun nodes ↦ .array (nodes.map Node.toJson))

theorem nodesToJson_eq_map (nodes : List Node) : nodesToJson nodes = nodes.map Node.toJson := by
  induction nodes with
  | nil => rfl
  | cons node rest ih => rw [nodesToJson, ih, List.map_cons]

theorem elementToJson_eq (element : Element) :
    elementToJson element = .ofMembers (element.fields ++ element.extra.entries) := by
  obtain ⟨elementType, name, attrs, style, children, extra⟩ := element
  cases children <;>
    simp [elementToJson, elementJson, childrenToJson, ElementOf.fields, nodesToJson_eq_map]

theorem get?_fields_of_not_mem (element : Element) :
    ∀ key ∉ elementFields, (KeyMap.ofList element.fields).get? key = none := by
  intro key hkey
  simp [elementFields] at hkey
  simp [ElementOf.fields, hkey]

theorem nodeList_array_map_eq_ok_iff {nodes : List Node} :
    nodeList (.array (nodes.map Node.toJson)) = .ok nodes ↔ ∀ node ∈ nodes, node.ReadsBack := by
  have h : nodes.map (nodeOfJson ∘ Node.toJson) = nodes.map id ↔
      ∀ node ∈ nodes, node.ReadsBack := List.map_inj_left
  rw [nodeList, Except.ok.injEq, List.map_map, ← h, List.map_id]

theorem map_values_eq_ok_iff {values : KeyMap Value} :
    Decode.map (fun json ↦ .ok (Value.ofJson json)) (valuesToJson values) = .ok values ↔
      ∀ value ∈ values.values, value.ReadsBack := by
  simp only [valuesToJson, Decode.map_ofKeyMap_map_eq_ok_iff, Except.ok.injEq, Value.ReadsBack]

/-- An element reads back exactly if its values and its children do and none of the members that it
carries along has the name of a field. -/
theorem elementOfJson_elementToJson_iff {element : Element} :
    elementOfJson (elementToJson element) = .ok element ↔
      ((∀ values ∈ element.attrs, ∀ value ∈ values.values, value.ReadsBack) ∧
        (∀ values ∈ element.style, ∀ value ∈ values.values, value.ReadsBack) ∧
        (∀ children ∈ element.children, ∀ node ∈ children, node.ReadsBack)) ∧
      ∀ key ∈ elementFields, element.extra.get? key = none := by
  rw [elementOfJson_eq_ok_iff, elementToJson_eq]
  refine reads_record_iff (get?_fields_of_not_mem element) fun members hlookup ↦ ?_
  have hattrs : members.lookup "attrs" = element.attrs.map valuesToJson := by
    rw [hlookup _ (by decide)]; simp [ElementOf.fields]
  have hstyle : members.lookup "style" = element.style.map valuesToJson := by
    rw [hlookup _ (by decide)]; simp [ElementOf.fields]
  have hchildren : members.lookup "children" =
      element.children.map fun nodes ↦ .array (nodes.map Node.toJson) := by
    rw [hlookup _ (by decide)]; simp [ElementOf.fields]
  have htype : members.lookup "elementType" = some (.text element.elementType) := by
    rw [hlookup _ (by decide)]; simp [ElementOf.fields]
  have hname : members.lookup "name" = element.name.map .text := by
    rw [hlookup _ (by decide)]; simp [ElementOf.fields]
  have hvalues {name : String} {values : Option (KeyMap Value)}
      (h : members.lookup name = values.map valuesToJson) :
      Decode.optional (Decode.map fun json ↦ .ok (Value.ofJson json)) members name = .ok values ↔
        ∀ map ∈ values, ∀ value ∈ map.values, value.ReadsBack := by
    simp only [Decode.optional_of_lookup h (by simp [valuesToJson, Json.ofKeyMap]),
      map_values_eq_ok_iff]
  have hnodes : Decode.optional nodeList members "children" = .ok element.children ↔
      ∀ children ∈ element.children, ∀ node ∈ children, node.ReadsBack := by
    simp only [Decode.optional_of_lookup hchildren (by simp), nodeList_array_map_eq_ok_iff]
  have hnames : Decode.optional Decode.text members "name" = .ok element.name :=
    (Decode.optional_of_lookup hname (by simp)).mpr fun _ _ ↦ rfl
  have htypes : Decode.field Decode.text members "elementType" = .ok (some element.elementType) :=
    (Decode.field_of_lookup htype).mpr rfl
  rw [hvalues hattrs, hvalues hstyle, hnodes]
  simp only [hnames, htypes, true_and]
  exact ⟨fun ⟨hattrs, hchildren, hstyle⟩ ↦ ⟨hattrs, hstyle, hchildren⟩,
    fun ⟨hattrs, hstyle, hchildren⟩ ↦ ⟨hattrs, hchildren, hstyle⟩⟩

/-! ## One law for each constructor -/

theorem readsBack_element_iff {element : Element} :
    (Node.element element).ReadsBack ↔ elementOfJson (elementToJson element) = .ok element := by
  rw [Node.ReadsBack, Node.toJson, nodeOfJson_tagged]
  cases h : nodeOfContent "element" (elementToJson element) with
  | none =>
    have hfails : elementOfJson (elementToJson element) ≠ .ok element := fun hread ↦ by
      rw [nodeOfContent_element_eq_some_iff.mpr ⟨element, hread, rfl⟩] at h
      cases h
    simp [hfails]
  | some node =>
    obtain ⟨found, hfound, rfl⟩ := nodeOfContent_element_eq_some_iff.mp h
    simp [hfound]

theorem toJson_make {kind : String} {wrapper : Wrapper} (h : wrapper? kind = some wrapper)
    (node : Node) (first second : Option Json) :
    (wrapper.make node first second).toJson =
      tagged kind (wrapperJson node.toJson (wrapper.first, first) (wrapper.second, second)) := by
  rcases wrapper?_eq_some_iff.mp h with ⟨rfl, rfl⟩ | ⟨rfl, rfl⟩ <;> rw [Node.toJson]

theorem make_inj {kind : String} {wrapper : Wrapper} (h : wrapper? kind = some wrapper)
    {node node' : Node} {first first' second second' : Option Json} :
    wrapper.make node first second = wrapper.make node' first' second' ↔
      node = node' ∧ first = first' ∧ second = second' := by
  rcases wrapper?_eq_some_iff.mp h with ⟨-, rfl⟩ | ⟨-, rfl⟩ <;> simp

/-- The content of a wrapper that was written shows its node and its two passed fields. -/
theorem get?_wrapperFields {kind : String} {wrapper : Wrapper} (h : wrapper? kind = some wrapper)
    (json : Json) (first second : Option Json) :
    let fields := KeyMap.ofList (("node", json) ::
      Json.member wrapper.first first ++ Json.member wrapper.second second)
    fields.get? "node" = some json ∧ fields.get? wrapper.first = first ∧
      fields.get? wrapper.second = second := by
  rcases wrapper?_eq_some_iff.mp h with ⟨-, rfl⟩ | ⟨-, rfl⟩ <;> simp

theorem readsBack_make_iff {kind : String} {wrapper : Wrapper} (h : wrapper? kind = some wrapper)
    {node : Node} {first second : Option Json} :
    (wrapper.make node first second).ReadsBack ↔
      node.ReadsBack ∧ first ≠ some .null ∧ second ≠ some .null := by
  obtain ⟨hnode, hfirst, hsecond⟩ := get?_wrapperFields h node.toJson first second
  rw [← KeyMap.lookup_entries] at hnode hfirst hsecond
  have hpassed {found : Option Json} {members : List (String × Json)} {name : String}
      (hfound : members.lookup name = found) :
      passed members name = found ↔ found ≠ some .null := by
    rw [← hfound]
    exact passed_eq_lookup_iff
  rw [Node.ReadsBack, toJson_make h, nodeOfJson_tagged, wrapperJson, Json.ofMembers,
    nodeOfContent_of_wrapper? h, hnode, Option.map_some, Option.getD_some, make_inj h,
    hpassed hfirst, hpassed hsecond]
  rfl

theorem readsBack_conditional_iff {node : Node} {reference value : Option Json} :
    (Node.conditional node reference value).ReadsBack ↔
      node.ReadsBack ∧ reference ≠ some .null ∧ value ≠ some .null :=
  readsBack_make_iff (wrapper?_eq_some_iff.mpr (.inl ⟨rfl, rfl⟩))

theorem readsBack_repeated_iff {node : Node} {dataSource details : Option Json} :
    (Node.repeated node dataSource details).ReadsBack ↔
      node.ReadsBack ∧ dataSource ≠ some .null ∧ details ≠ some .null :=
  readsBack_make_iff (wrapper?_eq_some_iff.mpr (.inr ⟨rfl, rfl⟩))

theorem fallbackToJson_eq_map (fallback : Option Node) :
    fallbackToJson fallback = fallback.map Node.toJson := by
  cases fallback <;> rfl

/-- A fallback that is written as null would be read as none. -/
theorem readsBack_slot_iff {name : Option String} {fallback : Option Node} :
    (Node.slot name fallback).ReadsBack ↔
      ∀ node ∈ fallback, node.ReadsBack ∧ node.toJson ≠ .null := by
  let fields := KeyMap.ofList (Json.member "name" (name.map .text) ++
    Json.member "fallback" (fallback.map Node.toJson))
  have hname : slotName? (fields.entries.lookup "name") = some name := by
    rw [KeyMap.lookup_entries]
    cases name <;> simp [fields, slotName?]
  have hfallback : fields.entries.lookup "fallback" = fallback.map Node.toJson := by
    rw [KeyMap.lookup_entries]
    simp [fields]
  rw [Node.ReadsBack, Node.toJson, fallbackToJson_eq_map, nodeOfJson_tagged, Json.ofMembers,
    nodeOfContent_slot, hname, Option.map_some, Option.getD_some, Node.slot.injEq,
    eq_self, true_and]
  change (passed fields.entries "fallback").map nodeOfJson = fallback ↔ _
  cases fallback with
  | none => simp [passed_of_ne_null, hfallback]
  | some node =>
    by_cases hnull : node.toJson = .null
    · have hnone : passed fields.entries "fallback" = none := by simp [passed, hfallback, hnull]
      simp [hnone, hnull]
    · have hne : fields.entries.lookup "fallback" ≠ some .null := by simpa [hfallback] using hnull
      rw [passed_of_ne_null hne, hfallback]
      simp [hnull, Node.ReadsBack]

/-! ## Whatever has been read -/

theorem toJson_eq_null_iff {node : Node} : node.toJson = .null ↔ node = .other .null := by
  cases node <;> simp [Node.toJson, tagged]

theorem nodeOfContent_ne_other {kind : String} {content json : Json} :
    nodeOfContent kind content ≠ some (.other json) := by
  intro h
  rcases nodeOfContent_cases h with ⟨_, -, hnode⟩ | ⟨wrapper, _, _, _, hwrapper, -, -, -, hnode⟩ |
    ⟨_, _, -, hnode⟩ | hleaf
  · cases hnode
  · rcases wrapper?_eq_some_iff.mp hwrapper with ⟨-, rfl⟩ | ⟨-, rfl⟩ <;> cases hnode
  · cases hnode
  · unfold leafOf? at hleaf
    split at hleaf <;> grind [map_textContent?_eq_some_iff]

/-- A node is kept as received, or it is made of a content that fits its kind. -/
theorem nodeOfJson_cases (json : Json) :
    nodeOfJson json = .other json ∨ ∃ tag, tagged? Node.kinds json = some tag ∧
      nodeOfContent tag.1 tag.2 = some (nodeOfJson json) := by
  rw [nodeOfJson_eq]
  cases htag : tagged? Node.kinds json with
  | none => exact .inl rfl
  | some tag =>
    cases hnode : nodeOfContent tag.1 tag.2 with
    | none => exact .inl (by simp [hnode])
    | some node => exact .inr ⟨tag, rfl, by simp [hnode]⟩

/-- Only null is read as a node that is written as null. -/
theorem toJson_nodeOfJson_ne_null {json : Json} (h : json ≠ .null) :
    (nodeOfJson json).toJson ≠ .null := by
  rw [Ne, toJson_eq_null_iff]
  intro hnull
  rcases nodeOfJson_cases json with hother | ⟨tag, -, hnode⟩
  · exact h (Node.other.inj (hother.symm.trans hnull))
  · exact nodeOfContent_ne_other (hnull ▸ hnode)

theorem sizeOf_lt_of_tagged? {kinds : List String} {json : Json} {tag : String × Json}
    (h : tagged? kinds json = some tag) : sizeOf tag.2 < sizeOf json := by
  unfold tagged? at h
  split at h
  · obtain ⟨kind, -, h⟩ := Option.bind_eq_some_iff.mp h
    obtain ⟨content, hcontent, h⟩ := Option.bind_eq_some_iff.mp h
    obtain rfl := Option.some.inj h
    exact sizeOf_lt_of_lookup hcontent
  · obtain ⟨kind, -, rfl⟩ := Option.map_eq_some_iff.mp h
    exact sizeOf_lt_of_mem (List.mem_cons_of_mem _ List.mem_cons_self)
  · cases h

/-- An element that was read reads back if the nodes inside of it do. -/
theorem elementOfJson_elementToJson_of_read {json : Json} {element : Element}
    (h : elementOfJson json = .ok element)
    (inside : ∀ inner, sizeOf inner < sizeOf json → (nodeOfJson inner).ReadsBack) :
    elementOfJson (elementToJson element) = .ok element := by
  obtain ⟨members, rfl, ⟨hattrs, hchildren, -, -, hstyle⟩, hextra⟩ :=
    elementOfJson_eq_ok_iff.mp h
  have hvalues {name : String} {values : Option (KeyMap Value)}
      (hread : Decode.optional (Decode.map fun json ↦ .ok (Value.ofJson json)) members name =
        .ok values) : ∀ map ∈ values, ∀ value ∈ map.values, value.ReadsBack := by
    intro map hmap value hvalue
    obtain ⟨_, -, hread⟩ := Decode.exists_of_optional hread map hmap
    obtain ⟨inner, hinner⟩ := Decode.exists_of_map hread value hvalue
    obtain rfl := Except.ok.inj hinner
    exact Value.readsBack_ofJson inner
  refine elementOfJson_elementToJson_iff.mpr ⟨⟨hvalues hattrs, hvalues hstyle, ?_⟩, ?_⟩
  · intro children hmem node hnode
    obtain ⟨_, hlookup, hread⟩ := Decode.exists_of_optional hchildren children hmem
    obtain ⟨items, rfl, rfl⟩ := nodeList_eq_ok_iff.mp hread
    obtain ⟨item, hitem, rfl⟩ := List.mem_map.mp hnode
    exact inside item ((sizeOf_lt_of_mem hitem).trans (sizeOf_lt_of_lookup hlookup))
  · intro key hkey
    rw [← hextra, get?_others, if_pos hkey]

/-- Whatever has been read reads back. -/
theorem readsBack_nodeOfJson (json : Json) : (nodeOfJson json).ReadsBack := by
  rcases nodeOfJson_cases json with hother | ⟨tag, htag, hnode⟩
  · rw [hother]
    exact hother
  have hsize := sizeOf_lt_of_tagged? htag
  rcases nodeOfContent_cases hnode with ⟨element, helement, heq⟩ |
    ⟨wrapper, inner, first, second, hwrapper, hinner, hfirst, hsecond, heq⟩ |
    ⟨name, fallback, hfallback, heq⟩ | hleaf
  · rw [heq, readsBack_element_iff]
    refine elementOfJson_elementToJson_of_read helement fun inner hinner ↦ ?_
    exact readsBack_nodeOfJson inner
  · rw [heq, readsBack_make_iff hwrapper]
    exact ⟨readsBack_nodeOfJson inner, hfirst, hsecond⟩
  · rw [heq, readsBack_slot_iff]
    intro node hmem
    obtain ⟨inner, hinner, rfl⟩ := Option.map_eq_some_iff.mp hmem
    have := (hfallback inner hinner).1
    exact ⟨readsBack_nodeOfJson inner, toJson_nodeOfJson_ne_null (hfallback inner hinner).2⟩
  · exact readsBack_of_leafOf? hleaf
termination_by sizeOf json

/-! ## Trees with other elements in the places of their islands -/

theorem readsBack_of_mem_childList {element : Element} (h : (Node.element element).ReadsBack) :
    ∀ node ∈ element.childList, node.ReadsBack := by
  obtain ⟨⟨-, -, hchildren⟩, -⟩ := elementOfJson_elementToJson_iff.mp (readsBack_element_iff.mp h)
  intro node hnode
  cases heq : element.children with
  | none => simp [ElementOf.childList, heq] at hnode
  | some children =>
    rw [childList_of_mem heq] at hnode
    exact hchildren children heq node hnode

/-- The outermost islands of a tree that reads back do so as well. -/
theorem readsBack_of_mem_outermostIslands {node : Node} (h : node.ReadsBack) :
    ∀ island ∈ node.outermostIslands, (Node.element island).ReadsBack := by
  induction node using Node.treeInduction with
  | element element ih =>
    rw [outermostIslands_element]
    split
    · simpa using h
    · intro island hmem
      obtain ⟨node, hnode, hisland⟩ := List.mem_flatMap.mp hmem
      exact ih node hnode (readsBack_of_mem_childList h node hnode) island hisland
  | conditional node reference value ih => exact ih (readsBack_conditional_iff.mp h).1
  | repeated node dataSource details ih => exact ih (readsBack_repeated_iff.mp h).1
  | slot name fallback ih =>
    rw [outermostIslands_slot]
    intro island hmem
    obtain ⟨node, hnode, hisland⟩ := List.mem_flatMap.mp hmem
    rw [Option.mem_toList] at hnode
    exact ih node hnode (readsBack_slot_iff.mp h node hnode).1 island hisland
  | inject | static | dynamic | raw | other => simp [Node.outermostIslands, Node.reached]

theorem toJson_refill_eq_null_iff {node : Node} {elements : List Element} :
    (node.refill elements).toJson = .null ↔ node.toJson = .null := by
  cases node <;> simp [Node.refill, Node.toJson, tagged]

/-- A tree with readable elements in the places of its islands can be read back. -/
theorem readsBack_refill {node : Node} (h : node.ReadsBack) {elements : List Element}
    (helements : ∀ element ∈ elements, (Node.element element).ReadsBack) :
    (node.refill elements).ReadsBack := by
  have hnodes (nodes : List Node)
      (ih : ∀ node ∈ nodes, ∀ elements : List Element,
        (∀ element ∈ elements, (Node.element element).ReadsBack) →
          (node.refill elements).ReadsBack)
      (elements : List Element)
      (helements : ∀ element ∈ elements, (Node.element element).ReadsBack) :
      ∀ node ∈ refillNodes elements nodes, node.ReadsBack := by
    induction nodes generalizing elements with
    | nil => simp [refillNodes]
    | cons node rest ihrest =>
      rw [refillNodes, List.forall_mem_cons]
      exact ⟨ih node List.mem_cons_self elements helements,
        ihrest (fun node h ↦ ih node (List.mem_cons_of_mem _ h)) _
          fun element h ↦ helements element (List.mem_of_mem_drop h)⟩
  induction node using Node.treeInduction generalizing elements with
  | element element ih =>
    rw [refill_element]
    split
    · cases elements with
      | nil => exact h
      | cons first rest => exact helements first List.mem_cons_self
    · obtain ⟨⟨hattrs, hstyle, hchildren⟩, hextra⟩ :=
        elementOfJson_elementToJson_iff.mp (readsBack_element_iff.mp h)
      refine readsBack_element_iff.mpr
        (elementOfJson_elementToJson_iff.mpr ⟨⟨hattrs, hstyle, fun nodes hmem ↦ ?_⟩, hextra⟩)
      obtain ⟨children, heq, rfl⟩ := Option.map_eq_some_iff.mp hmem
      rw [childList_of_mem heq] at ih
      exact hnodes children
        (fun node hnode elements ↦ ih node hnode (hchildren children heq node hnode))
        elements helements
  | conditional node reference value ih =>
    obtain ⟨hnode, hpassed⟩ := readsBack_conditional_iff.mp h
    exact readsBack_conditional_iff.mpr ⟨ih hnode helements, hpassed⟩
  | repeated node dataSource details ih =>
    obtain ⟨hnode, hpassed⟩ := readsBack_repeated_iff.mp h
    exact readsBack_repeated_iff.mpr ⟨ih hnode helements, hpassed⟩
  | slot name fallback ih =>
    rw [refill_slot, readsBack_slot_iff]
    intro node hmem
    obtain ⟨inner, hinner, rfl⟩ := Option.map_eq_some_iff.mp hmem
    obtain ⟨hread, hnull⟩ := readsBack_slot_iff.mp h inner hinner
    exact ⟨ih inner hinner hread helements, toJson_refill_eq_null_iff.not.mpr hnull⟩
  | inject | static | dynamic | raw | other => exact h

end MarkupIslands.Ui
