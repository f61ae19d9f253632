import MarkupIslands.Proofs.Ui.Records

/-!
# Reading nodes

What the readers of nodes come to, in terms of what the members of an object look up: a node is read
from its kind and its content, an element from its fields, and the other kinds that hold nodes from
an object or from an array.
-/

namespace MarkupIslands.Ui

theorem nodesOfJson_eq_map (items : List Json) : nodesOfJson items = items.map nodeOfJson := by
  induction items with
  | nil => rfl
  | cons json rest ih => rw [nodesOfJson, ih, List.map_cons]

def nodeList : Json → Decoded (List Node)
  | .array items => .ok (items.map nodeOfJson)
  | json => Decode.wrongType json .sequence

theorem nodeList_eq_ok_iff {json : Json} {nodes : List Node} :
    nodeList json = .ok nodes ↔ ∃ items, json = .array items ∧ items.map nodeOfJson = nodes := by
  cases json <;> simp [nodeList, Decode.wrongType]

/-! ## Members by their names -/

theorem contentIn_eq (kind : String) (members : List (String × Json)) :
    contentIn kind members = (members.lookup "content").bind (nodeOfContent kind) := by
  induction members with
  | nil => rfl
  | cons member rest ih =>
    rw [contentIn, lookup_entry_cons, ih]
    simp only [eq_comm (a := member.1)]
    split <;> rfl

theorem nodeIn_eq (members : List (String × Json)) :
    nodeIn members = (members.lookup "node").map nodeOfJson := by
  induction members with
  | nil => rfl
  | cons member rest ih =>
    rw [nodeIn, lookup_entry_cons, ih]
    simp only [eq_comm (a := member.1)]
    split <;> rfl

theorem fallbackIn_eq (members : List (String × Json)) :
    fallbackIn members = (passed members "fallback").map nodeOfJson := by
  induction members with
  | nil => rfl
  | cons member rest ih =>
    obtain ⟨key, json⟩ := member
    by_cases h : key = "fallback"
    · subst h
      cases json <;> simp [fallbackIn, passed]
    · unfold fallbackIn
      rw [if_neg h, ih, passed, passed, lookup_entry_cons, if_neg (Ne.symm h)]

/-- The children are an optional list of nodes, read like any other field. -/
theorem childrenIn_eq (members : List (String × Json)) :
    childrenIn members = Decode.optional nodeList members "children" := by
  induction members with
  | nil => rfl
  | cons member rest ih =>
    obtain ⟨key, json⟩ := member
    by_cases h : key = "children"
    · subst h
      cases json <;>
        simp [childrenIn, Decode.optional, Decode.field, Decode.orNull, nodeList,
          nodesOfJson_eq_map, Decode.wrongType, bind, Except.bind, pure, Except.pure]
    · have hrest : childrenIn ((key, json) :: rest) = childrenIn rest := by
        cases json <;> simp [childrenIn, h]
      rw [hrest, ih, Decode.optional, Decode.optional, Decode.field, Decode.field,
        lookup_entry_cons, if_neg (Ne.symm h)]

/-! ## Contents by their kinds -/

/-- A node is read from its kind and its content. What gives none is kept as received. -/
theorem nodeOfJson_eq (json : Json) :
    nodeOfJson json =
      ((tagged? Node.kinds json).bind fun tag ↦ nodeOfContent tag.1 tag.2).getD (.other json) := by
  cases json with
  | object members =>
    rw [nodeOfJson, tagged?]
    cases (members.lookup "type").bind kindName? with
    | none => rfl
    | some kind =>
      simp only [Option.bind_some, contentIn_eq]
      cases members.lookup "content" <;> rfl
  | array items =>
    rcases items with _ | ⟨kind, _ | ⟨content, _ | ⟨_, _⟩⟩⟩
    · rfl
    · rfl
    · rw [nodeOfJson, tagged?]
      cases kindAtHead? Node.kinds kind <;> rfl
    · rfl
  | _ => rfl

@[simp]
theorem tagged?_tagged (kinds : List String) (kind : String) (content : Json) :
    tagged? kinds (tagged kind content) = some (kind, content) := rfl

theorem nodeOfJson_tagged (kind : String) (content : Json) :
    nodeOfJson (tagged kind content) =
      (nodeOfContent kind content).getD (.other (tagged kind content)) := by
  rw [nodeOfJson_eq, tagged?_tagged, Option.bind_some]

theorem nodeOfJson_tagged_of_none {kind : String} {content : Json}
    (h : nodeOfContent kind content = none) :
    nodeOfJson (tagged kind content) = .other (tagged kind content) := by
  rw [nodeOfJson_tagged, h, Option.getD_none]

theorem nodeOfContent_element (content : Json) :
    nodeOfContent "element" content = (elementOfJson content).toOption.map .element := by
  cases content <;> simp [nodeOfContent, elementOfJson, wrapper?, leafOf?, Decode.wrongType,
    Except.toOption]

theorem nodeOfContent_element_eq_some_iff {content : Json} {node : Node} :
    nodeOfContent "element" content = some node ↔
      ∃ element, elementOfJson content = .ok element ∧ .element element = node := by
  rw [nodeOfContent_element]
  cases elementOfJson content <;> simp [Except.toOption]

theorem nodeOfContent_slot (members : List (String × Json)) :
    nodeOfContent "slot" (.object members) =
      (slotName? (members.lookup "name")).map fun name ↦
        .slot name ((passed members "fallback").map nodeOfJson) := by
  simp [nodeOfContent, fallbackIn_eq]

/-- Two kinds wrap a node: conditions and repetitions. -/
theorem wrapper?_eq_some_iff {kind : String} {wrapper : Wrapper} :
    wrapper? kind = some wrapper ↔
      (kind = "conditional" ∧ wrapper = ⟨"reference", "value", .conditional⟩) ∨
        (kind = "repeat" ∧ wrapper = ⟨"dataSource", "meta", .repeated⟩) := by
  unfold wrapper?
  split <;> simp_all [eq_comm]

theorem nodeOfContent_of_wrapper? {kind : String} {wrapper : Wrapper}
    (h : wrapper? kind = some wrapper) (members : List (String × Json)) :
    nodeOfContent kind (.object members) =
      (members.lookup "node").map fun json ↦ wrapper.make (nodeOfJson json)
        (passed members wrapper.first) (passed members wrapper.second) := by
  rcases wrapper?_eq_some_iff.mp h with ⟨rfl, -⟩ | ⟨rfl, -⟩ <;>
    simp [nodeOfContent, h, nodeIn_eq, Function.comp_def]

/-- An element is read field by field from an object. -/
theorem elementOfJson_eq_ok_iff {json : Json} {element : Element} :
    elementOfJson json = .ok element ↔ ∃ members, json = .object members ∧
      (Decode.optional (Decode.map fun json ↦ .ok (Value.ofJson json)) members "attrs" =
          .ok element.attrs ∧
        Decode.optional nodeList members "children" = .ok element.children ∧
        Decode.field Decode.text members "elementType" = .ok (some element.elementType) ∧
        Decode.optional Decode.text members "name" = .ok element.name ∧
        Decode.optional (Decode.map fun json ↦ .ok (Value.ofJson json)) members "style" =
          .ok element.style) ∧
      Decode.others elementFields members = element.extra := by
  cases json with
  | object members =>
    simp only [elementOfJson, elementWith, childrenIn_eq, bind_eq_ok_iff, pure_eq_ok_iff,
      Decode.require_eq_ok_iff]
    constructor
    · rintro ⟨attrs, hattrs, children, hchildren, _, htype, name, hname, style, hstyle,
        elementType, rfl, rfl⟩
      exact ⟨members, rfl, ⟨hattrs, hchildren, htype, hname, hstyle⟩, rfl⟩
    · rintro ⟨_, ⟨⟩, ⟨hattrs, hchildren, htype, hname, hstyle⟩, hextra⟩
      exact ⟨_, hattrs, _, hchildren, _, htype, _, hname, _, hstyle, _, rfl, by rw [hextra]⟩
  | _ => simp [elementOfJson, Decode.wrongType]

/-! ## Nodes inside of contents -/

theorem sizeOf_lt_of_lookup {members : List (String × Json)} {key : String} {json : Json}
    (h : members.lookup key = some json) : sizeOf json < sizeOf (Json.object members) := by
  have hmem := List.sizeOf_lt_of_mem (mem_of_lookup h)
  simp only [Prod.mk.sizeOf_spec, Json.object.sizeOf_spec] at hmem ⊢
  omega

theorem sizeOf_lt_of_mem {items : List Json} {json : Json} (h : json ∈ items) :
    sizeOf json < sizeOf (Json.array items) := by
  have hmem := List.sizeOf_lt_of_mem h
  simp only [Json.array.sizeOf_spec]
  omega

theorem passed_ne_null (members : List (String × Json)) (name : String) :
    passed members name ≠ some .null := fun h ↦ (passed_eq_some_iff.mp h).2 rfl

theorem passedItem_ne_null (items : List Json) (index : Nat) :
    passedItem items index ≠ some .null := by
  unfold passedItem
  split
  · simp
  · assumption

theorem wrapperOfItems_eq_some {wrapper : Wrapper} {items : List Json} {node : Node}
    (h : wrapperOfItems wrapper items = some node) :
    ∃ inner ∈ items, ∃ rest,
      node = wrapper.make (nodeOfJson inner) (passedItem rest 0) (passedItem rest 1) := by
  cases items with
  | nil => simp [wrapperOfItems] at h
  | cons inner rest =>
    rw [wrapperOfItems] at h
    split at h
    · exact ⟨inner, List.mem_cons_self, rest, (Option.some.inj h).symm⟩
    · cases h

/-- The fallback of a slot is one of the items that it is written with. -/
theorem slotOfItems_eq_some {items : List Json} {node : Node} (h : slotOfItems items = some node) :
    ∃ name, ∃ fallback : Option Json, (∀ inner ∈ fallback, inner ∈ items ∧ inner ≠ .null) ∧
      node = .slot name (fallback.map nodeOfJson) := by
  unfold slotOfItems at h
  split at h
  · exact ⟨none, none, by simp, (Option.some.inj h).symm⟩
  · obtain ⟨name, -, rfl⟩ := Option.map_eq_some_iff.mp h
    exact ⟨name, none, by simp, rfl⟩
  · obtain ⟨name, -, rfl⟩ := Option.map_eq_some_iff.mp h
    exact ⟨name, none, by simp, rfl⟩
  · rename_i hnull
    obtain ⟨name, -, rfl⟩ := Option.map_eq_some_iff.mp h
    refine ⟨name, some _, ?_, rfl⟩
    simpa using hnull
  · cases h

/-- A content that fits its kind makes an element, a leaf, or a node whose inner node is read from
a part of the content. -/
theorem nodeOfContent_cases {kind : String} {content : Json} {node : Node}
    (h : nodeOfContent kind content = some node) :
    (∃ element, elementOfJson content = .ok element ∧ node = .element element) ∨
      (∃ wrapper inner first second, wrapper? kind = some wrapper ∧
        sizeOf inner < sizeOf content ∧ first ≠ some .null ∧ second ≠ some .null ∧
        node = wrapper.make (nodeOfJson inner) first second) ∨
      (∃ name, ∃ fallback : Option Json,
        (∀ inner ∈ fallback, sizeOf inner < sizeOf content ∧ inner ≠ .null) ∧
        node = .slot name (fallback.map nodeOfJson)) ∨
      leafOf? kind content = some node := by
  by_cases helement : kind = "element"
  · subst helement
    obtain ⟨element, hread, rfl⟩ := nodeOfContent_element_eq_some_iff.mp h
    exact .inl ⟨element, hread, rfl⟩
  by_cases hslot : kind = "slot"
  · subst hslot
    refine .inr (.inr (.inl ?_))
    cases content with
    | object members =>
      rw [nodeOfContent_slot] at h
      obtain ⟨name, -, rfl⟩ := Option.map_eq_some_iff.mp h
      refine ⟨name, passed members "fallback", fun inner hinner ↦ ?_, rfl⟩
      obtain ⟨hlookup, hnull⟩ := passed_eq_some_iff.mp hinner
      exact ⟨sizeOf_lt_of_lookup hlookup, hnull⟩
    | array items =>
      obtain ⟨name, fallback, hfallback, rfl⟩ := slotOfItems_eq_some
        (by simpa [nodeOfContent] using h)
      exact ⟨name, fallback, fun inner hinner ↦
        ⟨sizeOf_lt_of_mem (hfallback inner hinner).1, (hfallback inner hinner).2⟩, rfl⟩
    | _ => simp [nodeOfContent, leafOf?] at h
  cases hwrapper : wrapper? kind with
  | none =>
    refine .inr (.inr (.inr ?_))
    cases content <;> simpa [nodeOfContent, helement, hslot, hwrapper] using h
  | some wrapper =>
    cases content with
    | object members =>
      rw [nodeOfContent_of_wrapper? hwrapper] at h
      obtain ⟨inner, hinner, rfl⟩ := Option.map_eq_some_iff.mp h
      exact .inr (.inl ⟨wrapper, inner, _, _, rfl, sizeOf_lt_of_lookup hinner,
        passed_ne_null _ _, passed_ne_null _ _, rfl⟩)
    | array items =>
      obtain ⟨inner, hinner, rest, rfl⟩ := wrapperOfItems_eq_some
        (by simpa [nodeOfContent, hslot, hwrapper] using h)
      exact .inr (.inl ⟨wrapper, inner, _, _, rfl, sizeOf_lt_of_mem hinner,
        passedItem_ne_null _ _, passedItem_ne_null _ _, rfl⟩)
    | _ => exact .inr (.inr (.inr (by simpa [nodeOfContent] using h)))

end MarkupIslands.Ui
