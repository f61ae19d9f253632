import MarkupIslands.Proofs.Ui.ReadBack

/-!
# Trees that are written as they were received

Reading puts a node that is written as a pair, or whose content is an array, into another form, so
such a node is not written as it was received. The forms below leave these aside. What is left to
matter are members that are no fields: an element carries them along, a node of the kinds that wrap
other nodes does not. A tree is therefore written as it was received exactly if none of its wrapping
nodes has such members.
-/

namespace MarkupIslands

open MarkupIslands.Ui

namespace Json

mutual

/-- No null stands anywhere in the value. -/
def NullFree : Json → Prop
  | .null => False
  | .array items => NullFreeItems items
  | .object members => NullFreeMembers members
  | .boolean _ | .number _ | .text _ => True

def NullFreeItems : List Json → Prop
  | [] => True
  | item :: rest => NullFree item ∧ NullFreeItems rest

def NullFreeMembers : List (String × Json) → Prop
  | [] => True
  | (_, value) :: rest => NullFree value ∧ NullFreeMembers rest

end

theorem nullFreeItems_iff {items : List Json} :
    NullFreeItems items ↔ ∀ item ∈ items, NullFree item := by
  induction items with
  | nil => simp [NullFreeItems]
  | cons item rest ih => simp [NullFreeItems, ih]

theorem nullFreeMembers_iff {members : List (String × Json)} :
    NullFreeMembers members ↔ ∀ member ∈ members, NullFree member.2 := by
  induction members with
  | nil => simp [NullFreeMembers]
  | cons member rest ih => simp [NullFreeMembers, ih]

theorem canonicalItems_iff {items : List Json} :
    CanonicalItems items ↔ ∀ item ∈ items, Canonical item := by
  induction items with
  | nil => simp [CanonicalItems]
  | cons item rest ih => simp [CanonicalItems, ih]

theorem canonicalMembers_iff {members : List (String × Json)} :
    CanonicalMembers members ↔ ∀ member ∈ members, Canonical member.2 := by
  induction members with
  | nil => simp [CanonicalMembers]
  | cons member rest ih => simp [CanonicalMembers, ih]

/-- A value without nulls whose objects have their keys in ascending order. -/
structure IsPlain (json : Json) : Prop where
  canonical : json.Canonical
  nullFree : json.NullFree

namespace IsPlain

variable {items : List Json} {members : List (String × Json)}

theorem ne_null {json : Json} (h : json.IsPlain) : json ≠ .null := by
  rintro rfl
  exact h.nullFree

theorem item (h : (Json.array items).IsPlain) {item : Json} (hmem : item ∈ items) :
    item.IsPlain :=
  ⟨canonicalItems_iff.mp h.canonical item hmem, nullFreeItems_iff.mp h.nullFree item hmem⟩

theorem member (h : (Json.object members).IsPlain) {member : String × Json}
    (hmem : member ∈ members) : member.2.IsPlain :=
  ⟨canonicalMembers_iff.mp h.canonical.2 member hmem,
    nullFreeMembers_iff.mp h.nullFree member hmem⟩

theorem lookup (h : (Json.object members).IsPlain) {key : String} {json : Json}
    (hlookup : members.lookup key = some json) : json.IsPlain :=
  h.member (mem_of_lookup hlookup)

theorem passed (h : (Json.object members).IsPlain) (key : String) :
    passed members key = members.lookup key :=
  passed_of_ne_null fun hnull ↦ (h.lookup hnull).ne_null rfl

theorem content {kind : String} {content : Json} (h : (tagged kind content).IsPlain) :
    content.IsPlain :=
  h.member List.mem_cons_self

theorem text (value : String) : (Json.text value).IsPlain := ⟨trivial, trivial⟩

theorem object (hascending : Ascending members) (hmembers : ∀ member ∈ members, member.2.IsPlain) :
    (Json.object members).IsPlain :=
  ⟨⟨hascending, canonicalMembers_iff.mpr fun member hmem ↦ (hmembers member hmem).canonical⟩,
    nullFreeMembers_iff.mpr fun member hmem ↦ (hmembers member hmem).nullFree⟩

theorem object_pair {first second : String} {a b : Json} (hlt : first < second) (ha : a.IsPlain)
    (hb : b.IsPlain) : (Json.object [(first, a), (second, b)]).IsPlain :=
  object (List.pairwise_pair.mpr hlt) (by simp [ha, hb])

theorem object_singleton {key : String} {a : Json} (ha : a.IsPlain) :
    (Json.object [(key, a)]).IsPlain :=
  object (List.pairwise_singleton _ _) (by simp [ha])

/-- A plain object is the object of a map. -/
theorem exists_keyMap (h : (Json.object members).IsPlain) :
    ∃ m : KeyMap Json, m.entries = members :=
  ⟨⟨members, h.canonical.1⟩, rfl⟩

end IsPlain

end Json

namespace Ui

/-! ## What is read is written again -/

section

variable {α : Type} {decode : Json → Decoded α} {encode : α → Json}

/-- Whatever is read of the JSON is written as the JSON again. -/
def Restores (decode : Json → Decoded α) (encode : α → Json) (json : Json) : Prop :=
  ∀ a, decode json = .ok a → encode a = json

theorem restores_iff_of_read {json : Json} {a : α} (h : decode json = .ok a) :
    Restores decode encode json ↔ encode a = json := by
  constructor
  · exact fun hrestores ↦ hrestores a h
  · rintro hencode b hb
    rw [← hencode, Except.ok.inj (hb.symm.trans h)]

theorem restores_text (json : Json) : Restores Decode.text .text json :=
  fun _ h ↦ (Decode.text_eq_ok_iff.mp h).symm

theorem restores_boolean (json : Json) : Restores Decode.boolean .boolean json :=
  fun _ h ↦ (Decode.boolean_eq_ok_iff.mp h).symm

theorem restores_field_iff {members : List (String × Json)} {name : String} {value : Option α}
    (h : Decode.field decode members name = .ok value) :
    value.map encode = members.lookup name ↔
      ∀ json ∈ members.lookup name, Restores decode encode json := by
  have hread := Decode.field_eq_ok_iff.mp h
  cases hlookup : members.lookup name with
  | none =>
    rw [hlookup, Option.map_none, eq_comm, Option.map_eq_none_iff] at hread
    simp [hread]
  | some json =>
    rw [hlookup, Option.map_some] at hread
    obtain ⟨a, rfl, ha⟩ := Option.map_eq_some_iff.mp hread.symm
    simp [restores_iff_of_read ha.symm]

/-- An optional field is restored exactly if its member is; null is no obstacle in a plain value. -/
theorem restores_optional_iff {members : List (String × Json)}
    (hplain : (Json.object members).IsPlain) {name : String} {value : Option α}
    (h : Decode.optional decode members name = .ok value) :
    value.map encode = members.lookup name ↔
      ∀ json ∈ members.lookup name, Restores decode encode json := by
  rw [Decode.optional_eq_ok_iff, hplain.passed, ← Decode.field_eq_ok_iff] at h
  exact restores_field_iff h

/-- A map is written as it was received exactly if each of its values is. -/
theorem restores_map_iff {members : List (String × Json)}
    (hplain : (Json.object members).IsPlain) {map : KeyMap α}
    (h : Decode.map decode (.object members) = .ok map) :
    Json.ofKeyMap (map.map encode) = .object members ↔
      ∀ member ∈ members, Restores decode encode member.2 := by
  obtain ⟨json, rfl⟩ := hplain.exists_keyMap
  have hread := Decode.map_ofKeyMap_eq_ok_iff.mp h
  have hequal : Json.ofKeyMap (map.map encode) = .object json.entries ↔
      ∀ key, (map.get? key).map encode = json.get? key := by
    rw [Json.ofKeyMap, Json.object.injEq]
    constructor
    · intro heq key
      rw [← KeyMap.get?_map, KeyMap.ext heq]
    · intro heq
      exact congrArg _ (KeyMap.ext_get? fun key ↦ (KeyMap.get?_map _ _ _).trans (heq key))
  rw [hequal]
  constructor
  · intro heq member hmem
    have hmember := (json.mem_entries_iff member.1 member.2).mp hmem
    have hkey := hread member.1
    rw [hmember] at hkey
    obtain ⟨a, ha, hinner⟩ := Option.map_eq_some_iff.mp hkey.symm
    refine (restores_iff_of_read hinner.symm).mpr (Option.some.inj ?_)
    rw [← hmember, ← heq member.1, ha, Option.map_some]
  · intro hrestores key
    cases hjson : json.get? key with
    | none => simpa [hjson, eq_comm] using hread key
    | some inner =>
      have hkey := hread key
      rw [hjson] at hkey
      obtain ⟨a, ha, hinner⟩ := Option.map_eq_some_iff.mp hkey.symm
      rw [ha, Option.map_some,
        hrestores (key, inner) ((json.mem_entries_iff key inner).mpr hjson) a hinner.symm]

theorem exists_of_optional_map {members inner : List (String × Json)}
    (hplain : (Json.object members).IsPlain) {name : String} {value : Option (KeyMap α)}
    (h : Decode.optional (Decode.map decode) members name = .ok value)
    (hinner : members.lookup name = some (.object inner)) :
    (∃ map, Decode.map decode (.object inner) = .ok map) ∧
      ∀ member ∈ inner, ∃ a, decode member.2 = .ok a := by
  rw [Decode.optional_eq_ok_iff, hplain.passed, hinner] at h
  obtain ⟨map, -, hmap⟩ := Option.map_eq_some_iff.mp h.symm
  obtain ⟨entries, hentries, -⟩ := Decode.map_object_eq_ok_iff.mp hmap.symm
  exact ⟨⟨map, hmap.symm⟩, hentries.exists_of_mem⟩

/-- A field that holds a map is written as it was received exactly if each value of the map is. -/
theorem restores_optional_map_iff {members : List (String × Json)}
    (hplain : (Json.object members).IsPlain) {name : String} {value : Option (KeyMap α)}
    (h : Decode.optional (Decode.map decode) members name = .ok value) :
    (value.map fun map ↦ Json.ofKeyMap (map.map encode)) = members.lookup name ↔
      ∀ inner, members.lookup name = some (.object inner) →
        ∀ member ∈ inner, Restores decode encode member.2 := by
  rw [restores_optional_iff hplain h]
  constructor
  · intro hrestores inner hinner
    obtain ⟨⟨map, hmap⟩, -⟩ := exists_of_optional_map hplain h hinner
    exact (restores_map_iff (hplain.lookup hinner) hmap).mp (hrestores _ hinner map hmap)
  · intro hinner json hjson map hmap
    cases json with
    | object inner => exact (restores_map_iff (hplain.lookup hjson) hmap).mpr (hinner inner hjson)
    | _ => simp [Decode.map, Decode.wrongType] at hmap

/-- A list of nodes is restored exactly if every item is. -/
theorem restores_nodeList_iff {items : List Json} :
    Restores nodeList (fun nodes ↦ .array (nodes.map Node.toJson)) (.array items) ↔
      ∀ item ∈ items, (nodeOfJson item).toJson = item := by
  have h : (items.map (Node.toJson ∘ nodeOfJson) = items.map id) ↔
      ∀ item ∈ items, (nodeOfJson item).toJson = item := List.map_inj_left
  rw [restores_iff_of_read (nodeList_eq_ok_iff.mpr ⟨items, rfl, rfl⟩), Json.array.injEq,
    List.map_map, ← h, List.map_id]

end

/-! ## The forms -/

/-- A value is kept, or it is an object with a type and a content and nothing else. -/
def ValueForm (json : Json) : Prop :=
  Value.ofJson json = .other json ∨ ∃ kind content, json = tagged kind content

/-- A record has no members but its fields. -/
def HasOnly (known : List String) (members : List (String × Json)) : Prop :=
  ∀ member ∈ members, member.1 ∈ known

/-- A node is kept, or it is an object with a type and a content and nothing else, and a content
that holds nodes is an object too. What members a wrapping node may have besides its fields is left
open: `fits` says so, given the names of the fields. -/
inductive NodeForm (fits : List String → List (String × Json) → Prop) : Json → Prop
  | kept {json : Json} (hkept : nodeOfJson json = .other json) : NodeForm fits json
  | leaf {kind : String} {content : Json} {node : Node} (hleaf : leafOf? kind content = some node) :
    NodeForm fits (tagged kind content)
  | element {members : List (String × Json)}
    (hvalues : ∀ name ∈ ["attrs", "style"], ∀ values,
      members.lookup name = some (.object values) → ∀ value ∈ values, ValueForm value.2)
    (hchildren : ∀ items, members.lookup "children" = some (.array items) →
      ∀ item ∈ items, NodeForm fits item) :
    NodeForm fits (tagged "element" (.object members))
  | wrapper {kind : String} {wrapper : Wrapper} {members : List (String × Json)}
    (hkind : wrapper? kind = some wrapper)
    (hfits : fits ["node", wrapper.first, wrapper.second] members)
    (hnode : ∀ inner, members.lookup "node" = some inner → NodeForm fits inner) :
    NodeForm fits (tagged kind (.object members))
  | slot {members : List (String × Json)} (hfits : fits ["name", "fallback"] members)
    (hfallback : ∀ inner, members.lookup "fallback" = some inner → NodeForm fits inner) :
    NodeForm fits (tagged "slot" (.object members))

/-- A value in its written form is written as it was received. -/
theorem toJson_ofJson_of_valueForm {json : Json} (h : ValueForm json) :
    (Value.ofJson json).toJson = json := by
  rcases Value.ofJson_cases json with hother | ⟨kind, content, htag, hvalue⟩
  · rw [hother]
    rfl
  · rcases h with hother | ⟨kind', content', rfl⟩
    · rw [hother]
      rfl
    · obtain ⟨rfl, rfl⟩ : kind' = kind ∧ content' = content := by simpa using htag
      exact Value.toJson_of_ofContent? hvalue

/-! ## Nodes that are written as they were received -/

/-- An element is written as it was received exactly if its children are. -/
theorem elementToJson_eq_iff {m : KeyMap Json} {element : Element}
    (hplain : (Json.object m.entries).IsPlain)
    (hvalues : ∀ name ∈ ["attrs", "style"], ∀ values,
      m.get? name = some (.object values) → ∀ value ∈ values, ValueForm value.2)
    (h : elementOfJson (.object m.entries) = .ok element) :
    elementToJson element = .object m.entries ↔
      ∀ items, m.get? "children" = some (.array items) →
        ∀ item ∈ items, (nodeOfJson item).toJson = item := by
  obtain ⟨_, ⟨⟩, ⟨hattrs, hchildren, htype, hname, hstyle⟩, hextra⟩ :=
    elementOfJson_eq_ok_iff.mp h
  have htypes : some (Json.text element.elementType) = m.get? "elementType" :=
    (restores_field_iff htype).mpr fun json _ ↦ restores_text json
  have hnames : element.name.map .text = m.get? "name" :=
    (restores_optional_iff hplain hname).mpr fun json _ ↦ restores_text json
  have hmaps {name : String} (hmem : name ∈ ["attrs", "style"]) {values : Option (KeyMap Value)}
      (hread : Decode.optional (Decode.map fun json ↦ .ok (Value.ofJson json)) m.entries name =
        .ok values) : values.map valuesToJson = m.get? name := by
    refine (restores_optional_map_iff hplain hread).mpr fun inner hinner member hmember ↦ ?_
    rintro _ ⟨⟩
    exact toJson_ofJson_of_valueForm (hvalues name hmem inner hinner member hmember)
  have hnodes : (element.children.map fun nodes ↦ .array (nodes.map Node.toJson)) =
      m.get? "children" ↔ ∀ items, m.get? "children" = some (.array items) →
        ∀ item ∈ items, (nodeOfJson item).toJson = item := by
    rw [KeyMap.get?, restores_optional_iff hplain hchildren]
    constructor
    · exact fun hrestores items hitems ↦ restores_nodeList_iff.mp (hrestores (.array items) hitems)
    · intro hitems json hjson nodes hread
      obtain ⟨items, rfl, -⟩ := nodeList_eq_ok_iff.mp hread
      exact restores_nodeList_iff.mpr (hitems items hjson) nodes hread
  rw [elementToJson_eq, ← hextra,
    ofMembers_others_eq_object_iff (get?_fields_of_not_mem element), ← hnodes]
  simp only [elementFields, List.forall_mem_cons, ElementOf.fields]
  simp [htypes, hnames, hmaps (by decide) hattrs, hmaps (by decide) hstyle]

theorem tagged_inj {kind : String} {content content' : Json} :
    tagged kind content = tagged kind content' ↔ content = content' := by
  simp [tagged]

/-- An element is kept, or it is written as it was received exactly if its children are. -/
theorem kept_or_element_iff {m : KeyMap Json} (hplain : (Json.object m.entries).IsPlain)
    (hvalues : ∀ name ∈ ["attrs", "style"], ∀ values,
      m.get? name = some (.object values) → ∀ value ∈ values, ValueForm value.2) :
    let json := tagged "element" (.object m.entries)
    nodeOfJson json = .other json ∨
      ((nodeOfJson json).toJson = json ↔ ∀ items, m.get? "children" = some (.array items) →
        ∀ item ∈ items, (nodeOfJson item).toJson = item) := by
  intro json
  cases hread : elementOfJson (.object m.entries) with
  | error _ =>
    exact .inl (nodeOfJson_tagged_of_none
      (by rw [nodeOfContent_element, hread, Except.toOption, Option.map_none]))
  | ok element =>
    refine .inr ?_
    rw [← elementToJson_eq_iff hplain hvalues hread, nodeOfJson_tagged, nodeOfContent_element,
      hread]
    exact tagged_inj

/-- A wrapping node is kept, or it is written as it was received exactly if the node in it is and it
has no members that are no fields. -/
theorem kept_or_wrapper_iff {kind : String} {wrapper : Wrapper}
    (hkind : wrapper? kind = some wrapper) {m : KeyMap Json}
    (hplain : (Json.object m.entries).IsPlain) :
    let json := tagged kind (.object m.entries)
    nodeOfJson json = .other json ∨ ∃ inner, m.get? "node" = some inner ∧
      ((nodeOfJson json).toJson = json ↔ (nodeOfJson inner).toJson = inner ∧
        HasOnly ["node", wrapper.first, wrapper.second] m.entries) := by
  intro json
  cases hinner : m.get? "node" with
  | none =>
    exact .inl (nodeOfJson_tagged_of_none
      (by rw [nodeOfContent_of_wrapper? hkind, m.lookup_entries, hinner, Option.map_none]))
  | some inner =>
    refine .inr ⟨inner, rfl, ?_⟩
    obtain ⟨hnode, hfirst, hsecond⟩ := get?_wrapperFields hkind (nodeOfJson inner).toJson
      (m.get? wrapper.first) (m.get? wrapper.second)
    have hfields : ∀ key ∉ ["node", wrapper.first, wrapper.second],
        (KeyMap.ofList (("node", (nodeOfJson inner).toJson) ::
          Json.member wrapper.first (m.get? wrapper.first) ++
          Json.member wrapper.second (m.get? wrapper.second))).get? key = none := by
      intro key hkey
      simp at hkey
      simp [hkey]
    rw [nodeOfJson_tagged, nodeOfContent_of_wrapper? hkind, m.lookup_entries, hinner,
      Option.map_some, Option.getD_some, toJson_make hkind, hplain.passed, hplain.passed,
      m.lookup_entries, m.lookup_entries, tagged_inj, wrapperJson,
      ofMembers_eq_object_iff_of_fields hfields]
    simp only [List.forall_mem_cons, hnode, hfirst, hsecond, hinner, HasOnly]
    simp

/-- A slot is kept, or it is written as it was received exactly if its fallback is and it has no
members that are no fields. -/
theorem kept_or_slot_iff {m : KeyMap Json} (hplain : (Json.object m.entries).IsPlain) :
    let json := tagged "slot" (.object m.entries)
    nodeOfJson json = .other json ∨
      ((nodeOfJson json).toJson = json ↔
        (∀ inner, m.get? "fallback" = some inner → (nodeOfJson inner).toJson = inner) ∧
          HasOnly ["name", "fallback"] m.entries) := by
  intro json
  cases hname : slotName? (m.get? "name") with
  | none =>
    exact .inl (nodeOfJson_tagged_of_none
      (by rw [nodeOfContent_slot, m.lookup_entries, hname, Option.map_none]))
  | some name =>
    refine .inr ?_
    have hfields {fallback : Option Node} : ∀ key ∉ ["name", "fallback"],
        (KeyMap.ofList (Json.member "name" (name.map .text) ++
          Json.member "fallback" (fallback.map Node.toJson))).get? key = none := by
      intro key hkey
      simp at hkey
      simp [hkey]
    have hnames : name.map .text = m.get? "name" := by
      cases hjson : m.get? "name" with
      | none => simpa [hjson, slotName?, eq_comm] using hname
      | some json =>
        have hnull := (hplain.lookup hjson).ne_null
        cases json <;> simp_all [slotName?, eq_comm]
    rw [nodeOfJson_tagged, nodeOfContent_slot, m.lookup_entries, hname, Option.map_some,
      Option.getD_some, hplain.passed, m.lookup_entries, Node.toJson, fallbackToJson_eq_map,
      tagged_inj, ofMembers_eq_object_iff_of_fields hfields]
    cases hfallback : m.get? "fallback" <;> simp [hnames, hfallback, HasOnly]

/-- A node in one of the forms is written as it was received if its wrapping nodes have no members
that are no fields. -/
theorem toJson_nodeOfJson_of_form {json : Json} (h : NodeForm HasOnly json)
    (hplain : json.IsPlain) : (nodeOfJson json).toJson = json := by
  have hkept {json : Json} (hother : nodeOfJson json = .other json) :
      (nodeOfJson json).toJson = json := by
    rw [hother]
    rfl
  induction h with
  | kept hother => exact hkept hother
  | leaf hleaf =>
    rw [nodeOfJson_tagged, nodeOfContent_of_leafOf? hleaf, Option.getD_some,
      toJson_of_leafOf? hleaf]
  | element hvalues hchildren ih =>
    obtain ⟨m, rfl⟩ := hplain.content.exists_keyMap
    rcases kept_or_element_iff hplain.content hvalues with hother | hiff
    · exact hkept hother
    · exact hiff.mpr fun items hitems item hitem ↦
        ih items hitems item hitem ((hplain.content.lookup hitems).item hitem)
  | wrapper hkind hfits hnode ih =>
    obtain ⟨m, rfl⟩ := hplain.content.exists_keyMap
    rcases kept_or_wrapper_iff hkind hplain.content with hother | ⟨inner, hinner, hiff⟩
    · exact hkept hother
    · exact hiff.mpr ⟨ih inner hinner (hplain.content.lookup hinner), hfits⟩
  | slot hfits hfallback ih =>
    obtain ⟨m, rfl⟩ := hplain.content.exists_keyMap
    rcases kept_or_slot_iff hplain.content with hother | hiff
    · exact hkept hother
    · exact hiff.mpr ⟨fun inner hinner ↦ ih inner hinner (hplain.content.lookup hinner), hfits⟩

/-- Conversely, the wrapping nodes of a node that is written as it was received have no such
members. -/
theorem form_of_toJson_nodeOfJson {json : Json} (h : NodeForm (fun _ _ ↦ True) json)
    (hplain : json.IsPlain) (hjson : (nodeOfJson json).toJson = json) : NodeForm HasOnly json := by
  induction h with
  | kept hother => exact .kept hother
  | leaf hleaf => exact .leaf hleaf
  | element hvalues hchildren ih =>
    obtain ⟨m, rfl⟩ := hplain.content.exists_keyMap
    rcases kept_or_element_iff hplain.content hvalues with hother | hiff
    · exact .kept hother
    · exact .element hvalues fun items hitems item hitem ↦ ih items hitems item hitem
        ((hplain.content.lookup hitems).item hitem) (hiff.mp hjson items hitems item hitem)
  | wrapper hkind hfits hnode ih =>
    obtain ⟨m, rfl⟩ := hplain.content.exists_keyMap
    rcases kept_or_wrapper_iff hkind hplain.content with hother | ⟨inner, hinner, hiff⟩
    · exact .kept hother
    · obtain ⟨hrestored, honly⟩ := hiff.mp hjson
      refine .wrapper hkind honly fun other hlookup ↦ ?_
      obtain rfl := Option.some.inj (hinner.symm.trans hlookup)
      exact ih inner hlookup (hplain.content.lookup hlookup) hrestored
  | slot hfits hfallback ih =>
    obtain ⟨m, rfl⟩ := hplain.content.exists_keyMap
    rcases kept_or_slot_iff hplain.content with hother | hiff
    · exact .kept hother
    · obtain ⟨hrestored, honly⟩ := hiff.mp hjson
      exact .slot honly fun inner hinner ↦
        ih inner hinner (hplain.content.lookup hinner) (hrestored inner hinner)

end Ui

end MarkupIslands
