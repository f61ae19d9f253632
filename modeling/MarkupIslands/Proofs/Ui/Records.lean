import MarkupIslands.Proofs.Json.Lookup
import MarkupIslands.Ui.Project

/-!
# Records as objects

A record is written as the object of its fields, and some records carry along the members that are
no fields of theirs. Here is what each way of reading a field comes to, by what the name of the
field looks up, and when the object of a record is the object that the record was read from.
-/

namespace MarkupIslands.Ui

variable {α : Type}

theorem bind_eq_ok_iff {β : Type} {first : Decoded α} {next : α → Decoded β} {value : β} :
    (first >>= next) = .ok value ↔ ∃ a, first = .ok a ∧ next a = .ok value := by
  cases first <;> simp [bind, Except.bind]

theorem pure_eq_ok_iff {a value : α} : (pure a : Decoded α) = .ok value ↔ a = value :=
  Except.ok.injEq a value ▸ Iff.rfl

/-! ## Reading a field -/

theorem passed_eq_some_iff {members : List (String × Json)} {name : String} {json : Json} :
    passed members name = some json ↔ members.lookup name = some json ∧ json ≠ .null := by
  unfold passed
  split
  · rename_i h
    rw [h]
    simp +contextual [eq_comm]
  · rename_i h
    constructor
    · rintro hlookup
      exact ⟨hlookup, fun hnull ↦ h (hnull ▸ hlookup)⟩
    · exact And.left

theorem passed_of_ne_null {members : List (String × Json)} {name : String}
    (h : members.lookup name ≠ some .null) : passed members name = members.lookup name := by
  unfold passed
  split
  · contradiction
  · rfl

theorem passed_eq_lookup_iff {members : List (String × Json)} {name : String} :
    passed members name = members.lookup name ↔ members.lookup name ≠ some .null := by
  refine ⟨fun h hnull ↦ ?_, passed_of_ne_null⟩
  rw [hnull] at h
  exact (passed_eq_some_iff.mp h).2 rfl

namespace Decode

variable {decode : Json → Decoded α} {members : List (String × Json)} {name : String}

theorem field_eq_ok_iff {value : Option α} :
    field decode members name = .ok value ↔
      (members.lookup name).map decode = value.map .ok := by
  unfold field
  cases members.lookup name with
  | none => cases value <;> simp
  | some json =>
    cases h : decode json <;> cases value <;> simp [h, bind, Except.bind, pure, Except.pure]

theorem orNull_of_ne_null {json : Json} (h : json ≠ .null) :
    orNull decode json = (decode json).map some := by
  cases json with
  | null => contradiction
  | _ => rfl

/-- An optional field reads unless it is there, is not null and does not fit. -/
theorem optional_eq_ok_iff {value : Option α} :
    optional decode members name = .ok value ↔
      (passed members name).map decode = value.map .ok := by
  unfold optional field
  cases hlookup : members.lookup name with
  | none =>
    rw [passed_of_ne_null (by simp [hlookup]), hlookup]
    cases value <;> simp [bind, Except.bind, pure, Except.pure]
  | some json =>
    by_cases hnull : json = .null
    · subst hnull
      have hpassed : passed members name = none := by simp [passed, hlookup]
      cases value <;> simp [hpassed, orNull, bind, Except.bind, pure, Except.pure]
    · rw [passed_of_ne_null (by simpa [hlookup] using hnull), hlookup]
      cases h : decode json <;> cases value <;>
        simp [orNull_of_ne_null hnull, h, Except.map, bind, Except.bind, pure, Except.pure]

theorem require_eq_ok_iff {given : Option α} {value : α} :
    require name given = .ok value ↔ given = some value := by
  cases given <;> simp [require]

theorem text_eq_ok_iff {json : Json} {value : String} :
    text json = .ok value ↔ json = .text value := by
  cases json <;> simp [text, wrongType]

theorem boolean_eq_ok_iff {json : Json} {value : Bool} :
    boolean json = .ok value ↔ json = .boolean value := by
  cases json <;> simp [boolean, wrongType]

theorem field_of_lookup {json : Json} {value : α} (h : members.lookup name = some json) :
    field decode members name = .ok (some value) ↔ decode json = .ok value := by
  simp [field_eq_ok_iff, h]

/-- A field that was written is read back if its value is. -/
theorem optional_of_lookup {encode : α → Json} {value : Option α}
    (h : members.lookup name = value.map encode) (hnull : ∀ a, encode a ≠ .null) :
    optional decode members name = .ok value ↔ ∀ a ∈ value, decode (encode a) = .ok a := by
  have hpassed : passed members name = value.map encode := by
    rw [← h]
    apply passed_of_ne_null
    cases value <;> simp [h, hnull]
  rw [optional_eq_ok_iff, hpassed]
  cases value <;> simp

theorem exists_of_optional {value : Option α} (h : optional decode members name = .ok value) :
    ∀ a ∈ value, ∃ json, members.lookup name = some json ∧ decode json = .ok a := by
  rintro a rfl
  obtain ⟨json, hpassed, hread⟩ := Option.map_eq_some_iff.mp (optional_eq_ok_iff.mp h)
  exact ⟨json, (passed_eq_some_iff.mp hpassed).1, hread⟩

theorem exists_of_field {value : Option α} (h : field decode members name = .ok value) :
    ∀ a ∈ value, ∃ json, members.lookup name = some json ∧ decode json = .ok a := by
  rintro a rfl
  exact Option.map_eq_some_iff.mp (field_eq_ok_iff.mp h)

theorem exists_of_item_orNull {items : List Json} {index : Nat} {value : Option (Option α)}
    (h : item (orNull decode) items index = .ok value) :
    ∀ a, value = some (some a) → ∃ json, decode json = .ok a := by
  rintro a rfl
  unfold item at h
  split at h
  · cases h
  · rename_i json _
    obtain ⟨found, hfound, heq⟩ := bind_eq_ok_iff.mp h
    obtain rfl := Option.some.inj (pure_eq_ok_iff.mp heq)
    by_cases hnull : json = .null
    · subst hnull; cases hfound
    · rw [orNull_of_ne_null hnull] at hfound
      cases hread : decode json with
      | error _ => simp [hread, Except.map] at hfound
      | ok found =>
        rw [hread] at hfound
        cases hfound
        exact ⟨json, hread⟩

/-! ## Reading a map -/

/-- The members of an object are read as the given entries. -/
def Reads (decode : Json → Decoded α) : List (String × Json) → List (String × α) → Prop :=
  List.Forall₂ fun member entry ↦ member.1 = entry.1 ∧ decode member.2 = .ok entry.2

theorem mapM_eq_ok_iff {entries : List (String × α)} :
    (members.mapM fun member ↦ do return (member.1, ← decode member.2)) = .ok entries ↔
      Reads decode members entries := by
  induction members generalizing entries with
  | nil => rw [List.mapM_nil, pure_eq_ok_iff, Reads, List.forall₂_nil_left_iff, eq_comm]
  | cons member rest ih =>
    rw [List.mapM_cons, Reads, List.forall₂_cons_left_iff]
    simp only [bind_eq_ok_iff, pure_eq_ok_iff, ih]
    constructor
    · rintro ⟨_, ⟨value, hvalue, rfl⟩, entries, hentries, rfl⟩
      exact ⟨(member.1, value), entries, ⟨rfl, hvalue⟩, hentries, rfl⟩
    · rintro ⟨⟨_, value⟩, entries, ⟨rfl, hvalue⟩, hentries, rfl⟩
      exact ⟨_, ⟨value, hvalue, rfl⟩, entries, hentries, rfl⟩

theorem map_object_eq_ok_iff {map : KeyMap α} :
    Decode.map decode (.object members) = .ok map ↔
      ∃ entries, Reads decode members entries ∧ .ofList entries = map := by
  simp only [Decode.map, bind_eq_ok_iff, pure_eq_ok_iff, mapM_eq_ok_iff]

/-- Reading members one by one keeps the order, so the first entry of a key stays the first. -/
theorem Reads.lookup {entries : List (String × α)} (h : Reads decode members entries)
    (key : String) : (members.lookup key).map decode = (entries.lookup key).map .ok := by
  induction h with
  | nil => rfl
  | cons hfirst _ ih =>
    rw [lookup_entry_cons, lookup_entry_cons, ← hfirst.1]
    split
    · exact congrArg some hfirst.2
    · exact ih

/-- Members that can be read one by one can be read together. -/
theorem exists_reads (h : ∀ member ∈ members, ∃ value, decode member.2 = .ok value) :
    ∃ entries, Reads decode members entries := by
  induction members with
  | nil => exact ⟨[], .nil⟩
  | cons member rest ih =>
    obtain ⟨value, hvalue⟩ := h member List.mem_cons_self
    obtain ⟨entries, hentries⟩ := ih fun other hmem ↦ h other (List.mem_cons_of_mem _ hmem)
    exact ⟨(member.1, value) :: entries, .cons ⟨rfl, hvalue⟩ hentries⟩

theorem Reads.exists_of_mem {entries : List (String × α)} (h : Reads decode members entries) :
    ∀ member ∈ members, ∃ value, decode member.2 = .ok value := by
  induction h with
  | nil => simp
  | cons hfirst _ ih => exact List.forall_mem_cons.mpr ⟨⟨_, hfirst.2⟩, ih⟩

/-- What a map looks up is read from what the object looks up. -/
theorem get?_of_map_eq_ok {map : KeyMap α} (h : Decode.map decode (.object members) = .ok map)
    (key : String) :
    ((KeyMap.ofList members).get? key).map decode = (map.get? key).map .ok := by
  obtain ⟨entries, hentries, rfl⟩ := map_object_eq_ok_iff.mp h
  rw [KeyMap.get?_ofList, KeyMap.get?_ofList]
  exact Reads.lookup (List.rel_reverse hentries) key

/-- The values of a map have been read. -/
theorem exists_of_map {json : Json} {map : KeyMap α} (h : Decode.map decode json = .ok map) :
    ∀ value ∈ map.values, ∃ inner, decode inner = .ok value := by
  intro value hmem
  obtain ⟨key, hkey⟩ := (map.mem_values_iff value).mp hmem
  cases json with
  | object members =>
    have hread := get?_of_map_eq_ok h key
    rw [hkey] at hread
    obtain ⟨inner, -, hinner⟩ := Option.map_eq_some_iff.mp hread
    exact ⟨inner, hinner⟩
  | _ => simp [Decode.map, wrongType] at h

/-- An object is read as a map exactly if each of its keys is read as what the map looks up. -/
theorem map_ofKeyMap_eq_ok_iff {json : KeyMap Json} {map : KeyMap α} :
    Decode.map decode (.ofKeyMap json) = .ok map ↔
      ∀ key, (json.get? key).map decode = (map.get? key).map .ok := by
  constructor
  · intro h key
    rw [← get?_of_map_eq_ok h, KeyMap.ofList_entries]
  · intro h
    have hread : ∀ member ∈ json.entries, ∃ value, decode member.2 = .ok value := by
      rintro ⟨key, value⟩ hmem
      have hkey := h key
      rw [(json.mem_entries_iff key value).mp hmem] at hkey
      cases hmap : map.get? key <;> simp [hmap] at hkey
      exact ⟨_, hkey⟩
    obtain ⟨entries, hentries⟩ := exists_reads hread
    have hmap : Decode.map decode (.ofKeyMap json) = .ok (.ofList entries) :=
      map_object_eq_ok_iff.mpr ⟨entries, hentries, rfl⟩
    rw [hmap]
    congr 1
    apply KeyMap.ext_get?
    intro key
    apply Option.map_injective (f := (.ok : α → Decoded α)) fun _ _ ↦ Except.ok.inj
    rw [← get?_of_map_eq_ok hmap, KeyMap.ofList_entries, h]

/-- A map that was written is read back if each of its values is. -/
theorem map_ofKeyMap_map_eq_ok_iff {encode : α → Json} {map : KeyMap α} :
    Decode.map decode (.ofKeyMap (map.map encode)) = .ok map ↔
      ∀ a ∈ map.values, decode (encode a) = .ok a := by
  simp only [map_ofKeyMap_eq_ok_iff, KeyMap.get?_map, KeyMap.mem_values_iff, Option.map_map]
  constructor
  · rintro h a ⟨key, hkey⟩
    simpa [hkey] using h key
  · intro h key
    cases hkey : map.get? key with
    | none => rfl
    | some a => simpa using h a ⟨key, hkey⟩

end Decode

/-! ## Writing a record -/

@[simp]
theorem get?_ofList_member (key : String) (value : Option Json) (other : String) :
    (KeyMap.ofList (Json.member key value)).get? other = if other = key then value else none := by
  cases value with
  | none => simp [Json.member]
  | some json => simp [Json.member]

theorem get?_others (known : List String) (members : List (String × Json)) (key : String) :
    (Decode.others known members).get? key =
      if key ∈ known then none else (KeyMap.ofList members).get? key := by
  rw [Decode.others, KeyMap.get?_ofList_filter fun key ↦ !known.contains key]
  simp

section

variable {known : List String} {fields : List (String × Json)}

/-- A field of a record is looked up among its fields, if none of the members carried along has its
name. -/
theorem lookup_record {extra : KeyMap Json} (hextra : ∀ key ∈ known, extra.get? key = none)
    {key : String} (hkey : key ∈ known) :
    (KeyMap.ofList (fields ++ extra.entries)).entries.lookup key =
      (KeyMap.ofList fields).get? key := by
  change (KeyMap.ofList (fields ++ extra.entries)).get? key = _
  rw [KeyMap.get?_ofList_append, KeyMap.ofList_entries, hextra key hkey, Option.none_or]

/-- The members carried along are found again, exactly if none of them has the name of a field. -/
theorem others_record_eq_iff (hfields : ∀ key ∉ known, (KeyMap.ofList fields).get? key = none)
    {extra : KeyMap Json} :
    Decode.others known (KeyMap.ofList (fields ++ extra.entries)).entries = extra ↔
      ∀ key ∈ known, extra.get? key = none := by
  constructor
  · intro h key hkey
    rw [← h, get?_others, if_pos hkey]
  · intro hextra
    apply KeyMap.ext_get?
    intro key
    rw [get?_others, KeyMap.ofList_entries, KeyMap.get?_ofList_append, KeyMap.ofList_entries]
    split
    · exact (hextra key ‹_›).symm
    · rw [hfields key ‹_›, Option.or_none]

/-- A record is read back exactly if its fields are and none of the members carried along has the
name of a field. -/
theorem reads_record_iff {extra : KeyMap Json} {read : List (String × Json) → Prop} {good : Prop}
    (hfields : ∀ key ∉ known, (KeyMap.ofList fields).get? key = none)
    (hread : ∀ members : List (String × Json),
      (∀ key ∈ known, members.lookup key = (KeyMap.ofList fields).get? key) →
        (read members ↔ good)) :
    (∃ members, Json.ofMembers (fields ++ extra.entries) = .object members ∧ read members ∧
      Decode.others known members = extra) ↔
        good ∧ ∀ key ∈ known, extra.get? key = none := by
  have hothers : Decode.others known _ = extra ↔ _ := others_record_eq_iff hfields
  constructor
  · rintro ⟨_, ⟨⟩, hmembers, hextra⟩
    have hextra := hothers.mp hextra
    exact ⟨(hread _ fun _ ↦ lookup_record hextra).mp hmembers, hextra⟩
  · rintro ⟨hgood, hextra⟩
    exact ⟨_, rfl, (hread _ fun _ ↦ lookup_record hextra).mpr hgood, hothers.mpr hextra⟩

/-- Two objects are the same if they have the same members under each key. -/
theorem ofMembers_eq_object_iff {m : KeyMap Json} :
    Json.ofMembers fields = .object m.entries ↔
      ∀ key, (KeyMap.ofList fields).get? key = m.get? key := by
  rw [Json.ofMembers, Json.object.injEq]
  constructor
  · intro h key
    rw [KeyMap.ext h]
  · exact fun h ↦ congrArg KeyMap.entries (KeyMap.ext_get? h)

/-- A record that carries other members along is written as the object it was read from, exactly if
each of its fields is. -/
theorem ofMembers_others_eq_object_iff
    (hfields : ∀ key ∉ known, (KeyMap.ofList fields).get? key = none) {m : KeyMap Json} :
    Json.ofMembers (fields ++ (Decode.others known m.entries).entries) = .object m.entries ↔
      ∀ key ∈ known, (KeyMap.ofList fields).get? key = m.get? key := by
  rw [ofMembers_eq_object_iff]
  refine forall_congr' fun key ↦ ?_
  rw [KeyMap.get?_ofList_append, KeyMap.ofList_entries, get?_others, KeyMap.ofList_entries]
  by_cases hkey : key ∈ known
  · simp [hkey]
  · simp [hkey, hfields key hkey]

/-- A record that drops other members is written as the object it was read from, exactly if each of
its fields is and the object has no other members. -/
theorem ofMembers_eq_object_iff_of_fields
    (hfields : ∀ key ∉ known, (KeyMap.ofList fields).get? key = none) {m : KeyMap Json} :
    Json.ofMembers fields = .object m.entries ↔
      (∀ key ∈ known, (KeyMap.ofList fields).get? key = m.get? key) ∧
        ∀ member ∈ m.entries, member.1 ∈ known := by
  rw [ofMembers_eq_object_iff]
  constructor
  · refine fun h ↦ ⟨fun key _ ↦ h key, fun member hmem ↦ ?_⟩
    by_contra hunknown
    have hlookup := (m.mem_entries_iff member.1 member.2).mp hmem
    rw [← h, hfields _ hunknown] at hlookup
    cases hlookup
  · rintro ⟨hknown, hmembers⟩ key
    by_cases hkey : key ∈ known
    · exact hknown key hkey
    · rw [hfields key hkey]
      cases hlookup : m.get? key with
      | none => rfl
      | some json => exact absurd (hmembers _ ((m.mem_entries_iff key json).mpr hlookup)) hkey

end

end MarkupIslands.Ui
