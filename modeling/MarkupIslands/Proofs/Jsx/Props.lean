import MarkupIslands.Proofs.Jsx.ObjectLiteral
import MarkupIslands.Proofs.Jsx.TextReading
import MarkupIslands.Proofs.Json.Lookup

/-!
# From properties to props

The attributes of an element are read by its component as props. An attribute that JSX can spell is
read by its name, a spread by the keys of its object. Every property that is not switched off
becomes one prop with the value of the property, be it written as an attribute or in a spread.
-/

namespace MarkupIslands.Jsx

open MarkupIslands.Text

inductive PropValue
  | on
  | text (value : String)
  | object (entries : List (List Char × List Char))
deriving DecidableEq, Repr

/-! ## Reading attributes -/

def readValue? : Reader PropValue := fun source ↦
  match skipBlanks source with
  | '"' :: body => (unquoteBody? body).map fun read ↦ (.text (String.ofList read.1), read.2)
  | '{' :: inside => (readInside? readLiteral? inside).map fun read ↦ (.object read.1, read.2)
  | 't' :: 'r' :: 'u' :: 'e' :: rest => some (.on, rest)
  | _ => none

variable (references : References)

/-- The prop value of an attribute. Character references stand in a text between quotes as they do
between tags. -/
def AttributeValue.prop? : AttributeValue → Option PropValue
  | .bare => some .on
  | .text value => some (.text (String.ofList (decodeReferences references value.toList)))
  | .expression source => readWhole? readValue? source.toList

/-- The props of one attribute in their order. -/
def Attribute.props? : Attribute → Option (List (String × PropValue))
  | .named name value => (value.prop? references).map fun prop ↦ [(name, prop)]
  | .spread object => (readWhole? (readObject? readValue?) object.toList).map
      (List.map fun entry ↦ (String.ofList entry.1, entry.2))

/-- The props of an element, its attributes read from left to right. -/
def props? : List Attribute → Option (List (String × PropValue))
  | [] => some []
  | attr :: rest => do
    let props ← attr.props? references
    let others ← props? rest
    return props ++ others

/-! ## The props of properties -/

def propOfText (name value : String) : PropValue :=
  if name.toLower = "style" then .object (Style.entries value.toList)
  else if value.isEmpty && Markup.isBooleanAttribute name then .on
  else .text value

/-- The prop of a property; a switch that is off has none. -/
def propOf? (name : String) : Markup.PropertyValue → Option (String × PropValue)
  | .switch false => none
  | .switch true => some (attributeName name, .on)
  | .text value => some (attributeName name, propOfText name value)

def propsOf (properties : Markup.Properties) : List (String × PropValue) :=
  properties.entries.filterMap fun entry ↦ propOf? entry.1 entry.2

def spelledProps (properties : Markup.Properties) : List (String × PropValue) :=
  (propsOf properties).filter fun prop ↦ isSpellable prop.1.toList

def spreadProps (properties : Markup.Properties) : List (String × PropValue) :=
  (propsOf properties).filter fun prop ↦ !isSpellable prop.1.toList

/-! ## Names -/

/-- The names that component frameworks spell in their own way. -/
def frameworkNames : List String := attributeSpellings.map Prod.snd

theorem nodup_frameworkNames : frameworkNames.Nodup := by
  decide

/-- A name is looked up in lower case, or kept as it is. -/
theorem attributeName_cases (name : String) :
    (name.toLower, attributeName name) ∈ attributeSpellings ∨ attributeName name = name := by
  unfold attributeName
  cases hlookup : attributeSpellings.lookup name.toLower with
  | none => exact .inr rfl
  | some spelling => exact .inl (mem_of_lookup hlookup)

/-- Two names that are no framework names get the same spelling only if they differ in case
alone. -/
theorem toLower_eq_of_attributeName_eq {first second : String} (hfirst : first ∉ frameworkNames)
    (hsecond : second ∉ frameworkNames) (h : attributeName first = attributeName second) :
    first.toLower = second.toLower := by
  -- a spelling from the table that is also a name kept as it is would be a framework name
  obtain hentry | hkept := attributeName_cases first
  · obtain hentry' | hkept' := attributeName_cases second
    · exact congrArg Prod.fst (List.inj_on_of_nodup_map nodup_frameworkNames hentry hentry' h)
    · rw [h, hkept'] at hentry
      exact absurd (List.mem_map_of_mem hentry) hsecond
  · obtain hentry' | hkept' := attributeName_cases second
    · rw [← h, hkept] at hentry'
      exact absurd (List.mem_map_of_mem hentry') hfirst
    · rw [hkept, hkept'] at h
      exact congrArg String.toLower h

theorem fst_of_propOf? {name : String} {value : Markup.PropertyValue} {prop : String × PropValue}
    (h : propOf? name value = some prop) : prop.1 = attributeName name := by
  unfold propOf? at h
  split at h
  · cases h
  · obtain rfl := Option.some.inj h
    rfl
  · obtain rfl := Option.some.inj h
    rfl

/-- Props come in the order of the properties. -/
theorem sublist_map_fst_propsOf (properties : Markup.Properties) :
    ((propsOf properties).map Prod.fst).Sublist (properties.names.map attributeName) := by
  unfold propsOf Markup.Properties.names
  induction properties.entries with
  | nil => exact .slnil
  | cons entry entries ih =>
    rw [List.filterMap_cons]
    cases hprop : propOf? entry.1 entry.2 with
    | none => exact ih.cons _
    | some prop =>
      rw [List.map_cons, List.map_cons, List.map_cons, fst_of_propOf? hprop]
      exact ih.cons_cons _

/-- Names that differ in more than case give different props, unless framework names are among
them. -/
theorem nodup_map_fst_propsOf {properties : Markup.Properties}
    (hcase : (properties.names.map String.toLower).Nodup)
    (hnames : ∀ name ∈ properties.names, name ∉ frameworkNames) :
    ((propsOf properties).map Prod.fst).Nodup := by
  have hspelled : (properties.names.map attributeName).Nodup := by
    rw [List.Nodup, List.pairwise_map] at hcase ⊢
    refine hcase.imp_of_mem fun hfirst hsecond hne h ↦ hne ?_
    exact toLower_eq_of_attributeName_eq (hnames _ hfirst) (hnames _ hsecond) h
  exact hspelled.sublist (sublist_map_fst_propsOf properties)

/-! ## Values -/

theorem reads_text (value : String) :
    Reads readValue? (.text value) (quoteChars value.toList) := by
  intro rest
  have hliteral : readLiteral? (quoteChars value.toList ++ rest) = some (value.toList, rest) :=
    reads_quoteChars value.toList rest
  have hread : readValue? (quoteChars value.toList ++ rest) =
      (readLiteral? (quoteChars value.toList ++ rest)).map
        fun read ↦ (.text (String.ofList read.1), read.2) := rfl
  rw [hread, hliteral, Option.map_some, String.ofList_toList]

theorem reads_object (style : List Char) :
    Reads readValue? (.object (Style.entries style)) (Style.source style) := by
  intro rest
  have hobject := reads_source style rest
  obtain ⟨_, inside, hsource, rfl⟩ := beginsWith_objects Set.univ (Style.source style)
    ⟨_, fun _ _ ↦ Set.mem_univ _, rfl⟩
  rw [hsource, List.cons_append] at hobject ⊢
  have hinside : readInside? readLiteral? (inside ++ rest) = some (Style.entries style, rest) :=
    hobject
  have hread : readValue? ('{' :: (inside ++ rest)) =
      (readInside? readLiteral? (inside ++ rest)).map fun read ↦ (.object read.1, read.2) := rfl
  rw [hread, hinside, Option.map_some]

theorem reads_on : Reads readValue? .on "true".toList := fun _ ↦ rfl

/-- A value between quotes holds no character reference. -/
theorem ampersand_not_mem_of_not_needsQuoting {value : String} (h : needsQuoting value = false) :
    '&' ∉ value.toList := by
  intro hmem
  exact absurd (by decide) (List.any_eq_false.mp h '&' hmem)

/-- An attribute value in script source, as it stands in a spread. -/
def AttributeValue.source : AttributeValue → List Char
  | .bare => "true".toList
  | .text value => quoteChars value.toList
  | .expression source => source.toList

theorem spreadEntry_eq (name : String) (value : AttributeValue) :
    spreadEntry name value = quoteChars name.toList ++ ':' :: ' ' :: value.source := by
  cases value <;> rfl

/-- An attribute with the prop that it is read as, whether it is written on its own or spread. -/
structure Item where
  name : String
  value : AttributeValue
  prop : PropValue
  prop?_value : value.prop? references = some prop
  reads_value : Reads readValue? prop value.source

namespace Item

variable {references}

def spelling (item : Item references) : String × AttributeValue := (item.name, item.value)

def toProp (item : Item references) : String × PropValue := (item.name, item.prop)

def ofStyle (name : String) (style : List Char) : Item references where
  name := name
  value := .expression (String.ofList (Style.source style))
  prop := .object (Style.entries style)
  prop?_value := by
    rw [AttributeValue.prop?, String.toList_ofList, (reads_object style).whole]
  reads_value := by
    rw [AttributeValue.source, String.toList_ofList]
    exact reads_object style

def ofSwitch (name : String) : Item references where
  name := name
  value := .bare
  prop := .on
  prop?_value := rfl
  reads_value := reads_on

def ofQuoted (name value : String) : Item references where
  name := name
  value := .expression (quote value)
  prop := .text value
  prop?_value := by
    rw [AttributeValue.prop?, toList_quote, (reads_text value).whole]
  reads_value := by
    rw [AttributeValue.source, toList_quote]
    exact reads_text value

def ofPlain (name value : String) (h : needsQuoting value = false) : Item references where
  name := name
  value := .text value
  prop := .text value
  prop?_value := by
    rw [AttributeValue.prop?,
      decodeReferences_eq_self references (ampersand_not_mem_of_not_needsQuoting h),
      String.ofList_toList]
  reads_value := reads_text value

/-- A text property is read as its prop, be it an attribute or an entry of the spread. -/
theorem exists_of_text (references : References) (name value : String) : ∃ item : Item references,
    convertProperty name (.text value) = some item.spelling ∧
      propOf? name (.text value) = some item.toProp := by
  unfold convertProperty propOf? propOfText
  dsimp only
  split
  · exact ⟨ofStyle (attributeName name) value.toList, rfl, rfl⟩
  · split
    · exact ⟨ofSwitch (attributeName name), rfl, rfl⟩
    · split
      · exact ⟨ofQuoted (attributeName name) value, rfl, rfl⟩
      · rename_i hplain
        exact ⟨ofPlain (attributeName name) value (Bool.eq_false_iff.mpr hplain), rfl, rfl⟩

/-- Properties are converted to attributes that are read as the props of the properties. -/
theorem exists_of_entries (references : References)
    (entries : List (String × Markup.PropertyValue)) :
    ∃ items : List (Item references),
      entries.filterMap (fun entry ↦ convertProperty entry.1 entry.2) = items.map spelling ∧
        entries.filterMap (fun entry ↦ propOf? entry.1 entry.2) = items.map toProp := by
  induction entries with
  | nil => exact ⟨[], rfl, rfl⟩
  | cons entry entries ih =>
    obtain ⟨items, hconverted, hprops⟩ := ih
    obtain ⟨name, value⟩ := entry
    rw [List.filterMap_cons, List.filterMap_cons, hconverted, hprops]
    cases value with
    | switch isOn =>
      cases isOn with
      | false => exact ⟨items, rfl, rfl⟩
      | true => exact ⟨ofSwitch (attributeName name) :: items, rfl, rfl⟩
    | text value =>
      obtain ⟨item, hspelling, hprop⟩ := exists_of_text references name value
      rw [hspelling, hprop]
      exact ⟨item :: items, rfl, rfl⟩

end Item

/-! ## Attributes -/

variable {references}

def Item.named (item : Item references) : Attribute := .named item.name item.value

/-- The spread of some items, if there are any. -/
def spreadOf (items : List (Item references)) : List Attribute :=
  if items.isEmpty then []
  else [.spread (String.ofList (Style.objectSource
    (items.map fun item ↦ spreadEntry item.name item.value)))]

/-- The attributes of an element are the spelled items and one spread of all others. -/
theorem convertProperties_eq {properties : Markup.Properties} {items : List (Item references)}
    (h : properties.entries.filterMap (fun entry ↦ convertProperty entry.1 entry.2) =
      items.map Item.spelling) :
    convertProperties properties =
      (items.filter fun item ↦ isSpellable item.name.toList).map Item.named ++
        spreadOf (items.filter fun item ↦ !isSpellable item.name.toList) := by
  unfold convertProperties
  rw [h]
  simp only [List.partition_eq_filter_filter, List.filter_map, List.map_map, spreadOf,
    List.isEmpty_map]
  rfl

theorem props?_named_append (items : List (Item references)) (attrs : List Attribute) :
    props? references (items.map Item.named ++ attrs) =
      (props? references attrs).map (items.map Item.toProp ++ ·) := by
  induction items with
  | nil => simp
  | cons item items ih =>
    rw [List.map_cons, List.cons_append, props?, ih, Item.named, Attribute.props?,
      item.prop?_value]
    cases props? references attrs <;> rfl

theorem reads_spread (items : List (Item references)) :
    Reads (readObject? readValue?) (items.map fun item ↦ (item.name.toList, item.prop))
      (Style.objectSource (items.map fun item ↦ spreadEntry item.name item.value)) := by
  refine reads_objectSource fun item _ ↦ ?_
  rw [spreadEntry_eq]
  exact Reads.entry (fun _ ↦ rfl) (reads_quotedKey item.name.toList) item.reads_value

/-- The spread object is read back as the props of its entries. -/
theorem props?_spread (items : List (Item references)) :
    (Attribute.spread (String.ofList (Style.objectSource
      (items.map fun item ↦ spreadEntry item.name item.value)))).props? references =
        some (items.map Item.toProp) := by
  rw [Attribute.props?, String.toList_ofList, (reads_spread items).whole, Option.map_some,
    List.map_map]
  simp only [Function.comp_def, String.ofList_toList]
  rfl

/-- No spread stands for no items, and a single one for all others. -/
theorem spreadOf_cases (items : List (Item references)) :
    items.map Item.toProp = [] ∧ spreadOf items = [] ∨
      items.map Item.toProp ≠ [] ∧ ∃ object, spreadOf items = [.spread object] ∧
        (Attribute.spread object).props? references = some (items.map Item.toProp) := by
  cases items with
  | nil => exact .inl ⟨rfl, rfl⟩
  | cons item items => exact .inr ⟨List.cons_ne_nil _ _, _, rfl, props?_spread (item :: items)⟩

theorem props?_spreadOf (items : List (Item references)) :
    props? references (spreadOf items) = some (items.map Item.toProp) := by
  obtain ⟨hprops, hnone⟩ | ⟨-, object, hone, hread⟩ := spreadOf_cases items
  · rw [hprops, hnone, props?]
  · rw [hone, props?, hread, props?]
    simp

/-- The attributes of an element whose property names differ in more than case, and are no framework
names, are read as one prop for each property that is not switched off. The props have pairwise
different names. Those that JSX can spell come first, each with an attribute of its own, and all
others stand in one spread behind them, both in the order of the properties. -/
theorem props?_convertProperties {properties : Markup.Properties}
    (hcase : (properties.names.map String.toLower).Nodup)
    (hnames : ∀ name ∈ properties.names, name ∉ frameworkNames) :
    props? references (convertProperties properties) =
        some (spelledProps properties ++ spreadProps properties) ∧
      ((spelledProps properties ++ spreadProps properties).map Prod.fst).Nodup ∧
      ∃ (named : List (String × AttributeValue)) (spread : List Attribute),
        convertProperties properties =
            named.map (fun attr ↦ .named attr.1 attr.2) ++ spread ∧
          named.map Prod.fst = (spelledProps properties).map Prod.fst ∧
          (spreadProps properties = [] ∧ spread = [] ∨
            spreadProps properties ≠ [] ∧ ∃ object, spread = [.spread object] ∧
              (Attribute.spread object).props? references = some (spreadProps properties)) := by
  obtain ⟨items, hconverted, hprops⟩ := Item.exists_of_entries references properties.entries
  have hattrs := convertProperties_eq hconverted
  have hspelled : spelledProps properties =
      (items.filter fun item ↦ isSpellable item.name.toList).map Item.toProp := by
    rw [spelledProps, propsOf, hprops, List.filter_map]
    rfl
  have hspread : spreadProps properties =
      (items.filter fun item ↦ !isSpellable item.name.toList).map Item.toProp := by
    rw [spreadProps, propsOf, hprops, List.filter_map]
    rfl
  refine ⟨?_, ?_, ?_⟩
  · rw [hattrs, props?_named_append, props?_spreadOf, hspelled, hspread, Option.map_some]
  · have hperm : (spelledProps properties ++ spreadProps properties).Perm (propsOf properties) :=
      List.filter_append_perm _ _
    exact (hperm.map Prod.fst).nodup_iff.mpr (nodup_map_fst_propsOf hcase hnames)
  · refine ⟨(items.filter fun item ↦ isSpellable item.name.toList).map Item.spelling,
      spreadOf (items.filter fun item ↦ !isSpellable item.name.toList), ?_, ?_, ?_⟩
    · rw [hattrs, List.map_map]
      rfl
    · rw [hspelled, List.map_map, List.map_map]
      rfl
    · rw [hspread]
      exact spreadOf_cases _

/-- Properties with a name in capitals, names that JSX cannot spell and values of every kind. -/
def buttonProperties : Markup.Properties :=
  .ofList [("CLASS", .text "wide"), ("@click", .text "go(1)"), ("disabled", .text ""),
    ("checked", .switch false), ("style", .text "color: red; --gap: 1px"), ("hidden", .switch true),
    ("x-on:blur", .text "a && b"), ("title", .text "a \"b\"")]

/-- The props of a button are those of its properties, in their order. -/
theorem props?_buttonProperties :
    (buttonProperties.names.map String.toLower).Nodup ∧
      (∀ name ∈ buttonProperties.names, name ∉ frameworkNames) ∧
      props? (fun _ ↦ none) (convertProperties buttonProperties) =
        some [("className", .text "wide"), ("disabled", .on),
          ("style", .object [("color".toList, "red".toList), ("--gap".toList, "1px".toList)]),
          ("hidden", .on), ("title", .text "a \"b\""), ("@click", .text "go(1)"),
          ("x-on:blur", .text "a && b")] := by
  have hcase : (buttonProperties.names.map String.toLower).Nodup := by decide +kernel
  have hnames : ∀ name ∈ buttonProperties.names, name ∉ frameworkNames := by decide +kernel
  refine ⟨hcase, hnames, (props?_convertProperties hcase hnames).1.trans ?_⟩
  decide +kernel

end MarkupIslands.Jsx
