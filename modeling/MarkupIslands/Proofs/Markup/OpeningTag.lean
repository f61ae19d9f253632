import MarkupIslands.Markup.Parse
import MarkupIslands.Proofs.Markup.Building
import MarkupIslands.Proofs.Markup.Escaped
import MarkupIslands.Proofs.Markup.ShownForm

/-!
# Attributes in opening tags

The properties of an element keep the order in which their names were first written and hold what
was last written to them, so no name comes twice. In the text of a tree, the opening tag of each
element therefore has at most one attribute of every name: one for each property that is not
switched off.
-/

namespace MarkupIslands.Markup

/-! ## Attributes as text -/

/-- A text that holds one attribute for each of some names, in their order. The value of an
attribute stands between double quotes and holds none. -/
inductive HoldsAttributes : List String → List Char → Prop
  | none : HoldsAttributes [] []
  | bare (name : String) {names : List String} {text : List Char} :
    HoldsAttributes names text → HoldsAttributes (name :: names) (' ' :: (name.toList ++ text))
  | valued (name : String) {names : List String} {value text : List Char} :
    '"' ∉ value → HoldsAttributes names text →
      HoldsAttributes (name :: names)
        (' ' :: (name.toList ++ '=' :: '"' :: (value ++ '"' :: text)))

/-- The properties of an element are written as one attribute for each that is shown. -/
theorem holdsAttributes_writeEntries (entries : List (String × PropertyValue)) :
    HoldsAttributes ((entries.filterMap shownProperty?).map Prod.fst)
      (Html.writeEntries entries) := by
  induction entries with
  | nil => exact .none
  | cons entry entries ih =>
    obtain ⟨name, value⟩ := entry
    rw [Html.writeEntries, List.flatMap_cons, List.filterMap_cons]
    cases value with
    | switch isOn =>
      cases isOn with
      | false => exact ih
      | true => exact .bare name ih
    | text value =>
      rw [shownProperty?, PropertyValue.shown?, Html.writeProperty]
      by_cases hbare : (value.isEmpty && isBooleanAttribute name) = true
      · rw [if_pos hbare, if_pos hbare]
        exact .bare name ih
      · have hvalue := Html.quote_not_mem_flatMap_escapeValue value.toList
        have hattribute := HoldsAttributes.valued name hvalue ih
        rw [if_neg hbare, if_neg hbare]
        simpa [Html.writeEntries] using hattribute

/-! ## Reading attributes -/

/-- The characters that end a name in a tag. An equals sign does too, but not at its beginning. -/
def nameEnds : List Char := [' ', '\t', '\n', '\x0c', '\r', '/', '>']

/-- Where a reader of an opening tag stands. -/
inductive TagSpot
  | between
  | name (read : List Char)
  | equals
  | value

/-- The names of the attributes in the rest of an opening tag, as a browser comes to them. Values
stand between double quotes, and a name that comes again is read again. -/
def attributeNames : TagSpot → List Char → List String
  | .name read, [] => [String.ofList read]
  | .between, [] | .equals, [] | .value, [] => []
  | .between, c :: rest =>
    if c = '>' then []
    else if nameEnds.contains c then attributeNames .between rest
    else attributeNames (.name [c]) rest
  | .name read, c :: rest =>
    if c = '>' then [String.ofList read]
    else if nameEnds.contains c then String.ofList read :: attributeNames .between rest
    else if c = '=' then String.ofList read :: attributeNames .equals rest
    else attributeNames (.name (read ++ [c])) rest
  | .equals, _ :: rest => attributeNames .value rest
  | .value, c :: rest => attributeNames (if c = '"' then .between else .value) rest

/-- Whether a text is read as one name: it is not empty, and no character ends it. -/
def isOneName : List Char → Bool
  | [] => false
  | c :: rest => !nameEnds.contains c && rest.all fun c ↦ !nameEnds.contains c && c != '='

theorem ne_closing_of_not_ends {c : Char} (h : nameEnds.contains c = false) : c ≠ '>' := by
  intro hc
  rw [hc] at h
  exact absurd h (by decide)

/-- Nothing in a value is taken for a name before the closing quote. -/
theorem attributeNames_value {value : List Char} (h : '"' ∉ value) (rest : List Char) :
    attributeNames .value (value ++ '"' :: rest) = attributeNames .between rest := by
  induction value with
  | nil => rfl
  | cons c value ih =>
    rw [List.mem_cons, not_or] at h
    rw [List.cons_append, attributeNames, if_neg (Ne.symm h.1), ih h.2]

theorem attributeNames_name {name : List Char}
    (h : name.all fun c ↦ !nameEnds.contains c && c != '=') (read rest : List Char) :
    attributeNames (.name read) (name ++ rest) = attributeNames (.name (read ++ name)) rest := by
  induction name generalizing read with
  | nil => rw [List.nil_append, List.append_nil]
  | cons c name ih =>
    obtain ⟨hc, hname⟩ := Bool.and_eq_true_iff.mp h
    obtain ⟨hends, hequals⟩ := Bool.and_eq_true_iff.mp hc
    rw [Bool.not_eq_true'] at hends
    rw [List.cons_append, attributeNames, if_neg (ne_closing_of_not_ends hends), hends,
      if_neg Bool.false_ne_true, if_neg (bne_iff_ne.mp hequals), ih hname, List.append_assoc,
      List.singleton_append]

/-- A name is read up to the character behind it. -/
theorem attributeNames_between {name : List Char} (h : isOneName name) (rest : List Char) :
    attributeNames .between (' ' :: (name ++ rest)) = attributeNames (.name name) rest := by
  cases name with
  | nil => cases h
  | cons c name =>
    obtain ⟨hends, hname⟩ := Bool.and_eq_true_iff.mp h
    rw [Bool.not_eq_true'] at hends
    have hspace : attributeNames .between (' ' :: (c :: name ++ rest)) =
        attributeNames .between (c :: name ++ rest) := rfl
    rw [hspace, List.cons_append, attributeNames, if_neg (ne_closing_of_not_ends hends), hends,
      if_neg Bool.false_ne_true, attributeNames_name hname, List.singleton_append]

namespace HoldsAttributes

variable {names : List String} {text : List Char}

/-- A name ends where the next attribute or the end of the tag comes. -/
theorem attributeNames_name (h : HoldsAttributes names text) (read rest : List Char) :
    attributeNames (.name read) (text ++ '>' :: rest) =
      String.ofList read :: attributeNames .between (text ++ '>' :: rest) := by
  cases h with
  | none => rfl
  | bare name h => rfl
  | valued name hvalue h => rfl

/-- Reading the attributes gives the names that they were written for. -/
theorem attributeNames_eq (h : HoldsAttributes names text)
    (hnames : ∀ name ∈ names, isOneName name.toList) (rest : List Char) :
    attributeNames .between (text ++ '>' :: rest) = names := by
  induction h with
  | none => rfl
  | bare name h ih =>
    obtain ⟨hname, hothers⟩ := List.forall_mem_cons.mp hnames
    rw [List.cons_append, List.append_assoc, attributeNames_between hname,
      h.attributeNames_name, ih hothers, String.ofList_toList]
  | valued name hvalue h ih =>
    obtain ⟨hname, hothers⟩ := List.forall_mem_cons.mp hnames
    rw [List.cons_append, List.append_assoc, attributeNames_between hname, List.cons_append,
      List.cons_append, List.append_assoc, List.cons_append, attributeNames, if_neg (by decide),
      if_neg (by decide), if_pos rfl, attributeNames, attributeNames_value hvalue, ih hothers,
      String.ofList_toList]

end HoldsAttributes

/-! ## Tags in a text -/

def Element.openingTag (element : Element) : List Char :=
  '<' :: element.tag.toList ++ Html.writeProperties element.properties ++ ['>']

mutual

/-- The elements that are seen in the text of a node: all but those inside a void element. -/
def Node.writtenElements : Node → List Element
  | .element tag properties children =>
    { tag, properties, children } :: if isVoid tag then [] else writtenAmong children
  | .text _ | .comment _ | .doctype _ => []

def writtenAmong : List Node → List Element
  | [] => []
  | node :: rest => node.writtenElements ++ writtenAmong rest

end

/-- The text of an element begins with its opening tag. -/
theorem writeNode_eq_openingTag_append (raw : Bool) (tag : String) (properties : Properties)
    (children : List Node) :
    Html.writeNode raw (.element tag properties children) =
      Element.openingTag { tag, properties, children } ++
        if isVoid tag then []
        else Html.writeNodes (isRawText tag) children ++ '<' :: '/' :: tag.toList ++ ['>'] := by
  rw [Html.writeNode, Element.openingTag, List.append_assoc _ ['>'], List.singleton_append]

mutual

/-- The opening tag of every element that is seen stands in the text. -/
theorem openingTag_infix_writeNode (raw : Bool) {element : Element} : ∀ {node : Node},
    element ∈ node.writtenElements → element.openingTag <:+: Html.writeNode raw node
  | .element tag properties children, h => by
    rw [writeNode_eq_openingTag_append]
    rcases List.mem_cons.mp h with rfl | hmem
    · exact List.infix_append_left
    · cases hvoid : isVoid tag with
      | true =>
        rw [hvoid] at hmem
        cases hmem
      | false =>
        rw [hvoid] at hmem
        rw [if_neg Bool.false_ne_true, List.append_assoc]
        have hchildren := openingTag_infix_writeNodes (isRawText tag) hmem
        exact (hchildren.trans List.infix_append_left).trans List.infix_append_right

theorem openingTag_infix_writeNodes (raw : Bool) {element : Element} : ∀ {nodes : List Node},
    element ∈ writtenAmong nodes → element.openingTag <:+: Html.writeNodes raw nodes
  | node :: nodes, h => by
    rw [Html.writeNodes]
    rcases List.mem_append.mp h with hmem | hmem
    · exact (openingTag_infix_writeNode raw hmem).trans List.infix_append_left
    · exact (openingTag_infix_writeNodes raw hmem).trans List.infix_append_right

end

/-! ## Names that come once -/

/-- Of all values only a switch that is off is not shown. -/
theorem shown?_eq_none_iff (name : String) (value : PropertyValue) :
    value.shown? name = none ↔ value = .switch false := by
  cases value with
  | switch isOn => cases isOn <;> simp [PropertyValue.shown?]
  | text value =>
    rw [PropertyValue.shown?]
    split <;> simp

/-- The properties that are shown are those that are not switched off. -/
theorem mem_names_shown_iff (properties : Properties) (name : String) :
    name ∈ properties.shown.names ↔
      ∃ value, properties.get? name = some value ∧ value ≠ .switch false := by
  constructor
  · intro hname
    obtain ⟨shown, hshown, rfl⟩ := List.mem_map.mp hname
    obtain ⟨⟨name, value⟩, hentry, hproperty⟩ := List.mem_filterMap.mp hshown
    have hvalue := (Properties.mem_entries_iff properties name value).mp hentry
    refine ⟨value, (fst_shownProperty? hproperty).symm ▸ hvalue, ?_⟩
    intro hoff
    rw [shownProperty?, (shown?_eq_none_iff name value).mpr hoff] at hproperty
    cases hproperty
  · rintro ⟨value, hvalue, hon⟩
    have hentry := (Properties.mem_entries_iff properties name value).mpr hvalue
    have hne : value.shown? name ≠ none := mt (shown?_eq_none_iff name value).mp hon
    obtain ⟨shown, hshown⟩ := Option.ne_none_iff_exists'.mp hne
    have hproperty : shownProperty? (name, value) = some (name, shown) := by
      rw [shownProperty?, hshown]
      rfl
    exact List.mem_map_of_mem (List.mem_filterMap.mpr ⟨_, hentry, hproperty⟩)

/-- Some attributes of an element: no name comes twice, those of all properties that are not
switched off come in their order, and they are what a reader of the tag finds if all of them can be
names of attributes. -/
structure Element.IsWrittenAs (element : Element) (names : List String) (attributes : List Char) :
    Prop where
  nodup : names.Nodup
  sublist : names.Sublist element.properties.names
  mem_iff : ∀ name, name ∈ names ↔
    ∃ value, element.properties.get? name = some value ∧ value ≠ .switch false
  holds : HoldsAttributes names attributes
  read : (∀ name ∈ names, isOneName name.toList) →
    attributeNames .between (attributes ++ ['>']) = names

/-- In the text of a tree, no opening tag has two attributes of one name. -/
def WritesNamesOnce (root : Root) : Prop :=
  ∀ element ∈ writtenAmong root, ∃ names attributes, element.IsWrittenAs names attributes ∧
    '<' :: element.tag.toList ++ attributes ++ ['>'] <:+: root.toHtml.toList

/-- A property map has each name once, and so has every opening tag. -/
theorem writesNamesOnce (root : Root) : WritesNamesOnce root := by
  intro element helement
  have hholds := holdsAttributes_writeEntries element.properties.entries
  refine ⟨element.properties.shown.names, Html.writeProperties element.properties, ?_, ?_⟩
  · exact {
      nodup := element.properties.shown.nodup
      sublist := sublist_map_fst_filterMap_shownProperty? element.properties.entries
      mem_iff := mem_names_shown_iff element.properties
      holds := hholds
      read := fun hnames ↦ hholds.attributeNames_eq hnames [] }
  · rw [Root.toHtml, String.toList_ofList]
    exact openingTag_infix_writeNodes false helement

/-- In the map that a sequence of writes makes, the names are pairwise different and stand in the
order of their first writes, and there are as many as were written. A name looks up what was last
written to it, and the entries are what the names look up. So in the text of markup that was read or
built, no opening tag has two attributes of one name. -/
theorem ofList_keeps_first_order_and_last_values (writes : List (String × PropertyValue)) :
    (Properties.ofList writes).names.Nodup ∧
      (Properties.ofList writes).names.Pairwise (fun name later ↦
        (writes.map Prod.fst).idxOf name < (writes.map Prod.fst).idxOf later) ∧
      (Properties.ofList writes).size = (writes.map Prod.fst).toFinset.card ∧
      (∀ name value,
        (Properties.ofList writes).get? name = some value ↔ IsLastWrite writes name value) ∧
      (∀ name, (Properties.ofList writes).contains name ↔ name ∈ writes.map Prod.fst) ∧
      (∀ name value, (name, value) ∈ (Properties.ofList writes).entries ↔
        (Properties.ofList writes).get? name = some value) ∧
      (∀ name, name ∈ (Properties.ofList writes).names ↔
        (Properties.ofList writes).contains name) ∧
      (∀ text asFragment, WritesNamesOnce (parse text asFragment)) ∧
      ∀ edits elements, WritesNamesOnce
        ((Edit.applySequenceToAll edits elements).map Element.toNode) := by
  have hcontains (name : String) :
      (Properties.ofList writes).contains name ↔ name ∈ writes.map Prod.fst := by
    rw [Properties.contains_iff_mem_names, Properties.mem_names_ofList_iff]
  have hascend := Properties.names_ofList_ascend writes
  refine ⟨?_, hascend, Properties.size_ofList writes, Properties.get?_ofList_eq_some_iff writes,
    hcontains, Properties.mem_entries_iff _, ?_, ?_, ?_⟩
  · apply hascend.imp
    intro name later hlt heq
    rw [heq] at hlt
    exact Nat.lt_irrefl _ hlt
  · intro name
    exact (Properties.contains_iff_mem_names _ name).symm
  · intro text asFragment
    exact writesNamesOnce _
  · intro edits elements
    exact writesNamesOnce _

/-- A name that is written twice, in a map and in the text of a paragraph. -/
theorem ofList_repeatedName :
    (Properties.ofList [("id", .text "a"), ("class", .text "x"), ("id", .switch true)]).size = 2 ∧
      (Properties.ofList [("id", .text "a"), ("class", .text "x"), ("id", .switch true)]).get?
        "id" = some (.switch true) ∧
      ∃ names attributes,
        (Element.mk "p" (.ofList [("id", .text "a")]) [.text "x"]).IsWrittenAs names attributes ∧
          '<' :: 'p' :: attributes ++ ['>'] <:+:
            (Root.toHtml (parse "<p id=a id=b>x")).toList := by
  obtain ⟨-, -, hsize, hget, -, -, -, hparse, -⟩ :=
    ofList_keeps_first_order_and_last_values
      [("id", .text "a"), ("class", .text "x"), ("id", .switch true)]
  have hread : parse "<p id=a id=b>x" =
      [.element "p" (.ofList [("id", .text "a")]) [.text "x"]] := by decide +kernel
  refine ⟨hsize.trans (by decide), ?_, ?_⟩
  · exact (hget "id" (.switch true)).mpr ⟨[("id", .text "a"), ("class", .text "x")], [], by simp⟩
  · have helement : Element.mk "p" (.ofList [("id", .text "a")]) [.text "x"] ∈
        writtenAmong (parse "<p id=a id=b>x") := by
      rw [hread]
      exact List.mem_cons_self
    exact hparse "<p id=a id=b>x" true _ helement

end MarkupIslands.Markup
