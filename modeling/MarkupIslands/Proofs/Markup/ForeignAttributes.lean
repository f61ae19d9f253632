import MarkupIslands.Proofs.Json.Lookup
import MarkupIslands.Proofs.Markup.RoundTrip

/-!
# Attributes of drawings

A drawing with one attribute is read as an element with one property. The property has the value of
the attribute and its name, up to the case of letters, with two exceptions: a bare `xmlns` gets a
colon in front, and a byte order mark in the value is lost if it begins a portion of the text.
-/

namespace MarkupIslands.Markup

open MarkupIslands.Text

/-! ## Names -/

/-- Whether a character may stand behind the first letter of the name of a foreign attribute. -/
def isForeignPart (c : Char) : Bool := Lexer.isNamePart c || c == ':'

/-- A name that begins with a small letter, with small letters, digits, dashes and colons
behind it. -/
def isForeignName : List Char → Bool
  | [] => false
  | first :: rest => first.isLower && rest.all isForeignPart

variable {name value : String} {c : Char}

theorem ne_nil_of_isForeignName (h : isForeignName name.toList) : name.toList ≠ [] := by
  intro hnil
  rw [hnil] at h
  cases h

theorem isForeignPart_of_isForeignName {name : List Char} (h : isForeignName name) :
    ∀ c ∈ name, isForeignPart c := by
  cases name with
  | nil => cases h
  | cons first rest =>
    obtain ⟨hfirst, hrest⟩ := Bool.and_eq_true_iff.mp h
    have hpart : isForeignPart first := by
      rw [isForeignPart, Lexer.isNamePart_of_isLower hfirst, Bool.true_or]
    exact List.forall_mem_cons.mpr ⟨hpart, List.all_eq_true.mp hrest⟩

theorem not_mem_of_isForeignName (h : isForeignName name.toList) (hc : isForeignPart c = false) :
    c ∉ name.toList :=
  fun hmem ↦ absurd (isForeignPart_of_isForeignName h c hmem) (Bool.eq_false_iff.mp hc)

/-- A lexer takes a foreign name for one word. -/
theorem isWordPart_of_isForeignName (h : isForeignName name.toList) :
    ∀ c ∈ name.toList, Lexer.isWordPart c := by
  intro c hc
  have hpart := isForeignPart_of_isForeignName h c hc
  rw [isForeignPart, Bool.or_eq_true, beq_iff_eq] at hpart
  rcases hpart with hpart | rfl
  · exact Lexer.isWordPart_of_isNamePart hpart
  · decide

/-- The table of names with capitals is searched by the names in small letters. -/
theorem toLower_of_lookup_capitalised {words : List String} {word : String}
    (h : (capitalised words).lookup name = some word) : word.toLower = name := by
  obtain ⟨found, -, hentry⟩ := List.mem_map.mp (mem_of_lookup h)
  obtain ⟨rfl, rfl⟩ := Prod.mk.inj hentry
  rfl

/-- A name that is taken apart is written as it was, unless its qualifier is empty. -/
theorem written_qualified (h : name ≠ "xmlns") : (qualified name).written = name := by
  have htable : ∀ entry ∈ qualifiedNames, entry.1 ≠ "xmlns" → entry.2.written = entry.1 := by
    decide
  rw [qualified]
  cases hlookup : qualifiedNames.lookup name with
  | none => rfl
  | some parts => exact htable _ (mem_of_lookup hlookup) h

/-- Names in small letters only change their case when they get their capitals. -/
theorem toLower_capitalisedAttribute (h : isForeignName name.toList) :
    (capitalisedAttribute .svg name).toLower = name := by
  have hlower : name.toLower = name := Lexer.toLower_of_isWord (isWordPart_of_isForeignName h)
  rw [capitalisedAttribute]
  cases hlookup : (capitalised svgAttributes).lookup name with
  | none => exact hlower
  | some word => exact toLower_of_lookup_capitalised hlookup

/-- An attribute of a drawing keeps its name, up to the case of letters, unless it is a bare
`xmlns`. -/
theorem toLower_foreignAttribute_eq_iff (h : isForeignName name.toList) :
    (foreignAttribute .svg name).written.toLower = name.toLower ↔ name ≠ "xmlns" := by
  have hlower : name.toLower = name := Lexer.toLower_of_isWord (isWordPart_of_isForeignName h)
  have hcapitals := toLower_capitalisedAttribute h
  constructor
  · rintro heq rfl
    have hwritten : (foreignAttribute .svg "xmlns").written = ":xmlns" := by decide +kernel
    have hcolon : ":xmlns".toLower = ":xmlns" :=
      Lexer.toLower_of_isWord (List.all_eq_true.mp (by decide))
    rw [hwritten, hcolon, hlower] at heq
    exact absurd heq (by decide)
  · intro hne
    have hbare : capitalisedAttribute .svg name ≠ "xmlns" := by
      intro hbare
      have hsmall : "xmlns".toLower = "xmlns" :=
        Lexer.toLower_of_isWord (List.all_eq_true.mp (by decide))
      rw [hbare, hsmall] at hcapitals
      exact hne hcapitals.symm
    rw [foreignAttribute, written_qualified hbare, hcapitals, hlower]

/-! ## Construction of a drawing -/

namespace Construction

variable {s : Construction} {parent : NodeId} {around : ElementName} {rest : List OpenElement}

def drawingCell (attributes : List Attribute) : Cell :=
  ⟨.element ⟨.svg, "svg"⟩ attributes none, []⟩

def openedDrawing (s : Construction) (parent : NodeId) (attributes : List Attribute) :
    Construction :=
  { s with
    dom := s.dom.grow parent [s.dom.size] [drawingCell attributes]
    stack := ⟨s.dom.size, ⟨.svg, "svg"⟩⟩ :: s.stack }

/-- The start tag of a drawing opens it, with the attribute names of drawings. -/
theorem ReadsPlain.accept_drawingStart (h : s.ReadsPlain parent around rest)
    (attributes : List (String × String)) :
    s.accept (.startTag ⟨"svg", attributes, false⟩) =
      (s.openedDrawing parent (foreignAttributes .svg attributes)).done := by
  apply h.accept_of_inBody rfl
  have hrule : s.inBody (.startTag ⟨"svg", attributes, false⟩) =
      (s.insertForeign (foreignName .svg "svg") ⟨"svg", attributes, false⟩).done := rfl
  have hname : foreignName .svg "svg" = ⟨.svg, "svg"⟩ := by decide +kernel
  rw [hrule, hname]
  exact congrArg Construction.done (h.insertOpen rfl _)

/-- The end tag closes the drawing, and only the tree has changed. -/
theorem InsertsInto.accept_drawingEnd (h : s.InsertsInto parent around rest)
    (attributes : List Attribute) :
    (s.openedDrawing parent attributes).accept (.endTag "svg") =
      (s.withDom (s.dom.grow parent [s.dom.size] [drawingCell attributes])
        s.framesetAllowed).done := by
  have hcurrent : (s.openedDrawing parent attributes).foreignCurrent? =
      some ⟨s.dom.size, ⟨.svg, "svg"⟩⟩ := by
    simp [foreignCurrent?, openedDrawing, h.stack]
  have hreads : (s.openedDrawing parent attributes).readsForeign (.endTag "svg") := by
    rw [readsForeign, hcurrent]
  have hend : foreignEnd "svg" true (s.openedDrawing parent attributes).stack =
      .closes s.stack := by
    have hlower : "svg".toLower = "svg" := Lexer.toLower_of_isWord (List.all_eq_true.mp (by decide))
    simp [openedDrawing, h.stack, foreignEnd, hlower]
  refine accept_of_choose h.noSkip rfl ?_ Next.noConfusion
  rw [choose, if_pos hreads, inForeignContent, hend]
  rfl

end Construction

/-! ## Reading a drawing -/

def drawingText (name value : String) : String :=
  "<svg " ++ name ++ "=\"" ++ value ++ "\"></svg>"

/-- The part of the text before the value. -/
def drawingStart (name : String) : List Char :=
  '<' :: "svg".toList ++ (' ' :: name.toList ++ ['=', '"'])

theorem toList_drawingText (name value : String) :
    (drawingText name value).toList =
      drawingStart name ++ (value.toList ++ "\"></svg>".toList) := by
  simp [drawingText, drawingStart]

/-- No byte order mark stands before the value. -/
theorem orderMark_not_mem_drawingStart (hname : isForeignName name.toList) :
    orderMark ∉ drawingStart name := by
  have hmark : orderMark ∉ name.toList := not_mem_of_isForeignName hname (by decide)
  have hstart : orderMark ∉ '<' :: "svg".toList := by decide
  have hblank : orderMark ≠ ' ' := by decide
  have hquote : orderMark ∉ ['=', '"'] := by decide
  simp only [drawingStart, List.mem_append, List.mem_cons (a := orderMark) (b := ' '), not_or]
  exact ⟨hstart, ⟨hblank, hmark⟩, hquote⟩

/-- A value that stands between quotes as it is. -/
def isBareValue (value : List Char) : Bool :=
  value.all fun c ↦ c != '"' && c != '&' && c != '\x00' && c != '\r'

theorem not_mem_of_isBareValue {value : List Char} (h : isBareValue value) :
    '"' ∉ value ∧ '&' ∉ value ∧ '\x00' ∉ value ∧ '\r' ∉ value := by
  have hall := List.all_eq_true.mp h
  refine ⟨?_, ?_, ?_, ?_⟩ <;> exact fun hmem ↦ absurd (hall _ hmem) (by decide)

/-- What is left of the value when the text is read. -/
def keptValue (name value : String) : String :=
  String.ofList ((Place.after {} (drawingStart name)).kept value.toList)

/-- The value is kept exactly if all of the text is. -/
theorem keptValue_eq_self_iff (hname : isForeignName name.toList) :
    keptValue name value = value ↔
      Place.kept {} (drawingText name value).toList = (drawingText name value).toList := by
  have hstop : orderMark ∉ "\"></svg>".toList := by decide
  rw [toList_drawingText,
    Place.kept_between_eq_self_iff (orderMark_not_mem_drawingStart hname) hstop,
    ← String.toList_inj, keptValue, String.toList_ofList]

/-- The lexer behind the value of the attribute. -/
theorem scan_drawingStart (hname : isForeignName name.toList) (hvalue : isBareValue value.toList) :
    Lexer.scan Lexer.resume (Place.kept {} (drawingStart name ++ (value.toList ++ ['"']))) =
      (.afterValue ⟨false, "svg", [(name, keptValue name value)]⟩, []) := by
  obtain ⟨hquote, hamp, hnull, -⟩ := not_mem_of_isBareValue hvalue
  have hsubset := ((Place.after {} (drawingStart name)).kept_sublist value.toList).subset
  have hscanValue := Lexer.scan_bareValue ⟨false, "svg", []⟩ name
    (fun hmem ↦ hquote (hsubset hmem)) (fun hmem ↦ hamp (hsubset hmem))
    (fun hmem ↦ hnull (hsubset hmem))
  have hopen : Lexer.scan Lexer.resume ('<' :: "svg".toList) =
      (.tagName ⟨false, "svg", []⟩, []) := Lexer.scan_startTagName (by decide)
  have hscan := Lexer.scan_append_of_eq hopen
    (Lexer.scan_quotedValue (.name ⟨false, "svg", []⟩) (ne_nil_of_isForeignName hname)
      (isWordPart_of_isForeignName hname) hscanValue)
  have hchars : drawingStart name ++
      ((Place.after {} (drawingStart name)).kept value.toList ++ ['"']) =
        '<' :: "svg".toList ++ (' ' :: name.toList ++
          ('=' :: '"' :: (Place.after {} (drawingStart name)).kept value.toList ++ ['"'])) := by
    simp [drawingStart]
  rw [Place.kept_between (orderMark_not_mem_drawingStart hname) (by decide), hchars]
  exact hscan

/-- The name of the end tag finishes no token, whatever content it stands in. -/
theorem foldl_read_drawingEnd (s : Construction) (place : Place) :
    "</svg".toList.foldl Reading.read ⟨Lexer.resume, s, place, false, false⟩ =
      ⟨.tagName ⟨true, "svg", []⟩, s, place.after "</svg".toList, false, false⟩ := rfl

/-- The bracket that closes a tag. -/
theorem read_close {lexer : Lexer.State} {s s' : Construction} {token : Token}
    (hstep : ∀ foreign, Lexer.step foreign lexer '>' = (Lexer.resume, [token]))
    (hdone : s.accept token = s'.done) (place : Place) :
    Reading.read ⟨lexer, s, place, false, false⟩ '>' =
      ⟨Lexer.resume, s', place.advance '>', false, false⟩ :=
  (Reading.read_of_not_dropped rfl rfl (by decide) rfl).trans (Reading.step_of_done hstep hdone)

/-- Behind the attributes of a drawing without children the tree grows by the drawing. -/
theorem foldl_read_drawing {s : Construction} {parent : NodeId} {around : ElementName}
    {rest : List OpenElement} (h : s.ReadsPlain parent around rest)
    (attributes : List (String × String)) (place : Place) :
    ('>' :: ("</svg".toList ++ ['>'])).foldl Reading.read
        ⟨.afterValue ⟨false, "svg", attributes⟩, s, place, false, false⟩ =
      ⟨Lexer.resume,
        s.withDom
          (s.dom.grow parent [s.dom.size]
            [Construction.drawingCell (foreignAttributes .svg attributes)])
          s.framesetAllowed,
        place.after ('>' :: ("</svg".toList ++ ['>'])), false, false⟩ := by
  have hopen : Reading.read ⟨.afterValue ⟨false, "svg", attributes⟩, s, place, false, false⟩ '>' =
      ⟨Lexer.resume, s.openedDrawing parent (foreignAttributes .svg attributes),
        place.advance '>', false, false⟩ :=
    read_close (fun _ ↦ rfl) (h.accept_drawingStart attributes) place
  have hname (foreign : Bool) : Lexer.step foreign (.tagName ⟨true, "svg", []⟩) '>' =
      (Lexer.resume, [.endTag "svg"]) := rfl
  have hplace : place.after ('>' :: ("</svg".toList ++ ['>'])) =
      ((place.advance '>').after "</svg".toList).advance '>' := by
    simp only [Place.after, List.foldl_cons, List.foldl_append, List.foldl_nil]
  rw [List.foldl_cons, hopen, List.foldl_append, foldl_read_drawingEnd, List.foldl_cons,
    read_close hname (h.accept_drawingEnd _), List.foldl_nil, hplace]

/-- A drawing with one attribute is read as an element with one property, which has the attribute
name of drawings and what is kept of the value. -/
theorem parse_drawingText (hname : isForeignName name.toList) (hvalue : isBareValue value.toList) :
    parse (drawingText name value) =
      [.element "svg"
        (.ofList [((foreignAttribute .svg name).written, .text (keptValue name value))]) []] := by
  have hreturns : '\r' ∉ drawingStart name ++ (value.toList ++ ['"']) := by
    have hreturnName : '\r' ∉ name.toList := not_mem_of_isForeignName hname (by decide)
    have hreturnValue := (not_mem_of_isBareValue hvalue).2.2.2
    simp [drawingStart, hreturnName, hreturnValue]
  have hstart : (drawingStart name ++ (value.toList ++ ['"'])).foldl Reading.read
      { tree := Construction.fragment } = _ :=
    Reading.foldl_read rfl rfl hreturns (scan_drawingStart hname hvalue) (.nil rfl)
  have hchars : (drawingText name value).toList =
      (drawingStart name ++ (value.toList ++ ['"'])) ++ ('>' :: ("</svg".toList ++ ['>'])) := by
    rw [toList_drawingText, List.append_assoc, List.append_assoc]
    rfl
  have hread := foldl_read_drawing readsPlain_fragment [(name, keptValue name value)]
    (Place.after {} (drawingStart name ++ (value.toList ++ ['"'])))
  rw [← hstart, ← List.foldl_append, ← hchars] at hread
  exact parse_of_grown hread rfl rfl ((Shows.nil _).element ⟨.svg, "svg"⟩ _)

/-! ## What is kept of an attribute -/

/-- The tree is a single drawing without children. Its one property has the given value, and the
given name up to the case of letters. -/
def ShowsAttribute (nodes : Root) (name value : String) : Prop :=
  ∃ key properties, nodes = [.element "svg" properties []] ∧
    properties.entries = [(key, .text value)] ∧ key.toLower = name.toLower

theorem showsAttribute_drawing_iff {key kept : String} :
    ShowsAttribute [.element "svg" (.ofList [(key, .text kept)]) []] name value ↔
      key.toLower = name.toLower ∧ kept = value := by
  have hentries : (Properties.ofList [(key, .text kept)]).entries = [(key, .text kept)] := rfl
  constructor
  · rintro ⟨found, properties, hnodes, hfound, hname⟩
    obtain ⟨rfl⟩ : Properties.ofList [(key, .text kept)] = properties := by simpa using hnodes
    obtain ⟨rfl, hvalue⟩ := Prod.mk.inj (List.singleton_inj.mp (hentries.symm.trans hfound))
    exact ⟨hname, PropertyValue.text.inj hvalue⟩
  · rintro ⟨hname, rfl⟩
    exact ⟨key, _, rfl, hentries, hname⟩

/-- A drawing is read with its attribute exactly if the attribute is no bare `xmlns` and no byte
order mark in the value begins a portion of the text. -/
theorem showsAttribute_parse_iff (hname : isForeignName name.toList)
    (hvalue : isBareValue value.toList) :
    ShowsAttribute (parse (drawingText name value)) name value ↔
      name ≠ "xmlns" ∧
        Place.kept {} (drawingText name value).toList = (drawingText name value).toList := by
  rw [parse_drawingText hname hvalue, showsAttribute_drawing_iff,
    toLower_foreignAttribute_eq_iff hname, keptValue_eq_self_iff hname]

/-- An attribute whose name has a capital in drawings. -/
theorem showsAttribute_parse_viewBox :
    ShowsAttribute (parse (drawingText "viewbox" "0 0 <10> 10")) "viewbox" "0 0 <10> 10" :=
  (showsAttribute_parse_iff (by decide) (by decide)).mpr ⟨by decide, by decide +kernel⟩

/-- A bare `xmlns` is read with a colon in front. -/
theorem not_showsAttribute_parse_xmlns :
    isForeignName "xmlns".toList ∧ isBareValue "v".toList ∧
      ¬ ShowsAttribute (parse (drawingText "xmlns" "v")) "xmlns" "v" := by
  refine ⟨by decide, by decide, ?_⟩
  rw [parse_drawingText (by decide) (by decide), showsAttribute_drawing_iff,
    toLower_foreignAttribute_eq_iff (by decide)]
  exact fun h ↦ h.1 rfl

end MarkupIslands.Markup
