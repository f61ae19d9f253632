import MarkupIslands.Proofs.Markup.Escaped
import MarkupIslands.Proofs.Markup.WellFormed

/-!
# Unique readability of markup texts

The text of a well-formed tree is read from left to right: its first characters tell what stands
there, names end where a delimiter comes, raw texts and comments where their end first comes, and
escaped texts can be told from what surrounds them. So two well-formed trees have the same text
exactly if their texts show the same tree.
-/

namespace MarkupIslands.Markup

open MarkupIslands.Text
open MarkupIslands.Jsx (isTagName isTagPart isTagPart_of_isTagName exists_eq_cons_of_isTagName)
open Html

variable {x y : List Char}

/-! ## Tags -/

/-- What comes behind a name: the end of a tag, another property or a value. -/
def EndsName (text : List Char) : Prop :=
  ∃ c rest, text = c :: rest ∧ (c = ' ' ∨ c = '>' ∨ c = '=')

theorem EndsName.head {text : List Char} (h : EndsName text) {p : Char → Bool}
    (hblank : p ' ' = false) (hclose : p '>' = false) (hequals : p '=' = false) :
    ∀ c, text.head? = some c → p c = false := by
  obtain ⟨d, rest, rfl, hd⟩ := h
  intro c hc
  obtain rfl := Option.some.inj hc
  rcases hd with rfl | rfl | rfl
  · exact hblank
  · exact hclose
  · exact hequals

/-- The value of a property as it stands behind the name. -/
def writeValue : PropertyValue → List Char
  | .switch _ => []
  | .text value => '=' :: '"' :: (value.toList.flatMap escapeValue ++ ['"'])

theorem writeProperty_of_shown? {name : String} {value : PropertyValue}
    (h : value.shown? name = some value) :
    writeProperty name value = ' ' :: (name.toList ++ writeValue value) := by
  cases value with
  | switch isOn =>
    cases isOn with
    | false => cases h
    | true => simp [writeProperty, writeValue]
  | text value =>
    rw [PropertyValue.shown?] at h
    split at h
    · cases h
    · rename_i hbare
      rw [writeProperty, if_neg hbare, writeValue]
      simp

/-- The end of a property value can be told from its own text. -/
theorem writeValue_append_inj {name : String} {value other : PropertyValue}
    (hvalue : value.shown? name = some value) (hother : other.shown? name = some other)
    (hx : ∀ text, x ≠ '=' :: text) (hy : ∀ text, y ≠ '=' :: text)
    (heq : writeValue value ++ x = writeValue other ++ y) : value = other ∧ x = y := by
  have hswitch {isOn : Bool} (h : (PropertyValue.switch isOn).shown? name = some (.switch isOn)) :
      isOn = true := by
    cases isOn with
    | false => cases h
    | true => rfl
  cases value with
  | switch isOn =>
    cases other with
    | switch isOn' => rw [hswitch hvalue, hswitch hother]; exact ⟨rfl, heq⟩
    | text value' => exact absurd heq (hx _)
  | text value =>
    cases other with
    | switch isOn' => exact absurd heq.symm (hy _)
    | text value' =>
      simp only [writeValue, List.cons_append, List.append_assoc, List.nil_append,
        List.cons.injEq, true_and] at heq
      have hunquoted (text : List Char) : ∀ c ∈ text.flatMap escapeValue, c != '"' :=
        fun c hc ↦ bne_iff_ne.mpr fun h ↦ quote_not_mem_flatMap_escapeValue text (h ▸ hc)
      obtain ⟨hwritten, hrest⟩ := append_inj_of_stops (hunquoted value.toList)
        (hunquoted value'.toList) (by simp) (by simp) heq
      rw [String.toList_inj.mp (flatMap_escapeValue_inj hwritten)]
      exact ⟨rfl, (List.cons.inj hrest).2⟩

def isAttributePart (c : Char) : Bool := !attributeDelimiters.contains c

theorem isAttributePart_of_isAttributeName {name : List Char} (h : isAttributeName name) :
    ∀ c ∈ name, isAttributePart c :=
  List.all_eq_true.mp (Bool.and_eq_true_iff.mp h).2

/-- Properties that are seen in a text, under names that do not end early. -/
def AreReadableEntries (entries : List (String × PropertyValue)) : Prop :=
  ∀ entry ∈ entries, entry.2.shown? entry.1 = some entry.2 ∧ isAttributeName entry.1.toList

variable {entries others : List (String × PropertyValue)}

theorem writeEntries_cons {entry : String × PropertyValue}
    (h : entry.2.shown? entry.1 = some entry.2) (text : List Char) :
    writeEntries (entry :: entries) ++ text =
      ' ' :: (entry.1.toList ++ (writeValue entry.2 ++ (writeEntries entries ++ text))) := by
  rw [writeEntries, List.flatMap_cons, writeProperty_of_shown? h, ← writeEntries]
  simp

theorem head_writeEntries (hentries : AreReadableEntries entries) (text : List Char) :
    ∃ c rest, writeEntries entries ++ '>' :: text = c :: rest ∧ (c = ' ' ∨ c = '>') := by
  cases entries with
  | nil => exact ⟨'>', text, rfl, .inr rfl⟩
  | cons entry entries =>
    rw [writeEntries_cons (hentries entry List.mem_cons_self).1]
    exact ⟨' ', _, rfl, .inl rfl⟩

theorem endsName_writeValue (value : PropertyValue) (hentries : AreReadableEntries entries)
    (text : List Char) : EndsName (writeValue value ++ (writeEntries entries ++ '>' :: text)) := by
  obtain ⟨c, rest, h, hc⟩ := head_writeEntries hentries text
  cases value with
  | switch => exact ⟨c, rest, h, hc.imp_right .inl⟩
  | text => exact ⟨'=', _, rfl, .inr (.inr rfl)⟩

theorem writeEntries_ne_equals (hentries : AreReadableEntries entries) (text tail : List Char) :
    writeEntries entries ++ '>' :: text ≠ '=' :: tail := by
  obtain ⟨c, rest, h, hc⟩ := head_writeEntries hentries text
  intro heq
  obtain rfl : c = '=' := (List.cons.inj (h.symm.trans heq)).1
  rcases hc with hc | hc <;> exact absurd hc (by decide)

/-- The properties of an element can be told from what is written. -/
theorem writeEntries_append_inj (hentries : AreReadableEntries entries)
    (hothers : AreReadableEntries others)
    (heq : writeEntries entries ++ '>' :: x = writeEntries others ++ '>' :: y) :
    entries = others ∧ x = y := by
  induction entries generalizing others with
  | nil =>
    cases others with
    | nil => exact ⟨rfl, (List.cons.inj heq).2⟩
    | cons other others =>
      rw [writeEntries_cons (hothers other List.mem_cons_self).1] at heq
      exact absurd (List.cons.inj heq).1 (by decide)
  | cons entry entries ih =>
    obtain ⟨⟨hshown, hname⟩, hentries⟩ := List.forall_mem_cons.mp hentries
    rw [writeEntries_cons hshown] at heq
    cases others with
    | nil => exact absurd (List.cons.inj heq).1 (by decide)
    | cons other others =>
      obtain ⟨⟨hshown', hname'⟩, hothers⟩ := List.forall_mem_cons.mp hothers
      rw [writeEntries_cons hshown', List.cons.injEq] at heq
      obtain ⟨hchars, hrest⟩ := append_inj_of_stops (isAttributePart_of_isAttributeName hname)
        (isAttributePart_of_isAttributeName hname')
        ((endsName_writeValue entry.2 hentries x).head (by decide) (by decide) (by decide))
        ((endsName_writeValue other.2 hothers y).head (by decide) (by decide) (by decide)) heq.2
      have hnames : entry.1 = other.1 := String.toList_inj.mp hchars
      obtain ⟨hvalues, hmore⟩ := writeValue_append_inj hshown (hnames ▸ hshown')
        (writeEntries_ne_equals hentries x) (writeEntries_ne_equals hothers y) hrest
      obtain ⟨rfl, hend⟩ := ih hentries hothers hmore
      exact ⟨congrArg (· :: entries) (Prod.ext hnames hvalues), hend⟩

/-! ## Kinds of siblings -/

/-- What stands at a place of a text. -/
inductive Mark
  | ending
  | element
  | text
  | comment
  | doctype
deriving DecidableEq

def Node.mark : Node → Mark
  | .element .. => .element
  | .text _ => .text
  | .comment _ => .comment
  | .doctype _ => .doctype

/-- What the first characters of a text tell. -/
def markOf : List Char → Mark
  | [] => .ending
  | '<' :: '/' :: _ => .ending
  | '<' :: '!' :: '-' :: _ => .comment
  | '<' :: '!' :: _ => .doctype
  | '<' :: _ => .element
  | _ => .text

theorem markOf_cons {c : Char} (hc : c ≠ '<') (rest : List Char) :
    markOf (c :: rest) = .text := by
  unfold markOf
  split <;> simp_all

/-- A tag is told from a text by its bracket, and from a declaration by the letter behind it. -/
theorem markOf_element {c : Char} (hc : c.isAlpha) (rest : List Char) :
    markOf ('<' :: c :: rest) = .element := by
  have hslash : c ≠ '/' := by
    rintro rfl
    exact absurd hc (by decide)
  have hbang : c ≠ '!' := by
    rintro rfl
    exact absurd hc (by decide)
  unfold markOf
  split <;> simp_all

def writeContent (tag : String) (children : List Node) : List Char :=
  if isVoid tag then []
  else writeNodes (isRawText tag) children ++ (endTagStart tag ++ ['>'])

theorem writeNode_element_append (tag : String) (properties : Properties) (children : List Node)
    (text : List Char) :
    writeNode false (.element tag properties children) ++ text =
      '<' :: (tag.toList ++ (writeProperties properties ++
        '>' :: (writeContent tag children ++ text))) := by
  rw [writeNode, writeContent, endTagStart]
  simp

/-- The first characters of a node tell what it is. -/
theorem markOf_writeNode {node : Node} (hnode : node.isWellFormed)
    (htext : ∀ value, node = .text value → value ≠ "") (text : List Char) :
    markOf (writeNode false node ++ text) = node.mark := by
  cases node with
  | element tag properties children =>
    simp only [Node.isWellFormed, Bool.and_eq_true] at hnode
    obtain ⟨c, rest, hchars, hc⟩ := exists_eq_cons_of_isTagName hnode.1.1.1
    rw [writeNode_element_append, hchars]
    exact markOf_element hc _
  | text value =>
    have hne : value.toList ≠ [] := fun h ↦ htext value rfl (String.toList_eq_nil_iff.mp h)
    obtain ⟨c, rest, hchars⟩ := List.exists_cons_of_ne_nil hne
    have hwritten : writeNode false (.text value) = escapeText c ++ rest.flatMap escapeText := by
      simp [writeNode, hchars]
    obtain ⟨d, tail, htail⟩ := List.exists_cons_of_ne_nil (escapeText_ne_nil c)
    have hd : d ≠ '<' := by
      rintro rfl
      exact bracket_not_mem_escapeText c (htail ▸ List.mem_cons_self)
    rw [hwritten, htail]
    exact markOf_cons hd _
  | comment value => rfl
  | doctype name => rfl

/-- The first characters of some siblings tell what comes first. -/
theorem markOf_writeNodes {nodes : List Node} (hnodes : areWellFormed nodes)
    (hreduced : AreReduced nodes) (hx : markOf x = .ending) :
    markOf (writeNodes false nodes ++ x) = (nodes.head?.map Node.mark).getD .ending := by
  cases nodes with
  | nil => exact hx
  | cons node nodes =>
    rw [writeNodes, List.append_assoc]
    exact markOf_writeNode (Bool.and_eq_true_iff.mp hnodes).1
      (fun value hvalue ↦ (hreduced.2.2 value hvalue).1) _

theorem head_of_markOf_ne_text {text : List Char} (h : markOf text ≠ .text) :
    ∀ c, text.head? = some c → (c != '<') = false := by
  intro c hc
  cases text with
  | nil => cases hc
  | cons d rest =>
    obtain rfl := Option.some.inj hc
    by_contra hbracket
    exact h (markOf_cons (by simpa using hbracket) rest)

/-! ## Reading trees -/

/-- Raw texts end where the end tag of their element first comes. -/
theorem rawText_append_inj {tag : String} (htag : isTagName tag.toList) {text other : List Char}
    (htext : holds (endTagStart tag) text = false) (hother : holds (endTagStart tag) other = false)
    (heq : text ++ (endTagStart tag ++ x) = other ++ (endTagStart tag ++ y)) :
    text = other ∧ x = y := by
  have hinside {text : List Char} (h : holds (endTagStart tag) text = false) :
      ¬ endTagStart tag <:+: text :=
    fun hmem ↦ Bool.eq_false_iff.mp h ((holds_iff_isInfix _ _).mpr hmem)
  have hbracket : '<' ∉ '/' :: tag.toList := by
    intro hmem
    rcases List.mem_cons.mp hmem with hslash | hname
    · exact absurd hslash (by decide)
    · exact absurd (isTagPart_of_isTagName htag '<' hname) (by decide)
  exact append_inj_of_delimiter (isUnbordered_cons hbracket) (hinside htext) (hinside hother) heq

/-- The content of an element can be told from what is written if its children can. -/
theorem writeContent_append_inj {tag : String} {properties : Properties}
    {children children' : List Node}
    (hnode : (Node.element tag properties children).isWellFormed)
    (hother : (Node.element tag properties children').isWellFormed)
    (hreduced : (Node.element tag properties children).IsReduced)
    (hreduced' : (Node.element tag properties children').IsReduced)
    (hchildren : ∀ {x y : List Char}, markOf x = .ending → markOf y = .ending →
      writeNodes false children ++ x = writeNodes false children' ++ y →
        children = children' ∧ x = y)
    (heq : writeContent tag children ++ x = writeContent tag children' ++ y) :
    children = children' ∧ x = y := by
  obtain ⟨htag, -, hraw, -⟩ := isWellFormed_element_iff.mp hnode
  obtain ⟨-, -, hraw', -⟩ := isWellFormed_element_iff.mp hother
  obtain ⟨-, hempty, hreduced⟩ := hreduced
  obtain ⟨-, hempty', hreduced'⟩ := hreduced'
  unfold writeContent at heq
  split at heq
  · rename_i hvoid
    rw [hempty hvoid, hempty' hvoid]
    exact ⟨rfl, heq⟩
  · simp only [List.append_assoc] at heq
    cases hrawTag : isRawText tag with
    | false =>
      rw [hrawTag] at heq
      obtain ⟨rfl, hend⟩ := hchildren rfl rfl heq
      simpa using hend
    | true =>
      obtain ⟨htexts, hends⟩ := hraw hrawTag
      obtain ⟨htexts', hends'⟩ := hraw' hrawTag
      rw [hrawTag, writeNodes_true_of_all_isText htexts,
        writeNodes_true_of_all_isText htexts'] at heq
      obtain ⟨hjoined, hend⟩ := rawText_append_inj htag hends hends' heq
      exact ⟨eq_of_joinedText_eq htexts htexts' hreduced hreduced' hjoined,
        (List.cons.inj hend).2⟩

/-- The name and the properties of an element can be told from what is written. -/
theorem element_append_inj {tag tag' : String} {properties properties' : Properties}
    {children children' : List Node}
    (hnode : (Node.element tag properties children).isWellFormed)
    (hother : (Node.element tag' properties' children').isWellFormed)
    (hreduced : (Node.element tag properties children).IsReduced)
    (hreduced' : (Node.element tag' properties' children').IsReduced)
    (heq : writeNode false (.element tag properties children) ++ x =
      writeNode false (.element tag' properties' children') ++ y) :
    tag = tag' ∧ properties = properties' ∧
      writeContent tag children ++ x = writeContent tag' children' ++ y := by
  have hreadable {tag : String} {properties : Properties} {children : List Node}
      (hnode : (Node.element tag properties children).isWellFormed)
      (hreduced : (Node.element tag properties children).IsReduced) :
      AreReadableEntries properties.entries := by
    intro entry hentry
    have hnames := (isWellFormed_element_iff.mp hnode).2.1
    exact ⟨hreduced.1 entry hentry, hnames entry.1 (List.mem_map_of_mem hentry)⟩
  have hhead {entries : List (String × PropertyValue)} (hentries : AreReadableEntries entries)
      (text : List Char) :
      ∀ c, (writeEntries entries ++ '>' :: text).head? = some c → isTagPart c = false :=
    (endsName_writeValue (.switch true) hentries text).head (by decide) (by decide) (by decide)
  rw [writeNode_element_append, writeNode_element_append, List.cons.injEq] at heq
  obtain ⟨hname, hrest⟩ :=
    append_inj_of_stops (isTagPart_of_isTagName (isWellFormed_element_iff.mp hnode).1)
      (isTagPart_of_isTagName (isWellFormed_element_iff.mp hother).1)
      (hhead (hreadable hnode hreduced) _) (hhead (hreadable hother hreduced') _) heq.2
  obtain ⟨hentries, hcontent⟩ :=
    writeEntries_append_inj (hreadable hnode hreduced) (hreadable hother hreduced') hrest
  exact ⟨String.toList_inj.mp hname, Properties.ext hentries, hcontent⟩

/-- A comment ends where the end of a comment first comes. -/
theorem comment_append_inj {value other : String} (hvalue : (Node.comment value).isWellFormed)
    (hother : (Node.comment other).isWellFormed)
    (heq : writeNode false (.comment value) ++ x = writeNode false (.comment other) ++ y) :
    value = other ∧ x = y := by
  have hinside {value : String} (h : (Node.comment value).isWellFormed) :
      ¬ commentEnd <:+: value.toList := by
    intro hmem
    rw [Node.isWellFormed, (holds_iff_isInfix _ _).mpr hmem] at h
    cases h
  have hwritten (value : String) (text : List Char) :
      writeNode false (.comment value) ++ text =
        "<!--".toList ++ (value.toList ++ (commentEnd ++ text)) := by
    simp [writeNode, writeComment, commentEnd]
  have hend : IsUnbordered (['-', '-'] ++ ['>']) := isUnbordered_concat (by decide)
  rw [hwritten, hwritten] at heq
  obtain ⟨hchars, hrest⟩ := append_inj_of_delimiter hend (hinside hvalue) (hinside hother)
    (List.append_cancel_left heq)
  exact ⟨String.toList_inj.mp hchars, hrest⟩

/-- A document type ends at the first closing bracket. -/
theorem doctype_append_inj {name other : String} (hname : (Node.doctype name).isWellFormed)
    (hother : (Node.doctype other).isWellFormed) (hreduced : (Node.doctype name).IsReduced)
    (hreduced' : (Node.doctype other).IsReduced)
    (heq : writeNode false (.doctype name) ++ x = writeNode false (.doctype other) ++ y) :
    name = other ∧ x = y := by
  have hgoesOn {name : String} (h : (Node.doctype name).isWellFormed) :
      ∀ c ∈ name.toList, c != '>' := by
    intro c hc
    apply bne_iff_ne.mpr
    rintro rfl
    rw [Node.isWellFormed, List.contains_iff_mem.mpr hc] at h
    cases h
  have hwritten {name : String} (h : (Node.doctype name).IsReduced) (text : List Char) :
      writeNode false (.doctype name) ++ text =
        "<!doctype ".toList ++ (name.toList ++ '>' :: text) := by
    have hne : ¬ name.isEmpty := fun hempty ↦ h (String.isEmpty_iff.mp hempty)
    unfold writeNode writeDoctype
    rw [if_neg hne, List.append_assoc, List.append_assoc]
    exact congrArg _ (congrArg _ List.singleton_append)
  rw [hwritten hreduced, hwritten hreduced'] at heq
  obtain ⟨hchars, hrest⟩ := append_inj_of_stops (hgoesOn hname) (hgoesOn hother) (by simp)
    (by simp) (List.append_cancel_left heq)
  exact ⟨String.toList_inj.mp hchars, (List.cons.inj hrest).2⟩

/-- A text ends where the next bracket comes, unless another text stands behind it. -/
theorem text_append_inj {value other : String} (hx : markOf x ≠ .text) (hy : markOf y ≠ .text)
    (heq : writeNode false (.text value) ++ x = writeNode false (.text other) ++ y) :
    value = other ∧ x = y := by
  have hgoesOn (value : String) : ∀ c ∈ writeNode false (.text value), c != '<' :=
    fun c hc ↦ bne_iff_ne.mpr fun h ↦
      bracket_not_mem_flatMap_escapeText value.toList (by simpa [writeNode, h] using hc)
  obtain ⟨hwritten, hrest⟩ := append_inj_of_stops (hgoesOn value) (hgoesOn other)
    (head_of_markOf_ne_text hx) (head_of_markOf_ne_text hy) heq
  exact ⟨String.toList_inj.mp (flatMap_escapeText_inj (by simpa [writeNode] using hwritten)), hrest⟩

/-- What comes behind a text is not taken for a part of it. -/
theorem markOf_writeNodes_ne_text {nodes : List Node} (hnodes : areWellFormed nodes)
    (hreduced : AreReduced nodes) (hx : markOf x = .ending)
    (htext : HasText.beginsWithText nodes = false) :
    markOf (writeNodes false nodes ++ x) ≠ .text := by
  rw [markOf_writeNodes hnodes hreduced hx]
  match nodes with
  | [] | .element .. :: _ | .comment _ :: _ | .doctype _ :: _ => exact Mark.noConfusion
  | .text _ :: _ => cases htext

mutual

/-- A node can be told from what is written. Behind a text comes no other text. -/
theorem writeNode_append_inj : ∀ {node other : Node}, node.isWellFormed → other.isWellFormed →
    node.IsReduced → other.IsReduced → node.mark = other.mark → ∀ {x y : List Char},
    (node.isText → markOf x ≠ .text) → (other.isText → markOf y ≠ .text) →
    writeNode false node ++ x = writeNode false other ++ y → node = other ∧ x = y
  | .element tag properties children, .element tag' properties' children', hnode, hother,
    hreduced, hreduced', _, x, y, _, _, heq => by
    obtain ⟨rfl, rfl, hcontent⟩ := element_append_inj hnode hother hreduced hreduced' heq
    have hchildren := (isWellFormed_element_iff.mp hnode).2.2.2
    have hchildren' := (isWellFormed_element_iff.mp hother).2.2.2
    obtain ⟨rfl, hend⟩ := writeContent_append_inj hnode hother hreduced hreduced'
      (writeNodes_append_inj hchildren hchildren' hreduced.2.2 hreduced'.2.2) hcontent
    exact ⟨rfl, hend⟩
  | .text value, .text value', _, _, _, _, _, x, y, hx, hy, heq => by
    obtain ⟨rfl, hend⟩ := text_append_inj (hx rfl) (hy rfl) heq
    exact ⟨rfl, hend⟩
  | .comment value, .comment value', hnode, hother, _, _, _, x, y, _, _, heq => by
    obtain ⟨rfl, hend⟩ := comment_append_inj hnode hother heq
    exact ⟨rfl, hend⟩
  | .doctype name, .doctype name', hnode, hother, hreduced, hreduced', _, x, y, _, _, heq => by
    obtain ⟨rfl, hend⟩ := doctype_append_inj hnode hother hreduced hreduced' heq
    exact ⟨rfl, hend⟩

/-- Siblings can be told from what is written. -/
theorem writeNodes_append_inj : ∀ {nodes others : List Node}, areWellFormed nodes →
    areWellFormed others → AreReduced nodes → AreReduced others → ∀ {x y : List Char},
    markOf x = .ending → markOf y = .ending →
    writeNodes false nodes ++ x = writeNodes false others ++ y → nodes = others ∧ x = y
  | nodes, others, hnodes, hothers, hreduced, hreduced', x, y, hx, hy, heq => by
    have hmarks : (nodes.head?.map Node.mark).getD .ending =
        (others.head?.map Node.mark).getD .ending := by
      rw [← markOf_writeNodes hnodes hreduced hx, heq, markOf_writeNodes hothers hreduced' hy]
    match nodes, others with
    | [], [] => exact ⟨rfl, heq⟩
    | [], other :: _ => cases other <;> cases hmarks
    | node :: _, [] => cases node <;> cases hmarks
    | node :: nodes, other :: others =>
      have ⟨hnode, hnodes⟩ : node.isWellFormed ∧ areWellFormed nodes :=
        Bool.and_eq_true_iff.mp hnodes
      have ⟨hother, hothers⟩ : other.isWellFormed ∧ areWellFormed others :=
        Bool.and_eq_true_iff.mp hothers
      obtain ⟨hnodeReduced, hreduced, htext⟩ := hreduced
      obtain ⟨hotherReduced, hreduced', htext'⟩ := hreduced'
      rw [writeNodes, writeNodes, List.append_assoc, List.append_assoc] at heq
      have hbehind : node.isText → markOf (writeNodes false nodes ++ x) ≠ .text := by
        cases node with
        | text value =>
          exact fun _ ↦ markOf_writeNodes_ne_text hnodes hreduced hx (htext value rfl).2
        | element | comment | doctype => exact fun h ↦ nomatch h
      have hbehind' : other.isText → markOf (writeNodes false others ++ y) ≠ .text := by
        cases other with
        | text value =>
          exact fun _ ↦ markOf_writeNodes_ne_text hothers hreduced' hy (htext' value rfl).2
        | element | comment | doctype => exact fun h ↦ nomatch h
      have ⟨hsame, hrest⟩ := writeNode_append_inj hnode hother hnodeReduced hotherReduced hmarks
        hbehind hbehind' heq
      have ⟨hothersSame, hend⟩ :=
        writeNodes_append_inj hnodes hothers hreduced hreduced' hx hy hrest
      exact ⟨by rw [hsame, hothersSame], hend⟩

end

/-! ## Texts of pieces -/

/-- Two well-formed pieces of markup have the same text exactly if their texts show the same tree:
the same elements, properties, texts, comments and document types, up to switches that are off, bare
boolean names, children of void elements, default document types, and the way in which texts are
cut. -/
theorem toHtml_eq_iff {first second : Root} (hfirst : areWellFormed first)
    (hsecond : areWellFormed second) :
    first.toHtml = second.toHtml ↔ shownAmong first = shownAmong second := by
  have hreadable {x y : List Char} (h : x = y) : x ++ [] = y ++ [] := congrArg (· ++ []) h
  calc
    first.toHtml = second.toHtml ↔ writeNodes false first = writeNodes false second :=
      String.ofList_inj
    _ ↔ writeNodes false (shownAmong first) = writeNodes false (shownAmong second) := by
      rw [writeNodes_shownAmong, writeNodes_shownAmong]
    _ ↔ shownAmong first = shownAmong second := by
      constructor
      · intro heq
        exact (writeNodes_append_inj (areWellFormed_shownAmong hfirst)
          (areWellFormed_shownAmong hsecond) (areReduced_shownAmong first)
          (areReduced_shownAmong second) rfl rfl (hreadable heq)).1
      · exact congrArg _

/-- A switch under a boolean name is written like an empty value, and the children of a void
element are not written, while a text that spells a tag is not written like the tag. -/
theorem toHtml_same_and_different_text :
    Root.toHtml [.element "input" (.ofList [("checked", .switch true)]) [.text "a"]] =
        Root.toHtml [.element "input" (.ofList [("checked", .text ""), ("id", .switch false)]) []] ∧
      Root.toHtml [.text "<b></b>"] ≠ Root.toHtml [.element "b" .empty []] := by
  refine ⟨(toHtml_eq_iff (by decide) (by decide)).mpr (by decide +kernel), fun h ↦ ?_⟩
  have htrees := (toHtml_eq_iff (by decide) (by decide)).mp h
  exact absurd htrees (by decide)

end MarkupIslands.Markup
