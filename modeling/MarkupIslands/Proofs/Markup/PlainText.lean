import MarkupIslands.Proofs.Markup.PlainTree

/-!
# Texts of plain trees

The text of a plain tree is scanned as the tokens of a plain tree: of the tree itself exactly if no
byte order mark in it begins a portion of the text, and otherwise of the tree without those marks,
which can only stand in property values and in comments.
-/

namespace MarkupIslands.Markup

open MarkupIslands.Text
open Html Lexer

variable {place : Place}

/-! ## Properties -/

/-- What is kept of an escaped value is an escaped value. -/
theorem exists_kept_value (place : Place) (value : List Char) :
    ∃ value' : List Char, value'.Sublist value ∧
      place.kept (value.flatMap escapeValue) = value'.flatMap escapeValue ∧
      (value' = value ↔ place.kept (value.flatMap escapeValue) = value.flatMap escapeValue) := by
  obtain ⟨value', hsublist, hkept⟩ := Place.exists_kept_flatMap rfl
    (fun c hc ↦ not_mem_escapeValue (Ne.symm hc) (by decide)) place value
  refine ⟨value', hsublist, hkept, ?_⟩
  rw [hkept]
  exact ⟨congrArg _, flatMap_escapeValue_inj⟩

theorem writeProperty_quoted {name value : String}
    (h : ¬ (value.isEmpty && isBooleanAttribute name)) :
    writeProperty name (.text value) =
      (' ' :: name.toList ++ ['=', '"']) ++ (value.toList.flatMap escapeValue ++ ['"']) := by
  rw [writeProperty, if_neg h]
  simp

/-- A plain property is read as one, with its own value exactly if all of it is kept. -/
theorem exists_scan_property {name value : String}
    (h : isPlainProperty (name, .text value)) (place : Place) :
    ∃ value', isPlainProperty (name, .text value') ∧
      (value' = value ↔
        place.kept (writeProperty name (.text value)) = writeProperty name (.text value)) ∧
      ∀ {state : State} {draft : Draft}, IsBehind state draft →
        ∃ state', scan state (place.kept (writeProperty name (.text value))) = (state', []) ∧
          IsBehind state' (draft.add name value') := by
  have hboth := h
  simp only [isPlainProperty, Bool.and_eq_true, Bool.not_eq_true', List.contains_eq_mem,
    decide_eq_false_iff_not] at hboth
  obtain ⟨hname, hnull, hreturn⟩ := hboth
  have hmark : orderMark ∉ ' ' :: name.toList :=
    List.not_mem_cons_of_ne_of_not_mem (by decide) (not_mem_of_isPlainName hname (by decide))
  by_cases hbare : value.isEmpty && isBooleanAttribute name
  · have hempty : value = "" := String.isEmpty_iff.mp (Bool.and_eq_true_iff.mp hbare).1
    have hwritten : writeProperty name (.text value) = ' ' :: name.toList := by
      rw [writeProperty, if_pos hbare]
    rw [hwritten, Place.kept_of_not_mem hmark]
    refine ⟨value, h, by simp, fun {state draft} hbehind ↦
      ⟨_, scan_bareName hbehind (ne_nil_of_isPlainName hname) (isWordPart_of_isPlainName hname),
        ?_⟩⟩
    rw [hempty]
    exact .bare draft name
  · have hstart : orderMark ∉ ' ' :: name.toList ++ ['=', '"'] := by
      rw [List.mem_append, not_or]
      exact ⟨hmark, by decide⟩
    have hstop : orderMark ∉ ['"'] := by decide
    obtain ⟨value', hsublist, hkept, hsame⟩ :=
      exists_kept_value (place.after (' ' :: name.toList ++ ['=', '"'])) value.toList
    rw [writeProperty_quoted hbare, Place.kept_between_eq_self_iff hstart hstop, ← hsame,
      Place.kept_between hstart hstop, hkept]
    refine ⟨String.ofList value', ?_, ?_, fun {state draft} hbehind ↦ ?_⟩
    · simp only [isPlainProperty, Bool.and_eq_true, Bool.not_eq_true', List.contains_eq_mem,
        decide_eq_false_iff_not, String.toList_ofList]
      exact ⟨hname, fun hmem ↦ hnull (hsublist.subset hmem),
        fun hmem ↦ hreturn (hsublist.subset hmem)⟩
    · rw [← String.toList_inj, String.toList_ofList]
    · have hescaped := scan_flatMap_escapeValue draft name ""
        fun hmem ↦ hnull (hsublist.subset hmem)
      rw [String.empty_append] at hescaped
      have hscan := scan_quotedValue hbehind (ne_nil_of_isPlainName hname)
        (isWordPart_of_isPlainName hname) hescaped
      exact ⟨_, (by simpa using hscan), .value _⟩

theorem Draft.add_of_not_mem {draft : Draft} {name : String}
    (h : name ∉ draft.attributes.map Prod.fst) (value : String) :
    draft.add name value = { draft with attributes := draft.attributes ++ [(name, value)] } := by
  apply if_neg
  simp only [List.any_eq_true, beq_iff_eq, not_exists, not_and]
  intro entry hentry heq
  exact h (heq ▸ List.mem_map_of_mem hentry)

/-- Plain properties are read as plain properties with the same names. -/
theorem exists_scan_entries : ∀ {entries : List (String × PropertyValue)},
    (∀ entry ∈ entries, isPlainProperty entry) → ∀ place : Place,
    ∃ entries', (∀ entry ∈ entries', isPlainProperty entry) ∧
      entries'.map Prod.fst = entries.map Prod.fst ∧
      (entries' = entries ↔ place.kept (writeEntries entries) = writeEntries entries) ∧
      ∀ {state : State} {draft : Draft}, IsBehind state draft →
        (draft.attributes.map Prod.fst ++ entries.map Prod.fst).Nodup →
        ∃ state', scan state (place.kept (writeEntries entries)) = (state', []) ∧
          IsBehind state'
            { draft with attributes := draft.attributes ++ textEntries entries' }
  | [], _, _ => by
    refine ⟨[], nofun, rfl, by simp [writeEntries, Place.kept], fun {state draft} hbehind _ ↦ ?_⟩
    exact ⟨state, rfl, by simpa [textEntries] using hbehind⟩
  | (name, .switch _) :: _, h, _ => by
    have hentry := h _ List.mem_cons_self
    simp [isPlainProperty] at hentry
  | (name, .text value) :: entries, h, place => by
    obtain ⟨hentry, hentries⟩ := List.forall_mem_cons.mp h
    obtain ⟨value', hvalue', hsame, hscan⟩ := exists_scan_property hentry place
    obtain ⟨entries', hplain, hnames, hsameRest, hscanRest⟩ := exists_scan_entries hentries
      (place.after (writeProperty name (.text value)))
    have hwritten : writeEntries ((name, .text value) :: entries) =
        writeProperty name (.text value) ++ writeEntries entries := List.flatMap_cons
    rw [hwritten, Place.kept_append_eq_self_iff, ← hsame, ← hsameRest, Place.kept_append]
    refine ⟨(name, .text value') :: entries', List.forall_mem_cons.mpr ⟨hvalue', hplain⟩,
      by rw [List.map_cons, List.map_cons, hnames], by simp, fun {state draft} hbehind hnodup ↦ ?_⟩
    have hnew : name ∉ draft.attributes.map Prod.fst := by
      rw [List.nodup_append] at hnodup
      exact fun hmem ↦ hnodup.2.2 _ hmem _ List.mem_cons_self rfl
    obtain ⟨between, hfirst, hbetween⟩ := hscan hbehind
    rw [Draft.add_of_not_mem hnew] at hbetween
    obtain ⟨state', hlast, hstate'⟩ := hscanRest hbetween (by simpa using hnodup)
    refine ⟨state', scan_append_of_eq hfirst hlast, ?_⟩
    rw [List.append_assoc] at hstate'
    exact hstate'

/-! ## Names and comments -/

/-- Plain elements are written with their content and an end tag, and their names are read as they
are. -/
theorem isSmallWord_of_plain {tag : String} (h : plainTags.contains tag) :
    isSmallWord tag.toList ∧ isVoid tag = false ∧ isRawText tag = false := by
  have hall : plainTags.all fun tag ↦
      isSmallWord tag.toList && !isVoid tag && !isRawText tag := by decide
  simpa [and_assoc] using all_of_contains h hall

/-- A plain comment is read as one, as it is exactly if all of it is kept. -/
theorem exists_scan_comment {value : String} (h : (Node.comment value).isPlain) (place : Place) :
    ∃ value', (Node.comment value').isPlain ∧
      scan resume (place.kept (writeComment value)) = (resume, [.comment value']) ∧
      (value' = value ↔ place.kept (writeComment value) = writeComment value) := by
  have hparts := List.all_eq_true.mp h
  have hwritten (value : String) :
      writeComment value = "<!--".toList ++ (value.toList ++ "-->".toList) := List.append_assoc ..
  have hstart : orderMark ∉ "<!--".toList := by decide
  have hstop : orderMark ∉ "-->".toList := by decide
  have hsublist := (place.after "<!--".toList).kept_sublist value.toList
  have hcomment : ∀ c ∈ (place.after "<!--".toList).kept value.toList, isPlainCommentPart c :=
    fun c hc ↦ hparts c (hsublist.subset hc)
  have hchars : (String.ofList ((place.after "<!--".toList).kept value.toList)).toList =
      (place.after "<!--".toList).kept value.toList := String.toList_ofList
  have hkept : place.kept (writeComment value) =
      writeComment (String.ofList ((place.after "<!--".toList).kept value.toList)) :=
    calc
      place.kept (writeComment value) =
          place.kept ("<!--".toList ++ (value.toList ++ "-->".toList)) :=
        congrArg place.kept (hwritten value)
      _ = "<!--".toList ++ ((place.after "<!--".toList).kept value.toList ++ "-->".toList) :=
        Place.kept_between hstart hstop _
      _ = _ := by rw [hwritten, hchars]
  refine ⟨String.ofList ((place.after "<!--".toList).kept value.toList), ?_, ?_, ?_⟩
  · rw [Node.isPlain, String.toList_ofList]
    exact List.all_eq_true.mpr hcomment
  · rw [hkept]
    apply scan_comment
    intro c hc
    rw [String.toList_ofList] at hc
    have hpart := hcomment c hc
    simp only [isPlainCommentPart, Bool.and_eq_true, bne_iff_ne] at hpart
    simp [isCommentPart, hpart]
  · rw [hwritten, Place.kept_between_eq_self_iff hstart hstop, ← String.toList_inj,
      String.toList_ofList]

/-! ## Trees -/

theorem writeNode_plainElement {tag : String} (htag : plainTags.contains tag)
    (properties : Properties) (children : List Node) :
    writeNode false (.element tag properties children) =
      '<' :: tag.toList ++ (writeEntries properties.entries ++
        (['>'] ++ (writeNodes false children ++ ('<' :: '/' :: tag.toList ++ ['>'])))) := by
  obtain ⟨-, hvoid, hraw⟩ := isSmallWord_of_plain htag
  rw [writeNode, hvoid, hraw]
  simp [writeProperties, writeEntries]

/-- The start tag of a plain element. -/
theorem exists_scan_startTag {tag : String} (htag : plainTags.contains tag)
    {properties : Properties} (h : ∀ entry ∈ properties.entries, isPlainProperty entry)
    (place : Place) :
    ∃ properties' : Properties, (∀ entry ∈ properties'.entries, isPlainProperty entry) ∧
      (properties' = properties ↔
        place.kept (writeEntries properties.entries) = writeEntries properties.entries) ∧
      scan resume ('<' :: tag.toList ++ (place.kept (writeEntries properties.entries) ++ ['>'])) =
        (resume, [.startTag ⟨tag, properties'.texts, false⟩]) := by
  obtain ⟨entries', hplain, hnames, hsame, hscan⟩ := exists_scan_entries h place
  obtain ⟨state', hentries, hstate'⟩ :=
    hscan (.name ⟨false, tag, []⟩) (by simpa using properties.nodup)
  refine ⟨⟨entries', hnames ▸ properties.nodup⟩, hplain, ?_, ?_⟩
  · rw [← hsame]
    exact ⟨congrArg Properties.entries, fun heq ↦ Properties.ext heq⟩
  · apply scan_append_of_eq (scan_startTagName (isSmallWord_of_plain htag).1)
    apply scan_append_of_eq hentries
    rw [scan_singleton, hstate'.step_close]
    rfl

mutual

/-- The text of a plain node is read as the tokens of a plain node, of the node itself exactly if
all of the text is kept. -/
theorem exists_scan_node : ∀ {node : Node}, node.isPlain → ∀ place : Place,
    ∃ node', node'.isPlain ∧ node'.isText = node.isText ∧
      scan resume (place.kept (writeNode false node)) = (resume, node'.tokens) ∧
      (node' = node ↔ place.kept (writeNode false node) = writeNode false node)
  | .element tag properties children, hnode, place => by
    simp only [Node.isPlain, Bool.and_eq_true, List.all_eq_true] at hnode
    obtain ⟨⟨htag, hproperties⟩, hchildren⟩ := hnode
    obtain ⟨hword, -, -⟩ := isSmallWord_of_plain htag
    have hname : orderMark ∉ tag.toList := not_mem_of_isSmallWord hword (by decide)
    have hstart : orderMark ∉ '<' :: tag.toList :=
      List.not_mem_cons_of_ne_of_not_mem (by decide) hname
    have hclose : orderMark ∉ ['>'] := by decide
    have hend : orderMark ∉ '<' :: '/' :: tag.toList ++ ['>'] := by
      rw [List.mem_append, not_or, List.mem_cons, List.mem_cons, not_or, not_or]
      exact ⟨⟨by decide, by decide, hname⟩, hclose⟩
    obtain ⟨properties', hplain, hsame, hscan⟩ :=
      exists_scan_startTag htag hproperties (place.after ('<' :: tag.toList))
    obtain ⟨children', hplainChildren, -, hscanChildren, hsameChildren⟩ :=
      exists_scan_nodes hchildren
        (((place.after ('<' :: tag.toList)).after (writeEntries properties.entries)).after ['>'])
    refine ⟨.element tag properties' children', ?_, rfl, ?_, ?_⟩
    · simp only [Node.isPlain, Bool.and_eq_true, List.all_eq_true]
      exact ⟨⟨htag, hplain⟩, hplainChildren⟩
    · have hopened := scan_append_of_eq hscan
        (scan_append_of_eq hscanChildren (scan_endTag hword))
      rw [writeNode_plainElement htag, Place.kept_append, Place.kept_of_not_mem hstart,
        Place.kept_append, Place.kept_between hclose hend]
      simp only [List.append_assoc] at hopened
      exact hopened
    · rw [writeNode_plainElement htag, Place.kept_append_eq_self_iff,
        Place.kept_append_eq_self_iff, Place.kept_between_eq_self_iff hclose hend, ← hsame,
        ← hsameChildren, Node.element.injEq, and_iff_right rfl,
        and_iff_right (Place.kept_of_not_mem hstart)]
  | .text value, hnode, place => by
    have hboth := hnode
    simp only [Node.isPlain, Bool.and_eq_true, List.all_eq_true] at hboth
    have hmark : orderMark ∉ value.toList := fun hmem ↦ absurd (hboth.2 _ hmem) (by decide)
    have hkept : place.kept (writeNode false (.text value)) = writeNode false (.text value) :=
      Place.kept_of_not_mem (not_mem_flatMap_escapeText hmark (by decide))
    refine ⟨.text value, hnode, rfl, ?_, by simp [hkept]⟩
    rw [hkept]
    exact scan_flatMap_escapeText value.toList
  | .comment value, hnode, place => by
    obtain ⟨value', hplain, hscan, hsame⟩ := exists_scan_comment hnode place
    exact ⟨.comment value', hplain, rfl, hscan, by rw [Node.comment.injEq, hsame, writeNode]⟩
  | .doctype _, hnode, _ => by cases hnode

/-- The text of plain siblings, as far as it is kept, is read as the tokens of plain siblings, which
are the same exactly if nothing was dropped. -/
theorem exists_scan_nodes : ∀ {nodes : List Node}, arePlain nodes → ∀ place : Place,
    ∃ nodes', arePlain nodes' ∧
      HasText.beginsWithText nodes' = HasText.beginsWithText nodes ∧
      scan resume (place.kept (writeNodes false nodes)) = (resume, tokensOf nodes') ∧
      (nodes' = nodes ↔ place.kept (writeNodes false nodes) = writeNodes false nodes)
  | [], _, _ => ⟨[], rfl, rfl, rfl, by simp [writeNodes, Place.kept]⟩
  | node :: nodes, hnodes, place => by
    simp only [arePlain, Bool.and_eq_true] at hnodes
    obtain ⟨⟨hnode, hapart⟩, hnodes⟩ := hnodes
    obtain ⟨node', hplain, hkind, hscan, hsame⟩ := exists_scan_node hnode place
    obtain ⟨nodes', hplainRest, hbegins, hscanRest, hsameRest⟩ :=
      exists_scan_nodes hnodes (place.after (writeNode false node))
    rw [writeNodes, Place.kept_append_eq_self_iff, ← hsame, ← hsameRest, Place.kept_append]
    refine ⟨node' :: nodes', ?_, ?_, scan_append_of_eq hscan hscanRest, List.cons_eq_cons⟩
    · simp only [arePlain, hplain, hplainRest, hkind, hbegins, hapart, Bool.and_true]
    · cases node <;> cases node' <;> first | rfl | cases hkind

end

end MarkupIslands.Markup
