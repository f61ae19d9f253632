import MarkupIslands.Proofs.Markup.PlainConstruction
import MarkupIslands.Proofs.Markup.PlainText

/-!
# Plain trees are read back

The text of a plain tree is read as the tree, as long as the reader takes over all of the text. A
reader that is handed the text in portions loses a byte order mark that begins one. Only property
values and comments of a plain tree can hold such a mark.
-/

namespace MarkupIslands.Markup

open MarkupIslands.Text
open Html

/-! ## Line ends -/

theorem return_not_mem_writeEntries {entries : List (String × PropertyValue)}
    (h : ∀ entry ∈ entries, isPlainProperty entry) : '\r' ∉ writeEntries entries := by
  intro hmem
  obtain ⟨⟨name, value⟩, hentry, hwritten⟩ := List.mem_flatMap.mp hmem
  have hplain := h _ hentry
  simp only [isPlainProperty, Bool.and_eq_true] at hplain
  obtain ⟨hname, hvalue⟩ := hplain
  have hreturn : '\r' ∉ ' ' :: name.toList := by
    exact List.not_mem_cons_of_ne_of_not_mem (by decide)
      (Lexer.not_mem_of_isPlainName hname (by decide))
  cases value with
  | switch isOn => cases hvalue
  | text value =>
    simp only [Bool.and_eq_true, Bool.not_eq_true', List.contains_eq_mem,
      decide_eq_false_iff_not] at hvalue
    by_cases hbare : value.isEmpty && isBooleanAttribute name
    · rw [writeProperty, if_pos hbare] at hwritten
      exact hreturn hwritten
    · rw [writeProperty_quoted hbare, List.mem_append, List.mem_append, List.mem_append] at hwritten
      rcases hwritten with (hwritten | hwritten) | hwritten | hwritten
      · exact hreturn hwritten
      · exact absurd hwritten (by decide)
      · exact not_mem_flatMap_escapeValue hvalue.2 (by decide) hwritten
      · exact absurd hwritten (by decide)

mutual

/-- No line of the text of a plain tree ends with a carriage return. -/
theorem return_not_mem_writeNode : ∀ {node : Node}, node.isPlain → '\r' ∉ writeNode false node
  | .element tag properties children, hnode => by
    simp only [Node.isPlain, Bool.and_eq_true, List.all_eq_true] at hnode
    obtain ⟨⟨htag, hproperties⟩, hchildren⟩ := hnode
    have hname : '\r' ∉ tag.toList :=
      Lexer.not_mem_of_isSmallWord (isSmallWord_of_plain htag).1 (by decide)
    simp only [writeNode_plainElement htag, List.mem_append, List.mem_cons, List.not_mem_nil,
      not_or]
    exact ⟨⟨by decide, hname⟩, return_not_mem_writeEntries hproperties, ⟨by decide, not_false⟩,
      return_not_mem_writeNodes hchildren, ⟨by decide, by decide, hname⟩, by decide, not_false⟩
  | .text value, hnode => by
    simp only [Node.isPlain, Bool.and_eq_true, List.all_eq_true] at hnode
    have hvalue : '\r' ∉ value.toList := fun hmem ↦ absurd (hnode.2 _ hmem) (by decide)
    exact not_mem_flatMap_escapeText hvalue (by decide)
  | .comment value, hnode => by
    have hvalue : '\r' ∉ value.toList :=
      fun hmem ↦ absurd (List.all_eq_true.mp hnode _ hmem) (by decide)
    have hstart : '\r' ∉ "<!--".toList := by decide
    have hstop : '\r' ∉ "-->".toList := by decide
    intro hmem
    rcases List.mem_append.mp hmem with hmem | hmem
    · exact (List.mem_append.mp hmem).elim hstart hvalue
    · exact hstop hmem
  | .doctype _, hnode => by cases hnode

/-- A carriage return would be read as the end of a line; the text of a plain tree has none. -/
theorem return_not_mem_writeNodes : ∀ {nodes : List Node}, arePlain nodes →
    '\r' ∉ writeNodes false nodes
  | [], _ => List.not_mem_nil
  | node :: nodes, hnodes => by
    simp only [arePlain, Bool.and_eq_true] at hnodes
    rw [writeNodes, List.mem_append, not_or]
    exact ⟨return_not_mem_writeNode hnodes.1.1, return_not_mem_writeNodes hnodes.2⟩

end

/-! ## Reading -/

/-- A fragment is read inside an open root element. -/
theorem readsPlain_fragment : Construction.fragment.ReadsPlain 1 ⟨.html, "html"⟩ [] := by
  refine ⟨⟨rfl, rfl, by decide, by decide, rfl, rfl⟩, rfl, rfl, ?_⟩
  intro element helement
  obtain rfl := List.mem_singleton.mp helement
  decide

/-- A fragment is read as what has been added inside its root element. -/
theorem parse_of_grown {text : String} {reading : Reading} {ids : List NodeId} {cells : List Cell}
    {allowed : Bool} {nodes : List Node}
    (hread : text.toList.foldl Reading.read { tree := Construction.fragment } = reading)
    (hlexer : reading.lexer = Lexer.resume)
    (htree : reading.tree =
      Construction.fragment.withDom (Construction.fragment.dom.grow 1 ids cells) allowed)
    (hshows : Shows Construction.fragment.dom.size ids cells nodes) : parse text = nodes := by
  have hdone : reading.tree.accept .endOfText = (Construction.fragment.withDom
      (Construction.fragment.dom.grow 1 ids cells) allowed).done := by
    rw [htree]
    exact (readsPlain_fragment.withDom ids cells allowed).accept_of_inBody rfl rfl
  have hroot : (Construction.fragment.dom.grow 1 ids cells).children Dom.document = [1] :=
    Dom.children_grow_of_ne (by decide) (by decide) ids cells
  exact (parse_eq_nodesIn hread hlexer hdone hroot).trans
    (Shows.nodesIn_grow (by decide) rfl hshows)

/-- A text whose kept part has the tokens of a plain tree is read as this tree. -/
theorem parse_of_scan {text : String} {nodes : Root} (hplain : arePlain nodes)
    (hreturn : '\r' ∉ text.toList)
    (hscan : Lexer.scan Lexer.resume (Place.kept {} text.toList) =
      (Lexer.resume, tokensOf nodes)) : parse text = nodes := by
  have hbefore : Construction.fragment.dom.NoTextBefore (.lastIn 1) :=
    Dom.noTextBefore_of_children_eq_nil rfl
  obtain ⟨ids, cells, allowed, htakes, hshows⟩ :=
    Construction.ReadsPlain.takes_nodes hplain readsPlain_fragment fun _ ↦ hbefore
  exact parse_of_grown (Reading.foldl_read rfl rfl hreturn hscan htakes) rfl rfl hshows

/-- The text of a plain tree is read as a plain tree, and as the tree itself exactly if all of the
text is kept. -/
theorem exists_parse_toHtml {nodes : Root} (hplain : arePlain nodes) :
    ∃ nodes', parse nodes.toHtml = nodes' ∧
      (nodes' = nodes ↔ Place.kept {} nodes.toHtml.toList = nodes.toHtml.toList) := by
  obtain ⟨nodes', hplain', -, hscan, hsame⟩ := exists_scan_nodes hplain {}
  have hchars : nodes.toHtml.toList = writeNodes false nodes := String.toList_ofList
  rw [hchars, ← hsame]
  refine ⟨nodes', parse_of_scan hplain' ?_ ?_, Iff.rfl⟩
  · rw [hchars]
    exact return_not_mem_writeNodes hplain
  · rw [hchars]
    exact hscan

/-- Without byte order marks a plain tree is always read back. -/
theorem parse_toHtml_of_not_mem {nodes : Root} (hplain : arePlain nodes)
    (h : orderMark ∉ nodes.toHtml.toList) : parse nodes.toHtml = nodes := by
  obtain ⟨nodes', hparse, hsame⟩ := exists_parse_toHtml hplain
  rw [hparse, hsame]
  exact Place.kept_of_not_mem h

/-- A plain tree is read back from its text if the reader keeps all of the text, and only then: what
it loses is a byte order mark that begins a portion. -/
theorem parse_toHtml_eq_self_iff {nodes : Root} (hplain : arePlain nodes) :
    parse nodes.toHtml = nodes ↔
      Place.kept {} nodes.toHtml.toList = nodes.toHtml.toList := by
  obtain ⟨nodes', hparse, hsame⟩ := exists_parse_toHtml hplain
  rw [hparse, hsame]

/-- A section with a value full of markup characters, a text and a comment is read back. -/
theorem parse_toHtml_section :
    parse (Root.toHtml [.element "section" (.ofList [("title", .text "a\"<b>&amp;")])
        [.text "1 < 2 & 3", .comment " note "]]) =
      [.element "section" (.ofList [("title", .text "a\"<b>&amp;")])
        [.text "1 < 2 & 3", .comment " note "]] :=
  (parse_toHtml_eq_self_iff (by decide +kernel)).mpr (by decide +kernel)

/-! ## A mark that begins a portion -/

/-- Some letters with a byte order mark behind them. -/
def markedValue (letters : Nat) : String :=
  String.ofList (List.replicate letters 'x' ++ [orderMark])

theorem toList_markedValue (letters : Nat) :
    (markedValue letters).toList = List.replicate letters 'x' ++ [orderMark] :=
  String.toList_ofList

theorem eq_of_mem_markedValue {letters : Nat} {c : Char} (h : c ∈ (markedValue letters).toList) :
    c = 'x' ∨ c = orderMark := by
  rw [toList_markedValue] at h
  exact (List.mem_append.mp h).imp List.eq_of_mem_replicate List.mem_singleton.mp

def markedTree (letters : Nat) : Root :=
  [.element "div" (.ofList [("a", .text (markedValue letters))]) []]

theorem entries_marked (letters : Nat) :
    (Properties.ofList [("a", .text (markedValue letters))]).entries =
      [("a", .text (markedValue letters))] := rfl

/-- Plain trees may hold byte order marks. -/
theorem arePlain_markedTree (letters : Nat) : arePlain (markedTree letters) := by
  have hnot {c : Char} (hx : c ≠ 'x') (hmark : c ≠ orderMark) :
      (markedValue letters).toList.contains c = false := by
    rw [← Bool.not_eq_true, List.contains_iff_mem]
    exact fun hmem ↦ (eq_of_mem_markedValue hmem).elim hx hmark
  have hnull := hnot (by decide : '\x00' ≠ 'x') (by decide)
  have hreturn := hnot (by decide : '\r' ≠ 'x') (by decide)
  have hproperty : isPlainProperty ("a", .text (markedValue letters)) := by
    simp only [isPlainProperty, hnull, hreturn]
    decide
  simp only [markedTree, arePlain, Node.isPlain, entries_marked, List.all_cons, List.all_nil,
    hproperty]
  rfl

theorem toHtml_markedTree (letters : Nat) :
    (markedTree letters).toHtml.toList =
      ("<div a=\"".toList ++ List.replicate letters 'x') ++ orderMark :: "\"></div>".toList := by
  have hsame : ∀ c ∈ (markedValue letters).toList, escapeValue c = [c] := by
    intro c hc
    rcases eq_of_mem_markedValue hc with rfl | rfl <;> rfl
  have hwritten : (markedValue letters).toList.flatMap escapeValue =
      List.replicate letters 'x' ++ [orderMark] :=
    (List.flatMap_congr hsame).trans
      ((List.flatMap_singleton' _).trans (toList_markedValue letters))
  have hquoted : ¬ ((markedValue letters).isEmpty && isBooleanAttribute "a") := by
    simp [String.isEmpty_iff, ← String.toList_inj, toList_markedValue]
  have hchars : (markedTree letters).toHtml.toList = writeNodes false (markedTree letters) :=
    String.toList_ofList
  have hentries : writeEntries [("a", .text (markedValue letters))] =
      writeProperty "a" (.text (markedValue letters)) := List.append_nil _
  rw [hchars, markedTree, writeNodes, writeNode_plainElement (by decide), entries_marked,
    hentries, writeProperty_quoted hquoted, hwritten]
  simp [writeNodes]

/-- The mark is not kept if the text before it fills a portion. -/
theorem kept_markedTree_ne {letters : Nat} (h : letters + 8 = portionSize) :
    Place.kept {} (markedTree letters).toHtml.toList ≠ (markedTree letters).toHtml.toList := by
  have hplace : Place.after {} ("<div a=\"".toList ++ List.replicate letters 'x') = {} := by
    apply Place.after_of_fills
    · have hstart : ("<div a=\"".toList.all fun c ↦ c.utf8Size == 1) := by decide
      intro c hc
      rcases List.mem_append.mp hc with hc | hc
      · exact beq_iff_eq.mp (List.all_eq_true.mp hstart c hc)
      · obtain rfl := List.eq_of_mem_replicate hc
        rfl
    · simp
    · rw [List.length_append, List.length_replicate, Nat.add_comm]
      exact h
  rw [toHtml_markedTree, Ne, Place.kept_append_eq_self_iff, hplace,
    Place.kept_cons_of_dropped (by decide)]
  intro hkept
  have hle := (Place.kept_sublist _ _).length_le.trans_eq' (congrArg List.length hkept.2)
  simp at hle

/-- A mark that begins a portion is missing from the tree that is read. -/
theorem parse_toHtml_markedTree_ne {letters : Nat} (h : letters + 8 = portionSize) :
    parse (markedTree letters).toHtml ≠ markedTree letters := by
  obtain ⟨nodes', hparse, hsame⟩ := exists_parse_toHtml (arePlain_markedTree letters)
  intro heq
  exact kept_markedTree_ne h (hsame.mp (hparse.symm.trans heq))

example : parse (markedTree 4088).toHtml ≠ markedTree 4088 := parse_toHtml_markedTree_ne rfl

end MarkupIslands.Markup
