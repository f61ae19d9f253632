import MarkupIslands.Proofs.Markup.Insertion
import MarkupIslands.Proofs.Markup.PlainTree

/-!
# Construction of plain trees

The tokens of a plain tree let the tree under construction grow by just this tree. One lemma for
each kind of token says what one step does; the run over a whole tree follows by induction on the
tree, with the innermost open element general.
-/

namespace MarkupIslands.Markup

open Dom (NoTextBefore)

/-! ## Elements without rules of their own -/

/-- The elements that stand open while a plain tree is read. -/
def ElementName.isPlain (name : ElementName) : Bool :=
  name.space == .html && (name.tag == "html" || plainTags.contains name.tag)

theorem isHtml_eq_false_of_isPlain {name : ElementName} {tag : String} (h : name.isPlain)
    (htag : tag ≠ "html") (hother : plainTags.contains tag = false) :
    name.isHtml [tag] = false := by
  simp only [ElementName.isPlain, Bool.and_eq_true, Bool.or_eq_true, beq_iff_eq] at h
  have hne : name.tag ≠ tag := by
    rintro rfl
    rcases h.2 with hroot | hplain
    · exact htag hroot
    · exact absurd hplain (Bool.eq_false_iff.mp hother)
  simp [ElementName.isHtml, hne]

/-- A start tag of a plain element opens a block or a common element. -/
theorem BodyStart.ofName_of_plain {tag : String} (h : plainTags.contains tag) :
    BodyStart.ofName tag = .block ∨ BodyStart.ofName tag = .other := by
  have hall : plainTags.all fun tag ↦
      BodyStart.ofName tag == .block || BodyStart.ofName tag == .other := by decide
  simpa using all_of_contains h hall

theorem BodyEnd.ofName_of_plain {tag : String} (h : plainTags.contains tag) :
    BodyEnd.ofName tag = .block ∨ BodyEnd.ofName tag = .other := by
  have hall : plainTags.all fun tag ↦
      BodyEnd.ofName tag == .block || BodyEnd.ofName tag == .other := by decide
  simpa using all_of_contains h hall

theorem mayEnd_of_plain {tag : String} (h : plainTags.contains tag) :
    (ElementName.mk .html tag).mayEnd = false := by
  have hall : plainTags.all fun tag ↦ !(ElementName.mk .html tag).mayEnd := by decide
  simpa using all_of_contains h hall

namespace Construction

variable {s : Construction} {parent : NodeId} {name : ElementName} {rest : List OpenElement}
  {tag : String}

/-- Plain content is read inside plain elements. -/
structure ReadsPlain (s : Construction) (parent : NodeId) (name : ElementName)
    (rest : List OpenElement) : Prop extends s.InsertsInto parent name rest where
  inBody : s.mode = .inBody
  noFormatting : s.formatting = []
  isPlain : ∀ element ∈ s.stack, element.name.isPlain

namespace ReadsPlain

theorem withDom (h : s.ReadsPlain parent name rest) (ids : List NodeId) (cells : List Cell)
    (allowed : Bool) :
    (s.withDom (s.dom.grow parent ids cells) allowed).ReadsPlain parent name rest where
  toInsertsInto := h.toInsertsInto.grow rfl rfl rfl rfl
  inBody := h.inBody
  noFormatting := h.noFormatting
  isPlain := h.isPlain

/-- A token that the body is done with is taken in one round. -/
theorem accept_of_inBody (h : s.ReadsPlain parent name rest) {token : Token}
    (hruled : token.isRuled) {s' : Construction} (hrule : s.inBody token = s'.done) :
    s.accept token = s'.done := by
  have hmode : s.byMode token = s'.done := by
    rw [byMode, h.inBody]
    exact hrule
  exact accept_of_byMode h.noSkip h.inForeign hruled hmode Next.noConfusion

theorem reopenFormatting (h : s.ReadsPlain parent name rest) : s.reopenFormatting = s := by
  rw [Construction.reopenFormatting, h.noFormatting, reopen]
  exact congrArg (fun formatting ↦ { s with formatting }) h.noFormatting.symm

/-- No paragraph is open around plain content, so a block has none to close. -/
theorem closeParagraphInScope (h : s.ReadsPlain parent name rest) :
    s.closeParagraphInScope = s := by
  have hfinds (stack : List OpenElement) (hstack : ∀ element ∈ stack, element.name.isPlain) :
      findsOpen ElementName.boundsButtonScope (·.name.isHtml ["p"]) stack = false := by
    induction stack with
    | nil => rfl
    | cons element stack ih =>
      obtain ⟨helement, hstack⟩ := List.forall_mem_cons.mp hstack
      rw [findsOpen, isHtml_eq_false_of_isPlain helement (by decide) (by decide), ih hstack]
      simp
  rw [Construction.closeParagraphInScope, namedInScope, inScope, hfinds s.stack h.isPlain]
  exact if_neg Bool.false_ne_true

/-! ### One token -/

/-- A start tag opens its element. -/
theorem accept_startTag (h : s.ReadsPlain parent name rest) (htag : plainTags.contains tag)
    (attributes : List (String × String)) :
    s.accept (.startTag ⟨tag, attributes, false⟩) =
      (s.insertTag ⟨tag, attributes, false⟩).done := by
  apply h.accept_of_inBody rfl
  rw [Construction.inBody, bodyStart]
  rcases BodyStart.ofName_of_plain htag with hclass | hclass
  · rw [hclass]
    exact congrArg (fun s ↦ (insertTag s _).done) h.closeParagraphInScope
  · rw [hclass]
    exact congrArg (fun s ↦ (insertTag s _).done) h.reopenFormatting

/-- An end tag closes the innermost element if it is its own. -/
theorem accept_endTag (h : s.ReadsPlain parent ⟨.html, tag⟩ rest)
    (htag : plainTags.contains tag) :
    s.accept (.endTag tag) = { s with stack := rest }.done := by
  apply h.accept_of_inBody rfl
  have hnamed : (ElementName.mk .html tag).isHtml [tag] := by simp [ElementName.isHtml]
  have hdrop (p : ElementName → Bool) (hp : p ⟨.html, tag⟩ = false) :
      s.popWhile p = s := by
    have hstack : s.stack.dropWhile (fun element ↦ p element.name) = s.stack := by
      rw [h.stack, List.dropWhile_cons_of_neg (by simp [hp])]
    exact congrArg (fun stack ↦ { s with stack }) hstack
  have hpop : s.popThroughNamed tag = { s with stack := rest } := by
    rw [popThroughNamed, popThrough, h.stack, List.dropWhile_cons_of_neg (by simp [hnamed])]
    rfl
  rw [Construction.inBody, bodyEnd]
  rcases BodyEnd.ofName_of_plain htag with hclass | hclass
  · have hscope : s.namedInScope ElementName.boundsScope tag := by
      rw [namedInScope, inScope, h.stack, findsOpen, hnamed, Bool.true_or]
    rw [hclass]
    simp only [endBlock, hscope, if_true, closeImplied, hdrop _ (mayEnd_of_plain htag), hpop]
  · have hexcept : s.closeImpliedExcept tag = s := hdrop _ (by simp [mayEnd_of_plain htag])
    rw [hclass]
    simp [closeNamed, h.stack, hnamed, hexcept, hpop]

theorem accept_comment (h : s.ReadsPlain parent name rest) (value : String) :
    s.accept (.comment value) =
      (s.withDom (s.dom.grow parent [s.dom.size] [⟨.comment value, []⟩])
        s.framesetAllowed).done := by
  apply h.accept_of_inBody rfl
  rw [Construction.inBody, h.insertComment]
  rfl

theorem accept_char (h : s.ReadsPlain parent name rest) {c : Char} (hc : c ≠ '\x00') :
    ∃ allowed, s.accept (.char c) =
      (s.withDom (s.dom.putChar (.lastIn parent) c) allowed).done := by
  have hrule : s.inBody (.char c) =
      (s.withDom (s.dom.putChar (.lastIn parent) c)
        (if isSpaceText c then s.framesetAllowed else false)).done := by
    rw [Construction.inBody, bodyChar, if_neg hc, h.reopenFormatting, h.insertChar]
    split <;> rfl
  exact ⟨_, h.accept_of_inBody rfl hrule⟩

/-! ### Whole trees -/

theorem takesChars (h : s.ReadsPlain parent name rest) : s.TakesChars parent :=
  fun ids cells allowed ↦
    ⟨(h.withDom ids cells allowed).inForeign, fun hc ↦ (h.withDom ids cells allowed).accept_char hc⟩

theorem ne_template_of_plain (htag : plainTags.contains tag) : tag ≠ "template" := by
  rintro rfl
  exact absurd htag (by decide)

/-- A new plain element is the new innermost one. -/
theorem insertTag (h : s.ReadsPlain parent name rest) (htag : plainTags.contains tag)
    (attributes : List (String × String)) :
    (s.insertTag ⟨tag, attributes, false⟩).ReadsPlain s.dom.size ⟨.html, tag⟩ s.stack := by
  have hinto := h.insertTag_insertsInto ⟨tag, attributes, false⟩ (ne_template_of_plain htag)
  have hplain : (ElementName.mk .html tag).isPlain := by
    rw [ElementName.isPlain, htag, Bool.or_true]
    rfl
  refine ⟨hinto, h.inBody, h.noFormatting, ?_⟩
  rw [hinto.stack]
  exact List.forall_mem_cons.mpr ⟨hplain, h.isPlain⟩

/-- A plain element whose children let the tree grow inside it lets the tree grow by one element. -/
theorem takes_element (h : s.ReadsPlain parent name rest) (htag : plainTags.contains tag)
    {attributes : List (String × String)} {tokens : List Token} {ids : List NodeId}
    {cells : List Cell} {allowed : Bool}
    (htakes : (s.insertTag ⟨tag, attributes, false⟩).Takes tokens
      ((s.insertTag ⟨tag, attributes, false⟩).withDom
        ((s.insertTag ⟨tag, attributes, false⟩).dom.grow s.dom.size ids cells) allowed)) :
    s.Takes (.startTag ⟨tag, attributes, false⟩ :: (tokens ++ [.endTag tag]))
      (s.withDom
        (s.dom.grow parent [s.dom.size]
          (⟨.element ⟨.html, tag⟩ (attributes.map .ordinary) none, ids⟩ :: cells))
        allowed) := by
  have hopened := h.insertTag htag attributes
  have hclosed := (hopened.withDom ids cells allowed).accept_endTag htag
  have hstate := h.toInsertsInto.insertTag ⟨tag, attributes, false⟩ (ne_template_of_plain htag)
  have hlast : { (s.insertTag ⟨tag, attributes, false⟩).withDom
      ((s.insertTag ⟨tag, attributes, false⟩).dom.grow s.dom.size ids cells) allowed with
        stack := s.stack } =
      s.withDom
        (s.dom.grow parent [s.dom.size]
          (⟨.element ⟨.html, tag⟩ (attributes.map .ordinary) none, ids⟩ :: cells))
        allowed := by
    rw [hstate]
    exact congrArg (s.withDom · allowed) (Dom.grow_grow_child ..)
  rw [hlast] at hclosed
  refine .cons h.inForeign (h.accept_startTag htag attributes) (htakes.append ?_)
  exact .single (hopened.withDom ids cells allowed).inForeign hclosed (h.withDom _ _ _).inForeign

mutual

/-- The tokens of a plain node let the tree grow by this node. -/
theorem takes_node : ∀ {node : Node}, node.isPlain →
    ∀ {s : Construction} {parent : NodeId} {name : ElementName} {rest : List OpenElement},
    s.ReadsPlain parent name rest → (node.isText → s.dom.NoTextBefore (.lastIn parent)) →
    ∃ ids cells allowed, s.Takes node.tokens (s.withDom (s.dom.grow parent ids cells) allowed) ∧
      Shows s.dom.size ids cells [node] ∧
      (node.isText = false → (s.dom.grow parent ids cells).NoTextBefore (.lastIn parent))
  | .element tag properties children, hnode, s, parent, name, rest, h, _ => by
    simp only [Node.isPlain, Bool.and_eq_true, List.all_eq_true] at hnode
    obtain ⟨⟨htag, hproperties⟩, hchildren⟩ := hnode
    have hopened := h.insertTag htag properties.texts
    have hstate := h.toInsertsInto.insertTag ⟨tag, properties.texts, false⟩
      (ne_template_of_plain htag)
    have hempty : (s.insertTag ⟨tag, properties.texts, false⟩).dom.children s.dom.size = [] := by
      rw [hstate]
      exact Dom.children_grow_new ..
    have hsize : (s.insertTag ⟨tag, properties.texts, false⟩).dom.size = s.dom.size + 1 := by
      rw [hstate, Dom.size_grow]
      rfl
    obtain ⟨ids, cells, allowed, htakes, hshows⟩ :=
      takes_nodes hchildren hopened fun _ ↦ Dom.noTextBefore_of_children_eq_nil hempty
    rw [hsize] at hshows
    have helement := hshows.element ⟨.html, tag⟩ (properties.texts.map .ordinary)
    rw [ofList_texts hproperties] at helement
    exact ⟨_, _, allowed, h.takes_element htag htakes, helement,
      fun _ ↦ Dom.noTextBefore_grow h.bound (fun _ ↦ Content.noConfusion) ids cells⟩
  | .text value, hnode, s, parent, name, rest, h, hbefore => by
    simp only [Node.isPlain, Bool.and_eq_true, bne_iff_ne, List.all_eq_true] at hnode
    have hvalue : '\x00' ∉ value.toList := fun hmem ↦ absurd (hnode.2 _ hmem) (by decide)
    obtain ⟨allowed, htakes⟩ := h.takesChars.takes_text h.bound hnode.1 hvalue (hbefore rfl)
    exact ⟨_, _, allowed, htakes, .text _ value, nofun⟩
  | .comment value, _, s, parent, name, rest, h, _ => by
    refine ⟨[s.dom.size], [⟨.comment value, []⟩], s.framesetAllowed, ?_, .comment _ value, ?_⟩
    · exact .single h.inForeign (h.accept_comment value) (h.withDom _ _ _).inForeign
    · exact fun _ ↦ Dom.noTextBefore_grow h.bound (fun _ ↦ Content.noConfusion) _ _
  | .doctype _, hnode, _, _, _, _, _, _ => by cases hnode

/-- The tokens of plain siblings put their trees behind the children of the element they are read
in. -/
theorem takes_nodes : ∀ {nodes : List Node}, arePlain nodes →
    ∀ {s : Construction} {parent : NodeId} {name : ElementName} {rest : List OpenElement},
    s.ReadsPlain parent name rest →
    (HasText.beginsWithText nodes → s.dom.NoTextBefore (.lastIn parent)) →
    ∃ ids cells allowed,
      s.Takes (tokensOf nodes) (s.withDom (s.dom.grow parent ids cells) allowed) ∧
        Shows s.dom.size ids cells nodes
  | [], _, s, parent, name, rest, h, _ => by
    refine ⟨[], [], s.framesetAllowed, ?_, .nil _⟩
    rw [Dom.grow_nil]
    exact .nil h.inForeign
  | node :: nodes, hnodes, s, parent, name, rest, h, hbefore => by
    simp only [arePlain, Bool.and_eq_true, Bool.not_eq_true', Bool.and_eq_false_iff] at hnodes
    obtain ⟨⟨hnode, hapart⟩, hnodes⟩ := hnodes
    have htext : node.isText → s.dom.NoTextBefore (.lastIn parent) := by
      cases node with
      | text => exact fun _ ↦ hbefore rfl
      | element | comment | doctype => exact nofun
    obtain ⟨ids, cells, between, htakes, hshows, hbehind⟩ := takes_node hnode h htext
    have hnext : HasText.beginsWithText nodes →
        (s.dom.grow parent ids cells).NoTextBefore (.lastIn parent) := by
      intro hbegins
      exact hbehind (hapart.resolve_right (by simp [hbegins]))
    obtain ⟨more, later, allowed, htakesRest, hshowsRest⟩ :=
      takes_nodes hnodes (h.withDom ids cells between) hnext
    have hdom : (s.withDom (s.dom.grow parent ids cells) between).withDom
        ((s.dom.grow parent ids cells).grow parent more later) allowed =
        s.withDom (s.dom.grow parent (ids ++ more) (cells ++ later)) allowed := by
      rw [Dom.grow_grow h.bound]
      rfl
    have hsize : (s.withDom (s.dom.grow parent ids cells) between).dom.size =
        s.dom.size + cells.length := Dom.size_grow ..
    rw [hsize] at hshowsRest
    exact ⟨ids ++ more, cells ++ later, allowed, hdom ▸ htakes.append htakesRest,
      hshows.append hshowsRest⟩

end

end ReadsPlain

end Construction

end MarkupIslands.Markup
