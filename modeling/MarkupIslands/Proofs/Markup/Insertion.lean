import MarkupIslands.Proofs.Markup.Growth
import MarkupIslands.Proofs.Markup.Reading

/-!
# Taking one token into ordinary content

When a token is looked at once only, and where new content goes. As long as the innermost open
element is an ordinary one that holds its own children, every insertion lets the tree grow inside
it.
-/

namespace MarkupIslands.Markup

/-- The tokens that the rules of the insertion modes look at. -/
def Token.isRuled : Token → Bool
  | .doctype _ | .mistake => false
  | _ => true

namespace Construction

variable {s : Construction} {parent : NodeId} {name : ElementName} {rest : List OpenElement}
  {outcome : Outcome}

/-! ## Looking at a token once -/

theorem choose_of_ordinary (h : s.inForeign = false) (token : Token) :
    s.choose token = s.byMode token := by
  have hcurrent : s.foreignCurrent? = none :=
    Option.isNone_iff_eq_none.mp (Option.isSome_eq_false_iff.mp h)
  rw [choose, readsForeign, hcurrent]
  exact if_neg Bool.false_ne_true

/-- A token that a rule is done with at once needs no second look. -/
theorem run_rounds_of_choose {token : Token} (hchoose : s.choose token = outcome)
    (hnext : outcome.next ≠ .again) : s.run token s.rounds = outcome := by
  have hrounds : s.rounds = 8 * (s.stack.length + s.templateModes.length) + 31 + 1 := rfl
  rw [hrounds, run, hchoose]
  split
  · rename_i hagain
    exact absurd hagain hnext
  · rfl

/-- A token that is done with at the first look, or that says how the text after it is read. -/
theorem accept_of_choose {token : Token} (hskip : s.skipLineFeed = false) (hruled : token.isRuled)
    (hchoose : s.choose token = outcome) (hnext : outcome.next ≠ .again) :
    s.accept token = outcome := by
  have hrun := run_rounds_of_choose hchoose hnext
  have hsame : { s with skipLineFeed := false } = s := by rw [← hskip]
  unfold accept
  rw [hsame, hskip]
  cases token with
  | doctype | mistake => cases hruled
  | startTag | endTag | char | comment | endOfText => exact hrun

/-- In ordinary content the first look is one by the rules of the insertion mode. -/
theorem accept_of_byMode {token : Token} (hskip : s.skipLineFeed = false)
    (hordinary : s.inForeign = false) (hruled : token.isRuled) (hmode : s.byMode token = outcome)
    (hnext : outcome.next ≠ .again) : s.accept token = outcome :=
  accept_of_choose hskip hruled ((choose_of_ordinary hordinary token).trans hmode) hnext

/-! ## The innermost open element -/

/-- New content goes behind the children of the innermost open element, an ordinary one. -/
structure InsertsInto (s : Construction) (parent : NodeId) (name : ElementName)
    (rest : List OpenElement) : Prop where
  stack : s.stack = ⟨parent, name⟩ :: rest
  isHtml : name.space = .html
  bound : parent < s.dom.size
  noContents : s.dom.contents? parent = none
  noFostering : s.fostering = false
  noSkip : s.skipLineFeed = false

namespace InsertsInto

theorem inForeign (h : s.InsertsInto parent name rest) : s.inForeign = false := by
  rw [Construction.inForeign, foreignCurrent?, h.stack]
  simp [h.isHtml]

theorem place (h : s.InsertsInto parent name rest) : s.place = .lastIn parent := by
  rw [Construction.place, current?, h.stack]
  simp [placeIn, h.noFostering, lastIn, h.noContents]

/-- Growing inside the innermost element does not change which one it is. -/
theorem grow (h : s.InsertsInto parent name rest) {s' : Construction} {ids : List NodeId}
    {cells : List Cell} (hdom : s'.dom = s.dom.grow parent ids cells) (hstack : s'.stack = s.stack)
    (hfostering : s'.fostering = s.fostering) (hskip : s'.skipLineFeed = s.skipLineFeed) :
    s'.InsertsInto parent name rest where
  stack := hstack.trans h.stack
  isHtml := h.isHtml
  bound := by
    rw [hdom, Dom.size_grow]
    exact Nat.lt_add_right _ h.bound
  noContents := by rw [hdom, Dom.contents?_grow h.bound, h.noContents]
  noFostering := hfostering.trans h.noFostering
  noSkip := hskip.trans h.noSkip

theorem insertChar (h : s.InsertsInto parent name rest) (c : Char) :
    s.insertChar c = { s with dom := s.dom.putChar (.lastIn parent) c } := by
  rw [Construction.insertChar, h.place]

theorem insertComment (h : s.InsertsInto parent name rest) (value : String) :
    s.insertComment value =
      { s with dom := s.dom.grow parent [s.dom.size] [⟨.comment value, []⟩] } := by
  rw [Construction.insertComment, h.place]
  exact congrArg (fun dom ↦ { s with dom }) (Dom.put_add h.bound _)

/-- A new element is the new innermost one. -/
theorem insertOpen (h : s.InsertsInto parent name rest) {opened : ElementName}
    (hopened : opened.isHtml ["template"] = false) (attributes : List Attribute) :
    s.insertOpen opened attributes =
      { s with
        dom := s.dom.grow parent [s.dom.size] [⟨.element opened attributes none, []⟩]
        stack := ⟨s.dom.size, opened⟩ :: s.stack } := by
  have hcreate : create s.dom opened attributes = s.dom.add (.element opened attributes none) :=
    if_neg (Bool.eq_false_iff.mp hopened)
  rw [Construction.insertOpen, insertClosed, h.place, hcreate, Dom.put_add h.bound]
  rfl

/-- The element of a start tag is the new innermost one. -/
theorem insertTag (h : s.InsertsInto parent name rest) (tag : Tag)
    (htag : tag.name ≠ "template") :
    s.insertTag tag =
      { s with
        dom := s.dom.grow parent [s.dom.size]
          [⟨.element ⟨.html, tag.name⟩ (tag.attributes.map .ordinary) none, []⟩]
        stack := ⟨s.dom.size, ⟨.html, tag.name⟩⟩ :: s.stack } :=
  h.insertOpen (by simp [ElementName.isHtml, htag]) _

/-- New content goes into the element that has just been opened. -/
theorem insertTag_insertsInto (h : s.InsertsInto parent name rest) (tag : Tag)
    (htag : tag.name ≠ "template") :
    (s.insertTag tag).InsertsInto s.dom.size ⟨.html, tag.name⟩ s.stack := by
  rw [h.insertTag tag htag]
  refine ⟨rfl, rfl, ?_, ?_, h.noFostering, h.noSkip⟩
  · rw [Dom.size_grow]
    exact Nat.lt_succ_self _
  · rw [Dom.contents?, Dom.content?_grow_new]

end InsertsInto

/-! ## Texts -/

/-- The state after the tree has grown, as far as plain content changes it. -/
def withDom (s : Construction) (dom : Dom) (framesetAllowed : Bool) : Construction :=
  { s with dom, framesetAllowed }

/-- However the tree has grown inside a node, a character is put behind the children of the node. -/
def TakesChars (s : Construction) (parent : NodeId) : Prop :=
  ∀ ids cells allowed,
    (s.withDom (s.dom.grow parent ids cells) allowed).inForeign = false ∧
      ∀ {c : Char}, c ≠ '\x00' → ∃ allowed',
        (s.withDom (s.dom.grow parent ids cells) allowed).accept (.char c) =
          (s.withDom ((s.dom.grow parent ids cells).putChar (.lastIn parent) c) allowed').done

namespace TakesChars

/-- The characters behind the first one join the text. -/
theorem takes_chars (h : s.TakesChars parent) (hparent : parent < s.dom.size) (value : String)
    (allowed : Bool) {text : List Char} (htext : '\x00' ∉ text) :
    ∃ allowed',
      (s.withDom (s.dom.grow parent [s.dom.size] [⟨.text value, []⟩]) allowed).Takes
        (text.map .char)
        (s.withDom (s.dom.grow parent [s.dom.size] [⟨.text (value ++ String.ofList text), []⟩])
          allowed') := by
  induction text generalizing value allowed with
  | nil =>
    rw [String.ofList_nil, String.append_empty]
    exact ⟨allowed, .nil (h _ _ allowed).1⟩
  | cons c text ih =>
    have hc : c ≠ '\x00' := fun heq ↦ htext (heq ▸ List.mem_cons_self)
    obtain ⟨hordinary, hchar⟩ := h [s.dom.size] [⟨.text value, []⟩] allowed
    obtain ⟨between, hstep⟩ := hchar hc
    rw [Dom.putChar_grow_text hparent] at hstep
    obtain ⟨allowed', hrest⟩ :=
      ih (value.push c) between fun hmem ↦ htext (List.mem_cons_of_mem c hmem)
    rw [String.ofList_cons, ← String.append_assoc, String.append_singleton]
    exact ⟨allowed', .cons hordinary hstep hrest⟩

/-- A text that does not join another one becomes a node. -/
theorem takes_text (h : s.TakesChars parent) (hparent : parent < s.dom.size) {value : String}
    (hne : value ≠ "") (hvalue : '\x00' ∉ value.toList)
    (hbefore : s.dom.NoTextBefore (.lastIn parent)) :
    ∃ allowed, s.Takes (value.toList.map .char)
      (s.withDom (s.dom.grow parent [s.dom.size] [⟨.text value, []⟩]) allowed) := by
  obtain ⟨c, text, hchars⟩ :=
    List.exists_cons_of_ne_nil fun hnil ↦ hne (String.toList_eq_nil_iff.mp hnil)
  rw [hchars] at hvalue ⊢
  have hc : c ≠ '\x00' := fun heq ↦ hvalue (heq ▸ List.mem_cons_self)
  obtain ⟨hordinary, hchar⟩ := h [] [] s.framesetAllowed
  obtain ⟨between, hstep⟩ := hchar hc
  rw [Dom.grow_nil] at hordinary hstep
  rw [Dom.putChar_of_noTextBefore hparent hbefore] at hstep
  obtain ⟨allowed, hrest⟩ := h.takes_chars hparent (String.singleton c) between
    fun hmem ↦ hvalue (List.mem_cons_of_mem c hmem)
  have hsame : String.singleton c ++ String.ofList text = value := by
    rw [← String.ofList_cons, ← hchars, String.ofList_toList]
  rw [hsame] at hrest
  exact ⟨allowed, .cons hordinary hstep hrest⟩

end TakesChars

end Construction

end MarkupIslands.Markup
