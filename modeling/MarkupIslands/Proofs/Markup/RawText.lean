import MarkupIslands.Proofs.Markup.PlainConstruction
import MarkupIslands.Proofs.Markup.RoundTrip

/-!
# Elements that are read with raw text

The text inside a script and some other elements is read as it is, up to the end tag. It is written
as it is inside scripts and style sheets only. So the other elements are read back exactly if their
text has no characters that are written as references.
-/

namespace MarkupIslands.Markup

open MarkupIslands.Text
open Html

/-- The elements whose content is read as raw text where scripts run. -/
def rawContentTags : List String :=
  ["script", "style", "noscript", "iframe", "noembed", "noframes", "xmp"]

def rawKind (tag : String) : RawKind := if tag = "script" then .script else .verbatim

/-! ## Scanning raw text -/

namespace Lexer

/-- A text in which no end tag and no escape of a script begins. -/
def IsRawReadable (text : List Char) : Prop :=
  ¬ ['<', '/'] <:+: text ∧ ¬ ['<', '!', '-', '-'] <:+: text ∧ '\x00' ∉ text

theorem IsRawReadable.tail {c : Char} {text : List Char} (h : IsRawReadable (c :: text)) :
    IsRawReadable text :=
  ⟨fun hmem ↦ h.1 (hmem.trans (List.suffix_cons c text).isInfix),
    fun hmem ↦ h.2.1 (hmem.trans (List.suffix_cons c text).isInfix),
    fun hmem ↦ h.2.2 (List.mem_cons_of_mem c hmem)⟩

/-- The states inside raw text outside of an escape: with the text that has been read but has not
been given out, and with beginnings of the rest that lead to another state. -/
inductive IsInRaw (tag : String) : RawKind → State → List Char → List (List Char) → Prop
  | text {kind : RawKind} : IsInRaw tag kind (.text (.raw kind tag)) [] []
  | less {kind : RawKind} : IsInRaw tag kind (.rawLess kind tag) ['<'] [['/'], ['!', '-', '-']]
  | escapeStart : IsInRaw tag .script (.escapeStart tag) [] [['-', '-']]
  | escapeStartDash : IsInRaw tag .script (.escapeStartDash tag) [] [['-']]

variable {tag : String} {kind : RawKind} {state : State} {owed : List Char}
  {forbidden : List (List Char)}

/-- A state after a step inside raw text: what it owes and the tokens of the step are the characters
owed before. -/
def GoesOn (tag : String) (kind : RawKind) (result : Result) (owed text : List Char) : Prop :=
  ∃ owed' forbidden', IsInRaw tag kind result.1 owed' forbidden' ∧
    (∀ start ∈ forbidden', ¬ start <+: text) ∧
    result.2 ++ owed'.map .char = owed.map Token.char

/-- A character read as raw text. -/
theorem goesOn_stepText (hkind : kind = .script ∨ kind = .verbatim) {c : Char} {text : List Char}
    (h : IsRawReadable (c :: text)) :
    GoesOn tag kind (stepText (.raw kind tag) c) [c] text := by
  have hescape : kind ≠ .references ∧ kind ≠ .escapedScript ∧ kind ≠ .nestedScript := by
    rcases hkind with rfl | rfl <;> decide
  by_cases hc : c = '<'
  · subst hc
    have hstep : stepText (.raw kind tag) '<' = (.rawLess kind tag, []) := by
      simp [stepText, hescape]
    rw [hstep]
    refine ⟨_, _, .less, ?_, rfl⟩
    simp only [List.forall_mem_cons, List.not_mem_nil, false_imp_iff, implies_true, and_true]
    have hbehind {start : List Char} (hstart : start <+: text) : '<' :: start <:+: '<' :: text :=
      (List.cons_prefix_cons.mpr ⟨rfl, hstart⟩).isInfix
    exact ⟨fun hstart ↦ h.1 (hbehind hstart), fun hstart ↦ h.2.1 (hbehind hstart)⟩
  · have hnull : c ≠ '\x00' := fun heq ↦ h.2.2 (heq ▸ List.mem_cons_self)
    have hstep : stepText (.raw kind tag) c = (.text (.raw kind tag), [.char c]) := by
      simp [stepText, hc, hescape, visible_of_ne hnull]
    rw [hstep]
    exact ⟨_, _, .text, fun start hstart ↦ absurd hstart List.not_mem_nil, rfl⟩

/-- One character inside raw text. -/
theorem IsInRaw.goesOn_step (hkind : kind = .script ∨ kind = .verbatim)
    (h : IsInRaw tag kind state owed forbidden) {c : Char} {text : List Char}
    (htext : IsRawReadable (c :: text)) (hforbidden : ∀ start ∈ forbidden, ¬ start <+: c :: text) :
    GoesOn tag kind (step false state c) (owed ++ [c]) text := by
  -- In each state all but one character are read as text behind what is owed.
  have hplain (hstep : step false state c =
      ((stepText (.raw kind tag) c).1, owed.map .char ++ (stepText (.raw kind tag) c).2)) :
      GoesOn tag kind (step false state c) (owed ++ [c]) text := by
    have hgoesOn : GoesOn tag kind (stepText (.raw kind tag) c) [c] text :=
      goesOn_stepText hkind htext
    obtain ⟨owed', forbidden', hstate, hbehind, htokens⟩ := hgoesOn
    rw [hstep]
    refine ⟨owed', forbidden', hstate, hbehind, ?_⟩
    rw [List.append_assoc, htokens, List.map_append]
  cases h with
  | text => exact hplain rfl
  | less =>
    simp only [List.forall_mem_cons, List.cons_prefix_cons, List.nil_prefix, and_true] at hforbidden
    obtain ⟨hslash, hbang, -⟩ := hforbidden
    by_cases hescape : kind = .script ∧ c = '!'
    · obtain ⟨rfl, rfl⟩ := hescape
      refine ⟨[], _, .escapeStart, ?_, rfl⟩
      simpa using hbang
    · apply hplain
      rcases hkind with rfl | rfl
      · have hc : c ≠ '!' := fun heq ↦ hescape ⟨rfl, heq⟩
        simp [step, stepRawLess, Ne.symm hslash, hc, giveBack, chars]
      · simp [step, stepRawLess, Ne.symm hslash, giveBack, chars]
  | escapeStart =>
    by_cases hdash : c = '-'
    · subst hdash
      refine ⟨[], _, .escapeStartDash, ?_, rfl⟩
      simpa using hforbidden
    · exact hplain (by simp [step, stepEscapeStart, hdash])
  | escapeStartDash =>
    have hdash : c ≠ '-' := by
      rintro rfl
      simp at hforbidden
    exact hplain (by simp [step, stepEscapeStartDash, hdash])

/-- A raw text is read as it is up to the end tag behind it. -/
theorem scan_rawText (hkind : kind = .script ∨ kind = .verbatim)
    (h : IsInRaw tag kind state owed forbidden) {text : List Char} (htext : IsRawReadable text)
    (hforbidden : ∀ start ∈ forbidden, ¬ start <+: text) :
    scan state (text ++ ['<', '/']) = (.rawEndOpen kind tag, (owed ++ text).map .char) := by
  induction text generalizing state owed forbidden with
  | nil => rcases hkind with rfl | rfl <;> cases h <;> rfl
  | cons c text ih =>
    have hgoesOn := h.goesOn_step hkind htext hforbidden
    rcases hstep : step false state c with ⟨state', tokens⟩
    rw [hstep] at hgoesOn
    obtain ⟨owed', forbidden', hstate, hbehind, htokens⟩ := hgoesOn
    have hall : tokens ++ (owed' ++ text).map Token.char = (owed ++ c :: text).map Token.char := by
      rw [List.map_append, ← List.append_assoc, htokens, ← List.map_append, List.append_assoc,
        List.singleton_append]
    rw [List.cons_append, scan_cons_of_step hstep, ih hstate htext.tail hbehind, hall]

/-- The name in the end tag of raw text. -/
theorem scan_rawEndName (kind : RawKind) (htag : isSmallWord tag.toList) :
    scan (.rawEndOpen kind tag) tag.toList = (.rawEndName kind tag tag, []) := by
  obtain ⟨first, rest, hchars, hfirst, hrest⟩ := exists_eq_cons_of_isSmallWord htag
  have hparts := isLower_of_isSmallWord htag
  rw [hchars] at hparts ⊢
  have hname : step false (.rawEndOpen kind tag) first =
      (.rawEndName kind tag (String.singleton first), []) := by
    simp [step, stepRawEndOpen, isAlpha_of_isLower hfirst]
  have hcollects : scan (.rawEndName kind tag (String.singleton first)) rest =
      (.rawEndName kind tag (String.singleton first ++ String.ofList rest), []) := by
    apply scan_of_collects
    intro read c hc
    have hlower := hparts c (List.mem_cons_of_mem first hc)
    simp [step, stepRawEndName, isAlpha_of_isLower hlower]
  have hsame : String.singleton first ++ String.ofList rest = tag := by
    rw [← String.ofList_cons, ← hchars, String.ofList_toList]
  rw [scan_cons_of_silent hname, hcollects, hsame]

theorem toLower_of_isSmallWord (htag : isSmallWord tag.toList) : tag.toLower = tag :=
  toLower_of_isWord fun c hc ↦ isWordPart_of_isLower (isLower_of_isSmallWord htag c hc)

theorem step_rawEndName_close (kind : RawKind) (htag : isSmallWord tag.toList) :
    step false (.rawEndName kind tag tag) '>' = (resume, [.endTag tag]) := by
  simp [step, stepRawEndName, toLower_of_isSmallWord htag, isSpace]

end Lexer

theorem of_rawContentTags {tag : String} (h : rawContentTags.contains tag) :
    Lexer.isSmallWord tag.toList ∧ tag ≠ "template" ∧ isVoid tag = false := by
  have hall : rawContentTags.all fun tag ↦
      Lexer.isSmallWord tag.toList && tag != "template" && !isVoid tag := by decide
  simpa [and_assoc] using all_of_contains h hall

theorem rawKind_eq (tag : String) : rawKind tag = .script ∨ rawKind tag = .verbatim := by
  unfold rawKind
  split
  · exact .inl rfl
  · exact .inr rfl

/-! ## Construction of elements with raw text -/

namespace Construction

variable {s : Construction} {parent : NodeId} {name : ElementName} {rest : List OpenElement}
  {tag : String}

/-- Raw text is read inside the innermost open element. -/
structure ReadsRaw (s : Construction) (parent : NodeId) (name : ElementName)
    (rest : List OpenElement) : Prop extends s.InsertsInto parent name rest where
  inText : s.mode = .inText

namespace ReadsRaw

theorem takesChars (h : s.ReadsRaw parent name rest) : s.TakesChars parent := by
  intro ids cells allowed
  have hgrown : (s.withDom (s.dom.grow parent ids cells) allowed).InsertsInto parent name rest :=
    h.toInsertsInto.grow rfl rfl rfl rfl
  refine ⟨hgrown.inForeign, fun {c} _ ↦ ⟨allowed, ?_⟩⟩
  apply accept_of_byMode hgrown.noSkip hgrown.inForeign rfl _ Next.noConfusion
  have hmode : (s.withDom (s.dom.grow parent ids cells) allowed).mode = .inText := h.inText
  rw [byMode, hmode]
  exact congrArg Construction.done (hgrown.insertChar c)

theorem withDom (h : s.ReadsRaw parent name rest) (ids : List NodeId) (cells : List Cell)
    (allowed : Bool) :
    (s.withDom (s.dom.grow parent ids cells) allowed).ReadsRaw parent name rest where
  toInsertsInto := h.toInsertsInto.grow rfl rfl rfl rfl
  inText := h.inText

/-- The end tag closes the element and goes back to what was read before. -/
theorem exists_accept_endTag (h : s.ReadsRaw parent name rest) (tag : String) :
    ∃ next, s.accept (.endTag tag) = ⟨{ s with stack := rest, mode := s.returnMode }, next⟩ ∧
      (next = .done ∨ next = .afterScript) := by
  have hpop : s.pop = { s with stack := rest } := by
    unfold pop
    rw [h.stack]
    rfl
  have hrule : ∃ next, s.inText (.endTag tag) =
      ⟨{ s with stack := rest, mode := s.returnMode }, next⟩ ∧
      (next = .done ∨ next = .afterScript) := by
    unfold Construction.inText
    simp only [hpop]
    refine ⟨_, rfl, ?_⟩
    split
    · exact .inr rfl
    · exact .inl rfl
  obtain ⟨next, hrule, hnext⟩ := hrule
  have hdone : next ≠ .again := by
    rcases hnext with rfl | rfl <;> exact Next.noConfusion
  refine ⟨next, accept_of_byMode h.noSkip h.inForeign rfl ?_ hdone, hnext⟩
  rw [byMode, h.inText]
  exact hrule

end ReadsRaw

/-- The start tag of an element with raw text. -/
theorem ReadsPlain.accept_rawStartTag (h : s.ReadsPlain parent name rest)
    (htag : rawContentTags.contains tag) (attributes : List (String × String)) :
    ∃ allowed, s.accept (.startTag ⟨tag, attributes, false⟩) =
      (s.withDom s.dom allowed).insertRaw ⟨tag, attributes, false⟩ (rawKind tag) := by
  have hrule : ∃ allowed, s.bodyStart ⟨tag, attributes, false⟩ =
      (s.withDom s.dom allowed).insertRaw ⟨tag, attributes, false⟩ (rawKind tag) := by
    simp only [rawContentTags, List.contains_cons, List.contains_nil, Bool.or_false,
      Bool.or_eq_true, beq_iff_eq] at htag
    rcases htag with rfl | rfl | rfl | rfl | rfl | rfl | rfl
    · exact ⟨s.framesetAllowed, rfl⟩
    · exact ⟨s.framesetAllowed, rfl⟩
    · exact ⟨s.framesetAllowed, rfl⟩
    · exact ⟨false, rfl⟩
    · exact ⟨s.framesetAllowed, rfl⟩
    · exact ⟨s.framesetAllowed, rfl⟩
    · refine ⟨false, ?_⟩
      have hxmp : s.bodyStart ⟨"xmp", attributes, false⟩ =
          s.closeParagraphInScope.reopenFormatting.forbidFrameset.insertRaw
            ⟨"xmp", attributes, false⟩ .verbatim := rfl
      rw [hxmp, h.closeParagraphInScope, h.reopenFormatting]
      rfl
  obtain ⟨allowed, hrule⟩ := hrule
  refine ⟨allowed, accept_of_byMode h.noSkip h.inForeign rfl ?_ Next.noConfusion⟩
  rw [byMode, h.inBody]
  exact hrule

/-- The state behind the start tag of an element with raw text. -/
def openedRaw (s : Construction) (parent : NodeId) (tag : String) : Construction :=
  { s with
    dom := s.dom.grow parent [s.dom.size] [⟨.element ⟨.html, tag⟩ [] none, []⟩]
    stack := ⟨s.dom.size, ⟨.html, tag⟩⟩ :: s.stack
    mode := .inText
    returnMode := .inBody }

theorem ReadsPlain.insertRaw_eq_openedRaw (h : s.ReadsPlain parent name rest)
    (htag : tag ≠ "template") (kind : RawKind) :
    s.insertRaw ⟨tag, [], false⟩ kind = ⟨s.openedRaw parent tag, .raw kind⟩ := by
  rw [insertRaw, h.toInsertsInto.insertTag ⟨tag, [], false⟩ htag, startRaw]
  exact congrArg (fun mode ↦ (⟨{ s.openedRaw parent tag with returnMode := mode }, .raw kind⟩ :
    Outcome)) h.inBody

/-- When the element is closed, only the tree has changed. -/
theorem closed_openedRaw (hmode : s.mode = .inBody) (hreturn : s.returnMode = .inBody)
    (parent : NodeId) (tag : String) (dom : Dom) (allowed : Bool) :
    { (s.openedRaw parent tag).withDom dom allowed with stack := s.stack, mode := .inBody } =
      s.withDom dom allowed := by
  cases s
  cases hmode
  cases hreturn
  rfl

/-- Behind the start tag raw text is read inside the new element. -/
theorem ReadsPlain.openedRaw (h : s.ReadsPlain parent name rest) (htag : tag ≠ "template") :
    (s.openedRaw parent tag).ReadsRaw s.dom.size ⟨.html, tag⟩ s.stack := by
  have hinto := h.insertTag_insertsInto ⟨tag, [], false⟩ htag
  have hdom : (s.insertTag ⟨tag, [], false⟩).dom = (s.openedRaw parent tag).dom := by
    rw [h.toInsertsInto.insertTag ⟨tag, [], false⟩ htag]
    rfl
  exact ⟨⟨rfl, rfl, hdom ▸ hinto.bound, hdom ▸ hinto.noContents, h.noFostering, h.noSkip⟩, rfl⟩

/-- The state behind an element with raw text is the state before it with the element added. -/
theorem ReadsPlain.exists_takes_rawElement (h : s.ReadsPlain parent name rest)
    (hreturn : s.returnMode = .inBody) (htag : rawContentTags.contains tag) {value : String}
    (hne : value ≠ "") (hvalue : '\x00' ∉ value.toList) :
    ∃ opened filled allowed next,
      s.accept (.startTag ⟨tag, [], false⟩) = ⟨opened, .raw (rawKind tag)⟩ ∧
      opened.Takes (value.toList.map .char) filled ∧
      filled.accept (.endTag tag) = ⟨s.withDom (s.dom.grow parent [s.dom.size]
        [⟨.element ⟨.html, tag⟩ [] none, [s.dom.size + 1]⟩, ⟨.text value, []⟩]) allowed, next⟩ ∧
      (next = .done ∨ next = .afterScript) := by
  obtain ⟨-, htemplate, -⟩ := of_rawContentTags htag
  obtain ⟨allowed, hstart⟩ := h.accept_rawStartTag htag []
  have hplain := h.withDom [] [] allowed
  rw [Dom.grow_nil] at hplain
  rw [hplain.insertRaw_eq_openedRaw htemplate] at hstart
  have hopened := hplain.openedRaw htemplate
  have hempty : ((s.withDom s.dom allowed).openedRaw parent tag).dom.children s.dom.size = [] :=
    Dom.children_grow_new ..
  have hsize : ((s.withDom s.dom allowed).openedRaw parent tag).dom.size = s.dom.size + 1 :=
    Dom.size_grow ..
  obtain ⟨allowed', htakes⟩ := hopened.takesChars.takes_text hopened.bound hne hvalue
    (Dom.noTextBefore_of_children_eq_nil hempty)
  obtain ⟨next, hend, hnext⟩ :=
    (hopened.withDom [s.dom.size + 1] [⟨.text value, []⟩] allowed').exists_accept_endTag tag
  rw [hsize] at htakes
  have hgrown : ((s.withDom s.dom allowed).openedRaw parent tag).dom.grow s.dom.size
      [s.dom.size + 1] [⟨.text value, []⟩] = s.dom.grow parent [s.dom.size]
        [⟨.element ⟨.html, tag⟩ [] none, [s.dom.size + 1]⟩, ⟨.text value, []⟩] :=
    Dom.grow_grow_child ..
  have hclosed := closed_openedRaw hplain.inBody hreturn parent tag (s.dom.grow parent [s.dom.size]
    [⟨.element ⟨.html, tag⟩ [] none, [s.dom.size + 1]⟩, ⟨.text value, []⟩]) allowed'
  rw [← hgrown] at hclosed ⊢
  exact ⟨_, _, allowed', next, hstart, htakes,
    hend.trans (congrArg (Outcome.mk · next) hclosed), hnext⟩

end Construction

namespace Reading

variable {reading : Reading} {s : Construction} {c : Char} {lexer : Lexer.State}

/-- A start tag that is followed by raw text. -/
theorem step_of_raw {tag : String} {attributes : List (String × String)} {kind : RawKind}
    (hordinary : reading.tree.inForeign = false)
    (hstep : Lexer.step false reading.lexer c = (lexer, [.startTag ⟨tag, attributes, false⟩]))
    (haccept : reading.tree.accept (.startTag ⟨tag, attributes, false⟩) = ⟨s, .raw kind⟩) :
    reading.step c = { reading with lexer := .text (.raw kind tag), tree := s } := by
  rw [step, hordinary, hstep]
  simp [take, haccept]

/-- An end tag, which may stand behind a script. -/
theorem step_of_endTag {name : String} {next : Next} (hordinary : reading.tree.inForeign = false)
    (hstep : Lexer.step false reading.lexer c = (lexer, [.endTag name]))
    (haccept : reading.tree.accept (.endTag name) = ⟨s, next⟩)
    (hnext : next = .done ∨ next = .afterScript) :
    (reading.step c).lexer = lexer ∧ (reading.step c).tree = s := by
  rw [step, hordinary, hstep]
  rcases hnext with rfl | rfl <;> simp [take, haccept]

end Reading

/-! ## Reading elements with raw text -/

def startText (tag : String) : List Char := '<' :: tag.toList ++ ['>']

def endedText (tag : String) (inner : List Char) : List Char :=
  (inner ++ ('<' :: '/' :: tag.toList)) ++ ['>']

/-- Behind its start tag the content of an element is read as raw text. -/
theorem foldl_read_startText {tag : String} {kind : RawKind} {s opened : Construction}
    (hword : Lexer.isSmallWord tag.toList) (hordinary : s.inForeign = false)
    (haccept : s.accept (.startTag ⟨tag, [], false⟩) = ⟨opened, .raw kind⟩)
    (hreturn : '\r' ∉ startText tag) (hkept : Place.kept {} (startText tag) = startText tag) :
    (startText tag).foldl Reading.read { tree := s } =
      ⟨.text (.raw kind tag), opened, Place.after {} (startText tag), false, false⟩ := by
  have hkeptName := (Place.kept_append_eq_self_iff.mp hkept).1
  have hname : ('<' :: tag.toList).foldl Reading.read { tree := s } =
      ⟨.tagName ⟨false, tag, []⟩, s, Place.after {} ('<' :: tag.toList), false, false⟩ :=
    Reading.foldl_read rfl rfl (fun hmem ↦ hreturn (List.mem_append_left _ hmem))
      ((congrArg _ hkeptName).trans (Lexer.scan_startTagName hword)) (.nil hordinary)
  have hclose : Reading.read ⟨.tagName ⟨false, tag, []⟩, s,
        Place.after {} ('<' :: tag.toList), false, false⟩ '>' =
      ⟨.text (.raw kind tag), opened, (Place.after {} ('<' :: tag.toList)).advance '>', false,
        false⟩ :=
    (Reading.read_of_not_dropped rfl rfl (by decide) rfl).trans
      (Reading.step_of_raw hordinary rfl haccept)
  rw [startText, List.foldl_append, hname, List.foldl_cons, hclose, Place.after, Place.after,
    List.foldl_append]
  rfl

/-- Raw text is read up to the end tag of its element. -/
theorem foldl_read_endedText {tag : String} {kind : RawKind} {reading : Reading}
    {filled closed : Construction} {next : Next} {inner : List Char}
    (hkind : kind = .script ∨ kind = .verbatim) (hword : Lexer.isSmallWord tag.toList)
    (hscript : reading.afterScript = false) (hreturn : reading.afterReturn = false)
    (hlexer : reading.lexer = .text (.raw kind tag)) (hinner : Lexer.IsRawReadable inner)
    (htakes : reading.tree.Takes (inner.map .char) filled)
    (haccept : filled.accept (.endTag tag) = ⟨closed, next⟩)
    (hnext : next = .done ∨ next = .afterScript) (hreturns : '\r' ∉ endedText tag inner)
    (hkept : reading.place.kept (endedText tag inner) = endedText tag inner) :
    ((endedText tag inner).foldl Reading.read reading).lexer = Lexer.resume ∧
      ((endedText tag inner).foldl Reading.read reading).tree = closed := by
  have hkeptInner := (Place.kept_append_eq_self_iff.mp hkept).1
  have hscan : Lexer.scan reading.lexer (inner ++ ('<' :: '/' :: tag.toList)) =
      (.rawEndName kind tag tag, inner.map .char) := by
    have hraw := Lexer.scan_append_of_eq (Lexer.scan_rawText hkind .text hinner nofun)
      (Lexer.scan_rawEndName kind hword)
    rw [hlexer]
    simpa using hraw
  have hread := Reading.foldl_read hscript hreturn
    (fun hmem ↦ hreturns (List.mem_append_left _ hmem)) ((congrArg _ hkeptInner).trans hscan) htakes
  have hclose : Reading.read ⟨.rawEndName kind tag tag, filled,
      reading.place.after (inner ++ ('<' :: '/' :: tag.toList)), reading.afterScript,
      reading.afterReturn⟩ '>' = _ :=
    Reading.read_of_not_dropped hscript hreturn (by decide) rfl
  rw [endedText, List.foldl_append, hread, List.foldl_cons, List.foldl_nil, hclose]
  exact Reading.step_of_endTag htakes.inForeign_last (Lexer.step_rawEndName_close kind hword)
    haccept hnext

/-- An element with raw text is read with its text as it stands there. -/
theorem parse_startText_endedText {tag : String} (htag : rawContentTags.contains tag)
    {value : String} (hne : value ≠ "") (hvalue : Lexer.IsRawReadable value.toList)
    {text : String} (htext : text.toList = startText tag ++ endedText tag value.toList)
    (hreturn : '\r' ∉ text.toList) (hkept : Place.kept {} text.toList = text.toList) :
    parse text = [.element tag .empty [.text value]] := by
  obtain ⟨hword, -, -⟩ := of_rawContentTags htag
  obtain ⟨opened, filled, allowed, next, hstart, htakes, hend, hnext⟩ :=
    readsPlain_fragment.exists_takes_rawElement rfl htag hne hvalue.2.2
  rw [htext, List.mem_append, not_or] at hreturn
  rw [htext, Place.kept_append_eq_self_iff] at hkept
  have hreadStart := foldl_read_startText hword rfl hstart hreturn.1 hkept.1
  have hread : text.toList.foldl Reading.read { tree := Construction.fragment } =
      (endedText tag value.toList).foldl Reading.read
        ⟨.text (.raw (rawKind tag) tag), opened, Place.after {} (startText tag), false, false⟩ := by
    rw [htext, List.foldl_append, hreadStart]
  have hreadEnd : ((endedText tag value.toList).foldl Reading.read ⟨.text (.raw (rawKind tag) tag),
        opened, Place.after {} (startText tag), false, false⟩).lexer = Lexer.resume ∧
      ((endedText tag value.toList).foldl Reading.read ⟨.text (.raw (rawKind tag) tag),
        opened, Place.after {} (startText tag), false, false⟩).tree = _ :=
    foldl_read_endedText (rawKind_eq tag) hword rfl rfl rfl hvalue htakes hend hnext hreturn.2
      hkept.2
  obtain ⟨hlexer, htree⟩ := hreadEnd
  have hshows := (Shows.text (Construction.fragment.dom.size + 1) value).element ⟨.html, tag⟩ []
  exact parse_of_grown hread hlexer htree hshows

/-! ## Written elements with raw text -/

def writtenText (tag value : String) : List Char := writeNode (isRawText tag) (.text value)

theorem toHtml_rawElement {tag : String} (htag : rawContentTags.contains tag) (value : String) :
    (Root.toHtml [.element tag .empty [.text value]]).toList =
      startText tag ++ endedText tag (writtenText tag value) := by
  obtain ⟨-, -, hvoid⟩ := of_rawContentTags htag
  have hchars : (Root.toHtml [.element tag .empty [.text value]]).toList =
      writeNodes false [.element tag .empty [.text value]] := String.toList_ofList
  rw [hchars, startText, endedText, writtenText, writeNodes, writeNode, hvoid]
  simp [writeNodes, writeProperties]

/-- The escapes of the writer begin no end tag. -/
theorem isRawReadable_writtenText (tag : String) {value : String}
    (hvalue : Lexer.IsRawReadable value.toList) :
    Lexer.IsRawReadable (writtenText tag value) := by
  unfold writtenText
  cases isRawText tag with
  | true => exact hvalue
  | false =>
    have hbracket := bracket_not_mem_flatMap_escapeText value.toList
    exact ⟨fun h ↦ hbracket (h.subset List.mem_cons_self),
      fun h ↦ hbracket (h.subset List.mem_cons_self),
      not_mem_flatMap_escapeText hvalue.2.2 (by decide)⟩

theorem return_not_mem_writtenText (tag : String) {value : String} (hvalue : '\r' ∉ value.toList) :
    '\r' ∉ writtenText tag value := by
  unfold writtenText
  cases isRawText tag with
  | true => exact hvalue
  | false => exact not_mem_flatMap_escapeText hvalue (by decide)

theorem writtenText_ne_nil (tag : String) {value : String} (hne : value ≠ "") :
    writtenText tag value ≠ [] := by
  obtain ⟨c, text, hchars⟩ :=
    List.exists_cons_of_ne_nil fun hnil ↦ hne (String.toList_eq_nil_iff.mp hnil)
  unfold writtenText
  cases isRawText tag with
  | true => simpa [writeNode] using hne
  | false => simp [writeNode, hchars, escapeText_ne_nil]

/-- A text is written as it is inside scripts and style sheets, and elsewhere if it has no markup
characters. -/
theorem writtenText_eq_iff (tag value : String) :
    writtenText tag value = value.toList ↔
      isRawText tag ∨ ∀ c ∈ value.toList, isMarkupChar c = false := by
  unfold writtenText
  cases isRawText tag with
  | true => exact iff_of_true rfl (.inl rfl)
  | false =>
    rw [← flatMap_escapeText_eq_self_iff]
    simp [writeNode]

/-- An element with raw text is read with the text that is written for it. -/
theorem parse_toHtml_rawElement {tag value : String} (htag : rawContentTags.contains tag)
    (hne : value ≠ "") (hvalue : Lexer.IsRawReadable value.toList) (hreturn : '\r' ∉ value.toList)
    (hkept : Place.kept {} (Root.toHtml [.element tag .empty [.text value]]).toList =
      (Root.toHtml [.element tag .empty [.text value]]).toList) :
    parse (Root.toHtml [.element tag .empty [.text value]]) =
      [.element tag .empty [.text (String.ofList (writtenText tag value))]] := by
  obtain ⟨hword, -, -⟩ := of_rawContentTags htag
  have hchars : (String.ofList (writtenText tag value)).toList = writtenText tag value :=
    String.toList_ofList
  have hname : '\r' ∉ tag.toList := Lexer.not_mem_of_isSmallWord hword (by decide)
  refine parse_startText_endedText htag ?_ ?_ ?_ ?_ hkept
  · intro hempty
    have hnil := hchars.symm.trans (String.toList_eq_nil_iff.mpr hempty)
    exact writtenText_ne_nil tag hne hnil
  · rw [hchars]
    exact isRawReadable_writtenText tag hvalue
  · rw [hchars]
    exact toHtml_rawElement htag value
  · rw [toHtml_rawElement htag]
    simp [startText, endedText, hname, return_not_mem_writtenText tag hreturn]

/-- An element with raw text is read back exactly if it is a script or a style sheet, or has no
markup characters in its text. -/
theorem parse_toHtml_rawElement_eq_self_iff {tag value : String}
    (htag : rawContentTags.contains tag) (hne : value ≠ "")
    (hvalue : Lexer.IsRawReadable value.toList) (hreturn : '\r' ∉ value.toList)
    (hkept : Place.kept {} (Root.toHtml [.element tag .empty [.text value]]).toList =
      (Root.toHtml [.element tag .empty [.text value]]).toList) :
    parse (Root.toHtml [.element tag .empty [.text value]]) =
        [.element tag .empty [.text value]] ↔
      isRawText tag ∨ ∀ c ∈ value.toList, isMarkupChar c = false := by
  rw [parse_toHtml_rawElement htag hne hvalue hreturn hkept, ← writtenText_eq_iff]
  constructor
  · intro heq
    have htext : String.ofList (writtenText tag value) = value := by simpa using heq
    rw [← String.toList_inj, String.toList_ofList] at htext
    exact htext
  · intro heq
    rw [heq, String.ofList_toList]

/-- A script is read back with its brackets and ampersands. -/
theorem parse_toHtml_script :
    parse (Root.toHtml [.element "script" .empty [.text "a < b && c > d"]]) =
      [.element "script" .empty [.text "a < b && c > d"]] :=
  (parse_toHtml_rawElement_eq_self_iff (by decide) (by decide) ⟨by decide, by decide, by decide⟩
    (by decide) (by decide +kernel)).mpr (.inl (by decide))

/-- The image inside a `noscript` element is read as a text with references. -/
theorem parse_toHtml_noscript_ne :
    parse (Root.toHtml [.element "noscript" .empty [.text "<img>"]]) ≠
      [.element "noscript" .empty [.text "<img>"]] := by
  rw [parse_toHtml_rawElement (by decide) (by decide) ⟨by decide, by decide, by decide⟩
    (by decide) (by decide +kernel)]
  decide +kernel

end MarkupIslands.Markup
