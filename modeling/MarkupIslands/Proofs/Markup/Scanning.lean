import MarkupIslands.Proofs.Markup.Escaped
import MarkupIslands.Proofs.Markup.Reading
import MarkupIslands.Proofs.Text.Letter

/-!
# Scanning written markup

What the lexer makes of the pieces that markup texts are put together from: references, escaped
texts and property values, the names in tags, properties, comments and the end tags of raw text.
Every lemma goes from one state to the next, so that pieces are put together by
`scan_append_of_eq`.
-/

namespace MarkupIslands.Markup.Lexer

open MarkupIslands.Text
open Html

variable {c : Char} {draft : Draft} {name value read tag : String} {text : List Char}

/-! ## References -/

/-- The name of a reference goes on up to its semicolon. -/
theorem scan_name (host : Host) (read : String) {word : List Char}
    (hword : ∀ c ∈ word, c.isAlphanum) :
    scan (.name host read) (word ++ [';']) =
      fill host (Entity.resolve host.isValue (read.toList ++ (word ++ [';'])) none) := by
  induction word generalizing read with
  | nil =>
    have hstep : step false (.name host read) ';' =
        fill host (Entity.resolve host.isValue (read.toList ++ [';']) none) := by
      rw [step, stepName, if_neg (by decide), if_pos rfl, String.toList_push]
    rw [List.nil_append, scan_singleton, hstep]
  | cons c word ih =>
    have hstep : step false (.name host read) c = (.name host (read.push c), []) :=
      if_pos (hword c List.mem_cons_self)
    rw [List.cons_append, scan_cons_of_silent hstep,
      ih (read.push c) fun d hd ↦ hword d (List.mem_cons_of_mem c hd), String.toList_push,
      List.append_assoc, List.singleton_append]

/-- A name with its semicolon that is in the table stands for what the table says, wherever the
reference stands. -/
theorem resolve_of_longest? {word : List Char} {codes : List Nat}
    (h : Entity.longest? (word ++ [';']) = some (word ++ [';'], codes)) (inValue : Bool) :
    Entity.resolve inValue (word ++ [';']) none = codes.map Char.ofNat := by
  simp [Entity.resolve, h]

/-- A reference by name stands for the character that its name says. -/
theorem scan_reference (host : Host) {word : List Char}
    (hne : word ≠ []) (hall : word.all Char.isAlphanum)
    (hname : Entity.longest? (word ++ [';']) = some (word ++ [';'], [c.toNat])) :
    scan (.reference host) (word ++ [';']) = fill host [c] := by
  have htext := resolve_of_longest? hname host.isValue
  rw [List.map_singleton, Char.ofNat_toNat] at htext
  have hword := List.all_eq_true.mp hall
  obtain ⟨first, rest, rfl⟩ := List.exists_cons_of_ne_nil hne
  have hfirst := hword first List.mem_cons_self
  have hhash : first ≠ '#' := by
    rintro rfl
    exact absurd hfirst (by decide)
  have hstep : step false (.reference host) first = (.name host ("".push first), []) := by
    rw [step, stepReference, if_neg hhash, stepName, if_pos hfirst]
  rw [List.cons_append, scan_cons_of_silent hstep,
    scan_name host _ fun d hd ↦ hword d (List.mem_cons_of_mem first hd), ← htext,
    String.toList_push]
  rfl

/-- The references that markup characters are written with. -/
theorem scan_reference_escapeText (host : Host) (hc : isMarkupChar c) :
    ∃ word, escapeText c = '&' :: word ∧ scan (.reference host) word = fill host [c] := by
  rcases escapeText_cases c with ⟨hplain, -⟩ | ⟨rfl, h⟩ | ⟨rfl, h⟩ | ⟨rfl, h⟩
  · exact absurd hc (Bool.eq_false_iff.mp hplain)
  · have hword : "&amp;".toList = '&' :: ("amp".toList ++ [';']) := rfl
    exact ⟨_, h.trans hword, scan_reference host (by decide) (by decide) (by decide +kernel)⟩
  · have hword : "&lt;".toList = '&' :: ("lt".toList ++ [';']) := rfl
    exact ⟨_, h.trans hword, scan_reference host (by decide) (by decide) (by decide +kernel)⟩
  · have hword : "&gt;".toList = '&' :: ("gt".toList ++ [';']) := rfl
    exact ⟨_, h.trans hword, scan_reference host (by decide) (by decide) (by decide +kernel)⟩

/-! ## Escaped texts and values -/

/-- The lexer undoes the escapes of a text, character by character. -/
theorem scan_escapeText (c : Char) : scan resume (escapeText c) = (resume, [.char c]) := by
  by_cases hc : isMarkupChar c
  · obtain ⟨word, hword, hscan⟩ := scan_reference_escapeText (.text .markup) hc
    have hstep : step false resume '&' = (.reference (.text .markup), []) := rfl
    rw [hword, scan_cons_of_silent hstep, hscan]
    rfl
  · have hplain := Bool.eq_false_iff.mpr hc
    rw [escapeText_of_not_isMarkupChar hplain]
    simp only [isMarkupChar, Bool.or_eq_false_iff, beq_eq_false_iff_ne] at hplain
    have hstep : step false resume c = (resume, [.char c]) :=
      (if_neg hplain.1.1).trans (if_neg hplain.1.2)
    rw [scan_cons_of_step hstep]
    rfl

/-- An escaped text is read as the text. -/
theorem scan_flatMap_escapeText (text : List Char) :
    scan resume (text.flatMap escapeText) = (resume, text.map .char) := by
  induction text with
  | nil => rfl
  | cons c text ih => exact scan_append_of_eq (scan_escapeText c) ih

theorem visible_of_ne (hc : c ≠ '\x00') : visible c = c := if_neg hc

/-- The lexer undoes the escapes of a value, character by character. -/
theorem scan_escapeValue (draft : Draft) (name value : String) (hc : c ≠ '\x00') :
    scan (.value draft name .double value) (escapeValue c) =
      (.value draft name .double (value.push c), []) := by
  have hamp : step false (.value draft name .double value) '&' =
      (.reference (.value draft name .double value), []) := by
    simp [step, stepValue]
  have hfill (d : Char) : fill (.value draft name .double value) [d] =
      (.value draft name .double (value.push d), []) := by
    rw [fill, String.push_eq_append]
    rfl
  rcases escapeValue_cases c with ⟨rfl, h⟩ | ⟨hquote, h⟩
  · have hword : "&quot;".toList = '&' :: ("quot".toList ++ [';']) := rfl
    rw [h, hword, scan_cons_of_silent hamp,
      scan_reference (c := '"') _ (by decide) (by decide) (by decide +kernel), hfill]
  · rw [h]
    by_cases hmarkup : isMarkupChar c
    · obtain ⟨word, hword, hscan⟩ :=
        scan_reference_escapeText (.value draft name .double value) hmarkup
      rw [hword, scan_cons_of_silent hamp, hscan, hfill]
    · have hplain := Bool.eq_false_iff.mpr hmarkup
      rw [escapeText_of_not_isMarkupChar hplain]
      simp only [isMarkupChar, Bool.or_eq_false_iff, beq_eq_false_iff_ne] at hplain
      have hstep : step false (.value draft name .double value) c =
          (.value draft name .double (value.push c), []) := by
        simp [step, stepValue, hquote, hplain.1.1, visible_of_ne hc]
      rw [scan_cons_of_silent hstep, scan_nil]

/-- An escaped value is read as the value. -/
theorem scan_flatMap_escapeValue (draft : Draft) (name value : String)
    (htext : '\x00' ∉ text) :
    scan (.value draft name .double value) (text.flatMap escapeValue) =
      (.value draft name .double (value ++ String.ofList text), []) := by
  induction text generalizing value with
  | nil =>
    rw [String.ofList_nil, String.append_empty]
    rfl
  | cons c text ih =>
    have hc : c ≠ '\x00' := fun h ↦ htext (h ▸ List.mem_cons_self)
    have hrest := ih (value.push c) fun hmem ↦ htext (List.mem_cons_of_mem c hmem)
    rw [String.ofList_cons, ← String.append_assoc, String.append_singleton]
    exact scan_append_of_eq (scan_escapeValue draft name value hc) hrest

/-- A value without quotes and ampersands can be written as it is. -/
theorem scan_bareValue (draft : Draft) (name : String) (hquote : '"' ∉ text) (hamp : '&' ∉ text)
    (hnull : '\x00' ∉ text) :
    scan (.value draft name .double "") text =
      (.value draft name .double (String.ofList text), []) := by
  have hcollects (read : String) : ∀ c ∈ text,
      step false (.value draft name .double read) c =
        (.value draft name .double (read.push c), []) := by
    intro c hc
    have hne {d : Char} (hd : d ∉ text) : c ≠ d := fun heq ↦ hd (heq ▸ hc)
    simp [step, stepValue, hne hquote, hne hamp, visible_of_ne (hne hnull)]
  have hscan := scan_of_collects hcollects ""
  rwa [String.empty_append] at hscan

/-! ## Names -/

/-- Small letters, digits and dashes go on a name and are read as they are. -/
def isNamePart (c : Char) : Bool := c.isLower || c.isDigit || c == '-'

theorem isNamePart_of_isLower (hc : c.isLower) : isNamePart c := by
  simp [isNamePart, hc]

theorem isUpper_of_isNamePart (hc : isNamePart c) : c.isUpper = false := by
  unfold isNamePart Char.isLower Char.isDigit at hc
  unfold Char.isUpper
  simp only [Bool.or_eq_true, Bool.and_eq_true, decide_eq_true_eq, beq_iff_eq,
    UInt32.le_iff_toNat_le] at hc
  simp only [decide_eq_false_iff_not, UInt32.le_iff_toNat_le]
  rcases hc with (hc | hc) | rfl
  · grind
  · grind
  · decide

theorem toLower_of_isNamePart (hc : isNamePart c) : c.toLower = c :=
  toLower_of_not_isUpper (isUpper_of_isNamePart hc)

/-- Whether a character neither ends a name nor is read as another one. -/
def isWordPart (c : Char) : Bool :=
  !isSpace c && c != '/' && c != '>' && c != '=' && c != '\x00' && c.toLower == c

theorem isWordPart_of_isNamePart (hc : isNamePart c) : isWordPart c := by
  have hne (d : Char) (hd : isNamePart d = false) : c ≠ d := by
    rintro rfl
    exact absurd hc (Bool.eq_false_iff.mp hd)
  simp [isWordPart, isSpace, hne '\t' rfl, hne '\n' rfl, hne '\x0c' rfl, hne ' ' rfl, hne '/' rfl,
    hne '>' rfl, hne '=' rfl, hne '\x00' rfl, toLower_of_isNamePart hc]

theorem toLower_of_isWordPart (hc : isWordPart c) : c.toLower = c := by
  simp only [isWordPart, Bool.and_eq_true, beq_iff_eq] at hc
  exact hc.2

theorem not_delimiter_of_isWordPart (hc : isWordPart c) :
    isSpace c = false ∧ c ≠ '/' ∧ c ≠ '>' ∧ c ≠ '=' := by
  simp only [isWordPart, Bool.and_eq_true, Bool.not_eq_true', bne_iff_ne] at hc
  obtain ⟨⟨⟨⟨⟨hspace, hslash⟩, hclose⟩, hequals⟩, -⟩, -⟩ := hc
  exact ⟨hspace, hslash, hclose, hequals⟩

theorem visible_toLower_of_isWordPart (hc : isWordPart c) : (visible c).toLower = c := by
  have hnull : c ≠ '\x00' := by
    simp only [isWordPart, Bool.and_eq_true, bne_iff_ne] at hc
    exact hc.1.2
  rw [visible_of_ne hnull, toLower_of_isWordPart hc]

theorem isWordPart_of_isLower (hc : c.isLower) : isWordPart c :=
  isWordPart_of_isNamePart (isNamePart_of_isLower hc)

/-- A name of such characters is the same in small letters. -/
theorem toLower_of_isWord {word : String} (h : ∀ c ∈ word.toList, isWordPart c) :
    word.toLower = word := by
  have hchars : word.toList.map Char.toLower = word.toList.map id :=
    List.map_congr_left fun c hc ↦ toLower_of_isWordPart (h c hc)
  apply String.toList_inj.mp
  unfold String.toLower
  rw [String.toList_map, hchars, List.map_id]

theorem scan_tagName (draft : Draft) {word : List Char} (hword : ∀ c ∈ word, isWordPart c) :
    scan (.tagName draft) word =
      (.tagName { draft with name := draft.name ++ String.ofList word }, []) := by
  have hcollects (read : String) : ∀ c ∈ word,
      step false (.tagName { draft with name := read }) c =
        (.tagName { draft with name := read.push c }, []) := by
    intro c hc
    obtain ⟨hspace, hslash, hclose, -⟩ := not_delimiter_of_isWordPart (hword c hc)
    simp [step, stepTagName, hspace, hslash, hclose, visible_toLower_of_isWordPart (hword c hc)]
  exact scan_of_collects hcollects draft.name

theorem scan_attributeName (draft : Draft) (read : String) {word : List Char}
    (hword : ∀ c ∈ word, isWordPart c) :
    scan (.attributeName draft read) word =
      (.attributeName draft (read ++ String.ofList word), []) := by
  apply scan_of_collects
  intro read c hc
  obtain ⟨hspace, hslash, hclose, hequals⟩ := not_delimiter_of_isWordPart (hword c hc)
  simp [step, stepAttributeName, hspace, hslash, hclose, hequals,
    visible_toLower_of_isWordPart (hword c hc)]

/-! ## Tags -/

def isSmallWord (word : List Char) : Bool := !word.isEmpty && word.all Char.isLower

theorem isLower_of_isSmallWord {word : List Char} (h : isSmallWord word) :
    ∀ c ∈ word, c.isLower :=
  List.all_eq_true.mp (Bool.and_eq_true_iff.mp h).2

theorem not_mem_of_isSmallWord {word : List Char} (h : isSmallWord word)
    (hc : c.isLower = false) : c ∉ word :=
  fun hmem ↦ absurd (isLower_of_isSmallWord h c hmem) (Bool.eq_false_iff.mp hc)

theorem exists_eq_cons_of_isSmallWord {word : List Char} (h : isSmallWord word) :
    ∃ first rest, word = first :: rest ∧ first.isLower ∧ ∀ c ∈ rest, isWordPart c := by
  cases word with
  | nil => cases h
  | cons first rest =>
    obtain ⟨hfirst, hrest⟩ := List.forall_mem_cons.mp (isLower_of_isSmallWord h)
    exact ⟨first, rest, rfl, hfirst, fun c hc ↦ isWordPart_of_isLower (hrest c hc)⟩

theorem ne_of_isLower {d : Char} (hc : c.isLower) (hd : d.isLower = false) : c ≠ d := by
  rintro rfl
  exact absurd hc (Bool.eq_false_iff.mp hd)

/-- Behind its first letter the name of a tag goes on. -/
theorem scan_tagName_of_isSmallWord {isEnd : Bool} {first : Char} {rest : List Char}
    (hfirst : first.isLower) (hrest : ∀ c ∈ rest, isWordPart c) :
    scan (.tagName ⟨isEnd, String.singleton first.toLower, []⟩) rest =
      (.tagName ⟨isEnd, String.ofList (first :: rest), []⟩, []) := by
  rw [scan_tagName _ hrest, toLower_of_isWordPart (isWordPart_of_isLower hfirst),
    String.ofList_cons]

theorem scan_startTagName (htag : isSmallWord tag.toList) :
    scan resume ('<' :: tag.toList) = (.tagName ⟨false, tag, []⟩, []) := by
  obtain ⟨first, rest, hchars, hfirst, hrest⟩ := exists_eq_cons_of_isSmallWord htag
  have hopen : step false resume '<' = (.tagOpen, []) := rfl
  have hname : step false .tagOpen first =
      (.tagName ⟨false, String.singleton first.toLower, []⟩, []) := by
    simp [step, stepTagOpen, ne_of_isLower hfirst, isAlpha_of_isLower hfirst]
  rw [hchars, scan_cons_of_silent hopen, scan_cons_of_silent hname,
    scan_tagName_of_isSmallWord hfirst hrest, ← hchars, String.ofList_toList]

theorem scan_endTag (htag : isSmallWord tag.toList) :
    scan resume ('<' :: '/' :: tag.toList ++ ['>']) = (resume, [.endTag tag]) := by
  obtain ⟨first, rest, hchars, hfirst, hrest⟩ := exists_eq_cons_of_isSmallWord htag
  have hopen : step false resume '<' = (.tagOpen, []) := rfl
  have hslash : step false .tagOpen '/' = (.endTagOpen, []) := rfl
  have hname : step false .endTagOpen first =
      (.tagName ⟨true, String.singleton first.toLower, []⟩, []) := by
    simp [step, stepEndTagOpen, ne_of_isLower hfirst, isAlpha_of_isLower hfirst]
  have htagName : scan .endTagOpen tag.toList = (.tagName ⟨true, tag, []⟩, []) := by
    rw [hchars, scan_cons_of_silent hname, scan_tagName_of_isSmallWord hfirst hrest, ← hchars,
      String.ofList_toList]
  rw [List.cons_append, List.cons_append, scan_cons_of_silent hopen, scan_cons_of_silent hslash]
  exact scan_append_of_eq htagName rfl

/-! ## Properties -/

/-- A state behind the name of a tag and some attributes. -/
inductive IsBehind : State → Draft → Prop
  | name (draft : Draft) : IsBehind (.tagName draft) draft
  | value (draft : Draft) : IsBehind (.afterValue draft) draft
  | bare (draft : Draft) (name : String) :
    IsBehind (.attributeName draft name) (draft.add name "")

variable {state : State}

theorem IsBehind.step_close (h : IsBehind state draft) :
    step false state '>' = (resume, [finishTag draft false]) := by
  cases h <;> rfl

theorem IsBehind.scan_open (h : IsBehind state draft) (hc : isWordPart c) :
    scan state [' ', c] = (.attributeName draft (String.singleton c), []) := by
  obtain ⟨hspace, hslash, hclose, hequals⟩ := not_delimiter_of_isWordPart hc
  have hstart (draft : Draft) :
      stepBeforeName draft c = (.attributeName draft (String.singleton c), []) := by
    simp [stepBeforeName, hspace, hslash, hclose, visible_toLower_of_isWordPart hc]
  have hbefore : scan (.beforeName draft) [c] =
      (.attributeName draft (String.singleton c), []) :=
    (scan_singleton _ c).trans (hstart draft)
  cases h with
  | name | value => exact (scan_cons_of_silent rfl).trans hbefore
  | bare draft name =>
    have hblank : step false (.attributeName draft name) ' ' = (.afterName draft name, []) := rfl
    rw [scan_cons_of_silent hblank, scan_singleton, step, stepAfterName, hspace,
      if_neg Bool.false_ne_true, if_neg hequals]
    exact hstart _

/-- Behind the name of a tag or an attribute, a blank begins the next attribute. -/
theorem scan_bareName (h : IsBehind state draft) (hne : name.toList ≠ [])
    (hname : ∀ c ∈ name.toList, isWordPart c) :
    scan state (' ' :: name.toList) = (.attributeName draft name, []) := by
  obtain ⟨first, rest, hfirst⟩ := List.exists_cons_of_ne_nil hne
  rw [hfirst] at hname ⊢
  obtain ⟨hpart, hrest⟩ := List.forall_mem_cons.mp hname
  have hsame : String.singleton first ++ String.ofList rest = name := by
    rw [← String.ofList_cons, ← hfirst, String.ofList_toList]
  have hscan := scan_append_of_eq (h.scan_open hpart)
    (scan_attributeName draft (String.singleton first) hrest)
  rwa [hsame] at hscan

/-- A property is read with what its value is read as. -/
theorem scan_quotedValue (h : IsBehind state draft) (hne : name.toList ≠ [])
    (hname : ∀ c ∈ name.toList, isWordPart c)
    (hvalue : scan (.value draft name .double "") text = (.value draft name .double value, [])) :
    scan state (' ' :: name.toList ++ ('=' :: '"' :: text ++ ['"'])) =
      (.afterValue (draft.add name value), []) := by
  have hequals : step false (.attributeName draft name) '=' = (.beforeValue draft name, []) := rfl
  have hquote : step false (.beforeValue draft name) '"' = (.value draft name .double "", []) :=
    rfl
  apply scan_append_of_eq (scan_bareName h hne hname)
  rw [List.cons_append, List.cons_append, scan_cons_of_silent hequals, scan_cons_of_silent hquote]
  exact scan_append_of_eq hvalue rfl

def isPlainName (name : List Char) : Bool := !name.isEmpty && name.all isNamePart

theorem isNamePart_of_isPlainName {name : List Char} (h : isPlainName name) :
    ∀ c ∈ name, isNamePart c :=
  List.all_eq_true.mp (Bool.and_eq_true_iff.mp h).2

theorem ne_nil_of_isPlainName {name : List Char} (h : isPlainName name) : name ≠ [] := by
  rintro rfl
  cases h

theorem isWordPart_of_isPlainName {name : List Char} (h : isPlainName name) :
    ∀ c ∈ name, isWordPart c :=
  fun c hc ↦ isWordPart_of_isNamePart (isNamePart_of_isPlainName h c hc)

theorem not_mem_of_isPlainName {name : List Char} (h : isPlainName name)
    (hc : isNamePart c = false) : c ∉ name :=
  fun hmem ↦ absurd (isNamePart_of_isPlainName h c hmem) (Bool.eq_false_iff.mp hc)

/-! ## Comments -/

/-- Whether a character can stand anywhere in a comment and is read as it is. -/
def isCommentPart (c : Char) : Bool := c != '-' && c != '>' && c != '\x00'

/-- The text of a comment without dashes and brackets comes back as it is. -/
theorem scan_comment (hvalue : ∀ c ∈ value.toList, isCommentPart c) :
    scan resume (writeComment value) = (resume, [.comment value]) := by
  have hstart : scan resume "<!--".toList = (.commentStart, []) := by decide +kernel
  have hend (read : String) : scan (.comment read) "-->".toList = (resume, [.comment read]) := rfl
  have hpart (read : String) (c : Char) (hc : isCommentPart c) :
      step false (.comment read) c = (.comment (read.push c), []) := by
    simp only [isCommentPart, Bool.and_eq_true, bne_iff_ne] at hc
    rw [step, stepComment, if_neg hc.1.1, visible_of_ne hc.2]
  have hwritten : writeComment value = "<!--".toList ++ (value.toList ++ "-->".toList) :=
    List.append_assoc ..
  apply (congrArg (scan resume) hwritten).trans
  apply scan_append_of_eq hstart
  rcases hchars : value.toList with _ | ⟨first, rest⟩
  · obtain rfl : value = "" := String.toList_eq_nil_iff.mp hchars
    decide
  · rw [hchars] at hvalue
    obtain ⟨hfirst, hrest⟩ := List.forall_mem_cons.mp hvalue
    have hstep : step false .commentStart first = (.comment ("".push first), []) := by
      have hne := hfirst
      simp only [isCommentPart, Bool.and_eq_true, bne_iff_ne] at hne
      rw [step, stepCommentStart, if_neg hne.1.1, if_neg hne.1.2]
      exact hpart "" first hfirst
    have hcollects : scan (.comment ("".push first)) rest =
        (.comment ("".push first ++ String.ofList rest), []) :=
      scan_of_collects (fun read c hc ↦ hpart read c (hrest c hc)) _
    have hsame : "".push first ++ String.ofList rest = value := by
      apply String.toList_inj.mp
      simp [hchars]
    rw [List.cons_append, scan_cons_of_silent hstep]
    rw [hsame] at hcollects
    exact scan_append_of_eq hcollects (hend value)

end MarkupIslands.Markup.Lexer
