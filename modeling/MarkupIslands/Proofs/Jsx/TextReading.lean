import Mathlib.Data.List.DropRight
import MarkupIslands.Proofs.Jsx.MergedText
import MarkupIslands.Proofs.Jsx.Outline

/-!
# Reading JSX text

A text between tags is not taken as it stands. It is cut into lines, the lines lose the indentation
that came with the layout of the source, those that are left empty go, and the others are joined by
a space. Character references are decoded after that. A text that is written into the source as it
is therefore keeps its value exactly if it has one line.
-/

namespace MarkupIslands.Jsx

/-! ## The reading -/

def isLineBreak (c : Char) : Bool :=
  c == '\n' || c == '\r' || c == '\u2028' || c == '\u2029'

/-- Whether a character belongs to the indentation of a line. -/
def isIndentation (c : Char) : Bool := c == ' ' || c == '\t'

/-- The lines without the indentation in front of all but the first. -/
def stripStarts : List (List Char) → List (List Char)
  | [] => []
  | first :: rest => first :: rest.map (List.dropWhile isIndentation)

def stripEnds : List (List Char) → List (List Char)
  | [] => []
  | [last] => [last]
  | line :: next :: rest => line.rdropWhile isIndentation :: stripEnds (next :: rest)

def joinLines (text : List Char) : List Char :=
  [' '].intercalate
    ((stripEnds (stripStarts (text.splitOnP isLineBreak))).filter fun line ↦ !line.isEmpty)

/-- What the inside of a character reference stands for, be it a number or a name. -/
abbrev References := List Char → Option (List Char)

/-- The text with its character references replaced, the given number of characters passed over.
A reference goes from an ampersand to the next semicolon. -/
def decodeFrom (references : References) : Nat → List Char → List Char
  | _, [] => []
  | passed + 1, _ :: rest => decodeFrom references passed rest
  | 0, c :: rest =>
    let inside := rest.takeWhile (· != ';')
    match if c = '&' ∧ ';' ∈ rest then references inside else none with
    | some denoted => denoted ++ decodeFrom references (inside.length + 1) rest
    | none => c :: decodeFrom references 0 rest

def decodeReferences (references : References) (text : List Char) : List Char :=
  decodeFrom references 0 text

/-- What a text between tags is read as. -/
def readText (references : References) (text : String) : String :=
  String.ofList (decodeReferences references (joinLines text.toList))

/-- The texts that a JSX tree writes between its tags as they are. -/
def Node.texts (node : Node) : List String := node.subnodes.filterMap Node.text?

/-! ## Character references -/

variable (references : References)

/-- Only an ampersand begins a character reference. -/
theorem decodeReferences_eq_self {text : List Char} (h : '&' ∉ text) :
    decodeReferences references text = text := by
  unfold decodeReferences
  induction text with
  | nil => rfl
  | cons c rest ih =>
    obtain ⟨hc, hrest⟩ := List.ne_and_not_mem_of_not_mem_cons h
    have hplain : ¬ (c = '&' ∧ ';' ∈ rest) := fun hamp ↦ hc hamp.1.symm
    simp only [decodeFrom, if_neg hplain, ih hrest]

/-! ## Lines -/

/-- Stripping lines only takes characters away. -/
theorem sublist_flatten_stripStarts (lines : List (List Char)) :
    (stripStarts lines).flatten.Sublist lines.flatten := by
  have hrest (rest : List (List Char)) :
      (rest.map (List.dropWhile isIndentation)).flatten.Sublist rest.flatten := by
    induction rest with
    | nil => exact .slnil
    | cons line rest ih => exact (List.dropWhile_sublist _).append ih
  cases lines with
  | nil => exact .slnil
  | cons first rest => exact (List.Sublist.refl first).append (hrest rest)

theorem sublist_flatten_stripEnds (lines : List (List Char)) :
    (stripEnds lines).flatten.Sublist lines.flatten := by
  fun_induction stripEnds lines with
  | case1 => exact .slnil
  | case2 last => exact .refl _
  | case3 line next rest ih => exact (List.rdropWhile_prefix _ line).sublist.append ih

/-- The lines of a text hold its characters, and no line break. -/
theorem mem_of_mem_flatten_splitOnP {p : Char → Bool} {text : List Char} {c : Char}
    (h : c ∈ (text.splitOnP p).flatten) : c ∈ text ∧ p c = false := by
  induction text with
  | nil => cases h
  | cons d rest ih =>
    obtain ⟨line, lines, hlines⟩ := List.exists_cons_of_ne_nil (List.splitOnP_ne_nil p rest)
    rw [List.splitOnP_cons_eq_if_modifyHead, hlines] at h
    rw [hlines] at ih
    split at h
    · obtain ⟨hmem, hc⟩ := ih h
      exact ⟨List.mem_cons_of_mem d hmem, hc⟩
    · rename_i hd
      obtain rfl | hmem := List.mem_cons.mp h
      · exact ⟨List.mem_cons_self, Bool.eq_false_iff.mpr hd⟩
      · obtain ⟨hmem, hc⟩ := ih hmem
        exact ⟨List.mem_cons_of_mem d hmem, hc⟩

theorem mem_of_mem_intercalate {separator : Char} {lines : List (List Char)} {c : Char}
    (h : c ∈ [separator].intercalate lines) : c = separator ∨ c ∈ lines.flatten := by
  induction lines with
  | nil => cases h
  | cons line lines ih =>
    cases lines with
    | nil => exact .inr (by simpa using h)
    | cons next lines =>
      rw [List.intercalate_cons_cons, List.mem_append, List.mem_append] at h
      rw [List.flatten_cons, List.mem_append]
      obtain (hline | hseparator) | hrest := h
      · exact .inr (.inl hline)
      · exact .inl (List.mem_singleton.mp hseparator)
      · exact (ih hrest).imp_right .inr

/-- A text as one line holds characters of the text and spaces, and no line break. -/
theorem mem_of_mem_joinLines {text : List Char} {c : Char} (h : c ∈ joinLines text) :
    c = ' ' ∨ c ∈ text ∧ isLineBreak c = false := by
  have hkept : (stripEnds (stripStarts (text.splitOnP isLineBreak))).flatten.Sublist
      (text.splitOnP isLineBreak).flatten :=
    (sublist_flatten_stripEnds _).trans (sublist_flatten_stripStarts _)
  obtain hspace | hmem := mem_of_mem_intercalate h
  · exact .inl hspace
  · rw [List.flatten_filter_not_isEmpty] at hmem
    exact .inr (mem_of_mem_flatten_splitOnP (hkept.mem hmem))

/-- Within one line all white space is kept. -/
theorem joinLines_of_one_line {text : List Char} (h : ∀ c ∈ text, isLineBreak c = false) :
    joinLines text = text := by
  rw [joinLines, List.splitOnP_eq_singleton h, stripStarts, List.map_nil, stripEnds]
  cases text with
  | nil => rfl
  | cons c rest => simp

/-- A text is left as it is exactly if it has one line. -/
theorem joinLines_eq_self_iff (text : List Char) :
    joinLines text = text ↔ ∀ c ∈ text, isLineBreak c = false := by
  refine ⟨fun h c hc ↦ ?_, joinLines_of_one_line⟩
  rw [← h] at hc
  obtain rfl | ⟨-, hbreak⟩ := mem_of_mem_joinLines hc
  · decide
  · exact hbreak

/-! ## Texts of converted markup -/

/-- A text that is written as it is holds nothing that JSX would take for markup. -/
theorem needsExpression_of_mem_texts {root : Markup.Root} {value : String}
    (h : value ∈ (ofMarkup root).texts) : needsExpression value = false := by
  obtain ⟨sub, hsub, htext⟩ := List.mem_filterMap.mp h
  cases sub with
  | text other =>
    obtain rfl := Option.some.inj htext
    obtain ⟨_, hfragment⟩ | hconverted := cases_of_mem_subnodes hsub
    · cases hfragment
    · exact hconverted
  | element | fragment | expression => cases htext

theorem ampersand_not_mem {value : String} (h : needsExpression value = false) :
    '&' ∉ value.toList := by
  intro hmem
  have hfound := List.any_eq_false.mp h '&' hmem
  exact absurd rfl hfound

/-- A text that the JSX of a piece of markup holds as it is, is read back as that text exactly if
no line break stands in it. -/
theorem readText_eq_self_iff {root : Markup.Root} {value : String}
    (h : value ∈ (ofMarkup root).texts) :
    readText references value = value ↔ ∀ c ∈ value.toList, isLineBreak c = false := by
  have hamp : '&' ∉ joinLines value.toList := by
    intro hmem
    obtain hspace | ⟨hmem, -⟩ := mem_of_mem_joinLines hmem
    · cases hspace
    · exact ampersand_not_mem (needsExpression_of_mem_texts h) hmem
  rw [readText, decodeReferences_eq_self references hamp, ← joinLines_eq_self_iff,
    ← String.toList_inj, String.toList_ofList]

/-- Spaces at the ends of a line and inside it are kept. -/
theorem readText_spaced :
    "  a  b\t" ∈ (ofMarkup [.element "p" .empty [.text "  a  b\t"]]).texts ∧
      readText (fun _ ↦ none) "  a  b\t" = "  a  b\t" := by
  have htext : "  a  b\t" ∈ (ofMarkup [.element "p" .empty [.text "  a  b\t"]]).texts := by decide
  exact ⟨htext, (readText_eq_self_iff _ htext).mpr (by simp [isLineBreak])⟩

/-- Preformatted text is written as it is, and its second line loses its indentation. -/
theorem readText_preformatted_ne :
    "a\n  b" ∈ (ofMarkup [.element "pre" .empty [.text "a\n  b"]]).texts ∧
      readText (fun _ ↦ none) "a\n  b" ≠ "a\n  b" := by
  decide

end MarkupIslands.Jsx
