import Mathlib.Data.List.TakeWhile
import MarkupIslands.Proofs.Jsx.ObjectLiteral

/-!
# From declarations to style objects

An inline style is put together from declarations with semicolons between them. It is cut where no
quote, parenthesis or escape is open, so a declaration that closes all it opens comes out as it went
in. Every declaration with a name and a value then becomes one entry of the style object, and all
others leave nothing.
-/

namespace MarkupIslands.Jsx.Style

open MarkupIslands.Text

/-! ## Scanning -/

namespace Scan

/-- What is open after a text. -/
def after (scan : Scan) (text : List Char) : Scan := text.foldl next scan

/-- Whether no semicolon of a text ends a declaration. -/
def keeps (scan : Scan) : List Char → Bool
  | [] => true
  | c :: rest => !(c = ';' && scan.isClosed) && keeps (scan.next c) rest

theorem after_append (scan : Scan) (text rest : List Char) :
    scan.after (text ++ rest) = (scan.after text).after rest :=
  List.foldl_append

theorem keeps_append (scan : Scan) (text rest : List Char) :
    scan.keeps (text ++ rest) = (scan.keeps text && (scan.after text).keeps rest) := by
  induction text generalizing scan with
  | nil => rfl
  | cons c text ih =>
    rw [List.cons_append, keeps, keeps, ih, Bool.and_assoc]
    rfl

/-- Nothing is open only at the start and where all that was opened is closed again. -/
theorem isClosed_iff (scan : Scan) : scan.isClosed ↔ scan = {} := by
  obtain ⟨quote, depth, escaped⟩ := scan
  cases quote <;> simp [isClosed, and_comm]

/-- A semicolon that ends a declaration leaves nothing open. -/
theorem next_semicolon {scan : Scan} (h : scan.isClosed) : scan.next ';' = scan := by
  obtain rfl := (isClosed_iff scan).mp h
  rfl

end Scan

/-- Whether a text closes all it opens and has no semicolon outside. -/
def isSelfContained (text : List Char) : Bool :=
  ({} : Scan).keeps text && (({} : Scan).after text).isClosed

theorem isSelfContained_iff (text : List Char) :
    isSelfContained text ↔ ({} : Scan).keeps text ∧ ({} : Scan).after text = {} := by
  rw [isSelfContained, Bool.and_eq_true, Scan.isClosed_iff]

theorem isSelfContained_append {text rest : List Char} (htext : isSelfContained text)
    (hrest : isSelfContained rest) : isSelfContained (text ++ rest) := by
  rw [isSelfContained_iff] at htext hrest ⊢
  rw [Scan.keeps_append, Scan.after_append, htext.2, htext.1, Bool.true_and]
  exact hrest

def delimiters : List Char := [':', ';', '"', '\'', '(', ')', '\\']

/-- Whether no character of a text plays a role in a declaration. -/
def isPlain (text : List Char) : Bool := text.all fun c ↦ !delimiters.contains c

theorem isPlain_iff (text : List Char) : isPlain text ↔ ∀ c ∈ text, c ∉ delimiters := by
  simp [isPlain]

/-- A text without delimiters opens nothing and ends nothing. -/
theorem isSelfContained_of_isPlain {text : List Char} (h : isPlain text) :
    isSelfContained text := by
  rw [isPlain_iff] at h
  induction text with
  | nil => rfl
  | cons c rest ih =>
    obtain ⟨hc, hrest⟩ := List.forall_mem_cons.mp h
    have hsingle : isSelfContained [c] := by
      simp only [delimiters, List.mem_cons, List.not_mem_nil, or_false, not_or] at hc
      simp [isSelfContained, Scan.keeps, Scan.after, Scan.next, Scan.isClosed, hc]
    exact isSelfContained_append hsingle (ih hrest)

theorem isPlain_of_blank {text : List Char} (h : text.all isBlank) : isPlain text := by
  have hdelimiters : delimiters.all (!isBlank ·) := by decide
  rw [isPlain_iff]
  intro c hc hmem
  have hblank := List.all_eq_true.mp h c hc
  have hvisible := List.all_eq_true.mp hdelimiters c hmem
  rw [hblank] at hvisible
  cases hvisible

theorem colon_not_mem_of_isPlain {text : List Char} (h : isPlain text) : ':' ∉ text :=
  fun hmem ↦ (isPlain_iff text).mp h ':' hmem List.mem_cons_self

/-! ## Cutting a style -/

theorem exists_split_eq_cons (scan : Scan) (text : List Char) :
    ∃ piece pieces, split scan text = piece :: pieces := by
  cases text with
  | nil => exact ⟨[], [], rfl⟩
  | cons c rest =>
    rw [split]
    split
    · exact ⟨_, _, rfl⟩
    · split <;> exact ⟨_, _, rfl⟩

/-- A character that ends no declaration goes on the first piece. -/
theorem split_cons_of_ne {scan : Scan} {c : Char} (h : (c = ';' && scan.isClosed) = false)
    {rest piece : List Char} {pieces : List (List Char)}
    (hrest : split (scan.next c) rest = piece :: pieces) :
    split scan (c :: rest) = (c :: piece) :: pieces := by
  rw [split, h, hrest]
  rfl

/-- A text without a semicolon outside of quotes and parentheses is one piece. -/
theorem split_of_keeps {scan : Scan} {text : List Char} (h : scan.keeps text) :
    split scan text = [text] := by
  induction text generalizing scan with
  | nil => rfl
  | cons c rest ih =>
    obtain ⟨hc, hrest⟩ := Bool.and_eq_true_iff.mp h
    exact split_cons_of_ne ((Bool.not_eq_true' _).mp hc) (ih hrest)

/-- A style is cut at every semicolon behind which nothing is open. -/
theorem split_append_semicolon {scan : Scan} {text : List Char}
    (h : (scan.after text).isClosed) (rest : List Char) :
    split scan (text ++ ';' :: rest) = split scan text ++ split {} rest := by
  induction text generalizing scan with
  | nil =>
    have hclosed : scan.isClosed := h
    obtain rfl := (Scan.isClosed_iff scan).mp hclosed
    rfl
  | cons c text ih =>
    have hrest := ih h
    obtain ⟨piece, pieces, hpieces⟩ := exists_split_eq_cons (scan.next c) text
    cases hc : (c = ';' && scan.isClosed : Bool) with
    | false =>
      rw [hpieces, List.cons_append] at hrest
      rw [List.cons_append, split_cons_of_ne hc hrest, split_cons_of_ne hc hpieces,
        List.cons_append]
    | true =>
      -- both sides are cut at this earlier semicolon first
      obtain ⟨hsemicolon, hclosed⟩ := Bool.and_eq_true_iff.mp hc
      obtain rfl := of_decide_eq_true hsemicolon
      rw [Scan.next_semicolon hclosed] at hrest
      rw [List.cons_append, split, split, hc, if_pos rfl, if_pos rfl, hrest, List.cons_append]

/-- Declarations that close all they open come out of the style that they are joined to. -/
theorem declarations_intercalate {pieces : List (List Char)} (hne : pieces ≠ [])
    (h : ∀ piece ∈ pieces, isSelfContained piece) :
    declarations ([';'].intercalate pieces) = pieces := by
  induction pieces with
  | nil => exact absurd rfl hne
  | cons piece pieces ih =>
    obtain ⟨hpiece, hpieces⟩ := List.forall_mem_cons.mp h
    obtain ⟨hkeeps, hafter⟩ := (isSelfContained_iff piece).mp hpiece
    cases pieces with
    | nil =>
      rw [List.intercalate_singleton]
      exact split_of_keeps hkeeps
    | cons next pieces =>
      have hclosed : (({} : Scan).after piece).isClosed := (Scan.isClosed_iff _).mpr hafter
      have hrest := ih (List.cons_ne_nil next pieces) hpieces
      rw [declarations] at hrest ⊢
      rw [List.intercalate_cons_cons, List.append_assoc, List.singleton_append,
        split_append_semicolon hclosed, split_of_keeps hkeeps, hrest]
      rfl

/-! ## Trimming -/

def isTrimmed (text : List Char) : Bool :=
  text.head?.any (!isBlank ·) && text.getLast?.any (!isBlank ·)

theorem trim_of_blank {text : List Char} (h : text.all isBlank) : trim text = [] := by
  have hdrop : text.dropWhile isBlank = [] :=
    List.dropWhile_eq_nil_iff.mpr (List.all_eq_true.mp h)
  rw [trim, hdrop]
  rfl

theorem dropWhile_isBlank_append {text : List Char} (h : text.head?.any (!isBlank ·))
    (rest : List Char) : (text ++ rest).dropWhile isBlank = text ++ rest := by
  cases text with
  | nil => cases h
  | cons c tail =>
    have hc : isBlank c = false := by simpa using h
    rw [List.cons_append, List.dropWhile_cons_of_neg (by simp [hc])]

theorem trim_padded {before text behind : List Char} (hbefore : before.all isBlank)
    (htext : isTrimmed text) (hbehind : behind.all isBlank) :
    trim (before ++ text ++ behind) = text := by
  obtain ⟨hfirst, hlast⟩ := Bool.and_eq_true_iff.mp htext
  have hstart : (before ++ text ++ behind).dropWhile isBlank = text ++ behind := by
    rw [List.append_assoc, List.dropWhile_append_of_pos (List.all_eq_true.mp hbefore),
      dropWhile_isBlank_append hfirst]
  have hend : (behind.reverse ++ text.reverse).dropWhile isBlank = text.reverse := by
    have hreverse : ∀ c ∈ behind.reverse, isBlank c :=
      fun c hc ↦ List.all_eq_true.mp hbehind c (List.mem_reverse.mp hc)
    rw [← List.head?_reverse] at hlast
    rw [List.dropWhile_append_of_pos hreverse]
    simpa using dropWhile_isBlank_append hlast []
  rw [trim, hstart, List.reverse_append, hend, List.reverse_reverse]

theorem ne_nil_of_isTrimmed {text : List Char} (h : isTrimmed text) : text ≠ [] := by
  rintro rfl
  cases h

/-- A declaration is parted at its first colon. -/
theorem entry?_append {name : List Char} (h : ':' ∉ name) (value : List Char) :
    entry? (name ++ ':' :: value) =
      if (trim name).isEmpty || (trim value).isEmpty then none
      else some (trim name, trim value) := by
  have hname : ∀ c ∈ name, c != ':' := fun c hc ↦ bne_iff_ne.mpr fun hcolon ↦ h (hcolon ▸ hc)
  unfold entry?
  rw [List.takeWhile_append_of_pos hname, List.dropWhile_append_of_pos hname,
    List.takeWhile_cons_of_neg (by decide), List.dropWhile_cons_of_neg (by decide),
    List.append_nil]

/-! ## Styles in parts -/

/-- White space around the words of a style. -/
abbrev Blanks := { text : List Char // text.all isBlank }

structure Declaration where
  name : List Char
  value : List Char
  isTrimmed_name : isTrimmed name
  isPlain_name : isPlain name
  isTrimmed_value : isTrimmed value
  isSelfContained_value : isSelfContained value

/-- Whether a declaration has no colon, no name or no value. -/
def isIdle (text : List Char) : Bool :=
  !text.contains ':' || (text.takeWhile (· != ':')).all isBlank ||
    ((text.dropWhile (· != ':')).drop 1).all isBlank

/-- What stands between two semicolons of a style: a declaration with white space around its words,
or something that declares nothing. -/
inductive Part
  | declares (declaration : Declaration) (beforeName afterName beforeValue afterValue : Blanks)
  | idle (text : List Char) (isIdle_text : isIdle text)
      (isSelfContained_text : isSelfContained text)

namespace Part

def text : Part → List Char
  | .declares declaration beforeName afterName beforeValue afterValue =>
    (beforeName.val ++ declaration.name ++ afterName.val) ++
      ':' :: (beforeValue.val ++ declaration.value ++ afterValue.val)
  | .idle text .. => text

/-- The name and the value that a part declares. -/
def pair? : Part → Option (List Char × List Char)
  | .declares declaration .. => some (declaration.name, declaration.value)
  | .idle .. => none

/-- Whatever a part is written with, its semicolons are its own. -/
theorem isSelfContained_text (part : Part) : isSelfContained part.text := by
  cases part with
  | idle text _ h => exact h
  | declares declaration beforeName afterName beforeValue afterValue =>
    have hblank (blanks : Blanks) : isSelfContained blanks.val :=
      isSelfContained_of_isPlain (isPlain_of_blank blanks.property)
    have hname := isSelfContained_append (isSelfContained_append (hblank beforeName)
      (isSelfContained_of_isPlain declaration.isPlain_name)) (hblank afterName)
    have hvalue := isSelfContained_append (isSelfContained_append (hblank beforeValue)
      declaration.isSelfContained_value) (hblank afterValue)
    have hcolon : isSelfContained [':'] := by decide
    have hbehind := isSelfContained_append hcolon hvalue
    exact isSelfContained_append hname hbehind

/-- A declaration without a colon, a name or a value sets no property. -/
theorem entry?_of_isIdle {text : List Char} (h : isIdle text) : entry? text = none := by
  simp only [isIdle, Bool.or_eq_true, Bool.not_eq_true'] at h
  unfold entry?
  split
  · rfl
  · rename_i colon value hbehind
    rw [hbehind, List.drop_one, List.tail_cons] at h
    obtain (hcolon | hname) | hvalue := h
    · have hnone : text.dropWhile (· != ':') = [] :=
        List.dropWhile_eq_nil_iff.mpr fun c hc ↦ bne_iff_ne.mpr fun h ↦ by
          rw [h, ← List.contains_iff_mem, hcolon] at hc
          cases hc
      rw [hnone] at hbehind
      cases hbehind
    · rw [trim_of_blank hname]
      rfl
    · simp [trim_of_blank hvalue]

/-- Of a part the scanner reads the name and the value that it was built from. -/
theorem entry?_text (part : Part) : entry? part.text = part.pair? := by
  cases part with
  | idle text h _ => exact entry?_of_isIdle h
  | declares declaration beforeName afterName beforeValue afterValue =>
    have hblanks (blanks : Blanks) : ':' ∉ blanks.val :=
      colon_not_mem_of_isPlain (isPlain_of_blank blanks.property)
    have hname : ':' ∉ declaration.name := colon_not_mem_of_isPlain declaration.isPlain_name
    have hcolon : ':' ∉ beforeName.val ++ declaration.name ++ afterName.val := by
      simp [hblanks, hname]
    rw [text, entry?_append hcolon,
      trim_padded beforeName.property declaration.isTrimmed_name afterName.property,
      trim_padded beforeValue.property declaration.isTrimmed_value afterValue.property]
    simp [ne_nil_of_isTrimmed declaration.isTrimmed_name,
      ne_nil_of_isTrimmed declaration.isTrimmed_value, pair?]

end Part

/-- The style that consists of the given parts. -/
def styleOf (parts : List Part) : List Char := [';'].intercalate (parts.map Part.text)

def pairsOf (parts : List Part) : List (List Char × List Char) := parts.filterMap Part.pair?

/-- The entries of a style are what its parts declare. -/
theorem filterMap_entry?_styleOf (parts : List Part) :
    (declarations (styleOf parts)).filterMap entry? = pairsOf parts := by
  cases parts with
  | nil => rfl
  | cons part parts =>
    have hne : (part :: parts).map Part.text ≠ [] := List.cons_ne_nil _ _
    have hparts : ∀ piece ∈ (part :: parts).map Part.text, isSelfContained piece :=
      List.forall_mem_map.mpr fun part _ ↦ part.isSelfContained_text
    rw [styleOf, declarations_intercalate hne hparts, List.filterMap_map, pairsOf]
    exact congrArg (List.filterMap · (part :: parts)) (funext Part.entry?_text)

/-- The object of a style has one entry for each of its declarations, in their order: the key is
that of the name, and the value is read as it was declared. Without declarations the object is
empty. -/
theorem source_styleOf (parts : List Part) :
    source (styleOf parts) = objectSource ((pairsOf parts).map fun pair ↦
        keySource pair.1 ++ ':' :: ' ' :: quoteChars pair.2) ∧
      readWhole? (readObject? readLiteral?) (source (styleOf parts)) =
        some ((pairsOf parts).map fun pair ↦ (key pair.1, pair.2)) ∧
      (source (styleOf parts) = ['{', '}'] ↔ pairsOf parts = []) := by
  have hsource : source (styleOf parts) = objectSource ((pairsOf parts).map fun pair ↦
      keySource pair.1 ++ ':' :: ' ' :: quoteChars pair.2) := by
    rw [← filterMap_entry?_styleOf]
    rfl
  refine ⟨hsource, ?_, ?_⟩
  · rw [(reads_source (styleOf parts)).whole, entries, filterMap_entry?_styleOf]
  · rw [hsource]
    cases pairsOf parts with
    | nil => exact iff_of_true rfl rfl
    | cons pair pairs =>
      rw [List.map_cons, objectSource_cons]
      exact iff_of_false (by simp) (List.cons_ne_nil pair pairs)

/-- A picture with a semicolon in its address and a font name with one in quotes, between
declarations without a name, a value or a colon. -/
def backgroundStyle : List Part :=
  let bare : Blanks := ⟨[], by decide⟩
  let space : Blanks := ⟨[' '], by decide⟩
  [.idle [' '] (by decide) (by decide),
    .declares ⟨"Background".toList, "url(data:a;b:c)".toList, by decide, by decide, by decide,
      by decide⟩ bare space space bare,
    .idle ":(x)".toList (by decide) (by decide),
    .declares ⟨"-ms-font".toList, "'A;B', \"(\"".toList, by decide, by decide, by decide,
      by decide⟩ space bare bare space,
    .idle "color: ".toList (by decide) (by decide),
    .idle "none".toList (by decide) (by decide)]

/-- The two declarations are left, each with its value in one piece. -/
theorem source_backgroundStyle :
    styleOf backgroundStyle =
        " ;Background : url(data:a;b:c);:(x); -ms-font:'A;B', \"(\" ;color: ;none".toList ∧
      source (styleOf backgroundStyle) =
        "\x7b background: \"url(data:a;b:c)\", msFont: \"'A;B', \\\"(\\\"\" \x7d".toList ∧
      readWhole? (readObject? readLiteral?) (source (styleOf backgroundStyle)) =
        some [("background".toList, "url(data:a;b:c)".toList),
          ("msFont".toList, "'A;B', \"(\"".toList)] := by
  obtain ⟨hsource, hread, -⟩ := source_styleOf backgroundStyle
  exact ⟨by decide, hsource.trans (by decide), hread.trans (by decide)⟩

end MarkupIslands.Jsx.Style
