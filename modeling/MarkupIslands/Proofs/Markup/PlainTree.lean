import MarkupIslands.Markup.Attribute
import MarkupIslands.Proofs.Markup.ShownForm
import MarkupIslands.Proofs.Markup.WellFormed
import MarkupIslands.Proofs.Markup.Scanning

/-!
# Plain trees

A plain tree is made of sections and other elements without rules of their own, of properties with
plain names, of texts that do not touch each other and of comments without dashes and brackets. This
file has the tokens of a plain tree and shows that they are what the lexer makes of its text, up to
byte order marks that are dropped where they begin a portion.
-/

namespace MarkupIslands.Markup

open MarkupIslands.Text

/-- What holds of all names of a list holds of each of them. -/
theorem all_of_contains {tags : List String} {tag : String} {p : String → Bool}
    (h : tags.contains tag) (hall : tags.all p) : p tag :=
  List.all_eq_true.mp hall tag (List.contains_iff_mem.mp h)

/-- Elements that hold any content and are closed by their own end tags. -/
def plainTags : List String :=
  ["div", "section", "article", "header", "footer", "main", "nav", "aside", "span", "label"]

/-- A property with a plain name whose value is a text without characters that are replaced. -/
def isPlainProperty (entry : String × PropertyValue) : Bool :=
  Lexer.isPlainName entry.1.toList &&
    match entry.2 with
    | .text value => !value.toList.contains '\x00' && !value.toList.contains '\r'
    | .switch _ => false

/-- Whether a character stays in a text wherever it stands. -/
def isPlainTextPart (c : Char) : Bool := c != '\x00' && c != '\r' && c != orderMark

/-- Whether a character stays in a comment, if it does not begin a portion. -/
def isPlainCommentPart (c : Char) : Bool :=
  c != '-' && c != '<' && c != '>' && c != '\x00' && c != '\r'

mutual

def Node.isPlain : Node → Bool
  | .element tag properties children =>
    plainTags.contains tag && properties.entries.all isPlainProperty && arePlain children
  | .text value => value != "" && value.toList.all isPlainTextPart
  | .comment value => value.toList.all isPlainCommentPart
  | .doctype _ => false

/-- Whether siblings are plain and no text stands next to another one. -/
def arePlain : List Node → Bool
  | [] => true
  | node :: rest => node.isPlain && !(node.isText && HasText.beginsWithText rest) && arePlain rest

end

/-! ## Tokens -/

def textEntries (entries : List (String × PropertyValue)) : List (String × String) :=
  entries.filterMap fun entry ↦
    match entry.2 with
    | .text value => some (entry.1, value)
    | .switch _ => none

def Properties.texts (properties : Properties) : List (String × String) :=
  textEntries properties.entries

mutual

/-- The tokens of a tree without document types. -/
def Node.tokens : Node → List Token
  | .element tag properties children =>
    .startTag ⟨tag, properties.texts, false⟩ :: (tokensOf children ++ [.endTag tag])
  | .text value => value.toList.map .char
  | .comment value => [.comment value]
  | .doctype _ => []

def tokensOf : List Node → List Token
  | [] => []
  | node :: rest => node.tokens ++ tokensOf rest

end

/-! ## Properties -/

theorem putProperty_of_not_mem {name : String} {entries : List (String × PropertyValue)}
    (h : name ∉ entries.map Prod.fst) (value : PropertyValue) :
    putProperty name value entries = entries ++ [(name, value)] := by
  induction entries with
  | nil => rfl
  | cons entry entries ih =>
    rw [List.map_cons, List.mem_cons, not_or] at h
    rw [putProperty, if_neg (Ne.symm h.1), ih h.2]
    rfl

/-- Entries with new names are put behind the ones that are there. -/
theorem entries_foldl_insert {entries : List (String × PropertyValue)} {properties : Properties}
    (h : ((properties.entries ++ entries).map Prod.fst).Nodup) :
    (entries.foldl (fun properties entry ↦ properties.insert entry.1 entry.2) properties).entries =
      properties.entries ++ entries := by
  induction entries generalizing properties with
  | nil => rw [List.foldl_nil, List.append_nil]
  | cons entry entries ih =>
    have hassoc : properties.entries ++ entry :: entries =
        (properties.entries ++ [entry]) ++ entries := by simp
    have hnew : entry.1 ∉ properties.entries.map Prod.fst := by
      rw [List.map_append, List.nodup_append] at h
      exact fun hmem ↦ h.2.2 _ hmem _ List.mem_cons_self rfl
    have hinsert : (properties.insert entry.1 entry.2).entries = properties.entries ++ [entry] :=
      putProperty_of_not_mem hnew entry.2
    rw [hassoc, ← hinsert] at h
    rw [List.foldl_cons, ih h, hinsert, hassoc]

/-- Entries with different names are the entries of the properties made from them. -/
theorem entries_ofList {entries : List (String × PropertyValue)}
    (h : (entries.map Prod.fst).Nodup) : (Properties.ofList entries).entries = entries :=
  entries_foldl_insert h

/-- Properties with text values only are made from their texts. -/
theorem ofList_texts {properties : Properties}
    (h : ∀ entry ∈ properties.entries, isPlainProperty entry) :
    Properties.ofList ((properties.texts.map Attribute.ordinary).map Attribute.entry) =
      properties := by
  have hentries : (properties.texts.map Attribute.ordinary).map Attribute.entry =
      properties.entries := by
    unfold Properties.texts textEntries
    revert h
    induction properties.entries with
    | nil => exact fun _ ↦ rfl
    | cons entry entries ih =>
      intro h
      obtain ⟨hentry, hrest⟩ := List.forall_mem_cons.mp h
      obtain ⟨name, value⟩ := entry
      cases value with
      | switch isOn => simp [isPlainProperty] at hentry
      | text value => exact congrArg ((name, PropertyValue.text value) :: ·) (ih hrest)
  apply Properties.ext
  rw [hentries]
  exact entries_ofList properties.nodup

end MarkupIslands.Markup
