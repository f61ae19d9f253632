import MarkupIslands.Jsx.OfMarkup
import MarkupIslands.Proofs.Text.PrefixFree

/-!
# Sources of expressions

The expressions of a JSX tree are string literals and style objects, and a spread holds an object
with literals as keys. All of these are prefix-free languages, so the end of an expression can be
told without looking for the brace behind it.
-/

namespace MarkupIslands.Jsx

open MarkupIslands.Text

/-! ## Objects -/

def objects (entries : Language Char) : Language Char :=
  {source | ∃ items, (∀ item ∈ items, item ∈ entries) ∧ source = Style.objectSource items}

/-- What follows the first entry of an object. -/
def objectEnd (items : List (List Char)) : List Char :=
  items.flatMap (fun item ↦ ',' :: ' ' :: item) ++ [' ', '}']

theorem intercalate_append_eq (item : List Char) (items : List (List Char)) :
    ", ".toList.intercalate (item :: items) ++ [' ', '}'] = item ++ objectEnd items := by
  induction items generalizing item with
  | nil => simp [objectEnd]
  | cons next items ih =>
    have hseparator (text : List Char) : ", ".toList ++ text = ',' :: ' ' :: text := rfl
    rw [List.intercalate_cons_cons, List.append_assoc, List.append_assoc, hseparator, ih,
      objectEnd, objectEnd, List.flatMap_cons]
    simp

theorem objectSource_cons (item : List Char) (items : List (List Char)) :
    Style.objectSource (item :: items) = '{' :: ' ' :: (item ++ objectEnd items) := by
  rw [← intercalate_append_eq]
  rfl

variable {entries : Language Char}

/-- Commas and the closing brace tell how the entries of an object go on. -/
theorem objectEnd_append_inj (h : PrefixFree entries) {items others : List (List Char)}
    (hitems : ∀ item ∈ items, item ∈ entries) (hothers : ∀ item ∈ others, item ∈ entries)
    {x y : List Char} (heq : objectEnd items ++ x = objectEnd others ++ y) : items = others := by
  induction items generalizing others with
  | nil =>
    cases others with
    | nil => rfl
    | cons other others => simp [objectEnd] at heq
  | cons item items ih =>
    cases others with
    | nil => simp [objectEnd] at heq
    | cons other others =>
      rw [List.forall_mem_cons] at hitems hothers
      have hend : item ++ (objectEnd items ++ x) = other ++ (objectEnd others ++ y) := by
        simpa [objectEnd] using heq
      obtain ⟨rfl, hrest⟩ := h.append_inj hitems.1 hothers.1 hend
      rw [ih hitems.2 hothers.2 hrest]

/-- Objects of entries that do not begin one another do not begin one another either. -/
theorem prefixFree_objects (h : PrefixFree entries) : PrefixFree (objects entries) := by
  rintro _ ⟨items, hitems, rfl⟩ _ ⟨others, hothers, rfl⟩ x y heq
  cases items with
  | nil =>
    cases others with
    | nil => rfl
    | cons other others =>
      rw [objectSource_cons] at heq
      simp [Style.objectSource] at heq
  | cons item items =>
    cases others with
    | nil =>
      rw [objectSource_cons] at heq
      simp [Style.objectSource] at heq
    | cons other others =>
      rw [List.forall_mem_cons] at hitems hothers
      simp only [objectSource_cons, List.cons_append, List.append_assoc, List.cons.injEq,
        true_and] at heq
      obtain ⟨rfl, hrest⟩ := h.append_inj hitems.1 hothers.1 heq
      rw [objectEnd_append_inj h hitems.2 hothers.2 hrest]

theorem beginsWith_objects (entries : Language Char) : BeginsWith (objects entries) (· = '{') := by
  rintro _ ⟨items, -, rfl⟩
  cases items with
  | nil => exact ⟨'{', _, rfl, rfl⟩
  | cons item items => exact ⟨'{', _, objectSource_cons item items, rfl⟩

/-! ## Expressions -/

def identifiers : Language Char := {word | isIdentifier word}

/-- The entries of style objects: a key, a colon and the literal of a value. -/
def styleEntries : Language Char := (identifiers + literals) * {[':']} * ({[' ']} * literals)

/-- The sources of expressions. -/
def expressions : Language Char := literals + objects styleEntries

def spreadEntries : Language Char :=
  literals * {[':', ' ']} * ({"true".toList} + expressions)

def spreads : Language Char := objects spreadEntries

def isNamePart (c : Char) : Bool := isIdentifierPart c || c == '-'

theorem exists_eq_cons_of_isSpellable {name : List Char} (h : isSpellable name) :
    ∃ c rest, name = c :: rest ∧ isIdentifierStart c := by
  cases name with
  | nil => exact absurd h Bool.false_ne_true
  | cons c rest => exact ⟨c, rest, rfl, (Bool.and_eq_true_iff.mp h).1⟩

theorem isNamePart_of_isSpellable {name : List Char} (h : isSpellable name) :
    ∀ c ∈ name, isNamePart c := by
  cases name with
  | nil => exact fun _ hmem ↦ absurd hmem List.not_mem_nil
  | cons c rest =>
    obtain ⟨hstart, hrest⟩ := Bool.and_eq_true_iff.mp h
    refine List.forall_mem_cons.mpr ⟨?_, List.all_eq_true.mp hrest⟩
    rw [isNamePart, isIdentifierPart, hstart, Bool.true_or, Bool.true_or]

theorem beginsWith_identifiers : BeginsWith identifiers (isIdentifierStart · = true) :=
  fun _ hword ↦ exists_eq_cons_of_isSpellable (isSpellable_of_isIdentifier hword)

theorem colon_not_mem_identifier {word : List Char} (h : word ∈ identifiers) : ':' ∉ word := by
  intro hmem
  have hpart := isNamePart_of_isSpellable (isSpellable_of_isIdentifier h) ':' hmem
  exact absurd hpart (by decide)

/-- A key ends at its colon and a value at its closing quote. -/
theorem prefixFree_styleEntries : PrefixFree styleEntries := by
  have hkeys : PrefixFree ((identifiers + literals) * {[':']}) := by
    rw [add_mul]
    refine PrefixFree.add (prefixFree_mul_singleton fun _ ↦ colon_not_mem_identifier)
      (prefixFree_literals.mul (prefixFree_singleton _)) beginsWith_identifiers.mul
      beginsWith_literals.mul ?_
    rintro _ hstart rfl
    exact absurd hstart (by decide)
  exact hkeys.mul ((prefixFree_singleton _).mul prefixFree_literals)

theorem prefixFree_expressions : PrefixFree expressions := by
  refine prefixFree_literals.add (prefixFree_objects prefixFree_styleEntries) beginsWith_literals
    (beginsWith_objects _) ?_
  rintro _ rfl
  decide

theorem prefixFree_spreads : PrefixFree spreads := by
  have htrue : BeginsWith ({"true".toList} : Language Char) (· = 't') := by
    rintro _ rfl
    exact ⟨'t', _, rfl, rfl⟩
  have hexpressions : BeginsWith expressions (· ≠ 't') :=
    (beginsWith_literals.mono fun _ hc ↦ hc ▸ by decide).add
      ((beginsWith_objects _).mono fun _ hc ↦ hc ▸ by decide)
  have hvalues : PrefixFree ({"true".toList} + expressions) :=
    (prefixFree_singleton _).add prefixFree_expressions htrue hexpressions fun _ h hne ↦ hne h
  exact prefixFree_objects ((prefixFree_literals.mul (prefixFree_singleton _)).mul hvalues)

/-- The object of a style is one of the sources of expressions. -/
theorem source_mem_expressions (style : List Char) : Style.source style ∈ expressions := by
  refine .inr ⟨_, fun item hitem ↦ ?_, rfl⟩
  obtain ⟨⟨name, value⟩, -, rfl⟩ := List.mem_map.mp hitem
  have hkey : Style.keySource name ∈ identifiers + literals := by
    unfold Style.keySource
    split
    · rename_i h
      exact .inl h
    · exact .inr (quoteChars_mem_literals _)
  refine ⟨Style.keySource name ++ [':'], ⟨_, hkey, _, rfl, rfl⟩, ' ' :: quoteChars value,
    ⟨_, rfl, _, quoteChars_mem_literals value, rfl⟩, ?_⟩
  simp

theorem quote_mem_expressions (text : String) : (quote text).toList ∈ expressions := by
  rw [toList_quote]
  exact .inl (quoteChars_mem_literals _)

end MarkupIslands.Jsx
