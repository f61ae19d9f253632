import MarkupIslands.Proofs.Jsx.Sources

/-!
# Reading object literals

Styles and spreads are written as object literals. They are read here as script source reads them:
keys are identifiers or string literals, and blanks may stand between the parts. Which values an
object may hold is left to a reader of values, so that objects of strings and objects that hold
other objects are read by the same function.
-/

namespace MarkupIslands.Jsx

open MarkupIslands.Text

/-- Reads a value off the front of a source and returns it with what follows. -/
abbrev Reader (α : Type) := List Char → Option (α × List Char)

variable {α : Type}

def readWhole? (read? : Reader α) (source : List Char) : Option α :=
  match read? source with
  | some (value, []) => some value
  | _ => none

/-! ## The readers -/

def skipBlanks (source : List Char) : List Char := source.dropWhile (· == ' ')

def readLiteral? : Reader (List Char) := fun source ↦
  match skipBlanks source with
  | '"' :: body => unquoteBody? body
  | _ => none

def readName? : Reader (List Char) := fun source ↦
  let name := source.takeWhile isIdentifierPart
  if isIdentifier name then some (name, source.dropWhile isIdentifierPart) else readLiteral? source

/-- A key with the colon behind it. -/
def readKey? : Reader (List Char) := fun source ↦ do
  let (name, rest) ← readName? (skipBlanks source)
  match skipBlanks rest with
  | ':' :: rest => some (name, rest)
  | _ => none

def readPair? (value? : Reader α) : Reader (List Char × α) := fun source ↦ do
  let (key, rest) ← readKey? source
  let (value, rest) ← value? rest
  return ((key, value), rest)

/-- The entries of an object up to its closing brace. A reader of values that takes nothing ends the
reading. -/
def readPairs? (value? : Reader α) (source : List Char) :
    Option (List (List Char × α) × List Char) :=
  match readPair? value? source with
  | none => none
  | some (entry, rest) =>
    match skipBlanks rest with
    | '}' :: rest => some ([entry], rest)
    | ',' :: rest =>
      if rest.length < source.length then
        (readPairs? value? rest).map fun read ↦ (entry :: read.1, read.2)
      else none
    | _ => none
termination_by source.length

/-- What follows the opening brace of an object. -/
def readInside? (value? : Reader α) : Reader (List (List Char × α)) := fun inside ↦
  match skipBlanks inside with
  | '}' :: rest => some ([], rest)
  | _ => readPairs? value? inside

def readObject? (value? : Reader α) : Reader (List (List Char × α)) := fun source ↦
  match skipBlanks source with
  | '{' :: inside => readInside? value? inside
  | _ => none

/-! ## What is read from written sources -/

/-- The reader takes the source for the value, whatever follows. -/
def Reads (read? : Reader α) (value : α) (source : List Char) : Prop :=
  ∀ rest, read? (source ++ rest) = some (value, rest)

theorem Reads.whole {read? : Reader α} {value : α} {source : List Char}
    (h : Reads read? value source) : readWhole? read? source = some value := by
  have hread := h []
  rw [List.append_nil] at hread
  rw [readWhole?, hread]

theorem reads_quoteChars (text : List Char) : Reads readLiteral? text (quoteChars text) := by
  intro rest
  have hbody := unquoteBody?_flatMap_escape text rest
  simpa [readLiteral?, skipBlanks, quoteChars] using hbody

theorem isIdentifierPart_of_isIdentifier {name : List Char} (h : isIdentifier name) :
    ∀ c ∈ name, isIdentifierPart c := by
  cases name with
  | nil => exact fun _ hmem ↦ absurd hmem List.not_mem_nil
  | cons c rest =>
    obtain ⟨hstart, hrest⟩ := Bool.and_eq_true_iff.mp h
    refine List.forall_mem_cons.mpr ⟨?_, List.all_eq_true.mp hrest⟩
    rw [isIdentifierPart, hstart, Bool.true_or]

theorem skipBlanks_identifier {name : List Char} (h : isIdentifier name) (rest : List Char) :
    skipBlanks (name ++ rest) = name ++ rest := by
  obtain ⟨c, tail, rfl, hstart⟩ := exists_eq_cons_of_isSpellable (isSpellable_of_isIdentifier h)
  have hblank : c ≠ ' ' := by
    rintro rfl
    exact absurd hstart (by decide)
  simp [skipBlanks, hblank]

/-- A bare key ends at its colon, since no identifier holds one. -/
theorem reads_identifierKey {name : List Char} (h : isIdentifier name) :
    Reads readKey? name (name ++ [':']) := by
  intro rest
  have hparts := isIdentifierPart_of_isIdentifier h
  have hcolon : isIdentifierPart ':' = false := by decide
  have htake : (name ++ ':' :: rest).takeWhile isIdentifierPart = name := by
    rw [List.takeWhile_append_of_pos hparts, List.takeWhile_cons_of_neg (by simp [hcolon]),
      List.append_nil]
  have hdrop : (name ++ ':' :: rest).dropWhile isIdentifierPart = ':' :: rest := by
    rw [List.dropWhile_append_of_pos hparts, List.dropWhile_cons_of_neg (by simp [hcolon])]
  have hname : readName? (name ++ ':' :: rest) = some (name, ':' :: rest) := by
    rw [readName?, htake, hdrop, if_pos h]
  rw [List.append_assoc, List.singleton_append, readKey?, skipBlanks_identifier h, hname]
  rfl

theorem reads_quotedKey (text : List Char) : Reads readKey? text (quoteChars text ++ [':']) := by
  intro rest
  have hname : readName? (quoteChars text ++ ':' :: rest) = some (text, ':' :: rest) :=
    reads_quoteChars text (':' :: rest)
  have hquote : skipBlanks (quoteChars text ++ ':' :: rest) = quoteChars text ++ ':' :: rest := rfl
  rw [List.append_assoc, List.singleton_append, readKey?, hquote, hname]
  rfl

/-- A key is read from either of its spellings. -/
theorem reads_keySource (name : List Char) :
    Reads readKey? (Style.key name) (Style.keySource name ++ [':']) := by
  unfold Style.keySource
  split
  · rename_i hname
    exact reads_identifierKey hname
  · exact reads_quotedKey (Style.key name)

variable {value? : Reader α}

/-- An entry can be read if its key and its value can. -/
theorem Reads.entry (hblank : ∀ source, value? (' ' :: source) = value? source)
    {key keySource valueSource : List Char} {value : α}
    (hkey : Reads readKey? key (keySource ++ [':'])) (hvalue : Reads value? value valueSource) :
    Reads (readPair? value?) (key, value) (' ' :: (keySource ++ ':' :: ' ' :: valueSource)) := by
  intro rest
  have hread : readKey? (' ' :: (keySource ++ ':' :: ' ' :: valueSource) ++ rest) =
      some (key, ' ' :: (valueSource ++ rest)) :=
    calc
      _ = readKey? (keySource ++ [':'] ++ ' ' :: (valueSource ++ rest)) := by
        simp [readKey?, skipBlanks]
      _ = some (key, ' ' :: (valueSource ++ rest)) := hkey _
  rw [readPair?, hread]
  simp only [Option.bind_eq_bind, Option.bind_some, hblank, hvalue rest]
  rfl

/-- No entry begins with the brace that closes an object. -/
theorem readPair?_close {source rest : List Char} (h : skipBlanks source = '}' :: rest) :
    readPair? value? source = none := by
  have hname : readName? ('}' :: rest) = none := rfl
  rw [readPair?, readKey?, h, hname]
  rfl

section Objects

variable {ι : Type} {entryOf : ι → List Char × α} {sourceOf : ι → List Char} {items : List ι}

/-- The induction over the entries of an object: a comma goes on with the next one, the brace ends
them. -/
theorem reads_entries {item : ι}
    (hitem : Reads (readPair? value?) (entryOf item) (' ' :: sourceOf item))
    (hitems : ∀ item ∈ items, Reads (readPair? value?) (entryOf item) (' ' :: sourceOf item)) :
    Reads (readPairs? value?) (entryOf item :: items.map entryOf)
      (' ' :: (sourceOf item ++ objectEnd (items.map sourceOf))) := by
  induction items generalizing item with
  | nil =>
    intro rest
    have hread : readPair? value? (' ' :: (sourceOf item ++ objectEnd []) ++ rest) =
        some (entryOf item, ' ' :: '}' :: rest) := by
      simpa [objectEnd] using hitem (' ' :: '}' :: rest)
    rw [List.map_nil, readPairs?, hread]
    rfl
  | cons next items ih =>
    intro rest
    obtain ⟨hnext, hitems⟩ := List.forall_mem_cons.mp hitems
    let behind := ' ' :: (sourceOf next ++ objectEnd (items.map sourceOf)) ++ rest
    have hread : readPair? value?
        (' ' :: (sourceOf item ++ objectEnd ((next :: items).map sourceOf)) ++ rest) =
          some (entryOf item, ',' :: behind) := by
      simpa [objectEnd, behind] using hitem (',' :: behind)
    have hlength : behind.length <
        (' ' :: (sourceOf item ++ objectEnd ((next :: items).map sourceOf)) ++ rest).length := by
      simp [objectEnd, behind]
      omega
    have hcomma : skipBlanks (',' :: behind) = ',' :: behind := rfl
    rw [readPairs?, hread]
    simp only [hcomma, if_pos hlength, behind, ih hnext hitems rest]
    rfl

/-- An object is read if its entries are. -/
theorem reads_objectSource
    (hitems : ∀ item ∈ items, Reads (readPair? value?) (entryOf item) (' ' :: sourceOf item)) :
    Reads (readObject? value?) (items.map entryOf) (Style.objectSource (items.map sourceOf)) := by
  intro rest
  cases items with
  | nil => rfl
  | cons item items =>
    obtain ⟨hitem, hitems⟩ := List.forall_mem_cons.mp hitems
    have hentries := reads_entries hitem hitems rest
    have hopen (inside : List Char) : readObject? value? ('{' :: inside) =
        readInside? value? inside := rfl
    rw [List.map_cons, List.map_cons, objectSource_cons, List.cons_append, hopen, readInside?]
    split
    · rename_i close hclose
      -- an object that seems to end here has no first entry to read
      rw [readPairs?, readPair?_close hclose] at hentries
      cases hentries
    · exact hentries

end Objects

/-! ## Style objects -/

def Style.entries (style : List Char) : List (List Char × List Char) :=
  ((declarations style).filterMap entry?).map fun entry ↦ (key entry.1, entry.2)

theorem reads_styleEntry (entry : List Char × List Char) :
    Reads (readPair? readLiteral?) (Style.key entry.1, entry.2)
      (' ' :: (Style.keySource entry.1 ++ ':' :: ' ' :: quoteChars entry.2)) :=
  Reads.entry (fun _ ↦ rfl) (reads_keySource entry.1) (reads_quoteChars entry.2)

/-- The object of an inline style is read with the declarations of the style as its entries. -/
theorem reads_source (style : List Char) :
    Reads (readObject? readLiteral?) (Style.entries style) (Style.source style) :=
  reads_objectSource fun entry _ ↦ reads_styleEntry entry

end MarkupIslands.Jsx
