import MarkupIslands.Jsx.AttributeName
import MarkupIslands.Text.Blank
import MarkupIslands.Text.Quoted

/-!
# Inline styles as objects

An inline style is a list of declarations, and component frameworks take it as an object with one
entry for each declaration. Declarations end at semicolons outside quotes and parentheses; a
backslash takes the character after it out of play. A declaration without a colon, a name or a
value is dropped.
-/

namespace MarkupIslands.Jsx.Style

open MarkupIslands.Text

/-- What a declaration list has left open at some point. -/
structure Scan where
  quote : Option Char := none
  depth : Nat := 0
  escaped : Bool := false
deriving DecidableEq, Repr

namespace Scan

/-- What is open after one more character. -/
def next (scan : Scan) (c : Char) : Scan :=
  if scan.escaped then { scan with escaped := false }
  else if c = '\\' then { scan with escaped := true }
  else
    match scan.quote with
    | some opening => if c = opening then { scan with quote := none } else scan
    | none =>
      if c = '"' || c = '\'' then { scan with quote := some c }
      else if c = '(' then { scan with depth := scan.depth + 1 }
      else if c = ')' then { scan with depth := scan.depth - 1 }
      else scan

/-- Whether nothing is open, so that a semicolon ends the declaration. -/
def isClosed (scan : Scan) : Bool :=
  !scan.escaped && scan.quote.isNone && scan.depth == 0

end Scan

/-- The pieces between the semicolons that end declarations. There is always at least one. -/
def split (scan : Scan) : List Char → List (List Char)
  | [] => [[]]
  | c :: rest =>
    if c = ';' && scan.isClosed then [] :: split scan rest
    else
      match split (scan.next c) rest with
      | [] => [[c]]
      | piece :: pieces => (c :: piece) :: pieces

/-- The declarations of an inline style, blanks and empty ones included. -/
def declarations (style : List Char) : List (List Char) := split {} style

/-- The byte offsets between which the declarations stand, where the current one begins at `start`
and the rest of the style at `offset`. The next declaration begins one byte behind its semicolon. -/
def cuts (scan : Scan) (start offset : Nat) : List Char → List (Nat × Nat)
  | [] => [(start, offset)]
  | c :: rest =>
    if c = ';' && scan.isClosed then
      (start, offset) :: cuts scan (offset + 1) (offset + c.utf8Size) rest
    else cuts (scan.next c) start (offset + c.utf8Size) rest

/-- The name and the value of a declaration, parted at its first colon. -/
def entry? (declaration : List Char) : Option (List Char × List Char) :=
  match declaration.dropWhile (· != ':') with
  | [] => none
  | _ :: value =>
    let name := trim (declaration.takeWhile (· != ':'))
    let value := trim value
    if name.isEmpty || value.isEmpty then none else some (name, value)

/-- Joins words written with dashes: a dash before a small letter goes and the letter is
capitalised. -/
def camel : List Char → List Char
  | '-' :: c :: rest => if c.isLower then c.toUpper :: camel rest else '-' :: camel (c :: rest)
  | c :: rest => c :: camel rest
  | [] => []

/-- The object key of a style property. Custom properties keep their name; every other name is
lowered and joined, with the `ms` vendor prefix in small letters. -/
def key (name : List Char) : List Char :=
  if ['-', '-'].isPrefixOf name then name
  else
    let lower := name.map Char.toLower
    camel (if "-ms-".toList.isPrefixOf lower then lower.drop 1 else lower)

/-- The source of an object key: bare if it is an identifier and no custom property, quoted
otherwise. -/
def keySource (name : List Char) : List Char :=
  if isIdentifier (key name) then key name else quoteChars (key name)

def objectSource (entries : List (List Char)) : List Char :=
  if entries.isEmpty then ['{', '}']
  else '{' :: ' ' :: (", ".toList).intercalate entries ++ [' ', '}']

def source (style : List Char) : List Char :=
  objectSource <| ((declarations style).filterMap entry?).map fun (name, value) ↦
    keySource name ++ ':' :: ' ' :: quoteChars value

/-- Joining the pieces with semicolons gives the text back. -/
theorem intercalate_split (scan : Scan) (style : List Char) :
    [';'].intercalate (split scan style) = style := by
  induction style generalizing scan with
  | nil => rfl
  | cons c rest ih =>
    have hne (scan : Scan) : split scan rest ≠ [] := by
      cases rest with
      | nil => simp [split]
      | cons d rest =>
        simp only [split]
        split
        · simp
        · split <;> simp
    simp only [split]
    split
    · rename_i h
      simp only [Bool.and_eq_true, decide_eq_true_eq] at h
      obtain ⟨piece, pieces, hsplit⟩ := List.exists_cons_of_ne_nil (hne scan)
      have := ih scan
      rw [hsplit] at this ⊢
      simp [List.intercalate, h.1] at this ⊢
      exact this
    · obtain ⟨piece, pieces, hsplit⟩ := List.exists_cons_of_ne_nil (hne (scan.next c))
      have := ih (scan.next c)
      rw [hsplit] at this ⊢
      cases pieces <;> simp [List.intercalate] at this ⊢ <;> exact this

end MarkupIslands.Jsx.Style
