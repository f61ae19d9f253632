/-!
# Portions of a text

A long text is taken in portion by portion, each with the same number of bytes of UTF-8. No
character is cut: one that stands across the end of a portion begins a short portion of its own,
which also takes the characters after it as long as they fit. A place knows how the character that
stands there relates to the portions.
-/

namespace MarkupIslands.Text

def portionSize : Nat := 4096

/-- The bytes of a short portion; any single character fits. -/
def shortPortionSize : Nat := 4

/-- A place in a text that is taken in portion by portion. -/
structure Place where
  /-- The bytes from here to the next end of a full portion. -/
  room : Nat := portionSize
  /-- The bytes that a short portion has left; none outside of one. -/
  spare : Nat := 0
  /-- Whether a portion ends right before this place. -/
  isFresh : Bool := true
deriving DecidableEq, Repr

namespace Place

/-- Whether a character at this place begins a portion. -/
def begins (place : Place) (c : Char) : Bool :=
  place.isFresh || (if place.spare = 0 then place.room else place.spare) < c.utf8Size

def advance (place : Place) (c : Char) : Place :=
  let size := c.utf8Size
  if size ≤ place.spare then ⟨place.room - size, place.spare - size, size == place.spare⟩
  else if size < place.room then ⟨place.room - size, 0, false⟩
  else if size = place.room then {}
  else ⟨portionSize + place.room - size, shortPortionSize - size, size == shortPortionSize⟩

end Place

end MarkupIslands.Text
