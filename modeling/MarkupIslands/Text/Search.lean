/-!
# Searching a text

Whether a text holds another one as a run of adjacent characters.
-/

namespace MarkupIslands.Text

/-- Whether `part` stands somewhere in a list of characters. -/
def holds (part : List Char) : List Char → Bool
  | [] => part.isEmpty
  | c :: rest => part.isPrefixOf (c :: rest) || holds part rest

/-- The search finds exactly the parts of a text. -/
theorem holds_iff_isInfix (part text : List Char) : holds part text ↔ part <:+: text := by
  induction text with
  | nil => simp [holds]
  | cons c rest ih =>
    rw [holds, Bool.or_eq_true, List.isPrefixOf_iff_prefix, ih, List.infix_cons_iff]

def contains (text part : String) : Bool := holds part.toList text.toList

end MarkupIslands.Text
