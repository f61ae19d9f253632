/-!
# Blank characters

The Unicode property White_Space, and trimming by it. Inline style declarations are trimmed this
way, so a no-break space or an ideographic space at the end of a value is dropped as well.
-/

namespace MarkupIslands.Text

/-- Whether a character has the Unicode property White_Space. -/
def isBlank (c : Char) : Bool :=
  let n := c.toNat
  (0x09 ≤ n && n ≤ 0x0D) || n == 0x20 || n == 0x85 || n == 0xA0 || n == 0x1680 ||
    (0x2000 ≤ n && n ≤ 0x200A) || n == 0x2028 || n == 0x2029 || n == 0x202F || n == 0x205F ||
    n == 0x3000

/-- The text without the blank characters at its two ends. -/
def trim (text : List Char) : List Char :=
  ((text.dropWhile isBlank).reverse.dropWhile isBlank).reverse

theorem isBlank_of_isWhitespace {c : Char} (h : c.isWhitespace) : isBlank c := by
  simp only [Char.isWhitespace, Bool.or_eq_true, decide_eq_true_eq] at h
  rcases h with ((rfl | rfl) | rfl) | rfl <;> decide

@[simp]
theorem trim_nil : trim [] = [] := rfl

/-- A text whose two end characters are not blank is left as it is. -/
theorem trim_eq_self {text : List Char} (first : ∀ c, text.head? = some c → isBlank c = false)
    (last : ∀ c, text.getLast? = some c → isBlank c = false) : trim text = text := by
  cases text with
  | nil => rfl
  | cons c rest =>
    have hc : isBlank c = false := first c rfl
    have hdrop : (c :: rest).dropWhile isBlank = c :: rest := by simp [hc]
    obtain ⟨front, d, hfront⟩ : ∃ front d, c :: rest = front ++ [d] :=
      ⟨_, _, (List.dropLast_concat_getLast (List.cons_ne_nil c rest)).symm⟩
    have hd : isBlank d = false := last d (by simp [hfront])
    rw [trim, hdrop, hfront]
    simp [hd]

end MarkupIslands.Text
