import MarkupIslands.Proofs.Text.Quoted
import MarkupIslands.Text.Search

/-!
# Searching written text

Where a part can stand in a text that is put together from pieces. A character that does not occur
in the part keeps the pieces around it apart, and a piece without the first character of the part
plays no role. Escaping a text does not change whether a part without escaped characters stands in
it.
-/

namespace MarkupIslands.Text

variable {part : List Char}

theorem holds_nil (hpart : part ≠ []) : holds part [] = false := by
  rwa [holds, List.isEmpty_eq_false_iff]

theorem isPrefixOf_append_cons {c : Char} (hc : c ∉ part) (text rest : List Char) :
    part.isPrefixOf (text ++ c :: rest) = part.isPrefixOf text := by
  induction text generalizing part with
  | nil =>
    cases part with
    | nil => rfl
    | cons p part =>
      have hne : p ≠ c := fun h ↦ hc (h ▸ List.mem_cons_self)
      rw [List.nil_append, List.isPrefixOf_cons_cons, beq_false_of_ne hne]
      rfl
  | cons d text ih =>
    cases part with
    | nil => rfl
    | cons p part =>
      rw [List.cons_append, List.isPrefixOf_cons_cons, List.isPrefixOf_cons_cons,
        ih fun h ↦ hc (List.mem_cons_of_mem _ h)]

/-- A part without `c` does not stand across a `c`. -/
theorem holds_append_cons {c : Char} (hc : c ∉ part) (text rest : List Char) :
    holds part (text ++ c :: rest) = (holds part text || holds part rest) := by
  induction text with
  | nil =>
    have hprefix : part.isPrefixOf (c :: rest) = part.isPrefixOf [] :=
      isPrefixOf_append_cons hc [] rest
    rw [List.nil_append, holds, holds, hprefix]
    cases part <;> rfl
  | cons d text ih =>
    rw [List.cons_append, holds, holds, ih, ← List.cons_append, isPrefixOf_append_cons hc,
      Bool.or_assoc]

theorem holds_cons {c : Char} (hpart : part ≠ []) (hc : c ∉ part) (rest : List Char) :
    holds part (c :: rest) = holds part rest := by
  simpa [holds_nil hpart] using holds_append_cons hc [] rest

/-- A text that begins with a character outside of the part is kept apart from what it follows. -/
theorem holds_append_of_head {rest : List Char} (hpart : part ≠ [])
    (hrest : ∀ c, rest.head? = some c → c ∉ part) (text : List Char) :
    holds part (text ++ rest) = (holds part text || holds part rest) := by
  cases rest with
  | nil => rw [List.append_nil, holds_nil hpart, Bool.or_false]
  | cons c rest =>
    have hc : c ∉ part := hrest c rfl
    rw [holds_append_cons hc, holds_cons hpart hc]

/-- A text without the first character of the part plays no role. -/
theorem holds_append_of_not_mem {first : Char} {tail text : List Char} (h : first ∉ text)
    (rest : List Char) : holds (first :: tail) (text ++ rest) = holds (first :: tail) rest := by
  induction text with
  | nil => rfl
  | cons c text ih =>
    obtain ⟨hne, hmem⟩ := List.ne_and_not_mem_of_not_mem_cons h
    rw [List.cons_append, holds, ih hmem, List.isPrefixOf_cons_cons, beq_false_of_ne hne,
      Bool.false_and, Bool.false_or]

/-- No part is found in a text that lacks its first character. -/
theorem holds_eq_false_of_not_mem {first : Char} {tail text : List Char} (h : first ∉ text) :
    holds (first :: tail) text = false := by
  have hend : holds (first :: tail) (text ++ []) = _ := holds_append_of_not_mem h []
  rwa [List.append_nil, holds_nil (List.cons_ne_nil _ _)] at hend

/-- A part without commas stands in one of the entries of a list. -/
theorem holds_intercalate (hpart : part ≠ []) (hcomma : ',' ∉ part) (hspace : ' ' ∉ part)
    (entries : List (List Char)) :
    holds part (", ".toList.intercalate entries) = entries.any (holds part) := by
  induction entries with
  | nil => exact holds_nil hpart
  | cons entry entries ih =>
    cases entries with
    | nil => simp
    | cons other entries =>
      have hseparator : ", ".toList ++ ", ".toList.intercalate (other :: entries) =
          ',' :: ([] ++ ' ' :: ", ".toList.intercalate (other :: entries)) := rfl
      rw [List.any_cons, List.intercalate_cons_cons, List.append_assoc, hseparator,
        holds_append_cons hcomma, holds_append_cons hspace, ih, holds_nil hpart, Bool.false_or]

/-! ## Escaped text -/

/-- Escapes begin with a backslash, so a part without escaped characters begins both or none. -/
theorem isPrefixOf_flatMap_escape (hpart : ∀ c ∈ part, escape c = [c]) (text : List Char) :
    part.isPrefixOf (text.flatMap escape) = part.isPrefixOf text := by
  induction part generalizing text with
  | nil => rfl
  | cons p part ih =>
    cases text with
    | nil => rfl
    | cons c text =>
      rw [List.flatMap_cons, List.isPrefixOf_cons_cons]
      rcases escape_eq c with h | ⟨code, h, -⟩
      · rw [h, List.singleton_append, List.isPrefixOf_cons_cons,
          ih fun c hc ↦ hpart c (List.mem_cons_of_mem _ hc)]
      · have hbackslash : p ≠ '\\' := by
          rintro rfl
          exact absurd (hpart _ List.mem_cons_self) (by decide)
        have hc : p ≠ c := by
          rintro rfl
          rw [hpart _ List.mem_cons_self] at h
          exact hbackslash (List.cons.inj h).1
        rw [h, List.cons_append, List.isPrefixOf_cons_cons, beq_false_of_ne hbackslash,
          beq_false_of_ne hc, Bool.false_and, Bool.false_and]

/-- Escaping neither makes nor breaks a part that begins with `<` and needs no escaping. -/
theorem holds_flatMap_escape {tail : List Char} (hpart : ∀ c ∈ '<' :: tail, escape c = [c])
    (text : List Char) : holds ('<' :: tail) (text.flatMap escape) = holds ('<' :: tail) text := by
  induction text with
  | nil => rfl
  | cons c text ih =>
    rcases escape_eq c with h | ⟨code, h, hcode⟩
    · have hprefix := isPrefixOf_flatMap_escape hpart (c :: text)
      rw [List.flatMap_cons, h, List.singleton_append] at hprefix ⊢
      rw [holds, holds, hprefix, ih]
    · have hc : c ≠ '<' := by
        rintro rfl
        cases h
      have hcode : '<' ∉ '\\' :: code := List.not_mem_cons_of_ne_of_not_mem (by decide) hcode
      rw [List.flatMap_cons, h, holds_append_of_not_mem hcode, ih, holds,
        List.isPrefixOf_cons_cons, beq_false_of_ne hc.symm, Bool.false_and, Bool.false_or]

/-- A text stands in its literal as it stands by itself. -/
theorem holds_quoteChars {tail : List Char} (hpart : ∀ c ∈ '<' :: tail, escape c = [c])
    (text : List Char) : holds ('<' :: tail) (quoteChars text) = holds ('<' :: tail) text := by
  have hquote : '"' ∉ '<' :: tail := fun h ↦ absurd (hpart _ h) (by decide)
  rw [quoteChars, List.cons_append, holds_cons (List.cons_ne_nil _ _) hquote,
    holds_append_cons hquote, holds_flatMap_escape hpart, holds_nil (List.cons_ne_nil _ _),
    Bool.or_false]

end MarkupIslands.Text
