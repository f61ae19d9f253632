import MarkupIslands.Markup.Html
import MarkupIslands.Proofs.Text.Delimited

/-!
# Escaped texts

What the written forms of texts and property values do and do not hold: no bracket in a text, no
quote in a value. Both can be told from their written forms, and a text without markup characters is
written as it is.
-/

namespace MarkupIslands.Markup.Html

open MarkupIslands.Text

variable {c : Char}

/-- The characters that have a written form of their own in texts. -/
def isMarkupChar (c : Char) : Bool := c == '&' || c == '<' || c == '>'

theorem escapeText_of_not_isMarkupChar (h : isMarkupChar c = false) : escapeText c = [c] := by
  simp only [isMarkupChar, Bool.or_eq_false_iff, beq_eq_false_iff_ne] at h
  rw [escapeText, if_neg h.1.1, if_neg h.1.2, if_neg h.2]

/-- A character of a text is written as it is or by a reference. -/
theorem escapeText_cases (c : Char) :
    (isMarkupChar c = false ∧ escapeText c = [c]) ∨
      (c = '&' ∧ escapeText c = "&amp;".toList) ∨ (c = '<' ∧ escapeText c = "&lt;".toList) ∨
        (c = '>' ∧ escapeText c = "&gt;".toList) := by
  by_cases hc : isMarkupChar c
  · simp only [isMarkupChar, Bool.or_eq_true, beq_iff_eq] at hc
    rcases hc with (rfl | rfl) | rfl
    · exact .inr (.inl ⟨rfl, rfl⟩)
    · exact .inr (.inr (.inl ⟨rfl, rfl⟩))
    · exact .inr (.inr (.inr ⟨rfl, rfl⟩))
  · have hplain := Bool.eq_false_iff.mpr hc
    exact .inl ⟨hplain, escapeText_of_not_isMarkupChar hplain⟩

/-- A character of a value is a quote or written like one of a text. -/
theorem escapeValue_cases (c : Char) :
    (c = '"' ∧ escapeValue c = "&quot;".toList) ∨
      (c ≠ '"' ∧ escapeValue c = escapeText c) := by
  by_cases hc : c = '"'
  · exact .inl ⟨hc, if_pos hc⟩
  · exact .inr ⟨hc, if_neg hc⟩

/-! ## What is not written -/

theorem escapeText_ne_nil (c : Char) : escapeText c ≠ [] := by
  rcases escapeText_cases c with ⟨-, h⟩ | ⟨-, h⟩ | ⟨-, h⟩ | ⟨-, h⟩ <;> simp [h]

theorem escapeValue_ne_nil (c : Char) : escapeValue c ≠ [] := by
  rcases escapeValue_cases c with ⟨-, h⟩ | ⟨-, h⟩
  · simp [h]
  · rw [h]
    exact escapeText_ne_nil c

theorem bracket_not_mem_escapeText (c : Char) : '<' ∉ escapeText c := by
  rcases escapeText_cases c with ⟨hc, h⟩ | ⟨-, h⟩ | ⟨-, h⟩ | ⟨-, h⟩
  · rw [h, List.mem_singleton]
    rintro rfl
    exact absurd hc (by decide)
  all_goals
    rw [h]
    decide

theorem quote_not_mem_escapeValue (c : Char) : '"' ∉ escapeValue c := by
  rcases escapeValue_cases c with ⟨-, h⟩ | ⟨hc, h⟩
  · rw [h]
    decide
  · rw [h]
    rcases escapeText_cases c with ⟨-, h⟩ | ⟨-, h⟩ | ⟨-, h⟩ | ⟨-, h⟩
    · rw [h, List.mem_singleton]
      exact fun heq ↦ hc heq.symm
    all_goals
      rw [h]
      decide

def referenceChars : List Char := "&amp;&lt;&gt;&quot;".toList

variable {d : Char}

/-- A character that no reference is made of is written for itself only. -/
theorem not_mem_escapeText (hne : d ≠ c) (hd : d ∉ referenceChars) : d ∉ escapeText c := by
  have hreference {reference : List Char} (h : reference ⊆ referenceChars) : d ∉ reference :=
    fun hmem ↦ hd (h hmem)
  rcases escapeText_cases c with ⟨-, h⟩ | ⟨-, h⟩ | ⟨-, h⟩ | ⟨-, h⟩
  · rw [h]
    exact fun hmem ↦ hne (List.mem_singleton.mp hmem)
  all_goals
    rw [h]
    exact hreference (by decide)

theorem not_mem_escapeValue (hne : d ≠ c) (hd : d ∉ referenceChars) : d ∉ escapeValue c := by
  rcases escapeValue_cases c with ⟨-, h⟩ | ⟨-, h⟩
  · have hquote : "&quot;".toList ⊆ referenceChars := by decide
    rw [h]
    exact fun hmem ↦ hd (hquote hmem)
  · rw [h]
    exact not_mem_escapeText hne hd

theorem not_mem_flatMap_escapeText {text : List Char} (htext : d ∉ text)
    (hd : d ∉ referenceChars) : d ∉ text.flatMap escapeText := by
  intro hmem
  obtain ⟨c, hc, hmem⟩ := List.mem_flatMap.mp hmem
  have hne : d ≠ c := fun heq ↦ htext (heq ▸ hc)
  exact not_mem_escapeText hne hd hmem

theorem not_mem_flatMap_escapeValue {text : List Char} (htext : d ∉ text)
    (hd : d ∉ referenceChars) : d ∉ text.flatMap escapeValue := by
  intro hmem
  obtain ⟨c, hc, hmem⟩ := List.mem_flatMap.mp hmem
  have hne : d ≠ c := fun heq ↦ htext (heq ▸ hc)
  exact not_mem_escapeValue hne hd hmem

theorem bracket_not_mem_flatMap_escapeText (text : List Char) :
    '<' ∉ text.flatMap escapeText := by
  intro hmem
  obtain ⟨c, -, hc⟩ := List.mem_flatMap.mp hmem
  exact bracket_not_mem_escapeText c hc

theorem quote_not_mem_flatMap_escapeValue (value : List Char) :
    '"' ∉ value.flatMap escapeValue := by
  intro hmem
  obtain ⟨c, -, hc⟩ := List.mem_flatMap.mp hmem
  exact quote_not_mem_escapeValue c hc

/-! ## Telling characters apart -/

/-- The character whose written form a text begins with. -/
def firstOf : List Char → Option Char
  | '&' :: 'a' :: _ => some '&'
  | '&' :: 'l' :: _ => some '<'
  | '&' :: 'g' :: _ => some '>'
  | '&' :: 'q' :: _ => some '"'
  | c :: _ => some c
  | [] => none

theorem firstOf_cons (hc : c ≠ '&') (x : List Char) : firstOf (c :: x) = some c := by
  unfold firstOf
  split <;> simp_all

theorem firstOf_escapeText (c : Char) (x : List Char) : firstOf (escapeText c ++ x) = some c := by
  rcases escapeText_cases c with ⟨hc, h⟩ | ⟨rfl, h⟩ | ⟨rfl, h⟩ | ⟨rfl, h⟩
  · rw [h]
    apply firstOf_cons
    rintro rfl
    exact absurd hc (by decide)
  all_goals
    rw [h]
    rfl

theorem firstOf_escapeValue (c : Char) (x : List Char) :
    firstOf (escapeValue c ++ x) = some c := by
  rcases escapeValue_cases c with ⟨rfl, h⟩ | ⟨-, h⟩
  · rfl
  · rw [h, firstOf_escapeText]

variable {text other : List Char}

/-- Escaped texts tell their texts apart. -/
theorem flatMap_escapeText_inj (h : text.flatMap escapeText = other.flatMap escapeText) :
    text = other := by
  apply flatMap_inj escapeText_ne_nil _ h
  intro c d x y hcd
  have hfirst := congrArg firstOf hcd
  rwa [firstOf_escapeText, firstOf_escapeText, Option.some.injEq] at hfirst

/-- Escaped values tell their values apart. -/
theorem flatMap_escapeValue_inj (h : text.flatMap escapeValue = other.flatMap escapeValue) :
    text = other := by
  apply flatMap_inj escapeValue_ne_nil _ h
  intro c d x y hcd
  have hfirst := congrArg firstOf hcd
  rwa [firstOf_escapeValue, firstOf_escapeValue, Option.some.injEq] at hfirst

/-! ## Texts that are written as they are -/

theorem one_lt_length_escapeText (hc : isMarkupChar c) : 1 < (escapeText c).length := by
  rcases escapeText_cases c with ⟨hplain, -⟩ | ⟨-, h⟩ | ⟨-, h⟩ | ⟨-, h⟩
  · exact absurd hc (Bool.eq_false_iff.mp hplain)
  all_goals
    rw [h]
    decide

/-- A text is written as it is exactly if it has no markup characters. -/
theorem flatMap_escapeText_eq_self_iff :
    text.flatMap escapeText = text ↔ ∀ c ∈ text, isMarkupChar c = false := by
  induction text with
  | nil => simp
  | cons c text ih =>
    rw [List.flatMap_cons, List.forall_mem_cons]
    by_cases hc : isMarkupChar c
    · refine iff_of_false (fun heq ↦ ?_) fun hplain ↦ Bool.eq_false_iff.mp hplain.1 hc
      have hlengths := congrArg List.length heq
      rw [List.length_append, List.length_cons] at hlengths
      have hrest := length_le_flatMap escapeText_ne_nil text
      have hlong := one_lt_length_escapeText hc
      omega
    · have hplain := Bool.eq_false_iff.mpr hc
      rw [escapeText_of_not_isMarkupChar hplain, List.singleton_append, List.cons.injEq, ih]
      simp [hplain]

end MarkupIslands.Markup.Html
