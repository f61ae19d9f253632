import MarkupIslands.Proofs.Text.PrefixFree

/-!
# Texts up to a delimiter

A text that does not hold a delimiter ends where the delimiter first stands behind it, provided that
the delimiter does not overlap with itself. A text written character by character can be read back
if the written forms of different characters never begin in the same way.
-/

namespace MarkupIslands.Text

variable {u v x y : List Char}

/-- No part of the text is both a beginning and an end of it. -/
def IsUnbordered (text : List Char) : Prop :=
  ∀ part, part <+: text → part <:+ text → part = [] ∨ part = text

/-- A text whose first character does not come again does not overlap with itself. -/
theorem isUnbordered_cons {c : Char} {rest : List Char} (h : c ∉ rest) :
    IsUnbordered (c :: rest) := by
  intro part hprefix hsuffix
  rcases List.prefix_cons_iff.mp hprefix with rfl | ⟨tail, rfl, -⟩
  · exact .inl rfl
  · rcases List.suffix_cons_iff.mp hsuffix with heq | htail
    · exact .inr heq
    · exact absurd (htail.subset List.mem_cons_self) h

/-- A text whose last character does not come before does not overlap with itself. -/
theorem isUnbordered_concat {c : Char} {start : List Char} (h : c ∉ start) :
    IsUnbordered (start ++ [c]) := by
  intro part hprefix hsuffix
  rcases List.suffix_concat_iff.mp hsuffix with rfl | ⟨init, rfl, -⟩
  · exact .inl rfl
  · rcases List.prefix_concat_iff.mp hprefix with heq | hinit
    · exact .inr heq
    · exact absurd (hinit.subset (List.mem_append_right _ List.mem_cons_self)) h

variable {stop : List Char}

/-- What is left over between two places of the delimiter is nothing. -/
theorem eq_nil_of_delimiter {between : List Char} (hstop : IsUnbordered stop)
    (hbetween : ¬ stop <:+: u ++ between) (heq : stop ++ x = between ++ (stop ++ y)) :
    between = [] := by
  rcases List.append_eq_append_iff.mp heq with ⟨rest, rfl, -⟩ | ⟨rest, rfl, hrest⟩
  · exact absurd ⟨u, rest, List.append_assoc u stop rest⟩ hbetween
  · have hprefix : rest <+: between ++ rest := by
      apply List.prefix_of_prefix_length_le ⟨x, hrest.symm⟩ (List.prefix_append _ y)
      simp
    rcases hstop rest hprefix (List.suffix_append between rest) with rfl | hself
    · exact absurd ⟨u, [], by simp⟩ hbetween
    · exact List.append_left_eq_self.mp hself.symm

/-- Two texts without the delimiter are the same if the delimiter stands behind both. -/
theorem append_inj_of_delimiter (hstop : IsUnbordered stop) (hu : ¬ stop <:+: u)
    (hv : ¬ stop <:+: v) (heq : u ++ (stop ++ x) = v ++ (stop ++ y)) : u = v ∧ x = y := by
  have huv : u = v := by
    rcases List.append_eq_append_iff.mp heq with ⟨between, rfl, hrest⟩ | ⟨between, rfl, hrest⟩
    · rw [eq_nil_of_delimiter hstop hv hrest, List.append_nil]
    · rw [eq_nil_of_delimiter hstop hu hrest, List.append_nil]
  subst huv
  exact ⟨rfl, List.append_cancel_left (List.append_cancel_left heq)⟩

/-- A text is told from its written form if the first character is. -/
theorem flatMap_inj {write : Char → List Char} (hne : ∀ c, write c ≠ [])
    (hfirst : ∀ {c d : Char} {x y : List Char}, write c ++ x = write d ++ y → c = d)
    (heq : u.flatMap write = v.flatMap write) : u = v := by
  induction u generalizing v with
  | nil =>
    cases v with
    | nil => rfl
    | cons d v => simp [hne] at heq
  | cons c u ih =>
    cases v with
    | nil => simp [hne] at heq
    | cons d v =>
      rw [List.flatMap_cons, List.flatMap_cons] at heq
      obtain rfl := hfirst heq
      rw [ih (List.append_cancel_left heq)]

end MarkupIslands.Text
