import MarkupIslands.Text.Quoted

/-!
# Reading string literals

A string literal is read as the text it was written for, and reading stops right behind it. So the
text and what follows the literal can be told from the written characters.
-/

namespace MarkupIslands.Text

/-! ## Single characters -/

theorem hexDigit_ne_lt (n : Nat) : hexDigit n ≠ '<' := by
  have hdigits : ∀ k < 16, Nat.digitChar k ≠ '<' := by decide
  exact hdigits (n % 16) (Nat.mod_lt n (by decide))

theorem hexValue?_hexDigit (n : Nat) : hexValue? (hexDigit n) = some (n % 16) := by
  have hdigits : ∀ k < 16, hexValue? (Nat.digitChar k) = some k := by decide
  exact hdigits (n % 16) (Nat.mod_lt n (by decide))

/-- A character is written as it is, by a short escape or by the code of a control character. -/
theorem escape_cases (c : Char) :
    (escape c = [c] ∧ c ≠ '"' ∧ c ≠ '\\' ∧ 0x20 ≤ c.toNat) ∨
      (∃ code, escape c = ['\\', code] ∧ unescape? code = some c) ∨
      (c.toNat < 0x20 ∧
        escape c = ['\\', 'u', '0', '0', hexDigit (c.toNat / 16), hexDigit c.toNat]) := by
  fun_cases escape c with
  | case8 _ _ _ _ _ _ _ hcode => exact .inr (.inr ⟨hcode, rfl⟩)
  | case9 hquote hbackslash _ _ _ _ _ hcode =>
    exact .inl ⟨rfl, hquote, hbackslash, Nat.le_of_not_lt hcode⟩
  | _ =>
    subst_vars
    exact .inr (.inl ⟨_, rfl, rfl⟩)

/-- A character that is escaped is written with a backslash and characters that mark nothing up. -/
theorem escape_eq (c : Char) :
    escape c = [c] ∨ ∃ code, escape c = '\\' :: code ∧ '<' ∉ code := by
  rcases escape_cases c with ⟨h, -⟩ | ⟨code, h, hcode⟩ | ⟨-, h⟩
  · exact .inl h
  · refine .inr ⟨_, h, fun hmem ↦ ?_⟩
    obtain rfl := List.mem_singleton.mp hmem
    cases hcode
  · exact .inr ⟨_, h, by simp [(hexDigit_ne_lt _).symm]⟩

/-- A control character is read back from the digits of its code. -/
theorem hexValues?_of_lt {c : Char} (h : c.toNat < 0x20) :
    hexValues? '0' '0' (hexDigit (c.toNat / 16)) (hexDigit c.toNat) = some c.toNat := by
  have hzero : hexValue? '0' = some 0 := by decide
  simp only [hexValues?, hzero, hexValue?_hexDigit, Option.bind_eq_bind, Option.bind_some]
  rw [Option.pure_def, Option.some.injEq]
  omega

/-! ## Whole literals -/

theorem unquoteBody?_plain {c : Char} (hquote : c ≠ '"') (hbackslash : c ≠ '\\')
    (h : 0x20 ≤ c.toNat) (rest : List Char) :
    unquoteBody? (c :: rest) = (unquoteBody? rest).map fun (text, rest) ↦ (c :: text, rest) := by
  rw [unquoteBody?, if_neg (Nat.not_lt.mpr h)]
  · exact hquote
  · intro _ _ _ _ _ hc _
    exact hbackslash hc
  · intro _ _ hc _
    exact hbackslash hc

theorem unquoteBody?_short {code c : Char} (h : unescape? code = some c) (rest : List Char) :
    unquoteBody? ('\\' :: code :: rest) =
      (unquoteBody? rest).map fun (text, rest) ↦ (c :: text, rest) := by
  rw [unquoteBody?, h]
  · cases unquoteBody? rest <;> rfl
  · rintro _ _ _ _ _ rfl
    cases h

theorem unquoteBody?_code {c : Char} (h : c.toNat < 0x20) (rest : List Char) :
    unquoteBody?
        ('\\' :: 'u' :: '0' :: '0' :: hexDigit (c.toNat / 16) :: hexDigit c.toNat :: rest) =
      (unquoteBody? rest).map fun (text, rest) ↦ (c :: text, rest) := by
  have hcode : c.toNat < 0xD800 := by omega
  rw [unquoteBody?, hexValues?_of_lt h]
  simp only [Option.bind_eq_bind, Option.bind_some, hcode, decide_true, Bool.true_or, if_true,
    Char.ofNat_toNat]
  cases unquoteBody? rest <;> rfl

/-- The first character inside a literal is read from its written form. -/
theorem unquoteBody?_escape (c : Char) (rest : List Char) :
    unquoteBody? (escape c ++ rest) =
      (unquoteBody? rest).map fun (text, rest) ↦ (c :: text, rest) := by
  rcases escape_cases c with ⟨h, hquote, hbackslash, hcode⟩ | ⟨code, h, hcode⟩ | ⟨hcode, h⟩
  · rw [h]
    exact unquoteBody?_plain hquote hbackslash hcode rest
  · rw [h]
    exact unquoteBody?_short hcode rest
  · rw [h]
    exact unquoteBody?_code hcode rest

/-- The inside of a literal is read up to its closing quote. -/
theorem unquoteBody?_flatMap_escape (text rest : List Char) :
    unquoteBody? (text.flatMap escape ++ '"' :: rest) = some (text, rest) := by
  induction text with
  | nil => rw [List.flatMap_nil, List.nil_append, unquoteBody?]
  | cons c text ih =>
    rw [List.flatMap_cons, List.append_assoc, unquoteBody?_escape, ih, Option.map_some]

/-- A literal denotes the text that it was made from. -/
theorem unquote?_quote (text : String) : unquote? (quote text) = some text := by
  have hbody := unquoteBody?_flatMap_escape text.toList []
  simp only [unquote?, toList_quote, quoteChars, List.cons_append, hbody, String.ofList_toList]

end MarkupIslands.Text
