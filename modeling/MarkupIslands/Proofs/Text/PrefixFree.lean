import Mathlib.Computability.Language
import MarkupIslands.Proofs.Text.Quoted

/-!
# Prefix-free languages

If no word of a language begins another one, then a word can be told from what follows it. Such
languages can be put together one after the other, and side by side if the first character tells
which one a word belongs to. String literals are such a language.
-/

namespace MarkupIslands.Text

variable {first second : Language Char} {u v x y : List Char}

/-- No word of the language begins another one. -/
def PrefixFree (words : Language Char) : Prop :=
  ∀ u ∈ words, ∀ v ∈ words, ∀ x y : List Char, u ++ x = v ++ y → u = v

theorem PrefixFree.append_inj (h : PrefixFree first) (hu : u ∈ first) (hv : v ∈ first)
    (heq : u ++ x = v ++ y) : u = v ∧ x = y := by
  obtain rfl := h u hu v hv x y heq
  exact ⟨rfl, List.append_cancel_left heq⟩

theorem prefixFree_singleton (word : List Char) : PrefixFree {word} := by
  rintro u rfl v rfl x y -
  rfl

/-- The words of one prefix-free language followed by those of another. -/
theorem PrefixFree.mul (hfirst : PrefixFree first) (hsecond : PrefixFree second) :
    PrefixFree (first * second) := by
  rintro _ ⟨u, hu, u', hu', rfl⟩ _ ⟨v, hv, v', hv', rfl⟩ x y heq
  simp only [List.append_assoc] at heq
  obtain ⟨rfl, hrest⟩ := hfirst.append_inj hu hv heq
  rw [(hsecond.append_inj hu' hv' hrest).1]

/-- Every word begins with a character that satisfies the predicate. -/
def BeginsWith (words : Language Char) (p : Char → Prop) : Prop :=
  ∀ word ∈ words, ∃ c rest, word = c :: rest ∧ p c

variable {p q : Char → Prop}

theorem BeginsWith.mul (h : BeginsWith first p) : BeginsWith (first * second) p := by
  rintro _ ⟨u, hu, v, -, rfl⟩
  obtain ⟨c, rest, rfl, hc⟩ := h u hu
  exact ⟨c, rest ++ v, rfl, hc⟩

theorem BeginsWith.add (hfirst : BeginsWith first p) (hsecond : BeginsWith second p) :
    BeginsWith (first + second) p := by
  rintro word (hword | hword)
  · exact hfirst word hword
  · exact hsecond word hword

theorem BeginsWith.mono (h : BeginsWith first p) (himp : ∀ c, p c → q c) :
    BeginsWith first q := by
  intro word hword
  obtain ⟨c, rest, rfl, hc⟩ := h word hword
  exact ⟨c, rest, rfl, himp c hc⟩

/-- Two prefix-free languages side by side, told apart by the first character. -/
theorem PrefixFree.add (hfirst : PrefixFree first) (hsecond : PrefixFree second)
    (hp : BeginsWith first p) (hq : BeginsWith second q) (hpq : ∀ c, p c → ¬ q c) :
    PrefixFree (first + second) := by
  have hne : ∀ u ∈ first, ∀ v ∈ second, ∀ x y : List Char, u ++ x ≠ v ++ y := by
    intro u hu v hv x y heq
    obtain ⟨c, _, rfl, hc⟩ := hp u hu
    obtain ⟨d, _, rfl, hd⟩ := hq v hv
    obtain rfl : c = d := (List.cons.inj heq).1
    exact hpq c hc hd
  rintro u (hu | hu) v (hv | hv) x y heq
  · exact hfirst u hu v hv x y heq
  · exact absurd heq (hne u hu v hv x y)
  · exact absurd heq.symm (hne v hv u hu y x)
  · exact hsecond u hu v hv x y heq

/-- Two texts of characters that go on are the same if both are followed by one that does not. -/
theorem append_inj_of_stops {goesOn : Char → Bool} (hu : ∀ c ∈ u, goesOn c)
    (hv : ∀ c ∈ v, goesOn c) (hx : ∀ c, x.head? = some c → goesOn c = false)
    (hy : ∀ c, y.head? = some c → goesOn c = false) (heq : u ++ x = v ++ y) : u = v ∧ x = y := by
  have htake {u x : List Char} (hu : ∀ c ∈ u, goesOn c)
      (hx : ∀ c, x.head? = some c → goesOn c = false) : (u ++ x).takeWhile goesOn = u := by
    rw [List.takeWhile_append_of_pos hu]
    cases x with
    | nil => rw [List.takeWhile_nil, List.append_nil]
    | cons c x => rw [List.takeWhile_cons_of_neg (by simp [hx c rfl]), List.append_nil]
  obtain rfl : u = v := by rw [← htake hu hx, heq, htake hv hy]
  exact ⟨rfl, List.append_cancel_left heq⟩

/-- Words that end where a character comes that they do not hold. -/
theorem prefixFree_mul_singleton {stop : Char} (h : ∀ word ∈ first, stop ∉ word) :
    PrefixFree (first * {[stop]}) := by
  rintro _ ⟨u, hu, _, rfl, rfl⟩ _ ⟨v, hv, _, rfl, rfl⟩ x y heq
  simp only [List.append_assoc, List.singleton_append] at heq
  have hgoesOn {word : List Char} (hword : word ∈ first) : ∀ c ∈ word, c != stop :=
    fun c hc ↦ bne_iff_ne.mpr fun hstop ↦ h word hword (hstop ▸ hc)
  rw [(append_inj_of_stops (hgoesOn hu) (hgoesOn hv) (by simp) (by simp) heq).1]

/-- A text is not shorter when it is written with something for every character. -/
theorem length_le_flatMap {write : Char → List Char} (h : ∀ c, write c ≠ []) (text : List Char) :
    text.length ≤ (text.flatMap write).length := by
  induction text with
  | nil => exact Nat.le_refl 0
  | cons c text ih =>
    have hpos := List.length_pos_of_ne_nil (h c)
    rw [List.flatMap_cons, List.length_append, List.length_cons]
    omega

/-! ## String literals -/

def literals : Language Char := Set.range quoteChars

theorem quoteChars_mem_literals (text : List Char) : quoteChars text ∈ literals := ⟨text, rfl⟩

/-- A literal ends at its first quote that is not escaped. -/
theorem quoteChars_append_inj {text other : List Char}
    (h : quoteChars text ++ x = quoteChars other ++ y) : text = other ∧ x = y := by
  simp only [quoteChars, List.cons_append, List.append_assoc, List.nil_append, List.cons.injEq,
    true_and] at h
  have hread := congrArg unquoteBody? h
  simpa only [unquoteBody?_flatMap_escape, Option.some.injEq, Prod.mk.injEq] using hread

/-- No text is its own literal. -/
theorem quoteChars_ne_self (text : List Char) : quoteChars text ≠ text := by
  intro h
  have hlength := congrArg List.length h
  have hle := length_le_flatMap escape_ne_nil text
  simp only [quoteChars, List.length_append, List.length_cons, List.length_nil] at hlength
  omega

theorem prefixFree_literals : PrefixFree literals := by
  rintro _ ⟨text, rfl⟩ _ ⟨other, rfl⟩ x y h
  rw [(quoteChars_append_inj h).1]

theorem beginsWith_literals : BeginsWith literals (· = '"') := by
  rintro _ ⟨text, rfl⟩
  exact ⟨'"', _, rfl, rfl⟩

end MarkupIslands.Text
