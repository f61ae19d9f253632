/-!
# Letters

Only ASCII letters count as letters and have a case, so what is to be known of them can be looked
up character by character.
-/

namespace MarkupIslands.Text

variable {c : Char}

/-- What holds of the ASCII characters holds of every letter. -/
theorem of_isAlpha {p : Char → Prop} (hascii : ∀ n < 128, p (Char.ofNat n)) (hc : c.isAlpha) :
    p c := by
  have hbound : c.toNat < 128 := by
    unfold Char.isAlpha Char.isUpper Char.isLower at hc
    simp [UInt32.le_iff_toNat_le] at hc
    omega
  have hofNat := hascii c.toNat hbound
  rwa [Char.ofNat_toNat] at hofNat

theorem isAlpha_of_isUpper (hc : c.isUpper) : c.isAlpha := by
  unfold Char.isAlpha
  rw [hc, Bool.true_or]

theorem isAlpha_of_isLower (hc : c.isLower) : c.isAlpha := by
  unfold Char.isAlpha
  rw [hc, Bool.or_true]

theorem toLower_of_not_isUpper (hc : c.isUpper = false) : c.toLower = c := by
  unfold Char.isUpper at hc
  unfold Char.toLower
  rw [dif_neg]
  simpa using hc

theorem isUpper_toLower (c : Char) : c.toLower.isUpper = false := by
  cases hc : c.isUpper with
  | false => rw [toLower_of_not_isUpper hc, hc]
  | true =>
    have halpha := isAlpha_of_isUpper hc
    exact of_isAlpha (p := fun c ↦ c.toLower.isUpper = false) (by decide) halpha

theorem toLower_toLower (c : Char) : c.toLower.toLower = c.toLower :=
  toLower_of_not_isUpper (isUpper_toLower c)

end MarkupIslands.Text
