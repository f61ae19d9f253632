import Mathlib.Data.List.TakeWhile
import MarkupIslands.Proofs.Jsx.ObjectLiteral
import MarkupIslands.Proofs.Text.Letter

/-!
# Style names behind the keys

A component framework turns the keys of a style object back into property names: a capital becomes a
dash and a small letter, and the `ms` vendor prefix gets its dash back. The keys that an inline
style is written with lead back to the declared names, up to ASCII case. So different properties
have different keys, except that the vendor prefix may be declared without its dash.
-/

namespace MarkupIslands.Jsx.Style

open MarkupIslands.Text

/-! ## From keys to names -/

/-- A character of a property name: a capital of the key stands for a dash and a small letter. -/
def hyphen (c : Char) : List Char := if c.isUpper then ['-', c.toLower] else [c]

/-- A name that begins with the vendor prefix gets a dash in front. -/
def dashVendor (name : List Char) : List Char :=
  if "ms-".toList.isPrefixOf name then '-' :: name else name

/-- The property name that a component framework makes of a key. -/
def hyphenate (key : List Char) : List Char := dashVendor (key.flatMap hyphen)

/-- A name in small letters, as far as ASCII goes. -/
def lowered (name : List Char) : List Char := name.map Char.toLower

def isCustom (name : List Char) : Bool := ['-', '-'].isPrefixOf name

/-- Whether a name begins with the vendor prefix and lacks the dash in front of it. -/
def lacksDash (name : List Char) : Bool := "ms-".toList.isPrefixOf (lowered name)

/-- The name that is joined to a key: a name in small letters without the dash in front of the
vendor prefix. -/
def undashVendor (name : List Char) : List Char :=
  if "-ms-".toList.isPrefixOf name then name.drop 1 else name

theorem key_of_isCustom {name : List Char} (h : isCustom name) : key name = name := if_pos h

theorem key_of_not_isCustom {name : List Char} (h : isCustom name = false) :
    key name = camel (undashVendor (lowered name)) :=
  if_neg (Bool.eq_false_iff.mp h)

theorem isUpper_eq_false_of_mem_lowered {name : List Char} :
    ∀ c ∈ lowered name, c.isUpper = false := by
  intro c hc
  obtain ⟨d, -, rfl⟩ := List.mem_map.mp hc
  exact isUpper_toLower d

/-! ## Joining and hyphenating -/

theorem hyphen_of_not_isUpper {c : Char} (h : c.isUpper = false) : hyphen c = [c] :=
  if_neg (Bool.eq_false_iff.mp h)

/-- A capitalised letter stands for the dash that was taken away with it. -/
theorem hyphen_toUpper {c : Char} (h : c.isLower) : hyphen c.toUpper = ['-', c] := by
  have halpha := isAlpha_of_isLower h
  exact of_isAlpha (p := fun c ↦ c.isLower → hyphen c.toUpper = ['-', c]) (by decide) halpha h

/-- Hyphenating undoes joining, where there were no capitals before. -/
theorem flatMap_hyphen_camel {name : List Char} (h : ∀ c ∈ name, c.isUpper = false) :
    (camel name).flatMap hyphen = name := by
  fun_induction camel name with
  | case1 c rest hc ih =>
    simp only [List.forall_mem_cons] at h
    rw [List.flatMap_cons, hyphen_toUpper hc, ih h.2.2]
    rfl
  | case2 c rest hc ih =>
    obtain ⟨hdash, hrest⟩ := List.forall_mem_cons.mp h
    rw [List.flatMap_cons, hyphen_of_not_isUpper hdash, ih hrest]
    rfl
  | case3 c rest _ ih =>
    obtain ⟨hc, hrest⟩ := List.forall_mem_cons.mp h
    rw [List.flatMap_cons, hyphen_of_not_isUpper hc, ih hrest]
    rfl
  | case4 => rfl

/-- A dash that is taken away before joining is put back after hyphenating. -/
theorem dashVendor_undashVendor (name : List Char) :
    dashVendor (undashVendor name) = dashVendor name := by
  unfold undashVendor
  split
  · rename_i hdash
    obtain ⟨rest, rfl⟩ := List.isPrefixOf_iff_prefix.mp hdash
    rfl
  · rfl

/-- With or without its dash in front, a vendor prefix is joined to a key in the same way. -/
theorem undashVendor_dashVendor (name : List Char) :
    undashVendor (dashVendor name) = undashVendor name := by
  unfold dashVendor
  split
  · rename_i hprefix
    obtain ⟨rest, rfl⟩ := List.isPrefixOf_iff_prefix.mp hprefix
    rfl
  · rfl

theorem mem_of_mem_undashVendor {c : Char} {name : List Char} (h : c ∈ undashVendor name) :
    c ∈ name := by
  unfold undashVendor at h
  split at h
  · exact List.mem_of_mem_drop h
  · exact h

/-- The key of a property leads back to its name in small letters, with the dash of the vendor
prefix. -/
theorem hyphenate_key {name : List Char} (h : isCustom name = false) :
    hyphenate (key name) = dashVendor (lowered name) := by
  have hsmall : ∀ c ∈ undashVendor (lowered name), c.isUpper = false :=
    fun c hc ↦ isUpper_eq_false_of_mem_lowered c (mem_of_mem_undashVendor hc)
  rw [hyphenate, key_of_not_isCustom h, flatMap_hyphen_camel hsmall, dashVendor_undashVendor]

theorem dashVendor_of_not_lacksDash {name : List Char} (h : lacksDash name = false) :
    dashVendor (lowered name) = lowered name :=
  if_neg (Bool.eq_false_iff.mp h)

/-! ## Custom properties -/

theorem toLower_eq_dash_iff (c : Char) : c.toLower = '-' ↔ c = '-' := by
  cases hc : c.isUpper with
  | false => rw [toLower_of_not_isUpper hc]
  | true =>
    have halpha := isAlpha_of_isUpper hc
    exact of_isAlpha (p := fun c ↦ c.toLower = '-' ↔ c = '-') (by decide) halpha

theorem isCustom_lowered (name : List Char) : isCustom (lowered name) = isCustom name := by
  match name with
  | [] => rfl
  | [c] => simp [isCustom, lowered, List.isPrefixOf]
  | c :: d :: rest =>
    rw [Bool.eq_iff_iff]
    simp [isCustom, lowered, eq_comm (a := '-'), toLower_eq_dash_iff]

theorem isCustom_dashVendor_lowered (name : List Char) :
    isCustom (dashVendor (lowered name)) = isCustom name := by
  rw [← isCustom_lowered name, dashVendor]
  split
  · rename_i hprefix
    obtain ⟨rest, hrest⟩ := List.isPrefixOf_iff_prefix.mp hprefix
    rw [← hrest]
    rfl
  · rfl

/-- A custom property keeps the two dashes at its front. -/
theorem isCustom_hyphenate {name : List Char} (h : isCustom name) : isCustom (hyphenate name) := by
  obtain ⟨rest, rfl⟩ := List.isPrefixOf_iff_prefix.mp h
  rfl

/-- Joining makes no custom property. -/
theorem isCustom_key (name : List Char) : isCustom (key name) = isCustom name := by
  cases h : isCustom name with
  | true => rw [key_of_isCustom h, h]
  | false =>
    rw [← Bool.not_eq_true]
    intro hkey
    have hcustom := isCustom_hyphenate hkey
    rw [hyphenate_key h, isCustom_dashVendor_lowered, h] at hcustom
    cases hcustom

/-! ## Which names share a key -/

/-- The name of a property as it is known: custom properties by their names as they are, all others
by their names in small letters with the dash of the vendor prefix. -/
def canonicalName (name : List Char) : List Char :=
  if isCustom name then name else dashVendor (lowered name)

/-- The property that a component framework sets for a key. -/
def propertyOf (key : List Char) : List Char := if isCustom key then key else hyphenate key

/-- A framework that turns the key into a property finds the property that was written. -/
theorem propertyOf_key (name : List Char) : propertyOf (key name) = canonicalName name := by
  rw [propertyOf, canonicalName, isCustom_key]
  cases h : isCustom name with
  | true => exact key_of_isCustom h
  | false => exact hyphenate_key h

theorem lowered_dashVendor_lowered (name : List Char) :
    lowered (dashVendor (lowered name)) = dashVendor (lowered name) := by
  have hlowered : lowered (lowered name) = lowered name :=
    List.map_map.trans (List.map_congr_left fun c _ ↦ toLower_toLower c)
  unfold dashVendor
  split
  · exact congrArg ('-' :: ·) hlowered
  · exact hlowered

/-- A property has one key by all its names. -/
theorem key_canonicalName (name : List Char) : key (canonicalName name) = key name := by
  unfold canonicalName
  cases h : isCustom name with
  | true => rfl
  | false =>
    have hcustom : isCustom (dashVendor (lowered name)) = false := by
      rw [isCustom_dashVendor_lowered, h]
    rw [if_neg Bool.false_ne_true, key_of_not_isCustom hcustom, lowered_dashVendor_lowered,
      undashVendor_dashVendor, ← key_of_not_isCustom h]

theorem lowered_canonicalName {name : List Char} (h : isCustom name ∨ lacksDash name = false) :
    lowered (canonicalName name) = lowered name := by
  unfold canonicalName
  split
  · rfl
  · rename_i hcustom
    rw [lowered_dashVendor_lowered, dashVendor_of_not_lacksDash (h.resolve_left hcustom)]

/-- Two names share a key exactly if they are names of one property. -/
theorem key_eq_iff (name other : List Char) :
    key name = key other ↔ canonicalName name = canonicalName other := by
  constructor
  · intro h
    rw [← propertyOf_key, ← propertyOf_key, h]
  · intro h
    rw [← key_canonicalName name, ← key_canonicalName other, h]

/-! ## Sources of keys -/

/-- An identifier of script source, as far as ASCII goes. -/
def IsScriptIdentifier (text : List Char) : Prop :=
  ∃ first rest, text = first :: rest ∧ (first.isAlpha ∨ first = '_' ∨ first = '$') ∧
    ∀ c ∈ rest, c.isAlphanum ∨ c = '_' ∨ c = '$'

/-- The check for identifiers is that of the script grammar, as far as ASCII goes. -/
theorem isIdentifier_iff (text : List Char) : isIdentifier text ↔ IsScriptIdentifier text := by
  cases text with
  | nil => simp [isIdentifier, IsScriptIdentifier]
  | cons first rest =>
    simp [isIdentifier, IsScriptIdentifier, isIdentifierStart, isIdentifierPart, Char.isAlphanum,
      or_assoc, or_left_comm, or_comm]

/-- A key is read from its source. -/
theorem readWhole?_keySource (name : List Char) :
    readWhole? readName? (keySource name) = some (key name) := by
  unfold keySource
  split
  · rename_i hname
    have hparts := isIdentifierPart_of_isIdentifier hname
    have htake : (key name).takeWhile isIdentifierPart = key name :=
      List.takeWhile_eq_self_iff.mpr hparts
    have hdrop : (key name).dropWhile isIdentifierPart = [] :=
      List.dropWhile_eq_nil_iff.mpr hparts
    rw [readWhole?, readName?, htake, hdrop, if_pos hname]
  · have hread : Reads readName? (key name) (quoteChars (key name)) := reads_quoteChars (key name)
    exact hread.whole

/-- A key is bare exactly if it is an identifier of script source. -/
theorem keySource_eq_key_iff (name : List Char) :
    keySource name = key name ↔ IsScriptIdentifier (key name) := by
  rw [← isIdentifier_iff]
  unfold keySource
  split
  · rename_i hname
    exact iff_of_true rfl hname
  · rename_i hname
    exact iff_of_false (quoteChars_ne_self (key name)) hname

/-- The key that is written for a property leads back to the name: to a custom property as it is, to
any other name in small letters if the vendor prefix has its dash. Among such names no two that
differ in more than ASCII case share a key; of all names those share one that are names of one
property. The key is written without quotes exactly if it is an identifier. -/
theorem keySource_recovers_name (name : List Char) :
    readWhole? readName? (keySource name) = some (key name) ∧
      (isCustom name → key name = name) ∧
      (isCustom name = false → lacksDash name = false → hyphenate (key name) = lowered name) ∧
      (∀ other, (isCustom name ∨ lacksDash name = false) →
        (isCustom other ∨ lacksDash other = false) → lowered name ≠ lowered other →
          key name ≠ key other) ∧
      (∀ other, key name = key other ↔ canonicalName name = canonicalName other) ∧
      (keySource name = key name ↔ IsScriptIdentifier (key name)) := by
  refine ⟨readWhole?_keySource name, key_of_isCustom, ?_, ?_, key_eq_iff name,
    keySource_eq_key_iff name⟩
  · intro hcustom hdash
    rw [hyphenate_key hcustom, dashVendor_of_not_lacksDash hdash]
  · intro other hname hother hne hkey
    have hcanonical := congrArg lowered ((key_eq_iff name other).mp hkey)
    rw [lowered_canonicalName hname, lowered_canonicalName hother] at hcanonical
    exact hne hcanonical

/-- A vendor property with runs of dashes, a digit behind a dash and capitals, and a custom
property. -/
theorem keySource_recovers_wrap_and_gap :
    (isCustom "-MS-Flex--3D-Wrap".toList = false ∧ lacksDash "-MS-Flex--3D-Wrap".toList = false ∧
        isCustom "--Gap-x".toList ∧
        lowered "-MS-Flex--3D-Wrap".toList ≠ lowered "--Gap-x".toList) ∧
      key "-MS-Flex--3D-Wrap".toList = "msFlex--3dWrap".toList ∧
      keySource "-MS-Flex--3D-Wrap".toList = "\"msFlex--3dWrap\"".toList ∧
      hyphenate (key "-MS-Flex--3D-Wrap".toList) = "-ms-flex--3d-wrap".toList ∧
      key "--Gap-x".toList = "--Gap-x".toList ∧
      key "-MS-Flex--3D-Wrap".toList ≠ key "--Gap-x".toList := by
  have hvendor : isCustom "-MS-Flex--3D-Wrap".toList = false ∧
      lacksDash "-MS-Flex--3D-Wrap".toList = false := by decide
  have hcustom : isCustom "--Gap-x".toList := by decide
  have hne : lowered "-MS-Flex--3D-Wrap".toList ≠ lowered "--Gap-x".toList := by decide
  obtain ⟨-, -, hname, hother, -⟩ := keySource_recovers_name "-MS-Flex--3D-Wrap".toList
  obtain ⟨-, hsame, -⟩ := keySource_recovers_name "--Gap-x".toList
  exact ⟨⟨hvendor.1, hvendor.2, hcustom, hne⟩, by decide, by decide,
    (hname hvendor.1 hvendor.2).trans (by decide), hsame hcustom,
    hother _ (.inr hvendor.2) (.inl hcustom) hne⟩

end MarkupIslands.Jsx.Style
