/-!
# Slices of texts

A text is stored as bytes, and a character takes one byte or more. A slice between two byte offsets
is there only if both are boundaries of characters.
-/

namespace MarkupIslands.Text

/-- The part of a text between two byte offsets. There is one only between boundaries of characters
that stand in their order. -/
def slice? (text : String) (start stop : Nat) : Option String := do
  let first ← text.pos? ⟨start⟩
  let last ← text.pos? ⟨stop⟩
  let slice ← text.slice? first last
  return slice.copy

theorem pos?_of_isValid {text : String} {offset : String.Pos.Raw} (h : offset.IsValid text) :
    text.pos? offset = some ⟨offset, h⟩ := by
  have hslice : offset.isValidForSlice text.toSlice = true := by
    simpa using h
  rw [String.pos?, String.Slice.pos?, dif_pos hslice]
  rfl

/-- Offsets that are told by the texts before them are boundaries of characters. -/
theorem slice?_append (before part behind : String) :
    slice? (before ++ part ++ behind) before.utf8ByteSize (before ++ part).utf8ByteSize =
      some part := by
  have happend : before ++ part ++ behind = before ++ (part ++ behind) := String.append_assoc
  have hstart : String.Pos.Raw.IsValid (before ++ part ++ behind) ⟨before.utf8ByteSize⟩ :=
    String.Pos.Raw.isValid_iff_exists_append.mpr ⟨before, part ++ behind, happend, rfl⟩
  have hstop : String.Pos.Raw.IsValid (before ++ part ++ behind) ⟨(before ++ part).utf8ByteSize⟩ :=
    String.Pos.Raw.isValid_iff_exists_append.mpr ⟨before ++ part, behind, rfl, rfl⟩
  have hfirst : (String.Pos.mk _ hstart).Splits before (part ++ behind) := ⟨happend, rfl⟩
  have hlast : (String.Pos.mk _ hstop).Splits (before ++ part) behind := ⟨rfl, rfl⟩
  obtain ⟨hle, hcopy⟩ := String.copy_slice_eq_iff_splits.mpr ⟨before, behind, hfirst, hlast⟩
  rw [slice?, pos?_of_isValid hstart, pos?_of_isValid hstop, Option.bind_eq_bind, Option.bind_some,
    Option.bind_eq_bind, Option.bind_some, String.slice?, dif_pos hle]
  exact congrArg some hcopy

/-- The number of bytes of some characters. -/
def byteSize (text : List Char) : Nat := (String.ofList text).utf8ByteSize

theorem byteSize_concat (text : List Char) (c : Char) :
    byteSize (text ++ [c]) = byteSize text + c.utf8Size := by
  rw [byteSize, String.ofList_append, String.utf8ByteSize_append, ← String.singleton_eq_ofList,
    String.utf8ByteSize_singleton]
  rfl

/-- The offsets of a piece that stands between two others cut it out. -/
theorem slice?_byteSize (before piece behind : List Char) :
    slice? (String.ofList (before ++ piece ++ behind)) (byteSize before)
      (byteSize (before ++ piece)) = some (String.ofList piece) := by
  rw [byteSize, byteSize, String.ofList_append, String.ofList_append]
  exact slice?_append _ _ _

end MarkupIslands.Text
