import Polyglot.Text.Utf8

/-!
# A text is read back from its bytes

The bytes that a text is encoded in are read as its characters, with no stray bytes between them
(`glyphs_toUTF8`).
-/

namespace Polyglot.Text

variable {before cs : List Char}

/-! ## Sizes -/

theorem size_utf8Encode_singleton (c : Char) : [c].utf8Encode.size = c.utf8Size := by
  rw [List.utf8Encode_singleton, List.size_toByteArray, String.length_utf8EncodeChar]

/-- The encodings of two texts in a row are as long as both together. -/
theorem size_utf8Encode_append (cs ds : List Char) :
    (cs ++ ds).utf8Encode.size = cs.utf8Encode.size + ds.utf8Encode.size := by
  rw [List.utf8Encode_append, ByteArray.size_append]

theorem size_utf8Encode_cons (c : Char) (cs : List Char) :
    (c :: cs).utf8Encode.size = c.utf8Size + cs.utf8Encode.size := by
  rw [List.utf8Encode_cons, ByteArray.size_append, size_utf8Encode_singleton]

/-- Every character takes a byte at least. -/
theorem length_le_size_utf8Encode (cs : List Char) : cs.length ≤ cs.utf8Encode.size := by
  induction cs with
  | nil => exact Nat.le_refl _
  | cons c cs ih =>
    have := c.utf8Size_pos
    rw [size_utf8Encode_cons, List.length_cons]
    omega

/-! ## Reading -/

/-- At the place where a character has been encoded, it is decoded. -/
theorem utf8DecodeChar?_append_cons (before : List Char) (c : Char) (cs : List Char) :
    (before ++ c :: cs).utf8Encode.utf8DecodeChar? before.utf8Encode.size = some c := by
  rw [ByteArray.utf8DecodeChar?_eq_utf8DecodeChar?_extract, List.utf8Encode_append,
    ByteArray.extract_append_eq_right rfl ByteArray.size_append]
  exact List.utf8DecodeChar?_utf8Encode_cons

/-- From the place on at which the rest of a text has been encoded, the rest is read. -/
theorem glyphsFrom_utf8Encode (before cs : List Char) (read : List Glyph) :
    glyphsFrom (before ++ cs).utf8Encode before.utf8Encode.size read =
      read.reverse ++ glyphsOf cs := by
  induction cs generalizing before read with
  | nil =>
    rw [List.append_nil, glyphsFrom, dif_neg (Nat.lt_irrefl _)]
    exact (List.append_nil _).symm
  | cons c cs ih =>
    have hplace : before.utf8Encode.size + c.utf8Size = (before ++ [c]).utf8Encode.size := by
      rw [size_utf8Encode_append, size_utf8Encode_singleton]
    have hlt : before.utf8Encode.size < (before ++ c :: cs).utf8Encode.size := by
      rw [size_utf8Encode_append, size_utf8Encode_cons]
      have := c.utf8Size_pos
      omega
    rw [glyphsFrom, dif_pos hlt]
    simp only [utf8DecodeChar?_append_cons]
    rw [hplace, List.append_cons, ih, List.reverse_cons, List.append_assoc]
    rfl

theorem toUTF8_eq_utf8Encode (s : String) : s.toUTF8 = s.toList.utf8Encode := by
  rw [String.toUTF8_eq_toByteArray, ← String.toByteArray_ofList, String.ofList_toList]

/-- A text has no more characters than bytes. -/
theorem length_le_utf8ByteSize (s : String) : s.toList.length ≤ s.utf8ByteSize := by
  have hsize : s.utf8ByteSize = s.toList.utf8Encode.size :=
    congrArg ByteArray.size (toUTF8_eq_utf8Encode s)
  rw [hsize]
  exact length_le_size_utf8Encode s.toList

/-- The bytes of a text are read as its characters, without stray bytes. -/
theorem glyphs_toUTF8 (s : String) : glyphs s.toUTF8 = glyphsOf s.toList := by
  rw [toUTF8_eq_utf8Encode]
  exact glyphsFrom_utf8Encode [] s.toList []

/-- A part of a text takes no more bytes than the text. -/
theorem size_toUTF8_ofList_le {s : String} (h : cs <:+: s.toList) :
    (String.ofList cs).toUTF8.size ≤ s.toUTF8.size := by
  obtain ⟨before, after, h⟩ := h
  rw [toUTF8_eq_utf8Encode, toUTF8_eq_utf8Encode, String.toList_ofList, ← h, size_utf8Encode_append,
    size_utf8Encode_append]
  omega

end Polyglot.Text
