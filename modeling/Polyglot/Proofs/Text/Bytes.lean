import Polyglot.Text.Utf8

/-!
# The bytes of a text

A text is encoded in UTF-8. A character of ASCII is one byte, which is its number, and no byte of
any other character is below 128. So a text whose bytes all belong to ASCII can be read byte by byte
(`bytesOf_of_ascii`), and in any text a byte of ASCII is a character at its place
(`exists_of_bytesOf_eq`).
-/

namespace Polyglot.Text

variable {b : UInt8} {c : Char} {cs : List Char} {s t : String}

/-- The characters with one byte. -/
def IsAscii (c : Char) : Prop := c.toNat < 128

instance : Decidable (IsAscii c) := inferInstanceAs (Decidable (_ < _))

/-- The byte of a character of ASCII. -/
def byteOf (c : Char) : UInt8 := .ofNat c.toNat

theorem bytesOf_ofList (cs : List Char) :
    bytesOf (.ofList cs) = cs.flatMap String.utf8EncodeChar := by
  rw [bytesOf, String.toUTF8, String.toByteArray_ofList, List.utf8Encode, List.data_toByteArray]

/-- Texts with the same bytes are the same. -/
theorem bytesOf_inj : bytesOf s = bytesOf t ↔ s = t := by
  rw [bytesOf, bytesOf, Array.toList_inj, ← ByteArray.ext_iff]
  exact String.toByteArray_inj

/-- A character of ASCII is encoded as its own number. -/
theorem utf8EncodeChar_of_ascii (h : IsAscii c) : String.utf8EncodeChar c = [byteOf c] :=
  if_pos (Nat.le_of_lt_succ h)

theorem utf8Size_eq_one_iff : c.utf8Size = 1 ↔ IsAscii c := by
  rw [Char.utf8Size_eq_one_iff, UInt32.le_iff_toNat_le]
  exact Nat.lt_succ_iff.symm

theorem not_isAscii_iff : ¬IsAscii c ↔ 1 < c.utf8Size := by
  have := c.utf8Size_pos
  rw [← utf8Size_eq_one_iff]
  omega

/-- A byte of a longer encoding has the mark of its place, above the bits that it holds. -/
theorem le_ofNat_marked (n : Nat) {k mark : Nat} (hk : 0 < k) (hroom : mark + k ≤ 256)
    (hmark : 128 ≤ mark) : 128 ≤ UInt8.ofNat (n % k + mark) := by
  have hlt := Nat.mod_lt n hk
  rw [UInt8.le_iff_toNat_le, UInt8.toNat_ofNat', Nat.mod_eq_of_lt (by omega)]
  exact Nat.le_add_left_of_le hmark

/-- The bytes of a character beyond ASCII are beyond ASCII too. -/
theorem le_of_mem_utf8EncodeChar (h : ¬IsAscii c) (hb : b ∈ String.utf8EncodeChar c) :
    128 ≤ b := by
  have hlarge : ¬c.val.toNat ≤ 127 := fun hle => h (Nat.lt_succ_of_le hle)
  rw [String.utf8EncodeChar.eq_def] at hb
  simp only [if_neg hlarge] at hb
  split at hb
  · simp only [List.mem_cons, List.not_mem_nil, or_false] at hb
    rcases hb with rfl | rfl <;> exact le_ofNat_marked _ (by decide) (by decide) (by decide)
  split at hb
  · simp only [List.mem_cons, List.not_mem_nil, or_false] at hb
    rcases hb with rfl | rfl | rfl <;>
      exact le_ofNat_marked _ (by decide) (by decide) (by decide)
  · simp only [List.mem_cons, List.not_mem_nil, or_false] at hb
    rcases hb with rfl | rfl | rfl | rfl <;>
      exact le_ofNat_marked _ (by decide) (by decide) (by decide)

/-- A fact about the characters of ASCII is a fact about 128 numbers. -/
theorem forall_ascii {p : Char → Prop} (h : ∀ n < 128, p (Char.ofNat n)) (hc : IsAscii c) : p c :=
  Char.ofNat_toNat c ▸ h c.toNat hc

theorem isAscii_toLower (hc : IsAscii c) : IsAscii c.toLower :=
  forall_ascii (p := fun c => IsAscii c.toLower) (by decide) hc

theorem IsAscii.of_le {top : Char} (htop : IsAscii top) (h : c ≤ top) : IsAscii c :=
  Nat.lt_of_le_of_lt (UInt32.le_iff_toNat_le.mp (Char.le_def.mp h)) htop

theorem isAscii_of_isUpper (h : c.isUpper) : IsAscii c := by
  have hle : c ≤ 'Z' := (of_decide_eq_true h).2
  exact .of_le (by decide) hle

theorem isAscii_of_isAlphanum (h : c.isAlphanum) : IsAscii c := by
  rcases Bool.or_eq_true_iff.mp h with hletter | hdigit
  · rcases Bool.or_eq_true_iff.mp hletter with hupper | hlower
    · exact isAscii_of_isUpper hupper
    · have hle : c ≤ 'z' := of_decide_eq_true (Bool.and_eq_true_iff.mp hlower).2
      exact .of_le (by decide) hle
  · have hle : c ≤ '9' := of_decide_eq_true (Bool.and_eq_true_iff.mp hdigit).2
    exact .of_le (by decide) hle

/-- The bytes of a text of ASCII are its characters. -/
theorem bytesOf_of_ascii (h : ∀ c ∈ cs, IsAscii c) : bytesOf (.ofList cs) = cs.map byteOf := by
  rw [bytesOf_ofList]
  induction cs with
  | nil => rfl
  | cons c rest ih =>
    obtain ⟨hc, hrest⟩ := List.forall_mem_cons.mp h
    rw [List.flatMap_cons, utf8EncodeChar_of_ascii hc, ih hrest]
    rfl

/-- A text with bytes of ASCII only has characters of ASCII only. -/
theorem isAscii_of_bytesOf (h : ∀ b ∈ bytesOf (.ofList cs), b < 128) : ∀ c ∈ cs, IsAscii c := by
  intro c hc
  rw [bytesOf_ofList] at h
  apply Decidable.byContradiction
  intro hnot
  obtain ⟨b, hb⟩ := List.exists_mem_of_ne_nil _ (String.utf8EncodeChar_ne_nil (c := c))
  have hlt := h b (List.mem_flatMap.mpr ⟨c, hc, hb⟩)
  exact UInt8.not_lt.mpr (le_of_mem_utf8EncodeChar hnot hb) hlt

/-! ## Tests of bytes

A byte below 128 is a character of its own wherever it stands, so a test that only such bytes pass
never meets a part of a longer encoding. -/

theorem bytesOf_cons (c : Char) (cs : List Char) :
    bytesOf (.ofList (c :: cs)) = String.utf8EncodeChar c ++ bytesOf (.ofList cs) := by
  rw [bytesOf_ofList, bytesOf_ofList, List.flatMap_cons]

/-- The bytes of two texts in a row are those of the one and then those of the other. -/
theorem bytesOf_append (cs ds : List Char) :
    bytesOf (.ofList (cs ++ ds)) = bytesOf (.ofList cs) ++ bytesOf (.ofList ds) := by
  rw [bytesOf_ofList, bytesOf_ofList, bytesOf_ofList, List.flatMap_append]

theorem bytesOf_eq_nil_iff : bytesOf s = [] ↔ s = "" := bytesOf_inj (t := "")

/-- A byte of ASCII stands between the bytes of the characters before it and those of the characters
after it. -/
theorem exists_of_bytesOf_eq {before after : List UInt8}
    (h : bytesOf (.ofList cs) = before ++ b :: after) (hb : b < 128) :
    ∃ ds c es, cs = ds ++ c :: es ∧ IsAscii c ∧ byteOf c = b ∧
      bytesOf (.ofList ds) = before ∧ bytesOf (.ofList es) = after := by
  induction cs generalizing before with
  | nil => cases before <;> cases h
  | cons c cs ih =>
    rw [bytesOf_cons, List.append_eq_append_iff] at h
    -- the byte is one of the first character or one of those that follow
    rcases h with ⟨before', rfl, hrest⟩ | ⟨own, hown, hafter⟩
    · obtain ⟨ds, d, es, rfl, hd, hbyte, hds, hes⟩ := ih hrest
      exact ⟨c :: ds, d, es, rfl, hd, hbyte, by rw [bytesOf_cons, hds], hes⟩
    · cases own with
      | nil =>
        have hfirst : bytesOf (.ofList cs) = [] ++ b :: after := hafter.symm
        obtain ⟨ds, d, es, rfl, hd, hbyte, hds, hes⟩ := ih hfirst
        refine ⟨c :: ds, d, es, rfl, hd, hbyte, ?_, hes⟩
        rw [bytesOf_cons, hds, List.append_nil, hown, List.append_nil]
      | cons b' own =>
        obtain ⟨rfl, rfl⟩ := List.cons.inj hafter
        have hc : IsAscii c := by
          apply Decidable.byContradiction
          intro hnot
          exact UInt8.not_lt.mpr (le_of_mem_utf8EncodeChar hnot (by rw [hown]; simp)) hb
        rw [utf8EncodeChar_of_ascii hc] at hown
        rcases List.append_eq_singleton_iff.mp hown.symm with ⟨rfl, hsingle⟩ | ⟨-, hnone⟩
        · obtain ⟨rfl, rfl⟩ := List.cons.inj hsingle
          exact ⟨[], c, cs, rfl, hc, rfl, rfl, rfl⟩
        · cases hnone

/-- Two bytes of ASCII next to each other are two characters next to each other. -/
theorem exists_pair_of_bytesOf_eq {b' : UInt8} {before after : List UInt8}
    (h : bytesOf (.ofList cs) = before ++ b :: b' :: after) (hb : b < 128) (hb' : b' < 128) :
    ∃ ds c d es, cs = ds ++ c :: d :: es ∧ IsAscii c ∧ byteOf c = b ∧ IsAscii d ∧ byteOf d = b' ∧
      bytesOf (.ofList ds) = before ∧ bytesOf (.ofList es) = after := by
  obtain ⟨ds, c, rest, rfl, hc, hbyte, hds, hrest⟩ := exists_of_bytesOf_eq h hb
  have hfirst : bytesOf (.ofList rest) = [] ++ b' :: after := hrest
  obtain ⟨ds', d, es, rfl, hd, hbyte', hds', hes⟩ := exists_of_bytesOf_eq hfirst hb'
  -- no bytes stand between the two, so no characters do
  have hnone : ds' = [] := String.ofList_eq_empty_iff.mp (bytesOf_eq_nil_iff.mp hds')
  rw [hnone, List.nil_append]
  exact ⟨ds, c, d, es, rfl, hc, hbyte, hd, hbyte', hds, hes⟩

/-- What holds of bytes of ASCII only holds of all bytes of a text if it holds of its characters,
and these are of ASCII. -/
theorem all_bytesOf_iff {p : UInt8 → Bool} (hp : ∀ b, p b → b < 128) :
    (bytesOf (.ofList cs)).all p ↔ ∀ c ∈ cs, IsAscii c ∧ p (byteOf c) := by
  rw [List.all_eq_true]
  constructor
  · intro h
    have hascii := isAscii_of_bytesOf fun b hb => hp b (h b hb)
    rw [bytesOf_of_ascii hascii, List.forall_mem_map] at h
    exact fun c hc => ⟨hascii c hc, h c hc⟩
  · intro h
    rw [bytesOf_of_ascii fun c hc => (h c hc).1, List.forall_mem_map]
    exact fun c hc => (h c hc).2

end Polyglot.Text
