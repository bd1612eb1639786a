import Mathlib.Data.Bool.AllAny
import Polyglot.Component
import Polyglot.Language
import Polyglot.Proofs.Text.Bytes

/-!
# Tests of bytes agree with characters

Two tests look at the bytes of a text and not at its characters: the one for the tag of a component,
which looks at two bytes next to each other, and the one for identifiers of languages, which looks
at one at a time. They only let pass bytes below 128, and such a byte is a character of its own. So
what they say can be read off the characters (`Component.hasTag_iff`, `isLanguageId_iff`), and most
proofs about them do so.
-/

namespace Polyglot

open Text (IsAscii byteOf bytesOf)

/-! ## Neighbours -/

/-- Neighbours in a list pass a test if the list can be split around such two. -/
theorem any_neighbours_iff {α : Type} {p : α → α → Bool} {l : List α} :
    ((l.zip l.tail).any fun pair => p pair.1 pair.2) ↔
      ∃ before a b after, l = before ++ a :: b :: after ∧ p a b := by
  induction l with
  | nil => simp
  | cons a rest ih =>
    cases rest with
    | nil =>
      refine iff_of_false Bool.false_ne_true ?_
      rintro ⟨before, b, c, after, h, -⟩
      have := congrArg List.length h
      simp only [List.length_append, List.length_cons, List.length_nil] at this
      omega
    | cons b rest =>
      rw [List.tail_cons, List.zip_cons_cons, List.any_cons, Bool.or_eq_true]
      rw [List.tail_cons] at ih
      rw [ih]
      constructor
      · rintro (h | ⟨before, c, d, after, hrest, h⟩)
        · exact ⟨[], a, b, rest, rfl, h⟩
        · exact ⟨a :: before, c, d, after, by rw [hrest, List.cons_append], h⟩
      · rintro ⟨before, c, d, after, hrest, h⟩
        cases before with
        | nil =>
          cases hrest
          exact .inl h
        | cons e before => exact .inr ⟨before, c, d, after, (List.cons.inj hrest).2, h⟩

/-! ## Tags of components -/

namespace Component

variable {text : List Char} {b : UInt8} {c : Char}

theorem lt_of_isCapital (h : isCapital b) : b < 128 := by
  rw [isCapital, Bool.and_eq_true, decide_eq_true_eq, decide_eq_true_eq] at h
  exact UInt8.lt_of_le_of_lt h.2 (by decide)

/-- The byte test for capital letters is the test of the character, in ASCII. -/
theorem isCapital_byteOf (hc : IsAscii c) : isCapital (byteOf c) = c.isUpper :=
  Text.forall_ascii (p := fun c => isCapital (byteOf c) = c.isUpper) (by decide) hc

theorem eq_of_byteOf_eq_open (hc : IsAscii c) (h : byteOf c = '<'.toUInt8) : c = '<' :=
  Text.forall_ascii (p := fun c => byteOf c = '<'.toUInt8 → c = '<') (by decide) hc h

/-- **Tags are seen in the characters.** -/
theorem hasTag_iff :
    hasTag text ↔ ∃ before c after, text = before ++ '<' :: c :: after ∧ c.isUpper := by
  rw [hasTag, any_neighbours_iff (p := fun b b' => b == '<'.toUInt8 && isCapital b')]
  constructor
  · rintro ⟨before, b, b', after, hbytes, h⟩
    rw [Bool.and_eq_true, beq_iff_eq] at h
    obtain ⟨rfl, hcapital⟩ := h
    obtain ⟨ds, c, d, es, rfl, hc, hbyte, hd, rfl, -, -⟩ :=
      Text.exists_pair_of_bytesOf_eq hbytes (by decide) (lt_of_isCapital hcapital)
    rw [isCapital_byteOf hd] at hcapital
    exact ⟨ds, d, es, by rw [eq_of_byteOf_eq_open hc hbyte], hcapital⟩
  · rintro ⟨before, c, after, rfl, hc⟩
    have hascii : IsAscii c := Text.isAscii_of_isUpper hc
    refine ⟨bytesOf (.ofList before), byteOf '<', byteOf c, bytesOf (.ofList after), ?_, ?_⟩
    · rw [Text.bytesOf_append, Text.bytesOf_cons, Text.bytesOf_cons,
        Text.utf8EncodeChar_of_ascii (by decide), Text.utf8EncodeChar_of_ascii hascii]
      rfl
    · rw [isCapital_byteOf hascii, hc]
      rfl

/-- The tag is looked for at the head of a text and then in the rest. -/
theorem hasTag_cons (c : Char) (rest : List Char) :
    hasTag (c :: rest) = (c == '<' && rest.head?.any Char.isUpper || hasTag rest) := by
  rw [Bool.eq_iff_iff, Bool.or_eq_true, Bool.and_eq_true, beq_iff_eq, hasTag_iff, hasTag_iff,
    Option.any_eq_true]
  constructor
  · rintro ⟨before, d, after, h, hd⟩
    cases before with
    | nil =>
      cases h
      exact .inl ⟨rfl, d, rfl, hd⟩
    | cons e before => exact .inr ⟨before, d, after, (List.cons.inj h).2, hd⟩
  · rintro (⟨rfl, d, hhead, hd⟩ | ⟨before, d, after, rfl, hd⟩)
    · obtain ⟨after, rfl⟩ := List.head?_eq_some_iff.mp hhead
      exact ⟨[], d, after, rfl, hd⟩
    · exact ⟨c :: before, d, after, rfl, hd⟩

end Component

/-! ## Identifiers -/

section Identifiers

variable {b : UInt8} {c : Char} {id : String}

/-- The characters of identifiers. -/
def IsIdChar (c : Char) : Prop :=
  'a' ≤ c ∧ c ≤ 'z' ∨ '0' ≤ c ∧ c ≤ '9' ∨ c = '_' ∨ c = '+' ∨ c = '#' ∨ c = '-'

instance : Decidable (IsIdChar c) := inferInstanceAs (Decidable (_ ∨ _))

theorem lt_of_isIdByte (h : isIdByte b) : b < 128 := by
  simp only [isIdByte, Bool.or_eq_true, Bool.and_eq_true, decide_eq_true_eq, beq_iff_eq] at h
  rcases h with ((((h | h) | rfl) | rfl) | rfl) | rfl
  · exact UInt8.lt_of_le_of_lt h.2 (by decide)
  · exact UInt8.lt_of_le_of_lt h.2 (by decide)
  all_goals decide

theorem IsIdChar.isAscii (h : IsIdChar c) : IsAscii c := by
  rcases h with ⟨-, hle⟩ | ⟨-, hle⟩ | rfl | rfl | rfl | rfl
  · exact .of_le (by decide) hle
  · exact .of_le (by decide) hle
  all_goals decide

/-- The byte test for the characters of identifiers is the test of the character, in ASCII. -/
theorem isIdByte_byteOf (hc : IsAscii c) : isIdByte (byteOf c) ↔ IsIdChar c :=
  Text.forall_ascii (p := fun c => isIdByte (byteOf c) ↔ IsIdChar c) (by decide) hc

/-- **Identifiers are seen in the characters.** -/
theorem isLanguageId_iff : isLanguageId id ↔ id ≠ "" ∧ ∀ c ∈ id.toList, IsIdChar c := by
  have hall : (bytesOf id).all isIdByte ↔ ∀ c ∈ id.toList, IsIdChar c := by
    rw [← String.ofList_toList (s := id), Text.all_bytesOf_iff fun _ => lt_of_isIdByte,
      String.ofList_toList]
    refine forall₂_congr fun c _ => ⟨fun h => (isIdByte_byteOf h.1).mp h.2, fun h => ?_⟩
    exact ⟨h.isAscii, (isIdByte_byteOf h.isAscii).mpr h⟩
  rw [isLanguageId, Bool.and_eq_true, hall, Bool.not_eq_true', List.isEmpty_eq_false_iff, ne_eq,
    Text.bytesOf_eq_nil_iff]

end Identifiers

/-! ## The two tests -/

/-- **Tests of bytes agree with characters.** A text has a tag if a `<` and a capital letter are
next to each other among its characters. It is an identifier if it has characters, and has only
those of identifiers. No byte of a character with several bytes is taken for one of these
characters. -/
theorem byte_tests_agree (s : String) :
    (Component.hasTag s.toList ↔
      ∃ before c after, s.toList = before ++ '<' :: c :: after ∧ 'A' ≤ c ∧ c ≤ 'Z') ∧
    (isLanguageId s ↔ s ≠ "" ∧ ∀ c ∈ s.toList, IsIdChar c) ∧
    ∀ c : Char, 1 < c.utf8Size → ∀ b ∈ String.utf8EncodeChar c,
      b ≠ '<'.toUInt8 ∧ ¬Component.isCapital b ∧ ¬isIdByte b := by
  have hupper (c : Char) : c.isUpper ↔ 'A' ≤ c ∧ c ≤ 'Z' := decide_eq_true_iff
  refine ⟨?_, isLanguageId_iff, fun c hc b hb => ?_⟩
  · simp only [Component.hasTag_iff, hupper]
  · have hhigh : 128 ≤ b := Text.le_of_mem_utf8EncodeChar (Text.not_isAscii_iff.mpr hc) hb
    have hlow (h : b < 128) : False := UInt8.not_lt.mpr hhigh h
    refine ⟨?_, fun h => hlow (Component.lt_of_isCapital h), fun h => hlow (lt_of_isIdByte h)⟩
    rintro rfl
    exact hlow (by decide)

/-- The lower eight bits of `ļ` and `Ł` are those of `<` and `A`, but they are no tag. -/
theorem byte_tests_agree_long_letters :
    Component.hasTag "ļŁ<App".toList ∧ ¬Component.hasTag "ļŁ".toList ∧
    isLanguageId "c++" ∧ ¬isLanguageId "ļ" ∧
    1 < 'ļ'.utf8Size ∧ 0xbc ∈ String.utf8EncodeChar 'ļ' ∧ ¬isIdByte 0xbc := by
  have hsize : 1 < 'ļ'.utf8Size := by decide
  have hbyte : 0xbc ∈ String.utf8EncodeChar 'ļ' := by decide
  obtain ⟨htag, -, hbytes⟩ := byte_tests_agree "ļŁ<App"
  refine ⟨htag.mpr ⟨['ļ', 'Ł'], 'A', ['p', 'p'], by decide⟩, ?_, ?_, ?_, hsize, hbyte,
    (hbytes 'ļ' hsize _ hbyte).2.2⟩
  · rw [(byte_tests_agree "ļŁ").1]
    rintro ⟨before, c, after, h, -⟩
    have hopen : '<' ∈ "ļŁ".toList := by simp [h]
    exact absurd hopen (by decide)
  · exact (byte_tests_agree "c++").2.1.mpr ⟨by decide, List.all_iff_forall_prop.mp (by decide)⟩
  · intro hid
    have hall := ((byte_tests_agree "ļ").2.1.mp hid).2
    exact absurd (hall 'ļ' (by decide)) (by decide)

end Polyglot
