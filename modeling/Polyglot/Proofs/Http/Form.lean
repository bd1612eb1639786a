import Mathlib.Data.Bool.AllAny
import Polyglot.Http.Target
import Polyglot.Proofs.Json.Spelling
import Polyglot.Proofs.Text.Bytes
import Polyglot.Proofs.Text.Glyphs

/-!
# The forms of a text

A value in a query is written byte by byte: a character of ASCII may be left as it is unless it
means something in a form or may not stand in a query, any byte may be given by two digits, and a
blank may be a plus sign. `IsForm` lists these ways. However a value is written, it is read as the
text with those bytes (`formText_of_isForm`), and so is the value of a query that has no other
(`queryPairs_of_isForm`).
-/

namespace Polyglot.Http

open Text (IsAscii bytesOf byteOf hexDigit?)

variable {c separator : Char} {cs name text value : List Char} {bytes : List UInt8} {f : String}

/-! ## The ways to write a value -/

/-- The marks that may stand in a query and mean nothing in a form. -/
def plainMarks : List Char := "-._~!$'()*,;=:@/?".toList

/-- A character that stands for itself. -/
def IsPlain (c : Char) : Prop := c.isAlphanum ∨ c ∈ plainMarks

instance (c : Char) : Decidable (IsPlain c) := inferInstanceAs (Decidable (_ ∨ _))

/-- The text is a way to write the bytes. -/
inductive IsForm : List Char → List UInt8 → Prop where
  | nil : IsForm [] []
  | plain {c : Char} {text : List Char} {bytes : List UInt8} : IsPlain c → IsForm text bytes →
      IsForm (c :: text) (byteOf c :: bytes)
  | blank {text : List Char} {bytes : List UInt8} : IsForm text bytes →
      IsForm ('+' :: text) (byteOf ' ' :: bytes)
  | digits {a b : Char} {high low : Nat} {text : List Char} {bytes : List UInt8} :
      hexDigit? a = some high → hexDigit? b = some low → IsForm text bytes →
      IsForm ('%' :: a :: b :: text) (.ofNat (16 * high + low) :: bytes)

theorem IsPlain.isAscii (h : IsPlain c) : IsAscii c := by
  rcases h with h | h
  · exact Text.isAscii_of_isAlphanum h
  · have hmarks : ∀ c ∈ plainMarks, IsAscii c := List.all_iff_forall_prop.mp (by decide)
    exact hmarks c h

theorem IsPlain.ne (h : IsPlain c) {mark : Char} (hmark : mark ∈ ['+', '%', '&', '#']) :
    c ≠ mark := by
  rintro rfl
  have hmarks : ∀ c ∈ ['+', '%', '&', '#'], ¬IsPlain c := List.all_iff_forall_prop.mp (by decide)
  exact hmarks c hmark h

/-- Plain characters stand for their own bytes. -/
theorem isForm_of_isPlain (h : ∀ c ∈ cs, IsPlain c) : IsForm cs (bytesOf (.ofList cs)) := by
  rw [Text.bytesOf_of_ascii fun c hc => (h c hc).isAscii]
  induction cs with
  | nil => exact .nil
  | cons c rest ih =>
    obtain ⟨hc, hrest⟩ := List.forall_mem_cons.mp h
    exact .plain hc (ih hrest)

/-- All bytes of a text by their digits. -/
def escaped (f : String) : List Char :=
  (bytesOf f).flatMap fun byte =>
    ['%', Json.hexDigit (byte.toNat / 16), Json.hexDigit (byte.toNat % 16)]

/-- Every text can be written in a form. -/
theorem isForm_escaped (f : String) : IsForm (escaped f) (bytesOf f) := by
  rw [escaped]
  induction bytesOf f with
  | nil => exact .nil
  | cons byte bytes ih =>
    have hlt := byte.toNat_lt
    have hhigh := Json.hexDigit?_hexDigit (byte.toNat / 16) (by omega)
    have hlow := Json.hexDigit?_hexDigit (byte.toNat % 16) (by omega)
    have hbyte := IsForm.digits hhigh hlow ih
    rwa [Nat.div_add_mod, UInt8.ofNat_toNat] at hbyte

/-! ## Reading a value -/

theorem formBytes_plain (h : IsPlain c) (rest : List Char) :
    formBytes (c :: rest) = byteOf c :: formBytes rest := by
  have hplus : c ≠ '+' := h.ne (by decide)
  have hpercent : c ≠ '%' := h.ne (by decide)
  rw [formBytes.eq_4 c rest hplus fun _ _ _ hc _ => hpercent hc,
    Text.utf8EncodeChar_of_ascii h.isAscii, List.singleton_append]

/-- A value is read as the bytes that it is written for. -/
theorem formBytes_of_isForm (h : IsForm text bytes) : formBytes text = bytes := by
  induction h with
  | nil => rfl
  | plain hc _ ih => rw [formBytes_plain hc, ih]
  | blank _ ih =>
    rw [formBytes, ih]
    rfl
  | digits ha hb _ ih => simp only [formBytes, ha, hb, ih]

/-- A form of a text is read as the text. -/
theorem formText_of_isForm (h : IsForm text (bytesOf f)) : formText text = f := by
  have hbytes : (⟨(formBytes text).toArray⟩ : ByteArray) = f.toUTF8 := by
    rw [formBytes_of_isForm h, bytesOf, Array.toArray_toList]
  rw [formText, hbytes, Text.lossy, Text.glyphs_toUTF8, Text.repaired_glyphsOf, String.ofList_toList]

/-- No value has a mark that ends it. -/
theorem IsForm.not_mem (h : IsForm text bytes) (hc : c ∈ ['&', '#']) : c ∉ text := by
  have hdigit {a : Char} {n : Nat} (ha : hexDigit? a = some n) : c ≠ a := by
    rintro rfl
    have hmarks : ∀ c ∈ ['&', '#'], hexDigit? c = none := List.all_iff_forall_prop.mp (by decide)
    cases ha.symm.trans (hmarks c hc)
  have hmark {a : Char} (ha : a ∉ ['&', '#']) : c ≠ a := fun e => ha (e ▸ hc)
  induction h with
  | nil => exact List.not_mem_nil
  | plain hplain _ ih =>
    have hne := hplain.ne (List.mem_append_right ['+', '%'] hc)
    exact List.not_mem_cons_of_ne_of_not_mem hne.symm ih
  | blank _ ih => exact List.not_mem_cons_of_ne_of_not_mem (hmark (by decide)) ih
  | digits ha hb _ ih =>
    refine List.not_mem_cons_of_ne_of_not_mem (hmark (by decide)) ?_
    exact List.not_mem_cons_of_ne_of_not_mem (hdigit ha)
      (List.not_mem_cons_of_ne_of_not_mem (hdigit hb) ih)

/-! ## Reading a query -/

theorem ne_separator (h : separator ∉ cs) : ∀ c ∈ cs, (c != separator) = true :=
  fun _ hc => bne_iff_ne.mpr fun e => h (e ▸ hc)

/-- What comes before the first separator and what comes after it are found. -/
theorem splitFirst_append (h : separator ∉ cs) (rest : List Char) :
    splitFirst separator (cs ++ separator :: rest) = (cs, some rest) := by
  have hdrop : (cs ++ separator :: rest).dropWhile (· != separator) = separator :: rest := by
    rw [List.dropWhile_append_of_pos (ne_separator h), List.dropWhile_cons_of_neg (by simp)]
  have htake : (cs ++ separator :: rest).takeWhile (· != separator) = cs := by
    rw [List.takeWhile_append_of_pos (ne_separator h), List.takeWhile_cons_of_neg (by simp),
      List.append_nil]
  rw [splitFirst, hdrop, htake]

theorem splitFirst_of_not_mem (h : separator ∉ cs) : splitFirst separator cs = (cs, none) := by
  have hdrop : (cs ++ []).dropWhile (· != separator) = [] :=
    List.dropWhile_append_of_pos (ne_separator h)
  rw [List.append_nil] at hdrop
  rw [splitFirst, hdrop]

theorem splitAll_of_not_mem (h : separator ∉ cs) : splitAll separator cs = [cs] := by
  induction cs with
  | nil => rfl
  | cons c rest ih =>
    obtain ⟨hc, hrest⟩ := not_or.mp (mt List.mem_cons.mpr h)
    rw [splitAll, if_neg (Ne.symm hc), ih hrest]

/-- A query of one named value is read as the name and the value. -/
theorem queryPairs_of_isForm {key : String} (hkey : IsForm name (bytesOf key)) (hname : '=' ∉ name)
    (hvalue : IsForm value (bytesOf f)) :
    queryPairs (.ofList (name ++ '=' :: value)) = [(key, f)] := by
  have hwhole : '&' ∉ name ++ '=' :: value := by
    refine List.not_mem_append (hkey.not_mem (by decide)) ?_
    exact List.not_mem_cons_of_ne_of_not_mem (by decide) (hvalue.not_mem (by decide))
  have hsome : (name ++ '=' :: value).isEmpty = false := by simp
  rw [queryPairs, String.toList_ofList, splitAll_of_not_mem hwhole,
    List.filter_cons_of_pos (by rw [hsome]; rfl), List.filter_nil, List.map_singleton, formPair,
    splitFirst_append hname]
  simp only [Option.getD_some, formText_of_isForm hkey, formText_of_isForm hvalue]

/-! ## Reading a target -/

/-- A path and a query are read as they are. -/
theorem ofText_of_query {path query : List Char} (hslash : path.head? = some '/')
    (hpath : '?' ∉ path ∧ '#' ∉ path) (hquery : '#' ∉ query) :
    Target.ofText (.ofList (path ++ '?' :: query)) = ⟨.ofList path, .ofList query⟩ := by
  have hwhole : '#' ∉ path ++ '?' :: query :=
    List.not_mem_append hpath.2 (List.not_mem_cons_of_ne_of_not_mem (by decide) hquery)
  have hparts : Target.ofPath (path ++ '?' :: query) = ⟨.ofList path, .ofList query⟩ := by
    rw [Target.ofPath, splitFirst_append hpath.1]
    rfl
  obtain ⟨rest, rfl⟩ := List.head?_eq_some_iff.mp hslash
  rw [Target.ofText, String.toList_ofList, splitFirst_of_not_mem hwhole]
  exact hparts

end Polyglot.Http
