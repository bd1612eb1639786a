import Polyglot.Proofs.Catalog.History
import Polyglot.Proofs.Unicode.LetterCase

/-!
# What a catalog sees of a file name

Of a file name a catalog sees what follows the last dot, and of that the lower-case form, so neither
what stands before the dot nor the case of letters has a say in which language the name resolves to
(`Reachable.resolve_sees_last_extension`). A name of which nothing follows a dot resolves to none.
-/

namespace Polyglot

variable {fileName fileName' : String} {ext ext' : List Char}

/-- What follows the last dot of a file name. -/
def HasExtension (fileName : String) (ext : List Char) : Prop :=
  ∃ stem, fileName.toList = stem ++ '.' :: ext ∧ '.' ∉ ext

/-- The extension of a file is the last part of its name, in small letters. -/
theorem HasExtension.extensionOf_eq (h : HasExtension fileName ext) :
    extensionOf fileName = String.ofList (Unicode.lowercase ext) := by
  obtain ⟨stem, hname, hext⟩ := h
  have hlast : afterLastDot fileName.toList = some ext := by
    rw [hname, afterLastDot_append_dot, afterLastDot_eq_none hext, Option.getD_none]
  simp only [extensionOf, hlast]

theorem hasExtension_append_dot (stem : String) : HasExtension (stem ++ ".") [] :=
  ⟨stem.toList, String.toList_append, List.not_mem_nil⟩

/-- A name without a dot has no extension. -/
theorem extensionOf_eq_empty (h : '.' ∉ fileName.toList) : extensionOf fileName = "" := by
  simp only [extensionOf, afterLastDot_eq_none h]

namespace Catalog

variable {c : Catalog}

/-- A file without an extension has no language. -/
theorem resolve_eq_none (c : Catalog) (h : extensionOf fileName = "") :
    c.resolve fileName = none := by
  rw [resolve, h]
  exact if_pos rfl

/-- File names with the same extension resolve alike. -/
theorem resolve_congr (c : Catalog) (h : extensionOf fileName = extensionOf fileName') :
    c.resolve fileName = c.resolve fileName' := by
  simp only [resolve, h]

/-- **A file name resolves by its last extension, in either case.** Two file names with a dot
resolve alike if what follows the last dots is the same up to the case of ASCII letters, whatever
stands before the dots and whatever other characters there are. They resolve to the language that
lists the extension in lower case. A name without a dot resolves to none, and so does one that ends
in a dot. -/
theorem Reachable.resolve_sees_last_extension (hc : c.Reachable) :
    (∀ fileName fileName' ext ext', HasExtension fileName ext → HasExtension fileName' ext' →
      SameLetters ext ext' → c.resolve fileName = c.resolve fileName') ∧
    (∀ fileName ext id, HasExtension fileName ext → (c.resolve fileName = some id ↔
      ∃ l ∈ c.entries, String.ofList (Unicode.lowercase ext) ∈ l.extensions ∧ l.id = id)) ∧
    (∀ fileName : String, '.' ∉ fileName.toList → c.resolve fileName = none) ∧
    ∀ stem : String, c.resolve (stem ++ ".") = none := by
  refine ⟨fun fileName fileName' ext ext' h h' hsame => c.resolve_congr ?_,
    fun fileName ext id h => ?_, fun fileName hdot => c.resolve_eq_none (extensionOf_eq_empty hdot),
    fun stem => c.resolve_eq_none (hasExtension_append_dot stem).extensionOf_eq⟩
  · rw [h.extensionOf_eq, h'.extensionOf_eq, Unicode.lowercase_congr hsame]
  · rw [hc.coherent.resolve_eq_some_iff, h.extensionOf_eq]
    constructor
    · exact fun hlisted => hlisted.2
    · rintro ⟨l, hl, hx, hid⟩
      exact ⟨(hc.coherent.isNormal l hl _ hx).ne_empty, l, hl, hx, hid⟩

/-- Two names of files in Python, of which one has more dots than the other. -/
theorem resolve_sees_last_extension_builtin :
    builtin.Reachable ∧
    HasExtension "src.d/Ämter.test.Py" "Py".toList ∧ HasExtension ".pY" "pY".toList ∧
    SameLetters "Py".toList "pY".toList ∧
    builtin.resolve "src.d/Ämter.test.Py" = some "python" ∧ builtin.resolve ".pY" = some "python" ∧
    builtin.resolve "src/py" = none ∧ builtin.resolve ("py" ++ ".") = none := by
  have hlong : HasExtension "src.d/Ämter.test.Py" "Py".toList :=
    ⟨"src.d/Ämter.test".toList, by decide, by decide⟩
  have hshort : HasExtension ".pY" "pY".toList := ⟨[], by decide, by decide⟩
  have hsame : SameLetters "Py".toList "pY".toList := by decide
  obtain ⟨halike, hlisted, hnone, hend⟩ := Reachable.builtin.resolve_sees_last_extension
  have hpython : ∃ l ∈ builtin.entries,
      String.ofList (Unicode.lowercase "Py".toList) ∈ l.extensions ∧ l.id = "python" := by
    have hreflects := History.reflects_builtin []
    rw [replay, List.foldl_nil] at hreflects
    obtain ⟨l, hl, hid⟩ := hreflects.claimants ⟨"python", "py"⟩ (by decide +kernel)
    refine ⟨l, hl, (hreflects.owners l hl _).mpr ?_, hid⟩
    rw [hid]
    decide +kernel
  have hres := (hlisted "src.d/Ämter.test.Py" "Py".toList "python" hlong).mpr hpython
  exact ⟨.builtin, hlong, hshort, hsame, hres, (halike _ _ _ _ hlong hshort hsame) ▸ hres,
    hnone _ (by decide), hend "py"⟩

end Catalog

end Polyglot
