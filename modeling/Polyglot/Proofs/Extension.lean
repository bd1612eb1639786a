import Polyglot.Language
import Polyglot.Proofs.Unicode.Lowercase

/-!
# Registered and looked-up extensions

An extension is registered without its leading dots and in lower case; a file name is asked for what
follows its last dot, in lower case. The two agree on an extension without a dot inside: after any
stem it is found as it was registered (`extensionOf_append_dot`). Of an extension with a dot inside,
a file name only shows the part after the last one (`lastPart`).
-/

namespace Polyglot

/-- The form in which extensions are registered: something is left without the leading dots, and it
is in lower case. -/
structure IsNormalExtension (x : String) : Prop where
  ne_empty : x ≠ ""
  /-- The first character is no dot. -/
  head_ne_dot : ∀ rest, x.toList ≠ '.' :: rest
  lowercase_eq : Unicode.lowercase x.toList = x.toList

/-- Every extension that is not passed over is registered in the normal form. -/
theorem isNormalExtension_normalizeExtension {ext : String} (h : normalizeExtension ext ≠ "") :
    IsNormalExtension (normalizeExtension ext) := by
  unfold normalizeExtension at h ⊢
  cases hd : ext.toList.dropWhile (· == '.') with
  | nil =>
    rw [hd] at h
    exact absurd rfl h
  | cons c rest =>
    have hc : c ≠ '.' := by
      have := List.head?_dropWhile_not (· == '.') ext.toList
      rw [hd] at this
      simpa using this
    obtain ⟨d, more, hlow, hdot⟩ := Unicode.lowercase_cons c rest
    rw [hd] at h
    refine ⟨h, fun tail e => ?_, ?_⟩
    · rw [String.toList_ofList, hlow, List.cons.injEq] at e
      exact hc (hdot e.1)
    · rw [String.toList_ofList, Unicode.lowercase_lowercase]

/-- An extension in the normal form is registered as it is. -/
theorem IsNormalExtension.normalizeExtension_eq {x : String} (h : IsNormalExtension x) :
    normalizeExtension x = x := by
  have hdots : x.toList.dropWhile (· == '.') = x.toList := by
    cases hx : x.toList with
    | nil => rfl
    | cons c rest =>
      have hc : c ≠ '.' := fun e => h.head_ne_dot rest (e ▸ hx)
      rw [List.dropWhile_cons_of_neg (by simpa using hc)]
  rw [normalizeExtension, hdots, h.lowercase_eq, String.ofList_toList]

/-- The extensions as they are registered, without those of which nothing is left. -/
def registered (exts : List String) : List String := (exts.map normalizeExtension).filter (· ≠ "")

theorem registered_cons_of_eq_empty {ext : String} (h : normalizeExtension ext = "")
    (rest : List String) : registered (ext :: rest) = registered rest := by
  rw [registered, List.map_cons, List.filter_cons_of_neg (by simpa using h), registered]

theorem registered_cons_of_ne_empty {ext : String} (h : normalizeExtension ext ≠ "")
    (rest : List String) :
    registered (ext :: rest) = normalizeExtension ext :: registered rest := by
  rw [registered, List.map_cons, List.filter_cons_of_pos (by simpa using h), registered]

/-- The extensions that count are those that are not empty in their normal form. -/
theorem mem_registered {x : String} {exts : List String} :
    x ∈ registered exts ↔ x ≠ "" ∧ ∃ ext ∈ exts, normalizeExtension ext = x := by
  simp [registered, and_comm]

/-- Extensions in their normal form count as they are. -/
theorem registered_of_isNormal {exts : List String} (h : ∀ x ∈ exts, IsNormalExtension x) :
    registered exts = exts := by
  induction exts with
  | nil => rfl
  | cons x rest ih =>
    obtain ⟨hx, hrest⟩ := List.forall_mem_cons.mp h
    have hnormal := hx.normalizeExtension_eq
    rw [registered_cons_of_ne_empty (hnormal.symm ▸ hx.ne_empty), hnormal, ih hrest]

/-! ## The part after the last dot -/

/-- What comes before a dot has no part in the last part of a name. -/
theorem afterLastDot_append_dot (stem ext : List Char) :
    afterLastDot (stem ++ '.' :: ext) = some ((afterLastDot ext).getD ext) := by
  induction stem with
  | nil => cases h : afterLastDot ext <;> simp [afterLastDot, h]
  | cons c rest ih => rw [List.cons_append, afterLastDot, ih, Option.orElse_some]

theorem afterLastDot_eq_none {cs : List Char} (h : '.' ∉ cs) : afterLastDot cs = none := by
  induction cs with
  | nil => rfl
  | cons c rest ih =>
    have hc : c ≠ '.' := fun e => h (e ▸ List.mem_cons_self ..)
    rw [afterLastDot, ih (h ∘ List.mem_cons_of_mem _), Option.orElse_none, if_neg hc]

theorem mem_of_mem_afterLastDot {cs tail : List Char} {d : Char} (h : afterLastDot cs = some tail)
    (hd : d ∈ tail) : d ∈ cs := by
  induction cs with
  | nil => cases h
  | cons c rest ih =>
    rw [afterLastDot] at h
    cases hr : afterLastDot rest with
    | some tail' =>
      rw [hr, Option.orElse_some, Option.some.injEq] at h
      exact List.mem_cons_of_mem _ (ih (hr.trans (congrArg some h)))
    | none =>
      rw [hr, Option.orElse_none] at h
      split at h
      · cases h
        exact List.mem_cons_of_mem _ hd
      · cases h

/-- What follows the last dot of an extension; the whole of it if there is no dot. -/
def lastPart (x : String) : String := String.ofList ((afterLastDot x.toList).getD x.toList)

/-- A text without a dot is its own last part. -/
theorem lastPart_eq_self {x : String} (h : '.' ∉ x.toList) : lastPart x = x := by
  rw [lastPart, afterLastDot_eq_none h, Option.getD_none, String.ofList_toList]

/-- After any stem and a dot, an extension in lower case is found up to its last part. -/
theorem extensionOf_append_dot {x : String} (hx : Unicode.lowercase x.toList = x.toList)
    (stem : String) : extensionOf (stem ++ "." ++ x) = lastPart x := by
  have hlast : afterLastDot (stem ++ "." ++ x).toList =
      some ((afterLastDot x.toList).getD x.toList) := by
    rw [String.toList_append, String.toList_append, List.append_assoc]
    exact afterLastDot_append_dot _ _
  -- a part of a text in lower case is in lower case by itself, whatever stood before it
  have hlow : Unicode.lowercase ((afterLastDot x.toList).getD x.toList) =
      (afterLastDot x.toList).getD x.toList := by
    rw [Unicode.lowercase_eq_self_iff] at hx ⊢
    intro d hd
    cases h : afterLastDot x.toList with
    | none => exact hx d (by rwa [h, Option.getD_none] at hd)
    | some tail => exact hx d (mem_of_mem_afterLastDot h (by rwa [h, Option.getD_some] at hd))
  simp only [extensionOf, hlast, hlow, lastPart]

end Polyglot
