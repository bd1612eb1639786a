import Polyglot.Service

/-!
# What the service detects

A text is accepted if it is not too long, and then its language is detected. Several texts are
accepted if there are not too many of them and each of them is. Otherwise the first thing that is
wrong is reported: the number of the texts comes before their sizes.
-/

namespace Polyglot.Service

variable {s : Service} {x : Snippet} {xs before after : List Snippet}

/-- The text is not too long. -/
def Accepts (s : Service) (x : Snippet) : Prop := x.code.utf8ByteSize ≤ s.settings.maxInputBytes

/-- The error for a text that is too long. -/
def refusalOf (s : Service) (x : Snippet) : ServiceError :=
  .oversized x.code.utf8ByteSize s.settings.maxInputBytes

theorem checkSize_of_accepts (h : s.Accepts x) : s.checkSize x.code = .ok () :=
  if_neg (Nat.not_lt.mpr h)

theorem checkSize_of_not_accepts (h : ¬s.Accepts x) : s.checkSize x.code = .error (s.refusalOf x) :=
  if_pos (Nat.not_le.mp h)

/-! ## One text -/

/-- The language of a text that is accepted is what the detector finds. -/
theorem detect_of_accepts (h : s.Accepts x) :
    s.detect x = .ok (s.detector.detect x.code x.fileName) := by
  rw [detect, checkSize_of_accepts h]
  rfl

/-- A text that is too long is refused. -/
theorem detect_of_not_accepts (h : ¬s.Accepts x) : s.detect x = .error (s.refusalOf x) := by
  rw [detect, checkSize_of_not_accepts h]
  rfl

/-! ## Several texts -/

/-- Texts that are accepted are passed over in the search for one that is not. -/
theorem forM_checkSize_append (h : ∀ y ∈ before, s.Accepts y) (xs : List Snippet) :
    (before ++ xs).forM (fun y => s.checkSize y.code) = xs.forM fun y => s.checkSize y.code := by
  induction before with
  | nil => rfl
  | cons y before ih =>
    obtain ⟨hy, hbefore⟩ := List.forall_mem_cons.mp h
    rw [List.cons_append, List.forM_eq_forM, List.forM_cons, checkSize_of_accepts hy]
    exact ih hbefore

/-- Too many texts are refused, whatever they are. -/
theorem detectAll_of_tooMany (h : s.settings.maxBatchItems < xs.length) :
    s.detectAll xs = .error (.tooManyItems xs.length s.settings.maxBatchItems) := by
  rw [detectAll, if_pos h]
  rfl

/-- The first text that is too long is reported as it is on its own. -/
theorem detectAll_of_not_accepts (hcount : (before ++ x :: after).length ≤ s.settings.maxBatchItems)
    (hbefore : ∀ y ∈ before, s.Accepts y) (hx : ¬s.Accepts x) :
    s.detectAll (before ++ x :: after) = .error (s.refusalOf x) := by
  have hsizes : (before ++ x :: after).forM (fun y => s.checkSize y.code) =
      .error (s.refusalOf x) := by
    rw [forM_checkSize_append hbefore, List.forM_eq_forM, List.forM_cons,
      checkSize_of_not_accepts hx]
    rfl
  rw [detectAll, if_neg (Nat.not_lt.mpr hcount), hsizes]
  rfl

/-- If all of the texts are accepted, each gets what the detector finds for it. -/
theorem detectAll_of_accepts (hcount : xs.length ≤ s.settings.maxBatchItems)
    (h : ∀ x ∈ xs, s.Accepts x) :
    s.detectAll xs = .ok (xs.map fun x => s.detector.detect x.code x.fileName) := by
  have hsizes : xs.forM (fun y => s.checkSize y.code) = .ok () := by
    have := forM_checkSize_append h []
    rwa [List.append_nil] at this
  rw [detectAll, if_neg (Nat.not_lt.mpr hcount), hsizes]
  rfl

end Polyglot.Service
