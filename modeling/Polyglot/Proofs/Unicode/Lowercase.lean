import Polyglot.Unicode.Lowercase

/-!
# Lower case is final

Putting a text into lower case a second time changes nothing, and lower case neither makes a dot nor
loses one. Both come from the characters: a character is *settled* when it is its own lower-case
form, and every character of a lower-case form is settled. A text of settled characters holds no
`Σ`, the one character that looks at its neighbours, so it is left alone wherever it stands.

The table of forms is gone through once (`lowercasePairs_disjoint`); all else is about its lookup.
-/

namespace Polyglot.Unicode

/-! ## The table -/

theorem CaseRun.mem_pairs_of_image? {r : CaseRun} {n m : Nat} (h : r.image? n = some m) :
    (n, m) ∈ r.pairs := by
  simp only [image?, Bool.and_eq_true, decide_eq_true_eq, beq_iff_eq, Option.ite_none_right_eq_some,
    Option.some.injEq] at h
  obtain ⟨⟨⟨hfirst, hlast⟩, hmod⟩, rfl⟩ := h
  have hturns : (n - r.first) / r.stride * r.stride = n - r.first :=
    Nat.div_mul_cancel (Nat.dvd_of_mod_eq_zero hmod)
  refine List.mem_map.mpr ⟨(n - r.first) / r.stride, ?_, ?_⟩
  · have : (n - r.first) / r.stride ≤ (r.last - r.first) / r.stride :=
      Nat.div_le_div_right (by omega)
    rw [List.mem_range]
    omega
  · rw [hturns]
    congr 1
    omega

theorem CaseRun.mem_pairs_of_lookup {n m : Nat} {runs : List CaseRun}
    (h : lookup n runs = some m) : ∃ r ∈ runs, (n, m) ∈ r.pairs := by
  induction runs with
  | nil => cases h
  | cons r rest ih =>
    rw [lookup] at h
    split at h
    · cases h
    · split at h
      · exact ⟨r, List.mem_cons_self .., mem_pairs_of_image? h⟩
      · obtain ⟨r', hr', hp⟩ := ih h
        exact ⟨r', List.mem_cons_of_mem _ hr', hp⟩

/-- Code points as the bits of one number: two tables are then compared in one operation. -/
def bits (ns : List Nat) : Nat := ns.foldr (fun n m => 1 <<< n ||| m) 0

theorem testBit_bits {n : Nat} {ns : List Nat} (h : n ∈ ns) : (bits ns).testBit n := by
  induction ns with
  | nil => cases h
  | cons k rest ih =>
    rw [bits, List.foldr_cons, Nat.testBit_or, Bool.or_eq_true]
    rcases List.mem_cons.mp h with rfl | h
    · exact .inl (by rw [Nat.one_shiftLeft, Nat.testBit_two_pow_self])
    · exact .inr (ih h)

/-- Numbers in two sets without a common bit are different. -/
theorem ne_of_bits_disjoint {ns ms : List Nat} (h : bits ns &&& bits ms = 0) {n m : Nat}
    (hn : n ∈ ns) (hm : m ∈ ms) : n ≠ m := by
  rintro rfl
  have hbit : (bits ns &&& bits ms).testBit n := by
    rw [Nat.testBit_and, testBit_bits hn, testBit_bits hm, Bool.and_self]
  rw [h, Nat.zero_testBit] at hbit
  cases hbit

/-- All pairs of a code point and the one it is sent to. -/
def lowercasePairs : List (Nat × Nat) := lowercaseRuns.flatMap CaseRun.pairs

theorem mem_lowercasePairs {n m : Nat} (h : CaseRun.lookup n lowercaseRuns = some m) :
    (n, m) ∈ lowercasePairs := by
  obtain ⟨r, hr, hp⟩ := CaseRun.mem_pairs_of_lookup h
  exact List.mem_flatMap.mpr ⟨r, hr, hp⟩

/-- Nothing is sent to a code point that is sent elsewhere, to a dot or to `İ`. -/
theorem lowercasePairs_disjoint :
    bits ('.'.toNat :: 'İ'.toNat :: lowercasePairs.map (·.1)) &&&
      bits (lowercasePairs.map (·.2)) = 0 := by
  decide +kernel

theorem isValidChar_of_mem_lowercasePairs : ∀ p ∈ lowercasePairs, p.2.isValidChar := by
  decide +kernel

/-! ## Settled characters -/

/-- The character is its own lower-case form. -/
def IsSettled (c : Char) : Prop := lowercaseForm c = [c]

instance (c : Char) : Decidable (IsSettled c) := inferInstanceAs (Decidable (_ = _))

/-- A character that is not in the table is its own lower-case form, unless it has a form of two
characters. -/
theorem isSettled_of_lookup {c : Char} (hc : c ≠ 'İ')
    (h : CaseRun.lookup c.toNat lowercaseRuns = none) : IsSettled c := by
  rw [IsSettled, lowercaseForm, if_neg hc, h, Option.getD_none, Char.ofNat_toNat]

theorem IsSettled.ne_sigma {c : Char} (h : IsSettled c) : c ≠ 'Σ' := by
  rintro rfl
  exact absurd h (by decide +kernel)

/-- What the table sends a code point to is settled and no dot. -/
theorem isSettled_of_lookup_eq_some {n m : Nat} (h : CaseRun.lookup n lowercaseRuns = some m) :
    IsSettled (Char.ofNat m) ∧ Char.ofNat m ≠ '.' := by
  have hp := mem_lowercasePairs h
  have hm : (Char.ofNat m).toNat = m := by
    rw [Char.ofNat, dif_pos (isValidChar_of_mem_lowercasePairs _ hp)]
    rfl
  have hfree {k : Nat} (hk : k ∈ '.'.toNat :: 'İ'.toNat :: lowercasePairs.map (·.1)) : k ≠ m :=
    ne_of_bits_disjoint lowercasePairs_disjoint hk (List.mem_map_of_mem hp)
  refine ⟨isSettled_of_lookup ?_ ?_, ?_⟩
  · intro e
    exact hfree (List.mem_cons_of_mem _ (List.mem_cons_self ..)) (by rw [← hm, e])
  · rw [hm, Option.eq_none_iff_forall_ne_some]
    intro k hk
    exact hfree (List.mem_cons_of_mem _ (List.mem_cons_of_mem _
      (List.mem_map_of_mem (mem_lowercasePairs hk)))) rfl
  · intro e
    exact hfree (List.mem_cons_self ..) (by rw [← hm, e])

/-- The lower-case form of one character has settled characters only, and a dot only for a dot. -/
theorem isSettled_of_mem_lowercaseForm {c d : Char} (h : d ∈ lowercaseForm c) :
    IsSettled d ∧ (d = '.' → c = '.') := by
  by_cases hI : c = 'İ'
  · subst hI
    rw [lowercaseForm, if_pos rfl, List.mem_cons, List.mem_singleton] at h
    rcases h with rfl | rfl
    · exact ⟨by decide +kernel, fun e => absurd e (by decide)⟩
    · exact ⟨by decide +kernel, fun e => absurd e (by decide)⟩
  · rw [lowercaseForm, if_neg hI, List.mem_singleton] at h
    subst h
    cases hm : CaseRun.lookup c.toNat lowercaseRuns with
    | none =>
      rw [Option.getD_none, Char.ofNat_toNat]
      exact ⟨isSettled_of_lookup hI hm, id⟩
    | some m =>
      rw [Option.getD_some]
      obtain ⟨hs, hdot⟩ := isSettled_of_lookup_eq_some hm
      exact ⟨hs, fun e => absurd e hdot⟩

/-- The lower-case form of a character is settled, and no dot comes up in it. -/
theorem isSettled_of_mem_lowercaseAt {before after : List Char} {c d : Char}
    (h : d ∈ lowercaseAt before c after) : IsSettled d ∧ (d = '.' → c = '.') := by
  rw [lowercaseAt] at h
  split at h
  · rw [List.mem_singleton] at h
    subst h
    split
    · exact ⟨by decide +kernel, fun e => absurd e (by decide)⟩
    · exact ⟨by decide +kernel, fun e => absurd e (by decide)⟩
  · exact isSettled_of_mem_lowercaseForm h

theorem lowercaseAt_ne_nil (before : List Char) (c : Char) (after : List Char) :
    lowercaseAt before c after ≠ [] := by
  rw [lowercaseAt, lowercaseForm]
  split
  · simp
  · split <;> simp

/-! ## Texts -/

theorem isSettled_of_mem_lowercaseFrom {before cs : List Char} {d : Char}
    (h : d ∈ lowercaseFrom before cs) : IsSettled d := by
  induction cs generalizing before with
  | nil => cases h
  | cons c rest ih =>
    rw [lowercaseFrom, List.mem_append] at h
    rcases h with h | h
    · exact (isSettled_of_mem_lowercaseAt h).1
    · exact ih h

/-- What has been made small stays as it is. -/
theorem isSettled_of_mem_lowercase {cs : List Char} {d : Char} (h : d ∈ lowercase cs) :
    IsSettled d :=
  isSettled_of_mem_lowercaseFrom h

/-- A text of settled characters is its own lower-case form. -/
theorem lowercaseFrom_of_settled {before cs : List Char} (h : ∀ c ∈ cs, IsSettled c) :
    lowercaseFrom before cs = cs := by
  induction cs generalizing before with
  | nil => rfl
  | cons c rest ih =>
    obtain ⟨hc, hrest⟩ := List.forall_mem_cons.mp h
    rw [lowercaseFrom, lowercaseAt, if_neg hc.ne_sigma, hc, ih hrest, List.singleton_append]

/-- A text is in lower case exactly when all its characters are settled. -/
theorem lowercase_eq_self_iff {cs : List Char} : lowercase cs = cs ↔ ∀ c ∈ cs, IsSettled c := by
  refine ⟨fun h c hc => ?_, lowercaseFrom_of_settled⟩
  rw [← h] at hc
  exact isSettled_of_mem_lowercase hc

/-- **Lower case is idempotent.** -/
theorem lowercase_lowercase (cs : List Char) : lowercase (lowercase cs) = lowercase cs :=
  lowercase_eq_self_iff.mpr fun _ => isSettled_of_mem_lowercase

/-- Each character has a form of its own, so a text that is not empty keeps a first character, and
that is a dot only if it was one. -/
theorem lowercase_cons (c : Char) (rest : List Char) :
    ∃ d more, lowercase (c :: rest) = d :: more ∧ (d = '.' → c = '.') := by
  rw [lowercase, lowercaseFrom]
  cases hd : lowercaseAt [] c rest with
  | nil => exact absurd hd (lowercaseAt_ne_nil [] c rest)
  | cons d more =>
    have hmem : d ∈ lowercaseAt [] c rest := hd ▸ List.mem_cons_self ..
    exact ⟨d, _, rfl, (isSettled_of_mem_lowercaseAt hmem).2⟩

end Polyglot.Unicode
