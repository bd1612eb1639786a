import Polyglot.Proofs.Classification

/-!
# More evidence for the winner

A language that is reported stays reported when more speaks for it and nothing more speaks for any
other one. What has to be compared of two classifications is gathered in `Favors`: candidates,
totals and ranks. Ranks matter where two languages are level, and more evidence changes them too,
but only to the good of the language that it speaks for. Two changes are of this kind: a text on
which the signals of the language match more often and all others no more often
(`favors_of_counts`), and a signal of the language at any place among the others
(`favors_of_insertion`).
-/

namespace Polyglot

variable {signals signals' before after : List Signal} {signal : Signal} {code code' : List Char}
  {language winner other : String}

/-! ## Two classifications -/

/-- The second classification is no worse for the language than the first one. -/
structure Favors (language : String) (signals signals' : List Signal) (code code' : List Char) :
    Prop where
  stays : IsCandidate signals code language → IsCandidate signals' code' language
  gains : total signals code language ≤ total signals' code' language
  /-- No other language comes in. -/
  fewer : ∀ other, other ≠ language →
    IsCandidate signals' code' other → IsCandidate signals code other
  /-- No other language gains points. -/
  loses : ∀ other, other ≠ language → total signals' code' other ≤ total signals code other
  /-- No other language overtakes the language in rank. -/
  ahead : ∀ other, other ≠ language → rank signals code language < rank signals code other →
    rank signals' code' language < rank signals' code' other

namespace Favors

/-- A winner that is favored wins again. -/
theorem wins (h : Favors winner signals signals' code code') (hw : Wins signals code winner) :
    Wins signals' code' winner where
  candidate := h.stays hw.candidate
  most other hother := by
    by_cases hne : other = winner
    · exact hne ▸ Nat.le_refl _
    · calc total signals' code' other
        _ ≤ total signals code other := h.loses other hne
        _ ≤ total signals code winner := hw.most other (h.fewer other hne hother)
        _ ≤ total signals' code' winner := h.gains
  first other hother hne heq := by
    have hbefore := h.fewer other hne hother
    -- level afterwards, the two were level before: between them lie three inequalities
    have hlevel : total signals code other = total signals code winner := by
      have := h.loses other hne
      have := hw.most other hbefore
      have := h.gains
      omega
    exact h.ahead other hne (hw.first other hbefore hne hlevel)

/-- Where the first classification has no candidate, the second has none but the language. -/
theorem eq_of_isCandidate (h : Favors winner signals signals' code code')
    (hnone : ∀ other, ¬IsCandidate signals code other) (hother : IsCandidate signals' code' other) :
    other = winner := by
  by_contra hne
  exact hnone other (h.fewer other hne hother)

/-- What is reported under its name in the catalog by the first classification is reported so by
the second. -/
theorem classify_eq {catalog : Catalog} {code code' : String}
    (h : Favors winner signals signals' code.toList code'.toList)
    (hw : ∀ s ∈ signals, 0 < s.weight) (hw' : ∀ s ∈ signals', 0 < s.weight)
    (hblank : ¬∀ c ∈ code.toList, Unicode.isWhiteSpace c)
    (hblank' : ¬∀ c ∈ code'.toList, Unicode.isWhiteSpace c)
    (hwinner : classify catalog signals code = ⟨winner, catalog.nameOrId winner⟩) :
    classify catalog signals' code' = ⟨winner, catalog.nameOrId winner⟩ := by
  have hfirst := classified_classify catalog hw code
  have hsecond := classified_classify catalog hw' code'
  generalize classify catalog signals code = found at hfirst hwinner
  generalize classify catalog signals' code' = found' at hsecond ⊢
  cases hfirst with
  | blank hall => exact absurd hall hblank
  | won _ hwins =>
    obtain ⟨rfl, -⟩ := Detection.mk.inj hwinner
    exact hsecond.unique (.won hblank' (h.wins hwins))
  | unmatched _ hnone =>
    cases hsecond with
    | blank hall => exact absurd hall hblank'
    | unmatched => exact hwinner
    | won _ hwins =>
      rw [h.eq_of_isCandidate hnone hwins.candidate]
      rfl

end Favors

/-! ## A text with more of the language -/

/-- If the signals of a language find no less, there is no less evidence for it. -/
theorem evidence_le (h : ∀ s ∈ signals, s.language = language → s.count code ≤ s.count code') :
    evidence signals code language ≤ evidence signals code' language := by
  induction signals with
  | nil => exact Nat.le_refl _
  | cons signal rest ih =>
    obtain ⟨hsignal, hrest⟩ := List.forall_mem_cons.mp h
    rw [evidence_cons, evidence_cons]
    refine Nat.add_le_add ?_ (ih hrest)
    by_cases hl : signal.language = language
    · rw [if_pos hl, if_pos hl]
      exact Nat.mul_le_mul_right _ (hsignal hl)
    · exact if_neg hl ▸ if_neg hl ▸ Nat.le_refl _

theorem bonus_congr (hover : Component.override? code = Component.override? code') :
    Component.bonus code language = Component.bonus code' language := by
  simp only [Component.bonus, hover]

/-- Component markup says nothing for other languages than its own two. -/
theorem bonus_eq_zero (htyped : language ≠ "tsx") (huntyped : language ≠ "jsx") (code : List Char) :
    Component.bonus code language = 0 := by
  rw [Component.bonus]
  cases hover : Component.override? code with
  | none => rfl
  | some given =>
    obtain ⟨id, points⟩ := given
    rcases Component.override?_eq_some hover with ⟨rfl, -⟩ | ⟨rfl, -⟩
    · exact if_neg (Ne.symm htyped)
    · exact if_neg (Ne.symm huntyped)

/-- If its signals find no less and the component is the same, the total of a language is no
less. -/
theorem total_le (h : ∀ s ∈ signals, s.language = language → s.count code ≤ s.count code')
    (hover : Component.override? code = Component.override? code') :
    total signals code language ≤ total signals code' language := by
  have := evidence_le h
  simp only [total, capped, bonus_congr hover]
  omega

theorem isFired_of_count_le
    (h : ∀ s ∈ signals, s.language = language → s.count code ≤ s.count code')
    (hfired : IsFired signals code language) : IsFired signals code' language := by
  obtain ⟨s, hs, hl, hcount⟩ := hfired
  exact ⟨s, hs, hl, Nat.lt_of_lt_of_le hcount (h s hs hl)⟩

/-- A candidate whose signals find no less is a candidate still. -/
theorem isCandidate_of_count_le
    (h : ∀ s ∈ signals, s.language = language → s.count code ≤ s.count code')
    (hover : Component.override? code = Component.override? code')
    (hcandidate : IsCandidate signals code language) : IsCandidate signals code' language := by
  rw [IsCandidate, ← hover]
  exact hcandidate.imp_left (isFired_of_count_le h)

/-- Where the signals of a language match more often, the first of them that fires comes no
later. -/
theorem rank_le (h : ∀ s ∈ signals, s.language = language → s.count code ≤ s.count code') :
    rank signals code' language ≤ rank signals code language := by
  refine List.findIdx_le_findIdx fun s hs hfires => ?_
  simp only [Signal.firesFor, Bool.and_eq_true, beq_iff_eq, decide_eq_true_eq] at hfires ⊢
  exact ⟨hfires.1, Nat.lt_of_lt_of_le hfires.2 (h s hs hfires.1)⟩

/-- A change that lets the signals of one language find no less, and the others no more, favors this
language. -/
theorem favors_of_counts (hover : Component.override? code = Component.override? code')
    (hmore : ∀ s ∈ signals, s.language = language → s.count code ≤ s.count code')
    (hless : ∀ s ∈ signals, s.language ≠ language → s.count code' ≤ s.count code) :
    Favors language signals signals code code' := by
  have hothers (other : String) (hne : other ≠ language) :
      ∀ s ∈ signals, s.language = other → s.count code' ≤ s.count code :=
    fun s hs hl => hless s hs (hl ▸ hne)
  refine ⟨isCandidate_of_count_le hmore hover, total_le hmore hover, fun other hne => ?_,
    fun other hne => ?_, fun other hne hbefore => ?_⟩
  · exact isCandidate_of_count_le (hothers other hne) hover.symm
  · exact total_le (hothers other hne) hover.symm
  · calc rank signals code' language
      _ ≤ rank signals code language := rank_le hmore
      _ < rank signals code other := hbefore
      _ ≤ rank signals code' other := rank_le (hothers other hne)

/-! ## One more signal of the language -/

theorem evidence_append (signals more : List Signal) (code : List Char) (language : String) :
    evidence (signals ++ more) code language =
      evidence signals code language + evidence more code language := by
  simp [evidence]

/-- A signal that is put in anywhere adds its own evidence. -/
theorem evidence_insert (before : List Signal) (signal : Signal) (after : List Signal)
    (code : List Char) (language : String) :
    evidence (before ++ signal :: after) code language =
      (if signal.language = language then signal.count code * signal.weight.toNat else 0) +
        evidence (before ++ after) code language := by
  rw [evidence_append, evidence_cons, evidence_append]
  omega

/-- What one signal gives is part of what speaks for its language. -/
theorem count_mul_weight_le_evidence (h : signal ∈ signals) (code : List Char) :
    signal.count code * signal.weight.toNat ≤ evidence signals code signal.language := by
  obtain ⟨before, after, rfl⟩ := List.append_of_mem h
  rw [evidence_insert, if_pos rfl]
  exact Nat.le_add_right ..

/-- With one more signal, a language has fired if it had before or if the signal is its own and
finds something. -/
theorem isFired_insert :
    IsFired (before ++ signal :: after) code language ↔
      signal.language = language ∧ 0 < signal.count code ∨ IsFired (before ++ after) code language := by
  rw [← List.singleton_append, isFired_append, isFired_append, isFired_singleton, isFired_append,
    or_left_comm]

/-- The place that a signal has after one more signal has come in behind the first `n`. -/
def shifted (n place : Nat) : Nat := if place < n then place else place + 1

theorem shifted_lt_shifted {n place place' : Nat} (h : place < place') :
    shifted n place < shifted n place' := by
  rw [shifted, shifted]
  split <;> split <;> omega

theorem le_shifted (n place : Nat) : place ≤ shifted n place := by
  rw [shifted]
  split <;> omega

/-- A signal that does not fire for the language only shifts the signals behind it. -/
theorem rank_insert_of_silent (h : signal.firesFor code language = false) :
    rank (before ++ signal :: after) code language =
      shifted before.length (rank (before ++ after) code language) := by
  have hcons : rank (signal :: after) code language = rank after code language + 1 := by
    rw [rank, List.findIdx_cons, h]
    rfl
  rw [rank_append, rank_append, hcons, shifted]
  by_cases hbefore : rank before code language < before.length
  · simp only [if_pos hbefore]
  · simp only [if_neg hbefore]
    rw [if_neg (by omega)]
    omega

/-- A signal that fires for the language takes it to its own place, unless it stands before it. -/
theorem rank_insert_of_fires (h : signal.firesFor code language = true) :
    rank (before ++ signal :: after) code language ≤ rank (before ++ after) code language := by
  have hcons : rank (signal :: after) code language = 0 := by
    rw [rank, List.findIdx_cons, h]
    rfl
  rw [rank_append, rank_append, hcons]
  by_cases hbefore : rank before code language < before.length
  · exact Nat.le_of_eq (by rw [if_pos hbefore, if_pos hbefore])
  · rw [if_neg hbefore, if_neg hbefore]
    omega

/-- A signal that is put in moves a language back by one place at most. -/
theorem rank_insert_le : rank (before ++ signal :: after) code language ≤
    shifted before.length (rank (before ++ after) code language) := by
  cases h : signal.firesFor code language with
  | true => exact Nat.le_trans (rank_insert_of_fires h) (le_shifted _ _)
  | false => exact Nat.le_of_eq (rank_insert_of_silent h)

/-- One more signal favors its own language. -/
theorem favors_of_insertion (before after : List Signal) (signal : Signal) (code : List Char) :
    Favors signal.language (before ++ after) (before ++ signal :: after) code code where
  stays := Or.imp_left fun h => isFired_insert.mpr (.inr h)
  gains := by
    simp only [total, capped, evidence_insert]
    omega
  fewer other hne := by
    refine Or.imp_left fun h => ?_
    exact (isFired_insert.mp h).resolve_left fun hsignal => hne hsignal.1.symm
  loses other hne := by
    have hsame : evidence (before ++ signal :: after) code other =
        evidence (before ++ after) code other := by
      rw [evidence_insert, if_neg (Ne.symm hne), Nat.zero_add]
    exact Nat.le_of_eq (by rw [total, total, hsame])
  ahead other hne hbefore := by
    have hsilent : signal.firesFor code other = false := by
      rw [Signal.firesFor, beq_false_of_ne (Ne.symm hne), Bool.false_and]
    calc rank (before ++ signal :: after) code signal.language
      _ ≤ shifted before.length (rank (before ++ after) code signal.language) := rank_insert_le
      _ < shifted before.length (rank (before ++ after) code other) := shifted_lt_shifted hbefore
      _ = rank (before ++ signal :: after) code other := (rank_insert_of_silent hsilent).symm

/-! ## Signals without weight -/

/-- The signals that can give points. -/
def weighty (signals : List Signal) : List Signal := signals.filter (0 < ·.weight)

theorem weight_pos_of_mem_weighty : ∀ s ∈ weighty signals, 0 < s.weight := fun _ hs =>
  of_decide_eq_true (List.mem_filter.mp hs).2

theorem tally_of_weight_eq_zero (h : ¬0 < signal.weight) (s : Standings) :
    s.tally code signal = s := by
  have hweight : signal.weight = 0 := by
    simpa [UInt32.pos_iff_ne_zero] using h
  refine Standings.tally_of_score_eq_zero ?_ s
  rw [Signal.score, hweight]
  rfl

/-- Signals without weight have no part in a classification. -/
theorem classify_weighty (catalog : Catalog) (signals : List Signal) (code : String) :
    classify catalog (weighty signals) code = classify catalog signals code := by
  have hfold (s : Standings) : (weighty signals).foldl (Standings.tally code.toList) s =
      signals.foldl (Standings.tally code.toList) s := by
    induction signals generalizing s with
    | nil => rfl
    | cons signal rest ih =>
      by_cases h : 0 < signal.weight
      · rw [weighty, List.filter_cons_of_pos (by simpa using h), List.foldl_cons, List.foldl_cons]
        exact ih _
      · rw [weighty, List.filter_cons_of_neg (by simpa using h), List.foldl_cons,
          tally_of_weight_eq_zero h]
        exact ih _
  simp only [classify, standings, hfold]

/-! ## The winner -/

/-- **A winner keeps winning when its evidence grows.** Let a text that is not blank be classified
as a language under the name that the catalog has for it, as it is if a candidate wins. Then every
other text that is not blank, has the same component markup, has no fewer matches of each signal of
the language and no more of any other signal is classified as the same language. So is the text
itself after one more signal of the language has come in, at any place among the signals. -/
theorem classify_keeps_winner (catalog : Catalog) (signals : List Signal) {code : String}
    {winner : String} (hblank : ¬∀ c ∈ code.toList, Unicode.isWhiteSpace c)
    (hwinner : classify catalog signals code = ⟨winner, catalog.nameOrId winner⟩) :
    (∀ code' : String, (¬∀ c ∈ code'.toList, Unicode.isWhiteSpace c) →
      Component.override? code.toList = Component.override? code'.toList →
      (∀ s ∈ signals, s.language = winner → s.count code.toList ≤ s.count code'.toList) →
      (∀ s ∈ signals, s.language ≠ winner → s.count code'.toList ≤ s.count code.toList) →
      classify catalog signals code' = ⟨winner, catalog.nameOrId winner⟩) ∧
    ∀ before signal after, signals = before ++ after → signal.language = winner →
      classify catalog (before ++ signal :: after) code = ⟨winner, catalog.nameOrId winner⟩ := by
  rw [← classify_weighty] at hwinner
  constructor
  · intro code' hblank' hover hmore hless
    have hfavors : Favors winner (weighty signals) (weighty signals) code.toList code'.toList :=
      favors_of_counts hover (fun s hs => hmore s (List.mem_of_mem_filter hs))
        fun s hs => hless s (List.mem_of_mem_filter hs)
    rw [← classify_weighty]
    exact hfavors.classify_eq weight_pos_of_mem_weighty weight_pos_of_mem_weighty hblank hblank'
      hwinner
  · rintro before signal after rfl rfl
    rw [← classify_weighty]
    have hsplit : weighty (before ++ after) = weighty before ++ weighty after :=
      List.filter_append ..
    by_cases hweight : 0 < signal.weight
    · have hinsert : weighty (before ++ signal :: after) =
          weighty before ++ signal :: weighty after := by
        rw [weighty, List.filter_append, List.filter_cons_of_pos (by simpa using hweight)]
        rfl
      rw [hinsert]
      refine (favors_of_insertion (weighty before) (weighty after) signal code.toList).classify_eq
        ?_ ?_ hblank hblank (hsplit ▸ hwinner)
      · exact hsplit ▸ weight_pos_of_mem_weighty
      · exact hinsert ▸ weight_pos_of_mem_weighty
    · have hsame : weighty (before ++ signal :: after) = weighty (before ++ after) := by
        rw [weighty, List.filter_append, List.filter_cons_of_neg (by simpa using hweight),
          ← List.filter_append]
        rfl
      rwa [hsame]

/-- One signal for a letter, with as many points as a tag gives. -/
def letterSignals : List Signal :=
  (SignalSpec.compileAll [⟨"A", "ruby", 8, false⟩]).toOption.getD []

/-- A signal comes level with the markup of a tag and wins as it came first. It wins with one more
letter, and with any other signal of its language in front of it. -/
theorem keeps_winner_of_level :
    classify .empty letterSignals "<A" = ⟨"ruby", "ruby"⟩ ∧
    classify .empty letterSignals "<AA" = ⟨"ruby", "ruby"⟩ ∧
    ∀ signal : Signal, signal.language = "ruby" →
      classify .empty (signal :: letterSignals) "<A" = ⟨"ruby", "ruby"⟩ := by
  have hname : Catalog.empty.nameOrId "ruby" = "ruby" := by
    simp [Catalog.nameOrId, Catalog.displayName, Catalog.empty]
  have hblank : ¬∀ c ∈ "<A".toList, Unicode.isWhiteSpace c := mt isBlank_iff.mpr (by decide +kernel)
  have hblank' : ¬∀ c ∈ "<AA".toList, Unicode.isWhiteSpace c :=
    mt isBlank_iff.mpr (by decide +kernel)
  have hwinner : classify .empty letterSignals "<A" =
      ⟨"ruby", Catalog.empty.nameOrId "ruby"⟩ := by
    have hleader : (standings letterSignals "<A".toList).leader = some ("ruby", 8) := by
      decide +kernel
    rw [classify, if_neg (mt isBlank_iff.mp hblank), hleader]
  obtain ⟨hmore, hinsert⟩ := classify_keeps_winner .empty letterSignals hblank hwinner
  rw [hname] at hwinner hmore hinsert
  exact ⟨hwinner, hmore _ hblank' (by decide +kernel) (by decide +kernel) (by decide +kernel),
    fun signal => hinsert [] signal letterSignals rfl⟩

end Polyglot
