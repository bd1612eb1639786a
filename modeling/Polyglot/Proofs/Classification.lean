import Mathlib.Algebra.GroupWithZero.Nat
import Mathlib.Data.List.Induction
import Polyglot.Detector
import Polyglot.Proofs.Standings

/-!
# Classification by totals

What a text is classified as can be said without any standings. Each language has a total, capped
once at the end; the candidates are the languages that a signal fires for and the one that component
markup names; among them the largest total wins, and of several that are as large, the one that the
first firing signal stands for. `Classified` says so, and `classify_eq_iff` that `classify` does so.

Between the two stand the standings after each signal: their points are capped sums so far
(`points_foldl_tally`), and their languages are in the order of first firing signals
(`pairwise_rank_foldl_tally`).
-/

namespace Polyglot

/-! ## The reference -/

/-- The signal stands for the language and matches the text. -/
def Signal.firesFor (code : List Char) (language : String) (s : Signal) : Bool :=
  s.language == language && decide (0 < s.count code)

/-- What component markup gives to a language. -/
def Component.bonus (code : List Char) (language : String) : Nat :=
  match override? code with
  | some (id, points) => if id = language then points else 0
  | none => 0

/-- The matches of a language's signals, each with the weight of its signal. -/
def evidence (signals : List Signal) (code : List Char) (language : String) : Nat :=
  ((signals.filter (·.language = language)).map fun s => s.count code * s.weight.toNat).sum

/-- The points of a language in the end. -/
def total (signals : List Signal) (code : List Char) (language : String) : Nat :=
  capped (evidence signals code language + Component.bonus code language)

/-- Some signal fires for the language. -/
def IsFired (signals : List Signal) (code : List Char) (language : String) : Prop :=
  ∃ s ∈ signals, s.language = language ∧ 0 < s.count code

/-- A language that some signal fires for or that component markup names. -/
def IsCandidate (signals : List Signal) (code : List Char) (language : String) : Prop :=
  IsFired signals code language ∨ ∃ points, Component.override? code = some (language, points)

/-- The place of the first signal that fires for a language; behind all signals if there is none. -/
def rank (signals : List Signal) (code : List Char) (language : String) : Nat :=
  signals.findIdx (·.firesFor code language)

/-- The candidate with the largest total, and with the lowest rank among those that have it. -/
structure Wins (signals : List Signal) (code : List Char) (language : String) : Prop where
  candidate : IsCandidate signals code language
  most : ∀ other, IsCandidate signals code other →
    total signals code other ≤ total signals code language
  first : ∀ other, IsCandidate signals code other → other ≠ language →
    total signals code other = total signals code language →
      rank signals code language < rank signals code other

/-- What a text is classified as. -/
inductive Classified (catalog : Catalog) (signals : List Signal) (code : String) :
    Detection → Prop where
  | blank : (∀ c ∈ code.toList, Unicode.isWhiteSpace c) →
      Classified catalog signals code ⟨"text", "Plain Text"⟩
  | unmatched : ¬(∀ c ∈ code.toList, Unicode.isWhiteSpace c) →
      (∀ language, ¬IsCandidate signals code.toList language) →
      Classified catalog signals code ⟨"text", "Text"⟩
  | won {language : String} : ¬(∀ c ∈ code.toList, Unicode.isWhiteSpace c) →
      Wins signals code.toList language →
      Classified catalog signals code ⟨language, (catalog.displayName language).getD language⟩

variable {signals : List Signal} {code : List Char} {language other : String}

/-- At most one language wins. -/
theorem Wins.unique (h : Wins signals code language) (h' : Wins signals code other) :
    language = other := by
  by_contra hne
  have hle := h.most other h'.candidate
  have hge := h'.most language h.candidate
  have hlt := h.first other h'.candidate (Ne.symm hne) (Nat.le_antisymm hle hge)
  have hgt := h'.first language h.candidate hne (Nat.le_antisymm hge hle)
  omega

/-- A candidate without others wins. -/
theorem Wins.of_sole (h : IsCandidate signals code language)
    (hsole : ∀ other, IsCandidate signals code other → other = language) :
    Wins signals code language where
  candidate := h
  most other hother := Nat.le_of_eq (by rw [hsole other hother])
  first other hother hne := absurd (hsole other hother) hne

/-- If a language wins, then some language is a candidate. -/
theorem Wins.not_unmatched (h : Wins signals code language) :
    ¬∀ other, ¬IsCandidate signals code other :=
  fun hnone => hnone language h.candidate

/-- A text is classified in one way only. -/
theorem Classified.unique {catalog : Catalog} {code : String} {d d' : Detection}
    (h : Classified catalog signals code d) (h' : Classified catalog signals code d') : d = d' := by
  cases h with
  | blank hb =>
    cases h' with
    | blank => rfl
    | unmatched hb' => exact absurd hb hb'
    | won hb' => exact absurd hb hb'
  | unmatched hb hnone =>
    cases h' with
    | blank hb' => exact absurd hb' hb
    | unmatched => rfl
    | won _ hw => exact absurd hnone hw.not_unmatched
  | won hb hw =>
    cases h' with
    | blank hb' => exact absurd hb' hb
    | unmatched _ hnone => exact absurd hnone hw.not_unmatched
    | won _ hw' => rw [hw.unique hw']

/-! ## The points after the signals -/

/-- What one signal adds to the evidence for a language. -/
theorem evidence_cons (signal : Signal) (signals : List Signal) (code : List Char)
    (language : String) : evidence (signal :: signals) code language =
      (if signal.language = language then signal.count code * signal.weight.toNat else 0) +
        evidence signals code language := by
  by_cases h : signal.language = language <;> simp [evidence, h]

/-- Component markup gives some points, and not too many for the cap. -/
theorem Component.override?_bounds {points : Nat}
    (h : override? code = some (language, points)) : 0 < points ∧ points ≤ maxPoints := by
  rcases override?_eq_some h with ⟨-, rfl⟩ | ⟨-, rfl⟩ <;> decide

namespace Standings

/-- One signal adds its points to its own language and leaves all others alone. -/
theorem points_tally (code : List Char) {s : Standings} (hs : s.points language ≤ maxPoints)
    (signal : Signal) : (s.tally code signal).points language = capped (s.points language +
      if signal.language = language then signal.count code * signal.weight.toNat else 0) := by
  have hscore : signal.score code = capped (signal.count code * signal.weight.toNat) := rfl
  simp only [tally]
  by_cases h : 0 < signal.score code
  · rw [if_pos h, hscore, points_add (capped_le _)]
    by_cases hl : signal.language = language
    · subst hl
      rw [if_pos rfl, if_pos rfl, capped_add_capped]
    · rw [if_neg (Ne.symm hl), if_neg hl, Nat.add_zero, capped_of_le hs]
  · -- no points are no matches: the cap is not zero
    have hzero : signal.count code * signal.weight.toNat = 0 := by
      simp only [hscore, capped, maxPoints, UInt64.size] at h
      omega
    rw [if_neg h, hzero, ite_self, Nat.add_zero, capped_of_le hs]

/-- A signal that gives no points changes nothing. -/
theorem tally_of_score_eq_zero {signal : Signal} (h : signal.score code = 0) (s : Standings) :
    s.tally code signal = s := by
  simp only [tally, h, Nat.lt_irrefl, if_false]

/-- The capped sums of a run come to the sum that is capped once. -/
theorem points_foldl_tally (code : List Char) (signals : List Signal) {s : Standings}
    (hs : s.points language ≤ maxPoints) : (signals.foldl (tally code) s).points language =
      capped (s.points language + evidence signals code language) := by
  induction signals generalizing s with
  | nil => exact (capped_of_le hs).symm
  | cons signal rest ih =>
    have hstep := points_tally code hs signal
    rw [List.foldl_cons, ih (hstep ▸ capped_le _), hstep, capped_capped_add, evidence_cons,
      Nat.add_assoc]

end Standings

/-- In the end, a language has its total. -/
theorem points_standings (signals : List Signal) (code : List Char) (language : String) :
    (standings signals code).points language = total signals code language := by
  have hfold (l : String) : (signals.foldl (Standings.tally code) []).points l =
      capped (evidence signals code l) := by
    rw [Standings.points_foldl_tally code signals (Nat.zero_le _), Standings.points_nil,
      Nat.zero_add]
  simp only [standings, total, Component.bonus]
  cases hover : Component.override? code with
  | none => exact hfold language
  | some given =>
    obtain ⟨named, points⟩ := given
    have hpoints := (Component.override?_bounds hover).2
    simp only [Standings.points_add hpoints, hfold, capped_capped_add]
    by_cases h : language = named
    · rw [if_pos h, if_pos h.symm, h]
    · rw [if_neg h, if_neg (Ne.symm h), Nat.add_zero]

/-! ## Induction over what comes in -/

/-- What holds without any points and is kept by points that come in holds after all signals. -/
theorem Standings.foldl_tally_induction {P : Standings → Prop} (hnil : P [])
    (hadd : ∀ s language points, 0 < points → P s → P (s.add language points))
    (code : List Char) (signals : List Signal) : P (signals.foldl (tally code) []) := by
  induction signals using List.reverseRecOn with
  | nil => exact hnil
  | append_singleton before signal ih =>
    rw [List.foldl_append, List.foldl_cons, List.foldl_nil, tally]
    split
    · next hpoints => exact hadd _ _ _ hpoints ih
    · exact ih

/-- What holds of the empty standings, and still holds when a language gets points, holds of the
standings of every text. -/
theorem standings_induction {P : Standings → Prop} (hnil : P [])
    (hadd : ∀ s language points, 0 < points → P s → P (s.add language points))
    (signals : List Signal) (code : List Char) : P (standings signals code) := by
  have hrun := Standings.foldl_tally_induction hnil hadd code signals
  simp only [standings]
  cases hover : Component.override? code with
  | none => exact hrun
  | some given => exact hadd _ _ _ (Component.override?_bounds hover).1 hrun

theorem Standings.nodup_languages_foldl_tally (code : List Char) (signals : List Signal) :
    (languages (signals.foldl (tally code) [])).Nodup :=
  foldl_tally_induction (P := fun s => s.languages.Nodup) List.nodup_nil
    (fun _ language points _ hs => nodup_languages_add hs language points) code signals

/-- Each language stands in the standings once. -/
theorem nodup_languages_standings (signals : List Signal) (code : List Char) :
    (standings signals code).languages.Nodup :=
  standings_induction (P := fun s => s.languages.Nodup) List.nodup_nil
    (fun _ language points _ hs => Standings.nodup_languages_add hs language points) signals code

theorem forall_pos_standings (signals : List Signal) (code : List Char) :
    ∀ entry ∈ standings signals code, 0 < entry.2 :=
  standings_induction (P := fun s => ∀ entry ∈ s, 0 < entry.2) (List.forall_mem_nil _)
    (fun _ language _ hpoints hs => Standings.forall_pos_add hs language hpoints) signals code

/-! ## The languages after the signals -/

namespace Standings

/-- A signal of some weight brings its language in if it fires. -/
theorem languages_tally (code : List Char) (s : Standings) {signal : Signal}
    (hw : 0 < signal.weight) : (s.tally code signal).languages =
      if 0 < signal.count code ∧ signal.language ∉ s.languages
      then s.languages ++ [signal.language] else s.languages := by
  have hscore : 0 < signal.score code ↔ 0 < signal.count code := by
    have : 0 < signal.weight.toNat := hw
    simp only [Signal.score, capped, maxPoints, UInt64.size, Nat.lt_min]
    constructor
    · intro h
      exact Nat.pos_of_mul_pos_right h.1
    · intro h
      exact ⟨Nat.mul_pos h this, by omega⟩
  simp only [tally, hscore]
  by_cases h : 0 < signal.count code
  · by_cases hmem : signal.language ∈ s.languages <;> simp [h, hmem, languages_add]
  · simp [h]

end Standings

/-- A fired language ranks with some signal, every other one behind all of them. -/
theorem rank_lt_length_iff :
    rank signals code language < signals.length ↔ IsFired signals code language := by
  simp [rank, IsFired, List.findIdx_lt_length, Signal.firesFor]

/-- The rank by more signals is the rank by the first ones if the language has fired among them, and
is counted on from them otherwise. -/
theorem rank_append (signals more : List Signal) (code : List Char) (language : String) :
    rank (signals ++ more) code language = if rank signals code language < signals.length
      then rank signals code language else rank more code language + signals.length :=
  List.findIdx_append

theorem rank_append_of_fired (more : List Signal) (h : IsFired signals code language) :
    rank (signals ++ more) code language = rank signals code language := by
  rw [rank_append, if_pos (rank_lt_length_iff.mpr h)]

theorem length_le_rank_append (more : List Signal) (h : ¬IsFired signals code language) :
    signals.length ≤ rank (signals ++ more) code language := by
  rw [rank_append, if_neg (mt rank_lt_length_iff.mp h)]
  exact Nat.le_add_left ..

/-- A language has fired if it has fired among the first signals or among the others. -/
theorem isFired_append (more : List Signal) : IsFired (signals ++ more) code language ↔
    IsFired signals code language ∨ IsFired more code language := by
  simp only [IsFired, List.mem_append, or_and_right, exists_or]

theorem isFired_singleton {signal : Signal} : IsFired [signal] code language ↔
    signal.language = language ∧ 0 < signal.count code := by
  simp only [IsFired, List.mem_singleton, exists_eq_left]

namespace Standings

/-- After a run the standings have the languages that signals of the run fire for. -/
theorem mem_languages_foldl_tally (hw : ∀ s ∈ signals, 0 < s.weight) :
    language ∈ languages (signals.foldl (tally code) []) ↔ IsFired signals code language := by
  induction signals using List.reverseRecOn with
  | nil => simp [IsFired]
  | append_singleton before signal ih =>
    obtain ⟨hbefore, hsignal⟩ := List.forall_mem_append.mp hw
    rw [List.foldl_append, List.foldl_cons, List.foldl_nil, isFired_append, isFired_singleton,
      ← ih hbefore, languages_tally code _ (hsignal signal (List.mem_singleton_self _))]
    split
    · next h => simp [h.1, eq_comm]
    · next h =>
      constructor
      · exact .inl
      · rintro (hmem | ⟨rfl, hcount⟩)
        · exact hmem
        · by_contra hnot
          exact h ⟨hcount, hnot⟩

/-- The languages stand in the order of the first signals that fire for them. -/
theorem pairwise_rank_foldl_tally (code : List Char) (hw : ∀ s ∈ signals, 0 < s.weight) :
    (languages (signals.foldl (tally code) [])).Pairwise fun l m =>
      rank signals code l < rank signals code m := by
  induction signals using List.reverseRecOn with
  | nil => exact .nil
  | append_singleton before signal ih =>
    obtain ⟨hbefore, hsignal⟩ := List.forall_mem_append.mp hw
    -- the ranks of the languages that are there do not change with the new signal
    have hsame : (languages (before.foldl (tally code) [])).Pairwise fun l m =>
        rank (before ++ [signal]) code l < rank (before ++ [signal]) code m := by
      refine (ih hbefore).imp_of_mem fun hl hm hlt => ?_
      rwa [rank_append_of_fired _ ((mem_languages_foldl_tally hbefore).mp hl),
        rank_append_of_fired _ ((mem_languages_foldl_tally hbefore).mp hm)]
    rw [List.foldl_append, List.foldl_cons, List.foldl_nil,
      languages_tally code _ (hsignal signal (List.mem_singleton_self _))]
    split
    · next h =>
      refine List.pairwise_append.mpr ⟨hsame, List.pairwise_singleton .., fun l hl m hm => ?_⟩
      obtain rfl := List.mem_singleton.mp hm
      have hfired := (mem_languages_foldl_tally hbefore).mp hl
      have hnew := mt (mem_languages_foldl_tally hbefore).mpr h.2
      rw [rank_append_of_fired _ hfired]
      exact Nat.lt_of_lt_of_le (rank_lt_length_iff.mpr hfired) (length_le_rank_append _ hnew)
    · exact hsame

end Standings

/-- In the end, the languages of the standings are the candidates. -/
theorem mem_languages_standings (hw : ∀ s ∈ signals, 0 < s.weight) :
    language ∈ (standings signals code).languages ↔ IsCandidate signals code language := by
  rw [IsCandidate, ← Standings.mem_languages_foldl_tally hw]
  simp only [standings]
  cases Component.override? code with
  | none => simp
  | some given =>
    obtain ⟨named, points⟩ := given
    simp only [Standings.languages_add]
    split
    · next hmem =>
      constructor
      · exact .inl
      · rintro (h | ⟨p, h⟩)
        · exact h
        · cases h
          exact hmem
    · simp [eq_comm]

/-- In the end, the languages stand in the order of their ranks. A language that only markup names
stands last. -/
theorem pairwise_rank_standings (code : List Char) (hw : ∀ s ∈ signals, 0 < s.weight) :
    (standings signals code).languages.Pairwise fun l m =>
      rank signals code l < rank signals code m := by
  have hrun := Standings.pairwise_rank_foldl_tally code hw
  simp only [standings]
  cases Component.override? code with
  | none => exact hrun
  | some given =>
    obtain ⟨named, points⟩ := given
    simp only [Standings.languages_add]
    split
    · exact hrun
    · next hnot =>
      refine List.pairwise_append.mpr ⟨hrun, List.pairwise_singleton .., fun l hl m hm => ?_⟩
      obtain rfl := List.mem_singleton.mp hm
      have hfired := (Standings.mem_languages_foldl_tally hw).mp hl
      have hnew := mt (Standings.mem_languages_foldl_tally hw).mpr hnot
      have hlast := Nat.le_of_not_lt (mt rank_lt_length_iff.mp hnew)
      exact Nat.lt_of_lt_of_le (rank_lt_length_iff.mpr hfired) hlast

/-! ## The winner -/

/-- Every candidate but the leader has fewer points or, with no more points, ranks behind it. -/
theorem candidate_behind_leader (hw : ∀ s ∈ signals, 0 < s.weight) {points : Nat}
    (h : (standings signals code).leader = some (language, points))
    (hother : IsCandidate signals code other) :
    other = language ∨ total signals code other < total signals code language ∨
      total signals code other ≤ total signals code language ∧
        rank signals code language < rank signals code other := by
  obtain ⟨before, after, hsplit, hbefore, hafter⟩ := Standings.leader_eq_some h
  have horder := pairwise_rank_standings code hw
  have hnodup := nodup_languages_standings signals code
  have hfirst : (language, points) ∈ standings signals code :=
    hsplit ▸ List.mem_append_right _ (List.mem_cons_self ..)
  have hleader : points = total signals code language := by
    rw [← points_standings, Standings.points_of_mem hnodup hfirst]
  have hmem := Standings.mem_of_languages hnodup ((mem_languages_standings hw).mpr hother)
  rw [points_standings, hsplit] at hmem
  rcases List.mem_append.mp hmem with hmem | hmem
  · exact .inr (.inl (hleader ▸ hbefore _ hmem))
  · rcases List.mem_cons.mp hmem with heq | hmem
    · exact .inl (congrArg Prod.fst heq)
    · -- the standings list the leader before everybody that comes after it
      refine .inr (.inr ⟨hleader ▸ hafter _ hmem, ?_⟩)
      rw [Standings.languages, hsplit, List.map_append, List.map_cons] at horder
      have hbehind := (List.pairwise_cons.mp (List.pairwise_append.mp horder).2.1).1
      exact hbehind other (List.mem_map.mpr ⟨_, hmem, rfl⟩)

/-- The leader in the end is the candidate that wins. -/
theorem wins_of_leader (hw : ∀ s ∈ signals, 0 < s.weight) {points : Nat}
    (h : (standings signals code).leader = some (language, points)) :
    Wins signals code language where
  candidate := by
    obtain ⟨before, after, hsplit, -, -⟩ := Standings.leader_eq_some h
    refine (mem_languages_standings hw).mp (List.mem_map.mpr ⟨(language, points), ?_, rfl⟩)
    exact hsplit ▸ List.mem_append_right _ (List.mem_cons_self ..)
  most other hother := by
    rcases candidate_behind_leader hw h hother with rfl | hlt | ⟨hle, -⟩
    · exact Nat.le_refl _
    · exact Nat.le_of_lt hlt
    · exact hle
  first other hother hne heq := by
    rcases candidate_behind_leader hw h hother with rfl | hlt | ⟨-, hrank⟩
    · exact absurd rfl hne
    · exact absurd heq (Nat.ne_of_lt hlt)
    · exact hrank

/-- Without a leader there is no candidate. -/
theorem no_candidate_of_leader (hw : ∀ s ∈ signals, 0 < s.weight)
    (h : (standings signals code).leader = none) : ¬IsCandidate signals code language := by
  rw [← mem_languages_standings hw, Standings.leader_eq_none_iff.mp h]
  exact List.not_mem_nil

/-- A text is blank if it has nothing but white space. -/
theorem isBlank_iff : isBlank code = true ↔ ∀ c ∈ code, Unicode.isWhiteSpace c :=
  List.all_eq_true

/-- What `classify` gives is what the text is classified as. -/
theorem classified_classify (catalog : Catalog) (hw : ∀ s ∈ signals, 0 < s.weight)
    (code : String) : Classified catalog signals code (classify catalog signals code) := by
  simp only [classify]
  by_cases hblank : isBlank code.toList = true
  · rw [if_pos hblank]
    exact .blank (isBlank_iff.mp hblank)
  · have hnot := mt isBlank_iff.mpr hblank
    rw [if_neg hblank]
    cases h : (standings signals code.toList).leader with
    | none => exact .unmatched hnot fun language => no_candidate_of_leader hw h
    | some leader => exact .won hnot (wins_of_leader hw h)

/-- **A text is classified by its totals.** For all signals of some weight, every catalog and every
text, `classify` gives one detection, the one that the reference gives: plain text if the text is
blank, text if it has no candidate, and otherwise the candidate that wins, under its display name
or, if it is not registered, its identifier. -/
theorem classify_eq_iff (catalog : Catalog) (hw : ∀ s ∈ signals, 0 < s.weight) (code : String)
    (d : Detection) : classify catalog signals code = d ↔ Classified catalog signals code d := by
  have hown := classified_classify catalog hw code
  constructor
  · rintro rfl
    exact hown
  · exact hown.unique

/-- Two signals whose languages come level on a text with two tags. -/
def levelSignals : List Signal := (SignalSpec.compileAll
  [⟨"Widget", "ruby", 5, false⟩, ⟨"/>", "jsx", 1, false⟩]).toOption.getD []

/-- Both languages come to ten points, one of them by markup, and the first signal decides. -/
theorem classified_first_of_level :
    (∀ s ∈ levelSignals, 0 < s.weight) ∧
      Classified (Catalog.empty.upsert ⟨"ruby", "Ruby", []⟩) levelSignals "<Widget /><Widget />"
        ⟨"ruby", "Ruby"⟩ := by
  have hw : ∀ s ∈ levelSignals, 0 < s.weight := by decide +kernel
  have hname : (Catalog.empty.upsert ⟨"ruby", "Ruby", []⟩).nameOrId "ruby" = "Ruby" := by
    simp [Catalog.nameOrId, Catalog.displayName, Catalog.upsert, Catalog.rename, Catalog.empty]
  have hblank : isBlank "<Widget /><Widget />".toList = false := by decide +kernel
  have hleader : (standings levelSignals "<Widget /><Widget />".toList).leader =
      some ("ruby", 10) := by decide +kernel
  refine ⟨hw, (classify_eq_iff _ hw _ _).mp ?_⟩
  simp only [classify, hblank, hleader, hname]
  rfl

end Polyglot
