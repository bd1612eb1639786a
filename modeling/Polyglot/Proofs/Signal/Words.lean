import Mathlib.Algebra.Group.Nat.Defs
import Polyglot.Proofs.Overlay
import Polyglot.Proofs.Signal.Parts
import Polyglot.Proofs.Unicode.CaseFolding

/-!
# Signals for plain words

A pattern of letters and digits stands for itself. It is read as a row of single characters
(`Pattern.regexOf_word`), so a match of it is an occurrence of the word, and its matches are counted
as a scan from the left counts occurrences (`Pattern.Automaton.count_row`): the scan goes on behind
an occurrence, and what overlaps it is passed over. Where case does not matter, the same is true of
the text and the word with their case folded (`SignalSpec.count_eq_occurrences`).
-/

namespace Polyglot

open Unicode (CharSet foldLetter)

variable {word text rest : List Char} {c : Char}

/-! ## Occurrences -/

namespace Text

/-- The occurrences of a word, counted from the left, when the characters that are to be skipped
belong to the last one. -/
def occurrencesFrom (word : List Char) : (skip : Nat) → List Char → Nat
  | _, [] => 0
  | skip + 1, _ :: rest => occurrencesFrom word skip rest
  | 0, c :: rest =>
    if word.isPrefixOf (c :: rest) then occurrencesFrom word (word.length - 1) rest + 1
    else occurrencesFrom word 0 rest

/-- How often a word occurs, counted from the left without overlap. -/
def occurrences (word text : List Char) : Nat := occurrencesFrom word 0 text

@[simp] theorem occurrences_nil (word : List Char) : occurrences word [] = 0 := rfl

/-- Characters that are to be skipped are passed over before the scan goes on. -/
theorem occurrencesFrom_eq (word : List Char) (skip : Nat) (text : List Char) :
    occurrencesFrom word skip text = occurrences word (text.drop skip) := by
  induction text generalizing skip with
  | nil => cases skip <;> rfl
  | cons c rest ih =>
    cases skip with
    | zero => rfl
    | succ skip => exact ih skip

/-- The scan goes on behind an occurrence, or with the next character. -/
theorem occurrences_cons (word : List Char) (c : Char) (rest : List Char) :
    occurrences word (c :: rest) = if word.isPrefixOf (c :: rest)
      then occurrences word (rest.drop (word.length - 1)) + 1 else occurrences word rest := by
  rw [← occurrencesFrom_eq]
  rfl

example : occurrences "aa".toList "aaa aaaa".toList = 3 := by decide

end Text

namespace Pattern

open Read (Level alternatives closeBranch)

/-! ## Reading a word -/

/-- The members of a sequence that a word is read as. -/
def charsOf (word : List Char) : List Expr := word.map fun c => .char ⟨c, false⟩

/-- Letters and digits are no characters of the grammar. -/
theorem alternatives_cons {fuel : Nat} (hc : c.isAlphanum) (names : List (List Char))
    (level : Level) (rest : List Char) : alternatives (fuel + 1) false names level (c :: rest) =
      alternatives fuel false names (level.push (.char ⟨c, false⟩)) rest := by
  rw [alternatives, Read.blanks, if_neg Bool.false_ne_true]
  split <;> rename_i heq <;> cases heq
  all_goals first
    | rfl
    | exact absurd hc (by decide)

/-- The letters of a word are pushed one after the other. -/
theorem alternatives_word {fuel : Nat} (hfuel : word.length < fuel)
    (h : ∀ c ∈ word, c.isAlphanum) (names : List (List Char)) (level : Level) :
    alternatives fuel false names level word =
      some (Level.close ⟨level.branches, (charsOf word).reverse ++ level.items⟩, [], names) := by
  induction word generalizing fuel level with
  | nil =>
    cases fuel with
    | zero => cases hfuel
    | succ fuel => rfl
  | cons c rest ih =>
    obtain ⟨hc, hrest⟩ := List.forall_mem_cons.mp h
    cases fuel with
    | zero => cases hfuel
    | succ fuel =>
      rw [alternatives_cons hc, ih (Nat.lt_of_succ_lt_succ hfuel) hrest]
      simp [Level.push, charsOf]

/-- However long a word is, it is not deep. -/
theorem depth_charsOf_le (word : List Char) : (Expr.ofSequence (charsOf word)).depth ≤ 1 := by
  induction word with
  | nil => exact Nat.zero_le 1
  | cons c rest ih =>
    cases rest with
    | nil => exact Nat.zero_le 1
    | cons d rest =>
      cases rest with
      | nil => exact Nat.le_refl 1
      | cons e rest => exact Nat.max_le.mpr ⟨Nat.le_refl 1, ih⟩

/-- A word is read as the sequence of its characters. -/
theorem read?_word (h : ∀ c ∈ word, c.isAlphanum) :
    Expr.read? word = some (.ofSequence (charsOf word)) := by
  have hclose : Level.close ⟨[], (charsOf word).reverse ++ []⟩ = .ofSequence (charsOf word) := by
    rw [Level.close, closeBranch, List.append_nil, List.reverse_reverse]
    rfl
  have hdepth : (Expr.ofSequence (charsOf word)).depth ≤ maxDepth :=
    Nat.le_trans (depth_charsOf_le word) (by decide)
  rw [Expr.read?, alternatives_word (Nat.lt_succ_self _) h, hclose]
  exact if_pos hdepth

/-- A word means a row of sets, and the builder is given it as a word if case matters. -/
theorem meaning?_charsOf {f : Flags} (hf : f.unicode) (word : List Char) :
    ∃ x, (Expr.ofSequence (charsOf word)).meaning? f = some (x, f) ∧
      x.regex = .series (word.map fun c => .one (f.fold (.single c))) ∧
      (f.caseInsensitive = false → x.shape = if word.isEmpty then .empty else .word word) := by
  have hchar (c : Char) :
      (Expr.char ⟨c, false⟩).meaning? f = some (.one (f.fold (.single c)), f) := by
    simp [Expr.meaning?, hf]
  have hone (hcase : f.caseInsensitive = false) (c : Char) :
      Shape.one (f.fold (.single c)) = .word [c] := by
    simp [Flags.fold, hcase, Shape.one, CharSet.single, CharSet.range]
  induction word with
  | nil => exact ⟨_, rfl, rfl, fun _ => rfl⟩
  | cons c rest ih =>
    cases rest with
    | nil => exact ⟨_, hchar c, rfl, fun hcase => hone hcase c⟩
    | cons d rest =>
      obtain ⟨x, hx, hregex, hshape⟩ := ih
      refine ⟨.cat (.one (f.fold (.single c))) x, ?_, ?_, fun hcase => ?_⟩
      · change (Expr.cat _ (.ofSequence (charsOf (d :: rest)))).meaning? f = _
        rw [Expr.meaning?, hchar]
        change ((Expr.ofSequence (charsOf (d :: rest))).meaning? f).bind _ = _
        rw [hx]
        rfl
      · rw [Fragment.cat, hregex]
        rfl
      · rw [Fragment.cat, hshape hcase]
        exact congrArg (Shape.append · _) (hone hcase c)

/-- The flags that a pattern begins with. -/
abbrev flagsOf (caseInsensitive : Bool) : Flags := { caseInsensitive := caseInsensitive }

/-- A word is refused for its size or not at all. -/
theorem regexOf_eq_checked {pattern : String} (h : ∀ c ∈ pattern.toList, c.isAlphanum)
    {caseInsensitive : Bool} {x : Fragment} {f : Flags}
    (hx : (Expr.ofSequence (charsOf pattern.toList)).meaning? (flagsOf caseInsensitive) =
      some (x, f)) : regexOf pattern caseInsensitive = x.checked := by
  rw [regexOf, read?_word h, Option.bind_some, hx]

/-- A word stands for a row of sets, one for each of its characters. -/
theorem regexOf_word {pattern : String} (h : ∀ c ∈ pattern.toList, c.isAlphanum)
    {caseInsensitive : Bool} {r : Regex} (hr : regexOf pattern caseInsensitive = .ok r) :
    r = .series
      (pattern.toList.map fun c => .one ((flagsOf caseInsensitive).fold (.single c))) := by
  obtain ⟨x, hx, hregex, -⟩ := meaning?_charsOf (f := flagsOf caseInsensitive) rfl pattern.toList
  rw [regexOf_eq_checked h hx] at hr
  rw [← (Fragment.checked_eq_ok_iff.mp hr).2, hregex]

/-! ### The size of a word -/

theorem length_bytesOfWord (d : Direction) (word : List Char) :
    (bytesOfWord d word).length = (String.ofList word).utf8ByteSize := by
  have hlength :
      (word.flatMap String.utf8EncodeChar).length = (String.ofList word).utf8ByteSize := by
    rw [← Text.bytesOf_ofList]
    rfl
  cases d with
  | forward => exact hlength
  | backward => exact (List.length_reverse ..).trans hlength

/-- The longest words that patterns can be, in bytes. -/
def maxWordBytes : Nat := 32761

/-- The builder has a state for each byte of a word and some more for the whole. -/
theorem fits_word_iff :
    (Shape.word word).fits ↔ (String.ofList word).utf8ByteSize ≤ maxWordBytes := by
  simp only [Shape.fits, Shape.isManyWords, Shape.automatonSize, Shape.isAnchored, Shape.size,
    length_bytesOfWord, Shape.sizeLimit, stateSize, forkSize, switchSize, wayOutSize, rangeSize,
    maxWordBytes, Bool.false_or, Bool.and_eq_true, decide_eq_true_eq, Bool.false_eq_true, if_false]
  omega

/-- **A word is too large exactly if it has more bytes than the builder has room for.** Otherwise it
stands for the row of its characters. -/
theorem regexOf_word_eq {pattern : String} (h : ∀ c ∈ pattern.toList, c.isAlphanum) :
    regexOf pattern false = if pattern.utf8ByteSize ≤ maxWordBytes then
      .ok (.series (pattern.toList.map fun c => .one (.single c))) else .error .tooLarge := by
  obtain ⟨x, hx, hregex, hshape⟩ := meaning?_charsOf (f := flagsOf false) rfl pattern.toList
  have hfits : x.shape.settled.fits ↔ pattern.utf8ByteSize ≤ maxWordBytes := by
    rw [hshape rfl]
    split
    · next hempty =>
      rw [String.toList_eq_nil_iff.mp (List.isEmpty_iff.mp hempty)]
      decide
    · exact fits_word_iff.trans (by rw [String.ofList_toList])
  rw [regexOf_eq_checked h hx, Fragment.checked, hregex]
  simp only [hfits]
  rfl

/-! ## Matches of a word -/

section

variable {f : Char → CharSet} {norm : Char → Char}

namespace Regex

/-- There is no loop in a row of sets. -/
theorem isSteady_row (f : Char → CharSet) (word : List Char) :
    (series (word.map fun c => one (f c))).isSteady := by
  induction word with
  | nil => rfl
  | cons c rest ih =>
    cases rest with
    | nil => rfl
    | cons d rest => exact ih

theorem stop?_series_nil (p : Place) : (series []).stop? p = some p.rest.length := rfl

theorem stop?_series_one_nil (set : CharSet) (l : List Regex) (x : Side) :
    (series (one set :: l)).stop? ⟨x, []⟩ = none := by
  rw [stop?, ways_series_cons, ways_one_nil]
  rfl

/-- A row goes on behind the first character if the first set has it. -/
theorem stop?_series_one_cons (set : CharSet) (l : List Regex) (x : Side) (c : Char)
    (rest : List Char) : (series (one set :: l)).stop? ⟨x, c :: rest⟩ =
      if set.contains c then (series l).stop? ⟨.ofChar c, rest⟩ else none := by
  rw [stop?, ways_series_cons, ways_one_cons]
  split
  · rw [List.flatMap_singleton, stop?]
  · rfl

/-- There is a match at a place if the word stands there, and it ends behind the word. -/
theorem stop?_row (h : ∀ c ∈ word, ∀ d, (f c).contains d ↔ norm d = norm c) (x : Side)
    (text : List Char) : (series (word.map fun c => one (f c))).stop? ⟨x, text⟩ =
      if (word.map norm).isPrefixOf (text.map norm) then some (text.length - word.length)
      else none := by
  induction word generalizing x text with
  | nil => exact stop?_series_nil _
  | cons c word ih =>
    obtain ⟨hc, hword⟩ := List.forall_mem_cons.mp h
    cases text with
    | nil => exact stop?_series_one_nil ..
    | cons d text =>
      rw [List.map_cons, stop?_series_one_cons, ih hword]
      by_cases hd : (f c).contains d
      · simp [hd, (hc d).mp hd]
      · have hne : ¬norm c = norm d := fun heq => hd ((hc d).mpr heq.symm)
        simp [hd, hne]

end Regex

/-- Where matches are occurrences of a word, they are counted as the scan counts them. -/
theorem tally_eq_occurrences (norm : Char → Char) {r : Regex} (hne : word ≠ [])
    (hr : ∀ x text, r.stop? ⟨x, text⟩ =
      if word.isPrefixOf (text.map norm) then some (text.length - word.length) else none)
    (count resume : Nat) (last : Option Nat) (x : Side) (text : List Char) :
    tally count text.length resume last ((placesFrom x text).map r.stop?) =
      count + Text.occurrences word ((text.map norm).drop (text.length - resume)) := by
  have hpos : 0 < word.length := List.length_pos_iff.mpr hne
  induction text generalizing count resume last x with
  | nil =>
    have hnone : ¬word.isPrefixOf ([].map norm) := by simpa using hne
    rw [placesFrom, List.map_singleton, hr, if_neg hnone]
    simp [tally]
  | cons c rest ih =>
    rw [placesFrom, List.map_cons, hr]
    by_cases hskip : resume < (c :: rest).length
    · -- the place lies in the last occurrence, whether the word stands there or not
      have hsub : (c :: rest).length - resume = (rest.length - resume) + 1 :=
        Nat.succ_sub (Nat.le_of_lt_succ hskip)
      rw [hsub, List.map_cons, List.drop_succ_cons, ← ih count resume last (.ofChar c)]
      split
      · rw [tally, if_pos hskip]
        rfl
      · rfl
    · have hsub : (c :: rest).length - resume = 0 := Nat.sub_eq_zero_of_le (Nat.le_of_not_lt hskip)
      have hsub' : rest.length - resume = 0 := by
        rw [List.length_cons] at hsub
        omega
      rw [hsub, List.drop_zero, List.map_cons, Text.occurrences_cons]
      split
      · next hword =>
        have hle : word.length ≤ (c :: rest).length := by
          simpa using (List.isPrefixOf_iff_prefix.mp hword).length_le
        have hstop : (c :: rest).length - word.length ≠ (c :: rest).length := by
          rw [List.length_cons]
          omega
        have hbehind : rest.length - ((c :: rest).length - word.length) = word.length - 1 := by
          rw [List.length_cons] at hle ⊢
          omega
        rw [tally, if_neg hskip, if_neg fun h => hstop h.1]
        change tally (count + 1) rest.length _ _ _ = _
        rw [ih, hbehind]
        omega
      · change tally count rest.length _ _ _ = _
        rw [ih, hsub', List.drop_zero]

/-- **The matches of a row of sets are the occurrences of a word**, if the sets tell characters as
the word does. -/
theorem Automaton.count_row (norm : Char → Char) (hne : word ≠ [])
    (h : ∀ c ∈ word, ∀ d, (f c).contains d ↔ norm d = norm c) (text : List Char) :
    (ofRegex (.series (word.map fun c => .one (f c)))).count text =
      Text.occurrences (word.map norm) (text.map norm) := by
  have hstop (x : Side) (text : List Char) := Regex.stop?_row h x text
  have hne' : word.map norm ≠ [] := by simpa using hne
  have htally :=
    tally_eq_occurrences norm hne' (by simpa using hstop) 0 text.length none .edge text
  rw [count_eq_tally (Regex.isSteady_row f word), htally, Nat.sub_self, Nat.zero_add]
  rfl

end

end Pattern

/-! ## Signals -/

namespace SignalSpec

/-- The automaton of a signal for a word. -/
theorem automaton_of_word {spec : SignalSpec} {s : Signal} (h : spec.compile = .ok s)
    (hword : ∀ c ∈ spec.pattern.toList, c.isAlphanum) :
    s.automaton = .ofRegex (.series (spec.pattern.toList.map fun c =>
      .one ((Pattern.flagsOf spec.caseInsensitive).fold (.single c)))) := by
  have hautomaton := (yields_of_compile h).automaton
  rw [Pattern.compile] at hautomaton
  cases hr : Pattern.regexOf spec.pattern spec.caseInsensitive with
  | error fault =>
    rw [hr] at hautomaton
    cases hautomaton
  | ok r =>
    rw [hr] at hautomaton
    rw [← Pattern.regexOf_word hword hr]
    exact (Except.ok.inj hautomaton).symm

/-- **A signal for a word counts its occurrences.** If the pattern is a word of ASCII letters and
digits and the signal can be readied, then its matches in any text are the occurrences of the word,
counted from the left without overlap. Where case does not matter, they are those of the folded word
in the folded text. The points are this number times the weight, up to the largest number of 64
bits. -/
theorem count_eq_occurrences {spec : SignalSpec} {s : Signal} (hne : spec.pattern.toList ≠ [])
    (hword : ∀ c ∈ spec.pattern.toList, c.isAlphanum) (h : spec.compile = .ok s)
    (code : List Char) :
    (spec.caseInsensitive = false →
      s.count code = Text.occurrences spec.pattern.toList code) ∧
    (spec.caseInsensitive = true →
      s.count code =
        Text.occurrences (spec.pattern.toList.map foldLetter) (code.map foldLetter)) ∧
    s.score code = min (s.count code * spec.weight.toNat) (2 ^ 64 - 1) := by
  have hautomaton := automaton_of_word h hword
  refine ⟨fun hsensitive => ?_, fun hinsensitive => ?_, ?_⟩
  · have hcount := Pattern.Automaton.count_row (f := .single) id hne
      (fun c _ d => by simp) code
    rw [List.map_id, List.map_id] at hcount
    rw [Signal.count, hautomaton, hsensitive]
    exact hcount
  · rw [Signal.count, hautomaton, hinsensitive]
    exact Pattern.Automaton.count_row (f := fun c => (CharSet.single c).foldClosure) foldLetter hne
      (fun c hc d => CharSet.contains_foldClosure_single (hword c hc) d) code
  · rw [← (yields_of_compile h).weight]
    rfl

/-- A word that overlaps itself and stands in a text with another `k` and another `s`: of the first
five characters, the last two are left over. -/
theorem count_eq_occurrences_overlapping :
    let spec : SignalSpec := ⟨"sks", "text", 3, true⟩
    spec.pattern.toList ≠ [] ∧ (∀ c ∈ spec.pattern.toList, c.isAlphanum) ∧
      ∃ s, spec.compile = .ok s ∧ s.count "SKſ\u212aS Sks".toList = 2 ∧
        s.score "SKſ\u212aS Sks".toList = 6 := by
  intro spec
  have hne : spec.pattern.toList ≠ [] := by decide
  have hall : spec.pattern.toList.all Char.isAlphanum := by decide
  have hword : ∀ c ∈ spec.pattern.toList, c.isAlphanum := List.all_eq_true.mp hall
  have hready : spec.compile.toOption.isSome := by decide +kernel
  cases hs : spec.compile with
  | error e =>
    rw [hs] at hready
    cases hready
  | ok s =>
    obtain ⟨-, hcount, hscore⟩ := count_eq_occurrences hne hword hs "SKſ\u212aS Sks".toList
    have hcount : s.count "SKſ\u212aS Sks".toList = 2 := (hcount rfl).trans (by decide +kernel)
    rw [hcount] at hscore
    exact ⟨hne, hword, s, rfl, hcount, hscore⟩

end SignalSpec

end Polyglot
