import Polyglot.Proofs.Pattern.LineBreaks
import Polyglot.Proofs.Signal.Outline
import Polyglot.Proofs.Signal.Parts

/-!
# Line ends and the built-in signals

All built-in signals but the first match as often in a text whose line feeds have been given
carriage returns, and component markup is found in both texts or in neither. So both are classified
alike if the first signal matches them equally often (`Detector.standard_ignores_line_ends`).

The first signal is for imports in scripts. It asks for white space in two places that may lie next
to one another, and takes a line end of two characters for both.
-/

namespace Polyglot

open Pattern (withReturns withReturns_lineFeed withReturns_cons)

variable {text word : List Char} {code : String}

/-! ## Component markup -/

namespace Component

/-- A word without line breaks stands at the head of a text with carriage returns or without. -/
theorem isPrefixOf_withReturns (hfeed : '\n' ∉ word) (hreturn : '\r' ∉ word) (text : List Char) :
    word.isPrefixOf (withReturns text) = word.isPrefixOf text := by
  induction word generalizing text with
  | nil => rfl
  | cons a word ih =>
    obtain ⟨ha, hfeed⟩ := not_or.mp (mt List.mem_cons.mpr hfeed)
    obtain ⟨ha', hreturn⟩ := not_or.mp (mt List.mem_cons.mpr hreturn)
    cases text with
    | nil => rfl
    | cons c rest =>
      by_cases h : c = '\n'
      · subst h
        have hne : (a == '\n') = false := beq_false_of_ne (Ne.symm ha)
        have hne' : (a == '\r') = false := beq_false_of_ne (Ne.symm ha')
        rw [withReturns_lineFeed, List.isPrefixOf, List.isPrefixOf, hne, hne', Bool.false_and,
          Bool.false_and]
      · rw [withReturns_cons h, List.isPrefixOf, List.isPrefixOf, ih hfeed hreturn]

/-- A word in one line is not found at line ends. -/
theorem hasWord_withReturns (hword : word ≠ [] ∧ '\n' ∉ word ∧ '\r' ∉ word) (text : List Char) :
    hasWord word (withReturns text) = hasWord word text := by
  obtain ⟨hne, hfeed, hreturn⟩ := hword
  induction text with
  | nil => rfl
  | cons c rest ih =>
    have hhere := isPrefixOf_withReturns hfeed hreturn (c :: rest)
    by_cases h : c = '\n'
    · subst h
      -- between the two characters there is no word
      have hbetween : word.isPrefixOf ('\n' :: withReturns rest) = false := by
        obtain ⟨a, word, rfl⟩ := List.exists_cons_of_ne_nil hne
        have ha : (a == '\n') = false := by
          refine beq_false_of_ne fun heq => hfeed ?_
          exact heq ▸ List.mem_cons_self ..
        rw [List.isPrefixOf, ha, Bool.false_and]
      rw [withReturns_lineFeed] at hhere ⊢
      rw [hasWord, hasWord, hasWord, hhere, hbetween, ih, Bool.false_or]
    · rw [withReturns_cons h] at hhere ⊢
      rw [hasWord, hasWord, hhere, ih]

/-- No tag goes over a line break. -/
theorem hasTag_withReturns (text : List Char) : hasTag (withReturns text) = hasTag text := by
  induction text with
  | nil => rfl
  | cons c rest ih =>
    by_cases h : c = '\n'
    · subst h
      rw [withReturns_lineFeed, hasTag_cons, hasTag_cons, hasTag_cons, ih]
      rfl
    · have hnext : (withReturns rest).head?.any Char.isUpper = rest.head?.any Char.isUpper := by
        cases rest with
        | nil => rfl
        | cons d rest =>
          by_cases hd : d = '\n'
          · subst hd
            rfl
          · rw [withReturns_cons hd, List.head?_cons, List.head?_cons]
      rw [withReturns_cons h, hasTag_cons, hasTag_cons, ih, hnext]

theorem isComponent_withReturns (text : List Char) :
    isComponent (withReturns text) = isComponent text := by
  rw [isComponent, isComponent, hasTag_withReturns, hasWord_withReturns (by decide),
    hasWord_withReturns (by decide)]

theorem isTyped_withReturns (text : List Char) : isTyped (withReturns text) = isTyped text := by
  rw [isTyped, isTyped, hasWord_withReturns (by decide), hasWord_withReturns (by decide),
    hasWord_withReturns (by decide)]

theorem override?_withReturns (text : List Char) :
    override? (withReturns text) = override? text := by
  rw [override?, override?, isComponent_withReturns, isTyped_withReturns]

end Component

theorem isBlank_withReturns (text : List Char) : isBlank (withReturns text) = isBlank text := by
  induction text with
  | nil => rfl
  | cons c rest ih =>
    rw [isBlank] at ih ⊢
    by_cases h : c = '\n'
    · subst h
      rw [withReturns_lineFeed, List.all_cons, List.all_cons, ih]
      rfl
    · rw [withReturns_cons h, List.all_cons, ih]
      rfl

/-! ## The built-in signals -/

/-- Line breaks cannot touch any of the built-in signals but the first. -/
theorem isBreakProof_of_mem_builtinRegexes : ∀ r ∈ builtinRegexes.tail, r.isBreakProof := by
  decide +kernel

/-- All signals but the first find as much with carriage returns as without. -/
theorem count_withReturns_of_ne_zero (hclean : '\r' ∉ text) {i : Nat} {s : Signal}
    (hs : builtinSignals[i]? = some s) (hi : i ≠ 0) :
    s.count (withReturns text) = s.count text := by
  obtain ⟨spec, r, hr, rfl⟩ := exists_of_getElem?_builtinSignals hs
  obtain ⟨j, rfl⟩ := Nat.exists_eq_succ_of_ne_zero hi
  rw [← List.getElem?_tail] at hr
  have htail : r ∈ builtinRegexes.tail := List.mem_of_getElem? hr
  exact Pattern.Automaton.count_withReturns (isBreakProof_of_mem_builtinRegexes r htail)
    (isSteady_of_mem_builtinRegexes r (List.mem_of_mem_tail htail)) hclean

namespace Detector

/-- **Line ends do not matter outside the first signal.** If every line feed of a text without
carriage returns is given one, each of the 27 built-in signals but the first matches as often as
before, and the points for component markup are the same. If the first signal matches as often too,
the text is classified as before. -/
theorem standard_ignores_line_ends {code code' : String} (hclean : '\r' ∉ code.toList)
    (hcode' : code'.toList = withReturns code.toList) :
    (standard? = .ok standard ∧ standard.signals.length = 27) ∧
    (∀ i s, standard.signals[i]? = some s → i ≠ 0 → s.count code'.toList = s.count code.toList) ∧
    Component.override? code'.toList = Component.override? code.toList ∧
    ((∀ s, standard.signals[0]? = some s → s.count code'.toList = s.count code.toList) →
      standard.classify code' = standard.classify code) := by
  rw [standard_eq, hcode']
  have hover := Component.override?_withReturns code.toList
  refine ⟨⟨standard?_eq, length_builtinSignals⟩,
    fun i s hs hi => count_withReturns_of_ne_zero hclean hs hi, hover, fun hfirst => ?_⟩
  have hall : ∀ s ∈ builtinSignals, s.count (withReturns code.toList) = s.count code.toList := by
    intro s hs
    obtain ⟨i, hi⟩ := List.getElem?_of_mem hs
    rcases Nat.eq_zero_or_pos i with rfl | hpos
    · exact hfirst s hi
    · exact count_withReturns_of_ne_zero hclean hi (Nat.ne_of_gt hpos)
  simp only [classify, Polyglot.classify, hcode', isBlank_withReturns,
    standings_congr hall hover]

/-- The first signal takes the white space between `a` and `from` as a whole. -/
theorem count_import_lines :
    (builtinSpecs[0].signalOf builtinRegexes[0]).count "import a\n  from 'b'".toList = 1 ∧
      (builtinSpecs[0].signalOf builtinRegexes[0]).count "import a\r\n  from 'b'".toList = 1 := by
  have hsteady : builtinRegexes[0].isSteady := by decide
  simp only [Signal.count, SignalSpec.signalOf, Pattern.Automaton.count_eq_tally hsteady]
  decide +kernel

/-- An import over two lines is found with either kind of line end. -/
theorem standard_ignores_line_ends_import :
    '\r' ∉ "import a\n  from 'b'".toList ∧
      "import a\r\n  from 'b'".toList = withReturns "import a\n  from 'b'".toList ∧
      ∃ s, standard.signals[0]? = some s ∧ s.count "import a\n  from 'b'".toList = 1 ∧
        standard.classify "import a\r\n  from 'b'" = standard.classify "import a\n  from 'b'" := by
  have hclean : '\r' ∉ "import a\n  from 'b'".toList := by decide
  have hcode' : "import a\r\n  from 'b'".toList = withReturns "import a\n  from 'b'".toList := by
    decide
  have hfirst : standard.signals[0]? = some (builtinSpecs[0].signalOf builtinRegexes[0]) := by
    rw [standard_eq]
    exact getElem?_builtinSignals (by decide) (by decide)
  obtain ⟨hcount, hcount'⟩ := count_import_lines
  obtain ⟨-, -, -, hclassify⟩ := standard_ignores_line_ends hclean hcode'
  refine ⟨hclean, hcode', _, hfirst, hcount, hclassify fun s hs => ?_⟩
  obtain rfl := Option.some.inj (hfirst.symm.trans hs)
  rw [hcount, hcount']

end Detector

/-- The first signal takes a line end of two characters for white space in two places. -/
example : (builtinRegexes[0].isBreakProof = false) ∧
    (Pattern.Automaton.ofRegex builtinRegexes[0]).count "import\nfrom 'b'".toList = 0 ∧
    (Pattern.Automaton.ofRegex builtinRegexes[0]).count "import\r\nfrom 'b'".toList = 1 := by
  have hsteady : builtinRegexes[0].isSteady := by decide
  simp only [Pattern.Automaton.count_eq_tally hsteady]
  decide +kernel

end Polyglot
