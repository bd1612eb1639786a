import Polyglot.Proofs.Signal.Parts

/-!
# Documents with elements

The first built-in signal for HTML looks for an opening tag and, anywhere after it, a closing one.
It matches a text once if there are such tags and not at all otherwise, however many elements there
are (`Detector.standard_counts_elements_once`): between the two tags it takes as much of the text as
it can, so no closing tag is left after the first match.
-/

namespace Polyglot

open Pattern (Automaton Place Regex Side exists_mem_placesFrom isNameChar places placesFrom
  suffix_of_mem_placesFrom)
open Unicode (CharSet)

variable {text : List Char} {p : Place} {r : Regex} (hr : builtinRegexes[7]? = some r)

/-! ## Tags -/

/-- A `<` with a character of a name after it, then anything up to the first `>`. -/
def IsOpeningTag (text : List Char) : Prop := ∃ first inside,
  text = '<' :: first :: (inside ++ ['>']) ∧ isNameChar first ∧ '>' ∉ inside

/-- A name between `</` and `>`. -/
def IsClosingTag (text : List Char) : Prop := ∃ name,
  text = '<' :: '/' :: (name ++ ['>']) ∧ name ≠ [] ∧ ∀ c ∈ name, isNameChar c

/-- Somewhere in the text there is an opening tag, and somewhere after it a closing one. -/
def HasElement (text : List Char) : Prop := ∃ before opening between closing after,
  text = before ++ opening ++ between ++ closing ++ after ∧
    IsOpeningTag opening ∧ IsClosingTag closing

/-! ## The expression -/

section

open Pattern.Regex

def openingParts : List Regex :=
  letters "<" ++ name ++ many (allBut '>') ++ letters ">"

def closingParts : List Regex := letters "</" ++ name ++ letters ">"

/-- The signal for elements looks for an opening tag, anything and a closing tag. -/
theorem builtinRegexes_elements : builtinRegexes[7]? =
    some (series (openingParts ++ (many .all ++ closingParts))) := rfl

theorem takes_name : (series name).Takes fun taken =>
    taken ≠ [] ∧ ∀ c ∈ taken, isNameChar c := by
  refine (takes_several _).congr fun taken => ?_
  simp only [Pattern.contains_asciiWordSet]

/-- The first part takes opening tags. -/
theorem takes_openingParts : (series openingParts).Takes IsOpeningTag := by
  have hparts := takes_append (takes_append (takes_append (takes_letters "<") takes_name)
    (takes_many (allBut '>'))) (takes_letters ">")
  have hallBut (c : Char) : (allBut '>').contains c ↔ c ≠ '>' := by
    rw [allBut, CharSet.contains_complement_single, bne_iff_ne]
  refine hparts.congr fun taken => ?_
  constructor
  · rintro ⟨_, _, rfl, ⟨_, inside, rfl, ⟨_, name, rfl, rfl, hne, hname⟩, hinside⟩, rfl⟩
    obtain ⟨first, name, rfl⟩ := List.exists_cons_of_ne_nil hne
    obtain ⟨hfirst, hname⟩ := List.forall_mem_cons.mp hname
    -- no character of a name ends a tag
    refine ⟨first, name ++ inside, by simp, hfirst, List.not_mem_append ?_ ?_⟩
    · exact fun hmem => absurd (hname _ hmem) (by decide)
    · exact fun hmem => (hallBut _).mp (hinside _ hmem) rfl
  · rintro ⟨first, inside, rfl, hfirst, hinside⟩
    refine ⟨_, _, ?_, ⟨_, inside, rfl, ⟨_, [first], rfl, rfl, by simp, by simpa using hfirst⟩,
      fun c hc => (hallBut c).mpr ?_⟩, rfl⟩
    · simp
    · rintro rfl
      exact hinside hc

/-- The last part takes closing tags. -/
theorem takes_closingParts : (series closingParts).Takes IsClosingTag := by
  have hparts := takes_append (takes_append (takes_letters "</") takes_name) (takes_letters ">")
  refine hparts.congr fun taken => ?_
  constructor
  · rintro ⟨_, _, rfl, ⟨_, name, rfl, rfl, hne, hname⟩, rfl⟩
    exact ⟨name, by simp, hne, hname⟩
  · rintro ⟨name, rfl, hne, hname⟩
    exact ⟨'<' :: '/' :: name, _, rfl, ⟨_, name, rfl, rfl, hne, hname⟩, rfl⟩

/-- Anything is taken up to the end of the text first, and then up to each place before it. -/
theorem ways_many_all (x : Side) (text : List Char) :
    (series (many .all)).ways ⟨x, text⟩ = (placesFrom x text).reverse := by
  rw [many, series]
  induction text generalizing x with
  | nil => rfl
  | cons c rest ih =>
    rw [ways_many_cons, if_pos (CharSet.contains_all c), ih, placesFrom, List.reverse_cons]

/-- A list is searched from its end, so nothing is found at the places behind the one that is
found. -/
theorem exists_last_of_head?_flatMap {x : Side} {m : Place} {further : Place → List Place}
    (h : ((placesFrom x text).reverse.flatMap further).head? = some m) :
    ∃ e ∈ placesFrom x text, m ∈ further e ∧
      ∀ e' ∈ placesFrom x text, e'.rest.length < e.rest.length → further e' = [] := by
  induction text generalizing x with
  | nil =>
    refine ⟨⟨x, []⟩, List.mem_singleton_self _, ?_, fun e' _ hlt => absurd hlt (Nat.not_lt_zero _)⟩
    exact List.mem_of_mem_head? (by simpa [placesFrom] using h)
  | cons c rest ih =>
    rw [placesFrom, List.reverse_cons, List.flatMap_append, List.head?_append] at h
    rcases Option.or_eq_some_iff.mp h with h | ⟨hnone, h⟩
    · obtain ⟨e, he, hm, hbehind⟩ := ih h
      refine ⟨e, List.mem_cons_of_mem _ he, hm, List.forall_mem_cons.mpr ⟨fun hlt => ?_, hbehind⟩⟩
      have := (suffix_of_mem_placesFrom he).length_le
      simp only [List.length_cons] at hlt
      omega
    · -- nothing is found behind the first place
      rw [List.head?_eq_none_iff, List.flatMap_eq_nil_iff] at hnone
      refine ⟨⟨x, c :: rest⟩, List.mem_cons_self .., ?_, List.forall_mem_cons.mpr ⟨?_, ?_⟩⟩
      · exact List.mem_of_mem_head? (by simpa using h)
      · exact fun hlt => absurd hlt (Nat.lt_irrefl _)
      · exact fun e' he' _ => hnone e' (List.mem_reverse.mpr he')

/-! ## How many matches there are -/

include hr in
/-- Behind the opening tag the last places come first, so the match runs to the last closing tag. -/
theorem ways_elements (p : Place) : r.ways p = ((series openingParts).ways p).flatMap fun f =>
    (placesFrom f.before f.rest).reverse.flatMap (series closingParts).ways := by
  obtain rfl := Option.some.inj (builtinRegexes_elements.symm.trans hr)
  rw [ways_series_append]
  refine List.flatMap_congr fun f _ => ?_
  rw [ways_series_append, ways_many_all]

include hr in
/-- There is a match from a place if an opening tag begins there and a closing tag comes later. -/
theorem ways_elements_ne_nil_iff : r.ways p ≠ [] ↔ ∃ opening between closing after,
    p.rest = opening ++ between ++ closing ++ after ∧
      IsOpeningTag opening ∧ IsClosingTag closing := by
  have htakes := takes_append takes_openingParts (takes_append (takes_many .all) takes_closingParts)
  obtain rfl := Option.some.inj (builtinRegexes_elements.symm.trans hr)
  rw [htakes.ways_ne_nil_iff]
  constructor
  · rintro ⟨_, after, ⟨opening, _, rfl, hopening, between, closing, rfl, -, hclosing⟩, hrest⟩
    exact ⟨opening, between, closing, after, by simp [hrest], hopening, hclosing⟩
  · rintro ⟨opening, between, closing, after, hrest, hopening, hclosing⟩
    exact ⟨opening ++ (between ++ closing), after, ⟨opening, _, rfl, hopening, between, closing, rfl,
      fun c _ => CharSet.contains_all c, hclosing⟩, by simp [hrest]⟩

include hr in
/-- **No match of the expression for elements follows another.** A match ends with a closing tag
behind which there is no other. -/
theorem isSole_elements (text : List Char) : r.IsSole (places text) := by
  intro p hp stop hstop q hq hbehind
  obtain ⟨m, hm, rfl⟩ := Regex.exists_of_stop?_eq_some hstop
  rw [ways_elements hr, List.head?_flatMap] at hm
  obtain ⟨f, hf, hm⟩ := List.exists_of_findSome?_eq_some hm
  obtain ⟨e, he, hm, hlast⟩ := exists_last_of_head?_flatMap hm
  rw [Regex.stop?_eq_none_iff]
  refine Decidable.byContradiction fun hne => ?_
  obtain ⟨opening, between, closing, after, hrest, -, hclosing⟩ :=
    (ways_elements_ne_nil_iff hr).mp hne
  have hafter : closing ++ after <:+ q.rest :=
    ⟨opening ++ between, by rw [hrest, List.append_assoc _ closing]⟩
  -- the closing tag stands behind the one that ends the match
  have hlt : (closing ++ after).length < e.rest.length := by
    have := hafter.length_le
    have := Regex.length_of_mem_ways hm
    have hmin : (series closingParts).minLength = 4 := by decide
    omega
  have hsuffix : closing ++ after <:+ f.rest := by
    refine List.suffix_of_suffix_length_le (hafter.trans (suffix_of_mem_placesFrom hq))
      ((Regex.suffix_of_mem_ways hf).trans (suffix_of_mem_placesFrom hp)) ?_
    have := (suffix_of_mem_placesFrom he).length_le
    omega
  obtain ⟨e', he', hrest'⟩ := exists_mem_placesFrom hsuffix
  refine (takes_closingParts.ways_ne_nil_iff).mpr ⟨closing, after, hclosing, hrest'⟩ ?_
  exact hlast e' he' (hrest' ▸ hlt)

end

include hr in
/-- Nothing is left for a second match. -/
theorem count_elements_le_one (text : List Char) : (Automaton.ofRegex r).count text ≤ 1 :=
  Automaton.count_le_one (isSteady_of_mem_builtinRegexes r (List.mem_of_getElem? hr))
    (isSole_elements hr text)

include hr in
theorem count_elements_eq_zero_iff (text : List Char) :
    (Automaton.ofRegex r).count text = 0 ↔ ¬HasElement text := by
  rw [Automaton.count_eq_zero_iff (isSteady_of_mem_builtinRegexes r (List.mem_of_getElem? hr))]
  constructor
  · rintro hnone ⟨before, opening, between, closing, after, htext, hopening, hclosing⟩
    have hsuffix : opening ++ between ++ closing ++ after <:+ text :=
      ⟨before, by simp [htext]⟩
    obtain ⟨p, hp, hrest⟩ := exists_mem_placesFrom hsuffix
    exact (ways_elements_ne_nil_iff hr).mpr
      ⟨opening, between, closing, after, hrest, hopening, hclosing⟩ (hnone p hp)
  · intro hnot p hp
    refine Decidable.byContradiction fun hne => hnot ?_
    obtain ⟨opening, between, closing, after, hrest, hopening, hclosing⟩ :=
      (ways_elements_ne_nil_iff hr).mp hne
    obtain ⟨before, htext⟩ := suffix_of_mem_placesFrom hp
    exact ⟨before, opening, between, closing, after, by simp [← htext, hrest], hopening, hclosing⟩

include hr in
/-- There is a match exactly if the text has an element. -/
theorem count_elements_eq_one_iff (text : List Char) :
    (Automaton.ofRegex r).count text = 1 ↔ HasElement text := by
  have hle := count_elements_le_one hr text
  have hzero := not_congr (count_elements_eq_zero_iff hr text)
  rw [not_not] at hzero
  rw [← hzero]
  omega

/-- A signal that matches once gives its weight, which is below the largest number of points. -/
theorem Signal.score_of_count_le_one {s : Signal} {code : List Char} (h : s.count code ≤ 1) :
    s.score code = 0 ∨ s.score code = s.weight.toNat := by
  rcases Nat.le_one_iff_eq_zero_or_eq_one.mp h with h | h
  · left
    rw [score, h, Nat.zero_mul]
    rfl
  · right
    have hweight : s.weight.toNat ≤ maxPoints :=
      Nat.le_trans (Nat.le_of_lt s.weight.toNat_lt) (by decide)
    rw [score, h, Nat.one_mul, capped, Nat.min_eq_left hweight]

namespace Detector

/-- **The element signal for HTML counts a document once.** However many elements a text has, the
signal matches it once at most, so it adds 0 or 3 to the score of HTML, and it matches if and only
if there is an opening tag and somewhere after it a closing one. -/
theorem standard_counts_elements_once (code : String) :
    standard? = .ok standard ∧
    ∃ s, standard.signals[7]? = some s ∧ s.language = "html" ∧
      s.count code.toList ≤ 1 ∧
      (s.count code.toList = 1 ↔ HasElement code.toList) ∧
      (s.score code.toList = 0 ∨ s.score code.toList = 3) := by
  rw [standard_eq]
  refine ⟨standard?_eq, _, getElem?_builtinSignals (by decide) (by decide), rfl, ?_⟩
  have hle := count_elements_le_one rfl code.toList
  exact ⟨hle, count_elements_eq_one_iff rfl code.toList, Signal.score_of_count_le_one hle⟩

end Detector

end Polyglot
