import Mathlib.Data.List.DropRight
import Polyglot.Proofs.Signal.Parts

/-!
# Texts between braces

The built-in signal for JSON matches a text that is between braces, white space around it aside, and
matches it once; it matches no other text (`Detector.standard_counts_objects`). The white space of
its expression is that by which a text is blank.
-/

namespace Polyglot

open Pattern (Automaton Regex Place Side places mem_placesFrom regexOf)
open Unicode (CharSet isWhiteSpace whiteSpace)

variable {text : List Char} {p : Place}

/-! ## White space around a text -/

/-- The text without white space at its ends. -/
def trimmed (text : List Char) : List Char :=
  (text.dropWhile isWhiteSpace).rdropWhile isWhiteSpace

/-- The text is blank if nothing is left of it. -/
theorem isBlank_iff_trimmed : isBlank text ↔ trimmed text = [] := by
  rw [trimmed, List.rdropWhile_eq_nil_iff, isBlank, List.all_eq_true]
  constructor
  · intro h c hc
    exact h c ((List.dropWhile_suffix _).subset hc)
  · intro h
    -- what is dropped at the front is white space too
    rw [← List.takeWhile_append_dropWhile (p := isWhiteSpace) (l := text)]
    exact List.forall_mem_append.mpr ⟨fun c hc => List.mem_takeWhile_imp hc, h⟩

/-- The text begins with an opening brace and ends with a closing one. -/
structure IsBraced (text : List Char) : Prop where
  opens : text.head? = some '{'
  closes : text.getLast? = some '}'
  length : 2 ≤ text.length

instance : Decidable (IsBraced text) :=
  decidable_of_iff (text.head? = some '{' ∧ text.getLast? = some '}' ∧ 2 ≤ text.length)
    ⟨fun ⟨h, h', h''⟩ => ⟨h, h', h''⟩, fun ⟨h, h', h''⟩ => ⟨h, h', h''⟩⟩

/-- A text in braces begins with one brace and ends with another. -/
theorem isBraced_iff : IsBraced text ↔ ∃ inside, text = '{' :: (inside ++ ['}']) := by
  constructor
  · rintro ⟨hopens, hcloses, hlength⟩
    obtain ⟨rest, rfl⟩ := List.head?_eq_some_iff.mp hopens
    have hne : rest ≠ [] := by
      rintro rfl
      exact absurd hlength (by decide)
    rw [List.getLast?_cons_of_ne_nil hne] at hcloses
    obtain ⟨inside, rfl⟩ := List.getLast?_eq_some_iff.mp hcloses
    exact ⟨inside, rfl⟩
  · rintro ⟨inside, rfl⟩
    exact ⟨rfl, by simp [List.getLast?_cons], by simp⟩

/-- White space, then what is between braces, then white space again. -/
def IsObject (text : List Char) : Prop := ∃ before inside after,
  text = before ++ '{' :: (inside ++ '}' :: after) ∧
    (∀ c ∈ before, isWhiteSpace c) ∧ ∀ c ∈ after, isWhiteSpace c

/-- White space at the end is dropped up to a character of another kind. -/
theorem rdropWhile_append_of_pos {q : Char → Bool} {c : Char} (hc : ¬q c) {after : List Char}
    (hafter : ∀ d ∈ after, q d) (ahead : List Char) :
    (ahead ++ c :: after).rdropWhile q = ahead ++ [c] := by
  induction after using List.reverseRecOn with
  | nil => exact List.rdropWhile_concat_neg q ahead c hc
  | append_singleton after d ih =>
    obtain ⟨hafter, hd⟩ := List.forall_mem_append.mp hafter
    rw [← List.cons_append, ← List.append_assoc,
      List.rdropWhile_concat_pos q _ d (hd d (List.mem_singleton_self d)), ih hafter]

/-- White space around an object makes no difference. -/
theorem isObject_iff : IsObject text ↔ IsBraced (trimmed text) := by
  rw [isBraced_iff]
  constructor
  · rintro ⟨before, inside, after, rfl, hbefore, hafter⟩
    refine ⟨inside, ?_⟩
    have hopen : ¬isWhiteSpace '{' := by decide
    have hclose : ¬isWhiteSpace '}' := by decide
    rw [trimmed, List.dropWhile_append_of_pos hbefore, List.dropWhile_cons_of_neg hopen,
      ← List.cons_append, rdropWhile_append_of_pos hclose hafter, List.cons_append]
  · rintro ⟨inside, htrimmed⟩
    refine ⟨text.takeWhile isWhiteSpace, inside,
      (text.dropWhile isWhiteSpace).rtakeWhile isWhiteSpace, ?_,
      fun c hc => List.mem_takeWhile_imp hc, fun c hc => List.mem_rtakeWhile_imp hc⟩
    calc
      text
      _ = text.takeWhile isWhiteSpace ++ text.dropWhile isWhiteSpace :=
        List.takeWhile_append_dropWhile.symm
      _ = text.takeWhile isWhiteSpace ++
          (trimmed text ++ (text.dropWhile isWhiteSpace).rtakeWhile isWhiteSpace) := by
        rw [trimmed, List.rdropWhile_append_rtakeWhile]
      _ = text.takeWhile isWhiteSpace ++ '{' :: (inside ++ '}' ::
          (text.dropWhile isWhiteSpace).rtakeWhile isWhiteSpace) := by
        rw [htrimmed, List.cons_append, List.append_assoc, List.singleton_append]

/-! ## The expression -/

section

open Pattern.Regex

/-- What the expression for objects takes between the two ends of the text. -/
def objectParts : List Regex :=
  blanks ++ letters "\x7b" ++ many .all ++ letters "\x7d" ++ blanks

/-- The signal for objects looks at the whole text. -/
theorem builtinRegexes_objects : builtinRegexes[22]? =
    some (series ([assert .textStart] ++ (objectParts ++ [assert .textEnd]))) := rfl

theorem takes_blanks : (series blanks).Takes fun taken => ∀ c ∈ taken, isWhiteSpace c :=
  takes_many whiteSpace

/-- The parts between the ends of the text take objects. -/
theorem takes_objectParts : (series objectParts).Takes IsObject := by
  have hopen := takes_letters "\x7b"
  have hinside := takes_many .all
  have hclose := takes_letters "\x7d"
  have hparts := takes_append (takes_append (takes_append (takes_append takes_blanks hopen)
    hinside) hclose) takes_blanks
  refine hparts.congr fun taken => ?_
  constructor
  · rintro ⟨_, after, rfl, ⟨_, _, rfl, ⟨_, inside, rfl, ⟨before, _, rfl, hbefore, rfl⟩, -⟩, rfl⟩,
      hafter⟩
    exact ⟨before, inside, after, by simp, hbefore, hafter⟩
  · rintro ⟨before, inside, after, rfl, hbefore, hafter⟩
    refine ⟨before ++ '{' :: inside ++ ['}'], after, by simp, ⟨_, _, rfl, ⟨before ++ ['{'], inside,
      by simp, ⟨before, _, rfl, hbefore, rfl⟩, fun c _ => CharSet.contains_all c⟩, rfl⟩, hafter⟩

/-- The expression for objects leads from the beginning of the text to its end. -/
theorem mem_ways_objects {q : Place} :
    q ∈ (series ([assert .textStart] ++ (objectParts ++ [assert .textEnd]))).ways p ↔
      p.before = .edge ∧ q ∈ (series objectParts).ways p ∧ q.rest = [] := by
  have hstart (m : Place) :
      m ∈ (series [assert .textStart]).ways p ↔ m = p ∧ p.before = .edge :=
    mem_ways_assert.trans (and_congr_right fun _ => beq_iff_eq)
  have hend (m : Place) : q ∈ (series [assert .textEnd]).ways m ↔ q = m ∧ m.rest = [] :=
    mem_ways_assert.trans (and_congr_right fun _ => beq_iff_eq.trans Side.ofHead_eq_edge_iff)
  rw [mem_ways_series_append]
  constructor
  · rintro ⟨m, hm, hq⟩
    obtain ⟨rfl, hedge⟩ := (hstart m).mp hm
    obtain ⟨m', hm', hq⟩ := mem_ways_series_append.mp hq
    obtain ⟨rfl, hrest⟩ := (hend m').mp hq
    exact ⟨hedge, hm', hrest⟩
  · rintro ⟨hedge, hq, hrest⟩
    exact ⟨p, (hstart p).mpr ⟨rfl, hedge⟩,
      mem_ways_series_append.mpr ⟨q, hq, (hend q).mpr ⟨rfl, hrest⟩⟩⟩

end

/-- The expression leads on from the beginning of an object, and to its end. -/
theorem ways_objects_ne_nil_iff {r : Regex} (hr : builtinRegexes[22]? = some r) :
    r.ways p ≠ [] ↔ p.before = .edge ∧ IsObject p.rest := by
  obtain rfl := Option.some.inj (builtinRegexes_objects.symm.trans hr)
  constructor
  · intro hne
    obtain ⟨q, hq⟩ := List.exists_mem_of_ne_nil _ hne
    obtain ⟨hedge, hq, hrest⟩ := mem_ways_objects.mp hq
    obtain ⟨taken, htaken, htext⟩ := (takes_objectParts p.before p.rest q.rest).mp ⟨q.before, hq⟩
    rw [htext, hrest, List.append_nil]
    exact ⟨hedge, htaken⟩
  · rintro ⟨hedge, hobject⟩
    obtain ⟨y, hy⟩ :=
      (takes_objectParts p.before p.rest []).mpr ⟨p.rest, hobject, (List.append_nil _).symm⟩
    exact List.ne_nil_of_mem (mem_ways_objects.mpr ⟨hedge, hy, rfl⟩)

/-- A place at the beginning of a text is the first one. -/
theorem eq_start_of_edge (hp : p ∈ places text) (hedge : p.before = .edge) : p = ⟨.edge, text⟩ := by
  rcases mem_placesFrom.mp hp with hp | ⟨ahead, c, -, hbefore⟩
  · exact hp
  · exact absurd (hbefore.symm.trans hedge) (Side.ofChar_ne_edge c)

/-- No match of the expression for objects follows another: the first goes on to the end. -/
theorem isSole_objects {r : Regex} (hr : builtinRegexes[22]? = some r)
    (text : List Char) : r.IsSole (places text) := by
  intro p _ stop hstop q _ hbehind
  obtain ⟨m, hm, rfl⟩ := Regex.exists_of_stop?_eq_some hstop
  have hend : m.rest = [] := by
    obtain rfl := Option.some.inj (builtinRegexes_objects.symm.trans hr)
    exact (mem_ways_objects.mp (List.mem_of_mem_head? hm)).2.2
  rw [hend, List.length_nil, Nat.le_zero, List.length_eq_zero_iff] at hbehind
  -- no object is found at the end of the text
  rw [Regex.stop?_eq_none_iff]
  refine Decidable.byContradiction fun hne => ?_
  obtain ⟨-, before, inside, after, htext, -⟩ := (ways_objects_ne_nil_iff hr).mp hne
  simp [hbehind] at htext

theorem count_objects {r : Regex} (hr : builtinRegexes[22]? = some r) (text : List Char) :
    (Automaton.ofRegex r).count text = if IsBraced (trimmed text) then 1 else 0 := by
  have hsteady := isSteady_of_mem_builtinRegexes r (List.mem_of_getElem? hr)
  have hle := Automaton.count_le_one hsteady (isSole_objects hr text)
  have hzero : (Automaton.ofRegex r).count text = 0 ↔ ¬IsBraced (trimmed text) := by
    rw [Automaton.count_eq_zero_iff hsteady, ← isObject_iff]
    constructor
    · intro hnone hobject
      have hstart : (⟨.edge, text⟩ : Place) ∈ places text := mem_placesFrom.mpr (.inl rfl)
      exact (ways_objects_ne_nil_iff hr).mpr ⟨rfl, hobject⟩ (hnone _ hstart)
    · intro hnot p hp
      refine Decidable.byContradiction fun hne => hnot ?_
      obtain ⟨hedge, hobject⟩ := (ways_objects_ne_nil_iff hr).mp hne
      rwa [eq_start_of_edge hp hedge] at hobject
  split
  · next h =>
    have := mt hzero.mp (not_not.mpr h)
    omega
  · next h => exact hzero.mpr h

/-! ## White space in patterns -/

theorem compile_space : Pattern.compile "\\s" false = .ok (.ofRegex (.one whiteSpace)) := by
  have hread : (regexOf "\\s" false).toOption = some (.one whiteSpace) := by decide +kernel
  cases hregex : regexOf "\\s" false with
  | error fault =>
    rw [hregex] at hread
    cases hread
  | ok r =>
    rw [hregex] at hread
    obtain rfl := Option.some.inj hread
    rw [Pattern.compile, hregex]
    rfl

/-- The class of white space agrees with what makes a text blank. -/
theorem count_space (c : Char) : 0 < (Automaton.ofRegex (.one whiteSpace)).count [c] ↔
    isBlank [c] := by
  have hzero : (Automaton.ofRegex (.one whiteSpace)).count [c] = 0 ↔ ¬isBlank [c] := by
    rw [Automaton.count_eq_zero_iff rfl]
    simp [Pattern.placesFrom, Regex.ways, isBlank, isWhiteSpace]
  rw [Nat.pos_iff_ne_zero, ne_eq, hzero, not_not]

namespace Detector

/-- **The signal for JSON recognizes exactly the texts between braces.** It matches a text once if
the text begins and ends with a brace, white space around it aside, and never otherwise. The white
space that the class `\s` accepts is the same by which a text is blank, which it is if nothing is
left of it without the white space around it. -/
theorem standard_counts_objects (code : String) :
    standard? = .ok standard ∧
    (∃ s, standard.signals[22]? = some s ∧ s.language = "json" ∧
      s.count code.toList = if IsBraced (trimmed code.toList) then 1 else 0) ∧
    (isBlank code.toList ↔ trimmed code.toList = []) ∧
    ∃ space, Pattern.compile "\\s" false = .ok space ∧
      ∀ c, 0 < space.count [c] ↔ isBlank [c] := by
  rw [standard_eq]
  refine ⟨standard?_eq, ?_, isBlank_iff_trimmed, _, compile_space, count_space⟩
  exact ⟨_, getElem?_builtinSignals (by decide) (by decide), rfl, count_objects rfl code.toList⟩

end Detector

end Polyglot
