import Polyglot.Proofs.Pattern.Occurrences
import Polyglot.Proofs.Signal.Builtin
import Polyglot.Proofs.Text.Bytes
import Polyglot.Proofs.Unicode.Sets

/-!
# What the parts of the built-in expressions take

The built-in expressions are rows of small parts: words, single characters, and loops over the
characters of a set. What such a row can take of a text is said in terms of lists (`Regex.Takes`),
one lemma for each kind of part and one for rows that follow one another.
-/

namespace Polyglot

namespace Pattern

/-- A character of a name in ASCII: one of the letters and digits, or an underscore. -/
def isNameChar (c : Char) : Bool := c.isAlphanum || c == '_'

theorem contains_asciiWordSet (c : Char) : asciiWordSet.contains c = isNameChar c := by
  by_cases hc : Text.IsAscii c
  · exact Text.forall_ascii (p := fun c => asciiWordSet.contains c = isNameChar c)
      (by decide +kernel) hc
  · have hset : asciiWordSet.contains c = false :=
      Bool.eq_false_iff.mpr fun h => hc (Unicode.CharSet.lt_of_contains_isAscii (by decide) h)
    have hname : isNameChar c = false := by
      refine Bool.eq_false_iff.mpr fun h => hc ?_
      rcases Bool.or_eq_true_iff.mp h with h | h
      · exact Text.isAscii_of_isAlphanum h
      · exact eq_of_beq h ▸ by decide
    rw [hset, hname]

namespace Regex

open Unicode (CharSet whiteSpace)

variable {r : Regex} {l l' : List Regex} {P Q : List Char → Prop} {p : Place} {set : CharSet}

/-- The expression leads over the texts with the property, and over no others. -/
def Takes (r : Regex) (P : List Char → Prop) : Prop :=
  ∀ x text rest, (∃ y, ⟨y, rest⟩ ∈ r.ways ⟨x, text⟩) ↔ ∃ taken, P taken ∧ text = taken ++ rest

/-- What an expression takes may be said in other words. -/
theorem Takes.congr (h : r.Takes P) (hPQ : ∀ taken, P taken ↔ Q taken) : r.Takes Q := by
  intro x text rest
  rw [h x text rest]
  exact exists_congr fun taken => and_congr_left fun _ => hPQ taken

/-- The expression leads somewhere from a place if the text there begins with what it takes. -/
theorem Takes.ways_ne_nil_iff (h : r.Takes P) :
    r.ways p ≠ [] ↔ ∃ taken rest, P taken ∧ p.rest = taken ++ rest := by
  constructor
  · intro hne
    obtain ⟨q, hq⟩ := List.exists_mem_of_ne_nil _ hne
    obtain ⟨taken, htaken, htext⟩ := (h p.before p.rest q.rest).mp ⟨q.before, hq⟩
    exact ⟨taken, q.rest, htaken, htext⟩
  · rintro ⟨taken, rest, htaken, htext⟩
    obtain ⟨y, hy⟩ := (h p.before p.rest rest).mpr ⟨taken, htaken, htext⟩
    exact List.ne_nil_of_mem hy

/-! ## Rows of parts -/

theorem ways_series_cons (a : Regex) (l : List Regex) (p : Place) :
    (series (a :: l)).ways p = (a.ways p).flatMap (series l).ways := by
  cases l with
  | nil => exact (List.flatMap_singleton' _).symm
  | cons b l => rfl

/-- A row of expressions leads from where the row before it has led to. -/
theorem ways_series_append (l l' : List Regex) (p : Place) :
    (series (l ++ l')).ways p = ((series l).ways p).flatMap (series l').ways := by
  induction l generalizing p with
  | nil =>
    rw [List.nil_append, series, ways, List.flatMap_singleton]
  | cons a l ih =>
    rw [List.cons_append, ways_series_cons, ways_series_cons, List.flatMap_assoc]
    exact List.flatMap_congr fun q _ => ih q

theorem mem_ways_series_append {q : Place} :
    q ∈ (series (l ++ l')).ways p ↔ ∃ m ∈ (series l).ways p, q ∈ (series l').ways m := by
  rw [ways_series_append, List.mem_flatMap]

theorem takes_cat {a b : Regex} (ha : a.Takes P) (hb : b.Takes Q) :
    (cat a b).Takes fun taken => ∃ v w, taken = v ++ w ∧ P v ∧ Q w := by
  intro x text rest
  simp only [ways, List.mem_flatMap]
  constructor
  · rintro ⟨y, m, hm, hy⟩
    obtain ⟨v, hv, hfirst⟩ := (ha x text m.rest).mp ⟨m.before, hm⟩
    obtain ⟨w, hw, hsecond⟩ := (hb m.before m.rest rest).mp ⟨y, hy⟩
    exact ⟨v ++ w, ⟨v, w, rfl, hv, hw⟩, by rw [hfirst, hsecond, List.append_assoc]⟩
  · rintro ⟨_, ⟨v, w, rfl, hv, hw⟩, rfl⟩
    obtain ⟨z, hz⟩ := (ha x _ (w ++ rest)).mpr ⟨v, hv, List.append_assoc ..⟩
    obtain ⟨y, hy⟩ := (hb z _ rest).mpr ⟨w, hw, rfl⟩
    exact ⟨y, _, hz, hy⟩

/-- One row takes something, and then the next row takes something. -/
theorem takes_append (h : (series l).Takes P) (h' : (series l').Takes Q) :
    (series (l ++ l')).Takes fun taken => ∃ v w, taken = v ++ w ∧ P v ∧ Q w := by
  intro x text rest
  rw [ways_series_append]
  exact takes_cat h h' x text rest

/-! ## Kinds of parts -/

theorem takes_one : (one set).Takes fun taken => ∃ c, set.contains c ∧ taken = [c] := by
  intro x text rest
  simp only [mem_ways_one]
  constructor
  · rintro ⟨y, c, hc, htext, -⟩
    exact ⟨[c], ⟨c, hc, rfl⟩, htext⟩
  · rintro ⟨_, ⟨c, hc, rfl⟩, htext⟩
    exact ⟨_, c, hc, htext, rfl⟩

/-- The letters of a word take the word. -/
theorem takes_letters (word : String) : (series (letters word)).Takes (· = word.toList) := by
  rw [letters]
  induction word.toList with
  | nil =>
    intro x text rest
    simp [series, ways, eq_comm]
  | cons c cs ih =>
    refine (takes_append (l := [one (.single c)]) takes_one ih).congr fun taken => ?_
    constructor
    · rintro ⟨v, w, rfl, ⟨d, hd, rfl⟩, rfl⟩
      rw [CharSet.contains_single, beq_iff_eq] at hd
      rw [hd]
      rfl
    · rintro rfl
      exact ⟨[c], cs, rfl, ⟨c, by simp, rfl⟩, rfl⟩

theorem takes_many (set : CharSet) :
    (series (many set)).Takes fun taken => ∀ c ∈ taken, set.contains c := by
  intro x text rest
  rw [many, series]
  induction text generalizing x with
  | nil =>
    constructor
    · rintro ⟨y, hy⟩
      cases List.mem_singleton.mp hy
      exact ⟨[], by simp, rfl⟩
    · rintro ⟨taken, -, htext⟩
      obtain ⟨-, rfl⟩ := List.append_eq_nil_iff.mp htext.symm
      exact ⟨x, List.mem_singleton_self _⟩
  | cons c text ih =>
    rw [ways_many_cons]
    constructor
    · rintro ⟨y, hy⟩
      rcases List.mem_append.mp hy with hy | hy
      · -- the first character is taken
        split at hy
        · next hc =>
          obtain ⟨taken, htaken, rfl⟩ := (ih (.ofChar c)).mp ⟨y, hy⟩
          exact ⟨c :: taken, List.forall_mem_cons.mpr ⟨hc, htaken⟩, rfl⟩
        · cases hy
      · cases List.mem_singleton.mp hy
        exact ⟨[], by simp, rfl⟩
    · rintro ⟨taken, htaken, htext⟩
      cases taken with
      | nil => exact ⟨x, List.mem_append_right _ (htext ▸ List.mem_singleton_self _)⟩
      | cons d taken =>
        obtain ⟨rfl, htail⟩ := List.cons.inj htext
        obtain ⟨hc, htaken⟩ := List.forall_mem_cons.mp htaken
        obtain ⟨y, hy⟩ := (ih (.ofChar c)).mpr ⟨taken, htaken, htail⟩
        exact ⟨y, List.mem_append_left _ (if_pos hc ▸ hy)⟩

/-- A set that repeats takes one or more of its characters. -/
theorem takes_several (set : CharSet) : (series (several set)).Takes fun taken =>
    taken ≠ [] ∧ ∀ c ∈ taken, set.contains c := by
  -- one turn or more is one turn and then any number of them
  have hways : (plus true (one set)).Takes _ := takes_cat takes_one (takes_many set)
  refine hways.congr fun taken => ?_
  constructor
  · rintro ⟨_, w, rfl, ⟨c, hc, rfl⟩, hw⟩
    exact ⟨by simp, List.forall_mem_cons.mpr ⟨hc, hw⟩⟩
  · rintro ⟨hne, htaken⟩
    obtain ⟨c, w, rfl⟩ := List.exists_cons_of_ne_nil hne
    obtain ⟨hc, hw⟩ := List.forall_mem_cons.mp htaken
    exact ⟨[c], w, rfl, ⟨c, hc, rfl⟩, hw⟩

/-! ## Rows that go on in one way -/

section

variable {c : Char} {word rest : List Char} {x : Side}

/-- Sets that hold the characters of a word one by one lead over the word. -/
theorem ways_row_append {f : Char → CharSet} (h : ∀ c ∈ word, (f c).contains c) (l : List Regex)
    (x : Side) (rest : List Char) :
    ∃ y, (series ((word.map fun c => one (f c)) ++ l)).ways ⟨x, word ++ rest⟩ =
      (series l).ways ⟨y, rest⟩ := by
  induction word generalizing x with
  | nil => exact ⟨x, rfl⟩
  | cons c word ih =>
    obtain ⟨hc, hword⟩ := List.forall_mem_cons.mp h
    obtain ⟨y, hy⟩ := ih hword (.ofChar c)
    refine ⟨y, ?_⟩
    rw [List.map_cons, List.cons_append, List.cons_append, ways_series_cons, ways_one_cons, if_pos hc,
      List.flatMap_singleton, hy]

theorem ways_many_append_cons : (series (many set ++ l)).ways ⟨x, c :: rest⟩ =
    (if set.contains c then (series (many set ++ l)).ways ⟨.ofChar c, rest⟩ else []) ++
      (series l).ways ⟨x, c :: rest⟩ := by
  simp only [ways_series_append]
  rw [many, series, ways_many_cons, List.flatMap_append, List.flatMap_singleton]
  split <;> rfl

theorem ways_several_append_cons : (series (several set ++ l)).ways ⟨x, c :: rest⟩ =
    if set.contains c then (series (many set ++ l)).ways ⟨.ofChar c, rest⟩ else [] := by
  have hturn : (plus true (one set)).ways ⟨x, c :: rest⟩ =
      if set.contains c then (star true (one set)).ways ⟨.ofChar c, rest⟩ else [] := by
    simp only [ways]
    split
    · rw [List.flatMap_singleton]
    · rfl
  rw [ways_series_append, ways_series_append, several, series, hturn]
  split <;> rfl

/-- There is a character ahead, and it is not white space. -/
def inkAhead (text : List Char) : Bool := text.head?.any fun c => !whiteSpace.contains c

/-- A single blank is taken as a whole. -/
theorem ways_space_append (h : inkAhead rest) :
    (series (space ++ l)).ways ⟨x, ' ' :: rest⟩ = (series l).ways ⟨.ofChar ' ', rest⟩ := by
  cases rest with
  | nil => cases h
  | cons c rest =>
    have hc : ¬whiteSpace.contains c := by simpa [inkAhead] using h
    rw [space, ways_several_append_cons, if_pos (by decide), ways_many_append_cons, if_neg hc,
      List.nil_append]

/-- A word that a blank has to follow is taken as a whole, or not at all. -/
theorem ways_many_space_append (hblank : ¬set.contains ' ')
    (hword : ∀ d ∈ word, ¬whiteSpace.contains d) (h : inkAhead rest) :
    (series (many set ++ (space ++ l))).ways ⟨x, word ++ ' ' :: rest⟩ =
      if word.all set.contains then (series l).ways ⟨.ofChar ' ', rest⟩ else [] := by
  induction word generalizing x with
  | nil =>
    rw [List.nil_append, ways_many_append_cons, if_neg hblank, List.nil_append, ways_space_append h]
    rfl
  | cons d word ih =>
    obtain ⟨hd, hword⟩ := List.forall_mem_cons.mp hword
    have hstop : (series (space ++ l)).ways ⟨x, d :: (word ++ ' ' :: rest)⟩ = [] := by
      rw [space, ways_several_append_cons, if_neg hd]
    rw [List.cons_append, ways_many_append_cons, ih hword, hstop, List.append_nil, List.all_cons]
    cases set.contains d <;> rfl

/-- A word is taken whole before a blank, if the set has all of its characters. -/
theorem ways_several_space_append (hblank : ¬set.contains ' ') (hne : word ≠ [])
    (hword : ∀ d ∈ word, ¬whiteSpace.contains d) (h : inkAhead rest) :
    (series (several set ++ (space ++ l))).ways ⟨x, word ++ ' ' :: rest⟩ =
      if word.all set.contains then (series l).ways ⟨.ofChar ' ', rest⟩ else [] := by
  obtain ⟨d, word, rfl⟩ := List.exists_cons_of_ne_nil hne
  rw [List.cons_append, ways_several_append_cons, List.all_cons,
    ways_many_space_append hblank (List.forall_mem_cons.mp hword).2 h]
  cases set.contains d <;> rfl

theorem ways_several_ne_nil_iff :
    (series (several set)).ways ⟨x, c :: rest⟩ ≠ [] ↔ set.contains c := by
  rw [(takes_several set).ways_ne_nil_iff]
  constructor
  · rintro ⟨taken, after, ⟨hne, htaken⟩, htext⟩
    obtain ⟨d, taken, rfl⟩ := List.exists_cons_of_ne_nil hne
    obtain ⟨rfl, -⟩ := List.cons.inj htext
    exact htaken c (List.mem_cons_self ..)
  · intro hc
    exact ⟨[c], rest, ⟨by simp, by simpa using hc⟩, rfl⟩

end

end Regex

end Pattern

/-- In the built-in signals each turn of a loop takes a character. -/
theorem isSteady_of_mem_builtinRegexes : ∀ r ∈ builtinRegexes, r.isSteady := by
  decide +kernel

end Polyglot
