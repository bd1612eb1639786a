import Polyglot.Proofs.Pattern.Visits

/-!
# The ways of an expression

What an expression matches can be said without an automaton: from a place of the text it leads to
other places, and these are listed in the order of preference (`Regex.ways`). A search by trial
would try them in this order, so the first one is the end of the match (`Regex.stop?`).

Loops are bounded by the number of characters that are left. That is no restriction for an
expression in which each turn of a loop takes a character (`Regex.isSteady`): it has as many turns
as it likes (`findSome?_turns`).
-/

namespace Polyglot.Pattern

/-- A place in a text: what stands before it, and the text after it. -/
structure Place where
  before : Side
  rest : List Char
deriving DecidableEq, Inhabited

variable {β : Type} {p q : Place} {r : Regex}

namespace Regex

/-! ## Ways -/

/-- What a turn leads to and the place itself, which comes last if another turn is preferred. -/
def arrange (greedy : Bool) (further : List Place) (p : Place) : List Place :=
  if greedy then further ++ [p] else p :: further

/-- Up to `n` turns. -/
def turns (greedy : Bool) (turn : Place → List Place) : Nat → Place → List Place
  | 0, p => [p]
  | n + 1, p => arrange greedy ((turn p).flatMap (turns greedy turn n)) p

/-- The places that an expression leads to, in the order of preference. No loop has more turns than
there are characters. -/
def ways : Regex → Place → List Place
  | empty, p => [p]
  | one _, ⟨_, []⟩ => []
  | one set, ⟨_, c :: rest⟩ => if set.contains c then [⟨.ofChar c, rest⟩] else []
  | assert a, p => if a.holds p.before (.ofHead p.rest) then [p] else []
  | cat a b, p => (a.ways p).flatMap b.ways
  | alt a b, p => a.ways p ++ b.ways p
  | opt greedy a, p => arrange greedy (a.ways p) p
  | star greedy a, p => turns greedy a.ways p.rest.length p
  | plus greedy a, p => (a.ways p).flatMap fun q => turns greedy a.ways q.rest.length q

/-- Each turn of a loop takes a character. -/
def isSteady : Regex → Bool
  | empty | one _ | assert _ => true
  | cat a b | alt a b => a.isSteady && b.isSteady
  | opt _ a => a.isSteady
  | star _ a | plus _ a => a.isSteady && 0 < a.minLength

/-! ### What each expression leads to -/

section

variable {a b : Regex} {set : Unicode.CharSet} {x : Side} {c : Char} {rest : List Char}

theorem ways_empty : empty.ways p = [p] := rfl

theorem ways_one_nil : (one set).ways ⟨x, []⟩ = [] := rfl

theorem ways_one_cons : (one set).ways ⟨x, c :: rest⟩ =
    if set.contains c then [⟨.ofChar c, rest⟩] else [] := rfl

theorem ways_assert {a : Assertion} : (assert a).ways p =
    if a.holds p.before (.ofHead p.rest) then [p] else [] := rfl

theorem ways_star {greedy : Bool} :
    (star greedy a).ways p = turns greedy a.ways p.rest.length p := rfl

theorem turns_zero {greedy : Bool} {turn : Place → List Place} : turns greedy turn 0 p = [p] := rfl

theorem turns_succ {greedy : Bool} {turn : Place → List Place} {n : Nat} :
    turns greedy turn (n + 1) p = arrange greedy ((turn p).flatMap (turns greedy turn n)) p := rfl

end

theorem mem_arrange {greedy : Bool} {further : List Place} :
    q ∈ arrange greedy further p ↔ q ∈ further ∨ q = p := by
  cases greedy <;> simp [arrange, or_comm]

theorem mem_ways_assert {a : Assertion} :
    q ∈ (assert a).ways p ↔ q = p ∧ a.holds p.before (.ofHead p.rest) := by
  rw [ways_assert]
  split
  · next h => simp [h]
  · next h => simp [h]

/-- A set leads over one character that it contains. -/
theorem mem_ways_one {set : Unicode.CharSet} :
    q ∈ (one set).ways p ↔ ∃ c, set.contains c ∧ p.rest = c :: q.rest ∧ q.before = .ofChar c := by
  obtain ⟨x, _ | ⟨c, rest⟩⟩ := p
  · simp [ways_one_nil]
  · rw [ways_one_cons]
    constructor
    · intro h
      split at h
      · next hc =>
        obtain rfl := List.mem_singleton.mp h
        exact ⟨c, hc, rfl, rfl⟩
      · cases h
    · rintro ⟨d, hd, hrest, hbefore⟩
      obtain ⟨rfl, rfl⟩ := List.cons.inj hrest
      rw [if_pos hd, List.mem_singleton, ← hbefore]

/-- Turns lead forward if each of them does. -/
theorem suffix_of_mem_turns {greedy : Bool} {turn : Place → List Place}
    (hturn : ∀ p q, q ∈ turn p → q.rest <:+ p.rest) {n : Nat} (h : q ∈ turns greedy turn n p) :
    q.rest <:+ p.rest := by
  induction n generalizing p with
  | zero =>
    obtain rfl := List.mem_singleton.mp h
    exact List.suffix_rfl
  | succ n ih =>
    rcases mem_arrange.mp h with h | rfl
    · obtain ⟨m, hm, hq⟩ := List.mem_flatMap.mp h
      exact (ih hq).trans (hturn _ _ hm)
    · exact List.suffix_rfl

/-- Ways only lead forward. -/
theorem suffix_of_mem_ways (h : q ∈ r.ways p) : q.rest <:+ p.rest := by
  induction r generalizing p q with
  | empty =>
    obtain rfl := List.mem_singleton.mp h
    exact List.suffix_rfl
  | one set =>
    obtain ⟨c, -, hrest, -⟩ := mem_ways_one.mp h
    exact hrest ▸ List.suffix_cons ..
  | assert a =>
    obtain ⟨rfl, -⟩ := mem_ways_assert.mp h
    exact List.suffix_rfl
  | cat a b iha ihb =>
    obtain ⟨m, hm, hq⟩ := List.mem_flatMap.mp h
    exact (ihb hq).trans (iha hm)
  | alt a b iha ihb => exact (List.mem_append.mp h).elim iha ihb
  | opt greedy a ih =>
    rcases mem_arrange.mp h with h | rfl
    · exact ih h
    · exact List.suffix_rfl
  | star greedy a ih => exact suffix_of_mem_turns (fun _ _ => ih) h
  | plus greedy a ih =>
    obtain ⟨m, hm, hq⟩ := List.mem_flatMap.mp h
    exact (suffix_of_mem_turns (fun _ _ => ih) hq).trans (ih hm)

/-- A way takes as many characters as a match has at least. -/
theorem length_of_mem_ways (h : q ∈ r.ways p) : q.rest.length + r.minLength ≤ p.rest.length := by
  induction r generalizing p q with
  | empty | assert a | opt greedy a | star greedy a => exact (suffix_of_mem_ways h).length_le
  | one set =>
    obtain ⟨c, -, hrest, -⟩ := mem_ways_one.mp h
    exact hrest ▸ Nat.le_refl _
  | cat a b iha ihb =>
    obtain ⟨m, hm, hq⟩ := List.mem_flatMap.mp h
    have := iha hm
    have := ihb hq
    rw [minLength]
    omega
  | alt a b iha ihb =>
    rw [minLength]
    rcases List.mem_append.mp h with h | h
    · have := iha h
      omega
    · have := ihb h
      omega
  | plus greedy a ih =>
    obtain ⟨m, hm, hq⟩ := List.mem_flatMap.mp h
    have := ih hm
    have := (suffix_of_mem_turns (fun _ _ => suffix_of_mem_ways) hq).length_le
    rw [minLength]
    omega

/-- An expression that takes a character leads to a later place. -/
theorem length_lt_of_mem_ways (hpos : 0 < r.minLength) (h : q ∈ r.ways p) :
    q.rest.length < p.rest.length := by
  have := length_of_mem_ways h
  omega

/-! ## The first way with a value -/

/-- The first value among turns is that of another turn or of the place itself, whichever is
preferred. -/
theorem findSome?_arrange (greedy : Bool) (further : List Place) (f : Place → Option β) :
    (arrange greedy further p).findSome? f =
      if greedy then (further.findSome? f).or (f p) else (f p).or (further.findSome? f) := by
  cases greedy with
  | false => exact findSome?_cons_eq_or ..
  | true =>
    simp only [arrange, if_true, List.findSome?_append, findSome?_cons_eq_or, List.findSome?_nil,
      Option.or_none]

/-- A loop is left or taken once more. -/
theorem findSome?_turns {greedy : Bool} {turn : Place → List Place} {f loop : Place → Option β}
    (hturn : ∀ p, ∀ q ∈ turn p, q.rest.length < p.rest.length)
    (hloop : ∀ p, loop p = if greedy then ((turn p).findSome? loop).or (f p)
      else (f p).or ((turn p).findSome? loop))
    {n : Nat} (hn : p.rest.length ≤ n) : (turns greedy turn n p).findSome? f = loop p := by
  induction n generalizing p with
  | zero =>
    have hnone : turn p = [] := by
      rw [List.eq_nil_iff_forall_not_mem]
      intro q hq
      have := hturn p q hq
      omega
    rw [hloop, hnone, turns_zero, findSome?_cons_eq_or]
    cases greedy <;> simp
  | succ n ih =>
    have hlater : (turn p).findSome? (fun q => (turns greedy turn n q).findSome? f) =
        (turn p).findSome? loop := findSome?_congr fun q hq => by
      have := hturn p q hq
      exact ih (by omega)
    rw [turns_succ, findSome?_arrange, findSome?_flatMap, hlater, hloop]

/-- The first value of the places that an expression leads to. -/
def via (r : Regex) (f : Place → Option β) (p : Place) : Option β := (r.ways p).findSome? f

section

variable {a b : Regex} {set : Unicode.CharSet} {f : Place → Option β} {x : Side} {c : Char}
  {rest : List Char}

@[simp] theorem via_empty : empty.via f = f := by
  funext p
  rw [via, ways_empty, findSome?_cons_eq_or, List.findSome?_nil, Option.or_none]

@[simp] theorem via_one_cons : (one set).via f ⟨x, c :: rest⟩ =
    if set.contains c then f ⟨.ofChar c, rest⟩ else none := by
  rw [via, ways_one_cons]
  split
  · rw [findSome?_cons_eq_or, List.findSome?_nil, Option.or_none]
  · rfl

@[simp] theorem via_assert {a : Assertion} : (assert a).via f p =
    if a.holds p.before (.ofHead p.rest) then f p else none := by
  rw [via, ways_assert]
  split
  · rw [findSome?_cons_eq_or, List.findSome?_nil, Option.or_none]
  · rfl

@[simp] theorem via_cat : (cat a b).via f = a.via (b.via f) := funext fun _ => findSome?_flatMap ..

@[simp] theorem via_alt : (alt a b).via f p = (a.via f p).or (b.via f p) := List.findSome?_append

@[simp] theorem via_opt {greedy : Bool} : (opt greedy a).via f p =
    if greedy then (a.via f p).or (f p) else (f p).or (a.via f p) := findSome?_arrange ..

/-- One turn or more is one turn and then any number of them. -/
@[simp] theorem via_plus {greedy : Bool} :
    (plus greedy a).via f = a.via ((star greedy a).via f) := funext fun _ => findSome?_flatMap ..

@[simp] theorem via_many_nil : (star true (one set)).via f ⟨x, []⟩ = f ⟨x, []⟩ := by
  rw [via, ways_star, List.length_nil, turns_zero, findSome?_cons_eq_or, List.findSome?_nil,
    Option.or_none]

/-- Of a row of characters from a set, as many as possible are taken. -/
theorem ways_many_cons : (star true (one set)).ways ⟨x, c :: rest⟩ =
    (if set.contains c then (star true (one set)).ways ⟨.ofChar c, rest⟩ else []) ++
      [⟨x, c :: rest⟩] := by
  rw [ways_star, List.length_cons, turns_succ, arrange, if_pos rfl, ways_one_cons]
  split
  · rw [List.flatMap_singleton, ways_star]
  · rfl

@[simp] theorem via_many_cons : (star true (one set)).via f ⟨x, c :: rest⟩ =
    ((one set).via ((star true (one set)).via f) ⟨x, c :: rest⟩).or (f ⟨x, c :: rest⟩) := by
  rw [via_one_cons, via, ways_many_cons, List.findSome?_append, findSome?_cons_eq_or,
    List.findSome?_nil, Option.or_none]
  split <;> rfl

end

/-- The end of the match from a place, by the number of characters after it. -/
def stop? (r : Regex) (p : Place) : Option Nat := (r.ways p).head?.map (·.rest.length)

/-- Where every place has a value, it is that of the preferred place. -/
theorem via_some (f : Place → β) (p : Place) :
    r.via (fun q => some (f q)) p = (r.ways p).head?.map f := by
  rw [via]
  cases r.ways p <;> rfl

/-- A match ends where the first way does. -/
theorem exists_of_stop?_eq_some {stop : Nat} (h : r.stop? p = some stop) :
    ∃ q, (r.ways p).head? = some q ∧ q.rest.length = stop :=
  Option.map_eq_some_iff.mp h

/-- There is no match from a place if the expression leads nowhere. -/
theorem stop?_eq_none_iff : r.stop? p = none ↔ r.ways p = [] := by
  rw [stop?, Option.map_eq_none_iff, List.head?_eq_none_iff]

end Regex

/-! ## The places of a text -/

/-- The places of a text that stands after the side `x`, from the first to the last. -/
def placesFrom (x : Side) : List Char → List Place
  | [] => [⟨x, []⟩]
  | c :: rest => ⟨x, c :: rest⟩ :: placesFrom (.ofChar c) rest

/-- The places of a whole text. -/
abbrev places (text : List Char) : List Place := placesFrom .edge text

/-- A place is the first one, or there is a character before it. -/
theorem mem_placesFrom {x : Side} {text : List Char} : p ∈ placesFrom x text ↔
    p = ⟨x, text⟩ ∨ ∃ ahead c, text = ahead ++ c :: p.rest ∧ p.before = .ofChar c := by
  induction text generalizing x with
  | nil => simp [placesFrom]
  | cons c rest ih =>
    rw [placesFrom, List.mem_cons, ih]
    refine or_congr_right ⟨?_, ?_⟩
    · rintro (rfl | ⟨ahead, d, rfl, hbefore⟩)
      · exact ⟨[], c, rfl, rfl⟩
      · exact ⟨c :: ahead, d, rfl, hbefore⟩
    · rintro ⟨ahead, d, htext, hbefore⟩
      cases ahead with
      | nil =>
        obtain ⟨rfl, rfl⟩ := List.cons.inj htext
        exact .inl (by rw [← hbefore])
      | cons c' ahead =>
        obtain ⟨rfl, rfl⟩ := List.cons.inj htext
        exact .inr ⟨ahead, d, rfl, hbefore⟩

/-- There is a place before every part of the text that goes on to its end. -/
theorem exists_mem_placesFrom {x : Side} {text rest : List Char} (h : rest <:+ text) :
    ∃ p ∈ placesFrom x text, p.rest = rest := by
  induction text generalizing x with
  | nil =>
    obtain rfl := List.suffix_nil.mp h
    exact ⟨⟨x, []⟩, List.mem_singleton_self _, rfl⟩
  | cons c text ih =>
    rcases List.suffix_cons_iff.mp h with rfl | h
    · exact ⟨⟨x, c :: text⟩, List.mem_cons_self .., rfl⟩
    · obtain ⟨p, hp, hrest⟩ := ih h
      exact ⟨p, List.mem_cons_of_mem _ hp, hrest⟩

theorem suffix_of_mem_placesFrom {x : Side} {text : List Char} (h : p ∈ placesFrom x text) :
    p.rest <:+ text := by
  rcases mem_placesFrom.mp h with rfl | ⟨ahead, c, rfl, -⟩
  · exact List.suffix_rfl
  · exact (List.suffix_cons c p.rest).trans (List.suffix_append ..)

end Polyglot.Pattern
