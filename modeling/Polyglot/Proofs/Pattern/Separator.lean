import Mathlib.Algebra.Ring.Nat
import Polyglot.Proofs.Pattern.Likeness

/-!
# Characters that separate matches

An expression avoids a character if no set of it has the character and it never asks what stands
beside a place. No match goes over such a character then, and the texts on both sides of it are
searched as if each were alone (`count_append_cons`).

The sweep comes from the right. Over the character it drops all that it knows of steps that can go
on to a match, so to the left of it the sweep is where it would be at the end of the text, with
every place moved by what follows (`Automaton.IsMoved`). The tally comes from the left, and what it
knows of the last match is of no more use on the right of the character (`tally_fresh`).
-/

namespace Polyglot.Pattern

open Unicode (CharSet)

variable {r : Regex} {c : Char} {a b : List Char}

/-! ## What the steps of an expression look at -/

/-- What can be asked of a text at one place. -/
inductive Atom where
  /-- Is the next character in the set? -/
  | one (set : CharSet)
  | assert (a : Assertion)
deriving DecidableEq

/-- All that an expression asks of a text, in order. -/
def Regex.atoms : Regex → List Atom
  | empty => []
  | one set => [.one set]
  | assert a => [.assert a]
  | cat a b | alt a b => a.atoms ++ b.atoms
  | opt _ a | star _ a | plus _ a => a.atoms

def Step.atom? : Step → Option Atom
  | take set _ => some (.one set)
  | test a _ => some (.assert a)
  | fork _ _ | jump _ | accept => none

namespace Regex

theorem atom?_loopFork (greedy : Bool) (again leave : Nat) :
    (loopFork greedy again leave).atom? = none := by
  cases greedy <;> rfl

/-- The steps of an expression ask what the expression asks. -/
theorem filterMap_atom?_steps (r : Regex) (here next : Nat) :
    (r.steps here next).filterMap Step.atom? = r.atoms := by
  induction r generalizing here next with
  | empty | one set | assert a => rfl
  | cat a b iha ihb => rw [steps, List.filterMap_append, iha, ihb, atoms]
  | alt a b iha ihb =>
    rw [steps, List.filterMap_cons_none rfl, List.filterMap_append, iha, ihb, atoms]
  | opt greedy a ih | star greedy a ih =>
    rw [steps, List.filterMap_cons_none (atom?_loopFork ..), ih, atoms]
  | plus greedy a ih =>
    rw [steps, List.filterMap_append, ih, List.filterMap_cons_none (atom?_loopFork ..),
      List.filterMap_nil, List.append_nil, atoms]

/-- A step of a program asks nothing that the expression does not ask. -/
theorem atom_mem_atoms {s : Step} {atom : Atom} (hs : s ∈ r.program) (h : s.atom? = some atom) :
    atom ∈ r.atoms := by
  have hmem : atom ∈ r.program.toList.filterMap Step.atom? :=
    List.mem_filterMap.mpr ⟨s, Array.mem_toList_iff.mpr hs, h⟩
  simpa [program, filterMap_atom?_steps, Step.atom?] using hmem

end Regex

/-! ## Avoiding a character -/

def Atom.avoids (c : Char) : Atom → Bool
  | one set => !set.contains c
  | assert _ => false

/-- The expression accepts the character nowhere, and it never asks what stands beside a place. -/
def Regex.avoids (c : Char) (r : Regex) : Bool := r.atoms.all (Atom.avoids c)

section

variable (h : r.avoids c)
include h

/-- An expression without assertions does not see what stands beside a place. -/
theorem Regex.blurs_of_avoids (x y : Side) : Blurs r.program x y := by
  intro a _ ha
  have := List.all_eq_true.mp h (.assert a) (atom_mem_atoms ha rfl)
  contradiction

/-- No step accepts a character that the expression avoids. -/
theorem Automaton.accepting_of_avoids : (ofRegex r).accepting c = [] := by
  rw [ofRegex, accepting_ofProgram, takersOf, List.filter_eq_nil_iff]
  intro t ht
  have hstep := Regex.atom_mem_atoms (take_mem_of_mem_takersFrom ht) rfl
  have := List.all_eq_true.mp h (.one t.set) hstep
  simpa [Atom.avoids] using this

end

/-! ## The sweep on the left of the character -/

/-- A look-up finds the same entry after the values have changed. -/
theorem lookup_map_snd (f : Nat → Nat) (l : List (Nat × Nat)) (q : Nat) :
    (l.map fun e => (e.1, f e.2)).lookup q = (l.lookup q).map f := by
  induction l with
  | nil => rfl
  | cons e rest ih =>
    rw [List.map_cons, List.lookup_cons, List.lookup_cons, ih]
    cases q == e.1 <;> rfl

namespace Automaton

/-- The front `g` knows what `f` knows, with `k` more characters after every place, and the ends
`later` for the places that it alone has passed. -/
structure IsMoved (k : Nat) (later : List (Option Nat)) (f g : Front) : Prop where
  left : g.left = f.left + k
  ends : g.ends = f.ends.map fun e => (e.1, e.2 + k)
  found : g.found = f.found.map (Option.map (· + k)) ++ later

variable {k : Nat} {later : List (Option Nat)} {f g : Front}

section

variable (h : r.avoids c)
include h

/-- A front that is moved finds the same end, moved. -/
theorem IsMoved.resolve_eq (hfg : IsMoved k later f g) (x : Side) {q : Nat}
    (hq : q < r.program.size) :
    (ofRegex r).resolve x g q = ((ofRegex r).resolve x f q).map (· + k) := by
  have hroutes : (ofRegex r).routes x g.head q = (ofRegex r).routes x f.head q :=
    routes_congr (Blurs.refl _ x) (Regex.blurs_of_avoids h _ _) hq
  rw [resolve, resolve, hroutes, List.map_findSome?]
  congr 1
  funext place
  cases place with
  | done => exact congrArg some hfg.left
  | take i => exact hfg.ends ▸ lookup_map_snd (· + k) f.ends i

/-- A front that is moved stays so over every character. -/
theorem IsMoved.advance (hfg : IsMoved k later f g) (d : Char) :
    IsMoved k later ((ofRegex r).advance d f) ((ofRegex r).advance d g) where
  left := (congrArg (· + 1) hfg.left).trans (Nat.add_right_comm ..)
  ends := by
    simp only [Automaton.advance, List.map_filterMap]
    refine List.filterMap_congr fun t ht => ?_
    rw [hfg.resolve_eq h _ (next_lt_of_mem_accepting ht), Option.map_map, Option.map_map]
    rfl
  found := congrArg₂ (· :: ·) (hfg.resolve_eq h _ r.size_program_pos) hfg.found

/-- Right before the character the sweep knows of no step that goes on to a match. -/
theorem isMoved_advance_sweep (b : List Char) :
    IsMoved (b.length + 1) ((ofRegex r).matchEnds b) .atEnd
      ((ofRegex r).advance c ((ofRegex r).sweep b)) where
  left := by
    rw [Automaton.advance, left_sweep]
    exact (Nat.zero_add _).symm
  ends := by
    rw [Automaton.advance, accepting_of_avoids h]
    rfl
  found := by
    -- the character beside the first place of `b` is not asked for
    have hagrees : Agrees r.program ((ofRegex r).sweep b) ((ofRegex r).sweep b) :=
      ⟨Blurs.refl _ _, rfl, rfl, rfl⟩
    exact congrArg (· :: ((ofRegex r).sweep b).found)
      (resolve_congr (Regex.blurs_of_avoids h _ _) hagrees r.size_program_pos)

/-- Before a character that is avoided, the front is that of the first piece alone, moved by what
follows. -/
theorem isMoved_sweep (a b : List Char) :
    IsMoved (b.length + 1) ((ofRegex r).matchEnds b) ((ofRegex r).sweep a)
      ((ofRegex r).sweep (a ++ c :: b)) := by
  induction a with
  | nil => exact isMoved_advance_sweep h b
  | cons d rest ih => exact ih.advance h d

/-- The matches on the left of the character are those of the text there, moved by what follows, and
the matches on the right of it are those of the text there. -/
theorem matchEnds_append_cons (a b : List Char) :
    (ofRegex r).matchEnds (a ++ c :: b) =
      ((ofRegex r).matchEnds a).map (Option.map (· + (b.length + 1))) ++
        (ofRegex r).matchEnds b := by
  have hmoved := isMoved_sweep h a b
  exact congrArg₂ (· :: ·) (hmoved.resolve_eq h .edge r.size_program_pos) hmoved.found

end

end Automaton

/-! ## The tally on both sides of the character -/

/-- A match that ended further left does not matter to the tally. -/
theorem tally_fresh {here resume : Nat} {last : Option Nat} (hresume : here ≤ resume)
    (hlast : ∀ p ∈ last, here < p) (count : Nat) (ends : List (Option Nat)) :
    tally count here resume last ends = tally count here here none ends := by
  induction ends generalizing here resume last with
  | nil => rfl
  | cons e rest ih =>
    cases e with
    | none =>
      have hlast : ∀ p ∈ last, here - 1 < p := fun p hp =>
        Nat.lt_of_le_of_lt (Nat.sub_le ..) (hlast p hp)
      calc
        tally count here resume last (none :: rest)
        _ = tally count (here - 1) (here - 1) none rest := ih (by omega) hlast
        _ = tally count (here - 1) here none rest := (ih (Nat.sub_le ..) (by simp)).symm
    | some stop =>
      have hne : ¬(stop = here ∧ last = some here) := fun hand =>
        Nat.lt_irrefl here (hlast here hand.2)
      simp [tally, hne, Nat.not_lt.mpr hresume]

/-- The ends `xs` are tallied first, from a place that has `n` places after them. -/
theorem tally_append (n : Nat) (xs ys : List (Option Nat)) (count resume : Nat)
    (last : Option Nat) :
    tally count (xs.length + n) (resume + (n + 1)) (last.map (· + (n + 1)))
        (xs.map (Option.map (· + (n + 1))) ++ ys) =
      tally count (xs.length - 1) resume last xs + tally 0 n n none ys := by
  induction xs generalizing count resume last with
  | nil =>
    -- the search is on again, and the last match ended before the character
    have hlast : ∀ p ∈ last.map (· + (n + 1)), n < p := by
      intro p hp
      obtain ⟨q, -, rfl⟩ := Option.map_eq_some_iff.mp hp
      omega
    rw [List.map_nil, List.nil_append, List.length_nil, Nat.zero_add,
      tally_fresh (by omega) hlast, tally, Nat.add_comm, ← tally_add, Nat.zero_add]
  | cons e rest ih =>
    have hplace : rest.length + 1 + n - 1 = rest.length + n := by omega
    cases e with
    | none =>
      simp only [List.map_cons, List.cons_append, List.length_cons, Option.map_none, tally, hplace]
      exact ih ..
    | some stop =>
      have hlast : last.map (· + (n + 1)) = some (rest.length + 1 + n) ↔
          last = some rest.length := by
        cases last with
        | none => simp
        | some p =>
          rw [Option.map_some, Option.some.injEq, Option.some.injEq]
          omega
      have hbefore : resume + (n + 1) < rest.length + 1 + n ↔ resume < rest.length := by omega
      have hstop : stop + (n + 1) = rest.length + 1 + n ↔ stop = rest.length := by omega
      simp only [List.map_cons, List.cons_append, List.length_cons, Option.map_some, tally, hplace,
        hlast, hbefore, hstop, Nat.add_sub_cancel]
      -- the same one of three cases on both sides
      split
      · exact ih ..
      · split
        · exact ih ..
        · exact ih (count + 1) stop (some stop)

namespace Automaton

/-- **A character that an expression avoids separates its matches.** -/
theorem count_append_cons (h : r.avoids c) (a b : List Char) :
    (ofRegex r).count (a ++ c :: b) = (ofRegex r).count a + (ofRegex r).count b := by
  have htally := tally_append b.length ((ofRegex r).matchEnds a) ((ofRegex r).matchEnds b) 0
    a.length none
  rw [count, matchEnds_append_cons h]
  simpa [count, Nat.add_assoc, Nat.add_comm 1] using htally

/-- The matches in pieces with the character between them are those of the pieces. -/
theorem count_intercalate (h : r.avoids c) {pieces : List (List Char)} (hne : pieces ≠ []) :
    (ofRegex r).count ([c].intercalate pieces) = (pieces.map (ofRegex r).count).sum := by
  induction pieces with
  | nil => contradiction
  | cons a rest ih =>
    by_cases hrest : rest = []
    · simp [hrest]
    · rw [List.intercalate_cons_of_ne_nil hrest, List.append_assoc, List.singleton_append,
        count_append_cons h, ih hrest, List.map_cons, List.sum_cons]

/-- The matches of a text are those of its pieces between the characters that the expression
avoids. -/
theorem count_eq_sum_splitOn (h : r.avoids c) (text : List Char) :
    (ofRegex r).count text = ((text.splitOn c).map (ofRegex r).count).sum := by
  have hpieces := count_intercalate h (List.splitOn_ne_nil c text)
  rwa [List.intercalate_splitOn] at hpieces

end Automaton

end Polyglot.Pattern
