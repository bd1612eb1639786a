import Mathlib.Logic.Relation
import Mathlib.Order.RelIso.Basic
import Polyglot.Proofs.Pattern.Extent

/-!
# What the visits of a run come to

Between two characters a run visits each step once, whereas a search by trial would come back to a
step as often as it is led to it. The list of resting places is the same to whoever looks for the
first place of some kind in it: a second visit repeats what the first one did in vain.

That holds where no step leads back to itself without taking a character (`Passes` is well founded).
Then each step has a value of its own: that of its resting place, or that of the first of its exits
which has one (`IsValue`), and the visits find the value of the step they set out from
(`findSome?_rests`).
-/

namespace Polyglot.Pattern

variable {β : Type} {program : Array Step} {x y : Side} {q : Nat} {s : Step}

theorem findSome?_congr {α : Type} {f g : α → Option β} {l : List α} (h : ∀ a ∈ l, f a = g a) :
    l.findSome? f = l.findSome? g := by
  induction l with
  | nil => rfl
  | cons a rest ih =>
    obtain ⟨ha, hrest⟩ := List.forall_mem_cons.mp h
    rw [List.findSome?_cons, List.findSome?_cons, ha, ih hrest]

theorem findSome?_cons_eq_or {α : Type} (f : α → Option β) (a : α) (l : List α) :
    (a :: l).findSome? f = (f a).or (l.findSome? f) := by
  rw [List.findSome?_cons]
  cases f a <;> rfl

theorem findSome?_flatMap {α γ : Type} (f : γ → Option β) (g : α → List γ) (l : List α) :
    (l.flatMap g).findSome? f = l.findSome? fun a => (g a).findSome? f := by
  induction l with
  | nil => rfl
  | cons a rest ih =>
    rw [List.flatMap_cons, List.findSome?_append, ih, findSome?_cons_eq_or]

theorem findSome?_toList {α : Type} (f : α → Option β) (a : Option α) :
    a.toList.findSome? f = a.bind f := by
  cases a with
  | none => rfl
  | some a => rw [Option.toList_some, findSome?_cons_eq_or, List.findSome?_nil, Option.or_none]; rfl

/-! ## Exits -/

/-- Where a run comes to rest at the step with number `q`. -/
def Step.rest? (q : Nat) : Step → Option Rest
  | take _ _ => some (.take q)
  | accept => some .done
  | fork _ _ | test _ _ | jump _ => none

/-- The steps that a step leads to without taking a character, preferred ones first. -/
def Step.exits (x y : Side) : Step → List Nat
  | take _ _ | accept => []
  | fork a b => [a, b]
  | test a next => if a.holds x y then [next] else []
  | jump next => [next]

theorem Step.length_exits_le (x y : Side) (s : Step) : (s.exits x y).length ≤ 2 := by
  cases s with
  | test a next =>
    rw [exits]
    split <;> simp
  | take _ _ | fork _ _ | jump _ | accept => simp [exits]

/-- A run goes on from step `q` to step `n` between the two sides. -/
def Passes (program : Array Step) (x y : Side) (q n : Nat) : Prop :=
  ∃ s, program[q]? = some s ∧ n ∈ s.exits x y

section

variable {fuel : Nat} {pending : List Nat} {seen : Array Bool}

/-- A step that has been visited is passed over. -/
theorem restsFrom_of_seen (h : seen.getD q true = true) :
    restsFrom program x y (fuel + 1) (q :: pending) seen =
      restsFrom program x y fuel pending seen := by
  rw [restsFrom, if_pos h]

/-- A visit comes to rest or puts the exits of the step in front. -/
theorem restsFrom_of_step (h : ¬seen.getD q true = true) (hs : program[q]? = some s) :
    restsFrom program x y (fuel + 1) (q :: pending) seen = (s.rest? q).toList ++
      restsFrom program x y fuel (s.exits x y ++ pending) (seen.set! q true) := by
  rw [restsFrom, if_neg h]
  cases s with
  | test a next =>
    simp only [hs, Step.rest?, Step.exits]
    split <;> rfl
  | take _ _ | fork _ _ | jump _ | accept => simp only [hs, Step.rest?, Step.exits]; rfl

end

/-! ## Values -/

/-- Each step has the value of its resting place, or else the first value of its exits. -/
def IsValue (program : Array Step) (x y : Side) (ends : Rest → Option β)
    (value : Nat → Option β) : Prop :=
  ∀ q, value q =
    program[q]?.bind fun s => ((s.rest? q).bind ends).or ((s.exits x y).findSome? value)

/-- If no run goes round for ever, then every step has a value. -/
theorem exists_isValue (h : WellFounded fun n q => Passes program x y q n)
    (ends : Rest → Option β) : ∃ value, IsValue program x y ends value := by
  classical
  -- the value of an exit is at hand because a run goes on to it
  refine ⟨h.fix fun q value => program[q]?.bind fun s => ((s.rest? q).bind ends).or
    ((s.exits x y).findSome? fun n => if hn : Passes program x y q n then value n hn else none),
    fun q => ?_⟩
  rw [h.fix_eq]
  cases hs : program[q]? with
  | none => rfl
  | some s =>
    rw [Option.bind_some, Option.bind_some]
    congr 1
    refine findSome?_congr fun n hn => ?_
    exact dif_pos ⟨s, hs, hn⟩

/-! ## Visits -/

section

variable {ends : Rest → Option β} {value : Nat → Option β} {pending : List Nat}
  {seen : Array Bool}

/-- The number of steps that have not been visited. -/
def unseen (seen : Array Bool) : Nat := seen.count false

/-- A visit leaves one step less unseen. -/
theorem unseen_set! (h : ¬seen.getD q true = true) :
    unseen (seen.set! q true) + 1 = unseen seen := by
  have hq : q < seen.size := by
    refine Nat.lt_of_not_le fun hle => h ?_
    simp [Array.getD, Nat.not_lt.mpr hle]
  have hfalse : seen[q] = false := by simpa [Array.getD, hq] using h
  have hpos : 0 < unseen seen := Array.count_pos_iff.mpr (hfalse ▸ Array.getElem_mem hq)
  rw [unseen] at hpos ⊢
  rw [Array.set!_eq_setIfInBounds, Array.setIfInBounds, dif_pos hq, Array.count_set, hfalse]
  simp only [beq_self_eq_true, if_true]
  exact Nat.sub_add_cancel hpos

theorem getD_set! (p : Nat) : (seen.set! q true).getD p true = true ↔
    p = q ∨ seen.getD p true = true := by
  rw [Array.set!_eq_setIfInBounds, Array.getD_eq_getD_getElem?, Array.getD_eq_getD_getElem?,
    Array.getElem?_setIfInBounds]
  by_cases h : q = p
  · subst h
    by_cases hq : q < seen.size <;> simp [hq]
  · simp [h, Ne.symm h]

/-- Every step that has been visited comes to what the first of the pending ones come to, and it
leads to those. -/
def IsDue (program : Array Step) (x y : Side) (value : Nat → Option β) (pending : List Nat)
    (seen : Array Bool) : Prop :=
  ∀ p, seen.getD p true = true → ∃ due, due <+: pending ∧ value p = due.findSome? value ∧
    ∀ d ∈ due, Relation.TransGen (Passes program x y) p d

/-- The exits of a step take its place among those that are due. -/
theorem IsDue.replace (h : IsDue program x y value (q :: pending) seen) {exits : List Nat}
    (hvalue : value q = exits.findSome? value) (hexits : ∀ n ∈ exits, Passes program x y q n) :
    IsDue program x y value (exits ++ pending) seen := by
  intro p hp
  obtain ⟨due, hdue, hp, hleads⟩ := h p hp
  rcases List.prefix_cons_iff.mp hdue with rfl | ⟨later, rfl, hlater⟩
  · exact ⟨[], List.nil_prefix, hp, by simp⟩
  · obtain ⟨hq, hleads⟩ := List.forall_mem_cons.mp hleads
    refine ⟨exits ++ later, (List.prefix_append_right_inj _).mpr hlater, ?_, ?_⟩
    · rw [hp, findSome?_cons_eq_or, hvalue, List.findSome?_append]
    · exact List.forall_mem_append.mpr ⟨fun n hn => hq.tail (hexits n hn), hleads⟩

/-- A visit hands the value of a step on to its exits. -/
theorem IsDue.visit (h : IsDue program x y value (q :: pending) seen) {exits : List Nat}
    (hvalue : value q = exits.findSome? value) (hexits : ∀ n ∈ exits, Passes program x y q n) :
    IsDue program x y value (exits ++ pending) (seen.set! q true) := by
  intro p hp
  rcases (getD_set! p).mp hp with rfl | hp
  · exact ⟨exits, List.prefix_append .., hvalue, fun n hn => .single (hexits n hn)⟩
  · exact h.replace hvalue hexits p hp

/-- A step that has been visited and is pending again has no value: all it could lead to was in
front of it. -/
theorem IsDue.eq_none (h : IsDue program x y value (q :: pending) seen)
    (hloops : WellFounded fun n q => Passes program x y q n) (hq : seen.getD q true = true) :
    value q = none := by
  obtain ⟨due, hdue, hvalue, hleads⟩ := h q hq
  rcases List.prefix_cons_iff.mp hdue with rfl | ⟨later, rfl, -⟩
  · exact hvalue
  · -- otherwise the step would lead back to itself
    have hback := (hleads q (List.mem_cons_self ..)).swap
    exact absurd hback (WellFounded.asymmetric hloops.transGen _ _ hback)

/-- A step that is visited once settles its value, so the resting places of the pending steps have
the first value of those steps. -/
theorem findSome?_restsFrom (hloops : WellFounded fun n q => Passes program x y q n)
    (hvalue : IsValue program x y ends value) {fuel : Nat}
    (hfuel : pending.length + 2 * unseen seen ≤ fuel)
    (hdue : IsDue program x y value pending seen) (hsize : seen.size = program.size) :
    (restsFrom program x y fuel pending seen).findSome? ends = pending.findSome? value := by
  induction fuel generalizing pending seen with
  | zero =>
    obtain rfl := List.length_eq_zero_iff.mp (by omega : pending.length = 0)
    rfl
  | succ fuel ih =>
    cases pending with
    | nil => rfl
    | cons q pending =>
      rw [List.length_cons] at hfuel
      rw [findSome?_cons_eq_or]
      by_cases hseen : seen.getD q true = true
      · -- the step is passed over
        have hnone := hdue.eq_none hloops hseen
        have hdue : IsDue program x y value ([] ++ pending) seen := hdue.replace hnone (by simp)
        rw [restsFrom_of_seen hseen, hnone, Option.none_or]
        exact ih (by omega) hdue hsize
      · have hq : q < program.size := by
          refine Nat.lt_of_not_le fun hle => hseen ?_
          simp [Array.getD, hsize, Nat.not_lt.mpr hle]
        have hs : program[q]? = some program[q] := Array.getElem?_eq_getElem hq
        have hexits := Step.length_exits_le x y program[q]
        have hunseen := unseen_set! hseen
        have hq := hvalue q
        rw [hs, Option.bind_some] at hq
        rw [restsFrom_of_step hseen hs, List.findSome?_append, hq, findSome?_toList]
        cases hrest : (program[q].rest? q).bind ends with
        | some found => rw [Option.some_or, Option.some_or, Option.some_or]
        | none =>
          rw [hrest, Option.none_or] at hq
          have hdue := hdue.visit hq fun n hn => ⟨_, hs, hn⟩
          rw [Option.none_or, Option.none_or, ← List.findSome?_append]
          refine ih ?_ hdue (by simpa using hsize)
          rw [List.length_append]
          omega

/-- **The visits find the value of the step that they set out from.** -/
theorem findSome?_rests (hloops : WellFounded fun n q => Passes program x y q n)
    (hvalue : IsValue program x y ends value) (q : Nat) :
    (rests program x y q).findSome? ends = value q := by
  have hstart : IsDue program x y value [q] (.replicate program.size false) := by
    intro p hp
    have hp : program[p]? = none := by
      rw [Array.getElem?_eq_none_iff]
      refine Nat.le_of_not_lt fun hlt => ?_
      simp [Array.getD, hlt] at hp
    refine ⟨[], List.nil_prefix, ?_, by simp⟩
    rw [hvalue p, hp]
    rfl
  have hunseen : unseen (.replicate program.size false) = program.size := by
    simp [unseen, Array.count_replicate_self]
  have hfuel : [q].length + 2 * unseen (.replicate program.size false) ≤ 2 * program.size + 1 := by
    rw [hunseen, List.length_singleton]
    omega
  have hfound := findSome?_restsFrom hloops hvalue hfuel hstart (by simp)
  rw [rests, hfound, findSome?_cons_eq_or, List.findSome?_nil, Option.or_none]

end

end Polyglot.Pattern
