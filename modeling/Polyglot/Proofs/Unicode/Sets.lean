import Polyglot.Unicode.CharSet

/-!
# Blocks and sets of characters

A set holds a character if one of its blocks does (`Block.exists_of_holds`, `Block.holds_of_mem`),
and its complement has the gaps between the blocks. So what is known of the blocks of a set is known
of its characters.
-/

namespace Polyglot.Unicode

variable {c : Char}

namespace Block

variable {n next : Nat} {blocks : List Block}

/-- A number that is found lies in one of the blocks. -/
theorem exists_of_holds (h : holds n blocks) : ∃ b ∈ blocks, b.first ≤ n ∧ n ≤ b.last := by
  induction blocks with
  | nil => cases h
  | cons b rest ih =>
    rw [holds] at h
    split at h
    · cases h
    · rcases Bool.or_eq_true .. ▸ h with h | h
      · exact ⟨b, List.mem_cons_self .., by omega, of_decide_eq_true h⟩
      · obtain ⟨b', hb', hin⟩ := ih h
        exact ⟨b', List.mem_cons_of_mem _ hb', hin⟩

/-- Blocks that do not begin before those in front of them are all looked at. -/
theorem holds_of_mem (hrising : blocks.Pairwise (·.first ≤ ·.first)) {b : Block} (hb : b ∈ blocks)
    (hfirst : b.first ≤ n) (hlast : n ≤ b.last) : holds n blocks := by
  induction blocks with
  | nil => cases hb
  | cons b' rest ih =>
    obtain ⟨hahead, hrest⟩ := List.pairwise_cons.mp hrising
    rw [holds]
    -- a block that begins behind the character would end the search before `b`
    rcases List.mem_cons.mp hb with rfl | hb
    · rw [if_neg (by omega), decide_eq_true hlast, Bool.true_or]
    · have := hahead b hb
      rw [if_neg (by omega), ih hrest hb, Bool.or_true]

/-- More blocks behind take no number away. -/
theorem holds_append (h : holds n blocks) (more : List Block) : holds n (blocks ++ more) := by
  induction blocks with
  | nil => cases h
  | cons b rest ih =>
    rw [holds] at h
    rw [List.cons_append, holds]
    split at h
    · cases h
    · next hbefore =>
      rw [if_neg hbefore]
      rcases Bool.or_eq_true .. ▸ h with h | h
      · rw [h, Bool.true_or]
      · rw [ih h, Bool.or_true]

/-- A block that begins behind the character ends the search, whatever comes after it. -/
theorem holds_append_of_lt (h : ∃ b ∈ blocks, n < b.first) (more : List Block) :
    holds n (blocks ++ more) = holds n blocks := by
  induction blocks with
  | nil => simp at h
  | cons b rest ih =>
    rw [List.cons_append, holds, holds]
    split
    · rfl
    · next hbefore =>
      obtain ⟨b', hb', hlt⟩ := h
      rcases List.mem_cons.mp hb' with rfl | hb'
      · exact absurd hlt hbefore
      · rw [ih ⟨b', hb', hlt⟩]

/-- What a list of blocks does not hold lies in a gap. -/
theorem exists_gap_of_not_holds (hlast : n ≤ lastCode) (hnext : next ≤ n) (h : ¬holds n blocks) :
    ∃ g ∈ gaps next blocks, g.first ≤ n ∧ n ≤ g.last := by
  induction blocks generalizing next with
  | nil =>
    rw [gaps, if_pos (by omega)]
    exact ⟨_, List.mem_singleton_self _, hnext, hlast⟩
  | cons b rest ih =>
    rw [holds] at h
    rw [gaps]
    by_cases hbefore : n < b.first
    · rw [if_pos (by omega)]
      exact ⟨_, List.mem_cons_self .., hnext, by simp only; omega⟩
    · rw [if_neg hbefore, Bool.or_eq_true, decide_eq_true_eq, not_or] at h
      have hnext : b.last + 1 ≤ n := Nat.lt_of_not_le h.1
      obtain ⟨g, hg, hin⟩ := ih hnext h.2
      split
      · exact ⟨g, List.mem_cons_of_mem _ hg, hin⟩
      · exact ⟨g, hg, hin⟩

end Block

namespace CharSet

variable {s t : CharSet}

theorem toNat_le_lastCode (c : Char) : c.toNat ≤ lastCode := by
  rcases c.valid with hlow | ⟨-, hhigh⟩
  · exact Nat.le_of_lt (Nat.lt_trans hlow (by decide))
  · exact Nat.lt_succ_iff.mp hhigh

theorem contains_all (c : Char) : all.contains c := by
  simpa [contains, all, Block.holds] using toNat_le_lastCode c

/-- The complement of a character has two blocks, or one at the end of all characters. -/
theorem contains_complement_single (a c : Char) : (single a).complement.contains c = (c != a) := by
  have hc := toNat_le_lastCode c
  have hne : (c != a) = decide (c.toNat ≠ a.toNat) := by
    rw [bne, Bool.eq_iff_iff, decide_eq_true_iff, Bool.not_eq_true', beq_eq_false_iff_ne, ne_eq,
      ne_eq, Char.toNat_inj]
  rw [hne, Bool.eq_iff_iff, decide_eq_true_iff, contains, complement, single, range]
  generalize c.toNat = n at hc ⊢
  generalize a.toNat = m
  by_cases hfirst : 0 < m <;> by_cases hlast : m + 1 ≤ lastCode <;>
    simp only [Block.gaps, Block.holds, hfirst, hlast, if_true, if_false] <;> grind

/-- No block of the one set meets a block of the other. -/
def isApart (s t : CharSet) : Bool :=
  s.blocks.all fun b => t.blocks.all fun b' => b.last < b'.first || b'.last < b.first

/-- Sets that lie apart have no character in common. -/
theorem not_contains_of_isApart (h : s.isApart t) (hs : s.contains c) : ¬t.contains c := by
  intro ht
  obtain ⟨b, hb, hfirst, hlast⟩ := Block.exists_of_holds hs
  obtain ⟨b', hb', hfirst', hlast'⟩ := Block.exists_of_holds ht
  have hmeet := List.all_eq_true.mp (List.all_eq_true.mp h b hb) b' hb'
  rw [Bool.or_eq_true, decide_eq_true_eq, decide_eq_true_eq] at hmeet
  omega

end CharSet

end Polyglot.Unicode
