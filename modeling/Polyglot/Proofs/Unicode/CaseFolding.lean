import Polyglot.Proofs.Text.LetterCase
import Polyglot.Proofs.Unicode.Sets
import Polyglot.Unicode.CaseFolding

/-!
# Case folding of ASCII letters

Where case does not matter, a letter or digit of ASCII stands for the characters with the same
simple case folding. These are the letter in either case and, beyond ASCII, the long `ſ` for an `s`
and the Kelvin sign for a `k` (`CharSet.contains_foldClosure_single`).
-/

namespace Polyglot.Unicode

open Text (IsAscii forall_ascii)

variable {c d : Char}

/-- A character with its case folded, as far as it is a letter of ASCII or has the folding of
one. -/
def foldLetter (c : Char) : Char :=
  if c = 'ſ' then 's' else if c = '\u212a' then 'k' else c.toLower

/-- The characters that are folded to a small letter or a digit, in rising order. -/
def casesOf (c : Char) : List Char :=
  (if c.toUpper = c then [c] else [c.toUpper, c]) ++
    if c = 's' then ['ſ'] else if c = 'k' then ['\u212a'] else []

/-- A character is small, or it is the capital of its small form. -/
theorem eq_toLower_or (c : Char) : c = c.toLower ∨ c = c.toLower.toUpper := by
  by_cases hc : IsAscii c
  · exact forall_ascii (p := fun c => c = c.toLower ∨ c = c.toLower.toUpper) (by decide +kernel) hc
  · exact .inl (Text.toLower_of_not_isAscii hc).symm

theorem mem_casesOf_foldLetter (c : Char) : c ∈ casesOf (foldLetter c) := by
  rw [foldLetter]
  split
  · next h => exact h ▸ by decide
  split
  · next h => exact h ▸ by decide
  -- all other characters are folded to their small forms
  refine List.mem_append_left _ ?_
  rcases eq_toLower_or c with h | h
  · split <;> simp [← h]
  · split
    · next hupper => exact List.mem_singleton.mpr (h.trans hupper)
    · exact List.mem_cons.mpr (.inl h)

/-- The cases of a letter or digit of ASCII are the characters that fold to the same. -/
theorem mem_casesOf_iff (hc : c.isAlphanum) :
    d ∈ casesOf (foldLetter c) ↔ foldLetter d = foldLetter c := by
  constructor
  · intro hd
    have hall := forall_ascii (p := fun c => c.isAlphanum →
      (casesOf (foldLetter c)).all fun d => foldLetter d == foldLetter c)
      (by decide +kernel) (Text.isAscii_of_isAlphanum hc) hc
    exact eq_of_beq (List.all_eq_true.mp hall d hd)
  · intro h
    exact h ▸ mem_casesOf_foldLetter d

/-- Characters in rising order, each as a block. -/
theorem Block.holds_map_toNat {cs : List Char} (h : cs.Pairwise (·.toNat ≤ ·.toNat)) :
    holds d.toNat (cs.map fun c => ⟨c.toNat, c.toNat⟩) ↔ d ∈ cs := by
  constructor
  · intro hd
    obtain ⟨b, hb, hfirst, hlast⟩ := exists_of_holds hd
    obtain ⟨c, hc, rfl⟩ := List.mem_map.mp hb
    rwa [← Char.toNat_inj.mp (Nat.le_antisymm hfirst hlast)]
  · intro hd
    exact holds_of_mem (List.pairwise_map.mpr h) (List.mem_map.mpr ⟨d, hd, rfl⟩) (Nat.le_refl _)
      (Nat.le_refl _)

namespace CharSet

variable {s : CharSet}

/-- Only the runs that begin in ASCII meet a set of ASCII characters. -/
theorem addImages_of_isAscii (h : s.isAscii) (runs : List CaseRun) :
    s.addImages runs = s.addImages (runs.filter (·.first < 128)) := by
  have hmeets (r : CaseRun) : s.meets r = (s.meets r && decide (r.first < 128)) := by
    refine Bool.eq_iff_iff.mpr ⟨fun hr => Bool.and_eq_true_iff.mpr ⟨hr, ?_⟩, fun hr =>
      (Bool.and_eq_true_iff.mp hr).1⟩
    obtain ⟨b, hb, hrun⟩ := List.any_eq_true.mp hr
    have hlast := of_decide_eq_true (List.all_eq_true.mp h b hb)
    have hfirst := of_decide_eq_true (Bool.and_eq_true_iff.mp hrun).1
    exact decide_eq_true (Nat.lt_of_le_of_lt hfirst hlast)
  rw [addImages, addImages, List.filter_filter, List.filter_congr fun r _ => hmeets r]

/-- The runs that begin in ASCII: the capitals. -/
def capitalRuns : List CaseRun := [⟨0x41, 0x5a, 1, 0x61⟩]

/-- The runs that lead back into ASCII: the small letters, and two of them once more. -/
def smallRuns : List CaseRun :=
  [⟨0x61, 0x7a, 1, 0x41⟩, ⟨0x73, 0x73, 1, 0x17f⟩, ⟨0x6b, 0x6b, 1, 0x212a⟩]

/-- A set that stays in ASCII when its capitals are folded is closed by two short tables. -/
theorem foldClosure_of_isAscii (h : s.isAscii) (h' : (s.addImages capitalRuns).isAscii) :
    s.foldClosure = (s.addImages capitalRuns).addImages smallRuns := by
  have hcapital : foldRuns.filter (·.first < 128) = capitalRuns := by decide +kernel
  have hsmall : (foldRuns.map CaseRun.reversed).filter (·.first < 128) = smallRuns := by
    decide +kernel
  rw [foldClosure, addImages_of_isAscii h, hcapital, addImages_of_isAscii h', hsmall]

/-- A letter or digit becomes ASCII characters first, and then all characters of the same case
folding, each in a block of its own. -/
theorem addImages_single (hc : c.isAlphanum) :
    ((single c).isAscii ∧ ((single c).addImages capitalRuns).isAscii) ∧
      ((single c).addImages capitalRuns).addImages smallRuns =
        ⟨(casesOf (foldLetter c)).map fun d => ⟨d.toNat, d.toNat⟩⟩ ∧
      (casesOf (foldLetter c)).Pairwise (·.toNat ≤ ·.toNat) := by
  have hascii : c.toNat < 128 := Text.isAscii_of_isAlphanum hc
  rw [← Char.ofNat_toNat c] at hc ⊢
  generalize c.toNat = n at hascii hc ⊢
  revert n
  decide +kernel

/-- **A letter or digit of ASCII stands for the characters that are folded to the same one.** -/
theorem contains_foldClosure_single (hc : c.isAlphanum) (d : Char) :
    (single c).foldClosure.contains d ↔ foldLetter d = foldLetter c := by
  obtain ⟨⟨hsingle, hcapital⟩, hclosure, hrising⟩ := addImages_single hc
  rw [foldClosure_of_isAscii hsingle hcapital, hclosure, contains, Block.holds_map_toNat hrising,
    mem_casesOf_iff hc]

end CharSet

end Polyglot.Unicode
