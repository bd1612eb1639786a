import Mathlib.Data.Bool.AllAny
import Polyglot.Proofs.ByteScans
import Polyglot.Proofs.Pattern.Likeness
import Polyglot.Proofs.Signal.Builtin
import Polyglot.Proofs.Text.Bytes
import Polyglot.Proofs.Unicode.Sets

/-!
# What the built-in signals see of a text

The built-in signals know the characters of ASCII, white space, and the two characters beyond ASCII
that are letters of ASCII in another case. All other characters are the same to them. Two texts have
the same outline if they differ in such characters only, and then the standard detector finds the
same in both (`Detector.standard_sees_outline`).

Each set of a built-in expression is coarse: the block by block comparison with the telling
characters shows that it has none of the others or all of them (`CharSet.contains_congr`).
-/

namespace Polyglot

open Text (IsAscii)
open Unicode (Block CharSet isWhiteSpace whiteSpace lastCode)
open Pattern (Regex Side Assertion)

/-! ## Outlines -/

/-- A character that the built-in signals may tell from others. The Kelvin sign and the long `ſ` are
the letters `k` and `s` where case does not matter. -/
def IsTelling (c : Char) : Prop := IsAscii c ∨ isWhiteSpace c ∨ c = 'ſ' ∨ c = '\u212a'

instance (c : Char) : Decidable (IsTelling c) := inferInstanceAs (Decidable (_ ∨ _))

/-- The characters are the same, or neither of them is telling. -/
def IsAlike (c d : Char) : Prop := IsTelling c ∨ IsTelling d → c = d

instance (c d : Char) : Decidable (IsAlike c d) := inferInstanceAs (Decidable (_ → _))

/-- The texts have as many characters, and the same one wherever either has a telling one. -/
abbrev SameOutline (text text' : List Char) : Prop := List.Forall₂ IsAlike text text'

variable {c d : Char} {text text' : List Char}

/-- Characters that are alike are the same, or neither of them tells anything. -/
theorem IsAlike.eq_or (h : IsAlike c d) : c = d ∨ ¬IsTelling c ∧ ¬IsTelling d := by
  by_cases ht : IsTelling c ∨ IsTelling d
  · exact .inl (h ht)
  · exact .inr (not_or.mp ht)

/-- A test that only telling characters pass does not tell alike characters apart. -/
theorem IsAlike.test_eq (h : IsAlike c d) {p : Char → Bool} (hp : ∀ c, p c → IsTelling c) :
    p c = p d := by
  rcases h.eq_or with rfl | ⟨hc, hd⟩
  · rfl
  · have hc : p c = false := Bool.eq_false_iff.mpr (mt (hp c) hc)
    have hd : p d = false := Bool.eq_false_iff.mpr (mt (hp d) hd)
    rw [hc, hd]

/-! ## Coarse sets -/

namespace Unicode.Block

/-- All characters of the block are telling. -/
def isTelling (b : Block) : Bool :=
  b.last < 128 || whiteSpace.blocks.any (fun w => w.first ≤ b.first && b.last ≤ w.last) ||
    b == ⟨0x17f, 0x17f⟩ || b == ⟨0x212a, 0x212a⟩

theorem isTelling_of_mem {b : Block} (h : b.isTelling) (hfirst : b.first ≤ c.toNat)
    (hlast : c.toNat ≤ b.last) : IsTelling c := by
  simp only [isTelling, Bool.or_eq_true, decide_eq_true_eq, List.any_eq_true, Bool.and_eq_true,
    beq_iff_eq] at h
  rcases h with ((h | ⟨w, hw, hwfirst, hwlast⟩) | rfl) | rfl
  · exact .inl (Nat.lt_of_le_of_lt hlast h)
  · exact .inr (.inl (holds_of_mem (by decide) hw (by omega) (by omega)))
  · exact .inr (.inr (.inl (Char.toNat_inj.mp (Nat.le_antisymm hlast hfirst))))
  · exact .inr (.inr (.inr (Char.toNat_inj.mp (Nat.le_antisymm hlast hfirst))))

end Unicode.Block

namespace Unicode.CharSet

/-- The set has no character that is not telling, or all of them. -/
def isCoarse (s : CharSet) : Bool :=
  s.blocks.all Block.isTelling || s.complement.blocks.all Block.isTelling

/-- A coarse set does not tell characters apart that tell nothing. -/
theorem contains_congr {s : CharSet} (h : s.isCoarse) (hc : ¬IsTelling c) (hd : ¬IsTelling d) :
    s.contains c = s.contains d := by
  rw [isCoarse, Bool.or_eq_true, List.all_eq_true, List.all_eq_true] at h
  -- either the blocks are telling or the gaps between them are
  rcases h with h | h
  · have hout {c : Char} (hc : ¬IsTelling c) : s.contains c = false := by
      refine Bool.eq_false_iff.mpr fun hin => hc ?_
      obtain ⟨b, hb, hfirst, hlast⟩ := Block.exists_of_holds hin
      exact Block.isTelling_of_mem (h b hb) hfirst hlast
    rw [hout hc, hout hd]
  · have hin {c : Char} (hc : ¬IsTelling c) : s.contains c = true := by
      refine Decidable.byContradiction fun hout => hc ?_
      obtain ⟨g, hg, hfirst, hlast⟩ :=
        Block.exists_gap_of_not_holds (toNat_le_lastCode c) (Nat.zero_le _) hout
      exact Block.isTelling_of_mem (h g hg) hfirst hlast
    rw [hin hc, hin hd]

end Unicode.CharSet

/-! ## Coarse expressions -/

namespace Pattern

/-- The sets of the expression are coarse, and it asks only for the ends of the text. -/
def Regex.isCoarse : Regex → Bool
  | empty => true
  | one set => set.isCoarse
  | assert a => a == .textStart || a == .textEnd
  | cat a b | alt a b => a.isCoarse && b.isCoarse
  | opt _ a | star _ a | plus _ a => a.isCoarse

/-- No character is the end of the text. -/
theorem Assertion.confuses_of_ends {a : Assertion} (h : a = .textStart ∨ a = .textEnd) :
    a.Confuses (.ofChar c) (.ofChar d) := by
  have hc : (Side.ofChar c == .edge) = false := beq_false_of_ne (Side.ofChar_ne_edge c)
  have hd : (Side.ofChar d == .edge) = false := beq_false_of_ne (Side.ofChar_ne_edge d)
  rcases h with rfl | rfl
  · exact fun s => ⟨by rw [holds, holds, hc, hd], by rw [holds, holds]⟩
  · exact fun s => ⟨by rw [holds, holds], by rw [holds, holds, hc, hd]⟩

/-- A coarse expression does not tell characters apart that tell nothing. -/
theorem Regex.confuses_of_isCoarse {r : Regex} (h : r.isCoarse) (hc : ¬IsTelling c)
    (hd : ¬IsTelling d) : r.Confuses c d := by
  induction r with
  | empty => trivial
  | one set => exact CharSet.contains_congr h hc hd
  | assert a => exact Assertion.confuses_of_ends (by simpa [isCoarse] using h)
  | cat a b iha ihb | alt a b iha ihb =>
    rw [isCoarse, Bool.and_eq_true] at h
    exact ⟨iha h.1, ihb h.2⟩
  | opt greedy a ih | star greedy a ih | plus greedy a ih => exact ih h

/-- A coarse expression matches as often in texts of the same outline. -/
theorem Automaton.count_eq_of_sameOutline {r : Regex} (hr : r.isCoarse)
    (h : SameOutline text text') : (ofRegex r).count text = (ofRegex r).count text' := by
  refine count_eq_of_confused (h.imp fun c d hcd => ?_)
  rcases hcd.eq_or with rfl | ⟨hc, hd⟩
  · exact r.confuses_refl c
  · exact Regex.confuses_of_isCoarse hr hc hd

end Pattern

/-- All of the built-in signals are coarse. -/
theorem isCoarse_of_mem_builtinRegexes : ∀ r ∈ builtinRegexes, r.isCoarse := by
  decide +kernel

/-! ## Component markup -/

namespace Component

variable {word : List Char}

/-- A word of ASCII stands at the head of both texts or of neither. -/
theorem isPrefixOf_congr (hword : ∀ a ∈ word, IsAscii a) (h : SameOutline text text') :
    word.isPrefixOf text = word.isPrefixOf text' := by
  induction word generalizing text text' with
  | nil => rfl
  | cons a rest ih =>
    obtain ⟨ha, hrest⟩ := List.forall_mem_cons.mp hword
    cases h with
    | nil => rfl
    | @cons c d _ _ hcd htail =>
      have hhead : (a == c) = (a == d) :=
        hcd.test_eq (p := (a == ·)) fun c hc => .inl (eq_of_beq hc ▸ ha)
      rw [List.isPrefixOf, List.isPrefixOf, hhead, ih hrest htail]

theorem hasWord_congr (hword : word.all fun a => decide (IsAscii a)) (h : SameOutline text text') :
    hasWord word text = hasWord word text' := by
  have hascii : ∀ a ∈ word, IsAscii a := List.all_iff_forall_prop.mp hword
  induction h with
  | nil => rfl
  | cons hcd htail ih => rw [hasWord, hasWord, ih, isPrefixOf_congr hascii (.cons hcd htail)]

theorem isTelling_of_isUpper (h : c.isUpper) : IsTelling c := .inl (Text.isAscii_of_isUpper h)

theorem hasTag_congr (h : SameOutline text text') : hasTag text = hasTag text' := by
  induction h with
  | nil => rfl
  | @cons c d rest rest' hcd htail ih =>
    have hopen : (c == '<') = (d == '<') :=
      hcd.test_eq (p := (· == '<')) fun c hc => .inl (eq_of_beq hc ▸ by decide)
    -- a tag takes two characters, of which the second is the first one of the rest
    have hcapital : rest.head?.any Char.isUpper = rest'.head?.any Char.isUpper := by
      cases htail with
      | nil => rfl
      | cons hnext _ => exact hnext.test_eq fun _ => isTelling_of_isUpper
    rw [hasTag_cons, hasTag_cons, hopen, hcapital, ih]

/-- Texts with the same outline are both components or neither is. -/
theorem isComponent_congr (h : SameOutline text text') : isComponent text = isComponent text' := by
  rw [isComponent, isComponent, hasTag_congr h, hasWord_congr (by decide) h,
    hasWord_congr (by decide) h]

theorem isTyped_congr (h : SameOutline text text') : isTyped text = isTyped text' := by
  rw [isTyped, isTyped, hasWord_congr (by decide) h, hasWord_congr (by decide) h,
    hasWord_congr (by decide) h]

theorem override?_congr (h : SameOutline text text') : override? text = override? text' := by
  rw [override?, override?, isComponent_congr h, isTyped_congr h]

end Component

theorem isBlank_congr (h : SameOutline text text') : isBlank text = isBlank text' := by
  induction h with
  | nil => rfl
  | cons hcd _ ih =>
    have hhead := hcd.test_eq (p := isWhiteSpace) fun _ hspace => .inr (.inl hspace)
    rw [isBlank] at ih ⊢
    rw [List.all_cons, hhead, ih]
    rfl

/-! ## The standard detector -/

/-- A built-in signal finds the same in texts with the same outline. -/
theorem count_eq_of_mem_builtinSignals (h : SameOutline text text') :
    ∀ s ∈ builtinSignals, s.count text = s.count text' := by
  intro s hs
  obtain ⟨spec, -, r, hr, rfl⟩ := exists_of_mem_builtinSignals hs
  exact Pattern.Automaton.count_eq_of_sameOutline (isCoarse_of_mem_builtinRegexes r hr) h

/-- Signals that match two texts equally often give the same standings. -/
theorem standings_congr {signals : List Signal}
    (hcount : ∀ s ∈ signals, s.count text = s.count text')
    (hover : Component.override? text = Component.override? text') :
    standings signals text = standings signals text' := by
  have htally (s : Standings) (signal : Signal) (hsignal : signal ∈ signals) :
      s.tally text signal = s.tally text' signal := by
    rw [Standings.tally, Standings.tally, Signal.score, Signal.score, hcount signal hsignal]
  rw [standings, standings, List.foldl_ext _ _ _ fun s signal h => htally s signal h, hover]

namespace Detector

/-- **The standard detector sees the outline only.** If two texts have the same outline, each of its
27 signals matches equally often in both, the points for component markup are the same, and so is
the language that is reported. -/
theorem standard_sees_outline {code code' : String} (h : SameOutline code.toList code'.toList) :
    (standard? = .ok standard ∧ standard.signals.length = 27) ∧
    (∀ s ∈ standard.signals, s.count code.toList = s.count code'.toList) ∧
    Component.override? code.toList = Component.override? code'.toList ∧
    standard.classify code = standard.classify code' := by
  rw [standard_eq]
  have hcount := count_eq_of_mem_builtinSignals h
  have hover := Component.override?_congr h
  refine ⟨⟨standard?_eq, length_builtinSignals⟩, hcount, hover, ?_⟩
  simp only [classify, Polyglot.classify, isBlank_congr h, standings_congr hcount hover]

/-- Letters beyond ASCII may stand for one another, also where they take more bytes. -/
theorem standard_sees_outline_letters :
    SameOutline "let mut é = naïve;".toList "let mut 界 = naЖve;".toList ∧
      standard.classify "let mut é = naïve;" = standard.classify "let mut 界 = naЖve;" :=
  have h : SameOutline "let mut é = naïve;".toList "let mut 界 = naЖve;".toList := by decide
  ⟨h, (standard_sees_outline h).2.2.2⟩

end Detector

end Polyglot
