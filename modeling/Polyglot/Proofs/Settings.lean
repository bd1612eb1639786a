import Mathlib.Data.List.Induction
import Mathlib.Data.Nat.Digits.Defs
import Polyglot.Proofs.Json.Numeral
import Polyglot.Settings

/-!
# Numbers in settings

A variable for a number is read digit by digit, with a look at the limit after each step. What comes
out is the value of the decimal number that the variable is set to, if it is set to one below the
limit (`decimalBelow?_eq_some_iff`): the number only grows while it is read, so it has never left
the room below the limit if it ends there, and zeros in front take no room. All other variables
leave the preset number in its place (`Settings.ofVariables_reads`).
-/

namespace Polyglot

open Json (IsDigits valueOf)

variable {limit preset value m n : Nat} {c : Char} {cs : List Char} {text : String}

/-- One digit or more, with the number that they stand for, each by its place. -/
def AreDigitsOf (cs : List Char) (n : Nat) : Prop :=
  ∃ values, IsDigits cs values ∧ Nat.ofDigits 10 values.reverse = n

/-- A decimal number and its value: digits after a plus sign or without one. -/
inductive IsDecimal : List Char → Nat → Prop where
  | plain {cs : List Char} {n : Nat} : AreDigitsOf cs n → IsDecimal cs n
  | signed {cs : List Char} {n : Nat} : AreDigitsOf cs n → IsDecimal ('+' :: cs) n

/-! ## Reading digits -/

/-- The value of a digit is found, and nothing else has one. -/
theorem decimalDigit?_eq_some_iff {d : Nat} :
    decimalDigit? c = some d ↔ c.isDigit ∧ valueOf c = d := by
  have hdigit : c.isDigit ↔ '0' ≤ c ∧ c ≤ '9' := by
    rw [Char.isDigit, Bool.and_eq_true, decide_eq_true_eq, decide_eq_true_eq]
    rfl
  rw [decimalDigit?, Option.ite_none_right_eq_some, Option.some_inj, hdigit]
  rfl

theorem below?_eq_some_iff : below? limit m = some n ↔ m < limit ∧ m = n := by
  rw [below?, Option.ite_none_right_eq_some, Option.some_inj]

/-- One more digit is read if there is room for the number that it ends. -/
theorem pushDigit?_eq_some_iff :
    pushDigit? limit value c = some n ↔
      c.isDigit ∧ 10 * value + valueOf c = n ∧ n < limit := by
  simp only [pushDigit?, Option.bind_eq_some_iff, decimalDigit?_eq_some_iff, below?_eq_some_iff]
  constructor
  · rintro ⟨d, ⟨hc, rfl⟩, moved, ⟨-, rfl⟩, hlt, rfl⟩
    exact ⟨hc, rfl, hlt⟩
  · rintro ⟨hc, rfl, hlt⟩
    exact ⟨_, ⟨hc, rfl⟩, _, ⟨Nat.lt_of_add_right_lt hlt, rfl⟩, hlt, rfl⟩

/-- One more digit at the end moves the others up by one place. -/
theorem ofDigits_concat (values : List Nat) (d : Nat) :
    Nat.ofDigits 10 (values ++ [d]).reverse = 10 * Nat.ofDigits 10 values.reverse + d := by
  rw [List.reverse_concat, Nat.ofDigits_cons]
  exact Nat.add_comm ..

theorem ofDigits_reverse (values : List Nat) :
    Nat.ofDigits 10 values.reverse = Json.ofDigits values := by
  induction values using List.reverseRecOn with
  | nil => rfl
  | append_singleton values d ih =>
    rw [ofDigits_concat, ih, Json.ofDigits, Json.ofDigits, List.foldl_append]
    rfl

/-- Digits are read if the number that they stand for is below the limit. -/
theorem foldlM_pushDigit?_eq_some_iff (hlimit : 0 < limit) :
    cs.foldlM (pushDigit? limit) 0 = some n ↔
      (∀ c ∈ cs, c.isDigit) ∧ Nat.ofDigits 10 (cs.map valueOf).reverse = n ∧ n < limit := by
  -- what has been read after each digit is the number of the digits so far
  induction cs using List.reverseRecOn generalizing n with
  | nil =>
    constructor
    · rintro ⟨⟩
      exact ⟨nofun, rfl, hlimit⟩
    · rintro ⟨-, rfl, -⟩
      rfl
  | append_singleton cs c ih =>
    rw [List.foldlM_append, List.map_append, List.map_singleton, ofDigits_concat,
      List.forall_mem_append, List.forall_mem_singleton]
    simp only [Option.bind_eq_bind, Option.bind_eq_some_iff, ih, List.foldlM_cons, List.foldlM_nil,
      pushDigit?_eq_some_iff]
    constructor
    · rintro ⟨m, ⟨hcs, rfl, -⟩, _, ⟨hc, rfl, hlt⟩, ⟨⟩⟩
      exact ⟨⟨hcs, hc⟩, rfl, hlt⟩
    · rintro ⟨⟨hcs, hc⟩, rfl, hlt⟩
      exact ⟨_, ⟨hcs, rfl, by omega⟩, _, ⟨hc, rfl, hlt⟩, rfl⟩

/-! ## Reading numbers -/

theorem not_areDigitsOf_plus : ¬AreDigitsOf ('+' :: cs) n := by
  rintro ⟨values, hdigits, -⟩
  exact absurd (hdigits.isDigit '+' List.mem_cons_self) (by decide)

/-- Behind a plus sign there have to be digits. -/
theorem isDecimal_plus_iff : IsDecimal ('+' :: cs) n ↔ AreDigitsOf cs n := by
  constructor
  · rintro (h | h)
    · exact absurd h not_areDigitsOf_plus
    · exact h
  · exact .signed

theorem isDecimal_iff_of_ne (h : cs.head? ≠ some '+') : IsDecimal cs n ↔ AreDigitsOf cs n := by
  constructor
  · rintro (hcs | _)
    · exact hcs
    · exact absurd rfl h
  · exact .plain

/-- Digits are read if they stand for a number below the limit. -/
theorem digitsBelow?_eq_some_iff (hlimit : 0 < limit) :
    digitsBelow? limit cs = some n ↔ AreDigitsOf cs n ∧ n < limit := by
  rw [digitsBelow?, Option.ite_none_left_eq_some, foldlM_pushDigit?_eq_some_iff hlimit,
    List.isEmpty_iff]
  constructor
  · rintro ⟨hne, hdigit, hvalue, hlt⟩
    exact ⟨⟨_, ⟨hne, hdigit, rfl⟩, hvalue⟩, hlt⟩
  · rintro ⟨⟨_, ⟨hne, hdigit, rfl⟩, hvalue⟩, hlt⟩
    exact ⟨hne, hdigit, hvalue, hlt⟩

/-- **The decimal numbers below a limit are read, and nothing else.** -/
theorem decimalBelow?_eq_some_iff (hlimit : 0 < limit) :
    decimalBelow? limit text = some n ↔ IsDecimal text.toList n ∧ n < limit := by
  unfold decimalBelow?
  split
  · next cs heq => rw [heq, isDecimal_plus_iff, digitsBelow?_eq_some_iff hlimit]
  · next hplain =>
    have hhead : text.toList.head? ≠ some '+' := by
      intro hplus
      obtain ⟨cs, hcs⟩ := List.head?_eq_some_iff.mp hplus
      exact hplain cs hcs
    rw [isDecimal_iff_of_ne hhead, digitsBelow?_eq_some_iff hlimit]

namespace Settings

variable {given : Option String}

/-- What a variable makes of the number in a setting: the value of the decimal number below the
limit that it is set to, or the preset number in every other case. -/
structure IsNumberOr (preset limit : Nat) (given : Option String) (value : Nat) : Prop where
  of_decimal : ∀ text n, given = some text → IsDecimal text.toList n → n < limit → value = n
  otherwise : (¬∃ text n, given = some text ∧ IsDecimal text.toList n ∧ n < limit) → value = preset

/-- The number that is read is the given one if it is proper, and the preset one otherwise. -/
theorem isNumberOr_numberOr (hlimit : 0 < limit) :
    IsNumberOr preset limit given (numberOr preset limit given) where
  of_decimal := by
    rintro text n rfl hdecimal hlt
    rw [numberOr, Option.bind_some, (decimalBelow?_eq_some_iff hlimit).mpr ⟨hdecimal, hlt⟩]
    rfl
  otherwise h := by
    have hnone : given.bind (decimalBelow? limit) = none := by
      rw [Option.eq_none_iff_forall_ne_some]
      intro n hn
      obtain ⟨text, hgiven, hread⟩ := Option.bind_eq_some_iff.mp hn
      exact h ⟨text, n, hgiven, (decimalBelow?_eq_some_iff hlimit).mp hread⟩
    rw [numberOr, hnone]
    rfl

/-- If the preset number is below the limit, every number that a variable makes of it is. -/
theorem IsNumberOr.lt (h : IsNumberOr preset limit given value) (hpreset : preset < limit) :
    value < limit := by
  by_cases hset : ∃ text n, given = some text ∧ IsDecimal text.toList n ∧ n < limit
  · obtain ⟨text, n, hgiven, hdecimal, hlt⟩ := hset
    rw [h.of_decimal text n hgiven hdecimal hlt]
    exact hlt
  · rw [h.otherwise hset]
    exact hpreset

/-! ## The address -/

/-- The address ends in the digits of the port, without zeros in front. -/
theorem exists_listenAddress (s : Settings) :
    ∃ digits, s.listenAddress = "127.0.0.1:" ++ String.ofList digits ∧ AreDigitsOf digits s.port ∧
      (digits.head? = some '0' → digits = ['0']) := by
  have hwhole := Json.isWhole_toDigits s.port
  refine ⟨Nat.toDigits 10 s.port, rfl, ⟨_, hwhole.toIsDigits, ?_⟩, hwhole.leading⟩
  rw [ofDigits_reverse, Json.ofDigits_toDigits]

/-! ## All settings -/

/-- **Settings are read from the variables.** Each size is the decimal number of 64 bits that its
variable is set to, and the preset one in every other case. So is the port, with 16 bits, and the
address is that of the port in digits. Each setting is the same for all that agree on its variable.
-/
theorem ofVariables_reads (lookup : String → Option String) :
    let s := ofVariables lookup
    IsNumberOr 1048576 (2 ^ 64) (lookup "CODELANG_MAX_INPUT_BYTES") s.maxInputBytes ∧
    IsNumberOr 256 (2 ^ 64) (lookup "CODELANG_MAX_BATCH") s.maxBatchItems ∧
    IsNumberOr 8388608 (2 ^ 64) (lookup "CODELANG_MAX_BODY_BYTES") s.maxBodyBytes ∧
    IsNumberOr 9731 (2 ^ 16) (lookup "CODELANG_PORT") s.port ∧
    (s.port < 2 ^ 16 ∧ ∃ digits, s.listenAddress = "127.0.0.1:" ++ String.ofList digits ∧
      AreDigitsOf digits s.port ∧ (digits.head? = some '0' → digits = ['0'])) ∧
    ∀ lookup' : String → Option String,
      let s' := ofVariables lookup'
      let same (name : String) := lookup name = lookup' name
      (same "CODELANG_MAX_INPUT_BYTES" → s.maxInputBytes = s'.maxInputBytes) ∧
      (same "CODELANG_MAX_BATCH" → s.maxBatchItems = s'.maxBatchItems) ∧
      (same "CODELANG_MAX_BODY_BYTES" → s.maxBodyBytes = s'.maxBodyBytes) ∧
      (same "CODELANG_PORT" → s.port = s'.port ∧ s.listenAddress = s'.listenAddress) ∧
      (same "CODELANG_AUTH_TOKEN" → s.authToken = s'.authToken) ∧
      (same "CODELANG_CATALOG" → s.overlayPath = s'.overlayPath) := by
  intro s
  have hport : IsNumberOr 9731 (2 ^ 16) (lookup "CODELANG_PORT") s.port :=
    isNumberOr_numberOr (by decide)
  refine ⟨isNumberOr_numberOr (by decide), isNumberOr_numberOr (by decide),
    isNumberOr_numberOr (by decide), hport, ⟨hport.lt (by decide), exists_listenAddress s⟩, ?_⟩
  intro lookup' s' same
  refine ⟨congrArg (numberOr _ _), congrArg (numberOr _ _), congrArg (numberOr _ _), fun h => ?_,
    congrArg textOf?, congrArg textOf?⟩
  have hsame : s.port = s'.port := congrArg (numberOr _ _) h
  exact ⟨hsame, by rw [listenAddress, listenAddress, hsame]⟩

/-- Variables with the largest size, behind zeros, a size that is too large by one, a negative zero,
and the largest port, behind zeros and a plus sign. -/
def edgeVariables (name : String) : Option String :=
  [("CODELANG_MAX_INPUT_BYTES", "0018446744073709551615"),
    ("CODELANG_MAX_BATCH", "18446744073709551616"), ("CODELANG_MAX_BODY_BYTES", "-0"),
    ("CODELANG_PORT", "+0065535")].lookup name

theorem ofVariables_reads_edges :
    let s := ofVariables edgeVariables
    s.maxInputBytes = 18446744073709551615 ∧ s.maxBatchItems = 256 ∧ s.maxBodyBytes = 8388608 ∧
      s.port = 65535 := by
  intro s
  obtain ⟨hinput, hbatch, hbody, hport, -⟩ := ofVariables_reads edgeVariables
  have hsize : decimalBelow? (2 ^ 64) "0018446744073709551615" = some 18446744073709551615 := by
    decide
  have hlarge : decimalBelow? (2 ^ 64) "18446744073709551616" = none := by decide
  have hnegative : decimalBelow? (2 ^ 64) "-0" = none := by decide
  have hlast : decimalBelow? (2 ^ 16) "+0065535" = some 65535 := by decide
  rw [decimalBelow?_eq_some_iff (by decide)] at hsize hlast
  refine ⟨hinput.of_decimal _ _ rfl hsize.1 hsize.2, hbatch.otherwise ?_, hbody.otherwise ?_,
    hport.of_decimal _ _ rfl hlast.1 hlast.2⟩
  · rintro ⟨_, n, ⟨⟩, hread⟩
    rw [← decimalBelow?_eq_some_iff (by decide), hlarge] at hread
    cases hread
  · rintro ⟨_, n, ⟨⟩, hread⟩
    rw [← decimalBelow?_eq_some_iff (by decide), hnegative] at hread
    cases hread

end Settings

end Polyglot
