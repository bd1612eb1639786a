import Polyglot.Proofs.Json.Numeral

/-!
# What readers read

A reader reads a text as something if it gives that wherever the text stands as a value, and leaves
what follows it (`ReadsAs`). A reader of arrays does so if its reader of items does on each item
(`readsAs_list`). Objects are read by loops that do one step for each member, from after the opening
quote of its key (`IsMemberLoop`); such a loop gets to where its steps lead (`loop_of_bracketed`).
-/

namespace Polyglot.Json

open Polyglot.Text (Glyph glyphsOf)

variable {α σ : Type} {c : Char} {g : Glyph} {s s' s'' : σ} {x : α} {xs : List α}
  {blanks before after part text : List Char} {parts : List (List Char)} {opening closing : Char}
  {first : Bool} {read : Reader α} {bound input rest : Input}

/-! ## Blanks -/

theorem isBlank_of_isBlanks (h : IsBlanks blanks) : ∀ g ∈ glyphsOf blanks, isBlank g := by
  intro g hg
  obtain ⟨c, hc, rfl⟩ := List.mem_map.mp hg
  rcases h c hc with rfl | rfl | rfl | rfl <;> rfl

theorem skipBlanks_blanks (h : IsBlanks blanks) (input : Input) :
    skipBlanks (glyphsOf blanks ++ input) = skipBlanks input :=
  List.dropWhile_append_of_pos (isBlank_of_isBlanks h)

theorem skipBlanks_cons (h : isBlank g = false) : skipBlanks (g :: rest) = g :: rest := by
  rw [skipBlanks, List.dropWhile_cons_of_neg (by simp [h])]

theorem skipBlanks_before (hb : IsBlanks blanks) (hg : isBlank g = false) (rest : Input) :
    skipBlanks (glyphsOf blanks ++ g :: rest) = g :: rest := by
  rw [skipBlanks_blanks hb, skipBlanks_cons hg]

/-- No number goes on after blanks, or where a glyph comes that no number has. -/
theorem endsNumber_blanks (hb : IsBlanks blanks) (hg : continuesNumber g = false) :
    EndsNumber (glyphsOf blanks ++ g :: rest) := by
  cases blanks with
  | nil => exact endsNumber_cons.mpr hg
  | cons c cs =>
    refine endsNumber_cons.mpr ?_
    rcases hb c List.mem_cons_self with rfl | rfl | rfl | rfl <;> rfl

/-- A number ends where a comma or the closing bracket comes next. -/
theorem endsNumber_following (h : Following closing parts text)
    (hclosing : continuesNumber (.char closing) = false) (rest : Input) :
    EndsNumber (glyphsOf text ++ rest) := by
  cases h with
  | last hb =>
    rw [glyphsOf_append, List.append_assoc]
    exact endsNumber_blanks hb hclosing
  | next hb _ _ =>
    rw [glyphsOf_append, List.append_assoc]
    exact endsNumber_blanks hb rfl

/-- There are fewer parts than characters, so the bound on the parts is never reached. -/
theorem length_following (h : Following closing parts text) : parts.length < text.length := by
  induction h with
  | last _ => simp
  | next _ _ _ ih =>
    simp only [List.length_cons, List.length_append]
    omega

/-! ## Values -/

/-- A value can begin with the character, which can be no other part of an array. -/
def BeginsValue (c : Char) : Prop := isBlank (.char c) = false ∧ c ≠ ']'

theorem beginsValue_of_startsNumber (h : startsNumber (.char c)) : BeginsValue c := by
  constructor
  · simp only [isBlank, Bool.or_eq_false_iff, beq_eq_false_iff_ne]
    refine ⟨⟨⟨?_, ?_⟩, ?_⟩, ?_⟩ <;> (rintro ⟨⟩; cases h)
  · rintro rfl
    cases h

/-- The text stands for a value, and the reader gives `x` for it wherever it stands. -/
structure ReadsAs (read : Reader α) (text : List Char) (x : α) : Prop where
  begins : ∃ c cs, text = c :: cs ∧ BeginsValue c
  reads : ∀ {blanks rest}, IsBlanks blanks → EndsNumber rest →
    read (glyphsOf blanks ++ (glyphsOf text ++ rest)) = .ok (x, rest)

/-- No blanks need stand before the value. -/
theorem ReadsAs.reads_here (h : ReadsAs read text x) (hrest : EndsNumber rest) :
    read (glyphsOf text ++ rest) = .ok (x, rest) :=
  h.reads isBlanks_nil hrest

/-- A reader that passes over blanks has to be looked at without blanks only. -/
theorem readsAs_of_skipBlanks {cs : List Char} (hc : BeginsValue c)
    (hskip : ∀ input, read (skipBlanks input) = read input)
    (h : ∀ {rest}, EndsNumber rest → read (.char c :: (glyphsOf cs ++ rest)) = .ok (x, rest)) :
    ReadsAs read (c :: cs) x where
  begins := ⟨c, cs, rfl, hc⟩
  reads {blanks rest} hb hrest := by
    rw [← hskip, glyphsOf_cons, List.cons_append, skipBlanks_before hb hc.1]
    exact h hrest

theorem skipBlanks_skipBlanks (input : Input) :
    skipBlanks (skipBlanks input) = skipBlanks input := by
  induction input with
  | nil => rfl
  | cons g rest ih =>
    cases hg : isBlank g with
    | true => simpa only [skipBlanks, List.dropWhile_cons_of_pos hg] using ih
    | false => rw [skipBlanks_cons hg, skipBlanks_cons hg]

/-- A written form of a string is read as the string. -/
theorem readsAs_string {s : String} (h : IsString s text) : ReadsAs string text s := by
  cases h with
  | intro hbody =>
    refine readsAs_of_skipBlanks ⟨rfl, by decide⟩ ?_ fun {rest} _ => ?_
    · intro input
      simp only [string, skipBlanks_skipBlanks]
    · have htext := text_of_spelled hbody rest
      rw [glyphsOf_append, glyphsOf_cons, glyphsOf_nil, List.append_assoc]
      simp only [string, skipBlanks_cons (show isBlank (.char '"') = false from rfl),
        List.cons_append, List.nil_append, htext, bind, Except.bind, String.ofList_toList]

/-- The word for a truth value. -/
def boolWord (b : Bool) : List Char := (Value.bool b).write

theorem readsAs_bool (b : Bool) : ReadsAs bool (boolWord b) b := by
  have hskip (input : Input) : bool (skipBlanks input) = bool input := by
    simp only [bool, skipBlanks_skipBlanks]
  cases b with
  | true => exact readsAs_of_skipBlanks ⟨rfl, by decide⟩ hskip fun _ => rfl
  | false => exact readsAs_of_skipBlanks ⟨rfl, by decide⟩ hskip fun _ => rfl

/-- What is written of a number that has room in 64 bits is read as the number. -/
theorem number_write {n : Int} (hlow : -0x8000000000000000 ≤ n) (hhigh : n < 0x10000000000000000)
    (hrest : EndsNumber rest) : number (glyphsOf (Number.int n).write ++ rest) =
      .ok (.int n, rest) :=
  number_of_isNumeral (isNumeral_write n) (number?_toDigits hlow hhigh) hrest

theorem readsAs_uint32 (n : UInt32) : ReadsAs uint32 (Number.int n.toNat).write n := by
  have hn : (n.toNat : Int) < UInt32.size := by
    have := n.toNat_lt
    simp only [UInt32.size]
    omega
  obtain ⟨c, cs, hcs, hc⟩ := exists_cons_of_isNumeral (isNumeral_write n.toNat)
  rw [hcs]
  refine readsAs_of_skipBlanks (beginsValue_of_startsNumber hc) ?_ fun {rest} hrest => ?_
  · intro input
    simp only [uint32, skipBlanks_skipBlanks]
  · have hnumber := number_write (n := n.toNat) (by omega)
      (Int.lt_trans hn (by decide)) hrest
    rw [hcs, glyphsOf_cons, List.cons_append] at hnumber
    have hrange : (0 ≤ (n.toNat : Int) && (n.toNat : Int) < UInt32.size) = true := by
      simp only [Int.natCast_nonneg, decide_true, hn, Bool.and_self]
    simp only [uint32, skipBlanks_cons (beginsValue_of_startsNumber hc).1, hc, if_true, hnumber,
      bind, Except.bind, hrange, Int.toNat_natCast, UInt32.ofNat_toNat]

/-- A value that may be absent is read if values are, and if none of them begins as the word for its
absence does. -/
theorem readsAs_optional {Writes : α → List Char → Prop} {value : Option α}
    (h : IsOptional Writes value text)
    (hread : ∀ {x}, Writes x text → ReadsAs read text x ∧ text.head? ≠ some 'n') :
    ReadsAs (optional read) text value := by
  cases h with
  | absent =>
    refine ⟨⟨_, _, rfl, rfl, by decide⟩, fun {blanks rest} hb hrest => ?_⟩
    rw [glyphsOf_cons, List.cons_append]
    simp only [optional, skipBlanks_before hb (show isBlank (.char 'n') = false from rfl)]
    rfl
  | present hx =>
    obtain ⟨hreads, hhead⟩ := hread hx
    refine ⟨hreads.begins, fun {blanks rest} hb hrest => ?_⟩
    obtain ⟨c, cs, rfl, hc⟩ := hreads.begins
    have hhere := hreads.reads_here hrest
    rw [glyphsOf_cons, List.cons_append] at hhere ⊢
    simp only [optional, skipBlanks_before hb hc.1]
    split
    · next heq =>
      cases heq
      exact absurd rfl hhead
    · rw [hhere]
      rfl

/-! ## Arrays -/

/-- There is no other item before the closing bracket. -/
theorem nextItem_close (hb : IsBlanks blanks) :
    nextItem first (glyphsOf blanks ++ .char ']' :: rest) = .ok none := by
  simp only [nextItem, skipBlanks_before hb (show isBlank (.char ']') = false from rfl), if_true]

theorem endItems_close (hb : IsBlanks blanks) :
    endItems (glyphsOf blanks ++ .char ']' :: rest) = .ok rest := by
  simp only [endItems, skipBlanks_before hb (show isBlank (.char ']') = false from rfl), if_true]

/-- The first item follows without a comma. -/
theorem nextItem_first (hb : IsBlanks blanks) (h : ReadsAs read part x) (rest : Input) :
    nextItem true (glyphsOf blanks ++ (glyphsOf part ++ rest)) =
      .ok (some (glyphsOf part ++ rest)) := by
  obtain ⟨c, cs, rfl, hc⟩ := h.begins
  have hclose : Glyph.char c ≠ .char ']' := fun heq => hc.2 (Glyph.char.inj heq)
  rw [glyphsOf_cons, List.cons_append]
  simp only [nextItem, skipBlanks_before hb hc.1, if_neg hclose, if_true]

/-- Every later item follows a comma. -/
theorem nextItem_comma (hb : IsBlanks before) (ha : IsBlanks after) (h : ReadsAs read part x)
    (rest : Input) :
    nextItem false (glyphsOf before ++ .char ',' :: (glyphsOf after ++ (glyphsOf part ++ rest))) =
      .ok (some (glyphsOf part ++ rest)) := by
  obtain ⟨c, cs, rfl, hc⟩ := h.begins
  have hclose : Glyph.char c ≠ .char ']' := fun heq => hc.2 (Glyph.char.inj heq)
  rw [glyphsOf_cons, List.cons_append]
  simp only [nextItem, skipBlanks_before hb (show isBlank (.char ',') = false from rfl),
    skipBlanks_before ha hc.1, if_neg hclose]
  rfl

/-- The items after the first are read up to the closing bracket. -/
theorem items_of_following {found : List α} (h : Following ']' parts text)
    (hread : List.Forall₂ (ReadsAs read) parts xs) (hfound : found ≠ [])
    (hbound : parts.length < bound.length) :
    items read bound found (glyphsOf text ++ rest) = .ok (found.reverse ++ xs, rest) := by
  induction h generalizing bound found xs with
  | last hb =>
    cases hread
    obtain ⟨g, bound, rfl⟩ := List.exists_cons_of_length_pos hbound
    rw [glyphsOf_append, List.append_assoc, glyphsOf_cons, glyphsOf_nil, List.cons_append,
      List.nil_append]
    simp only [items, nextItem_close hb, endItems_close hb, List.append_nil]
    rfl
  | @next before after part text parts hb ha h ih =>
    obtain ⟨x, xs, hx, hxs, rfl⟩ := List.forall₂_cons_left_iff.mp hread
    obtain ⟨g, bound, rfl⟩ := List.exists_cons_of_length_pos (Nat.zero_lt_of_lt hbound)
    have hnext := nextItem_comma hb ha hx (glyphsOf text ++ rest)
    have hitem := hx.reads_here (endsNumber_following h rfl rest)
    simp only [glyphsOf_append, glyphsOf_cons, List.append_assoc, List.cons_append, items,
      List.isEmpty_eq_false_iff.mpr hfound, hnext, hitem]
    rw [ih hxs (List.cons_ne_nil _ _) (Nat.lt_of_succ_lt_succ hbound), List.reverse_cons,
      List.append_assoc, List.singleton_append]

/-- The items of an array are read up to its closing bracket. The bound may be what is left of the
document, in which each item takes a glyph at least. -/
theorem items_of_bracketed (h : Bracketed '[' ']' parts text)
    (hread : List.Forall₂ (ReadsAs read) parts xs) :
    ∃ tail, text = '[' :: tail ∧ ∀ {bound rest}, tail.length ≤ bound.length →
      items read bound [] (glyphsOf tail ++ rest) = .ok (xs, rest) := by
  cases h with
  | @empty blanks hb =>
    cases hread
    refine ⟨_, rfl, fun {bound rest} hbound => ?_⟩
    rw [List.length_append] at hbound
    obtain ⟨g, bound, rfl⟩ := List.exists_cons_of_length_pos (Nat.lt_of_lt_of_le (by simp) hbound)
    rw [glyphsOf_append, List.append_assoc, glyphsOf_cons, glyphsOf_nil, List.cons_append,
      List.nil_append]
    simp only [items, nextItem_close hb, endItems_close hb, List.isEmpty_nil]
    rfl
  | @filled blanks part text parts hb h =>
    obtain ⟨x, xs, hx, hxs, rfl⟩ := List.forall₂_cons_left_iff.mp hread
    refine ⟨_, rfl, fun {bound rest} hbound => ?_⟩
    have hlength : parts.length + 1 < bound.length := by
      obtain ⟨c, cs, rfl, -⟩ := hx.begins
      have := length_following h
      simp only [List.length_append, List.length_cons] at hbound
      omega
    obtain ⟨g, bound, rfl⟩ := List.exists_cons_of_length_pos (Nat.zero_lt_of_lt hlength)
    have hnext := nextItem_first hb hx (glyphsOf text ++ rest)
    have hitem := hx.reads_here (endsNumber_following h rfl rest)
    simp only [glyphsOf_append, List.append_assoc, items, List.isEmpty_nil, hnext, hitem]
    rw [items_of_following h hxs (List.cons_ne_nil _ _) (Nat.lt_of_succ_lt_succ hlength)]
    rfl

/-- An array is read if its elements are. -/
theorem readsAs_list {Writes : α → List Char → Prop} (h : IsArray Writes xs text)
    (hread : ∀ x ∈ xs, ∀ part, Writes x part → ReadsAs read part x) :
    ReadsAs (list read) text xs := by
  obtain ⟨parts, hparts, hbracketed⟩ := h
  have hforall : List.Forall₂ (ReadsAs read) parts xs := by
    clear hbracketed
    induction hparts with
    | nil => exact .nil
    | cons hx _ ih =>
      obtain ⟨hfirst, hrest⟩ := List.forall_mem_cons.mp hread
      exact .cons (hfirst _ hx) (ih hrest)
  obtain ⟨tail, rfl, hitems⟩ := items_of_bracketed hbracketed hforall
  refine readsAs_of_skipBlanks ⟨rfl, by decide⟩ ?_ fun {rest} _ => ?_
  · intro input
    simp only [list, skipBlanks_skipBlanks]
  · simp only [list, skipBlanks_cons (show isBlank (.char '[') = false from rfl)]
    exact hitems (by simp)

/-! ## Objects -/

/-- A loop that reads the members of an object does its step for each, as long as there are any. -/
def IsMemberLoop (loop : Input → Bool → σ → Reader σ) (step : σ → Reader σ) : Prop :=
  ∀ g bound first s input, loop (g :: bound) first s input =
    match nextKey first input with
    | .error fault => .error fault
    | .ok none => (s, ·) <$> endMembers input
    | .ok (some start) =>
      match step s start with
      | .error fault => .error fault
      | .ok (s, rest) => loop bound false s rest

/-- The steps for the members lead from one state to another. -/
inductive Runs (step : σ → Reader σ) : σ → List (List Char) → σ → Prop where
  | nil {s : σ} : Runs step s [] s
  | cons {s s' s'' : σ} {part : List Char} {parts : List (List Char)} :
      (∀ {rest}, EndsNumber rest → step s (glyphsOf part ++ rest) = .ok (s', rest)) →
      Runs step s' parts s'' → Runs step s (('"' :: part) :: parts) s''

theorem nextKey_close (hb : IsBlanks blanks) :
    nextKey first (glyphsOf blanks ++ .char '}' :: rest) = .ok none := by
  simp only [nextKey, skipBlanks_before hb (show isBlank (.char '}') = false from rfl), if_true]

theorem endMembers_close (hb : IsBlanks blanks) :
    endMembers (glyphsOf blanks ++ .char '}' :: rest) = .ok rest := by
  simp only [endMembers, skipBlanks_before hb (show isBlank (.char '}') = false from rfl), if_true]

theorem nextKey_first (hb : IsBlanks blanks) (rest : Input) :
    nextKey true (glyphsOf blanks ++ .char '"' :: rest) = .ok (some rest) := by
  simp only [nextKey, skipBlanks_before hb (show isBlank (.char '"') = false from rfl)]
  rfl

/-- Every later key follows a comma. -/
theorem nextKey_comma (hb : IsBlanks before) (ha : IsBlanks after) (rest : Input) :
    nextKey false (glyphsOf before ++ .char ',' :: (glyphsOf after ++ .char '"' :: rest)) =
      .ok (some rest) := by
  simp only [nextKey, skipBlanks_before hb (show isBlank (.char ',') = false from rfl),
    skipBlanks_before ha (show isBlank (.char '"') = false from rfl)]
  rfl

section Loop

variable {loop : Input → Bool → σ → Reader σ} {step : σ → Reader σ}

/-- A loop over members goes through all of them, up to the closing bracket. -/
theorem loop_of_following (hloop : IsMemberLoop loop step) (h : Following '}' parts text)
    (hruns : Runs step s parts s') (hbound : parts.length < bound.length) :
    loop bound false s (glyphsOf text ++ rest) = .ok (s', rest) := by
  induction h generalizing bound s with
  | last hb =>
    cases hruns
    obtain ⟨g, bound, rfl⟩ := List.exists_cons_of_length_pos hbound
    rw [glyphsOf_append, List.append_assoc, glyphsOf_cons, glyphsOf_nil, List.cons_append,
      List.nil_append, hloop]
    simp only [nextKey_close hb, endMembers_close hb]
    rfl
  | @next before after part text parts hb ha h ih =>
    cases hruns with
    | @cons _ s₁ _ part _ hstep hruns =>
      obtain ⟨g, bound, rfl⟩ := List.exists_cons_of_length_pos (Nat.zero_lt_of_lt hbound)
      have hmember := hstep (endsNumber_following h rfl rest)
      have hnext := nextKey_comma hb ha (glyphsOf part ++ (glyphsOf text ++ rest))
      simp only [glyphsOf_append, glyphsOf_cons, List.append_assoc, List.cons_append]
      rw [hloop, hnext]
      simp only [hmember]
      exact ih hruns (Nat.lt_of_succ_lt_succ hbound)

/-- The members of an object are read up to its closing bracket. -/
theorem loop_of_bracketed (hloop : IsMemberLoop loop step) (h : Bracketed '{' '}' parts text)
    (hruns : Runs step s parts s') :
    ∃ tail, text = '{' :: tail ∧ ∀ {bound rest}, tail.length ≤ bound.length →
      loop bound true s (glyphsOf tail ++ rest) = .ok (s', rest) := by
  cases h with
  | @empty blanks hb =>
    cases hruns
    refine ⟨_, rfl, fun {bound rest} hbound => ?_⟩
    rw [List.length_append] at hbound
    obtain ⟨g, bound, rfl⟩ := List.exists_cons_of_length_pos (Nat.lt_of_lt_of_le (by simp) hbound)
    rw [glyphsOf_append, List.append_assoc, glyphsOf_cons, glyphsOf_nil, List.cons_append,
      List.nil_append, hloop]
    simp only [nextKey_close hb, endMembers_close hb]
    rfl
  | @filled blanks part text parts hb h =>
    cases hruns with
    | @cons _ s₁ _ part _ hstep hruns =>
      refine ⟨_, rfl, fun {bound rest} hbound => ?_⟩
      have hlength : parts.length + 1 < bound.length := by
        have := length_following h
        simp only [List.length_append, List.length_cons] at hbound
        omega
      obtain ⟨g, bound, rfl⟩ := List.exists_cons_of_length_pos (Nat.zero_lt_of_lt hlength)
      have hmember := hstep (endsNumber_following h rfl rest)
      have hnext := nextKey_first hb (glyphsOf part ++ (glyphsOf text ++ rest))
      simp only [glyphsOf_append, glyphsOf_cons, List.append_assoc, List.cons_append]
      rw [hloop, hnext]
      simp only [hmember]
      exact loop_of_following hloop h hruns (Nat.lt_of_succ_lt_succ hlength)

end Loop

/-- After the opening quote of a member comes its key, and after the key a colon and its value. -/
theorem text_of_isMember {key value : List Char} {label : String}
    (hkey : Spelled key label.toList) (h : IsMember key value part) :
    ∃ tail, part = '"' :: tail ∧ ∀ rest, ∃ after colon, IsBlanks after ∧
      Json.text (glyphsOf tail ++ rest) = .ok (label.toList, colon) ∧
      skipColon colon = .ok (glyphsOf after ++ (glyphsOf value ++ rest)) := by
  cases h with
  | @intro before after hb ha =>
    refine ⟨_, rfl, fun rest => ⟨after,
      glyphsOf before ++ .char ':' :: (glyphsOf after ++ (glyphsOf value ++ rest)), ha, ?_, ?_⟩⟩
    · have := text_of_spelled hkey
        (glyphsOf before ++ .char ':' :: (glyphsOf after ++ (glyphsOf value ++ rest)))
      simpa only [glyphsOf_append, glyphsOf_cons, List.append_assoc, List.cons_append] using this
    · simp only [skipColon, skipBlanks_before hb (show isBlank (.char ':') = false from rfl),
        if_true]

/-! ## Documents -/

/-- A document is read if its value is. -/
theorem document_of_isDocument {Writes : List Char → Prop} {text : String}
    (h : IsDocument Writes text) (hread : ∀ {value}, Writes value → ReadsAs read value x) :
    document read (glyphsOf text.toList) = .ok x := by
  obtain ⟨before, value, after, hb, hvalue, ha, htext⟩ := h
  have hend : EndsNumber (glyphsOf after) := by
    cases after with
    | nil => exact endsNumber_nil
    | cons c cs =>
      refine endsNumber_cons.mpr ?_
      rcases ha c List.mem_cons_self with rfl | rfl | rfl | rfl <;> rfl
  have hblank : (skipBlanks (glyphsOf after)).isEmpty := by
    have := skipBlanks_blanks ha []
    rw [List.append_nil] at this
    rw [this]
    rfl
  rw [htext, glyphsOf_append, glyphsOf_append, document, (hread hvalue).reads hb hend]
  simp only [bind, Except.bind, hblank, if_true]

end Polyglot.Json
