import Polyglot.Json.Skip
import Polyglot.Proofs.Json.Reading

/-!
# Skipped values are passed over

Whatever is the text of a value is passed over as a whole (`skip_of_isJson`). A value with parts is
passed over in turns, with the brackets that are open on a list. `Leads` says that some turns lead
from one list of brackets and one rest of the document to others, and that there are no more turns
than glyphs between them, so that the bound is never met.
-/

namespace Polyglot.Json

open Polyglot.Text (Glyph glyphsOf)

variable {b : Bracket} {stack stack' stack'' : List Bracket} {fresh : Bool} {g : Glyph}
  {blanks part body value text : List Char} {parts : List (List Char)} {opening closing : Char}
  {input input' rest rest' : Input}

/-! ## Turns -/

/-- Passing over leads to where the brackets are `stack'` and what is left is `rest`. -/
def Leads (stack : List Bracket) (fresh : Bool) (input : Input) (stack' : List Bracket)
    (rest : Input) : Prop :=
  rest.length ≤ input.length ∧ ∀ bound : Input, input.length ≤ bound.length + rest.length →
    ∃ bound' : Input, bound.length + rest.length ≤ bound'.length + input.length ∧
      skipOpen bound stack fresh input = skipOpen bound' stack' false rest

theorem Leads.refl : Leads stack false input stack input :=
  ⟨Nat.le_refl _, fun bound _ => ⟨bound, Nat.le_refl _, rfl⟩⟩

/-- One way leads on from where another has led to. -/
theorem Leads.trans (h : Leads stack fresh input stack' rest)
    (h' : Leads stack' false rest stack'' rest') : Leads stack fresh input stack'' rest' := by
  obtain ⟨hle, h⟩ := h
  obtain ⟨hle', h'⟩ := h'
  refine ⟨Nat.le_trans hle' hle, fun bound hbound => ?_⟩
  obtain ⟨bound', hbound', heq⟩ := h bound (by omega)
  obtain ⟨bound'', hbound'', heq'⟩ := h' bound' (by omega)
  exact ⟨bound'', by omega, heq.trans heq'⟩

/-- One turn, which takes a glyph at least, and then others. -/
theorem Leads.turn {fresh' : Bool}
    (hturn : ∀ g bound, skipOpen (g :: bound) stack fresh input =
      skipOpen bound stack' fresh' input')
    (hlt : input'.length < input.length) (h : Leads stack' fresh' input' stack'' rest) :
    Leads stack fresh input stack'' rest := by
  obtain ⟨hle, h⟩ := h
  refine ⟨by omega, fun bound hbound => ?_⟩
  obtain ⟨g, bound, rfl⟩ :=
    List.exists_cons_of_length_pos (show 0 < bound.length by omega)
  rw [List.length_cons] at hbound
  obtain ⟨bound', hbound', heq⟩ := h bound (by omega)
  exact ⟨bound', by rw [List.length_cons]; omega, (hturn g bound).trans heq⟩

/-! ## Strings -/

theorem skipText_quote (rest : Input) : skipText (.char '"' :: rest) = .ok rest := by
  rw [skipText.eq_def]
  rfl

/-- A character that is neither a quote nor a backslash nor a control character is passed over
alone. -/
theorem skipText_plain {c : Char} (hq : c ≠ '"') (hb : c ≠ '\\') (hc : ¬c < ' ') (rest : Input) :
    skipText (.char c :: rest) = skipText rest := by
  rw [skipText.eq_def]
  simp only [if_neg hq, if_neg hb, if_neg hc]

theorem skipText_escape (h : skipEscape input = .ok rest) :
    skipText (.char '\\' :: input) = skipText rest := by
  rw [skipText.eq_def]
  simp only [if_neg (show '\\' ≠ '"' by decide), if_true]
  split
  · next h' =>
    rw [h] at h'
    cases h'
    rfl
  · next h' =>
    rw [h] at h'
    cases h'

/-- A string is passed over whatever its escapes stand for. -/
theorem skipText_of_isBody (h : IsBody body) (rest : Input) :
    skipText (glyphsOf body ++ .char '"' :: rest) = .ok rest := by
  induction h with
  | nil => exact skipText_quote rest
  | plain hq hb hc _ ih =>
    rw [glyphsOf_cons, List.cons_append, skipText_plain hq hb hc]
    exact ih
  | @short e cs he _ ih =>
    have hu : e ≠ 'u' := by
      rintro rfl
      cases he
    have hescape : skipEscape (.char e :: (glyphsOf cs ++ .char '"' :: rest)) =
        .ok (glyphsOf cs ++ .char '"' :: rest) := by
      simp only [skipEscape, if_neg hu, he, if_true]
    rw [glyphsOf_cons, glyphsOf_cons, List.cons_append, List.cons_append, skipText_escape hescape]
    exact ih
  | @number digits cs unit hdigits _ ih =>
    have hescape : skipEscape (.char 'u' :: (glyphsOf digits ++
        (glyphsOf cs ++ .char '"' :: rest))) = .ok (glyphsOf cs ++ .char '"' :: rest) := by
      rw [skipEscape, if_pos rfl, hex4_of_isUnit hdigits]
      rfl
    rw [glyphsOf_cons, glyphsOf_cons, glyphsOf_append, List.cons_append, List.cons_append,
      List.append_assoc, skipText_escape hescape]
    exact ih

/-! ## Parts -/

/-- The text is passed over, at once or after its opening bracket has been put on the list. -/
structure PassedOver (text : List Char) : Prop where
  begins : ∃ c cs, text = c :: cs ∧ BeginsValue c
  passes : ∀ {blanks rest}, IsBlanks blanks → EndsNumber rest →
    skipBegin (glyphsOf blanks ++ (glyphsOf text ++ rest)) = .ok (none, rest) ∨
    ∃ b tail, skipBegin (glyphsOf blanks ++ (glyphsOf text ++ rest)) = .ok (some b, tail) ∧
      tail.length < text.length + rest.length ∧
      ∀ stack, Leads (b :: stack) true tail stack rest

/-- The text can stand between brackets of the kind: it is a value, after a key in an object. -/
structure IsPart (b : Bracket) (part : List Char) : Prop where
  begins : ∃ c cs, part = c :: cs ∧ isBlank (.char c) = false ∧ .char c ≠ b.closing
  value : ∃ value, PassedOver value ∧ value.length ≤ part.length ∧
    ∀ {blanks}, IsBlanks blanks → ∀ rest, ∃ after, IsBlanks after ∧
      b.skipKey (glyphsOf blanks ++ (glyphsOf part ++ rest)) =
        .ok (glyphsOf after ++ (glyphsOf value ++ rest))

/-- A turn that comes to a part, and the turns inside of it. -/
theorem leads_part (h : IsPart b part) (hb : IsBlanks blanks) (hrest : EndsNumber rest)
    (hturn : ∀ g bound, skipOpen (g :: bound) (b :: stack) fresh input = (do
      let input ← b.skipKey (glyphsOf blanks ++ (glyphsOf part ++ rest))
      match ← skipBegin input with
      | (none, rest) => skipOpen bound (b :: stack) false rest
      | (some inner, rest) => skipOpen bound (inner :: b :: stack) true rest))
    (hlength : part.length + rest.length ≤ input.length) :
    Leads (b :: stack) fresh input (b :: stack) rest := by
  obtain ⟨value, hvalue, hle, hkey⟩ := h.value
  obtain ⟨after, ha, hkey⟩ := hkey hb rest
  have hpos : 0 < value.length := by
    obtain ⟨c, cs, rfl, -⟩ := hvalue.begins
    exact Nat.succ_pos _
  rcases hvalue.passes ha hrest with hbegin | ⟨inner, tail, hbegin, hlt, hleads⟩
  · refine .turn (fun g bound => ?_) (by omega) .refl
    simp only [hturn, hkey, hbegin, bind, Except.bind]
  · refine .turn (fun g bound => ?_) (by omega) (hleads (b :: stack))
    simp only [hturn, hkey, hbegin, bind, Except.bind]

/-- A closing bracket takes the bracket that it closes off the stack. -/
theorem leads_close (hb : IsBlanks blanks) (hclosing : b.closing = .char closing)
    (hblank : isBlank (.char closing) = false) :
    Leads (b :: stack) fresh (glyphsOf (blanks ++ [closing]) ++ rest) stack rest := by
  rw [glyphsOf_append, List.append_assoc, glyphsOf_cons, glyphsOf_nil, List.cons_append,
    List.nil_append]
  refine .turn (fun g bound => ?_) ?_ .refl
  · simp only [skipOpen, skipBlanks_before hb hblank, hclosing, if_true]
  · simp only [List.length_append, List.length_cons]
    omega

/-- The first part is met when the bracket is fresh. -/
theorem leads_first (h : IsPart b part) (hb : IsBlanks blanks) (hrest : EndsNumber rest)
    (stack : List Bracket) :
    Leads (b :: stack) true (glyphsOf blanks ++ (glyphsOf part ++ rest)) (b :: stack) rest := by
  refine leads_part h isBlanks_nil hrest (fun g bound => ?_) (by simp)
  obtain ⟨c, cs, rfl, hblank, hclosing⟩ := h.begins
  rw [glyphsOf_cons, List.cons_append, glyphsOf_nil, List.nil_append]
  simp only [skipOpen, skipBlanks_before hb hblank, if_neg hclosing]
  rfl

/-- Every other part is met after a comma. -/
theorem leads_comma {before after : List Char} (h : IsPart b part) (hb : IsBlanks before)
    (ha : IsBlanks after) (hrest : EndsNumber rest) (stack : List Bracket) :
    Leads (b :: stack) false
      (glyphsOf before ++ .char ',' :: (glyphsOf after ++ (glyphsOf part ++ rest)))
      (b :: stack) rest := by
  have hclosing : Glyph.char ',' ≠ b.closing := by cases b <;> decide
  refine leads_part h ha hrest (fun g bound => ?_) ?_
  · simp only [skipOpen, skipBlanks_before hb (show isBlank (.char ',') = false from rfl),
      if_neg hclosing]
    rfl
  · simp only [List.length_append, List.length_cons, length_glyphsOf]
    omega

theorem continuesNumber_closing (b : Bracket) : continuesNumber b.closing = false := by
  cases b <;> rfl

theorem isBlank_closing (b : Bracket) : isBlank b.closing = false := by
  cases b <;> rfl

/-- From behind one part, an array or an object is passed over to its closing bracket. -/
theorem leads_following (h : Following closing parts text) (hclosing : b.closing = .char closing)
    (hparts : ∀ part ∈ parts, IsPart b part) (rest : Input) :
    Leads (b :: stack) false (glyphsOf text ++ rest) stack rest := by
  induction h with
  | last hb => exact leads_close hb hclosing (hclosing ▸ isBlank_closing b)
  | @next before after part text parts hb ha h ih =>
    obtain ⟨hpart, hparts⟩ := List.forall_mem_cons.mp hparts
    have hends := endsNumber_following h (hclosing ▸ continuesNumber_closing b) rest
    have hfirst := leads_comma hpart hb ha hends stack
    simpa only [glyphsOf_append, glyphsOf_cons, List.append_assoc, List.cons_append] using
      hfirst.trans (ih hparts)

/-- What stands after an opening bracket is passed over with its closing bracket. -/
theorem leads_bracketed (h : Bracketed opening closing parts text)
    (hclosing : b.closing = .char closing) (hparts : ∀ part ∈ parts, IsPart b part) :
    ∃ tail, text = opening :: tail ∧
      ∀ stack rest, Leads (b :: stack) true (glyphsOf tail ++ rest) stack rest := by
  cases h with
  | empty hb =>
    exact ⟨_, rfl, fun _ _ => leads_close hb hclosing (hclosing ▸ isBlank_closing b)⟩
  | @filled blanks part text parts hb h =>
    obtain ⟨hpart, hparts⟩ := List.forall_mem_cons.mp hparts
    refine ⟨_, rfl, fun stack rest => ?_⟩
    have hends := endsNumber_following h (hclosing ▸ continuesNumber_closing b) rest
    have hfirst := leads_first hpart hb hends stack
    simpa only [glyphsOf_append, List.append_assoc] using
      hfirst.trans (leads_following h hclosing hparts rest)

/-! ## Values -/

theorem PassedOver.isPart_array (h : PassedOver text) : IsPart .array text where
  begins := by
    obtain ⟨c, cs, rfl, hblank, hclosing⟩ := h.begins
    exact ⟨c, cs, rfl, hblank, fun heq => hclosing (Glyph.char.inj heq)⟩
  value := ⟨text, h, Nat.le_refl _, fun {blanks} hb _ => ⟨blanks, hb, rfl⟩⟩

/-- A member whose value is passed over is passed over. -/
theorem PassedOver.isPart_object {key : List Char} (h : PassedOver value) (hkey : IsBody key)
    (hmember : IsMember key value part) : IsPart .object part := by
  cases hmember with
  | @intro before after hb ha =>
    refine ⟨⟨_, _, rfl, rfl, by decide⟩, value, h, ?_, fun {blanks} hblanks rest =>
      ⟨after, ha, ?_⟩⟩
    · simp only [List.length_cons, List.length_append]
      omega
    · have htext := skipText_of_isBody hkey
        (glyphsOf before ++ .char ':' :: (glyphsOf after ++ (glyphsOf value ++ rest)))
      have hcolon := skipBlanks_before hb (show isBlank (.char ':') = false from rfl)
        (glyphsOf after ++ (glyphsOf value ++ rest))
      simp only [Bracket.skipKey, glyphsOf_append, glyphsOf_cons, List.append_assoc,
        List.cons_append, skipBlanks_before hblanks (show isBlank (.char '"') = false from rfl),
        if_true, htext, bind, Except.bind, skipColon, hcolon]

/-- A value without parts is passed over at once. -/
theorem passedOver_of_begin {c : Char} {cs : List Char} (hc : BeginsValue c)
    (h : ∀ {rest}, EndsNumber rest →
      skipBegin (.char c :: (glyphsOf cs ++ rest)) = .ok (none, rest)) : PassedOver (c :: cs) where
  begins := ⟨c, cs, rfl, hc⟩
  passes {blanks rest} hb hrest := by
    refine .inl ?_
    have := h hrest
    simp only [skipBegin, skipBlanks_cons hc.1] at this
    rw [glyphsOf_cons, List.cons_append]
    simp only [skipBegin, skipBlanks_before hb hc.1]
    exact this

theorem passedOver_number {n : Numeral} (h : IsNumeral text n) : PassedOver text := by
  obtain ⟨c, cs, rfl, hc⟩ := exists_cons_of_isNumeral h
  have hne : ∀ d, startsNumber (.char d) = false → c ≠ d := by
    rintro d hd rfl
    rw [hc] at hd
    cases hd
  refine passedOver_of_begin (beginsValue_of_startsNumber hc) fun {rest} hrest => ?_
  have hskip := skipNumber_of_isNumeral h hrest
  rw [glyphsOf_cons, List.cons_append] at hskip
  simp only [skipBegin, skipBlanks_cons (beginsValue_of_startsNumber hc).1, if_neg (hne '[' rfl),
    if_neg (hne '{' rfl), if_neg (hne '"' rfl), if_pos hc, hskip]
  rfl

/-- A value with parts is passed over after its opening bracket. -/
theorem passedOver_bracketed (hopening : BeginsValue opening)
    (hbegin : ∀ rest, skipBegin (.char opening :: rest) = .ok (some b, rest))
    (h : Bracketed opening closing parts text) (hclosing : b.closing = .char closing)
    (hparts : ∀ part ∈ parts, IsPart b part) : PassedOver text := by
  obtain ⟨tail, rfl, hleads⟩ := leads_bracketed h hclosing hparts
  refine ⟨⟨opening, tail, rfl, hopening⟩, fun {blanks rest} hb _ => .inr ⟨b, glyphsOf tail ++ rest,
    ?_, by simp, fun stack => hleads stack rest⟩⟩
  have := hbegin (glyphsOf tail ++ rest)
  simp only [skipBegin, skipBlanks_cons hopening.1] at this
  rw [glyphsOf_cons, List.cons_append]
  simp only [skipBegin, skipBlanks_before hb hopening.1]
  exact this

theorem exists_of_mem_forall₂ {α β : Type} {R : α → β → Prop} {xs : List α} {ys : List β} {y : β}
    (h : List.Forall₂ R xs ys) (hy : y ∈ ys) : ∃ x ∈ xs, R x y := by
  induction h with
  | nil => cases hy
  | cons hxy _ ih =>
    rcases List.mem_cons.mp hy with rfl | hy
    · exact ⟨_, List.mem_cons_self, hxy⟩
    · obtain ⟨x, hx, hR⟩ := ih hy
      exact ⟨x, List.mem_cons_of_mem _ hx, hR⟩

/-- Every JSON value is passed over, however deep it is. -/
theorem passedOver_of_isJson (h : IsJson text) : PassedOver text := by
  induction h with
  | null => exact passedOver_of_begin ⟨rfl, by decide⟩ fun _ => rfl
  | true => exact passedOver_of_begin ⟨rfl, by decide⟩ fun _ => rfl
  | false => exact passedOver_of_begin ⟨rfl, by decide⟩ fun _ => rfl
  | number hn => exact passedOver_number hn
  | string hbody =>
    refine passedOver_of_begin ⟨rfl, by decide⟩ fun {rest} _ => ?_
    have htext := skipText_of_isBody hbody rest
    simp only [skipBegin, skipBlanks_cons (show isBlank (.char '"') = false from rfl),
      glyphsOf_append, glyphsOf_cons, glyphsOf_nil, List.append_assoc, List.cons_append,
      List.nil_append, htext]
    rfl
  | array _ htext ih =>
    exact passedOver_bracketed (b := .array) ⟨rfl, by decide⟩ (fun _ => rfl) htext rfl
      fun part hpart => (ih part hpart).isPart_array
  | @object members parts text hkeys _ hmembers htext ih =>
    refine passedOver_bracketed (b := .object) ⟨rfl, by decide⟩ (fun _ => rfl) htext rfl
      fun part hpart => ?_
    obtain ⟨m, hm, hmember⟩ := exists_of_mem_forall₂ hmembers hpart
    exact (ih m hm).isPart_object (hkeys m hm) hmember

/-- **The text of a value is passed over as a whole.** -/
theorem skip_of_isJson (h : IsJson text) (hb : IsBlanks blanks) (hrest : EndsNumber rest) :
    skip (glyphsOf blanks ++ (glyphsOf text ++ rest)) = .ok rest := by
  rcases (passedOver_of_isJson h).passes hb hrest with hbegin | ⟨b, tail, hbegin, -, hleads⟩
  · simp only [skip, hbegin, bind, Except.bind]
  · obtain ⟨bound, -, heq⟩ := (hleads []).2 tail (Nat.le_add_right _ _)
    simp only [skip, hbegin, bind, Except.bind, heq]
    rw [skipOpen]

end Polyglot.Json
