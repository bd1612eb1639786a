import Polyglot.Proofs.Json.Normal
import Polyglot.Proofs.Json.Record

/-!
# Values are read

A text may stand for a value in many ways: with blanks, with other spellings of its strings, and
with the members of its objects in any order (`Denotes`). Whichever it is, the value is read
(`readsAs_value`). A normal value without floating-point numbers is written as one of these texts
(`denotes_write`), so it is read as it has been written.
-/

namespace Polyglot.Json

open Polyglot.Text (Glyph glyphsOf)

variable {c : Char} {v : Value} {ms : List (String × Value)} {text : List Char} {depth : Nat}
  {read : Reader Value} {rest : Input}

/-- The text stands for the value, with at most `depth` brackets inside of one another. Of members
with the same key the last one counts. -/
inductive Denotes : (depth : Nat) → List Char → Value → Prop where
  | null {depth : Nat} : Denotes depth Value.null.write .null
  | bool {depth : Nat} (b : Bool) : Denotes depth (boolWord b) (.bool b)
  | number {depth : Nat} {text : List Char} {n : Numeral} {x : Number} : IsNumeral text n →
      n.number? = some x → Denotes depth text (.number x)
  | string {depth : Nat} {text : List Char} {s : String} : IsString s text →
      Denotes depth text (.string s)
  | array {depth : Nat} {text : List Char} {items : List (List Char × Value)} :
      (∀ i ∈ items, Denotes depth i.1 i.2) → Bracketed '[' ']' (items.map (·.1)) text →
      Denotes (depth + 1) text (.array (items.map (·.2)))
  | object {depth : Nat} {text : List Char} {members : List (String × List Char × Value)} :
      (∀ m ∈ members, Denotes depth m.2.1 m.2.2) →
      IsObject (members.map fun m => (m.1, m.2.1)) text →
      Denotes (depth + 1) text (.object (readMembers [] (members.map fun m => (m.1, m.2.2))))

/-! ## Reading -/

theorem value_skipBlanks (input : Input) : value depth (skipBlanks input) = value depth input := by
  rw [value, value, skipBlanks_skipBlanks]

/-- After a quote, a string is read. -/
theorem value_quote : value depth (.char '"' :: rest) = (do
    let (cs, rest) ← Json.text rest
    .ok (.string (String.ofList cs), rest)) := by
  rw [value]
  rfl

theorem value_number (h : startsNumber (.char c)) : value depth (.char c :: rest) = (do
    let (n, rest) ← number (.char c :: rest)
    .ok (.number n, rest)) := by
  have hblank := (beginsValue_of_startsNumber h).1
  have hne : ∀ d, startsNumber (.char d) = false → c ≠ d := by
    rintro d hd rfl
    rw [h] at hd
    cases hd
  rw [value]
  simp only [skipBlanks_cons hblank, if_neg (hne '[' rfl), if_neg (hne '{' rfl),
    if_neg (hne '"' rfl), if_pos h]

/-- After an opening bracket, the items are read one level deeper. -/
theorem value_open_array : value (depth + 1) (.char '[' :: rest) = (do
    let (vs, rest) ← items (value depth) rest [] rest
    .ok (.array vs, rest)) :=
  rfl

theorem value_open_object : value (depth + 1) (.char '{' :: rest) = (do
    let (ms, rest) ← valueMembers (value depth) rest true [] rest
    .ok (.object ms, rest)) :=
  rfl

/-- Reads one member of an object and puts it among those that have been read. -/
def memberStep (read : Reader Value) (found : List (String × Value)) :
    Reader (List (String × Value)) := fun input => do
  let (key, rest) ← Json.text input
  let (v, rest) ← skipColon rest >>= read
  .ok (insertMember (String.ofList key) v found, rest)

/-- The reader of objects is a loop over members. -/
theorem isMemberLoop_valueMembers (read : Reader Value) :
    IsMemberLoop (valueMembers read) (memberStep read) := by
  intro g bound first found input
  rw [valueMembers]
  cases nextKey first input with
  | error fault => rfl
  | ok start =>
    cases start with
    | none => rfl
    | some start =>
      simp only [memberStep]
      cases Json.text start with
      | error fault => rfl
      | ok keyed =>
        simp only [bind, Except.bind]
        cases skipColon keyed.2 with
        | error fault => rfl
        | ok after =>
          simp only
          cases read after <;> rfl

/-- The members of an object are read if their values are. -/
theorem runs_memberStep {members : List (String × List Char × Value)}
    {parts : List (List Char)}
    (hparts : List.Forall₂ (fun m part => ∃ key, Spelled key m.1.toList ∧ IsMember key m.2 part)
      (members.map fun m => (m.1, m.2.1)) parts)
    (hread : ∀ m ∈ members, ReadsAs read m.2.1 m.2.2) (found : List (String × Value)) :
    Runs (memberStep read) found parts
      (readMembers found (members.map fun m => (m.1, m.2.2))) := by
  induction members generalizing parts found with
  | nil =>
    cases hparts
    exact .nil
  | cons m members ih =>
    obtain ⟨part, parts, ⟨key, hkey, hpart⟩, hothers, rfl⟩ := List.forall₂_cons_left_iff.mp hparts
    obtain ⟨hm, hread⟩ := List.forall_mem_cons.mp hread
    obtain ⟨tail, rfl, htext⟩ := text_of_isMember hkey hpart
    refine .cons (fun {rest} hrest => ?_) (ih hothers hread _)
    obtain ⟨after, colon, ha, htext, hcolon⟩ := htext rest
    simp only [memberStep, htext, bind, Except.bind, hcolon, hm.reads ha hrest,
      String.ofList_toList]

/-- **A value is read from every text that stands for it.** -/
theorem readsAs_value (h : Denotes depth text v) : ReadsAs (value depth) text v := by
  induction h with
  | @null depth =>
    rw [Value.write]
    refine readsAs_of_skipBlanks ⟨rfl, by decide⟩ value_skipBlanks fun {rest} _ => ?_
    rw [value]
    rfl
  | @bool depth b =>
    cases b with
    | true =>
      refine readsAs_of_skipBlanks ⟨rfl, by decide⟩ value_skipBlanks fun {rest} _ => ?_
      rw [value]
      rfl
    | false =>
      refine readsAs_of_skipBlanks ⟨rfl, by decide⟩ value_skipBlanks fun {rest} _ => ?_
      rw [value]
      rfl
  | @number depth text n x hn hx =>
    obtain ⟨c, cs, rfl, hc⟩ := exists_cons_of_isNumeral hn
    refine readsAs_of_skipBlanks (beginsValue_of_startsNumber hc) value_skipBlanks
      fun {rest} hrest => ?_
    have hnumber := number_of_isNumeral hn hx hrest
    rw [glyphsOf_cons, List.cons_append] at hnumber
    rw [value_number hc, hnumber]
    rfl
  | @string depth text s hs =>
    cases hs with
    | intro hbody =>
      refine readsAs_of_skipBlanks ⟨rfl, by decide⟩ value_skipBlanks fun {rest} _ => ?_
      rw [glyphsOf_append, glyphsOf_cons, glyphsOf_nil, List.append_assoc, List.cons_append,
        List.nil_append, value_quote, text_of_spelled hbody]
      simp only [bind, Except.bind, String.ofList_toList]
  | @array depth text items _ htext ih =>
    have hforall : List.Forall₂ (ReadsAs (value depth)) (items.map (·.1)) (items.map (·.2)) := by
      rw [List.forall₂_map_left_iff, List.forall₂_map_right_iff, List.forall₂_same]
      exact ih
    obtain ⟨tail, rfl, hitems⟩ := items_of_bracketed htext hforall
    refine readsAs_of_skipBlanks ⟨rfl, by decide⟩ value_skipBlanks fun {rest} _ => ?_
    rw [value_open_array, hitems (by simp)]
    rfl
  | @object depth text members _ htext ih =>
    obtain ⟨parts, hparts, hbracketed⟩ := htext
    obtain ⟨tail, rfl, hloop⟩ := loop_of_bracketed (isMemberLoop_valueMembers (value depth))
      hbracketed (runs_memberStep hparts ih [])
    refine readsAs_of_skipBlanks ⟨rfl, by decide⟩ value_skipBlanks fun {rest} _ => ?_
    rw [value_open_object, hloop (by simp)]
    rfl

/-- A document is read as the value that it stands for. -/
theorem read_of_isDocument {text : String} (h : IsDocument (Denotes depthLimit · v) text) :
    Value.read (glyphsOf text.toList) = .ok v :=
  document_of_isDocument h readsAs_value

/-! ## Writing -/

/-- The value has no floating-point numbers, and its whole numbers have 64 bits, with a sign or
without one. -/
inductive Value.IsExact : Value → Prop where
  | null : IsExact .null
  | bool (b : Bool) : IsExact (.bool b)
  | int {n : Int} : -0x8000000000000000 ≤ n → n < 0x10000000000000000 →
      IsExact (.number (.int n))
  | string (s : String) : IsExact (.string s)
  | array {vs : List Value} : (∀ v ∈ vs, IsExact v) → IsExact (.array vs)
  | object {ms : List (String × Value)} : (∀ m ∈ ms, IsExact m.2) → IsExact (.object ms)

/-- What is written of a string denotes it. -/
theorem denotes_string (s : String) : Denotes depth (Value.string s).write (.string s) :=
  .string (isString_write s)

theorem denotes_int {n : Int} (hlow : -0x8000000000000000 ≤ n) (hhigh : n < 0x10000000000000000) :
    Denotes depth (Value.number (.int n)).write (.number (.int n)) := by
  rw [Value.write]
  exact .number (isNumeral_write n) (number?_toDigits hlow hhigh)

/-- If each item is written as what denotes it, then so is the array, one level higher. -/
theorem denotes_array {vs : List Value} (h : ∀ v ∈ vs, Denotes depth v.write v) :
    Denotes (depth + 1) (Value.array vs).write (.array vs) := by
  have hparts : (vs.map fun v => (v.write, v)).map (·.1) = vs.map Value.write := by simp
  have hvalues : (vs.map fun v => (v.write, v)).map (·.2) = vs := by
    simp [Function.comp_def]
  have hwritten := bracketed_write_array vs
  rw [← hparts] at hwritten
  have hdenotes := Denotes.array (List.forall_mem_map.mpr h) hwritten
  rwa [hvalues] at hdenotes

/-- The members of an object that is written are read in order. -/
theorem denotes_object (h : ∀ m ∈ ms, Denotes depth m.2.write m.2) :
    Denotes (depth + 1) (Value.object ms).write (.object (readMembers [] ms)) := by
  have hparts : (ms.map fun m => (m.1, m.2.write, m.2)).map (fun m => (m.1, m.2.1)) =
      ms.map fun m => (m.1, m.2.write) := by simp
  have hvalues : (ms.map fun m => (m.1, m.2.write, m.2)).map (fun m => (m.1, m.2.2)) = ms := by
    simp [Function.comp_def]
  have hwritten := isObject_write ms
  rw [← hparts] at hwritten
  have hdenotes := Denotes.object (List.forall_mem_map.mpr h) hwritten
  rwa [hvalues] at hdenotes

/-- **A normal value without floating-point numbers is read as it has been written.** -/
theorem denotes_write (hv : v.IsExact) (hn : v.IsNormal depth) : Denotes depth v.write v := by
  -- the depth that is allowed goes down with every bracket
  induction hv generalizing depth with
  | null => exact .null
  | bool b => exact .bool b
  | int hlow hhigh => exact denotes_int hlow hhigh
  | string s => exact denotes_string s
  | array _ ih =>
    cases hn with
    | array hvs => exact denotes_array fun v hv => ih v hv (hvs v hv)
  | object _ ih =>
    cases hn with
    | object hms hsorted =>
      have := denotes_object fun m hm => ih m hm (hms m hm)
      rwa [readMembers_nil hsorted] at this

/-- A document that is an object is read with its members in order. -/
theorem read_write_object (h : ∀ m ∈ ms, Denotes (depthLimit - 1) m.2.write m.2) :
    Value.read (glyphsOf (Value.object ms).text.toList) = .ok (.object (readMembers [] ms)) :=
  read_of_isDocument (isDocument_text (denotes_object h))

end Polyglot.Json
