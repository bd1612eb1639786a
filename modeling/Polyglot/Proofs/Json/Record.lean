import Polyglot.Proofs.Json.Skip

/-!
# Records are read

A record may be written with its fields in any order, under any of their keys, without the fields
that may be left out, and with other members between them (`IsRecord`). However it is written, a
reader reads the same record (`readsAs_record`): after some members, its draft depends only on which
fields have come (`Drafts`).
-/

namespace Polyglot.Json

open Polyglot.Text (Glyph glyphsOf)

variable {α Draft : Type} {x : α} {label : String} {labels keys : List String}
  {members : List (String × List Char)} {parts : List (List Char)} {value text : List Char}

/-! ## Forms -/

/-- How a field of a record may be written. -/
structure FieldForm where
  /-- The keys that the field goes by. -/
  keys : List String
  /-- The texts of the value. -/
  Writes : List Char → Prop
  /-- The field may be left out. -/
  MayLack : Prop

/-- The members are the fields of a record, each of them once, and others. -/
structure HasFields (forms : List FieldForm) (members : List (String × List Char)) : Prop where
  known : ∀ m ∈ members, ∀ f ∈ forms, m.1 ∈ f.keys → f.Writes m.2
  /-- Members that are no fields hold any values. -/
  unknown : ∀ m ∈ members, (∀ f ∈ forms, m.1 ∉ f.keys) → IsJson m.2
  once : ∀ f ∈ forms, members.Pairwise fun m m' => m.1 ∈ f.keys → m'.1 ∉ f.keys
  all : ∀ f ∈ forms, f.MayLack ∨ ∃ m ∈ members, m.1 ∈ f.keys

/-- The text is an object that has the fields. -/
def IsRecord (forms : List FieldForm) (text : List Char) : Prop :=
  ∃ members, HasFields forms members ∧ IsObject members text

/-! ## Drafts -/

/-- What has been read of a field after members with these keys. -/
def readAfter (keys : List String) (x : α) (labels : List String) : Option α :=
  if ∃ l ∈ labels, l ∈ keys then some x else none

theorem readAfter_of_mem (h : ∃ l ∈ labels, l ∈ keys) : readAfter keys x labels = some x :=
  if_pos h

theorem readAfter_of_not_mem (h : ∀ l ∈ labels, l ∉ keys) : readAfter keys x labels = none :=
  if_neg fun ⟨l, hl, hk⟩ => h l hl hk

/-- What has been read of a field in the end is its value, or the field holds its default. -/
theorem getD_readAfter {default : α} (h : x = default ∨ ∃ l ∈ labels, l ∈ keys) :
    (readAfter keys x labels).getD default = x := by
  by_cases hmem : ∃ l ∈ labels, l ∈ keys
  · rw [readAfter_of_mem hmem]
    rfl
  · rw [readAfter, if_neg hmem]
    exact (h.resolve_right hmem).symm

theorem readAfter_cons_of_mem (h : label ∈ keys) : readAfter keys x (label :: labels) = some x :=
  readAfter_of_mem ⟨label, List.mem_cons_self, h⟩

theorem readAfter_cons_of_not_mem (h : label ∉ keys) :
    readAfter keys x (label :: labels) = readAfter keys x labels := by
  simp only [readAfter, List.exists_mem_cons_iff, h, false_or]

/-- No two fields go by the same key. -/
def AreApart (forms : List FieldForm) : Prop :=
  forms.Pairwise fun f f' => ∀ label ∈ f.keys, label ∉ f'.keys

/-- The field goes with the form: it reads the texts that the form writes, and takes the draft on by
its key. -/
structure Fits (draftOf : List String → Draft) (field : RecordField Draft) (form : FieldForm) :
    Prop where
  keys : field.keys = form.keys
  reads : ∀ label ∈ form.keys, ∀ labels, (∀ l ∈ labels, l ∉ form.keys) →
    field.given (draftOf labels) = false ∧ ∀ value, form.Writes value →
      ReadsAs (field.read (draftOf labels)) value (draftOf (label :: labels))

/-- The fields of a reader go with the forms of a record. After members with some keys, the latest
first, the draft of the record is `draftOf` of the keys. -/
structure Drafts (fields : List (RecordField Draft)) (forms : List FieldForm)
    (draftOf : List String → Draft) : Prop where
  fits : List.Forall₂ (Fits draftOf) fields forms
  apart : AreApart forms
  unknown : ∀ label, (∀ f ∈ forms, label ∉ f.keys) →
    ∀ labels, draftOf (label :: labels) = draftOf labels

/-- A label that is a key of no form belongs to no field. -/
theorem find?_eq_none {fields : List (RecordField Draft)} {forms : List FieldForm}
    {draftOf : List String → Draft} (h : List.Forall₂ (Fits draftOf) fields forms)
    (hlabel : ∀ f ∈ forms, label ∉ f.keys) : fields.find? (·.keys.contains label) = none := by
  induction h with
  | nil => rfl
  | cons hfits _ ih =>
    obtain ⟨hfirst, hrest⟩ := List.forall_mem_cons.mp hlabel
    rw [List.find?_cons_of_neg (by simpa [hfits.keys] using hfirst)]
    exact ih hrest

/-- The field that is found by a key goes with the form that has the key. -/
theorem exists_find?_eq_some {fields : List (RecordField Draft)} {forms : List FieldForm}
    {draftOf : List String → Draft} (h : List.Forall₂ (Fits draftOf) fields forms)
    (hapart : AreApart forms) {f : FieldForm} (hf : f ∈ forms) (hlabel : label ∈ f.keys) :
    ∃ field, fields.find? (·.keys.contains label) = some field ∧ Fits draftOf field f := by
  induction h with
  | nil => cases hf
  | @cons field form fields forms hfits _ ih =>
    obtain ⟨hfirst, hrest⟩ := List.pairwise_cons.mp hapart
    rcases List.mem_cons.mp hf with rfl | hf
    · exact ⟨field, List.find?_cons_of_pos (by simpa [hfits.keys] using hlabel), hfits⟩
    · have hne : label ∉ form.keys := fun hk => hfirst f hf label hk hlabel
      rw [List.find?_cons_of_neg (by simpa [hfits.keys] using hne)]
      exact ih hrest hf

/-- A field with a place of its own in the draft goes with a form if its reader of values does. -/
theorem fits_of {β : Type} {get : Draft → Option β} {set : Draft → β → Draft} {read : Reader β}
    {y : β} {Writes : List Char → Prop} {MayLack : Prop} {draftOf : List String → Draft}
    (hget : ∀ labels, get (draftOf labels) = readAfter keys y labels)
    (hset : ∀ label ∈ keys, ∀ labels, set (draftOf labels) y = draftOf (label :: labels))
    (hread : ∀ value, Writes value → ReadsAs read value y) :
    Fits draftOf (.of keys get set read) ⟨keys, Writes, MayLack⟩ where
  keys := rfl
  reads label hlabel labels hnew := by
    refine ⟨?_, fun value hvalue => ⟨(hread value hvalue).begins, fun hb hrest => ?_⟩⟩
    · simp only [RecordField.of, hget, readAfter_of_not_mem hnew, Option.isSome_none]
    · simp only [RecordField.of, (hread value hvalue).reads hb hrest, bind, Except.bind,
        hset label hlabel]

/-! ## Reading -/

section Reading

variable {fields : List (RecordField Draft)} {forms : List FieldForm}
  {draftOf : List String → Draft}

/-- The reader of records is a loop over members. -/
theorem isMemberLoop_members (fields : List (RecordField Draft)) :
    IsMemberLoop (Json.members fields) (member fields) :=
  fun _ _ _ _ _ => rfl

/-- One member takes the draft on by its key. -/
theorem member_of_isMember {key part : List Char} (hd : Drafts fields forms draftOf)
    (hkey : Spelled key label.toList) (hpart : IsMember key value part)
    (hknown : ∀ f ∈ forms, label ∈ f.keys → f.Writes value ∧ ∀ l ∈ labels, l ∉ f.keys)
    (hunknown : (∀ f ∈ forms, label ∉ f.keys) → IsJson value) :
    ∃ tail, part = '"' :: tail ∧ ∀ {rest}, EndsNumber rest →
      member fields (draftOf labels) (glyphsOf tail ++ rest) =
        .ok (draftOf (label :: labels), rest) := by
  obtain ⟨tail, rfl, htext⟩ := text_of_isMember hkey hpart
  refine ⟨tail, rfl, fun {rest} hrest => ?_⟩
  obtain ⟨after, colon, ha, htext, hcolon⟩ := htext rest
  by_cases h : ∃ f ∈ forms, label ∈ f.keys
  · obtain ⟨f, hf, hlabel⟩ := h
    obtain ⟨field, hfind, hfits⟩ := exists_find?_eq_some hd.fits hd.apart hf hlabel
    obtain ⟨hwrites, hnew⟩ := hknown f hf hlabel
    obtain ⟨hgiven, hreads⟩ := hfits.reads label hlabel labels hnew
    simp only [member, htext, String.ofList_toList, hfind, hgiven, hcolon, bind, Except.bind,
      Bool.false_eq_true, if_false, (hreads value hwrites).reads ha hrest]
  · have hother : ∀ f ∈ forms, label ∉ f.keys := fun f hf hlabel => h ⟨f, hf, hlabel⟩
    simp only [member, htext, String.ofList_toList, find?_eq_none hd.fits hother, hcolon, bind,
      Except.bind, skip_of_isJson (hunknown hother) ha hrest, hd.unknown label hother]
    rfl

/-- The members of a record take the draft on by all their keys. -/
theorem runs_of_hasFields (hd : Drafts fields forms draftOf)
    (hparts : List.Forall₂ (fun m part => ∃ key, Spelled key m.1.toList ∧ IsMember key m.2 part)
      members parts)
    (hknown : ∀ m ∈ members, ∀ f ∈ forms, m.1 ∈ f.keys → f.Writes m.2)
    (hunknown : ∀ m ∈ members, (∀ f ∈ forms, m.1 ∉ f.keys) → IsJson m.2)
    (honce : ∀ f ∈ forms, members.Pairwise fun m m' => m.1 ∈ f.keys → m'.1 ∉ f.keys)
    (hnew : ∀ m ∈ members, ∀ f ∈ forms, m.1 ∈ f.keys → ∀ l ∈ labels, l ∉ f.keys) :
    Runs (member fields) (draftOf labels) parts
      (draftOf ((members.map (·.1)).reverse ++ labels)) := by
  induction hparts generalizing labels with
  | nil => exact .nil
  | @cons m part members parts hpart _ ih =>
    obtain ⟨key, hkey, hpart⟩ := hpart
    obtain ⟨hknown, hrestKnown⟩ := List.forall_mem_cons.mp hknown
    obtain ⟨hunknown, hrestUnknown⟩ := List.forall_mem_cons.mp hunknown
    obtain ⟨hnew, hrestNew⟩ := List.forall_mem_cons.mp hnew
    obtain ⟨tail, rfl, hmember⟩ := member_of_isMember hd hkey hpart
      (fun f hf hl => ⟨hknown f hf hl, hnew f hf hl⟩) hunknown
    rw [List.map_cons, List.reverse_cons, List.append_assoc, List.singleton_append]
    refine .cons hmember (ih hrestKnown hrestUnknown
      (fun f hf => (List.pairwise_cons.mp (honce f hf)).2) fun m' hm' f hf hl' => ?_)
    refine List.forall_mem_cons.mpr ⟨fun hl => ?_, hrestNew m' hm' f hf hl'⟩
    exact (List.pairwise_cons.mp (honce f hf)).1 m' hm' hl hl'

/-- **A record is read however it is written as an object.** -/
theorem readsAs_record {complete? : Draft → Option α} (hd : Drafts fields forms draftOf)
    (hcomplete : ∀ labels, (∀ f ∈ forms, f.MayLack ∨ ∃ l ∈ labels, l ∈ f.keys) →
      complete? (draftOf labels) = some x)
    (h : IsRecord forms text) : ReadsAs (record fields (draftOf []) complete?) text x := by
  obtain ⟨members, hfields, parts, hparts, hbracketed⟩ := h
  have hruns : Runs (member fields) (draftOf []) parts
      (draftOf ((members.map (·.1)).reverse ++ [])) :=
    runs_of_hasFields hd hparts hfields.known hfields.unknown hfields.once
      fun _ _ _ _ _ _ hl => nomatch hl
  obtain ⟨tail, rfl, hloop⟩ :=
    loop_of_bracketed (isMemberLoop_members fields) hbracketed hruns
  have hdone : complete? (draftOf ((members.map (·.1)).reverse ++ [])) = some x := by
    refine hcomplete _ fun f hf => (hfields.all f hf).imp_right ?_
    rintro ⟨m, hm, hkey⟩
    exact ⟨m.1, by simpa using ⟨m.2, hm⟩, hkey⟩
  refine readsAs_of_skipBlanks ⟨rfl, by decide⟩ ?_ fun {rest} _ => ?_
  · intro input
    simp only [record, skipBlanks_skipBlanks]
  · have hmembers := @hloop (glyphsOf tail ++ rest) rest (by simp)
    simp only [record, skipBlanks_cons (show isBlank (.char '{') = false from rfl), hmembers,
      bind, Except.bind, hdone]

end Reading

/-! ## What is written -/

/-- Members that are the fields in order, each under one of its keys, are the fields of the
record. -/
theorem hasFields_of_forall₂ {forms : List FieldForm} (hapart : AreApart forms)
    (h : List.Forall₂ (fun m f => m.1 ∈ f.keys ∧ f.Writes m.2) members forms) :
    HasFields forms members := by
  have hsome : ∀ m ∈ members, ∃ f ∈ forms, m.1 ∈ f.keys := by
    intro m hm
    obtain ⟨f, hf, hkey, -⟩ := exists_of_mem_forall₂ h.flip hm
    exact ⟨f, hf, hkey⟩
  refine ⟨?_, fun m hm hnone => ?_, ?_, fun f hf => ?_⟩
  · clear hsome
    -- a key of a later member is none of this field, and a key of this member is of no later field
    induction h with
    | nil => nofun
    | @cons m f members forms hm hrest ih =>
      obtain ⟨hfirst, hforms⟩ := List.pairwise_cons.mp hapart
      refine List.forall_mem_cons.mpr ⟨?_, fun m' hm' => ?_⟩
      · exact List.forall_mem_cons.mpr ⟨fun _ => hm.2, fun f' hf' hkey =>
          absurd hkey (hfirst f' hf' m.1 hm.1)⟩
      · refine List.forall_mem_cons.mpr ⟨fun hkey => ?_, ih hforms m' hm'⟩
        obtain ⟨f', hf', hkey', -⟩ := exists_of_mem_forall₂ hrest.flip hm'
        exact absurd hkey' (hfirst f' hf' m'.1 hkey)
  · obtain ⟨f, hf, hkey⟩ := hsome m hm
    exact absurd hkey (hnone f hf)
  · clear hsome
    induction h with
    | nil => nofun
    | @cons m f members forms hm hrest ih =>
      obtain ⟨hfirst, hforms⟩ := List.pairwise_cons.mp hapart
      have hlater : ∀ m' ∈ members, m'.1 ∉ f.keys := by
        intro m' hm' hkey
        obtain ⟨f', hf', hkey', -⟩ := exists_of_mem_forall₂ hrest.flip hm'
        exact hfirst f' hf' m'.1 hkey hkey'
      refine List.forall_mem_cons.mpr ⟨?_, fun f' hf' => ?_⟩
      · exact List.pairwise_cons.mpr ⟨fun m' hm' _ => hlater m' hm',
          List.pairwise_of_forall_mem_list fun m' hm' _ _ hkey => absurd hkey (hlater m' hm')⟩
      · exact List.pairwise_cons.mpr ⟨fun m' _ hkey => absurd hkey (hfirst f' hf' m.1 hm.1),
          ih hforms f' hf'⟩
  · obtain ⟨m, hm, hkey, -⟩ := exists_of_mem_forall₂ h hf
    exact .inr ⟨m, hm, hkey⟩

/-- What is written of a string is a written form of it. -/
theorem isString_write (s : String) : IsString s (Value.string s).write := by
  rw [Value.write, writeString]
  exact .intro (spelled_flatMap_writeChar s.toList)

/-- The items of an array are written with commas between them and a bracket behind. -/
theorem following_writeItems (vs : List Value) :
    Following ']' (vs.map Value.write) (Value.writeItems vs) := by
  induction vs with
  | nil =>
    rw [Value.writeItems]
    exact .last isBlanks_nil
  | cons v vs ih =>
    rw [Value.writeItems]
    exact .next isBlanks_nil isBlanks_nil ih

/-- What is written of an array are its items between brackets. -/
theorem bracketed_write_array (vs : List Value) :
    Bracketed '[' ']' (vs.map Value.write) (Value.array vs).write := by
  cases vs with
  | nil =>
    rw [Value.write]
    exact .empty isBlanks_nil
  | cons v vs =>
    rw [Value.write]
    exact .filled isBlanks_nil (following_writeItems vs)

/-- If each item is written in one of its forms, then so is the array. -/
theorem isArray_write {Writes : α → List Char → Prop} {xs : List α} {f : α → Value}
    (h : ∀ x ∈ xs, Writes x (f x).write) : IsArray Writes xs (Value.array (xs.map f)).write := by
  refine ⟨_, ?_, bracketed_write_array _⟩
  rw [List.map_map, List.forall₂_map_right_iff, List.forall₂_same]
  exact h

/-- What is written of a member. -/
def writtenMember (m : String × Value) : List Char := writeString m.1 ++ ':' :: m.2.write

/-- A member is written as its key and its value. -/
theorem isMember_writtenMember (m : String × Value) :
    ∃ key, Spelled key m.1.toList ∧ IsMember key m.2.write (writtenMember m) := by
  refine ⟨_, spelled_flatMap_writeChar m.1.toList, ?_⟩
  have : IsMember (m.1.toList.flatMap writeChar) m.2.write _ :=
    .intro isBlanks_nil isBlanks_nil
  simpa only [writtenMember, writeString, List.cons_append, List.append_assoc, List.nil_append]
    using this

theorem following_writeMembers (ms : List (String × Value)) :
    Following '}' (ms.map writtenMember) (Value.writeMembers ms) := by
  induction ms with
  | nil =>
    rw [Value.writeMembers]
    exact .last isBlanks_nil
  | cons m ms ih =>
    have : Following '}' (writtenMember m :: ms.map writtenMember) _ :=
      .next isBlanks_nil isBlanks_nil ih
    rw [Value.writeMembers, List.map_cons]
    simpa only [writtenMember, List.append_assoc, List.cons_append, List.nil_append] using this

/-- What is written of an object are its members between brackets. -/
theorem bracketed_write_object (ms : List (String × Value)) :
    Bracketed '{' '}' (ms.map writtenMember) (Value.object ms).write := by
  cases ms with
  | nil =>
    rw [Value.write]
    exact .empty isBlanks_nil
  | cons m ms =>
    have : Bracketed '{' '}' (writtenMember m :: ms.map writtenMember) _ :=
      .filled isBlanks_nil (following_writeMembers ms)
    rw [Value.write, List.map_cons]
    simpa only [writtenMember, List.append_assoc, List.cons_append, List.nil_append] using this

/-- What is written of an object has its keys and what is written of its values. -/
theorem isObject_write (ms : List (String × Value)) :
    IsObject (ms.map fun m => (m.1, m.2.write)) (Value.object ms).write := by
  refine ⟨_, ?_, bracketed_write_object ms⟩
  rw [List.forall₂_map_left_iff, List.forall₂_map_right_iff, List.forall₂_same]
  exact fun m _ => isMember_writtenMember m

/-- A record is written with its fields in order. -/
theorem isRecord_write {forms : List FieldForm} {ms : List (String × Value)}
    (hapart : AreApart forms)
    (h : List.Forall₂ (fun m f => m.1 ∈ f.keys ∧ f.Writes m.2.write) ms forms) :
    IsRecord forms (Value.object ms).write := by
  refine ⟨_, hasFields_of_forall₂ hapart ?_, isObject_write ms⟩
  rwa [List.forall₂_map_left_iff]

/-- A text of a value is a document without blanks around it. -/
theorem isDocument_text {Writes : List Char → Prop} {v : Value} (h : Writes v.write) :
    IsDocument Writes v.text := by
  refine ⟨[], v.write, [], isBlanks_nil, h, isBlanks_nil, ?_⟩
  rw [Value.text, String.toList_ofList, List.append_nil, List.nil_append]

end Polyglot.Json
