import Polyglot.Proofs.Requests

/-!
# Several texts at once

A request for the languages of several texts is answered as requests for each of them are: with what
they are answered, in order, or, if one of them is turned down, as the first one of these
(`Service.respond_pointwise`). Only the number of the texts is judged for all of them together, and
before anything else. Each text can be asked for on its own, since what is written of it is a part
of what is written of all of them (`Http.Request.AsksAll.exists_asks`).
-/

namespace Polyglot

open Http (Request Response Target)
open Json (Following Bracketed IsMember IsBlanks IsDocument Value depthLimit)
open Text (glyphsOf)

variable {s : Service} {x : Snippet} {xs : List Snippet} {r q : Request}

/-! ## Texts on their own -/

section Parts

variable {opening closing : Char} {part text : List Char} {parts : List (List Char)}

/-- Each part of a list that goes on to its closing bracket stands in the text. -/
theorem infix_of_following (h : Following closing parts text) (hpart : part ∈ parts) :
    part <:+: text := by
  induction h with
  | last _ => cases hpart
  | @next before after first text parts _ _ _ ih =>
    rcases List.mem_cons.mp hpart with rfl | hpart
    · exact ⟨before ++ ',' :: after, text, by simp⟩
    · have hrest : text <:+: before ++ ',' :: (after ++ (first ++ text)) :=
        ⟨before ++ ',' :: (after ++ first), [], by simp⟩
      exact (ih hpart).trans hrest

theorem infix_of_bracketed (h : Bracketed opening closing parts text) (hpart : part ∈ parts) :
    part <:+: text := by
  cases h with
  | empty _ => cases hpart
  | @filled blanks first text parts _ h =>
    rcases List.mem_cons.mp hpart with rfl | hpart
    · exact ⟨opening :: blanks, text, by simp⟩
    · have hrest : text <:+: opening :: (blanks ++ (first ++ text)) :=
        ⟨opening :: (blanks ++ first), [], by simp⟩
      exact (infix_of_following h hpart).trans hrest

/-- The value of a member stands in the member. -/
theorem infix_of_isMember {key value : List Char} (h : IsMember key value part) :
    value <:+: part := by
  cases h with
  | @intro before after _ _ =>
    exact ⟨'"' :: (key ++ '"' :: (before ++ ':' :: after)), [], by simp⟩

end Parts

/-- What is written of several texts has what is written of each of them in it. -/
theorem Snippet.exists_infix_of_writesAll {text : List Char} (h : WritesAll xs text) (hx : x ∈ xs) :
    ∃ part, x.Writes part ∧ part <:+: text := by
  obtain ⟨members, hfields, parts, hparts, hobject⟩ := h
  -- the array of items is the value of the only field, and the field cannot lack
  obtain ⟨m, hm, hkey⟩ := (hfields.all _ (List.mem_singleton_self _)).resolve_left id
  obtain ⟨items, hitems, harray⟩ := hfields.known m hm _ (List.mem_singleton_self _) hkey
  obtain ⟨item, hitem, hwrites⟩ := Json.exists_of_mem_forall₂ hitems.flip hx
  obtain ⟨part, hpart, key, -, hmember⟩ := Json.exists_of_mem_forall₂ hparts.flip hm
  exact ⟨item, hwrites, ((infix_of_bracketed harray hitem).trans (infix_of_isMember hmember)).trans
    (infix_of_bracketed hobject hpart)⟩

/-- Each of several texts that are asked for can be asked for on its own. -/
theorem Http.Request.AsksAll.exists_asks (h : r.AsksAll s xs) (hx : x ∈ xs) :
    ∃ q : Request, q.Asks s x := by
  obtain ⟨body, hr, before, value, after, hb, hvalue, ha, hbody⟩ := h
  obtain ⟨part, hwrites, hinfix⟩ := Snippet.exists_infix_of_writesAll hvalue hx
  have hsize : (String.ofList part).toUTF8.size ≤ s.settings.maxBodyBytes := by
    have hpart : part <:+: body.toList := hinfix.trans ⟨before, after, by rw [hbody]; simp⟩
    have := hr.size
    rw [hr.body] at this
    exact (Text.size_toUTF8_ofList_le hpart).trans this
  -- the same request, but to the other path and with a part of the body
  have hpath : (Target.ofText "/api/detect").path = "/api/detect" := by decide +kernel
  refine ⟨{ r with target := "/api/detect", body := (String.ofList part).toUTF8 }, _,
    ⟨hr.method, hpath, hr.admitted, hr.declaresJson, rfl, hsize⟩, ?_⟩
  exact ⟨[], part, [], Json.isBlanks_nil, hwrites, Json.isBlanks_nil, by simp⟩

namespace Service

variable {before after : List Snippet}

/-! ## Answers -/

/-- A request for too many texts fails with 400, whatever the texts are. -/
theorem fails_of_tooMany (hr : r.AsksAll s xs) (h : s.settings.maxBatchItems < xs.length) :
    (s.respond r).Fails 400
      (ServiceError.tooManyItems xs.length s.settings.maxBatchItems).description := by
  rw [respond_of_asksAll hr, detectAll_of_tooMany h]
  exact fails_answerOf (.tooManyItems xs.length s.settings.maxBatchItems)

/-- A text that is not accepted is answered on its own as the first one of several is. -/
theorem respond_of_not_accepts (hr : r.AsksAll s (before ++ x :: after))
    (hcount : (before ++ x :: after).length ≤ s.settings.maxBatchItems)
    (hbefore : ∀ y ∈ before, s.Accepts y) (hx : ¬s.Accepts x) (hq : q.Asks s x) :
    s.respond r = s.respond q := by
  rw [respond_of_asksAll hr, detectAll_of_not_accepts hcount hbefore hx, respond_of_asks hq,
    detect_of_not_accepts hx]
  rfl

/-- A request for one text succeeds exactly if the text is accepted. -/
theorem status_of_asks (hq : q.Asks s x) : (s.respond q).status = 200 ↔ s.Accepts x := by
  rw [respond_of_asks hq]
  by_cases hx : s.Accepts x
  · rw [detect_of_accepts hx]
    exact iff_of_true rfl hx
  · rw [detect_of_not_accepts hx]
    exact iff_of_false (show 413 ≠ 200 by decide) hx

/-- What is detected for a text reads in its own answer as it reads among others. -/
theorem reads_of_asks (hq : q.Asks s x) (hx : s.Accepts x) :
    Value.read (glyphsOf (s.respond q).body.toList) =
      .ok (s.detector.detect x.code x.fileName).toJson := by
  rw [respond_of_asks hq, detect_of_accepts hx]
  exact (reports_answerOf _).reads

/-- If there are not too many texts and each is accepted, the answer tells what is detected in each,
in order. -/
theorem tells_of_accepts (hr : r.AsksAll s xs) (hcount : xs.length ≤ s.settings.maxBatchItems)
    (h : ∀ x ∈ xs, s.Accepts x) : (s.respond r).Tells 200
      [("results", .array (xs.map fun x => (s.detector.detect x.code x.fileName).toJson))] := by
  rw [respond_of_asksAll hr, detectAll_of_accepts hcount h]
  refine Response.tells_of_text ?_ (.object (List.forall_mem_singleton.mpr (.array ?_)))
    (.object (List.forall_mem_singleton.mpr (.array ?_)) (List.pairwise_singleton _ _))
  · rw [← Function.comp_def Detection.toJson, ← List.map_map]
    rfl
  · exact List.forall_mem_map.mpr fun x _ => Detection.isExact_toJson _
  · exact List.forall_mem_map.mpr fun x _ => Detection.isNormal_toJson _ _

/-- Of texts that are not all accepted, one is the first that is not. -/
theorem exists_first_not_accepts (h : ¬∀ x ∈ xs, s.Accepts x) :
    ∃ before x after, xs = before ++ x :: after ∧ (∀ y ∈ before, s.Accepts y) ∧ ¬s.Accepts x := by
  induction xs with
  | nil => exact absurd nofun h
  | cons y xs ih =>
    by_cases hy : s.Accepts y
    · obtain ⟨before, x, after, rfl, hbefore, hx⟩ :=
        ih fun hxs => h (List.forall_mem_cons.mpr ⟨hy, hxs⟩)
      exact ⟨y :: before, x, after, rfl, List.forall_mem_cons.mpr ⟨hy, hbefore⟩, hx⟩
    · exact ⟨[], y, xs, rfl, nofun, hy⟩

/-- A request for several texts succeeds exactly if there are not too many and each is accepted. -/
theorem status_of_asksAll (hr : r.AsksAll s xs) : (s.respond r).status = 200 ↔
    xs.length ≤ s.settings.maxBatchItems ∧ ∀ x ∈ xs, s.Accepts x := by
  by_cases hcount : xs.length ≤ s.settings.maxBatchItems
  · by_cases h : ∀ x ∈ xs, s.Accepts x
    · exact iff_of_true (tells_of_accepts hr hcount h).status ⟨hcount, h⟩
    · obtain ⟨before, x, after, rfl, hbefore, hx⟩ := exists_first_not_accepts h
      obtain ⟨q, hq⟩ := hr.exists_asks (x := x) (by simp)
      rw [respond_of_not_accepts hr hcount hbefore hx hq, status_of_asks hq]
      exact iff_of_false hx fun hall => h hall.2
  · refine iff_of_false (fun hstatus => ?_) fun h => hcount h.1
    have hfails := fails_of_tooMany hr (Nat.not_le.mp hcount)
    exact absurd (hfails.status.symm.trans hstatus) (by decide)

/-- **Several texts are answered as each of them is, all or none.** If there are too many, the
answer is 400. Otherwise, if some are too long, it is what the first one of them is answered on its
own. Otherwise it has one result for each, in order, which is what the body of its own answer reads
as. So the answer is 200 exactly if there are not too many and each is answered with 200. -/
theorem respond_pointwise (s : Service) (hr : r.AsksAll s xs) :
    (∀ x ∈ xs, ∃ q : Request, q.Asks s x) ∧
    (s.settings.maxBatchItems < xs.length → (s.respond r).Fails 400
      (ServiceError.tooManyItems xs.length s.settings.maxBatchItems).description) ∧
    (xs.length ≤ s.settings.maxBatchItems → ∀ before x after, xs = before ++ x :: after →
      (∀ y ∈ before, y.code.utf8ByteSize ≤ s.settings.maxInputBytes) →
      s.settings.maxInputBytes < x.code.utf8ByteSize →
      (s.respond r).status = 413 ∧ ∀ q : Request, q.Asks s x → s.respond r = s.respond q) ∧
    (xs.length ≤ s.settings.maxBatchItems →
      (∀ x ∈ xs, x.code.utf8ByteSize ≤ s.settings.maxInputBytes) →
      ∃ results, (s.respond r).Tells 200 [("results", .array results)] ∧
        List.Forall₂ (fun x v => ∀ q : Request, q.Asks s x → (s.respond q).status = 200 ∧
          Value.read (glyphsOf (s.respond q).body.toList) = .ok v) xs results) ∧
    ((s.respond r).status = 200 ↔ xs.length ≤ s.settings.maxBatchItems ∧
      ∀ x ∈ xs, ∀ q : Request, q.Asks s x → (s.respond q).status = 200) := by
  refine ⟨fun x => hr.exists_asks, fails_of_tooMany hr, ?_, fun hcount h => ?_, ?_⟩
  · rintro hcount before x after rfl hbefore hlong
    have hx : ¬s.Accepts x := Nat.not_le.mpr hlong
    have hsame (q : Request) (hq : q.Asks s x) := respond_of_not_accepts hr hcount hbefore hx hq
    obtain ⟨q, hq⟩ := hr.exists_asks (x := x) (by simp)
    -- the text is known to be turned down by the answer to it on its own
    refine ⟨?_, hsame⟩
    rw [hsame q hq, respond_of_asks hq, detect_of_not_accepts hx]
    rfl
  · refine ⟨_, tells_of_accepts hr hcount h, ?_⟩
    rw [List.forall₂_map_right_iff, List.forall₂_same]
    exact fun x hx q hq => ⟨(status_of_asks hq).mpr (h x hx), reads_of_asks hq (h x hx)⟩
  · rw [status_of_asksAll hr]
    refine and_congr_right fun _ => forall₂_congr fun x hx => ?_
    obtain ⟨q, hq⟩ := hr.exists_asks hx
    exact ⟨fun h q hq => (status_of_asks hq).mpr h, fun h => (status_of_asks hq).mp (h q hq)⟩

/-- Where four bytes are the most, the first of two texts that are longer is the one that is turned
down, with what it is answered on its own. -/
theorem respond_pointwise_too_long :
    let s : Service := { settings := { maxInputBytes := 4 }, detector := {} }
    let xs : List Snippet := [{ code := "x" }, { code := "print" }, { code := "return" }]
    let r := postOf "/api/detect/batch" []
      (.object [("items", .array (xs.map fun x => .object (x.members "file_name")))])
    let q := postOf "/api/detect" [] (.object ((xs[1]).members "fileName"))
    (s.respond r).status = 413 ∧ s.respond r = s.respond q := by
  intro s xs r q
  have hrPosts : r.Posts s "/api/detect/batch" _ :=
    posts_postOf (by decide +kernel) rfl (by decide +kernel)
  have hr : r.AsksAll s xs :=
    ⟨_, hrPosts, Json.isDocument_text (Snippet.writesAll_array (by decide) xs)⟩
  have hqPosts : q.Posts s "/api/detect" _ :=
    posts_postOf (by decide +kernel) rfl (by decide +kernel)
  have hq : q.Asks s xs[1] :=
    ⟨_, hqPosts, Json.isDocument_text (xs[1].writes_members (by decide))⟩
  obtain ⟨-, -, hrefused, -⟩ := respond_pointwise s hr
  obtain ⟨hstatus, hsame⟩ := hrefused (by decide) [xs[0]] xs[1] [xs[2]] rfl
    (by decide +kernel) (by decide +kernel)
  exact ⟨hstatus, hsame q hq⟩

end Service

end Polyglot
