import Polyglot.Proofs.Catalog.History
import Polyglot.Proofs.Http.Form
import Polyglot.Proofs.Requests

/-!
# The name of a file and its text

The language of a file may be asked for by its name alone. What is said then is what is said of
every text that comes with the name, whatever the text is. If nothing is said, the name does not
matter for any text (`Service.respond_to_name`).
-/

namespace Polyglot

open Http (IsForm Request Response Target)
open Json (Value)
open Text (bytesOf)

variable {s : Service} {r : Request} {f key : String}

/-! ## Requests by name -/

/-- The request asks for the language of a file by its name, under either key and in any form, and
carries the token if the service asks for one. -/
structure Http.Request.AsksName (r : Request) (s : Service) (f : String) : Prop where
  method : r.method = .get
  target : ∃ key ∈ fileNameKeys, ∃ value, IsForm value (bytesOf f) ∧
    r.target = "/api/resolve?" ++ key ++ "=" ++ .ofList value
  admitted : s.admits r

/-- A key is the same in a form. -/
theorem isForm_key (hkey : key ∈ fileNameKeys) :
    IsForm key.toList (bytesOf key) ∧ '=' ∉ key.toList := by
  have hplain : (key.toList.all fun c => decide (Http.IsPlain c)) ∧ '=' ∉ key.toList := by
    rcases mem_fileNameKeys.mp hkey with rfl | rfl <;> decide
  have hform := Http.isForm_of_isPlain (List.all_iff_forall_prop.mp hplain.1)
  rw [String.ofList_toList] at hform
  exact ⟨hform, hplain.2⟩

/-- The name in a request is read as it was before it was written. -/
theorem fileName_of_asksName (h : r.AsksName s f) :
    (Target.ofText r.target).path = "/api/resolve" ∧
      queryFileName? (Target.ofText r.target).query = some f := by
  obtain ⟨key, hkey, value, hvalue, htarget⟩ := h.target
  obtain ⟨hform, hname⟩ := isForm_key hkey
  -- the parts of the target are put together as the reader takes them apart
  have hparts : "/api/resolve?" ++ key ++ "=" ++ .ofList value =
      .ofList ("/api/resolve".toList ++ '?' :: (key.toList ++ '=' :: value)) := by
    rw [← String.toList_inj]
    simp
  have hwhole : '#' ∉ key.toList ++ '=' :: value :=
    List.not_mem_append (hform.not_mem (by decide))
      (List.not_mem_cons_of_ne_of_not_mem (by decide) (hvalue.not_mem (by decide)))
  rw [htarget, hparts, Http.ofText_of_query rfl (by decide) hwhole]
  have hkept : ([(key, f)].filter fun pair => fileNameKeys.contains pair.1) = [(key, f)] :=
    List.filter_cons_of_pos (List.contains_iff_mem.mpr hkey)
  refine ⟨rfl, ?_⟩
  rw [queryFileName?, Http.queryPairs_of_isForm hform hname hvalue, hkept]

namespace Service

/-- A request for the language of a name is answered with what the service says of the name. -/
theorem respond_of_asksName (h : r.AsksName s f) :
    s.respond r = answerOf (.ok (s.resolution f)) := by
  obtain ⟨hpath, hname⟩ := fileName_of_asksName h
  have hof : Route.ofRequest? r = some .resolve := by rw [Route.ofRequest?, hpath]; rfl
  have haccepts : Route.resolve.accepts r.method := by
    rw [h.method]
    rfl
  rw [respond_of_accepts hof haccepts (by simp [h.method]) h.admitted, handle, hname]
  rfl

/-- What is said of a name. -/
theorem tells_of_asksName (h : r.AsksName s f) :
    (s.respond r).Tells 200 [
      ("file_name", .string f),
      ("language", .ofString? (s.detector.resolve f)),
      ("name", .ofString? ((s.detector.resolve f).map s.detector.catalog.nameOrId))] := by
  have hexact (x : Option String) : (Value.ofString? x).IsExact := by
    cases x with
    | none => exact .null
    | some x => exact .string x
  have hnormal (x : Option String) (depth : Nat) : (Value.ofString? x).IsNormal depth := by
    cases x with
    | none => exact .null
    | some x => exact .string x
  rw [respond_of_asksName h]
  refine Response.tells_of_text rfl (.object ?_) (.object ?_ ?_)
  · exact List.forall_mem_cons.mpr ⟨.string f, List.forall_mem_cons.mpr ⟨hexact _,
      List.forall_mem_singleton.mpr (hexact _)⟩⟩
  · exact List.forall_mem_cons.mpr ⟨.string f, List.forall_mem_cons.mpr ⟨hnormal _ _,
      List.forall_mem_singleton.mpr (hnormal _ _)⟩⟩
  · refine .cons ?_ (List.pairwise_pair.mpr (show "language" < "name" by decide))
    exact List.forall_mem_cons.mpr ⟨show "file_name" < "language" by decide,
      List.forall_mem_singleton.mpr (show "file_name" < "name" by decide)⟩

/-- **The name of a file and its text agree.** The answer to a name repeats the name. If it gives a
language, every text with this file name that is not too long is reported as that language, under
the same display name. If it gives none, every text is answered as if it had no file name. -/
theorem respond_to_name (s : Service) (hr : r.AsksName s f) :
    ∃ language name : Option String,
      (s.respond r).Tells 200 [
        ("file_name", .string f),
        ("language", .ofString? language),
        ("name", .ofString? name)] ∧
      (∀ id, language = some id → ∃ shown, name = some shown ∧
        ∀ code (q : Request), q.Asks s ⟨code, some f⟩ →
          code.utf8ByteSize ≤ s.settings.maxInputBytes → (s.respond q).Reports ⟨id, shown⟩) ∧
      (language = none → name = none ∧
        ∀ code (q q' : Request), q.Asks s ⟨code, some f⟩ → q'.Asks s ⟨code, none⟩ →
          s.respond q = s.respond q') := by
  refine ⟨_, _, tells_of_asksName hr, fun id hid => ?_, fun hnone => ?_⟩
  · rw [hid]
    refine ⟨_, rfl, fun code q hq hsize => ?_⟩
    have hfound : s.detect ⟨code, some f⟩ = .ok (s.detector.detect code (some f)) :=
      detect_of_accepts hsize
    rw [respond_of_asks hq, hfound, Detector.detect_of_resolve hid]
    exact reports_answerOf _
  · rw [hnone]
    refine ⟨rfl, fun code q q' hq hq' => ?_⟩
    have hdetect : s.detect ⟨code, some f⟩ = s.detect ⟨code, none⟩ := by
      simp only [detect, Detector.detect_of_not_resolve hnone, Detector.detect_none]
    rw [respond_of_asks hq, respond_of_asks hq', hdetect]

/-- A name with a letter beyond ASCII, a blank and a plus sign, all by their digits, is resolved
under one key, and a text that would be something else comes with it under the other. -/
theorem respond_to_name_escaped :
    let s : Service :=
      { settings := { authToken := some "secret" }, detector := { catalog := .builtin } }
    let x : Snippet := { code := "<?php", fileName := some "süß +1.py" }
    let headers := [("authorization", "Bearer secret")]
    let target := "/api/resolve?" ++ "fileName" ++ "=" ++ .ofList (Http.escaped "süß +1.py")
    let r : Request := { target, headers }
    let q := postOf "/api/detect" headers (.object (x.members "file_name"))
    ∃ name, (s.respond r).Tells 200 [
        ("file_name", .string "süß +1.py"),
        ("language", .string "python"),
        ("name", .string name)] ∧
      (s.respond q).Reports ⟨"python", name⟩ := by
  intro s x headers target r q
  have hr : r.AsksName s "süß +1.py" :=
    ⟨rfl, ⟨_, by decide, _, Http.isForm_escaped _, rfl⟩, by decide +kernel⟩
  have hposts : q.Posts s "/api/detect" _ :=
    posts_postOf (by decide +kernel) (by decide +kernel) (by decide +kernel)
  have hq : q.Asks s x := ⟨_, hposts, Json.isDocument_text (x.writes_members (by decide))⟩
  have hpython : s.detector.resolve "süß +1.py" = some "python" :=
    (History.reflects_builtin []).resolve_eq_some_iff.mpr (by decide +kernel)
  obtain ⟨language, name, htells, hsome, -⟩ := respond_to_name s hr
  have hlanguage : language = some "python" := by
    have hmembers := (htells.unique (tells_of_asksName hr)).2
    rw [hpython] at hmembers
    cases language <;> simp_all [Value.ofString?]
  obtain ⟨name, rfl, hreports⟩ := hsome "python" hlanguage
  subst hlanguage
  exact ⟨name, htells, hreports x.code q hq (by decide +kernel)⟩

end Service

end Polyglot
