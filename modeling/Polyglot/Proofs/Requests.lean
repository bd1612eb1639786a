import Polyglot.Proofs.Document
import Polyglot.Proofs.Guard
import Polyglot.Proofs.Json.RoundTrip
import Polyglot.Proofs.Service

/-!
# Requests for detection

What a client sends to have the language of a text detected, or of several texts at once: an object,
however it is written, in a request that is accepted (`Posts`). Whatever the request is, the answer
is made of what the service finds (`respond_of_asks`, `respond_of_asksAll`), and it reads as an
object (`Tells`).
-/

namespace Polyglot

open Http (Request Response Target)
open Json (FieldForm ReadsAs Drafts AreApart IsString IsOptional IsArray IsRecord IsDocument Reader
  Value depthLimit readAfter)
open Text (glyphsOf)

variable {s : Service} {x : Snippet} {xs : List Snippet} {r : Request} {text : List Char}

/-! ## Texts -/

theorem mem_fileNameKeys {key : String} :
    key ∈ fileNameKeys ↔ key = "file_name" ∨ key = "fileName" := by
  simp [fileNameKeys]

namespace Snippet

/-- How a text is written. The name of its file goes by either of its keys. -/
def forms (x : Snippet) : List FieldForm := [
  { keys := ["code"], Writes := IsString x.code, MayLack := False },
  { keys := fileNameKeys, Writes := IsOptional IsString x.fileName,
    MayLack := x.fileName = none }]

/-- The text is an object that stands for the snippet. -/
def Writes (x : Snippet) (text : List Char) : Prop := IsRecord x.forms text

/-- What has been read of the snippet after members with these keys. -/
def draftAfter (x : Snippet) (labels : List String) : Draft where
  code := readAfter ["code"] x.code labels
  fileName := readAfter fileNameKeys x.fileName labels

/-- No key stands for both fields of a text. -/
theorem areApart_forms (x : Snippet) : AreApart x.forms := by
  simp [AreApart, forms, fileNameKeys]

theorem readsAs_optional_string {name : Option String} (h : IsOptional IsString name text) :
    ReadsAs (Json.optional Json.string) text name := by
  refine Json.readsAs_optional h fun {s} hs => ⟨Json.readsAs_string hs, ?_⟩
  cases hs
  simp

theorem drafts (x : Snippet) : Drafts fields x.forms x.draftAfter where
  fits := by
    refine .cons (Json.fits_of (fun _ => rfl) ?_ ?_) (.cons (Json.fits_of (fun _ => rfl) ?_ ?_) .nil)
    · simp [draftAfter, readAfter, fileNameKeys]
    · exact fun _ => Json.readsAs_string
    · intro label hlabel labels
      -- the keys of the file name are two, so whether the code has come is asked for both of them
      have hcode : label ∉ ["code"] := by
        rcases mem_fileNameKeys.mp hlabel with rfl | rfl <;> decide
      simp only [draftAfter, Json.readAfter_cons_of_mem hlabel,
        Json.readAfter_cons_of_not_mem hcode]
    · exact fun _ => readsAs_optional_string
  apart := x.areApart_forms
  unknown label h labels := by
    simp only [forms, List.forall_mem_cons] at h
    simp only [draftAfter, Json.readAfter_cons_of_not_mem h.1, Json.readAfter_cons_of_not_mem h.2.1]

/-- A written form of a text is read as the text. -/
theorem readsAs_read (h : x.Writes text) : ReadsAs read text x := by
  refine Json.readsAs_record x.drafts (fun labels hall => ?_) h
  simp only [forms, List.forall_mem_cons, false_or] at hall
  simp only [Draft.complete?, draftAfter, Json.readAfter_of_mem hall.1,
    Json.getD_readAfter hall.2.1]
  rfl

/-- The members of a snippet as a client may write them. -/
def members (x : Snippet) (key : String) : List (String × Value) :=
  [("code", .string x.code), (key, .ofString? x.fileName)]

/-- What is written of a text is one of its forms, by either key for the name of its file. -/
theorem writes_members {key : String} (hkey : key ∈ fileNameKeys) (x : Snippet) :
    x.Writes (Value.object (x.members key)).write := by
  refine Json.isRecord_write x.areApart_forms (.cons ?_ (.cons ⟨hkey, ?_⟩ .nil))
  · exact ⟨List.mem_singleton_self _, Json.isString_write _⟩
  · cases x.fileName with
    | none =>
      rw [Value.ofString?, Value.write]
      exact .absent
    | some name => exact .present (Json.isString_write name)

/-! ### Several texts -/

/-- How several texts are written. -/
def formsAll (xs : List Snippet) : List FieldForm :=
  [{ keys := ["items"], Writes := IsArray Writes xs, MayLack := False }]

/-- The text is an object that stands for the snippets. -/
def WritesAll (xs : List Snippet) (text : List Char) : Prop := IsRecord (formsAll xs) text

theorem areApart_formsAll (xs : List Snippet) : AreApart (formsAll xs) :=
  List.pairwise_singleton _ _

/-- A written form of several texts is read as the texts, in order. -/
theorem readsAs_readAll (h : WritesAll xs text) : ReadsAs readAll text xs := by
  have hdrafts : Drafts [.of ["items"] id (fun _ xs => some xs) (Json.list read)] (formsAll xs)
      (readAfter ["items"] xs) := by
    refine ⟨.cons (Json.fits_of (fun _ => rfl) ?_ ?_) .nil, areApart_formsAll xs,
      fun label h labels => ?_⟩
    · exact fun label hlabel labels => (Json.readAfter_cons_of_mem hlabel).symm
    · exact fun _ h => Json.readsAs_list h fun _ _ _ => readsAs_read
    · exact Json.readAfter_cons_of_not_mem (h _ (List.mem_singleton_self _))
  refine Json.readsAs_record hdrafts (fun labels hall => ?_) h
  simp only [formsAll, List.forall_mem_cons, false_or] at hall
  exact Json.readAfter_of_mem hall.1

theorem writesAll_array {key : String} (hkey : key ∈ fileNameKeys) (xs : List Snippet) :
    WritesAll xs (Value.object
      [("items", .array (xs.map fun x => .object (x.members key)))]).write := by
  refine Json.isRecord_write (areApart_formsAll xs) (.cons ⟨List.mem_singleton_self _, ?_⟩ .nil)
  exact Json.isArray_write fun x _ => x.writes_members hkey

end Snippet

/-! ## Requests -/

/-- The request sends a body to a path and is accepted: it carries the token if the service asks for
one, says that its body is JSON, and the body is not too long. -/
structure Http.Request.Posts (r : Request) (s : Service) (path body : String) : Prop where
  method : r.method = .post
  path : (Target.ofText r.target).path = path
  admitted : s.admits r
  declaresJson : r.declaresJson
  body : r.body = body.toUTF8
  size : r.body.size ≤ s.settings.maxBodyBytes

/-- The request asks for the language of a text. -/
def Http.Request.Asks (r : Request) (s : Service) (x : Snippet) : Prop :=
  ∃ body, r.Posts s "/api/detect" body ∧ IsDocument x.Writes body

/-- The request asks for the languages of several texts. -/
def Http.Request.AsksAll (r : Request) (s : Service) (xs : List Snippet) : Prop :=
  ∃ body, r.Posts s "/api/detect/batch" body ∧ IsDocument (Snippet.WritesAll xs) body

/-- A request as a client may send it, with a value as its body. -/
def postOf (path : String) (more : List (String × String)) (v : Value) : Request where
  method := .post
  target := path
  headers := ("content-type", "application/json") :: more
  body := v.text.toUTF8

/-- The other fields do not matter, as the first one with the name counts. -/
theorem declaresJson_of_headers_eq {headers : List (String × String)}
    (h : r.headers = ("content-type", "application/json") :: headers) : r.declaresJson := by
  have hvisible : "application/json".toList.all Http.isVisible = true := by decide +kernel
  have hjson : (Http.MediaType.parse? "application/json").any Http.MediaType.isJson = true := by
    decide +kernel
  rw [Request.declaresJson, Request.visibleHeader?, header?_of_headers_eq h, Option.filter_some,
    if_pos hvisible]
  exact hjson

/-- A request that is made for the purpose posts what it should, if it is admitted and not too
large. -/
theorem posts_postOf {path : String} {more : List (String × String)} {v : Value}
    (hpath : (Target.ofText path).path = path) (hadmitted : s.admits (postOf path more v))
    (hsize : (postOf path more v).body.size ≤ s.settings.maxBodyBytes) :
    (postOf path more v).Posts s path v.text where
  method := rfl
  path := hpath
  admitted := hadmitted
  declaresJson := declaresJson_of_headers_eq rfl
  body := rfl
  size := hsize

/-- The answer to a request for what has been found. -/
def answerOf (found : Except ServiceError Value) : Response :=
  let answer : Response := match found with
    | .ok v => .json 200 v
    | .error e => e.response
  answer.withHeader "access-control-allow-origin" "*"

/-- What is found for several texts. -/
def resultsOf (found : List Detection) : Value :=
  .object [("results", .array (found.map Detection.toJson))]

namespace Service

/-- A request that its route accepts is answered by the route. -/
theorem respond_of_accepts {route : Route} (hroute : Route.ofRequest? r = some route)
    (haccepts : route.accepts r.method) (hhead : r.method ≠ .head) (hadmitted : s.admits r) :
    s.respond r = (s.handle r route).withHeader "access-control-allow-origin" "*" := by
  have hoptions : r.method ≠ .options := by
    intro h
    rw [h] at haccepts
    cases haccepts
  have hrouted : s.routed r route = s.handle r route := by
    simp only [routed, if_neg hoptions, haccepts, hadmitted, if_true, Bool.not_true,
      Bool.and_false, Bool.false_eq_true, if_false]
  simp only [respond, hroute, hrouted, if_neg hhead]

section Posts

variable {path body : String} (hr : r.Posts s path body)
include hr

/-- A posted request is answered by its route. -/
theorem respond_of_posts {route : Route} (hroute : Route.ofPath? path = some route)
    (hpost : route.takesPost) :
    s.respond r = (s.handle r route).withHeader "access-control-allow-origin" "*" := by
  have hof : Route.ofRequest? r = some route := by rw [Route.ofRequest?, hr.path, hroute]
  have haccepts : route.accepts r.method := by
    rw [hr.method]
    exact hpost
  exact respond_of_accepts hof haccepts (by simp [hr.method]) hr.admitted

/-- A body is read however it is written. -/
theorem answerBody_of_posts {α : Type} {read : Reader α} {x : α} {Writes : List Char → Prop}
    (hbody : IsDocument Writes body) (hread : ∀ {value}, Writes value → ReadsAs read value x)
    (ask : α → Except ServiceError Value) :
    (s.answerBody r read ask).withHeader "access-control-allow-origin" "*" = answerOf (ask x) := by
  have hdecode : r.decode s.settings.maxBodyBytes read = .ok x := by
    have hdocument : Json.document read (Text.glyphs r.body) = .ok x := by
      rw [hr.body, Text.glyphs_toUTF8]
      exact Json.document_of_isDocument hbody hread
    simp only [Request.decode, hr.declaresJson, Nat.not_lt.mpr hr.size, hdocument, Bool.not_true,
      Bool.false_eq_true, if_false]
  rw [answerBody, hdecode]
  rfl

end Posts

/-- A request for the language of a text is answered with what is found for the text. -/
theorem respond_of_asks (h : r.Asks s x) :
    s.respond r = answerOf ((s.detect x).map Detection.toJson) := by
  obtain ⟨body, hr, hbody⟩ := h
  have hroute : Route.ofPath? "/api/detect" = some .detect := rfl
  rw [respond_of_posts hr hroute rfl]
  exact answerBody_of_posts hr hbody Snippet.readsAs_read _

/-- A request for several texts is answered with what is detected in them, or with the refusal. -/
theorem respond_of_asksAll (h : r.AsksAll s xs) :
    s.respond r = answerOf ((s.detectAll xs).map resultsOf) := by
  obtain ⟨body, hr, hbody⟩ := h
  have hroute : Route.ofPath? "/api/detect/batch" = some .detectBatch := rfl
  rw [respond_of_posts hr hroute rfl]
  refine (answerBody_of_posts hr hbody Snippet.readsAs_readAll _).trans ?_
  cases s.detectAll xs <;> rfl

end Service

/-! ## Answers -/

/-- The response has this status, and its body reads as an object with these members. -/
structure Http.Response.Tells (r : Response) (status : Nat) (members : List (String × Value)) :
    Prop where
  status : r.status = status
  reads : Value.read (glyphsOf r.body.toList) = .ok (.object members)

/-- The response reports the language of a text. -/
def Http.Response.Reports (r : Response) (d : Detection) : Prop :=
  r.Tells 200 [("language", .string d.language), ("name", .string d.name)]

/-- The response reports a failure. -/
def Http.Response.Fails (r : Response) (status : Nat) (message : String) : Prop :=
  r.Tells status [("error", .string message), ("status", .ofNat status)]

/-- A response tells one thing only. -/
theorem Http.Response.Tells.unique {r : Response} {status status' : Nat}
    {members members' : List (String × Value)} (h : r.Tells status members)
    (h' : r.Tells status' members') : status = status' ∧ members = members' := by
  refine ⟨h.status.symm.trans h'.status, ?_⟩
  cases h.reads.symm.trans h'.reads
  rfl

/-- A response reports one language only. -/
theorem Http.Response.Reports.unique {r : Response} {d d' : Detection} (h : r.Reports d)
    (h' : r.Reports d') : d = d' := by
  obtain ⟨language, name⟩ := d
  obtain ⟨language', name'⟩ := d'
  cases (Tells.unique h h').2
  rfl

/-- A response reports one failure only. -/
theorem Http.Response.Fails.unique {r : Response} {status status' : Nat} {m m' : String}
    (h : r.Fails status m) (h' : r.Fails status' m') : m = m' := by
  cases (Tells.unique h h').2
  rfl

/-- A response that reports a detection is no failure. -/
theorem Http.Response.Reports.not_fails {r : Response} {d : Detection} {status : Nat} {m : String}
    (h : r.Reports d) : ¬r.Fails status m := by
  intro h'
  simpa using (Tells.unique h h').2

/-- An object that can be read again is told as it is. -/
theorem Http.Response.tells_of_text {r : Response} {members : List (String × Value)}
    (hbody : r.body = (Value.object members).text) (hexact : (Value.object members).IsExact)
    (hnormal : (Value.object members).IsNormal depthLimit) : r.Tells r.status members where
  status := rfl
  reads := by
    rw [hbody]
    exact Json.read_of_isDocument (Json.isDocument_text (Json.denotes_write hexact hnormal))

theorem Detection.isExact_toJson (d : Detection) : d.toJson.IsExact :=
  .object (List.forall_mem_cons.mpr ⟨.string _, List.forall_mem_singleton.mpr (.string _)⟩)

theorem Detection.isNormal_toJson (d : Detection) (depth : Nat) :
    d.toJson.IsNormal (depth + 1) := by
  refine .object (List.forall_mem_cons.mpr ⟨.string _, List.forall_mem_singleton.mpr (.string _)⟩) ?_
  exact List.pairwise_pair.mpr (show "language" < "name" by decide)

/-- The answer with a detection reports it. -/
theorem reports_answerOf (d : Detection) : (answerOf (.ok d.toJson)).Reports d :=
  Response.tells_of_text rfl d.isExact_toJson (d.isNormal_toJson _)

theorem ServiceError.status_le (e : ServiceError) : e.status ≤ 500 := by
  cases e <;> simp [status]

/-- The answer with an error fails with its status and what it shows. -/
theorem fails_answerOf (e : ServiceError) : (answerOf (.error e)).Fails e.status e.shown := by
  have hstatus : ((e.status : Nat) : Int) < 0x10000000000000000 := by
    have := e.status_le
    omega
  have horder : "error" < "status" := by decide
  refine Response.tells_of_text rfl (.object ?_) (.object ?_ (List.pairwise_pair.mpr horder))
  · exact List.forall_mem_cons.mpr ⟨.string _, List.forall_mem_singleton.mpr
      (.int (by omega) hstatus)⟩
  · exact List.forall_mem_cons.mpr ⟨.string _, List.forall_mem_singleton.mpr (.number _)⟩

end Polyglot
