import Polyglot.Proofs.Text.Bytes
import Polyglot.Service.Router

/-!
# The guard is sound and tells nothing

With a token in the settings, a request is admitted exactly if the bytes of its first
`Authorization` value are the word, a blank and the token (`admits_iff`). A request that is admitted
is answered as if there were no token. One that is not is answered from its method and its target
alone, before any route comes to answer it (`respond_of_not_admitted`), so the answer tells nothing
of what is behind the guard (`Host.handle_guarded`).
-/

namespace Polyglot

open Http (Request Response Target)
open Text (bytesOf byteOf IsAscii)

/-! ## What a request has to carry -/

/-- A byte with a capital letter of ASCII made small. -/
def smallLetter (b : UInt8) : UInt8 := if 65 ≤ b ∧ b ≤ 90 then b + 32 else b

/-- The bytes of a value are visible ASCII, blanks and tabs, and they are the word `bearer` in any
case, a blank and at least one more byte, which are the bytes of the token. -/
structure Bears (value token : String) : Prop where
  visible : ∀ b ∈ bytesOf value, b = 9 ∨ 32 ≤ b ∧ b ≤ 126
  length : 7 < (bytesOf value).length
  word : ((bytesOf value).take 7).map smallLetter = bytesOf "bearer "
  token : (bytesOf value).drop 7 = bytesOf token

/-- The first `Authorization` value of a request bears the token. -/
def Http.Request.Bears (r : Request) (token : String) : Prop :=
  ∃ value, r.header? "authorization" = some value ∧ Polyglot.Bears value token

/-! ## Bytes and characters -/

section Bytes

variable {c : Char} {cs : List Char} {value token : String}

theorem isVisible_iff (hc : IsAscii c) :
    Http.isVisible c ↔ byteOf c = 9 ∨ 32 ≤ byteOf c ∧ byteOf c ≤ 126 :=
  Text.forall_ascii (p := fun c => Http.isVisible c ↔ byteOf c = 9 ∨ 32 ≤ byteOf c ∧ byteOf c ≤ 126)
    (by decide) hc

theorem isAscii_of_isVisible (h : Http.isVisible c) : IsAscii c := by
  simp only [Http.isVisible, Bool.or_eq_true, Bool.and_eq_true, beq_iff_eq, decide_eq_true_eq] at h
  rcases h with rfl | ⟨-, hle⟩
  · decide
  · exact .of_le (by decide) hle

theorem smallLetter_byteOf (hc : IsAscii c) : smallLetter (byteOf c) = byteOf c.toLower :=
  Text.forall_ascii (p := fun c => smallLetter (byteOf c) = byteOf c.toLower) (by decide) hc

/-- Characters of ASCII are the bytes of a text if they are its characters. -/
theorem map_byteOf_eq_iff (h : ∀ c ∈ cs, IsAscii c) :
    cs.map byteOf = bytesOf token ↔ cs = token.toList := by
  rw [← Text.bytesOf_of_ascii h, Text.bytesOf_inj, ← String.toList_inj, String.toList_ofList]

/-- The word is found in any case, among the bytes as among the characters. -/
theorem map_smallLetter_eq_iff (h : ∀ c ∈ cs, IsAscii c) :
    (cs.map byteOf).map smallLetter = bytesOf token ↔ cs.map Char.toLower = token.toList := by
  have hsmall : (cs.map byteOf).map smallLetter = (cs.map Char.toLower).map byteOf := by
    simp only [List.map_map]
    exact List.map_congr_left fun c hc => smallLetter_byteOf (h c hc)
  rw [hsmall, map_byteOf_eq_iff]
  intro c hc
  obtain ⟨c', hc', rfl⟩ := List.mem_map.mp hc
  exact Text.isAscii_toLower (h c' hc')

/-- A token is found behind the first seven characters, if they are the word and the blank in any
case. -/
theorem bearerToken?_eq_some_iff {ts : List Char} :
    bearerToken? value = some ts ↔ (value.toList.take 7).map Char.toLower = bearer ∧
      value.toList.drop 7 = ts ∧ ts ≠ [] := by
  simp only [bearerToken?, show bearer.length = 7 from rfl, Bool.and_eq_true, decide_eq_true_eq,
    Bool.not_eq_true', List.isEmpty_eq_false_iff, Option.ite_none_right_eq_some, Option.some.injEq]
  constructor
  · rintro ⟨⟨hword, hne⟩, rfl⟩
    exact ⟨hword, rfl, hne⟩
  · rintro ⟨hword, rfl, hne⟩
    exact ⟨⟨hword, hne⟩, rfl⟩

/-- A value bears a token if it is visible and the token is found in it. -/
theorem bears_iff : Bears value token ↔
    (∀ c ∈ value.toList, Http.isVisible c) ∧ bearerToken? value = some token.toList := by
  have hbytes (h : ∀ c ∈ value.toList, IsAscii c) : bytesOf value = value.toList.map byteOf := by
    rw [← Text.bytesOf_of_ascii h, String.ofList_toList]
  have hlength (h : ∀ c ∈ value.toList, IsAscii c) :
      7 < (bytesOf value).length ↔ value.toList.drop 7 ≠ [] := by
    rw [hbytes h, List.length_map, Ne, List.drop_eq_nil_iff, Nat.not_le]
  have htake (h : ∀ c ∈ value.toList, IsAscii c) : ∀ c ∈ value.toList.take 7, IsAscii c :=
    fun c hc => h c (List.mem_of_mem_take hc)
  have hdrop (h : ∀ c ∈ value.toList, IsAscii c) : ∀ c ∈ value.toList.drop 7, IsAscii c :=
    fun c hc => h c (List.mem_of_mem_drop hc)
  rw [bearerToken?_eq_some_iff]
  constructor
  · rintro ⟨hvisible, hlong, hword, htoken⟩
    have hascii : ∀ c ∈ value.toList, IsAscii c := by
      refine Text.isAscii_of_bytesOf fun b hb => ?_
      rw [String.ofList_toList] at hb
      rcases hvisible b hb with rfl | ⟨-, hle⟩
      · decide
      · exact UInt8.lt_of_le_of_lt hle (by decide)
    rw [hlength hascii] at hlong
    rw [hbytes hascii, List.forall_mem_map] at hvisible
    rw [hbytes hascii, ← List.map_take, map_smallLetter_eq_iff (htake hascii)] at hword
    rw [hbytes hascii, ← List.map_drop, map_byteOf_eq_iff (hdrop hascii)] at htoken
    exact ⟨fun c hc => (isVisible_iff (hascii c hc)).mpr (hvisible c hc), hword, htoken,
      htoken ▸ hlong⟩
  · rintro ⟨hvisible, hword, htoken, hne⟩
    have hascii : ∀ c ∈ value.toList, IsAscii c := fun c hc => isAscii_of_isVisible (hvisible c hc)
    refine ⟨?_, ?_, ?_, ?_⟩
    · rw [hbytes hascii, List.forall_mem_map]
      exact fun c hc => (isVisible_iff (hascii c hc)).mp (hvisible c hc)
    · rwa [hlength hascii, htoken]
    · rwa [hbytes hascii, ← List.map_take, map_smallLetter_eq_iff (htake hascii)]
    · rwa [hbytes hascii, ← List.map_drop, map_byteOf_eq_iff (hdrop hascii)]

end Bytes

/-! ## Requests -/

variable {s : Service} {r : Request} {token : String}

/-- The first value of a field counts. -/
theorem header?_of_headers_eq {name value : String} {headers : List (String × String)}
    (h : r.headers = (name, value) :: headers) : r.header? name = some value := by
  have hsame : Http.sameLetters name name = true := beq_self_eq_true _
  simp only [Request.header?, h, List.find?_cons, hsame, Option.map_some]

/-- The guard admits the requests that bear the token. -/
theorem admits_iff (ht : s.settings.authToken = some token) : s.admits r ↔ r.Bears token := by
  simp only [Service.admits, ht, decide_eq_true_eq, Option.bind_eq_some_iff,
    Http.Request.visibleHeader?, Option.filter_eq_some_iff, List.all_eq_true, Request.Bears,
    bears_iff, and_assoc]

/-- The service without a token. -/
def Service.unguarded (s : Service) : Service :=
  { s with settings := { s.settings with authToken := none } }

theorem admits_unguarded : s.unguarded.admits r := rfl

/-- No route looks at the token. -/
theorem handle_unguarded (route : Route) : s.unguarded.handle r route = s.handle r route := by
  cases route with
  | resolve =>
    -- the two answers agree whatever the query is, which is not worked out
    unfold Service.handle
    cases queryFileName? (Target.ofText r.target).query with
    | none => rfl
    | some fileName => rfl
  | _ => rfl

/-- A request that is admitted is answered as without a token. -/
theorem respond_of_admitted (h : s.admits r) : s.respond r = s.unguarded.respond r := by
  have hrouted (route : Route) : s.routed r route = s.unguarded.routed r route := by
    simp only [Service.routed, h, admits_unguarded, handle_unguarded]
  have hunrouted : s.unrouted r = s.unguarded.unrouted r := by
    simp only [Service.unrouted, h, admits_unguarded]
  simp only [Service.respond, hrouted, hunrouted]

/-- A request that is admitted comes to the same route as without a token. -/
theorem isHandledBy_of_admitted (h : s.admits r) (route : Route) :
    s.isHandledBy r route = s.unguarded.isHandledBy r route := by
  simp only [Service.isHandledBy, h, admits_unguarded]

/-- The answer to a request that is not admitted. Only the method and the target have a part in
it. -/
def refusal (method : Http.Method) (target : String) : Response :=
  let answer := match Route.ofPath? (Target.ofText target).path with
    | some route =>
      if route.accepts method then unauthorized else unauthorized.withHeader "allow" route.methods
    | none => unauthorized
  let answer := if method = .head then answer.withoutBody else answer
  answer.withHeader "access-control-allow-origin" "*"

/-- Every refusal says that the request is not authorized. -/
theorem refusal_status (method : Http.Method) (target : String) :
    (refusal method target).status = 401 := by
  simp only [refusal]
  split <;> split <;> try split
  all_goals rfl

/-- The only route that is not guarded is the one with the path `/health`. -/
theorem isGuarded_of_path {path : String} {route : Route} (hp : path ≠ "/health")
    (hroute : Route.ofPath? path = some route) : route.isGuarded := by
  cases route with
  | health =>
    unfold Route.ofPath? at hroute
    split at hroute <;> simp_all
  | _ => rfl

section Refused

variable (hp : (Target.ofText r.target).path ≠ "/health") (h : s.admits r = false)
include hp h

/-- A request that is not admitted comes to no route. -/
theorem isHandledBy_of_not_admitted {route : Route} (hroute : Route.ofRequest? r = some route) :
    s.isHandledBy r route = false := by
  rw [Service.isHandledBy, isGuarded_of_path hp hroute, h]
  exact Bool.and_false _

/-- A request that is not admitted is refused by its method and its target alone. -/
theorem respond_of_not_admitted (hm : r.method ≠ .options) :
    s.respond r = refusal r.method r.target := by
  rw [Service.respond, refusal, ← Route.ofRequest?]
  cases hroute : Route.ofRequest? r with
  | none => simp only [Service.unrouted, h, hm, if_false, Bool.false_eq_true]
  | some route =>
    have hguarded := isGuarded_of_path hp hroute
    simp only [Service.routed, h, hm, hguarded, if_false, Bool.not_false, Bool.and_self, if_true]

end Refused

namespace Host

/-- The host without a token. -/
def unguarded (h : Host) : Host := { h with service := h.service.unguarded }

/-- **The guard is sound and complete, and tells nothing.** With a token in the settings, a request
for anything but the state of health that bears the token is answered as if there were no token, and
asks for a shutdown as it would then. One that does not bear it is answered with 401. No route comes
to answer it, the host is left as it was, and every other host with that token answers the same,
whatever it knows and allows, to the request with whatever body. -/
theorem handle_guarded (h : Host) {token : String}
    (ht : h.service.settings.authToken = some token) {r : Request} (hm : r.method ≠ .options)
    (hp : (Target.ofText r.target).path ≠ "/health") :
    (r.Bears token → (h.handle r).2 = (h.unguarded.handle r).2 ∧
      (h.handle r).1.shutdownAsked = (h.unguarded.handle r).1.shutdownAsked) ∧
    (¬r.Bears token → (h.handle r).2.status = 401 ∧
      (∀ route, Route.ofRequest? r = some route → h.service.isHandledBy r route = false) ∧
      (h.handle r).1 = h ∧
      ∀ (other : Host) (body : ByteArray), other.service.settings.authToken = some token →
        (other.handle { r with body := body }).2 = (h.handle r).2) := by
  constructor
  · intro hbears
    have hadmits := (admits_iff ht).mpr hbears
    refine ⟨respond_of_admitted hadmits, ?_⟩
    simp only [handle, unguarded, isHandledBy_of_admitted hadmits]
  · intro hbears
    have hadmits : h.service.admits r = false :=
      Bool.eq_false_iff.mpr (mt (admits_iff ht).mp hbears)
    have hresponse : (h.handle r).2 = refusal r.method r.target :=
      respond_of_not_admitted hp hadmits hm
    refine ⟨hresponse ▸ refusal_status _ _, fun route => isHandledBy_of_not_admitted hp hadmits,
      ?_, fun other body hother => ?_⟩
    · by_cases hroute : Route.ofRequest? r = some .shutdown
      · simp only [handle, isHandledBy_of_not_admitted hp hadmits hroute, Bool.and_false,
          Bool.or_false]
      · simp only [handle, hroute, decide_false, Bool.false_and, Bool.or_false]
    · have hbody : other.service.admits { r with body := body } = false :=
        Bool.eq_false_iff.mpr (mt (admits_iff hother).mp hbears)
      rw [hresponse]
      exact respond_of_not_admitted (r := { r with body := body }) hp hbody hm

/-- A host that is asked to shut down, by a request with the token and by one with two values of
which only the second one bears it. -/
theorem handle_guarded_shutdown :
    let h : Host := { service := { settings := { authToken := some "secret" }, detector := {} } }
    let good : Request :=
      { method := .post, target := "/shutdown", headers := [("authorization", "bEaReR secret")] }
    let bad : Request :=
      { method := .post, target := "/shutdown",
        headers := [("authorization", "Bearer wrong"), ("authorization", "Bearer secret")] }
    (good.Bears "secret" ∧ (h.handle good).2 = (h.unguarded.handle good).2 ∧
      (h.handle good).1.shutdownAsked = true) ∧
    ¬bad.Bears "secret" ∧ (h.handle bad).2.status = 401 ∧ (h.handle bad).1 = h := by
  intro h good bad
  have ht : h.service.settings.authToken = some "secret" := rfl
  have hvisible : "bEaReR secret".toList.all Http.isVisible = true := by decide +kernel
  have hgood : good.Bears "secret" := ⟨"bEaReR secret", header?_of_headers_eq rfl,
    bears_iff.mpr ⟨List.all_eq_true.mp hvisible, by decide +kernel⟩⟩
  have hbad : ¬bad.Bears "secret" := by
    rintro ⟨value, hvalue, hbears⟩
    cases (header?_of_headers_eq rfl).symm.trans hvalue
    exact absurd (bears_iff.mp hbears).2 (by decide +kernel)
  have hpath : (Target.ofText "/shutdown").path ≠ "/health" := by decide +kernel
  obtain ⟨hanswer, hasked⟩ := (handle_guarded h ht (r := good) (by decide) hpath).1 hgood
  obtain ⟨hstatus, -, hleft, -⟩ := (handle_guarded h ht (r := bad) (by decide) hpath).2 hbad
  refine ⟨⟨hgood, hanswer, hasked.trans ?_⟩, hbad, hstatus, hleft⟩
  decide +kernel

end Host

end Polyglot
