import Polyglot.Proofs.Requests

/-!
# The limit for bodies lets every text through

The settings limit the bytes of a text and the bytes of the body that carries it. A text takes more
bytes in a body than it has, since its characters may be written by escapes, but never more than six
for one (`Json.size_of_isString`). So if the body may be that much longer, no text that is short
enough is turned down for how it is written (`Service.respond_within_limit`).
-/

namespace Polyglot

open Http (Request Target)
open Json (IsString IsUnit Spells Spelled Value)
open Text (IsAscii hexDigit?)

variable {c e : Char} {cs digits piece body literal : List Char} {code : String} {n unit : Nat}
  {s : Service} {r : Request}

/-! ## Sizes of strings -/

namespace Text

theorem isAscii_of_hexDigit? (h : hexDigit? c = some n) : IsAscii c := by
  simp only [hexDigit?] at h
  split at h
  · next hdigit => exact isAscii_of_isAlphanum (Bool.or_eq_true_iff.mpr (.inr hdigit))
  split at h
  · next hsmall => exact .of_le (by decide) hsmall.2
  split at h
  · next hcapital => exact .of_le (by decide) hcapital.2
  · cases h

theorem size_of_isAscii (h : ∀ c ∈ cs, IsAscii c) : cs.utf8Encode.size = cs.length := by
  induction cs with
  | nil => rfl
  | cons c cs ih =>
    obtain ⟨hc, hcs⟩ := List.forall_mem_cons.mp h
    rw [size_utf8Encode_cons, utf8Size_eq_one_iff.mpr hc, ih hcs, List.length_cons, Nat.add_comm]

theorem isAscii_of_mapM_hexDigit? {values : List Nat} (h : cs.mapM hexDigit? = some values) :
    ∀ c ∈ cs, IsAscii c := by
  induction cs generalizing values with
  | nil => nofun
  | cons c cs ih =>
    simp only [List.mapM_cons, Option.bind_eq_bind, Option.bind_eq_some_iff] at h
    obtain ⟨n, hc, rest, hrest, -⟩ := h
    exact List.forall_mem_cons.mpr ⟨isAscii_of_hexDigit? hc, ih hrest⟩

end Text

namespace Json

open Text (size_utf8Encode_cons size_utf8Encode_append utf8Size_eq_one_iff)

/-- The four digits of a numbered escape take four bytes. -/
theorem size_of_isUnit (h : IsUnit digits unit) : digits.utf8Encode.size = 4 := by
  obtain ⟨hlength, values, hvalues, -⟩ := h
  rw [Text.size_of_isAscii (Text.isAscii_of_mapM_hexDigit? hvalues), hlength]

theorem isAscii_of_shortEscape? (h : shortEscape? e = some c) : IsAscii e := by
  unfold shortEscape? at h
  split at h
  case h_9 => cases h
  all_goals decide

/-- Two halves make a character beyond the basic plane. -/
theorem one_lt_utf8Size_joined {leading trailing : Nat} (hl : isLeading leading)
    (ht : isTrailing trailing) : 1 < (joined leading trailing).utf8Size := by
  simp only [isLeading, isTrailing, Bool.and_eq_true, decide_eq_true_eq] at hl ht
  have hvalid : (0x10000 + (leading - 0xd800) * 0x400 + (trailing - 0xdc00)).isValidChar :=
    .inr ⟨by omega, by omega⟩
  have hcode : (joined leading trailing).toNat =
      0x10000 + (leading - 0xd800) * 0x400 + (trailing - 0xdc00) := by
    rw [joined, Char.ofNat, dif_pos hvalid]
    rfl
  rw [← Text.not_isAscii_iff, IsAscii]
  omega

/-- However a character is written, it takes at most six times its bytes. -/
theorem size_of_spells (h : Spells piece c) : piece.utf8Encode.size ≤ 6 * c.utf8Size := by
  have hpos := c.utf8Size_pos
  have hbackslash : ('\\').utf8Size = 1 := utf8Size_eq_one_iff.mpr (by decide)
  have hu : ('u').utf8Size = 1 := utf8Size_eq_one_iff.mpr (by decide)
  cases h with
  | plain =>
    rw [Text.size_utf8Encode_singleton]
    omega
  | short he =>
    rw [size_utf8Encode_cons, Text.size_utf8Encode_singleton, hbackslash,
      utf8Size_eq_one_iff.mpr (isAscii_of_shortEscape? he)]
    omega
  | number hunit =>
    rw [size_utf8Encode_cons, size_utf8Encode_cons, hbackslash, hu, size_of_isUnit hunit]
    omega
  | halves hunit hl hunit' ht =>
    -- twelve characters, for one that takes more than one byte
    have htwo := one_lt_utf8Size_joined hl ht
    simp only [size_utf8Encode_cons, size_utf8Encode_append, hbackslash, hu, size_of_isUnit hunit,
      size_of_isUnit hunit']
    omega

/-- No spelling takes more than six times the bytes of what it stands for: a control character may
be a numbered escape of six bytes, and nothing gets longer than that. -/
theorem size_of_spelled (h : Spelled body cs) :
    body.utf8Encode.size ≤ 6 * cs.utf8Encode.size := by
  induction h with
  | nil => exact Nat.le_refl _
  | cons hpiece _ ih =>
    have := size_of_spells hpiece
    rw [size_utf8Encode_append, size_utf8Encode_cons]
    omega

/-- A string takes at most six times the bytes of its text, and two for the quotes. -/
theorem size_of_isString (h : IsString code literal) :
    literal.utf8Encode.size ≤ 6 * code.utf8ByteSize + 2 := by
  have hcode : code.utf8ByteSize = code.toList.utf8Encode.size :=
    congrArg ByteArray.size (Text.toUTF8_eq_utf8Encode code)
  have hquote : ('"').utf8Size = 1 := utf8Size_eq_one_iff.mpr (by decide)
  cases h with
  | intro hbody =>
    have := size_of_spelled hbody
    rw [hcode, size_utf8Encode_cons, size_utf8Encode_append, Text.size_utf8Encode_singleton, hquote]
    omega

end Json

/-! ## Requests -/

/-- The object that carries a text and nothing else, with the text as it is written. -/
def codeObject (literal : List Char) : String := "\x7b\"code\":" ++ .ofList literal ++ "\x7d"

/-- The object around a string adds nine bytes to it. -/
theorem size_codeObject (literal : List Char) :
    (codeObject literal).toUTF8.size = literal.utf8Encode.size + 9 := by
  have hopening : "\x7b\"code\":".utf8ByteSize = 8 := rfl
  have hclosing : "\x7d".utf8ByteSize = 1 := rfl
  have hliteral : (String.ofList literal).utf8ByteSize = literal.utf8Encode.size := by
    rw [String.utf8ByteSize, String.toByteArray_ofList]
  have hsize : (codeObject literal).toUTF8.size = (codeObject literal).utf8ByteSize := rfl
  rw [hsize, codeObject, String.utf8ByteSize_append, String.utf8ByteSize_append, hopening, hclosing,
    hliteral]
  omega

theorem isObject_codeObject (literal : List Char) :
    Json.IsObject [("code", literal)] (codeObject literal).toList := by
  have hkey : Spelled "code".toList "code".toList := Json.spelled_self (by simp)
  have hmember : Json.IsMember "code".toList literal _ := .intro Json.isBlanks_nil Json.isBlanks_nil
  have hbracketed : Json.Bracketed '\x7b' '\x7d'
      ['"' :: ("code".toList ++ '"' :: ([] ++ ':' :: ([] ++ literal)))] _ :=
    .filled Json.isBlanks_nil (.last Json.isBlanks_nil)
  refine ⟨_, .cons ⟨_, hkey, hmember⟩ .nil, ?_⟩
  simpa [codeObject] using hbracketed

theorem hasFields_code (h : IsString code literal) :
    Json.HasFields (Snippet.mk code none).forms [("code", literal)] where
  known m hm f hf hkey := by
    obtain rfl := List.mem_singleton.mp hm
    rcases List.mem_pair.mp hf with rfl | rfl
    · exact h
    · exact absurd hkey (show "code" ∉ fileNameKeys by decide)
  unknown m hm hnone := by
    obtain rfl := List.mem_singleton.mp hm
    exact absurd (List.mem_singleton_self _) (hnone _ (List.mem_cons_self ..))
  once _ _ := List.pairwise_singleton _ _
  all f hf := by
    rcases List.mem_pair.mp hf with rfl | rfl
    · exact .inr ⟨_, List.mem_singleton_self _, List.mem_singleton_self _⟩
    · exact .inl rfl

/-- The object stands for the text without the name of a file. -/
theorem isDocument_codeObject (h : IsString code literal) :
    Json.IsDocument (Snippet.mk code none).Writes (codeObject literal) :=
  ⟨[], _, [], Json.isBlanks_nil, ⟨_, hasFields_code h, isObject_codeObject literal⟩,
    Json.isBlanks_nil, (List.append_nil _).symm⟩

/-- The request sends a text and nothing else, and is accepted: it carries the token if the service
asks for one, and says that its body is JSON. Of how long its body is nothing is said. -/
structure Http.Request.SendsCode (r : Request) (s : Service) (literal : List Char) : Prop where
  method : r.method = .post
  path : (Target.ofText r.target).path = "/api/detect"
  admitted : s.admits r
  declaresJson : r.declaresJson
  body : r.body = (codeObject literal).toUTF8

/-- If the body is not too long, the request asks for the language of the text. -/
theorem Http.Request.SendsCode.asks (hr : r.SendsCode s literal) (h : IsString code literal)
    (hsize : r.body.size ≤ s.settings.maxBodyBytes) : r.Asks s ⟨code, none⟩ :=
  ⟨_, ⟨hr.method, hr.path, hr.admitted, hr.declaresJson, hr.body, hsize⟩, isDocument_codeObject h⟩

/-- The body of a text that is short enough is not too long. -/
theorem Http.Request.SendsCode.size_le (hr : r.SendsCode s literal) (h : IsString code literal)
    (hcode : code.utf8ByteSize ≤ s.settings.maxInputBytes)
    (hroom : 6 * s.settings.maxInputBytes + 11 ≤ s.settings.maxBodyBytes) :
    r.body.size ≤ s.settings.maxBodyBytes := by
  have := Json.size_of_isString h
  rw [hr.body, size_codeObject]
  omega

namespace Service

/-- **The limit for bodies lets every text through.** If a body may have six times the bytes of a
text and eleven more, as the settings have it unless they are told otherwise, then a text that is
short enough is reported, however it is written. One that is too long is refused as such, if its
body is not too long. -/
theorem respond_within_limit (s : Service) (hr : r.SendsCode s literal)
    (h : IsString code literal) :
    (6 * ({} : Settings).maxInputBytes + 11 ≤ ({} : Settings).maxBodyBytes) ∧
    (6 * s.settings.maxInputBytes + 11 ≤ s.settings.maxBodyBytes →
      code.utf8ByteSize ≤ s.settings.maxInputBytes →
      (s.respond r).Reports (s.detector.detect code none)) ∧
    (s.settings.maxInputBytes < code.utf8ByteSize → r.body.size ≤ s.settings.maxBodyBytes →
      (s.respond r).Fails 413 (s.refusalOf ⟨code, none⟩).description) := by
  refine ⟨by decide, fun hroom hcode => ?_, fun hlong hsize => ?_⟩
  · rw [respond_of_asks (hr.asks h (hr.size_le h hcode hroom)),
      detect_of_accepts (x := ⟨code, none⟩) hcode]
    exact reports_answerOf _
  · rw [respond_of_asks (hr.asks h hsize),
      detect_of_not_accepts (x := ⟨code, none⟩) (Nat.not_le.mpr hlong)]
    exact fails_answerOf (s.refusalOf ⟨code, none⟩)

/-- Where four bytes are the most, four control characters fill the body to its last byte when they
are written by their numbers, and six letters are too many, although their body is shorter. -/
theorem respond_within_limit_control :
    let s : Service :=
      { settings := { maxInputBytes := 4, maxBodyBytes := 35 }, detector := {} }
    let sent (code : String) : Request :=
      { method := .post, target := "/api/detect",
        headers := [("content-type", "application/json")],
        body := (codeObject (Value.string code).write).toUTF8 }
    let control : String := .ofList (List.replicate 4 '\x01')
    (sent control).body.size = 35 ∧
      (s.respond (sent control)).Reports (s.detector.detect control none) ∧
      (sent "return").body.size = 17 ∧
      (s.respond (sent "return")).Fails 413
        "Payload too large: Code is 6 bytes. Maximum allowed is 4." := by
  intro s sent control
  have hpath : (Target.ofText "/api/detect").path = "/api/detect" := by decide +kernel
  have hsends (code : String) : (sent code).SendsCode s (Value.string code).write :=
    ⟨rfl, hpath, rfl, declaresJson_of_headers_eq rfl, rfl⟩
  have hlong : (sent "return").body.size = 17 := by decide +kernel
  obtain ⟨-, hreports, -⟩ := respond_within_limit s (hsends control) (Json.isString_write control)
  obtain ⟨-, -, hfails⟩ := respond_within_limit s (hsends "return") (Json.isString_write "return")
  have hmessage : (s.refusalOf ⟨"return", none⟩).description =
      "Payload too large: Code is 6 bytes. Maximum allowed is 4." := by decide +kernel
  rw [hmessage] at hfails
  exact ⟨by decide +kernel, hreports (by decide) (by decide +kernel), hlong,
    hfails (by decide +kernel) (hlong ▸ by decide)⟩

end Service

end Polyglot
