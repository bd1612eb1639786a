import Polyglot.Proofs.Requests
import Polyglot.Proofs.Session

/-!
# Requests and sessions agree

The language of a text may be asked for by a request or by a command in a session. The two are read
by different readers, and may be written differently: each with the name of the file under a key of
its own choice, and with whatever else it carries. Still they are answered alike
(`Service.respond_agrees`).
-/

namespace Polyglot

open Http (Request)
open Json (Denotes IsDocument Value depthLimit)

variable {s : Service} {x : Snippet} {r : Request} {frame : String}

/-- The name of a file among the members of a command: under one of its keys if there is one, and
otherwise under none, unless the word for its absence is there. -/
def NamesFile (members : List (String × Value)) : Option String → Prop
  | some name => ∃ key ∈ fileNameKeys, members.lookup key = some (.string name) ∧
      ∀ other ∈ fileNameKeys, other ≠ key → members.lookup other = none
  | none => ∀ key ∈ fileNameKeys, members.lookup key = none ∨ members.lookup key = some .null

/-- The frame is a command to detect the language of a text, however it is written. -/
def Snippet.IsAskedIn (x : Snippet) (frame : String) : Prop :=
  ∃ members, IsDocument (Denotes depthLimit · (.object members)) frame ∧
    members.lookup "type" = some (.string "detect") ∧
    members.lookup "code" = some (.string x.code) ∧ NamesFile members x.fileName

theorem fileName_of_namesFile {members : List (String × Value)} {name : Option String}
    (h : NamesFile members name) :
    ((members.lookup "file_name").or (members.lookup "fileName")).bind Value.string? = name := by
  cases name with
  | none =>
    obtain ⟨hfirst, hrest⟩ := List.forall_mem_cons.mp h
    rcases hfirst with hfirst | hfirst
    · rcases List.forall_mem_singleton.mp hrest with hsecond | hsecond
      · rw [hfirst, hsecond]
        rfl
      · rw [hfirst, hsecond]
        rfl
    · rw [hfirst]
      rfl
  | some name =>
    obtain ⟨key, hkey, hname, hother⟩ := h
    rcases mem_fileNameKeys.mp hkey with rfl | rfl
    · rw [hname]
      rfl
    · rw [hname, hother "file_name" (by decide) (by decide)]
      rfl

/-- A command as a client may write it. -/
theorem isAskedIn_text {key : String} (hkey : key ∈ fileNameKeys) (x : Snippet) :
    x.IsAskedIn (Value.object (x.members key ++ [("type", .string "detect")])).text := by
  have horder : "code" < key ∧ "code" < "type" ∧ key < "type" := by
    rcases mem_fileNameKeys.mp hkey with rfl | rfl <;> decide
  have hsorted : Json.InOrder (x.members key ++ [("type", .string "detect")]) := by
    refine .cons ?_ (List.pairwise_pair.mpr horder.2.2)
    exact List.forall_mem_cons.mpr ⟨horder.1, List.forall_mem_singleton.mpr horder.2.1⟩
  have hparts : ∀ m ∈ x.members key ++ [("type", .string "detect")],
      Denotes (depthLimit - 1) m.2.write m.2 := by
    refine List.forall_mem_cons.mpr ⟨Json.denotes_string _, List.forall_mem_cons.mpr ⟨?_,
      List.forall_mem_singleton.mpr (Json.denotes_string _)⟩⟩
    cases x.fileName with
    | none => exact .null
    | some name => exact Json.denotes_string name
  have hdenotes := Json.denotes_object hparts
  -- a command is read with its members in order, and this one is written so
  rw [Json.readMembers_nil hsorted] at hdenotes
  have hname : NamesFile (x.members key ++ [("type", .string "detect")]) x.fileName := by
    rcases mem_fileNameKeys.mp hkey with rfl | rfl <;> cases hfile : x.fileName <;>
      simp [NamesFile, fileNameKeys, Snippet.members, Json.lookup_cons, Value.ofString?, hfile]
  refine ⟨_, Json.isDocument_text hdenotes, ?_, ?_, hname⟩
  · simp [Snippet.members, Json.lookup_cons, horder.2.2.ne']
  · simp [Snippet.members]

namespace Service

/-- A frame that asks for the language of a text is answered by what is found for the text. -/
theorem reply?_of_isAskedIn (h : x.IsAskedIn frame) :
    ∃ id, s.reply? frame = some (s.answer ⟨id, x⟩) := by
  obtain ⟨members, hframe, htype, hcode, hname⟩ := h
  have hasks : stringUnder? "type" members = some "detect" := by
    rw [stringUnder?, htype]
    rfl
  have hsnippet : (commandOf members).snippet = x := by
    simp only [commandOf, codeIn, stringUnder?, hcode, fileName_of_namesFile hname]
    rfl
  refine ⟨requestIdIn members, ?_⟩
  rw [reply?, Command.ofText?, Json.read_of_isDocument hframe]
  simp only [ofValue?_object, if_pos hasks, Option.map_some, ← hsnippet]
  rfl

/-- **A request and a command for the same text are answered alike.** Either both report a language,
which is the one that is detected, or both report that the text is too long, in the same words. -/
theorem respond_agrees (s : Service) (hr : r.Asks s x) (hframe : x.IsAskedIn frame) :
    (∀ d, (s.respond r).Reports d ↔ ∃ id, s.reply? frame = some (.detection id d)) ∧
    (∀ m, (s.respond r).Fails 413 m ↔ ∃ id, s.reply? frame = some (.error id m)) ∧
    (x.code.utf8ByteSize ≤ s.settings.maxInputBytes →
      (s.respond r).Reports (s.detector.detect x.code x.fileName)) ∧
    (s.settings.maxInputBytes < x.code.utf8ByteSize →
      (s.respond r).Fails 413 (s.refusalOf x).description) := by
  obtain ⟨id, hreply⟩ := reply?_of_isAskedIn (s := s) hframe
  -- what is found for the text decides both answers
  by_cases hx : s.Accepts x
  · have hreports : (s.respond r).Reports (s.detector.detect x.code x.fileName) := by
      rw [respond_of_asks hr, detect_of_accepts hx]
      exact reports_answerOf _
    rw [answer, detect_of_accepts hx] at hreply
    refine ⟨fun d => ⟨fun hd => ⟨id, ?_⟩, ?_⟩,
      fun m => ⟨fun hm => absurd hm hreports.not_fails, ?_⟩,
      fun _ => hreports, fun hlong => absurd hx (Nat.not_le.mpr hlong)⟩
    · rw [hreply, hd.unique hreports]
    · rintro ⟨id', heq⟩
      cases hreply.symm.trans heq
      exact hreports
    · rintro ⟨id', heq⟩
      cases hreply.symm.trans heq
  · have hfails : (s.respond r).Fails 413 (s.refusalOf x).description := by
      rw [respond_of_asks hr, detect_of_not_accepts hx]
      exact fails_answerOf (s.refusalOf x)
    rw [answer, detect_of_not_accepts hx] at hreply
    refine ⟨fun d => ⟨fun hd => absurd hfails hd.not_fails, ?_⟩, fun m => ⟨fun hm => ⟨id, ?_⟩, ?_⟩,
      fun hshort => absurd hshort hx, fun _ => hfails⟩
    · rintro ⟨id', heq⟩
      cases hreply.symm.trans heq
    · rw [hreply, hm.unique hfails]
    · rintro ⟨id', heq⟩
      cases hreply.symm.trans heq
      exact hfails

/-- Where four bytes are the most, a text of five is turned down, with the name of its file under
one key in the request and under the other one in the command. -/
theorem respond_agrees_too_long :
    let s : Service :=
      { settings := { maxInputBytes := 4, authToken := some "secret" }, detector := {} }
    let x : Snippet := { code := "print", fileName := some "a.py" }
    let r := postOf "/api/detect" [("authorization", "Bearer secret")]
      (.object (x.members "fileName"))
    let frame := (Value.object (x.members "file_name" ++ [("type", .string "detect")])).text
    let message := "Payload too large: Code is 5 bytes. Maximum allowed is 4."
    (s.respond r).Fails 413 message ∧ ∃ id, s.reply? frame = some (.error id message) := by
  intro s x r frame message
  have hposts : r.Posts s "/api/detect" _ :=
    posts_postOf (by decide +kernel) (by decide +kernel) (by decide +kernel)
  have hr : r.Asks s x := ⟨_, hposts, Json.isDocument_text (x.writes_members (by decide))⟩
  have hframe : x.IsAskedIn frame := isAskedIn_text (by decide) x
  obtain ⟨-, hfails, -, hlong⟩ := respond_agrees s hr hframe
  have hmessage : (s.refusalOf x).description = message := by decide +kernel
  have hanswer := hlong (by decide +kernel)
  rw [hmessage] at hanswer
  exact ⟨hanswer, (hfails message).mp hanswer⟩

end Service

end Polyglot
