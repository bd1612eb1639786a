import Mathlib.Data.List.Forall2
import Polyglot.Proofs.Json.RoundTrip
import Polyglot.Proofs.Service
import Polyglot.Service.Session

/-!
# Sessions answer commands

A session answers the commands among its frames, each of them once and in their order, and answers
nothing else (`serve_answers`). An answer is a matter of its own command. It reads as an object that
names its kind and carries the identifier of the command.
-/

namespace Polyglot

open Json (Value depthLimit)
open Text (glyphsOf)

variable {s : Service} {f : Frame} {members : List (String × Value)} {takes : Nat → Bool}

/-! ## What is asked -/

/-- The messages that a session receives before the socket first fails to give one. -/
def received (events : List (Option Frame)) : List Frame :=
  (events.takeWhile Option.isSome).filterMap id

/-- The members of the object that a frame is, if it is a text that reads as one. -/
def Frame.members? : Frame → Option (List (String × Value))
  | text content =>
    match Value.read (glyphsOf content.toList) with
    | .ok (.object members) => some members
    | _ => none
  | _ => none

/-- The string under a key. -/
def stringUnder? (key : String) (members : List (String × Value)) : Option String :=
  (members.lookup key).bind Value.string?

/-- The frame is a command to detect a language. -/
def Frame.asks (f : Frame) : Bool := f.members?.bind (stringUnder? "type") == some "detect"

/-- The identifier that a command carries. -/
def requestIdIn (members : List (String × Value)) : Value :=
  (members.lookup "request_id").getD .null

/-- The text whose language a command asks for. -/
def codeIn (members : List (String × Value)) : String := (stringUnder? "code" members).getD ""

/-- The text answers the frame. The identifier of an answer reads as it was if it is exact. -/
structure Service.Answers (s : Service) (f : Frame) (text : String) : Prop where
  /-- Nothing but the service and the frame has part in the answer. -/
  sent : s.send? f = some text
  reads : ∀ {members}, f.members? = some members → (requestIdIn members).IsExact →
    ∃ reply, Value.read (glyphsOf text.toList) = .ok (.object reply) ∧
      reply.lookup "type" = some (.string (
        if s.settings.maxInputBytes < (codeIn members).utf8ByteSize then "error"
        else "detection")) ∧
      reply.lookup "request_id" = some (requestIdIn members)

/-! ## Replies -/

namespace Reply

def requestId : Reply → Value
  | detection id _ => id
  | error id _ => id

def kind : Reply → String
  | detection _ _ => "detection"
  | error _ _ => "error"

/-- The members after the kind and the identifier. -/
def details : Reply → List (String × String)
  | detection _ found => [("language", found.language), ("name", found.name)]
  | error _ message => [("error", message)]

theorem toJson_eq (r : Reply) : r.toJson = .object (("type", .string r.kind) ::
    ("request_id", r.requestId) :: r.details.map fun m => (m.1, .string m.2)) := by
  cases r <;> rfl

/-- A reply reads as an object of its kind, with its identifier. -/
theorem read_toJson (r : Reply) (hexact : r.requestId.IsExact)
    (hnormal : r.requestId.IsNormal (depthLimit - 1)) :
    ∃ members, Value.read (glyphsOf r.toJson.text.toList) = .ok (.object members) ∧
      members.lookup "type" = some (.string r.kind) ∧
      members.lookup "request_id" = some r.requestId := by
  have hid : Json.Denotes (depthLimit - 1) r.requestId.write r.requestId :=
    Json.denotes_write hexact hnormal
  rw [toJson_eq, Json.read_write_object]
  · refine ⟨_, rfl, ?_, ?_⟩
    · cases r <;> simp [details, Json.readMembers, Json.lookup_insertMember]
    · cases r <;> simp [details, Json.readMembers, Json.lookup_insertMember]
  · simp only [List.forall_mem_cons, List.forall_mem_map]
    exact ⟨Json.denotes_string _, hid, fun _ _ => Json.denotes_string _⟩

end Reply

/-! ## Commands -/

/-- Only a frame of text has members: those of the object that it holds. -/
theorem Frame.of_members? (h : f.members? = some members) :
    ∃ content, f = .text content ∧ Value.read (glyphsOf content.toList) = .ok (.object members) := by
  cases f with
  | text content =>
    refine ⟨content, rfl, ?_⟩
    simp only [members?] at h
    split at h
    · next hread =>
      cases h
      exact hread
    · cases h
  | _ => cases h

/-- The identifier of a command leaves room for one more bracket around it. -/
theorem isNormal_requestIdIn (h : f.members? = some members) :
    (requestIdIn members).IsNormal (depthLimit - 1) := by
  obtain ⟨content, -, hread⟩ := Frame.of_members? h
  cases Json.isNormal_of_read hread with
  | object hmembers _ =>
    cases hid : members.lookup "request_id" with
    | none =>
      rw [requestIdIn, hid]
      exact .null
    | some id =>
      obtain ⟨before, after, rfl, -⟩ := List.lookup_eq_some_iff.mp hid
      rw [requestIdIn, hid]
      exact hmembers ("request_id", id) (by simp)

/-- The command of a frame that asks. -/
def commandOf (members : List (String × Value)) : Command where
  requestId := requestIdIn members
  snippet := {
    code := codeIn members
    fileName := ((members.lookup "file_name").or (members.lookup "fileName")).bind Value.string? }

namespace Service

theorem ofValue?_object (members : List (String × Value)) :
    Command.ofValue? (.object members) =
      if stringUnder? "type" members = some "detect" then some (commandOf members) else none :=
  rfl

/-- A frame that asks is answered, and no other frame is. -/
theorem send?_eq (s : Service) (f : Frame) : s.send? f =
    if f.asks then f.members?.map fun members => (s.answer (commandOf members)).toJson.text
    else none := by
  cases f with
  | text content =>
    cases hread : Value.read (glyphsOf content.toList) with
    | error fault => simp [send?, reply?, Command.ofText?, Frame.asks, Frame.members?, hread]
    | ok v =>
      cases v with
      | object members =>
        simp only [send?, reply?, Command.ofText?, Frame.asks, Frame.members?, hread,
          ofValue?_object, Option.bind_some, beq_iff_eq]
        split <;> rfl
      | _ =>
        simp only [send?, reply?, Command.ofText?, Frame.asks, Frame.members?, hread]
        rfl
  | _ => rfl

/-- A command is answered under its own number. -/
theorem requestId_answer (s : Service) (c : Command) : (s.answer c).requestId = c.requestId := by
  rw [answer]
  split <;> rfl

/-- A text that is too long is answered with an error. -/
theorem kind_answer (s : Service) (c : Command) : (s.answer c).kind =
    if s.settings.maxInputBytes < c.snippet.code.utf8ByteSize then "error" else "detection" := by
  by_cases hx : s.Accepts c.snippet
  · rw [answer, detect_of_accepts hx, if_neg (Nat.not_lt.mpr hx)]
    rfl
  · rw [answer, detect_of_not_accepts hx, if_pos (Nat.not_le.mp hx)]
    rfl

/-- A frame that asks for something is answered, and no other. -/
theorem isSome_send? (s : Service) (f : Frame) : (s.send? f).isSome = f.asks := by
  rw [send?_eq, Frame.asks]
  cases f.members? with
  | none => rfl
  | some members =>
    rw [Option.bind_some, Option.map_some]
    split
    · next h => exact h.symm
    · next h => exact (Bool.eq_false_iff.mpr h).symm

/-- What is sent for a frame answers it. -/
theorem answers_of_send? {text : String} (h : s.send? f = some text) : s.Answers f text := by
  refine ⟨h, fun {members} hmembers hexact => ?_⟩
  rw [send?_eq, hmembers] at h
  split at h
  · cases h
    have hid := requestId_answer s (commandOf members)
    have hreply := (s.answer (commandOf members)).read_toJson (hid ▸ hexact)
      (hid ▸ isNormal_requestIdIn hmembers)
    rwa [hid, kind_answer] at hreply
  · cases h

/-! ### Commands as a client writes them -/

/-- The members of a command, in order. -/
def commandMembers (id : Value) (code : String) : List (String × Value) :=
  [("code", .string code), ("request_id", id), ("type", .string "detect")]

/-- A frame that asks for the language of a text. -/
def commandFrame (id : Value) (code : String) : Frame :=
  .text (Value.object (commandMembers id code)).text

theorem inOrder_commandMembers (id : Value) (code : String) :
    Json.InOrder (commandMembers id code) := by
  have hcode : "code" < "request_id" ∧ "code" < "type" := by decide
  have hid : "request_id" < "type" := by decide
  refine .cons ?_ (.cons ?_ (List.pairwise_singleton _ _))
  · exact List.forall_mem_cons.mpr ⟨hcode.1, List.forall_mem_singleton.mpr hcode.2⟩
  · exact List.forall_mem_singleton.mpr hid

/-- The members of a command are read back from its frame. -/
theorem members?_commandFrame {id : Value} (code : String) (hexact : id.IsExact)
    (hnormal : id.IsNormal (depthLimit - 1)) :
    (commandFrame id code).members? = some (commandMembers id code) := by
  have hparts : ∀ m ∈ commandMembers id code, Json.Denotes (depthLimit - 1) m.2.write m.2 :=
    List.forall_mem_cons.mpr ⟨Json.denotes_string _, List.forall_mem_cons.mpr
      ⟨Json.denotes_write hexact hnormal, List.forall_mem_singleton.mpr (Json.denotes_string _)⟩⟩
  have hread : Value.read (glyphsOf (Value.object (commandMembers id code)).text.toList) =
      .ok (.object (commandMembers id code)) := by
    rw [Json.read_write_object hparts, Json.readMembers_nil (inOrder_commandMembers id code)]
  simp only [commandFrame, Frame.members?, hread]

/-- The frame of a command asks for something. -/
theorem asks_commandFrame {id : Value} (code : String) (hexact : id.IsExact)
    (hnormal : id.IsNormal (depthLimit - 1)) : (commandFrame id code).asks = true := by
  rw [Frame.asks, members?_commandFrame code hexact hnormal]
  rfl

/-! ## Runs -/

@[simp] theorem received_cons (f : Frame) (events : List (Option Frame)) :
    received (some f :: events) = f :: received events :=
  rfl

/-- The messages that are sent are the answers to the frames that are received. -/
theorem serve_eq (s : Service) (h : ∀ n, takes n) (sent : Nat) (events : List (Option Frame)) :
    s.serve takes sent events = (received events).filterMap s.send? := by
  induction events generalizing sent with
  | nil => rfl
  | cons event events ih =>
    cases event with
    | none => rfl
    | some f =>
      rw [received_cons, List.filterMap_cons, serve]
      split
      · next heq =>
        rw [heq]
        exact ih sent
      · next text heq =>
        rw [heq, if_pos (h sent), ih]

/-- A message that is not taken ends the session. What has been sent by then are the first answers
to the frames that are received. -/
theorem serve_isPrefix (s : Service) (takes : Nat → Bool) (sent : Nat)
    (events : List (Option Frame)) :
    s.serve takes sent events <+: (received events).filterMap s.send? := by
  induction events generalizing sent with
  | nil => exact List.nil_prefix
  | cons event events ih =>
    cases event with
    | none => exact List.nil_prefix
    | some f =>
      rw [received_cons, List.filterMap_cons, serve]
      split
      · next heq =>
        rw [heq]
        exact ih sent
      · next text heq =>
        rw [heq]
        split
        · exact List.cons_prefix_cons.mpr ⟨rfl, ih (sent + 1)⟩
        · exact List.nil_prefix

/-- A session with a command between other frames, and with one that comes after the socket has
failed. -/
def interrupted : List (Option Frame) :=
  [some (.binary .empty), some (commandFrame (.array [.ofNat 7]) "print"), some (.text "[]"), none,
    some (commandFrame .null "")]

/-- **The messages that are sent answer the commands that are received, in their order.** -/
theorem serve_answers (s : Service) (h : ∀ n, takes n) (events : List (Option Frame)) :
    List.Forall₂ s.Answers ((received events).filter Frame.asks) (s.serve takes 0 events) := by
  rw [serve_eq s h]
  induction received events with
  | nil => exact .nil
  | cons f frames ih =>
    have hsome := isSome_send? s f
    rw [List.filter_cons, List.filterMap_cons]
    cases hsend : s.send? f with
    | none =>
      rw [hsend] at hsome
      simpa [← hsome] using ih
    | some text =>
      rw [hsend] at hsome
      simpa [← hsome] using ⟨answers_of_send? hsend, ih⟩

/-- Where five bytes are too many, the first command is answered with an error. -/
theorem serve_answers_interrupted :
    ∃ text, serve { settings := { maxInputBytes := 4 } } (fun _ => true) 0 interrupted = [text] ∧
      ∃ reply, Value.read (glyphsOf text.toList) = .ok (.object reply) ∧
        reply.lookup "type" = some (.string "error") ∧
        reply.lookup "request_id" = some (.array [.ofNat 7]) := by
  have hexact : (Value.array [.ofNat 7]).IsExact :=
    .array (List.forall_mem_singleton.mpr (.int (by decide) (by decide)))
  have hnormal : (Value.array [.ofNat 7]).IsNormal (depthLimit - 1) :=
    .array (List.forall_mem_singleton.mpr (.number _))
  have hmembers := members?_commandFrame "print" hexact hnormal
  have hasks := asks_commandFrame "print" hexact hnormal
  have hother : (Frame.text "[]").asks = false := by decide +kernel
  have hasked : (received interrupted).filter Frame.asks =
      [commandFrame (.array [.ofNat 7]) "print"] := by
    have hreceived : received interrupted =
        [.binary .empty, commandFrame (.array [.ofNat 7]) "print", .text "[]"] := rfl
    have hbinary : (Frame.binary .empty).asks = false := rfl
    simp only [hreceived, List.filter_cons, hbinary, hasks, hother, List.filter_nil,
      Bool.false_eq_true, if_true, if_false]
  have hrun := serve_answers { settings := { maxInputBytes := 4 } } (fun _ => rfl) interrupted
  rw [hasked] at hrun
  obtain ⟨text, rest, hanswers, hrest, hserve⟩ := List.forall₂_cons_left_iff.mp hrun
  cases List.forall₂_nil_left_iff.mp hrest
  exact ⟨text, hserve, hanswers.reads hmembers hexact⟩

end Service

end Polyglot
