import Polyglot.Proofs.Guard

/-!
# A shutdown is asked for by those who may, and not lost

A host answers requests, and now and then a wait for a shutdown ends. The events may come in any
order and at any time (`Host.Run`). What the host keeps of them is only whether it has been asked to
shut down since the last wait ended (`Run.shutdownAsked_iff`), so a wait can end exactly then, and
no event has a part in what a later request is answered (`Host.Run.shutdown_asked_by`). Time has a
part in one member of one answer (`Service.respond_after`).
-/

namespace Polyglot

open Http (Request Response Target)
open Json (Value)

variable {s : Service} {r : Request} {seconds : Nat} {answer : Response}

/-! ## Requests for a shutdown -/

/-- The request asks for a shutdown, and may do so: it bears the token if there is one. -/
structure Http.Request.AsksShutdown (r : Request) (s : Service) : Prop where
  method : r.method = .post
  path : (Target.ofText r.target).path = "/shutdown"
  bears : ∀ token, s.settings.authToken = some token → r.Bears token

/-- Without a token in the settings every request is admitted. -/
theorem admits_iff_forall :
    s.admits r ↔ ∀ token, s.settings.authToken = some token → r.Bears token := by
  cases ht : s.settings.authToken with
  | none => simp [Service.admits, ht]
  | some token =>
    rw [admits_iff ht]
    exact ⟨fun h _ e => Option.some.inj e ▸ h, fun h => h token rfl⟩

theorem ofPath?_eq_shutdown_iff {path : String} :
    Route.ofPath? path = some .shutdown ↔ path = "/shutdown" := by
  refine ⟨fun h => ?_, fun h => h ▸ rfl⟩
  unfold Route.ofPath? at h
  split at h <;> simp_all

theorem accepts_shutdown_iff {m : Http.Method} : Route.shutdown.accepts m ↔ m = .post := by
  cases m with
  | post => exact iff_of_true rfl rfl
  | get | head | options | other _ => exact iff_of_false Bool.false_ne_true nofun

/-- The route for a shutdown answers the requests that ask for one, and no others. -/
theorem isHandledBy_shutdown_iff :
    (Route.ofRequest? r = some .shutdown ∧ s.isHandledBy r .shutdown) ↔ r.AsksShutdown s := by
  have hguarded : Route.shutdown.isGuarded = true := rfl
  rw [Route.ofRequest?, ofPath?_eq_shutdown_iff, Service.isHandledBy, Bool.and_eq_true,
    accepts_shutdown_iff, hguarded, Bool.not_true, Bool.false_or, admits_iff_forall]
  constructor
  · rintro ⟨hpath, hmethod, hbears⟩
    exact ⟨hmethod, hpath, hbears⟩
  · exact fun h => ⟨h.path, h.method, h.bears⟩

/-! ## Answers at different times -/

/-- The responses are the same, or they differ in a member with the key of the object that both have
as their body. -/
def Http.Response.SameApartFrom (key : String) (a b : Response) : Prop :=
  a = b ∨ ∃ ms ns : List (String × Value), ms.filter (·.1 ≠ key) = ns.filter (·.1 ≠ key) ∧
    b.body = (Value.object ns).text ∧ a = { b with body := (Value.object ms).text }

namespace Service

/-- Only the account of the state of health tells the time. -/
theorem handle_after {route : Route} (hroute : route ≠ .health) :
    (s.after seconds).handle r route = s.handle r route := by
  cases route with
  | health => exact absurd rfl hroute
  | resolve =>
    -- the two answers agree whatever the query is, which is not worked out
    unfold Service.handle
    cases queryFileName? (Target.ofText r.target).query with
    | none => rfl
    | some fileName => rfl
  | _ => rfl

/-- All routes but the one for the state of health answer the same at any time. -/
theorem routed_after {route : Route} (hroute : route ≠ .health) :
    (s.after seconds).routed r route = s.routed r route := by
  have hadmits : (s.after seconds).admits r = s.admits r := rfl
  simp only [routed, handle_after hroute, hadmits]

/-- What the service says of itself is the same at any time, apart from the member for the time. -/
theorem filter_healthMembers_after (s : Service) (seconds : Nat) :
    (s.after seconds).healthMembers.filter (·.1 ≠ "uptime") =
      s.healthMembers.filter (·.1 ≠ "uptime") := by
  cases hs : s.uptime <;> simp [healthMembers, uptimeMember, after, hs]

/-- Requests that do not ask for the state of health are answered the same at any time. -/
theorem respond_after_of_path (hpath : (Target.ofText r.target).path ≠ "/health") :
    (s.after seconds).respond r = s.respond r := by
  cases hroute : Route.ofRequest? r with
  | none =>
    simp only [respond, hroute]
    rfl
  | some route =>
    have hne : route ≠ .health := by
      rintro rfl
      exact absurd (isGuarded_of_path hpath hroute) Bool.false_ne_true
    simp only [respond, hroute, routed_after hne]

/-- A service answers at any time as it does when nobody looks at the clock, apart from telling the
time. -/
theorem respond_after (s : Service) (seconds : Nat) (r : Request) :
    ((s.after seconds).respond r).SameApartFrom "uptime" (s.respond r) := by
  by_cases hpath : (Target.ofText r.target).path = "/health"
  · have hroute : Route.ofRequest? r = some .health := by rw [Route.ofRequest?, hpath]; rfl
    cases hmethod : r.method with
    | get =>
      refine .inr ⟨_, s.healthMembers, s.filter_healthMembers_after seconds, ?_, ?_⟩
      all_goals
        simp only [respond, hroute, routed, hmethod]
        rfl
    | head | post | options | other _ =>
      refine .inl ?_
      simp only [respond, hroute, routed, hmethod]
      rfl
  · exact .inl (respond_after_of_path hpath)

end Service

namespace Host

variable {h h' h'' : Host} {past : List Event}

/-! ## Events -/

/-- What happens to a host. -/
inductive Event where
  /-- A request is answered when the service has been running for so many seconds. -/
  | answered (seconds : Nat) (r : Request) (answer : Response)
  /-- A wait for a shutdown ends. -/
  | waitEnds

/-- The event takes the host to another one. A request may come at any time; a wait ends only if a
shutdown has been asked for. -/
inductive Step : Host → Event → Host → Prop where
  | answered (h : Host) (seconds : Nat) (r : Request) :
      Step h (.answered seconds r ((h.service.after seconds).respond r)) (h.handle r).1
  | waitEnds {h : Host} : h.takeShutdown.2 = true → Step h .waitEnds h.takeShutdown.1

/-- The events have taken the host to another one, in this order. -/
inductive Run (h : Host) : List Event → Host → Prop where
  | start : Run h [] h
  | step {past : List Event} {e : Event} {h' h'' : Host} : Run h past h' → Step h' e h'' →
      Run h (past ++ [e]) h''

/-! ## Since the last wait -/

/-- Somebody who may has asked for a shutdown, and no wait has ended after that. -/
def IsAskedSince (s : Service) (past : List Event) : Prop :=
  ∃ before seconds r answer later, past = before ++ .answered seconds r answer :: later ∧
    r.AsksShutdown s ∧ .waitEnds ∉ later

theorem not_isAskedSince_nil : ¬IsAskedSince s [] := by
  rintro ⟨before, seconds, r, answer, later, hpast, -⟩
  simp at hpast

/-- What came before the last event, if the last event is not the one that asks. -/
theorem isAskedSince_append {e : Event} (h : IsAskedSince s (past ++ [e])) :
    (∃ seconds r answer, e = .answered seconds r answer ∧ r.AsksShutdown s) ∨
      IsAskedSince s past ∧ e ≠ .waitEnds := by
  obtain ⟨before, seconds, r, answer, later, hpast, hasks, hlater⟩ := h
  rcases later.eq_nil_or_concat with rfl | ⟨later, last, rfl⟩
  · obtain ⟨-, he⟩ := List.append_inj' hpast rfl
    exact .inl ⟨seconds, r, answer, List.singleton_inj.mp he, hasks⟩
  · rw [List.concat_eq_append] at hpast hlater
    rw [← List.cons_append, ← List.append_assoc] at hpast
    obtain ⟨rfl, he⟩ := List.append_inj' hpast rfl
    obtain rfl := List.singleton_inj.mp he
    rw [List.mem_append, not_or, List.mem_singleton] at hlater
    exact .inr ⟨⟨before, seconds, r, answer, later, rfl, hasks, hlater.1⟩, Ne.symm hlater.2⟩

/-- A request leaves what has been asked as asked, and may ask itself. -/
theorem isAskedSince_answered : IsAskedSince s (past ++ [.answered seconds r answer]) ↔
    IsAskedSince s past ∨ r.AsksShutdown s := by
  constructor
  · intro h
    rcases isAskedSince_append h with ⟨seconds', r', answer', he, hasks⟩ | ⟨hpast, -⟩
    · cases he
      exact .inr hasks
    · exact .inl hpast
  · rintro (⟨before, seconds', r', answer', later, rfl, hasks, hlater⟩ | hasks)
    · refine ⟨before, seconds', r', answer', later ++ [.answered seconds r answer], by simp, hasks,
        ?_⟩
      simpa using hlater
    · exact ⟨past, seconds, r, answer, [], rfl, hasks, List.not_mem_nil⟩

theorem not_isAskedSince_waitEnds : ¬IsAskedSince s (past ++ [.waitEnds]) := by
  intro h
  rcases isAskedSince_append h with ⟨seconds, r, answer, he, -⟩ | ⟨-, hne⟩
  · cases he
  · exact hne rfl

/-! ## Steps and runs -/

/-- A request leaves a host asked to shut down as asked, and otherwise decides it. -/
theorem shutdownAsked_handle :
    (h.handle r).1.shutdownAsked ↔ h.shutdownAsked ∨ r.AsksShutdown h.service := by
  simp only [handle, Bool.or_eq_true, Bool.and_eq_true, decide_eq_true_eq, isHandledBy_shutdown_iff]

/-- A request that does not ask for a shutdown leaves the host as it was. -/
theorem handle_of_not_asksShutdown (hr : ¬r.AsksShutdown h.service) : (h.handle r).1 = h := by
  have hasked : (h.handle r).1.shutdownAsked = h.shutdownAsked := by
    rw [Bool.eq_iff_iff, shutdownAsked_handle, or_iff_left hr]
  exact congrArg (fun asked => { h with shutdownAsked := asked }) hasked

/-- Any request may come, and its answer is that of the service at the time. -/
theorem exists_step_answered_iff : (∃ h', Step h (.answered seconds r answer) h') ↔
    answer = (h.service.after seconds).respond r := by
  constructor
  · rintro ⟨h', hstep⟩
    cases hstep
    rfl
  · rintro rfl
    exact ⟨_, .answered h seconds r⟩

/-- A wait can end exactly if the host has been asked. -/
theorem exists_step_waitEnds_iff : (∃ h', Step h .waitEnds h') ↔ h.shutdownAsked := by
  constructor
  · rintro ⟨h', hstep⟩
    cases hstep
    assumption
  · exact fun hasked => ⟨_, .waitEnds hasked⟩

theorem Step.service_eq {e : Event} (hstep : Step h e h') : h'.service = h.service := by
  cases hstep <;> rfl

namespace Run

/-- No event changes the service. -/
theorem service_eq (hrun : Run h past h') : h'.service = h.service := by
  induction hrun with
  | start => rfl
  | step _ hstep ih => rw [hstep.service_eq, ih]

/-- The host knows whether it has been asked since the last wait ended. -/
theorem shutdownAsked_iff (hrun : Run { service := s } past h) :
    h.shutdownAsked ↔ IsAskedSince s past := by
  induction hrun with
  | start => exact iff_of_false Bool.false_ne_true not_isAskedSince_nil
  | step hrun hstep ih =>
    cases hstep with
    | answered _ r => rw [shutdownAsked_handle, isAskedSince_answered, ih, hrun.service_eq]
    | waitEnds _ => exact iff_of_false Bool.false_ne_true not_isAskedSince_waitEnds

/-- **A shutdown is asked for by those who may, and not lost.** Whatever has happened to a host
since it was started, a wait for a shutdown can end exactly if somebody who may has asked for one
and no wait has ended since. Any request may come next, at any time, and what has happened has no
part in its answer. At two times it is the same apart from the member that tells the time, which
only the account of the state of health has. If the request does not ask for a shutdown, it leaves
the host as it was. When a wait ends, the host is as it was at the beginning, however often it was
asked. -/
theorem shutdown_asked_by (hrun : Run { service := s } past h) :
    ((∃ h', Step h .waitEnds h') ↔ ∃ before seconds r answer later,
      past = before ++ .answered seconds r answer :: later ∧ r.AsksShutdown s ∧
        .waitEnds ∉ later) ∧
    (∀ seconds r answer, (∃ h', Step h (.answered seconds r answer) h') ↔
      answer = (s.after seconds).respond r) ∧
    (∀ seconds seconds' r,
      ((s.after seconds).respond r).SameApartFrom "uptime" ((s.after seconds').respond r) ∧
        ((Target.ofText r.target).path ≠ "/health" →
          (s.after seconds).respond r = (s.after seconds').respond r)) ∧
    (∀ seconds r answer h', Step h (.answered seconds r answer) h' → ¬r.AsksShutdown s →
      h' = h) ∧
    ∀ h', Step h .waitEnds h' → h' = { service := s } := by
  have hservice : h.service = s := hrun.service_eq
  refine ⟨?_, fun seconds r answer => ?_, fun seconds seconds' r => ?_,
    fun seconds r answer h' hstep hr => ?_, fun h' hstep => ?_⟩
  · rw [exists_step_waitEnds_iff, hrun.shutdownAsked_iff]
    rfl
  · rw [exists_step_answered_iff, hservice]
  · refine ⟨(s.after seconds').respond_after seconds r, fun hpath => ?_⟩
    exact Service.respond_after_of_path (s := s.after seconds') hpath
  · cases hstep
    exact handle_of_not_asksShutdown (hservice.symm ▸ hr)
  · cases hstep
    exact congrArg (fun s : Service => ({ service := s } : Host)) hservice

end Run

/-- A host that is asked twice to shut down, and in between by a request that may not ask. One wait
ends, and no second one. -/
theorem shutdown_asked_twice :
    let s : Service := { settings := { authToken := some "secret" }, detector := {} }
    let good : Request :=
      { method := .post, target := "/shutdown", headers := [("authorization", "Bearer secret")] }
    let bad : Request := { good with headers := [] }
    let past : List Event := [(1, good), (2, bad), (3, good)].map fun (seconds, r) =>
      .answered seconds r ((s.after seconds).respond r)
    ∃ h h' : Host, Run { service := s } past h ∧ Step h .waitEnds h' ∧
      Run { service := s } (past ++ [.waitEnds]) h' ∧ ¬∃ h'', Step h' .waitEnds h'' := by
  intro s good bad past
  have hpath : (Target.ofText "/shutdown").path = "/shutdown" := by decide +kernel
  have hgood : good.AsksShutdown s := ⟨rfl, hpath, admits_iff_forall.mp (by decide +kernel)⟩
  have hrun : Run { service := s } past _ :=
    ((Run.start.step (.answered _ 1 good)).step (.answered _ 2 bad)).step (.answered _ 3 good)
  obtain ⟨h', hstep⟩ := hrun.shutdown_asked_by.1.mpr
    ⟨past.take 2, 3, good, (s.after 3).respond good, [], rfl, hgood, List.not_mem_nil⟩
  have hrun' := hrun.step hstep
  refine ⟨_, h', hrun, hstep, hrun', fun hagain => ?_⟩
  exact not_isAskedSince_waitEnds (hrun'.shutdown_asked_by.1.mp hagain)

end Host

end Polyglot
