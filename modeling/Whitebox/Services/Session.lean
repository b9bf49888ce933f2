import Whitebox.Effect.Run
import Whitebox.Services.Host

/-!
# Sessions with faults

A `Plan` decides which requests of a session fail.  A failing request may have
taken effect before the failure was noticed, as with a command whose answer is
lost.  The two main results say what a sequence of requests leaves behind when
all of them succeed, and when one of them fails.
-/

namespace Whitebox.Services

open Whitebox.Effect Whitebox.Python

/-- A failing request: the exception its caller sees, and whether the request
took effect all the same. -/
structure Fault where
  error : Exn
  effective : Bool
deriving DecidableEq

/-- How many requests of a sequence take effect when the one at this position
is the first to fail. -/
def Fault.reach (fault : Fault) (position : Nat) : Nat :=
  if fault.effective then position + 1 else position

theorem Fault.le_reach (fault : Fault) (position : Nat) :
    position ≤ fault.reach position := by
  unfold Fault.reach
  split <;> omega

theorem Fault.reach_le_succ (fault : Fault) (position : Nat) :
    fault.reach position ≤ position + 1 := by
  unfold Fault.reach
  split <;> omega

theorem Fault.reach_add (fault : Fault) (base position : Nat) :
    fault.reach (base + position) = base + fault.reach position := by
  unfold Fault.reach
  split <;> omega

theorem Fault.reach_eq_zero_iff {fault : Fault} {position : Nat} :
    fault.reach position = 0 ↔ position = 0 ∧ fault.effective = false := by
  cases effective : fault.effective <;> simp [Fault.reach, effective]

/-- Which requests of a session fail, by their position in the session. -/
abbrev Plan := Nat → Option Fault

namespace Plan

/-- No request fails. -/
def quiet : Plan := fun _ => none

/-- Exactly one request fails. -/
def single (position : Nat) (fault : Fault) : Plan :=
  fun index => if index = position then some fault else none

/-- At most one request fails, at a position counted from `start`. -/
def failing (start : Nat) : Option (Nat × Fault) → Plan
  | none => quiet
  | some (position, fault) => single (start + position) fault

/-- No request fails in a window of positions. -/
def QuietOn (plan : Plan) (start width : Nat) : Prop :=
  ∀ index, start ≤ index → index < start + width → plan index = none

theorem quiet_quietOn (start width : Nat) : quiet.QuietOn start width :=
  fun _ _ _ => rfl

theorem single_quietOn {position start width : Nat} (fault : Fault)
    (outside : position < start ∨ start + width ≤ position) :
    (single position fault).QuietOn start width := by
  intro index above below
  have different : index ≠ position := by omega
  simp [single, different]

@[simp] theorem single_self (position : Nat) (fault : Fault) :
    single position fault position = some fault := by
  simp [single]

theorem QuietOn.head {plan : Plan} {start width : Nat}
    (calm : plan.QuietOn start (width + 1)) : plan start = none :=
  calm start (Nat.le_refl start) (by omega)

/-- A calm window splits into calm windows. -/
theorem QuietOn.window {plan : Plan} {start width inner length : Nat}
    (calm : plan.QuietOn start width)
    (above : start ≤ inner) (below : inner + length ≤ start + width) :
    plan.QuietOn inner length := by
  intro index lower upper
  exact calm index (by omega) (by omega)

end Plan

/-- A host together with the requests made of it so far. -/
structure Session where
  host : Host
  log : List Request

/-- Make one request.  The plan decides whether it fails, and the host answers
it otherwise. -/
def perform (plan : Plan) (request : Request) : Run Session Exn Str :=
  fun session =>
    match plan session.log.length with
    | none =>
        ((respond session.host request).1,
          ⟨(respond session.host request).2, session.log ++ [request]⟩)
    | some fault =>
        (.error fault.error,
          ⟨if fault.effective then (respond session.host request).2
            else session.host, session.log ++ [request]⟩)

/-- Make several requests in turn, up to the first one which fails. -/
def performAll (plan : Plan) : List Request → Run Session Exn PUnit
  | [] => pure ⟨⟩
  | request :: requests => do
      let _ ← perform plan request
      performAll plan requests

theorem perform_calm {plan : Plan} {session : Session}
    (calm : plan session.log.length = none) (request : Request) :
    perform plan request session =
      ((respond session.host request).1,
        ⟨(respond session.host request).2, session.log ++ [request]⟩) := by
  simp [perform, calm]

theorem perform_fault {plan : Plan} {session : Session} {fault : Fault}
    (failing : plan session.log.length = some fault) (request : Request) :
    perform plan request session =
      (.error fault.error,
        ⟨if fault.effective then (respond session.host request).2
          else session.host, session.log ++ [request]⟩) := by
  simp [perform, failing]

/-- The host after it has answered some requests. -/
def Host.after (host : Host) (requests : List Request) : Host :=
  requests.foldl (fun reached request => (respond reached request).2) host

/-- A healthy host answers every one of these requests without an error. -/
def Host.Accepts (host : Host) : List Request → Prop
  | [] => True
  | request :: requests =>
      (respond host request).1.isOk = true ∧
        (respond host request).2.Accepts requests

@[simp] theorem Host.after_nil (host : Host) : host.after [] = host :=
  rfl

@[simp] theorem Host.after_cons (host : Host) (request : Request)
    (requests : List Request) :
    host.after (request :: requests) =
      (respond host request).2.after requests :=
  rfl

theorem Host.after_append (host : Host) (first second : List Request) :
    host.after (first ++ second) = (host.after first).after second :=
  List.foldl_append

theorem Host.accepts_append (host : Host) (first second : List Request) :
    host.Accepts (first ++ second) ↔
      host.Accepts first ∧ (host.after first).Accepts second := by
  induction first generalizing host with
  | nil => simp [Host.Accepts]
  | cons request first induction =>
      simp [Host.Accepts, induction, and_assoc]

theorem perform_accepted {plan : Plan} {session : Session}
    (request : Request)
    (calm : plan session.log.length = none)
    (accepted : (respond session.host request).1.isOk = true) :
    ∃ output, perform plan request session =
      (.ok output,
        ⟨(respond session.host request).2, session.log ++ [request]⟩) := by
  cases answer : (respond session.host request).1 with
  | ok output => exact ⟨output, by rw [perform_calm calm, answer]⟩
  | error error => simp [answer, Except.isOk, Except.toBool] at accepted

theorem performAll_append (plan : Plan) (first second : List Request) :
    performAll plan (first ++ second) =
      (do
        performAll plan first
        performAll plan second) := by
  induction first with
  | nil => simp [performAll]
  | cons request first induction =>
      simp [performAll, induction]

/-- Requests which nothing disturbs all take effect. -/
theorem performAll_calm {plan : Plan} (requests : List Request)
    (session : Session)
    (calm : plan.QuietOn session.log.length requests.length)
    (accepted : session.host.Accepts requests) :
    performAll plan requests session =
      (.ok ⟨⟩, ⟨session.host.after requests, session.log ++ requests⟩) := by
  induction requests generalizing session with
  | nil => simp [performAll]
  | cons request requests induction =>
      obtain ⟨headAccepted, tailAccepted⟩ := accepted
      obtain ⟨output, performed⟩ :=
        perform_accepted request calm.head headAccepted
      rw [performAll, Run.bind_ok performed, induction _ _ tailAccepted]
      · simp
      · apply calm.window
        · simp
        · simp only [List.length_append, List.length_cons, List.length_nil]
          omega

/-- The first failing request ends the sequence: the requests before it took
effect, and it took effect itself only when the fault says so. -/
theorem performAll_fault {plan : Plan} {fault : Fault}
    (before : List Request) (request : Request) (later : List Request)
    (session : Session)
    (calm : plan.QuietOn session.log.length before.length)
    (accepted : session.host.Accepts before)
    (failing : plan (session.log.length + before.length) = some fault) :
    performAll plan (before ++ request :: later) session =
      (.error fault.error,
        ⟨if fault.effective then
            (respond (session.host.after before) request).2
          else session.host.after before,
          session.log ++ before ++ [request]⟩) := by
  induction before generalizing session with
  | nil =>
      have failed := perform_fault failing request
      rw [List.nil_append, performAll, Run.bind_error failed]
      simp
  | cons head before induction =>
      obtain ⟨headAccepted, tailAccepted⟩ := accepted
      obtain ⟨output, performed⟩ :=
        perform_accepted head calm.head headAccepted
      rw [List.cons_append, performAll, Run.bind_ok performed,
        induction _ _ tailAccepted]
      · simp
      · simpa [Nat.add_assoc, Nat.add_comm 1] using failing
      · apply calm.window
        · simp
        · simp only [List.length_append, List.length_cons, List.length_nil]
          omega

/-- A single fault cuts a sequence of requests off at its position. -/
theorem performAll_single (fault : Fault) (requests : List Request)
    (session : Session) {position : Nat}
    (inside : position < requests.length)
    (accepted : session.host.Accepts (requests.take position)) :
    performAll (Plan.single (session.log.length + position) fault) requests
        session =
      (.error fault.error,
        ⟨session.host.after (requests.take (fault.reach position)),
          session.log ++ requests.take (position + 1)⟩) := by
  have split : requests =
      requests.take position ++
        requests[position] :: requests.drop (position + 1) := by
    rw [← List.drop_eq_getElem_cons inside, List.take_append_drop]
  have width : (requests.take position).length = position := by
    rw [List.length_take]
    omega
  have calm : (Plan.single (session.log.length + position) fault).QuietOn
      session.log.length (requests.take position).length :=
    Plan.single_quietOn fault (.inr (by omega))
  have failing : Plan.single (session.log.length + position) fault
      (session.log.length + (requests.take position).length) = some fault := by
    rw [width]
    exact Plan.single_self _ fault
  have cut := performAll_fault (requests.take position) requests[position]
    (requests.drop (position + 1)) session calm accepted failing
  rw [← split] at cut
  rw [cut, ← List.take_append_getElem inside, List.append_assoc]
  cases effective : fault.effective with
  | false => simp [Fault.reach, effective]
  | true =>
      simp only [Fault.reach, effective, if_true]
      rw [← List.take_append_getElem inside, Host.after_append]
      rfl

theorem Host.accepts_take {host : Host} {requests : List Request}
    (accepted : host.Accepts requests) (count : Nat) :
    host.Accepts (requests.take count) := by
  rw [← List.take_append_drop count requests, Host.accepts_append] at accepted
  exact accepted.1

theorem Host.after_file {requests : List Request} (host : Host)
    (reads : ∀ request ∈ requests, request.Writes = false) :
    (host.after requests).file = host.file := by
  induction requests generalizing host with
  | nil => rfl
  | cons request requests induction =>
      rw [Host.after_cons,
        induction _ (fun other member => reads other (by simp [member])),
        respond_file (reads request (by simp))]

theorem perform_file (plan : Plan) {request : Request}
    (reads : request.Writes = false) (session : Session) :
    (perform plan request session).2.host.file = session.host.file := by
  unfold perform
  split
  · exact respond_file reads session.host
  · split
    · exact respond_file reads session.host
    · rfl

/-- Requests which leave the config file alone do so under every plan. -/
theorem performAll_file (plan : Plan) (requests : List Request)
    (session : Session)
    (reads : ∀ request ∈ requests, request.Writes = false) :
    (performAll plan requests session).2.host.file = session.host.file := by
  induction requests generalizing session with
  | nil => rfl
  | cons request requests induction =>
      have performedFile := perform_file plan (reads request (by simp)) session
      rcases performed : perform plan request session with ⟨outcome, reached⟩
      rw [performed] at performedFile
      cases outcome with
      | ok output =>
          rw [performAll, Run.bind_ok performed, induction reached
            (fun other member => reads other (by simp [member]))]
          exact performedFile
      | error error =>
          rw [performAll, Run.bind_error performed]
          exact performedFile

end Whitebox.Services
