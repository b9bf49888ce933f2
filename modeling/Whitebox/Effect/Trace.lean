import Mathlib.Data.List.Induction

/-!
# Computations seen from outside

A computation that talks to the outside world is described by what can be seen
of it at the moments of its runs: the events so far, and how far it has got.
Nothing is said about the world, so that the runs are those in all worlds.

A protocol says which events are allowed after which others.  That every
moment of a computation obeys a protocol is shown along the statements it is
made of, each of which has a rule with a condition on the events before it and
conditions on the events after it.
-/

namespace Whitebox.Effect

/-- How far a computation has got. -/
inductive Status (ε α : Type) where
  | running
  | raised (error : ε)
  | returned (value : α)

theorem Status.returned_ne_running {ε α : Type} {value : α} :
    (Status.returned value : Status ε α) ≠ .running := by
  intro same
  cases same

/-- The events and the status at the moments of all runs. -/
def Traced (ι ε α : Type) : Type :=
  List ι → Status ε α → Prop

namespace Traced

variable {ι ε α β κ : Type}

/-- Return a value without an event. -/
inductive Ret (value : α) : Traced ι ε α where
  | returned : Ret value [] (.returned value)

/-- Raise an exception without an event. -/
inductive Raise (error : ε) : Traced ι ε α where
  | raised : Raise error [] (.raised error)

/-- Run `next` on the value of `first`, unless `first` raises. -/
inductive Seq (first : Traced ι ε α) (next : α → Traced ι ε β) :
    Traced ι ε β where
  | running {log : List ι} (inside : first log .running) :
      Seq first next log .running
  | raised {log : List ι} {error : ε} (failed : first log (.raised error)) :
      Seq first next log (.raised error)
  | onward {log later : List ι} {value : α} {status : Status ε β}
      (finished : first log (.returned value))
      (goesOn : next value later status) :
      Seq first next (log ++ later) status

/-- `try: body finally: cleanup`. -/
inductive TryFinally (body : Traced ι ε α) (cleanup : Traced ι ε Unit) :
    Traced ι ε α where
  | running {log : List ι} (inside : body log .running) :
      TryFinally body cleanup log .running
  | cleaning {log later : List ι} {status : Status ε α}
      (left : body log status) (ended : status ≠ .running)
      (inside : cleanup later .running) :
      TryFinally body cleanup (log ++ later) .running
  | raised {log later : List ι} {status : Status ε α} {error : ε}
      (left : body log status) (ended : status ≠ .running)
      (failed : cleanup later (.raised error)) :
      TryFinally body cleanup (log ++ later) (.raised error)
  | cleaned {log later : List ι} {status : Status ε α}
      (left : body log status) (ended : status ≠ .running)
      (finished : cleanup later (.returned ())) :
      TryFinally body cleanup (log ++ later) status

/-- A request that may take effect even if it raises. -/
inductive Request (event : ι) : Traced ι ε α where
  | before : Request event [] .running
  | sent (status : Status ε α) : Request event [event] status

/-- A query, whose answer is the event. -/
inductive Query (event : α → ι) : Traced ι ε α where
  | before : Query event [] .running
  | failed (error : ε) : Query event [] (.raised error)
  | answered (value : α) : Query event [event value] (.returned value)

instance : Monad (Traced ι ε) where
  pure := Ret
  bind := Seq

/-- An assertion. -/
def check (condition : Bool) (error : ε) : Traced ι ε Unit :=
  if condition then pure () else Raise error

/-- A computation without events. -/
def lift : Except ε α → Traced ι ε α
  | .ok value => pure value
  | .error error => Raise error

section Returned

variable {log : List ι}

end Returned

/-- All events of the computation are calm. -/
def Emits (calm : ι → Prop) (computation : Traced ι ε α) : Prop :=
  ∀ log status, computation log status → ∀ event ∈ log, calm event

end Traced

/-- Every event is allowed after the events before it. -/
def Obeys {ι : Type} (allowed : List ι → ι → Prop) (log : List ι) : Prop :=
  ∀ before event after, log = before ++ event :: after → allowed before event

section Obeys

variable {ι : Type} {allowed : List ι → ι → Prop}

theorem obeys_nil : Obeys allowed [] := by
  intro before event after shape
  simp at shape

theorem obeys_append_singleton_iff {log : List ι} {event : ι} :
    Obeys allowed (log ++ [event]) ↔ Obeys allowed log ∧ allowed log event := by
  constructor
  · intro obeys
    refine ⟨?_, obeys log event [] rfl⟩
    intro before earlier after shape
    apply obeys before earlier (after ++ [event])
    rw [shape, List.append_assoc, List.cons_append]
  · intro both before earlier after shape
    obtain ⟨obeys, last⟩ := both
    rcases List.eq_nil_or_concat after with rfl | ⟨middle, final, rfl⟩
    · obtain ⟨rfl, same⟩ := List.append_inj' shape rfl
      cases same
      exact last
    · rw [List.concat_eq_append, ← List.cons_append,
        ← List.append_assoc] at shape
      obtain ⟨rfl, _⟩ := List.append_inj' shape rfl
      exact obeys before earlier middle rfl

theorem obeys_append_iff {past log : List ι} :
    Obeys allowed (past ++ log) ↔ Obeys allowed past ∧
      Obeys (fun before => allowed (past ++ before)) log := by
  induction log using List.reverseRecOn with
  | nil =>
      rw [List.append_nil]
      exact (and_iff_left obeys_nil).symm
  | append_singleton log event induction =>
      rw [← List.append_assoc, obeys_append_singleton_iff, induction,
        obeys_append_singleton_iff, and_assoc]

/-- Events that are always allowed do no harm. -/
theorem Obeys.append_free {past log : List ι} (obeys : Obeys allowed past)
    (free : ∀ event ∈ log, ∀ before, allowed before event) :
    Obeys allowed (past ++ log) := by
  refine obeys_append_iff.mpr ⟨obeys, ?_⟩
  intro before event after shape
  apply free event
  rw [shape]
  exact List.mem_append_right before List.mem_cons_self

end Obeys

namespace Traced

variable {ι ε α β κ : Type} {allowed : List ι → ι → Prop}

/-- After events with `pre` every moment of the computation obeys the protocol;
it returns after events with `post` and raises after events with `fails`. -/
def Follows (allowed : List ι → ι → Prop) (pre : List ι → Prop)
    (computation : Traced ι ε α) (post : α → List ι → Prop)
    (fails : List ι → Prop) : Prop :=
  ∀ past log status, Obeys allowed past → pre past → computation log status →
    Obeys allowed (past ++ log) ∧
      (∀ value, status = .returned value → post value (past ++ log)) ∧
      (∀ error, status = .raised error → fails (past ++ log))

namespace Follows

variable {pre pre' : List ι → Prop} {computation : Traced ι ε α}
  {post post' : α → List ι → Prop} {fails fails' : List ι → Prop}

theorem consequence (follows : Follows allowed pre computation post fails)
    (stronger : ∀ log, pre' log → pre log)
    (weaker : ∀ value log, post value log → post' value log)
    (weakerFails : ∀ log, fails log → fails' log) :
    Follows allowed pre' computation post' fails' := by
  intro past log status obeys holds moment
  obtain ⟨obeysAfter, returned, raised⟩ :=
    follows past log status obeys (stronger past holds) moment
  refine ⟨obeysAfter, ?_, ?_⟩
  · intro value same
    exact weaker value _ (returned value same)
  · intro error same
    exact weakerFails _ (raised error same)

theorem ret {value : α} (holds : ∀ log, pre log → post value log) :
    Follows allowed pre (pure value : Traced ι ε α) post fails := by
  intro past log status obeys start moment
  cases moment
  rw [List.append_nil]
  refine ⟨obeys, ?_, ?_⟩
  · intro other same
    cases same
    exact holds past start
  · intro error same
    cases same

theorem raise {error : ε} (holds : ∀ log, pre log → fails log) :
    Follows allowed pre (Raise error : Traced ι ε α) post fails := by
  intro past log status obeys start moment
  cases moment
  rw [List.append_nil]
  refine ⟨obeys, ?_, ?_⟩
  · intro value same
    cases same
  · intro other _
    exact holds past start

theorem seq {next : α → Traced ι ε β} {final : β → List ι → Prop}
    (middle : α → List ι → Prop)
    (first : Follows allowed pre computation middle fails)
    (second : ∀ value, Follows allowed (middle value) (next value) final
      fails) :
    Follows allowed pre (computation >>= next) final fails := by
  intro past log status obeys start moment
  cases moment with
  | running inside =>
      obtain ⟨obeysAfter, _, _⟩ := first past log _ obeys start inside
      exact ⟨obeysAfter, nofun, nofun⟩
  | raised failed =>
      obtain ⟨obeysAfter, _, raised⟩ := first past log _ obeys start failed
      exact ⟨obeysAfter, nofun, fun _ _ => raised _ rfl⟩
  | @onward log later value status finished goesOn =>
      obtain ⟨obeysAfter, returned, _⟩ := first past log _ obeys start finished
      rw [← List.append_assoc]
      exact second value _ later status obeysAfter (returned value rfl) goesOn

/-- The clean-up has to cope with both ways of leaving the body. -/
theorem tryFinally {cleanup : Traced ι ε Unit}
    {kept : α → List ι → Prop} {lost : List ι → Prop}
    (body : Follows allowed pre computation post fails)
    (onReturn : ∀ value, Follows allowed (post value) cleanup
      (fun _ => kept value) lost)
    (onRaise : Follows allowed fails cleanup (fun _ => lost) lost) :
    Follows allowed pre (TryFinally computation cleanup) kept lost := by
  -- Every way of leaving the body leads into the same clean-up.
  have left : ∀ past log later status cleaned, Obeys allowed past → pre past →
      computation log status → status ≠ .running → cleanup later cleaned →
      Obeys allowed (past ++ (log ++ later)) ∧
        (∀ error, cleaned = .raised error → lost (past ++ (log ++ later))) ∧
        (cleaned = .returned () →
          (∀ value, status = .returned value →
            kept value (past ++ (log ++ later))) ∧
          ∀ error, status = .raised error → lost (past ++ (log ++ later))) := by
    intro past log later status cleaned obeys start leaves ended after
    obtain ⟨obeysAfter, returned, raised⟩ :=
      body past log status obeys start leaves
    rw [← List.append_assoc]
    cases status with
    | running => exact absurd rfl ended
    | returned value =>
        obtain ⟨obeysEnd, keeps, loses⟩ := onReturn value _ later cleaned
          obeysAfter (returned value rfl) after
        refine ⟨obeysEnd, loses, ?_⟩
        intro done
        refine ⟨?_, nofun⟩
        intro other same
        cases same
        exact keeps () done
    | raised error =>
        obtain ⟨obeysEnd, keeps, loses⟩ := onRaise _ later cleaned
          obeysAfter (raised error rfl) after
        refine ⟨obeysEnd, loses, ?_⟩
        intro done
        exact ⟨nofun, fun _ _ => keeps () done⟩
  intro past log status obeys start moment
  cases moment with
  | running inside =>
      obtain ⟨obeysAfter, _, _⟩ := body past log _ obeys start inside
      exact ⟨obeysAfter, nofun, nofun⟩
  | cleaning leaves ended inside =>
      obtain ⟨obeysEnd, _, _⟩ := left past _ _ _ _ obeys start leaves ended
        inside
      exact ⟨obeysEnd, nofun, nofun⟩
  | raised leaves ended failed =>
      obtain ⟨obeysEnd, loses, _⟩ := left past _ _ _ _ obeys start leaves ended
        failed
      exact ⟨obeysEnd, nofun, fun _ _ => loses _ rfl⟩
  | cleaned leaves ended finished =>
      obtain ⟨obeysEnd, _, done⟩ := left past _ _ _ _ obeys start leaves ended
        finished
      exact ⟨obeysEnd, (done rfl).1, (done rfl).2⟩

/-- What a request leaves behind, whether or not it raises. -/
theorem request {event : ι}
    (permitted : ∀ log, pre log → allowed log event)
    (holds : ∀ value log, pre log → post value (log ++ [event]))
    (holdsFails : ∀ log, pre log → fails (log ++ [event])) :
    Follows allowed pre (Request event : Traced ι ε α) post fails := by
  intro past log status obeys start moment
  cases moment with
  | before =>
      rw [List.append_nil]
      exact ⟨obeys, nofun, nofun⟩
  | sent status =>
      refine ⟨obeys_append_singleton_iff.mpr ⟨obeys, permitted past start⟩,
        ?_, ?_⟩
      · intro value _
        exact holds value past start
      · intro error _
        exact holdsFails past start

theorem query {event : α → ι}
    (permitted : ∀ value log, pre log → allowed log (event value))
    (holds : ∀ value log, pre log → post value (log ++ [event value]))
    (holdsFails : ∀ log, pre log → fails log) :
    Follows allowed pre (Query event : Traced ι ε α) post fails := by
  intro past log status obeys start moment
  cases moment with
  | before =>
      rw [List.append_nil]
      exact ⟨obeys, nofun, nofun⟩
  | failed error =>
      rw [List.append_nil]
      exact ⟨obeys, nofun, fun _ _ => holdsFails past start⟩
  | answered value =>
      refine ⟨obeys_append_singleton_iff.mpr
        ⟨obeys, permitted value past start⟩, ?_, nofun⟩
      intro other same
      cases same
      exact holds value past start

theorem check {condition : Bool} {error : ε} {post : Unit → List ι → Prop}
    (holds : ∀ log, pre log → condition = true → post () log)
    (holdsFails : ∀ log, pre log → condition = false → fails log) :
    Follows allowed pre (Traced.check condition error) post fails := by
  unfold Traced.check
  cases condition with
  | true => exact ret fun log start => holds log start rfl
  | false => exact raise fun log start => holdsFails log start rfl

/-- Each turn of a loop carries over from the items before it to the items up
to it. -/
theorem forM {turn : κ → Traced ι ε PUnit} {items : List κ}
    {kept : List κ → List ι → Prop}
    (turns : ∀ before item after, items = before ++ item :: after →
      Follows allowed (kept before) (turn item)
        (fun _ => kept (before ++ [item])) fails) :
    Follows allowed (kept []) (items.forM turn) (fun _ => kept items)
      fails := by
  have onward : ∀ before after, items = before ++ after →
      Follows allowed (kept before) (after.forM turn) (fun _ => kept items)
        fails := by
    intro before after shape
    induction after generalizing before with
    | nil =>
        rw [List.append_nil] at shape
        rw [shape]
        exact ret fun _ start => start
    | cons item after induction =>
        rw [List.forM_eq_forM, List.forM_cons, ← List.forM_eq_forM]
        apply seq _ (turns before item after shape)
        intro _
        apply induction
        rw [shape, List.append_assoc, List.singleton_append]
  exact onward [] items rfl

/-- A computation all of whose events are always allowed. -/
theorem free
    (events : ∀ log status, computation log status →
      ∀ event ∈ log, ∀ before, allowed before event)
    (returns : ∀ past log value, pre past →
      computation log (.returned value) → post value (past ++ log))
    (raises : ∀ past log error, pre past →
      computation log (.raised error) → fails (past ++ log)) :
    Follows allowed pre computation post fails := by
  intro past log status obeys start moment
  refine ⟨obeys.append_free (events log status moment), ?_, ?_⟩
  · intro value same
    subst same
    exact returns past log value start moment
  · intro error same
    subst same
    exact raises past log error start moment

/-- What holds of the moments of a computation from its start on. -/
theorem moment {log : List ι} {status : Status ε α}
    (follows : Follows allowed (fun log => log = []) computation post fails)
    (moment : computation log status) :
    Obeys allowed log ∧
      (∀ value, status = .returned value → post value log) ∧
      (∀ error, status = .raised error → fails log) :=
  follows [] log status obeys_nil rfl moment

end Follows

namespace Emits

variable {calm : ι → Prop}

theorem ret {value : α} : Emits calm (pure value : Traced ι ε α) := by
  intro log status moment
  cases moment
  exact List.forall_mem_nil calm

theorem lift {outcome : Except ε α} :
    Emits calm (Traced.lift outcome : Traced ι ε α) := by
  cases outcome with
  | ok value => exact ret
  | error error =>
      intro log status moment
      cases moment
      exact List.forall_mem_nil calm

theorem query {event : α → ι} (isCalm : ∀ value, calm (event value)) :
    Emits calm (Query event : Traced ι ε α) := by
  intro log status moment
  cases moment with
  | before => exact List.forall_mem_nil calm
  | failed error => exact List.forall_mem_nil calm
  | answered value => exact List.forall_mem_singleton.mpr (isCalm value)

theorem seq {first : Traced ι ε α} {next : α → Traced ι ε β}
    (emits : Emits calm first) (emitsNext : ∀ value, Emits calm (next value)) :
    Emits calm (first >>= next) := by
  intro log status moment
  cases moment with
  | running inside => exact emits log _ inside
  | raised failed => exact emits log _ failed
  | @onward log later value status finished goesOn =>
      intro event member
      rcases List.mem_append.mp member with early | late
      · exact emits log _ finished event early
      · exact emitsNext value later status goesOn event late

end Emits

end Traced

end Whitebox.Effect
