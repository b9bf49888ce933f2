import Whitebox.Effect.Fallible
import Whitebox.Effect.Loop

/-!
# Computations with loops in them

A computation with loops takes a number of turns that each of its loops may
take at most.  It has no result if they are not enough, and more turns do not
change a result.  So what it ends with does not depend on the number.
-/

namespace Whitebox.Effect

open Whitebox.Effect.Fallible

theorem Turn.run_succ {σ α : Type} {turn : σ → Turn σ α} {fuel : Nat}
    {state : σ} {result : α} (ran : run turn fuel state = some result) :
    run turn (fuel + 1) state = some result := by
  induction fuel generalizing state with
  | zero => cases ran
  | succ fuel induction =>
      rw [run] at ran ⊢
      cases step : turn state with
      | again next =>
          rw [step] at ran
          exact induction ran
      | done final =>
          rw [step] at ran
          exact ran

structure Bounded (ε α : Type) where
  run : Nat → Option (Except ε α)
  stable : ∀ fuel result, run fuel = some result →
    run (fuel + 1) = some result

namespace Bounded

variable {ε δ α β σ : Type}

/-- Go on with the value of a computation that has returned. -/
def onward (first : Option (Except ε α)) (next : α → Option (Except ε β)) :
    Option (Except ε β) :=
  match first with
  | none => none
  | some (.error error) => some (.error error)
  | some (.ok value) => next value

theorem onward_eq_some {first : Option (Except ε α)}
    {next : α → Option (Except ε β)} {result : Except ε β}
    (same : onward first next = some result) :
    (∃ error, first = some (.error error) ∧ result = .error error) ∨
      ∃ value, first = some (.ok value) ∧ next value = some result := by
  cases first with
  | none => cases same
  | some outcome =>
      cases outcome with
      | error error =>
          cases same
          exact .inl ⟨error, rfl, rfl⟩
      | ok value => exact .inr ⟨value, rfl, same⟩

/-- A computation without loops. -/
def lift (outcome : Except ε α) : Bounded ε α where
  run _ := some outcome
  stable _ _ ran := ran

def loop (turn : σ → Turn σ (Except ε α)) (state : σ) : Bounded ε α where
  run fuel := Turn.run turn fuel state
  stable _ _ ran := Turn.run_succ ran

def mapError (change : ε → δ) (computation : Bounded ε α) : Bounded δ α where
  run fuel := (computation.run fuel).map (Except.mapError change)
  stable := by
    intro fuel result ran
    obtain ⟨outcome, before, same⟩ := Option.map_eq_some_iff.mp ran
    rw [computation.stable fuel outcome before]
    exact congrArg some same

def seq (first : Bounded ε α) (next : α → Bounded ε β) : Bounded ε β where
  run fuel := onward (first.run fuel) fun value => (next value).run fuel
  stable := by
    intro fuel result ran
    rcases onward_eq_some ran with ⟨error, failed, same⟩ | ⟨value, returned,
      later⟩
    · rw [first.stable fuel _ failed, same]
      rfl
    · rw [first.stable fuel _ returned]
      exact (next value).stable fuel result later

instance : Monad (Bounded ε) where
  pure value := lift (.ok value)
  bind := seq

/-- The computation ends with the outcome. -/
def Ends (computation : Bounded ε α) (outcome : Except ε α) : Prop :=
  ∃ fuel, computation.run fuel = some outcome

theorem run_of_le (computation : Bounded ε α) {fuel more : Nat}
    {result : Except ε α} (ran : computation.run fuel = some result)
    (atMost : fuel ≤ more) : computation.run more = some result := by
  induction atMost with
  | refl => exact ran
  | step _ induction => exact computation.stable _ _ induction

section Ends

variable {computation : Bounded ε α} {next : α → Bounded ε β}

theorem lift_ends_iff {outcome result : Except ε α} :
    (lift outcome).Ends result ↔ outcome = result := by
  constructor
  · intro ends
    obtain ⟨_, ran⟩ := ends
    exact Option.some_inj.mp ran
  · intro same
    exact ⟨0, congrArg some same⟩

theorem pure_ends_iff {value : α} {result : Except ε α} :
    (pure value : Bounded ε α).Ends result ↔ .ok value = result :=
  lift_ends_iff

theorem Ends.mapError {outcome : Except ε α} (ends : computation.Ends outcome)
    (change : ε → δ) :
    (computation.mapError change).Ends (outcome.mapError change) := by
  obtain ⟨fuel, ran⟩ := ends
  refine ⟨fuel, ?_⟩
  change (computation.run fuel).map _ = _
  rw [ran]
  rfl

theorem mapError_ends_ok_iff {change : ε → δ} {value : α} :
    (computation.mapError change).Ends (.ok value) ↔
      computation.Ends (.ok value) := by
  constructor
  · intro ends
    obtain ⟨fuel, ran⟩ := ends
    obtain ⟨outcome, before, same⟩ := Option.map_eq_some_iff.mp ran
    refine ⟨fuel, ?_⟩
    rw [before, mapError_eq_ok_iff.mp same]
  · intro ends
    exact ends.mapError change

/-- The number of turns that is enough for both parts is enough for the
whole. -/
theorem seq_ends_of_ok {value : α} {result : Except ε β}
    (first : computation.Ends (.ok value)) (second : (next value).Ends result) :
    (computation >>= next).Ends result := by
  obtain ⟨fuel, ran⟩ := first
  obtain ⟨fuelToo, ranToo⟩ := second
  refine ⟨max fuel fuelToo, ?_⟩
  change onward (computation.run _) _ = _
  rw [computation.run_of_le ran (Nat.le_max_left fuel fuelToo)]
  exact (next value).run_of_le ranToo (Nat.le_max_right fuel fuelToo)

theorem seq_ends_ok_iff {result : β} :
    (computation >>= next).Ends (.ok result) ↔
      ∃ value, computation.Ends (.ok value) ∧
        (next value).Ends (.ok result) := by
  constructor
  · intro ends
    obtain ⟨fuel, ran⟩ := ends
    rcases onward_eq_some ran with ⟨_, _, same⟩ | ⟨value, returned, later⟩
    · cases same
    · exact ⟨value, ⟨fuel, returned⟩, ⟨fuel, later⟩⟩
  · intro parts
    obtain ⟨value, first, second⟩ := parts
    exact seq_ends_of_ok first second

end Ends

/-- The computation ends in some way. -/
def Terminates (computation : Bounded ε α) : Prop :=
  ∃ outcome, computation.Ends outcome

section Terminates

variable {computation : Bounded ε α}

theorem lift_terminates (outcome : Except ε α) : (lift outcome).Terminates :=
  ⟨outcome, lift_ends_iff.mpr rfl⟩

theorem mapError_terminates {change : ε → δ}
    (terminates : computation.Terminates) :
    (computation.mapError change).Terminates := by
  obtain ⟨outcome, ends⟩ := terminates
  exact ⟨outcome.mapError change, ends.mapError change⟩

theorem seq_terminates {next : α → Bounded ε β}
    (first : computation.Terminates)
    (second : ∀ value, (next value).Terminates) :
    (computation >>= next).Terminates := by
  obtain ⟨outcome, ends⟩ := first
  cases outcome with
  | ok value =>
      obtain ⟨result, later⟩ := second value
      exact ⟨result, seq_ends_of_ok ends later⟩
  | error error =>
      obtain ⟨fuel, ran⟩ := ends
      refine ⟨.error error, fuel, ?_⟩
      change onward (computation.run fuel) _ = _
      rw [ran]
      rfl

/-- A computation that ends either returns or raises. -/
theorem Terminates.raises (terminates : computation.Terminates)
    (missing : ¬ ∃ value, computation.Ends (.ok value)) :
    ∃ error, computation.Ends (.error error) := by
  obtain ⟨outcome, ends⟩ := terminates
  cases outcome with
  | ok value => exact absurd ⟨value, ends⟩ missing
  | error error => exact ⟨error, ends⟩

end Terminates

end Bounded

end Whitebox.Effect
