import Mathlib.Data.Nat.Find
import Mathlib.Tactic.Common

/-!
# Loops

A turn of a loop either goes on with another state or ends with a result.  The
run of a loop takes a number of turns at most, and a loop ends with a result
if some number of turns is enough.

Where the states that a loop can go through are known in advance, it ends at
the first of them whose turn ends.  A loop that polls until a deadline is of
this kind.
-/

namespace Whitebox.Effect

universe u v

/-- What one turn of a loop comes to. -/
inductive Turn (σ : Type u) (α : Type v) where
  | again (state : σ)
  | done (result : α)

namespace Turn

variable {σ : Type u} {α : Type v}

/-- Take up to the given number of turns. -/
def run (turn : σ → Turn σ α) : Nat → σ → Option α
  | 0, _ => none
  | fuel + 1, state =>
      match turn state with
      | .again next => run turn fuel next
      | .done result => some result

/-- The loop ends with the result. -/
def Ends (turn : σ → Turn σ α) (state : σ) (result : α) : Prop :=
  ∃ fuel, run turn fuel state = some result

/-- The loop gets from one state to another. -/
inductive Reaches (turn : σ → Turn σ α) (state : σ) : σ → Prop where
  | start : Reaches turn state state
  | step {reached next : σ} (before : Reaches turn state reached)
      (continued : turn reached = .again next) : Reaches turn state next

variable {turn : σ → Turn σ α} {state next : σ} {result other : α}

theorem ends_of_done (ended : turn state = .done result) :
    Ends turn state other ↔ other = result := by
  constructor
  · intro ⟨fuel, ran⟩
    cases fuel with
    | zero => cases ran
    | succ fuel =>
        simp only [run, ended] at ran
        cases ran
        rfl
  · rintro rfl
    exact ⟨1, by simp only [run, ended]⟩

theorem ends_of_again (continued : turn state = .again next) :
    Ends turn state result ↔ Ends turn next result := by
  constructor
  · intro ⟨fuel, ran⟩
    cases fuel with
    | zero => cases ran
    | succ fuel =>
        simp only [run, continued] at ran
        exact ⟨fuel, ran⟩
  · intro ⟨fuel, ran⟩
    exact ⟨fuel + 1, by simpa only [run, continued] using ran⟩

/-- A loop has one result at most. -/
theorem Ends.unique (first : Ends turn state result)
    (second : Ends turn state other) : other = result := by
  obtain ⟨fuel, ran⟩ := first
  induction fuel generalizing state with
  | zero => cases ran
  | succ fuel induction =>
      cases step : turn state with
      | done final =>
          rw [ends_of_done step] at second
          simp only [run, step] at ran
          cases ran
          exact second
      | again next =>
          rw [ends_of_again step] at second
          simp only [run, step] at ran
          exact induction second ran

section Indexed

variable {states : Nat → σ}

theorem exists_of_run
    (follows : ∀ n next, turn (states n) = .again next →
      next = states (n + 1)) {fuel start : Nat}
    (ran : run turn fuel (states start) = some result) :
    ∃ n, start ≤ n ∧ turn (states n) = .done result ∧
      ∀ m, start ≤ m → m < n →
        turn (states m) = .again (states (m + 1)) := by
  induction fuel generalizing start with
  | zero => cases ran
  | succ fuel induction =>
      cases step : turn (states start) with
      | done final =>
          simp only [run, step] at ran
          cases ran
          exact ⟨start, Nat.le_refl start, step, by omega⟩
      | again next =>
          simp only [run, step] at ran
          have same := follows start next step
          rw [same] at ran step
          obtain ⟨n, above, ended, between⟩ := induction ran
          refine ⟨n, by omega, ended, ?_⟩
          intro m atLeast below
          rcases Nat.eq_or_lt_of_le atLeast with rfl | later
          · exact step
          · exact between m later below

theorem ends_of_exists {start : Nat} (count : Nat)
    (ended : turn (states (start + count)) = .done result)
    (before : ∀ m, start ≤ m → m < start + count →
      turn (states m) = .again (states (m + 1))) :
    Ends turn (states start) result := by
  induction count generalizing start with
  | zero => exact (ends_of_done ended).mpr rfl
  | succ count induction =>
      rw [ends_of_again (before start (Nat.le_refl start) (by omega))]
      apply induction
      · rw [Nat.add_right_comm]
        exact ended
      · intro m atLeast below
        exact before m (by omega) (by omega)

/-- A loop through known states ends at the first one whose turn ends. -/
theorem ends_iff_exists
    (follows : ∀ n next, turn (states n) = .again next →
      next = states (n + 1)) :
    Ends turn (states 0) result ↔
      ∃ n, turn (states n) = .done result ∧
        ∀ m < n, turn (states m) = .again (states (m + 1)) := by
  constructor
  · intro ⟨fuel, ran⟩
    obtain ⟨n, _, ended, before⟩ := exists_of_run follows ran
    exact ⟨n, ended, fun m below => before m (Nat.zero_le m) below⟩
  · intro ⟨n, ended, before⟩
    apply ends_of_exists n
    · rw [Nat.zero_add]
      exact ended
    · intro m _ below
      exact before m (by omega)

/-- A loop through known states reaches those before which it does not end. -/
theorem reaches_iff_exists
    (follows : ∀ n next, turn (states n) = .again next →
      next = states (n + 1)) {reached : σ} :
    Reaches turn (states 0) reached ↔
      ∃ n, reached = states n ∧
        ∀ m < n, turn (states m) = .again (states (m + 1)) := by
  constructor
  · intro reaches
    induction reaches with
    | start => exact ⟨0, rfl, fun m below => absurd below (Nat.not_lt_zero m)⟩
    | step _ continued induction =>
        obtain ⟨n, rfl, before⟩ := induction
        have same := follows n _ continued
        refine ⟨n + 1, same, ?_⟩
        intro m below
        rcases Nat.eq_or_lt_of_le (Nat.lt_succ_iff.mp below) with rfl | earlier
        · rw [continued, same]
        · exact before m earlier
  · intro found
    obtain ⟨n, rfl, before⟩ := found
    induction n with
    | zero => exact .start
    | succ n induction =>
        apply Reaches.step (induction fun m below => before m (by omega))
        exact before n n.lt_succ_self

end Indexed

section Polling

/-- A loop that looks at one state after the other: it gives up at the first
one that is too late, and ends with what it wants at the first one that has
it. -/
structure Polls (turn : σ → Turn σ α) (states : Nat → σ)
    (timely wanted : Nat → Prop) (late : Nat → α) (found : α) : Prop where
  givesUp : ∀ n, ¬ timely n → turn (states n) = .done (late n)
  finds : ∀ n, timely n → wanted n → turn (states n) = .done found
  goesOn : ∀ n, timely n → ¬ wanted n →
    turn (states n) = .again (states (n + 1))

variable {states : Nat → σ} {timely wanted : Nat → Prop} {late : Nat → α}
  {found : α}

namespace Polls

theorem again_iff (polls : Polls turn states timely wanted late found)
    {n : Nat} {next : σ} :
    turn (states n) = .again next ↔
      next = states (n + 1) ∧ timely n ∧ ¬ wanted n := by
  by_cases inTime : timely n
  · by_cases here : wanted n
    · simp [polls.finds n inTime here, here]
    · simp [polls.goesOn n inTime here, inTime, here, eq_comm]
  · simp [polls.givesUp n inTime, inTime]

theorem done_iff (polls : Polls turn states timely wanted late found)
    {n : Nat} :
    turn (states n) = .done result ↔
      (¬ timely n ∧ result = late n) ∨
        (timely n ∧ wanted n ∧ result = found) := by
  by_cases inTime : timely n
  · by_cases here : wanted n
    · simp [polls.finds n inTime here, inTime, here, eq_comm]
    · simp [polls.goesOn n inTime here, inTime, here]
  · simp [polls.givesUp n inTime, inTime, eq_comm]

theorem ends_iff (polls : Polls turn states timely wanted late found) :
    Ends turn (states 0) result ↔
      ∃ n, ((¬ timely n ∧ result = late n) ∨
          (timely n ∧ wanted n ∧ result = found)) ∧
        ∀ m < n, timely m ∧ ¬ wanted m := by
  have follows : ∀ n next, turn (states n) = .again next →
      next = states (n + 1) :=
    fun n next continued => (polls.again_iff.mp continued).1
  simp only [ends_iff_exists follows, polls.done_iff, polls.again_iff,
    true_and]

/-- The loop finds what it wants exactly if a state has it that no deadline
comes before. -/
theorem ends_found_iff (polls : Polls turn states timely wanted late found)
    (different : ∀ n, found ≠ late n) :
    Ends turn (states 0) found ↔
      ∃ n, (∀ m ≤ n, timely m) ∧ wanted n := by
  rw [polls.ends_iff]
  constructor
  · intro ends
    obtain ⟨n, ended, before⟩ := ends
    rcases ended with ⟨_, same⟩ | ⟨inTime, here, _⟩
    · exact absurd same (different n)
    · refine ⟨n, ?_, here⟩
      intro m atMost
      rcases Nat.eq_or_lt_of_le atMost with rfl | below
      · exact inTime
      · exact (before m below).1
  · intro reached
    classical
    -- The first state that has what is wanted ends the loop.
    have eventually : ∃ n, wanted n := by
      obtain ⟨n, _, here⟩ := reached
      exact ⟨n, here⟩
    obtain ⟨n, inTime, here⟩ := reached
    have atMost : Nat.find eventually ≤ n := Nat.find_min' eventually here
    refine ⟨Nat.find eventually, .inr ⟨inTime _ atMost,
      Nat.find_spec eventually, rfl⟩, ?_⟩
    intro m below
    exact ⟨inTime m (by omega), Nat.find_min eventually below⟩

/-- A loop that does not find what it wants gives up at the first state that is
too late. -/
theorem ends_late (polls : Polls turn states timely wanted late found)
    (missing : ¬ ∃ n, (∀ m ≤ n, timely m) ∧ wanted n)
    (deadline : ∃ n, ¬ timely n) :
    ∃ n, ¬ timely n ∧ Ends turn (states 0) (late n) := by
  classical
  have before : ∀ m < Nat.find deadline, timely m :=
    fun m below => not_not.mp (Nat.find_min deadline below)
  have expired := Nat.find_spec deadline
  refine ⟨Nat.find deadline, expired, polls.ends_iff.mpr
    ⟨Nat.find deadline, .inl ⟨expired, rfl⟩, ?_⟩⟩
  intro m below
  refine ⟨before m below, ?_⟩
  intro here
  exact missing ⟨m, fun k atMost => before k (by omega), here⟩

end Polls

end Polling

end Turn

end Whitebox.Effect
