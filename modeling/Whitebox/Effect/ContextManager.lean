import Whitebox.Effect.Run

/-!
# Context managers and exit stacks

A generator-based context manager runs its code before the `yield`, hands
control to the body inside `try`, and runs its code after the `yield` in
`finally`.  The locals that survive the `yield` are the value returned by
`enter`.

`ExitStack` is modelled by the callbacks it holds.  `ExitStack.run_eq_nest`
identifies it with a nest of `with` statements, so that facts about a whole
stack follow by induction over its managers.
-/

namespace Whitebox.Effect

universe u

/-- The two halves of a generator-based context manager. -/
structure ContextManager (σ ε ρ : Type u) where
  enter : Run σ ε ρ
  exit : ρ → Run σ ε PUnit

namespace ContextManager

variable {σ ε ρ α : Type u}

/-- `with manager: body`. -/
def around (manager : ContextManager σ ε ρ) (body : Run σ ε α) :
    Run σ ε α := do
  let saved ← manager.enter
  Run.tryFinally body (manager.exit saved)

theorem around_enter_error {manager : ContextManager σ ε ρ}
    {state reached : σ} {error : ε}
    (raised : manager.enter state = (.error error, reached))
    (body : Run σ ε α) :
    manager.around body state = (.error error, reached) :=
  Run.bind_error raised

theorem around_enter_ok {manager : ContextManager σ ε ρ}
    {state reached : σ} {saved : ρ}
    (entered : manager.enter state = (.ok saved, reached))
    (body : Run σ ε α) :
    manager.around body state =
      Run.tryFinally body (manager.exit saved) reached :=
  Run.bind_ok entered

/-- A nest of `with` statements, the first manager outermost. -/
def nest (body : Run σ ε α) : List (ContextManager σ ε ρ) → Run σ ε α
  | [] => body
  | manager :: managers => manager.around (nest body managers)

end ContextManager

/-- The exit callbacks registered so far, the most recent one first. -/
abbrev ExitStack (σ ε : Type u) := List (Run σ ε PUnit)

namespace ExitStack

variable {σ ε ρ α : Type u}

/-- `ExitStack.__exit__`: run every callback in last-in first-out order.  A
callback which raises replaces the pending outcome and stops nothing. -/
def unwind : ExitStack σ ε → Except ε α → Run σ ε α
  | [], outcome => fun state => (outcome, state)
  | callback :: stack, outcome => fun state =>
      match callback state with
      | (.ok _, reached) => unwind stack outcome reached
      | (.error error, reached) => unwind stack (.error error) reached

/-- The `with ExitStack() as stack` block: `stack.enter_context(manager)` for
every manager in turn, then the body, then the unwinding. -/
def runFrom (body : Run σ ε α) :
    List (ContextManager σ ε ρ) → ExitStack σ ε → Run σ ε α
  | [], stack => fun state => unwind stack (body state).1 (body state).2
  | manager :: managers, stack => fun state =>
      match manager.enter state with
      | (.ok saved, reached) =>
          runFrom body managers (manager.exit saved :: stack) reached
      | (.error error, reached) => unwind stack (.error error) reached

/-- Run a body under every manager of a list through one fresh exit stack. -/
def run (managers : List (ContextManager σ ε ρ)) (body : Run σ ε α) :
    Run σ ε α :=
  runFrom body managers []

theorem unwind_cons (callback : Run σ ε PUnit) (stack : ExitStack σ ε)
    (body : Run σ ε α) (state : σ) :
    unwind (callback :: stack) (body state).1 (body state).2 =
      unwind stack (Run.tryFinally body callback state).1
        (Run.tryFinally body callback state).2 := by
  rcases cleaned : callback (body state).2 with ⟨outcome, final⟩
  cases outcome with
  | ok value => simp [unwind, Run.tryFinally, cleaned]
  | error error => simp [unwind, Run.tryFinally, cleaned]

/-- Entering the remaining managers above a stack amounts to running their
nest and unwinding the stack afterwards. -/
theorem runFrom_eq_unwind_nest (body : Run σ ε α)
    (managers : List (ContextManager σ ε ρ)) (stack : ExitStack σ ε)
    (state : σ) :
    runFrom body managers stack state =
      unwind stack (ContextManager.nest body managers state).1
        (ContextManager.nest body managers state).2 := by
  induction managers generalizing stack state with
  | nil => rfl
  | cons manager managers induction =>
      rcases entered : manager.enter state with ⟨outcome, reached⟩
      cases outcome with
      | ok saved =>
          simp only [runFrom, entered, ContextManager.nest,
            ContextManager.around_enter_ok entered]
          rw [induction, unwind_cons]
      | error error =>
          simp only [runFrom, entered, ContextManager.nest,
            ContextManager.around_enter_error entered]

theorem run_eq_nest (managers : List (ContextManager σ ε ρ))
    (body : Run σ ε α) :
    run managers body = ContextManager.nest body managers := by
  funext state
  rw [run, runFrom_eq_unwind_nest, unwind]

end ExitStack

end Whitebox.Effect
