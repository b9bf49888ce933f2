import Mathlib.Logic.Function.Basic

/-!
# Computations which keep their state when they raise

A remote operation can fail after earlier operations have already changed the
outside world.  `Run` therefore returns the state reached so far together with
the outcome, whether that outcome is a value or an exception.  The module also
supplies `tryFinally` and the embedding of a computation on one component into
a family of independent components.
-/

namespace Whitebox.Effect

universe u

/-- A computation over a state `σ`.  It returns a value or raises; the state
reached so far is kept in both cases. -/
def Run (σ ε α : Type u) : Type u := σ → Except ε α × σ

namespace Run

variable {σ ε α β ι : Type u}

/-- Return a value without touching the state. -/
def ret (value : α) : Run σ ε α := fun state => (.ok value, state)

/-- Raise an exception without touching the state. -/
def raise (error : ε) : Run σ ε α := fun state => (.error error, state)

/-- Run `next` on the value of `first`, unless `first` raises. -/
def andThen (first : Run σ ε α) (next : α → Run σ ε β) : Run σ ε β :=
  fun state =>
    match first state with
    | (.ok value, reached) => next value reached
    | (.error error, reached) => (.error error, reached)

instance : Monad (Run σ ε) where
  pure := ret
  bind := andThen

instance : LawfulMonad (Run σ ε) := by
  refine LawfulMonad.mk' (Run σ ε) ?_ ?_ ?_
  · intro α action
    funext state
    change andThen action ret state = action state
    rcases ran : action state with ⟨outcome, reached⟩
    cases outcome <;> simp [andThen, ran, ret]
  · intro α β value next
    rfl
  · intro α β γ first next last
    funext state
    change andThen (andThen first next) last state =
      andThen first (fun value => andThen (next value) last) state
    rcases ran : first state with ⟨outcome, reached⟩
    cases outcome <;> simp [andThen, ran]

/-- `try: body finally: cleanup`.  The cleanup always runs; its own exception
replaces the outcome of the body. -/
def tryFinally (body : Run σ ε α) (cleanup : Run σ ε PUnit) : Run σ ε α :=
  fun state =>
    match cleanup (body state).2 with
    | (.ok _, final) => ((body state).1, final)
    | (.error error, final) => (.error error, final)

/-- `try: body except: handler`.  The handler starts from the state in which
the body raised, and re-raises what it does not handle. -/
def tryExcept (body : Run σ ε α) (handler : ε → Run σ ε α) : Run σ ε α :=
  fun state =>
    match body state with
    | (.ok value, reached) => (.ok value, reached)
    | (.error error, reached) => handler error reached

/-- The outcome of a computation that does not touch the state. -/
def lift (outcome : Except ε α) : Run σ ε α := fun state => (outcome, state)

/-- Run a computation on one component of a family. -/
def focus [DecidableEq ι] (index : ι) (action : Run σ ε α) :
    Run (ι → σ) ε α :=
  fun family =>
    ((action (family index)).1,
      Function.update family index (action (family index)).2)

@[simp] theorem pure_apply (value : α) (state : σ) :
    (pure value : Run σ ε α) state = (.ok value, state) :=
  rfl

@[simp] theorem raise_apply (error : ε) (state : σ) :
    (raise error : Run σ ε α) state = (.error error, state) :=
  rfl

theorem bind_ok {first : Run σ ε α} {next : α → Run σ ε β}
    {state reached : σ} {value : α}
    (returned : first state = (.ok value, reached)) :
    (first >>= next) state = next value reached := by
  change andThen first next state = _
  simp [andThen, returned]

/-- Computations that do not touch the state are sequenced without it. -/
theorem lift_bind {outcome : Except ε α} {next : α → Run σ ε β}
    {rest : α → Except ε β} {state : σ}
    (agree : ∀ value, next value state = (rest value, state)) :
    (lift outcome >>= next) state = (outcome >>= rest, state) := by
  cases outcome with
  | error error => rfl
  | ok value => exact agree value

theorem bind_error {first : Run σ ε α} {next : α → Run σ ε β}
    {state reached : σ} {error : ε}
    (raised : first state = (.error error, reached)) :
    (first >>= next) state = (.error error, reached) := by
  change andThen first next state = _
  simp [andThen, raised]

/-- A sequence that returns has returned from both of its parts. -/
theorem exists_of_bind_ok {first : Run σ ε α} {next : α → Run σ ε β}
    {state final : σ} {result : β}
    (returned : (first >>= next) state = (.ok result, final)) :
    ∃ value reached, first state = (.ok value, reached) ∧
      next value reached = (.ok result, final) := by
  rcases ran : first state with ⟨outcome, reached⟩
  cases outcome with
  | error error =>
      rw [bind_error ran] at returned
      cases returned
  | ok value =>
      rw [bind_ok ran] at returned
      exact ⟨value, reached, rfl, returned⟩

/-- A loop whose turns leave the state alone leaves it alone. -/
theorem forM_ok {turn : β → Run σ ε PUnit} {items : List β} {state : σ}
    (turns : ∀ item ∈ items, turn item state = (.ok ⟨⟩, state)) :
    items.forM turn state = (.ok ⟨⟩, state) := by
  induction items with
  | nil => rfl
  | cons item items induction =>
      rw [List.forM_eq_forM, List.forM_cons, ← List.forM_eq_forM,
        bind_ok (turns item List.mem_cons_self)]
      exact induction fun other member =>
        turns other (List.mem_cons_of_mem item member)

theorem tryExcept_ok {body : Run σ ε α} {handler : ε → Run σ ε α}
    {state reached : σ} {value : α}
    (returned : body state = (.ok value, reached)) :
    tryExcept body handler state = (.ok value, reached) := by
  simp [tryExcept, returned]

theorem tryExcept_error {body : Run σ ε α} {handler : ε → Run σ ε α}
    {state reached : σ} {error : ε}
    (raised : body state = (.error error, reached)) :
    tryExcept body handler state = handler error reached := by
  simp [tryExcept, raised]

theorem tryExcept_ok_cases {body : Run σ ε α} {handler : ε → Run σ ε α}
    {state final : σ} {result : α}
    (returned : tryExcept body handler state = (.ok result, final)) :
    body state = (.ok result, final) ∨
      ∃ error reached, body state = (.error error, reached) ∧
        handler error reached = (.ok result, final) := by
  rcases ran : body state with ⟨outcome, reached⟩
  cases outcome with
  | ok value =>
      rw [tryExcept_ok ran] at returned
      exact .inl returned
  | error error =>
      rw [tryExcept_error ran] at returned
      exact .inr ⟨error, reached, rfl, returned⟩

theorem tryFinally_ok {body : Run σ ε α} {cleanup : Run σ ε PUnit}
    {state final : σ}
    (cleaned : cleanup (body state).2 = (.ok ⟨⟩, final)) :
    tryFinally body cleanup state = ((body state).1, final) := by
  simp [tryFinally, cleaned]

theorem tryFinally_error {body : Run σ ε α} {cleanup : Run σ ε PUnit}
    {state final : σ} {error : ε}
    (raised : cleanup (body state).2 = (.error error, final)) :
    tryFinally body cleanup state = (.error error, final) := by
  simp [tryFinally, raised]

/-- The cleanup decides the final state, whatever the body did. -/
theorem tryFinally_state (body : Run σ ε α) (cleanup : Run σ ε PUnit)
    (state : σ) :
    (tryFinally body cleanup state).2 = (cleanup (body state).2).2 := by
  rcases cleaned : cleanup (body state).2 with ⟨outcome, final⟩
  cases outcome with
  | ok value => simp [tryFinally, cleaned]
  | error error => simp [tryFinally, cleaned]

/-- A protected computation returns only when both of its parts return. -/
theorem tryFinally_isOk (body : Run σ ε α) (cleanup : Run σ ε PUnit)
    (state : σ) :
    (tryFinally body cleanup state).1.isOk =
      ((body state).1.isOk && (cleanup (body state).2).1.isOk) := by
  rcases cleaned : cleanup (body state).2 with ⟨outcome, final⟩
  cases outcome with
  | ok value => simp [tryFinally, cleaned, Except.isOk, Except.toBool]
  | error error => simp [tryFinally, cleaned, Except.isOk, Except.toBool]

section Focus

variable [DecidableEq ι] (index : ι) (action : Run σ ε α) (family : ι → σ)

@[simp] theorem focus_outcome :
    (focus index action family).1 = (action (family index)).1 :=
  rfl

@[simp] theorem focus_same :
    (focus index action family).2 index = (action (family index)).2 := by
  simp [focus]

theorem focus_other {other : ι} (different : other ≠ index) :
    (focus index action family).2 other = family other := by
  simp [focus, different]

end Focus

end Run

end Whitebox.Effect
