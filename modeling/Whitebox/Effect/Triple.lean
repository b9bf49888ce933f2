import Whitebox.Effect.Run

/-!
# Conditions before and after a computation

A condition before a computation is paired with one for its return and one for
the state in which it raises.  Each way of composing computations has a rule.
-/

namespace Whitebox.Effect.Run

universe u

variable {σ ε α β : Type u}

/-- From a state with `pre` the computation returns into a state with `post` or
raises in a state with `fails`. -/
def Triple (pre : σ → Prop) (action : Run σ ε α) (post : α → σ → Prop)
    (fails : σ → Prop) : Prop :=
  ∀ state outcome reached, pre state → action state = (outcome, reached) →
    match outcome with
    | .ok value => post value reached
    | .error _ => fails reached

namespace Triple

variable {pre pre' : σ → Prop} {action : Run σ ε α} {post post' : α → σ → Prop}
  {fails fails' : σ → Prop}

theorem consequence (triple : Triple pre action post fails)
    (stronger : ∀ state, pre' state → pre state)
    (weaker : ∀ value state, post value state → post' value state)
    (weakerFails : ∀ state, fails state → fails' state) :
    Triple pre' action post' fails' := by
  intro state outcome reached start ran
  have holds := triple state outcome reached (stronger state start) ran
  cases outcome with
  | ok value => exact weaker value reached holds
  | error error => exact weakerFails reached holds

theorem ret {value : α} (holds : ∀ state, pre state → post value state) :
    Triple pre (pure value : Run σ ε α) post fails := by
  intro state outcome reached start ran
  cases ran
  exact holds state start

theorem seq {next : α → Run σ ε β} {final : β → σ → Prop}
    (middle : α → σ → Prop) (first : Triple pre action middle fails)
    (second : ∀ value, Triple (middle value) (next value) final fails) :
    Triple pre (action >>= next) final fails := by
  intro state outcome reached start ran
  rcases begun : action state with ⟨earlier, between⟩
  have holds := first state earlier between start begun
  cases earlier with
  | ok value =>
      rw [bind_ok begun] at ran
      exact second value between outcome reached holds ran
  | error error =>
      rw [bind_error begun] at ran
      cases ran
      exact holds

end Triple

end Whitebox.Effect.Run
