import Mathlib.Data.List.Basic

/-!
# Computations that return or raise

A sequence returns exactly if both of its parts do.  A loop over a list is a
fold of its turns, and what every turn keeps holds at the end.
-/

namespace Whitebox.Effect.Fallible

universe u v

variable {ε : Type u} {α β σ ι : Type v}

theorem bind_eq_ok_iff {first : Except ε α} {next : α → Except ε β}
    {result : β} :
    first >>= next = .ok result ↔
      ∃ value, first = .ok value ∧ next value = .ok result := by
  cases first with
  | error error =>
      constructor
      · intro returned
        cases returned
      · rintro ⟨_, raised, _⟩
        cases raised
  | ok value =>
      constructor
      · intro returned
        exact ⟨value, rfl, returned⟩
      · rintro ⟨_, same, returned⟩
        cases same
        exact returned

theorem pure_eq_ok_iff {value result : α} :
    (pure value : Except ε α) = .ok result ↔ value = result := by
  constructor
  · intro returned
    cases returned
    rfl
  · intro same
    cases same
    rfl

theorem map_eq_ok_iff {first : Except ε α} {change : α → β} {result : β} :
    first.map change = .ok result ↔
      ∃ value, first = .ok value ∧ change value = result := by
  cases first with
  | error error => simp [Except.map]
  | ok value => simp [Except.map]

theorem mapError_eq_ok_iff {δ : Type u} {first : Except δ α} {change : δ → ε}
    {value : α} :
    first.mapError change = .ok value ↔ first = .ok value := by
  cases first with
  | error error => simp [Except.mapError]
  | ok result => simp [Except.mapError]

section Require

/-- Raise the error unless the condition holds. -/
def require (condition : Prop) [Decidable condition] (error : ε) :
    Except ε PUnit.{v + 1} :=
  if condition then .ok ⟨⟩ else .error error

variable {condition : Prop} [Decidable condition] {error : ε}

theorem require_eq_ok_iff {value : PUnit.{v + 1}} :
    require condition error = .ok value ↔ condition := by
  unfold require
  split
  · next holds => exact iff_of_true rfl holds
  · next fails =>
      refine iff_of_false ?_ fails
      intro returned
      cases returned

end Require

section Loop

variable {turn : σ → ι → Except ε σ} {state final : σ}

theorem foldlM_cons_eq_ok_iff {item : ι} {items : List ι} :
    (item :: items).foldlM turn state = .ok final ↔
      ∃ next, turn state item = .ok next ∧
        items.foldlM turn next = .ok final := by
  rw [List.foldlM_cons, bind_eq_ok_iff]

theorem foldlM_append_eq_ok_iff {items others : List ι} :
    (items ++ others).foldlM turn state = .ok final ↔
      ∃ reached, items.foldlM turn state = .ok reached ∧
        others.foldlM turn reached = .ok final := by
  rw [List.foldlM_append, bind_eq_ok_iff]

/-- What every turn keeps holds at the end of the loop. -/
theorem foldlM_keeps {kept : σ → Prop} {items : List ι}
    (keeps : ∀ before item after, item ∈ items → kept before →
      turn before item = .ok after → kept after)
    (begins : kept state) (returned : items.foldlM turn state = .ok final) :
    kept final := by
  induction items generalizing state with
  | nil =>
      cases returned
      exact begins
  | cons item items induction =>
      obtain ⟨next, turned, rest⟩ := foldlM_cons_eq_ok_iff.mp returned
      refine induction ?_ (keeps state item next (by simp) begins turned) rest
      intro before other after member
      exact keeps before other after (by simp [member])

/-- The order of the items does not matter if it does not matter for two of
them. -/
theorem foldlM_perm {items others : List ι} (perm : items.Perm others)
    (commutes : ∀ state first second,
      (turn state first >>= fun next => turn next second) =
        (turn state second >>= fun next => turn next first)) :
    items.foldlM turn state = others.foldlM turn state := by
  induction perm generalizing state with
  | nil => rfl
  | cons item _ induction =>
      rw [List.foldlM_cons, List.foldlM_cons]
      congr 1
      funext next
      exact induction
  | swap first second items =>
      simp only [List.foldlM_cons, ← bind_assoc]
      rw [commutes]
  | trans _ _ first second => rw [first, second]

/-- A loop of checks returns exactly if every check does. -/
theorem forM_eq_ok_iff {check : ι → Except ε PUnit} {items : List ι} :
    items.forM check = .ok ⟨⟩ ↔ ∀ item ∈ items, check item = .ok ⟨⟩ := by
  induction items with
  | nil =>
      refine iff_of_true rfl ?_
      simp
  | cons item items induction =>
      rw [List.forM_eq_forM, List.forM_cons, bind_eq_ok_iff,
        List.forall_mem_cons, ← induction, List.forM_eq_forM]
      constructor
      · intro returned
        obtain ⟨_, first, rest⟩ := returned
        exact ⟨first, rest⟩
      · intro both
        exact ⟨⟨⟩, both⟩

end Loop

end Whitebox.Effect.Fallible
