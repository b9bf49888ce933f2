import Mathlib.Data.List.Nodup
import Whitebox.Effect.ContextManager

/-!
# Context managers on independent components

A family of components carries one state per index, and a context manager of
one component is run on the family through `focus`.  When the indices of a nest
are distinct and its body leaves the family alone, every component behaves as
if its context manager were run on its own: the failures of one component never
reach another, except that a failing entry stops the entries after it.
-/

namespace Whitebox.Effect

universe u

variable {ι σ ε ρ α : Type u}

namespace ContextManager

/-- What a context manager does around a body which does nothing. -/
def alone (manager : ContextManager σ ε ρ) : Run σ ε PUnit :=
  manager.around (pure ⟨⟩)

theorem alone_enter_error {manager : ContextManager σ ε ρ}
    {state reached : σ} {error : ε}
    (raised : manager.enter state = (.error error, reached)) :
    manager.alone state = (.error error, reached) :=
  around_enter_error raised _

theorem alone_state {manager : ContextManager σ ε ρ} {state reached : σ}
    {saved : ρ} (entered : manager.enter state = (.ok saved, reached)) :
    (manager.alone state).2 = (manager.exit saved reached).2 := by
  rw [alone, around_enter_ok entered, Run.tryFinally_state]
  rfl

theorem alone_isOk {manager : ContextManager σ ε ρ} {state reached : σ}
    {saved : ρ} (entered : manager.enter state = (.ok saved, reached)) :
    (manager.alone state).1.isOk = (manager.exit saved reached).1.isOk := by
  rw [alone, around_enter_ok entered, Run.tryFinally_isOk]
  rfl

section Nest

variable (contexts : ι → ContextManager σ ε ρ)

/-- The component can be entered. -/
def EntersOk (family : ι → σ) (index : ι) : Prop :=
  ((contexts index).enter (family index)).1.isOk = true

/-- Every entry before this index succeeds, so that the index is entered or at
least attempted. -/
def Attempted (family : ι → σ) : List ι → ι → Prop
  | [], _ => False
  | head :: indices, index =>
      index = head ∨
        EntersOk contexts family head ∧ Attempted family indices index

variable {contexts}

/-- Nothing but the entered components matters to an attempt. -/
theorem attempted_congr {first second : ι → σ} {indices : List ι}
    (agree : ∀ index ∈ indices, first index = second index) (index : ι) :
    Attempted contexts first indices index ↔
      Attempted contexts second indices index := by
  induction indices with
  | nil => rfl
  | cons head indices induction =>
      have sameHead : first head = second head := agree head (by simp)
      have sameTail := induction fun other member =>
        agree other (by simp [member])
      simp only [Attempted, EntersOk, sameHead, sameTail]

theorem Attempted.mem {family : ι → σ} {indices : List ι} {index : ι}
    (attempted : Attempted contexts family indices index) :
    index ∈ indices := by
  induction indices with
  | nil => exact attempted.elim
  | cons head indices induction =>
      rcases attempted with rfl | ⟨-, later⟩
      · exact List.mem_cons_self
      · exact List.mem_cons_of_mem head (induction later)

/-- An index after a failing entry is not attempted. -/
theorem not_attempted_after {family : ι → σ} {before after : List ι}
    {failed index : ι} (distinct : (before ++ failed :: after).Nodup)
    (fails : ¬ EntersOk contexts family failed) (member : index ∈ after) :
    ¬ Attempted contexts family (before ++ failed :: after) index := by
  induction before with
  | nil =>
      have fresh := (List.nodup_cons.mp distinct).1
      rintro (rfl | ⟨enters, -⟩)
      · exact fresh member
      · exact fails enters
  | cons head before induction =>
      obtain ⟨fresh, tailDistinct⟩ := List.nodup_cons.mp distinct
      rintro (rfl | ⟨-, later⟩)
      · exact fresh (by simp [member])
      · exact induction tailDistinct later

variable [DecidableEq ι]

/-- A context manager of one component, run on the whole family. -/
def focus (index : ι) (manager : ContextManager σ ε ρ) :
    ContextManager (ι → σ) ε ρ where
  enter := Run.focus index manager.enter
  exit saved := Run.focus index (manager.exit saved)

/-- The nest of the context managers of several components. -/
def nestOver (contexts : ι → ContextManager σ ε ρ)
    (body : Run (ι → σ) ε α) (indices : List ι) :
    Run (ι → σ) ε α :=
  nest body (indices.map fun index => (contexts index).focus index)

/-- The family after the entry of several distinct components. -/
def enteredFamily (contexts : ι → ContextManager σ ε ρ)
    (family : ι → σ) (indices : List ι) : ι → σ :=
  fun index =>
    if index ∈ indices then ((contexts index).enter (family index)).2
    else family index

theorem nestOver_enter_error {head : ι} {family : ι → σ} {reached : σ}
    {error : ε}
    (raised : (contexts head).enter (family head) = (.error error, reached))
    (body : Run (ι → σ) ε α) (indices : List ι) :
    nestOver contexts body (head :: indices) family =
      (.error error, Function.update family head reached) := by
  apply around_enter_error
  simp [focus, Run.focus, raised]

theorem nestOver_enter_ok {head : ι} {family : ι → σ} {reached : σ} {saved : ρ}
    (entered : (contexts head).enter (family head) = (.ok saved, reached))
    (body : Run (ι → σ) ε α) (indices : List ι) :
    nestOver contexts body (head :: indices) family =
      Run.tryFinally (nestOver contexts body indices)
        (Run.focus head ((contexts head).exit saved))
        (Function.update family head reached) := by
  apply around_enter_ok
  simp [focus, Run.focus, entered]

/-- Entry and exit of the outermost component both return. -/
theorem nestOver_cons_ok {head : ι} {family : ι → σ} {reached final : σ}
    {saved : ρ} {body : Run (ι → σ) ε α} {indices : List ι}
    (entered : (contexts head).enter (family head) = (.ok saved, reached))
    (exited : (contexts head).exit saved
        ((nestOver contexts body indices
          (Function.update family head reached)).2 head) =
      (.ok ⟨⟩, final)) :
    nestOver contexts body (head :: indices) family =
      ((nestOver contexts body indices
          (Function.update family head reached)).1,
        Function.update
          (nestOver contexts body indices
            (Function.update family head reached)).2 head final) := by
  rw [nestOver_enter_ok entered]
  apply Run.tryFinally_ok
  simp [Run.focus, exited]

private theorem update_agree {head : ι} {indices : List ι} {family : ι → σ}
    {reached : σ} (fresh : head ∉ indices) :
    ∀ index ∈ indices, Function.update family head reached index =
      family index := by
  intro index member
  have different : index ≠ head := fun same => fresh (same ▸ member)
  exact Function.update_of_ne different reached family

variable {body : Run (ι → σ) ε α}

/-- Components which are not attempted keep their state. -/
theorem nestOver_not_attempted (indices : List ι) (family : ι → σ)
    (distinct : indices.Nodup) (idle : ∀ family, (body family).2 = family)
    {index : ι} (skipped : ¬ Attempted contexts family indices index) :
    (nestOver contexts body indices family).2 index = family index := by
  induction indices generalizing family with
  | nil => exact congrFun (idle family) index
  | cons head indices induction =>
      obtain ⟨fresh, tailDistinct⟩ := List.nodup_cons.mp distinct
      simp only [Attempted, not_or, not_and] at skipped
      obtain ⟨different, tailSkipped⟩ := skipped
      rcases entered : (contexts head).enter (family head) with
        ⟨outcome, reached⟩
      cases outcome with
      | error error =>
          rw [nestOver_enter_error entered]
          exact Function.update_of_ne different reached family
      | ok saved =>
          have enters : EntersOk contexts family head := by
            simp [EntersOk, entered, Except.isOk, Except.toBool]
          have inner := induction (Function.update family head reached)
            tailDistinct (fun attempted => tailSkipped enters
              ((attempted_congr (update_agree fresh) index).mp attempted))
          rw [nestOver_enter_ok entered, Run.tryFinally_state,
            Run.focus_other _ _ _ different, inner]
          exact Function.update_of_ne different reached family

/-- An attempted component ends as it does on its own. -/
theorem nestOver_attempted (indices : List ι) (family : ι → σ)
    (distinct : indices.Nodup) (idle : ∀ family, (body family).2 = family)
    {index : ι} (attempted : Attempted contexts family indices index) :
    (nestOver contexts body indices family).2 index =
      ((contexts index).alone (family index)).2 := by
  induction indices generalizing family with
  | nil => exact attempted.elim
  | cons head indices induction =>
      obtain ⟨fresh, tailDistinct⟩ := List.nodup_cons.mp distinct
      rcases entered : (contexts head).enter (family head) with
        ⟨outcome, reached⟩
      cases outcome with
      | error error =>
          have here : index = head := by
            rcases attempted with here | ⟨enters, -⟩
            · exact here
            · simp [EntersOk, entered, Except.isOk, Except.toBool] at enters
          subst here
          rw [nestOver_enter_error entered, alone_enter_error entered]
          exact Function.update_self index reached family
      | ok saved =>
          rw [nestOver_enter_ok entered, Run.tryFinally_state]
          by_cases here : index = head
          · subst here
            -- The inner nest does not mention this index again.
            have kept : (nestOver contexts body indices
                (Function.update family index reached)).2 index = _ :=
              nestOver_not_attempted _ _ tailDistinct idle
                (fun inner => fresh inner.mem)
            rw [Run.focus_same, kept, Function.update_self,
              alone_state entered]
          · have later : Attempted contexts family indices index := by
              rcases attempted with same | ⟨-, later⟩
              · exact (here same).elim
              · exact later
            rw [Run.focus_other _ _ _ here, induction _ tailDistinct
              ((attempted_congr (update_agree fresh) index).mpr later),
              Function.update_of_ne here]

/-- The entry of the first component is part of the entered family. -/
theorem enteredFamily_cons {head : ι} {indices : List ι} {family : ι → σ}
    {reached : σ} (fresh : head ∉ indices)
    (entered : ((contexts head).enter (family head)).2 = reached) :
    enteredFamily contexts (Function.update family head reached) indices =
      enteredFamily contexts family (head :: indices) := by
  funext index
  by_cases here : index = head
  · subst here
    simp [enteredFamily, fresh, entered]
  · simp [enteredFamily, here]

/-- The nest returns exactly when every component does on its own and the body
does in the family which all entries leave behind. -/
theorem nestOver_isOk_iff (indices : List ι) (family : ι → σ)
    (distinct : indices.Nodup) (idle : ∀ family, (body family).2 = family) :
    (nestOver contexts body indices family).1.isOk = true ↔
      (∀ index ∈ indices,
        ((contexts index).alone (family index)).1.isOk = true) ∧
      (body (enteredFamily contexts family indices)).1.isOk = true := by
  induction indices generalizing family with
  | nil =>
      have same : enteredFamily contexts family [] = family := by
        funext index
        simp [enteredFamily]
      simp [nestOver, nest, same]
  | cons head indices induction =>
      obtain ⟨fresh, tailDistinct⟩ := List.nodup_cons.mp distinct
      rcases entered : (contexts head).enter (family head) with
        ⟨outcome, reached⟩
      cases outcome with
      | error error =>
          rw [nestOver_enter_error entered]
          simp [alone_enter_error entered, Except.isOk, Except.toBool]
      | ok saved =>
          have kept : (nestOver contexts body indices
              (Function.update family head reached)).2 head = _ :=
            nestOver_not_attempted _ _ tailDistinct idle
              (fun inner => fresh inner.mem)
          have sameFamily := enteredFamily_cons fresh (congrArg Prod.snd entered)
          have sameAlone : (∀ index ∈ indices, ((contexts index).alone
              (Function.update family head reached index)).1.isOk = true) ↔
              ∀ index ∈ indices,
                ((contexts index).alone (family index)).1.isOk = true := by
            apply forall₂_congr
            intro index member
            rw [update_agree fresh index member]
          rw [nestOver_enter_ok entered, Run.tryFinally_isOk,
            Bool.and_eq_true, induction _ tailDistinct, Run.focus_outcome,
            kept, Function.update_self, ← alone_isOk entered, sameFamily,
            sameAlone, List.forall_mem_cons]
          constructor
          · intro all
            obtain ⟨⟨tailOk, bodyOk⟩, headOk⟩ := all
            exact ⟨⟨headOk, tailOk⟩, bodyOk⟩
          · intro all
            obtain ⟨⟨headOk, tailOk⟩, bodyOk⟩ := all
            exact ⟨⟨tailOk, bodyOk⟩, headOk⟩

/-- The body is not run when some entry fails: any other body gives the same
run. -/
theorem nestOver_body_irrelevant (indices : List ι) (family : ι → σ)
    (distinct : indices.Nodup) {failed : ι} (member : failed ∈ indices)
    (fails : ¬ EntersOk contexts family failed)
    (first second : Run (ι → σ) ε α) :
    nestOver contexts first indices family =
      nestOver contexts second indices family := by
  induction indices generalizing family with
  | nil => simp at member
  | cons head indices induction =>
      obtain ⟨fresh, tailDistinct⟩ := List.nodup_cons.mp distinct
      rcases entered : (contexts head).enter (family head) with
        ⟨outcome, reached⟩
      cases outcome with
      | error error =>
          rw [nestOver_enter_error entered, nestOver_enter_error entered]
      | ok saved =>
          have later : failed ∈ indices := by
            rcases List.mem_cons.mp member with rfl | later
            · exact absurd (by simp [EntersOk, entered, Except.isOk,
                Except.toBool]) fails
            · exact later
          have failsLater :
              ¬ EntersOk contexts (Function.update family head reached)
                failed := by
            unfold EntersOk at fails ⊢
            rwa [update_agree fresh failed later]
          rw [nestOver_enter_ok entered, nestOver_enter_ok entered]
          simp only [Run.tryFinally,
            induction _ tailDistinct later failsLater]

end Nest

end ContextManager

end Whitebox.Effect
