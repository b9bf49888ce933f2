import Mathlib.Data.Finset.Lattice.Basic
import Mathlib.Data.Finset.SDiff

/-!
# Selections by inclusion and exclusion rules

A rule either adds its members to a selection or rejects them.  A list of
rules selects what some adding rule names and no rejecting rule names, so a
rejection acts on the whole list and not only on the rules before it.  Groups
of rules can be pooled into one list or select separately.
-/

namespace Whitebox.Selection

variable {α : Type} [DecidableEq α]

structure Rule (α : Type) where
  reject : Bool
  members : Finset α

/-- The members of all rules with the given flag. -/
def gather (flag : Bool) : List (Rule α) → Finset α
  | [] => ∅
  | rule :: rules =>
      if rule.reject = flag then rule.members ∪ gather flag rules
      else gather flag rules

def select (rules : List (Rule α)) : Finset α :=
  gather false rules \ gather true rules

@[simp] theorem gather_nil (flag : Bool) :
    gather flag ([] : List (Rule α)) = ∅ :=
  rfl

theorem mem_gather {flag : Bool} {rules : List (Rule α)} {x : α} :
    x ∈ gather flag rules ↔
      ∃ rule ∈ rules, rule.reject = flag ∧ x ∈ rule.members := by
  induction rules with
  | nil => simp
  | cons rule rules induction =>
      by_cases flagged : rule.reject = flag
      · simp [gather, flagged, induction]
      · simp [gather, flagged, induction]

theorem mem_select {rules : List (Rule α)} {x : α} :
    x ∈ select rules ↔ x ∈ gather false rules ∧ x ∉ gather true rules :=
  Finset.mem_sdiff

section Groups

variable {ι β : Type}

/-- What the groups select when each group's rejections act on that group. -/
def separately (groups : Set ι) (keeps rejects : ι → Set β) : Set β :=
  {x | ∃ group ∈ groups, x ∈ keeps group \ rejects group}

/-- What the groups select when every rejection acts on all groups. -/
def pooled (groups : Set ι) (keeps rejects : ι → Set β) : Set β :=
  {x | (∃ group ∈ groups, x ∈ keeps group) ∧
    ∀ other ∈ groups, x ∉ rejects other}

variable {groups : Set ι} {keeps rejects : ι → Set β}

theorem pooled_subset_separately :
    pooled groups keeps rejects ⊆ separately groups keeps rejects := by
  intro x ⟨⟨group, member, kept⟩, untouched⟩
  exact ⟨group, member, kept, untouched group member⟩

/-- Pooling loses nothing exactly when no group rejects what another one
selects. -/
theorem pooled_eq_separately_iff :
    pooled groups keeps rejects = separately groups keeps rejects ↔
      ∀ group ∈ groups, ∀ x ∈ keeps group \ rejects group,
        ∀ other ∈ groups, x ∉ rejects other := by
  constructor
  · intro same group member x selected
    have inPool : x ∈ pooled groups keeps rejects := by
      rw [same]
      exact ⟨group, member, selected⟩
    exact inPool.2
  · intro apart
    apply Set.Subset.antisymm pooled_subset_separately
    intro x ⟨group, member, selected⟩
    exact ⟨⟨group, member, selected.1⟩, apart group member x selected⟩

end Groups

end Whitebox.Selection
