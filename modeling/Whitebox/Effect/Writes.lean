import Mathlib.Data.List.Nodup
import Mathlib.Logic.Function.Basic

/-!
# Undo logs

A store is a map, and a write replaces the value of one key.  The undo log of
a sequence of writes holds, for every write, the value which it displaced.

Replaying an undo log in the order in which it was recorded is what a plain
loop over saved values does.  The result is the value displaced by the last
write of each key.  It is the original value for a key written once, and the
value of the last write but one for a key written several times.
-/

namespace Whitebox.Effect

universe u v

variable {κ : Type u} {ν : Type v} [DecidableEq κ]

/-- Perform a sequence of writes. -/
def applyWrites (writes : List (κ × ν)) (store : κ → ν) : κ → ν :=
  writes.foldl (fun reached write => Function.update reached write.1 write.2)
    store

/-- The undo log of a sequence of writes, in recording order. -/
def displaced : List (κ × ν) → (κ → ν) → List (κ × ν)
  | [], _ => []
  | write :: writes, store =>
      (write.1, store write.1) ::
        displaced writes (Function.update store write.1 write.2)

/-- The value given to a key by its last write but one. -/
def earlierWrite (writes : List (κ × ν)) (key : κ) : Option ν :=
  ((writes.filter fun write => write.1 = key).map Prod.snd).dropLast.getLast?

@[simp] theorem applyWrites_cons (write : κ × ν) (writes : List (κ × ν))
    (store : κ → ν) :
    applyWrites (write :: writes) store =
      applyWrites writes (Function.update store write.1 write.2) :=
  rfl

theorem applyWrites_of_not_mem {key : κ} (writes : List (κ × ν))
    (store : κ → ν) (absent : key ∉ writes.map Prod.fst) :
    applyWrites writes store key = store key := by
  induction writes generalizing store with
  | nil => rfl
  | cons write writes induction =>
      simp only [List.map_cons, List.mem_cons, not_or] at absent
      rw [applyWrites_cons, induction _ absent.2,
        Function.update_of_ne absent.1]

theorem applyWrites_of_mem (write : κ × ν) (writes : List (κ × ν))
    (store : κ → ν) (distinct : (writes.map Prod.fst).Nodup)
    (member : write ∈ writes) :
    applyWrites writes store write.1 = write.2 := by
  induction writes generalizing store with
  | nil => simp at member
  | cons head writes induction =>
      simp only [List.map_cons, List.nodup_cons] at distinct
      rcases List.mem_cons.mp member with here | later
      · subst here
        rw [applyWrites_cons, applyWrites_of_not_mem _ _ distinct.1,
          Function.update_self]
      · exact induction _ distinct.2 later

/-- Writes to distinct keys change nothing exactly when every one of them
writes the value which is already there. -/
theorem applyWrites_eq_self_iff {writes : List (κ × ν)} {store : κ → ν}
    (distinct : (writes.map Prod.fst).Nodup) :
    applyWrites writes store = store ↔
      ∀ write ∈ writes, write.2 = store write.1 := by
  constructor
  · intro unchanged write member
    rw [← applyWrites_of_mem write writes store distinct member, unchanged]
  · intro idle
    funext key
    by_cases member : key ∈ writes.map Prod.fst
    · obtain ⟨write, writeMember, rfl⟩ := List.mem_map.mp member
      rw [applyWrites_of_mem write writes store distinct writeMember,
        idle write writeMember]
    · exact applyWrites_of_not_mem writes store member

@[simp] theorem map_fst_displaced (writes : List (κ × ν)) (store : κ → ν) :
    (displaced writes store).map Prod.fst = writes.map Prod.fst := by
  induction writes generalizing store with
  | nil => rfl
  | cons write writes induction => simp [displaced, induction]

/-- The last write but one, when a further write comes first. -/
theorem earlierWrite_cons_of_mem {key : κ} {write : κ × ν}
    {writes : List (κ × ν)} (member : key ∈ writes.map Prod.fst) :
    earlierWrite (write :: writes) key =
      (earlierWrite writes key).or
        (if write.1 = key then some write.2 else none) := by
  have nonempty :
      (writes.filter fun write => write.1 = key).map Prod.snd ≠ [] := by
    obtain ⟨found, foundMember, sameKey⟩ := List.mem_map.mp member
    have kept : found ∈ writes.filter fun write => write.1 = key := by
      simp [foundMember, sameKey]
    simpa using List.ne_nil_of_mem kept
  unfold earlierWrite
  by_cases same : write.1 = key
  · rw [List.filter_cons_of_pos (by simpa using same), List.map_cons,
      List.dropLast_cons_of_ne_nil nonempty, if_pos same, List.getLast?_cons]
    cases ((writes.filter fun write => write.1 = key).map
      Prod.snd).dropLast.getLast? <;> rfl
  · rw [List.filter_cons_of_neg (by simpa using same), if_neg same,
      Option.or_none]

private theorem filter_key_eq_nil {key : κ} {writes : List (κ × ν)}
    (absent : key ∉ writes.map Prod.fst) :
    (writes.filter fun write => write.1 = key) = [] := by
  rw [List.filter_eq_nil_iff]
  intro write member same
  exact absent (List.mem_map.mpr ⟨write, member, by simpa using same⟩)

/-- A key written last of all was not written before. -/
theorem earlierWrite_cons_of_not_mem {key : κ} {write : κ × ν}
    {writes : List (κ × ν)} (absent : key ∉ writes.map Prod.fst) :
    earlierWrite (write :: writes) key = none := by
  by_cases same : write.1 = key
  · simp [earlierWrite, same, filter_key_eq_nil absent]
  · simp [earlierWrite, same, filter_key_eq_nil absent]

/-- Distinct keys are written at most once. -/
theorem earlierWrite_of_nodup {writes : List (κ × ν)} (key : κ)
    (distinct : (writes.map Prod.fst).Nodup) :
    earlierWrite writes key = none := by
  induction writes with
  | nil => rfl
  | cons write writes induction =>
      simp only [List.map_cons, List.nodup_cons] at distinct
      by_cases member : key ∈ writes.map Prod.fst
      · have different : write.1 ≠ key := by
          intro same
          exact distinct.1 (same ▸ member)
        rw [earlierWrite_cons_of_mem member, induction distinct.2,
          if_neg different]
        rfl
      · exact earlierWrite_cons_of_not_mem member

/-- Replaying an undo log in recording order gives every written key the value
of its last write but one, and the original value when there is none. -/
theorem applyWrites_displaced {key : κ} (writes : List (κ × ν))
    (store present : κ → ν) (member : key ∈ writes.map Prod.fst) :
    applyWrites (displaced writes store) present key =
      (earlierWrite writes key).getD (store key) := by
  induction writes generalizing store present with
  | nil => simp at member
  | cons write writes induction =>
      by_cases later : key ∈ writes.map Prod.fst
      · rw [displaced, applyWrites_cons, induction _ _ later,
          earlierWrite_cons_of_mem later]
        by_cases same : write.1 = key
        · subst same
          cases earlierWrite writes write.1 <;> simp
        · cases earlierWrite writes key <;>
            simp [same, Function.update_of_ne (Ne.symm same)]
      · have here : key = write.1 := by
          rcases List.mem_cons.mp member with same | further
          · exact same
          · exact (later further).elim
        subst here
        rw [earlierWrite_cons_of_not_mem later, displaced, applyWrites_cons,
          applyWrites_of_not_mem _ _ (by simpa using later)]
        simp

/-- The undo log of writes to distinct keys restores all of them. -/
theorem applyWrites_displaced_of_nodup {key : κ} (writes : List (κ × ν))
    (store present : κ → ν) (distinct : (writes.map Prod.fst).Nodup)
    (member : key ∈ writes.map Prod.fst) :
    applyWrites (displaced writes store) present key = store key := by
  rw [applyWrites_displaced writes store present member,
    earlierWrite_of_nodup key distinct]
  rfl

end Whitebox.Effect
