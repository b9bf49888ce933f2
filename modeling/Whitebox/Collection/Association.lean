import Mathlib.Data.List.Nodup

/-!
# Association lists with distinct keys

Looking a key up finds its first entry.  Where no key occurs twice, an entry
is found exactly if it is in the list, so lookups do not depend on the order
of the entries.  Assigning to a key replaces its entry or appends a new one,
so that the last assignment to a key is the one that is found.
-/

namespace Whitebox.Association

variable {κ β : Type} [BEq κ] [LawfulBEq κ]

theorem lookup_cons_of_ne {key name : κ} (different : key ≠ name)
    (value : β) (entries : List (κ × β)) :
    ((name, value) :: entries).lookup key = entries.lookup key := by
  rw [List.lookup_cons, beq_eq_false_iff_ne.mpr different]

theorem lookup_eq_some_iff {entries : List (κ × β)}
    (distinct : (entries.map Prod.fst).Nodup) {key : κ} {value : β} :
    entries.lookup key = some value ↔ (key, value) ∈ entries := by
  induction entries with
  | nil => simp
  | cons entry entries induction =>
      obtain ⟨name, first⟩ := entry
      rw [List.map_cons, List.nodup_cons] at distinct
      by_cases found : key = name
      · subst found
        have absent : (key, value) ∉ entries := fun later =>
          distinct.1 (List.mem_map.mpr ⟨_, later, rfl⟩)
        simp [absent, eq_comm]
      · rw [lookup_cons_of_ne found, induction distinct.2, List.mem_cons]
        simp [found]

theorem lookup_eq_none_iff_keys {entries : List (κ × β)} {key : κ} :
    entries.lookup key = none ↔ key ∉ entries.map Prod.fst := by
  rw [List.lookup_eq_none_iff]
  simp only [bne_iff_ne, List.mem_map, not_exists, not_and]
  exact forall₂_congr fun entry _ => ne_comm

omit [LawfulBEq κ] in
theorem lookup_map {γ : Type} (change : β → γ) (entries : List (κ × β)) (key : κ) :
    (entries.map fun entry => (entry.1, change entry.2)).lookup key =
      (entries.lookup key).map change := by
  induction entries with
  | nil => rfl
  | cons entry entries induction =>
      obtain ⟨name, value⟩ := entry
      rw [List.map_cons, List.lookup_cons, List.lookup_cons, induction]
      cases key == name <;> rfl

/-- The order of the entries does not matter to a lookup. -/
theorem lookup_perm {entries others : List (κ × β)}
    (distinct : (entries.map Prod.fst).Nodup) (perm : entries.Perm others)
    (key : κ) : entries.lookup key = others.lookup key := by
  have othersDistinct := (perm.map Prod.fst).nodup_iff.mp distinct
  ext value
  rw [lookup_eq_some_iff distinct, lookup_eq_some_iff othersDistinct,
    perm.mem_iff]

section Assign

/-- `entries[key] = value`. -/
def assign (key : κ) (value : β) : List (κ × β) → List (κ × β)
  | [] => [(key, value)]
  | (name, present) :: entries =>
      if key == name then (name, value) :: entries
      else (name, present) :: assign key value entries

/-- A sequence of assignments. -/
def assignAll (writes entries : List (κ × β)) : List (κ × β) :=
  writes.foldl (fun reached write => assign write.1 write.2 reached) entries

/-- A new key stands last. -/
theorem assign_of_not_mem {key : κ} {value : β} {entries : List (κ × β)}
    (fresh : key ∉ entries.map Prod.fst) :
    assign key value entries = entries ++ [(key, value)] := by
  induction entries with
  | nil => rfl
  | cons entry entries induction =>
      obtain ⟨name, present⟩ := entry
      have different : key ≠ name := fun same => fresh (by simp [same])
      have later := induction fun member => fresh (by simp [member])
      rw [assign, if_neg (by simpa using different), later]
      rfl

theorem lookup_assign_self (key : κ) (value : β) (entries : List (κ × β)) :
    (assign key value entries).lookup key = some value := by
  induction entries with
  | nil => simp [assign]
  | cons entry entries induction =>
      obtain ⟨name, present⟩ := entry
      by_cases found : key = name
      · simp [assign, found]
      · rw [assign, if_neg (by simpa using found), lookup_cons_of_ne found]
        exact induction

theorem lookup_assign_of_ne {key other : κ} (different : other ≠ key)
    (value : β) (entries : List (κ × β)) :
    (assign key value entries).lookup other = entries.lookup other := by
  induction entries with
  | nil => exact lookup_cons_of_ne different value []
  | cons entry entries induction =>
      obtain ⟨name, present⟩ := entry
      by_cases found : key = name
      · subst found
        simp only [assign, BEq.rfl, if_true]
        rw [lookup_cons_of_ne different, lookup_cons_of_ne different]
      · rw [assign, if_neg (by simpa using found), List.lookup_cons,
          List.lookup_cons, induction]

theorem mem_keys_assign {key name : κ} {value : β} {entries : List (κ × β)} :
    name ∈ (assign key value entries).map Prod.fst ↔
      name = key ∨ name ∈ entries.map Prod.fst := by
  rw [← not_iff_not, ← lookup_eq_none_iff_keys, not_or,
    ← lookup_eq_none_iff_keys]
  by_cases same : name = key
  · simp [same, lookup_assign_self]
  · simp [same, lookup_assign_of_ne same]

theorem nodup_keys_assign {key : κ} {value : β} {entries : List (κ × β)}
    (distinct : (entries.map Prod.fst).Nodup) :
    ((assign key value entries).map Prod.fst).Nodup := by
  induction entries with
  | nil => simp [assign]
  | cons entry entries induction =>
      obtain ⟨name, present⟩ := entry
      rw [List.map_cons, List.nodup_cons] at distinct
      by_cases found : key = name
      · simpa [assign, found] using distinct
      · rw [assign, if_neg (by simpa using found), List.map_cons,
          List.nodup_cons, mem_keys_assign]
        refine ⟨?_, induction distinct.2⟩
        rintro (same | member)
        · exact found same.symm
        · exact distinct.1 member

/-- The last assignment to a key is found. -/
theorem lookup_assignAll (writes entries : List (κ × β)) (key : κ) :
    (assignAll writes entries).lookup key =
      ((writes.filter fun write => key == write.1).getLast?.map
        Prod.snd).or (entries.lookup key) := by
  induction writes generalizing entries with
  | nil => rfl
  | cons write writes induction =>
      have step := induction (assign write.1 write.2 entries)
      rw [assignAll] at step ⊢
      rw [List.foldl_cons, step]
      by_cases same : key = write.1
      · rw [List.filter_cons_of_pos (by simpa using same), same,
          lookup_assign_self, List.getLast?_cons]
        cases (writes.filter fun other => write.1 == other.1).getLast? <;> rfl
      · rw [List.filter_cons_of_neg (by simpa using same),
          lookup_assign_of_ne same]

/-- Assignments to new keys append their entries. -/
theorem assignAll_of_nodup {writes entries : List (κ × β)}
    (distinct : ((entries ++ writes).map Prod.fst).Nodup) :
    assignAll writes entries = entries ++ writes := by
  induction writes generalizing entries with
  | nil => exact (List.append_nil entries).symm
  | cons write writes induction =>
      have fresh : write.1 ∉ entries.map Prod.fst := by
        rw [List.map_append, List.map_cons, List.nodup_append] at distinct
        intro member
        exact distinct.2.2 _ member _ List.mem_cons_self rfl
      rw [← List.singleton_append, ← List.append_assoc] at distinct ⊢
      rw [← induction distinct, assignAll, assignAll, List.foldl_append,
        List.foldl_cons, List.foldl_nil, assign_of_not_mem fresh]

end Assign

end Whitebox.Association
