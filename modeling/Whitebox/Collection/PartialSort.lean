import Mathlib.Data.List.Perm.Basic
import Mathlib.Order.Lattice

/-!
# Sorting with a comparison that may fail

A comparison of two items answers whether the first is less than the second,
or fails.  Sorting by insertion fails as soon as a comparison that it makes
fails.  Under the laws below a sort succeeds exactly when all pairs of items
are comparable, although it does not compare all pairs: what stands between
two comparable neighbours is comparable to both.  The items of a sorted list
can be treated further by a function that may fail as well.
-/

namespace Whitebox.PartialSort

variable {α β : Type}

def insertSorted (less : α → α → Option Bool) (item : α) :
    List α → Option (List α)
  | [] => some [item]
  | head :: tail =>
      match less item head with
      | none => none
      | some true => some (item :: head :: tail)
      | some false => (insertSorted less item tail).map (head :: ·)

/-- Insert the items one after the other, each behind its equals. -/
def sort (less : α → α → Option Bool) (items : List α) : Option (List α) :=
  items.foldlM (fun sorted item => insertSorted less item sorted) []

/-- The answers for two items in both directions fit together. -/
inductive Compared (a b : α) : Option Bool → Option Bool → Prop
  | incomparable : Compared a b none none
  | before : Compared a b (some true) (some false)
  | after : Compared a b (some false) (some true)
  | equal (same : a = b) : Compared a b (some false) (some false)

theorem Compared.congr {a b : α} {forward backward : Option Bool}
    (compared : Compared a b forward backward) (image : α → β) :
    Compared (image a) (image b) forward backward := by
  cases compared with
  | incomparable => exact .incomparable
  | before => exact .before
  | after => exact .after
  | equal same => exact .equal (congrArg image same)

theorem Compared.of_ne {a b : α} {forward backward : Option Bool}
    (compared : Compared a b forward backward) (different : a ≠ b)
    (c d : β) : Compared c d forward backward := by
  cases compared with
  | incomparable => exact .incomparable
  | before => exact .before
  | after => exact .after
  | equal same => exact absurd same different

theorem Compared.of_linearOrder [LinearOrder α] (a b : α)
    [Decidable (a < b)] [Decidable (b < a)] :
    Compared a b (some (decide (a < b))) (some (decide (b < a))) := by
  rcases lt_trichotomy a b with less | same | greater
  · rw [decide_eq_true less, decide_eq_false (lt_asymm less)]
    exact .before
  · rw [decide_eq_false (not_lt.mpr (le_of_eq same.symm)),
      decide_eq_false (not_lt.mpr (le_of_eq same))]
    exact .equal same
  · rw [decide_eq_true greater, decide_eq_false (lt_asymm greater)]
    exact .after

structure Lawful (less : α → α → Option Bool) : Prop where
  compared : ∀ a b, Compared a b (less a b) (less b a)
  trans : ∀ {a b c}, less b a = some false → less c b = some false →
    less c a = some false

def NotAfter (less : α → α → Option Bool) (a b : α) : Prop :=
  less b a = some false

def Comparable (less : α → α → Option Bool) (a b : α) : Prop :=
  less a b ≠ none

variable {less : α → α → Option Bool}

theorem Lawful.asymm (lawful : Lawful less) {a b : α}
    (before : less a b = some true) : less b a = some false := by
  have compared := lawful.compared a b
  rw [before] at compared
  generalize less b a = backward at compared
  cases compared
  rfl

theorem Lawful.partner (lawful : Lawful less) {a b : α}
    (failed : less a b = none) : less b a = none := by
  have compared := lawful.compared a b
  rw [failed] at compared
  generalize less b a = backward at compared
  cases compared
  rfl

theorem Lawful.antisymm (lawful : Lawful less) {a b : α}
    (forward : NotAfter less a b) (backward : NotAfter less b a) : a = b := by
  have compared := lawful.compared a b
  rw [NotAfter] at forward backward
  rw [forward, backward] at compared
  cases compared with
  | equal same => exact same

theorem Lawful.comparable_symm (lawful : Lawful less) {a b : α}
    (comparable : Comparable less a b) : Comparable less b a :=
  fun failed => comparable (lawful.partner failed)

theorem Lawful.comparable_of_notAfter (lawful : Lawful less) {a b : α}
    (notAfter : NotAfter less a b) : Comparable less a b := by
  intro failed
  rw [NotAfter, lawful.partner failed] at notAfter
  cases notAfter

section Insert

theorem insertSorted_perm {item : α} {items result : List α}
    (inserted : insertSorted less item items = some result) :
    result.Perm (item :: items) := by
  induction items generalizing result with
  | nil =>
      cases inserted
      exact .refl _
  | cons head tail induction =>
      rw [insertSorted] at inserted
      split at inserted
      · cases inserted
      · cases inserted
        exact .refl _
      · obtain ⟨rest, insertedTail, rfl⟩ := Option.map_eq_some_iff.mp inserted
        exact ((induction insertedTail).cons head).trans (.swap item head tail)

theorem insertSorted_ordered (lawful : Lawful less) {item : α}
    {items result : List α} (ordered : items.Pairwise (NotAfter less))
    (inserted : insertSorted less item items = some result) :
    result.Pairwise (NotAfter less) := by
  induction items generalizing result with
  | nil =>
      cases inserted
      exact List.pairwise_singleton _ _
  | cons head tail induction =>
      obtain ⟨first, rest⟩ := List.pairwise_cons.mp ordered
      rw [insertSorted] at inserted
      split at inserted
      · cases inserted
      · next before =>
          cases inserted
          have itemFirst : NotAfter less item head := lawful.asymm before
          refine List.pairwise_cons.mpr ⟨?_, ordered⟩
          intro other member
          rcases List.mem_cons.mp member with rfl | later
          · exact itemFirst
          · exact lawful.trans itemFirst (first other later)
      · next behind =>
          obtain ⟨others, insertedTail, rfl⟩ :=
            Option.map_eq_some_iff.mp inserted
          refine List.pairwise_cons.mpr ⟨?_, induction rest insertedTail⟩
          intro other member
          have origin := (insertSorted_perm insertedTail).mem_iff.mp member
          rcases List.mem_cons.mp origin with rfl | later
          · exact behind
          · exact first other later

theorem insertSorted_none {item : α} {items : List α}
    (refused : insertSorted less item items = none) :
    ∃ other ∈ items, less item other = none := by
  induction items with
  | nil => cases refused
  | cons head tail induction =>
      rw [insertSorted] at refused
      split at refused
      · next failed => exact ⟨head, by simp, failed⟩
      · cases refused
      · obtain ⟨other, member, failed⟩ :=
          induction (Option.map_eq_none_iff.mp refused)
        exact ⟨other, List.mem_cons_of_mem head member, failed⟩

/-- What stands behind all items is inserted at the end. -/
theorem insertSorted_of_last {item : α} {items : List α}
    (last : ∀ other ∈ items, NotAfter less other item) :
    insertSorted less item items = some (items ++ [item]) := by
  induction items with
  | nil => rfl
  | cons head tail induction =>
      obtain ⟨headFirst, tailFirst⟩ := List.forall_mem_cons.mp last
      rw [NotAfter] at headFirst
      simp only [insertSorted, headFirst, induction tailFirst, Option.map_some,
        List.cons_append]

theorem insertSorted_map {image : α → β} {imageLess : β → β → Option Bool}
    {item : α} {items : List α}
    (agrees : ∀ other ∈ items,
      less item other = imageLess (image item) (image other)) :
    (insertSorted less item items).map (List.map image) =
      insertSorted imageLess (image item) (items.map image) := by
  induction items with
  | nil => rfl
  | cons head tail induction =>
      have tailAgrees := induction fun other member =>
        agrees other (List.mem_cons_of_mem head member)
      rw [List.map_cons, insertSorted, insertSorted, agrees head (by simp)]
      cases imageLess (image item) (image head) with
      | none => rfl
      | some before =>
          cases before with
          | true => rfl
          | false =>
              simp only [← tailAgrees, Option.map_map, Function.comp_def,
                List.map_cons]

end Insert

section Sorting

theorem foldlM_insertSorted_perm {items sorted result : List α}
    (inserted : items.foldlM
      (fun sorted item => insertSorted less item sorted) sorted =
        some result) :
    result.Perm (sorted ++ items) := by
  induction items generalizing sorted with
  | nil =>
      cases inserted
      rw [List.append_nil]
  | cons item items induction =>
      rw [List.foldlM_cons] at inserted
      obtain ⟨next, first, rest⟩ := Option.bind_eq_some_iff.mp inserted
      calc
        result.Perm (next ++ items) := induction rest
        _ |>.Perm (item :: sorted ++ items) :=
          (insertSorted_perm first).append_right items
        _ |>.Perm (sorted ++ item :: items) := List.perm_middle.symm

theorem foldlM_insertSorted_ordered (lawful : Lawful less)
    {items sorted result : List α} (ordered : sorted.Pairwise (NotAfter less))
    (inserted : items.foldlM
      (fun sorted item => insertSorted less item sorted) sorted =
        some result) :
    result.Pairwise (NotAfter less) := by
  induction items generalizing sorted with
  | nil =>
      cases inserted
      exact ordered
  | cons item items induction =>
      rw [List.foldlM_cons] at inserted
      obtain ⟨next, first, rest⟩ := Option.bind_eq_some_iff.mp inserted
      exact induction (insertSorted_ordered lawful ordered first) rest

theorem foldlM_insertSorted_isSome (lawful : Lawful less)
    {items sorted : List α}
    (comparable : (sorted ++ items).Pairwise (Comparable less)) :
    ∃ result, items.foldlM
      (fun sorted item => insertSorted less item sorted) sorted =
        some result := by
  induction items generalizing sorted with
  | nil => exact ⟨sorted, rfl⟩
  | cons item items induction =>
      cases inserted : insertSorted less item sorted with
      | none =>
          obtain ⟨other, member, failed⟩ := insertSorted_none inserted
          have pair := (List.pairwise_append.mp comparable).2.2
            other member item (by simp)
          exact absurd (lawful.partner failed) pair
      | some next =>
          have perm : (sorted ++ item :: items).Perm (next ++ items) :=
            List.perm_middle.trans
              ((insertSorted_perm inserted).symm.append_right items)
          obtain ⟨result, rest⟩ := induction
            ((perm.pairwise_iff lawful.comparable_symm).mp comparable)
          refine ⟨result, ?_⟩
          rw [List.foldlM_cons, inserted]
          exact rest

theorem sort_perm {items result : List α}
    (sorted : sort less items = some result) : result.Perm items :=
  foldlM_insertSorted_perm sorted

theorem sort_ordered (lawful : Lawful less) {items result : List α}
    (sorted : sort less items = some result) :
    result.Pairwise (NotAfter less) :=
  foldlM_insertSorted_ordered lawful .nil sorted

theorem foldlM_insertSorted_of_ordered {items sorted : List α}
    (ordered : (sorted ++ items).Pairwise (NotAfter less)) :
    items.foldlM (fun sorted item => insertSorted less item sorted) sorted =
      some (sorted ++ items) := by
  induction items generalizing sorted with
  | nil => simp
  | cons item items induction =>
      have last : ∀ other ∈ sorted, NotAfter less other item :=
        fun other member => (List.pairwise_append.mp ordered).2.2
          other member item List.mem_cons_self
      rw [List.append_cons] at ordered ⊢
      rw [List.foldlM_cons, insertSorted_of_last last]
      exact induction ordered

/-- A sort leaves a sorted list alone. -/
theorem sort_of_ordered {items : List α}
    (ordered : items.Pairwise (NotAfter less)) :
    sort less items = some items :=
  foldlM_insertSorted_of_ordered ordered

/-- A sort succeeds exactly when any two items are comparable. -/
theorem sort_isSome_iff (lawful : Lawful less) {items : List α} :
    (∃ result, sort less items = some result) ↔
      items.Pairwise (Comparable less) := by
  constructor
  · intro ⟨result, sorted⟩
    refine ((sort_perm sorted).pairwise_iff lawful.comparable_symm).mp ?_
    exact (sort_ordered lawful sorted).imp lawful.comparable_of_notAfter
  · intro comparable
    exact foldlM_insertSorted_isSome lawful comparable

/-- The result of a sort does not depend on the order of the items. -/
theorem sort_congr (lawful : Lawful less) {left right : List α} (perm : left.Perm right) :
    sort less left = sort less right := by
  have defined : (∃ result, sort less left = some result) ↔
      ∃ result, sort less right = some result := by
    rw [sort_isSome_iff lawful, sort_isSome_iff lawful]
    exact perm.pairwise_iff lawful.comparable_symm
  cases sortedLeft : sort less left with
  | none =>
      cases sortedRight : sort less right with
      | none => rfl
      | some result =>
          obtain ⟨_, contradiction⟩ := defined.mpr ⟨result, sortedRight⟩
          rw [sortedLeft] at contradiction
          cases contradiction
  | some leftResult =>
      obtain ⟨rightResult, sortedRight⟩ := defined.mp ⟨leftResult, sortedLeft⟩
      have resultPerm : leftResult.Perm rightResult :=
        (sort_perm sortedLeft).trans (perm.trans (sort_perm sortedRight).symm)
      have same : leftResult = rightResult :=
        resultPerm.eq_of_pairwise (fun a b _ _ => lawful.antisymm)
          (sort_ordered lawful sortedLeft) (sort_ordered lawful sortedRight)
      rw [sortedRight, same]

theorem foldlM_insertSorted_map {image : α → β}
    {imageLess : β → β → Option Bool} {items sorted : List α}
    (agrees : ∀ a ∈ sorted ++ items, ∀ b ∈ sorted ++ items,
      less a b = imageLess (image a) (image b)) :
    (items.foldlM (fun sorted item => insertSorted less item sorted)
      sorted).map (List.map image) =
      (items.map image).foldlM
        (fun sorted item => insertSorted imageLess item sorted)
        (sorted.map image) := by
  induction items generalizing sorted with
  | nil => rfl
  | cons item items induction =>
      have step : (insertSorted less item sorted).map (List.map image) =
          insertSorted imageLess (image item) (sorted.map image) :=
        insertSorted_map fun other member =>
          agrees item (by simp) other (by simp [member])
      rw [List.map_cons, List.foldlM_cons, List.foldlM_cons, ← step]
      cases inserted : insertSorted less item sorted with
      | none => rfl
      | some next =>
          apply induction
          have members : ∀ a ∈ next ++ items, a ∈ sorted ++ item :: items := by
            intro a member
            have origin := ((insertSorted_perm inserted).append_right
              items).mem_iff.mp member
            exact List.perm_middle.mem_iff.mpr origin
          intro a inLeft b inRight
          exact agrees a (members a inLeft) b (members b inRight)

/-- Sorting commutes with a map that keeps the comparison. -/
theorem sort_map {image : α → β} {imageLess : β → β → Option Bool}
    {items : List α}
    (agrees : ∀ a ∈ items, ∀ b ∈ items,
      less a b = imageLess (image a) (image b)) :
    (sort less items).map (List.map image) =
      sort imageLess (items.map image) :=
  foldlM_insertSorted_map agrees

end Sorting

section Treatment

variable {treat : α → Option β}

theorem mapM_isSome_iff {items : List α} :
    (∃ results, items.mapM treat = some results) ↔
      ∀ item ∈ items, ∃ result, treat item = some result := by
  induction items with
  | nil => simp
  | cons item items induction =>
      rw [List.forall_mem_cons, ← induction, List.mapM_cons]
      cases treat item with
      | none => simp
      | some result => cases items.mapM treat <;> simp

theorem exists_of_mem_mapM {items : List α} {results : List β}
    (treated : items.mapM treat = some results) {result : β}
    (member : result ∈ results) :
    ∃ item ∈ items, treat item = some result := by
  induction items generalizing results with
  | nil =>
      cases treated
      cases member
  | cons item items induction =>
      rw [List.mapM_cons] at treated
      obtain ⟨first, treatedItem, treated⟩ := Option.bind_eq_some_iff.mp treated
      obtain ⟨rest, treatedRest, treated⟩ := Option.bind_eq_some_iff.mp treated
      cases treated
      rcases List.mem_cons.mp member with rfl | later
      · exact ⟨item, List.mem_cons_self, treatedItem⟩
      · obtain ⟨source, inItems, treatedSource⟩ := induction treatedRest later
        exact ⟨source, List.mem_cons_of_mem item inItems, treatedSource⟩

theorem mapM_eq_some_iff {items : List α} {results : List β} :
    items.mapM treat = some results ↔
      List.Forall₂ (fun item result => treat item = some result)
        items results := by
  induction items generalizing results with
  | nil => simp [eq_comm]
  | cons item items induction =>
      rw [List.mapM_cons, List.forall₂_cons_left_iff]
      simp only [← induction]
      cases treat item with
      | none => simp
      | some result => cases items.mapM treat <;> simp [eq_comm]

/-- Treating the items in another order gives the results in another order. -/
theorem mapM_perm {items others : List α} {results : List β}
    (perm : items.Perm others) (treated : others.mapM treat = some results) :
    ∃ middle, items.mapM treat = some middle ∧ middle.Perm results := by
  obtain ⟨middle, treats, permuted⟩ :=
    List.perm_comp_forall₂ perm (mapM_eq_some_iff.mp treated)
  exact ⟨middle, mapM_eq_some_iff.mpr treats, permuted⟩

theorem mapM_map_result {γ : Type} (image : β → γ) (items : List α) :
    (items.mapM treat).map (List.map image) =
      items.mapM fun item => (treat item).map image := by
  induction items with
  | nil => rfl
  | cons item items induction =>
      rw [List.mapM_cons, List.mapM_cons, ← induction]
      cases treat item with
      | none => rfl
      | some result => cases items.mapM treat <;> rfl

theorem mapM_snd_pair (items : List α) :
    (items.map fun item => (item, treat item)).mapM Prod.snd =
      items.mapM treat := by
  induction items with
  | nil => rfl
  | cons item items induction =>
      rw [List.map_cons, List.mapM_cons, List.mapM_cons, induction]

/-- Carrying the treated items through a sort is treating the items after it. -/
theorem sort_carrying (items : List α) :
    (sort (fun left right => less left.1 right.1)
      (items.map fun item => (item, treat item))).bind
        (fun sorted => sorted.mapM Prod.snd) =
      (sort less items).bind fun sorted => sorted.mapM treat := by
  have carried : (sort less items).map
      (List.map fun item => (item, treat item)) =
        sort (fun left right => less left.1 right.1)
          (items.map fun item => (item, treat item)) :=
    sort_map fun _ _ _ _ => rfl
  rw [← carried]
  cases sort less items with
  | none => rfl
  | some sorted => exact mapM_snd_pair sorted

end Treatment

end Whitebox.PartialSort
