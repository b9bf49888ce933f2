import Whitebox.Utils.NormalizeJson

/-!
# What normalisation keeps

The result of a normalisation has the keys, the scalars and, up to their
order, the list items of the object it was made from.  It is its own normal
form: its keys are sorted, and treating the objects in a list cannot disturb
the order of the list, because a list with an object among several items is
never sorted.
-/

namespace Whitebox.Utils

open Whitebox.Python
open Whitebox.PartialSort (NotAfter sort sort_of_ordered sort_ordered sort_perm
  exists_of_mem_mapM mapM_eq_some_iff mapM_perm)

mutual

/-- The right side is what normalisation makes of the left one: members keep
their keys, the items of a list come in some order, and the objects among them
are normalised. -/
inductive Normalised : Json → Json → Prop
  | null : Normalised .null .null
  | bool (value : Bool) : Normalised (.bool value) (.bool value)
  | number (value : Rat) : Normalised (.number value) (.number value)
  | string (value : Str) : Normalised (.string value) (.string value)
  | list {items middle others : List Json}
      (each : NormalisedItems items middle) (perm : middle.Perm others) :
      Normalised (.list items) (.list others)
  | object {members middle others : List (Str × Json)}
      (distinct : (Json.object members).Distinct)
      (each : NormalisedMembers members middle) (perm : middle.Perm others)
      (result : normalizeJson ⟨members, distinct⟩ = some (.object others)) :
      Normalised (.object members) (.object others)

/-- An item that is no object is only reordered in its keys. -/
inductive NormalisedItems : List Json → List Json → Prop
  | nil : NormalisedItems [] []
  | object {item other : Json} {items others : List Json}
      (kind : item.isObject = true) (head : Normalised item other)
      (tail : NormalisedItems items others) :
      NormalisedItems (item :: items) (other :: others)
  | plain {item other : Json} {items others : List Json}
      (kind : item.isObject = false) (head : Shuffled false item other)
      (tail : NormalisedItems items others) :
      NormalisedItems (item :: items) (other :: others)

inductive NormalisedMembers :
    List (Str × Json) → List (Str × Json) → Prop
  | nil : NormalisedMembers [] []
  | cons {key : Str} {value other : Json} {members others : List (Str × Json)}
      (head : Normalised value other)
      (tail : NormalisedMembers members others) :
      NormalisedMembers ((key, value) :: members) ((key, other) :: others)

end

section Treatment

theorem sortListValues_eq_some_iff {members results : List (Str × Json)} :
    sortListValues members = some results ↔
      List.Forall₂ (fun member result =>
        result.1 = member.1 ∧ sortValue member.2 = some result.2)
          members results := by
  induction members generalizing results with
  | nil => simp [sortListValues, eq_comm]
  | cons member members induction =>
      obtain ⟨key, value⟩ := member
      rw [sortListValues_cons_some_iff, List.forall₂_cons_left_iff]
      simp only [← induction]
      constructor
      · rintro ⟨first, rest, treatedValue, treatedRest, same⟩
        exact ⟨(key, first), rest, ⟨rfl, treatedValue⟩, treatedRest, same⟩
      · rintro ⟨⟨name, first⟩, rest, ⟨sameKey, treatedValue⟩, treatedRest, same⟩
        cases sameKey
        exact ⟨first, rest, treatedValue, treatedRest, same⟩

/-- The loop over the members in another order gives its results in another
order. -/
theorem sortListValues_perm {members others results : List (Str × Json)}
    (perm : members.Perm others)
    (treated : sortListValues others = some results) :
    ∃ middle, sortListValues members = some middle ∧ middle.Perm results := by
  obtain ⟨middle, treats, permuted⟩ :=
    List.perm_comp_forall₂ perm (sortListValues_eq_some_iff.mp treated)
  exact ⟨middle, sortListValues_eq_some_iff.mpr treats, permuted⟩

theorem sortValue_list_some {items : List Json} {result : Json}
    (treated : sortValue (.list items) = some result) :
    ∃ sorted results, sort lessThan items = some sorted ∧
      sorted.mapM treatItem = some results ∧ result = .list results := by
  rw [sortValue_list] at treated
  obtain ⟨results, sortedTreated, rfl⟩ := Option.map_eq_some_iff.mp treated
  obtain ⟨sorted, sorts, treats⟩ := Option.bind_eq_some_iff.mp sortedTreated
  exact ⟨sorted, results, sorts, treats, rfl⟩

theorem sortValue_object_some {members : List (Str × Json)} {result : Json}
    (treated : sortValue (.object members) = some result) :
    ∃ results, sortListValues members = some results ∧
      result = .object results := by
  rw [sortValue_object] at treated
  obtain ⟨results, treats, same⟩ := Option.map_eq_some_iff.mp treated
  exact ⟨results, treats, same.symm⟩

end Treatment

section Kept

mutual

theorem normalised_of_sortValue {json result : Json}
    (distinct : json.Distinct)
    (treated : sortValue (sortKeys json) = some result) :
    Normalised json result := by
  cases json with
  | null =>
      cases treated
      exact .null
  | bool value =>
      cases treated
      exact .bool value
  | number value =>
      cases treated
      exact .number value
  | string value =>
      cases treated
      exact .string value
  | list items =>
      rw [sortKeys] at treated
      obtain ⟨sorted, results, sorts, treats, rfl⟩ :=
        sortValue_list_some treated
      obtain ⟨middle, treatedItems, perm⟩ :=
        mapM_perm (sort_perm sorts).symm treats
      exact .list (normalisedItems_of_treatItem distinct treatedItems) perm
  | object members =>
      have treatedObject := treated
      rw [sortKeys] at treated
      obtain ⟨results, treats, rfl⟩ := sortValue_object_some treated
      obtain ⟨middle, treatedMembers, perm⟩ :=
        sortListValues_perm (List.perm_insertionSort _ _).symm treats
      exact .object distinct
        (normalisedMembers_of_sortListValues distinct.2 treatedMembers) perm
        treatedObject

theorem normalisedItems_of_treatItem {items results : List Json}
    (distinct : DistinctItems items)
    (treated : (sortKeysItems items).mapM treatItem = some results) :
    NormalisedItems items results := by
  cases items with
  | nil =>
      cases treated
      exact .nil
  | cons item items =>
      rw [sortKeysItems, mapM_eq_some_iff, List.forall₂_cons_left_iff]
        at treated
      obtain ⟨first, rest, treatedItem, treatedRest, rfl⟩ := treated
      have tail := normalisedItems_of_treatItem distinct.2
        (mapM_eq_some_iff.mpr treatedRest)
      have reordered := shuffled_sortKeys false item
      cases kind : item.isObject with
      | true =>
          rw [treatItem_of_isObject (reordered.isObject ▸ kind)] at treatedItem
          exact .object kind (normalised_of_sortValue distinct.1 treatedItem)
            tail
      | false =>
          rw [treatItem_of_not_isObject (reordered.isObject ▸ kind)]
            at treatedItem
          cases treatedItem
          exact .plain kind reordered tail

theorem normalisedMembers_of_sortListValues
    {members results : List (Str × Json)} (distinct : DistinctMembers members)
    (treated : sortListValues (sortKeysMembers members) = some results) :
    NormalisedMembers members results := by
  cases members with
  | nil =>
      cases treated
      exact .nil
  | cons member members =>
      rw [sortKeysMembers] at treated
      obtain ⟨first, rest, treatedValue, treatedRest, rfl⟩ :=
        sortListValues_cons_some_iff.mp treated
      exact .cons (normalised_of_sortValue distinct.1 treatedValue)
        (normalisedMembers_of_sortListValues distinct.2 treatedRest)

end

end Kept

section SortedKeys

theorem sortKeysItems_eq_self_iff {items : List Json} :
    sortKeysItems items = items ↔ ∀ item ∈ items, sortKeys item = item := by
  induction items with
  | nil => simp [sortKeysItems]
  | cons item items induction => simp [sortKeysItems, induction]

theorem sortKeysMembers_eq_self_iff {members : List (Str × Json)} :
    sortKeysMembers members = members ↔
      ∀ member ∈ members, sortKeys member.2 = member.2 := by
  induction members with
  | nil => simp [sortKeysMembers]
  | cons member members induction =>
      obtain ⟨key, value⟩ := member
      simp [sortKeysMembers, induction]

theorem keys_sortKeysMembers (members : List (Str × Json)) :
    (sortKeysMembers members).map Prod.fst = members.map Prod.fst :=
  (shuffledMembers_sortKeys false members).keys.symm

/-- An object has sorted keys if its own keys are sorted and its values have
sorted keys. -/
theorem sortKeys_object_eq_self_iff {members : List (Str × Json)} :
    sortKeys (.object members) = .object members ↔
      (members.map Prod.fst).Pairwise (· ≤ ·) ∧
        ∀ member ∈ members, sortKeys member.2 = member.2 := by
  have ordered_iff (members : List (Str × Json)) :
      (members.map Prod.fst).Pairwise (· ≤ ·) ↔
        members.Pairwise (·.1 ≤ ·.1) :=
    List.pairwise_map
  rw [sortKeys, Json.object.injEq, ← sortKeysMembers_eq_self_iff]
  constructor
  · intro same
    have ordered : (members.map Prod.fst).Pairwise (· ≤ ·) := by
      rw [ordered_iff, ← same]
      exact List.pairwise_insertionSort _ _
    refine ⟨ordered, ?_⟩
    rw [← keys_sortKeysMembers, ordered_iff] at ordered
    rwa [ordered.insertionSort_eq] at same
  · intro ⟨ordered, same⟩
    rw [same]
    exact ((ordered_iff members).mp ordered).insertionSort_eq

theorem sortKeys_list_eq_self_iff {items : List Json} :
    sortKeys (.list items) = .list items ↔
      ∀ item ∈ items, sortKeys item = item := by
  rw [sortKeys, Json.list.injEq, sortKeysItems_eq_self_iff]

mutual

theorem sortKeys_sortKeys (json : Json) :
    sortKeys (sortKeys json) = sortKeys json := by
  cases json with
  | list items =>
      rw [sortKeys, sortKeys_list_eq_self_iff]
      exact sortKeysItems_sorted items
  | object members =>
      rw [sortKeys, sortKeys_object_eq_self_iff]
      refine ⟨List.pairwise_map.mpr (List.pairwise_insertionSort _ _), ?_⟩
      intro member inSorted
      exact sortKeysMembers_sorted members member
        ((List.perm_insertionSort _ _).mem_iff.mp inSorted)
  | _ => rfl

theorem sortKeysItems_sorted (items : List Json) :
    ∀ item ∈ sortKeysItems items, sortKeys item = item := by
  cases items with
  | nil =>
      intro item member
      cases member
  | cons item items =>
      exact List.forall_mem_cons.mpr
        ⟨sortKeys_sortKeys item, sortKeysItems_sorted items⟩

theorem sortKeysMembers_sorted (members : List (Str × Json)) :
    ∀ member ∈ sortKeysMembers members, sortKeys member.2 = member.2 := by
  cases members with
  | nil =>
      intro member inMembers
      cases inMembers
  | cons member members =>
      exact List.forall_mem_cons.mpr
        ⟨sortKeys_sortKeys member.2, sortKeysMembers_sorted members⟩

end

mutual

/-- Sorting the lists leaves the keys sorted. -/
theorem sortKeys_of_sortValue {json result : Json}
    (sorted : sortKeys json = json) (treated : sortValue json = some result) :
    sortKeys result = result := by
  cases json with
  | list items =>
      obtain ⟨reordered, results, sorts, treats, rfl⟩ :=
        sortValue_list_some treated
      rw [sortKeys_list_eq_self_iff] at sorted ⊢
      intro item member
      obtain ⟨source, inSorted, treatedSource⟩ :=
        exists_of_mem_mapM treats member
      exact sortKeys_of_treatItem sorted ((sort_perm sorts).mem_iff.mp inSorted)
        treatedSource
  | object members =>
      obtain ⟨results, treats, rfl⟩ := sortValue_object_some treated
      rw [sortKeys_object_eq_self_iff] at sorted ⊢
      refine ⟨(sortListValues_some treats).1 ▸ sorted.1, ?_⟩
      exact sortKeys_of_sortListValues sorted.2 treats
  | _ =>
      cases treated
      exact sorted
termination_by structural json

theorem sortKeys_of_treatItem {items : List Json} {item result : Json}
    (sorted : ∀ item ∈ items, sortKeys item = item) (member : item ∈ items)
    (treated : treatItem item = some result) : sortKeys result = result := by
  cases items with
  | nil => cases member
  | cons head items =>
      obtain ⟨headSorted, tailSorted⟩ := List.forall_mem_cons.mp sorted
      rcases List.mem_cons.mp member with same | later
      · rw [same] at treated
        cases kind : head.isObject with
        | true =>
            rw [treatItem_of_isObject kind] at treated
            exact sortKeys_of_sortValue headSorted treated
        | false =>
            rw [treatItem_of_not_isObject kind] at treated
            cases treated
            exact headSorted
      · exact sortKeys_of_treatItem tailSorted later treated
termination_by structural items

theorem sortKeys_of_sortListValues {members results : List (Str × Json)}
    (sorted : ∀ member ∈ members, sortKeys member.2 = member.2)
    (treated : sortListValues members = some results) :
    ∀ result ∈ results, sortKeys result.2 = result.2 := by
  cases members with
  | nil =>
      cases treated
      intro result member
      cases member
  | cons member members =>
      obtain ⟨key, value⟩ := member
      obtain ⟨headSorted, tailSorted⟩ := List.forall_mem_cons.mp sorted
      obtain ⟨first, rest, treatedValue, treatedRest, rfl⟩ :=
        sortListValues_cons_some_iff.mp treated
      exact List.forall_mem_cons.mpr
        ⟨sortKeys_of_sortValue headSorted treatedValue,
          sortKeys_of_sortListValues tailSorted treatedRest⟩
termination_by structural members

end

end SortedKeys

section SortedLists

/-- The items of a sorted list are in order. -/
theorem sort_lessThan_ordered {items sorted : List Json}
    (distinct : DistinctItems items)
    (sorts : sort lessThan items = some sorted) :
    sorted.Pairwise (NotAfter lessThan) := by
  have sortsValues : sort Value.less (items.map Json.value) =
      some (sorted.map Json.value) := by
    rw [← sort_values distinct, sorts, Option.map_some]
  have ordered := List.pairwise_map.mp
    (sort_ordered Value.less_lawful sortsValues)
  have sortedDistinct : ∀ item ∈ sorted, item.Distinct :=
    fun item member => distinctItems_iff.mp distinct item
      ((sort_perm sorts).mem_iff.mp member)
  apply ordered.imp_of_mem
  intro left right inLeft inRight notAfter
  exact (lessThan_eq (sortedDistinct right inRight)
    (sortedDistinct left inLeft)).trans notAfter

theorem mapM_treatItem_of_plain {items : List Json}
    (plain : ∀ item ∈ items, item.isObject = false) :
    items.mapM treatItem = some items := by
  rw [mapM_eq_some_iff, List.forall₂_same]
  exact fun item member => treatItem_of_not_isObject (plain item member)

/-- Treating the objects in a sorted list does not disturb its order: where
there is an object it is the only item. -/
theorem sort_of_treated {items sorted results : List Json}
    (distinct : DistinctItems items)
    (sorts : sort lessThan items = some sorted)
    (treats : sorted.mapM treatItem = some results) :
    sort lessThan results = some results := by
  apply sort_of_ordered
  have perm := sort_perm sorts
  by_cases single : items.length = 1
  · have lengths := (mapM_eq_some_iff.mp treats).length_eq
    rw [perm.length_eq, single] at lengths
    obtain ⟨result, rfl⟩ := List.length_eq_one_iff.mp lengths.symm
    exact List.pairwise_singleton _ _
  · have plain : ∀ item ∈ sorted, item.isObject = false := by
      intro item member
      by_contra object
      have unsorted := sort_eq_none_of_object distinct
        (perm.mem_iff.mp member) (Bool.eq_true_of_not_eq_false object) single
      rw [unsorted] at sorts
      cases sorts
    rw [mapM_treatItem_of_plain plain] at treats
    cases treats
    exact sort_lessThan_ordered distinct sorts

theorem treatItem_isObject {item result : Json}
    (treated : treatItem item = some result) :
    result.isObject = item.isObject := by
  cases kind : item.isObject with
  | true =>
      cases item with
      | object members =>
          rw [treatItem_of_isObject kind] at treated
          obtain ⟨results, _, rfl⟩ := sortValue_object_some treated
          rfl
      | _ => cases kind
  | false =>
      rw [treatItem_of_not_isObject kind] at treated
      cases treated
      exact kind

mutual

/-- A treated value is left alone by another treatment. -/
theorem sortValue_of_sortValue {json result : Json} (distinct : json.Distinct)
    (treated : sortValue json = some result) :
    sortValue result = some result := by
  cases json with
  | list items =>
      obtain ⟨sorted, results, sorts, treats, rfl⟩ :=
        sortValue_list_some treated
      have again : results.mapM treatItem = some results := by
        rw [mapM_eq_some_iff, List.forall₂_same]
        intro result member
        obtain ⟨source, inSorted, treatedSource⟩ :=
          exists_of_mem_mapM treats member
        exact treatItem_of_treatItem distinct
          ((sort_perm sorts).mem_iff.mp inSorted) treatedSource
      rw [sortValue_list, sort_of_treated distinct sorts treats,
        Option.bind_some, again, Option.map_some]
  | object members =>
      obtain ⟨results, treats, rfl⟩ := sortValue_object_some treated
      rw [sortValue_object, sortListValues_of_sortListValues distinct.2 treats,
        Option.map_some]
  | _ =>
      cases treated
      rfl
termination_by structural json

theorem treatItem_of_treatItem {items : List Json} {item result : Json}
    (distinct : DistinctItems items) (member : item ∈ items)
    (treated : treatItem item = some result) :
    treatItem result = some result := by
  cases items with
  | nil => cases member
  | cons head items =>
      rcases List.mem_cons.mp member with same | later
      · rw [same] at treated
        have sameKind := treatItem_isObject treated
        cases kind : head.isObject with
        | true =>
            rw [treatItem_of_isObject kind] at treated
            rw [treatItem_of_isObject (sameKind.trans kind)]
            exact sortValue_of_sortValue distinct.1 treated
        | false => exact treatItem_of_not_isObject (sameKind.trans kind)
      · exact treatItem_of_treatItem distinct.2 later treated
termination_by structural items

theorem sortListValues_of_sortListValues {members results : List (Str × Json)}
    (distinct : DistinctMembers members)
    (treated : sortListValues members = some results) :
    sortListValues results = some results := by
  cases members with
  | nil =>
      cases treated
      rfl
  | cons member members =>
      obtain ⟨key, value⟩ := member
      obtain ⟨first, rest, treatedValue, treatedRest, rfl⟩ :=
        sortListValues_cons_some_iff.mp treated
      exact sortListValues_cons_some_iff.mpr ⟨first, rest,
        sortValue_of_sortValue distinct.1 treatedValue,
        sortListValues_of_sortListValues distinct.2 treatedRest, rfl⟩
termination_by structural members

end

end SortedLists

/-- A normalised object is made of what was there, and normalising it again
returns it as it is. -/
theorem normalizeJson_stable (json : JsonObject) {result : Json}
    (normalized : normalizeJson json = some result) :
    Normalised (.object json.members) result ∧
      ∃ stable : JsonObject, result = .object stable.members ∧
        normalizeJson stable = some result := by
  have distinct := normalizeJson_distinct normalized
  refine ⟨normalised_of_sortValue json.distinct normalized, ?_⟩
  rw [normalizeJson] at normalized
  have sortedKeys : sortKeys result = result :=
    sortKeys_of_sortValue (sortKeys_sortKeys _) normalized
  have sortedLists : sortValue result = some result :=
    sortValue_of_sortValue
      ((shuffled_sortKeys true _).distinct json.distinct) normalized
  rw [sortKeys] at normalized
  obtain ⟨members, _, rfl⟩ := sortValue_object_some normalized
  refine ⟨⟨members, distinct⟩, rfl, ?_⟩
  rw [normalizeJson, sortedKeys, sortedLists]

/-- An object whose keys and lists are out of order, with a list inside an
object inside a list. -/
def unsortedAggregates : List (Str × Json) :=
  [("b".toList, .list [.number 2, .bool true]),
    ("a".toList, .list [.object
      [("d".toList, .list [.string "y".toList, .string "x".toList]),
        ("c".toList, .null)]])]

theorem unsortedAggregates_distinct :
    (Json.object unsortedAggregates).Distinct := by
  simp [unsortedAggregates, Json.Distinct, DistinctItems, DistinctMembers]

def sortedAggregates : List (Str × Json) :=
  [("a".toList, .list [.object
      [("c".toList, .null),
        ("d".toList, .list [.string "x".toList, .string "y".toList])]]),
    ("b".toList, .list [.bool true, .number 2])]

theorem normalizeJson_unsortedAggregates_stable :
    Normalised (.object unsortedAggregates) (.object sortedAggregates) ∧
      ∃ stable : JsonObject,
        Json.object sortedAggregates = .object stable.members ∧
          normalizeJson stable = some (.object sortedAggregates) :=
  normalizeJson_stable ⟨unsortedAggregates, unsortedAggregates_distinct⟩ rfl

end Whitebox.Utils
