import Whitebox.Utils.JsonValue

/-!
# What normalisation identifies

Two JSON objects that differ by the order of keys and of the lists that
normalisation sorts have the same normal form, if they have one.  They have
one exactly when every such list holds items that Python can compare with
each other.
-/

namespace Whitebox.Utils

open Whitebox.Python
open Whitebox.Association
open Whitebox.PartialSort (Comparable sort sort_carrying sort_congr
  sort_isSome_iff sort_map mapM_isSome_iff mapM_map_result exists_of_mem_mapM)

def Json.isObject : Json → Bool
  | .object _ => true
  | _ => false

mutual

/-- The right side is the left one with keys reordered and, where `reached`
holds, lists that are values of objects permuted.  A list passes `reached` on
to the objects among its items only. -/
inductive Shuffled : Bool → Json → Json → Prop
  | null {reached : Bool} : Shuffled reached .null .null
  | bool {reached : Bool} (value : Bool) :
      Shuffled reached (.bool value) (.bool value)
  | number {reached : Bool} (value : Rat) :
      Shuffled reached (.number value) (.number value)
  | string {reached : Bool} (value : Str) :
      Shuffled reached (.string value) (.string value)
  | kept {items others : List Json}
      (shuffled : ShuffledItems false items others) :
      Shuffled false (.list items) (.list others)
  | permuted {items middle others : List Json}
      (shuffled : ShuffledItems true items middle)
      (perm : middle.Perm others) :
      Shuffled true (.list items) (.list others)
  | object {reached : Bool} {members middle others : List (Str × Json)}
      (shuffled : ShuffledMembers reached members middle)
      (perm : middle.Perm others) :
      Shuffled reached (.object members) (.object others)

inductive ShuffledItems : Bool → List Json → List Json → Prop
  | nil {reached : Bool} : ShuffledItems reached [] []
  | cons {reached : Bool} {item other : Json} {items others : List Json}
      (head : Shuffled (reached && item.isObject) item other)
      (tail : ShuffledItems reached items others) :
      ShuffledItems reached (item :: items) (other :: others)

inductive ShuffledMembers :
    Bool → List (Str × Json) → List (Str × Json) → Prop
  | nil {reached : Bool} : ShuffledMembers reached [] []
  | cons {reached : Bool} {key : Str} {value other : Json}
      {members others : List (Str × Json)}
      (head : Shuffled reached value other)
      (tail : ShuffledMembers reached members others) :
      ShuffledMembers reached ((key, value) :: members)
        ((key, other) :: others)

end

mutual

/-- Every list that normalisation sorts holds items that are comparable with
each other. -/
def Sortable : Json → Prop
  | .list items =>
      items.Pairwise (Comparable lessThan) ∧ SortableItems items
  | .object members => SortableMembers members
  | _ => True

def SortableItems : List Json → Prop
  | [] => True
  | .object members :: items => SortableMembers members ∧ SortableItems items
  | _ :: items => SortableItems items

def SortableMembers : List (Str × Json) → Prop
  | [] => True
  | (_, value) :: members => Sortable value ∧ SortableMembers members

end

section Equations

theorem withTreated_eq_map (items : List Json) :
    withTreated items = items.map fun item => (item, treatItem item) := by
  induction items with
  | nil => rfl
  | cons item items induction =>
      rw [withTreated, induction, List.map_cons]

/-- A list is sorted first and its items are treated afterwards. -/
theorem sortValue_list (items : List Json) :
    sortValue (.list items) =
      ((sort lessThan items).bind fun sorted =>
        sorted.mapM treatItem).map Json.list := by
  rw [← sort_carrying, ← withTreated_eq_map, Option.map_bind, sortValue]
  congr 1
  funext sorted
  rw [Function.comp_apply, Option.map_eq_bind]
  rfl

theorem sortValue_object (members : List (Str × Json)) :
    sortValue (.object members) =
      (sortListValues members).map Json.object := by
  rw [sortValue, Option.map_eq_bind]
  rfl

theorem treatItem_of_isObject {item : Json} (object : item.isObject = true) :
    treatItem item = sortValue item := by
  cases item with
  | object members => rw [treatItem, sortValue]
  | _ => cases object

theorem treatItem_of_not_isObject {item : Json}
    (plain : item.isObject = false) : treatItem item = some item := by
  cases item with
  | object members => cases plain
  | _ => rfl

theorem sortListValues_cons_some_iff {key : Str} {value : Json}
    {members results : List (Str × Json)} :
    sortListValues ((key, value) :: members) = some results ↔
      ∃ first rest, sortValue value = some first ∧
        sortListValues members = some rest ∧
          results = (key, first) :: rest := by
  rw [sortListValues]
  cases sortValue value with
  | none => simp
  | some first => cases sortListValues members <;> simp [eq_comm]

theorem sortListValues_isSome_iff {members : List (Str × Json)} :
    (∃ results, sortListValues members = some results) ↔
      ∀ member ∈ members, ∃ result, sortValue member.2 = some result := by
  induction members with
  | nil => simp [sortListValues]
  | cons member members induction =>
      rw [List.forall_mem_cons, ← induction]
      constructor
      · intro ⟨results, treated⟩
        obtain ⟨first, rest, treatedValue, treatedRest, _⟩ :=
          sortListValues_cons_some_iff.mp treated
        exact ⟨⟨first, treatedValue⟩, rest, treatedRest⟩
      · intro ⟨⟨first, treatedValue⟩, rest, treatedRest⟩
        exact ⟨_, sortListValues_cons_some_iff.mpr
          ⟨first, rest, treatedValue, treatedRest, rfl⟩⟩

/-- The result of the loop has the same keys, each with its treated value. -/
theorem sortListValues_some {members results : List (Str × Json)}
    (treated : sortListValues members = some results) :
    results.map Prod.fst = members.map Prod.fst ∧
      ∀ key, results.lookup key = (members.lookup key).bind sortValue := by
  induction members generalizing results with
  | nil =>
      cases treated
      simp
  | cons member members induction =>
      obtain ⟨name, value⟩ := member
      obtain ⟨first, rest, treatedValue, treatedRest, rfl⟩ :=
        sortListValues_cons_some_iff.mp treated
      obtain ⟨keys, lookups⟩ := induction treatedRest
      refine ⟨by rw [List.map_cons, List.map_cons, keys], ?_⟩
      intro key
      by_cases found : key = name
      · simp [found, treatedValue]
      · rw [lookup_cons_of_ne found, lookup_cons_of_ne found, lookups]

end Equations

section Outcome

/-- The value of what normalisation makes of a value of an object. -/
def outcome (json : Json) : Option Value :=
  (sortValue json).map Json.value

def itemOutcome (item : Json) : Option Value :=
  (treatItem item).map Json.value

theorem itemOutcome_of_isObject {item : Json} (object : item.isObject = true) :
    itemOutcome item = outcome item := by
  rw [itemOutcome, treatItem_of_isObject object, outcome]

theorem itemOutcome_of_not_isObject {item : Json}
    (plain : item.isObject = false) : itemOutcome item = some item.value := by
  rw [itemOutcome, treatItem_of_not_isObject plain, Option.map_some]

theorem outcome_list (items : List Json) :
    outcome (.list items) =
      (sort lessThan items).bind fun sorted =>
        (sorted.mapM itemOutcome).map Value.list := by
  rw [outcome, sortValue_list, Option.map_map, Option.map_bind]
  congr 1
  funext sorted
  have values : (sorted.mapM treatItem).map (List.map Json.value) =
      sorted.mapM itemOutcome :=
    mapM_map_result Json.value sorted
  rw [← values, Option.map_map, Function.comp_apply]
  congr 1
  funext results
  rw [Function.comp_apply, Function.comp_apply, Json.value, itemValues_eq_map]

theorem outcome_singleton (item : Json) :
    outcome (.list [item]) =
      (itemOutcome item).map fun value => Value.list [value] := by
  rw [outcome_list]
  cases treated : itemOutcome item with
  | none => simp [sort, PartialSort.insertSorted, treated]
  | some value => simp [sort, PartialSort.insertSorted, treated]

/-- Sorting JSON values is sorting their values. -/
theorem sort_values {items : List Json} (distinct : DistinctItems items) :
    (sort lessThan items).map (List.map Json.value) =
      sort Value.less (items.map Json.value) := by
  rw [distinctItems_iff] at distinct
  apply sort_map
  intro left inLeft right inRight
  exact lessThan_eq (distinct left inLeft) (distinct right inRight)

theorem sort_lessThan_isSome_iff {items : List Json}
    (distinct : DistinctItems items) :
    (∃ sorted, sort lessThan items = some sorted) ↔
      items.Pairwise (Comparable lessThan) := by
  have atValues :
      (∃ sorted, sort Value.less (items.map Json.value) = some sorted) ↔
        (items.map Json.value).Pairwise (Comparable Value.less) :=
    sort_isSome_iff Value.less_lawful
  have sameSuccess :
      (∃ sorted, sort Value.less (items.map Json.value) = some sorted) ↔
        ∃ sorted, sort lessThan items = some sorted := by
    rw [← sort_values distinct]
    cases sort lessThan items <;> simp
  rw [← sameSuccess, atValues, List.pairwise_map]
  rw [distinctItems_iff] at distinct
  apply List.Pairwise.iff_of_mem
  intro left right inLeft inRight
  rw [Comparable, Comparable,
    lessThan_eq (distinct left inLeft) (distinct right inRight)]

/-- Python orders no object, so a list with an object and another item cannot
be sorted. -/
theorem sort_eq_none_of_object {items : List Json} {item : Json}
    (distinct : DistinctItems items) (member : item ∈ items)
    (object : item.isObject = true) (several : items.length ≠ 1) :
    sort lessThan items = none := by
  cases sorted : sort lessThan items with
  | none => rfl
  | some result =>
      have comparable :=
        (sort_lessThan_isSome_iff distinct).mp ⟨result, sorted⟩
      obtain ⟨before, after, rfl⟩ := List.append_of_mem member
      obtain ⟨_, rest, across⟩ := List.pairwise_append.mp comparable
      cases item with
      | object members =>
          cases before with
          | cons other before =>
              have pair := across other (by simp) _ (List.mem_cons_self)
              cases other <;> exact absurd rfl pair
          | nil =>
              cases after with
              | nil => exact absurd rfl several
              | cons other after =>
                  have pair := (List.pairwise_cons.mp rest).1 other (by simp)
                  cases other <;> exact absurd rfl pair
      | _ => cases object

theorem mapM_itemOutcome_of_plain {items : List Json}
    (plain : ∀ item ∈ items, item.isObject = false) :
    items.mapM itemOutcome = some (items.map Json.value) := by
  induction items with
  | nil => rfl
  | cons item items induction =>
      rw [List.forall_mem_cons] at plain
      rw [List.mapM_cons, itemOutcome_of_not_isObject plain.1,
        induction plain.2]
      rfl

theorem outcome_list_of_plain {items : List Json}
    (distinct : DistinctItems items)
    (plain : ∀ item ∈ items, item.isObject = false) :
    outcome (.list items) =
      (sort Value.less (items.map Json.value)).map Value.list := by
  rw [outcome_list, ← sort_values distinct]
  cases sorted : sort lessThan items with
  | none => rfl
  | some result =>
      have resultPlain : ∀ item ∈ result, item.isObject = false :=
        fun item member =>
          plain item ((PartialSort.sort_perm sorted).mem_iff.mp member)
      rw [Option.bind_some, mapM_itemOutcome_of_plain resultPlain,
        Option.map_some, Option.map_some, Option.map_some]

/-- What the outcome of a list depends on in one of its items. -/
def itemTag (item : Json) : Bool × Option Value :=
  (item.isObject, itemOutcome item)

theorem filterMap_itemTag {items : List Json}
    (plain : ∀ item ∈ items, item.isObject = false) :
    (items.map itemTag).filterMap Prod.snd = items.map Json.value := by
  rw [List.filterMap_map, List.filterMap_congr, List.filterMap_eq_map]
  intro item member
  exact itemOutcome_of_not_isObject (plain item member)

/-- The outcome of a list does not depend on the order of its items. -/
theorem outcome_list_congr {items others : List Json}
    (distinct : DistinctItems items) (otherDistinct : DistinctItems others)
    (perm : (items.map itemTag).Perm (others.map itemTag)) :
    outcome (.list items) = outcome (.list others) := by
  have lengths : items.length = others.length := by
    simpa using perm.length_eq
  by_cases single : items.length = 1
  · obtain ⟨item, rfl⟩ := List.length_eq_one_iff.mp single
    obtain ⟨other, rfl⟩ := List.length_eq_one_iff.mp (lengths ▸ single)
    have same : itemTag item = itemTag other := by simpa using perm
    rw [outcome_singleton, outcome_singleton, (Prod.mk.inj same).2]
  · by_cases object : ∃ item ∈ items, item.isObject = true
    · obtain ⟨item, member, isObject⟩ := object
      have tagged := perm.mem_iff.mp (List.mem_map_of_mem member)
      obtain ⟨other, otherMember, same⟩ := List.mem_map.mp tagged
      have otherObject := (Prod.mk.inj same).1.trans isObject
      rw [outcome_list, outcome_list,
        sort_eq_none_of_object distinct member isObject single,
        sort_eq_none_of_object otherDistinct otherMember otherObject
          (lengths ▸ single)]
    · have plain : ∀ item ∈ items, item.isObject = false := by
        intro item member
        exact Bool.eq_false_iff.mpr fun isObject =>
          object ⟨item, member, isObject⟩
      have otherPlain : ∀ other ∈ others, other.isObject = false := by
        intro other member
        have tagged := perm.mem_iff.mpr (List.mem_map_of_mem member)
        obtain ⟨item, itemMember, same⟩ := List.mem_map.mp tagged
        exact (Prod.mk.inj same).1.symm.trans (plain item itemMember)
      have values : (items.map Json.value).Perm (others.map Json.value) := by
        have outcomes := perm.filterMap Prod.snd
        rwa [filterMap_itemTag plain, filterMap_itemTag otherPlain] at outcomes
      rw [outcome_list_of_plain distinct plain,
        outcome_list_of_plain otherDistinct otherPlain,
        sort_congr Value.less_lawful values]

theorem sortListValues_isSome_iff_lookup {members : List (Str × Json)}
    (distinct : (members.map Prod.fst).Nodup) :
    (∃ results, sortListValues members = some results) ↔
      ∀ key, (members.lookup key).map outcome ≠ some none := by
  rw [sortListValues_isSome_iff]
  constructor
  · intro treats key failed
    obtain ⟨value, found, missing⟩ := Option.map_eq_some_iff.mp failed
    obtain ⟨result, treated⟩ :=
      treats (key, value) ((lookup_eq_some_iff distinct).mp found)
    rw [outcome, treated] at missing
    cases missing
  · intro defined ⟨key, value⟩ member
    cases treated : sortValue value with
    | some result => exact ⟨result, rfl⟩
    | none =>
        have found := (lookup_eq_some_iff distinct).mpr member
        refine absurd ?_ (defined key)
        rw [found, Option.map_some, outcome, treated, Option.map_none]

theorem map_value_bind (found : Option Json) :
    (found.bind sortValue).map Json.value = (found.map outcome).join := by
  cases found <;> rfl

/-- The outcome of an object depends on the outcomes under its keys. -/
theorem outcome_object_congr {members others : List (Str × Json)}
    (distinct : (members.map Prod.fst).Nodup)
    (otherDistinct : (others.map Prod.fst).Nodup)
    (same : ∀ key, (members.lookup key).map outcome =
      (others.lookup key).map outcome) :
    outcome (.object members) = outcome (.object others) := by
  have success : (∃ results, sortListValues members = some results) ↔
      ∃ results, sortListValues others = some results := by
    rw [sortListValues_isSome_iff_lookup distinct,
      sortListValues_isSome_iff_lookup otherDistinct]
    simp only [same]
  rw [outcome, outcome, sortValue_object, sortValue_object]
  cases treated : sortListValues members with
  | none =>
      cases otherTreated : sortListValues others with
      | none => rfl
      | some otherResults =>
          obtain ⟨_, contradiction⟩ := success.mpr ⟨_, otherTreated⟩
          rw [treated] at contradiction
          cases contradiction
  | some results =>
      obtain ⟨otherResults, otherTreated⟩ := success.mp ⟨results, treated⟩
      rw [otherTreated]
      have values : memberValue results = memberValue otherResults := by
        funext key
        rw [memberValue_eq_lookup, memberValue_eq_lookup,
          (sortListValues_some treated).2,
          (sortListValues_some otherTreated).2,
          map_value_bind, map_value_bind, same]
      simp only [Option.map_some, Json.value, values]

end Outcome

section Shuffle

theorem ShuffledMembers.keys {reached : Bool} :
    {members others : List (Str × Json)} →
    ShuffledMembers reached members others →
    members.map Prod.fst = others.map Prod.fst
  | _, _, .nil => rfl
  | _, _, .cons _ tail => by
      rw [List.map_cons, List.map_cons, tail.keys]

theorem Shuffled.isObject {reached : Bool} {json other : Json}
    (shuffled : Shuffled reached json other) :
    json.isObject = other.isObject := by
  cases shuffled <;> rfl

mutual

theorem Shuffled.distinct {reached : Bool} {json other : Json}
    (shuffled : Shuffled reached json other) (distinct : json.Distinct) :
    other.Distinct := by
  cases shuffled with
  | kept items => exact ShuffledItems.distinct items distinct
  | permuted items perm =>
      have middle := distinctItems_iff.mp (ShuffledItems.distinct items distinct)
      exact distinctItems_iff.mpr fun item member =>
        middle item (perm.mem_iff.mpr member)
  | object members perm =>
      have middle := distinctMembers_iff.mp
        (ShuffledMembers.distinct members distinct.2)
      refine ⟨?_, distinctMembers_iff.mpr fun member inOthers =>
        middle member (perm.mem_iff.mpr inOthers)⟩
      rw [← (perm.map Prod.fst).nodup_iff, ← members.keys]
      exact distinct.1
  | _ => trivial

theorem ShuffledItems.distinct {reached : Bool} {items others : List Json}
    (shuffled : ShuffledItems reached items others)
    (distinct : DistinctItems items) : DistinctItems others := by
  cases shuffled with
  | nil => trivial
  | cons head tail =>
      exact ⟨Shuffled.distinct head distinct.1,
        ShuffledItems.distinct tail distinct.2⟩

theorem ShuffledMembers.distinct {reached : Bool}
    {members others : List (Str × Json)}
    (shuffled : ShuffledMembers reached members others)
    (distinct : DistinctMembers members) : DistinctMembers others := by
  cases shuffled with
  | nil => trivial
  | cons head tail =>
      exact ⟨Shuffled.distinct head distinct.1,
        ShuffledMembers.distinct tail distinct.2⟩

end

mutual

/-- Where no list is permuted the value stays. -/
theorem Shuffled.value {json other : Json}
    (shuffled : Shuffled false json other) (distinct : json.Distinct) :
    json.value = other.value := by
  cases shuffled with
  | kept items =>
      rw [Json.value, Json.value, ShuffledItems.values items distinct]
  | object members perm =>
      rw [Json.value, Json.value, Value.object.injEq]
      funext key
      rw [ShuffledMembers.values members distinct.2,
        memberValue_eq_lookup, memberValue_eq_lookup,
        lookup_perm (members.keys ▸ distinct.1) perm]
  | _ => rfl

theorem ShuffledItems.values {items others : List Json}
    (shuffled : ShuffledItems false items others)
    (distinct : DistinctItems items) : itemValues items = itemValues others := by
  cases shuffled with
  | nil => rfl
  | cons head tail =>
      rw [itemValues, itemValues, Shuffled.value head distinct.1,
        ShuffledItems.values tail distinct.2]

theorem ShuffledMembers.values {members others : List (Str × Json)}
    (shuffled : ShuffledMembers false members others)
    (distinct : DistinctMembers members) (key : Str) :
    memberValue members key = memberValue others key := by
  cases shuffled with
  | nil => rfl
  | cons head tail =>
      rw [memberValue, memberValue, Shuffled.value head distinct.1,
        ShuffledMembers.values tail distinct.2]

end

mutual

/-- Permuting the lists that are sorted does not change the outcome. -/
theorem Shuffled.outcome {json other : Json}
    (shuffled : Shuffled true json other) (distinct : json.Distinct) :
    outcome json = outcome other := by
  cases shuffled with
  | permuted items perm =>
      apply outcome_list_congr distinct
      · exact (Shuffled.permuted items perm).distinct distinct
      · rw [ShuffledItems.tags items distinct]
        exact perm.map itemTag
  | object members perm =>
      apply outcome_object_congr distinct.1
      · exact ((Shuffled.object members perm).distinct distinct).1
      · intro key
        rw [ShuffledMembers.outcomes members distinct.2,
          lookup_perm (members.keys ▸ distinct.1) perm]
  | _ => rfl

theorem ShuffledItems.tags {items others : List Json}
    (shuffled : ShuffledItems true items others)
    (distinct : DistinctItems items) :
    items.map itemTag = others.map itemTag := by
  cases shuffled with
  | nil => rfl
  | @cons _ item other _ _ head tail =>
      rw [List.map_cons, List.map_cons,
        ShuffledItems.tags tail distinct.2]
      have sameKind := head.isObject
      have sameOutcome : itemOutcome item = itemOutcome other := by
        cases kind : item.isObject with
        | true =>
            rw [kind] at head
            rw [itemOutcome_of_isObject kind,
              itemOutcome_of_isObject (sameKind ▸ kind)]
            exact Shuffled.outcome head distinct.1
        | false =>
            rw [kind] at head
            rw [itemOutcome_of_not_isObject kind,
              itemOutcome_of_not_isObject (sameKind ▸ kind),
              Shuffled.value head distinct.1]
      rw [itemTag, itemTag, sameKind, sameOutcome]

theorem ShuffledMembers.outcomes {members others : List (Str × Json)}
    (shuffled : ShuffledMembers true members others)
    (distinct : DistinctMembers members) (key : Str) :
    (members.lookup key).map Utils.outcome =
      (others.lookup key).map Utils.outcome := by
  cases shuffled with
  | nil => rfl
  | @cons _ name _ _ _ _ head tail =>
      by_cases found : key = name
      · simp [found, Shuffled.outcome head distinct.1]
      · rw [lookup_cons_of_ne found, lookup_cons_of_ne found,
          ShuffledMembers.outcomes tail distinct.2]

end

mutual

theorem shuffled_sortKeys (reached : Bool) (json : Json) :
    Shuffled reached json (sortKeys json) := by
  cases json with
  | null => exact .null
  | bool value => exact .bool value
  | number value => exact .number value
  | string value => exact .string value
  | list items =>
      rw [sortKeys]
      cases reached with
      | false => exact .kept (shuffledItems_sortKeys false items)
      | true => exact .permuted (shuffledItems_sortKeys true items) (.refl _)
  | object members =>
      rw [sortKeys]
      exact .object (shuffledMembers_sortKeys reached members)
        (List.perm_insertionSort _ _).symm

theorem shuffledItems_sortKeys (reached : Bool) (items : List Json) :
    ShuffledItems reached items (sortKeysItems items) := by
  cases items with
  | nil => exact .nil
  | cons item items =>
      exact .cons (shuffled_sortKeys (reached && item.isObject) item)
        (shuffledItems_sortKeys reached items)

theorem shuffledMembers_sortKeys (reached : Bool)
    (members : List (Str × Json)) :
    ShuffledMembers reached members (sortKeysMembers members) := by
  cases members with
  | nil => exact .nil
  | cons member members =>
      obtain ⟨key, value⟩ := member
      exact .cons (shuffled_sortKeys reached value)
        (shuffledMembers_sortKeys reached members)

end

end Shuffle

section Results

mutual

theorem sortValue_distinct {json result : Json} (distinct : json.Distinct)
    (treated : sortValue json = some result) : result.Distinct := by
  cases json with
  | list items =>
      rw [sortValue_list] at treated
      obtain ⟨results, sortedTreated, rfl⟩ := Option.map_eq_some_iff.mp treated
      obtain ⟨sorted, sorts, treats⟩ :=
        Option.bind_eq_some_iff.mp sortedTreated
      refine distinctItems_iff.mpr fun item member => ?_
      obtain ⟨source, inSorted, treatedSource⟩ :=
        exists_of_mem_mapM treats member
      exact treatItem_distinct distinct
        ((PartialSort.sort_perm sorts).mem_iff.mp inSorted) treatedSource
  | object members =>
      rw [sortValue_object] at treated
      obtain ⟨results, treats, rfl⟩ := Option.map_eq_some_iff.mp treated
      refine ⟨?_, sortListValues_distinct distinct.2 treats⟩
      rw [(sortListValues_some treats).1]
      exact distinct.1
  | _ =>
      cases treated
      exact distinct
termination_by structural json

theorem treatItem_distinct {items : List Json} {item result : Json}
    (distinct : DistinctItems items) (member : item ∈ items)
    (treated : treatItem item = some result) : result.Distinct := by
  cases items with
  | nil => cases member
  | cons head items =>
      rcases List.mem_cons.mp member with same | later
      · rw [same] at treated
        cases kind : head.isObject with
        | true =>
            rw [treatItem_of_isObject kind] at treated
            exact sortValue_distinct distinct.1 treated
        | false =>
            rw [treatItem_of_not_isObject kind] at treated
            cases treated
            exact distinct.1
      · exact treatItem_distinct distinct.2 later treated
termination_by structural items

theorem sortListValues_distinct {members results : List (Str × Json)}
    (distinct : DistinctMembers members)
    (treated : sortListValues members = some results) :
    DistinctMembers results := by
  cases members with
  | nil =>
      cases treated
      trivial
  | cons member members =>
      obtain ⟨key, value⟩ := member
      obtain ⟨first, rest, treatedValue, treatedRest, rfl⟩ :=
        sortListValues_cons_some_iff.mp treated
      exact ⟨sortValue_distinct distinct.1 treatedValue,
        sortListValues_distinct distinct.2 treatedRest⟩
termination_by structural members

end

mutual

theorem sortValue_isSome_iff {json : Json} (distinct : json.Distinct) :
    (∃ result, sortValue json = some result) ↔ Sortable json := by
  cases json with
  | list items =>
      rw [Sortable, ← sortableItems_iff distinct,
        ← sort_lessThan_isSome_iff distinct, sortValue_list]
      cases sorts : sort lessThan items with
      | none => simp
      | some sorted =>
          have perm := PartialSort.sort_perm sorts
          have treats : (∃ results, sorted.mapM treatItem = some results) ↔
              ∀ item ∈ sorted, ∃ result, treatItem item = some result :=
            mapM_isSome_iff
          simp only [perm.mem_iff] at treats
          rw [← treats]
          simp
  | object members =>
      rw [Sortable, ← sortableMembers_iff distinct.2,
        ← sortListValues_isSome_iff, sortValue_object]
      cases sortListValues members <;> simp
  | _ => exact iff_of_true ⟨_, rfl⟩ trivial

theorem sortableItems_iff {items : List Json}
    (distinct : DistinctItems items) :
    (∀ item ∈ items, ∃ result, treatItem item = some result) ↔
      SortableItems items := by
  cases items with
  | nil => simp [SortableItems]
  | cons item items =>
      rw [List.forall_mem_cons, sortableItems_iff distinct.2]
      cases item with
      | object members =>
          rw [SortableItems, treatItem_of_isObject rfl,
            sortValue_isSome_iff distinct.1, Sortable]
      | _ => simp [SortableItems, treatItem]

theorem sortableMembers_iff {members : List (Str × Json)}
    (distinct : DistinctMembers members) :
    (∀ member ∈ members, ∃ result, sortValue member.2 = some result) ↔
      SortableMembers members := by
  cases members with
  | nil => simp [SortableMembers]
  | cons member members =>
      rw [List.forall_mem_cons, sortValue_isSome_iff distinct.1,
        sortableMembers_iff distinct.2, SortableMembers]

end

theorem normalizeJson_outcome (json : JsonObject) :
    (normalizeJson json).map Json.value = outcome (.object json.members) :=
  ((shuffled_sortKeys true _).outcome json.distinct).symm

theorem normalizeJson_isSome_iff (json : JsonObject) :
    (∃ result, normalizeJson json = some result) ↔
      Sortable (.object json.members) := by
  rw [← sortValue_isSome_iff json.distinct]
  have same := normalizeJson_outcome json
  rw [outcome] at same
  constructor
  · intro ⟨result, normalized⟩
    rw [normalized, Option.map_some, eq_comm, Option.map_eq_some_iff] at same
    obtain ⟨treated, sorts, _⟩ := same
    exact ⟨treated, sorts⟩
  · intro ⟨treated, sorts⟩
    rw [sorts, Option.map_some, Option.map_eq_some_iff] at same
    obtain ⟨result, normalized, _⟩ := same
    exact ⟨result, normalized⟩

theorem normalizeJson_distinct {json : JsonObject} {result : Json}
    (normalized : normalizeJson json = some result) : result.Distinct :=
  sortValue_distinct ((shuffled_sortKeys true _).distinct json.distinct)
    normalized

end Results

/-- `normalize_json` is a canonical form for an object, however its keys and
sorted lists are shuffled, exactly when all items that meet in a sorted list
are comparable. -/
theorem normalizeJson_canonical_iff (json : JsonObject) :
    (∀ other : JsonObject,
      Shuffled true (.object json.members) (.object other.members) →
        ∃ result otherResult,
          normalizeJson json = some result ∧
          normalizeJson other = some otherResult ∧
          pyEq result otherResult = true) ↔
      Sortable (.object json.members) := by
  constructor
  · intro canonical
    have reordered := shuffled_sortKeys true (.object json.members)
    obtain ⟨result, _, normalized, _⟩ := canonical
      ⟨_, reordered.distinct json.distinct⟩ reordered
    exact (normalizeJson_isSome_iff json).mp ⟨result, normalized⟩
  · intro sortable other shuffled
    obtain ⟨result, normalized⟩ := (normalizeJson_isSome_iff json).mpr sortable
    have same : (normalizeJson other).map Json.value = some result.value := by
      rw [normalizeJson_outcome, ← shuffled.outcome json.distinct,
        ← normalizeJson_outcome, normalized, Option.map_some]
    obtain ⟨otherResult, otherNormalized, values⟩ :=
      Option.map_eq_some_iff.mp same
    refine ⟨result, otherResult, normalized, otherNormalized, ?_⟩
    rw [pyEq_iff (normalizeJson_distinct normalized)
      (normalizeJson_distinct otherNormalized)]
    exact values.symm

/-- A topology with two cells whose numbers are the given ones. -/
def twoCells (first second : Rat) : List (Str × Json) :=
  [("cells".toList, .list
    [.object [("id".toList, .number first)],
      .object [("id".toList, .number second)]])]

theorem twoCells_distinct (first second : Rat) :
    (Json.object (twoCells first second)).Distinct := by
  simp [twoCells, Json.Distinct, DistinctItems, DistinctMembers]

/-- The two cells of a topology cannot be compared, in either order. -/
theorem normalizeJson_two_cells_raises :
    Shuffled true (.object (twoCells 0 1)) (.object (twoCells 1 0)) ∧
      normalizeJson ⟨twoCells 0 1, twoCells_distinct 0 1⟩ = none ∧
      normalizeJson ⟨twoCells 1 0, twoCells_distinct 1 0⟩ = none := by
  refine ⟨?_, rfl, rfl⟩
  refine .object (.cons (.permuted (.cons ?_ (.cons ?_ .nil)) (.swap _ _ []))
    .nil) (.refl _)
  · exact .object (.cons (.number 0) .nil) (.refl _)
  · exact .object (.cons (.number 1) .nil) (.refl _)

end Whitebox.Utils
