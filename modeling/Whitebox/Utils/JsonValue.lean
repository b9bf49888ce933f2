import Mathlib.Data.List.Perm.Subperm
import Whitebox.Collection.Association
import Whitebox.Utils.Json

/-!
# JSON values up to Python equality

Python takes a boolean for its number and does not order the members of a
`dict`.  A `Value` forgets both, so that Python equality of JSON values is
equality of their values.  The comparison of JSON values is a comparison of
their values, and it obeys the laws that sorting needs.
-/

namespace Whitebox.Utils

open Whitebox.Python
open Whitebox.Association
open Whitebox.PartialSort (Compared Lawful)

inductive Value where
  | null
  | number (value : Rat)
  | string (value : Str)
  | list (items : List Value)
  | object (member : Str → Option Value)

mutual

def Json.value : Json → Value
  | .null => .null
  | .bool flag => .number (if flag then 1 else 0)
  | .number number => .number number
  | .string text => .string text
  | .list items => .list (itemValues items)
  | .object members => .object (memberValue members)

def itemValues : List Json → List Value
  | [] => []
  | item :: items => item.value :: itemValues items

def memberValue : List (Str × Json) → Str → Option Value
  | [], _ => none
  | (name, value) :: members, key =>
      if key = name then some value.value else memberValue members key

end

theorem distinctItems_iff {items : List Json} :
    DistinctItems items ↔ ∀ item ∈ items, item.Distinct := by
  induction items with
  | nil => simp [DistinctItems]
  | cons item items induction => simp [DistinctItems, induction]

theorem distinctMembers_iff {members : List (Str × Json)} :
    DistinctMembers members ↔ ∀ member ∈ members, member.2.Distinct := by
  induction members with
  | nil => simp [DistinctMembers]
  | cons member members induction => simp [DistinctMembers, induction]

theorem itemValues_eq_map (items : List Json) :
    itemValues items = items.map Json.value := by
  induction items with
  | nil => rfl
  | cons item items induction => rw [itemValues, induction, List.map_cons]

theorem memberValue_eq_lookup (members : List (Str × Json)) (key : Str) :
    memberValue members key = (members.lookup key).map Json.value := by
  induction members with
  | nil => rfl
  | cons member members induction =>
      obtain ⟨name, value⟩ := member
      by_cases found : key = name
      · simp [memberValue, found]
      · rw [memberValue, if_neg found, lookup_cons_of_ne found, induction]

section Less

open Classical

mutual

noncomputable def Value.less : Value → Value → Option Bool
  | .number left, .number right => some (decide (left < right))
  | .string left, .string right => some (decide (left < right))
  | .list left, .list right => lessItems left right
  | _, _ => none

noncomputable def lessItems : List Value → List Value → Option Bool
  | [], [] => some false
  | [], _ :: _ => some true
  | _ :: _, [] => some false
  | left :: lefts, right :: rights =>
      if left = right then lessItems lefts rights else left.less right

end

mutual

theorem Value.less_compared (left right : Value) :
    Compared left right (left.less right) (right.less left) := by
  cases left with
  | number left =>
      cases right with
      | number right =>
          rw [Value.less, Value.less]
          exact (Compared.of_linearOrder left right).congr Value.number
      | _ => exact .incomparable
  | string left =>
      cases right with
      | string right =>
          rw [Value.less, Value.less]
          exact (Compared.of_linearOrder left right).congr Value.string
      | _ => exact .incomparable
  | list left =>
      cases right with
      | list right =>
          rw [Value.less, Value.less]
          exact (lessItems_compared left right).congr Value.list
      | _ => exact .incomparable
  | null => cases right <;> exact .incomparable
  | object => cases right <;> exact .incomparable

theorem lessItems_compared (lefts rights : List Value) :
    Compared lefts rights (lessItems lefts rights)
      (lessItems rights lefts) := by
  cases lefts with
  | nil =>
      cases rights with
      | nil => exact .equal rfl
      | cons => exact .before
  | cons left lefts =>
      cases rights with
      | nil => exact .after
      | cons right rights =>
          rw [lessItems, lessItems]
          by_cases same : left = right
          · rw [if_pos same, if_pos same.symm, same]
            exact (lessItems_compared lefts rights).congr (right :: ·)
          · rw [if_neg same, if_neg (Ne.symm same)]
            exact (Value.less_compared left right).of_ne same _ _

end

theorem Value.eq_of_less {left right : Value}
    (forward : left.less right = some false)
    (backward : right.less left = some false) : left = right := by
  have compared := Value.less_compared left right
  rw [forward, backward] at compared
  cases compared with
  | equal same => exact same

theorem decide_lt_trans {α : Type} [LinearOrder α] {a b c : α}
    [Decidable (b < a)] [Decidable (c < b)] [Decidable (c < a)]
    (first : some (decide (b < a)) = some false)
    (second : some (decide (c < b)) = some false) :
    some (decide (c < a)) = some false := by
  simp only [Option.some.injEq, decide_eq_false_iff_not, not_lt] at *
  exact first.trans second

mutual

theorem Value.less_trans {first middle last : Value}
    (lower : middle.less first = some false)
    (upper : last.less middle = some false) :
    last.less first = some false := by
  cases middle with
  | number =>
      cases first with
      | number =>
          cases last with
          | number =>
              rw [Value.less] at *
              exact decide_lt_trans lower upper
          | _ => simp [Value.less] at upper
      | _ => simp [Value.less] at lower
  | string =>
      cases first with
      | string =>
          cases last with
          | string =>
              rw [Value.less] at *
              exact decide_lt_trans lower upper
          | _ => simp [Value.less] at upper
      | _ => simp [Value.less] at lower
  | list =>
      cases first with
      | list =>
          cases last with
          | list =>
              rw [Value.less] at *
              exact lessItems_trans lower upper
          | _ => simp [Value.less] at upper
      | _ => simp [Value.less] at lower
  | null => simp [Value.less] at lower
  | object => simp [Value.less] at lower

/-- Where the lists differ decides: either one of the two steps is between
equal heads, or both steps go up and so does their composition. -/
theorem lessItems_trans {firsts middles lasts : List Value}
    (lower : lessItems middles firsts = some false)
    (upper : lessItems lasts middles = some false) :
    lessItems lasts firsts = some false := by
  cases firsts with
  | nil => cases lasts <;> rfl
  | cons first firsts =>
      cases middles with
      | nil => simp [lessItems] at lower
      | cons middle middles =>
          cases lasts with
          | nil => simp [lessItems] at upper
          | cons last lasts =>
              rw [lessItems] at *
              by_cases lowerSame : middle = first
              · subst lowerSame
                rw [if_pos rfl] at lower
                by_cases upperSame : last = middle
                · rw [if_pos upperSame] at upper ⊢
                  exact lessItems_trans lower upper
                · rw [if_neg upperSame] at upper ⊢
                  exact upper
              · rw [if_neg lowerSame] at lower
                by_cases upperSame : last = middle
                · subst upperSame
                  rw [if_neg lowerSame]
                  exact lower
                · rw [if_neg upperSame] at upper
                  have different : last ≠ first := by
                    intro same
                    rw [same] at upper
                    exact lowerSame (Value.eq_of_less lower upper)
                  rw [if_neg different]
                  exact Value.less_trans lower upper

end

theorem Value.less_lawful : Lawful Value.less where
  compared := Value.less_compared
  trans := Value.less_trans

end Less

section Equality

/-- Two dictionaries have the same values if they are equally long and the
values on the left are found on the right. -/
theorem memberValue_eq_iff {lefts rights : List (Str × Json)}
    (leftDistinct : (lefts.map Prod.fst).Nodup)
    (rightDistinct : (rights.map Prod.fst).Nodup) :
    memberValue lefts = memberValue rights ↔
      lefts.length = rights.length ∧
        ∀ member ∈ lefts, ∃ other, rights.lookup member.1 = some other ∧
          member.2.value = other.value := by
  constructor
  · intro same
    have keys (key : Str) :
        key ∈ lefts.map Prod.fst ↔ key ∈ rights.map Prod.fst := by
      have atKey := congrFun same key
      rw [memberValue_eq_lookup, memberValue_eq_lookup] at atKey
      rw [← not_iff_not, ← lookup_eq_none_iff_keys, ← lookup_eq_none_iff_keys,
        ← Option.map_eq_none_iff, atKey, Option.map_eq_none_iff]
    have perm := (List.perm_ext_iff_of_nodup leftDistinct rightDistinct).mpr
      keys
    refine ⟨by simpa using perm.length_eq, ?_⟩
    intro ⟨key, value⟩ member
    have atKey := congrFun same key
    rw [memberValue_eq_lookup, memberValue_eq_lookup,
      (lookup_eq_some_iff leftDistinct).mpr member, Option.map_some,
      eq_comm, Option.map_eq_some_iff] at atKey
    obtain ⟨other, found, equal⟩ := atKey
    exact ⟨other, found, equal.symm⟩
  · intro ⟨lengths, matched⟩
    have subset : lefts.map Prod.fst ⊆ rights.map Prod.fst := by
      intro key member
      obtain ⟨entry, inLefts, rfl⟩ := List.mem_map.mp member
      obtain ⟨other, found, _⟩ := matched entry inLefts
      by_contra absent
      rw [lookup_eq_none_iff_keys.mpr absent] at found
      cases found
    have perm : (lefts.map Prod.fst).Perm (rights.map Prod.fst) :=
      (List.subperm_of_subset leftDistinct subset).perm_of_length_le (by simp [lengths])
    funext key
    rw [memberValue_eq_lookup, memberValue_eq_lookup]
    cases found : lefts.lookup key with
    | none =>
        have absent := lookup_eq_none_iff_keys.mp found
        rw [perm.mem_iff, ← lookup_eq_none_iff_keys] at absent
        rw [absent]
    | some value =>
        obtain ⟨other, foundRight, equal⟩ := matched (key, value)
          ((lookup_eq_some_iff leftDistinct).mp found)
        rw [foundRight, Option.map_some, Option.map_some, equal]

mutual

/-- Python equality is equality of values. -/
theorem pyEq_iff {left right : Json} (leftDistinct : left.Distinct)
    (rightDistinct : right.Distinct) :
    pyEq left right = true ↔ left.value = right.value := by
  cases left with
  | null => cases right <;> simp [pyEq, Json.value]
  | bool flag => cases right <;> simp [pyEq, Json.value, Json.number?]
  | number number => cases right <;> simp [pyEq, Json.value, Json.number?]
  | string text => cases right <;> simp [pyEq, Json.value]
  | list lefts =>
      cases right with
      | list rights =>
          rw [pyEq, Json.value, Json.value, Value.list.injEq]
          exact pyEqItems_iff leftDistinct rightDistinct
      | _ => simp [pyEq, Json.value]
  | object lefts =>
      cases right with
      | object rights =>
          rw [pyEq, Json.value, Json.value, Value.object.injEq,
            memberValue_eq_iff leftDistinct.1 rightDistinct.1,
            Bool.and_eq_true, beq_iff_eq,
            pyEqMembers_iff leftDistinct.2 rightDistinct.1 rightDistinct.2]
      | _ => simp [pyEq, Json.value]

theorem pyEqItems_iff {lefts rights : List Json}
    (leftDistinct : DistinctItems lefts)
    (rightDistinct : DistinctItems rights) :
    pyEqItems lefts rights = true ↔ itemValues lefts = itemValues rights := by
  cases lefts with
  | nil => cases rights <;> simp [pyEqItems, itemValues]
  | cons left lefts =>
      cases rights with
      | nil => simp [pyEqItems, itemValues]
      | cons right rights =>
          rw [pyEqItems, itemValues, itemValues, Bool.and_eq_true,
            List.cons.injEq, pyEq_iff leftDistinct.1 rightDistinct.1,
            pyEqItems_iff leftDistinct.2 rightDistinct.2]

theorem pyEqMembers_iff {lefts rights : List (Str × Json)}
    (leftDistinct : DistinctMembers lefts)
    (rightKeys : (rights.map Prod.fst).Nodup)
    (rightDistinct : DistinctMembers rights) :
    pyEqMembers lefts rights = true ↔
      ∀ member ∈ lefts, ∃ other, rights.lookup member.1 = some other ∧
        member.2.value = other.value := by
  cases lefts with
  | nil => simp [pyEqMembers]
  | cons member lefts =>
      obtain ⟨key, value⟩ := member
      rw [pyEqMembers, Bool.and_eq_true, List.forall_mem_cons,
        pyEqMembers_iff leftDistinct.2 rightKeys rightDistinct]
      refine and_congr_left fun _ => ?_
      cases found : rights.lookup key with
      | none => simp
      | some other =>
          have member := (lookup_eq_some_iff rightKeys).mp found
          have otherDistinct :=
            distinctMembers_iff.mp rightDistinct (key, other) member
          simpa using pyEq_iff leftDistinct.1 otherDistinct

end

mutual

/-- Python compares JSON values by their values. -/
theorem lessThan_eq {left right : Json} (leftDistinct : left.Distinct)
    (rightDistinct : right.Distinct) :
    lessThan left right = left.value.less right.value := by
  cases left with
  | null => cases right <;> rfl
  | bool flag =>
      cases right <;> simp [lessThan, Json.value, Json.number?, Value.less]
  | number number =>
      cases right <;> simp [lessThan, Json.value, Json.number?, Value.less]
  | string text =>
      cases right <;> simp [lessThan, Json.value, Value.less]
  | list lefts =>
      cases right with
      | list rights =>
          rw [lessThan, Json.value, Json.value, Value.less]
          exact lessThanItems_eq leftDistinct rightDistinct
      | _ => rfl
  | object => cases right <;> rfl

theorem lessThanItems_eq {lefts rights : List Json}
    (leftDistinct : DistinctItems lefts)
    (rightDistinct : DistinctItems rights) :
    lessThanItems lefts rights =
      lessItems (itemValues lefts) (itemValues rights) := by
  cases lefts with
  | nil => cases rights <;> rfl
  | cons left lefts =>
      cases rights with
      | nil => rfl
      | cons right rights =>
          rw [lessThanItems, itemValues, itemValues, lessItems,
            lessThan_eq leftDistinct.1 rightDistinct.1,
            lessThanItems_eq leftDistinct.2 rightDistinct.2]
          have equality := pyEq_iff leftDistinct.1 rightDistinct.1
          by_cases same : left.value = right.value
          · rw [if_pos same, if_pos (equality.mpr same)]
          · rw [if_neg same, if_neg (mt equality.mp same)]

end

end Equality

end Whitebox.Utils
