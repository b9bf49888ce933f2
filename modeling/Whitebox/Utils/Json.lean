import Mathlib.Data.Char
import Mathlib.Data.List.Lex
import Mathlib.Data.List.Sort
import Mathlib.Algebra.Order.Ring.Unbundled.Rat
import Whitebox.Collection.PartialSort
import Whitebox.Python.Text

/-!
# JSON values and their normalisation

`normalize_json` sends a JSON object through a dump with sorted keys and a
load, and then sorts the lists that are values of its objects in place.  In
this module `none` stands for the `TypeError` of a comparison that Python does
not define.
-/

namespace Whitebox.Utils

open Whitebox.Python

/-- The Python value of a JSON text: the members of an object are listed in
insertion order. -/
inductive Json where
  | null
  | bool (value : Bool)
  | number (value : Rat)
  | string (value : Str)
  | list (items : List Json)
  | object (members : List (Str × Json))

mutual

/-- No object has two members with the same key, as in a `dict`. -/
def Json.Distinct : Json → Prop
  | .list items => DistinctItems items
  | .object members => (members.map Prod.fst).Nodup ∧ DistinctMembers members
  | _ => True

def DistinctItems : List Json → Prop
  | [] => True
  | item :: items => item.Distinct ∧ DistinctItems items

def DistinctMembers : List (Str × Json) → Prop
  | [] => True
  | (_, value) :: members => value.Distinct ∧ DistinctMembers members

end

structure JsonObject where
  members : List (Str × Json)
  distinct : (Json.object members).Distinct

/-- The number a boolean or a number is for comparisons. -/
def Json.number? : Json → Option Rat
  | .bool value => some (if value then 1 else 0)
  | .number value => some value
  | _ => none

mutual

/-- `left == right`. -/
def pyEq : Json → Json → Bool
  | .null, .null => true
  | .string left, .string right => left == right
  | .list left, .list right => pyEqItems left right
  | .object left, .object right =>
      left.length == right.length && pyEqMembers left right
  | .bool left, right => some (if left then 1 else 0) == right.number?
  | .number left, right => some left == right.number?
  | _, _ => false

def pyEqItems : List Json → List Json → Bool
  | [], [] => true
  | left :: lefts, right :: rights => pyEq left right && pyEqItems lefts rights
  | _, _ => false

/-- Every member on the left has an equal one under its key on the right. -/
def pyEqMembers : List (Str × Json) → List (Str × Json) → Bool
  | [], _ => true
  | (key, value) :: members, others =>
      (match others.lookup key with
        | some other => pyEq value other
        | none => false) && pyEqMembers members others

end

mutual

/-- `left < right`. -/
def lessThan : Json → Json → Option Bool
  | .string left, .string right => some (decide (left < right))
  | .list left, .list right => lessThanItems left right
  | .bool left, right =>
      right.number?.map fun number => decide ((if left then 1 else 0) < number)
  | .number left, right =>
      right.number?.map fun number => decide (left < number)
  | _, _ => none

/-- Two lists are compared at the first position where they differ, and by
their lengths if there is none. -/
def lessThanItems : List Json → List Json → Option Bool
  | [], [] => some false
  | [], _ :: _ => some true
  | _ :: _, [] => some false
  | left :: lefts, right :: rights =>
      if pyEq left right then lessThanItems lefts rights
      else lessThan left right

end

mutual

/-- `jsonutils.loads(jsonutils.dumps(json, sort_keys=True))`. -/
def sortKeys : Json → Json
  | .list items => .list (sortKeysItems items)
  | .object members =>
      .object ((sortKeysMembers members).insertionSort (·.1 ≤ ·.1))
  | value => value

def sortKeysItems : List Json → List Json
  | [] => []
  | item :: items => sortKeys item :: sortKeysItems items

def sortKeysMembers : List (Str × Json) → List (Str × Json)
  | [] => []
  | (key, value) :: members => (key, sortKeys value) :: sortKeysMembers members

end

mutual

/-- `sort_list_values(json)`, returning the object it leaves behind. -/
def sortListValues : List (Str × Json) → Option (List (Str × Json))
  | [] => some []
  | (key, value) :: members => do
      let value ← sortValue value
      let members ← sortListValues members
      pure ((key, value) :: members)

/-- What one turn of the loop makes of a value: a list is sorted and then its
objects are treated in turn. -/
def sortValue : Json → Option Json
  | .list items => do
      let sorted ← PartialSort.sort (fun left right => lessThan left.1 right.1)
        (withTreated items)
      let items ← sorted.mapM Prod.snd
      pure (.list items)
  | .object members => do
      let members ← sortListValues members
      pure (.object members)
  | value => some value

/-- What the call after the sort makes of an item. -/
def treatItem : Json → Option Json
  | .object members => do
      let members ← sortListValues members
      pure (.object members)
  | item => some item

/-- The sort carries along what becomes of each item after it. -/
def withTreated : List Json → List (Json × Option Json)
  | [] => []
  | item :: items => (item, treatItem item) :: withTreated items

end

def normalizeJson (json : JsonObject) : Option Json :=
  sortValue (sortKeys (.object json.members))

end Whitebox.Utils
