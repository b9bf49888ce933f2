import Mathlib.Data.Char
import Mathlib.Data.Finset.Dedup
import Mathlib.Data.List.Lex
import Mathlib.Data.List.Sort
import Whitebox.Collection.Association
import Whitebox.Effect.Fallible
import Whitebox.Python.ElementTree

/-!
# Hyper-V enlightenments

The test of the default enlightenments reads the children of the `hyperv`
element of a domain into a `dict`, compares its keys with the default ones and
asks for the state of each.  The comparison is one of the results of two calls
of `list.sort`, which are both `None`, so the names take no part in it.  One of
the calls sorts the list of the class, which all checks share.
-/

namespace Whitebox.Compute

open Whitebox.Python
open Whitebox.Association
open Whitebox.Effect.Fallible

def hypervTag : Str := "hyperv".toList

def stateName : Str := "state".toList

def onState : Str := "on".toList

/-- `DEFAULT_ATTRIBUTES` as the class defines it. -/
def defaultAttributes : List Str :=
  ["frequencies".toList, "ipi".toList, "relaxed".toList, "reset".toList,
    "runtime".toList, "spinlocks".toList, "synic".toList, "tlbflush".toList,
    "vapic".toList, "vendor_id".toList, "vpindex".toList]

inductive HypervExn where
  /-- `'hyperv element is not present on %s'`. -/
  | notPresent (serverId : Str)
  /-- `'The default elements %s found on %s do not match the expected default
  elements %s'`. -/
  | notDefault (found : List Str) (serverId : Str) (expected : List Str)
  /-- `'The attribute %s was expected to be in the on state but is instead
  %s'`. -/
  | notOn (name : Str) (state : Option Str)
deriving DecidableEq

/-- `items.sort()`: what the call returns, which is `None`, and the list after
it. -/
def sortInPlace (items : List Str) : Unit × List Str :=
  ((), items.insertionSort (· ≤ ·))

/-- The tags below the `hyperv` element with their states. -/
def hypervElements (hyperv : Element) : List (Str × Option Str) :=
  assignAll ((hyperv.iter.filter (·.tag != hypervTag)).map fun elem =>
    (elem.tag, elem.get stateName)) []

def confirmStates (elements : List (Str × Option Str)) :
    Except HypervExn Unit :=
  elements.forM fun (name, state) =>
    if some onState = state then .ok () else .error (.notOn name state)

/-- `_confirm_hyperv_elements` on the domain of a server, and the list of the
class after it. -/
def confirmHypervElements (serverId : Str) (root : Element)
    (defaults : List Str) : Except HypervExn Unit × List Str :=
  match root.find ["features".toList, hypervTag] with
  | none => (.error (.notPresent serverId), defaults)
  | some hyperv =>
      if hyperv.isTrue then
        let elements := hypervElements hyperv
        let keys := elements.map Prod.fst
        let (found, _) := sortInPlace keys
        let (expected, defaults) := sortInPlace defaults
        if found = expected then
          (confirmStates elements, defaults)
        else
          (.error (.notDefault keys serverId defaults), defaults)
      else
        (.error (.notPresent serverId), defaults)

/-- `test_live_migrate_with_enlightenments`, with the domain before and after
the migration. -/
def testLiveMigrateWithEnlightenments (serverId : Str) (before after : Element)
    (defaults : List Str) : Except HypervExn Unit × List Str :=
  match confirmHypervElements serverId before defaults with
  | (.ok _, defaults) => confirmHypervElements serverId after defaults
  | failed => failed

/-- A server whose domain has a `hyperv` element with children of distinct names
and no elements below them. -/
structure HypervGuest where
  serverId : Str
  root : Element
  hyperv : Element
  found : root.find ["features".toList, hypervTag] = some hyperv
  nonempty : hyperv.children ≠ []
  leaves : ∀ child ∈ hyperv.children, child.children = []
  distinct : (hyperv.children.map Element.tag).Nodup

namespace HypervGuest

def names (guest : HypervGuest) : Finset Str :=
  (guest.hyperv.children.map Element.tag).toFinset

/-- The children are the given ones, and each of them is on. -/
structure Enlightened (guest : HypervGuest) (defaults : List Str) : Prop where
  names_eq : guest.names = defaults.toFinset
  on : ∀ child ∈ guest.hyperv.children, child.get stateName = some onState

/-- A child that the check looks at is not on. -/
def Off (guest : HypervGuest) : Prop :=
  ∃ child ∈ guest.hyperv.children,
    child.tag ≠ hypervTag ∧ child.get stateName ≠ some onState

end HypervGuest

/-- A sequence of checks: the list of the class before each of them and its
verdict. -/
def confirmEach (defaults : List Str) :
    List HypervGuest → List (List Str × Except HypervExn Unit)
  | [] => []
  | guest :: rest =>
      let (verdict, left) :=
        confirmHypervElements guest.serverId guest.root defaults
      (defaults, verdict) :: confirmEach left rest

section Check

theorem hypervElements_eq (guest : HypervGuest) :
    hypervElements guest.hyperv =
      (guest.hyperv.children.filter (·.tag != hypervTag)).map fun child =>
        (child.tag, child.get stateName) := by
  have found : guest.root.find (["features".toList] ++ [hypervTag]) =
      some guest.hyperv := guest.found
  have own : guest.hyperv.tag = hypervTag := Element.tag_of_find found
  have below : guest.hyperv.iter.filter (·.tag != hypervTag) =
      guest.hyperv.children.filter (·.tag != hypervTag) := by
    rw [Element.iter_eq_cons, Element.iterAll_of_leaves guest.leaves,
      List.filter_cons_of_neg]
    simp [own]
  rw [hypervElements, below, assignAll_of_nodup, List.nil_append]
  rw [List.nil_append, List.map_map]
  exact guest.distinct.sublist (List.filter_sublist.map Element.tag)

theorem confirmStates_eq_ok_iff {elements : List (Str × Option Str)} :
    confirmStates elements = .ok () ↔
      ∀ element ∈ elements, element.2 = some onState := by
  unfold confirmStates
  rw [forM_eq_ok_iff]
  apply forall₂_congr
  intro element _
  obtain ⟨name, state⟩ := element
  dsimp only
  by_cases on : some onState = state
  · rw [if_pos on]
    exact iff_of_true rfl on.symm
  · rw [if_neg on]
    refine iff_of_false ?_ fun same => on same.symm
    intro returned
    cases returned

/-- The names of the children play no part in the check. -/
theorem confirmHypervElements_eq (guest : HypervGuest) (serverId : Str)
    (defaults : List Str) :
    confirmHypervElements serverId guest.root defaults =
      (confirmStates (hypervElements guest.hyperv),
        defaults.insertionSort (· ≤ ·)) := by
  have present : guest.hyperv.isTrue = true := by
    simp [Element.isTrue, guest.nonempty]
  simp only [confirmHypervElements, guest.found, present, sortInPlace, if_true]

theorem confirmHypervElements_eq_ok_iff (guest : HypervGuest) (serverId : Str)
    (defaults : List Str) :
    (confirmHypervElements serverId guest.root defaults).1 = .ok () ↔
      ¬ guest.Off := by
  rw [confirmHypervElements_eq, confirmStates_eq_ok_iff, hypervElements_eq]
  constructor
  · intro on off
    obtain ⟨child, member, other, notOn⟩ := off
    apply notOn
    apply on (child.tag, child.get stateName)
    apply List.mem_map_of_mem
    exact List.mem_filter.mpr ⟨member, bne_iff_ne.mpr other⟩
  · intro noneOff element member
    obtain ⟨child, kept, rfl⟩ := List.mem_map.mp member
    obtain ⟨inChildren, other⟩ := List.mem_filter.mp kept
    by_contra notOn
    exact noneOff ⟨child, inChildren, bne_iff_ne.mp other, notOn⟩

/-- The list that the first check has sorted does not change the second one. -/
theorem testLiveMigrateWithEnlightenments_eq_ok_iff
    (before after : HypervGuest) (serverId : Str) (defaults : List Str) :
    (testLiveMigrateWithEnlightenments serverId before.root after.root
        defaults).1 = .ok () ↔
      ¬ before.Off ∧ ¬ after.Off := by
  rw [← confirmHypervElements_eq_ok_iff before serverId defaults]
  unfold testLiveMigrateWithEnlightenments
  cases first : confirmHypervElements serverId before.root defaults with
  | mk verdict left =>
      cases verdict with
      | error error => simp
      | ok _ =>
          dsimp only
          rw [confirmHypervElements_eq_ok_iff]
          exact (and_iff_right rfl).symm

theorem hypervTag_notMem_defaultAttributes : hypervTag ∉ defaultAttributes := by
  decide

/-- A check is right exactly if the names are the default ones or a state is
wrong. -/
theorem confirmHypervElements_right_iff (guest : HypervGuest)
    {defaults : List Str} (same : defaults.Perm defaultAttributes) :
    ((confirmHypervElements guest.serverId guest.root defaults).1 = .ok () ↔
        guest.Enlightened defaults) ↔
      guest.names = defaultAttributes.toFinset ∨ guest.Off := by
  have sameSet : defaults.toFinset = defaultAttributes.toFinset :=
    List.toFinset_eq_of_perm _ _ same
  rw [confirmHypervElements_eq_ok_iff]
  constructor
  · intro right
    by_cases off : guest.Off
    · exact .inr off
    · exact .inl ((right.mp off).names_eq.trans sameSet)
  · intro condition
    constructor
    · intro noneOff
      have names := condition.resolve_right noneOff
      refine ⟨names.trans sameSet.symm, ?_⟩
      intro child member
      by_contra notOn
      refine noneOff ⟨child, member, ?_, notOn⟩
      intro isHyperv
      apply hypervTag_notMem_defaultAttributes
      rw [← isHyperv, ← List.mem_toFinset, ← names]
      exact List.mem_toFinset.mpr (List.mem_map_of_mem member)
    · intro enlightened off
      obtain ⟨child, member, _, notOn⟩ := off
      exact notOn (enlightened.on child member)

end Check

/-- In every sequence of checks, all of them are right exactly if each guest
has the default enlightenments or one that is not on. -/
theorem confirmEach_right_iff (guests : List HypervGuest) :
    List.Forall₂ (fun guest check =>
        check.2 = .ok () ↔ guest.Enlightened check.1)
        guests (confirmEach defaultAttributes guests) ↔
      ∀ guest ∈ guests,
        guest.names = defaultAttributes.toFinset ∨ guest.Off := by
  have general : ∀ defaults : List Str, defaults.Perm defaultAttributes →
      (List.Forall₂ (fun guest check =>
          check.2 = .ok () ↔ HypervGuest.Enlightened guest check.1)
          guests (confirmEach defaults guests) ↔
        ∀ guest ∈ guests,
          guest.names = defaultAttributes.toFinset ∨ guest.Off) := by
    -- Each check leaves a permutation of the list to the next one.
    induction guests with
    | nil =>
        intro defaults _
        simp [confirmEach]
    | cons guest guests induction =>
        intro defaults same
        have left : (confirmHypervElements guest.serverId guest.root
            defaults).2.Perm defaultAttributes := by
          rw [confirmHypervElements_eq]
          exact (List.perm_insertionSort _ _).trans same
        rw [confirmEach, List.forall₂_cons, List.forall_mem_cons,
          confirmHypervElements_right_iff guest same]
        exact and_congr_right fun _ => induction _ left
  exact general defaultAttributes (List.Perm.refl _)

/-- A guest with one of the default enlightenments only. -/
def relaxedOnly : HypervGuest :=
  let relaxed : Element := .node "relaxed".toList [(stateName, onState)] []
  let hyperv : Element := .node hypervTag [] [relaxed]
  { serverId := "server".toList
    root := .node "domain".toList [] [.node "features".toList [] [hyperv]]
    hyperv := hyperv
    found := rfl
    nonempty := List.cons_ne_nil _ _
    leaves := by simp [relaxed, hyperv, Element.children]
    distinct := List.nodup_singleton _ }

/-- Both checks around a live migration pass, although ten of the default
enlightenments are missing. -/
theorem confirmEach_relaxedOnly :
    confirmEach defaultAttributes [relaxedOnly, relaxedOnly] =
        [(defaultAttributes, .ok ()), (defaultAttributes, .ok ())] ∧
      relaxedOnly.names ≠ defaultAttributes.toFinset ∧
      ¬ relaxedOnly.Enlightened defaultAttributes := by
  have different : relaxedOnly.names ≠ defaultAttributes.toFinset := by
    decide
  exact ⟨by decide, different, fun enlightened => different enlightened.names_eq⟩

end Whitebox.Compute
