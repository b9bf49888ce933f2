import Whitebox.Effect.Fallible
import Whitebox.Python.Text

/-!
# The live migration of a server

`live_migrate` asks for the host of the server, migrates it, asks for its host
again and compares.  With a target host the server has to be there, and without
one it has to be on another host than before.  An empty name counts as none.
-/

namespace Whitebox.Compute

open Whitebox.Python
open Whitebox.Effect.Fallible

/-- The messages of the two assertions. -/
inductive LiveMigrationMessage where
  /-- `'Live migration failed, instance %s is not on target host %s'`. -/
  | notOnTargetHost (serverId targetHost : Str)
  /-- `'Live migration failed, instance %s has not changed hosts'`. -/
  | hostUnchanged (serverId : Str)
deriving DecidableEq

/-- What `live_migrate` calls: the lookups of the host before and after, and
between them the request and the wait for the status. -/
structure LiveMigration (m : Type → Type) where
  hostBefore : m Str
  migrate : m Unit
  hostAfter : m Str

def assertHost (serverId origHost : Str) (targetHost : Option Str)
    (host : Str) : Except LiveMigrationMessage Unit :=
  match targetHost with
  | none | some [] => require (origHost ≠ host) (.hostUnchanged serverId)
  | some target => require (target = host) (.notOnTargetHost serverId target)

/-- `live_migrate`, with a way to raise what its assertions raise. -/
def LiveMigration.run {m : Type → Type} [Monad m] (calls : LiveMigration m)
    (lift : Except LiveMigrationMessage Unit → m Unit) (serverId : Str)
    (targetHost : Option Str) : m Unit := do
  let origHost ← calls.hostBefore
  calls.migrate
  let host ← calls.hostAfter
  lift (assertHost serverId origHost targetHost host)

/-- The server is on the target host, or on another host than before. -/
def Moves (origHost : Str) (targetHost : Option Str) (host : Str) : Prop :=
  match targetHost with
  | none | some [] => origHost ≠ host
  | some target => target = host

theorem assertHost_eq_ok_iff {serverId origHost host : Str}
    {targetHost : Option Str} {value : Unit} :
    assertHost serverId origHost targetHost host = .ok value ↔
      Moves origHost targetHost host := by
  unfold assertHost Moves
  split
  · exact require_eq_ok_iff
  · exact require_eq_ok_iff
  · exact require_eq_ok_iff

theorem moves_some_iff {origHost target host : Str} (named : target ≠ []) :
    Moves origHost (some target) host ↔ target = host := by
  cases target with
  | nil => exact absurd rfl named
  | cons c target => exact Iff.rfl

section Pure

variable {ε : Type} {hostBefore hostAfter serverId : Str}
  {migrated : Except ε Unit} {raised : LiveMigrationMessage → ε}
  {targetHost : Option Str} {value : Unit}

/-- A migration whose hosts are given returns exactly if the server has
moved. -/
theorem LiveMigration.run_eq_ok_iff :
    LiveMigration.run ⟨.ok hostBefore, migrated, .ok hostAfter⟩
        (Except.mapError raised) serverId targetHost = .ok value ↔
      migrated = .ok () ∧ Moves hostBefore targetHost hostAfter := by
  simp only [LiveMigration.run, bind_eq_ok_iff, mapError_eq_ok_iff,
    assertHost_eq_ok_iff, Except.ok.injEq, exists_eq_left',
    Unique.exists_iff, PUnit.default_eq_unit]

end Pure

end Whitebox.Compute
