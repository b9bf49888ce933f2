import Whitebox.Effect.Fallible
import Whitebox.Posix.Shell

/-!
# The search of the logs on a compute host

The log parser reads what its host configures for `nova-compute` and wraps its
command for a container or for `sudo`.  It puts the query between single quotes,
so that a shell takes everything but such a quote literally.  It never gets that
far where the logs are searched with `zgrep`: the name of the container is only
read in the other branch.
-/

namespace Whitebox.Services

open Whitebox.Posix
open Whitebox.Python
open Whitebox.Effect.Fallible

inductive ClientExn where
  | attributeError
  | unboundLocalError (name : Str)
deriving DecidableEq

inductive LogQueryCommand where
  | journalctl
  | zgrep
deriving DecidableEq

/-- The options that the client reads. -/
structure ClientConf where
  containers : Bool
  containerRuntime : Str
  logQueryCommand : LogQueryCommand
  journalctlUnit : Str

/-- The services of a host in `nodes.yaml`, with the names of their
containers. -/
abbrev HostServices := List (Str × Option Str)

/-- An `SSHClient` after its construction, with the entry of its host. -/
structure SSHClient where
  hostParameters : Option HostServices

/-- `self.host_parameters.get('services', {})`. -/
def SSHClient.services (client : SSHClient) : Except ClientExn HostServices :=
  match client.hostParameters with
  | none => .error .attributeError
  | some services => .ok services

section Commands

variable (conf : ClientConf)

/-- A container name that is set and not empty, where the deployment uses
containers. -/
def containerOf : Option Str → Option Str
  | none => none
  | some [] => none
  | some name => if conf.containers then some name else none

/-- What `execute` puts before a command with `sudo=True`. -/
def frontWords (containerName : Option Str) : List Str :=
  match containerOf conf containerName with
  | none => ["sudo".toList]
  | some name => ["sudo".toList, conf.containerRuntime, "exec".toList,
      "-u".toList, "root".toList, name]

/-- The line that `execute(command, container_name, sudo=True)` sends. -/
def sudoCommand (containerName : Option Str) (command : Str) : Str :=
  join ' ' (frontWords conf containerName ++ [command])

def novaComputeService : Str := "nova-compute".toList

/-- `nova_compute_srvc.get('container_name')`. -/
def SSHClient.novaComputeContainer (client : SSHClient) :
    Except ClientExn (Option Str) := do
  let services ← client.services
  match services.lookup novaComputeService with
  | none => .error .attributeError
  | some containerName => .ok containerName

/-- The words before the query. -/
def journalctlWords : List Str :=
  ["journalctl".toList, "-u".toList, conf.journalctlUnit, "-g".toList]

/-- `LogParserClient.parse`: the line that it sends. -/
def parse (client : SSHClient) (queryString : Str) : Except ClientExn Str :=
  match conf.logQueryCommand with
  | .zgrep => .error (.unboundLocalError "container_name".toList)
  | .journalctl => do
      let containerName ← client.novaComputeContainer
      pure (sudoCommand conf containerName
        (join ' ' (journalctlWords conf ++ [singleQuoted queryString])))

end Commands

section Words

variable {conf : ClientConf} {containerName : Option Str}

/-- The names that end up in a command line are literal words. -/
structure PlainNames (conf : ClientConf) (containerName : Option Str) :
    Prop where
  runtime : Literal conf.containerRuntime
  unit : Literal conf.journalctlUnit
  container : ∀ name, containerName = some name → name = [] ∨ Literal name

theorem containerOf_eq_some {name : Str}
    (found : containerOf conf containerName = some name) :
    containerName = some name ∧ name ≠ [] := by
  unfold containerOf at found
  split at found
  · cases found
  · cases found
  · next given nonempty =>
      split at found
      · cases found
        exact ⟨rfl, nonempty⟩
      · cases found

theorem literal_frontWords (names : PlainNames conf containerName) :
    ∀ word ∈ frontWords conf containerName, Literal word := by
  rw [frontWords]
  split
  · rw [List.forall_mem_singleton]
    decide
  · next name found =>
      obtain ⟨given, nonempty⟩ := containerOf_eq_some found
      have literal := (names.container name given).resolve_left nonempty
      simp only [List.forall_mem_cons, List.not_mem_nil, false_implies,
        implies_true, and_true]
      exact ⟨by decide, names.runtime, by decide, by decide, by decide,
        literal⟩

/-- A command of literal words with one more piece is read as the words before
it and what the piece is read as. -/
theorem readLine_sudoCommand (names : PlainNames conf containerName)
    {words : List Str} (literal : ∀ word ∈ words, Literal word) (last : Str) :
    readLine (sudoCommand conf containerName (join ' ' (words ++ [last]))) =
      (readLine last).map ((frontWords conf containerName ++ words) ++ ·) := by
  rw [sudoCommand, readLine_join_append (literal_frontWords names),
    readLine_join_append literal, Option.map_map]
  congr 1
  funext read
  exact (List.append_assoc _ _ _).symm

theorem map_append_eq_some_iff {front : List Str} {read : Option (List Str)}
    {words : List Str} :
    read.map (front ++ ·) = some (front ++ words) ↔ read = some words := by
  cases read with
  | none => simp
  | some found => simp

end Words

/-- Where the logs are searched with `journalctl`, the query reaches it as it
is exactly if it has no single quote.  Where they are searched with `zgrep`, no
query is sent. -/
theorem parse_delivers_iff (conf : ClientConf) (client : SSHClient)
    (queryString : Str) :
    (conf.logQueryCommand = .journalctl → ∀ containerName,
      client.novaComputeContainer = .ok containerName →
      PlainNames conf containerName →
        ∃ line, parse conf client queryString = .ok line ∧
          (readLine line = some (frontWords conf containerName ++
              journalctlWords conf ++ [queryString]) ↔
            '\'' ∉ queryString)) ∧
    (conf.logQueryCommand = .zgrep →
      parse conf client queryString =
        .error (.unboundLocalError "container_name".toList)) := by
  constructor
  · intro journalctl containerName configured names
    have literal : ∀ word ∈ journalctlWords conf, Literal word := by
      simp only [journalctlWords, List.forall_mem_cons, List.not_mem_nil,
        false_implies, implies_true, and_true]
      exact ⟨by decide, by decide, names.unit, by decide⟩
    refine ⟨sudoCommand conf containerName (join ' ' (journalctlWords conf ++
      [singleQuoted queryString])), ?_, ?_⟩
    · simp only [parse, journalctl, configured]
      rfl
    · rw [readLine_sudoCommand names literal, map_append_eq_some_iff]
      exact readLine_singleQuoted_iff
  · intro zgrep
    simp only [parse, zgrep]

/-- A deployment with containers. -/
def containerConf : ClientConf where
  containers := true
  containerRuntime := "podman".toList
  logQueryCommand := .journalctl
  journalctlUnit := "edpm_nova_compute".toList

theorem parse_delivers_export :
    let client : SSHClient :=
      ⟨some [(novaComputeService, some "nova_compute".toList)]⟩
    ∃ line, parse containerConf client "export: [[]pool$".toList = .ok line ∧
      readLine line = some (["sudo".toList, "podman".toList, "exec".toList,
        "-u".toList, "root".toList, "nova_compute".toList,
        "journalctl".toList, "-u".toList, "edpm_nova_compute".toList,
        "-g".toList, "export: [[]pool$".toList]) := by
  intro client
  have names : PlainNames containerConf (some "nova_compute".toList) :=
    ⟨by decide, by decide, fun name given =>
      .inr (Option.some.inj given ▸ by decide)⟩
  have configured : client.novaComputeContainer =
      .ok (some "nova_compute".toList) := by decide
  obtain ⟨line, sent, reads⟩ := (parse_delivers_iff containerConf client
    "export: [[]pool$".toList).1 rfl _ configured names
  exact ⟨line, sent, reads.mpr (by decide)⟩

end Whitebox.Services
