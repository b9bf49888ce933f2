import Mathlib.Data.List.MinMax
import Whitebox.Effect.Loop
import Whitebox.Python.Float
import Whitebox.Python.Int
import Whitebox.Services.Host

/-!
# Waiters

A waiter polls the cloud until it sees what it waits for or a time has passed.
`wait_for_nova_service_state` looks at the deadline between a sleep and the
query after it, so that it gives up without a last look.
`wait_for_server_migration_complete` looks at the last migration in the list
of all migrations, whichever server it belongs to.
-/

namespace Whitebox.Common

open Whitebox.Effect Whitebox.Python
open Whitebox.Services (StatusField)

/-- `int(time)`. -/
def seconds (time : ℚ) : ℤ :=
  truncate time

theorem seconds_mono {earlier later : ℚ} (order : earlier ≤ later) :
    seconds earlier ≤ seconds later :=
  truncate_mono order

/-- The exceptions of the waiters with their arguments. -/
inductive WaitExn where
  | timeoutException (arguments : List Str)
  | migrationException (arguments : List Str)
  | indexError
deriving DecidableEq

section Migration

/-- A migration as the API lists it; a later migration has a larger number. -/
structure Migration where
  id : Nat
  instanceUuid : Str
  status : Str
deriving DecidableEq

/-- The list of all migrations, in one of the two chronological orders. -/
structure Snapshot where
  migrations : List Migration
  chronological :
    migrations.Pairwise (·.id < ·.id) ∨ migrations.Pairwise (·.id > ·.id)

def doneStatuses : List Str :=
  ["done".toList, "completed".toList]

def errorStatuses : List Str :=
  ["error".toList, "failed".toList]

def migrationFailed : WaitExn :=
  .migrationException
    ["Evacuation failed, because server migration failed.".toList]

def migrationTimeout (timeout : Int) : WaitExn :=
  .timeoutException
    ["Evacuation failed, because server migration did not ".toList ++
      "complete, within the required time: (".toList ++ str timeout ++
      " s)".toList]

variable (timeout : Int) (clock : Nat → ℚ) (snapshots : Nat → Snapshot)

/-- The loop condition in the given turn; the first reading of the clock is
the start time. -/
def inTime (n : Nat) : Prop :=
  seconds (clock (n + 1)) - seconds (clock 0) ≤ timeout

instance (n : Nat) : Decidable (inTime timeout clock n) :=
  inferInstanceAs (Decidable (_ ≤ _))

/-- One turn of the loop, which ends with its number and the outcome.  Sleeping
shows in the next reading of the clock only. -/
def migrationTurn (n : Nat) : Turn Nat (Nat × Except WaitExn Unit) :=
  if inTime timeout clock n then
    match (snapshots n).migrations.getLast? with
    | none => .done (n, .error .indexError)
    | some migration =>
        if migration.status ∈ doneStatuses then .done (n, .ok ())
        else if migration.status ∈ errorStatuses then
          .done (n, .error migrationFailed)
        else .again (n + 1)
  else .done (n, .error (migrationTimeout timeout))

/-- `wait_for_server_migration_complete(os_admin, server_id)` ends in the given
turn with the given outcome.  The server plays no part in it. -/
def WaitForServerMigrationComplete (_serverId : Str) (n : Nat)
    (outcome : Except WaitExn Unit) : Prop :=
  Turn.Ends (migrationTurn timeout clock snapshots) 0 (n, outcome)

/-- The most recent migration of a server. -/
def mostRecent (serverId : Str) (snapshot : Snapshot) : Option Migration :=
  (snapshot.migrations.filter (·.instanceUuid = serverId)).argmax Migration.id

/-- The wait ends normally or with a failed migration only if the most recent
migration of the server says so in the last snapshot, and with a timeout
otherwise. -/
def WaitsForServer (serverId : Str) : Prop :=
  ∀ n outcome,
    WaitForServerMigrationComplete timeout clock snapshots serverId n outcome →
      (outcome = .ok () ∧ ∃ migration,
        mostRecent serverId (snapshots n) = some migration ∧
          migration.status ∈ doneStatuses) ∨
      (outcome = .error migrationFailed ∧ ∃ migration,
        mostRecent serverId (snapshots n) = some migration ∧
          migration.status ∈ errorStatuses) ∨
      outcome = .error (migrationTimeout timeout)

/-- The wait goes on after the snapshot. -/
def Pending (snapshot : Snapshot) : Prop :=
  ∃ migration, snapshot.migrations.getLast? = some migration ∧
    migration.status ∉ doneStatuses ∧ migration.status ∉ errorStatuses

/-- The snapshot is polled and ends the wait. -/
def Decides (n : Nat) : Prop :=
  (∀ m ≤ n, inTime timeout clock m) ∧ (∀ m < n, Pending (snapshots m)) ∧
    ¬ Pending (snapshots n)

/-- The last migration of the list and the most recent one of the server have
both finished or both failed. -/
def Agrees (serverId : Str) (snapshot : Snapshot) : Prop :=
  ∃ last recent, snapshot.migrations.getLast? = some last ∧
    mostRecent serverId snapshot = some recent ∧
    ((last.status ∈ doneStatuses ∧ recent.status ∈ doneStatuses) ∨
      (last.status ∈ errorStatuses ∧ recent.status ∈ errorStatuses))

variable {timeout clock snapshots} {n : Nat}

/-- The outcome of the wait for a snapshot that is not pending. -/
inductive Judged (snapshot : Snapshot) : Except WaitExn Unit → Prop
  | empty (none : snapshot.migrations.getLast? = none) :
      Judged snapshot (.error .indexError)
  | finished {last : Migration}
      (listed : snapshot.migrations.getLast? = some last)
      (done : last.status ∈ doneStatuses) : Judged snapshot (.ok ())
  | failed {last : Migration}
      (listed : snapshot.migrations.getLast? = some last)
      (error : last.status ∈ errorStatuses) :
      Judged snapshot (.error migrationFailed)

theorem not_mem_doneStatuses {status : Str}
    (failed : status ∈ errorStatuses) : status ∉ doneStatuses := by
  have disjoint : ∀ status ∈ errorStatuses, status ∉ doneStatuses := by
    decide
  exact disjoint status failed

theorem Judged.not_pending {snapshot : Snapshot}
    {outcome : Except WaitExn Unit} (judged : Judged snapshot outcome) :
    ¬ Pending snapshot := by
  rintro ⟨migration, listed, undone, unfailed⟩
  cases judged with
  | empty none =>
      rw [none] at listed
      cases listed
  | finished sameList done =>
      rw [sameList] at listed
      cases listed
      exact undone done
  | failed sameList error =>
      rw [sameList] at listed
      cases listed
      exact unfailed error

/-- What a turn can come to. -/
theorem migrationTurn_cases (timeout : Int) (clock : Nat → ℚ)
    (snapshots : Nat → Snapshot) (n : Nat) :
    (¬ inTime timeout clock n ∧ migrationTurn timeout clock snapshots n =
      .done (n, .error (migrationTimeout timeout))) ∨
    (inTime timeout clock n ∧ Pending (snapshots n) ∧
      migrationTurn timeout clock snapshots n = .again (n + 1)) ∨
    (inTime timeout clock n ∧ ∃ outcome, Judged (snapshots n) outcome ∧
      migrationTurn timeout clock snapshots n = .done (n, outcome)) := by
  by_cases timely : inTime timeout clock n
  · right
    rw [migrationTurn, if_pos timely]
    cases listed : (snapshots n).migrations.getLast? with
    | none => exact .inr ⟨timely, _, .empty listed, rfl⟩
    | some last =>
        by_cases done : last.status ∈ doneStatuses
        · exact .inr ⟨timely, _, .finished listed done, by simp [done]⟩
        · by_cases error : last.status ∈ errorStatuses
          · exact .inr ⟨timely, _, .failed listed error, by
              simp [done, error]⟩
          · exact .inl ⟨timely, ⟨last, listed, done, error⟩, by
              simp [done, error]⟩
  · exact .inl ⟨timely, if_neg timely⟩

theorem migrationTurn_again_iff {next : Nat} :
    migrationTurn timeout clock snapshots n = .again next ↔
      next = n + 1 ∧ inTime timeout clock n ∧ Pending (snapshots n) := by
  rcases migrationTurn_cases timeout clock snapshots n with
    ⟨late, ended⟩ | ⟨timely, pending, continued⟩ |
      ⟨timely, outcome, judged, ended⟩
  · simp [ended, late]
  · simp [continued, timely, pending, eq_comm]
  · simp [ended, judged.not_pending]

theorem Judged.turn {outcome : Except WaitExn Unit}
    (judged : Judged (snapshots n) outcome)
    (timely : inTime timeout clock n) :
    migrationTurn timeout clock snapshots n = .done (n, outcome) := by
  rw [migrationTurn, if_pos timely]
  cases judged with
  | empty none => rw [none]
  | finished listed done => simp [listed, done]
  | failed listed error => simp [listed, error, not_mem_doneStatuses error]

/-- The wait ends in the first turn that is late or whose snapshot is not
pending. -/
theorem waitForServerMigrationComplete_iff (serverId : Str)
    {outcome : Except WaitExn Unit} :
    WaitForServerMigrationComplete timeout clock snapshots serverId n outcome ↔
      (∀ m < n, inTime timeout clock m ∧ Pending (snapshots m)) ∧
        (¬ inTime timeout clock n ∧
            outcome = .error (migrationTimeout timeout) ∨
          inTime timeout clock n ∧ Judged (snapshots n) outcome) := by
  have loop : WaitForServerMigrationComplete timeout clock snapshots serverId
      n outcome ↔ ∃ k,
        migrationTurn timeout clock snapshots k = .done (n, outcome) ∧
        ∀ m < k, migrationTurn timeout clock snapshots m = .again (m + 1) :=
    @Turn.ends_iff_exists _ _ (migrationTurn timeout clock snapshots) _ id
      fun _ _ continued => (migrationTurn_again_iff.mp continued).1
  rw [loop]
  constructor
  · rintro ⟨k, ended, before⟩
    have earlier : ∀ m < k, inTime timeout clock m ∧ Pending (snapshots m) :=
      fun m below => (migrationTurn_again_iff.mp (before m below)).2
    rcases migrationTurn_cases timeout clock snapshots k with
      ⟨late, same⟩ | ⟨_, _, same⟩ | ⟨timely, _, judged, same⟩
    · rw [same] at ended
      cases ended
      exact ⟨earlier, .inl ⟨late, rfl⟩⟩
    · rw [same] at ended
      cases ended
    · rw [same] at ended
      cases ended
      exact ⟨earlier, .inr ⟨timely, judged⟩⟩
  · rintro ⟨before, last⟩
    refine ⟨n, ?_, fun m below =>
      migrationTurn_again_iff.mpr ⟨rfl, before m below⟩⟩
    rcases last with ⟨late, rfl⟩ | ⟨timely, judged⟩
    · exact if_neg late
    · exact judged.turn timely

/-- A snapshot ends the wait exactly if it is polled in time and judged. -/
theorem decides_iff :
    Decides timeout clock snapshots n ↔
      (∀ m < n, inTime timeout clock m ∧ Pending (snapshots m)) ∧
        inTime timeout clock n ∧ ∃ outcome, Judged (snapshots n) outcome := by
  constructor
  · rintro ⟨timely, before, decided⟩
    refine ⟨fun m below => ⟨timely m below.le, before m below⟩,
      timely n le_rfl, ?_⟩
    rcases migrationTurn_cases timeout clock snapshots n with
      ⟨late, _⟩ | ⟨_, pending, _⟩ | ⟨_, outcome, judged, _⟩
    · exact absurd (timely n le_rfl) late
    · exact absurd pending decided
    · exact ⟨outcome, judged⟩
  · rintro ⟨before, timely, outcome, judged⟩
    refine ⟨?_, fun m below => (before m below).2, judged.not_pending⟩
    intro m atMost
    rcases Nat.eq_or_lt_of_le atMost with rfl | below
    · exact timely
    · exact (before m below).1

/-- The outcomes that the most recent migration of the server allows. -/
def Allowed (timeout : Int) (serverId : Str) (snapshot : Snapshot)
    (outcome : Except WaitExn Unit) : Prop :=
  (outcome = .ok () ∧ ∃ migration, mostRecent serverId snapshot =
    some migration ∧ migration.status ∈ doneStatuses) ∨
  (outcome = .error migrationFailed ∧ ∃ migration,
    mostRecent serverId snapshot = some migration ∧
      migration.status ∈ errorStatuses) ∨
  outcome = .error (migrationTimeout timeout)

theorem Judged.allowed_iff {serverId : Str} {snapshot : Snapshot}
    {outcome : Except WaitExn Unit} (judged : Judged snapshot outcome) :
    Allowed timeout serverId snapshot outcome ↔ Agrees serverId snapshot := by
  constructor
  · intro allowed
    cases judged with
    | empty none =>
        rcases allowed with ⟨same, _⟩ | ⟨same, _⟩ | same
        · cases same
        · cases same
        · cases same
    | @finished last listed done =>
        rcases allowed with ⟨_, recent, found, recentDone⟩ | ⟨same, _⟩ | same
        · exact ⟨last, recent, listed, found, .inl ⟨done, recentDone⟩⟩
        · cases same
        · cases same
    | @failed last listed error =>
        rcases allowed with ⟨same, _⟩ | ⟨_, recent, found, recentError⟩ | same
        · cases same
        · exact ⟨last, recent, listed, found, .inr ⟨error, recentError⟩⟩
        · cases same
  · rintro ⟨last, recent, listed, found, both⟩
    cases judged with
    | empty none =>
        rw [none] at listed
        cases listed
    | finished sameList done =>
        rw [sameList] at listed
        cases listed
        rcases both with ⟨_, recentDone⟩ | ⟨error, _⟩
        · exact .inl ⟨rfl, recent, found, recentDone⟩
        · exact absurd done (not_mem_doneStatuses error)
    | failed sameList error =>
        rw [sameList] at listed
        cases listed
        rcases both with ⟨done, _⟩ | ⟨_, recentError⟩
        · exact absurd done (not_mem_doneStatuses error)
        · exact .inr (.inl ⟨rfl, recent, found, recentError⟩)

/-- The wait is for the migration of the server exactly if the snapshot that
ends it agrees about the last migration of the list and the most recent one of
the server. -/
theorem waitForServerMigrationComplete_waits_iff (timeout : Int)
    (clock : Nat → ℚ) (snapshots : Nat → Snapshot) (serverId : Str) :
    WaitsForServer timeout clock snapshots serverId ↔
      ∀ n, Decides timeout clock snapshots n →
        Agrees serverId (snapshots n) := by
  constructor
  · intro waits n decides
    obtain ⟨before, timely, outcome, judged⟩ := decides_iff.mp decides
    have ends := (waitForServerMigrationComplete_iff serverId).mpr
      ⟨before, .inr ⟨timely, judged⟩⟩
    exact judged.allowed_iff.mp (waits n outcome ends)
  · intro agrees n outcome ends
    obtain ⟨before, ⟨_, rfl⟩ | ⟨timely, judged⟩⟩ :=
      (waitForServerMigrationComplete_iff serverId).mp ends
    · exact .inr (.inr rfl)
    · have decides : Decides timeout clock snapshots n :=
        decides_iff.mpr ⟨before, timely, outcome, judged⟩
      exact judged.allowed_iff.mpr (agrees n decides)

/-- A list with a finished migration of another server after a running one of
the server. -/
def otherServerLast : Snapshot where
  migrations :=
    [⟨1, "server".toList, "running".toList⟩,
      ⟨2, "other".toList, "completed".toList⟩]
  chronological := .inl (by simp)

/-- The wait returns while the migration of the server is still running. -/
theorem waitForServerMigrationComplete_other_server :
    WaitForServerMigrationComplete 300 (fun _ => 0) (fun _ => otherServerLast)
        "server".toList 0 (.ok ()) ∧
      mostRecent "server".toList otherServerLast =
        some ⟨1, "server".toList, "running".toList⟩ := by
  refine ⟨⟨1, ?_⟩, ?_⟩
  · decide
  · decide

end Migration

section ServiceState

/-- What a waiter for a service is called with. -/
structure ServiceWait where
  buildTimeout : Int
  buildInterval : Int
  host : Str
  binary : Str
  statusField : StatusField
  state : Str

/-- The services that the API lists for the host and binary, over time. -/
abbrev ServiceHistory := ℚ → List (StatusField → Str)

def serviceTimeout (wait : ServiceWait) : WaitExn :=
  .timeoutException
    ["Service %s on host %s failed to reach state %s within ".toList ++
      "the required time (%s s)".toList, wait.binary, wait.host, wait.state,
      str wait.buildTimeout]

variable (wait : ServiceWait) (history : ServiceHistory) (start : ℚ)

/-- One turn of the loop, with the time and the service seen last. -/
def serviceTurn (seen : ℚ × (StatusField → Str)) :
    Turn (ℚ × (StatusField → Str)) (Except WaitExn Unit) :=
  if seen.2 wait.statusField = wait.state then .done (.ok ())
  else
    let now := seen.1 + wait.buildInterval
    if seconds now - seconds start ≥ wait.buildTimeout then
      .done (.error (serviceTimeout wait))
    else
      match (history now).head? with
      | none => .done (.error .indexError)
      | some service => .again (now, service)

/-- `wait_for_nova_service_state` ends with the given outcome when it is called
at the start time.  A query takes no time, and a sleep as long as it says. -/
def WaitForNovaServiceState (outcome : Except WaitExn Unit) : Prop :=
  match (history start).head? with
  | none => outcome = .error .indexError
  | some service => Turn.Ends (serviceTurn wait history start)
      (start, service) outcome

/-- The time of a query. -/
def poll (n : Nat) : ℚ :=
  start + n * wait.buildInterval

/-- The query is made at the start or before the deadline. -/
def Queried (n : Nat) : Prop :=
  n = 0 ∨ seconds (poll wait start n) - seconds start < wait.buildTimeout

/-- What the API reports about the service at a time. -/
def Reports (time : ℚ) (status : Str) : Prop :=
  ∃ service, (history time).head? = some service ∧
    service wait.statusField = status

/-- A query that is made finds the wanted state. -/
def Found : Prop :=
  ∃ n, Queried wait start n ∧
    Reports wait history (poll wait start n) wait.state

/-- The wait returns and does not raise the timeout. -/
def NoFalseTimeout : Prop :=
  WaitForNovaServiceState wait history start (.ok ()) ∧
    ¬ WaitForNovaServiceState wait history start
      (.error (serviceTimeout wait))

variable {wait history start} {service : ℚ → StatusField → Str}

theorem poll_succ (wait : ServiceWait) (start : ℚ) (n : Nat) :
    poll wait start n + wait.buildInterval = poll wait start (n + 1) := by
  rw [poll, poll]
  push_cast
  ring

theorem poll_zero (wait : ServiceWait) (start : ℚ) :
    poll wait start 0 = start := by
  simp [poll]

theorem poll_mono (interval : 1 ≤ wait.buildInterval) {m n : Nat}
    (order : m ≤ n) : poll wait start m ≤ poll wait start n := by
  have nonnegative : (0 : ℚ) ≤ wait.buildInterval := by
    exact_mod_cast (zero_le_one.trans interval)
  have counts : (m : ℚ) ≤ n := by exact_mod_cast order
  exact add_le_add_right (mul_le_mul_of_nonneg_right counts nonnegative) start

/-- Queries are made up to the deadline. -/
theorem Queried.earlier (interval : 1 ≤ wait.buildInterval) {m n : Nat}
    (order : m ≤ n) (queried : Queried wait start n) :
    Queried wait start m := by
  rcases queried with rfl | before
  · exact .inl (Nat.le_zero.mp order)
  · have times : poll wait start m ≤ poll wait start n :=
      poll_mono interval order
    have earlier := seconds_mono times
    exact .inr (by omega)

/-- The state of the loop when it has slept the given number of times. -/
def seenAt (wait : ServiceWait) (service : ℚ → StatusField → Str)
    (start : ℚ) (n : Nat) : ℚ × (StatusField → Str) :=
  (poll wait start n, service (poll wait start n))

theorem serviceTurn_seenAt
    (listed : ∀ time, (history time).head? = some (service time)) (n : Nat) :
    serviceTurn wait history start (seenAt wait service start n) =
      if service (poll wait start n) wait.statusField = wait.state then
        .done (.ok ())
      else if seconds (poll wait start (n + 1)) - seconds start ≥
          wait.buildTimeout then .done (.error (serviceTimeout wait))
      else .again (seenAt wait service start (n + 1)) := by
  simp only [serviceTurn, seenAt, poll_succ, listed]

theorem serviceTurn_again_iff
    (listed : ∀ time, (history time).head? = some (service time)) {n : Nat}
    {next : ℚ × (StatusField → Str)} :
    serviceTurn wait history start (seenAt wait service start n) =
        .again next ↔
      next = seenAt wait service start (n + 1) ∧
        service (poll wait start n) wait.statusField ≠ wait.state ∧
        seconds (poll wait start (n + 1)) - seconds start <
          wait.buildTimeout := by
  rw [serviceTurn_seenAt listed]
  split_ifs with wanted late
  · simp [wanted]
  · simp [not_lt.mpr late]
  · simp [wanted, not_le.mp late, eq_comm]

theorem serviceTurn_ok_iff
    (listed : ∀ time, (history time).head? = some (service time)) {n : Nat} :
    serviceTurn wait history start (seenAt wait service start n) =
        .done (.ok ()) ↔
      service (poll wait start n) wait.statusField = wait.state := by
  rw [serviceTurn_seenAt listed]
  split_ifs with wanted late
  · simp [wanted]
  · simp [wanted]
  · simp [wanted]

theorem serviceTurn_timeout_iff
    (listed : ∀ time, (history time).head? = some (service time)) {n : Nat} :
    serviceTurn wait history start (seenAt wait service start n) =
        .done (.error (serviceTimeout wait)) ↔
      service (poll wait start n) wait.statusField ≠ wait.state ∧
        wait.buildTimeout ≤
          seconds (poll wait start (n + 1)) - seconds start := by
  rw [serviceTurn_seenAt listed]
  split_ifs with wanted late
  · simp [wanted]
  · simp [wanted, late]
  · simp [late]

theorem waitForNovaServiceState_iff_exists
    (listed : ∀ time, (history time).head? = some (service time))
    {outcome : Except WaitExn Unit} :
    WaitForNovaServiceState wait history start outcome ↔
      ∃ n, serviceTurn wait history start (seenAt wait service start n) =
          .done outcome ∧
        ∀ m < n, service (poll wait start m) wait.statusField ≠ wait.state ∧
          seconds (poll wait start (m + 1)) - seconds start <
            wait.buildTimeout := by
  have follows : ∀ n next, serviceTurn wait history start
      (seenAt wait service start n) = .again next →
        next = seenAt wait service start (n + 1) :=
    fun n next continued => ((serviceTurn_again_iff listed).mp continued).1
  have begins : WaitForNovaServiceState wait history start outcome ↔
      Turn.Ends (serviceTurn wait history start)
        (seenAt wait service start 0) outcome := by
    rw [WaitForNovaServiceState, listed, seenAt, poll_zero]
  rw [begins, Turn.ends_iff_exists follows]
  simp only [serviceTurn_again_iff listed, true_and]

theorem reports_iff
    (listed : ∀ time, (history time).head? = some (service time)) {time : ℚ}
    {status : Str} :
    Reports wait history time status ↔
      service time wait.statusField = status := by
  simp [Reports, listed]

/-- The wait returns exactly if a query that is made finds the wanted state. -/
theorem waitForNovaServiceState_returns_iff
    (interval : 1 ≤ wait.buildInterval)
    (listed : ∀ time, (history time).head? = some (service time)) :
    WaitForNovaServiceState wait history start (.ok ()) ↔
      Found wait history start := by
  rw [waitForNovaServiceState_iff_exists listed]
  simp only [Found, serviceTurn_ok_iff listed, reports_iff listed]
  constructor
  · intro ends
    obtain ⟨n, wanted, before⟩ := ends
    refine ⟨n, ?_, wanted⟩
    cases n with
    | zero => exact .inl rfl
    | succ n => exact .inr (before n n.lt_succ_self).2
  · intro found
    classical
    -- The first query that finds the state ends the wait.
    obtain ⟨queried, wanted⟩ := Nat.find_spec found
    refine ⟨Nat.find found, wanted, ?_⟩
    intro m below
    constructor
    · intro same
      exact Nat.find_min found below ⟨queried.earlier interval below.le, same⟩
    · rcases queried.earlier interval below with zero | early
      · cases zero
      · exact early

/-- The deadline passes. -/
theorem exists_late (interval : 1 ≤ wait.buildInterval) (start : ℚ) :
    ∃ n, wait.buildTimeout ≤
      seconds (poll wait start (n + 1)) - seconds start := by
  let n := (wait.buildTimeout + seconds start - ⌊start⌋).toNat
  refine ⟨n, ?_⟩
  have times : start + n ≤ poll wait start (n + 1) := by
    have steps : (1 : ℚ) ≤ wait.buildInterval := by exact_mod_cast interval
    have counts : (0 : ℚ) ≤ (n + 1 : Nat) := Nat.cast_nonneg _
    calc
      start + n ≤ start + (n + 1 : Nat) * 1 := by
        push_cast
        linarith
      _ ≤ poll wait start (n + 1) := by
        exact add_le_add_right (mul_le_mul_of_nonneg_left steps counts) start
  have large : wait.buildTimeout + seconds start ≤ ⌊start⌋ + n := by omega
  have reached : wait.buildTimeout + seconds start ≤
      seconds (poll wait start (n + 1)) := by
    apply le_truncate
    calc
      ((wait.buildTimeout + seconds start : Int) : ℚ) ≤
          ((⌊start⌋ + n : Int) : ℚ) := by exact_mod_cast large
      _ ≤ start + n := by
        push_cast
        exact add_le_add_left (Int.floor_le start) _
      _ ≤ poll wait start (n + 1) := times
  omega

/-- A wait that finds the state at no query times out. -/
theorem waitForNovaServiceState_times_out
    (interval : 1 ≤ wait.buildInterval)
    (listed : ∀ time, (history time).head? = some (service time))
    (missed : ¬ Found wait history start) :
    WaitForNovaServiceState wait history start
      (.error (serviceTimeout wait)) := by
  classical
  have passes := exists_late interval start
  -- The first sleep that ends after the deadline ends the wait.
  have early : ∀ m < Nat.find passes,
      seconds (poll wait start (m + 1)) - seconds start <
        wait.buildTimeout :=
    fun m below => not_le.mp (Nat.find_min passes below)
  have unwanted : ∀ m ≤ Nat.find passes,
      service (poll wait start m) wait.statusField ≠ wait.state := by
    intro m below same
    refine missed ⟨m, ?_, (reports_iff listed).mpr same⟩
    cases m with
    | zero => exact .inl rfl
    | succ m => exact .inr (early m below)
  refine (waitForNovaServiceState_iff_exists listed).mpr
    ⟨Nat.find passes, ?_, ?_⟩
  · exact (serviceTurn_timeout_iff listed).mpr
      ⟨unwanted _ le_rfl, Nat.find_spec passes⟩
  · intro m below
    exact ⟨unwanted m below.le, early m below⟩

theorem WaitForNovaServiceState.unique {first second : Except WaitExn Unit}
    (ends : WaitForNovaServiceState wait history start first)
    (other : WaitForNovaServiceState wait history start second) :
    second = first := by
  unfold WaitForNovaServiceState at ends other
  split at ends
  · next empty =>
      simp only [empty] at other
      rw [ends, other]
  · next listed =>
      simp only [listed] at other
      exact ends.unique other

end ServiceState

/-- The wait returns exactly if a query that is made finds the wanted state, and
it times out otherwise.  A query after the time from which on the service keeps
the state finds it. -/
theorem waitForNovaServiceState_no_false_timeout_iff (wait : ServiceWait)
    (history : ServiceHistory) (start : ℚ) (interval : 1 ≤ wait.buildInterval)
    (listed : ∀ time, history time ≠ []) :
    (NoFalseTimeout wait history start ↔ Found wait history start) ∧
      (¬ Found wait history start →
        WaitForNovaServiceState wait history start
          (.error (serviceTimeout wait))) ∧
      ∀ reached, (∀ time ≥ reached, Reports wait history time wait.state) →
        (∃ n, Queried wait start n ∧ reached ≤ poll wait start n) →
          NoFalseTimeout wait history start := by
  have heads (time : ℚ) : (history time).head? =
      some ((history time).head (listed time)) :=
    List.head?_eq_some_head (listed time)
  have noTimeout : NoFalseTimeout wait history start ↔
      Found wait history start := by
    rw [← waitForNovaServiceState_returns_iff interval heads]
    constructor
    · intro returned
      exact returned.1
    · intro returned
      refine ⟨returned, ?_⟩
      intro timedOut
      cases returned.unique timedOut
  refine ⟨noTimeout, ?_, ?_⟩
  · intro missed
    exact waitForNovaServiceState_times_out interval heads missed
  · rintro reached keeps ⟨n, queried, late⟩
    exact noTimeout.mpr ⟨n, queried, keeps _ late⟩

def upWithin (timeout : Int) : ServiceWait where
  buildTimeout := timeout
  buildInterval := 1
  host := "compute-0".toList
  binary := "nova-compute".toList
  statusField := .state
  state := "up".toList

/-- A service that comes up one second after the start. -/
def upAfterOne : ServiceHistory := fun time =>
  [fun _ => if 1 ≤ time then "up".toList else "down".toList]

theorem waitForNovaServiceState_up_within_two :
    (1 : Int) ≤ (upWithin 2).buildInterval ∧
      (∀ time, upAfterOne time ≠ []) ∧
      NoFalseTimeout (upWithin 2) upAfterOne 0 := by
  have listed : ∀ time, upAfterOne time ≠ [] := by simp [upAfterOne]
  refine ⟨le_rfl, listed, ?_⟩
  refine (waitForNovaServiceState_no_false_timeout_iff (upWithin 2) upAfterOne
    0 le_rfl listed).1.mpr ⟨1, .inr ?_, _, rfl, if_pos ?_⟩
  · norm_num [poll, upWithin, seconds, truncate]
  · norm_num [poll, upWithin]

/-- The service is up when the timeout has passed, but it is not queried then. -/
theorem waitForNovaServiceState_deadline_not_queried :
    WaitForNovaServiceState (upWithin 1) upAfterOne 0
        (.error (serviceTimeout (upWithin 1))) ∧
      (∀ time ≥ 1, Reports (upWithin 1) upAfterOne time (upWithin 1).state) ∧
      (1 : ℚ) ≤ 0 + (upWithin 1).buildTimeout := by
  refine ⟨(Turn.ends_of_done ?_).mpr rfl, ?_, ?_⟩
  · have down : (if (1 : ℚ) ≤ 0 then "up".toList else "down".toList) ≠
        (upWithin 1).state := by
      decide
    rw [serviceTurn, if_neg down, if_pos]
    norm_num [upWithin, seconds, truncate]
  · intro time late
    exact ⟨_, rfl, if_pos late⟩
  · norm_num [upWithin]

end Whitebox.Common
