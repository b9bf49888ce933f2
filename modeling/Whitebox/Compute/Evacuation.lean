import Whitebox.Compute.DomainShutdown
import Whitebox.Effect.Trace
import Whitebox.Services.ServiceManager

/-!
# The evacuation of a server

The evacuation tests stop the compute service of a host, shut the domain of a
server down behind its back, evacuate the server and start the service again.
What Nova and the host do meanwhile is left open: the runs are those in which
every remote call can raise and every wait sees any history.

The protocol that all these runs obey says that a server is evacuated only
while the service of its host is known to be down and its domain is known to be
gone from there.
-/

namespace Whitebox.Compute

open Whitebox.Python
open Whitebox.Effect
open Whitebox.Common
open Whitebox.Services (StatusField HostParameters ServiceManager)
open Whitebox.Services.ServiceManager (novaCompute)

/-- What can be seen of an evacuation test.  The event of a wait for a service
state is its return, and the listing that ends a wait for a migration is its
event. -/
inductive EvacuationEvent where
  | host (serverId name : Str)
  | otherHost (serverId name : Str)
  | remote (host : Str) (request : Services.Request)
  | instanceName (serverId name : Str)
  | shutdown (host domainName : Str)
  | domains (host : Str) (output : DomainList)
  | sleep (interval : Int)
  | evacuate (serverId : Str) (target : Option Str)
  | migrations (snapshot : Snapshot)
  | status (serverId name : Str)

inductive EvacuationExn where
  | api (name : Str)
  | services (error : Services.Exn)
  | wait (error : WaitExn)
  | failureException (first second : Str)

abbrev EvacuationRun := Traced EvacuationEvent EvacuationExn

section Waits

/-- `wait_for_nova_service_state`, with any timeouts and any history. -/
inductive WaitsForState (host binary : Str) (field : StatusField)
    (state : Str) : EvacuationRun Unit where
  | running : WaitsForState host binary field state [] .running
  | lost (name : Str) :
      WaitsForState host binary field state [] (.raised (.api name))
  | raised {timeout interval : Int} {history : ServiceHistory} {start : ℚ}
      {error : WaitExn}
      (ended : WaitForNovaServiceState
        ⟨timeout, interval, host, binary, field, state⟩ history start
        (.error error)) :
      WaitsForState host binary field state [] (.raised (.wait error))
  | returned {timeout interval : Int} {history : ServiceHistory} {start : ℚ}
      (ended : WaitForNovaServiceState
        ⟨timeout, interval, host, binary, field, state⟩ history start
        (.ok ())) :
      WaitsForState host binary field state
        [.remote host (.waitForState binary field state)] (.returned ())

def seenIn (host : Str) (wait : ShutdownWait) :
    ShutdownEvent → EvacuationEvent
  | .poll n => .domains host (wait.outputs n)
  | .sleep interval => .sleep interval

/-- `_wait_for_domain_shutdown`, with any clock and any outputs. -/
inductive WaitsForShutdown (host domainName : Str) : EvacuationRun Unit where
  | running {wait : ShutdownWait} {log : List ShutdownEvent}
      (named : wait.domainName = domainName) (happens : wait.Happens log) :
      WaitsForShutdown host domainName (log.map (seenIn host wait)) .running
  | lost {wait : ShutdownWait} {log : List ShutdownEvent} {name : Str}
      (named : wait.domainName = domainName) (happens : wait.Happens log) :
      WaitsForShutdown host domainName (log.map (seenIn host wait))
        (.raised (.api name))
  | raised {wait : ShutdownWait} {log : List ShutdownEvent} {error : WaitExn}
      (named : wait.domainName = domainName)
      (ended : wait.WaitForDomainShutdown log (.error error)) :
      WaitsForShutdown host domainName (log.map (seenIn host wait))
        (.raised (.wait error))
  | returned {wait : ShutdownWait} {log : List ShutdownEvent}
      (named : wait.domainName = domainName)
      (ended : wait.WaitForDomainShutdown log (.ok ())) :
      WaitsForShutdown host domainName (log.map (seenIn host wait))
        (.returned ())

/-- `wait_for_server_migration_complete`, with any clock and any listings. -/
inductive WaitsForMigration (serverId : Str) : EvacuationRun Unit where
  | running : WaitsForMigration serverId [] .running
  | lost (name : Str) : WaitsForMigration serverId [] (.raised (.api name))
  | raised {timeout : Int} {clock : Nat → ℚ} {snapshots : Nat → Snapshot}
      {n : Nat} {error : WaitExn}
      (ended : WaitForServerMigrationComplete timeout clock snapshots serverId
        n (.error error)) :
      WaitsForMigration serverId [] (.raised (.wait error))
  | returned {timeout : Int} {clock : Nat → ℚ} {snapshots : Nat → Snapshot}
      {n : Nat}
      (ended : WaitForServerMigrationComplete timeout clock snapshots serverId
        n (.ok ())) :
      WaitsForMigration serverId [.migrations (snapshots n)] (.returned ())

end Waits

section Tests

/-- One request of `NovaServiceManager.stop` or `NovaServiceManager.start`. -/
def performOn (host : Str) : Services.Request → EvacuationRun Unit
  | .waitForState binary field state => WaitsForState host binary field state
  | request => Traced.Request (.remote host request)

/-- `with host_svc.stopped(): body`. -/
def whileStopped (host : Str) (manager : ServiceManager)
    (body : EvacuationRun Unit) : EvacuationRun Unit := do
  manager.stopRequests.forM (performOn host)
  Traced.TryFinally body (manager.startRequests.forM (performOn host))

def shutdownServerDomain (serverId host : Str) : EvacuationRun Unit := do
  let domainName ← Traced.Query (.instanceName serverId)
  let _ : Unit ← Traced.Request (.shutdown host domainName)
  WaitsForShutdown host domainName

def evacuateServer (serverId : Str) (target : Option Str) :
    EvacuationRun Unit := do
  let _ : Unit ← Traced.Request (.evacuate serverId target)
  WaitsForMigration serverId

/-- `NovaServiceManager(host, 'nova-compute', services_client)`. -/
def novaServiceManager (nodes : Str → Option HostParameters) (host : Str) :
    EvacuationRun ServiceManager :=
  match ServiceManager.init .nova novaCompute (nodes host) with
  | .ok manager => pure manager
  | .error error => Traced.Raise (.services error)

/-- What an evacuation test asks for and expects: whether it names the host to
go to, and the status at the end. -/
structure EvacuationTest where
  withTarget : Bool
  finalStatus : Str

/-- `get_host_other_than`, where the test asks for it. -/
def EvacuationTest.target (test : EvacuationTest) (serverId : Str) :
    EvacuationRun (Option Str) :=
  if test.withTarget then do
    let name ← Traced.Query (.otherHost serverId)
    pure (some name)
  else pure none

/-- The host of the server is the target if there is one, and another one than
before otherwise. -/
def landed (hostA : Str) (hostB : Option Str) (host : Str) : Bool :=
  match hostB with
  | some target => host == target
  | none => host != hostA

/-- The assertions about the server after the evacuation. -/
def EvacuationTest.checks (test : EvacuationTest) (serverId hostA : Str)
    (hostB : Option Str) : EvacuationRun Unit := do
  let host ← Traced.Query (.host serverId)
  Traced.check (landed hostA hostB host)
    (.failureException host (hostB.getD hostA))
  let status ← Traced.Query (.status serverId)
  Traced.check (status == test.finalStatus)
    (.failureException status test.finalStatus)

/-- The evacuation tests from the point where the server is active. -/
def EvacuationTest.run (test : EvacuationTest)
    (nodes : Str → Option HostParameters) (serverId : Str) :
    EvacuationRun Unit := do
  let hostA ← Traced.Query (.host serverId)
  let hostB ← test.target serverId
  let manager ← novaServiceManager nodes hostA
  whileStopped hostA manager do
    shutdownServerDomain serverId hostA
    evacuateServer serverId hostB
  test.checks serverId hostA hostB

def testEvacuateToShutoff : EvacuationTest :=
  ⟨false, "SHUTOFF".toList⟩

def testEvacuateWithTargetHost : EvacuationTest :=
  ⟨true, "SHUTOFF".toList⟩

/-- The test for microversion 2.94. -/
def testEvacuateToActive : EvacuationTest :=
  ⟨false, "ACTIVE".toList⟩

end Tests

section Protocol

def EvacuationEvent.isHost : EvacuationEvent → Bool
  | .host _ _ => true
  | _ => false

def EvacuationEvent.isRemote : EvacuationEvent → Bool
  | .remote _ _ => true
  | _ => false

def EvacuationEvent.isEvacuation : EvacuationEvent → Bool
  | .evacuate _ _ => true
  | _ => false

/-- All answers so far say that the server is on the host. -/
def Located (serverId host : Str) (log : List EvacuationEvent) : Prop :=
  .host serverId host ∈ log ∧ ∀ name, .host serverId name ∈ log → name = host

/-- Nova reports that the service of the host is down. -/
def downSeen (host : Str) : EvacuationEvent :=
  .remote host (.waitForState novaCompute .state StatusField.down)

/-- The service of the host was asked to stop and seen down, and nothing was
done to a service since. -/
def Down (host : Str) (log : List EvacuationEvent) : Prop :=
  ∃ before after, log = before ++ downSeen host :: after ∧
    (∃ command, .remote host (.service .stop command) ∈ before) ∧
    ∀ event ∈ after, event.isRemote = false

/-- The last thing seen is a listing of the host without the name of the
server's domain, which was to be shut down there before. -/
def Emptied (serverId host : Str) (log : List EvacuationEvent) : Prop :=
  ∃ earlier name output, log = earlier ++ [.domains host output] ∧
    .instanceName serverId name ∈ earlier ∧ .shutdown host name ∈ earlier ∧
    contains output.text name = false

/-- What an evacuation may do after what was seen. -/
def EvacuationAllowed (before : List EvacuationEvent) :
    EvacuationEvent → Prop
  | .shutdown host name => Down host before ∧
      ∃ serverId, Located serverId host before ∧
        .instanceName serverId name ∈ before
  | .evacuate serverId _ =>
      (∃ host, Located serverId host before ∧ Down host before ∧
        Emptied serverId host before) ∧
      ∀ event ∈ before, event.isEvacuation = false
  | .remote host (.service .start _) => Down host before
  | _ => True

/-- Wherever the service of a host was seen down, a request to start it was
sent afterwards. -/
def Restarted (log : List EvacuationEvent) : Prop :=
  ∀ host before after, log = before ++ downSeen host :: after →
    ∃ command, .remote host (.service .start command) ∈ after

/-- What the log of a test that passes has in it. -/
structure Evacuated (test : EvacuationTest) (serverId : Str)
    (log : List EvacuationEvent) : Prop where
  sent : ∃ hostB, .evacuate serverId hostB ∈ log ∧
    ∃ hostA middle host, landed hostA hostB host = true ∧
      log = .host serverId hostA :: middle ++
        [.host serverId host, .status serverId test.finalStatus]
  migrated : ∃ snapshot migration, .migrations snapshot ∈ log ∧
    snapshot.migrations.getLast? = some migration ∧
    migration.status ∈ doneStatuses

end Protocol

section Marks

variable {log more : List EvacuationEvent} {event : EvacuationEvent}
  {serverId hostA : Str} {hostB : Option Str}

/-- An event that neither says where the server is nor does anything to a
service or moves a server. -/
structure EvacuationEvent.Calm (event : EvacuationEvent) : Prop where
  host : event.isHost = false
  remote : event.isRemote = false
  evacuation : event.isEvacuation = false

theorem Located.append {host : Str} (located : Located serverId host log)
    (calm : ∀ event ∈ more, event.isHost = false) :
    Located serverId host (log ++ more) := by
  obtain ⟨member, only⟩ := located
  refine ⟨List.mem_append_left more member, ?_⟩
  intro name answered
  rcases List.mem_append.mp answered with early | late
  · exact only name early
  · cases calm _ late

theorem Down.append {host : Str} (down : Down host log)
    (calm : ∀ event ∈ more, event.isRemote = false) :
    Down host (log ++ more) := by
  obtain ⟨before, after, rfl, stopped, since⟩ := down
  refine ⟨before, after ++ more, by simp, stopped, ?_⟩
  intro event member
  rcases List.mem_append.mp member with early | late
  · exact since event early
  · exact calm event late

theorem restarted_of_not_mem (unseen : ∀ host, downSeen host ∉ log) :
    Restarted log := by
  intro host before after shape
  subst shape
  exact absurd (by simp) (unseen host)

theorem Restarted.append (restarted : Restarted log)
    (different : ∀ host, event ≠ downSeen host) :
    Restarted (log ++ [event]) := by
  intro host before after shape
  rcases List.eq_nil_or_concat after with rfl | ⟨middle, last, rfl⟩
  · obtain ⟨_, same⟩ := List.append_inj' shape rfl
    cases same
    exact absurd rfl (different host)
  · rw [List.concat_eq_append, ← List.cons_append, ← List.append_assoc] at shape
    obtain ⟨same, _⟩ := List.append_inj' shape rfl
    obtain ⟨command, member⟩ := restarted host before middle same
    exact ⟨command, by simp [member]⟩

/-- The service of the host is down, and no other one was seen down. -/
structure Stopped (hostA : Str) (log : List EvacuationEvent) : Prop where
  down : Down hostA log
  only : ∀ host, downSeen host ∈ log → host = hostA

theorem Stopped.append (stopped : Stopped hostA log)
    (calm : ∀ event ∈ more, event.isRemote = false) :
    Stopped hostA (log ++ more) where
  down := stopped.down.append calm
  only := by
    intro host member
    rcases List.mem_append.mp member with early | late
    · exact stopped.only host early
    · cases calm _ late

theorem Stopped.restarted (stopped : Stopped hostA log)
    (command : Option Str) :
    Restarted (log ++ [.remote hostA (.service .start command)]) := by
  intro host before after shape
  rcases List.eq_nil_or_concat after with rfl | ⟨middle, last, rfl⟩
  · obtain ⟨_, same⟩ := List.append_inj' shape rfl
    cases same
  · rw [List.concat_eq_append, ← List.cons_append, ← List.append_assoc] at shape
    obtain ⟨rfl, same⟩ := List.append_inj' shape rfl
    cases same
    have sameHost : host = hostA := stopped.only host (by simp)
    exact ⟨command, by simp [sameHost]⟩

/-- The test has asked for the host and done nothing else yet. -/
structure Asked (serverId hostA : Str) (log : List EvacuationEvent) :
    Prop where
  first : [.host serverId hostA] <+: log
  located : Located serverId hostA log
  untouched : ∀ event ∈ log, event.isRemote = false
  unsent : ∀ event ∈ log, event.isEvacuation = false

/-- The service is down, and nothing has been evacuated yet. -/
structure Inside (serverId hostA : Str) (log : List EvacuationEvent) :
    Prop where
  first : [.host serverId hostA] <+: log
  located : Located serverId hostA log
  stopped : Stopped hostA log
  unsent : ∀ event ∈ log, event.isEvacuation = false

/-- The server has been evacuated. -/
structure Sent (serverId hostA : Str) (hostB : Option Str)
    (log : List EvacuationEvent) : Prop where
  first : [.host serverId hostA] <+: log
  sent : .evacuate serverId hostB ∈ log
  migrated : ∃ snapshot migration, .migrations snapshot ∈ log ∧
    snapshot.migrations.getLast? = some migration ∧
    migration.status ∈ doneStatuses

theorem Asked.unseen (asked : Asked serverId hostA log) (host : Str) :
    downSeen host ∉ log := by
  intro member
  cases asked.untouched (downSeen host) member

theorem Asked.restarted (asked : Asked serverId hostA log) :
    Restarted log :=
  restarted_of_not_mem asked.unseen

theorem Asked.append (asked : Asked serverId hostA log) (calm : event.Calm) :
    Asked serverId hostA (log ++ [event]) where
  first := asked.first.trans (List.prefix_append log [event])
  located := asked.located.append (by simpa using calm.host)
  untouched := by
    simpa [or_imp, forall_and, calm.remote] using asked.untouched
  unsent := by
    simpa [or_imp, forall_and, calm.evacuation] using asked.unsent

theorem Inside.append (inside : Inside serverId hostA log)
    (calm : ∀ event ∈ more, event.Calm) :
    Inside serverId hostA (log ++ more) where
  first := inside.first.trans (List.prefix_append log more)
  located := inside.located.append fun event member => (calm event member).host
  stopped := inside.stopped.append fun event member =>
    (calm event member).remote
  unsent := by
    intro event member
    rcases List.mem_append.mp member with early | late
    · exact inside.unsent event early
    · exact (calm event late).evacuation

theorem Sent.append (sent : Sent serverId hostA hostB log)
    (event : EvacuationEvent) :
    Sent serverId hostA hostB (log ++ [event]) where
  first := sent.first.trans (List.prefix_append log [event])
  sent := List.mem_append_left [event] sent.sent
  migrated := by
    obtain ⟨snapshot, migration, member, last⟩ := sent.migrated
    exact ⟨snapshot, migration, List.mem_append_left [event] member, last⟩

end Marks

section Statements

variable {hostA serverId : Str} {hostB : Option Str}

/-- A return of the wait for a shutdown leaves a listing without the name. -/
theorem WaitsForShutdown.emptied {host domainName : Str}
    {log : List EvacuationEvent}
    (ended : WaitsForShutdown host domainName log (.returned ())) :
    ∃ earlier output, log = earlier ++ [.domains host output] ∧
      contains output.text domainName = false := by
  cases ended with
  | @returned wait log named ended =>
      obtain ⟨n, last, _⟩ := waitForDomainShutdown_iff.mp ended
      rcases last with ⟨_, _, raised⟩ | ⟨_, unmentioned, same, _⟩
      · cases raised
      · refine ⟨(pollsBefore n).map (seenIn host wait), wait.outputs n, ?_, ?_⟩
        · rw [same, pollsBefore_succ, List.map_append]
          rfl
        · rw [← named]
          exact Bool.eq_false_iff.mpr unmentioned

theorem seenIn_calm (host : Str) (wait : ShutdownWait)
    (event : ShutdownEvent) :
    (seenIn host wait event).Calm ∧
      ∀ before, EvacuationAllowed before (seenIn host wait event) := by
  cases event with
  | poll n => exact ⟨⟨rfl, rfl, rfl⟩, fun _ => trivial⟩
  | sleep interval => exact ⟨⟨rfl, rfl, rfl⟩, fun _ => trivial⟩

theorem WaitsForShutdown.calm {host domainName : Str}
    {log : List EvacuationEvent} {status : Status EvacuationExn Unit}
    (moment : WaitsForShutdown host domainName log status) :
    ∀ event ∈ log, event.Calm ∧ ∀ before, EvacuationAllowed before event := by
  intro event member
  cases moment with
  | running _ _ =>
      obtain ⟨seen, _, rfl⟩ := List.mem_map.mp member
      exact seenIn_calm host _ seen
  | lost _ _ =>
      obtain ⟨seen, _, rfl⟩ := List.mem_map.mp member
      exact seenIn_calm host _ seen
  | raised _ _ =>
      obtain ⟨seen, _, rfl⟩ := List.mem_map.mp member
      exact seenIn_calm host _ seen
  | returned _ _ =>
      obtain ⟨seen, _, rfl⟩ := List.mem_map.mp member
      exact seenIn_calm host _ seen

theorem WaitsForMigration.done {log : List EvacuationEvent}
    (ended : WaitsForMigration serverId log (.returned ())) :
    ∃ snapshot migration, log = [.migrations snapshot] ∧
      snapshot.migrations.getLast? = some migration ∧
      migration.status ∈ doneStatuses := by
  cases ended with
  | @returned timeout clock snapshots n ended =>
      obtain ⟨_, last⟩ :=
        (waitForServerMigrationComplete_iff serverId).mp ended
      rcases last with ⟨_, raised⟩ | ⟨_, judged⟩
      · cases raised
      · cases judged with
        | @finished migration listed done =>
            exact ⟨snapshots n, migration, rfl, listed, done⟩

theorem WaitsForState.allowed {host binary state : Str} {field : StatusField}
    {log : List EvacuationEvent} {status : Status EvacuationExn Unit}
    (moment : WaitsForState host binary field state log status) :
    ∀ event ∈ log, ∀ before, EvacuationAllowed before event := by
  intro event member before
  cases moment with
  | running => cases member
  | lost _ => cases member
  | raised _ => cases member
  | returned _ =>
      cases List.mem_singleton.mp member
      trivial

theorem WaitsForState.silent_of_raised {host binary state : Str}
    {field : StatusField} {log : List EvacuationEvent} {error : EvacuationExn}
    (moment : WaitsForState host binary field state log (.raised error)) :
    log = [] := by
  cases moment <;> rfl

theorem follows_waitsForShutdown (domainName : Str) :
    Traced.Follows EvacuationAllowed
      (fun log => Inside serverId hostA log ∧
        .instanceName serverId domainName ∈ log ∧
        .shutdown hostA domainName ∈ log)
      (WaitsForShutdown hostA domainName)
      (fun _ log => Inside serverId hostA log ∧ Emptied serverId hostA log)
      (Inside serverId hostA) := by
  have keeps : ∀ past log status, Inside serverId hostA past →
      WaitsForShutdown hostA domainName log status →
        Inside serverId hostA (past ++ log) := by
    intro past log status inside moment
    apply inside.append
    exact fun event member => (moment.calm event member).1
  apply Traced.Follows.free
  · intro log status moment event member
    exact (moment.calm event member).2
  · intro past log value marks ended
    obtain ⟨inside, named, shut⟩ := marks
    refine ⟨keeps past log _ inside ended, ?_⟩
    obtain ⟨earlier, output, rfl, absent⟩ := ended.emptied
    refine ⟨past ++ earlier, domainName, output, ?_, ?_, ?_, absent⟩
    · rw [List.append_assoc]
    · exact List.mem_append_left earlier named
    · exact List.mem_append_left earlier shut
  · intro past log error marks ended
    exact keeps past log _ marks.1 ended

theorem follows_shutdownServerDomain :
    Traced.Follows EvacuationAllowed (Inside serverId hostA)
      (shutdownServerDomain serverId hostA)
      (fun _ log => Inside serverId hostA log ∧ Emptied serverId hostA log)
      (Inside serverId hostA) := by
  have keeps : ∀ event : EvacuationEvent, event.Calm → ∀ log,
      Inside serverId hostA log → Inside serverId hostA (log ++ [event]) := by
    intro event calm log inside
    apply inside.append
    exact List.forall_mem_singleton.mpr calm
  apply Traced.Follows.seq fun domainName log => Inside serverId hostA log ∧
    .instanceName serverId domainName ∈ log
  · apply Traced.Follows.query
    · exact fun _ _ _ => trivial
    · intro name log inside
      exact ⟨keeps (.instanceName serverId name) ⟨rfl, rfl, rfl⟩ log inside,
        by simp⟩
    · exact fun _ inside => inside
  · intro domainName
    refine Traced.Follows.seq _ ?_ fun _ => follows_waitsForShutdown domainName
    apply Traced.Follows.request
    · exact fun log both =>
        ⟨both.1.stopped.down, serverId, both.1.located, both.2⟩
    · intro _ log both
      exact ⟨keeps (.shutdown hostA domainName) ⟨rfl, rfl, rfl⟩ log both.1,
        List.mem_append_left _ both.2, by simp⟩
    · exact fun log both =>
        keeps (.shutdown hostA domainName) ⟨rfl, rfl, rfl⟩ log both.1

theorem follows_evacuateServer :
    Traced.Follows EvacuationAllowed
      (fun log => Inside serverId hostA log ∧ Emptied serverId hostA log)
      (evacuateServer serverId hostB)
      (fun _ log => Stopped hostA log ∧ Sent serverId hostA hostB log)
      (Stopped hostA) := by
  have sends : ∀ log, Inside serverId hostA log →
      Stopped hostA (log ++ [.evacuate serverId hostB]) :=
    fun log inside =>
      inside.stopped.append (by simp [EvacuationEvent.isRemote])
  apply Traced.Follows.seq fun _ log => Stopped hostA log ∧
    [.host serverId hostA] <+: log ∧ .evacuate serverId hostB ∈ log
  · apply Traced.Follows.request
    · exact fun log both => ⟨⟨hostA, both.1.located, both.1.stopped.down,
        both.2⟩, both.1.unsent⟩
    · intro _ log both
      exact ⟨sends log both.1,
        both.1.first.trans (List.prefix_append log _), by simp⟩
    · exact fun log both => sends log both.1
  · intro _
    apply Traced.Follows.free
    · intro log status moment event member before
      cases moment with
      | running => cases member
      | lost _ => cases member
      | raised _ => cases member
      | returned _ =>
          cases List.mem_singleton.mp member
          trivial
    · intro past log value marks ended
      obtain ⟨stopped, first, sent⟩ := marks
      obtain ⟨snapshot, migration, rfl, last, done⟩ := ended.done
      refine ⟨stopped.append (by simp [EvacuationEvent.isRemote]),
        first.trans (List.prefix_append past _),
        List.mem_append_left _ sent, snapshot, migration, by simp, last, done⟩
    · intro past log error marks ended
      have silent : log = [] := by
        cases ended <;> rfl
      rw [silent, List.append_nil]
      exact marks.1

/-- The manager that the tests construct. -/
structure ManagesNova (manager : ServiceManager) : Prop where
  kind : manager.kind = .nova
  service : manager.service = novaCompute

theorem managesNova_of_init {parameters : Option HostParameters}
    {manager : ServiceManager}
    (built : ServiceManager.init .nova novaCompute parameters = .ok manager) :
    ManagesNova manager := by
  unfold ServiceManager.init at built
  split at built
  · cases built
  · split at built
    · cases built
    · cases built
      exact ⟨rfl, rfl⟩

theorem follows_stop {manager : ServiceManager} (nova : ManagesNova manager) :
    Traced.Follows EvacuationAllowed (Asked serverId hostA)
      (manager.stopRequests.forM (performOn hostA))
      (fun _ => Inside serverId hostA) Restarted := by
  have requests : manager.stopRequests =
      [.service .stop manager.stopCommand,
        .waitForState novaCompute .state StatusField.down] := by
    rw [ServiceManager.stopRequests, nova.kind, nova.service]
  rw [requests]
  have unseen : ∀ log, Asked serverId hostA log → ∀ host, downSeen host ∉
      log ++ [.remote hostA (.service .stop manager.stopCommand)] := by
    intro log asked host member
    rcases List.mem_append.mp member with early | last
    · exact asked.unseen host early
    · cases List.mem_singleton.mp last
  apply Traced.Follows.seq fun _ log => ∃ before, Asked serverId hostA before ∧
    log = before ++ [.remote hostA (.service .stop manager.stopCommand)]
  · apply Traced.Follows.request
    · exact fun _ _ => trivial
    · exact fun _ log asked => ⟨log, asked, rfl⟩
    · exact fun log asked => restarted_of_not_mem (unseen log asked)
  · intro _
    refine Traced.Follows.seq (fun _ => Inside serverId hostA) ?_ fun _ =>
      Traced.Follows.ret fun _ inside => inside
    apply Traced.Follows.free
    · exact fun log status moment => moment.allowed
    · intro past log value stopped ended
      obtain ⟨before, asked, rfl⟩ := stopped
      cases ended
      refine ⟨?_, ?_, ⟨?_, ?_⟩, ?_⟩
      · exact (asked.first.trans (List.prefix_append before _)).trans
          (List.prefix_append _ _)
      · rw [List.append_assoc]
        apply asked.located.append
        simp [EvacuationEvent.isHost]
      · exact ⟨_, [], rfl, ⟨manager.stopCommand, by simp⟩, by simp⟩
      · intro host member
        rcases List.mem_append.mp member with early | last
        · exact absurd early (unseen before asked host)
        · cases List.mem_singleton.mp last
          rfl
      · intro event member
        simp only [List.append_assoc, List.mem_append,
          List.mem_singleton] at member
        rcases member with early | rfl | rfl
        · exact asked.unsent event early
        · rfl
        · rfl
    · intro past log error stopped ended
      obtain ⟨before, asked, rfl⟩ := stopped
      rw [ended.silent_of_raised, List.append_nil]
      exact restarted_of_not_mem (unseen before asked)

/-- Starting the service keeps what the log has in it. -/
theorem follows_start {manager : ServiceManager} (nova : ManagesNova manager)
    {marks : List EvacuationEvent → Prop}
    (monotone : ∀ log event, marks log → marks (log ++ [event])) :
    Traced.Follows EvacuationAllowed (fun log => Stopped hostA log ∧ marks log)
      (manager.startRequests.forM (performOn hostA))
      (fun _ log => Restarted log ∧ marks log) Restarted := by
  have requests : manager.startRequests =
      [.service .start manager.startCommand,
        .waitForState novaCompute .state StatusField.up] := by
    rw [ServiceManager.startRequests, nova.kind, nova.service]
  rw [requests]
  apply Traced.Follows.seq fun _ log => Restarted log ∧ marks log
  · apply Traced.Follows.request
    · exact fun log both => both.1.down
    · exact fun _ log both =>
        ⟨both.1.restarted _, monotone log _ both.2⟩
    · exact fun log both => both.1.restarted _
  · intro _
    refine Traced.Follows.seq (fun _ log => Restarted log ∧ marks log) ?_
      fun _ => Traced.Follows.ret fun _ both => both
    apply Traced.Follows.free
    · exact fun log status moment => moment.allowed
    · intro past log value both ended
      cases ended
      refine ⟨both.1.append ?_, monotone past _ both.2⟩
      intro host same
      cases same
    · intro past log error both ended
      rw [ended.silent_of_raised, List.append_nil]
      exact both.1

theorem follows_whileStopped {manager : ServiceManager}
    (nova : ManagesNova manager) :
    Traced.Follows EvacuationAllowed (Asked serverId hostA)
      (whileStopped hostA manager do
        shutdownServerDomain serverId hostA
        evacuateServer serverId hostB)
      (fun _ log => Restarted log ∧ Sent serverId hostA hostB log)
      Restarted := by
  have shut : Traced.Follows EvacuationAllowed (Inside serverId hostA)
      (shutdownServerDomain serverId hostA)
      (fun _ log => Inside serverId hostA log ∧ Emptied serverId hostA log)
      (Stopped hostA) := by
    apply follows_shutdownServerDomain.consequence
    · exact fun _ inside => inside
    · exact fun _ _ both => both
    · exact fun _ inside => inside.stopped
  have body := Traced.Follows.seq _ shut fun _ =>
    @follows_evacuateServer hostA serverId hostB
  apply Traced.Follows.seq _ (follows_stop nova)
  intro _
  apply body.tryFinally
  · intro _
    apply follows_start nova
    exact fun log event sent => sent.append event
  · have started := @follows_start hostA manager nova (fun _ => True)
      fun _ _ _ => trivial
    apply started.consequence
    · exact fun log stopped => ⟨stopped, trivial⟩
    · exact fun _ log both => both.1
    · exact fun log restarted => restarted

theorem follows_target (test : EvacuationTest) :
    Traced.Follows EvacuationAllowed (Asked serverId hostA)
      (test.target serverId) (fun _ => Asked serverId hostA) Restarted := by
  unfold EvacuationTest.target
  split
  · apply Traced.Follows.seq fun _ => Asked serverId hostA
    · apply Traced.Follows.query
      · exact fun _ _ _ => trivial
      · exact fun name log asked => asked.append ⟨rfl, rfl, rfl⟩
      · exact fun _ asked => asked.restarted
    · exact fun name => Traced.Follows.ret fun _ asked => asked
  · exact Traced.Follows.ret fun _ asked => asked

theorem follows_novaServiceManager (nodes : Str → Option HostParameters) :
    Traced.Follows EvacuationAllowed (Asked serverId hostA)
      (novaServiceManager nodes hostA)
      (fun manager log => ManagesNova manager ∧ Asked serverId hostA log)
      Restarted := by
  unfold novaServiceManager
  split
  · next manager built =>
      exact Traced.Follows.ret fun _ asked => ⟨managesNova_of_init built, asked⟩
  · exact Traced.Follows.raise fun _ asked => asked.restarted

theorem follows_checks (test : EvacuationTest) :
    Traced.Follows EvacuationAllowed
      (fun log => Restarted log ∧ Sent serverId hostA hostB log)
      (test.checks serverId hostA hostB)
      (fun _ log => Restarted log ∧ Evacuated test serverId log)
      Restarted := by
  apply Traced.Follows.seq fun host log => ∃ before,
    Sent serverId hostA hostB before ∧ log = before ++ [.host serverId host] ∧
      Restarted log
  · apply Traced.Follows.query
    · exact fun _ _ _ => trivial
    · exact fun host log both =>
        ⟨log, both.2, rfl, both.1.append (by simp [downSeen])⟩
    · exact fun _ both => both.1
  intro host
  apply Traced.Follows.seq fun _ log => ∃ before,
    Sent serverId hostA hostB before ∧ log = before ++ [.host serverId host] ∧
      Restarted log ∧ landed hostA hostB host = true
  · apply Traced.Follows.check
    · rintro log ⟨before, sent, shape, restarted⟩ there
      exact ⟨before, sent, shape, restarted, there⟩
    · rintro log ⟨_, _, _, restarted⟩ _
      exact restarted
  intro _
  apply Traced.Follows.seq fun status log => ∃ before,
    Sent serverId hostA hostB before ∧
      log = before ++ [.host serverId host, .status serverId status] ∧
      Restarted log ∧ landed hostA hostB host = true
  · apply Traced.Follows.query
    · exact fun _ _ _ => trivial
    · rintro status log ⟨before, sent, rfl, restarted, there⟩
      exact ⟨before, sent, by simp, restarted.append (by simp [downSeen]),
        there⟩
    · rintro log ⟨_, _, _, restarted, _⟩
      exact restarted
  intro status
  apply Traced.Follows.check
  · rintro log ⟨before, sent, rfl, restarted, there⟩ same
    refine ⟨restarted, ⟨hostB, List.mem_append_left _ sent.sent, ?_⟩, ?_⟩
    · obtain ⟨middle, rfl⟩ := sent.first
      rw [eq_of_beq same]
      exact ⟨hostA, middle, host, there, rfl⟩
    · obtain ⟨snapshot, migration, member, last⟩ := sent.migrated
      exact ⟨snapshot, migration, List.mem_append_left _ member, last⟩
  · rintro log ⟨_, _, _, restarted, _⟩ _
    exact restarted

theorem follows_run (test : EvacuationTest)
    (nodes : Str → Option HostParameters) (serverId : Str) :
    Traced.Follows EvacuationAllowed (fun log => log = [])
      (test.run nodes serverId)
      (fun _ log => Restarted log ∧ Evacuated test serverId log)
      Restarted := by
  apply Traced.Follows.seq (Asked serverId)
  · apply Traced.Follows.query
    · exact fun _ _ _ => trivial
    · intro hostA log empty
      subst empty
      refine ⟨List.prefix_refl _, ?_, ?_, ?_⟩
      · simp [Located]
      · simp [EvacuationEvent.isRemote]
      · simp [EvacuationEvent.isEvacuation]
    · intro log empty
      subst empty
      exact restarted_of_not_mem fun _ => List.not_mem_nil
  intro hostA
  apply Traced.Follows.seq _ (follows_target test)
  intro hostB
  apply Traced.Follows.seq _ (follows_novaServiceManager nodes)
  intro manager
  refine Traced.Follows.seq _ ?_ fun _ => follows_checks test
  intro past log status obeys both moment
  exact follows_whileStopped both.1 past log status obeys both.2 moment

end Statements

/-- At every moment of every run of an evacuation test, the server has been
evacuated only after the service of the host where it was said to be had been
asked to stop and seen down, and a listing of this host had no more trace of
its domain.  A run that has ended, however it did, has sent a request to start
each service it had seen down, and a run that has passed has seen a finished
migration and the server where it belongs. -/
theorem evacuationTest_obeys_protocol (test : EvacuationTest)
    (nodes : Str → Option HostParameters) (serverId : Str)
    (log : List EvacuationEvent) (status : Status EvacuationExn Unit)
    (moment : test.run nodes serverId log status) :
    Obeys EvacuationAllowed log ∧
      (status ≠ .running → Restarted log) ∧
      (status = .returned () → Evacuated test serverId log) := by
  obtain ⟨obeys, returned, raised⟩ :=
    (follows_run test nodes serverId).moment moment
  refine ⟨obeys, ?_, fun same => (returned () same).2⟩
  intro ended
  cases status with
  | running => exact absurd rfl ended
  | raised error => exact raised error rfl
  | returned value => exact (returned value rfl).1

/-- Nodes of a devstack, each with a compute service. -/
def evacuationNodes (_host : Str) : Option HostParameters :=
  some ⟨[(novaCompute,
    ServiceManager.devstackNovaCompute.toServiceDict)]⟩

/-- A listing with another domain, at the first poll. -/
def goneAtOnce : ShutdownWait where
  timeout := 300
  interval := 1
  clock := fun _ => 0
  nondecreasing := fun _ => le_rfl
  outputs := fun _ => ⟨["instance-00000002".toList], by decide,
    List.nodup_singleton _⟩
  domainName := "instance-00000001".toList

/-- A listing with a finished migration of the server. -/
def evacuationDone : Snapshot where
  migrations := [⟨1, "server".toList, "done".toList⟩]
  chronological := .inl (by simp)

/-- A server moves from one host to the other, and the test passes. -/
theorem evacuationTest_shutoff_passes :
    ∃ log, testEvacuateToShutoff.run evacuationNodes "server".toList log
        (.returned ()) ∧
      Obeys EvacuationAllowed log ∧ Restarted log ∧
      Evacuated testEvacuateToShutoff "server".toList log := by
  have stateSeen : ∀ state, WaitsForState "a".toList novaCompute .state state
      [.remote "a".toList (.waitForState novaCompute .state state)]
      (.returned ()) := by
    intro state
    apply @WaitsForState.returned _ _ _ _ 1 1 (fun _ => [fun _ => state]) 0
    exact ⟨1, by simp [Turn.run, serviceTurn]⟩
  have gone : WaitsForShutdown "a".toList "instance-00000001".toList
      [.domains "a".toList (goneAtOnce.outputs 0)] (.returned ()) := by
    apply @WaitsForShutdown.returned _ _ goneAtOnce [.poll 0] rfl
    exact ⟨1, by decide⟩
  have migrated : WaitsForMigration "server".toList
      [.migrations evacuationDone] (.returned ()) := by
    apply @WaitsForMigration.returned _ 300 (fun _ => 0)
      (fun _ => evacuationDone) 0
    exact ⟨1, by decide⟩
  have stops : (ServiceManager.devstackNovaCompute.stopRequests.forM
      (performOn "a".toList)) _ (.returned ()) :=
    .onward (.sent (.returned ())) (.onward (stateSeen _) .returned)
  have starts : (ServiceManager.devstackNovaCompute.startRequests.forM
      (performOn "a".toList)) _ (.returned ()) :=
    .onward (.sent (.returned ())) (.onward (stateSeen _) .returned)
  have shuts : shutdownServerDomain "server".toList "a".toList _
      (.returned ()) :=
    .onward (.answered "instance-00000001".toList)
      (.onward (.sent (.returned ())) gone)
  have evacuates : evacuateServer "server".toList none _ (.returned ()) :=
    .onward (.sent (.returned ())) migrated
  have moves : whileStopped "a".toList ServiceManager.devstackNovaCompute
      (do
        shutdownServerDomain "server".toList "a".toList
        evacuateServer "server".toList none) _ (.returned ()) :=
    .onward stops (.cleaned (.onward shuts evacuates)
      Status.returned_ne_running starts)
  have checks : testEvacuateToShutoff.checks "server".toList "a".toList none _
      (.returned ()) :=
    .onward (.answered "b".toList) (.onward .returned
      (.onward (.answered "SHUTOFF".toList) .returned))
  have moment : testEvacuateToShutoff.run evacuationNodes "server".toList _
      (.returned ()) :=
    .onward (.answered "a".toList) (.onward .returned (.onward .returned
      (.onward moves checks)))
  obtain ⟨obeys, restarted, evacuated⟩ :=
    evacuationTest_obeys_protocol _ _ _ _ _ moment
  exact ⟨_, moment, obeys, restarted Status.returned_ne_running,
    evacuated rfl⟩

end Whitebox.Compute
