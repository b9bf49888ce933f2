import Mathlib.Data.Set.Insert
import Whitebox.Effect.Family
import Whitebox.Services.ConfigOptions

/-!
# Configuring every compute host

`config_all_computes` creates one `NovaServiceManager` per compute host and
enters all of their `config_options` contexts through one exit stack.  The two
main results describe it on whole deployments: what it applies and undoes when
nothing fails, also for a host which is listed more than once, and how far a
failure on one host reaches when the hosts are distinct.
-/

namespace Whitebox.Compute

open Whitebox.Effect Whitebox.Python Whitebox.Services

/-- One session per host name. -/
abbrev Fleet := Str → Session

/-- The hosts of a fleet. -/
def Fleet.hosts (fleet : Fleet) : Str → Host :=
  fun compute => (fleet compute).host

/-- A test body acts on the hosts and never on the record of requests. -/
def onFleet (body : Run (Str → Host) Exn α) : Run Fleet Exn α :=
  fun fleet =>
    ((body fleet.hosts).1,
      fun compute => ⟨(body fleet.hosts).2 compute, (fleet compute).log⟩)

/-- The managers of the listed compute hosts, or the exception of the first
constructor which raises. -/
def svcMgrs (nodes : Str → Option HostParameters) (computes : List Str) :
    Except Exn (List (Str × ServiceManager)) :=
  computes.mapM fun compute => do
    let manager ← ServiceManager.init .nova ServiceManager.novaCompute
      (nodes compute)
    return (compute, manager)

/-- `config_all_computes` around a body. -/
def configAllComputes (nodes : Str → Option HostParameters)
    (plans : Str → Plan) (computes : List Str) (options : List ConfOpt)
    (body : Run Fleet Exn α) : Run Fleet Exn α :=
  match svcMgrs nodes computes with
  | .error error => Run.raise error
  | .ok managers =>
      ExitStack.run
        (managers.map fun (compute, manager) =>
          (manager.configOptions (plans compute) options).focus compute)
        body

/-- Every listed host has a `nova-compute` section, read into its manager. -/
def Managed (nodes : Str → Option HostParameters)
    (managers : Str → ServiceManager) (computes : List Str) : Prop :=
  ∀ compute ∈ computes,
    ServiceManager.init .nova ServiceManager.novaCompute (nodes compute) =
      .ok (managers compute)

/-- The `config_options` context of a host. -/
def contextOf (managers : Str → ServiceManager) (plans : Str → Plan)
    (options : List ConfOpt) (compute : Str) :
    ContextManager Session Exn (List ConfOpt) :=
  (managers compute).configOptions (plans compute) options

theorem svcMgrs_of_managed {nodes : Str → Option HostParameters}
    {managers : Str → ServiceManager} {computes : List Str}
    (managed : Managed nodes managers computes) :
    svcMgrs nodes computes =
      .ok (computes.map fun compute => (compute, managers compute)) := by
  induction computes with
  | nil => rfl
  | cons compute computes induction =>
      have head := managed compute (by simp)
      have tail := induction fun other member =>
        managed other (by simp [member])
      unfold svcMgrs at tail ⊢
      rw [List.mapM_cons, tail, head]
      rfl

/-- On a managed deployment the exit stack is a nest of the hosts' own
contexts. -/
theorem configAllComputes_eq_nestOver {nodes : Str → Option HostParameters}
    {managers : Str → ServiceManager} {computes : List Str}
    (managed : Managed nodes managers computes) (plans : Str → Plan)
    (options : List ConfOpt) (body : Run Fleet Exn α) :
    configAllComputes nodes plans computes options body =
      ContextManager.nestOver (contextOf managers plans options) body
        computes := by
  unfold configAllComputes
  rw [svcMgrs_of_managed managed]
  simp only [ExitStack.run_eq_nest, List.map_map]
  rfl

/-- Options written over others with the same distinct keys hide them. -/
theorem writeAll_writeAll {first second : List ConfOpt} (file : Conf)
    (sameKeys : ConfOpt.keys first = ConfOpt.keys second)
    (distinct : (ConfOpt.keys second).Nodup) :
    ConfOpt.writeAll second (ConfOpt.writeAll first file) =
      ConfOpt.writeAll second file := by
  funext key
  by_cases listed : key ∈ ConfOpt.keys second
  · obtain ⟨opt, member, rfl⟩ := List.mem_map.mp listed
    rw [ConfOpt.writeAll_of_mem _ _ distinct member,
      ConfOpt.writeAll_of_mem _ _ distinct member]
  · rw [ConfOpt.writeAll_of_not_mem _ _ listed,
      ConfOpt.writeAll_of_not_mem _ _ (sameKeys ▸ listed),
      ConfOpt.writeAll_of_not_mem _ _ listed]

theorem configured_configured {first second : List ConfOpt} (host : Host)
    (sameKeys : ConfOpt.keys first = ConfOpt.keys second)
    (distinct : (ConfOpt.keys second).Nodup) :
    (host.configured first).configured second = host.configured second := by
  simp only [Host.configured, Host.restarted, Host.written,
    writeAll_writeAll host.file sameKeys distinct]

section Undisturbed

variable {managers : Str → ServiceManager} {options : List ConfOpt}

/-- The fleet in which the body starts: listed hosts are configured and all
others are untouched. -/
structure Applied (options : List ConfOpt) (computes : List Str)
    (fleet entered : Fleet) : Prop where
  listed : ∀ compute ∈ computes, (entered compute).host =
    (fleet compute).host.configured options
  other : ∀ compute, compute ∉ computes → entered compute = fleet compute

/-- The fleet after the unwinding of what the body left: the values saved from
the original fleet are back on the listed hosts. -/
structure Undone (options : List ConfOpt) (computes : List Str)
    (fleet left final : Fleet) : Prop where
  listed : ∀ compute ∈ computes, (final compute).host =
    (left compute).host.configured
      (ConfOpt.savedValues options (fleet compute).host.file)
  other : ∀ compute, compute ∉ computes → final compute = left compute

/-- A host entered before others which may include it again. -/
theorem Applied.cons {head : Str} {computes : List Str}
    {fleet entered : Fleet} {reached : Session}
    (distinct : (ConfOpt.keys options).Nodup)
    (reachedHost : reached.host = (fleet head).host.configured options)
    (inner : Applied options computes (Function.update fleet head reached)
      entered) :
    Applied options (head :: computes) fleet entered := by
  constructor
  · intro compute member
    by_cases here : compute = head
    · subst here
      by_cases again : compute ∈ computes
      · rw [inner.listed compute again, Function.update_self, reachedHost,
          configured_configured _ rfl distinct]
      · rw [inner.other compute again, Function.update_self, reachedHost]
    · have later : compute ∈ computes := by simpa [here] using member
      rw [inner.listed compute later, Function.update_of_ne here]
  · intro compute absent
    simp only [List.mem_cons, not_or] at absent
    rw [inner.other compute absent.2, Function.update_of_ne absent.1]

/-- A host left after others which may include it again.  What the inner exits
wrote to it is hidden by the outer one. -/
theorem Undone.cons {head : Str} {computes : List Str}
    {fleet left final : Fleet} {reached last : Session}
    (distinct : (ConfOpt.keys options).Nodup)
    (inner : Undone options computes (Function.update fleet head reached)
      left final)
    (lastHost : last.host = (final head).host.configured
      (ConfOpt.savedValues options (fleet head).host.file)) :
    Undone options (head :: computes) fleet left
      (Function.update final head last) := by
  constructor
  · intro compute member
    by_cases here : compute = head
    · subst here
      rw [Function.update_self, lastHost]
      by_cases again : compute ∈ computes
      · rw [inner.listed compute again, configured_configured]
        · simp
        · simpa using distinct
      · rw [inner.other compute again]
    · have later : compute ∈ computes := by simpa [here] using member
      rw [Function.update_of_ne here, inner.listed compute later,
        Function.update_of_ne here]
  · intro compute absent
    simp only [List.mem_cons, not_or] at absent
    rw [Function.update_of_ne absent.1, inner.other compute absent.2]

/-- The inner exits leave no mask on a host. -/
theorem Undone.unmasked {computes : List Str} {fleet left final : Fleet}
    (undone : Undone options computes fleet left final) {compute : Str}
    (unmasked : (left compute).host.masked = false) :
    (final compute).host.masked = false := by
  by_cases listed : compute ∈ computes
  · rw [undone.listed compute listed]
    rfl
  · rw [undone.other compute listed]
    exact unmasked

/-- A run of the nest in which nothing fails.  The induction is over the hosts;
for a host which occurs again further in, the inner context saves the values
which the outer one has requested, and the outer exit comes last. -/
theorem nestOver_quiet (computes : List Str) (fleet : Fleet)
    (distinct : (ConfOpt.keys options).Nodup)
    (operable : ∀ compute ∈ computes,
      (managers compute).Operable (fleet compute).host) :
    ∃ entered : Fleet, Applied options computes fleet entered ∧
      ∀ (α : Type) (body : Run Fleet Exn α),
        (∀ compute ∈ computes,
          ((body entered).2 compute).host.masked = false) →
        let result :=
          ContextManager.nestOver
            (contextOf managers (fun _ => Plan.quiet) options) body computes
            fleet
        result.1 = (body entered).1 ∧
          Undone options computes fleet (body entered).2 result.2 := by
  induction computes generalizing fleet with
  | nil =>
      exact ⟨fleet, ⟨by simp, by simp⟩,
        fun _ _ _ => ⟨rfl, ⟨by simp, fun _ _ => rfl⟩⟩⟩
  | cons head computes induction =>
      have operableHead := operable head (by simp)
      have enteredHead := ServiceManager.configOptions_enter_calm
        (managers head) options
        (Plan.quiet_quietOn (fleet head).log.length _) operableHead
      generalize reachedEq : Session.mk _ _ = reached at enteredHead
      have reachedHost :
          reached.host = (fleet head).host.configured options := by
        rw [← reachedEq]
      have operableInside : ∀ compute ∈ computes, (managers compute).Operable
          (Function.update fleet head reached compute).host := by
        intro compute member
        by_cases here : compute = head
        · subst here
          rw [Function.update_self, reachedHost]
          exact operableHead.transfer (.inr rfl)
        · rw [Function.update_of_ne here]
          exact operable compute (by simp [member])
      obtain ⟨entered, applied, unwound⟩ := induction _ operableInside
      refine ⟨entered, applied.cons distinct reachedHost, ?_⟩
      intro α body unmasked result
      obtain ⟨outcome, undone⟩ := unwound α body
        (fun compute member => unmasked compute (by simp [member]))
      have exitable := operableHead.transfer
        (.inr (undone.unmasked (unmasked head (by simp))))
      have exited := ServiceManager.configOptions_exit_calm options
        (ConfOpt.savedValues options (fleet head).host.file)
        (Plan.quiet_quietOn _ _) exitable
      have unfolded : result = _ :=
        ContextManager.nestOver_cons_ok enteredHead exited
      rw [unfolded]
      exact ⟨outcome, undone.cons distinct rfl⟩

/-- When nothing fails, the body starts with the requested options applied and
loaded on every listed host, and every listed host ends with its original
values for these options, whatever the body did. -/
theorem configAllComputes_applies_and_undoes
    (nodes : Str → Option HostParameters) (managers : Str → ServiceManager)
    (computes : List Str) (options : List ConfOpt) (fleet : Fleet)
    (managed : Managed nodes managers computes)
    (distinct : (ConfOpt.keys options).Nodup)
    (operable : ∀ compute ∈ computes,
      (managers compute).Operable (fleet compute).host) :
    ∃ entered : Fleet,
      (∀ compute ∈ computes,
        (∀ opt ∈ options,
          (entered compute).host.file opt.key = opt.stored) ∧
        (∀ key, key ∉ ConfOpt.keys options →
          (entered compute).host.file key = (fleet compute).host.file key) ∧
        (entered compute).host.Current) ∧
      ∀ (α : Type) (body : Run (Str → Host) Exn α),
        let left := (body entered.hosts).2
        (∀ compute ∈ computes, (left compute).masked = false) →
        let result :=
          configAllComputes nodes (fun _ => Plan.quiet) computes options
            (onFleet body) fleet
        result.1 = (body entered.hosts).1 ∧
          ∀ compute ∈ computes,
            (∀ opt ∈ options, (result.2 compute).host.file opt.key =
              (fleet compute).host.file opt.key) ∧
            (∀ key, key ∉ ConfOpt.keys options →
              (result.2 compute).host.file key = (left compute).file key) ∧
            (result.2 compute).host.Current := by
  obtain ⟨entered, applied, unwound⟩ :=
    nestOver_quiet computes fleet distinct operable
  refine ⟨entered, ?_, ?_⟩
  · intro compute member
    rw [applied.listed compute member]
    refine ⟨fun opt optMember => ?_, fun key unlisted => ?_, rfl⟩
    · exact ConfOpt.writeAll_of_mem _ _ distinct optMember
    · exact ConfOpt.writeAll_of_not_mem _ _ unlisted
  · intro α body left unmasked result
    obtain ⟨outcome, undone⟩ := unwound α (onFleet body) unmasked
    rw [← configAllComputes_eq_nestOver managed] at outcome undone
    refine ⟨outcome, fun compute member => ?_⟩
    rw [undone.listed compute member]
    refine ⟨fun opt optMember => ?_, fun key unlisted => ?_, rfl⟩
    · exact ConfOpt.writeAll_savedValues_of_nodup _ _ _ distinct
        (List.mem_map_of_mem optMember)
    · exact ConfOpt.writeAll_of_not_mem _ _ (by simpa using unlisted)

/-- The node list of a deployment whose hosts all follow the template. -/
def devstackNodes : Str → Option HostParameters :=
  fun _ => some
    ⟨[(ServiceManager.novaCompute,
      ServiceManager.devstackNovaCompute.toServiceDict)]⟩

theorem devstackNodes_managed (computes : List Str) :
    Managed devstackNodes (fun _ => ServiceManager.devstackNovaCompute)
      computes := by
  intro compute _
  rfl

/-- One host listed twice, and a body which stops the service and raises. -/
theorem configAllComputes_undoes_repeated_host :
    let compute := "compute1".toList
    let result :=
      configAllComputes devstackNodes (fun _ => Plan.quiet)
        [compute, compute] [⟨ServiceManager.cpuSharedSet, some "0-3".toList⟩]
        (onFleet fun _ => (.error (.other "AssertionError".toList),
          fun _ => { Host.pristine with loaded := none }) :
          Run Fleet Exn PUnit)
        (fun _ => ⟨Host.pristine, []⟩)
    result.1 = .error (.other "AssertionError".toList) ∧
      (result.2 compute).host.Current := by
  obtain ⟨entered, -, undone⟩ := configAllComputes_applies_and_undoes
    devstackNodes (fun _ => ServiceManager.devstackNovaCompute)
    ["compute1".toList, "compute1".toList]
    [⟨ServiceManager.cpuSharedSet, some "0-3".toList⟩]
    (fun _ => ⟨Host.pristine, []⟩) (devstackNodes_managed _) (by decide)
    (fun _ _ => ServiceManager.devstackNovaCompute_operable rfl)
  obtain ⟨outcome, restored⟩ := undone PUnit
    (fun _ => (.error (.other "AssertionError".toList),
      fun _ => { Host.pristine with loaded := none })) (fun _ _ => rfl)
  exact ⟨outcome, (restored "compute1".toList (by simp)).2.2⟩

end Undisturbed

section Failures

variable {managers : Str → ServiceManager} {plans : Str → Plan}

/-- On its own a healthy host ends with its original values and a restarted
service. -/
theorem alone_quiet (options : List ConfOpt) {compute : Str}
    {session : Session} (quiet : plans compute = Plan.quiet)
    (operable : (managers compute).Operable session.host) :
    ∃ log, (contextOf managers plans options compute).alone session =
      (.ok ⟨⟩, ⟨(session.host.configured options).configured
        (ConfOpt.savedValues options session.host.file), log⟩) := by
  have entered := ServiceManager.configOptions_enter_calm (managers compute)
    options (Plan.quiet_quietOn session.log.length _) operable
  generalize reachedEq : Session.mk _ _ = reached at entered
  have reachedHost : reached.host = session.host.configured options := by
    rw [← reachedEq]
  have exitable : (managers compute).Operable reached.host := by
    rw [reachedHost]
    exact operable.transfer (.inr rfl)
  have exited := ServiceManager.configOptions_exit_calm options
    (ConfOpt.savedValues options session.host.file)
    (Plan.quiet_quietOn reached.log.length _) exitable
  rw [reachedHost] at exited
  have unfolded := ContextManager.around_enter_ok entered
    (pure ⟨⟩ : Run Session Exn PUnit)
  rw [Run.tryFinally_ok exited] at unfolded
  rw [contextOf, quiet]
  exact ⟨_, unfolded⟩

/-- Failures stay on the hosts on which they occur. -/
theorem configAllComputes_isolates_failures {α : Type}
    (nodes : Str → Option HostParameters) (managers : Str → ServiceManager)
    (plans : Str → Plan) (computes : List Str) (options : List ConfOpt)
    (fleet : Fleet) (failing : Set Str) (body : Run (Str → Host) Exn α)
    (managed : Managed nodes managers computes)
    (hostsDistinct : computes.Nodup)
    (distinct : (ConfOpt.keys options).Nodup)
    (current : ∀ compute ∈ computes, (fleet compute).host.Current)
    (idle : ∀ hosts, (body hosts).2 = hosts)
    (healthy : ∀ compute ∈ computes, compute ∉ failing →
      plans compute = Plan.quiet ∧
        (managers compute).Operable (fleet compute).host)
    (fails : ∀ compute ∈ computes, compute ∈ failing →
      ((contextOf managers plans options compute).alone
        (fleet compute)).1.isOk = false) :
    let contexts := contextOf managers plans options
    let result :=
      configAllComputes nodes plans computes options (onFleet body) fleet
    (∀ compute ∈ computes, compute ∉ failing →
      (∀ opt ∈ options, (result.2 compute).host.file opt.key =
        (fleet compute).host.file opt.key) ∧
      (result.2 compute).host.Current) ∧
    (∀ before failed after, computes = before ++ failed :: after →
      ¬ ContextManager.EntersOk contexts fleet failed →
      ∀ compute ∈ after, result.2 compute = fleet compute) ∧
    ((∃ failed ∈ computes, ¬ ContextManager.EntersOk contexts fleet failed) →
      ∀ other : Run (Str → Host) Exn α,
        configAllComputes nodes plans computes options (onFleet other) fleet =
          result) ∧
    (result.1.isOk = true ↔
      (∀ compute ∈ computes, compute ∉ failing) ∧
      (body (Fleet.hosts
        (ContextManager.enteredFamily contexts fleet computes))).1.isOk =
          true) := by
  intro contexts result
  have idleFleet : ∀ fleet, (onFleet body fleet).2 = fleet := by
    intro fleet
    funext compute
    exact congrArg (fun host => Session.mk host (fleet compute).log)
      (congrFun (idle fleet.hosts) compute)
  have nested : result =
      ContextManager.nestOver contexts (onFleet body) computes fleet :=
    congrFun (configAllComputes_eq_nestOver managed plans options _) fleet
  refine ⟨?_, ?_, ?_, ?_⟩
  · intro compute member outside
    obtain ⟨quiet, operable⟩ := healthy compute member outside
    obtain ⟨log, completed⟩ := alone_quiet options quiet operable
    by_cases attempted :
        ContextManager.Attempted contexts fleet computes compute
    · rw [nested, ContextManager.nestOver_attempted computes fleet
        hostsDistinct idleFleet attempted, completed]
      refine ⟨fun opt optMember => ?_, rfl⟩
      exact ConfOpt.writeAll_savedValues_of_nodup _ _ _ distinct
        (List.mem_map_of_mem optMember)
    · rw [nested, ContextManager.nestOver_not_attempted computes fleet
        hostsDistinct idleFleet attempted]
      exact ⟨fun _ _ => rfl, current compute member⟩
  · rintro before failed after rfl failedEntry compute member
    rw [nested]
    exact ContextManager.nestOver_not_attempted _ fleet hostsDistinct
      idleFleet
      (ContextManager.not_attempted_after hostsDistinct failedEntry member)
  · rintro ⟨failed, member, failedEntry⟩ other
    rw [nested, configAllComputes_eq_nestOver managed]
    exact ContextManager.nestOver_body_irrelevant computes fleet
      hostsDistinct member failedEntry _ _
  · rw [nested, ContextManager.nestOver_isOk_iff computes fleet hostsDistinct
      idleFleet]
    refine and_congr_left fun _ => forall₂_congr fun compute member => ?_
    by_cases inside : compute ∈ failing
    · have raised := fails compute member inside
      simp [contexts, raised, inside]
    · obtain ⟨quiet, operable⟩ := healthy compute member inside
      obtain ⟨log, completed⟩ := alone_quiet options quiet operable
      simp [contexts, completed, inside, Except.isOk, Except.toBool]

/-- The first host is healthy and the second one refuses its first request. -/
theorem configAllComputes_isolates_second_host :
    let first := "compute1".toList
    let second := "compute2".toList
    let plans : Str → Plan := fun compute =>
      if compute = second then
        Plan.single 0 ⟨.sshTimeout "timed out".toList, false⟩
      else Plan.quiet
    let result :=
      configAllComputes devstackNodes plans [first, second]
        [⟨ServiceManager.cpuSharedSet, some "0-3".toList⟩]
        (onFleet (pure PUnit.unit)) (fun _ => ⟨Host.pristine, []⟩)
    (result.2 first).host.Current ∧ result.1.isOk = false := by
  intro first second plans result
  obtain ⟨isolated, -, -, propagates⟩ := configAllComputes_isolates_failures
    devstackNodes (fun _ => ServiceManager.devstackNovaCompute) plans
    [first, second] [⟨ServiceManager.cpuSharedSet, some "0-3".toList⟩]
    (fun _ => ⟨Host.pristine, []⟩) {second} (pure PUnit.unit)
    (devstackNodes_managed _) (by decide) (by decide) (fun _ _ => rfl)
    (fun _ => rfl)
    (by
      intro compute _ outside
      refine ⟨if_neg outside, ServiceManager.devstackNovaCompute_operable rfl⟩)
    (by
      rintro compute _ rfl
      decide)
  have different : first ∉ ({second} : Set Str) := by
    intro same
    exact absurd (Set.mem_singleton_iff.mp same) (by decide)
  refine ⟨(isolated first (by simp) different).2, ?_⟩
  rw [Bool.eq_false_iff]
  intro returned
  exact (propagates.mp returned).1 second (by simp) rfl

end Failures

end Whitebox.Compute
