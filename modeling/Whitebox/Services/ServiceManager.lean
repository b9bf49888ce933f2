import Whitebox.Effect.ContextManager
import Whitebox.Services.Session

/-!
# Service managers

The three service managers of the plugin share their config file operations
and differ in how they stop and start a service.  `ServiceManager` masks the
unit around the stop when the mask commands are configured, while
`NovaServiceManager` and `VirtQEMUdManager` wait until the Nova API reports the
wanted state.

`configOptions` and `stopped` are the two context managers built from these
operations.
-/

namespace Whitebox.Services

open Whitebox.Effect Whitebox.Python

/-- The class of a service manager. -/
inductive ManagerKind where
  | service
  | nova
  | virtQEMUd
deriving DecidableEq

/-- The entry of a service in `nodes.yaml`; every part of it is optional. -/
structure ServiceDict where
  configPath : Option Str
  startCommand : Option Str
  stopCommand : Option Str
  maskCommand : Option Str
  unmaskCommand : Option Str
deriving DecidableEq

/-- The entry of a host in `nodes.yaml`, as far as its services go. -/
structure HostParameters where
  services : List (Str × ServiceDict)
deriving DecidableEq

/-- A service manager with what its host configures for the service. -/
structure ServiceManager extends ServiceDict where
  kind : ManagerKind
  service : Str
deriving DecidableEq

namespace ServiceManager

/-- The constructor of the three classes.  An unknown host has no parameters,
and reading a part of them raises. -/
def init (kind : ManagerKind) (service : Str) :
    Option HostParameters → Except Exn ServiceManager
  | none =>
      .error (.attributeError "'NoneType' object has no attribute 'get'".toList)
  | some hostParameters =>
      match hostParameters.services.lookup service with
      | none => .error (.missingServiceSection service)
      | some serviceDict =>
          .ok { serviceDict with kind := kind, service := service }

/-- The binary which `VirtQEMUdManager` watches. -/
def novaCompute : Str := "nova-compute".toList

/-- The `nova-compute` service of the devstack node templates. -/
def devstackNovaCompute : ServiceManager where
  kind := .nova
  service := novaCompute
  configPath := some "/etc/nova/nova-cpu.conf".toList
  startCommand := some "systemctl start devstack@n-cpu".toList
  stopCommand := some "systemctl stop devstack@n-cpu".toList
  maskCommand := none
  unmaskCommand := none

variable (plan : Plan) (manager : ServiceManager)

/-- How the config file is named in a command; a missing path is formatted as
the text `None`. -/
def path : Str :=
  manager.configPath.getD "None".toList

/-- The text by which `get_conf_opt` recognises an unset option. -/
def notFound : Str := "not found".toList

/-- `get_conf_opt`: an option counts as unset only when the failure says that
something was not found. -/
def getConfOpt (key : Key) : Run Session Exn (Option Str) :=
  Run.tryExcept
    (do
      let value ← perform plan (.crudiniGet manager.path key)
      pure (some (strip value)))
    fun error =>
      match error with
      | .sshExecCommandFailed text =>
          if contains text notFound then pure none
          else Run.raise error
      | _ => Run.raise error

/-- The `crudini` call of `set_conf_opt`. -/
def setRequest (opt : ConfOpt) : Request :=
  match opt.value with
  | none => .crudiniDel manager.path opt.key
  | some value => .crudiniSet manager.path opt.key value

/-- `set_conf_opt`. -/
def setConfOpt (opt : ConfOpt) : Run Session Exn PUnit := do
  let _ ← perform plan (manager.setRequest opt)
  pure ⟨⟩

/-- `if self.unmask_command:`, which guards the unmasking in `start` and also
the masking in `stop`. -/
def hasUnmaskCommand : Bool :=
  match manager.unmaskCommand with
  | none => false
  | some command => !command.isEmpty

/-- The requests of `stop`, in order. -/
def stopRequests : List Request :=
  .service .stop manager.stopCommand ::
    match manager.kind with
    | .service =>
        if manager.hasUnmaskCommand then
          [.service .mask manager.maskCommand]
        else []
    | .nova => [.waitForState manager.service .state StatusField.down]
    | .virtQEMUd =>
        [.waitForState novaCompute .status StatusField.disabled]

/-- The requests of `start`, in order. -/
def startRequests : List Request :=
  match manager.kind with
  | .service =>
      if manager.hasUnmaskCommand then
        [.service .unmask manager.unmaskCommand,
          .service .start manager.startCommand]
      else [.service .start manager.startCommand]
  | .nova =>
      [.service .start manager.startCommand,
        .waitForState manager.service .state StatusField.up]
  | .virtQEMUd =>
      [.service .start manager.startCommand,
        .waitForState novaCompute .status StatusField.enabled]

/-- `stop`. -/
def stop : Run Session Exn PUnit :=
  performAll plan manager.stopRequests

/-- `start`. -/
def start : Run Session Exn PUnit :=
  performAll plan manager.startRequests

/-- `restart`. -/
def restart : Run Session Exn PUnit := do
  manager.stop plan
  manager.start plan

/-- One round of the loop which enters `config_options`: save the present
value of an option, then write the requested one. -/
def saveAndSet (initialValues : List ConfOpt) (opt : ConfOpt) :
    Run Session Exn (List ConfOpt) := do
  let value ← manager.getConfOpt plan opt.key
  manager.setConfOpt plan opt
  pure (initialValues ++ [⟨opt.key, value⟩])

/-- `config_options`. -/
def configOptions (opts : List ConfOpt) :
    ContextManager Session Exn (List ConfOpt) where
  enter := do
    let initialValues ← opts.foldlM (manager.saveAndSet plan) []
    manager.restart plan
    pure initialValues
  exit initialValues := do
    initialValues.forM (manager.setConfOpt plan)
    manager.restart plan

/-- `stopped`. -/
def stopped : ContextManager Session Exn PUnit where
  enter := manager.stop plan
  exit _ := manager.start plan

variable {plan manager}

section Operations

@[simp] theorem respond_setRequest (manager : ServiceManager) (host : Host)
    (opt : ConfOpt) :
    respond host (manager.setRequest opt) =
      (.ok [], { host with file := opt.write host.file }) := by
  rcases opt with ⟨key, value⟩
  cases value with
  | none => rfl
  | some text => rfl

theorem contains_missingMessage (key : Key) :
    contains (missingMessage key) notFound = true := by
  rw [contains, decide_eq_true_eq]
  exact ⟨"Parameter ".toList, ": ".toList ++ key.option, rfl⟩

/-- The option reads back as the file holds it, and an absent option as
`None`. -/
theorem getConfOpt_calm {session : Session} (manager : ServiceManager)
    (calm : plan session.log.length = none) (key : Key) :
    manager.getConfOpt plan key session =
      (.ok ((session.host.file key).map ConfValue.text),
        ⟨session.host,
          session.log ++ [.crudiniGet manager.path key]⟩) := by
  have performed :=
    perform_calm calm (.crudiniGet manager.path key)
  cases held : session.host.file key with
  | none =>
      simp only [respond, held] at performed
      rw [getConfOpt, Run.tryExcept_error (Run.bind_error performed)]
      simp only [contains_missingMessage, if_true]
      rfl
  | some value =>
      simp only [respond, held] at performed
      have text : strip (value.text ++ ['\n']) = value.text := by
        rw [strip_append_space value.text (by decide), value.trimmed]
      apply Run.tryExcept_ok
      rw [Run.bind_ok performed, text]
      rfl

theorem setConfOpt_calm {session : Session} (manager : ServiceManager)
    (calm : plan session.log.length = none) (opt : ConfOpt) :
    manager.setConfOpt plan opt session =
      (.ok ⟨⟩,
        ⟨{ session.host with file := opt.write session.host.file },
          session.log ++ [manager.setRequest opt]⟩) := by
  have performed := perform_calm calm (manager.setRequest opt)
  rw [respond_setRequest] at performed
  rw [setConfOpt, Run.bind_ok performed]
  rfl

/-- The manager masks the unit on stop and unmasks it on start. -/
def masksUnit (manager : ServiceManager) : Bool :=
  manager.kind = .service && manager.hasUnmaskCommand

/-- A healthy host accepts every command of a restart: the commands are
configured, and a mask does not get in the way of the start. -/
structure Operable (manager : ServiceManager) (host : Host) : Prop where
  stopConfigured : manager.stopCommand.isSome = true
  startConfigured : manager.startCommand.isSome = true
  maskConfigured :
    manager.masksUnit = true → manager.maskCommand.isSome = true
  startable : manager.masksUnit = true ∨ host.masked = false

theorem devstackNovaCompute_operable {host : Host}
    (unmasked : host.masked = false) : devstackNovaCompute.Operable host where
  stopConfigured := rfl
  startConfigured := rfl
  maskConfigured := by decide
  startable := .inr unmasked

/-- Only the mask decides whether the same manager operates another host. -/
theorem Operable.transfer {manager : ServiceManager} {host other : Host}
    (operable : manager.Operable host)
    (startable : manager.masksUnit = true ∨ other.masked = false) :
    manager.Operable other :=
  { operable with startable := startable }

theorem stop_spec {manager : ServiceManager} {host : Host}
    (operable : manager.Operable host) :
    host.Accepts manager.stopRequests ∧
      host.after manager.stopRequests =
        { host with
          loaded := none
          masked := host.masked || manager.masksUnit } := by
  obtain ⟨stopConfigured, -, maskConfigured, -⟩ := operable
  obtain ⟨stopCommand, stopEq⟩ := Option.isSome_iff_exists.mp stopConfigured
  unfold masksUnit at maskConfigured ⊢
  cases kind : manager.kind with
  | service =>
      cases masks : manager.hasUnmaskCommand with
      | false =>
          simp [stopRequests, kind, masks, stopEq, Host.Accepts, respond,
            Verb.apply, Except.isOk, Except.toBool]
      | true =>
          obtain ⟨maskCommand, maskEq⟩ := Option.isSome_iff_exists.mp
            (maskConfigured (by simp [kind, masks]))
          simp [stopRequests, kind, masks, stopEq, maskEq, Host.Accepts,
            respond, Verb.apply, Except.isOk, Except.toBool]
  | nova =>
      simp [stopRequests, kind, stopEq, Host.Accepts, respond, Verb.apply,
        StatusField.report, Except.isOk, Except.toBool]
  | virtQEMUd =>
      simp [stopRequests, kind, stopEq, Host.Accepts, respond, Verb.apply,
        StatusField.report, Except.isOk, Except.toBool]

theorem start_spec {manager : ServiceManager} {host : Host}
    (operable : manager.Operable host) :
    host.Accepts manager.startRequests ∧
      host.after manager.startRequests =
        { host with
          loaded := host.loaded.or (some host.file)
          masked := false } := by
  obtain ⟨-, startConfigured, -, startable⟩ := operable
  obtain ⟨startCommand, startEq⟩ := Option.isSome_iff_exists.mp startConfigured
  unfold masksUnit at startable
  cases kind : manager.kind with
  | service =>
      cases masks : manager.hasUnmaskCommand with
      | false =>
          have unmasked : host.masked = false := by simpa [masks] using startable
          simp [startRequests, kind, masks, startEq, unmasked, Host.Accepts,
            respond, Verb.apply, Except.isOk, Except.toBool]
      | true =>
          cases unmask : manager.unmaskCommand with
          | none => simp [hasUnmaskCommand, unmask] at masks
          | some unmaskCommand =>
              simp [startRequests, kind, masks, startEq, unmask, Host.Accepts,
                respond, Verb.apply, Except.isOk, Except.toBool]
  | nova =>
      have unmasked : host.masked = false := by simpa [kind] using startable
      simp [startRequests, kind, startEq, unmasked, Host.Accepts, respond,
        Verb.apply, StatusField.report, Except.isOk, Except.toBool]
  | virtQEMUd =>
      have unmasked : host.masked = false := by simpa [kind] using startable
      simp [startRequests, kind, startEq, unmasked, Host.Accepts, respond,
        Verb.apply, StatusField.report, Except.isOk, Except.toBool]

/-- The requests of `restart`, in order. -/
def restartRequests (manager : ServiceManager) : List Request :=
  manager.stopRequests ++ manager.startRequests

theorem restart_eq_performAll (plan : Plan) (manager : ServiceManager) :
    manager.restart plan = performAll plan manager.restartRequests :=
  (performAll_append plan _ _).symm

/-- Stopping a unit does not get in the way of starting it again. -/
theorem Operable.after_stop {manager : ServiceManager} {host : Host}
    (operable : manager.Operable host) :
    manager.Operable (host.after manager.stopRequests) := by
  apply operable.transfer
  rw [(stop_spec operable).2]
  rcases operable.startable with masks | unmasked
  · exact .inl masks
  · cases masks : manager.masksUnit with
    | true => exact .inl rfl
    | false => exact .inr (by simp [unmasked])

theorem restart_spec {manager : ServiceManager} {host : Host}
    (operable : manager.Operable host) :
    host.Accepts manager.restartRequests ∧
      host.after manager.restartRequests = host.restarted := by
  obtain ⟨stopAccepted, stopped⟩ := stop_spec operable
  obtain ⟨startAccepted, started⟩ := start_spec operable.after_stop
  refine ⟨(host.accepts_append _ _).mpr ⟨stopAccepted, startAccepted⟩, ?_⟩
  rw [restartRequests, Host.after_append, started, stopped]
  rfl

/-- An undisturbed restart loads the current file. -/
theorem restart_calm {session : Session}
    (calm : plan.QuietOn session.log.length manager.restartRequests.length)
    (operable : manager.Operable session.host) :
    manager.restart plan session =
      (.ok ⟨⟩,
        ⟨session.host.restarted, session.log ++ manager.restartRequests⟩) := by
  obtain ⟨accepted, restarted⟩ := restart_spec operable
  rw [restart_eq_performAll, performAll_calm _ _ calm accepted, restarted]

theorem restartRequests_reads (manager : ServiceManager) :
    ∀ request ∈ manager.restartRequests, request.Writes = false := by
  intro request member
  unfold restartRequests stopRequests startRequests at member
  cases kind : manager.kind <;> cases masks : manager.hasUnmaskCommand <;>
    simp only [kind, masks, if_true, Bool.false_eq_true, if_false,
      List.cons_append, List.nil_append, List.mem_cons, List.not_mem_nil,
      or_false] at member
  all_goals
    rcases member with rfl | rfl | rfl | rfl <;> rfl

/-- A restart never writes to the config file, whatever fails. -/
theorem restart_file (plan : Plan) (manager : ServiceManager)
    (session : Session) :
    (manager.restart plan session).2.host.file = session.host.file := by
  rw [restart_eq_performAll]
  exact performAll_file plan _ session manager.restartRequests_reads

end Operations

end ServiceManager

/-- A test body acts on the host and never on the record of requests. -/
def onHost (body : Run Host Exn α) : Run Session Exn α :=
  fun session =>
    ((body session.host).1, ⟨(body session.host).2, session.log⟩)

end Whitebox.Services
