import Mathlib.Logic.Function.Basic
import Whitebox.Python.Text

/-!
# Hosts and remote requests

A host is seen through the config file of one service, the configuration that
the running service has loaded, and the mask on its unit.  Every remote action
of the plugin is one `Request`; `respond` is what a healthy host answers.
-/

namespace Whitebox.Services

open Whitebox.Python

/-- A `(section, option)` pair. -/
structure Key where
  sectionName : Str
  option : Str
deriving DecidableEq

/-- An option value as a config file holds it.  Readers of the file never see
white space around a value. -/
@[ext] structure ConfValue where
  text : Str
  trimmed : strip text = text
deriving DecidableEq

namespace ConfValue

/-- The value a file holds after `text` was written to it. -/
def ofText (text : Str) : ConfValue :=
  ⟨strip text, strip_strip text⟩

@[simp] theorem ofText_text (value : ConfValue) : ofText value.text = value :=
  ConfValue.ext value.trimmed

end ConfValue

/-- The content of a config file. -/
abbrev Conf := Key → Option ConfValue

/-- A `(section, option, value)` tuple; `None` stands for an absent option. -/
structure ConfOpt where
  key : Key
  value : Option Str
deriving DecidableEq

namespace ConfOpt

/-- What the file holds for a requested value. -/
def stored (opt : ConfOpt) : Option ConfValue :=
  opt.value.map ConfValue.ofText

/-- Write one option into a file, or remove it when the value is `None`. -/
def write (opt : ConfOpt) (file : Conf) : Conf :=
  Function.update file opt.key opt.stored

end ConfOpt

/-- A host as far as one service is concerned.  `loaded` is the file content
which the service read at its last start, and `none` while it is down. -/
structure Host where
  file : Conf
  loaded : Option Conf
  masked : Bool

namespace Host

/-- The service is up. -/
def Running (host : Host) : Prop :=
  host.loaded.isSome = true

/-- The service is up and has loaded exactly the current file. -/
def Current (host : Host) : Prop :=
  host.loaded = some host.file

instance (host : Host) : Decidable host.Running :=
  inferInstanceAs (Decidable (host.loaded.isSome = true))

/-- A host with an empty config file and a running service. -/
def pristine : Host :=
  { file := fun _ => none, loaded := some fun _ => none, masked := false }

/-- The host after its service has been stopped and started again. -/
def restarted (host : Host) : Host :=
  { file := host.file, loaded := some host.file, masked := false }

end Host

/-- The exceptions that reach a service manager.  `SSHExecCommandFailed` carries
the text of the exception, which holds the command, its exit status and its
output. -/
inductive Exn where
  | sshExecCommandFailed (text : Str)
  | sshTimeout (text : Str)
  | timeoutException (text : Str)
  | missingServiceSection (service : Str)
  | attributeError (text : Str)
  | other (name : Str)
deriving DecidableEq

/-- What a configured service command does to the unit. -/
inductive Verb where
  | start
  | stop
  | mask
  | unmask
deriving DecidableEq

/-- The field of a Nova service record which a waiter polls. -/
inductive StatusField where
  | state
  | status
deriving DecidableEq

namespace StatusField

def up : Str := "up".toList

def down : Str := "down".toList

def enabled : Str := "enabled".toList

def disabled : Str := "disabled".toList

/-- What Nova reports in a field while the service is up or down. -/
def report : StatusField → Bool → Str
  | .state, true => up
  | .state, false => down
  | .status, true => enabled
  | .status, false => disabled

end StatusField

/-- One remote action: a `crudini` call, a service command, or a call of
`wait_for_nova_service_state`.  A command which the deployment does not
configure is `none`. -/
inductive Request where
  | crudiniGet (path : Str) (key : Key)
  | crudiniSet (path : Str) (key : Key) (value : Str)
  | crudiniDel (path : Str) (key : Key)
  | service (verb : Verb) (command : Option Str)
  | waitForState (binary : Str) (field : StatusField) (state : Str)
deriving DecidableEq

/-- The effect of a service command.  A masked unit refuses to start, and
starting a running service leaves it alone. -/
def Verb.apply (host : Host) : Verb → Except Exn Str × Host
  | .start =>
      if host.masked then
        (.error (.sshExecCommandFailed "Unit is masked.".toList), host)
      else
        (.ok [], { host with loaded := host.loaded.or (some host.file) })
  | .stop => (.ok [], { host with loaded := none })
  | .mask => (.ok [], { host with masked := true })
  | .unmask => (.ok [], { host with masked := false })

/-- The message of `crudini --get` for an absent option. -/
def missingMessage (key : Key) : Str :=
  "Parameter not found: ".toList ++ key.option

/-- The answer of a healthy host.  `crudini --get` prints the value on a line,
and fails with a `not found` message when the option is absent.  An
unconfigured command is sent as the text `None`, which no host can run. -/
def respond (host : Host) : Request → Except Exn Str × Host
  | .crudiniGet _ key =>
      match host.file key with
      | some value => (.ok (value.text ++ ['\n']), host)
      | none => (.error (.sshExecCommandFailed (missingMessage key)), host)
  | .crudiniSet _ key value =>
      (.ok [], { host with file := ConfOpt.write ⟨key, some value⟩ host.file })
  | .crudiniDel _ key =>
      (.ok [], { host with file := ConfOpt.write ⟨key, none⟩ host.file })
  | .service verb (some _) => verb.apply host
  | .service _ none =>
      (.error (.sshExecCommandFailed
        "sudo: None: command not found".toList), host)
  | .waitForState _ field state =>
      if field.report host.loaded.isSome = state then (.ok [], host)
      else (.error (.timeoutException state), host)

/-- Everything but the two writing `crudini` calls leaves the file alone. -/
def Request.Writes : Request → Bool
  | .crudiniSet _ _ _ => true
  | .crudiniDel _ _ => true
  | _ => false

theorem respond_file {request : Request} (reads : request.Writes = false)
    (host : Host) : (respond host request).2.file = host.file := by
  cases request with
  | crudiniGet path key =>
      simp only [respond]
      split <;> rfl
  | crudiniSet path key value => cases reads
  | crudiniDel path key => cases reads
  | service verb command =>
      cases command with
      | none => rfl
      | some command =>
          cases verb with
          | start =>
              simp only [respond, Verb.apply]
              split <;> rfl
          | stop => rfl
          | mask => rfl
          | unmask => rfl
  | waitForState binary field state =>
      simp only [respond]
      split <;> rfl

end Whitebox.Services
