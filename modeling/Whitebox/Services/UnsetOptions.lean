import Whitebox.Hardware.CpuSpec
import Whitebox.Services.CommandLine

/-!
# Unset options

`get_conf_opt` takes an option for unset when the text of a failure says that
something was not found.  The text repeats the command line and everything
that the command printed, so that a host without `crudini` has no options
either.  The CPU sets of the Nova service are then taken for empty.
-/

namespace Whitebox.Services.CommandLine

open Whitebox.Effect Whitebox.Hardware Whitebox.Python
open ServiceManager (cpuSharedSet notFound)

/-- A failure text holds what stands before, between and after its labels. -/
theorem notFound_infix_text_iff (failure : CommandFailure) :
    notFound <:+: failure.text ↔
      notFound <:+: failure.command ∨ notFound <:+: failure.stderr ∨
        notFound <:+: failure.stdout := by
  have status : ¬ notFound <:+: ' ' :: str failure.exitStatus := by
    intro inside
    have first : 'n' ∈ ' ' :: str failure.exitStatus :=
      inside.subset (by decide)
    rcases List.mem_cons.mp first with blank | later
    · cases blank
    · rcases isDigit_or_minus_of_mem_str later with digit | minus
      · cases digit
      · cases minus
  have shape : failure.text =
      "Command ".toList ++ '\'' :: (failure.command ++ '\'' ::
        (", exit status".toList ++ ':' :: ((' ' :: str failure.exitStatus) ++
          ',' :: (" stderr:".toList ++ '\n' :: (failure.stderr ++ '\n' ::
            ("stdout:".toList ++ '\n' :: failure.stdout)))))) := by
    simp only [CommandFailure.text, List.append_assoc]
    rfl
  have commandWord : ¬ notFound <:+: "Command ".toList := by decide
  have statusWord : ¬ notFound <:+: ", exit status".toList := by decide
  have stderrWord : ¬ notFound <:+: " stderr:".toList := by decide
  have stdoutWord : ¬ notFound <:+: "stdout:".toList := by decide
  rw [shape, infix_append_cons_iff (by decide),
    infix_append_cons_iff (by decide), infix_append_cons_iff (by decide),
    infix_append_cons_iff (by decide), infix_append_cons_iff (by decide),
    infix_append_cons_iff (by decide), infix_append_cons_iff (by decide)]
  simp only [commandWord, statusWord, status, stderrWord, stdoutWord,
    false_or]

section Attempts

/-- An exception that is no failed command. -/
def Exn.isTransport : Exn → Bool
  | .sshExecCommandFailed _ => false
  | _ => true

/-- What becomes of a `crudini --get` command: `crudini` runs and looks the
option up, the command fails otherwise, or the command cannot be sent. -/
inductive Attempt where
  | answered
  | failed (failure : CommandFailure)
  | raised (error : Exn) (transport : Exn.isTransport error = true)

/-- What the host answers to the command in the end. -/
def Attempt.execute (attempt : Attempt) (path : Str) (key : Key)
    (command : Str) : Run Files Exn Str :=
  match attempt with
  | .answered => crudiniGet (sudoLine command) path key
  | .failed failure => Run.raise failure.error
  | .raised error _ => Run.raise error

/-- `get_conf_opt` when its command ends in the given way. -/
def Attempt.getConfOpt (attempt : Attempt) (path : Str) (key : Key)
    (files : Files) : Except Exn (Option Str) :=
  (CommandLine.getConfOpt (attempt.execute path key) path key files).1

/-- `None` means that `crudini` did not find the option in the file, and any
other failure is raised again. -/
def Attempt.Faithful (attempt : Attempt) (path : Str) (key : Key)
    (files : Files) : Prop :=
  (attempt.getConfOpt path key files = .ok none →
    attempt = .answered ∧ files path key = none) ∧
  ∀ error, (attempt.execute path key
      (crudiniCommand getMode path key []) files).1 = .error error →
    ¬ (attempt = .answered ∧ files path key = none) →
      attempt.getConfOpt path key files = .error error

/-- No failure but the one of `crudini` says that something was not found. -/
def Attempt.Telling (attempt : Attempt) : Prop :=
  ∀ failure, attempt = .failed failure →
    ¬ (notFound <:+: failure.command ∨ notFound <:+: failure.stderr ∨
      notFound <:+: failure.stdout)

variable {path : Str} {key : Key} {files : Files}

theorem getConfOpt_answered :
    Attempt.answered.getConfOpt path key files =
      .ok ((files path key).map ConfValue.text) :=
  congrArg Prod.fst (getConfOpt_of_crudiniGet rfl files)

theorem getConfOpt_failed (failure : CommandFailure) :
    (Attempt.failed failure).getConfOpt path key files =
      if contains failure.text notFound then .ok none
      else .error failure.error := by
  have raised : (Attempt.failed failure).execute path key
      (crudiniCommand getMode path key []) files =
        (.error failure.error, files) := rfl
  rw [Attempt.getConfOpt, CommandLine.getConfOpt,
    Run.tryExcept_error (Run.bind_error raised)]
  simp only [CommandFailure.error, unlessNotFound]
  split <;> rfl

theorem getConfOpt_raised {error : Exn}
    (transport : Exn.isTransport error = true) :
    (Attempt.raised error transport).getConfOpt path key files =
      .error error := by
  have raised : (Attempt.raised error transport).execute path key
      (crudiniCommand getMode path key []) files = (.error error, files) := rfl
  rw [Attempt.getConfOpt, CommandLine.getConfOpt,
    Run.tryExcept_error (Run.bind_error raised)]
  cases error with
  | sshExecCommandFailed text => cases transport
  | _ => rfl

theorem faithful_iff (attempt : Attempt) (path : Str) (key : Key)
    (files : Files) :
    attempt.Faithful path key files ↔ attempt.Telling := by
  cases attempt with
  | answered =>
      refine iff_of_true ⟨?_, ?_⟩ (by simp [Attempt.Telling])
      · intro unset
        rw [getConfOpt_answered, Except.ok.injEq, Option.map_eq_none_iff]
          at unset
        exact ⟨rfl, unset⟩
      · intro error failed present
        cases held : files path key with
        | none => exact absurd ⟨rfl, held⟩ present
        | some value =>
            simp only [Attempt.execute, crudiniGet, held] at failed
            cases failed
  | failed failure =>
      have telling : Attempt.Telling (.failed failure) ↔
          ¬ notFound <:+: failure.text := by
        rw [notFound_infix_text_iff]
        simp [Attempt.Telling]
      rw [telling, Attempt.Faithful, getConfOpt_failed, contains]
      by_cases found : notFound <:+: failure.text
      · simp [found]
      · simp [found, Attempt.execute]
  | raised error transport =>
      refine iff_of_true ⟨?_, ?_⟩ (by simp [Attempt.Telling])
      · intro unset
        rw [getConfOpt_raised] at unset
        cases unset
      · intro other failed _
        cases failed
        exact getConfOpt_raised transport

/-- An answer of a telling attempt is the one of the file. -/
theorem getConfOpt_ok {attempt : Attempt} (telling : attempt.Telling)
    {value : Option Str}
    (returned : attempt.getConfOpt path key files = .ok value) :
    value = (files path key).map ConfValue.text := by
  cases attempt with
  | answered =>
      rw [getConfOpt_answered] at returned
      cases returned
      rfl
  | failed failure =>
      rw [getConfOpt_failed, contains, if_neg] at returned
      · cases returned
      · rw [decide_eq_true_eq, notFound_infix_text_iff]
        exact telling failure rfl
  | raised error transport =>
      rw [getConfOpt_raised] at returned
      cases returned

end Attempts

section CpuSets

variable (int : Str → Option Int) (get : Key → Except Exn (Option Str))

def cpuDedicatedSet : Key :=
  ⟨"compute".toList, "cpu_dedicated_set".toList⟩

def vcpuPinSet : Key :=
  ⟨"DEFAULT".toList, "vcpu_pin_set".toList⟩

/-- The CPUs of an option; an unset or empty one has none. -/
def cpusOf : Option Str → Except (Exn ⊕ SpecError) (Finset Int)
  | none => .ok ∅
  | some [] => .ok ∅
  | some spec => (parseCpuSpec int spec).mapError .inr

/-- `get_cpu_shared_set`. -/
def getCpuSharedSet : Except (Exn ⊕ SpecError) (Finset Int) := do
  let sharedSet ← (get cpuSharedSet).mapError .inl
  cpusOf int sharedSet

/-- `get_cpu_dedicated_set`. -/
def getCpuDedicatedSet : Except (Exn ⊕ SpecError) (Finset Int) := do
  let dedicatedSet ← (get cpuDedicatedSet).mapError .inl
  let dedicatedSet ← match dedicatedSet with
    | some value => pure (some value)
    | none => (get vcpuPinSet).mapError .inl
  cpusOf int dedicatedSet

/-- The option is absent, blank, or denotes no CPU. -/
def Vacant (value : Option ConfValue) : Prop :=
  ∀ stored, value = some stored → stored.text = [] ∨
    (Grammatical int stored.text ∧
      ∀ x, Covers int false stored.text x → Covers int true stored.text x)

variable {int get}

theorem cpusOf_eq_empty {value : Option ConfValue}
    (none : cpusOf int (value.map ConfValue.text) = .ok ∅) :
    Vacant int value := by
  intro stored held
  rw [held, Option.map_some] at none
  by_cases blank : stored.text = []
  · exact .inl blank
  · right
    obtain ⟨c, rest, shape⟩ := List.exists_cons_of_ne_nil blank
    have parsed : parseCpuSpec int stored.text = .ok ∅ := by
      rw [shape] at none ⊢
      change (parseCpuSpec int (c :: rest)).mapError Sum.inr = .ok ∅ at none
      cases result : parseCpuSpec int (c :: rest) with
      | error error =>
          rw [result] at none
          cases none
      | ok cpus =>
          rw [result] at none
          cases none
          rfl
    refine ⟨parseCpuSpec_isOk_iff.mp ⟨∅, parsed⟩, ?_⟩
    intro x covered
    by_contra kept
    exact absurd ((mem_parseCpuSpec parsed).mpr ⟨covered, kept⟩) (by simp)

end CpuSets

/-- The options of a file, read by commands that end in the given ways. -/
def reading (attempts : Key → Attempt) (path : Str) (files : Files)
    (key : Key) : Except Exn (Option Str) :=
  (attempts key).getConfOpt path key files

section Reading

variable {int : Str → Option Int} {attempts : Key → Attempt} {path : Str}
  {files : Files}

theorem vacant_of_sharedSet (telling : (attempts cpuSharedSet).Telling)
    (empty : getCpuSharedSet int (reading attempts path files) = .ok ∅) :
    Vacant int (files path cpuSharedSet) := by
  cases read : reading attempts path files cpuSharedSet with
  | error error =>
      rw [getCpuSharedSet, read] at empty
      cases empty
  | ok value =>
      rw [getCpuSharedSet, read] at empty
      rw [getConfOpt_ok telling read] at empty
      exact cpusOf_eq_empty empty

theorem vacant_of_dedicatedSet (telling : (attempts cpuDedicatedSet).Telling)
    (pinTelling : (attempts vcpuPinSet).Telling)
    (empty : getCpuDedicatedSet int (reading attempts path files) = .ok ∅) :
    Vacant int (files path cpuDedicatedSet) ∧
      (files path cpuDedicatedSet = none →
        Vacant int (files path vcpuPinSet)) := by
  cases read : reading attempts path files cpuDedicatedSet with
  | error error =>
      rw [getCpuDedicatedSet, read] at empty
      cases empty
  | ok value =>
      have held := getConfOpt_ok telling read
      rw [getCpuDedicatedSet, read] at empty
      cases file : files path cpuDedicatedSet with
      | some stored =>
          rw [held, file] at empty
          exact ⟨cpusOf_eq_empty empty, by simp⟩
      | none =>
          rw [held, file] at empty
          refine ⟨by simp [Vacant], fun _ => ?_⟩
          cases pinRead : reading attempts path files vcpuPinSet with
          | error error =>
              simp only [pinRead] at empty
              cases empty
          | ok pinned =>
              simp only [pinRead] at empty
              rw [getConfOpt_ok pinTelling pinRead] at empty
              exact cpusOf_eq_empty empty

end Reading

/-- `get_conf_opt` is right about unset options exactly if no other failure has
a text in which something is not found, and then a CPU set is taken for empty
only if the options that define it are. -/
theorem getConfOpt_unset_iff (int : Str → Option Int)
    (attempts : Key → Attempt) (path : Str) (files : Files) :
    (∀ key, (attempts key).Faithful path key files ↔
      (attempts key).Telling) ∧
    ((attempts cpuSharedSet).Telling →
      getCpuSharedSet int (reading attempts path files) = .ok ∅ →
        Vacant int (files path cpuSharedSet)) ∧
    ((attempts cpuDedicatedSet).Telling → (attempts vcpuPinSet).Telling →
      getCpuDedicatedSet int (reading attempts path files) = .ok ∅ →
        Vacant int (files path cpuDedicatedSet) ∧
          (files path cpuDedicatedSet = none →
            Vacant int (files path vcpuPinSet))) := by
  refine ⟨?_, ?_, ?_⟩
  · intro key
    exact faithful_iff (attempts key) path key files
  · exact vacant_of_sharedSet
  · exact vacant_of_dedicatedSet

/-- The failure of a host where `crudini` is not installed. -/
def crudiniMissing : CommandFailure where
  command := sudoLine (crudiniCommand getMode novaCpuConf cpuDedicatedSet [])
  exitStatus := 1
  stderr := "sudo: crudini: command not found".toList
  stdout := []

/-- Without `crudini` the dedicated CPUs in the file are taken for none. -/
theorem getConfOpt_crudini_missing :
    let files : Files := fun _ _ => some (.ofText "4-7".toList)
    let attempts : Key → Attempt := fun _ => .failed crudiniMissing
    reading attempts novaCpuConf files cpuDedicatedSet = .ok none ∧
      getCpuDedicatedSet Python.int (reading attempts novaCpuConf files) =
        .ok ∅ := by
  have unset (key : Key) :
      reading (fun _ => .failed crudiniMissing) novaCpuConf
        (fun _ _ => some (.ofText "4-7".toList)) key = .ok none := by
    have found : contains crudiniMissing.text notFound = true := by
      rw [contains, decide_eq_true_eq, notFound_infix_text_iff]
      exact .inr (.inl (by decide))
    rw [reading, getConfOpt_failed, if_pos found]
  refine ⟨unset cpuDedicatedSet, ?_⟩
  rw [getCpuDedicatedSet, unset]
  simp only [unset]
  rfl

end Whitebox.Services.CommandLine
