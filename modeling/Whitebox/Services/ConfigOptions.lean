import Whitebox.Effect.Writes
import Whitebox.Services.ServiceManager

/-!
# Entering and leaving `config_options`

The entry of `config_options` saves and writes the options one by one and then
restarts the service; the exit writes the saved values back in the order in
which they were saved and restarts the service again.  Both halves are
described here for sessions in which no request fails.

The saved values form an undo log.  Because it is replayed in recording order,
an option listed several times comes back with the value of its last request
but one, and not with the value it had before.
-/

namespace Whitebox.Services

open Whitebox.Effect Whitebox.Python

namespace ConfOpt

/-- The write that an option stands for. -/
def entry (opt : ConfOpt) : Key × Option ConfValue :=
  (opt.key, opt.stored)

/-- The keys of a list of options. -/
def keys (opts : List ConfOpt) : List Key :=
  opts.map ConfOpt.key

/-- Write every option of a list into a file, in order. -/
def writeAll (opts : List ConfOpt) (file : Conf) : Conf :=
  applyWrites (opts.map entry) file

/-- The values which `config_options` saves while it writes the options. -/
def savedValues : List ConfOpt → Conf → List ConfOpt
  | [], _ => []
  | opt :: opts, file =>
      ⟨opt.key, (file opt.key).map ConfValue.text⟩ ::
        savedValues opts (opt.write file)

@[simp] theorem map_fst_entry (opts : List ConfOpt) :
    (opts.map entry).map Prod.fst = keys opts := by
  simp [keys, entry, Function.comp_def]

theorem writeAll_of_not_mem {key : Key} (opts : List ConfOpt) (file : Conf)
    (absent : key ∉ keys opts) : writeAll opts file key = file key :=
  applyWrites_of_not_mem _ _ (by rwa [map_fst_entry])

theorem writeAll_of_mem {opt : ConfOpt} (opts : List ConfOpt) (file : Conf)
    (distinct : (keys opts).Nodup) (member : opt ∈ opts) :
    writeAll opts file opt.key = opt.stored :=
  applyWrites_of_mem opt.entry _ _ (by rwa [map_fst_entry])
    (List.mem_map.mpr ⟨opt, member, rfl⟩)

theorem writeAll_eq_self_iff {opts : List ConfOpt} {file : Conf}
    (distinct : (keys opts).Nodup) :
    writeAll opts file = file ↔
      ∀ opt ∈ opts, opt.stored = file opt.key := by
  have idle : applyWrites (opts.map entry) file = file ↔ _ :=
    applyWrites_eq_self_iff (by rwa [map_fst_entry])
  rw [writeAll, idle, List.forall_mem_map]
  rfl

/-- The saved values are the undo log of the requested writes. -/
theorem map_entry_savedValues (opts : List ConfOpt) (file : Conf) :
    (savedValues opts file).map entry = displaced (opts.map entry) file := by
  induction opts generalizing file with
  | nil => rfl
  | cons opt opts induction =>
      have kept :
          entry ⟨opt.key, (file opt.key).map ConfValue.text⟩ =
            (opt.key, file opt.key) := by
        cases held : file opt.key with
        | none => simp [entry, stored]
        | some value => simp [entry, stored]
      rw [savedValues, List.map_cons, kept, induction]
      rfl

@[simp] theorem keys_savedValues (opts : List ConfOpt) (file : Conf) :
    keys (savedValues opts file) = keys opts := by
  rw [← map_fst_entry, map_entry_savedValues, map_fst_displaced, map_fst_entry]

@[simp] theorem length_savedValues (opts : List ConfOpt) (file : Conf) :
    (savedValues opts file).length = opts.length := by
  have sameKeys := congrArg List.length (keys_savedValues opts file)
  simpa [keys] using sameKeys

theorem take_savedValues (count : Nat) (opts : List ConfOpt) (file : Conf) :
    (savedValues opts file).take count = savedValues (opts.take count) file := by
  induction opts generalizing count file with
  | nil => simp [savedValues]
  | cons opt opts induction =>
      cases count with
      | zero => rfl
      | succ count => simp [savedValues, induction]

/-- The value which an option is requested to have by its last occurrence but
one in a list, and `none` when the option is listed at most once. -/
def earlierRequest (opts : List ConfOpt) (key : Key) : Option (Option Str) :=
  ((opts.filter fun opt => opt.key = key).map ConfOpt.value).dropLast.getLast?

theorem earlierWrite_entry (opts : List ConfOpt) (key : Key) :
    earlierWrite (opts.map entry) key =
      (earlierRequest opts key).map (Option.map ConfValue.ofText) := by
  have selected :
      ((opts.map entry).filter fun write => write.1 = key).map Prod.snd =
        ((opts.filter fun opt => opt.key = key).map ConfOpt.value).map
          (Option.map ConfValue.ofText) := by
    rw [List.filter_map, List.map_map, List.map_map]
    rfl
  rw [earlierWrite, selected, earlierRequest, ← List.map_dropLast,
    List.getLast?_map]

/-- What the replay of the saved values leaves in a listed option. -/
theorem writeAll_savedValues {key : Key} (opts : List ConfOpt)
    (file present : Conf) (listed : key ∈ keys opts) :
    writeAll (savedValues opts file) present key =
      ((earlierRequest opts key).map (Option.map ConfValue.ofText)).getD
        (file key) := by
  rw [writeAll, map_entry_savedValues,
    applyWrites_displaced _ _ _ (by rwa [map_fst_entry]), earlierWrite_entry]

/-- The replay restores options which are listed once. -/
theorem writeAll_savedValues_of_nodup {key : Key} (opts : List ConfOpt)
    (file present : Conf) (distinct : (keys opts).Nodup)
    (listed : key ∈ keys opts) :
    writeAll (savedValues opts file) present key = file key := by
  rw [writeAll, map_entry_savedValues]
  exact applyWrites_displaced_of_nodup _ _ _ (by rwa [map_fst_entry])
    (by rwa [map_fst_entry])

end ConfOpt

/-- The host after options have been written. -/
def Host.written (host : Host) (opts : List ConfOpt) : Host :=
  { host with file := ConfOpt.writeAll opts host.file }

/-- The host after options have been written and the service restarted. -/
def Host.configured (host : Host) (opts : List ConfOpt) : Host :=
  (host.written opts).restarted

@[simp] theorem Host.written_nil (host : Host) : host.written [] = host :=
  rfl

@[simp] theorem Host.written_cons (host : Host) (opt : ConfOpt)
    (opts : List ConfOpt) :
    host.written (opt :: opts) =
      ({ host with file := opt.write host.file } : Host).written opts :=
  rfl

@[simp] theorem Host.written_file (host : Host) (opts : List ConfOpt) :
    (host.written opts).file = ConfOpt.writeAll opts host.file :=
  rfl

namespace ServiceManager

variable {plan : Plan} {manager : ServiceManager}

/-- The requests which save and write the listed options, in order. -/
def saveRequests (manager : ServiceManager) (opts : List ConfOpt) :
    List Request :=
  opts.flatMap fun opt =>
    [.crudiniGet manager.path opt.key, manager.setRequest opt]

/-- The requests which write the listed options back, in order. -/
def setRequests (manager : ServiceManager) (opts : List ConfOpt) :
    List Request :=
  opts.map manager.setRequest

@[simp] theorem length_saveRequests (manager : ServiceManager)
    (opts : List ConfOpt) :
    (manager.saveRequests opts).length = 2 * opts.length := by
  induction opts with
  | nil => rfl
  | cons opt opts induction =>
      simp only [saveRequests, List.flatMap_cons, List.length_append,
        List.length_cons, List.length_nil] at induction ⊢
      omega

@[simp] theorem length_setRequests (manager : ServiceManager)
    (opts : List ConfOpt) :
    (manager.setRequests opts).length = opts.length := by
  simp [setRequests]

theorem saveAndSet_calm {session : Session} (manager : ServiceManager)
    (calm : plan.QuietOn session.log.length 2)
    (initialValues : List ConfOpt) (opt : ConfOpt) :
    manager.saveAndSet plan initialValues opt session =
      (.ok (initialValues ++
          [⟨opt.key, (session.host.file opt.key).map ConfValue.text⟩]),
        ⟨{ session.host with file := opt.write session.host.file },
          session.log ++
            [.crudiniGet manager.path opt.key,
              manager.setRequest opt]⟩) := by
  have read := getConfOpt_calm manager calm.head opt.key
  have setCalm :
      plan (session.log ++
        [Request.crudiniGet manager.path opt.key]).length = none :=
    calm _ (by simp) (by simp)
  have written :
      manager.setConfOpt plan opt ⟨session.host,
          session.log ++ [.crudiniGet manager.path opt.key]⟩ = _ :=
    setConfOpt_calm manager setCalm opt
  rw [saveAndSet, Run.bind_ok read, Run.bind_ok written]
  simp

/-- The undisturbed entry loop saves the undo log and writes every option. -/
theorem saveLoop_calm (manager : ServiceManager) (opts : List ConfOpt)
    (initialValues : List ConfOpt) (session : Session)
    (calm : plan.QuietOn session.log.length (2 * opts.length)) :
    opts.foldlM (manager.saveAndSet plan) initialValues session =
      (.ok (initialValues ++ ConfOpt.savedValues opts session.host.file),
        ⟨session.host.written opts,
          session.log ++ manager.saveRequests opts⟩) := by
  induction opts generalizing initialValues session with
  | nil => simp [ConfOpt.savedValues, saveRequests]
  | cons opt opts induction =>
      have roundCalm : plan.QuietOn session.log.length 2 :=
        calm.window (Nat.le_refl _) (by rw [List.length_cons]; omega)
      rw [List.foldlM_cons,
        Run.bind_ok (saveAndSet_calm manager roundCalm initialValues opt),
        induction]
      · simp [ConfOpt.savedValues, saveRequests]
      · apply calm.window
        · simp
        · simp only [List.length_append, List.length_cons, List.length_nil]
          omega

/-- The restore loop is a plain sequence of requests. -/
theorem forM_setConfOpt (plan : Plan) (manager : ServiceManager)
    (saved : List ConfOpt) :
    saved.forM (manager.setConfOpt plan) =
      performAll plan (manager.setRequests saved) := by
  induction saved with
  | nil => rfl
  | cons opt saved induction =>
      funext session
      rw [setRequests, List.map_cons, performAll]
      change (manager.setConfOpt plan opt >>= fun _ =>
        saved.forM (manager.setConfOpt plan)) session = _
      rcases performed : perform plan (manager.setRequest opt) session with
        ⟨outcome, reached⟩
      cases outcome with
      | ok output =>
          have written :
              manager.setConfOpt plan opt session = (.ok ⟨⟩, reached) := by
            rw [setConfOpt, Run.bind_ok performed]
            rfl
          rw [Run.bind_ok written, Run.bind_ok performed, induction]
          rfl
      | error error =>
          have failed :
              manager.setConfOpt plan opt session = (.error error, reached) := by
            rw [setConfOpt, Run.bind_error performed]
          rw [Run.bind_error failed, Run.bind_error performed]

theorem accepts_setRequests (manager : ServiceManager) (opts : List ConfOpt)
    (host : Host) : host.Accepts (manager.setRequests opts) := by
  induction opts generalizing host with
  | nil => trivial
  | cons opt opts induction =>
      simp only [setRequests, List.map_cons, Host.Accepts, respond_setRequest]
      exact ⟨rfl, induction _⟩

theorem after_setRequests (manager : ServiceManager) (opts : List ConfOpt)
    (host : Host) :
    host.after (manager.setRequests opts) = host.written opts := by
  induction opts generalizing host with
  | nil => rfl
  | cons opt opts induction =>
      have step := induction { host with file := opt.write host.file }
      simpa [setRequests] using step

/-- An undisturbed entry writes every option, restarts the service with the
resulting file, and keeps the undo log. -/
theorem configOptions_enter_calm {session : Session}
    (manager : ServiceManager) (opts : List ConfOpt)
    (calm : plan.QuietOn session.log.length
      (2 * opts.length + manager.restartRequests.length))
    (operable : manager.Operable session.host) :
    (manager.configOptions plan opts).enter session =
      (.ok (ConfOpt.savedValues opts session.host.file),
        ⟨session.host.configured opts,
          session.log ++ manager.saveRequests opts ++
            manager.restartRequests⟩) := by
  have saved := saveLoop_calm manager opts [] session
    (calm.window (Nat.le_refl _) (by omega))
  have restarted : manager.restart plan
      ⟨session.host.written opts, session.log ++ manager.saveRequests opts⟩ = _ :=
    restart_calm
      (calm.window (by simp) (by simp; omega))
      (operable.transfer operable.startable)
  change (opts.foldlM (manager.saveAndSet plan) [] >>= fun initialValues =>
    manager.restart plan >>= fun _ => pure initialValues) session = _
  rw [Run.bind_ok saved, Run.bind_ok restarted]
  rfl

/-- An undisturbed exit writes the saved values back and restarts the service
with the resulting file. -/
theorem configOptions_exit_calm {session : Session}
    (opts saved : List ConfOpt)
    (calm : plan.QuietOn session.log.length
      (saved.length + manager.restartRequests.length))
    (operable : manager.Operable session.host) :
    (manager.configOptions plan opts).exit saved session =
      (.ok ⟨⟩,
        ⟨session.host.configured saved,
          session.log ++ manager.setRequests saved ++
            manager.restartRequests⟩) := by
  have written :=
    performAll_calm (manager.setRequests saved) session
      (calm.window (Nat.le_refl _) (by simp))
      (accepts_setRequests manager saved session.host)
  rw [after_setRequests, ← forM_setConfOpt] at written
  have restarted : manager.restart plan
      ⟨session.host.written saved, session.log ++ manager.setRequests saved⟩ = _ :=
    restart_calm
      (calm.window (by simp) (by simp; omega))
      (operable.transfer operable.startable)
  change (saved.forM (manager.setConfOpt plan) >>= fun _ =>
    manager.restart plan) session = _
  rw [Run.bind_ok written, restarted]
  rfl

/-- The file after an exit in which every write back succeeds, whether or not
the restart which follows them does. -/
theorem configOptions_exit_file {session : Session}
    (opts saved : List ConfOpt)
    (calm : plan.QuietOn session.log.length saved.length) :
    ((manager.configOptions plan opts).exit saved session).2.host.file =
      ConfOpt.writeAll saved session.host.file := by
  have written :=
    performAll_calm (manager.setRequests saved) session
      (by simpa using calm)
      (accepts_setRequests manager saved session.host)
  rw [after_setRequests, ← forM_setConfOpt] at written
  change ((saved.forM (manager.setConfOpt plan) >>= fun _ =>
    manager.restart plan) session).2.host.file = _
  rw [Run.bind_ok written, restart_file]
  rfl

/-- The context restores every listed option exactly when each option listed
more than once is requested, by its last occurrence but one, to have the value
which it had before. -/
theorem configOptions_restores_iff (manager : ServiceManager)
    (opts : List ConfOpt) (body : Run Host Exn PUnit) (session : Session)
    (operable : manager.Operable session.host) :
    (∀ key ∈ ConfOpt.keys opts,
      ((manager.configOptions Plan.quiet opts).around (onHost body)
        session).2.host.file key = session.host.file key) ↔
      ∀ key ∈ ConfOpt.keys opts, ∀ requested,
        ConfOpt.earlierRequest opts key = some requested →
          requested.map ConfValue.ofText = session.host.file key := by
  have entered := configOptions_enter_calm manager opts
    (Plan.quiet_quietOn session.log.length _) operable
  have final :
      ((manager.configOptions Plan.quiet opts).around (onHost body)
        session).2.host.file =
      ConfOpt.writeAll (ConfOpt.savedValues opts session.host.file)
        (body (session.host.configured opts)).2.file := by
    rw [ContextManager.around_enter_ok entered, Run.tryFinally_state,
      configOptions_exit_file _ _ (Plan.quiet_quietOn _ _)]
    rfl
  constructor
  · intro restored key listed requested earlier
    have value := restored key listed
    rw [final, ConfOpt.writeAll_savedValues _ _ _ listed, earlier] at value
    exact value
  · intro unchanged key listed
    rw [final, ConfOpt.writeAll_savedValues _ _ _ listed]
    cases earlier : ConfOpt.earlierRequest opts key with
    | none => rfl
    | some requested => exact unchanged key listed requested earlier

/-- The option which the plugin's tests change on every compute host. -/
def cpuSharedSet : Key :=
  ⟨"compute".toList, "cpu_shared_set".toList⟩

theorem configOptions_restores_sharedSet :
    ((devstackNovaCompute.configOptions Plan.quiet
        [⟨cpuSharedSet, some "0-3".toList⟩]).around
      (onHost (Run.raise (.other "AssertionError".toList) :
        Run Host Exn PUnit))
      ⟨Host.pristine, []⟩).2.host.file cpuSharedSet =
        Host.pristine.file cpuSharedSet :=
  (configOptions_restores_iff devstackNovaCompute
    [⟨cpuSharedSet, some "0-3".toList⟩]
    (Run.raise (.other "AssertionError".toList)) ⟨Host.pristine, []⟩
    (devstackNovaCompute_operable rfl)).mpr (by decide)
      cpuSharedSet (by decide)

/-- An option listed twice keeps the first of its two requested values. -/
theorem configOptions_repeated_not_restored :
    let opts : List ConfOpt :=
      [⟨cpuSharedSet, some "0".toList⟩, ⟨cpuSharedSet, some "1".toList⟩]
    let final :=
      ((devstackNovaCompute.configOptions Plan.quiet opts).around
        (onHost (pure PUnit.unit)) ⟨Host.pristine, []⟩).2.host
    final.file cpuSharedSet = some (ConfValue.ofText "0".toList) ∧
      ¬ ∀ key ∈ ConfOpt.keys opts, final.file key = Host.pristine.file key := by
  decide

end ServiceManager

end Whitebox.Services
