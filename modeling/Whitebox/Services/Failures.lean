import Whitebox.Services.ConfigOptions

/-!
# One failing step

These results follow a single failing request through the two context managers
of a service manager.  A request which fails while `config_options` or
`stopped` is being entered is outside the protected region, so that nothing is
undone.  A write which fails while `config_options` is being left skips the
remaining writes and the restart.

Each theorem states exactly which failures are harmless.
-/

namespace Whitebox.Services

open Whitebox.Effect Whitebox.Python

/-- The failure does not read as the absence of an option, so `get_conf_opt`
re-raises it. -/
def Exn.Surfaces : Exn → Prop
  | .sshExecCommandFailed text =>
      contains text ServiceManager.notFound = false
  | _ => True

namespace ServiceManager

variable {plan : Plan} {manager : ServiceManager}

theorem getConfOpt_fault {session : Session} {fault : Fault}
    (manager : ServiceManager)
    (failing : plan session.log.length = some fault)
    (surfaces : fault.error.Surfaces) (key : Key) :
    manager.getConfOpt plan key session =
      (.error fault.error,
        ⟨session.host, session.log ++ [.crudiniGet manager.path key]⟩) := by
  have unchanged :
      (respond session.host (.crudiniGet manager.path key)).2 =
        session.host := by
    simp only [respond]
    split <;> rfl
  have performed :=
    perform_fault failing (.crudiniGet manager.path key)
  rw [unchanged, ite_self] at performed
  rw [getConfOpt, Run.tryExcept_error (Run.bind_error performed)]
  cases raised : fault.error with
  | sshExecCommandFailed text =>
      rw [raised] at surfaces
      simp only [Exn.Surfaces] at surfaces
      simp [surfaces]
  | sshTimeout text => rfl
  | timeoutException text => rfl
  | missingServiceSection service => rfl
  | attributeError text => rfl
  | other name => rfl

theorem setConfOpt_fault {session : Session} {fault : Fault}
    (manager : ServiceManager)
    (failing : plan session.log.length = some fault) (opt : ConfOpt) :
    manager.setConfOpt plan opt session =
      (.error fault.error,
        ⟨if fault.effective then
            { session.host with file := opt.write session.host.file }
          else session.host,
          session.log ++ [manager.setRequest opt]⟩) := by
  have performed := perform_fault failing (manager.setRequest opt)
  rw [respond_setRequest] at performed
  rw [setConfOpt, Run.bind_error performed]

/-- The requests of the entry of `config_options`, in order. -/
def entryRequests (manager : ServiceManager) (opts : List ConfOpt) :
    List Request :=
  manager.saveRequests opts ++ manager.restartRequests

/-- The host once the first requests of an entry have taken effect: two
requests for every option, then the restart. -/
def entryHost (manager : ServiceManager) (opts : List ConfOpt) (host : Host)
    (taken : Nat) : Host :=
  (host.written (opts.take (taken / 2))).after
    (manager.restartRequests.take (taken - 2 * opts.length))

/-- A round of the entry loop breaks off at the read of its option. -/
theorem saveAndSet_get_fault {session : Session} {fault : Fault}
    (manager : ServiceManager)
    (failing : plan session.log.length = some fault)
    (surfaces : fault.error.Surfaces)
    (initialValues : List ConfOpt) (opt : ConfOpt) :
    manager.saveAndSet plan initialValues opt session =
      (.error fault.error,
        ⟨session.host, session.log ++ [.crudiniGet manager.path opt.key]⟩) := by
  have read := getConfOpt_fault manager failing surfaces opt.key
  rw [saveAndSet, Run.bind_error read]

/-- A round of the entry loop breaks off at the write of its option. -/
theorem saveAndSet_set_fault {session : Session} {fault : Fault}
    (manager : ServiceManager)
    (calm : plan session.log.length = none)
    (failing : plan (session.log.length + 1) = some fault)
    (initialValues : List ConfOpt) (opt : ConfOpt) :
    manager.saveAndSet plan initialValues opt session =
      (.error fault.error,
        ⟨if fault.effective then session.host.written [opt] else session.host,
          session.log ++
            [.crudiniGet manager.path opt.key, manager.setRequest opt]⟩) := by
  have read := getConfOpt_calm manager calm opt.key
  have write : manager.setConfOpt plan opt
      ⟨session.host, session.log ++ [.crudiniGet manager.path opt.key]⟩ = _ :=
    setConfOpt_fault manager (by simpa using failing) opt
  rw [saveAndSet, Run.bind_ok read, Run.bind_error write]
  simp

theorem saveRequests_cons (manager : ServiceManager) (opt : ConfOpt)
    (opts : List ConfOpt) :
    manager.saveRequests (opt :: opts) =
      .crudiniGet manager.path opt.key :: manager.setRequest opt ::
        manager.saveRequests opts :=
  rfl

theorem reach_add_two (fault : Fault) (position : Nat) :
    fault.reach (position + 2) / 2 = fault.reach position / 2 + 1 := by
  rw [Nat.add_comm, fault.reach_add]
  omega

/-- The entry loop is cut off by its only fault.  The recursion follows the
options, and every option stands for two requests. -/
theorem saveLoop_fault (manager : ServiceManager) (fault : Fault)
    (opts initialValues : List ConfOpt) (session : Session) {position : Nat}
    (inside : position < 2 * opts.length)
    (surfaces : position % 2 = 0 → fault.error.Surfaces) :
    opts.foldlM
        (manager.saveAndSet
          (Plan.single (session.log.length + position) fault))
        initialValues session =
      (.error fault.error,
        ⟨session.host.written (opts.take (fault.reach position / 2)),
          session.log ++
            (manager.saveRequests opts).take (position + 1)⟩) := by
  induction opts generalizing initialValues session position with
  | nil => simp at inside
  | cons opt opts induction =>
      rw [List.foldlM_cons, saveRequests_cons]
      match position with
      | 0 =>
          have failed := saveAndSet_get_fault manager
            (Plan.single_self (session.log.length + 0) fault)
            (surfaces rfl) initialValues opt
          have none : fault.reach 0 / 2 = 0 := by
            have upper := fault.reach_le_succ 0
            omega
          rw [Run.bind_error failed, none]
          rfl
      | 1 =>
          have calm : Plan.single (session.log.length + 1) fault
              session.log.length = none := by
            simp [Plan.single]
          have failed := saveAndSet_set_fault manager calm
            (Plan.single_self _ fault) initialValues opt
          rw [Run.bind_error failed]
          cases effective : fault.effective <;>
            simp [Fault.reach, effective]
      | position + 2 =>
          have calm : (Plan.single (session.log.length + (position + 2))
              fault).QuietOn session.log.length 2 :=
            Plan.single_quietOn fault (.inr (by omega))
          have round := saveAndSet_calm manager calm initialValues opt
          rw [Run.bind_ok round, reach_add_two]
          have shifted : session.log.length + (position + 2) =
              (session.log ++ [.crudiniGet manager.path opt.key,
                manager.setRequest opt]).length + position := by
            simp only [List.length_append, List.length_cons, List.length_nil]
            omega
          rw [shifted]
          refine (induction _ ⟨_, _⟩ ?_ ?_).trans ?_
          · simpa [Nat.mul_add] using inside
          · simpa using surfaces
          · simp

/-- A fault while the options are saved and set. -/
theorem configOptions_enter_fault_saving (manager : ServiceManager)
    (fault : Fault) (opts : List ConfOpt) (session : Session) {position : Nat}
    (saving : position < 2 * opts.length)
    (surfaces : position % 2 = 0 → fault.error.Surfaces) :
    (manager.configOptions
        (Plan.single (session.log.length + position) fault) opts).enter
        session =
      (.error fault.error,
        ⟨manager.entryHost opts session.host (fault.reach position),
          session.log ++
            (manager.entryRequests opts).take (position + 1)⟩) := by
  change (opts.foldlM (manager.saveAndSet _) [] >>= fun initialValues =>
    manager.restart _ >>= fun _ => pure initialValues) session = _
  rw [Run.bind_error
    (saveLoop_fault manager fault opts [] session saving surfaces)]
  have noRestart : fault.reach position - 2 * opts.length = 0 := by
    have upper := fault.reach_le_succ position
    omega
  have noRest : position + 1 - 2 * opts.length = 0 := by omega
  simp [entryHost, entryRequests, List.take_append, noRestart, noRest]

/-- A fault in the restart after all options have been set. -/
theorem configOptions_enter_fault_restarting (manager : ServiceManager)
    (fault : Fault) (opts : List ConfOpt) (session : Session) {offset : Nat}
    (operable : manager.Operable session.host)
    (shorter : offset < manager.restartRequests.length) :
    (manager.configOptions
        (Plan.single (session.log.length + (2 * opts.length + offset)) fault)
        opts).enter session =
      (.error fault.error,
        ⟨manager.entryHost opts session.host
            (fault.reach (2 * opts.length + offset)),
          session.log ++ (manager.entryRequests opts).take
            (2 * opts.length + offset + 1)⟩) := by
  change (opts.foldlM (manager.saveAndSet _) [] >>= fun initialValues =>
    manager.restart _ >>= fun _ => pure initialValues) session = _
  have calm : (Plan.single (session.log.length +
      (2 * opts.length + offset)) fault).QuietOn session.log.length
        (2 * opts.length) :=
    Plan.single_quietOn fault (.inr (by omega))
  rw [Run.bind_ok (saveLoop_calm manager opts [] session calm)]
  have shifted : session.log.length + (2 * opts.length + offset) =
      (session.log ++ manager.saveRequests opts).length + offset := by
    simp only [List.length_append, length_saveRequests]
    omega
  have operableWritten : manager.Operable (session.host.written opts) :=
    operable.transfer operable.startable
  have accepted := Host.accepts_take (restart_spec operableWritten).1 offset
  have cut := performAll_single fault manager.restartRequests
    ⟨session.host.written opts, session.log ++ manager.saveRequests opts⟩
    shorter accepted
  rw [shifted, restart_eq_performAll, Run.bind_error cut]
  have allWritten : opts.length ≤
      fault.reach (2 * opts.length + offset) / 2 := by
    rw [fault.reach_add]
    omega
  have taken : fault.reach (2 * opts.length + offset) - 2 * opts.length =
      fault.reach offset := by
    rw [fault.reach_add, Nat.add_sub_cancel_left]
  have rest : 2 * opts.length + offset + 1 - 2 * opts.length = offset + 1 := by
    omega
  have whole : 2 * opts.length ≤ 2 * opts.length + offset + 1 := by omega
  simp [entryHost, entryRequests, List.take_append, taken, rest,
    List.take_of_length_le allWritten, List.take_of_length_le, whole]

/-- The entry of `config_options` is cut off by its only fault, and nothing of
what it did is undone. -/
theorem configOptions_enter_fault (manager : ServiceManager) (fault : Fault)
    (opts : List ConfOpt) (session : Session) {position : Nat}
    (operable : manager.Operable session.host)
    (inside : position < (manager.entryRequests opts).length)
    (surfaces : position < 2 * opts.length → position % 2 = 0 →
      fault.error.Surfaces) :
    (manager.configOptions
        (Plan.single (session.log.length + position) fault) opts).enter
        session =
      (.error fault.error,
        ⟨manager.entryHost opts session.host (fault.reach position),
          session.log ++
            (manager.entryRequests opts).take (position + 1)⟩) := by
  by_cases saving : position < 2 * opts.length
  · exact configOptions_enter_fault_saving manager fault opts session saving
      (surfaces saving)
  · obtain ⟨offset, rfl⟩ : ∃ offset, position = 2 * opts.length + offset :=
      ⟨position - 2 * opts.length, by omega⟩
    apply configOptions_enter_fault_restarting manager fault opts session
      operable
    simp only [entryRequests, List.length_append,
      length_saveRequests] at inside
    omega

/-- Part of a restart leaves the service up exactly when the stop has not
happened yet, or the start has happened again. -/
theorem running_after_take {host : Host} (operable : manager.Operable host)
    (taken : Nat) :
    (host.after (manager.restartRequests.take taken)).Running ↔
      (taken = 0 ∧ host.Running) ∨
        .service .start manager.startCommand ∈
          manager.restartRequests.take taken := by
  obtain ⟨stopConfigured, startConfigured, maskConfigured, startable⟩ :=
    operable
  obtain ⟨stopCommand, stopEq⟩ := Option.isSome_iff_exists.mp stopConfigured
  obtain ⟨startCommand, startEq⟩ :=
    Option.isSome_iff_exists.mp startConfigured
  unfold masksUnit at maskConfigured startable
  unfold Host.Running
  cases kind : manager.kind with
  | service =>
      cases masks : manager.hasUnmaskCommand with
      | false =>
          have unmasked : host.masked = false := by
            simpa [masks] using startable
          rcases taken with _ | _ | taken <;>
            simp [restartRequests, stopRequests, startRequests, kind, masks,
              stopEq, startEq, respond, Verb.apply, unmasked]
      | true =>
          obtain ⟨maskCommand, maskEq⟩ := Option.isSome_iff_exists.mp
            (maskConfigured (by simp [kind, masks]))
          cases unmaskEq : manager.unmaskCommand with
          | none => simp [hasUnmaskCommand, unmaskEq] at masks
          | some unmaskCommand =>
              rcases taken with _ | _ | _ | _ | taken <;>
                simp [restartRequests, stopRequests, startRequests, kind,
                  masks, stopEq, startEq, maskEq, unmaskEq, respond,
                  Verb.apply]
  | nova =>
      have unmasked : host.masked = false := by simpa [kind] using startable
      rcases taken with _ | _ | _ | _ | taken <;>
        simp [restartRequests, stopRequests, startRequests, kind, stopEq,
          startEq, respond, Verb.apply, unmasked, StatusField.report]
  | virtQEMUd =>
      have unmasked : host.masked = false := by simpa [kind] using startable
      rcases taken with _ | _ | _ | _ | taken <;>
        simp [restartRequests, stopRequests, startRequests, kind, stopEq,
          startEq, respond, Verb.apply, unmasked, StatusField.report]

theorem entryHost_file (manager : ServiceManager) (opts : List ConfOpt)
    (host : Host) (taken : Nat) :
    (manager.entryHost opts host taken).file =
      ConfOpt.writeAll (opts.take (taken / 2)) host.file := by
  rw [entryHost, Host.after_file]
  · rfl
  · intro request member
    exact manager.restartRequests_reads request (List.mem_of_mem_take member)

/-- A failing entry is harmless exactly when the options written by then
already had their requested values, and the service was not down at that
point. -/
theorem configOptions_entry_atomic_iff (manager : ServiceManager)
    (opts : List ConfOpt) (body : Run Host Exn PUnit) (session : Session)
    (position : Nat) (fault : Fault)
    (operable : manager.Operable session.host)
    (distinct : (ConfOpt.keys opts).Nodup)
    (inside : position < (manager.entryRequests opts).length)
    (surfaces : position < 2 * opts.length → position % 2 = 0 →
      fault.error.Surfaces) :
    let result :=
      (manager.configOptions
          (Plan.single (session.log.length + position) fault) opts).around
        (onHost body) session
    let taken := fault.reach position
    result.1 = .error fault.error ∧
      ((result.2.host.file = session.host.file ∧ result.2.host.Running) ↔
        (∀ opt ∈ opts.take (taken / 2),
          opt.stored = session.host.file opt.key) ∧
        (taken ≤ 2 * opts.length ∧ session.host.Running ∨
          .service .start manager.startCommand ∈
            manager.restartRequests.take (taken - 2 * opts.length))) := by
  intro result taken
  have cut : result = _ := ContextManager.around_enter_error
    (configOptions_enter_fault manager fault opts session operable inside
      surfaces) (onHost body)
  have prefixDistinct :
      (ConfOpt.keys (opts.take (taken / 2))).Nodup :=
    distinct.sublist ((List.take_sublist _ opts).map ConfOpt.key)
  have operableWritten :
      manager.Operable (session.host.written (opts.take (taken / 2))) :=
    operable.transfer operable.startable
  have running := running_after_take operableWritten
    (taken - 2 * opts.length)
  have before : taken - 2 * opts.length = 0 ↔ taken ≤ 2 * opts.length :=
    Nat.sub_eq_zero_iff_le
  rw [before] at running
  refine ⟨by rw [cut], ?_⟩
  rw [cut]
  change (manager.entryHost opts session.host taken).file = _ ∧
    (manager.entryHost opts session.host taken).Running ↔ _
  rw [entryHost_file, ConfOpt.writeAll_eq_self_iff prefixDistinct]
  exact and_congr_right fun _ => running

theorem configOptions_entry_atomic_idle :
    let result :=
      (devstackNovaCompute.configOptions
          (Plan.single 1 ⟨.sshTimeout "timed out".toList, false⟩)
          [⟨cpuSharedSet, some "0-3".toList⟩]).around
        (onHost (pure PUnit.unit)) ⟨Host.pristine, []⟩
    result.2.host.file = Host.pristine.file ∧ result.2.host.Running :=
  (configOptions_entry_atomic_iff devstackNovaCompute
    [⟨cpuSharedSet, some "0-3".toList⟩] (pure PUnit.unit)
    ⟨Host.pristine, []⟩ 1 ⟨.sshTimeout "timed out".toList, false⟩
    (devstackNovaCompute_operable rfl) (by decide) (by decide)
    (fun _ _ => trivial)).2.mpr ⟨by decide, .inl ⟨by decide, rfl⟩⟩

/-- A stop which takes effect but is not seen by the waiter leaves the new
option in the file and the service down. -/
theorem configOptions_entry_not_atomic :
    let result :=
      (devstackNovaCompute.configOptions
          (Plan.single 3 ⟨.timeoutException "down".toList, false⟩)
          [⟨cpuSharedSet, some "0-3".toList⟩]).around
        (onHost (pure PUnit.unit)) ⟨Host.pristine, []⟩
    result.1 = .error (.timeoutException "down".toList) ∧
      result.2.host.file cpuSharedSet = some (ConfValue.ofText "0-3".toList) ∧
      ¬ result.2.host.Running ∧
      ¬ (result.2.host.file = Host.pristine.file ∧ result.2.host.Running) := by
  refine ⟨by decide, by decide, by decide, ?_⟩
  intro atomic
  exact absurd atomic.2 (by decide)

/-- The exit of `config_options` is cut off by its only failing write. -/
theorem configOptions_exit_fault (manager : ServiceManager) (fault : Fault)
    (opts saved : List ConfOpt) (session : Session) {position : Nat}
    (inside : position < saved.length) :
    (manager.configOptions
        (Plan.single (session.log.length + position) fault) opts).exit saved
        session =
      (.error fault.error,
        ⟨session.host.written (saved.take (fault.reach position)),
          session.log ++
            manager.setRequests (saved.take (position + 1))⟩) := by
  have cut := performAll_single fault (manager.setRequests saved) session
    (by simpa using inside)
    (Host.accepts_take (accepts_setRequests manager saved session.host) _)
  rw [← forM_setConfOpt] at cut
  change (saved.forM (manager.setConfOpt _) >>= fun _ =>
    manager.restart _) session = _
  rw [Run.bind_error cut, setRequests, ← List.map_take, ← setRequests,
    after_setRequests, ← List.map_take, ← setRequests]

/-- Whatever is done last is no restart when it is a write. -/
theorem not_restart_suffix (manager : ServiceManager) (log : List Request)
    {request : Request} (writes : request.Writes = true) :
    ¬ manager.restartRequests <:+ log ++ [request] := by
  rintro ⟨front, equality⟩
  have nonempty : manager.restartRequests ≠ [] := by
    simp [restartRequests, stopRequests]
  have lastMember : request ∈ manager.restartRequests := by
    have last := congrArg List.getLast? equality
    rw [List.getLast?_append_of_ne_nil _ nonempty,
      List.getLast?_concat] at last
    exact List.mem_of_getLast? last
  rw [manager.restartRequests_reads request lastMember] at writes
  cases writes

/-- Writing back some of the saved values restores the options they belong
to. -/
theorem file_of_mem_take {opts : List ConfOpt} {opt : ConfOpt} {count : Nat}
    (distinct : (ConfOpt.keys opts).Nodup) (member : opt ∈ opts.take count)
    (host : Host) (file : Conf) :
    (host.written ((ConfOpt.savedValues opts file).take count)).file opt.key =
      file opt.key := by
  have takenDistinct : (ConfOpt.keys (opts.take count)).Nodup :=
    distinct.sublist ((List.take_sublist _ opts).map ConfOpt.key)
  rw [Host.written_file, ConfOpt.take_savedValues]
  exact ConfOpt.writeAll_savedValues_of_nodup _ _ _ takenDistinct
    (List.mem_map_of_mem member)

theorem file_of_mem_drop {opts : List ConfOpt} {opt : ConfOpt} {count : Nat}
    (distinct : (ConfOpt.keys opts).Nodup) (member : opt ∈ opts.drop count)
    (host : Host) (file : Conf) :
    (host.written ((ConfOpt.savedValues opts file).take count)).file opt.key =
      host.file opt.key := by
  have absent : opt.key ∉ ConfOpt.keys (opts.take count) := by
    rw [← List.take_append_drop count opts] at distinct
    simp only [ConfOpt.keys, List.map_append, List.nodup_append'] at distinct
    exact fun present => distinct.2.2 present (List.mem_map_of_mem member)
  rw [Host.written_file, ConfOpt.take_savedValues]
  apply ConfOpt.writeAll_of_not_mem
  rwa [ConfOpt.keys_savedValues]

/-- A failing write during the exit leaves the earlier options restored, the
later ones as the body left them, and the service without a restart. -/
theorem configOptions_exit_never_completes (manager : ServiceManager)
    (opts : List ConfOpt) (body : Run Host Exn PUnit) (session : Session)
    (position : Nat) (fault : Fault)
    (operable : manager.Operable session.host)
    (distinct : (ConfOpt.keys opts).Nodup)
    (inside : position < opts.length) :
    let start := session.log.length + (manager.entryRequests opts).length
    let result :=
      (manager.configOptions (Plan.single (start + position) fault)
        opts).around (onHost body) session
    let left := (body (session.host.configured opts)).2
    result.1 = .error fault.error ∧
      (∀ opt ∈ opts.take position,
        result.2.host.file opt.key = session.host.file opt.key) ∧
      (∀ opt ∈ opts.drop (position + 1),
        result.2.host.file opt.key = left.file opt.key) ∧
      result.2.host.loaded = left.loaded ∧
      ¬ ((∀ opt ∈ opts.eraseIdx position,
          result.2.host.file opt.key = session.host.file opt.key) ∧
        manager.restartRequests <:+ result.2.log ∧
        result.2.host.Current) := by
  intro start result left
  let saved := ConfOpt.savedValues opts session.host.file
  let reached : Session :=
    ⟨left, session.log ++ manager.saveRequests opts ++
      manager.restartRequests⟩
  have reachedLength : reached.log.length = start := by
    simp only [reached, start, entryRequests, List.length_append,
      length_saveRequests]
    omega
  have calm : (Plan.single (start + position) fault).QuietOn
      session.log.length
      (2 * opts.length + manager.restartRequests.length) := by
    apply Plan.single_quietOn
    right
    simp only [start, entryRequests, List.length_append, length_saveRequests]
    omega
  have entered := configOptions_enter_calm manager opts calm operable
  have cut := configOptions_exit_fault manager fault opts saved reached
    (by simpa [saved] using inside)
  rw [reachedLength] at cut
  have outcome : result = (.error fault.error,
      ⟨left.written (saved.take (fault.reach position)),
        reached.log ++ manager.setRequests (saved.take (position + 1))⟩) := by
    change ContextManager.around _ _ _ = _
    rw [ContextManager.around_enter_ok entered]
    exact Run.tryFinally_error cut
  rw [outcome]
  refine ⟨rfl, ?_, ?_, rfl, ?_⟩
  · intro opt member
    apply file_of_mem_take distinct
    exact (List.take_prefix_take_left (fault.le_reach position)).subset member
  · intro opt member
    apply file_of_mem_drop distinct
    exact (List.drop_sublist_drop_left opts
      (fault.reach_le_succ position)).subset member
  · rintro ⟨-, restarted, -⟩
    have inSaved : position < saved.length := by simpa [saved] using inside
    rw [← List.take_append_getElem inSaved, setRequests, List.map_append,
      ← List.append_assoc] at restarted
    refine not_restart_suffix manager _ ?_ restarted
    simp only [setRequest]
    split <;> rfl

/-- The cell option which the plugin's tests change together with others. -/
def fileBackedMemory : Key :=
  ⟨"libvirt".toList, "file_backed_memory".toList⟩

theorem configOptions_exit_never_completes_first :
    let opts : List ConfOpt :=
      [⟨cpuSharedSet, some "0".toList⟩, ⟨fileBackedMemory, some "1024".toList⟩]
    let result :=
      (devstackNovaCompute.configOptions
          (Plan.single 8 ⟨.sshTimeout "timed out".toList, false⟩)
          opts).around (onHost (pure PUnit.unit)) ⟨Host.pristine, []⟩
    ¬ ((∀ opt ∈ opts.eraseIdx 0,
        result.2.host.file opt.key = Host.pristine.file opt.key) ∧
      devstackNovaCompute.restartRequests <:+ result.2.log ∧
      result.2.host.Current) :=
  (configOptions_exit_never_completes devstackNovaCompute
    [⟨cpuSharedSet, some "0".toList⟩, ⟨fileBackedMemory, some "1024".toList⟩]
    (pure PUnit.unit) ⟨Host.pristine, []⟩ 0
    ⟨.sshTimeout "timed out".toList, false⟩
    (devstackNovaCompute_operable rfl) (by decide) (by decide)).2.2.2.2

/-- The second option is still set after the first write back has failed. -/
theorem configOptions_exit_loses_option :
    let opts : List ConfOpt :=
      [⟨cpuSharedSet, some "0".toList⟩, ⟨fileBackedMemory, some "1024".toList⟩]
    let result :=
      (devstackNovaCompute.configOptions
          (Plan.single 8 ⟨.sshTimeout "timed out".toList, false⟩)
          opts).around (onHost (pure PUnit.unit)) ⟨Host.pristine, []⟩
    result.1 = .error (.sshTimeout "timed out".toList) ∧
      ¬ ∀ opt ∈ opts.eraseIdx 0,
        result.2.host.file opt.key = Host.pristine.file opt.key := by
  decide

/-- Once the stop command has taken effect the service stays down for the rest
of `stop`. -/
theorem loaded_after_take_stop {host : Host}
    (operable : manager.Operable host) {taken : Nat} (begun : 0 < taken) :
    (host.after (manager.stopRequests.take taken)).loaded = none := by
  obtain ⟨stopCommand, stopEq⟩ :=
    Option.isSome_iff_exists.mp operable.stopConfigured
  obtain ⟨more, rfl⟩ : ∃ more, taken = more + 1 := ⟨taken - 1, by omega⟩
  unfold stopRequests
  cases kind : manager.kind with
  | service =>
      cases masks : manager.hasUnmaskCommand with
      | false => simp [stopEq, respond, Verb.apply]
      | true =>
          obtain ⟨maskCommand, maskEq⟩ := Option.isSome_iff_exists.mp
            (operable.maskConfigured (by simp [masksUnit, kind, masks]))
          cases more <;> simp [stopEq, maskEq, respond, Verb.apply]
  | nova =>
      cases more <;> simp [stopEq, respond, Verb.apply, StatusField.report]
  | virtQEMUd =>
      cases more <;> simp [stopEq, respond, Verb.apply, StatusField.report]

theorem stopped_around_ok {session reached : Session}
    (entered : manager.stop plan session = (.ok ⟨⟩, reached))
    (body : Run Session Exn α) :
    (manager.stopped plan).around body session =
      Run.tryFinally body (manager.start plan) reached :=
  ContextManager.around_enter_ok entered body

theorem stopped_around_error {session reached : Session} {error : Exn}
    (raised : manager.stop plan session = (.error error, reached))
    (body : Run Session Exn α) :
    (manager.stopped plan).around body session = (.error error, reached) :=
  ContextManager.around_enter_error raised body

/-- Without a fault the body runs between the stop and the start. -/
theorem stopped_calm_host (manager : ServiceManager)
    (body : Run Host Exn PUnit) (session : Session)
    (operable : manager.Operable session.host)
    (startable : manager.masksUnit = true ∨
      (body (session.host.after manager.stopRequests)).2.masked = false) :
    ((manager.stopped Plan.quiet).around (onHost body) session).2.host =
      (body (session.host.after manager.stopRequests)).2.after
        manager.startRequests := by
  have entered := performAll_calm manager.stopRequests session
    (Plan.quiet_quietOn _ _) (stop_spec operable).1
  let left := (body (session.host.after manager.stopRequests)).2
  have startAccepted :=
    (start_spec (operable.transfer startable : manager.Operable left)).1
  have protectedBody : (manager.stopped Plan.quiet).around (onHost body)
      session = _ := stopped_around_ok entered (onHost body)
  rw [protectedBody, Run.tryFinally_state]
  exact congrArg (fun outcome => outcome.2.host)
    (performAll_calm manager.startRequests
      ⟨left, session.log ++ manager.stopRequests⟩
      (Plan.quiet_quietOn _ _) startAccepted)

/-- Nothing protects the entry, so the host stays as a fault in it leaves it. -/
theorem stopped_fault_host (manager : ServiceManager)
    (body : Run Host Exn PUnit) (session : Session) {position : Nat}
    (fault : Fault) (operable : manager.Operable session.host)
    (inside : position < manager.stopRequests.length) :
    ((manager.stopped (Plan.single (session.log.length + position)
        fault)).around (onHost body) session).2.host =
      session.host.after
        (manager.stopRequests.take (fault.reach position)) := by
  have cut := performAll_single fault manager.stopRequests session inside
    (Host.accepts_take (stop_spec operable).1 _)
  have unprotected : (manager.stopped (Plan.single (session.log.length +
      position) fault)).around (onHost body) session = _ :=
    stopped_around_error cut (onHost body)
  rw [unprotected]

/-- `stopped` leaves the service up and unmasked exactly when entering it does
not fail, or fails at the stop command without an effect. -/
theorem stopped_leaves_running_iff (manager : ServiceManager)
    (body : Run Host Exn PUnit) (session : Session)
    (failure : Option (Nat × Fault))
    (operable : manager.Operable session.host)
    (running : session.host.Running) (unmasked : session.host.masked = false)
    (inside : ∀ position fault, failure = some (position, fault) →
      position < manager.stopRequests.length)
    (startable : manager.masksUnit = true ∨
      (body (session.host.after manager.stopRequests)).2.masked = false) :
    let result :=
      (manager.stopped (Plan.failing session.log.length failure)).around
        (onHost body) session
    (result.2.host.Running ∧ result.2.host.masked = false) ↔
      ∀ position fault, failure = some (position, fault) →
        position = 0 ∧ fault.effective = false := by
  intro result
  rcases failure with _ | ⟨position, fault⟩
  · -- The protected region was entered, and `start` runs in its `finally`.
    have final : result.2.host = _ :=
      stopped_calm_host manager body session operable startable
    let left := (body (session.host.after manager.stopRequests)).2
    have started :=
      (start_spec (operable.transfer startable : manager.Operable left)).2
    rw [final, started]
    cases left.loaded <;> simp [Host.Running]
  · have final : result.2.host = _ :=
      stopped_fault_host manager body session fault operable
        (inside position fault rfl)
    rw [final]
    by_cases begun : 0 < fault.reach position
    · have down := loaded_after_take_stop operable begun
      constructor
      · rintro ⟨up, -⟩
        simp [Host.Running, down] at up
      · intro harmless
        exact absurd (Fault.reach_eq_zero_iff.mpr (harmless position fault rfl))
          begun.ne'
    · have nothing : fault.reach position = 0 := by omega
      rw [nothing]
      refine ⟨fun _ other otherFault same => ?_, fun _ => ⟨running, unmasked⟩⟩
      cases same
      exact Fault.reach_eq_zero_iff.mp nothing

theorem stopped_leaves_running_refused :
    let result :=
      (devstackNovaCompute.stopped (Plan.failing 0
          (some (0, ⟨.sshTimeout "timed out".toList, false⟩)))).around
        (onHost (pure PUnit.unit)) ⟨Host.pristine, []⟩
    result.2.host.Running ∧ result.2.host.masked = false :=
  (stopped_leaves_running_iff devstackNovaCompute (pure PUnit.unit)
    ⟨Host.pristine, []⟩ (some (0, ⟨.sshTimeout "timed out".toList, false⟩))
    (devstackNovaCompute_operable rfl) rfl rfl
    (by rintro position fault ⟨⟩; decide) (.inr rfl)).mpr
      (by rintro position fault ⟨⟩; decide)

/-- A stop which the waiter gives up on leaves the service down. -/
theorem stopped_timeout_leaves_down :
    let result :=
      (devstackNovaCompute.stopped (Plan.failing 0
          (some (1, ⟨.timeoutException "down".toList, false⟩)))).around
        (onHost (pure PUnit.unit)) ⟨Host.pristine, []⟩
    result.1 = .error (.timeoutException "down".toList) ∧
      ¬ (result.2.host.Running ∧ result.2.host.masked = false) := by
  decide

end ServiceManager

end Whitebox.Services
