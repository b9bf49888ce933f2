import Whitebox.Posix.Shell
import Whitebox.Python.Int
import Whitebox.Services.ConfigOptions

/-!
# Config options as command lines

`get_conf_opt` and `set_conf_opt` put their arguments into a command line as
they are.  A shell on the host reads the line, and `crudini` receives the
words.  A value therefore arrives only if the shell reads it as one word which
is the value itself.

The shell and `crudini` are parameters.  Of the shell it is assumed that it
reads words without quotes, expansions and operators as they stand, and of
`crudini` what it does with arguments that it takes for the name of a file, a
section, an option and a value.
-/

namespace Whitebox.Services.CommandLine

open Whitebox.Effect Whitebox.Posix Whitebox.Python
open ServiceManager (cpuSharedSet devstackNovaCompute getConfOpt_calm notFound
  setConfOpt_calm)

/-- The failure of a remote command that `exec_command` raises. -/
structure CommandFailure where
  command : Str
  exitStatus : Int
  stderr : Str
  stdout : Str
deriving DecidableEq

def commandLabel : Str := "Command '".toList

def exitStatusLabel : Str := "', exit status: ".toList

def stderrLabel : Str := ", stderr:\n".toList

def stdoutLabel : Str := "\nstdout:\n".toList

/-- `str` of an `SSHExecCommandFailed`. -/
def CommandFailure.text (failure : CommandFailure) : Str :=
  commandLabel ++ failure.command ++ exitStatusLabel ++
    str failure.exitStatus ++ stderrLabel ++ failure.stderr ++
    stdoutLabel ++ failure.stdout

def CommandFailure.error (failure : CommandFailure) : Exn :=
  .sshExecCommandFailed failure.text

section Commands

variable {σ : Type} (execute : Str → Run σ Exn Str)

def crudiniWord : Str := "crudini".toList

def getMode : Str := "--get".toList

def setMode : Str := "--set".toList

def delMode : Str := "--del".toList

/-- `'crudini <mode> %s %s %s'`, with another argument for a value. -/
def crudiniCommand (mode path : Str) (key : Key) (value : List Str) : Str :=
  join ' '
    ([crudiniWord, mode, path, key.sectionName, key.option] ++ value)

/-- The `except` clause of `get_conf_opt`. -/
def unlessNotFound : Exn → Run σ Exn (Option Str)
  | .sshExecCommandFailed text =>
      if contains text notFound then pure none
      else Run.raise (.sshExecCommandFailed text)
  | error => Run.raise error

/-- `get_conf_opt`. -/
def getConfOpt (path : Str) (key : Key) : Run σ Exn (Option Str) :=
  Run.tryExcept
    (do
      let value ← execute (crudiniCommand getMode path key [])
      pure (some (strip value)))
    unlessNotFound

/-- The command of `set_conf_opt`. -/
def setCommand (path : Str) (key : Key) : Option Str → Str
  | none => crudiniCommand delMode path key []
  | some value => crudiniCommand setMode path key [value]

/-- `set_conf_opt`. -/
def setConfOpt (path : Str) (key : Key) (value : Option Str) :
    Run σ Exn PUnit := do
  let _ ← execute (setCommand path key value)
  pure ⟨⟩

end Commands

section Files

/-- The config files of a host, by path. -/
abbrev Files := Str → Conf

/-- The files after one option has been written or removed. -/
def write (path : Str) (key : Key) (value : Option ConfValue)
    (files : Files) : Files :=
  Function.update files path (Function.update (files path) key value)

theorem write_same (path : Str) (key : Key) (value : Option ConfValue)
    (files : Files) : write path key value files path key = value := by
  simp [write]

theorem write_other {path otherPath : Str} {key other : Key}
    (different : (otherPath, other) ≠ (path, key)) (value : Option ConfValue)
    (files : Files) :
    write path key value files otherPath other = files otherPath other := by
  by_cases samePath : otherPath = path
  · subst samePath
    have otherKey : other ≠ key := fun same => different (by rw [same])
    simp [write, otherKey]
  · simp [write, samePath]

theorem write_eq_self {path : Str} {key : Key} {value : Option ConfValue}
    {files : Files} :
    write path key value files = files ↔ files path key = value := by
  constructor
  · intro same
    rw [← same, write_same]
  · rintro rfl
    simp [write]

end Files

section Hosts

/-- A host, as far as it has a part in what becomes of a command line. -/
structure Remote where
  /-- The words that the shell makes of a text, unless the text is more than
  the words of one command. -/
  words : Str → Option (List Str)
  /-- The command that a line has been read as, given with the line. -/
  run : Str → List Str → Run Files Exn Str
  /-- A line that is more than one command. -/
  interpret : Str → Run Files Exn Str

def sudoWord : Str := "sudo".toList

/-- `'sudo %s' % command`. -/
def sudoLine (command : Str) : Str :=
  sudoWord ++ ' ' :: command

/-- `execute(command, container_name=None, sudo=True)`. -/
def execute (remote : Remote) (command : Str) : Run Files Exn Str :=
  match remote.words (sudoLine command) with
  | none => remote.interpret (sudoLine command)
  | some words => remote.run (sudoLine command) words

/-- The shell reads what depends on the text only as every shell does, and a
literal word before a blank is a word of its own. -/
structure Remote.HasShell (remote : Remote) : Prop where
  reads : ∀ {text : Str} {words : List Str}, readLine text = some words →
    remote.words text = some words
  append : ∀ {word : Str}, Literal word → ∀ rest,
    remote.words (word ++ ' ' :: rest) =
      (remote.words rest).map (word :: ·)

/-- The arguments of a `crudini` command. -/
def arguments (path : Str) (key : Key) (value : List Str) : List Str :=
  [path, key.sectionName, key.option] ++ value

def commandWords (mode path : Str) (key : Key) (value : List Str) : List Str :=
  sudoWord :: crudiniWord :: mode :: arguments path key value

/-- `crudini --get` prints the value of an option and fails without one. -/
def crudiniGet (line path : Str) (key : Key) : Run Files Exn Str :=
  fun files =>
    match files path key with
    | some value => (.ok (value.text ++ ['\n']), files)
    | none =>
        (.error (CommandFailure.error ⟨line, 1, missingMessage key, []⟩), files)

def crudiniWrite (path : Str) (key : Key) (value : Option ConfValue) :
    Run Files Exn Str :=
  fun files => (.ok [], write path key value files)

/-- The value that `crudini --set` is given by the arguments after the option:
a missing value is the empty one, and surplus arguments are rejected. -/
def given : List Str → Option ConfValue
  | [] => some (.ofText [])
  | [value] => some (.ofText value)
  | _ => none

@[simp] theorem given_nil : given [] = some (.ofText []) :=
  rfl

@[simp] theorem given_singleton (word : Str) :
    given [word] = some (.ofText word) :=
  rfl

/-- What `crudini` takes for the name of an option in a file, and what for a
value. -/
structure Crudini where
  names : Str → Key → Prop
  takes : Str → Prop

/-- The host runs `crudini`.  Arguments that it does not take are left open. -/
structure Remote.Runs (remote : Remote) (crudini : Crudini) : Prop where
  get : ∀ {path : Str} {key : Key}, crudini.names path key → ∀ line,
    remote.run line (commandWords getMode path key []) =
      crudiniGet line path key
  set : ∀ {path : Str} {key : Key} {words : List Str} {value : ConfValue},
    crudini.names path key → (∀ word ∈ words, crudini.takes word) →
      given words = some value → ∀ line,
        remote.run line (commandWords setMode path key words) =
          crudiniWrite path key (some value)
  del : ∀ {path : Str} {key : Key}, crudini.names path key → ∀ line,
    remote.run line (commandWords delMode path key []) =
      crudiniWrite path key none
  getSurplus : ∀ {path : Str} {key : Key} {words : List Str},
    crudini.names path key → (∀ word ∈ words, crudini.takes word) →
      words ≠ [] → ∀ line files,
        (remote.run line (commandWords getMode path key words)
          files).1.isOk = false
  setSurplus : ∀ {path : Str} {key : Key} {words : List Str},
    crudini.names path key → (∀ word ∈ words, crudini.takes word) →
      given words = none → ∀ line files,
        (remote.run line (commandWords setMode path key words)
          files).1.isOk = false

/-- The host reads the texts, put into one line, as an option and further
arguments that `crudini` takes. -/
structure Remote.Reads (remote : Remote) (crudini : Crudini)
    (texts : List Str) (path : Str) (key : Key) (words : List Str) : Prop where
  line : remote.words (join ' ' texts) = some (arguments path key words)
  named : crudini.names path key
  taken : ∀ word ∈ words, crudini.takes word

/-- The host makes words of the text which `crudini` takes. -/
structure Remote.Takes (remote : Remote) (crudini : Crudini) (text : Str)
    (words : List Str) : Prop where
  line : remote.words text = some words
  taken : ∀ word ∈ words, crudini.takes word

/-- Every shell takes the path and the names literally, and `crudini` takes
them for the name of an option. -/
structure Addressable (crudini : Crudini) (path : Str) (key : Key) :
    Prop where
  named : crudini.names path key
  path : Literal path
  sectionName : Literal key.sectionName
  option : Literal key.option

/-- Every shell takes the text for one word of a command line, or for none if
it is empty. -/
def Verbatim (text : Str) : Prop :=
  text = [] ∨ Literal text

end Hosts

section Reading

variable {remote : Remote} {crudini : Crudini} {path : Str} {key : Key}

theorem sudoWord_literal : Literal sudoWord := by
  decide

theorem crudiniWord_literal : Literal crudiniWord := by
  decide

theorem getMode_literal : Literal getMode := by
  decide

theorem setMode_literal : Literal setMode := by
  decide

theorem delMode_literal : Literal delMode := by
  decide

theorem Remote.HasShell.join_append (shell : remote.HasShell)
    {words : List Str} (literal : ∀ word ∈ words, Literal word) (last : Str) :
    remote.words (join ' ' (words ++ [last])) =
      (remote.words last).map (words ++ ·) := by
  induction words with
  | nil =>
      rw [List.nil_append, join_singleton]
      cases remote.words last <;> rfl
  | cons word words induction =>
      obtain ⟨first, rest⟩ := List.forall_mem_cons.mp literal
      obtain ⟨next, others, shape⟩ := List.exists_cons_of_ne_nil
        (show words ++ [last] ≠ [] by simp)
      rw [List.cons_append, shape, join_cons_cons, ← shape,
        shell.append first, induction rest, Option.map_map]
      rfl

/-- A command whose arguments are read as ones that `crudini` takes is run with
them. -/
theorem execute_of_reads (shell : remote.HasShell) {mode : Str}
    (literal : Literal mode) {value words : List Str} {otherPath : Str}
    {other : Key}
    (reads : remote.Reads crudini (arguments path key value) otherPath other
      words) :
    execute remote (crudiniCommand mode path key value) =
      remote.run (sudoLine (crudiniCommand mode path key value))
        (commandWords mode otherPath other words) := by
  have shape : sudoLine (crudiniCommand mode path key value) =
      sudoWord ++ ' ' :: (crudiniWord ++ ' ' :: (mode ++ ' ' ::
        join ' ' (arguments path key value))) := by
    simp only [sudoLine, crudiniCommand, arguments, List.cons_append,
      join_cons_cons]
  have line : remote.words (sudoLine (crudiniCommand mode path key value)) =
      some (commandWords mode otherPath other words) := by
    rw [shape, shell.append sudoWord_literal, shell.append crudiniWord_literal,
      shell.append literal, reads.line]
    rfl
  rw [execute, line]

theorem Addressable.literal (addressable : Addressable crudini path key) :
    ∀ word ∈ arguments path key [], Literal word := by
  simp [arguments, addressable.path, addressable.sectionName,
    addressable.option]

theorem Addressable.reads (addressable : Addressable crudini path key)
    (shell : remote.HasShell) :
    remote.Reads crudini (arguments path key []) path key [] where
  line := by
    apply shell.reads
    exact readLine_join (by simp [arguments]) addressable.literal
  named := addressable.named
  taken := by simp

theorem Addressable.reads_value (addressable : Addressable crudini path key)
    (shell : remote.HasShell) {value : Str} {words : List Str}
    (takes : remote.Takes crudini value words) :
    remote.Reads crudini (arguments path key [value]) path key words where
  line := by
    have split : arguments path key [value] =
        arguments path key [] ++ [value] := rfl
    rw [split, shell.join_append addressable.literal, takes.line]
    rfl
  named := addressable.named
  taken := takes.taken

/-- Of a text that every shell reads alike, `crudini` is given the value exactly
if the text is literal or empty. -/
theorem given_eq_some_iff_verbatim {value : ConfValue} {words : List Str}
    (reads : readLine value.text = some words) :
    given words = some value ↔ Verbatim value.text := by
  constructor
  · intro same
    match words with
    | [] =>
        rw [given_nil, Option.some.injEq] at same
        exact .inl (by rw [← same]; rfl)
    | [word] =>
        rw [given_singleton, Option.some.injEq] at same
        -- Neither reading nor stripping makes a text longer.
        have stripped : strip word = value.text := by rw [← same]; rfl
        have shorter := weight_le reads
        have sublist : value.text.Sublist word := by
          rw [← stripped]
          exact strip_sublist word
        have whole : value.text = word := by
          apply sublist.eq_of_length_le
          simp [weight, size, slack] at shorter
          omega
        have literal := (readLine_join_iff (List.cons_ne_nil word [])).mp (by
          rw [join_singleton, ← reads, whole])
        rw [whole]
        exact .inr (literal word (by simp))
    | _ :: _ :: _ => cases same
  · rintro (empty | literal)
    · rw [empty] at reads
      cases reads
      rw [Option.toList_none, given_nil, ← empty, ConfValue.ofText_text]
    · rw [readLine_literal literal] at reads
      cases reads
      rw [given_singleton, ConfValue.ofText_text]

/-- A text that every shell takes verbatim gives its value on every host. -/
theorem takes_of_verbatim (shell : remote.HasShell) {value : ConfValue}
    (verbatim : Verbatim value.text) (taken : crudini.takes value.text) :
    ∃ words, remote.Takes crudini value.text words ∧
      given words = some value := by
  rcases verbatim with empty | literal
  · refine ⟨[], ⟨?_, by simp⟩, ?_⟩
    · rw [empty]
      exact shell.reads rfl
    · rw [given_nil, ← empty, ConfValue.ofText_text]
  · refine ⟨[value.text], ⟨?_, ?_⟩, ?_⟩
    · exact shell.reads (readLine_literal literal)
    · exact List.forall_mem_singleton.mpr taken
    · rw [given_singleton, ConfValue.ofText_text]

end Reading

section Carried

variable {remote : Remote} {crudini : Crudini} {path otherPath : Str}
  {key other : Key} {words : List Str}

theorem notFound_infix_missingMessage (key : Key) :
    notFound <:+: missingMessage key :=
  ⟨"Parameter ".toList, ": ".toList ++ key.option, rfl⟩

theorem stderr_infix_text (failure : CommandFailure) :
    failure.stderr <:+: failure.text := by
  refine ⟨commandLabel ++ failure.command ++ exitStatusLabel ++
    str failure.exitStatus ++ stderrLabel, stdoutLabel ++ failure.stdout, ?_⟩
  simp only [CommandFailure.text, List.append_assoc]

theorem contains_missing (line : Str) (key : Key) :
    contains (CommandFailure.text ⟨line, 1, missingMessage key, []⟩)
      notFound = true := by
  rw [contains, decide_eq_true_eq]
  have inside := stderr_infix_text ⟨line, 1, missingMessage key, []⟩
  exact (notFound_infix_missingMessage key).trans inside

/-- Where `crudini` looks an option up, its value reads back as the file holds
it. -/
theorem getConfOpt_of_crudiniGet {execute : Str → Run Files Exn Str}
    {line : Str} (ran : execute (crudiniCommand getMode path key []) =
      crudiniGet line otherPath other) (files : Files) :
    getConfOpt execute path key files =
      (.ok ((files otherPath other).map ConfValue.text), files) := by
  cases held : files otherPath other with
  | none =>
      have failed := congrFun ran files
      simp only [crudiniGet, held] at failed
      rw [getConfOpt, Run.tryExcept_error (Run.bind_error failed)]
      simp only [CommandFailure.error, unlessNotFound, contains_missing,
        if_true]
      rfl
  | some value =>
      have printed := congrFun ran files
      simp only [crudiniGet, held] at printed
      have text : strip (value.text ++ ['\n']) = value.text := by
        rw [strip_append_space value.text (by decide), value.trimmed]
      apply Run.tryExcept_ok
      rw [Run.bind_ok printed, text]
      rfl

section Runs

variable (shell : remote.HasShell) (runs : remote.Runs crudini)

include shell runs

theorem getConfOpt_of_reads
    (reads : remote.Reads crudini (arguments path key []) otherPath other [])
    (files : Files) :
    getConfOpt (execute remote) path key files =
      (.ok ((files otherPath other).map ConfValue.text), files) := by
  apply getConfOpt_of_crudiniGet
  rw [execute_of_reads shell getMode_literal reads]
  exact runs.get reads.named _

/-- Surplus arguments make `get_conf_opt` return no value. -/
theorem getConfOpt_of_surplus
    (reads : remote.Reads crudini (arguments path key []) otherPath other
      words) (surplus : words ≠ []) {files reached : Files} {value : Str} :
    getConfOpt (execute remote) path key files ≠
      (.ok (some value), reached) := by
  intro ran
  rcases Run.tryExcept_ok_cases ran with returned | ⟨error, final, _, handled⟩
  · obtain ⟨output, final, executed, _⟩ := Run.exists_of_bind_ok returned
    rw [execute_of_reads shell getMode_literal reads] at executed
    have refused := runs.getSurplus reads.named reads.taken surplus
      (sudoLine (crudiniCommand getMode path key [])) files
    rw [executed] at refused
    cases refused
  · cases error with
    | sshExecCommandFailed text =>
        rw [unlessNotFound] at handled
        split at handled
        · cases handled
        · cases handled
    | _ => cases handled

theorem setConfOpt_of_reads {value : Str}
    (reads : remote.Reads crudini (arguments path key [value]) otherPath other
      words) {stored : ConfValue} (gives : given words = some stored)
    (files : Files) :
    setConfOpt (execute remote) path key (some value) files =
      (.ok ⟨⟩, write otherPath other (some stored) files) := by
  have ran : execute remote (setCommand path key (some value)) =
      crudiniWrite otherPath other (some stored) := by
    rw [setCommand, execute_of_reads shell setMode_literal reads]
    exact runs.set reads.named reads.taken gives _
  exact Run.bind_ok (congrFun ran files)

/-- A successful `set_conf_opt` has stored the value that its words give. -/
theorem setConfOpt_ok {value : Str}
    (reads : remote.Reads crudini (arguments path key [value]) otherPath other
      words) {files reached : Files} {result : PUnit}
    (ran : setConfOpt (execute remote) path key (some value) files =
      (.ok result, reached)) :
    ∃ stored, given words = some stored ∧
      reached = write otherPath other (some stored) files := by
  cases gives : given words with
  | some stored =>
      rw [setConfOpt_of_reads shell runs reads gives] at ran
      cases ran
      exact ⟨stored, rfl, rfl⟩
  | none =>
      obtain ⟨output, final, executed, _⟩ := Run.exists_of_bind_ok ran
      rw [setCommand, execute_of_reads shell setMode_literal reads] at executed
      have refused := runs.setSurplus reads.named reads.taken gives
        (sudoLine (crudiniCommand setMode path key [value])) files
      rw [executed] at refused
      cases refused

theorem setConfOpt_none
    (reads : remote.Reads crudini (arguments path key []) otherPath other [])
    (files : Files) :
    setConfOpt (execute remote) path key none files =
      (.ok ⟨⟩, write otherPath other none files) := by
  have ran : execute remote (setCommand path key none) =
      crudiniWrite otherPath other none := by
    rw [setCommand, execute_of_reads shell delMode_literal reads]
    exact runs.del reads.named _
  exact Run.bind_ok (congrFun ran files)

end Runs

end Carried

section Results

/-- Writing a value and reading it back returns the value, and no other option
changes. -/
def Survives (remote : Remote) (files : Files) (path : Str) (key : Key)
    (value : Str) : Prop :=
  ∃ reached,
    (do
      setConfOpt (execute remote) path key (some value)
      getConfOpt (execute remote) path key) files =
        (.ok (some value), reached) ∧
    ∀ otherPath other, (otherPath, other) ≠ (path, key) →
      reached otherPath other = files otherPath other

/-- Writing back what was read changes nothing. -/
def WritesBack (remote : Remote) (files : Files) (path : Str) (key : Key) :
    Prop :=
  (do
    let value ← getConfOpt (execute remote) path key
    setConfOpt (execute remote) path key value) files = (.ok ⟨⟩, files)

variable {remote : Remote} {crudini : Crudini} (shell : remote.HasShell)
  (runs : remote.Runs crudini) {path : Str} {key : Key} {value : ConfValue}
  {words : List Str}

include shell runs

theorem survives_of_reads
    (sets : remote.Reads crudini (arguments path key [value.text]) path key
      words)
    (gets : remote.Reads crudini (arguments path key []) path key [])
    (gives : given words = some value) (files : Files) :
    Survives remote files path key value.text := by
  have written := setConfOpt_of_reads shell runs sets gives files
  refine ⟨write path key (some value) files, ?_, ?_⟩
  · rw [Run.bind_ok written, getConfOpt_of_reads shell runs gets, write_same]
    rfl
  · intro otherPath other different
    exact write_other different _ files

/-- On empty files a value survives only if both commands name the option, and
the value is given to `crudini`. -/
theorem reads_of_survives {setPath getPath : Str} {setKey getKey : Key}
    {extra : List Str}
    (sets : remote.Reads crudini (arguments path key [value.text]) setPath
      setKey words)
    (gets : remote.Reads crudini (arguments path key []) getPath getKey extra)
    (survives : Survives remote (fun _ _ => none) path key value.text) :
    ((setPath, setKey) = (path, key) ∧ given words = some value) ∧
      (getPath, getKey) = (path, key) ∧ extra = [] := by
  obtain ⟨reached, ran, others⟩ := survives
  obtain ⟨_, written, set, get⟩ := Run.exists_of_bind_ok ran
  obtain ⟨stored, gives, rfl⟩ := setConfOpt_ok shell runs sets set
  have plain : extra = [] := by
    by_contra surplus
    exact getConfOpt_of_surplus shell runs gets surplus get
  subst plain
  rw [getConfOpt_of_reads shell runs gets, Prod.mk.injEq,
    Except.ok.injEq] at get
  obtain ⟨found, rfl⟩ := get
  have sameKey : (setPath, setKey) = (path, key) := by
    by_contra different
    have kept := others setPath setKey different
    rw [write_same] at kept
    cases kept
  cases sameKey
  have readKey : (getPath, getKey) = (path, key) := by
    by_contra different
    rw [write_other different] at found
    cases found
  cases readKey
  rw [write_same, Option.map_some, Option.some.injEq] at found
  have same : stored = value := ConfValue.ext found
  exact ⟨⟨rfl, same ▸ gives⟩, rfl, rfl⟩

theorem survives_iff_of_takes (addressable : Addressable crudini path key)
    (takes : remote.Takes crudini value.text words) (files : Files) :
    Survives remote files path key value.text ↔
      given words = some value := by
  have sets := addressable.reads_value shell takes
  have gets : remote.Reads crudini (arguments path key []) path key [] :=
    addressable.reads shell
  constructor
  · intro ⟨reached, ran, _⟩
    obtain ⟨_, written, set, get⟩ := Run.exists_of_bind_ok ran
    obtain ⟨stored, gives, rfl⟩ := setConfOpt_ok shell runs sets set
    rw [getConfOpt_of_reads shell runs gets, write_same, Option.map_some,
      Prod.mk.injEq, Except.ok.injEq, Option.some.injEq] at get
    rw [gives, ConfValue.ext get.1]
  · intro gives
    exact survives_of_reads shell runs sets gets gives files

theorem writesBack_iff_of_takes (addressable : Addressable crudini path key)
    (takes : remote.Takes crudini value.text words) {files : Files}
    (held : files path key = some value) :
    WritesBack remote files path key ↔ given words = some value := by
  have sets := addressable.reads_value shell takes
  have read : getConfOpt (execute remote) path key files =
      (.ok (some value.text), files) := by
    rw [getConfOpt_of_reads shell runs (addressable.reads shell), held]
    rfl
  rw [WritesBack, Run.bind_ok read]
  constructor
  · intro ran
    obtain ⟨stored, gives, same⟩ := setConfOpt_ok shell runs sets ran
    have unchanged := write_eq_self.mp same.symm
    rw [held, Option.some.injEq] at unchanged
    rw [gives, unchanged]
  · intro gives
    rw [setConfOpt_of_reads shell runs sets gives, write_eq_self.mpr held]

theorem writesBack_of_unset (addressable : Addressable crudini path key)
    {files : Files} (unset : files path key = none) :
    WritesBack remote files path key := by
  have gets : remote.Reads crudini (arguments path key []) path key [] :=
    addressable.reads shell
  have read : getConfOpt (execute remote) path key files =
      (.ok none, files) := by
    rw [getConfOpt_of_reads shell runs gets, unset]
    rfl
  rw [WritesBack, Run.bind_ok read, setConfOpt_none shell runs gets,
    write_eq_self.mpr unset]

end Results

/-- A value survives in all files of a host exactly if the words that its shell
makes of the two command lines name the option and give the value.  Where the
path and the names are literal, a value survives in a file, and is unharmed
when it is read and written back, exactly if the words made of it give it. -/
theorem confOpt_survives_iff {remote : Remote} {crudini : Crudini}
    (shell : remote.HasShell) (runs : remote.Runs crudini) (path : Str)
    (key : Key) (value : ConfValue) :
    (∀ {setPath getPath : Str} {setKey getKey : Key} {words extra : List Str},
      remote.Reads crudini (arguments path key [value.text]) setPath setKey
        words →
      remote.Reads crudini (arguments path key []) getPath getKey extra →
        ((∀ files, Survives remote files path key value.text) ↔
          ((setPath, setKey) = (path, key) ∧ given words = some value) ∧
            (getPath, getKey) = (path, key) ∧ extra = [])) ∧
    (Addressable crudini path key → ∀ files,
      (∀ words, remote.Takes crudini value.text words →
        (Survives remote files path key value.text ↔
          given words = some value) ∧
        (files path key = some value →
          (WritesBack remote files path key ↔ given words = some value))) ∧
      (files path key = none → WritesBack remote files path key)) ∧
    (∀ words, readLine value.text = some words →
      (given words = some value ↔ Verbatim value.text)) := by
  refine ⟨?_, ?_, ?_⟩
  · intro setPath getPath setKey getKey words extra sets gets
    constructor
    · intro survives
      exact reads_of_survives shell runs sets gets (survives fun _ _ => none)
    · rintro ⟨⟨sameKey, gives⟩, readKey, rfl⟩
      cases sameKey
      cases readKey
      exact survives_of_reads shell runs sets gets gives
  · intro addressable files
    refine ⟨?_, writesBack_of_unset shell runs addressable⟩
    intro words takes
    exact ⟨survives_iff_of_takes shell runs addressable takes files,
      writesBack_iff_of_takes shell runs addressable takes⟩
  · intro words reads
    exact given_eq_some_iff_verbatim reads

section Installed

/-- An argument that does not look like an option of the tool. -/
def isOperand (text : Str) : Bool :=
  !text.isEmpty && text.head? != some '-'

/-- A section name is written between brackets on a line of its own, and an
option name at the start of a line, before the first separator, where it does
not look like a section or a comment. -/
def isNamed (path : Str) (key : Key) : Bool :=
  isOperand path && isOperand key.sectionName && isOperand key.option &&
    decide (OneLine key.sectionName) && !key.sectionName.contains ']' &&
    decide (OneLine key.option) && strip key.option == key.option &&
    !("[#;".toList.any fun c => key.option.head? == some c) &&
    !key.option.contains '=' && !key.option.contains ':'

def isTaken (value : Str) : Bool :=
  value.head? != some '-' && decide (OneLine value)

/-- What an installed `crudini` takes at least. -/
def Crudini.installed : Crudini where
  names path key := isNamed path key = true
  takes value := isTaken value = true

def refuse {α : Type} : Run Files Exn α :=
  Run.raise (.other "refused".toList)

/-- A mode of `crudini` with arguments that it takes. -/
def crudiniMode (line mode path : Str) (key : Key) (words : List Str) :
    Run Files Exn Str :=
  if mode = setMode then
    match given words with
    | some value => crudiniWrite path key (some value)
    | none => refuse
  else if words ≠ [] then refuse
  else if mode = getMode then crudiniGet line path key
  else if mode = delMode then crudiniWrite path key none
  else refuse

/-- A host with `crudini` and nothing else. -/
def Remote.installed : Remote where
  words := readLine
  run line
    | program :: tool :: mode :: path :: sectionName :: option :: words =>
        if program = sudoWord ∧ tool = crudiniWord ∧
            isNamed path ⟨sectionName, option⟩ = true ∧
            words.all isTaken = true then
          crudiniMode line mode path ⟨sectionName, option⟩ words
        else refuse
    | _ => refuse
  interpret _ := refuse

theorem Remote.installed_hasShell : Remote.installed.HasShell where
  reads reads := reads
  append literal rest := readLine_literal_append literal rest

theorem run_installed {mode path : Str} {key : Key} {words : List Str}
    (named : Crudini.installed.names path key)
    (taken : ∀ word ∈ words, Crudini.installed.takes word) (line : Str) :
    Remote.installed.run line (commandWords mode path key words) =
      crudiniMode line mode path key words := by
  apply if_pos
  exact ⟨rfl, rfl, named, List.all_eq_true.mpr taken⟩

theorem Remote.installed_runs : Remote.installed.Runs .installed where
  get named line := by
    rw [run_installed named (by simp)]
    rfl
  set named taken gives line := by
    rw [run_installed named taken, crudiniMode, if_pos rfl, gives]
  del named line := by
    rw [run_installed named (by simp)]
    rfl
  getSurplus named taken surplus line files := by
    rw [run_installed named taken, crudiniMode, if_neg (by decide),
      if_pos surplus]
    rfl
  setSurplus named taken rejected line files := by
    rw [run_installed named taken, crudiniMode, if_pos rfl, rejected]
    rfl

def novaCpuConf : Str :=
  devstackNovaCompute.path

theorem sharedSet_addressable :
    Addressable .installed novaCpuConf cpuSharedSet where
  named := show isNamed novaCpuConf cpuSharedSet = true by decide
  path := by decide
  sectionName := by decide
  option := by decide

theorem confOpt_survives_range :
    Remote.installed.HasShell ∧ Remote.installed.Runs .installed ∧
      Addressable .installed novaCpuConf cpuSharedSet ∧
      Survives .installed (fun _ _ => none) novaCpuConf cpuSharedSet
        "0-3".toList := by
  refine ⟨Remote.installed_hasShell, Remote.installed_runs,
    sharedSet_addressable, ?_⟩
  have takes : Remote.installed.Takes .installed "0-3".toList
      ["0-3".toList] :=
    ⟨rfl, List.forall_mem_singleton.mpr
      (show isTaken "0-3".toList = true by decide)⟩
  exact (((confOpt_survives_iff Remote.installed_hasShell
    Remote.installed_runs novaCpuConf cpuSharedSet
      ⟨"0-3".toList, by decide⟩).2.1 sharedSet_addressable
        (fun _ _ => none)).1 _ takes).1.mpr rfl

/-- A list of CPUs with a blank is refused, and a quoted text in the file loses
its quotes when it is written back. -/
theorem confOpt_blank_and_quotes_lost :
    (setConfOpt (execute .installed) novaCpuConf cpuSharedSet
        (some "0-1, 4".toList) fun _ _ => none).1.isOk = false ∧
      (let files : Files := fun _ _ => some (.ofText "\"0-3\"".toList)
      ((do
        let value ← getConfOpt (execute .installed) novaCpuConf cpuSharedSet
        setConfOpt (execute .installed) novaCpuConf cpuSharedSet value)
          files).2 novaCpuConf cpuSharedSet =
            some (.ofText "0-3".toList)) :=
  ⟨rfl, rfl⟩

end Installed

/-- On values that every shell takes verbatim the command lines do what the
requests of a service manager stand for. -/
theorem confOpt_refines {plan : Plan} {session : Session} {remote : Remote}
    {crudini : Crudini} (shell : remote.HasShell) (runs : remote.Runs crudini)
    {files : Files} (manager : ServiceManager) {key : Key}
    (calm : plan session.log.length = none)
    (addressable : Addressable crudini manager.path key)
    (same : files manager.path = session.host.file) (value : Option ConfValue)
    (verbatim : ∀ text, value = some text →
      Verbatim text.text ∧ crudini.takes text.text) :
    (getConfOpt (execute remote) manager.path key files).1 =
        (manager.getConfOpt plan key session).1 ∧
      (setConfOpt (execute remote) manager.path key
          (value.map ConfValue.text) files).1 =
        (manager.setConfOpt plan ⟨key, value.map ConfValue.text⟩ session).1 ∧
      (setConfOpt (execute remote) manager.path key
          (value.map ConfValue.text) files).2 manager.path =
        (manager.setConfOpt plan ⟨key, value.map ConfValue.text⟩
          session).2.host.file := by
  have gets : remote.Reads crudini (arguments manager.path key [])
      manager.path key [] := addressable.reads shell
  have written : setConfOpt (execute remote) manager.path key
      (value.map ConfValue.text) files =
        (.ok ⟨⟩, write manager.path key value files) := by
    cases value with
    | none => exact setConfOpt_none shell runs gets files
    | some text =>
        obtain ⟨words, takes, gives⟩ := takes_of_verbatim shell
          (verbatim text rfl).1 (verbatim text rfl).2
        exact setConfOpt_of_reads shell runs
          (addressable.reads_value shell takes) gives files
  have stored : ConfOpt.stored ⟨key, value.map ConfValue.text⟩ = value := by
    cases value with
    | none => rfl
    | some text => simp [ConfOpt.stored]
  refine ⟨?_, ?_, ?_⟩
  · rw [getConfOpt_of_reads shell runs gets, getConfOpt_calm manager calm,
      same]
  · rw [written, setConfOpt_calm manager calm]
  · rw [written, setConfOpt_calm manager calm]
    simp [write, ConfOpt.write, stored, same]

end Whitebox.Services.CommandLine
