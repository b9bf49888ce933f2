import Mathlib.Data.List.Dedup
import Whitebox.Collection.Association
import Whitebox.Effect.Fallible
import Whitebox.Python.Text

/-!
# Reading values from sysfs

`get_sysfs_values` reads several files under `/sys` with one `grep` and takes
its output apart again.  The output has one line for every line of every file,
which names the file and repeats the line after a colon.

The loop over the output guards against a file with several lines by looking
for the full path among the keys of the result, which are relative paths.  The
guard therefore never stops the loop, and nothing looks for files without a
line.
-/

namespace Whitebox.Services

open Whitebox.Python
open Whitebox.Association
open Whitebox.Effect.Fallible

/-- The exceptions of the sysfs client.  The exit status is the one of the
remote command. -/
inductive SysfsExn where
  | sshExecCommandFailed (exitStatus : Nat)
  | valueError
  | exception (message : Str)
  | keyError (path : Str)
deriving DecidableEq

/-- The order in which Python runs through a set of texts. -/
structure SetOrder where
  listing : List Str → List Str
  nodup : ∀ items, (listing items).Nodup
  mem : ∀ items item, item ∈ listing items ↔ item ∈ items

/-- The order of the first mention from the end. -/
def SetOrder.dedup : SetOrder where
  listing := List.dedup
  nodup := List.nodup_dedup
  mem _ _ := List.mem_dedup

/-- A `dict` from relative paths to values. -/
abbrev SysfsValues := List (Str × Str)

/-- `'/sys/%s' % path`. -/
def sysPath (path : Str) : Str :=
  "/sys/".toList ++ path

def extraMessage (path : Str) : Str :=
  "Extra or multi-line value found in ".toList ++ path

def grepCommand (paths : List Str) : Str :=
  "grep -H \"\" ".toList ++ join ' ' paths

/-- One turn of the loop over the output. -/
def addLine (paths : List Str) (results : SysfsValues) (line : Str) :
    Except SysfsExn SysfsValues :=
  match splitOnce ':' line with
  | [path, value] =>
      if path ∈ results.map Prod.fst ∨ path ∉ paths then
        .error (.exception (extraMessage path))
      else .ok (assign (path.drop 5) (strip value) results)
  | _ => .error .valueError

section Client

variable (order : SetOrder) (execute : Str → Except SysfsExn Str)

/-- `get_sysfs_values`. -/
def getSysfsValues (paths : List Str) : Except SysfsExn SysfsValues := do
  let paths := order.listing (paths.map sysPath)
  let result ← execute (grepCommand paths)
  (split '\n' (strip result)).foldlM (addLine paths) []

/-- `get_sysfs_value`. -/
def getSysfsValue (path : Str) : Except SysfsExn Str := do
  let values ← getSysfsValues order execute [path]
  match values.lookup path with
  | some value => .ok value
  | none => .error (.keyError path)

end Client

section Grep

/-- A file as `grep` sees it. -/
structure TextFile where
  lines : List Str
  single : ∀ line ∈ lines, '\n' ∉ line

/-- The pairs of a path and a line that `grep` prints. -/
def printed (files : Str → TextFile) (paths : List Str) : List (Str × Str) :=
  paths.flatMap fun path => (files path).lines.map fun line => (path, line)

def printedLine (entry : Str × Str) : Str :=
  entry.1 ++ ':' :: entry.2

/-- `grep -H ""` on the files that a command names after its third blank.  It
exits with status 1 if there is no line to print. -/
def grep (files : Str → TextFile) (command : Str) : Except SysfsExn Str :=
  match printed files ((split ' ' command).drop 3) with
  | [] => .error (.sshExecCommandFailed 1)
  | entries => .ok ((entries.map printedLine).flatMap (· ++ ['\n']))

end Grep

/-- A non-empty request for relative paths without blanks. -/
structure Requested (paths : List Str) : Prop where
  nonempty : paths ≠ []
  relative : ∀ path ∈ paths, path.head? ≠ some '/'
  solid : ∀ path ∈ paths, ∀ c ∈ path, isSpace c = false

theorem solid_of_all {text : Str} (all : text.all (!isSpace ·) = true) :
    ∀ c ∈ text, isSpace c = false := by
  intro c inside
  exact (Bool.not_eq_true' _).mp (List.all_eq_true.mp all c inside)

theorem sysPath_prefix_solid :
    ∀ c ∈ "/sys/".toList, isSpace c = false :=
  solid_of_all (by decide)

theorem Requested.solid_listing {paths : List Str} (requested : Requested paths)
    (order : SetOrder) :
    ∀ path ∈ order.listing (paths.map sysPath),
      ∀ c ∈ path, isSpace c = false := by
  intro path member
  obtain ⟨short, inPaths, rfl⟩ :=
    List.mem_map.mp ((order.mem _ _).mp member)
  intro c inside
  rcases List.mem_append.mp inside with inPrefix | inPath
  · exact sysPath_prefix_solid c inPrefix
  · exact requested.solid short inPaths c inPath

theorem not_mem_of_solid {text : Str} (solid : ∀ c ∈ text, isSpace c = false)
    {c : Char} (space : isSpace c = true) : c ∉ text := by
  intro inside
  have kept := solid c inside
  rw [space] at kept
  cases kept

section Output

variable {files : Str → TextFile}

theorem split_grepCommand {paths : List Str} (nonempty : paths ≠ [])
    (solid : ∀ path ∈ paths, ∀ c ∈ path, isSpace c = false) :
    (split ' ' (grepCommand paths)).drop 3 = paths := by
  obtain ⟨first, rest, rfl⟩ := List.exists_cons_of_ne_nil nonempty
  have joined : split ' ' (join ' ' (first :: rest)) = first :: rest := by
    rw [split_join]
    have each : ∀ path ∈ first :: rest, split ' ' path = [path] :=
      fun path member => split_of_not_mem (not_mem_of_solid
        (solid path member) rfl)
    rw [List.flatMap_congr each, List.flatMap_singleton']
  have shape : grepCommand (first :: rest) =
      "grep".toList ++ ' ' :: ("-H".toList ++ ' ' :: ("\"\"".toList ++
        ' ' :: join ' ' (first :: rest))) := rfl
  rw [shape, split_append, split_append, split_append, joined]
  rfl

/-- An entry that can be told from its printed line: an absolute path without
blanks and colons, and a single line. -/
structure Separable (entry : Str × Str) : Prop where
  absolute : ∃ rest, entry.1 = '/' :: rest
  solid : ∀ c ∈ entry.1, isSpace c = false
  noColon : ':' ∉ entry.1
  single : '\n' ∉ entry.2

/-- A piece of the output gives the path of an entry and its line up to
blanks. -/
def Delivers (piece : Str) (entry : Str × Str) : Prop :=
  ∃ value, splitOnce ':' piece = [entry.1, value] ∧ strip value = strip entry.2

theorem Separable.delivers {entry : Str × Str} (separable : Separable entry) :
    Delivers (printedLine entry) entry :=
  ⟨entry.2, splitOnce_append separable.noColon entry.2, rfl⟩

/-- Stripping the output shortens its last line only. -/
theorem strip_output {entries : List (Str × Str)} {last : Str × Str}
    (separable : ∀ entry ∈ entries ++ [last], Separable entry) :
    strip (((entries ++ [last]).map printedLine).flatMap (· ++ ['\n'])) =
      join '\n' (entries.map printedLine ++
        [last.1 ++ ':' :: last.2.rdropWhile isSpace]) := by
  obtain ⟨first, others, shape⟩ := List.exists_cons_of_ne_nil
    (show (entries ++ [last]).map printedLine ≠ [] by simp)
  have starts : ∃ rest, join '\n' (entries.map printedLine ++ [last.1]) =
      '/' :: rest := by
    cases entries with
    | nil =>
        obtain ⟨rest, start⟩ := (separable last (by simp)).absolute
        exact ⟨rest, by rw [List.map_nil, List.nil_append, join_singleton,
          start]⟩
    | cons entry entries =>
        obtain ⟨rest, start⟩ := (separable entry (by simp)).absolute
        obtain ⟨next, later, tail⟩ := List.exists_cons_of_ne_nil
          (show entries.map printedLine ++ [last.1] ≠ [] by simp)
        refine ⟨rest ++ ':' :: entry.2 ++ '\n' :: join '\n' (next :: later), ?_⟩
        rw [List.map_cons, List.cons_append, tail, join_cons_cons, printedLine,
          start]
        simp
  obtain ⟨rest, start⟩ := starts
  rw [shape, flatMap_terminated, strip_append_space _ rfl, ← shape,
    List.map_append, List.map_singleton, printedLine, join_append_last,
    join_append_last, start]
  exact strip_cons_append_cons rfl rfl rest last.2

theorem not_mem_printedLine {entry : Str × Str}
    (solid : ∀ c ∈ entry.1, isSpace c = false) (single : '\n' ∉ entry.2) :
    '\n' ∉ printedLine entry := by
  rw [printedLine, List.mem_append, List.mem_cons]
  rintro (inPath | colon | inLine)
  · exact not_mem_of_solid solid rfl inPath
  · cases colon
  · exact single inLine

/-- The loop runs over one piece for every line that was printed. -/
theorem delivers_output {entries : List (Str × Str)} (nonempty : entries ≠ [])
    (separable : ∀ entry ∈ entries, Separable entry) :
    List.Forall₂ Delivers
      (split '\n' (strip ((entries.map printedLine).flatMap (· ++ ['\n']))))
      entries := by
  obtain ⟨entries, last, rfl⟩ :=
    (List.eq_nil_or_concat' entries).resolve_left nonempty
  have unsplit : ∀ piece ∈ entries.map printedLine ++
      [last.1 ++ ':' :: last.2.rdropWhile isSpace],
        split '\n' piece = [piece] := by
    intro piece member
    apply split_of_not_mem
    rcases List.mem_append.mp member with earlier | final
    · obtain ⟨entry, inEntries, rfl⟩ := List.mem_map.mp earlier
      have ofEntry := separable entry (List.mem_append_left [last] inEntries)
      exact not_mem_printedLine ofEntry.solid ofEntry.single
    · have ofLast := separable last (by simp)
      rw [List.mem_singleton.mp final]
      apply @not_mem_printedLine (last.1, last.2.rdropWhile isSpace)
        ofLast.solid
      intro inLine
      exact ofLast.single ((List.rdropWhile_prefix _ _).subset inLine)
  obtain ⟨first, others, shape⟩ := List.exists_cons_of_ne_nil
    (show entries.map printedLine ++
      [last.1 ++ ':' :: last.2.rdropWhile isSpace] ≠ [] by simp)
  rw [strip_output separable, shape, split_join, ← shape,
    List.flatMap_congr unsplit, List.flatMap_singleton']
  apply List.rel_append
  · rw [List.forall₂_map_left_iff, List.forall₂_same]
    intro entry member
    exact (separable entry (by simp [member])).delivers
  · exact .cons ⟨_, splitOnce_append (separable last (by simp)).noColon _,
      strip_rdropWhile _⟩ .nil

end Output

section Loop

variable {files : Str → TextFile}

/-- No key of the result has a colon, whatever the host answers. -/
theorem addLine_keys {paths : List Str} {results reached : SysfsValues}
    {line : Str} (noColon : ∀ key ∈ results.map Prod.fst, ':' ∉ key)
    (added : addLine paths results line = .ok reached) :
    ∀ key ∈ reached.map Prod.fst, ':' ∉ key := by
  by_cases colon : ':' ∈ line
  · obtain ⟨before, after, rfl, absent⟩ := exists_first_separator colon
    rw [addLine, splitOnce_append absent] at added
    simp only at added
    split at added
    · cases added
    · cases added
      intro key member
      rcases mem_keys_assign.mp member with rfl | earlier
      · exact fun inKey => absent (List.mem_of_mem_drop inKey)
      · exact noColon key earlier
  · rw [addLine, splitOnce_of_not_mem colon] at added
    cases added

theorem getSysfsValues_keys {order : SetOrder}
    {execute : Str → Except SysfsExn Str} {paths : List Str}
    {values : SysfsValues}
    (returned : getSysfsValues order execute paths = .ok values) :
    ∀ key ∈ values.map Prod.fst, ':' ∉ key := by
  obtain ⟨result, _, added⟩ := bind_eq_ok_iff.mp returned
  refine @foldlM_keeps _ _ _ _ _ _
    (fun results => ∀ key ∈ results.map Prod.fst, ':' ∉ key) _ ?_ (by simp)
    added
  intro before line after _ noColon turned
  exact addLine_keys noColon turned

/-- The entry of the result that a printed line leads to. -/
def assignment (entry : Str × Str) : Str × Str :=
  (entry.1.drop 5, strip entry.2)

theorem drop_sysPath (path : Str) : (sysPath path).drop 5 = path :=
  rfl

theorem sysPath_injective : Function.Injective sysPath :=
  fun _ _ same => List.append_cancel_left same

/-- The guard never stops the loop: the keys of the result are relative paths,
which a full path is not. -/
theorem foldlM_addLine {paths pieces : List Str} {entries : List (Str × Str)}
    {results : SysfsValues} (delivers : List.Forall₂ Delivers pieces entries)
    (known : ∀ entry ∈ entries, entry.1 ∈ paths)
    (relative : ∀ entry ∈ entries,
      ∃ path, path.head? ≠ some '/' ∧ entry.1 = sysPath path)
    (keys : ∀ key ∈ results.map Prod.fst, key.head? ≠ some '/') :
    pieces.foldlM (addLine paths) results =
      .ok (assignAll (entries.map assignment) results) := by
  induction delivers generalizing results with
  | nil => rfl
  | @cons piece entry pieces entries delivered rest induction =>
      obtain ⟨entryKnown, restKnown⟩ := List.forall_mem_cons.mp known
      obtain ⟨entryRelative, restRelative⟩ := List.forall_mem_cons.mp relative
      obtain ⟨path, isRelative, full⟩ := entryRelative
      obtain ⟨value, splits, sameValue⟩ := delivered
      have fresh : entry.1 ∉ results.map Prod.fst := by
        intro member
        apply keys entry.1 member
        rw [full]
        rfl
      have step : addLine paths results piece =
          .ok (assign (assignment entry).1 (assignment entry).2 results) := by
        simp only [addLine, splits, assignment, sameValue]
        rw [if_neg (by simp [fresh, entryKnown])]
      rw [List.foldlM_cons, step]
      apply induction restKnown restRelative
      intro key member
      rcases mem_keys_assign.mp member with rfl | earlier
      · rw [assignment, full]
        exact isRelative
      · exact keys key earlier

/-- The lines printed for one of the listed paths. -/
theorem filter_printed {paths : List Str} (distinct : paths.Nodup)
    (path : Str) :
    (printed files paths).filter (fun entry => path == entry.1) =
      if path ∈ paths then (files path).lines.map fun line => (path, line)
      else [] := by
  induction paths with
  | nil => rfl
  | cons first paths induction =>
      rw [List.nodup_cons] at distinct
      have split : printed files (first :: paths) =
          ((files first).lines.map fun line => (first, line)) ++
            printed files paths := rfl
      rw [split, List.filter_append, induction distinct.2, List.filter_map]
      by_cases same : path = first
      · subst same
        simp [Function.comp_def, distinct.1]
      · simp [Function.comp_def, same]

end Loop

section Answer

variable {order : SetOrder} {files : Str → TextFile} {paths : List Str}

/-- What `grep` prints for a request. -/
def answered (order : SetOrder) (files : Str → TextFile) (paths : List Str) :
    List (Str × Str) :=
  printed files (order.listing (paths.map sysPath))

theorem mem_answered {entry : Str × Str} :
    entry ∈ answered order files paths ↔
      ∃ path ∈ paths, entry.1 = sysPath path ∧
        entry.2 ∈ (files (sysPath path)).lines := by
  obtain ⟨full, line⟩ := entry
  simp only [answered, printed, List.mem_flatMap, order.mem, List.mem_map,
    Prod.mk.injEq]
  constructor
  · rintro ⟨_, ⟨path, inPaths, rfl⟩, _, inLines, rfl, rfl⟩
    exact ⟨path, inPaths, rfl, inLines⟩
  · rintro ⟨path, inPaths, rfl, inLines⟩
    exact ⟨_, ⟨path, inPaths, rfl⟩, line, inLines, rfl, rfl⟩

theorem answered_eq_nil_iff :
    answered order files paths = [] ↔
      ∀ path ∈ paths, (files (sysPath path)).lines = [] := by
  simp only [List.eq_nil_iff_forall_not_mem, mem_answered]
  constructor
  · intro none path inPaths line inLines
    exact none (sysPath path, line) ⟨path, inPaths, rfl, inLines⟩
  · rintro none entry ⟨path, inPaths, _, inLines⟩
    exact none path inPaths entry.2 inLines

theorem mem_listing {path : Str} (inPaths : path ∈ paths) :
    sysPath path ∈ order.listing (paths.map sysPath) :=
  (order.mem _ _).mpr (List.mem_map_of_mem inPaths)

theorem Requested.grep_eq (requested : Requested paths) :
    grep files (grepCommand (order.listing (paths.map sysPath))) =
      match answered order files paths with
      | [] => .error (.sshExecCommandFailed 1)
      | entries => .ok ((entries.map printedLine).flatMap (· ++ ['\n'])) := by
  have nonempty : order.listing (paths.map sysPath) ≠ [] := by
    obtain ⟨path, inPaths⟩ := List.exists_mem_of_ne_nil _ requested.nonempty
    exact List.ne_nil_of_mem (mem_listing inPaths)
  rw [grep, split_grepCommand nonempty (requested.solid_listing order),
    answered]

/-- A request for files without a line fails like `grep` does. -/
theorem getSysfsValues_of_empty (requested : Requested paths)
    (empty : ∀ path ∈ paths, (files (sysPath path)).lines = []) :
    getSysfsValues order (grep files) paths =
      .error (.sshExecCommandFailed 1) := by
  simp only [getSysfsValues, requested.grep_eq, answered_eq_nil_iff.mpr empty]
  rfl

theorem Requested.separable (requested : Requested paths)
    (noColon : ∀ path ∈ paths, ':' ∉ path) :
    ∀ entry ∈ answered order files paths, Separable entry := by
  intro entry member
  obtain ⟨path, inPaths, full, inLines⟩ := mem_answered.mp member
  have colonFree : ':' ∉ sysPath path := by
    intro inside
    rcases List.mem_append.mp inside with inPrefix | inPath
    · revert inPrefix
      decide
    · exact noColon path inPaths inPath
  refine ⟨⟨_, full⟩, ?_, ?_, ?_⟩
  · rw [full]
    exact requested.solid_listing order _ (mem_listing inPaths)
  · rw [full]
    exact colonFree
  · exact (files (sysPath path)).single entry.2 inLines

/-- A request returns as soon as one of the files has a line. -/
theorem getSysfsValues_of_nonempty (requested : Requested paths)
    (noColon : ∀ path ∈ paths, ':' ∉ path)
    (nonempty : answered order files paths ≠ []) :
    getSysfsValues order (grep files) paths =
      .ok (assignAll ((answered order files paths).map assignment) []) := by
  have known : ∀ entry ∈ answered order files paths,
      entry.1 ∈ order.listing (paths.map sysPath) := by
    intro entry member
    obtain ⟨path, inPaths, full, _⟩ := mem_answered.mp member
    rw [full]
    exact mem_listing inPaths
  have relative : ∀ entry ∈ answered order files paths,
      ∃ path, path.head? ≠ some '/' ∧ entry.1 = sysPath path := by
    intro entry member
    obtain ⟨path, inPaths, full, _⟩ := mem_answered.mp member
    exact ⟨path, requested.relative path inPaths, full⟩
  have delivers := delivers_output nonempty (requested.separable noColon)
  obtain ⟨first, rest, shape⟩ := List.exists_cons_of_ne_nil nonempty
  simp only [getSysfsValues, requested.grep_eq]
  rw [shape] at delivers ⊢
  rw [shape] at known relative
  exact foldlM_addLine delivers known relative (by simp)

/-- What the result holds is the last line of every file that has one. -/
theorem lookup_answered (key : Str) :
    (assignAll ((answered order files paths).map assignment) []).lookup key =
      if key ∈ paths then
        ((files (sysPath key)).lines.getLast?).map strip
      else none := by
  have sameKey : ∀ entry ∈ answered order files paths,
      (key == (assignment entry).1) = (sysPath key == entry.1) := by
    intro entry member
    obtain ⟨path, _, full, _⟩ := mem_answered.mp member
    rw [assignment, full, drop_sysPath, Bool.eq_iff_iff, beq_iff_eq,
      beq_iff_eq, sysPath_injective.eq_iff]
  have member_iff : sysPath key ∈ order.listing (paths.map sysPath) ↔
      key ∈ paths := by
    rw [order.mem, List.mem_map_of_injective sysPath_injective]
  rw [lookup_assignAll, List.lookup_nil, Option.or_none, List.filter_map,
    Function.comp_def, List.filter_congr sameKey, answered,
    filter_printed (order.nodup _)]
  simp only [member_iff]
  split
  · rw [List.getLast?_map, List.getLast?_map, Option.map_map, Option.map_map]
    rfl
  · rfl

end Answer

/-- The call returns the stripped line of every requested file and nothing
else. -/
def Decodes (order : SetOrder) (files : Str → TextFile) (paths : List Str) :
    Prop :=
  ∃ values, getSysfsValues order (grep files) paths = .ok values ∧
    ∀ key, values.lookup key =
      if key ∈ paths then ((files (sysPath key)).lines.head?).map strip
      else none

theorem decodes_of_single (order : SetOrder) {files : Str → TextFile}
    {paths : List Str} (requested : Requested paths)
    (noColon : ∀ path ∈ paths, ':' ∉ path)
    (single : ∀ path ∈ paths, (files (sysPath path)).lines.length = 1) :
    Decodes order files paths := by
  have nonempty : answered order files paths ≠ [] := by
    obtain ⟨path, inPaths⟩ := List.exists_mem_of_ne_nil _ requested.nonempty
    intro none
    have one := single path inPaths
    rw [answered_eq_nil_iff.mp none path inPaths] at one
    cases one
  refine ⟨_, getSysfsValues_of_nonempty requested noColon nonempty, ?_⟩
  intro key
  rw [lookup_answered]
  split
  · next inPaths =>
      obtain ⟨line, lines⟩ := List.length_eq_one_iff.mp (single key inPaths)
      rw [lines]
      rfl
  · rfl

/-- The call returns exactly when every file has one line, and then it maps
every requested path, and no other, to that line. -/
def Untruncated (order : SetOrder) (files : Str → TextFile)
    (paths : List Str) : Prop :=
  ((∃ values, getSysfsValues order (grep files) paths = .ok values) ↔
    ∀ path ∈ paths, (files (sysPath path)).lines.length = 1) ∧
  ∀ values, getSysfsValues order (grep files) paths = .ok values →
    ∀ key, values.lookup key =
      if key ∈ paths then ((files (sysPath key)).lines.head?).map strip
      else none

/-- `get_sysfs_values` is right about files with one line each and about files
with no line at all, and in no other case: as soon as one file has a line it
returns, with the last line of every file and without the files that have
none. -/
theorem getSysfsValues_untruncated_iff (order : SetOrder)
    (files : Str → TextFile) {paths : List Str} (requested : Requested paths)
    (noColon : ∀ path ∈ paths, ':' ∉ path) :
    Untruncated order files paths ↔
      (∀ path ∈ paths, (files (sysPath path)).lines.length = 1) ∨
        ∀ path ∈ paths, (files (sysPath path)).lines = [] := by
  by_cases empty : ∀ path ∈ paths, (files (sysPath path)).lines = []
  · have failed : ∀ values,
        getSysfsValues order (grep files) paths ≠ .ok values := by
      intro values returned
      rw [getSysfsValues_of_empty requested empty] at returned
      cases returned
    obtain ⟨path, inPaths⟩ := List.exists_mem_of_ne_nil _ requested.nonempty
    refine iff_of_true ⟨iff_of_false ?_ ?_, ?_⟩ (.inr empty)
    · rintro ⟨values, returned⟩
      exact failed values returned
    · intro each
      have one := each path inPaths
      rw [empty path inPaths] at one
      cases one
    · intro values returned
      exact absurd returned (failed values)
  · constructor
    · intro untruncated
      have returned : getSysfsValues order (grep files) paths =
          .ok (assignAll ((answered order files paths).map assignment) []) :=
        getSysfsValues_of_nonempty requested noColon
          (mt answered_eq_nil_iff.mp empty)
      exact .inl (untruncated.1.mp ⟨_, returned⟩)
    · rintro (each | none)
      · obtain ⟨values, returned, decoded⟩ :=
          decodes_of_single order requested noColon each
        refine ⟨iff_of_true ⟨values, returned⟩ each, ?_⟩
        intro others sameResult
        rw [returned] at sameResult
        cases sameResult
        exact decoded
      · exact absurd none empty

/-- `get_sysfs_value` returns the last line of its file. -/
theorem getSysfsValue_eq (order : SetOrder) {files : Str → TextFile}
    {path line : Str} (requested : Requested [path]) (noColon : ':' ∉ path)
    (last : (files (sysPath path)).lines.getLast? = some line) :
    getSysfsValue order (grep files) path = .ok (strip line) := by
  have nonempty : answered order files [path] ≠ [] := by
    intro none
    rw [answered_eq_nil_iff.mp none path (by simp)] at last
    cases last
  have returned : getSysfsValues order (grep files) [path] =
      .ok (assignAll ((answered order files [path]).map assignment) []) :=
    getSysfsValues_of_nonempty requested (by simpa using noColon) nonempty
  have found := @lookup_answered order files [path] path
  rw [if_pos (by simp), last, Option.map_some] at found
  simp only [getSysfsValue, returned, bind, Except.bind, found]

def onlineCpus : Str := "devices/system/cpu/online".toList

def offlineCpus : Str := "devices/system/cpu/offline".toList

theorem cpuFiles_requested : Requested [onlineCpus, offlineCpus] where
  nonempty := by simp
  relative := by decide
  solid := by
    rw [List.forall_mem_cons, List.forall_mem_singleton]
    exact ⟨solid_of_all (by decide), solid_of_all (by decide)⟩

/-- Every file holds one and the same line. -/
def sameLine (line : Str) (single : '\n' ∉ line) : Str → TextFile :=
  fun _ => ⟨[line], by simpa using single⟩

/-- Only the file of the online CPUs has a line. -/
def onlyOnline (path : Str) : TextFile :=
  if path = sysPath onlineCpus then ⟨["0-3".toList], by decide⟩
  else ⟨[], by simp⟩

theorem getSysfsValues_untruncated_online :
    Untruncated .dedup (sameLine "0-3".toList (by decide))
      [onlineCpus, offlineCpus] :=
  (getSysfsValues_untruncated_iff .dedup _ cpuFiles_requested
    (by decide)).mpr (.inl (by simp [sameLine]))

/-- Of two lines the first is lost, and so is a requested file without a
line. -/
theorem getSysfsValues_truncates :
    getSysfsValues .dedup
        (grep fun _ => ⟨["0-1".toList, "2-3".toList], by decide⟩)
        [onlineCpus] = .ok [(onlineCpus, "2-3".toList)] ∧
      getSysfsValues .dedup (grep onlyOnline) [onlineCpus, offlineCpus] =
        .ok [(onlineCpus, "0-3".toList)] :=
  ⟨rfl, rfl⟩

/-- Where every file has one line, the output is decoded exactly when no path
has a colon: what stands before the first colon of a line is taken for the
path. -/
theorem getSysfsValues_decodes_iff (order : SetOrder)
    (files : Str → TextFile) {paths : List Str} (requested : Requested paths)
    (single : ∀ path ∈ paths, (files (sysPath path)).lines.length = 1) :
    Decodes order files paths ↔ ∀ path ∈ paths, ':' ∉ path := by
  constructor
  · rintro ⟨values, returned, decoded⟩ path inPaths
    apply getSysfsValues_keys returned
    have found := decoded path
    obtain ⟨line, lines⟩ := List.length_eq_one_iff.mp (single path inPaths)
    rw [if_pos inPaths, lines] at found
    by_contra absent
    rw [lookup_eq_none_iff_keys.mpr absent] at found
    cases found
  · intro noColon
    exact decodes_of_single order requested noColon single

theorem getSysfsValues_decodes_online :
    Decodes .dedup (sameLine "0-3".toList (by decide))
      [onlineCpus, offlineCpus] :=
  (getSysfsValues_decodes_iff .dedup _ cpuFiles_requested
    (by simp [sameLine])).mpr (by decide)

/-- The vendor of a PCI device cannot be read. -/
theorem getSysfsValues_pci_raises :
    getSysfsValues .dedup (grep (sameLine "0x8086".toList (by decide)))
        ["bus/pci/devices/0000:00:02.0/vendor".toList] =
      .error (.exception (extraMessage "/sys/bus/pci/devices/0000".toList)) :=
  rfl

end Whitebox.Services
