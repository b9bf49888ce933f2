import Whitebox.Collection.Association
import Whitebox.Effect.Fallible
import Whitebox.Python.Text

/-!
# Block devices of a server

`get_server_blockdevice_path` looks for the name of a device in the lines of
`virsh domblklist` and returns the second field of the last line in which it
occurs.  A name can occur in the source of another device and in the name of
another device, and a name of dashes occurs in the line below the header.
-/

namespace Whitebox.Compute

open Whitebox.Python
open Whitebox.Association
open Whitebox.Effect.Fallible

inductive BlockDeviceExn where
  /-- The number of fields that could not be unpacked into two. -/
  | valueError (fields : Nat)
deriving DecidableEq

/-- One turn of the loop over the lines, with the source found so far. -/
def readLine (deviceName : Str) (source : Option Str) (line : Str) :
    Except BlockDeviceExn (Option Str) :=
  if contains line deviceName then
    match words line with
    | [_, source] => .ok (some source)
    | fields => .error (.valueError fields.length)
  else
    .ok source

/-- `get_server_blockdevice_path`, with what `virsh domblklist` prints for a
server. -/
def getServerBlockdevicePath (domblklist : Str → Str)
    (serverId deviceName : Str) : Except BlockDeviceExn (Option Str) :=
  (splitlines (domblklist serverId)).foldlM (readLine deviceName) none

/-- A line with two fields. -/
structure BlockRow where
  line : Str
  target : Str
  source : Str
  fields : words line = [target, source]
  oneLine : OneLine line

/-- The devices of a server as `virsh domblklist` prints them. -/
structure Blklist where
  header : Str
  headerLine : OneLine header
  dashes : Nat
  rows : List BlockRow
  distinct : (rows.map BlockRow.target).Nodup

namespace Blklist

def dashedLine (blklist : Blklist) : Str :=
  List.replicate blklist.dashes '-'

def lines (blklist : Blklist) : List Str :=
  blklist.header :: blklist.dashedLine :: blklist.rows.map BlockRow.line

def text (blklist : Blklist) : Str :=
  blklist.lines.flatMap (· ++ ['\n'])

/-- The source of the device with the name. -/
def sourceOf (blklist : Blklist) (deviceName : Str) : Option Str :=
  (blklist.rows.map fun row => (row.target, row.source)).lookup deviceName

end Blklist

/-- The name occurs in a field of the row. -/
def BlockRow.Mentions (row : BlockRow) (deviceName : Str) : Prop :=
  deviceName <:+: row.target ∨ deviceName <:+: row.source

instance (row : BlockRow) (deviceName : Str) :
    Decidable (row.Mentions deviceName) :=
  inferInstanceAs (Decidable (_ ∨ _))

/-- The last row in which the name occurs. -/
def lastMention (rows : List BlockRow) (deviceName : Str) : Option BlockRow :=
  (rows.filter fun row => row.Mentions deviceName).getLast?

section Lines

variable {deviceName : Str}

theorem readLine_of_absent {line : Str} (absent : ¬ deviceName <:+: line)
    (source : Option Str) : readLine deviceName source line = .ok source := by
  rw [readLine, if_neg]
  simpa [contains] using absent

theorem readLine_row (nonempty : deviceName ≠ [])
    (solid : ∀ c ∈ deviceName, isSpace c = false) (row : BlockRow)
    (source : Option Str) :
    readLine deviceName source row.line =
      .ok (if row.Mentions deviceName then some row.source else source) := by
  have found : deviceName <:+: row.line ↔ row.Mentions deviceName := by
    rw [infix_iff_exists_word nonempty solid, row.fields]
    simp [BlockRow.Mentions]
  by_cases mentions : row.Mentions deviceName
  · rw [readLine, if_pos (by simpa [contains] using found.mpr mentions),
      row.fields, if_pos mentions]
  · rw [readLine_of_absent (fun inLine => mentions (found.mp inLine)),
      if_neg mentions]

/-- The source of the last row that mentions the name is left over. -/
theorem foldlM_readLine_rows (nonempty : deviceName ≠ [])
    (solid : ∀ c ∈ deviceName, isSpace c = false) (rows : List BlockRow)
    (source : Option Str) :
    (rows.map BlockRow.line).foldlM (readLine deviceName) source =
      .ok (((lastMention rows deviceName).map BlockRow.source).or source) := by
  induction rows generalizing source with
  | nil => rfl
  | cons row rows induction =>
      rw [List.map_cons, List.foldlM_cons, readLine_row nonempty solid]
      change List.foldlM _ _ _ = _
      rw [induction]
      unfold lastMention
      by_cases mentions : row.Mentions deviceName
      · rw [if_pos mentions, List.filter_cons_of_pos (by simpa using mentions),
          List.getLast?_cons]
        cases (rows.filter fun row => row.Mentions deviceName).getLast? <;> rfl
      · rw [if_neg mentions, List.filter_cons_of_neg (by simpa using mentions)]

theorem readLine_dashes {dashes : Nat} (nonempty : deviceName ≠ [])
    (dashed : deviceName <:+: List.replicate dashes '-') (source : Option Str) :
    readLine deviceName source (List.replicate dashes '-') =
      .error (.valueError 1) := by
  have someDash : List.replicate dashes '-' ≠ [] := by
    intro empty
    rw [empty, List.infix_nil] at dashed
    exact nonempty dashed
  have solid : ∀ c ∈ List.replicate dashes '-', isSpace c = false := by
    intro c member
    rw [List.eq_of_mem_replicate member]
    rfl
  rw [readLine, if_pos (by simpa [contains] using dashed),
    words_of_solid someDash solid]
  rfl

end Lines

section Lookup

variable {blklist : Blklist} {deviceName : Str}

theorem Blklist.splitlines_text (blklist : Blklist) :
    splitlines blklist.text = blklist.lines := by
  apply splitlines_flatMap_terminated
  intro line member
  rcases List.mem_cons.mp member with rfl | later
  · exact blklist.headerLine
  rcases List.mem_cons.mp later with rfl | inRows
  · intro c inDashes
    rw [List.eq_of_mem_replicate inDashes]
    rfl
  · obtain ⟨row, _, rfl⟩ := List.mem_map.mp inRows
    exact row.oneLine

/-- What the loop over the lines comes to. -/
theorem foldlM_readLine_lines (nonempty : deviceName ≠ [])
    (solid : ∀ c ∈ deviceName, isSpace c = false)
    (notHeader : ¬ deviceName <:+: blklist.header) :
    blklist.lines.foldlM (readLine deviceName) none =
      if deviceName <:+: blklist.dashedLine then .error (.valueError 1)
      else .ok ((lastMention blklist.rows deviceName).map BlockRow.source) := by
  rw [Blklist.lines, List.foldlM_cons, readLine_of_absent notHeader]
  change List.foldlM _ _ _ = _
  rw [List.foldlM_cons]
  by_cases dashed : deviceName <:+: blklist.dashedLine
  · rw [if_pos dashed, Blklist.dashedLine, readLine_dashes nonempty dashed]
    rfl
  · rw [if_neg dashed, readLine_of_absent dashed]
    change List.foldlM _ _ _ = _
    rw [foldlM_readLine_rows nonempty solid, Option.or_none]

theorem sourceOf_eq_some_iff {source : Str} :
    blklist.sourceOf deviceName = some source ↔
      ∃ row ∈ blklist.rows, row.target = deviceName ∧ row.source = source := by
  have distinct : ((blklist.rows.map fun row =>
      (row.target, row.source)).map Prod.fst).Nodup := by
    rw [List.map_map]
    exact blklist.distinct
  rw [Blklist.sourceOf, lookup_eq_some_iff distinct]
  simp

theorem lastMention_eq_none_iff {rows : List BlockRow} :
    lastMention rows deviceName = none ↔
      ∀ row ∈ rows, ¬ row.Mentions deviceName := by
  simp [lastMention]

/-- The last mention gives the source of the device exactly if the device is
there and has this source. -/
theorem lastMention_source_iff :
    (lastMention blklist.rows deviceName).map BlockRow.source =
        blklist.sourceOf deviceName ↔
      ∀ last, lastMention blklist.rows deviceName = some last →
        ∃ row ∈ blklist.rows,
          row.target = deviceName ∧ row.source = last.source := by
  cases mentioned : lastMention blklist.rows deviceName with
  | some last =>
      rw [Option.map_some, eq_comm, sourceOf_eq_some_iff]
      constructor
      · intro found other same
        cases same
        exact found
      · intro found
        exact found last rfl
  | none =>
      have absent := lastMention_eq_none_iff.mp mentioned
      refine iff_of_true ?_ (fun last same => by cases same)
      rw [Option.map_none, eq_comm, Option.eq_none_iff_forall_ne_some]
      intro source found
      obtain ⟨row, member, rfl, _⟩ := sourceOf_eq_some_iff.mp found
      exact absent row member (.inl (List.infix_refl _))

end Lookup

/-- The device is looked up by its target exactly if its name is no part of the
dashed line, and the last row in which the name occurs, if there is one, has
the source of the device. -/
theorem getServerBlockdevicePath_looks_up_iff (blklist : Blklist)
    (domblklist : Str → Str) (serverId deviceName : Str)
    (answers : domblklist serverId = blklist.text)
    (nonempty : deviceName ≠ [])
    (solid : ∀ c ∈ deviceName, isSpace c = false)
    (notHeader : ¬ deviceName <:+: blklist.header) :
    getServerBlockdevicePath domblklist serverId deviceName =
        .ok (blklist.sourceOf deviceName) ↔
      ¬ deviceName <:+: blklist.dashedLine ∧
        ∀ last, lastMention blklist.rows deviceName = some last →
          ∃ row ∈ blklist.rows,
            row.target = deviceName ∧ row.source = last.source := by
  rw [getServerBlockdevicePath, answers, blklist.splitlines_text,
    foldlM_readLine_lines nonempty solid notHeader, ← lastMention_source_iff]
  by_cases dashed : deviceName <:+: blklist.dashedLine
  · rw [if_pos dashed]
    refine iff_of_false ?_ fun both => both.1 dashed
    intro returned
    cases returned
  · rw [if_neg dashed, and_iff_right dashed]
    constructor
    · intro returned
      exact Except.ok.inj returned
    · intro same
      rw [same]

/-- Two disks, and the name of the first is part of the second one's source. -/
def overlay : Blklist where
  header := " Target   Source".toList
  headerLine := by decide
  dashes := 40
  rows :=
    [⟨" vda      /images/base".toList, "vda".toList, "/images/base".toList,
        by decide, by decide⟩,
      ⟨" vdb      /images/vda.overlay".toList, "vdb".toList,
        "/images/vda.overlay".toList, by decide, by decide⟩]
  distinct := by decide

theorem getServerBlockdevicePath_overlay_vdb :
    getServerBlockdevicePath (fun _ => overlay.text) "server".toList
        "vdb".toList = .ok (overlay.sourceOf "vdb".toList) ∧
      overlay.sourceOf "vdb".toList = some "/images/vda.overlay".toList := by
  have noSpace : "vdb".toList.all (fun c => !isSpace c) = true := by
    decide
  have solid : ∀ c ∈ "vdb".toList, isSpace c = false := by
    intro c member
    simpa using List.all_eq_true.mp noSpace c member
  refine ⟨?_, by decide⟩
  apply (getServerBlockdevicePath_looks_up_iff overlay (fun _ => overlay.text)
    "server".toList "vdb".toList rfl (by decide) solid (by decide)).mpr
  refine ⟨by decide, ?_⟩
  intro last mentioned
  have isSecond : lastMention overlay.rows "vdb".toList =
      overlay.rows[1]? := by
    rfl
  rw [isSecond] at mentioned
  exact ⟨last, List.mem_of_getElem? mentioned, by cases mentioned; rfl, rfl⟩

/-- The path of the first disk is looked up and the one of the second is
returned. -/
theorem getServerBlockdevicePath_overlay_vda :
    getServerBlockdevicePath (fun _ => overlay.text) "server".toList
        "vda".toList = .ok (some "/images/vda.overlay".toList) ∧
      overlay.sourceOf "vda".toList = some "/images/base".toList ∧
      ¬ "vda".toList <:+: overlay.header := by
  decide

end Whitebox.Compute
