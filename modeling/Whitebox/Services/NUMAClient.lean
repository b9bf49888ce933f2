import Mathlib.Algebra.GroupWithZero.Nat
import Whitebox.Collection.Association
import Whitebox.Effect.Fallible
import Whitebox.Python.Int

/-!
# The NUMA nodes of a host and their hugepages

`get_host_topology` reads the NUMA nodes of a host from `numactl -H`, and
`get_hugepages` reads the numbers of total and free pages of each node from its
`meminfo`.

The local variables for the two numbers live across the turns of the loop over
the nodes.  A node whose text does not have a line for one of them therefore
gets the number of the node before it.
-/

namespace Whitebox.Services

open Whitebox.Python
open Whitebox.Association
open Whitebox.Effect.Fallible

inductive NumaExn where
  | valueError
  | indexError
  | unboundLocalError (name : Str)
  | commandFailed (text : Str)
deriving DecidableEq

/-- A `dict` from NUMA nodes to their CPUs. -/
abbrev Topology := List (Int × List Int)

def numactlCommand : Str := "sudo numactl -H".toList

def procMeminfoCommand : Str := "cat /proc/meminfo".toList

def nodeDirectory : Str := "cat /sys/devices/system/node/node".toList

def meminfoFile : Str := "/meminfo".toList

/-- `'cat /sys/devices/system/node/node%d/meminfo' % node`. -/
def meminfoCommand (node : Int) : Str :=
  nodeDirectory ++ (str node ++ meminfoFile)

/-- `int(text)`. -/
def parseInt (text : Str) : Except NumaExn Int :=
  match int text with
  | some number => .ok number
  | none => .error .valueError

/-- `items[index]`. -/
def item (index : Nat) (items : List Str) : Except NumaExn Str :=
  match items[index]? with
  | some found => .ok found
  | none => .error .indexError

/-- One turn of the loop over the output of `numactl`. -/
def addNode (nodes : Topology) (line : Str) : Except NumaExn Topology :=
  if contains line "node".toList && contains line "cpus".toList then do
    let field ← item 1 (split ':' line)
    let cpus ← (words field).mapM parseInt
    let name ← item 1 (words line)
    let node ← parseInt name
    .ok (assign node cpus nodes)
  else .ok nodes

/-- The loop over the output of `numactl`. -/
def parseTopology (numactl : Str) : Except NumaExn Topology :=
  (readlines numactl).foldlM addNode []

theorem addNode_nodup {nodes next : Topology} {line : Str}
    (distinct : (nodes.map Prod.fst).Nodup)
    (added : addNode nodes line = .ok next) : (next.map Prod.fst).Nodup := by
  unfold addNode at added
  split at added
  · obtain ⟨field, _, added⟩ := bind_eq_ok_iff.mp added
    obtain ⟨cpus, _, added⟩ := bind_eq_ok_iff.mp added
    obtain ⟨name, _, added⟩ := bind_eq_ok_iff.mp added
    obtain ⟨node, _, added⟩ := bind_eq_ok_iff.mp added
    cases added
    exact nodup_keys_assign distinct
  · cases added
    exact distinct

/-- A node is listed once. -/
theorem parseTopology_nodup {numactl : Str} {nodes : Topology}
    (parsed : parseTopology numactl = .ok nodes) :
    (nodes.map Prod.fst).Nodup := by
  refine @foldlM_keeps _ _ _ _ _ _ (fun nodes => (nodes.map Prod.fst).Nodup)
    _ ?_ List.nodup_nil parsed
  intro nodes line next _ distinct added
  exact addNode_nodup distinct added

/-- The two numbers that are read for a node. -/
inductive PageField where
  | total
  | free
deriving DecidableEq

def PageField.name : PageField → Str
  | .total => "total".toList
  | .free => "free".toList

def PageField.label : PageField → Str
  | .total => "HugePages_Total".toList
  | .free => "HugePages_Free".toList

/-- The local variables of the loop, without a value while they are unbound. -/
abbrev PageLocals := PageField → Option Int

def unbound : PageLocals := fun _ => none

/-- The entry of a node. -/
structure NodePages where
  total : Int
  free : Int
deriving DecidableEq

def NodePages.get (pages : NodePages) : PageField → Int
  | .total => pages.total
  | .free => pages.free

theorem NodePages.eq_of_get {left right : NodePages}
    (same : ∀ field, left.get field = right.get field) : left = right := by
  obtain ⟨total, free⟩ := left
  obtain ⟨otherTotal, otherFree⟩ := right
  cases same .total
  cases same .free
  rfl

abbrev HostPages := List (Int × NodePages)

/-- `int(line.split(':')[1].lstrip())`. -/
def pageCount (line : Str) : Except NumaExn Int := do
  let text ← item 1 (split ':' line)
  parseInt (lstrip text)

/-- One `if` in the loop over the lines. -/
def readField (field : PageField) (line : Str) (locals : PageLocals) :
    Except NumaExn PageLocals :=
  if contains line field.label then do
    let value ← pageCount line
    .ok (Function.update locals field (some value))
  else .ok locals

def readFields (locals : PageLocals) (line : Str) :
    Except NumaExn PageLocals := do
  let locals ← readField .total line locals
  readField .free line locals

/-- The loop over the lines of one `meminfo`. -/
def readMeminfo (meminfo : Str) (locals : PageLocals) :
    Except NumaExn PageLocals :=
  (readlines meminfo).foldlM readFields locals

/-- The value of a local variable. -/
def bound (locals : PageLocals) (field : PageField) : Except NumaExn Int :=
  match locals field with
  | some value => .ok value
  | none => .error (.unboundLocalError field.name)

/-- `{'total': total, 'free': free}`. -/
def nodePages (locals : PageLocals) : Except NumaExn NodePages := do
  let total ← bound locals .total
  let free ← bound locals .free
  .ok ⟨total, free⟩

namespace NUMAClient

variable (execute : Str → Except NumaExn Str)

/-- `get_host_topology`. -/
def getHostTopology : Except NumaExn Topology := do
  let numactl ← execute numactlCommand
  parseTopology numactl

/-- `get_num_cpus`. -/
def getNumCpus : Except NumaExn Nat := do
  let nodes ← getHostTopology execute
  .ok (nodes.map fun node => node.2.length).sum

/-- `get_pagesize`, which returns `None` if no line has the size. -/
def getPagesize : Except NumaExn (Option Int) := do
  let meminfo ← execute procMeminfoCommand
  match (readlines meminfo).find? ("Hugepagesize".toList.isPrefixOf ·) with
  | none => .ok none
  | some line => do
      let field ← item 1 (split ':' line)
      let size ← item 0 (words field)
      let pagesize ← parseInt size
      .ok (some pagesize)

/-- One turn of the loop over the nodes. -/
def addPages (reached : PageLocals × HostPages) (node : Int) :
    Except NumaExn (PageLocals × HostPages) := do
  let meminfo ← execute (meminfoCommand node)
  let locals ← readMeminfo meminfo reached.1
  let pages ← nodePages locals
  .ok (locals, assign node pages reached.2)

/-- `get_hugepages`. -/
def getHugepages : Except NumaExn HostPages := do
  let nodes ← getHostTopology execute
  let reached ← (nodes.map Prod.fst).foldlM (addPages execute)
    (unbound, [])
  .ok reached.2

/-- There is no page size exactly if no line starts with its name. -/
theorem getPagesize_eq_none_iff {execute : Str → Except NumaExn Str}
    {meminfo : Str} (answered : execute procMeminfoCommand = .ok meminfo) :
    getPagesize execute = .ok none ↔
      ∀ line ∈ readlines meminfo, ¬ "Hugepagesize".toList <+: line := by
  rw [getPagesize, bind_eq_ok_iff]
  simp only [answered, Except.ok.injEq, exists_eq_left']
  cases found : (readlines meminfo).find?
      ("Hugepagesize".toList.isPrefixOf ·) with
  | none =>
      rw [List.find?_eq_none] at found
      simp only [List.isPrefixOf_iff_prefix] at found
      exact iff_of_true rfl found
  | some line =>
      have member := List.mem_of_find?_eq_some found
      have starts := List.isPrefixOf_iff_prefix.mp (List.find?_some found)
      simp only [bind_eq_ok_iff, Except.ok.injEq, reduceCtorEq, and_false,
        exists_false, false_iff]
      intro absent
      exact absent line member starts

end NUMAClient

section Meminfo

/-- The variables after a text whose own values are given. -/
def PageLocals.over (own reached : PageLocals) : PageLocals :=
  fun field => (own field).or (reached field)

theorem PageLocals.over_unbound (own : PageLocals) :
    own.over unbound = own := by
  funext field
  exact Option.or_none

theorem PageLocals.over_assoc (last own reached : PageLocals) :
    (last.over own).over reached = last.over (own.over reached) := by
  funext field
  exact Option.or_assoc

theorem PageLocals.update_over (field : PageField) (value : Int)
    (locals : PageLocals) :
    Function.update locals field (some value) =
      PageLocals.over (Function.update unbound field (some value)) locals := by
  funext other
  by_cases same : other = field
  · subst same
    simp [PageLocals.over]
  · simp [PageLocals.over, Function.update_of_ne same, unbound]

/-- The variables that a reader does not set keep their values, and they do not
affect what it does. -/
def Overwrites (read : PageLocals → Except NumaExn PageLocals) : Prop :=
  ∀ locals, read locals = (read unbound).map (·.over locals)

theorem overwrites_ok : Overwrites .ok := by
  intro locals
  rfl

theorem Overwrites.andThen {first next : PageLocals → Except NumaExn PageLocals}
    (firstOverwrites : Overwrites first) (nextOverwrites : Overwrites next) :
    Overwrites fun locals => first locals >>= next := by
  intro locals
  change first locals >>= next =
    (first unbound >>= next).map (·.over locals)
  rw [firstOverwrites locals]
  cases first unbound with
  | error error => rfl
  | ok own =>
      change next (own.over locals) = (next own).map (·.over locals)
      rw [nextOverwrites (own.over locals), nextOverwrites own]
      cases next unbound with
      | error error => rfl
      | ok last => exact congrArg Except.ok (last.over_assoc own locals).symm

theorem readField_overwrites (field : PageField) (line : Str) :
    Overwrites (readField field line) := by
  intro locals
  unfold readField
  split
  · cases pageCount line with
    | error error => rfl
    | ok value =>
        exact congrArg Except.ok (PageLocals.update_over field value locals)
  · rfl

theorem readFields_overwrites (line : Str) :
    Overwrites fun locals => readFields locals line :=
  (readField_overwrites .total line).andThen (readField_overwrites .free line)

theorem readMeminfo_overwrites (meminfo : Str) :
    Overwrites (readMeminfo meminfo) := by
  have lines (lines : List Str) :
      Overwrites fun locals => lines.foldlM readFields locals := by
    induction lines with
    | nil => exact overwrites_ok
    | cons line lines induction =>
        exact (readFields_overwrites line).andThen induction
  exact lines (readlines meminfo)

/-- The text has a line for the number. -/
def Mentions (meminfo : Str) (field : PageField) : Prop :=
  ∃ line ∈ readlines meminfo, contains line field.label = true

theorem readField_isSome_iff {written field : PageField} {line : Str}
    {locals read : PageLocals}
    (returned : readField written line locals = .ok read) :
    (read field).isSome ↔ (locals field).isSome ∨
      field = written ∧ contains line written.label = true := by
  unfold readField at returned
  split at returned
  · next mentioned =>
      obtain ⟨value, _, same⟩ := bind_eq_ok_iff.mp returned
      cases same
      by_cases same : field = written
      · subst same
        simp [mentioned]
      · simp [same]
  · next unmentioned =>
      cases returned
      simp [unmentioned]

theorem readFields_isSome_iff {field : PageField} {line : Str}
    {locals read : PageLocals} (returned : readFields locals line = .ok read) :
    (read field).isSome ↔
      (locals field).isSome ∨ contains line field.label = true := by
  obtain ⟨reached, first, second⟩ := bind_eq_ok_iff.mp returned
  rw [readField_isSome_iff second, readField_isSome_iff first]
  cases field <;> simp

/-- A variable has a value exactly if it had one or the text gives it one. -/
theorem readMeminfo_isSome_iff {field : PageField} {meminfo : Str}
    {locals read : PageLocals}
    (returned : readMeminfo meminfo locals = .ok read) :
    (read field).isSome ↔
      (locals field).isSome ∨ Mentions meminfo field := by
  unfold readMeminfo at returned
  unfold Mentions
  generalize readlines meminfo = lines at returned ⊢
  induction lines generalizing locals with
  | nil =>
      cases returned
      simp
  | cons line lines induction =>
      obtain ⟨reached, first, rest⟩ := foldlM_cons_eq_ok_iff.mp returned
      rw [induction rest, readFields_isSome_iff first, or_assoc]
      simp only [List.mem_cons, exists_eq_or_imp]

/-- The values that a text gives on its own. -/
def Readable (meminfo : Str) (own : PageLocals) : Prop :=
  readMeminfo meminfo unbound = .ok own

theorem readMeminfo_eq_ok_iff {meminfo : Str} {locals read : PageLocals} :
    readMeminfo meminfo locals = .ok read ↔
      ∃ own, Readable meminfo own ∧ own.over locals = read := by
  rw [readMeminfo_overwrites meminfo locals, map_eq_ok_iff]
  rfl

theorem Readable.mentions_iff {meminfo : Str} {own : PageLocals}
    (readable : Readable meminfo own) (field : PageField) :
    Mentions meminfo field ↔ (own field).isSome := by
  rw [readMeminfo_isSome_iff readable]
  simp [unbound]

end Meminfo

namespace NUMAClient

section Visits

variable {execute : Str → Except NumaExn Str}
  {reached next final : PageLocals × HostPages}

theorem bound_eq_ok_iff {locals : PageLocals} {field : PageField}
    {value : Int} :
    bound locals field = .ok value ↔ locals field = some value := by
  unfold bound
  cases locals field <;> simp

theorem nodePages_eq_ok_iff {locals : PageLocals} {pages : NodePages} :
    nodePages locals = .ok pages ↔
      ∀ field, locals field = some (pages.get field) := by
  unfold nodePages
  simp only [bind_eq_ok_iff, bound_eq_ok_iff]
  constructor
  · rintro ⟨total, totalBound, free, freeBound, same⟩
    cases same
    intro field
    cases field with
    | total => exact totalBound
    | free => exact freeBound
  · intro all
    exact ⟨pages.total, all .total, pages.free, all .free, rfl⟩

/-- What the loop does with a node. -/
theorem addPages_eq_ok_iff {node : Int} :
    addPages execute reached node = .ok next ↔
      ∃ meminfo own pages, execute (meminfoCommand node) = .ok meminfo ∧
        Readable meminfo own ∧
        (∀ field, own.over reached.1 field = some (pages.get field)) ∧
        next = (own.over reached.1, assign node pages reached.2) := by
  unfold addPages
  simp only [bind_eq_ok_iff, readMeminfo_eq_ok_iff, nodePages_eq_ok_iff]
  constructor
  · rintro ⟨meminfo, answered, _, ⟨own, readable, rfl⟩, pages, bound, same⟩
    cases same
    exact ⟨meminfo, own, pages, answered, readable, bound, rfl⟩
  · rintro ⟨meminfo, own, pages, answered, readable, bound, rfl⟩
    exact ⟨meminfo, answered, _, ⟨own, readable, rfl⟩, pages, bound, rfl⟩

theorem lookup_addPages_of_ne {node other : Int} (different : other ≠ node)
    (added : addPages execute reached node = .ok next) :
    next.2.lookup other = reached.2.lookup other := by
  obtain ⟨_, _, pages, _, _, _, rfl⟩ := addPages_eq_ok_iff.mp added
  exact lookup_assign_of_ne different pages reached.2

/-- The loop leaves the entries of other nodes alone. -/
theorem lookup_visits_of_not_mem {nodes : List Int} {node : Int}
    (absent : node ∉ nodes)
    (returned : nodes.foldlM (addPages execute) reached = .ok final) :
    final.2.lookup node = reached.2.lookup node := by
  refine @foldlM_keeps _ _ _ _ _ _
    (fun state => state.2.lookup node = reached.2.lookup node) _ ?_ rfl returned
  intro before other after member kept added
  have different : node ≠ other := by
    rintro rfl
    exact absent member
  rw [lookup_addPages_of_ne different added, kept]

/-- The entry of a node comes from its text and the variables as they are when
the loop arrives there. -/
theorem lookup_visits_of_mem {nodes : List Int} {node : Int} {meminfo : Str}
    (distinct : nodes.Nodup) (member : node ∈ nodes)
    (answered : execute (meminfoCommand node) = .ok meminfo)
    (returned : nodes.foldlM (addPages execute) reached = .ok final) :
    ∃ own arriving pages, Readable meminfo own ∧
      (∀ field, own.over arriving field = some (pages.get field)) ∧
      final.2.lookup node = some pages ∧
      (node ∉ nodes.tail → arriving = reached.1) := by
  obtain ⟨before, after, rfl⟩ := List.append_of_mem member
  obtain ⟨arrived, first, rest⟩ := foldlM_append_eq_ok_iff.mp returned
  obtain ⟨left, turned, last⟩ := foldlM_cons_eq_ok_iff.mp rest
  obtain ⟨_, own, pages, sameText, readable, bound, rfl⟩ :=
    addPages_eq_ok_iff.mp turned
  rw [answered] at sameText
  cases sameText
  have later : node ∉ after :=
    (List.nodup_cons.mp (List.nodup_append.mp distinct).2.1).1
  refine ⟨own, arrived.1, pages, readable, bound, ?_, ?_⟩
  · rw [lookup_visits_of_not_mem later last]
    exact lookup_assign_self node pages arrived.2
  · intro notLater
    cases before with
    | nil =>
        cases first
        rfl
    | cons head before => exact absurd (by simp) notLater

theorem getHugepages_eq_ok_iff {pages : HostPages} :
    getHugepages execute = .ok pages ↔
      ∃ numactl topology locals, execute numactlCommand = .ok numactl ∧
        parseTopology numactl = .ok topology ∧
        (topology.map Prod.fst).foldlM (addPages execute) (unbound, []) =
          .ok (locals, pages) := by
  unfold getHugepages getHostTopology
  simp only [bind_eq_ok_iff]
  constructor
  · rintro ⟨topology, ⟨numactl, answered, parsed⟩, reached, visited, same⟩
    cases same
    exact ⟨numactl, topology, reached.1, answered, parsed, visited⟩
  · rintro ⟨numactl, topology, locals, answered, parsed, visited⟩
    exact ⟨topology, ⟨numactl, answered, parsed⟩, _, visited, rfl⟩

end Visits

/-- The host lists these nodes, and the node has this text. -/
structure Answers (numactl : Str) (node : Int) (meminfo : Str)
    (execute : Str → Except NumaExn Str) : Prop where
  numactl : execute numactlCommand = .ok numactl
  meminfo : execute (meminfoCommand node) = .ok meminfo

/-- The texts of the other nodes do not affect the entry of the node. -/
def OwnPages (numactl : Str) (node : Int) (meminfo : Str) : Prop :=
  ∀ left right : Str → Except NumaExn Str,
    Answers numactl node meminfo left → Answers numactl node meminfo right →
      ∀ leftPages rightPages, getHugepages left = .ok leftPages →
        getHugepages right = .ok rightPages →
          leftPages.lookup node = rightPages.lookup node

section Own

variable {numactl meminfo : Str} {node : Int} {topology : Topology}
  {execute : Str → Except NumaExn Str} {pages : HostPages}

theorem visits_of_getHugepages
    (parsed : parseTopology numactl = .ok topology)
    (answers : Answers numactl node meminfo execute)
    (returned : getHugepages execute = .ok pages) :
    ∃ locals, (topology.map Prod.fst).foldlM (addPages execute)
      (unbound, []) = .ok (locals, pages) := by
  obtain ⟨_, _, locals, sameText, sameTopology, visited⟩ :=
    getHugepages_eq_ok_iff.mp returned
  rw [answers.numactl] at sameText
  cases sameText
  rw [parsed] at sameTopology
  cases sameTopology
  exact ⟨locals, visited⟩

/-- The entry of a node that has both lines, or is the first one, has the
values of its own text. -/
theorem lookup_getHugepages
    (parsed : parseTopology numactl = .ok topology)
    (member : node ∈ topology.map Prod.fst)
    (complete : node ∈ (topology.map Prod.fst).tail →
      ∀ own, Readable meminfo own → ∀ field, Mentions meminfo field)
    (answers : Answers numactl node meminfo execute)
    (returned : getHugepages execute = .ok pages) :
    ∃ own entry, Readable meminfo own ∧ pages.lookup node = some entry ∧
      ∀ field, own field = some (entry.get field) := by
  obtain ⟨locals, visited⟩ := visits_of_getHugepages parsed answers returned
  obtain ⟨own, arriving, entry, readable, bound, found, first⟩ :=
    lookup_visits_of_mem (parseTopology_nodup parsed) member answers.meminfo
      visited
  refine ⟨own, entry, readable, found, ?_⟩
  intro field
  have same := bound field
  by_cases later : node ∈ (topology.map Prod.fst).tail
  · obtain ⟨value, given⟩ := Option.isSome_iff_exists.mp
      ((readable.mentions_iff field).mp (complete later own readable field))
    rw [PageLocals.over, given, Option.some_or] at same
    rw [given, same]
  · rw [first later, PageLocals.over_unbound] at same
    exact same

theorem lookup_getHugepages_of_not_mem
    (parsed : parseTopology numactl = .ok topology)
    (absent : node ∉ topology.map Prod.fst)
    (answers : Answers numactl node meminfo execute)
    (returned : getHugepages execute = .ok pages) :
    pages.lookup node = none := by
  obtain ⟨locals, visited⟩ := visits_of_getHugepages parsed answers returned
  exact lookup_visits_of_not_mem absent visited

end Own

section Leak

variable {numactl meminfo : Str} {node : Int} {topology : Topology}

/-- A text that sets both numbers. -/
def otherMeminfo : Bool → Str
  | false => "HugePages_Total: 0\nHugePages_Free: 0\n".toList
  | true => "HugePages_Total: 1\nHugePages_Free: 1\n".toList

def otherCount : Bool → Int
  | false => 0
  | true => 1

def otherLocals (choice : Bool) : PageLocals :=
  fun _ => some (otherCount choice)

theorem otherMeminfo_readable (choice : Bool) :
    Readable (otherMeminfo choice) (otherLocals choice) := by
  have values : (readMeminfo (otherMeminfo choice) unbound).map
      (fun locals => (locals .total, locals .free)) =
        .ok (some (otherCount choice), some (otherCount choice)) := by
    cases choice <;> decide
  obtain ⟨read, returned, same⟩ := map_eq_ok_iff.mp values
  obtain ⟨total, free⟩ := Prod.mk.inj same
  have all : read = otherLocals choice := by
    funext field
    cases field with
    | total => exact total
    | free => exact free
  rw [Readable, returned, all]

/-- A host where all other nodes have the same text. -/
def answering (numactl : Str) (node : Int) (meminfo other : Str)
    (command : Str) : Except NumaExn Str :=
  if command = numactlCommand then .ok numactl
  else if command = meminfoCommand node then .ok meminfo
  else .ok other

theorem meminfoCommand_ne_numactlCommand (node : Int) :
    meminfoCommand node ≠ numactlCommand := by
  intro same
  have heads : some 'c' = some 's' := congrArg List.head? same
  exact absurd heads (by decide)

theorem meminfoCommand_injective : Function.Injective meminfoCommand := by
  intro left right same
  exact str_injective
    (List.append_cancel_right (List.append_cancel_left same))

theorem answering_answers (numactl : Str) (node : Int) (meminfo other : Str) :
    Answers numactl node meminfo (answering numactl node meminfo other) where
  numactl := if_pos rfl
  meminfo := by
    rw [answering, if_neg (meminfoCommand_ne_numactlCommand node), if_pos rfl]

theorem answering_of_ne {other : Int} (different : other ≠ node)
    (numactl meminfo text : Str) :
    answering numactl node meminfo text (meminfoCommand other) = .ok text := by
  rw [answering, if_neg (meminfoCommand_ne_numactlCommand other),
    if_neg (meminfoCommand_injective.ne different)]

/-- Another node sets both variables, whatever they were. -/
theorem addPages_other {execute : Str → Except NumaExn Str} {other : Int}
    {choice : Bool}
    (answered : execute (meminfoCommand other) = .ok (otherMeminfo choice))
    (reached : PageLocals × HostPages) :
    ∃ next, addPages execute reached other = .ok next ∧
      next.1 = otherLocals choice := by
  have same : (otherLocals choice).over reached.1 = otherLocals choice := by
    funext field
    rfl
  refine ⟨(otherLocals choice,
    assign other ⟨otherCount choice, otherCount choice⟩ reached.2), ?_, rfl⟩
  refine addPages_eq_ok_iff.mpr ⟨_, _, _, answered,
    otherMeminfo_readable choice, ?_, by rw [same]⟩
  intro field
  cases field <;> rfl

/-- The loop over other nodes returns with their number in the variables. -/
theorem visits_others {others : List Int} (absent : node ∉ others)
    (choice : Bool) (reached : PageLocals × HostPages) :
    ∃ final, others.foldlM (addPages
        (answering numactl node meminfo (otherMeminfo choice))) reached =
          .ok final ∧
      (others ≠ [] → final.1 = otherLocals choice) := by
  induction others generalizing reached with
  | nil => exact ⟨reached, rfl, fun nonempty => absurd rfl nonempty⟩
  | cons other others induction =>
      have different : other ≠ node := by
        rintro rfl
        exact absent List.mem_cons_self
      obtain ⟨next, added, set⟩ := addPages_other
        (answering_of_ne different numactl meminfo _) reached
      obtain ⟨final, visited, last⟩ := induction
        (fun member => absent (List.mem_cons_of_mem _ member)) next
      refine ⟨final, foldlM_cons_eq_ok_iff.mpr ⟨next, added, visited⟩, ?_⟩
      intro _
      cases others with
      | nil =>
          cases visited
          exact set
      | cons head tail => exact last (by simp)

/-- A node without a line gets the number that the variables hold. -/
theorem addPages_missing {execute : Str → Except NumaExn Str}
    {own : PageLocals} {field : PageField} {choice : Bool}
    {reached : PageLocals × HostPages}
    (answered : execute (meminfoCommand node) = .ok meminfo)
    (readable : Readable meminfo own) (missing : own field = none)
    (set : reached.1 = otherLocals choice) :
    ∃ entry, entry.get field = otherCount choice ∧
      addPages execute reached node =
        .ok (own.over reached.1, assign node entry reached.2) := by
  let entry : NodePages :=
    ⟨(own .total).getD (otherCount choice), (own .free).getD (otherCount choice)⟩
  have gets (name : PageField) :
      entry.get name = (own name).getD (otherCount choice) := by
    cases name <;> rfl
  refine ⟨entry, by rw [gets, missing, Option.getD_none], ?_⟩
  refine addPages_eq_ok_iff.mpr
    ⟨meminfo, own, entry, answered, readable, ?_, rfl⟩
  intro name
  rw [set, gets, PageLocals.over, otherLocals]
  cases own name <;> rfl

theorem exists_before_of_mem_tail {nodes : List Int} (later : node ∈ nodes.tail) :
    ∃ before after, nodes = before ++ node :: after ∧ before ≠ [] := by
  cases nodes with
  | nil => cases later
  | cons head nodes =>
      obtain ⟨before, after, rfl⟩ := List.append_of_mem later
      exact ⟨head :: before, after, rfl, List.cons_ne_nil head before⟩

/-- If the node comes after another one and does not have a line, then the
number of the other nodes is in its entry. -/
theorem getHugepages_leak {own : PageLocals} {field : PageField}
    (parsed : parseTopology numactl = .ok topology)
    (later : node ∈ (topology.map Prod.fst).tail)
    (readable : Readable meminfo own) (missing : own field = none)
    (choice : Bool) :
    ∃ pages entry, getHugepages
        (answering numactl node meminfo (otherMeminfo choice)) = .ok pages ∧
      pages.lookup node = some entry ∧ entry.get field = otherCount choice := by
  have answers := answering_answers numactl node meminfo (otherMeminfo choice)
  have distinct := parseTopology_nodup parsed
  obtain ⟨before, after, nodes, nonempty⟩ := exists_before_of_mem_tail later
  rw [nodes, List.nodup_middle, List.nodup_cons, List.mem_append, not_or]
    at distinct
  -- The variables hold the number when the loop arrives at the node.
  obtain ⟨arrived, first, set⟩ :=
    visits_others distinct.1.1 choice (unbound, [])
  obtain ⟨entry, count, turned⟩ :=
    addPages_missing answers.meminfo readable missing (set nonempty)
  obtain ⟨final, last, _⟩ := visits_others distinct.1.2 choice
    (own.over arrived.1, assign node entry arrived.2)
  refine ⟨final.2, entry, ?_, ?_, count⟩
  · refine getHugepages_eq_ok_iff.mpr
      ⟨numactl, topology, final.1, answers.numactl, parsed, ?_⟩
    rw [nodes]
    exact foldlM_append_eq_ok_iff.mpr
      ⟨arrived, first, foldlM_cons_eq_ok_iff.mpr ⟨_, turned, last⟩⟩
  · rw [lookup_visits_of_not_mem distinct.1.2 last]
    exact lookup_assign_self node entry arrived.2

end Leak

end NUMAClient

open NUMAClient in
/-- The entry of a node depends on its own text alone exactly if the node is
not listed after another one, or its text raises or has both lines. -/
theorem getHugepages_own_iff (numactl : Str) (node : Int) (meminfo : Str) :
    OwnPages numactl node meminfo ↔
      ∀ topology, parseTopology numactl = .ok topology →
        node ∈ (topology.map Prod.fst).tail →
          ∀ own, Readable meminfo own → ∀ field, Mentions meminfo field := by
  constructor
  · intro ownPages topology parsed later own readable field
    rw [readable.mentions_iff, ← Option.ne_none_iff_isSome]
    intro missing
    obtain ⟨_, zero, zeroReturned, zeroFound, zeroCount⟩ :=
      getHugepages_leak parsed later readable missing false
    obtain ⟨_, one, oneReturned, oneFound, oneCount⟩ :=
      getHugepages_leak parsed later readable missing true
    have same := ownPages _ _ (answering_answers _ _ _ _)
      (answering_answers _ _ _ _) _ _ zeroReturned oneReturned
    rw [zeroFound, oneFound] at same
    cases same
    rw [zeroCount] at oneCount
    cases oneCount
  · intro complete left right leftAnswers rightAnswers leftPages rightPages
      leftReturned rightReturned
    obtain ⟨_, topology, _, answered, parsed, _⟩ :=
      getHugepages_eq_ok_iff.mp leftReturned
    rw [leftAnswers.numactl] at answered
    cases answered
    by_cases member : node ∈ topology.map Prod.fst
    · obtain ⟨own, leftEntry, readable, leftFound, leftValues⟩ :=
        lookup_getHugepages parsed member (complete topology parsed)
          leftAnswers leftReturned
      obtain ⟨_, rightEntry, sameText, rightFound, rightValues⟩ :=
        lookup_getHugepages parsed member (complete topology parsed)
          rightAnswers rightReturned
      rw [Readable, readable] at sameText
      cases sameText
      rw [leftFound, rightFound, NodePages.eq_of_get fun field =>
        Option.some.inj ((leftValues field).symm.trans (rightValues field))]
    · rw [lookup_getHugepages_of_not_mem parsed member leftAnswers
        leftReturned, lookup_getHugepages_of_not_mem parsed member
        rightAnswers rightReturned]

def twoNodes : Str := "node 0 cpus: 0 1\nnode 1 cpus: 2 3\n".toList

def totalOnly : Str := "HugePages_Total: 4\n".toList

/-- The free pages of node 1 are those of node 0. -/
theorem getHugepages_missing_line :
    (NUMAClient.getHugepages (NUMAClient.answering twoNodes 1 totalOnly
        (NUMAClient.otherMeminfo false))).map (·.lookup 1) =
          .ok (some ⟨4, 0⟩) ∧
      (NUMAClient.getHugepages (NUMAClient.answering twoNodes 1 totalOnly
        (NUMAClient.otherMeminfo true))).map (·.lookup 1) =
          .ok (some ⟨4, 1⟩) := by
  constructor
  · rfl
  · rfl

end Whitebox.Services
