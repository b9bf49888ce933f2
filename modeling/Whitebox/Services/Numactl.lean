import Whitebox.Services.NUMAClient

/-!
# The output of `numactl -H`

The lines that `numactl -H` prints, and that `get_host_topology` reads them
back: only the CPU lines of the nodes have both words that the loop looks for,
and each of them adds its node with its CPUs in their order.
-/

namespace Whitebox.Services

open Whitebox.Python
open Whitebox.Association
open Whitebox.Effect.Fallible

namespace Numactl

/-- A node, its CPUs and the figures of its memory. -/
structure Node where
  number : Nat
  cpus : List Nat
  size : Nat
  free : Nat

/-- A character of the list of nodes in the first line. -/
def isListing (c : Char) : Bool :=
  c.isDigit || c == ',' || c == '-'

/-- What `numactl -H` knows of a host. -/
structure Host where
  available : Nat
  listing : Str
  listed : listing.all isListing = true
  nodes : List Node
  distinct : (nodes.map Node.number).Nodup
  distance : Nat → Nat → Nat

def printed (number : Nat) : Str :=
  str (number : Int)

/-- `printf("% 3d", number)`. -/
def padded (number : Nat) : Str :=
  List.replicate (2 - (printed number).length) ' ' ++ ' ' :: printed number

def availableWord : Str := "available: ".toList
def nodesWord : Str := " nodes (".toList
def nodeWord : Str := "node ".toList
def cpusWord : Str := " cpus:".toList
def sizeWord : Str := " size: ".toList
def freeWord : Str := " free: ".toList
def megabytes : Str := " MB".toList
def distancesTitle : Str := "node distances:".toList

def cpuField (cpu : Nat) : Str :=
  ' ' :: printed cpu

def distanceField (number : Nat) : Str :=
  padded number ++ [' ']

def availableLine (host : Host) : Str :=
  availableWord ++ printed host.available ++ nodesWord ++ host.listing ++ [')']

def cpuLine (node : Node) : Str :=
  nodeWord ++ printed node.number ++ cpusWord ++ node.cpus.flatMap cpuField

def memoryLine (word : Str) (node : Node) (figure : Nat) : Str :=
  nodeWord ++ printed node.number ++ word ++ printed figure ++ megabytes

def nodeLines (node : Node) : List Str :=
  [cpuLine node, memoryLine sizeWord node node.size,
    memoryLine freeWord node node.free]

def distanceHeader (host : Host) : Str :=
  nodeWord ++ host.nodes.flatMap fun node => distanceField node.number

def distanceRow (host : Host) (row : Node) : Str :=
  padded row.number ++ ": ".toList ++ host.nodes.flatMap fun column =>
    distanceField (host.distance row.number column.number)

def distanceLines (host : Host) : List Str :=
  distancesTitle :: distanceHeader host :: host.nodes.map (distanceRow host)

def lines (host : Host) : List Str :=
  availableLine host :: host.nodes.flatMap nodeLines ++ distanceLines host

def text (host : Host) : Str :=
  (lines host).flatMap (· ++ ['\n'])

def Node.entry (node : Node) : Int × List Int :=
  (node.number, node.cpus.map Int.ofNat)

def topology (host : Host) : Topology :=
  host.nodes.map Node.entry

/-- The characters of the lines that are not CPU lines. -/
def isQuiet (c : Char) : Bool :=
  c != 'u' && c != '\n'

section Quiet

theorem isQuiet_of_isDigit {c : Char} (digit : c.isDigit = true) :
    isQuiet c = true := by
  have noLetter : c ≠ 'u' := ne_of_isDigit digit rfl
  have noNewline : c ≠ '\n' := ne_of_isDigit digit rfl
  simp [isQuiet, noLetter, noNewline]

theorem all_isQuiet_printed (number : Nat) :
    (printed number).all isQuiet = true := by
  rw [List.all_eq_true]
  intro c member
  exact isQuiet_of_isDigit (isDigit_of_mem_str member)

theorem all_isQuiet_listing (host : Host) :
    host.listing.all isQuiet = true := by
  rw [List.all_eq_true]
  intro c member
  have listing := List.all_eq_true.mp host.listed c member
  simp only [isListing, Bool.or_eq_true, beq_iff_eq] at listing
  rcases listing with (digit | rfl) | rfl
  · exact isQuiet_of_isDigit digit
  · rfl
  · rfl

theorem all_isQuiet_padded (number : Nat) :
    (padded number).all isQuiet = true := by
  simp [padded, all_isQuiet_printed, isQuiet]

theorem all_isQuiet_distanceField (number : Nat) :
    (distanceField number).all isQuiet = true := by
  simp [distanceField, all_isQuiet_padded, isQuiet]

theorem all_isQuiet_word :
    ∀ word ∈ [availableWord, nodesWord, nodeWord, sizeWord, freeWord,
      megabytes, distancesTitle], word.all isQuiet = true := by
  decide

theorem all_isQuiet_memoryLine {word : Str} (quiet : word.all isQuiet = true)
    (node : Node) (figure : Nat) :
    (memoryLine word node figure).all isQuiet = true := by
  simp only [memoryLine, List.all_append, quiet, all_isQuiet_printed,
    all_isQuiet_word nodeWord (by simp), all_isQuiet_word megabytes (by simp),
    Bool.and_self]

theorem all_isQuiet_availableLine (host : Host) :
    (availableLine host).all isQuiet = true := by
  simp only [availableLine, List.all_append, all_isQuiet_printed,
    all_isQuiet_listing, all_isQuiet_word availableWord (by simp),
    all_isQuiet_word nodesWord (by simp), Bool.true_and]
  rfl

theorem all_isQuiet_distanceLines (host : Host) :
    ∀ line ∈ distanceLines host, line.all isQuiet = true := by
  intro line member
  simp only [distanceLines, List.mem_cons, List.mem_map] at member
  rcases member with rfl | rfl | ⟨row, _, rfl⟩
  · exact all_isQuiet_word distancesTitle (by simp)
  · simp only [distanceHeader, List.all_append, List.all_flatMap,
      all_isQuiet_distanceField, all_isQuiet_word nodeWord (by simp)]
    simp
  · simp only [distanceRow, List.all_append, List.all_flatMap,
      all_isQuiet_distanceField, all_isQuiet_padded]
    simp
    decide

theorem newline_notMem_of_quiet {line : Str}
    (quiet : line.all isQuiet = true) : '\n' ∉ line := by
  intro member
  exact absurd (List.all_eq_true.mp quiet '\n' member) (by decide)

/-- A line without the letter `u` has no word `cpus` in it. -/
theorem addNode_quiet (nodes : Topology) {line : Str}
    (quiet : line.all isQuiet = true) :
    addNode nodes (line ++ ['\n']) = .ok nodes := by
  have absent : contains (line ++ ['\n']) "cpus".toList = false := by
    rw [contains, decide_eq_false_iff_not]
    intro found
    have member : 'u' ∈ line ++ ['\n'] :=
      found.subset (by decide)
    rcases List.mem_append.mp member with inLine | last
    · exact absurd (List.all_eq_true.mp quiet 'u' inLine) (by decide)
    · exact absurd last (by decide)
  rw [addNode, absent, Bool.and_false]
  rfl

/-- Lines without a CPU line among them leave the topology as it is. -/
theorem foldlM_addNode_quiet (nodes : Topology) {lines : List Str}
    (quiet : ∀ line ∈ lines, line.all isQuiet = true) :
    (lines.map (· ++ ['\n'])).foldlM addNode nodes = .ok nodes := by
  induction lines with
  | nil => rfl
  | cons line lines induction =>
      rw [List.map_cons, List.foldlM_cons,
        addNode_quiet nodes (quiet line (by simp))]
      exact induction fun other member => quiet other (by simp [member])

end Quiet

section CpuLine

theorem words_printed (number : Nat) :
    words (printed number) = [printed number] := by
  apply words_of_solid (str_ne_nil _)
  intro c member
  exact isSpace_of_isDigit (isDigit_of_mem_str member)

theorem words_flatMap_cpuField (left : Str) (cpus : List Nat) :
    words (left ++ cpus.flatMap cpuField) =
      words left ++ cpus.map printed := by
  induction cpus generalizing left with
  | nil => simp
  | cons cpu cpus induction =>
      rw [List.flatMap_cons, cpuField, List.cons_append,
        words_append_space left _ (by decide), induction, words_printed]
      rfl

theorem parseInt_printed (number : Nat) :
    parseInt (printed number) = .ok (number : Int) := by
  rw [parseInt, printed, int_str]

theorem mapM_parseInt_printed (cpus : List Nat) :
    (cpus.map printed).mapM parseInt = .ok (cpus.map Int.ofNat) := by
  induction cpus with
  | nil => rfl
  | cons cpu cpus induction =>
      rw [List.map_cons, List.mapM_cons, parseInt_printed, induction]
      rfl

theorem notMem_printed {c : Char} (notDigit : c.isDigit = false)
    (number : Nat) : c ∉ printed number := by
  intro member
  rw [isDigit_of_mem_str member] at notDigit
  cases notDigit

theorem notMem_cpuFields {c : Char} (notDigit : c.isDigit = false)
    (notBlank : c ≠ ' ') (cpus : List Nat) :
    c ∉ cpus.flatMap cpuField := by
  simp [cpuField, notBlank, notMem_printed notDigit]

theorem newline_notMem_cpuLine (node : Node) : '\n' ∉ cpuLine node := by
  have inWords : '\n' ∉ nodeWord ∧ '\n' ∉ cpusWord := by decide
  have inFields : '\n' ∉ node.cpus.flatMap cpuField :=
    notMem_cpuFields rfl (by decide) node.cpus
  have inNumber : '\n' ∉ printed node.number := notMem_printed rfl _
  simp only [cpuLine, List.mem_append, inWords, inFields, inNumber, or_self,
    not_false_eq_true]

/-- A CPU line up to its colon. -/
def cpuLineStart (node : Node) : Str :=
  nodeWord ++ printed node.number ++ " cpus".toList

theorem cpuLine_colon (node : Node) :
    cpuLine node = cpuLineStart node ++ ':' :: node.cpus.flatMap cpuField := by
  have colon : cpusWord = " cpus".toList ++ [':'] := rfl
  rw [cpuLine, cpuLineStart, colon]
  generalize " cpus".toList = word
  simp only [List.append_assoc, List.cons_append, List.nil_append]

theorem split_cpuLine (node : Node) :
    split ':' (cpuLine node ++ ['\n']) =
      [cpuLineStart node, node.cpus.flatMap cpuField ++ ['\n']] := by
  have noColon : ':' ∉ cpuLineStart node := by
    have inWords : ':' ∉ nodeWord ∧ ':' ∉ " cpus".toList := by decide
    have inNumber : ':' ∉ printed node.number := notMem_printed rfl _
    simp only [cpuLineStart, List.mem_append, inWords, inNumber, or_self,
      not_false_eq_true]
  have later : ':' ∉ node.cpus.flatMap cpuField ++ ['\n'] := by
    have inFields : ':' ∉ node.cpus.flatMap cpuField :=
      notMem_cpuFields rfl (by decide) node.cpus
    simp [inFields]
  rw [cpuLine_colon, List.append_assoc, List.cons_append, split_append,
    split_of_not_mem noColon, split_of_not_mem later]
  rfl

theorem words_cpuField (node : Node) :
    words (node.cpus.flatMap cpuField ++ ['\n']) = node.cpus.map printed := by
  rw [words_append_space _ [] (by decide), words_nil, List.append_nil]
  exact words_flatMap_cpuField [] node.cpus

theorem words_cpuLine (node : Node) :
    ∃ rest, words (cpuLine node ++ ['\n']) =
      "node".toList :: printed node.number :: rest := by
  have shape : cpuLine node ++ ['\n'] =
      "node".toList ++ ' ' :: (printed node.number ++
        ' ' :: ("cpus:".toList ++ node.cpus.flatMap cpuField ++ ['\n'])) := by
    have blank : nodeWord = "node".toList ++ [' '] := rfl
    have colon : cpusWord = ' ' :: "cpus:".toList := rfl
    rw [cpuLine, blank, colon]
    generalize "node".toList = first
    generalize "cpus:".toList = third
    simp only [List.append_assoc, List.cons_append, List.nil_append]
  refine ⟨words ("cpus:".toList ++ node.cpus.flatMap cpuField ++ ['\n']), ?_⟩
  rw [shape, words_append_space _ _ (by decide),
    words_append_space _ _ (by decide), words_printed]
  rfl

theorem contains_cpuLine (node : Node) :
    contains (cpuLine node ++ ['\n']) "node".toList = true ∧
      contains (cpuLine node ++ ['\n']) "cpus".toList = true := by
  have inNode : "node".toList <:+: nodeWord := by decide
  have inCpus : "cpus".toList <:+: cpusWord := by decide
  simp only [contains, decide_eq_true_eq]
  constructor
  · refine inNode.trans ⟨[], printed node.number ++ cpusWord ++
      node.cpus.flatMap cpuField ++ ['\n'], ?_⟩
    simp only [cpuLine, List.append_assoc, List.nil_append]
  · refine inCpus.trans ⟨nodeWord ++ printed node.number,
      node.cpus.flatMap cpuField ++ ['\n'], ?_⟩
    simp only [cpuLine, List.append_assoc]

theorem addNode_cpuLine (nodes : Topology) (node : Node) :
    addNode nodes (cpuLine node ++ ['\n']) =
      .ok (assign (node.number : Int) (node.cpus.map Int.ofNat) nodes) := by
  obtain ⟨hasNode, hasCpus⟩ := contains_cpuLine node
  obtain ⟨rest, named⟩ := words_cpuLine node
  rw [addNode, hasNode, hasCpus, split_cpuLine, named]
  change (do
    let cpus ← (words (node.cpus.flatMap cpuField ++ ['\n'])).mapM parseInt
    let number ← parseInt (printed node.number)
    Except.ok (assign number cpus nodes)) = _
  rw [words_cpuField, mapM_parseInt_printed, parseInt_printed]
  rfl

end CpuLine

section Topology

theorem foldlM_nodeLines (nodes : Topology) (node : Node) :
    ((nodeLines node).map (· ++ ['\n'])).foldlM addNode nodes =
      .ok (assign (node.number : Int) (node.cpus.map Int.ofNat) nodes) := by
  have sizeQuiet := all_isQuiet_word sizeWord (by simp)
  have freeQuiet := all_isQuiet_word freeWord (by simp)
  rw [nodeLines, List.map_cons, List.foldlM_cons, addNode_cpuLine]
  apply foldlM_addNode_quiet
  intro line member
  simp only [List.mem_cons, List.not_mem_nil, or_false] at member
  rcases member with rfl | rfl
  · exact all_isQuiet_memoryLine sizeQuiet node node.size
  · exact all_isQuiet_memoryLine freeQuiet node node.free

/-- The lines of distinct nodes add these nodes in their order. -/
theorem foldlM_flatMap_nodeLines (reached : Topology) {nodes : List Node}
    (distinct : (reached.map Prod.fst ++
      nodes.map fun node => (node.number : Int)).Nodup) :
    ((nodes.flatMap nodeLines).map (· ++ ['\n'])).foldlM addNode reached =
      .ok (reached ++ nodes.map Node.entry) := by
  induction nodes generalizing reached with
  | nil => simp [pure, Except.pure]
  | cons node nodes induction =>
      have fresh : (node.number : Int) ∉ reached.map Prod.fst := by
        intro member
        rw [List.map_cons, List.nodup_middle, List.nodup_cons] at distinct
        exact distinct.1 (List.mem_append_left _ member)
      rw [List.flatMap_cons, List.map_append, List.foldlM_append,
        foldlM_nodeLines, assign_of_not_mem fresh]
      have later := induction (reached ++ [node.entry]) (by
        simpa [Node.entry] using distinct)
      rw [List.append_assoc] at later
      exact later

theorem newline_notMem_lines (host : Host) :
    ∀ line ∈ lines host, '\n' ∉ line := by
  intro line member
  simp only [lines, List.cons_append, List.mem_cons, List.mem_append,
    List.mem_flatMap] at member
  rcases member with rfl | ⟨node, _, inNode⟩ | inTable
  · exact newline_notMem_of_quiet (all_isQuiet_availableLine host)
  · simp only [nodeLines, List.mem_cons, List.not_mem_nil, or_false] at inNode
    rcases inNode with rfl | rfl | rfl
    · exact newline_notMem_cpuLine node
    · exact newline_notMem_of_quiet (all_isQuiet_memoryLine
        (all_isQuiet_word sizeWord (by simp)) node node.size)
    · exact newline_notMem_of_quiet (all_isQuiet_memoryLine
        (all_isQuiet_word freeWord (by simp)) node node.free)
  · exact newline_notMem_of_quiet
      (all_isQuiet_distanceLines host line inTable)

theorem parseTopology_text (host : Host) :
    parseTopology (text host) = .ok (topology host) := by
  have distinct : (([] : Topology).map Prod.fst ++
      host.nodes.map fun node => (node.number : Int)).Nodup := by
    have numbers := host.distinct.map (f := Int.ofNat)
      fun _ _ same => Int.ofNat.inj same
    rw [List.map_map] at numbers
    exact numbers
  rw [parseTopology, text,
    readlines_flatMap_terminated (newline_notMem_lines host), lines,
    List.cons_append, List.map_cons, List.foldlM_cons,
    addNode_quiet [] (all_isQuiet_availableLine host)]
  change (List.map _ _).foldlM addNode [] = _
  rw [List.map_append, List.foldlM_append, foldlM_flatMap_nodeLines [] distinct]
  exact foldlM_addNode_quiet _ (all_isQuiet_distanceLines host)

end Topology

/-- `get_host_topology` gives back the nodes that `numactl -H` prints with the
CPUs of each in their order, and `get_num_cpus` counts these CPUs. -/
theorem getHostTopology_numactl (host : Host)
    (execute : Str → Except NumaExn Str)
    (answers : execute numactlCommand = .ok (text host)) :
    NUMAClient.getHostTopology execute = .ok (topology host) ∧
      NUMAClient.getNumCpus execute =
        .ok (host.nodes.map fun node => node.cpus.length).sum := by
  have parsed : NUMAClient.getHostTopology execute = .ok (topology host) := by
    rw [NUMAClient.getHostTopology, answers]
    exact parseTopology_text host
  refine ⟨parsed, ?_⟩
  rw [NUMAClient.getNumCpus, parsed]
  change Except.ok ((topology host).map fun node => node.2.length).sum = _
  rw [topology, List.map_map]
  congr 3
  funext node
  exact List.length_map _

/-- Two nodes with a gap between their numbers, one without CPUs. -/
def sparseHost : Host where
  available := 2
  listing := "0,3".toList
  listed := rfl
  nodes := [⟨3, [10, 2, 7], 4096, 512⟩, ⟨0, [], 2048, 2000⟩]
  distinct := by decide
  distance := fun row column => if row = column then 10 else 20

theorem getHostTopology_sparseHost :
    NUMAClient.getHostTopology (fun _ => .ok (text sparseHost)) =
        .ok [(3, [10, 2, 7]), (0, [])] ∧
      NUMAClient.getNumCpus (fun _ => .ok (text sparseHost)) = .ok 3 :=
  getHostTopology_numactl sparseHost (fun _ => .ok (text sparseHost)) rfl

example : lines sparseHost = [
    "available: 2 nodes (0,3)", "node 3 cpus: 10 2 7", "node 3 size: 4096 MB",
    "node 3 free: 512 MB", "node 0 cpus:", "node 0 size: 2048 MB",
    "node 0 free: 2000 MB", "node distances:", "node   3   0 ",
    "  3:  10  20 ", "  0:  20  10 "].map String.toList := by
  decide

end Numactl

end Whitebox.Services
