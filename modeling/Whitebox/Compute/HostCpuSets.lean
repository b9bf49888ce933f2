import Whitebox.Collection.Association
import Whitebox.Hardware.FormatCpuSpec
import Whitebox.Services.UnsetOptions

/-!
# The two sources of the CPU sets of a host

The pinning tests take the CPU sets of a host from `nodes.yaml`, and the Nova
service manager takes them from `nova.conf`.  The template of `nodes.yaml` does
not quote the values, so a set of a single CPU is loaded as a number, which
`parse_cpu_spec` cannot split, and the default for a missing set is a list,
which it cannot split either.
-/

namespace Whitebox.Compute

open Whitebox.Python
open Whitebox.Hardware
open Whitebox.Services
open Whitebox.Services.CommandLine (Files Attempt reading cpusOf
  getCpuSharedSet getCpuDedicatedSet vcpuPinSet getConfOpt_answered)

/-- The values that the two fields of a host can have. -/
inductive NodeValue where
  | integer (value : Int)
  | text (value : Str)
  /-- The default `[]`. -/
  | emptyList
deriving DecidableEq

def isAllDigits (text : Str) : Bool :=
  !text.isEmpty && text.all Char.isDigit

/-- `yaml.safe_load` of an unquoted CPU set. -/
def loadScalar (text : Str) : NodeValue :=
  if isAllDigits text then .integer (Nat.ofDigitChars 10 text 0)
  else .text text

/-- The fields of a host in `nodes.yaml`. -/
abbrev HostDetails := List (Str × NodeValue)

abbrev Nodes := List (Str × HostDetails)

/-- `hardware.parse_cpu_spec(cpu_set)`: only a `str` has the method `split`
that it calls. -/
def parseNodeValue : NodeValue → Except SpecError (Finset Int)
  | .text spec => parseCpuSpec int spec
  | .integer _ => .error .attributeError
  | .emptyList => .error .attributeError

/-- `get_host_details`. -/
def getHostDetails (nodes : Nodes) (host : Str) : Option HostDetails :=
  nodes.lookup host

/-- `parse_cpu_spec(get_host_details(host).get(field, []))`. -/
def getHostCpuSet (field : Str) (nodes : Nodes) (host : Str) :
    Except SpecError (Finset Int) :=
  match getHostDetails nodes host with
  | none => .error .attributeError
  | some details => parseNodeValue ((details.lookup field).getD .emptyList)

def cpuDedicatedField : Str := "cpu_dedicated_set".toList

def cpuSharedField : Str := "cpu_shared_set".toList

/-- `_get_host_cpu_dedicated_set`. -/
def getHostCpuDedicatedSet : Nodes → Str → Except SpecError (Finset Int) :=
  getHostCpuSet cpuDedicatedField

/-- `_get_host_cpu_shared_set`. -/
def getHostCpuSharedSet : Nodes → Str → Except SpecError (Finset Int) :=
  getHostCpuSet cpuSharedField

/-- The `[compute]` options in the `devstack_local_conf` of a host. -/
structure LocalConf where
  cpuSharedSet : Option Str
  cpuDedicatedSet : Option Str

/-- The line of a field.  The template of the multinode job writes both lines;
without an option the field stands for a `nodes.yaml` that does not have it. -/
def renderField (field : Str) : Option Str → HostDetails
  | none => []
  | some text => [(field, loadScalar text)]

/-- A host in the rendered and loaded template. -/
def renderHost (conf : LocalConf) : HostDetails :=
  renderField cpuSharedField conf.cpuSharedSet ++
    renderField cpuDedicatedField conf.cpuDedicatedSet

def renderNodes (hosts : List (Str × LocalConf)) : Nodes :=
  hosts.map fun host => (host.1, renderHost host.2)

/-- A host whose `nodes.yaml` and `nova.conf` have the same source. -/
structure Deployment where
  hosts : List (Str × LocalConf)
  host : Str
  conf : LocalConf
  known : hosts.lookup host = some conf
  path : Str
  files : Files
  shared : files path ServiceManager.cpuSharedSet =
    conf.cpuSharedSet.map ConfValue.ofText
  dedicated : files path CommandLine.cpuDedicatedSet =
    conf.cpuDedicatedSet.map ConfValue.ofText

namespace Deployment

variable (deployment : Deployment)

def nodes : Nodes :=
  renderNodes deployment.hosts

/-- `get_conf_opt` of the Nova service manager. -/
def getConfOpt : Key → Except Exn (Option Str) :=
  reading (fun _ => .answered) deployment.path deployment.files

/-- Both sources give the same CPUs for the shared set. -/
def SharedAgree (cpus : Finset Int) : Prop :=
  getHostCpuSharedSet deployment.nodes deployment.host = .ok cpus ∧
    getCpuSharedSet int deployment.getConfOpt = .ok cpus

/-- Both sources give the same CPUs for the dedicated set. -/
def DedicatedAgree (cpus : Finset Int) : Prop :=
  getHostCpuDedicatedSet deployment.nodes deployment.host = .ok cpus ∧
    getCpuDedicatedSet int deployment.getConfOpt = .ok cpus

end Deployment

/-- A number or an ordered range, possibly with a caret. -/
structure SpecItem where
  reject : Bool
  first : Nat
  last : Option Nat
  ordered : ∀ final, last = some final → first ≤ final

namespace SpecItem

def body (item : SpecItem) : Str :=
  match item.last with
  | none => str (item.first : Int)
  | some final => str (item.first : Int) ++ '-' :: str (final : Int)

def text (item : SpecItem) : Str :=
  if item.reject then '^' :: item.body else item.body

theorem mem_body {item : SpecItem} {c : Char} (member : c ∈ item.body) :
    c.isDigit = true ∨ c = '-' := by
  unfold body at member
  split at member
  · exact .inl (isDigit_of_mem_str member)
  · rcases List.mem_append.mp member with first | later
    · exact .inl (isDigit_of_mem_str first)
    · rcases List.mem_cons.mp later with hyphen | last
      · exact .inr hyphen
      · exact .inl (isDigit_of_mem_str last)

theorem mem_text {item : SpecItem} {c : Char} (member : c ∈ item.text) :
    c.isDigit = true ∨ c = '-' ∨ c = '^' := by
  unfold text at member
  split at member
  · rcases List.mem_cons.mp member with caret | inBody
    · exact .inr (.inr caret)
    · exact (mem_body inBody).imp_right .inl
  · exact (mem_body member).imp_right .inl

theorem text_ne_nil (item : SpecItem) : item.text ≠ [] := by
  unfold text body
  split
  · exact List.cons_ne_nil _ _
  · split
    · exact str_ne_nil _
    · simp

theorem solid_text (item : SpecItem) : ∀ c ∈ item.text, isSpace c = false := by
  intro c member
  rcases mem_text member with digit | rfl | rfl
  · exact isSpace_of_isDigit digit
  · rfl
  · rfl

theorem noComma_text (item : SpecItem) : ',' ∉ item.text := by
  intro member
  rcases mem_text member with digit | hyphen | caret
  · exact absurd digit (by decide)
  · exact absurd hyphen (by decide)
  · exact absurd caret (by decide)

theorem int_strip_str (number : Nat) :
    int (strip (str (number : Int))) = some (number : Int) :=
  int_strip (int_str number)

theorem names_body (item : SpecItem) :
    ∃ interval, Names int item.body interval := by
  have noHyphen : ∀ number : Nat, '-' ∉ str (number : Int) := by
    intro number member
    exact absurd (isDigit_of_mem_str member) (by decide)
  unfold body
  split
  · exact ⟨_, .number (noHyphen _) (int_strip_str _)⟩
  · rename_i final range
    have ordered : (item.first : Int) ≤ final :=
      Int.ofNat_le.mpr (item.ordered final range)
    exact ⟨_, .range (noHyphen _) (int_strip_str _) (int_strip_str _) ordered⟩

theorem reads_text (item : SpecItem) :
    ∃ cpuRule, Reads int item.text cpuRule := by
  obtain ⟨interval, names⟩ := item.names_body
  unfold text
  split
  · exact ⟨_, .caret names⟩
  · refine ⟨_, .plain ?_ names⟩
    intro caret
    rcases mem_body (List.mem_of_mem_head? caret) with digit | hyphen
    · exact absurd digit (by decide)
    · exact absurd hyphen (by decide)

theorem grammatical_text (item : SpecItem) : Grammatical int item.text := by
  intro piece member _
  rw [split_of_not_mem item.noComma_text, List.mem_singleton] at member
  rw [member, strip, trim_eq_self item.solid_text]
  exact item.reads_text

end SpecItem

def specText (items : List SpecItem) : Str :=
  join ',' (items.map SpecItem.text)

section SpecText

variable (items : List SpecItem)

theorem parseCpuSpec_specText :
    ∃ cpus, parseCpuSpec int (specText items) = .ok cpus := by
  apply parseCpuSpec_isOk_iff.mpr
  apply grammatical_join.mpr
  intro text member
  obtain ⟨item, _, rfl⟩ := List.mem_map.mp member
  exact item.grammatical_text

theorem strip_specText : strip (specText items) = specText items := by
  apply trim_eq_self
  intro c member
  rcases mem_of_mem_join member with rfl | ⟨text, inTexts, inside⟩
  · rfl
  · obtain ⟨item, _, rfl⟩ := List.mem_map.mp inTexts
    exact item.solid_text c inside

theorem specText_ne_nil {items : List SpecItem} (nonempty : items ≠ []) :
    specText items ≠ [] := by
  obtain ⟨item, others, rfl⟩ := List.exists_cons_of_ne_nil nonempty
  obtain ⟨c, inside⟩ := List.exists_mem_of_ne_nil _ item.text_ne_nil
  have member : c ∈ specText (item :: others) :=
    mem_join_of_mem (List.mem_map_of_mem List.mem_cons_self) inside
  exact List.ne_nil_of_mem member

end SpecText

section HostSide

theorem parseNodeValue_loadScalar_iff {text : Str} {cpus : Finset Int} :
    parseNodeValue (loadScalar text) = .ok cpus ↔
      isAllDigits text = false ∧ parseCpuSpec int text = .ok cpus := by
  unfold loadScalar
  cases digits : isAllDigits text with
  | true => simp [parseNodeValue]
  | false => simp [parseNodeValue]

theorem isAllDigits_eq_false_iff {text : Str} (nonempty : text ≠ []) :
    isAllDigits text = false ↔ ∃ c ∈ text, c.isDigit = false := by
  simp [isAllDigits, nonempty]

variable (deployment : Deployment)

theorem getHostDetails_nodes :
    getHostDetails deployment.nodes deployment.host =
      some (renderHost deployment.conf) := by
  rw [getHostDetails, Deployment.nodes, renderNodes, Association.lookup_map,
    deployment.known]
  rfl

theorem lookup_renderHost (conf : LocalConf) :
    (renderHost conf).lookup cpuSharedField =
        conf.cpuSharedSet.map loadScalar ∧
      (renderHost conf).lookup cpuDedicatedField =
        conf.cpuDedicatedSet.map loadScalar := by
  obtain ⟨shared, dedicated⟩ := conf
  cases shared <;> cases dedicated <;> exact ⟨rfl, rfl⟩

theorem getHostCpuSharedSet_nodes :
    getHostCpuSharedSet deployment.nodes deployment.host =
      parseNodeValue ((deployment.conf.cpuSharedSet.map loadScalar).getD
        .emptyList) := by
  rw [getHostCpuSharedSet, getHostCpuSet, getHostDetails_nodes]
  simp only [(lookup_renderHost deployment.conf).1]

theorem getHostCpuDedicatedSet_nodes :
    getHostCpuDedicatedSet deployment.nodes deployment.host =
      parseNodeValue ((deployment.conf.cpuDedicatedSet.map loadScalar).getD
        .emptyList) := by
  rw [getHostCpuDedicatedSet, getHostCpuSet, getHostDetails_nodes]
  simp only [(lookup_renderHost deployment.conf).2]

end HostSide

section NovaSide

variable (deployment : Deployment)

theorem getConfOpt_eq {key : Key} {value : Option Str}
    (held : deployment.files deployment.path key =
      value.map ConfValue.ofText) :
    deployment.getConfOpt key = .ok (value.map strip) := by
  rw [Deployment.getConfOpt, reading, getConfOpt_answered, held,
    Option.map_map]
  rfl

theorem getCpuSharedSet_eq :
    getCpuSharedSet int deployment.getConfOpt =
      cpusOf int (deployment.conf.cpuSharedSet.map strip) := by
  rw [getCpuSharedSet, getConfOpt_eq deployment deployment.shared]
  rfl

theorem getCpuDedicatedSet_of_some {spec : Str}
    (present : deployment.conf.cpuDedicatedSet = some spec) :
    getCpuDedicatedSet int deployment.getConfOpt =
      cpusOf int (some (strip spec)) := by
  rw [getCpuDedicatedSet, getConfOpt_eq deployment deployment.dedicated,
    present]
  rfl

theorem cpusOf_of_ne_nil {spec : Str} {cpus : Finset Int}
    (nonempty : spec ≠ []) (parsed : parseCpuSpec int spec = .ok cpus) :
    cpusOf int (some spec) = .ok cpus := by
  obtain ⟨c, rest, rfl⟩ := List.exists_cons_of_ne_nil nonempty
  change (parseCpuSpec int (c :: rest)).mapError Sum.inr = .ok cpus
  rw [parsed]
  rfl

end NovaSide

/-- For a set that is there, only the loaded scalar makes a difference. -/
theorem agree_on_specText_iff {items : List SpecItem} (nonempty : items ≠ [])
    {hostSide : Except SpecError (Finset Int)}
    {novaSide : Except (Exn ⊕ SpecError) (Finset Int)}
    (loaded : hostSide = parseNodeValue (loadScalar (specText items)))
    (read : novaSide = cpusOf int (some (strip (specText items)))) :
    (∃ cpus, parseCpuSpec int (specText items) = .ok cpus ∧
        hostSide = .ok cpus ∧ novaSide = .ok cpus) ↔
      ∃ c ∈ specText items, c.isDigit = false := by
  have specNonempty := specText_ne_nil nonempty
  rw [loaded, read, strip_specText, ← isAllDigits_eq_false_iff specNonempty]
  constructor
  · intro agree
    obtain ⟨cpus, _, hostRead, _⟩ := agree
    exact (parseNodeValue_loadScalar_iff.mp hostRead).1
  · intro text
    obtain ⟨cpus, parsed⟩ := parseCpuSpec_specText items
    exact ⟨cpus, parsed, parseNodeValue_loadScalar_iff.mpr ⟨text, parsed⟩,
      cpusOf_of_ne_nil specNonempty parsed⟩

/-- The two sources agree on a CPU set in `nova.conf` exactly if it is not a
plain number, and they never agree on a missing one. -/
theorem cpuSets_agree_iff (deployment : Deployment) :
    (∀ items : List SpecItem, items ≠ [] →
      (deployment.conf.cpuSharedSet = some (specText items) →
        ((∃ cpus, parseCpuSpec int (specText items) = .ok cpus ∧
            deployment.SharedAgree cpus) ↔
          ∃ c ∈ specText items, c.isDigit = false)) ∧
      (deployment.conf.cpuDedicatedSet = some (specText items) →
        ((∃ cpus, parseCpuSpec int (specText items) = .ok cpus ∧
            deployment.DedicatedAgree cpus) ↔
          ∃ c ∈ specText items, c.isDigit = false))) ∧
    (deployment.conf.cpuSharedSet = none → ¬ deployment.SharedAgree ∅) ∧
    (deployment.conf.cpuDedicatedSet = none → ¬ deployment.DedicatedAgree ∅) := by
  refine ⟨?_, ?_, ?_⟩
  · intro items nonempty
    refine ⟨?_, ?_⟩
    · intro present
      apply agree_on_specText_iff nonempty
      · rw [getHostCpuSharedSet_nodes, present]
        rfl
      · rw [getCpuSharedSet_eq, present]
        rfl
    · intro present
      apply agree_on_specText_iff nonempty
      · rw [getHostCpuDedicatedSet_nodes, present]
        rfl
      · exact getCpuDedicatedSet_of_some deployment present
  · intro absent agree
    have hostSide := agree.1
    rw [getHostCpuSharedSet_nodes, absent] at hostSide
    cases hostSide
  · intro absent agree
    have hostSide := agree.1
    rw [getHostCpuDedicatedSet_nodes, absent] at hostSide
    cases hostSide

/-- A host with one dedicated CPU and without shared CPUs. -/
def oneDedicatedCpu : Deployment where
  hosts := [("compute-host".toList, ⟨none, some "3".toList⟩)]
  host := "compute-host".toList
  conf := ⟨none, some "3".toList⟩
  known := rfl
  path := CommandLine.novaCpuConf
  files := fun _ key =>
    if key = CommandLine.cpuDedicatedSet then some (.ofText "3".toList)
    else none
  shared := rfl
  dedicated := rfl

theorem oneDedicatedCpu_disagree :
    getHostCpuDedicatedSet oneDedicatedCpu.nodes oneDedicatedCpu.host =
        .error .attributeError ∧
      getCpuDedicatedSet int oneDedicatedCpu.getConfOpt = .ok {3} ∧
      getHostCpuSharedSet oneDedicatedCpu.nodes oneDedicatedCpu.host =
        .error .attributeError ∧
      getCpuSharedSet int oneDedicatedCpu.getConfOpt = .ok ∅ := by
  refine ⟨rfl, ?_, rfl, ?_⟩
  · rw [getCpuDedicatedSet_of_some oneDedicatedCpu rfl]
    decide
  · rw [getCpuSharedSet_eq]
    rfl

end Whitebox.Compute
