import Whitebox.Compute.Fixtures

/-!
# The clean-ups of a test

The clean-ups of a test run in the opposite order of their registration, all of
them, whatever they raise.  Each has its own stretch of the exchanges with the
services, in which it goes for the resource that it was registered for.  A
volume type takes along the volumes that are listed with its name.
-/

namespace Whitebox.Compute.Fixtures

open Whitebox.Effect
open Whitebox.Python

section Cleanups

def Raised (exchange : FixtureExchange) : Prop :=
  ∃ error, exchange.outcome = .error error

/-- The only deletions are those of the volumes. -/
def DeletesOnly (wanted : List Volume) (exchanges : List FixtureExchange) :
    Prop :=
  ∀ exchange ∈ exchanges, ∀ kind id, exchange.request = .delete kind id →
    kind = .volume ∧ ∃ volume ∈ wanted, volume.id = id

/-- What the loop over the volumes of a type exchanges. -/
structure LoopsOver (wanted : List Volume) (exchanges : List FixtureExchange)
    (outcome : Except FixtureExn Unit) : Prop where
  only : DeletesOnly wanted exchanges
  returns : outcome = .ok ⟨⟩ → (∀ exchange ∈ exchanges, ¬ Raised exchange) ∧
    ∀ volume ∈ wanted, ∃ answer, ⟨.delete .volume volume.id, answer⟩ ∈ exchanges
  raises : ∀ error, outcome = .error error →
    ∃ exchange ∈ exchanges, Raised exchange

/-- The clean-up of a volume type deletes the volumes that are listed with its
name, and then the type, unless a request raises on the way. -/
inductive Purges (volumeType : VolumeType) : List FixtureExchange → Prop where
  | unlisted (error : FixtureExn) :
      Purges volumeType [⟨.listVolumes, .error error⟩]
  | stopped {volumes : List Volume} {exchanges : List FixtureExchange}
      (only : DeletesOnly
        (volumes.filter (·.volumeType == some volumeType.name)) exchanges)
      (raised : ∃ exchange ∈ exchanges, Raised exchange) :
      Purges volumeType (⟨.listVolumes, .ok volumes⟩ :: exchanges)
  | purged {volumes : List Volume} {exchanges : List FixtureExchange}
      (only : DeletesOnly
        (volumes.filter (·.volumeType == some volumeType.name)) exchanges)
      (answered : ∀ exchange ∈ exchanges, ¬ Raised exchange)
      (each : ∀ volume ∈ volumes, volume.volumeType = some volumeType.name →
        ∃ answer, ⟨.delete .volume volume.id, answer⟩ ∈ exchanges)
      (answer : Except FixtureExn Unit) :
      Purges volumeType (⟨.listVolumes, .ok volumes⟩ :: (exchanges ++
        [⟨.delete .volumeType volumeType.id, answer⟩]))

/-- What a clean-up exchanges with the services. -/
def Attempts : Cleanup → List FixtureExchange → Prop
  | .delete kind id, exchanges =>
      ∃ answer, exchanges = [⟨.delete kind id, answer⟩]
  | .waitForDeletion kind id, exchanges =>
      ∃ answer, exchanges = [⟨.waitForDeletion kind id, answer⟩]
  | .adminDeleteServer serverId, exchanges => ∃ answer later,
      exchanges = ⟨.delete .server serverId, answer⟩ :: later ∧
        ∀ exchange ∈ later, exchange.request = .waitForDeletion .server serverId
  | .cleanupVolumeType volumeType, exchanges => Purges volumeType exchanges

variable {services : Services}

theorem LoopsOver.append {wanted others : List Volume}
    {before after : List FixtureExchange} {outcome : Except FixtureExn Unit}
    (first : LoopsOver wanted before (.ok ⟨⟩))
    (second : LoopsOver others after outcome) :
    LoopsOver (wanted ++ others) (before ++ after) outcome where
  only := by
    intro exchange member kind id same
    rcases List.mem_append.mp member with early | late
    · obtain ⟨rfl, volume, inWanted, named⟩ :=
        first.only exchange early kind id same
      exact ⟨rfl, volume, List.mem_append_left others inWanted, named⟩
    · obtain ⟨rfl, volume, inOthers, named⟩ :=
        second.only exchange late kind id same
      exact ⟨rfl, volume, List.mem_append_right wanted inOthers, named⟩
  returns := by
    intro returned
    obtain ⟨answered, each⟩ := first.returns rfl
    obtain ⟨answeredToo, eachToo⟩ := second.returns returned
    constructor
    · intro exchange member
      rcases List.mem_append.mp member with early | late
      · exact answered exchange early
      · exact answeredToo exchange late
    · intro volume member
      rcases List.mem_append.mp member with inWanted | inOthers
      · obtain ⟨answer, sent⟩ := each volume inWanted
        exact ⟨answer, List.mem_append_left after sent⟩
      · obtain ⟨answer, sent⟩ := eachToo volume inOthers
        exact ⟨answer, List.mem_append_right before sent⟩
  raises := by
    intro error raised
    obtain ⟨exchange, member, raisedThere⟩ := second.raises error raised
    exact ⟨exchange, List.mem_append_right before member, raisedThere⟩

/-- A loop that raises does not get to the other volumes. -/
theorem LoopsOver.of_raised {wanted : List Volume}
    {exchanges : List FixtureExchange} {error : FixtureExn}
    (loops : LoopsOver wanted exchanges (.error error)) (others : List Volume) :
    LoopsOver (wanted ++ others) exchanges (.error error) where
  only := by
    intro exchange member kind id same
    obtain ⟨rfl, volume, inWanted, named⟩ :=
      loops.only exchange member kind id same
    exact ⟨rfl, volume, List.mem_append_left others inWanted, named⟩
  returns := by
    intro returned
    cases returned
  raises := loops.raises

theorem not_raised_of_ok {request : FixtureRequest}
    {outcome : Except FixtureExn request.Answer} {answer : request.Answer}
    (returned : outcome = .ok answer) : ¬ Raised ⟨request, outcome⟩ := by
  rintro ⟨error, raised⟩
  cases returned.symm.trans raised

theorem loopsOver_delete (volume : Volume) (outcome : Except FixtureExn Unit) :
    LoopsOver [volume] [⟨.delete .volume volume.id, outcome⟩] outcome where
  only := by
    intro exchange member kind id same
    cases List.mem_singleton.mp member
    cases same
    exact ⟨rfl, volume, List.mem_cons_self, rfl⟩
  returns := by
    intro returned
    exact ⟨List.forall_mem_singleton.mpr (not_raised_of_ok returned),
      List.forall_mem_singleton.mpr ⟨outcome, List.mem_cons_self⟩⟩
  raises := by
    intro error raised
    exact ⟨_, List.mem_cons_self, error, raised⟩

theorem loopsOver_wait (id : Str) (outcome : Except FixtureExn Unit) :
    LoopsOver [] [⟨.waitForDeletion .volume id, outcome⟩] outcome where
  only := by
    intro exchange member kind other same
    cases List.mem_singleton.mp member
    cases same
  returns := by
    intro returned
    exact ⟨List.forall_mem_singleton.mpr (not_raised_of_ok returned),
      List.forall_mem_nil _⟩
  raises := by
    intro error raised
    exact ⟨_, List.mem_cons_self, error, raised⟩

theorem deleteVolume_tells (volume : Volume) :
    Dialogue.Tells (deleteVolume services volume) (LoopsOver [volume]) := by
  apply Dialogue.Tells.seq (Dialogue.Tells.ask services _)
  · intro later error sent
    rw [sent]
    exact loopsOver_delete volume _
  · intro before _ sent
    rw [sent]
    apply (Dialogue.Tells.ask services _).consequence
    intro after outcome waited
    rw [waited]
    exact (loopsOver_delete volume _).append (loopsOver_wait volume.id outcome)

theorem forM_deleteVolume_tells (wanted : List Volume) :
    Dialogue.Tells (wanted.forM (deleteVolume services))
      (LoopsOver wanted) := by
  induction wanted with
  | nil =>
      apply Dialogue.Tells.ret
      refine ⟨List.forall_mem_nil _, fun _ => ⟨List.forall_mem_nil _,
        List.forall_mem_nil _⟩, ?_⟩
      intro error raised
      cases raised
  | cons volume wanted induction =>
      rw [List.forM_eq_forM, List.forM_cons, ← List.forM_eq_forM]
      apply Dialogue.Tells.seq (deleteVolume_tells volume)
      · intro later error loops
        exact loops.of_raised wanted
      · intro before _ first
        apply induction.consequence
        intro after outcome second
        exact first.append second

theorem cleanupVolumeType_tells (volumeType : VolumeType) :
    Dialogue.Tells (cleanupVolumeType services volumeType) fun exchanges _ =>
      Purges volumeType exchanges := by
  apply Dialogue.Tells.seq (Dialogue.Tells.ask services _)
  · intro later error sent
    rw [sent]
    exact .unlisted error
  intro listing volumes sent
  rw [sent]
  apply Dialogue.Tells.seq (forM_deleteVolume_tells _)
  · intro exchanges error loops
    exact .stopped loops.only (loops.raises error rfl)
  intro exchanges _ loops
  apply (Dialogue.Tells.ask services _).consequence
  intro last answer deleted
  rw [deleted]
  obtain ⟨answered, each⟩ := loops.returns rfl
  apply Purges.purged loops.only answered
  intro volume member typed
  exact each volume (List.mem_filter.mpr ⟨member, beq_iff_eq.mpr typed⟩)

/-- What is caught leaves the exchanges as they are. -/
theorem tells_of_caught {action : FixtureRun Unit}
    {spec : List FixtureExchange → Prop}
    (tells : Dialogue.Tells action fun exchanges _ => spec exchanges) :
    Dialogue.Tells (attempt action) fun exchanges outcome =>
      outcome = .ok ⟨⟩ ∧ spec exchanges := by
  apply Dialogue.Tells.tryExcept tells
  · intro exchanges value holds
    exact ⟨rfl, holds⟩
  · intro exchanges error holds
    apply Dialogue.Tells.ret
    rw [List.append_nil]
    exact ⟨rfl, holds⟩

theorem adminDeleteServer_tells (serverId : Str) :
    Dialogue.Tells (adminDeleteServer services serverId) fun exchanges _ =>
      Attempts (.adminDeleteServer serverId) exchanges := by
  apply Dialogue.Tells.consequence (tells_of_caught (Dialogue.Tells.seq
    (Dialogue.Tells.ask services (.delete .server serverId)) _ _))
  · intro exchanges outcome attempts
    exact attempts.2
  · intro exchanges error sent
    exact ⟨_, [], sent, List.forall_mem_nil _⟩
  · intro before answer sent
    apply (Dialogue.Tells.ask services _).consequence
    intro after outcome waited
    rw [sent, waited]
    exact ⟨_, _, rfl, List.forall_mem_singleton.mpr rfl⟩

/-- Every clean-up goes for what it is to get rid of. -/
theorem run_tells (cleanup : Cleanup) :
    Dialogue.Tells (cleanup.run services) fun exchanges _ =>
      Attempts cleanup exchanges := by
  cases cleanup with
  | delete kind id =>
      apply (Dialogue.Tells.ask services _).consequence
      intro exchanges answer sent
      exact ⟨answer, sent⟩
  | waitForDeletion kind id =>
      apply (Dialogue.Tells.ask services _).consequence
      intro exchanges answer sent
      exact ⟨answer, sent⟩
  | adminDeleteServer serverId => exact adminDeleteServer_tells serverId
  | cleanupVolumeType volumeType => exact cleanupVolumeType_tells volumeType

/-- The clean-ups run one after the other, all of them. -/
theorem doCleanups_attempts (services : Services) (fixture : Fixture) :
    ∃ parts, (doCleanups services fixture).2.history =
        fixture.history ++ parts.flatten ∧
      List.Forall₂ Attempts fixture.memory.test parts := by
  obtain ⟨outcome, later, ran, _, parts, rfl, attempts⟩ :=
    Dialogue.Tells.forM (fun cleanup _ => tells_of_caught (run_tells cleanup))
      { fixture with memory := { fixture.memory with test := [] } }
  refine ⟨parts, ?_, attempts⟩
  rw [doCleanups, ran]
  rfl

/-- A flavor whose extra specs cannot be set stays behind. -/
example :
    let services : Services := fun _ request =>
      match request with
      | .create _ _ => .ok "flavor".toList
      | _ => .error (.other "Unauthorized".toList)
    let tested := runCalls services [.generateVgpuFlavor]
    tested.history.map Exchange.request = [.create .flavor none,
        .setFlavorExtraSpec "flavor".toList] ∧
      tested.memory.ofClass = [] :=
  ⟨rfl, rfl⟩

end Cleanups

section Ownership

theorem Justified.mono {before more : List FixtureExchange}
    {exchange : FixtureExchange} (justified : Justified before exchange) :
    Justified (before ++ more) exchange := by
  intro kind id same
  rw [List.filterMap_append]
  rcases justified kind id same with
    ⟨cleanup, owes, target⟩ | ⟨isVolume, volumes, volumeType, listed, owes, there⟩
  · exact .inl ⟨cleanup, List.mem_append_left _ owes, target⟩
  · exact .inr ⟨isVolume, volumes, volumeType, List.mem_append_left more listed,
      List.mem_append_left _ owes, there⟩

theorem obeys_of_forall_justified {past exchanges : List FixtureExchange}
    (justified : ∀ exchange ∈ exchanges, Justified past exchange) :
    Obeys (fun before => Justified (past ++ before)) exchanges := by
  intro before exchange after shape
  apply Justified.mono
  apply justified
  rw [shape]
  exact List.mem_append_right before List.mem_cons_self

theorem justified_target {past : List FixtureExchange} {cleanup : Cleanup}
    (owes : cleanup ∈ past.filterMap owed) {exchange : FixtureExchange}
    (deletes : ∀ kind id, exchange.request = .delete kind id →
      cleanup.target = (kind, id)) :
    Justified past exchange := by
  intro kind id same
  exact .inl ⟨cleanup, owes, deletes kind id same⟩

theorem obeys_target {past : List FixtureExchange} {cleanup : Cleanup}
    (owes : cleanup ∈ past.filterMap owed) {exchange : FixtureExchange}
    (deletes : ∀ kind id, exchange.request = .delete kind id →
      cleanup.target = (kind, id)) :
    Obeys (fun before => Justified (past ++ before)) [exchange] := by
  apply obeys_of_forall_justified
  rw [List.forall_mem_singleton]
  exact justified_target owes deletes

/-- A volume of a type of the test is listed before it is deleted. -/
theorem justified_volume {past : List FixtureExchange} {volumes : List Volume}
    {volumeType : VolumeType}
    (owes : .cleanupVolumeType volumeType ∈ past.filterMap owed)
    {exchanges : List FixtureExchange}
    (only : DeletesOnly
      (volumes.filter (·.volumeType == some volumeType.name)) exchanges) :
    ∀ exchange ∈ exchanges,
      Justified (past ++ [⟨.listVolumes, .ok volumes⟩]) exchange := by
  intro exchange member kind id same
  obtain ⟨rfl, volume, wanted, rfl⟩ := only exchange member kind id same
  obtain ⟨listed, typed⟩ := List.mem_filter.mp wanted
  refine .inr ⟨rfl, volumes, volumeType, ?_, ?_, ?_⟩
  · exact List.mem_append_right past List.mem_cons_self
  · rw [List.filterMap_append]
    exact List.mem_append_left _ owes
  · rw [← beq_iff_eq.mp typed]
    exact listed

theorem Purges.obeys {past exchanges : List FixtureExchange}
    {volumeType : VolumeType} (purges : Purges volumeType exchanges)
    (owes : .cleanupVolumeType volumeType ∈ past.filterMap owed) :
    Obeys (fun before => Justified (past ++ before)) exchanges := by
  -- The listing comes first and deletes nothing.
  have listing : ∀ outcome later,
      (∀ exchange ∈ later,
        Justified (past ++ [⟨.listVolumes, outcome⟩]) exchange) →
      Obeys (fun before => Justified (past ++ before))
        (⟨.listVolumes, outcome⟩ :: later) := by
    intro outcome later justified
    rw [← List.singleton_append, obeys_append_iff]
    constructor
    · apply obeys_target owes
      intro kind id same
      cases same
    · simp only [← List.append_assoc]
      exact obeys_of_forall_justified justified
  cases purges with
  | unlisted error => exact listing _ [] (List.forall_mem_nil _)
  | stopped only raised => exact listing _ _ (justified_volume owes only)
  | @purged volumes exchanges only answered each answer =>
      apply listing
      intro exchange member
      rcases List.mem_append.mp member with early | last
      · exact justified_volume owes only exchange early
      · rw [List.mem_singleton.mp last]
        apply Justified.mono
        apply justified_target owes
        intro kind id same
        cases same
        rfl

/-- The deletions of a clean-up are justified by the creation that it was
registered for. -/
theorem Attempts.obeys {past exchanges : List FixtureExchange}
    {cleanup : Cleanup} (attempts : Attempts cleanup exchanges)
    (owes : cleanup ∈ past.filterMap owed) :
    Obeys (fun before => Justified (past ++ before)) exchanges := by
  cases cleanup with
  | cleanupVolumeType volumeType => exact Purges.obeys attempts owes
  | adminDeleteServer serverId =>
      obtain ⟨answer, later, rfl, waits⟩ := attempts
      apply obeys_of_forall_justified
      rw [List.forall_mem_cons]
      constructor
      · apply justified_target owes
        intro kind id same
        cases same
        rfl
      · intro exchange member
        apply justified_target owes
        intro kind id same
        rw [waits exchange member] at same
        cases same
  | delete kind id =>
      obtain ⟨answer, rfl⟩ := attempts
      apply obeys_target owes
      intro kind id same
      cases same
      rfl
  | waitForDeletion kind id =>
      obtain ⟨answer, rfl⟩ := attempts
      apply obeys_target owes
      intro kind id same
      cases same

theorem obeys_parts {past : List FixtureExchange} {cleanups : List Cleanup}
    {parts : List (List FixtureExchange)} (obeys : Obeys Justified past)
    (owes : ∀ cleanup ∈ cleanups, cleanup ∈ past.filterMap owed)
    (attempts : List.Forall₂ Attempts cleanups parts) :
    Obeys Justified (past ++ parts.flatten) := by
  induction attempts generalizing past with
  | nil =>
      rw [List.flatten_nil, List.append_nil]
      exact obeys
  | cons first later induction =>
      rw [List.flatten_cons, ← List.append_assoc]
      apply induction
      · exact obeys_append_iff.mpr
          ⟨obeys, first.obeys (owes _ List.mem_cons_self)⟩
      · intro cleanup member
        rw [List.filterMap_append]
        exact List.mem_append_left _
          (owes cleanup (List.mem_cons_of_mem _ member))

/-- Whatever is called and whatever is answered, every deletion is one of
something that the test has created, or of a volume that was listed with the
name of a volume type that the test has created. -/
theorem doCleanups_deletes_own (services : Services) (calls : List Call) :
    Obeys Justified
      (doCleanups services (runCalls services calls)).2.history := by
  have settled := runCalls_settled services calls
  obtain ⟨parts, history, attempts⟩ :=
    doCleanups_attempts services (runCalls services calls)
  rw [history]
  apply obeys_parts settled.justified _ attempts
  intro cleanup registered
  rw [← List.mem_reverse, ← settled.test]
  exact registered

end Ownership

end Whitebox.Compute.Fixtures
