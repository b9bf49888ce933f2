import Mathlib.Data.List.Nodup
import Whitebox.Common.Waiters
import Whitebox.Posix.Regex

/-!
# Waiting for the shutdown of a domain

`_wait_for_domain_shutdown` lists the running domains again and again until the
name of a domain is not in the list any more.  It looks for the name in the
text of the list, where it can be a part of another name, and both branches of
its test leave the turn before the sleep at the end of it.
-/

namespace Whitebox.Compute

open Whitebox.Python
open Whitebox.Effect
open Whitebox.Common

/-- What `virsh list --name` prints: the names of the running domains. -/
structure DomainList where
  names : List Str
  oneLine : ∀ name ∈ names, '\n' ∉ name
  distinct : names.Nodup

def DomainList.text (domains : DomainList) : Str :=
  Posix.terminated domains.names

/-- What can be seen of the wait: the polls with their numbers and the
sleeps. -/
inductive ShutdownEvent where
  | poll (n : Nat)
  | sleep (interval : Int)
deriving DecidableEq

/-- How a statement of a loop body is left: with `continue`, with `break` or
for the statement after it. -/
inductive Flow where
  | next
  | leave
  | onward

def shutdownTimeout : WaitExn :=
  .timeoutException
    ["Failed to shutdown domain within the required time.".toList]

/-- `if domain_name in domains: continue else: break`. -/
def testDomain (domainName domains : Str) : Flow :=
  if contains domains domainName then .next else .leave

/-- A call of `_wait_for_domain_shutdown` with the readings of the clock, the
first of which is the start time, and the outputs of its polls. -/
structure ShutdownWait where
  timeout : Int
  interval : Int
  clock : Nat → ℚ
  nondecreasing : ∀ n, clock n ≤ clock (n + 1)
  outputs : Nat → DomainList
  domainName : Str

namespace ShutdownWait

variable (wait : ShutdownWait)

/-- The loop condition in the given turn. -/
def Timely (n : Nat) : Prop :=
  inTime wait.timeout wait.clock n

instance (n : Nat) : Decidable (wait.Timely n) :=
  inferInstanceAs (Decidable (inTime _ _ _))

/-- The text of an output has the name in it. -/
def Mentions (n : Nat) : Prop :=
  contains (wait.outputs n).text wait.domainName = true

instance (n : Nat) : Decidable (wait.Mentions n) :=
  inferInstanceAs (Decidable (_ = true))

/-- The name is a whole line of an output. -/
def Lists (n : Nat) : Prop :=
  wait.domainName ∈ Posix.lines (wait.outputs n).text

/-- One turn of the loop, with its number and the events before it. -/
def turn (state : Nat × List ShutdownEvent) :
    Turn (Nat × List ShutdownEvent)
      (List ShutdownEvent × Except WaitExn Unit) :=
  let (n, log) := state
  if wait.Timely n then
    let log := log ++ [.poll n]
    match testDomain wait.domainName (wait.outputs n).text with
    | .next => .again (n + 1, log)
    | .leave => .done (log, .ok ())
    | .onward => .again (n + 1, log ++ [.sleep wait.interval])
  else
    .done (log, .error shutdownTimeout)

/-- `_wait_for_domain_shutdown` ends after the events with the outcome. -/
def WaitForDomainShutdown (log : List ShutdownEvent)
    (outcome : Except WaitExn Unit) : Prop :=
  Turn.Ends wait.turn (0, []) (log, outcome)

/-- The events at the end of the wait or between two of its turns. -/
def Happens (log : List ShutdownEvent) : Prop :=
  (∃ n, Turn.Reaches wait.turn (0, []) (n, log)) ∨
    ∃ outcome, wait.WaitForDomainShutdown log outcome

def Polled (n : Nat) : Prop :=
  ∃ log, wait.Happens log ∧ .poll n ∈ log

/-- The wait returns at the first poll without the name, and gives up only if
all polls had it. -/
structure Watches : Prop where
  returns : ∀ n, wait.Polled n → ¬ wait.Lists n →
    ∃ before, wait.WaitForDomainShutdown (before ++ [.poll n]) (.ok ())
  first : ∀ log, wait.WaitForDomainShutdown log (.ok ()) →
    ∃ before n, log = before ++ [.poll n] ∧ ¬ wait.Lists n ∧
      ∀ m, .poll m ∈ before → wait.Lists m
  raises : ∀ log error, wait.WaitForDomainShutdown log (.error error) →
    ∀ n, .poll n ∈ log → wait.Lists n

/-- There is one sleep between a poll and the next one. -/
def SleepsBetween : Prop :=
  ∀ log, wait.Happens log →
    ∀ (before between after : List ShutdownEvent) (m n : Nat),
      log = before ++ .poll m :: (between ++ .poll n :: after) →
        (∀ k, .poll k ∉ between) → between = [.sleep wait.interval]

end ShutdownWait

section Trace

variable {wait : ShutdownWait}

/-- The polls of a number of turns. -/
def pollsBefore (n : Nat) : List ShutdownEvent :=
  (List.range n).map .poll

theorem pollsBefore_succ (n : Nat) :
    pollsBefore (n + 1) = pollsBefore n ++ [.poll n] := by
  rw [pollsBefore, List.range_succ, List.map_append]
  rfl

theorem poll_mem_pollsBefore_iff {m n : Nat} :
    ShutdownEvent.poll m ∈ pollsBefore n ↔ m < n := by
  simp [pollsBefore]

/-- The state before each turn. -/
def shutdownState (n : Nat) : Nat × List ShutdownEvent :=
  (n, pollsBefore n)

/-- What a turn comes to.  None of them reaches the sleep. -/
theorem turn_shutdownState (n : Nat) :
    wait.turn (shutdownState n) =
      if wait.Timely n then
        if wait.Mentions n then .again (shutdownState (n + 1))
        else .done (pollsBefore (n + 1), .ok ())
      else .done (pollsBefore n, .error shutdownTimeout) := by
  have test : testDomain wait.domainName (wait.outputs n).text =
      if wait.Mentions n then .next else .leave := rfl
  unfold ShutdownWait.turn shutdownState
  rw [pollsBefore_succ]
  dsimp only
  rw [test]
  by_cases mentions : wait.Mentions n
  · rw [if_pos mentions, if_pos mentions]
  · rw [if_neg mentions, if_neg mentions]

theorem turn_again_iff {n : Nat} {next : Nat × List ShutdownEvent} :
    wait.turn (shutdownState n) = .again next ↔
      next = shutdownState (n + 1) ∧ wait.Timely n ∧
        wait.Mentions n := by
  rw [turn_shutdownState]
  by_cases timely : wait.Timely n
  · by_cases mentions : wait.Mentions n
    · simp [timely, mentions, eq_comm]
    · simp [timely, mentions]
  · simp [timely]

theorem turn_done_iff {n : Nat} {log : List ShutdownEvent}
    {outcome : Except WaitExn Unit} :
    wait.turn (shutdownState n) = .done (log, outcome) ↔
      (¬ wait.Timely n ∧ log = pollsBefore n ∧
        outcome = .error shutdownTimeout) ∨
      (wait.Timely n ∧ ¬ wait.Mentions n ∧ log = pollsBefore (n + 1) ∧
        outcome = .ok ()) := by
  rw [turn_shutdownState]
  by_cases timely : wait.Timely n
  · by_cases mentions : wait.Mentions n
    · simp [timely, mentions]
    · simp [timely, mentions, eq_comm]
  · simp [timely, eq_comm]

theorem turn_follows (n : Nat) (next : Nat × List ShutdownEvent)
    (continued : wait.turn (shutdownState n) = .again next) :
    next = shutdownState (n + 1) :=
  (turn_again_iff.mp continued).1

/-- The wait goes on while the polls are in time and have the name in their
text, and ends at the first turn for which this is not so. -/
theorem waitForDomainShutdown_iff {log : List ShutdownEvent}
    {outcome : Except WaitExn Unit} :
    wait.WaitForDomainShutdown log outcome ↔
      ∃ n, ((¬ wait.Timely n ∧ log = pollsBefore n ∧
            outcome = .error shutdownTimeout) ∨
          (wait.Timely n ∧ ¬ wait.Mentions n ∧ log = pollsBefore (n + 1) ∧
            outcome = .ok ())) ∧
        ∀ m < n, wait.Timely m ∧ wait.Mentions m := by
  have loop : wait.WaitForDomainShutdown log outcome ↔ _ :=
    Turn.ends_iff_exists turn_follows
  simp only [loop, turn_done_iff, turn_again_iff, true_and]

/-- The polls that happen are in time, and all but the last have the name in
their text. -/
theorem happens_iff {log : List ShutdownEvent} :
    wait.Happens log ↔
      ∃ n, log = pollsBefore n ∧
        ∀ m < n, wait.Timely m ∧ (m + 1 < n → wait.Mentions m) := by
  have reaches : ∀ state, Turn.Reaches wait.turn (0, []) state ↔ _ :=
    fun state => Turn.reaches_iff_exists turn_follows
  simp only [turn_again_iff, true_and] at reaches
  constructor
  · intro happens
    rcases happens with ⟨_, reached⟩ | ⟨outcome, ended⟩
    · obtain ⟨n, same, before⟩ := (reaches _).mp reached
      have sameLog : log = pollsBefore n := congrArg Prod.snd same
      exact ⟨n, sameLog, fun m below => ⟨(before m below).1,
        fun _ => (before m below).2⟩⟩
    · obtain ⟨n, last, before⟩ := waitForDomainShutdown_iff.mp ended
      rcases last with ⟨_, rfl, _⟩ | ⟨timely, _, rfl, _⟩
      · exact ⟨n, rfl, fun m below => ⟨(before m below).1,
          fun _ => (before m below).2⟩⟩
      · refine ⟨n + 1, rfl, Nat.forall_lt_succ_right.mpr ⟨?_, timely, ?_⟩⟩
        · intro m below
          exact ⟨(before m below).1, fun _ => (before m below).2⟩
        · intro less
          exact absurd less (Nat.lt_irrefl _)
  · intro found
    obtain ⟨n, rfl, before⟩ := found
    cases n with
    | zero => exact .inl ⟨0, .start⟩
    | succ n =>
        obtain ⟨earlier, timely, _⟩ := Nat.forall_lt_succ_right.mp before
        have earlier : ∀ m < n, wait.Timely m ∧ wait.Mentions m := by
          intro m below
          exact ⟨(earlier m below).1, (earlier m below).2 (by omega)⟩
        by_cases mentions : wait.Mentions n
        · exact .inl ⟨n + 1, (reaches _).mpr ⟨n + 1, rfl,
            Nat.forall_lt_succ_right.mpr ⟨earlier, timely, mentions⟩⟩⟩
        · exact .inr ⟨.ok (), waitForDomainShutdown_iff.mpr
            ⟨n, .inr ⟨timely, mentions, rfl, rfl⟩, earlier⟩⟩

theorem polled_iff {n : Nat} :
    wait.Polled n ↔
      wait.Timely n ∧ ∀ m < n, wait.Timely m ∧ wait.Mentions m := by
  constructor
  · intro polled
    obtain ⟨log, happens, member⟩ := polled
    obtain ⟨count, rfl, before⟩ := happens_iff.mp happens
    have below := poll_mem_pollsBefore_iff.mp member
    refine ⟨(before n below).1, ?_⟩
    intro m less
    obtain ⟨timely, mentions⟩ := before m (by omega)
    exact ⟨timely, mentions (by omega)⟩
  · intro found
    obtain ⟨timely, before⟩ := found
    refine ⟨pollsBefore (n + 1), happens_iff.mpr ⟨n + 1, rfl,
      Nat.forall_lt_succ_right.mpr ⟨?_, timely, ?_⟩⟩,
      poll_mem_pollsBefore_iff.mpr n.lt_succ_self⟩
    · intro m below
      exact ⟨(before m below).1, fun _ => (before m below).2⟩
    · intro less
      exact absurd less (Nat.lt_irrefl _)

theorem polled_of_lt {m n : Nat}
    (before : ∀ m < n, wait.Timely m ∧ wait.Mentions m) (below : m < n) :
    wait.Polled m := by
  apply polled_iff.mpr
  refine ⟨(before m below).1, ?_⟩
  intro k less
  exact before k (less.trans below)

end Trace

section Protocol

variable {wait : ShutdownWait}

/-- A whole line of an output is a part of its text. -/
theorem mentions_of_lists {n : Nat} (lists : wait.Lists n) :
    wait.Mentions n := by
  have inNames : wait.domainName ∈ (wait.outputs n).names := by
    have names := Posix.lines_terminated (wait.outputs n).oneLine
    rw [ShutdownWait.Lists, DomainList.text, names] at lists
    exact lists
  unfold ShutdownWait.Mentions contains DomainList.text Posix.terminated
  rw [decide_eq_true_iff]
  obtain ⟨before, after, names⟩ := List.append_of_mem inNames
  rw [names, List.flatMap_append, List.flatMap_cons]
  refine ⟨before.flatMap (· ++ ['\n']),
    '\n' :: after.flatMap (· ++ ['\n']), ?_⟩
  simp

/-- The wait watches for the name exactly if a poll that has it in its text has
it as a line. -/
theorem watches_iff :
    wait.Watches ↔
      ∀ n, wait.Polled n → wait.Mentions n → wait.Lists n := by
  constructor
  · intro watches n polled mentions
    by_contra absent
    obtain ⟨before, returned⟩ := watches.returns n polled absent
    obtain ⟨last, ended, _⟩ := waitForDomainShutdown_iff.mp returned
    rcases ended with ⟨_, _, raised⟩ | ⟨_, unmentioned, same, _⟩
    · cases raised
    · rw [pollsBefore_succ] at same
      obtain ⟨_, isLast⟩ := List.append_singleton_inj.mp same
      cases isLast
      exact unmentioned mentions
  · intro faithful
    refine ⟨?_, ?_, ?_⟩
    · intro n polled absent
      obtain ⟨timely, before⟩ := polled_iff.mp polled
      have unmentioned : ¬ wait.Mentions n :=
        fun mentions => absent (faithful n polled mentions)
      refine ⟨pollsBefore n, waitForDomainShutdown_iff.mpr ⟨n, .inr ?_, before⟩⟩
      exact ⟨timely, unmentioned, (pollsBefore_succ n).symm, rfl⟩
    · intro log returned
      obtain ⟨n, ended, before⟩ := waitForDomainShutdown_iff.mp returned
      rcases ended with ⟨_, _, raised⟩ | ⟨_, unmentioned, rfl, _⟩
      · cases raised
      · refine ⟨pollsBefore n, n, pollsBefore_succ n,
          fun lists => unmentioned (mentions_of_lists lists), ?_⟩
        intro m member
        have below := poll_mem_pollsBefore_iff.mp member
        exact faithful m (polled_of_lt before below) (before m below).2
    · intro log error raised n member
      obtain ⟨last, ended, before⟩ := waitForDomainShutdown_iff.mp raised
      rcases ended with ⟨_, rfl, _⟩ | ⟨_, _, _, returned⟩
      · have below := poll_mem_pollsBefore_iff.mp member
        exact faithful n (polled_of_lt before below) (before n below).2
      · cases returned

/-- As no sleep is ever reached, the wait sleeps between its polls exactly if
there is no second one. -/
theorem sleepsBetween_iff : wait.SleepsBetween ↔ ¬ wait.Polled 1 := by
  constructor
  · intro sleeps polled
    have happens : wait.Happens (pollsBefore 2) := by
      obtain ⟨timely, before⟩ := polled_iff.mp polled
      have first := before 0 Nat.zero_lt_one
      apply happens_iff.mpr
      refine ⟨2, rfl, ?_⟩
      intro m below
      have turns : m = 0 ∨ m = 1 := by omega
      rcases turns with rfl | rfl
      · exact ⟨first.1, fun _ => first.2⟩
      · exact ⟨timely, fun less => absurd less (Nat.lt_irrefl _)⟩
    have asleep := sleeps (pollsBefore 2) happens [] [] [] 0 1 rfl (by simp)
    cases asleep
  · intro once log happens before between after m n shape
    obtain ⟨count, rfl, polls⟩ := happens_iff.mp happens
    have lengths := congrArg List.length shape
    simp only [pollsBefore, List.length_map, List.length_range,
      List.length_append, List.length_cons] at lengths
    have second : wait.Polled 1 :=
      ⟨_, happens, poll_mem_pollsBefore_iff.mpr (by omega)⟩
    exact absurd second once

end Protocol

/-- The wait follows its protocol exactly if there is no turn, or the first poll
has the name nowhere in its text, or the first poll has it as a line and there
is no time for a second one. -/
theorem waitForDomainShutdown_follows_protocol_iff (wait : ShutdownWait) :
    wait.Watches ∧ wait.SleepsBetween ↔
      (wait.Timely 0 → wait.Mentions 0 → wait.Lists 0 ∧ ¬ wait.Timely 1) := by
  have zero : wait.Polled 0 ↔ wait.Timely 0 := by
    rw [polled_iff]
    simp
  have one : wait.Polled 1 ↔
      wait.Timely 1 ∧ wait.Timely 0 ∧ wait.Mentions 0 := by
    rw [polled_iff]
    simp
  rw [watches_iff, sleepsBetween_iff]
  constructor
  · intro follows timely mentions
    obtain ⟨faithful, once⟩ := follows
    refine ⟨faithful 0 (zero.mpr timely) mentions, ?_⟩
    intro again
    exact once (one.mpr ⟨again, timely, mentions⟩)
  · intro condition
    have once : ¬ wait.Polled 1 := by
      intro second
      obtain ⟨again, timely, mentions⟩ := one.mp second
      exact (condition timely mentions).2 again
    refine ⟨?_, once⟩
    intro n polled mentions
    cases n with
    | zero => exact (condition (zero.mp polled) mentions).1
    | succ n =>
        -- a later poll comes after a second one
        have second : wait.Polled 1 := by
          cases n with
          | zero => exact polled
          | succ n => exact polled_of_lt (polled_iff.mp polled).2 (by omega)
        exact absurd second once

/-- A domain whose name starts with the name of another one. -/
def longerName : DomainList where
  names := ["instance-00000010".toList]
  oneLine := by
    intro name member
    cases List.mem_singleton.mp member
    decide
  distinct := List.nodup_singleton _

/-- A clock that is one second later at each reading, and two seconds of
time. -/
def shortWait : ShutdownWait where
  timeout := 2
  interval := 1
  clock := fun n => n
  nondecreasing := by
    intro n
    exact_mod_cast n.le_succ
  outputs := fun _ => longerName
  domainName := "instance-0000001".toList

/-- The domain is gone at the first poll, but the wait polls a second time
without a sleep and raises. -/
theorem waitForDomainShutdown_longer_name :
    ¬ shortWait.Lists 0 ∧
      shortWait.WaitForDomainShutdown [.poll 0, .poll 1]
        (.error shutdownTimeout) := by
  refine ⟨?_, 3, ?_⟩
  · unfold ShutdownWait.Lists
    decide
  · decide

end Whitebox.Compute
