import Mathlib.Data.List.Forall2
import Whitebox.Effect.Triple

/-!
# Requests and what they are answered

A computation sends requests to an environment, which answers or raises as it
likes, knowing all that went before.  Nothing is said about what a request does,
so that one that raises may well have been carried out.  What can be said about
a computation is said about its exchanges with the environment.
-/

namespace Whitebox.Effect

/-- A request and what came of it. -/
structure Exchange (ε : Type) {ι : Type} (Answer : ι → Type) where
  request : ι
  outcome : Except ε (Answer request)

abbrev Environment (ε : Type) {ι : Type} (Answer : ι → Type) :=
  List (Exchange ε Answer) → (request : ι) → Except ε (Answer request)

/-- The exchanges so far, and what the computation keeps for itself. -/
structure Dialogue (ε : Type) {ι : Type} (Answer : ι → Type) (σ : Type) where
  history : List (Exchange ε Answer)
  memory : σ

namespace Dialogue

variable {ε ι α β κ σ : Type} {Answer : ι → Type}

def extend (dialogue : Dialogue ε Answer σ)
    (later : List (Exchange ε Answer)) : Dialogue ε Answer σ :=
  { dialogue with history := dialogue.history ++ later }

def ask (environment : Environment ε Answer) (request : ι) :
    Run (Dialogue ε Answer σ) ε (Answer request) := fun dialogue =>
  let outcome := environment dialogue.history request
  (outcome, dialogue.extend [⟨request, outcome⟩])

def remember (change : σ → σ) : Run (Dialogue ε Answer σ) ε PUnit :=
  fun dialogue => (.ok ⟨⟩, { dialogue with memory := change dialogue.memory })

@[simp] theorem extend_nil (dialogue : Dialogue ε Answer σ) :
    dialogue.extend [] = dialogue := by
  rw [extend, List.append_nil]

@[simp] theorem extend_extend (dialogue : Dialogue ε Answer σ)
    (before after : List (Exchange ε Answer)) :
    (dialogue.extend before).extend after =
      dialogue.extend (before ++ after) := by
  rw [extend, extend, extend, List.append_assoc]

theorem triple_ask {environment : Environment ε Answer} {request : ι}
    {pre : Dialogue ε Answer σ → Prop}
    {post : Answer request → Dialogue ε Answer σ → Prop}
    {fails : Dialogue ε Answer σ → Prop}
    (answers : ∀ dialogue answer, pre dialogue →
      post answer (dialogue.extend [⟨request, .ok answer⟩]))
    (raises : ∀ dialogue error, pre dialogue →
      fails (dialogue.extend [⟨request, .error error⟩])) :
    Run.Triple pre (ask environment request) post fails := by
  intro dialogue outcome reached start ran
  cases ran
  cases environment dialogue.history request with
  | ok answer => exact answers dialogue answer start
  | error error => exact raises dialogue error start

theorem triple_remember {change : σ → σ}
    {pre post fails : Dialogue ε Answer σ → Prop}
    (changes : ∀ dialogue, pre dialogue →
      post { dialogue with memory := change dialogue.memory }) :
    Run.Triple pre (remember change) (fun _ => post) fails := by
  intro dialogue outcome reached start ran
  cases ran
  exact changes dialogue start

/-- The computation leaves the memory alone, and its exchanges and its outcome
are as described. -/
def Tells (action : Run (Dialogue ε Answer σ) ε α)
    (spec : List (Exchange ε Answer) → Except ε α → Prop) : Prop :=
  ∀ dialogue, ∃ outcome later,
    action dialogue = (outcome, dialogue.extend later) ∧ spec later outcome

namespace Tells

variable {action : Run (Dialogue ε Answer σ) ε α}
  {middle : List (Exchange ε Answer) → Except ε α → Prop}

theorem ret {value : α} {spec : List (Exchange ε Answer) → Except ε α → Prop}
    (silent : spec [] (.ok value)) :
    Tells (pure value : Run (Dialogue ε Answer σ) ε α) spec := by
  intro dialogue
  refine ⟨.ok value, [], ?_, silent⟩
  rw [extend_nil]
  rfl

theorem ask (environment : Environment ε Answer) (request : ι) :
    Tells (Dialogue.ask environment request :
      Run (Dialogue ε Answer σ) ε (Answer request))
      fun later outcome => later = [⟨request, outcome⟩] := by
  intro dialogue
  exact ⟨_, _, rfl, rfl⟩

theorem consequence (tells : Tells action middle)
    {spec : List (Exchange ε Answer) → Except ε α → Prop}
    (weaker : ∀ later outcome, middle later outcome → spec later outcome) :
    Tells action spec := by
  intro dialogue
  obtain ⟨outcome, later, ran, holds⟩ := tells dialogue
  exact ⟨outcome, later, ran, weaker later outcome holds⟩

theorem seq {next : α → Run (Dialogue ε Answer σ) ε β}
    {spec : List (Exchange ε Answer) → Except ε β → Prop}
    (first : Tells action middle)
    (raises : ∀ later error, middle later (.error error) →
      spec later (.error error))
    (second : ∀ before value, middle before (.ok value) →
      Tells (next value) fun after outcome => spec (before ++ after) outcome) :
    Tells (action >>= next) spec := by
  intro dialogue
  obtain ⟨outcome, before, ran, holds⟩ := first dialogue
  cases outcome with
  | error error =>
      exact ⟨.error error, before, Run.bind_error ran,
        raises before error holds⟩
  | ok value =>
      obtain ⟨outcome, after, ranAfter, holdsAfter⟩ :=
        second before value holds (dialogue.extend before)
      refine ⟨outcome, before ++ after, ?_, holdsAfter⟩
      rw [Run.bind_ok ran, ranAfter, extend_extend]

theorem tryExcept {handler : ε → Run (Dialogue ε Answer σ) ε α}
    {spec : List (Exchange ε Answer) → Except ε α → Prop}
    (body : Tells action middle)
    (returns : ∀ later value, middle later (.ok value) →
      spec later (.ok value))
    (handles : ∀ before error, middle before (.error error) →
      Tells (handler error) fun after outcome =>
        spec (before ++ after) outcome) :
    Tells (Run.tryExcept action handler) spec := by
  intro dialogue
  obtain ⟨outcome, before, ran, holds⟩ := body dialogue
  cases outcome with
  | ok value =>
      exact ⟨.ok value, before, Run.tryExcept_ok ran,
        returns before value holds⟩
  | error error =>
      obtain ⟨outcome, after, ranAfter, holdsAfter⟩ :=
        handles before error holds (dialogue.extend before)
      refine ⟨outcome, before ++ after, ?_, holdsAfter⟩
      rw [Run.tryExcept_error ran, ranAfter, extend_extend]

/-- A loop whose turns always return tells one thing after the other. -/
theorem forM {turn : κ → Run (Dialogue ε Answer σ) ε PUnit} {items : List κ}
    {part : κ → List (Exchange ε Answer) → Prop}
    (turns : ∀ item ∈ items, Tells (turn item) fun later outcome =>
      outcome = .ok ⟨⟩ ∧ part item later) :
    Tells (items.forM turn) fun later outcome => outcome = .ok ⟨⟩ ∧
      ∃ parts, later = parts.flatten ∧ List.Forall₂ part items parts := by
  induction items with
  | nil => exact ret ⟨rfl, [], rfl, .nil⟩
  | cons item items induction =>
      rw [List.forM_eq_forM, List.forM_cons, ← List.forM_eq_forM]
      apply seq (turns item List.mem_cons_self)
      · intro later error holds
        cases holds.1
      · intro before _ holds
        apply consequence (induction fun other member =>
          turns other (List.mem_cons_of_mem item member))
        intro after outcome said
        obtain ⟨returned, parts, rfl, each⟩ := said
        exact ⟨returned, before :: parts, rfl, .cons holds.2 each⟩

end Tells

end Dialogue

end Whitebox.Effect
