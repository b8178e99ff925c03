/-
**Provisioning by guarded steps.**

* `GuardedStep` — a test for what the step is about to do, and the operations that do it, each of which may fail.
* `complete` — a run that takes every step to its end.
* `Broken` — a run in which steps may be declined and which may break off anywhere, between two operations of
  a step as well; `Broken.invariant` is its invariant rule, for invariants that every step `Keeps`.
* `guarded_eq_iff` — when a second run leaves a part of the state as one run would have: its test must not be
  taken in by what a broken run left.
-/

import Mathlib.Logic.Basic

namespace Library.Provision

variable {State Value : Type}

/-- A step is skipped when its test answers that it is done. -/
structure GuardedStep (State : Type) where
  done : State → Bool
  operations : List (State → Option State)

/-- The operations one after the other; `none` when one of them fails. -/
def perform (operations : List (State → Option State)) (state : State) : Option State :=
  operations.foldlM (fun state operation => operation state) state

/-- One step of a run that accepts it. -/
def GuardedStep.take (step : GuardedStep State) (state : State) : Option State :=
  if step.done state then some state else perform step.operations state

/-- A run that accepts every step. -/
def complete (steps : List (GuardedStep State)) (state : State) : Option State :=
  steps.foldlM (fun state step => step.take state) state

/-- The runs in which a step may be declined, and which may break off anywhere. -/
inductive Broken : List (GuardedStep State) → State → State → Prop
  | stopped (steps : List (GuardedStep State)) (state : State) : Broken steps state state
  | passed {step : GuardedStep State} {steps : List (GuardedStep State)} {first last : State} :
      Broken steps first last → Broken (step :: steps) first last
  | cut {step : GuardedStep State} {steps : List (GuardedStep State)} {first last : State} (count : Nat) :
      step.done first = false → perform (step.operations.take count) first = some last →
        Broken (step :: steps) first last
  | applied {step : GuardedStep State} {steps : List (GuardedStep State)} {first middle last : State} :
      step.done first = false → perform step.operations first = some middle → Broken steps middle last →
        Broken (step :: steps) first last

/-! ### Complete runs -/

theorem perform_cons (operation : State → Option State) (operations : List (State → Option State)) (state : State) :
    perform (operation :: operations) state = (operation state).bind (perform operations) := rfl

theorem complete_cons (step : GuardedStep State) (steps : List (GuardedStep State)) (state : State) :
    complete (step :: steps) state = (step.take state).bind (complete steps) := rfl

theorem complete_singleton (step : GuardedStep State) (state : State) : complete [step] state = step.take state :=
  Option.bind_fun_some _

/-- One run after the other. -/
theorem complete_append {front back : List (GuardedStep State)} {first middle last : State}
    (before : complete front first = some middle) (after : complete back middle = some last) :
    complete (front ++ back) first = some last := by
  rw [complete, List.foldlM_append]
  exact Option.bind_eq_some_iff.mpr ⟨middle, before, after⟩

/-! ### Broken runs -/

/-- However many operations of a step are performed that is not done when it starts, they keep the invariant. -/
def GuardedStep.Keeps (step : GuardedStep State) (inv : State → Prop) : Prop :=
  ∀ start last count, inv start → step.done start = false →
    perform (step.operations.take count) start = some last → inv last

section Invariant

variable {inv : State → Prop} {operations : List (State → Option State)} {steps : List (GuardedStep State)}
  {first last : State}

theorem perform_invariant (kept : ∀ operation ∈ operations, ∀ before after, inv before →
      operation before = some after → inv after)
    (performed : perform operations first = some last) (initial : inv first) : inv last := by
  induction operations generalizing first with
  | nil =>
    obtain rfl := Option.some.inj performed
    exact initial
  | cons operation operations ih =>
    obtain ⟨middle, ran, rest⟩ := Option.bind_eq_some_iff.mp performed
    refine ih (fun other member => kept other (List.mem_cons_of_mem _ member)) rest ?_
    exact kept operation List.mem_cons_self first middle initial ran

/-- A step keeps what each of its operations keeps. -/
theorem keeps_of_operations {step : GuardedStep State}
    (kept : ∀ start, inv start → step.done start = false →
      ∀ operation ∈ step.operations, ∀ before after, inv before → operation before = some after → inv after) :
    step.Keeps inv := by
  intro start last count initial started performed
  have ops := kept start initial started
  exact perform_invariant (fun operation member => ops operation (List.mem_of_mem_take member)) performed initial

/-- A step of one operation that does not fail. -/
theorem keeps_of_single {step : GuardedStep State} {effect : State → State}
    (single : step.operations = [fun state => some (effect state)])
    (kept : ∀ start, inv start → step.done start = false → inv (effect start)) : step.Keeps inv := by
  intro start last count initial started performed
  rw [single] at performed
  cases count with
  | zero =>
    obtain rfl := Option.some.inj performed
    exact initial
  | succ count =>
    rw [List.take_succ_cons, List.take_nil] at performed
    obtain rfl := Option.some.inj performed
    exact kept start initial started

/-- **The invariant rule of broken runs.** -/
theorem Broken.invariant (broken : Broken steps first last) (kept : ∀ step ∈ steps, step.Keeps inv)
    (initial : inv first) : inv last := by
  induction broken with
  | stopped _ _ => exact initial
  | passed _ ih => exact ih (fun step member => kept step (List.mem_cons_of_mem _ member)) initial
  | cut count started performed => exact kept _ List.mem_cons_self _ _ count initial started performed
  | @applied step _ _ _ _ started performed _ ih =>
    refine ih (fun step member => kept step (List.mem_cons_of_mem _ member)) ?_
    refine kept _ List.mem_cons_self _ _ step.operations.length initial started ?_
    rw [List.take_length]
    exact performed

end Invariant

/-! ### Two runs -/

/-- **When a second run leaves what one run leaves.** A value that is done stays as it is, in a broken run as
well; the two runs agree exactly when a test that fails before the broken run and passes after it is right. -/
theorem guarded_eq_iff {before after : Prop} [Decidable before] [Decidable after] {first left target : Value}
    (kept : before → after ∧ left = first) :
    (if after then left else target) = (if before then first else target) ↔
      (¬ before → after → left = target) := by
  by_cases done : before
  · obtain ⟨still, rfl⟩ := kept done
    rw [if_pos done, if_pos still]
    exact ⟨fun _ missing => absurd done missing, fun _ => rfl⟩
  · rw [if_neg done]
    by_cases taken : after
    · rw [if_pos taken]
      exact ⟨fun agree _ _ => agree, fun right => right done taken⟩
    · rw [if_neg taken]
      exact ⟨fun _ _ passes => absurd passes taken, fun _ => rfl⟩

end Library.Provision
