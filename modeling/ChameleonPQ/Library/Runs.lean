/-
**Runs of labelled transition systems.**

* `Run step` — finite runs of a step relation whose steps carry an event.
* `Run.invariant` — what every step preserves holds at the end of every run.
* `Run.length_le` — a measure that every step makes smaller bounds the runs.
* `Guarded` — the steps that also meet a condition; `Run.weaken` forgets it.
* `execute` — the run of an executable step function; `run_of_execute` and `run_of_guarded` read it
  as a run.
* `uninterrupted` — the steps of one task beside a shared state when no other task runs.
* `Along` — what holds of every step of an execution; `along_congr` compares two such properties under an
  invariant, `along_or` says what a step that fails one spoils for good.
-/

import Mathlib.Logic.Basic

namespace Library.Runs

variable {State Event : Type}

/-- A finite run, with the events its steps carry. -/
inductive Run (step : State → Event → State → Prop) : State → List Event → State → Prop
  | done (state : State) : Run step state [] state
  | next {first second last : State} {event : Event} {events : List Event} :
      step first event second → Run step second events last → Run step first (event :: events) last

/-- The steps that meet a condition on the state before them. -/
def Guarded (condition : State → Event → Prop) (step : State → Event → State → Prop) :
    State → Event → State → Prop := fun before event after => condition before event ∧ step before event after

/-- The step relation of an executable step function. -/
def Taken (step : State → Event → Option State) : State → Event → State → Prop :=
  fun before event after => step before event = some after

variable {step : State → Event → State → Prop} {first middle last : State} {events more : List Event}

/-- **The invariant rule.** -/
theorem Run.invariant (inv : State → Prop)
    (preserved : ∀ before event after, inv before → step before event after → inv after)
    (run : Run step first events last) (initial : inv first) : inv last := by
  induction run with
  | done _ => exact initial
  | next taken _ ih => exact ih (preserved _ _ _ initial taken)

theorem Run.append (front : Run step first events middle) (back : Run step middle more last) :
    Run step first (events ++ more) last := by
  induction front with
  | done _ => exact back
  | next taken _ ih => exact .next taken (ih back)

/-- **Runs are bounded** by a measure that every step makes smaller. -/
theorem Run.length_le (measure : State → Nat)
    (decreases : ∀ before event after, step before event after → measure after < measure before)
    (run : Run step first events last) : events.length ≤ measure first := by
  induction run with
  | done _ => exact Nat.zero_le _
  | next taken _ ih => exact Nat.lt_of_le_of_lt ih (decreases _ _ _ taken)

/-- A run of stronger steps is a run of weaker ones. -/
theorem Run.weaken {weaker : State → Event → State → Prop}
    (weakens : ∀ before event after, step before event after → weaker before event after)
    (run : Run step first events last) : Run weaker first events last := by
  induction run with
  | done _ => exact .done _
  | next taken _ ih => exact .next (weakens _ _ _ taken) ih

/-- A run whose events meet a condition. -/
theorem Run.guarded {condition : Event → Prop} (run : Run step first events last)
    (met : ∀ event ∈ events, condition event) : Run (Guarded (fun _ => condition) step) first events last := by
  induction run with
  | done _ => exact .done _
  | next taken _ ih =>
    exact .next ⟨met _ List.mem_cons_self, taken⟩ (ih fun event later => met event (List.mem_cons_of_mem _ later))

/-- The run of an executable step function; `none` when some step is not enabled. -/
def execute (step : State → Event → Option State) (state : State) : List Event → Option State
  | [] => some state
  | event :: events =>
    match step state event with
    | none => none
    | some after => execute step after events

/-- **An execution is a run.** -/
theorem run_of_execute {step : State → Event → Option State}
    (executed : execute step first events = some last) : Run (Taken step) first events last := by
  induction events generalizing first with
  | nil => exact Option.some.inj executed ▸ .done first
  | cons event events ih =>
    rw [execute] at executed
    split at executed
    · cases executed
    · rename_i after taken
      exact .next taken (ih executed)

/-- An executable step function that is only enabled under a condition. -/
def guardedStep (condition : State → Event → Prop) [∀ state event, Decidable (condition state event)]
    (step : State → Event → Option State) (state : State) (event : Event) : Option State :=
  if condition state event then step state event else none

/-- **An execution of guarded steps is a guarded run.** -/
theorem run_of_guarded {condition : State → Event → Prop}
    [∀ state event, Decidable (condition state event)] {step : State → Event → Option State}
    (executed : execute (guardedStep condition step) first events = some last) :
    Run (Guarded condition (Taken step)) first events last := by
  refine (run_of_execute executed).weaken fun before event after taken => ?_
  simp only [Taken, guardedStep] at taken
  split at taken
  · rename_i met
    exact ⟨met, taken⟩
  · cases taken

/-- A task that moves through its stages beside a shared state, for some steps without interruption. -/
def uninterrupted {Stage : Type} (advance : State → Stage → Option (Stage × State)) :
    Nat → State → Stage → Stage × State
  | 0, state, stage => (stage, state)
  | steps + 1, state, stage =>
    match advance state stage with
    | some (after, next) => uninterrupted advance steps next after
    | none => (stage, state)

/-- Every step of an execution meets a property; it ends at the first event that is not enabled. -/
def Along (step : State → Event → Option State) (holds : State → Event → State → Prop) :
    State → List Event → Prop
  | _, [] => True
  | before, event :: events =>
    match step before event with
    | none => True
    | some after => holds before event after ∧ Along step holds after events

instance Along.decidable {step : State → Event → Option State} {holds : State → Event → State → Prop}
    [∀ before event after, Decidable (holds before event after)] :
    ∀ first events, Decidable (Along step holds first events)
  | _, [] => isTrue trivial
  | first, event :: events =>
    match taken : step first event with
    | none => isTrue (by rw [Along, taken]; trivial)
    | some after =>
      have later : Decidable (Along step holds after events) := Along.decidable after events
      decidable_of_iff (holds first event after ∧ Along step holds after events) (by rw [Along, taken])

/-- What holds after every step of an execution holds at its end. -/
theorem Along.atEnd {step : State → Event → Option State} {property : State → Prop}
    (along : Along step (fun _ _ after => property after) first events)
    (executed : execute step first events = some last) (initial : property first) : property last := by
  induction events generalizing first with
  | nil => exact Option.some.inj executed ▸ initial
  | cons event events ih =>
    rw [execute] at executed
    rw [Along] at along
    split at executed
    · cases executed
    · rename_i after taken
      rw [taken] at along
      exact ih along.2 executed along.1

/-- **An execution along which a condition is met is a guarded run.** -/
theorem run_of_along {step : State → Event → Option State} {holds : State → Event → State → Prop}
    {condition : State → Event → Prop} (along : Along step holds first events)
    (meets : ∀ before event after, step before event = some after → holds before event after →
      condition before event)
    (executed : execute step first events = some last) :
    Run (Guarded condition (Taken step)) first events last := by
  induction events generalizing first with
  | nil => exact Option.some.inj executed ▸ .done first
  | cons event events ih =>
    rw [execute] at executed
    rw [Along] at along
    split at executed
    · cases executed
    · rename_i after taken
      rw [taken] at along
      exact .next ⟨meets first event after taken along.1, taken⟩ (ih along.2 executed)

/-- **Two properties hold along the same executions** when they agree on every step from a state of the
invariant, which the steps that meet them preserve. -/
theorem along_congr {step : State → Event → Option State} {left right : State → Event → State → Prop}
    (inv : State → Prop)
    (agree : ∀ before event after, inv before → step before event = some after →
      (left before event after ↔ right before event after))
    (preserved : ∀ before event after, inv before → step before event = some after →
      left before event after → inv after)
    (initial : inv first) : Along step left first events ↔ Along step right first events := by
  induction events generalizing first with
  | nil => exact Iff.rfl
  | cons event events ih =>
    unfold Along
    cases taken : step first event with
    | none => exact Iff.rfl
    | some after =>
      have same := agree first event after initial taken
      constructor
      · rintro ⟨now, later⟩
        exact ⟨same.mp now, (ih (preserved first event after initial taken now)).mp later⟩
      · rintro ⟨now, later⟩
        exact ⟨same.mpr now, (ih (preserved first event after initial taken (same.mpr now))).mpr later⟩

/-- **Good, or spoiled for good**: where the steps that meet a condition keep what is good, and the others
spoil it beyond repair, an execution ends well exactly when all its steps meet the condition. -/
theorem along_or {step : State → Event → Option State} {condition : State → Event → Prop}
    (inv good spoiled : State → Prop)
    (kept : ∀ before event after, inv before → step before event = some after → inv after)
    (keeps : ∀ before event after, inv before → good before → step before event = some after →
      condition before event → good after)
    (spoils : ∀ before event after, inv before → step before event = some after →
      ¬ condition before event → spoiled after)
    (stays : ∀ before event after, inv before → spoiled before → step before event = some after → spoiled after)
    (executed : execute step first events = some last) (initial : inv first) (fine : good first) :
    (Along step (fun before event _ => condition before event) first events ∧ good last) ∨
      (¬ Along step (fun before event _ => condition before event) first events ∧ spoiled last) := by
  induction events generalizing first with
  | nil => exact .inl ⟨trivial, Option.some.inj executed ▸ fine⟩
  | cons event events ih =>
    rw [execute] at executed
    unfold Along
    cases taken : step first event with
    | none =>
      rw [taken] at executed
      cases executed
    | some after =>
      rw [taken] at executed
      have now := kept first event after initial taken
      by_cases met : condition first event
      · rcases ih executed now (keeps first event after initial fine taken met) with ⟨all, ends⟩ | ⟨some, ends⟩
        · exact .inl ⟨⟨met, all⟩, ends⟩
        · exact .inr ⟨fun all => some all.2, ends⟩
      · have both := (run_of_execute executed).invariant (fun state => inv state ∧ spoiled state)
          (fun before event after holds taken =>
            ⟨kept before event after holds.1 taken, stays before event after holds.1 holds.2 taken⟩)
          ⟨now, spoils first event after initial taken met⟩
        exact .inr ⟨fun all => met all.1, both.2⟩

end Library.Runs
