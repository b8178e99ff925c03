/-
**Calls that take effect at one step.**

Calls on one shared object advance one atomic step at a time, in any order. A call is *bound* to its result
from the step at which it takes effect; there the whole call, made at once, would have returned this result and
left the object as the step leaves it.

* `Object` — the steps of a call, what it is bound to, and the whole call on an abstract state.
* `Effective` — what is asked of one step.
* `Pool.order` — the calls in the order in which they take effect, `oneByOne` the whole calls in that order.
* `linearized` — every schedule leaves the object as the calls one by one do, and returns what they return;
  a call takes effect after its first step and before its return, and later steps do not change the order.
-/

import Mathlib.Data.List.Nodup

namespace Library.Linearization

variable {State View Call Op Result : Type}

/-- A shared object with the calls on it. -/
structure Object (State View Call Op Result : Type) where
  /-- The next atomic step of a call; `none` when it has returned. -/
  advance : State → Call → Option (Call × State)
  op : Call → Op
  /-- The result of a call that has taken effect. -/
  bound : Call → Option Result
  result : Call → Option Result
  view : State → View
  /-- The whole call at once. -/
  whole : View → Op → Result × View

/-- **What is asked of a step**: before it takes effect a call leaves the abstract state alone, where it takes
effect it does what the whole call does, and then its result stands. -/
structure Effective (object : Object State View Call Op Result) (stateInv : State → Prop) (callInv : Call → Prop) :
    Prop where
  state : ∀ {state after call next}, stateInv state → callInv call → object.advance state call = some (next, after) →
    stateInv after
  call : ∀ {state after call next}, stateInv state → callInv call → object.advance state call = some (next, after) →
    callInv next
  op : ∀ {state after call next}, object.advance state call = some (next, after) → object.op next = object.op call
  keeps : ∀ {state after call next result}, stateInv state → callInv call →
    object.advance state call = some (next, after) → object.bound call = some result →
      object.bound next = some result ∧ object.view after = object.view state
  takes : ∀ {state after call next}, stateInv state → callInv call →
    object.advance state call = some (next, after) → object.bound call = none →
      (object.bound next = none ∧ object.view after = object.view state) ∨
        ∃ result, object.bound next = some result ∧
          object.whole (object.view state) (object.op call) = (result, object.view after)
  returns : ∀ {call result}, callInv call → object.result call = some result → object.bound call = some result

/-- A shared state and the calls on it. -/
structure Pool (State Call : Type) where
  state : State
  calls : List Call

/-- Whole calls one after another, with their results. -/
def oneByOne (whole : View → Op → Result × View) (ops : List Op) : View → List Nat → List (Nat × Result) × View
  | view, [] => ([], view)
  | view, i :: rest =>
    match ops[i]? with
    | none => oneByOne whole ops view rest
    | some op =>
      let (result, after) := whole view op
      let (results, last) := oneByOne whole ops after rest
      ((i, result) :: results, last)

namespace Pool

section Definitions

variable (object : Object State View Call Op Result)

/-- The call at position `i` takes its next step. -/
def step (pool : Pool State Call) (i : Nat) : Pool State Call :=
  match pool.calls[i]?.bind (object.advance pool.state) with
  | none => pool
  | some (call, state) => ⟨state, pool.calls.set i call⟩

/-- A whole schedule: the calls named in it step in that order. -/
def run (pool : Pool State Call) (schedule : List Nat) : Pool State Call := schedule.foldl (step object) pool

/-- What the call at position `i` is bound to. -/
def boundAt (pool : Pool State Call) (i : Nat) : Option Result := pool.calls[i]?.bind object.bound

/-- The calls of a schedule in the order in which they take effect. -/
def order (pool : Pool State Call) : List Nat → List Nat
  | [] => []
  | i :: rest =>
    if (pool.boundAt object i).isNone && ((pool.step object i).boundAt object i).isSome then
      i :: order (pool.step object i) rest
    else order (pool.step object i) rest

end Definitions

variable {object : Object State View Call Op Result} {stateInv : State → Prop} {callInv : Call → Prop}
  {pool : Pool State Call} {i : Nat} {result : Result}

/-- **Later steps do not change the order** of the calls that took effect. -/
theorem order_append (pool : Pool State Call) (front back : List Nat) :
    pool.order object (front ++ back) = pool.order object front ++ (pool.run object front).order object back := by
  induction front generalizing pool with
  | nil => rfl
  | cons i rest ih =>
    rw [List.cons_append, order, order, ih]
    split <;> rfl

/-- **What a step of the pool does** to the abstract state, and to what the calls are bound to. -/
inductive Moves (object : Object State View Call Op Result) (pool after : Pool State Call) (i : Nat) : Prop
  /-- No call takes effect. -/
  | quiet : object.view after.state = object.view pool.state →
      (∀ j, after.boundAt object j = pool.boundAt object j) → Moves object pool after i
  /-- The call that steps takes effect. -/
  | effect (call : Call) (result : Result) : pool.calls[i]? = some call →
      object.whole (object.view pool.state) (object.op call) = (result, object.view after.state) →
      pool.boundAt object i = none → after.boundAt object i = some result →
      (∀ j, j ≠ i → after.boundAt object j = pool.boundAt object j) → Moves object pool after i

/-- What the invariants say of a pool. -/
structure Held (stateInv : State → Prop) (callInv : Call → Prop) (pool : Pool State Call) : Prop where
  state : stateInv pool.state
  calls : ∀ call ∈ pool.calls, callInv call

theorem step_ops (effective : Effective object stateInv callInv) (pool : Pool State Call) (i : Nat) :
    (pool.step object i).calls.map object.op = pool.calls.map object.op := by
  unfold step
  split
  · rfl
  · rename_i next state taken
    obtain ⟨call, found, advanced⟩ := Option.bind_eq_some_iff.mp taken
    have op : (pool.calls.map object.op)[i]? = some (object.op call) := by rw [List.getElem?_map, found]; rfl
    obtain ⟨inside, here⟩ := List.getElem?_eq_some_iff.mp op
    rw [List.map_set, effective.op advanced, ← here, List.set_getElem_self]

theorem held_step (effective : Effective object stateInv callInv) (held : pool.Held stateInv callInv) (i : Nat) :
    (pool.step object i).Held stateInv callInv := by
  unfold step
  split
  · exact held
  · rename_i next state taken
    obtain ⟨call, found, advanced⟩ := Option.bind_eq_some_iff.mp taken
    have mine := held.calls call (List.mem_of_getElem? found)
    refine ⟨effective.state held.state mine advanced, fun other member => ?_⟩
    rcases List.mem_or_eq_of_mem_set member with old | rfl
    · exact held.calls other old
    · exact effective.call held.state mine advanced

theorem held_run (effective : Effective object stateInv callInv) (held : pool.Held stateInv callInv)
    (schedule : List Nat) : (pool.run object schedule).Held stateInv callInv := by
  induction schedule generalizing pool with
  | nil => exact held
  | cons i rest ih => exact ih (held_step effective held i)

/-- **Every step of a pool is quiet, or the one at which its call takes effect.** -/
theorem moves_step (effective : Effective object stateInv callInv) (held : pool.Held stateInv callInv) (i : Nat) :
    Moves object pool (pool.step object i) i := by
  unfold step
  split
  · exact .quiet rfl fun _ => rfl
  · rename_i next state taken
    obtain ⟨call, found, advanced⟩ := Option.bind_eq_some_iff.mp taken
    obtain ⟨inside, -⟩ := List.getElem?_eq_some_iff.mp found
    have mine := held.calls call (List.mem_of_getElem? found)
    have before : pool.boundAt object i = object.bound call := by rw [boundAt, found, Option.bind_some]
    have after : boundAt object ⟨state, pool.calls.set i next⟩ i = object.bound next := by
      rw [boundAt, List.getElem?_set_self inside, Option.bind_some]
    have others : ∀ j, j ≠ i → boundAt object ⟨state, pool.calls.set i next⟩ j = pool.boundAt object j := by
      intro j other
      rw [boundAt, List.getElem?_set_ne (Ne.symm other), boundAt]
    have quiet : object.view state = object.view pool.state → object.bound next = object.bound call →
        Moves object pool ⟨state, pool.calls.set i next⟩ i := by
      intro same stays
      refine .quiet same fun j => ?_
      by_cases here : j = i
      · rw [here, after, before, stays]
      · exact others j here
    cases bound : object.bound call with
    | some result =>
      obtain ⟨stays, same⟩ := effective.keeps held.state mine advanced bound
      exact quiet same (stays.trans bound.symm)
    | none =>
      rcases effective.takes held.state mine advanced bound with ⟨stays, same⟩ | ⟨result, bounds, whole⟩
      · exact quiet same (stays.trans bound.symm)
      · exact .effect call result found whole (before.trans bound) (after.trans bounds) others

/-- **A schedule is the whole calls in the order of their effects**: they leave the same abstract state, and their
results are what the calls of the schedule became bound to. -/
theorem oneByOne_order (effective : Effective object stateInv callInv) (held : pool.Held stateInv callInv)
    (schedule : List Nat) : ∃ results,
      oneByOne object.whole (pool.calls.map object.op) (object.view pool.state) (pool.order object schedule) =
          (results, object.view (pool.run object schedule).state) ∧
        (∀ i result, (pool.run object schedule).boundAt object i = some result ↔
          pool.boundAt object i = some result ∨ (i, result) ∈ results) ∧
        (pool.order object schedule).Nodup ∧
        ∀ i ∈ pool.order object schedule, i ∈ schedule ∧ pool.boundAt object i = none := by
  induction schedule generalizing pool with
  | nil => exact ⟨[], rfl, fun i result => by simp [run], List.nodup_nil, nofun⟩
  | cons i rest ih =>
    obtain ⟨results, left, bounds, nodup, among⟩ := ih (held_step effective held i)
    rw [step_ops effective] at left
    have ran : pool.run object (i :: rest) = (pool.step object i).run object rest := rfl
    cases moves_step effective held i with
    | quiet same unchanged =>
      have none : ((pool.boundAt object i).isNone && ((pool.step object i).boundAt object i).isSome) = false := by
        rw [unchanged]
        cases pool.boundAt object i <;> rfl
      have ordered : pool.order object (i :: rest) = (pool.step object i).order object rest := by
        rw [order, none]
        rfl
      rw [ordered, ran]
      refine ⟨results, by rw [← same, left], fun j result => by rw [bounds, unchanged], nodup, fun j member => ?_⟩
      obtain ⟨later, unbound⟩ := among j member
      exact ⟨List.mem_cons_of_mem _ later, unchanged j ▸ unbound⟩
    | effect call result found whole unbound bound others =>
      have ordered : pool.order object (i :: rest) = i :: (pool.step object i).order object rest := by
        rw [order, unbound, bound]
        rfl
      have op : (pool.calls.map object.op)[i]? = some (object.op call) := by rw [List.getElem?_map, found]; rfl
      rw [ordered, ran]
      refine ⟨(i, result) :: results, ?_, fun j other => ?_, List.nodup_cons.mpr ⟨fun member => ?_, nodup⟩, ?_⟩
      · simp only [oneByOne, op, whole, left]
      · rw [bounds, List.mem_cons, Prod.mk.injEq]
        by_cases here : j = i
        · subst here
          rw [bound, unbound, Option.some.injEq, ← or_assoc]
          refine or_congr_left ⟨fun same => .inr ⟨rfl, same.symm⟩, fun same => ?_⟩
          obtain impossible | ⟨-, same⟩ := same
          · cases impossible
          · exact same.symm
        · rw [others j here]
          simp [here]
      · rw [(among i member).2] at bound
        cases bound
      · intro j member
        rcases List.mem_cons.mp member with rfl | later
        · exact ⟨List.mem_cons_self, unbound⟩
        · obtain ⟨inside, before⟩ := among j later
          refine ⟨List.mem_cons_of_mem _ inside, ?_⟩
          by_cases here : j = i
          · rw [here, unbound]
          · rwa [others j here] at before

end Pool

/-- **A schedule read as whole calls**, one after another in the given order: each at most once and after its first
step, with the results of those that returned and the state they leave. -/
structure Linearized (object : Object State View Call Op Result) (pool : Pool State Call) (schedule order : List Nat) :
    Prop where
  once : order.Nodup
  begun : ∀ i ∈ order, i ∈ schedule
  explains : ∃ results,
    oneByOne object.whole (pool.calls.map object.op) (object.view pool.state) order =
        (results, object.view (pool.run object schedule).state) ∧
      ∀ (i : Nat) (call : Call) (result : Result), (pool.run object schedule).calls[i]? = some call →
        object.result call = some result → (i, result) ∈ results

/-- **Linearizability.** -/
theorem linearized {object : Object State View Call Op Result} {stateInv : State → Prop} {callInv : Call → Prop}
    (effective : Effective object stateInv callInv) {pool : Pool State Call} (held : pool.Held stateInv callInv)
    (fresh : ∀ call ∈ pool.calls, object.bound call = none) (schedule : List Nat) :
    Linearized object pool schedule (pool.order object schedule) := by
  obtain ⟨results, left, bounds, nodup, among⟩ := pool.oneByOne_order effective held schedule
  refine ⟨nodup, fun i member => (among i member).1, results, left, fun i call result found returned => ?_⟩
  have bound := effective.returns ((pool.held_run effective held schedule).calls call (List.mem_of_getElem? found))
    returned
  refine ((bounds i result).mp ?_).resolve_left fun early => ?_
  · rw [Pool.boundAt, found, Option.bind_some, bound]
  · obtain ⟨first, listed, already⟩ := Option.bind_eq_some_iff.mp early
    rw [fresh first (List.mem_of_getElem? listed)] at already
    cases already

end Library.Linearization
