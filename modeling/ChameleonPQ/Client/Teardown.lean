/-
**The teardown of a client.**

The tunnel task with what it owns, and the calls with what they take, are two machines: a call only asks the task
to abort, and the task only tells the calls that it has finished.

* `TasksFit` — what is left of the loops and the TUN tasks at each stage of the tunnel task.
* `Locks`, `HandleFits`, `CallFits` — who holds a resource, who took the handle, and what a call has done.
* `invariant_step` — the step lemma; `disconnect_sound` — what a frontend relies on, at any moment.
* `budget_step`, `due_of_unreturned` — a step uses up the budget, and none is missing.
* `disconnect_returns` — so every call returns, and nothing of the tunnel is left.
-/

import ChameleonPQ.Client.Lifecycle
import ChameleonPQ.Library.TaskPool

namespace ChameleonPQ

open Library.Runs

/-- The call is done with a resource. -/
def CallStage.past : CallStage → Resource → Bool
  | locking .dns, .routes | dropping .dns, .routes => true
  | taking, _ | awaiting, _ | returned _, _ => true
  | _, _ => false

/-- The call has asked the task to abort. -/
def CallStage.hasAborted : CallStage → Bool
  | aborting | asking | loading _ | reported _ => false
  | _ => true

/-- The call reads the status. -/
def CallStage.asksStatus : CallStage → Bool
  | asking | loading _ | reported _ => true
  | _ => false

namespace Lifecycle

variable {client after base : Lifecycle} {installed : Resource → Bool} {index : Nat} {call : ClientCall}
  {stage next : CallStage}

/-! ### The tunnel task -/

theorem ne_running_of_mem_abort {tasks : List TaskState} :
    ∀ task ∈ tasks.map TaskState.abort, task ≠ .running := by
  intro task member
  obtain ⟨was, -, rfl⟩ := List.mem_map.mp member
  cases was <;> simp [TaskState.abort]

theorem ne_running_of_abort {slot : Option TaskState} : ∀ task ∈ slot.map TaskState.abort, task ≠ .running := by
  intro task member
  obtain ⟨was, -, rfl⟩ := Option.map_eq_some_iff.mp member
  cases was <;> simp [TaskState.abort]

/-- The loops at a stage of the tunnel task. -/
def LoopsFit (loops : List TaskState) : TunnelStage → Prop
  | .joining => True
  | .stopping | .cancelled => ∀ task ∈ loops, task ≠ .running
  | .reading | .writing | .closed => ∀ task ∈ loops, task = .ended
  | _ => loops = []

/-- The TUN read task at a stage of the tunnel task. -/
def ReadFits (slot : Option TaskState) : TunnelStage → Prop
  | .reading | .failed | .cancelled => ∀ task ∈ slot, task ≠ .running
  | .writing | .closed => ∀ task ∈ slot, task = .ended
  | _ => True

/-- The TUN write task at a stage of the tunnel task. -/
def WriteFits (slot : Option TaskState) : TunnelStage → Prop
  | .writing | .failed | .cancelled => ∀ task ∈ slot, task ≠ .running
  | .closed => ∀ task ∈ slot, task = .ended
  | _ => True

/-- What the tunnel task owns. -/
structure TasksFit (client : Lifecycle) : Prop where
  loops : LoopsFit client.loops client.stage
  read : ReadFits client.readTask client.stage
  write : WriteFits client.writeTask client.stage

/-- An ended loop fits wherever the others do. -/
theorem LoopsFit.ends {loops : List TaskState} {stage : TunnelStage} (fits : LoopsFit loops stage) (index : Nat) :
    LoopsFit (loops.set index .ended) stage := by
  have each : ∀ property : TaskState → Prop, property .ended → (∀ task ∈ loops, property task) →
      ∀ task ∈ loops.set index .ended, property task := by
    intro property own others task member
    rcases List.mem_or_eq_of_mem_set member with old | rfl
    · exact others task old
    · exact own
  cases stage with
  | joining => trivial
  | stopping | cancelled => exact each (· ≠ .running) TaskState.noConfusion fits
  | reading | writing | closed => exact each (· = .ended) rfl fits
  | _ =>
    obtain rfl : loops = [] := fits
    rfl

theorem ReadFits.ends (stage : TunnelStage) : ReadFits (some .ended) stage := by
  cases stage <;> simp [ReadFits]

theorem WriteFits.ends (stage : TunnelStage) : WriteFits (some .ended) stage := by
  cases stage <;> simp [WriteFits]

/-- **A step of the tunnel task.** -/
theorem tasksFit_tunnel (fit : client.TasksFit) {ok : Bool} (taken : client.tunnel ok = some after) :
    after.TasksFit := by
  obtain ⟨loops, read, write⟩ := fit
  unfold tunnel at taken
  cases stage : client.stage <;> rw [stage] at taken loops read write <;> simp only at taken
  case spawned =>
    split at taken
    · cases taken
    · obtain rfl := Option.some.inj taken
      exact ⟨loops, trivial, trivial⟩
  case entered =>
    obtain rfl := Option.some.inj taken
    exact ⟨loops, trivial, trivial⟩
  case preparing =>
    split at taken
    · obtain rfl := Option.some.inj taken
      exact ⟨trivial, trivial, trivial⟩
    · obtain rfl := Option.some.inj taken
      exact ⟨loops, ne_running_of_abort, ne_running_of_abort⟩
  case joining =>
    split at taken
    · obtain rfl := Option.some.inj taken
      exact ⟨ne_running_of_mem_abort, trivial, trivial⟩
    · cases taken
  case stopping =>
    split at taken
    · rename_i ended
      obtain rfl := Option.some.inj taken
      exact ⟨ended, ne_running_of_abort, trivial⟩
    · cases taken
  case reading =>
    split at taken
    · rename_i ended
      obtain rfl := Option.some.inj taken
      exact ⟨loops, ended, ne_running_of_abort⟩
    · cases taken
  case writing =>
    split at taken
    · rename_i ended
      obtain rfl := Option.some.inj taken
      exact ⟨loops, read, ended⟩
    · cases taken
  all_goals cases taken

/-- **Its cancellation.** -/
theorem tasksFit_cancel (fit : client.TasksFit) (taken : client.cancel = some after) : after.TasksFit := by
  unfold cancel at taken
  split at taken
  · split at taken
    · rename_i spawned
      obtain rfl := Option.some.inj taken
      have loops := fit.loops
      rw [spawned] at loops
      exact ⟨loops, trivial, trivial⟩
    · split at taken
      · obtain rfl := Option.some.inj taken
        exact ⟨ne_running_of_mem_abort, ne_running_of_abort, ne_running_of_abort⟩
      · cases taken
  · cases taken

/-- A task ends that has not. -/
theorem exists_of_ends {slot : Option TaskState} {build : TaskState → Lifecycle}
    (taken : (slot.bind endTask).map build = some after) :
    ∃ task, slot = some task ∧ task ≠ .ended ∧ after = build .ended := by
  obtain ⟨next, ending, rfl⟩ := Option.map_eq_some_iff.mp taken
  obtain ⟨task, found, ends⟩ := Option.bind_eq_some_iff.mp ending
  cases task with
  | ended => cases ends
  | _ => exact ⟨_, found, TaskState.noConfusion, congrArg build (Option.some.inj ends).symm⟩

/-! ### The calls -/

theorem stageAt_of_getElem? (found : client.calls[index]? = some call) : client.stageAt index = some call.stage := by
  rw [stageAt, found]
  rfl

theorem exists_of_stageAt (stands : client.stageAt index = some stage) :
    ∃ call, client.calls[index]? = some call ∧ call.stage = stage :=
  Option.map_eq_some_iff.mp stands

/-- A step of a call moves that call alone. -/
theorem stageAt_goto (base : Lifecycle) (found : base.calls[index]? = some call) (next : CallStage) :
    (base.goto index call next).stageAt = Function.update base.stageAt index (some next) := by
  funext i
  unfold stageAt goto
  by_cases same : i = index
  · subst same
    obtain ⟨inside, _⟩ := List.getElem?_eq_some_iff.mp found
    rw [List.getElem?_set_self inside, Function.update_self]
    rfl
  · rw [List.getElem?_set_ne (Ne.symm same), Function.update_of_ne same]

/-- A new call stands behind the others. -/
theorem stageAt_call (client : Lifecycle) (method : ClientMethod) :
    stageAt { client with calls := client.calls ++ [⟨method, method.first⟩] } =
      Function.update client.stageAt client.calls.length (some method.first) := by
  funext i
  unfold stageAt
  by_cases same : i = client.calls.length
  · subst same
    rw [List.getElem?_concat_length, Function.update_self]
    rfl
  · rw [Function.update_of_ne same]
    by_cases inside : i < client.calls.length
    · rw [List.getElem?_append_left inside]
    · have outside : client.calls.length + 1 ≤ i := by omega
      rw [List.getElem?_eq_none (by rw [List.length_append, List.length_singleton]; exact outside),
        List.getElem?_eq_none (by omega)]

theorem stageAt_length (client : Lifecycle) : client.stageAt client.calls.length = none := by
  rw [stageAt, List.getElem?_eq_none (Nat.le_refl _)]
  rfl

/-- Who holds the resources, and how often each was torn down. -/
structure Locks (installed : Resource → Bool) (client : Lifecycle) : Prop where
  locked : ∀ resource index, client.slots resource = .dropping index ↔
    client.stageAt index = some (.dropping resource)
  count : ∀ resource, client.released resource + (decide (client.slots resource ≠ .empty)).toNat =
    (installed resource).toNat

/-- A move that leaves the resources alone. -/
theorem Locks.move (locks : client.Locks installed)
    (stages : after.stageAt = Function.update client.stageAt index (some next))
    (slots : after.slots = client.slots) (released : after.released = client.released)
    (was : ∀ resource, client.stageAt index ≠ some (.dropping resource))
    (goes : ∀ resource, next ≠ .dropping resource) : after.Locks installed := by
  refine ⟨fun resource i => ?_, fun resource => ?_⟩
  · rw [slots, stages, locks.locked]
    by_cases same : i = index
    · subst same
      rw [Function.update_self]
      exact ⟨fun stands => absurd stands (was resource),
        fun stands => absurd (Option.some.inj stands) (goes resource)⟩
    · rw [Function.update_of_ne same]
  · rw [slots, released]
    exact locks.count resource

/-- **A call takes a resource**, and keeps the mutex. -/
theorem Locks.take {resource : Resource} (locks : client.Locks installed)
    (held : client.slots resource = .held)
    (stages : after.stageAt = Function.update client.stageAt index (some (.dropping resource)))
    (slots : after.slots = Function.update client.slots resource (.dropping index))
    (released : after.released = client.released)
    (was : ∀ other, client.stageAt index ≠ some (.dropping other)) : after.Locks installed := by
  refine ⟨fun other i => ?_, fun other => ?_⟩
  · rw [slots, stages]
    have before := locks.locked other i
    have never := was other
    by_cases same : i = index
    · subst same
      rw [Function.update_self]
      by_cases this : other = resource
      · subst this
        simp
      · rw [Function.update_of_ne this, before]
        simp [never, Ne.symm this]
    · rw [Function.update_of_ne same, ← before]
      by_cases this : other = resource
      · subst this
        rw [Function.update_self, held]
        simp [Ne.symm same]
      · rw [Function.update_of_ne this]
  · rw [slots, released]
    have before := locks.count other
    by_cases this : other = resource
    · subst this
      rw [held] at before
      rw [Function.update_self]
      exact before
    · rw [Function.update_of_ne this]
      exact before

/-- **A call tears a resource down**, and releases the mutex. -/
theorem Locks.drop {resource : Resource} (locks : client.Locks installed)
    (was : client.stageAt index = some (.dropping resource))
    (stages : after.stageAt = Function.update client.stageAt index (some next))
    (slots : after.slots = Function.update client.slots resource .empty)
    (released : after.released = Function.update client.released resource (client.released resource + 1))
    (goes : ∀ other, next ≠ .dropping other) : after.Locks installed := by
  have dropping := (locks.locked resource index).mpr was
  refine ⟨fun other i => ?_, fun other => ?_⟩
  · rw [slots, stages]
    have before := locks.locked other i
    have leaves := goes other
    by_cases same : i = index
    · subst same
      rw [Function.update_self]
      by_cases this : other = resource
      · subst this
        simp [leaves]
      · rw [Function.update_of_ne this, before, was]
        simp [leaves, Ne.symm this]
    · rw [Function.update_of_ne same, ← before]
      by_cases this : other = resource
      · subst this
        rw [Function.update_self, dropping]
        simp [Ne.symm same]
      · rw [Function.update_of_ne this]
  · rw [slots, released]
    have before := locks.count other
    by_cases this : other = resource
    · subst this
      rw [dropping] at before
      rw [Function.update_self, Function.update_self]
      exact before
    · rw [Function.update_of_ne this, Function.update_of_ne this]
      exact before

/-- Who took the handle. -/
structure HandleFits (client : Lifecycle) : Prop where
  aborted : client.handle = false → client.abortRequested = true
  free : client.handle = true → ∀ i, (client.stageAt i).any CallStage.awaits = false
  single : ∀ i j, (client.stageAt i).any CallStage.awaits = true → (client.stageAt j).any CallStage.awaits = true →
    i = j

/-- A move of a call that neither takes the handle nor had it. -/
theorem HandleFits.move (fits : client.HandleFits)
    (stages : after.stageAt = Function.update client.stageAt index (some next))
    (handle : after.handle = client.handle)
    (aborted : client.abortRequested = true → after.abortRequested = true)
    (same : next.awaits = true → (client.stageAt index).any CallStage.awaits = true) : after.HandleFits := by
  have was : ∀ i, (after.stageAt i).any CallStage.awaits = true → (client.stageAt i).any CallStage.awaits = true := by
    intro i awaits
    rw [stages] at awaits
    by_cases here : i = index
    · subst here
      rw [Function.update_self] at awaits
      exact same awaits
    · rwa [Function.update_of_ne here] at awaits
  refine ⟨fun taken => aborted (fits.aborted (handle ▸ taken)), fun free i => ?_, fun i j first second =>
    fits.single i j (was i first) (was j second)⟩
  rw [Bool.eq_false_iff]
  intro awaits
  have before := was i awaits
  rw [fits.free (handle ▸ free) i] at before
  cases before

/-- **A call takes the handle.** -/
theorem HandleFits.take (fits : client.HandleFits) (held : client.handle = true)
    (stages : after.stageAt = Function.update client.stageAt index (some next)) (handle : after.handle = false)
    (aborted : after.abortRequested = true) : after.HandleFits := by
  have here : ∀ i, (after.stageAt i).any CallStage.awaits = true → i = index := by
    intro i awaits
    by_contra other
    rw [stages, Function.update_of_ne other, fits.free held i] at awaits
    cases awaits
  refine ⟨fun _ => aborted, fun free => ?_, fun i j first second => (here i first).trans (here j second).symm⟩
  rw [handle] at free
  cases free

/-- What a call has done at its stage. -/
structure CallFits (client : Lifecycle) (call : ClientCall) : Prop where
  method : call.stage.asksStatus = decide (call.method = .status)
  aborted : call.stage.hasAborted = true → client.abortRequested = true
  past : ∀ resource, call.stage.past resource = true → client.slots resource = .empty
  waited : call.stage = .returned true → client.stage.finished = true

/-- What a call has done stays done. -/
theorem CallFits.mono (fits : client.CallFits call)
    (aborted : client.abortRequested = true → after.abortRequested = true)
    (slots : ∀ resource, client.slots resource = .empty → after.slots resource = .empty)
    (finished : client.stage.finished = true → after.stage.finished = true) : after.CallFits call :=
  ⟨fits.method, fun asks => aborted (fits.aborted asks), fun resource past => slots resource (fits.past resource past),
    fun waited => finished (fits.waited waited)⟩

/-- A step of one call. -/
theorem callFits_goto (others : ∀ other ∈ base.calls, base.CallFits other)
    (own : base.CallFits { call with stage := next }) :
    ∀ other ∈ (base.goto index call next).calls, (base.goto index call next).CallFits other := by
  intro other member
  rcases List.mem_or_eq_of_mem_set member with old | isNext
  · exact (others other old).mono id (fun _ => id) id
  · rw [isNext]
    exact own.mono id (fun _ => id) id

/-- What holds at every moment. -/
structure Invariant (installed : Resource → Bool) (client : Lifecycle) : Prop where
  tasks : client.TasksFit
  locks : client.Locks installed
  handle : client.HandleFits
  calls : ∀ call ∈ client.calls, client.CallFits call

/-- Where a call goes when it is done with a resource. -/
theorem after_spec (method : ClientMethod) (resource : Resource) :
    (∀ other, method.after resource ≠ .dropping other) ∧ (method.after resource).awaits = false ∧
      (method.after resource).asksStatus = false ∧ (method.after resource).hasAborted = true ∧
      method.after resource ≠ .returned true ∧
      ∀ other, (method.after resource).past other = true → other = resource ∨
        (CallStage.locking resource).past other = true := by
  cases resource with
  | routes =>
    refine ⟨fun _ => CallStage.noConfusion, rfl, rfl, rfl, CallStage.noConfusion, fun other past => ?_⟩
    cases other with
    | routes => exact .inl rfl
    | dns => cases past
  | dns =>
    have past : ∀ other : Resource, other = .dns ∨ (CallStage.locking .dns).past other = true := by
      intro other
      cases other with
      | routes => exact .inr rfl
      | dns => exact .inl rfl
    cases method with
    | disconnectAndWait =>
      exact ⟨fun _ => CallStage.noConfusion, rfl, rfl, rfl, CallStage.noConfusion, fun other _ => past other⟩
    | _ =>
      refine ⟨fun _ => CallStage.noConfusion, rfl, rfl, rfl, fun same => ?_, fun other _ => past other⟩
      cases same

/-- A step of a call that leaves the resources and the handle alone. -/
theorem Invariant.turn (invariant : client.Invariant installed) (found : client.calls[index]? = some call)
    {abortRequested connected : Bool} (mono : client.abortRequested = true → abortRequested = true)
    (was : ∀ resource, call.stage ≠ .dropping resource) (goes : ∀ resource, next ≠ .dropping resource)
    (awaits : next.awaits = true → call.stage.awaits = true)
    (own : ({ client with abortRequested, connected } : Lifecycle).CallFits { call with stage := next }) :
    (({ client with abortRequested, connected } : Lifecycle).goto index call next).Invariant installed := by
  have stands := stageAt_of_getElem? found
  have stages := stageAt_goto { client with abortRequested, connected } found next
  refine ⟨⟨invariant.tasks.loops, invariant.tasks.read, invariant.tasks.write⟩,
    invariant.locks.move stages rfl rfl (fun resource same => ?_) goes,
    invariant.handle.move stages rfl mono fun isNext => ?_, ?_⟩
  · exact was resource (Option.some.inj (stands.symm.trans same))
  · rw [stands]
    exact awaits isNext
  · exact callFits_goto (fun other member => (invariant.calls other member).mono mono (fun _ => id) id) own

/-- **A step of a call.** -/
theorem invariant_advance (invariant : client.Invariant installed) (found : client.calls[index]? = some call)
    (taken : client.advance index call = some after) : after.Invariant installed := by
  have fits := invariant.calls call (List.mem_of_getElem? found)
  have stands := stageAt_of_getElem? found
  obtain ⟨method, stage⟩ := call
  cases stage with
  | aborting =>
    obtain rfl := Option.some.inj taken
    have asks : (client.abortRequested || client.handle) = true := by
      cases free : client.handle with
      | true => exact Bool.or_true _
      | false => rw [invariant.handle.aborted free, Bool.true_or]
    refine invariant.turn found (fun _ => asks) (fun _ => CallStage.noConfusion) (fun _ => CallStage.noConfusion)
      id ⟨fits.method, fun _ => asks, fun resource past => ?_, CallStage.noConfusion⟩
    cases resource <;> cases past
  | marking =>
    obtain rfl := Option.some.inj taken
    refine invariant.turn found id (fun _ => CallStage.noConfusion) (fun _ => CallStage.noConfusion)
      id ⟨fits.method, fun _ => fits.aborted rfl, fun resource past => ?_, CallStage.noConfusion⟩
    cases resource <;> cases past
  | locking resource =>
    obtain ⟨goes, awaits, asks, -, waits, past⟩ := after_spec method resource
    unfold advance at taken
    simp only at taken
    cases slot : client.slots resource <;> rw [slot] at taken <;> simp only at taken
    case held =>
      obtain rfl := Option.some.inj taken
      have stages := stageAt_goto { client with
        slots := Function.update client.slots resource (.dropping index) } found (.dropping resource)
      have never : ∀ other, client.stageAt index ≠ some (.dropping other) := by
        intro other same
        cases stands.symm.trans same
      have kept : ∀ other, client.slots other = .empty →
          Function.update client.slots resource (.dropping index) other = .empty := by
        intro other isEmpty
        have differs : other ≠ resource := by
          rintro rfl
          cases isEmpty.symm.trans slot
        rwa [Function.update_of_ne differs]
      refine ⟨⟨invariant.tasks.loops, invariant.tasks.read, invariant.tasks.write⟩,
        invariant.locks.take slot stages rfl rfl never, invariant.handle.move stages rfl id nofun, ?_⟩
      refine callFits_goto (fun other member => (invariant.calls other member).mono id kept id)
        ⟨fits.method, fun _ => fits.aborted rfl, fun other isPast => kept other (fits.past other ?_),
          CallStage.noConfusion⟩
      cases resource <;> cases other <;> first | rfl | cases isPast
    case dropping => cases taken
    case empty =>
      obtain rfl := Option.some.inj taken
      refine invariant.turn found id (fun _ => CallStage.noConfusion) goes (fun isNext => ?_)
        ⟨asks.trans fits.method, fun _ => fits.aborted rfl, fun other isPast => ?_, fun isNext => absurd isNext waits⟩
      · rw [awaits] at isNext
        cases isNext
      · rcases past other isPast with rfl | before
        · exact slot
        · exact fits.past other before
  | dropping resource =>
    obtain ⟨goes, awaits, asks, -, waits, past⟩ := after_spec method resource
    obtain rfl := Option.some.inj taken
    have stages := stageAt_goto { client with
      slots := Function.update client.slots resource .empty
      released := Function.update client.released resource (client.released resource + 1) } found
        (method.after resource)
    have kept : ∀ other, other = resource ∨ client.slots other = .empty →
        Function.update client.slots resource .empty other = .empty := by
      intro other either
      by_cases same : other = resource
      · rw [same, Function.update_self]
      · rw [Function.update_of_ne same]
        exact either.resolve_left same
    refine ⟨⟨invariant.tasks.loops, invariant.tasks.read, invariant.tasks.write⟩,
      invariant.locks.drop stands stages rfl rfl goes, invariant.handle.move stages rfl id (fun isNext => ?_), ?_⟩
    · rw [awaits] at isNext
      cases isNext
    · refine callFits_goto (fun other member => (invariant.calls other member).mono id (fun r isEmpty =>
          kept r (.inr isEmpty)) id)
        ⟨asks.trans fits.method, fun _ => fits.aborted rfl, fun other isPast => kept other ?_,
          fun isNext => absurd isNext waits⟩
      refine (past other isPast).imp_right fun before => fits.past other ?_
      cases resource <;> cases other <;> first | rfl | cases before
  | taking =>
    unfold advance at taken
    simp only at taken
    split at taken
    · rename_i held
      obtain rfl := Option.some.inj taken
      have stages := stageAt_goto { client with handle := false } found .awaiting
      have asked := fits.aborted rfl
      refine ⟨⟨invariant.tasks.loops, invariant.tasks.read, invariant.tasks.write⟩,
        invariant.locks.move stages rfl rfl (fun resource same => ?_) (fun _ => CallStage.noConfusion),
        invariant.handle.take held stages rfl asked, ?_⟩
      · cases stands.symm.trans same
      · exact callFits_goto (fun other member => (invariant.calls other member).mono id (fun _ => id) id)
          ⟨fits.method, fun _ => asked, fun resource _ => fits.past resource rfl, CallStage.noConfusion⟩
    · obtain rfl := Option.some.inj taken
      exact invariant.turn found id (fun _ => CallStage.noConfusion) (fun _ => CallStage.noConfusion)
        nofun ⟨fits.method, fun _ => fits.aborted rfl, fun resource _ => fits.past resource rfl, nofun⟩
  | awaiting =>
    unfold advance at taken
    simp only at taken
    split at taken
    · rename_i finished
      obtain rfl := Option.some.inj taken
      exact invariant.turn found id (fun _ => CallStage.noConfusion) (fun _ => CallStage.noConfusion)
        (fun _ => rfl) ⟨fits.method, fun _ => fits.aborted rfl, fun resource _ => fits.past resource rfl,
          fun _ => finished⟩
    · cases taken
  | asking =>
    obtain rfl := Option.some.inj taken
    exact invariant.turn found id (fun _ => CallStage.noConfusion) (fun _ => CallStage.noConfusion)
      id ⟨fits.method, nofun, nofun, CallStage.noConfusion⟩
  | loading running =>
    obtain rfl := Option.some.inj taken
    exact invariant.turn found id (fun _ => CallStage.noConfusion) (fun _ => CallStage.noConfusion)
      id ⟨fits.method, nofun, nofun, CallStage.noConfusion⟩
  | returned awaited => cases taken
  | reported connected => cases taken

/-- A step of the tunnel task or of what it owns leaves the calls alone. -/
structure TaskStep (client after : Lifecycle) : Prop where
  abortRequested : after.abortRequested = client.abortRequested
  handle : after.handle = client.handle
  slots : after.slots = client.slots
  released : after.released = client.released
  calls : after.calls = client.calls
  finished : client.stage.finished = true → after.stage.finished = true

theorem taskStep_tunnel {ok : Bool} (taken : client.tunnel ok = some after) : client.TaskStep after := by
  unfold tunnel at taken
  cases stage : client.stage <;> rw [stage] at taken <;> simp only at taken
  case entered =>
    obtain rfl := Option.some.inj taken
    exact ⟨rfl, rfl, rfl, rfl, rfl, fun finished => by rw [stage] at finished; cases finished⟩
  case closed | failed | cancelled | unpolled => cases taken
  all_goals
    split at taken
    all_goals first
      | obtain rfl := Option.some.inj taken
        exact ⟨rfl, rfl, rfl, rfl, rfl, fun finished => by rw [stage] at finished; cases finished⟩
      | cases taken

theorem taskStep_cancel (taken : client.cancel = some after) : client.TaskStep after := by
  unfold cancel at taken
  split at taken
  · split at taken
    · obtain rfl := Option.some.inj taken
      exact ⟨rfl, rfl, rfl, rfl, rfl, fun _ => rfl⟩
    · split at taken
      · obtain rfl := Option.some.inj taken
        exact ⟨rfl, rfl, rfl, rfl, rfl, fun _ => rfl⟩
      · cases taken
  · cases taken

/-- The steps of the tasks keep the invariant when what they own fits. -/
theorem Invariant.task (invariant : client.Invariant installed) (task : client.TaskStep after)
    (tasks : after.TasksFit) : after.Invariant installed := by
  have stages : after.stageAt = client.stageAt := by
    funext i
    rw [stageAt, stageAt, task.calls]
  obtain ⟨-, ⟨locked, count⟩, ⟨aborted, free, single⟩, calls⟩ := invariant
  refine ⟨tasks, ⟨?_, ?_⟩, ⟨?_, ?_, ?_⟩, ?_⟩
  · rw [task.slots, stages]
    exact locked
  · rw [task.slots, task.released]
    exact count
  · rw [task.handle, task.abortRequested]
    exact aborted
  · rw [task.handle, stages]
    exact free
  · rw [stages]
    exact single
  · rw [task.calls]
    exact fun call member => (calls call member).mono (fun asked => task.abortRequested.trans asked)
      (fun resource isEmpty => (congrFun task.slots resource).trans isEmpty) task.finished

/-- A new call. -/
theorem Invariant.calling (invariant : client.Invariant installed) (method : ClientMethod) :
    ({ client with calls := client.calls ++ [⟨method, method.first⟩] } : Lifecycle).Invariant installed := by
  have stages := stageAt_call client method
  have nobody := stageAt_length client
  have first : (∀ resource, method.first ≠ .dropping resource) ∧ method.first.awaits = false ∧
      method.first.asksStatus = decide (method = .status) ∧ method.first.hasAborted = false ∧
      (∀ resource, method.first.past resource = false) ∧ method.first ≠ .returned true := by
    cases method <;> exact ⟨fun _ => CallStage.noConfusion, rfl, rfl, rfl, fun _ => rfl, CallStage.noConfusion⟩
  obtain ⟨drops, awaits, asks, aborts, past, waits⟩ := first
  refine ⟨⟨invariant.tasks.loops, invariant.tasks.read, invariant.tasks.write⟩,
    invariant.locks.move stages rfl rfl (fun resource same => ?_) drops,
    invariant.handle.move stages rfl id (fun isNext => ?_), fun call member => ?_⟩
  · rw [nobody] at same
    cases same
  · rw [awaits] at isNext
    cases isNext
  · rcases List.mem_append.mp member with old | isNew
    · exact (invariant.calls call old).mono id (fun _ => id) id
    · obtain rfl := List.mem_singleton.mp isNew
      refine ⟨asks, fun asked => ?_, fun resource isPast => ?_, fun waited => absurd waited waits⟩
      · rw [aborts] at asked
        cases asked
      · rw [past resource] at isPast
        cases isPast

/-- **The step lemma.** -/
theorem invariant_step {event : LifecycleEvent} (invariant : client.Invariant installed)
    (taken : client.step event = some after) : after.Invariant installed := by
  cases event with
  | call method => exact Option.some.inj taken ▸ invariant.calling method
  | advance index =>
    simp only [step] at taken
    split at taken
    · rename_i call found
      exact invariant_advance invariant found taken
    · cases taken
  | tunnel ok => exact invariant.task (taskStep_tunnel taken) (tasksFit_tunnel invariant.tasks taken)
  | cancel => exact invariant.task (taskStep_cancel taken) (tasksFit_cancel invariant.tasks taken)
  | loopEnds index =>
    obtain ⟨task, -, -, rfl⟩ := exists_of_ends taken
    exact invariant.task ⟨rfl, rfl, rfl, rfl, rfl, id⟩
      ⟨invariant.tasks.loops.ends index, invariant.tasks.read, invariant.tasks.write⟩
  | readEnds =>
    obtain ⟨task, -, -, rfl⟩ := exists_of_ends taken
    exact invariant.task ⟨rfl, rfl, rfl, rfl, rfl, id⟩
      ⟨invariant.tasks.loops, ReadFits.ends _, invariant.tasks.write⟩
  | writeEnds =>
    obtain ⟨task, -, -, rfl⟩ := exists_of_ends taken
    exact invariant.task ⟨rfl, rfl, rfl, rfl, rfl, id⟩
      ⟨invariant.tasks.loops, invariant.tasks.read, WriteFits.ends _⟩

theorem invariant_connect (readTask writeTask : Option TaskState) (installed : Resource → Bool) :
    (connect readTask writeTask installed).Invariant installed := by
  refine ⟨⟨rfl, trivial, trivial⟩, ⟨fun resource index => ?_, fun resource => ?_⟩,
    ⟨nofun, fun _ _ => rfl, nofun⟩, fun _ absent => ?_⟩
  · unfold connect
    simp only
    split <;> exact ⟨ResourceSlot.noConfusion, nofun⟩
  · cases has : installed resource <;> simp [connect, has]
  · cases absent

theorem Invariant.run {first last : Lifecycle} {events : List LifecycleEvent} (invariant : first.Invariant installed)
    (run : Run (Taken step) first events last) : last.Invariant installed :=
  Run.invariant (fun client => client.Invariant installed) (fun _ _ _ => invariant_step) run invariant

/-! ### At any moment -/

/-- **What the invariant says to a frontend.** -/
theorem Invariant.sound (invariant : client.Invariant installed) : client.Sound installed := by
  obtain ⟨⟨loops, read, write⟩, locks, handle, calls⟩ := invariant
  refine ⟨fun call member awaited isReturned resource => ?_, fun resource => ?_, handle.single,
    fun call member => (calls call member).waited, fun finished => ?_, fun closed => ?_⟩
  · have isEmpty := (calls call member).past resource (by rw [isReturned]; rfl)
    have count := locks.count resource
    rw [isEmpty] at count
    exact count
  · exact Nat.le_of_add_right_le (Nat.le_of_eq (locks.count resource))
  · cases stage : client.stage <;> rw [stage] at finished loops read write
    case closed =>
      refine ⟨fun task member running => ?_, fun _ => ⟨fun task member running => ?_, fun task member running => ?_⟩⟩
      · cases (loops task member).symm.trans running
      · cases (read task member).symm.trans running
      · cases (write task member).symm.trans running
    case failed =>
      rw [show client.loops = [] from loops]
      exact ⟨nofun, fun _ => ⟨read, write⟩⟩
    case cancelled => exact ⟨loops, fun _ => ⟨read, write⟩⟩
    case unpolled =>
      rw [show client.loops = [] from loops]
      exact ⟨nofun, fun polled => absurd rfl polled⟩
    all_goals cases finished
  · rw [closed] at loops read write
    exact ⟨loops, read, write⟩

/-- **What a step of a call changes**: its stage, and nothing of the tunnel task. -/
structure CallStep (client after : Lifecycle) (index : Nat) (call : ClientCall) (next : CallStage) : Prop where
  calls : after.calls = client.calls.set index { call with stage := next }
  stage : after.stage = client.stage
  loops : after.loops = client.loops
  readTask : after.readTask = client.readTask
  writeTask : after.writeTask = client.writeTask
  handle : client.handle = false → after.handle = false
  loading : next = .loading true → client.handle = true ∧ client.stage.finished = false
  reported : next = .reported true → call.stage = .loading true
  remaining : next.remaining < call.stage.remaining

theorem remaining_after_lt (method : ClientMethod) (resource : Resource) :
    (method.after resource).remaining < (CallStage.dropping resource).remaining := by
  cases resource <;> cases method <;> decide

theorem callStep_advance (taken : client.advance index call = some after) :
    ∃ next, CallStep client after index call next := by
  obtain ⟨method, stage⟩ := call
  cases stage with
  | aborting | marking =>
    obtain rfl := Option.some.inj taken
    exact ⟨_, rfl, rfl, rfl, rfl, rfl, id, nofun, nofun, Nat.lt_succ_self _⟩
  | locking resource =>
    have less := remaining_after_lt method resource
    unfold advance at taken
    simp only at taken
    cases slot : client.slots resource <;> rw [slot] at taken <;> simp only at taken
    case held =>
      obtain rfl := Option.some.inj taken
      exact ⟨.dropping resource, rfl, rfl, rfl, rfl, rfl, id, nofun, nofun,
        by cases resource <;> exact Nat.lt_succ_self _⟩
    case dropping => cases taken
    case empty =>
      obtain rfl := Option.some.inj taken
      refine ⟨_, rfl, rfl, rfl, rfl, rfl, id, ?_, ?_, 
        Nat.lt_trans less (by cases resource <;> exact Nat.lt_succ_self _)⟩
      · intro same
        cases resource <;> cases method <;> cases same
      · intro same
        cases resource <;> cases method <;> cases same
  | dropping resource =>
    have less := remaining_after_lt method resource
    obtain rfl := Option.some.inj taken
    refine ⟨_, rfl, rfl, rfl, rfl, rfl, id, ?_, ?_, less⟩
    · intro same
      cases resource <;> cases method <;> cases same
    · intro same
      cases resource <;> cases method <;> cases same
  | taking =>
    unfold advance at taken
    simp only at taken
    split at taken
    · obtain rfl := Option.some.inj taken
      exact ⟨_, rfl, rfl, rfl, rfl, rfl, fun _ => rfl, nofun, nofun, Nat.lt_succ_self _⟩
    · obtain rfl := Option.some.inj taken
      exact ⟨_, rfl, rfl, rfl, rfl, rfl, id, nofun, nofun, Nat.succ_pos _⟩
  | awaiting =>
    unfold advance at taken
    simp only at taken
    split at taken
    · obtain rfl := Option.some.inj taken
      exact ⟨_, rfl, rfl, rfl, rfl, rfl, id, nofun, nofun, Nat.succ_pos _⟩
    · cases taken
  | asking =>
    obtain rfl := Option.some.inj taken
    refine ⟨_, rfl, rfl, rfl, rfl, rfl, id, fun same => ?_, nofun, Nat.lt_succ_self _⟩
    have running : (client.handle && !client.stage.finished) = true := CallStage.loading.inj same
    exact ⟨(Bool.and_eq_true_iff.mp running).1, Bool.not_eq_true' _ ▸ (Bool.and_eq_true_iff.mp running).2⟩
  | loading running =>
    obtain rfl := Option.some.inj taken
    refine ⟨_, rfl, rfl, rfl, rfl, rfl, id, nofun, fun same => ?_, Nat.lt_succ_self _⟩
    have both : (client.connected && running) = true := CallStage.reported.inj same
    rw [(Bool.and_eq_true_iff.mp both).2]
  | returned awaited => cases taken
  | reported connected => cases taken

/-- **The task stays down**, and so does what later calls see of it. -/
structure StaysDown (before : Nat) (client : Lifecycle) : Prop where
  down : client.Down
  calls : before ≤ client.calls.length
  stages : ∀ i, before ≤ i → client.stageAt i ≠ some (.loading true) ∧ client.stageAt i ≠ some (.reported true)

theorem StaysDown.move {before : Nat} (stays : client.StaysDown before) (down : after.Down)
    (length : client.calls.length ≤ after.calls.length)
    (stages : after.stageAt = Function.update client.stageAt index (some next))
    (goes : before ≤ index → next ≠ .loading true ∧ next ≠ .reported true) : after.StaysDown before := by
  refine ⟨down, Nat.le_trans stays.calls length, fun i later => ?_⟩
  rw [stages]
  by_cases same : i = index
  · subst same
    rw [Function.update_self]
    exact ⟨fun isNext => (goes later).1 (Option.some.inj isNext), fun isNext => (goes later).2 (Option.some.inj isNext)⟩
  · rw [Function.update_of_ne same]
    exact stays.stages i later

/-- The tasks leave it down. -/
theorem StaysDown.task {before : Nat} (stays : client.StaysDown before) (task : client.TaskStep after) :
    after.StaysDown before := by
  refine ⟨stays.down.imp task.finished fun taken => task.handle.trans taken, ?_, ?_⟩
  · rw [task.calls]
    exact stays.calls
  · unfold stageAt
    rw [task.calls]
    exact stays.stages

theorem step_kinds {event : LifecycleEvent} (taken : client.step event = some after) :
    (∃ method, event = .call method) ∨ (∃ index, event = .advance index) ∨ client.TaskStep after := by
  cases event with
  | call method => exact .inl ⟨method, rfl⟩
  | advance index => exact .inr (.inl ⟨index, rfl⟩)
  | tunnel ok => exact .inr (.inr (taskStep_tunnel taken))
  | cancel => exact .inr (.inr (taskStep_cancel taken))
  | _ =>
    obtain ⟨task, -, -, rfl⟩ := exists_of_ends taken
    exact .inr (.inr ⟨rfl, rfl, rfl, rfl, rfl, id⟩)

theorem staysDown_step {before : Nat} {event : LifecycleEvent} (stays : client.StaysDown before)
    (taken : client.step event = some after) : after.StaysDown before := by
  rcases step_kinds taken with ⟨method, rfl⟩ | ⟨index, rfl⟩ | task
  · obtain rfl := Option.some.inj taken
    refine stays.move stays.down ?_ (stageAt_call client method) fun _ => ?_
    · exact (List.length_append ▸ Nat.le_add_right _ _)
    · cases method <;> exact ⟨nofun, nofun⟩
  · simp only [step] at taken
    split at taken
    · rename_i call found
      obtain ⟨next, moves⟩ := callStep_advance taken
      have stages : after.stageAt = Function.update client.stageAt index (some next) := by
        rw [← stageAt_goto client found next]
        unfold stageAt goto
        rw [moves.calls]
      refine stays.move (stays.down.imp (fun finished => moves.stage ▸ finished) moves.handle) ?_ stages fun later => ?_
      · rw [moves.calls, List.length_set]
      · refine ⟨fun isNext => ?_, fun isNext => ?_⟩
        · obtain ⟨held, running⟩ := moves.loading isNext
          rcases stays.down with finished | free
          · exact Bool.noConfusion (finished.symm.trans running)
          · exact Bool.noConfusion (held.symm.trans free)
        · exact (stays.stages index later).1 ((stageAt_of_getElem? found).trans (congrArg some (moves.reported isNext)))
    · cases taken
  · exact stays.task task

/-- **No status asked for later is connected.** -/
theorem staysDown_run {middle last : Lifecycle} {events : List LifecycleEvent} (down : middle.Down)
    (run : Run (Taken step) middle events last) : last.StaysDown middle.calls.length := by
  refine Run.invariant (StaysDown middle.calls.length) (fun _ _ _ => staysDown_step) run
    ⟨down, Nat.le_refl _, fun i later => ?_⟩
  rw [stageAt, List.getElem?_eq_none later]
  exact ⟨nofun, nofun⟩

/-! ### Down to the end -/

theorem remaining_abort_le (task : TaskState) : task.abort.remaining ≤ task.remaining := by
  cases task <;> decide

theorem remaining_pos {task : TaskState} (live : task ≠ .ended) : 0 < task.remaining := by
  cases task with
  | ended => exact absurd rfl live
  | _ => exact Nat.succ_pos _

theorem sum_abort_le (tasks : List TaskState) :
    ((tasks.map TaskState.abort).map TaskState.remaining).sum ≤ (tasks.map TaskState.remaining).sum := by
  induction tasks with
  | nil => exact Nat.le_refl _
  | cons task tasks ih =>
    simp only [List.map_cons, List.sum_cons]
    exact Nat.add_le_add (remaining_abort_le task) ih

theorem elim_abort_le (slot : Option TaskState) :
    (slot.map TaskState.abort).elim 0 TaskState.remaining ≤ slot.elim 0 TaskState.remaining := by
  cases slot with
  | none => exact Nat.le_refl _
  | some task => exact remaining_abort_le task

theorem budget_tunnel {ok : Bool} (taken : client.tunnel ok = some after) : after.budget < client.budget := by
  have loops := sum_abort_le client.loops
  have read := elim_abort_le client.readTask
  have write := elim_abort_le client.writeTask
  have spawned : (spawnedLoops.map TaskState.remaining).sum = 10 := rfl
  unfold tunnel at taken
  cases stage : client.stage <;> rw [stage] at taken <;> simp only at taken
  case entered =>
    obtain rfl := Option.some.inj taken
    simp only [budget, stage, TunnelStage.remaining]
    omega
  case closed | failed | cancelled | unpolled => cases taken
  all_goals
    split at taken
    all_goals first
      | obtain rfl := Option.some.inj taken
        simp only [budget, abortLoops, dropGuard, stage, TunnelStage.remaining]
        omega
      | cases taken

theorem budget_cancel (taken : client.cancel = some after) : after.budget < client.budget := by
  have loops := sum_abort_le client.loops
  have read := elim_abort_le client.readTask
  have write := elim_abort_le client.writeTask
  unfold cancel at taken
  split at taken
  · split at taken
    · rename_i stage
      obtain rfl := Option.some.inj taken
      simp only [budget, stage, TunnelStage.remaining]
      omega
    · split at taken
      · rename_i suspended
        obtain rfl := Option.some.inj taken
        have pos : 0 < client.stage.remaining := by
          revert suspended
          cases client.stage <;> simp [TunnelStage.suspended, TunnelStage.remaining]
        have none : TunnelStage.cancelled.remaining = 0 := rfl
        simp only [budget, abortLoops, dropGuard, none]
        omega
      · cases taken
  · cases taken

/-- **Every step uses up some of the budget**, while no method is called. -/
theorem budget_step {event : LifecycleEvent} (internal : Internal event) (taken : client.step event = some after) :
    after.budget < client.budget := by
  cases event with
  | call method => cases internal
  | advance index =>
    simp only [step] at taken
    split at taken
    · rename_i call found
      obtain ⟨next, moves⟩ := callStep_advance taken
      have sum := Library.TaskPool.sum_map_set (fun call : ClientCall => call.stage.remaining) found
        { call with stage := next }
      have less := moves.remaining
      simp only [budget, moves.calls, moves.stage, moves.loops, moves.readTask, moves.writeTask]
      simp only at sum
      omega
    · cases taken
  | tunnel ok => exact budget_tunnel taken
  | cancel => exact budget_cancel taken
  | loopEnds index =>
    obtain ⟨task, found, live, rfl⟩ := exists_of_ends taken
    have sum := Library.TaskPool.sum_map_set TaskState.remaining found .ended
    have pos := remaining_pos live
    have none : TaskState.ended.remaining = 0 := rfl
    simp only [budget]
    omega
  | readEnds =>
    obtain ⟨task, found, live, rfl⟩ := exists_of_ends taken
    have pos := remaining_pos live
    simp only [budget, found, Option.elim_some]
    have none : TaskState.ended.remaining = 0 := rfl
    omega
  | writeEnds =>
    obtain ⟨task, found, live, rfl⟩ := exists_of_ends taken
    have pos := remaining_pos live
    simp only [budget, found, Option.elim_some]
    have none : TaskState.ended.remaining = 0 := rfl
    omega

/-- **An aborted task finishes.** -/
theorem settled_finished (settled : client.Settled) (aborted : client.abortRequested = true) :
    client.stage.finished = true := by
  have cancels := settled .cancel trivial
  have goesOn := settled (.tunnel true) trivial
  simp only [step, cancel, aborted, if_true] at cancels
  simp only [step, tunnel] at goesOn
  cases stage : client.stage with
  | closed | failed | cancelled | unpolled => rfl
  | spawned =>
    rw [if_pos stage] at cancels
    cases cancels
  | entered | preparing =>
    rw [stage] at goesOn
    cases goesOn
  | _ =>
    rw [stage] at cancels
    cases cancels

/-- **Every call has returned**: none waits for a lock or for the task. -/
theorem settled_returned (invariant : client.Invariant installed) (settled : client.Settled) :
    ∀ call ∈ client.calls, call.stage.isReturned = true := by
  have stops : ∀ index call, client.calls[index]? = some call → client.advance index call = none := by
    intro index call found
    have stuck := settled (.advance index) trivial
    simp only [step, found] at stuck
    exact stuck
  intro call member
  obtain ⟨index, found⟩ := List.mem_iff_getElem?.mp member
  have stuck := stops index call found
  have fits := invariant.calls call member
  obtain ⟨method, stage⟩ := call
  cases stage with
  | returned awaited | reported connected => rfl
  | locking resource =>
    unfold advance at stuck
    simp only at stuck
    cases slot : client.slots resource <;> rw [slot] at stuck <;> simp only at stuck
    case held | empty => cases stuck
    case dropping other =>
      -- whoever holds the mutex can go on
      obtain ⟨⟨_, _⟩, holder, rfl⟩ := exists_of_stageAt ((invariant.locks.locked resource other).mp slot)
      cases stops other _ holder
  | taking =>
    unfold advance at stuck
    simp only at stuck
    split at stuck <;> cases stuck
  | awaiting =>
    have finished := settled_finished settled (fits.aborted rfl)
    unfold advance at stuck
    simp only at stuck
    rw [if_pos finished] at stuck
    cases stuck
  | _ => cases stuck

/-- No task is left that was told to end. -/
theorem settled_tasks (loops : ∀ i, client.Due (.loopEnds i) → client.step (.loopEnds i) = none)
    (read : client.Due .readEnds → client.step .readEnds = none)
    (write : client.Due .writeEnds → client.step .writeEnds = none) :
    (∀ task ∈ client.loops, task ≠ .aborting) ∧ (∀ task ∈ client.readTask, task ≠ .aborting) ∧
      ∀ task ∈ client.writeTask, task ≠ .aborting := by
  refine ⟨?_, ?_, ?_⟩
  · rintro task member rfl
    obtain ⟨i, found⟩ := List.mem_iff_getElem?.mp member
    have stuck := loops i found
    rw [step, found] at stuck
    cases stuck
  · rintro task member rfl
    have stuck := read member
    rw [step, Option.mem_def.mp member] at stuck
    cases stuck
  · rintro task member rfl
    have stuck := write member
    rw [step, Option.mem_def.mp member] at stuck
    cases stuck

theorem ended_of_settled {task : TaskState} (running : task ≠ .running) (aborting : task ≠ .aborting) :
    task = .ended := by
  cases task with
  | ended => rfl
  | running => exact absurd rfl running
  | aborting => exact absurd rfl aborting

/-! ### Any run of a client -/

variable {middle last : Lifecycle} {events more : List LifecycleEvent} {readTask writeTask : Option TaskState}

/-- **What a frontend relies on, whatever is called beside it**: a disconnect that has returned left the routes and
the DNS override torn down, each once; the one call that took the handle returned when the task had finished, with
nothing of the tunnel running on; and no status asked for from then on is connected. -/
theorem disconnect_sound (reached : Run (Taken step) (connect readTask writeTask installed) events middle)
    (goesOn : Run (Taken step) middle more last) :
    last.Sound installed ∧
      (middle.Down → ∀ i, middle.calls.length ≤ i → last.stageAt i ≠ some (.reported true)) := by
  have invariant := ((invariant_connect readTask writeTask installed).run reached).run goesOn
  exact ⟨invariant.sound, fun down i later => ((staysDown_run down goesOn).stages i later).2⟩

/-- Two frontends disconnect beside each other; the second waits for the first to tear the routes down. -/
theorem disconnect_sound_sample : ∃ last : Lifecycle, last.calls.map ClientCall.stage =
    [.returned true, .returned false, .loading false] ∧ last.Sound (fun _ => true) ∧
      last.stageAt 2 ≠ some (.reported true) := by
  obtain ⟨middle, started, down, three⟩ : ∃ middle,
      execute step (connect (some .running) none fun _ => true)
        (List.replicate 3 (.tunnel true) ++ [.call .disconnectAndWait, .call .disconnect] ++
          List.replicate 3 (.advance 0) ++ List.replicate 2 (.advance 1) ++ List.replicate 4 (.advance 0)) =
            some middle ∧ middle.handle = false ∧ middle.calls.length = 2 := ⟨_, rfl, rfl, rfl⟩
  obtain ⟨last, executed, stages⟩ : ∃ last,
      execute step middle [.cancel, .advance 0, .advance 1, .advance 1, .call .status, .advance 2] = some last ∧
        last.calls.map ClientCall.stage = [.returned true, .returned false, .loading false] := by
    cases started
    exact ⟨_, rfl, rfl⟩
  obtain ⟨sound, later⟩ := disconnect_sound (run_of_execute started) (run_of_execute executed)
  exact ⟨last, stages, sound, later (.inr down) 2 (Nat.le_of_eq three)⟩

/-- **Every call returns, and a disconnect leaves nothing behind**: while no method is called there are at most
`budget` steps, and when the runtime has nothing left to do every call has returned; if one of them was a disconnect,
the task has finished, every loop has ended, the resources are torn down and, once the task had been polled, the tasks
of the TUN have ended too. -/
theorem disconnect_returns (reached : Run (Taken step) (connect readTask writeTask installed) events middle)
    (run : Run (Guarded (fun _ => Internal) (Taken step)) middle more last) :
    more.length ≤ middle.budget ∧
      (last.Settled → (∀ call ∈ last.calls, call.stage.isReturned = true) ∧
        ((∃ call ∈ last.calls, call.method ≠ .status) → last.stage.finished = true ∧
          (∀ task ∈ last.loops, task = .ended) ∧
          (∀ resource, last.released resource = (installed resource).toNat) ∧
          (last.stage ≠ .unpolled →
            (∀ task ∈ last.readTask, task = .ended) ∧ ∀ task ∈ last.writeTask, task = .ended))) := by
  have invariant := ((invariant_connect readTask writeTask installed).run reached).run
    (run.weaken fun _ _ _ taken => taken.2)
  have sound := invariant.sound
  refine ⟨run.length_le budget fun _ _ _ taken => budget_step taken.1 taken.2, fun settled => ?_⟩
  have returned := settled_returned invariant settled
  refine ⟨returned, fun ⟨call, member, disconnects⟩ => ?_⟩
  have fits := invariant.calls call member
  -- a disconnect that has returned
  obtain ⟨awaited, isReturned⟩ : ∃ awaited, call.stage = .returned awaited := by
    have isDone := returned call member
    have method := fits.method
    rw [decide_eq_false disconnects] at method
    revert isDone method
    cases call.stage <;> simp [CallStage.isReturned, CallStage.asksStatus]
  have finished := settled_finished settled (fits.aborted (by rw [isReturned]; rfl))
  obtain ⟨loops, reads, writes⟩ := settled_tasks (fun i => settled (.loopEnds i)) (settled .readEnds) (settled .writeEnds)
  obtain ⟨quiet, guarded⟩ := sound.quiet finished
  refine ⟨finished, fun task member => ended_of_settled (quiet task member) (loops task member),
    sound.released call member awaited isReturned, fun polled => ?_⟩
  obtain ⟨read, write⟩ := guarded polled
  exact ⟨fun task member => ended_of_settled (read task member) (reads task member),
    fun task member => ended_of_settled (write task member) (writes task member)⟩

/-- A tunnel is up when its only frontend disconnects. -/
theorem disconnect_returns_sample : ∃ last : Lifecycle, last.stage = .cancelled ∧
    (∀ task ∈ last.loops, task = .ended) ∧ ∀ task ∈ last.readTask, task = .ended := by
  obtain ⟨middle, started⟩ : ∃ middle, execute step (connect (some .running) none fun _ => true)
      [.tunnel true, .tunnel true, .tunnel true, .call .disconnect] = some middle := ⟨_, rfl⟩
  have events : ∀ event ∈ List.replicate 6 (LifecycleEvent.advance 0) ++
      [.cancel, .loopEnds 0, .loopEnds 1, .loopEnds 2, .loopEnds 3, .loopEnds 4, .readEnds], Internal event := by
    simp [Internal]
  obtain ⟨last, executed, stage, loops, read, write, calls⟩ : ∃ last,
      execute step middle (List.replicate 6 (.advance 0) ++
        [.cancel, .loopEnds 0, .loopEnds 1, .loopEnds 2, .loopEnds 3, .loopEnds 4, .readEnds]) = some last ∧
      last.stage = .cancelled ∧ last.loops = List.replicate 5 .ended ∧ last.readTask = some .ended ∧
        last.writeTask = none ∧ last.calls = [⟨.disconnect, .returned false⟩] := by
    cases started
    exact ⟨_, rfl, rfl, rfl, rfl, rfl, rfl⟩
  have settled : last.Settled := by
    intro event due
    cases event with
    | call method => cases due
    | advance index =>
      cases index with
      | zero => simp [step, calls, advance]
      | succ index => simp [step, calls]
    | tunnel ok => simp [step, tunnel, stage]
    | cancel => simp [step, cancel, stage, TunnelStage.suspended]
    | loopEnds index =>
      have member := List.mem_of_getElem? due
      rw [loops] at member
      cases List.eq_of_mem_replicate member
    | readEnds => cases read.symm.trans due
    | writeEnds => cases write.symm.trans due
  have onward := (run_of_execute executed).guarded events
  obtain ⟨-, ended, -, guarded⟩ := ((disconnect_returns (run_of_execute started) onward).2 settled).2
    ⟨_, by rw [calls]; exact List.mem_singleton_self _, by decide⟩
  exact ⟨last, stage, ended, (guarded (by rw [stage]; decide)).1⟩

end Lifecycle

end ChameleonPQ
