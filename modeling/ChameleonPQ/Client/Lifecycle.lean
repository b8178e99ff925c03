/-
**A connected client and its tunnel task (`Client` in `client.rs`, `run_tunnel_loops`).**

`connect` spawns one task for the tunnel and keeps its handle. The task owns the loops and, through its guard, the
tasks of the TUN; `status`, `disconnect` and `disconnect_and_wait` are called on the shared client from any thread.

* `TunnelStage`, `tunnel`, `cancel` — the task from its spawn to its end, returned or dropped.
* `CallStage`, `advance` — a call, one lock, store or await at a time.
* `Lifecycle.step` — any order of them.
* `Lifecycle.Sound` — what a frontend relies on; `Lifecycle.Settled` — nothing is left to the runtime.
-/

import ChameleonPQ.Library.Runs
import Mathlib.Algebra.Order.Ring.Nat

namespace ChameleonPQ

open Library.Runs

/-! ### The tasks -/

/-- A spawned task: `abort` takes effect where it is next suspended. -/
inductive TaskState where
  | running
  | aborting
  | ended
  deriving DecidableEq

/-- `AbortHandle::abort`. -/
def TaskState.abort : TaskState → TaskState
  | .running => .aborting
  | other => other

/-- Where the task of `run_tunnel_loops` stands. -/
inductive TunnelStage where
  /-- Spawned, and not polled yet. -/
  | spawned
  /-- Polled, before it stores `connected`. -/
  | entered
  /-- Before the UDP state is set up. -/
  | preparing
  /-- In `join_next`: the loops run. -/
  | joining
  /-- In `shutdown`, which waits for every loop. -/
  | stopping
  /-- Waiting for the TUN read task. -/
  | reading
  /-- Waiting for the TUN write task. -/
  | writing
  /-- Returned, with the tunnel closed. -/
  | closed
  /-- Returned without the UDP state. -/
  | failed
  /-- Dropped where it was suspended. -/
  | cancelled
  /-- Dropped before it was ever polled: there is no guard yet. -/
  | unpolled
  deriving DecidableEq

/-- `JoinHandle::is_finished`. -/
def TunnelStage.finished : TunnelStage → Bool
  | closed | failed | cancelled | unpolled => true
  | _ => false

/-- In an `await`. -/
def TunnelStage.suspended : TunnelStage → Bool
  | joining | stopping | reading | writing => true
  | _ => false

/-! ### The calls -/

/-- What the client holds for its teardown. -/
inductive Resource where
  /-- `_routes`. -/
  | routes
  /-- `_dns`. -/
  | dns
  deriving DecidableEq

/-- The mutex around a resource. -/
inductive ResourceSlot where
  | held
  /-- Locked by a call that runs the teardown of what it took. -/
  | dropping (call : Nat)
  | empty
  deriving DecidableEq

/-- A method of the client. -/
inductive ClientMethod where
  | status
  | disconnect
  | disconnectAndWait
  deriving DecidableEq

/-- Where a call stands. -/
inductive CallStage where
  /-- Before `abort`. -/
  | aborting
  /-- Before `connected.store(false)`. -/
  | marking
  /-- Before the mutex of a resource. -/
  | locking (resource : Resource)
  /-- Holds the mutex, with the resource taken. -/
  | dropping (resource : Resource)
  /-- Before `task.lock().take()`. -/
  | taking
  /-- Awaits the handle it took. -/
  | awaiting
  /-- A disconnect that has returned, and whether it awaited the task. -/
  | returned (awaited : Bool)
  /-- Before `is_finished`. -/
  | asking
  /-- Before `connected.load`. -/
  | loading (running : Bool)
  /-- `Status::connected`. -/
  | reported (connected : Bool)
  deriving DecidableEq

/-- The call has returned. -/
def CallStage.isReturned : CallStage → Bool
  | returned _ | reported _ => true
  | _ => false

/-- The call has taken the handle. -/
def CallStage.awaits : CallStage → Bool
  | awaiting | returned true => true
  | _ => false

/-- A call. -/
structure ClientCall where
  method : ClientMethod
  stage : CallStage
  deriving DecidableEq

namespace ClientMethod

/-- Where a call begins. -/
def first : ClientMethod → CallStage
  | status => .asking
  | disconnect | disconnectAndWait => .aborting

/-- Where a call goes when it is done with a resource. -/
def after (method : ClientMethod) : Resource → CallStage
  | .routes => .locking .dns
  | .dns => if method = .disconnectAndWait then .taking else .returned false

end ClientMethod

/-! ### The client -/

/-- `Client` with the task it has spawned. -/
structure Lifecycle where
  stage : TunnelStage
  /-- `abort` was called on the task. -/
  abortRequested : Bool
  /-- `task` holds the handle. -/
  handle : Bool
  /-- `stats.connected`. -/
  connected : Bool
  /-- The loops of the `JoinSet`. -/
  loops : List TaskState
  readTask : Option TaskState
  writeTask : Option TaskState
  slots : Resource → ResourceSlot
  /-- The teardowns of a resource that have come to their end. -/
  released : Resource → Nat
  calls : List ClientCall

/-- A call, a step of one, a step of the task, its cancellation, or the end of a task it owns. -/
inductive LifecycleEvent where
  | call (method : ClientMethod)
  | advance (index : Nat)
  /-- `ok`: the UDP state is set up. -/
  | tunnel (ok : Bool)
  | cancel
  | loopEnds (index : Nat)
  | readEnds
  | writeEnds
  deriving DecidableEq

namespace Lifecycle

/-- After `connect`: the TUN has its tasks, or is a mock; the routes and the DNS override are installed, or not. -/
def connect (readTask writeTask : Option TaskState) (installed : Resource → Bool) : Lifecycle where
  stage := .spawned
  abortRequested := false
  handle := true
  connected := true
  loops := []
  readTask := readTask
  writeTask := writeTask
  slots resource := if installed resource then .held else .empty
  released _ := 0
  calls := []

section Steps

variable (client : Lifecycle)

/-- A call goes on to a stage. -/
def goto (index : Nat) (call : ClientCall) (stage : CallStage) : Lifecycle :=
  { client with calls := client.calls.set index { call with stage } }

/-- The loops `run_tunnel_loops` spawns: the two senders, the outbound loop, the inbound loop and the keepalive. -/
def spawnedLoops : List TaskState := List.replicate 5 .running

/-- `JoinSet::abort_all`, also by its drop. -/
def abortLoops : Lifecycle := { client with loops := client.loops.map TaskState.abort }

/-- The drop of `TunGuard`. -/
def dropGuard : Lifecycle :=
  { client with
    readTask := client.readTask.map TaskState.abort
    writeTask := client.writeTask.map TaskState.abort }

/-- One step of the tunnel task. -/
def tunnel (ok : Bool) : Option Lifecycle :=
  match client.stage with
  | .spawned => if client.abortRequested then none else some { client with stage := .entered }
  | .entered => some { client with connected := true, stage := .preparing }
  | .preparing =>
    if ok then some { client with loops := spawnedLoops, stage := .joining }
    else some { client.dropGuard with stage := .failed }
  | .joining =>
    if .ended ∈ client.loops then some { client.abortLoops with stage := .stopping } else none
  | .stopping =>
    if ∀ task ∈ client.loops, task = .ended then
      some { client with readTask := client.readTask.map TaskState.abort, stage := .reading }
    else none
  | .reading =>
    if ∀ task ∈ client.readTask, task = .ended then
      some { client with writeTask := client.writeTask.map TaskState.abort, stage := .writing }
    else none
  | .writing =>
    if ∀ task ∈ client.writeTask, task = .ended then
      some { client with connected := false, stage := .closed }
    else none
  | .closed | .failed | .cancelled | .unpolled => none

/-- The runtime drops a task that was aborted: its loops with it and, once it was polled, its guard. -/
def cancel : Option Lifecycle :=
  if client.abortRequested then
    if client.stage = .spawned then some { client with stage := .unpolled }
    else if client.stage.suspended then some { client.abortLoops.dropGuard with stage := .cancelled }
    else none
  else none

/-- One step of a call. -/
def advance (index : Nat) (call : ClientCall) : Option Lifecycle :=
  match call.stage with
  | .aborting =>
    some ({ client with abortRequested := client.abortRequested || client.handle }.goto index call .marking)
  | .marking => some ({ client with connected := false }.goto index call (.locking .routes))
  | .locking resource =>
    match client.slots resource with
    | .held =>
      some ({ client with slots := Function.update client.slots resource (.dropping index) }.goto index call
        (.dropping resource))
    | .dropping _ => none
    | .empty => some (client.goto index call (call.method.after resource))
  | .dropping resource =>
    some ({ client with
      slots := Function.update client.slots resource .empty
      released := Function.update client.released resource (client.released resource + 1) }.goto index call
        (call.method.after resource))
  | .taking =>
    if client.handle then some ({ client with handle := false }.goto index call .awaiting)
    else some (client.goto index call (.returned false))
  | .awaiting => if client.stage.finished then some (client.goto index call (.returned true)) else none
  | .asking => some (client.goto index call (.loading (client.handle && !client.stage.finished)))
  | .loading running => some (client.goto index call (.reported (client.connected && running)))
  | .returned _ | .reported _ => none

/-- A task that has not ended ends. -/
def endTask : TaskState → Option TaskState
  | .ended => none
  | _ => some .ended

/-- One step; `none` when it is not enabled. -/
def step : LifecycleEvent → Option Lifecycle
  | .call method => some { client with calls := client.calls ++ [⟨method, method.first⟩] }
  | .advance index =>
    match client.calls[index]? with
    | some call => client.advance index call
    | none => none
  | .tunnel ok => client.tunnel ok
  | .cancel => client.cancel
  | .loopEnds index =>
    (client.loops[index]?.bind endTask).map fun task => { client with loops := client.loops.set index task }
  | .readEnds => (client.readTask.bind endTask).map fun task => { client with readTask := some task }
  | .writeEnds => (client.writeTask.bind endTask).map fun task => { client with writeTask := some task }

end Steps

/-! ### What a frontend relies on -/

/-- Where a call stands. -/
def stageAt (client : Lifecycle) (index : Nat) : Option CallStage := client.calls[index]?.map ClientCall.stage

/-- The task has finished, or its handle was taken. -/
def Down (client : Lifecycle) : Prop := client.stage.finished = true ∨ client.handle = false

/-- **What a teardown guarantees**, at any moment. -/
structure Sound (installed : Resource → Bool) (client : Lifecycle) : Prop where
  /-- A disconnect that has returned leaves the routes and the DNS override torn down. -/
  released : ∀ call ∈ client.calls, ∀ awaited, call.stage = .returned awaited → ∀ resource,
    client.released resource = (installed resource).toNat
  /-- Nothing is torn down twice, or without being installed. -/
  once : ∀ resource, client.released resource ≤ (installed resource).toNat
  /-- At most one call takes the handle. -/
  single : ∀ i j, (client.stageAt i).any CallStage.awaits = true →
    (client.stageAt j).any CallStage.awaits = true → i = j
  /-- When that call returns, the task has finished. -/
  waited : ∀ call ∈ client.calls, call.stage = .returned true → client.stage.finished = true
  /-- A task that has finished leaves no loop running, and no task of the TUN once it had its guard. -/
  quiet : client.stage.finished = true → (∀ task ∈ client.loops, task ≠ .running) ∧
    (client.stage ≠ .unpolled → (∀ task ∈ client.readTask, task ≠ .running) ∧
      ∀ task ∈ client.writeTask, task ≠ .running)
  /-- A tunnel that closed by itself has waited for all of them. -/
  closed : client.stage = .closed → (∀ task ∈ client.loops, task = .ended) ∧
    (∀ task ∈ client.readTask, task = .ended) ∧ ∀ task ∈ client.writeTask, task = .ended

/-- What the runtime does by itself: a call or the tunnel task goes on where it can, and an aborted task ends. -/
def Due (client : Lifecycle) : LifecycleEvent → Prop
  | .call _ => False
  | .advance _ | .tunnel _ | .cancel => True
  | .loopEnds index => client.loops[index]? = some .aborting
  | .readEnds => client.readTask = some .aborting
  | .writeEnds => client.writeTask = some .aborting

/-- **Nothing is left to the runtime.** -/
def Settled (client : Lifecycle) : Prop := ∀ event, client.Due event → client.step event = none

/-- No method of the client is called. -/
def Internal : LifecycleEvent → Prop
  | .call _ => False
  | _ => True

/-! ### What is left to do -/

end Lifecycle

/-- The steps a task has before it. -/
def TaskState.remaining : TaskState → Nat
  | .running => 2
  | .aborting => 1
  | .ended => 0

/-- The steps of the tunnel task, with those of the loops it will spawn. -/
def TunnelStage.remaining : TunnelStage → Nat
  | spawned => 17
  | entered => 16
  | preparing => 15
  | joining => 4
  | stopping => 3
  | reading => 2
  | writing => 1
  | closed | failed | cancelled | unpolled => 0

/-- The steps a call has before it. -/
def CallStage.remaining : CallStage → Nat
  | aborting => 8
  | marking => 7
  | locking .routes => 6
  | dropping .routes => 5
  | locking .dns => 4
  | dropping .dns => 3
  | taking => 2
  | awaiting => 1
  | asking => 2
  | loading _ => 1
  | returned _ | reported _ => 0

/-- The steps before everything has ended, at most. -/
def Lifecycle.budget (client : Lifecycle) : Nat :=
  client.stage.remaining + (client.loops.map TaskState.remaining).sum +
    client.readTask.elim 0 TaskState.remaining + client.writeTask.elim 0 TaskState.remaining +
    (client.calls.map fun call => call.stage.remaining).sum

end ChameleonPQ
