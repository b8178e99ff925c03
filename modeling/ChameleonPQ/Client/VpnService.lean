/-
**The Android service and the native bridge (`ChameleonVpnService.kt`, `rust-jni/src/lib.rs`).**

The tun descriptor belongs to the service, and the native tunnel is built on it. The supervisor coroutine, the
coroutine of `stopTunnel` and the synchronous teardowns of `onRevoke` and `onDestroy` run beside each other;
each is a sequence of steps, one up to its next native call, look at a shared field, or suspension.

* `SuperviseJob`, `supervise` — `supervise` with `connectOnce`, `monitor` and the native calls.
* `Teardown`, `tearDown` — `stopTunnel` and `teardownSync`.
* `VpnService.step` — any order of the steps and the calls of the system.
* `VpnService.Safe` — who may be on the descriptor; `VpnService.Meets` — when that holds.
-/

import ChameleonPQ.Library.Runs

namespace ChameleonPQ

open Library.Runs

/-! ### The coroutines -/

/-- Where a run of `supervise` stands. -/
inductive SuperviseStage where
  /-- Launched, and not dispatched yet. -/
  | queued
  /-- Before `while (!userStopped)`. -/
  | checking
  /-- Before `nativeStop`: the one of `connectOnce`, or the one before a reconnect. -/
  | clearing (reconnect : Bool)
  /-- In `nativeStop`, with a client it has taken. -/
  | stopping (reconnect : Bool) (fd : Nat)
  /-- Before the configuration and the tun are looked at. -/
  | configuring
  /-- Before a tun is established. -/
  | establishing
  /-- Before `nativeStart`. -/
  | starting (fd : Nat)
  /-- In `nativeStart`, which has found no client. -/
  | attaching (fd : Nat)
  /-- In `nativeStart`, whose tunnel is built on the descriptor. -/
  | handshaking (fd : Nat)
  /-- Suspended, with a tunnel. -/
  | polling
  /-- Before `nativeStatus`. -/
  | monitoring
  /-- Before `if (userStopped) return`. -/
  | lost
  /-- Suspended until the reconnect. -/
  | backoff
  /-- Before `stopTunnel(reason)`. -/
  | failing
  | ended
  deriving DecidableEq

namespace SuperviseStage

/-- Suspended or not dispatched: a cancelled coroutine ends here. -/
def suspended : SuperviseStage → Bool
  | queued | polling | backoff => true
  | _ => false

/-- It will look at `userStopped`, or be suspended, before it does anything native. -/
def wary : SuperviseStage → Bool
  | checking | monitoring | lost => true
  | _ => false

/-- The descriptor `nativeStart` is about to attach to. -/
def attaches : SuperviseStage → Option Nat
  | attaching fd => some fd
  | _ => none

/-- The descriptor of a native tunnel that is being built or stopped. -/
def tunnel : SuperviseStage → Option Nat
  | stopping _ fd | handshaking fd => some fd
  | _ => none

end SuperviseStage

/-- A run of `supervise`. -/
structure SuperviseJob where
  stage : SuperviseStage
  everConnected : Bool
  cancelled : Bool
  deriving DecidableEq

/-- Who tears down. -/
inductive TeardownKind where
  | stopTunnel
  | onRevoke
  | onDestroy
  deriving DecidableEq

/-- Where a teardown stands. -/
inductive TeardownStage where
  /-- The coroutine of `stopTunnel` is launched, and not dispatched yet. -/
  | queued (job : Option Nat)
  /-- In `cancelAndJoin`. -/
  | joining (job : Nat)
  /-- Before `nativeStop`. -/
  | taking
  /-- In `nativeStop`, with a client it has taken. -/
  | waiting (fd : Nat)
  /-- Before `pfd?.close()`. -/
  | closing
  | done
  deriving DecidableEq

/-- The descriptor of a native tunnel that is being stopped. -/
def TeardownStage.tunnel : TeardownStage → Option Nat
  | waiting fd => some fd
  | _ => none

/-- A teardown. -/
structure Teardown where
  kind : TeardownKind
  stage : TeardownStage
  deriving DecidableEq

/-! ### The service -/

/-- `ChameleonVpnService` and the statics of the bridge. Descriptors are numbered in the order they are
opened. -/
structure VpnService where
  userStopped : Bool
  tunnelJob : Option Nat
  pfd : Option Nat
  jobs : List SuperviseJob
  teardowns : List Teardown
  scopeCancelled : Bool
  /-- `CLIENT`, by the descriptor its tunnel is built on. -/
  client : Option Nat
  /-- The descriptors that the I/O tasks of a tunnel nobody holds still read: those of a failed start run on
  until the next packet, those of a stopped client until the runtime has dropped them, those of a replaced
  client as long as its tunnel does. -/
  strays : List Nat
  opened : Nat
  closed : List Nat
  /-- A teardown has come to its end, and no tunnel has been asked for since. -/
  down : Bool
  deriving DecidableEq

/-- A call of the system, a step of a coroutine or a teardown, or the end of stray I/O tasks. -/
inductive ServiceEvent where
  | startTunnel (foreground : Bool)
  | stopTunnel
  | onRevoke
  | onDestroy
  | supervise (index : Nat) (ok : Bool)
  | tearDown (index : Nat)
  | drained (index : Nat)

namespace VpnService

/-- A new service. -/
def new : VpnService where
  userStopped := false
  tunnelJob := none
  pfd := none
  jobs := []
  teardowns := []
  scopeCancelled := false
  client := none
  strays := []
  opened := 0
  closed := []
  down := false

section Steps

variable (service : VpnService)

/-- The job is cancelled, by itself or with its scope. -/
def isCancelled (job : SuperviseJob) : Bool := job.cancelled || service.scopeCancelled

/-- A supervisor goes on to a stage. -/
def goto (index : Nat) (job : SuperviseJob) (stage : SuperviseStage) : VpnService :=
  { service with jobs := service.jobs.set index { job with stage } }

/-- An error in `connectOnce`: the first attempt is given up. -/
def failed (index : Nat) (job : SuperviseJob) : VpnService :=
  service.goto index job (if job.everConnected then .lost else .failing)

/-- After `nativeStop`. -/
def cleared (index : Nat) (job : SuperviseJob) (reconnect : Bool) : VpnService :=
  service.goto index job (if reconnect then .backoff else .configuring)

/-- A teardown goes on to a stage. -/
def turn (index : Nat) (teardown : Teardown) (stage : TeardownStage) : VpnService :=
  { service with teardowns := service.teardowns.set index { teardown with stage } }

/-- `Job.cancel`. -/
def cancel (job : Nat) : VpnService :=
  { service with jobs := service.jobs.modify job fun job => { job with cancelled := true } }

/-- `tunnelJob?.cancel()`. -/
def cancelTunnelJob : VpnService :=
  match service.tunnelJob with
  | some job => service.cancel job
  | none => service

/-- `startTunnel`; without the foreground notification nothing is started. -/
def startTunnel (foreground : Bool) : VpnService :=
  if foreground then
    { service.cancelTunnelJob with
      userStopped := false
      tunnelJob := some service.jobs.length
      jobs := service.cancelTunnelJob.jobs ++ [⟨.queued, false, false⟩]
      down := false }
  else service

/-- `stopTunnel`, up to the launch of its coroutine. -/
def stopTunnel : VpnService :=
  { service with
    userStopped := true
    tunnelJob := none
    teardowns := service.teardowns ++ [⟨.stopTunnel, .queued service.tunnelJob⟩] }

/-- `teardownSync`, up to `nativeStop`. -/
def teardownSync (kind : TeardownKind) : VpnService :=
  { service.cancelTunnelJob with
    userStopped := true
    tunnelJob := none
    teardowns := service.teardowns ++ [⟨kind, .taking⟩] }

/-- One step of `supervise`; `ok` is the outcome of what it calls. -/
def supervise (index : Nat) (job : SuperviseJob) (ok : Bool) : Option VpnService :=
  match job.stage with
  | .queued => some (service.goto index job (if service.isCancelled job then .ended else .checking))
  | .checking => some (service.goto index job (if service.userStopped then .ended else .clearing false))
  | .clearing reconnect =>
    match service.client with
    | some fd => some ({ service with client := none }.goto index job (.stopping reconnect fd))
    | none => some (service.cleared index job reconnect)
  | .stopping reconnect fd =>
    some ({ service with strays := fd :: service.strays }.cleared index job reconnect)
  | .configuring =>
    if ok then
      match service.pfd with
      | some fd => some (service.goto index job (.starting fd))
      | none => some (service.goto index job .establishing)
    else some (service.failed index job)
  | .establishing =>
    if ok then
      some ({ service with pfd := some service.opened, opened := service.opened + 1 }.goto index job
        (.starting service.opened))
    else some (service.failed index job)
  | .starting fd =>
    if service.client.isSome then some (service.failed index job)
    else some (service.goto index job (.attaching fd))
  | .attaching fd =>
    if ok then some (service.goto index job (.handshaking fd)) else some (service.failed index job)
  | .handshaking fd =>
    if ok then
      some ({ service with client := some fd, strays := service.client.toList ++ service.strays }.goto index
        { job with everConnected := true } .polling)
    else some ({ service with strays := fd :: service.strays }.failed index job)
  | .polling => some (service.goto index job (if service.isCancelled job then .ended else .monitoring))
  | .monitoring => some (service.goto index job (if ok then .polling else .lost))
  | .lost => some (service.goto index job (if service.userStopped then .ended else .clearing true))
  | .backoff => some (service.goto index job (if service.isCancelled job then .ended else .checking))
  | .failing => some (service.stopTunnel.goto index job .ended)
  | .ended => none

/-- A coroutine of `stopTunnel` ends with its scope, wherever it is suspended. -/
def isDropped (teardown : Teardown) : Bool :=
  decide (teardown.kind = .stopTunnel) && service.scopeCancelled

/-- The job has ended. -/
def hasEnded (job : Nat) : Bool := service.jobs[job]?.all fun job => decide (job.stage = .ended)

/-- `pfd?.close()` and `pfd = null`. -/
def closeTun : VpnService :=
  { service with pfd := none, closed := service.pfd.toList ++ service.closed, down := true }

/-- One step of a teardown. -/
def tearDown (index : Nat) (teardown : Teardown) : Option VpnService :=
  match teardown.stage with
  | .queued job =>
    if service.isDropped teardown then some (service.turn index teardown .done)
    else
      match job with
      | some job => some ((service.cancel job).turn index teardown (.joining job))
      | none => some (service.turn index teardown .taking)
  | .joining job =>
    if service.isDropped teardown then some (service.turn index teardown .done)
    else if service.hasEnded job then some (service.turn index teardown .taking)
    else none
  | .taking =>
    match service.client with
    | some fd => some ({ service with client := none }.turn index teardown (.waiting fd))
    | none => some (service.turn index teardown .closing)
  | .waiting fd => some ({ service with strays := fd :: service.strays }.turn index teardown .closing)
  | .closing =>
    if service.isDropped teardown then some (service.turn index teardown .done)
    else
      some ({ service.closeTun with
        scopeCancelled := service.scopeCancelled || decide (teardown.kind = TeardownKind.onDestroy) }.turn
          index teardown .done)
  | .done => none

/-- One step; `none` when it is not enabled. A destroyed service gets no more commands. -/
def step : ServiceEvent → Option VpnService
  | .startTunnel foreground =>
    if service.scopeCancelled then none else some (service.startTunnel foreground)
  | .stopTunnel => if service.scopeCancelled then none else some service.stopTunnel
  | .onRevoke => some (service.teardownSync .onRevoke)
  | .onDestroy => some (service.teardownSync .onDestroy)
  | .supervise index ok =>
    match service.jobs[index]? with
    | some job => service.supervise index job ok
    | none => none
  | .tearDown index =>
    match service.teardowns[index]? with
    | some teardown => service.tearDown index teardown
    | none => none
  | .drained index => some { service with strays := service.strays.eraseIdx index }

end Steps

/-! ### The descriptor -/

variable (service : VpnService)

/-- The native tunnels, by the descriptors they are built on: that of the client, those in their handshake or
being stopped, and what is left of others. -/
def tunnels : List Nat :=
  service.client.toList ++ service.jobs.filterMap (fun job => job.stage.tunnel) ++
    service.teardowns.filterMap (fun teardown => teardown.stage.tunnel) ++ service.strays

/-- **The tun descriptor is owned.** -/
structure Safe : Prop where
  /-- At most one native tunnel is built on a descriptor. -/
  single : service.tunnels.Nodup
  /-- The descriptor of a native tunnel is not closed. -/
  opened : ∀ fd ∈ service.tunnels, fd ∉ service.closed
  /-- Once the service is torn down there is no client, and none is being started. -/
  gone : service.down = true → service.client = none ∧ ∀ job ∈ service.jobs, job.stage.tunnel = none

/-- The supervisor will not do anything native: it has ended, ends when it is resumed, or will see that it
should. -/
def Rests (job : SuperviseJob) : Prop :=
  job.stage = .ended ∨
    (job.stage.suspended = true ∧ (service.isCancelled job = true ∨ service.userStopped = true)) ∨
    (job.stage.wary = true ∧ service.userStopped = true)

/-- No teardown is under way. -/
def Untouched : Prop := ∀ teardown ∈ service.teardowns, teardown.stage = .done

/-- Nothing native is left to tear down. -/
def NothingNative : Prop :=
  service.client = none ∧ (∀ job ∈ service.jobs, service.Rests job) ∧
    ∀ teardown ∈ service.teardowns, teardown.stage.tunnel = none

/-- **The condition on one step.** A tunnel is asked for while no teardown is under way and every supervisor
is suspended or has ended; a teardown begins when no other is under way, and one of the system when no
supervisor is about to do anything native, or when nothing native is left; a descriptor is attached to, and
closed, when no stray I/O task reads it. -/
def Meets : ServiceEvent → Prop
  | .startTunnel foreground => foreground = true → service.Untouched ∧
      ∀ job ∈ service.jobs, job.stage = .ended ∨ job.stage.suspended = true
  | .stopTunnel => service.Untouched ∨ service.NothingNative
  | .onRevoke | .onDestroy => (service.Untouched ∧ ∀ job ∈ service.jobs,
      job.stage = .ended ∨ job.stage.suspended = true ∨ job.stage.wary = true) ∨ service.NothingNative
  | .supervise index ok => ok = true → ∀ job ∈ service.jobs[index]?, ∀ fd ∈ job.stage.attaches,
      fd ∉ service.strays
  | .tearDown index => ∀ teardown ∈ service.teardowns[index]?, teardown.stage = .closing →
      service.isDropped teardown = false → ∀ fd ∈ service.pfd, fd ∉ service.strays
  | .drained _ => True

instance : Decidable service.Untouched :=
  inferInstanceAs (Decidable (∀ teardown ∈ service.teardowns, teardown.stage = .done))

instance (job : SuperviseJob) : Decidable (service.Rests job) :=
  inferInstanceAs (Decidable (job.stage = .ended ∨
    (job.stage.suspended = true ∧ (service.isCancelled job = true ∨ service.userStopped = true)) ∨
    (job.stage.wary = true ∧ service.userStopped = true)))

instance : Decidable service.NothingNative :=
  inferInstanceAs (Decidable (service.client = none ∧ (∀ job ∈ service.jobs, service.Rests job) ∧
    ∀ teardown ∈ service.teardowns, teardown.stage.tunnel = none))

instance : (event : ServiceEvent) → Decidable (service.Meets event)
  | .startTunnel foreground => inferInstanceAs (Decidable (foreground = true → service.Untouched ∧
      ∀ job ∈ service.jobs, job.stage = .ended ∨ job.stage.suspended = true))
  | .stopTunnel => inferInstanceAs (Decidable (service.Untouched ∨ service.NothingNative))
  | .onRevoke | .onDestroy => inferInstanceAs (Decidable ((service.Untouched ∧ ∀ job ∈ service.jobs,
      job.stage = .ended ∨ job.stage.suspended = true ∨ job.stage.wary = true) ∨ service.NothingNative))
  | .supervise index ok => inferInstanceAs (Decidable (ok = true → ∀ job ∈ service.jobs[index]?,
      ∀ fd ∈ job.stage.attaches, fd ∉ service.strays))
  | .tearDown index => inferInstanceAs (Decidable (∀ teardown ∈ service.teardowns[index]?,
      teardown.stage = .closing → service.isDropped teardown = false → ∀ fd ∈ service.pfd,
        fd ∉ service.strays))
  | .drained _ => inferInstanceAs (Decidable True)

end VpnService

end ChameleonPQ
