/-
**The session loop of the server (`run_server` in `main.rs`).**

The server binds a socket, answers one handshake, runs the tunnel and binds the next socket. A tunnel enables
`UDP_GRO` on its socket and its loops read from it, so a handshake must never meet an old one; and the TUN of the next
tunnel has the name of the last.

* `Iteration` — a socket with what holds it, and the tunnel on it.
* `Serving.step` — the loop beside the tasks of every tunnel so far, in any order.
* `Serving.Sound` — what is left of the earlier iterations, at any moment.
* `sockets_released`, `serves_again` — every run, and the way back to the next `bind`.
-/

import ChameleonPQ.Client.Teardown

namespace ChameleonPQ

open Library.Runs

/-! ### One iteration -/

/-- A loop holds its clone of the socket until it has ended. -/
def TaskState.holds : TaskState → Nat
  | .ended => 0
  | _ => 1

/-- A task that belongs to a tunnel. -/
inductive TunnelTask where
  /-- A task of the `JoinSet`. -/
  | loop (index : Nat)
  /-- `read_task`. -/
  | read
  /-- `write_task`. -/
  | write

namespace TunnelTask

/-- It ends. -/
def ends : TunnelTask → LifecycleEvent
  | loop index => .loopEnds index
  | read => .readEnds
  | write => .writeEnds

/-- The clones of the socket that end with it. -/
def holds : TunnelTask → Nat
  | loop _ => 1
  | read | write => 0

end TunnelTask

/-- One round of the loop. -/
structure Iteration where
  /-- Who holds the socket: it closes when nobody does. -/
  holders : Nat
  /-- `UDP_GRO` was enabled on it. -/
  gro : Bool
  /-- `run_tunnel_loops`, once it is called. -/
  tunnel : Option Lifecycle

namespace Iteration

/-- A socket has been bound. -/
def bound : Iteration := ⟨1, false, none⟩

section Steps

variable (iteration : Iteration)

/-- The end of the iteration drops its `socket`. -/
def release : Iteration := { iteration with holders := iteration.holders - 1 }

/-- `run_tunnel_loops` is called with a clone of the socket and a new TUN. -/
def call : Iteration :=
  { iteration with
    holders := iteration.holders + 1
    tunnel := some { Lifecycle.connect (some .running) (some .running) (fun _ => false) with stage := .entered } }

/-- `run_tunnel_loops` goes on: every loop is spawned with a clone, and the return drops the argument. -/
def follow (before after : Lifecycle) : Iteration where
  holders := iteration.holders + (after.loops.length - before.loops.length) - (if after.stage.finished then 1 else 0)
  gro := iteration.gro || after.stage == .joining
  tunnel := some after

/-- A task of the tunnel ends. -/
def ends (task : TunnelTask) : Option Iteration :=
  iteration.tunnel.bind fun tunnel => (tunnel.step task.ends).map fun after =>
    { iteration with holders := iteration.holders - task.holds, tunnel := some after }

end Steps

end Iteration

/-! ### The loop -/

/-- Where the server stands. -/
inductive ServingStage where
  /-- In `hs_obf_key_from_cfg`. -/
  | keying
  /-- In `UdpSocket::bind`. -/
  | binding
  /-- In `run_handshake_responder`. -/
  | handshaking
  /-- In `TunPair::create`. -/
  | creating
  /-- Sends the `Close` after a TUN that could not be created. -/
  | closing
  /-- In `run_tunnel_loops`. -/
  | tunneling
  /-- Returned with an error. -/
  | ended
  deriving DecidableEq

/-- Outside an iteration. -/
def ServingStage.idle : ServingStage → Bool
  | keying | binding | ended => true
  | _ => false

/-- The server, with every iteration so far, the newest first. -/
structure Serving where
  stage : ServingStage
  iterations : List Iteration

/-- The server goes on, or a task of a tunnel ends. -/
inductive ServingEvent where
  /-- `ok`: what the server waits for succeeds. -/
  | advance (ok : Bool)
  | ends (iteration : Nat) (task : TunnelTask)

namespace Serving

/-- `run_server` is called. -/
def start : Serving := ⟨.keying, []⟩

section Steps

variable (obfuscated : Bool) (server : Serving)

/-- The server goes on. -/
def advance (ok : Bool) : Option Serving :=
  match server.stage, server.iterations with
  | .keying, iterations => some ⟨if ok then .binding else .ended, iterations⟩
  | .binding, iterations =>
    if ok then some ⟨.handshaking, .bound :: iterations⟩ else some ⟨.ended, iterations⟩
  | .handshaking, current :: past =>
    if ok then some ⟨.creating, current :: past⟩ else some ⟨.binding, current.release :: past⟩
  | .creating, current :: past =>
    if ok then some ⟨.tunneling, current.call :: past⟩
    else if obfuscated then some ⟨.closing, current :: past⟩
    else some ⟨.binding, current.release :: past⟩
  | .closing, current :: past => some ⟨.binding, current.release :: past⟩
  | .tunneling, current :: past =>
    match current.tunnel with
    | none => none
    | some tunnel =>
      if tunnel.stage.finished then some ⟨.binding, current.release :: past⟩
      else (tunnel.tunnel ok).map fun after => ⟨.tunneling, current.follow tunnel after :: past⟩
  | _, _ => none

/-- One step; `none` when it is not enabled. -/
def step : ServingEvent → Option Serving
  | .advance ok => server.advance obfuscated ok
  | .ends index task =>
    (server.iterations[index]?.bind (·.ends task)).map fun iteration =>
      { server with iterations := server.iterations.set index iteration }

end Steps

/-- What a TUN leaves behind when its tunnel has returned: nothing, or tasks that were told to end. -/
def TunGone (tunnel : Lifecycle) : Prop :=
  (tunnel.stage = .closed ∧ (∀ task ∈ tunnel.readTask, task = .ended) ∧ ∀ task ∈ tunnel.writeTask, task = .ended) ∨
    (tunnel.stage = .failed ∧ (∀ task ∈ tunnel.readTask, task ≠ .running) ∧
      ∀ task ∈ tunnel.writeTask, task ≠ .running)

/-- **What is left of the earlier iterations**, at any moment. -/
structure Sound (server : Serving) : Prop where
  /-- Where the server binds, and where it has given up, every socket it ever bound is closed. -/
  idle : server.stage.idle = true → ∀ iteration ∈ server.iterations, iteration.holders = 0
  /-- No socket but the newest is open. -/
  single : ∀ iteration ∈ server.iterations.tail, iteration.holders = 0
  /-- A handshake has its socket for itself, without coalescing. -/
  fresh : server.stage = .handshaking → ∃ current ∈ server.iterations.head?, current.holders = 1 ∧
    current.gro = false ∧ current.tunnel = none
  /-- A TUN is created after the others are gone. -/
  device : server.stage = .creating → ∀ iteration ∈ server.iterations, ∀ tunnel ∈ iteration.tunnel, TunGone tunnel

/-- What the server and the runtime do by themselves: the server goes on in its teardown, and an aborted task ends. -/
def Due (server : Serving) : ServingEvent → Prop
  | .advance _ => server.stage = .tunneling ∨ server.stage = .closing
  | .ends index task => ∃ iteration ∈ server.iterations[index]?, ∃ tunnel ∈ iteration.tunnel, tunnel.Due task.ends

/-- **Nothing is left to them.** -/
def Settled (obfuscated : Bool) (server : Serving) : Prop :=
  ∀ event, server.Due event → server.step obfuscated event = none

/-- The steps of one iteration. -/
def iterationBudget (iteration : Iteration) : Nat := iteration.tunnel.elim 0 Lifecycle.budget

/-- The steps before nothing is left to do, at most. -/
def budget (server : Serving) : Nat :=
  (server.iterations.map iterationBudget).sum + (if server.stage.idle then 0 else 1)

end Serving

/-! ### Who holds a socket -/

namespace Iteration

variable {iteration after : Iteration} {tunnel next : Lifecycle}

/-- The clones the tunnel holds: its argument, until it returns, and one for every loop. -/
def clones (iteration : Iteration) : Nat :=
  iteration.tunnel.elim 0 fun tunnel =>
    (if tunnel.stage.finished then 0 else 1) + (tunnel.loops.map TaskState.holds).sum

/-- The server awaits the tunnel in place: nothing aborts it. -/
def Called (stage : TunnelStage) : Prop := stage ≠ .spawned ∧ stage ≠ .cancelled ∧ stage ≠ .unpolled

/-- The holders are counted right, and the tunnel owns what it should. -/
structure Counted (own : Nat) (iteration : Iteration) : Prop where
  holders : iteration.holders = own + iteration.clones
  tasks : ∀ tunnel ∈ iteration.tunnel, tunnel.TasksFit
  called : ∀ tunnel ∈ iteration.tunnel, Called tunnel.stage

/-- An iteration that is over. -/
structure Past (iteration : Iteration) : Prop where
  counted : iteration.Counted 0
  finished : ∀ tunnel ∈ iteration.tunnel, tunnel.stage.finished = true

/-- The iteration at a stage of the server. -/
structure Current (stage : ServingStage) (iteration : Iteration) : Prop where
  counted : iteration.Counted 1
  fresh : stage ≠ .tunneling → iteration.tunnel = none ∧ iteration.gro = false
  called : stage = .tunneling → iteration.tunnel.isSome = true

theorem holds_abort (loops : List TaskState) :
    ((loops.map TaskState.abort).map TaskState.holds).sum = (loops.map TaskState.holds).sum := by
  rw [List.map_map]
  refine congrArg List.sum (List.map_congr_left fun task _ => ?_)
  cases task <;> rfl

theorem holds_ended {loops : List TaskState} (ended : ∀ task ∈ loops, task = .ended) :
    (loops.map TaskState.holds).sum = 0 := by
  induction loops with
  | nil => rfl
  | cons task loops ih =>
    obtain rfl := ended task List.mem_cons_self
    rw [List.map_cons, List.sum_cons, ih fun task member => ended task (List.mem_cons_of_mem _ member)]
    rfl

/-- **A returned tunnel holds nothing.** -/
theorem Past.released (past : iteration.Past) : iteration.holders = 0 := by
  rw [past.counted.holders, Nat.zero_add]
  unfold clones
  cases known : iteration.tunnel with
  | none => rfl
  | some tunnel =>
    have finished := past.finished tunnel known
    have loops := (past.counted.tasks tunnel known).loops
    obtain ⟨spawned, cancelled, unpolled⟩ := past.counted.called tunnel known
    simp only [Option.elim_some, finished, if_true, Nat.zero_add]
    cases stage : tunnel.stage with
    | closed => exact holds_ended (by rwa [stage] at loops)
    | failed =>
      have none : tunnel.loops = [] := by rwa [stage] at loops
      rw [none]
      rfl
    | spawned | cancelled | unpolled => contradiction
    | entered | preparing | joining | stopping | reading | writing =>
      rw [stage] at finished
      cases finished

/-- **What a returned tunnel leaves of its TUN.** -/
theorem Past.tunGone (past : iteration.Past) (known : tunnel ∈ iteration.tunnel) : Serving.TunGone tunnel := by
  have finished := past.finished tunnel known
  obtain ⟨loops, read, write⟩ := past.counted.tasks tunnel known
  obtain ⟨spawned, cancelled, unpolled⟩ := past.counted.called tunnel known
  cases stage : tunnel.stage with
  | closed =>
    rw [stage] at read write
    exact .inl ⟨stage, read, write⟩
  | failed =>
    rw [stage] at read write
    exact .inr ⟨stage, read, write⟩
  | spawned | cancelled | unpolled => contradiction
  | entered | preparing | joining | stopping | reading | writing =>
    rw [stage] at finished
    cases finished

/-! ### One step of an iteration -/

theorem current_bound : Current .handshaking bound where
  counted :=
    { holders := rfl
      tasks := fun _ none => by cases none
      called := fun _ none => by cases none }
  fresh := fun _ => ⟨rfl, rfl⟩
  called := fun other => by cases other

/-- It ends without a tunnel, or after it. -/
theorem Current.release {stage : ServingStage} (current : iteration.Current stage)
    (finished : ∀ tunnel ∈ iteration.tunnel, tunnel.stage.finished = true) : iteration.release.Past where
  counted :=
    { holders := by
        show iteration.holders - 1 = 0 + iteration.clones
        rw [current.counted.holders]
        omega
      tasks := current.counted.tasks
      called := current.counted.called }
  finished := finished

/-- It ends before there is a tunnel. -/
theorem Current.releaseEarly {stage : ServingStage} (current : iteration.Current stage) (early : stage ≠ .tunneling) :
    iteration.release.Past :=
  current.release fun tunnel known => by
    rw [(current.fresh early).1] at known
    cases known

theorem Current.call (current : iteration.Current .creating) : iteration.call.Current .tunneling where
  counted :=
    { holders := by
        have none := (current.fresh nofun).1
        have holders := current.counted.holders
        unfold clones at holders
        rw [none] at holders
        show iteration.holders + 1 = 2
        rw [holders]
        rfl
      tasks := fun tunnel known => by
        obtain rfl := Option.some.inj known
        exact ⟨rfl, trivial, trivial⟩
      called := fun tunnel known => by
        obtain rfl := Option.some.inj known
        exact ⟨nofun, nofun, nofun⟩ }
  fresh := fun other => absurd rfl other
  called := fun _ => rfl

/-- **What a step of the tunnel changes of its clones.** -/
theorem clones_tunnel {ok : Bool} (fit : tunnel.TasksFit) (running : tunnel.stage.finished = false)
    (taken : tunnel.tunnel ok = some next) :
    (if next.stage.finished then 0 else 1) + (next.loops.map TaskState.holds).sum +
        (if next.stage.finished then 1 else 0) =
      1 + (tunnel.loops.map TaskState.holds).sum + (next.loops.length - tunnel.loops.length) := by
  have loops := fit.loops
  unfold Lifecycle.tunnel at taken
  cases stage : tunnel.stage <;> rw [stage] at taken loops running <;> simp only at taken
  case closed | failed | cancelled | unpolled => cases running
  case entered =>
    obtain rfl := Option.some.inj taken
    simp [TunnelStage.finished]
  case preparing =>
    have none : tunnel.loops = [] := loops
    split at taken
    all_goals
      obtain rfl := Option.some.inj taken
      simp [TunnelStage.finished, Lifecycle.dropGuard, Lifecycle.spawnedLoops, TaskState.holds, none]
  case joining =>
    split at taken
    · obtain rfl := Option.some.inj taken
      simp [TunnelStage.finished, Lifecycle.abortLoops, -List.map_map, holds_abort]
    · cases taken
  all_goals
    split at taken
    all_goals first
      | obtain rfl := Option.some.inj taken
        simp [TunnelStage.finished, Nat.add_comm]
      | cases taken

/-- The server awaits the tunnel, and a step of it is none of its cancellation. -/
theorem called_tunnel {ok : Bool} (called : Called tunnel.stage) (taken : tunnel.tunnel ok = some next) :
    Called next.stage := by
  unfold Lifecycle.tunnel at taken
  cases stage : tunnel.stage <;> rw [stage] at taken <;> simp only at taken
  case spawned => exact absurd stage called.1
  case entered =>
    obtain rfl := Option.some.inj taken
    exact ⟨nofun, nofun, nofun⟩
  case closed | failed | cancelled | unpolled => cases taken
  all_goals
    split at taken
    all_goals first
      | obtain rfl := Option.some.inj taken
        exact ⟨nofun, nofun, nofun⟩
      | cases taken

/-- **The tunnel goes on.** -/
theorem Current.follow {ok : Bool} (current : iteration.Current .tunneling) (known : iteration.tunnel = some tunnel)
    (running : tunnel.stage.finished = false) (taken : tunnel.tunnel ok = some next) :
    (iteration.follow tunnel next).Current .tunneling where
  counted :=
    { holders := by
        have clones := clones_tunnel (current.counted.tasks tunnel known) running taken
        have holders := current.counted.holders
        unfold Iteration.clones at holders ⊢
        rw [known, Option.elim_some, running, if_neg Bool.false_ne_true] at holders
        simp only [Iteration.follow, Option.elim_some]
        omega
      tasks := fun other same => by
        obtain rfl := Option.some.inj same
        exact Lifecycle.tasksFit_tunnel (current.counted.tasks tunnel known) taken
      called := fun other same => by
        obtain rfl := Option.some.inj same
        exact called_tunnel (current.counted.called tunnel known) taken }
  fresh := fun other => absurd rfl other
  called := fun _ => rfl

theorem ends_cases {task : TunnelTask} (taken : iteration.ends task = some after) :
    ∃ tunnel next, iteration.tunnel = some tunnel ∧ tunnel.step task.ends = some next ∧
      after = { iteration with holders := iteration.holders - task.holds, tunnel := some next } := by
  obtain ⟨tunnel, known, moved⟩ := Option.bind_eq_some_iff.mp taken
  obtain ⟨next, ended, rfl⟩ := Option.map_eq_some_iff.mp moved
  exact ⟨tunnel, next, known, ended, rfl⟩

/-- **A task ends**: its clone goes with it, and the tunnel stays where it stands. -/
theorem step_ends {task : TunnelTask} (fit : tunnel.TasksFit) (taken : tunnel.step task.ends = some next) :
    next.stage = tunnel.stage ∧ next.TasksFit ∧
      (next.loops.map TaskState.holds).sum + task.holds = (tunnel.loops.map TaskState.holds).sum := by
  cases task with
  | loop index =>
    obtain ⟨was, found, live, rfl⟩ := Lifecycle.exists_of_ends taken
    have sum := Library.TaskPool.sum_map_set TaskState.holds found .ended
    have one : was.holds = 1 := by
      cases was with
      | ended => exact absurd rfl live
      | running | aborting => rfl
    refine ⟨rfl, ⟨fit.loops.ends index, fit.read, fit.write⟩, ?_⟩
    rw [one] at sum
    exact sum
  | read =>
    obtain ⟨was, found, live, rfl⟩ := Lifecycle.exists_of_ends taken
    exact ⟨rfl, ⟨fit.loops, .ends _, fit.write⟩, rfl⟩
  | write =>
    obtain ⟨was, found, live, rfl⟩ := Lifecycle.exists_of_ends taken
    exact ⟨rfl, ⟨fit.loops, fit.read, .ends _⟩, rfl⟩

theorem Counted.ends {own : Nat} {task : TunnelTask} (counted : iteration.Counted own)
    (taken : iteration.ends task = some after) : after.Counted own := by
  obtain ⟨tunnel, next, known, ended, rfl⟩ := ends_cases taken
  obtain ⟨stage, fit, sum⟩ := step_ends (counted.tasks tunnel known) ended
  have holders := counted.holders
  unfold clones at holders
  rw [known, Option.elim_some] at holders
  refine ⟨?_, fun other same => ?_, fun other same => ?_⟩
  · unfold clones
    simp only [Option.elim_some, stage]
    omega
  · exact Option.some.inj same ▸ fit
  · exact Option.some.inj same ▸ stage ▸ counted.called tunnel known

theorem Past.ends {task : TunnelTask} (past : iteration.Past) (taken : iteration.ends task = some after) :
    after.Past := by
  refine ⟨past.counted.ends taken, fun other same => ?_⟩
  obtain ⟨tunnel, next, known, ended, rfl⟩ := ends_cases taken
  obtain ⟨stage, -, -⟩ := step_ends (past.counted.tasks tunnel known) ended
  obtain rfl := Option.some.inj same
  exact stage ▸ past.finished tunnel known

theorem Current.ends {stage : ServingStage} {task : TunnelTask} (current : iteration.Current stage)
    (taken : iteration.ends task = some after) : after.Current stage := by
  refine ⟨current.counted.ends taken, fun before => ?_, fun _ => ?_⟩
  all_goals obtain ⟨tunnel, next, known, ended, rfl⟩ := ends_cases taken
  · rw [(current.fresh before).1] at known
    cases known
  · rfl

end Iteration

/-! ### Any run of the server -/

namespace Serving

open Iteration

variable {obfuscated : Bool} {server after : Serving} {event : ServingEvent} {events : List ServingEvent}

/-- The iterations at a stage of the server. -/
def Standing (stage : ServingStage) : List Iteration → Prop
  | [] => stage.idle = true
  | current :: past => (∀ iteration ∈ past, iteration.Past) ∧
      if stage.idle then current.Past else current.Current stage

theorem Standing.all {stage : ServingStage} {iterations : List Iteration} (standing : Standing stage iterations)
    (idle : stage.idle = true) : ∀ iteration ∈ iterations, iteration.Past := by
  cases iterations with
  | nil => exact fun _ none => by cases none
  | cons current past =>
    intro iteration member
    rcases List.mem_cons.mp member with rfl | old
    · have now := standing.2
      rwa [if_pos idle] at now
    · exact standing.1 iteration old

theorem standing_idle {stage : ServingStage} {iterations : List Iteration} (idle : stage.idle = true)
    (past : ∀ iteration ∈ iterations, iteration.Past) : Standing stage iterations := by
  cases iterations with
  | nil => exact idle
  | cons current others =>
    refine ⟨fun iteration member => past iteration (List.mem_cons_of_mem _ member), ?_⟩
    rw [if_pos idle]
    exact past current List.mem_cons_self

/-- Within an iteration the newest is the current one. -/
theorem Standing.within {stage : ServingStage} {iterations : List Iteration} (standing : Standing stage iterations)
    (within : stage.idle = false) :
    ∃ current past, iterations = current :: past ∧ current.Current stage ∧ ∀ iteration ∈ past, iteration.Past := by
  cases iterations with
  | nil => exact absurd (within.symm.trans standing) Bool.false_ne_true
  | cons current past =>
    obtain ⟨others, now⟩ := standing
    rw [within, if_neg Bool.false_ne_true] at now
    exact ⟨current, past, rfl, now, others⟩

/-- **The server goes on.** -/
theorem standing_advance {ok : Bool} (standing : Standing server.stage server.iterations)
    (taken : server.advance obfuscated ok = some after) : Standing after.stage after.iterations := by
  obtain ⟨stage, iterations⟩ := server
  simp only [advance] at taken
  cases stage with
  | keying =>
    obtain rfl := Option.some.inj taken
    refine standing_idle ?_ (standing.all rfl)
    cases ok <;> rfl
  | binding =>
    simp only at taken
    split at taken
    · obtain rfl := Option.some.inj taken
      exact ⟨standing.all rfl, current_bound⟩
    · obtain rfl := Option.some.inj taken
      exact standing_idle rfl (standing.all rfl)
  | handshaking =>
    obtain ⟨current, past, rfl, now, others⟩ := standing.within rfl
    simp only at taken
    split at taken
    · obtain rfl := Option.some.inj taken
      exact ⟨others, now.counted, fun _ => now.fresh nofun, nofun⟩
    · obtain rfl := Option.some.inj taken
      exact ⟨others, now.releaseEarly nofun⟩
  | creating =>
    obtain ⟨current, past, rfl, now, others⟩ := standing.within rfl
    simp only at taken
    split at taken
    · obtain rfl := Option.some.inj taken
      exact ⟨others, now.call⟩
    · split at taken
      · obtain rfl := Option.some.inj taken
        exact ⟨others, now.counted, fun _ => now.fresh nofun, nofun⟩
      · obtain rfl := Option.some.inj taken
        exact ⟨others, now.releaseEarly nofun⟩
  | closing =>
    obtain ⟨current, past, rfl, now, others⟩ := standing.within rfl
    obtain rfl := Option.some.inj taken
    exact ⟨others, now.releaseEarly nofun⟩
  | tunneling =>
    obtain ⟨current, past, rfl, now, others⟩ := standing.within rfl
    obtain ⟨tunnel, known⟩ := Option.isSome_iff_exists.mp (now.called rfl)
    simp only [known] at taken
    split at taken
    · rename_i finished
      obtain rfl := Option.some.inj taken
      exact ⟨others, now.release fun other same => Option.some.inj (known.symm.trans same) ▸ finished⟩
    · rename_i running
      obtain ⟨next, moved, rfl⟩ := Option.map_eq_some_iff.mp taken
      exact ⟨others, now.follow known (Bool.eq_false_iff.mpr running) moved⟩
  | ended => cases taken

/-- A task ends. -/
theorem standing_ends {stage : ServingStage} {iterations : List Iteration} {index : Nat} {task : TunnelTask}
    {iteration next : Iteration} (standing : Standing stage iterations) (found : iterations[index]? = some iteration)
    (taken : iteration.ends task = some next) : Standing stage (iterations.set index next) := by
  cases iterations with
  | nil => cases found
  | cons current past =>
    obtain ⟨others, now⟩ := standing
    cases index with
    | zero =>
      obtain rfl := Option.some.inj found
      refine ⟨others, ?_⟩
      by_cases idle : stage.idle = true
      · rw [if_pos idle] at now ⊢
        exact now.ends taken
      · rw [if_neg idle] at now ⊢
        exact now.ends taken
    | succ index =>
      refine ⟨fun other member => ?_, now⟩
      rcases List.mem_or_eq_of_mem_set member with old | rfl
      · exact others other old
      · exact (others iteration (List.mem_of_getElem? found)).ends taken

/-- **The step lemma.** -/
theorem standing_step (standing : Standing server.stage server.iterations)
    (taken : server.step obfuscated event = some after) : Standing after.stage after.iterations := by
  cases event with
  | advance ok => exact standing_advance standing taken
  | ends index task =>
    obtain ⟨next, moved, rfl⟩ := Option.map_eq_some_iff.mp taken
    obtain ⟨iteration, found, ended⟩ := Option.bind_eq_some_iff.mp moved
    exact standing_ends standing found ended

theorem Standing.run {first last : Serving} (standing : Standing first.stage first.iterations)
    (run : Run (Taken (step obfuscated)) first events last) : Standing last.stage last.iterations :=
  run.invariant (fun server => Standing server.stage server.iterations)
    (fun _ _ _ standing taken => standing_step standing taken) standing

/-- **What the invariant says.** -/
theorem Standing.sound (standing : Standing server.stage server.iterations) : server.Sound where
  idle := fun idle iteration member => (standing.all idle iteration member).released
  single := by
    intro iteration member
    cases known : server.iterations with
    | nil =>
      rw [known] at member
      cases member
    | cons current past =>
      rw [known] at standing member
      exact (standing.1 iteration member).released
  fresh := by
    intro stage
    obtain ⟨current, past, all, now, -⟩ := standing.within (by rw [stage]; rfl)
    rw [stage] at now
    obtain ⟨none, gro⟩ := now.fresh nofun
    have holders := now.counted.holders
    unfold clones at holders
    rw [none] at holders
    rw [all]
    exact ⟨current, rfl, holders, gro, none⟩
  device := by
    intro stage iteration member tunnel known
    obtain ⟨current, past, all, now, others⟩ := standing.within (by rw [stage]; rfl)
    rw [stage] at now
    rw [all] at member
    rcases List.mem_cons.mp member with rfl | old
    · rw [(now.fresh nofun).1] at known
      cases known
    · exact (others iteration old).tunGone known

/-- **The sockets of the earlier iterations are closed**, whenever the server binds the next one, and a handshake and
a new TUN find nothing of them: in every run, whatever the environment answers. -/
theorem sockets_released {last : Serving} (run : Run (Taken (step obfuscated)) start events last) : last.Sound :=
  have standing : Standing start.stage start.iterations := rfl
  (standing.run run).sound

/-- A handshake fails; then a session runs until its inbound loop ends. -/
def sampleSession : List ServingEvent :=
  [.advance true, .advance true, .advance false, .advance true, .advance true, .advance true, .advance true,
    .advance true, .ends 0 (.loop 3)]

/-- The teardown of that session. -/
def sampleTeardown : List ServingEvent :=
  [.advance true, .ends 0 (.loop 0), .ends 0 (.loop 1), .ends 0 (.loop 2), .ends 0 (.loop 4), .advance true,
    .ends 0 .read, .advance true, .ends 0 .write, .advance true, .advance true]

/-- The session, behind the failed handshake. -/
def sampleIterations (holders : Nat) (stage : TunnelStage) (connected : Bool) (loops : List TaskState)
    (task : TaskState) : List Iteration :=
  [⟨holders, true, some { Lifecycle.connect (some task) (some task) (fun _ => false) with stage, connected, loops }⟩,
    ⟨0, false, none⟩]

/-- It is over. -/
def sampleNext : Serving := ⟨.binding, sampleIterations 0 .closed false (List.replicate 5 .ended) .ended⟩

theorem sockets_released_sample : ∃ last, Run (Taken (step true)) start (sampleSession ++ sampleTeardown) last ∧
    last.stage = .binding ∧ last.iterations.length = 2 ∧ last.Sound :=
  have run : Run (Taken (step true)) start (sampleSession ++ sampleTeardown) sampleNext := run_of_execute rfl
  ⟨_, run, rfl, rfl, sockets_released run⟩

/-! ### Back to the next socket -/

/-- A task that ends uses up some of the budget. -/
theorem budget_ends {iteration next : Iteration} {task : TunnelTask} (taken : iteration.ends task = some next) :
    iterationBudget next < iterationBudget iteration := by
  obtain ⟨tunnel, last, known, ended, rfl⟩ := ends_cases taken
  have internal : Lifecycle.Internal task.ends := by cases task <;> trivial
  have less := Lifecycle.budget_step internal ended
  unfold iterationBudget
  rw [known]
  exact less

/-- **Every own step uses up some of it.** -/
theorem budget_step (due : server.Due event) (taken : server.step obfuscated event = some after) :
    after.budget < server.budget := by
  obtain ⟨stage, iterations⟩ := server
  cases event with
  | ends index task =>
    obtain ⟨next, moved, rfl⟩ := Option.map_eq_some_iff.mp taken
    obtain ⟨iteration, found, ended⟩ := Option.bind_eq_some_iff.mp moved
    have found : iterations[index]? = some iteration := found
    have sum := Library.TaskPool.sum_map_set iterationBudget found next
    have less := budget_ends ended
    unfold budget
    dsimp only
    omega
  | advance ok =>
    simp only [step, advance] at taken
    rcases due with rfl | rfl
    · cases iterations with
      | nil => cases taken
      | cons current past =>
        simp only at taken
        split at taken
        · cases taken
        · rename_i tunnel known
          split at taken
          · obtain rfl := Option.some.inj taken
            simp [budget, iterationBudget, release, ServingStage.idle]
          · obtain ⟨next, moved, rfl⟩ := Option.map_eq_some_iff.mp taken
            have less := Lifecycle.budget_tunnel moved
            simp [budget, iterationBudget, follow, ServingStage.idle, known]
            exact less
    · cases iterations with
      | nil => cases taken
      | cons current past =>
        obtain rfl := Option.some.inj taken
        simp [budget, iterationBudget, release, ServingStage.idle]

/-- A loop of the tunnel has ended, or the tunnel is on its way back. -/
def Winding (tunnel : Lifecycle) : Prop :=
  (tunnel.stage = .joining ∧ .ended ∈ tunnel.loops) ∨ tunnel.stage = .stopping ∨ tunnel.stage = .reading ∨
    tunnel.stage = .writing ∨ tunnel.stage.finished = true

/-- **The session is over**: the server binds, or its tunnel winds down, or the `Close` is on its way. -/
def Over (server : Serving) : Prop :=
  server.stage = .binding ∨ server.stage = .closing ∨ server.stage = .tunneling ∧
    ∃ current ∈ server.iterations.head?, ∃ tunnel ∈ current.tunnel, Winding tunnel

theorem winding_tunnel {tunnel next : Lifecycle} {ok : Bool} (winding : Winding tunnel)
    (taken : tunnel.tunnel ok = some next) : Winding next := by
  unfold Lifecycle.tunnel at taken
  rcases winding with ⟨stage, ended⟩ | stage | stage | stage | finished
  · simp only [stage] at taken
    rw [if_pos ended] at taken
    obtain rfl := Option.some.inj taken
    exact .inr (.inl rfl)
  · simp only [stage] at taken
    split at taken
    · obtain rfl := Option.some.inj taken
      exact .inr (.inr (.inl rfl))
    · cases taken
  · simp only [stage] at taken
    split at taken
    · obtain rfl := Option.some.inj taken
      exact .inr (.inr (.inr (.inl rfl)))
    · cases taken
  · simp only [stage] at taken
    split at taken
    · obtain rfl := Option.some.inj taken
      exact .inr (.inr (.inr (.inr rfl)))
    · cases taken
  · cases stage : tunnel.stage <;> rw [stage] at finished
    case closed | failed | cancelled | unpolled =>
      simp only [stage] at taken
      cases taken
    all_goals cases finished

theorem winding_ends {tunnel next : Lifecycle} {task : TunnelTask} (winding : Winding tunnel)
    (taken : tunnel.step task.ends = some next) : Winding next := by
  cases task with
  | loop index =>
    obtain ⟨was, found, live, rfl⟩ := Lifecycle.exists_of_ends taken
    rcases winding with ⟨stage, ended⟩ | others
    · exact .inl ⟨stage, List.mem_set (List.getElem?_eq_some_iff.mp found).1 _⟩
    · exact .inr others
  | read | write =>
    obtain ⟨was, found, live, rfl⟩ := Lifecycle.exists_of_ends taken
    exact winding

/-- Own steps leave it over. -/
theorem over_step (isOver : server.Over) (due : server.Due event)
    (taken : server.step obfuscated event = some after) : after.Over := by
  obtain ⟨stage, iterations⟩ := server
  cases event with
  | ends index task =>
    obtain ⟨next, moved, rfl⟩ := Option.map_eq_some_iff.mp taken
    obtain ⟨iteration, found, ended⟩ := Option.bind_eq_some_iff.mp moved
    rcases isOver with binding | closing | ⟨tunneling, current, newest, tunnel, known, winding⟩
    · exact .inl binding
    · exact .inr (.inl closing)
    · refine .inr (.inr ⟨tunneling, ?_⟩)
      cases iterations with
      | nil => cases newest
      | cons first past =>
        obtain rfl := Option.some.inj newest
        cases index with
        | succ index => exact ⟨first, rfl, tunnel, known, winding⟩
        | zero =>
          obtain rfl := Option.some.inj found
          obtain ⟨before, last, held, moved, rfl⟩ := ends_cases ended
          obtain rfl := Option.some.inj (known.symm.trans held)
          exact ⟨_, rfl, last, rfl, winding_ends winding moved⟩
  | advance ok =>
    simp only [step, advance] at taken
    rcases isOver with rfl | rfl | ⟨rfl, current, newest, tunnel, known, winding⟩
    · rcases due with other | other <;> cases other
    · cases iterations with
      | nil => cases taken
      | cons current past =>
        obtain rfl := Option.some.inj taken
        exact .inl rfl
    · cases iterations with
      | nil => cases newest
      | cons first past =>
        obtain rfl := Option.some.inj newest
        simp only [Option.mem_def.mp known] at taken
        split at taken
        · obtain rfl := Option.some.inj taken
          exact .inl rfl
        · obtain ⟨next, moved, rfl⟩ := Option.map_eq_some_iff.mp taken
          exact .inr (.inr ⟨rfl, _, rfl, next, rfl, winding_tunnel winding moved⟩)

/-- **Nothing is left to do: the server binds.** -/
theorem binding_of_settled (standing : Standing server.stage server.iterations) (isOver : server.Over)
    (settled : server.Settled obfuscated) : server.stage = .binding := by
  obtain ⟨stage, iterations⟩ := server
  rcases isOver with binding | rfl | ⟨rfl, current, newest, tunnel, known, winding⟩
  · exact binding
  · have stuck := settled (.advance true) (.inr rfl)
    obtain ⟨current, past, rfl, -⟩ := standing.within rfl
    cases stuck
  · have stuck := settled (.advance true) (.inl rfl)
    obtain ⟨first, past, rfl, now, -⟩ := standing.within rfl
    obtain rfl := Option.some.inj newest
    obtain ⟨loops, read, write⟩ := now.counted.tasks tunnel known
    have quiet : ∀ task : TunnelTask, tunnel.Due task.ends → tunnel.step task.ends = none := by
      intro task due
      have waits := settled (.ends 0 task) ⟨first, rfl, tunnel, known, due⟩
      simp only [step, List.getElem?_cons_zero, Option.bind_some, Iteration.ends, Option.mem_def.mp known,
        Option.map_eq_none_iff] at waits
      exact waits
    -- a task that was told to end has ended
    obtain ⟨loopsEnd, readEnds, writeEnds⟩ := Lifecycle.settled_tasks (fun index => quiet (.loop index))
      (quiet .read) (quiet .write)
    simp only [step, advance, Option.mem_def.mp known] at stuck
    split at stuck
    · cases stuck
    · rename_i running
      have stuck := Option.map_eq_none_iff.mp stuck
      unfold Lifecycle.tunnel at stuck
      rcases winding with ⟨stage, ended⟩ | stage | stage | stage | finished
      · simp only [stage] at stuck
        rw [if_pos ended] at stuck
        cases stuck
      · rw [stage] at loops
        simp only [stage] at stuck
        rw [if_pos fun task member => Lifecycle.ended_of_settled (loops task member) (loopsEnd task member)] at stuck
        cases stuck
      · rw [stage] at read
        simp only [stage] at stuck
        rw [if_pos fun task member => Lifecycle.ended_of_settled (read task member) (readEnds task member)] at stuck
        cases stuck
      · rw [stage] at write
        simp only [stage] at stuck
        rw [if_pos fun task member => Lifecycle.ended_of_settled (write task member) (writeEnds task member)]
          at stuck
        cases stuck
      · exact absurd finished running

/-- **Once a session is over the server binds again**: the runtime and the server take a bounded number of steps by
themselves, in any order, and when none is left the server is in `bind`. -/
theorem serves_again {own : List ServingEvent} {middle last : Serving}
    (reached : Run (Taken (step obfuscated)) start events middle) (isOver : middle.Over)
    (run : Run (Guarded Due (Taken (step obfuscated))) middle own last) :
    own.length ≤ middle.budget ∧ (last.Settled obfuscated → last.stage = .binding) := by
  have standing : Standing start.stage start.iterations := rfl
  have still := run.invariant Over (fun _ _ _ isOver taken => over_step isOver taken.1 taken.2) isOver
  have onward := (standing.run reached).run (run.weaken fun _ _ _ taken => taken.2)
  exact ⟨run.length_le budget fun _ _ _ taken => budget_step taken.1 taken.2, binding_of_settled onward still⟩

/-- Its inbound loop has ended. -/
def sampleOver : Serving :=
  ⟨.tunneling, sampleIterations 6 .joining true [.running, .running, .running, .ended, .running] .running⟩

theorem sampleTeardown_run : Run (Guarded Due (Taken (step true))) sampleOver sampleTeardown sampleNext :=
  .next ⟨.inl rfl, rfl⟩ <| .next ⟨⟨_, rfl, _, rfl, rfl⟩, rfl⟩ <| .next ⟨⟨_, rfl, _, rfl, rfl⟩, rfl⟩ <|
    .next ⟨⟨_, rfl, _, rfl, rfl⟩, rfl⟩ <| .next ⟨⟨_, rfl, _, rfl, rfl⟩, rfl⟩ <| .next ⟨.inl rfl, rfl⟩ <|
      .next ⟨⟨_, rfl, _, rfl, rfl⟩, rfl⟩ <| .next ⟨.inl rfl, rfl⟩ <| .next ⟨⟨_, rfl, _, rfl, rfl⟩, rfl⟩ <|
        .next ⟨.inl rfl, rfl⟩ <| .next ⟨.inl rfl, rfl⟩ <| .done _

theorem serves_again_sample : Run (Taken (step true)) start sampleSession sampleOver ∧
    Run (Guarded Due (Taken (step true))) sampleOver sampleTeardown sampleNext ∧
      sampleTeardown.length ≤ sampleOver.budget ∧ sampleNext.stage = .binding := by
  have reached : Run (Taken (step true)) start sampleSession sampleOver := run_of_execute rfl
  have isOver : sampleOver.Over := .inr (.inr ⟨rfl, _, rfl, _, rfl, .inl ⟨rfl, by decide⟩⟩)
  have settled : sampleNext.Settled true := by
    intro event due
    cases event with
    | advance ok => rcases due with other | other <;> cases other
    | ends index task =>
      obtain ⟨iteration, found, tunnel, known, ends⟩ := due
      match index with
      | 0 =>
        obtain rfl := Option.some.inj found
        obtain rfl := Option.some.inj known
        cases task with
        | loop index => cases List.eq_of_mem_replicate (List.mem_of_getElem? ends)
        | read | write => cases ends
      | 1 =>
        obtain rfl := Option.some.inj found
        cases known
      | index + 2 => cases found
  obtain ⟨bounded, binds⟩ := serves_again reached isOver sampleTeardown_run
  exact ⟨reached, sampleTeardown_run, bounded, binds settled⟩

end Serving

end ChameleonPQ
