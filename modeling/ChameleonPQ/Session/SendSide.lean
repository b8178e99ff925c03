/-
**The send side of a tunnel: counters, nonces and keys.**

The sessions are shared between tasks, so they live in a heap and the manager holds positions in it.
A task pins the current session, reserves its counters with one atomic addition, and seals them later
in any order; a whole batch of the pipeline (`dispatch_seal`) is one round of many counters, an inline
batch (`encrypt_batch`) is many rounds of one, and a single cover, profile or keepalive frame
(`seal_obf`) is one round of one. Installs may come between any two steps.

* `Ledger` — every counter that some task still holds or that was used to seal is held or used once,
  and lies below what was requested and below the rekey limit; `ledger_step`, `ledger_run`.
* `directional_keys_ne` — the two ends of one session seal under different keys.
* `nonce_unique` — the statement over whole runs.
-/

import ChameleonPQ.Crypto.Transparent
import ChameleonPQ.Library.Runs
import ChameleonPQ.Library.TaskPool
import ChameleonPQ.Session.Session

namespace ChameleonPQ

open Library Library.Runs Library.TaskPool

/-- What a session derives from: the inputs of `from_handshake_with_algo`. -/
structure HandshakeOutput where
  sessionId : UInt32
  shared : Octets 32
  isInitiator : Bool
  algo : AeadAlgo

/-- A session in the heap; `requested` is the total ever passed to `reserve_counters`. -/
structure SharedSession where
  origin : HandshakeOutput
  session : Session
  requested : Nat

/-- Where a sending task stands. -/
inductive SendStage where
  | ready
  /-- The current session was cloned; nothing is reserved yet. -/
  | pinned (handle : Nat)
  /-- `[base, base + width)` is reserved on the pinned session; `left` are the offsets not sealed. -/
  | sealing (handle base : Nat) (left : List Nat)

/-- A sending task: how many counters it reserves at once, and how many rounds it still has. -/
structure SendTask where
  width : Nat
  rounds : Nat
  stage : SendStage

namespace SendTask

/-- `dispatch_seal` of a batch. -/
def dispatchSeal (batch : Nat) : SendTask := ⟨batch, 1, .ready⟩

/-- `encrypt_batch` of a batch. -/
def encryptBatch (batch : Nat) : SendTask := ⟨1, batch, .ready⟩

/-- `seal_obf` of one frame. -/
def sealFrame : SendTask := ⟨1, 1, .ready⟩

/-- The (session, counter) pairs the task has reserved and not used. -/
def tokens (task : SendTask) : List (Nat × Nat) :=
  match task.stage with
  | .sealing handle base left => left.map fun offset => (handle, base + offset)
  | _ => []

end SendTask

/-- The send side: the heap of sessions, the manager over it, the tasks, and the AEAD seals made so
far as (session, counter) pairs. -/
structure SendSide where
  sessions : List SharedSession
  manager : SessionManager Nat
  tasks : List SendTask
  seals : List (Nat × Nat)

/-- One atomic step of the send side. -/
inductive SendEvent where
  /-- The pipeline takes a batch. -/
  | dispatchSeal (batch : Nat)
  /-- A batch is sealed inline. -/
  | encryptBatch (batch : Nat)
  /-- A single frame is sealed: a packet of a parallel batch, cover, a profile, a keepalive. -/
  | sealFrame
  /-- A task clones the current session. -/
  | pin (task : Nat)
  /-- A task runs `reserve_counters` on its pinned session. -/
  | reserve (task : Nat)
  /-- A task seals one of its reserved counters. -/
  | sealOne (task offset : Nat)
  /-- A task gives up: a seal failed, or its worker went away. -/
  | abandon (task : Nat)
  /-- `install_new_session`. -/
  | install (origin : HandshakeOutput)
  /-- `retire_previous`. -/
  | retire

namespace SendSide

section Definitions

variable (prims : Primitives)

/-- A fresh session of the heap. -/
def share (origin : HandshakeOutput) : SharedSession :=
  { origin
    session := Session.fromHandshakeWithAlgo prims origin.sessionId origin.shared
      origin.isInitiator origin.algo
    requested := 0 }

/-- The send side of a tunnel that starts with one session. -/
def start (origin : HandshakeOutput) : SendSide :=
  { sessions := [share prims origin]
    manager := ⟨0, none, 2 ^ 48 / rekeyAfterFractionDen * rekeyAfterFractionNum, false, 0⟩
    tasks := []
    seals := [] }

/-- A new task that has not pinned anything. -/
def spawn (side : SendSide) (task : SendTask) : SendSide := { side with tasks := side.tasks ++ [task] }

/-- A task that is not in the middle of a round clones the current session. -/
def pin (side : SendSide) (i : Nat) : Option SendSide := do
  let task ← side.tasks[i]?
  match task.stage, task.rounds with
  | .ready, rounds + 1 =>
    some { side with
      tasks := side.tasks.set i ⟨task.width, rounds, .pinned side.manager.current⟩ }
  | _, _ => none

/-- A task reserves its counters on the session it pinned; a refused range ends it. -/
def reserve (side : SendSide) (i : Nat) : Option SendSide := do
  let task ← side.tasks[i]?
  match task.stage with
  | .pinned handle =>
    let cell ← side.sessions[handle]?
    let (granted, session) := cell.session.reserveCounters task.width
    let sessions := side.sessions.set handle
      { cell with session, requested := cell.requested + task.width }
    match granted with
    | .ok base =>
      some { side with
        sessions
        tasks := side.tasks.set i
          { task with stage := .sealing handle base (List.range task.width) } }
    | .error _ => some { side with sessions, tasks := side.tasks.set i ⟨task.width, 0, .ready⟩ }
  | _ => none

/-- A task seals one of the counters it holds. -/
def sealOne (side : SendSide) (i offset : Nat) : Option SendSide := do
  let task ← side.tasks[i]?
  match task.stage with
  | .sealing handle base left =>
    if offset ∈ left then
      let rest := left.erase offset
      let stage := if rest = [] then .ready else .sealing handle base rest
      some { side with
        tasks := side.tasks.set i { task with stage }
        seals := (handle, base + offset) :: side.seals }
    else none
  | _ => none

/-- A task ends early. -/
def abandon (side : SendSide) (i : Nat) : Option SendSide := do
  let task ← side.tasks[i]?
  some { side with tasks := side.tasks.set i ⟨task.width, 0, .ready⟩ }

/-- One step; `none` when it is not enabled. -/
def step (side : SendSide) : SendEvent → Option SendSide
  | .dispatchSeal batch => some (side.spawn (.dispatchSeal batch))
  | .encryptBatch batch => some (side.spawn (.encryptBatch batch))
  | .sealFrame => some (side.spawn .sealFrame)
  | .pin i => side.pin i
  | .reserve i => side.reserve i
  | .sealOne i offset => side.sealOne i offset
  | .abandon i => side.abandon i
  | .install origin =>
    some { side with
      sessions := side.sessions ++ [share prims origin]
      manager := side.manager.installNewSession side.sessions.length }
  | .retire => some { side with manager := side.manager.retirePrevious }

end Definitions

/-- The (session, counter) pairs that tasks hold. -/
def outstanding (side : SendSide) : List (Nat × Nat) := held SendTask.tokens side.tasks

/-- The total ever requested on each session stays below `2^64`. -/
def WithinBudget (side : SendSide) : Prop := ∀ cell ∈ side.sessions, cell.requested < 2 ^ 64

/-- A counter that was granted on a session: below everything requested and below the limit. -/
def Granted (side : SendSide) (token : Nat × Nat) : Prop :=
  ∃ cell, side.sessions[token.1]? = some cell ∧ token.2 < cell.requested ∧
    token.2 < cell.session.rekeyAt

/-- A session of the heap: what the handshake built, with its counter moved by what was requested. -/
def Counted (prims : Primitives) (cell : SharedSession) : Prop :=
  cell.session = { (share prims cell.origin).session with txCounter := cell.requested }

/-- **The invariant.** Each counter is held or used once, and was granted. -/
structure Ledger (prims : Primitives) (side : SendSide) : Prop where
  counted : ∀ cell ∈ side.sessions, Counted prims cell
  distinct : (side.outstanding ++ side.seals).Nodup
  granted : ∀ token ∈ side.outstanding ++ side.seals, side.Granted token

variable {prims : Primitives}

theorem Counted.rekeyAt {cell : SharedSession} (counted : Counted prims cell) :
    cell.session.rekeyAt = 2 ^ 48 := by
  rw [counted]
  rfl

theorem ledger_start (origin : HandshakeOutput) : Ledger prims (start prims origin) where
  counted := fun cell member => by
    obtain rfl := List.mem_singleton.mp member
    rfl
  distinct := List.nodup_nil
  granted := fun token member => absurd member List.not_mem_nil

/-! ### What one step does -/

/-- A step that keeps the sessions and permutes or drops what is held and used keeps the ledger. -/
theorem Ledger.of_sublist {side after : SendSide} (ledger : Ledger prims side)
    (sessions : after.sessions = side.sessions) (dropped : List (Nat × Nat))
    (moved : (side.outstanding ++ side.seals).Perm (dropped ++ (after.outstanding ++ after.seals))) :
    Ledger prims after where
  counted := sessions ▸ ledger.counted
  distinct := (List.nodup_append.mp (moved.nodup ledger.distinct)).2.1
  granted := fun token member => by
    have old := ledger.granted token (moved.mem_iff.mpr (List.mem_append_right _ member))
    rw [Granted, sessions]
    exact old

theorem ledger_spawn {side : SendSide} (ledger : Ledger prims side) {task : SendTask}
    (empty : task.tokens = []) : Ledger prims (side.spawn task) := by
  refine ledger.of_sublist rfl [] ?_
  show (side.outstanding ++ side.seals).Perm (held _ (side.tasks ++ [task]) ++ side.seals)
  rw [held_join _ empty]
  exact .refl _

theorem ledger_pin {side after : SendSide} (ledger : Ledger prims side) {i : Nat}
    (taken : side.pin i = some after) : Ledger prims after := by
  obtain ⟨task, found, rest⟩ := Option.bind_eq_some_iff.mp taken
  split at rest
  · rename_i rounds stage _
    obtain rfl := Option.some.inj rest
    refine ledger.of_sublist rfl [] ?_
    have empty : task.tokens = [] := by rw [SendTask.tokens, stage]
    exact ((held_set_same _ found empty.symm).symm).append_right _
  · cases rest

theorem ledger_abandon {side after : SendSide} (ledger : Ledger prims side) {i : Nat}
    (taken : side.abandon i = some after) : Ledger prims after := by
  obtain ⟨task, found, rest⟩ := Option.bind_eq_some_iff.mp taken
  obtain rfl := Option.some.inj rest
  have empty : SendTask.tokens ⟨task.width, 0, .ready⟩ = [] := rfl
  obtain ⟨dropped, split⟩ := held_drop_sublist SendTask.tokens found empty
  refine ledger.of_sublist rfl dropped ?_
  rw [← List.append_assoc]
  exact split.append_right _

/-- **A seal uses up one held counter.** -/
theorem ledger_seal {side after : SendSide} (ledger : Ledger prims side) {i offset : Nat}
    (taken : side.sealOne i offset = some after) : Ledger prims after := by
  obtain ⟨task, found, rest⟩ := Option.bind_eq_some_iff.mp taken
  split at rest
  · rename_i handle base left stage
    split at rest
    · rename_i member
      obtain rfl := Option.some.inj rest
      refine ledger.of_sublist rfl [] ?_
      refine (held_spend SendTask.tokens found ?_ side.seals).symm
      have before : task.tokens = left.map fun offset => (handle, base + offset) := by
        rw [SendTask.tokens, stage]
      have split := (List.perm_cons_erase member).map fun offset => (handle, base + offset)
      rw [before]
      refine split.trans (List.Perm.cons _ ?_)
      by_cases last : left.erase offset = []
      · simp only [SendTask.tokens, last, if_true, List.map_nil]
        exact .nil
      · simp only [SendTask.tokens, last, if_false]
        exact .refl _
    · cases rest
  · cases rest

/-- Requests on a session only add up. -/
theorem WithinBudget.before_set {side : SendSide} {handle n : Nat} {cell : SharedSession}
    {session : Session} (found : side.sessions[handle]? = some cell)
    (budget : ∀ other ∈ side.sessions.set handle ⟨cell.origin, session, cell.requested + n⟩,
      other.requested < 2 ^ 64) : side.WithinBudget := by
  intro other member
  obtain ⟨j, there⟩ := List.mem_iff_getElem?.mp member
  by_cases same : handle = j
  · subst same
    obtain rfl := Option.some.inj (found.symm.trans there)
    have whole : cell.requested + n < 2 ^ 64 :=
      budget _ (List.mem_set (List.getElem?_eq_some_iff.mp found).1 _)
    omega
  · refine budget other (List.mem_iff_getElem?.mpr ⟨j, ?_⟩)
    rw [List.getElem?_set_ne same]
    exact there

/-- What was granted stays granted when more is requested. -/
theorem Granted.of_set {side after : SendSide} {handle n : Nat} {cell : SharedSession}
    {session : Session} {token : Nat × Nat} (found : side.sessions[handle]? = some cell)
    (sessions : after.sessions =
      side.sessions.set handle ⟨cell.origin, session, cell.requested + n⟩)
    (limit : session.rekeyAt = cell.session.rekeyAt) (granted : side.Granted token) :
    after.Granted token := by
  obtain ⟨old, there, requested, below⟩ := granted
  rw [Granted, sessions]
  by_cases same : handle = token.1
  · subst same
    obtain rfl := Option.some.inj (found.symm.trans there)
    refine ⟨_, List.getElem?_set_self (List.getElem?_eq_some_iff.mp found).1, ?_, ?_⟩
    · exact requested.trans_le (Nat.le_add_right _ _)
    · exact limit ▸ below
  · exact ⟨old, (List.getElem?_set_ne same).trans there, requested, below⟩

/-- The sessions stay counted when one of them moves its counter with what is requested. -/
theorem counted_set {sessions : List SharedSession} {handle n : Nat} {cell : SharedSession}
    (all : ∀ other ∈ sessions, Counted prims other) (found : sessions[handle]? = some cell)
    (small : cell.requested + n < 2 ^ 64) :
    ∀ other ∈ sessions.set handle ⟨cell.origin, (cell.session.reserveCounters n).2,
      cell.requested + n⟩, Counted prims other := by
  intro other member
  rcases List.mem_or_eq_of_mem_set member with old | rfl
  · exact all other old
  · have counted := all cell (List.mem_of_getElem? found)
    have counter : cell.session.txCounter = cell.requested := by rw [counted]
    show (cell.session.reserveCounters n).2 = _
    rw [Session.reserveCounters_session, counter, Nat.mod_eq_of_lt small, counted]

/-- **A reservation hands out counters that nobody holds or used**: the range starts at what was
requested so far, and everything granted before lies below. -/
theorem ledger_reserve {side after : SendSide} (ledger : Ledger prims side) {i : Nat}
    (taken : side.reserve i = some after) (budget : after.WithinBudget) : Ledger prims after := by
  obtain ⟨task, found, rest⟩ := Option.bind_eq_some_iff.mp taken
  split at rest
  swap
  · cases rest
  rename_i handle stage
  obtain ⟨cell, here, rest⟩ := Option.bind_eq_some_iff.mp rest
  have empty : task.tokens = [] := by rw [SendTask.tokens, stage]
  have member : cell ∈ side.sessions := List.mem_of_getElem? here
  have counted := ledger.counted cell member
  have counter : cell.session.txCounter = cell.requested := by rw [counted]
  have limit : (cell.session.reserveCounters task.width).2.rekeyAt = cell.session.rekeyAt := by
    rw [Session.reserveCounters_session]
  have inside := (List.getElem?_eq_some_iff.mp here).1
  rcases reserved : cell.session.reserveCounters task.width with ⟨⟨e⟩ | ⟨base⟩, session⟩
  · -- refused: the counter moves, nothing is handed out
    simp only [reserved] at rest limit
    obtain rfl := Option.some.inj rest
    have small : cell.requested + task.width < 2 ^ 64 := budget _ (List.mem_set inside _)
    have all := counted_set ledger.counted here small
    rw [reserved] at all
    have same := held_set_same SendTask.tokens found
      (show SendTask.tokens ⟨task.width, 0, .ready⟩ = task.tokens from empty.symm)
    have moved := same.append_right side.seals
    refine ⟨all, moved.symm.nodup ledger.distinct, fun token held => ?_⟩
    exact (ledger.granted token (moved.mem_iff.mp held)).of_set here rfl limit
  · simp only [reserved] at rest limit
    obtain rfl := Option.some.inj rest
    have small : cell.requested + task.width < 2 ^ 64 := budget _ (List.mem_set inside _)
    have all := counted_set ledger.counted here small
    rw [reserved] at all
    obtain ⟨rfl, last, -⟩ := Session.reserveCounters_ok (by rw [counted.rekeyAt]; decide) reserved
    rw [counter] at last ⊢
    -- the new tokens are `requested, …, requested + width - 1` on this session
    have gained : SendTask.tokens { task with
        stage := .sealing handle cell.requested (List.range task.width) } =
          (List.range task.width).map (fun offset => (handle, cell.requested + offset)) ++
            task.tokens := by
      rw [empty, List.append_nil]
      rfl
    have moved := (held_gain SendTask.tokens found gained).append_right side.seals
    rw [List.append_assoc] at moved
    have fresh : ∀ token ∈ (List.range task.width).map
        (fun offset => (handle, cell.requested + offset)), ∀ old ∈ side.outstanding ++ side.seals,
          token ≠ old := by
      rintro token new old held rfl
      obtain ⟨offset, -, rfl⟩ := List.mem_map.mp new
      obtain ⟨other, there, below, -⟩ := ledger.granted _ held
      obtain rfl := Option.some.inj (here.symm.trans there)
      exact absurd below (Nat.not_lt.mpr (Nat.le_add_right _ _))
    have injective : Function.Injective fun offset => (handle, cell.requested + offset) :=
      fun _ _ same => Nat.add_left_cancel (Prod.mk.inj same).2
    refine ⟨all, moved.symm.nodup (List.nodup_append.mpr
      ⟨List.nodup_range.map injective, ledger.distinct, fresh⟩), fun token held => ?_⟩
    rcases List.mem_append.mp (moved.mem_iff.mp held) with new | old
    · obtain ⟨offset, range, rfl⟩ := List.mem_map.mp new
      have below : offset < task.width := List.mem_range.mp range
      refine ⟨_, List.getElem?_set_self inside, Nat.add_lt_add_left below _, ?_⟩
      show cell.requested + offset < session.rekeyAt
      rw [limit]
      omega
    · exact (ledger.granted token old).of_set here rfl limit

theorem ledger_install {side : SendSide} (ledger : Ledger prims side) (origin : HandshakeOutput)
    (manager : SessionManager Nat) :
    Ledger prims { side with sessions := side.sessions ++ [share prims origin], manager } where
  counted := fun cell member => by
    rcases List.mem_append.mp member with old | new
    · exact ledger.counted cell old
    · obtain rfl := List.mem_singleton.mp new
      rfl
  distinct := ledger.distinct
  granted := fun token member => by
    obtain ⟨cell, there, requested, below⟩ := ledger.granted token member
    exact ⟨cell, (List.getElem?_append_left (List.getElem?_eq_some_iff.mp there).1).trans there,
      requested, below⟩

/-! ### Whole runs -/

/-- A state whose successor is within budget is within budget. -/
theorem budget_before {side after : SendSide} {event : SendEvent}
    (taken : side.step prims event = some after) (budget : after.WithinBudget) :
    side.WithinBudget := by
  cases event with
  | dispatchSeal _ | encryptBatch _ | sealFrame =>
    obtain rfl := Option.some.inj taken
    exact budget
  | pin i =>
    obtain ⟨task, found, rest⟩ := Option.bind_eq_some_iff.mp taken
    split at rest
    · obtain rfl := Option.some.inj rest
      exact budget
    · cases rest
  | reserve i =>
    obtain ⟨task, found, rest⟩ := Option.bind_eq_some_iff.mp taken
    split at rest
    · obtain ⟨cell, here, rest⟩ := Option.bind_eq_some_iff.mp rest
      rcases reserved : cell.session.reserveCounters task.width with ⟨⟨e⟩ | ⟨base⟩, session⟩
      all_goals
        simp only [reserved] at rest
        obtain rfl := Option.some.inj rest
        exact WithinBudget.before_set here budget
    · cases rest
  | sealOne i offset =>
    obtain ⟨task, found, rest⟩ := Option.bind_eq_some_iff.mp taken
    split at rest
    · split at rest
      · obtain rfl := Option.some.inj rest
        exact budget
      · cases rest
    · cases rest
  | abandon i =>
    obtain ⟨task, found, rest⟩ := Option.bind_eq_some_iff.mp taken
    obtain rfl := Option.some.inj rest
    exact budget
  | install origin =>
    obtain rfl := Option.some.inj taken
    exact fun cell member => budget cell (List.mem_append_left _ member)
  | retire =>
    obtain rfl := Option.some.inj taken
    exact budget

/-- **Every step keeps the ledger**, as long as the requests stay within the budget. -/
theorem ledger_step {side after : SendSide} (ledger : Ledger prims side) {event : SendEvent}
    (taken : side.step prims event = some after) (budget : after.WithinBudget) :
    Ledger prims after := by
  cases event with
  | dispatchSeal _ | encryptBatch _ | sealFrame =>
    obtain rfl := Option.some.inj taken
    exact ledger_spawn ledger rfl
  | pin i => exact ledger_pin ledger taken
  | reserve i => exact ledger_reserve ledger taken budget
  | sealOne i offset => exact ledger_seal ledger taken
  | abandon i => exact ledger_abandon ledger taken
  | install origin =>
    obtain rfl := Option.some.inj taken
    exact ledger_install ledger origin _
  | retire =>
    obtain rfl := Option.some.inj taken
    exact ledger.of_sublist rfl [] (.refl _)

/-- **The ledger holds at the end of every run** within the budget. -/
theorem ledger_run {first last : SendSide} {events : List SendEvent}
    (run : Run (Taken (step prims)) first events last) (ledger : Ledger prims first)
    (budget : last.WithinBudget) : Ledger prims last := by
  refine Run.invariant (fun side => side.WithinBudget → Ledger prims side)
    (fun before event after kept taken later => ?_) run (fun _ => ledger) budget
  exact ledger_step (kept (budget_before taken later)) taken later

end SendSide

/-- The other end of a session: the same inputs in the opposite role. -/
def HandshakeOutput.peer (origin : HandshakeOutput) : HandshakeOutput :=
  { origin with isInitiator := !origin.isInitiator }

/-- **The two ends of one session seal under the two directional keys**, which differ. -/
theorem directional_keys_ne {prims : Primitives} (separated : prims.LabelSeparated directionalLabels)
    (origin : HandshakeOutput) :
    ((SendSide.share prims origin).session.txAead.key,
        (SendSide.share prims origin.peer).session.txAead.key) =
      deriveDirectionalKeys prims origin.shared origin.isInitiator ∧
    (SendSide.share prims origin).session.txAead.key ≠
      (SendSide.share prims origin.peer).session.txAead.key := by
  have keys := deriveDirectionalKeys_ne separated origin.shared origin.isInitiator
  have swapped : deriveDirectionalKeys prims origin.shared (!origin.isInitiator) =
      (deriveDirectionalKeys prims origin.shared origin.isInitiator).swap :=
    deriveDirections_not _ _ _ _ _
  have peer : (SendSide.share prims origin.peer).session.txAead.key =
      (deriveDirectionalKeys prims origin.shared origin.isInitiator).2 := by
    show (deriveDirectionalKeys prims origin.shared (!origin.isInitiator)).1 = _
    rw [swapped]
    rfl
  rw [peer]
  exact ⟨rfl, keys⟩

namespace SendSide

/-- **Nonce uniqueness over whole runs of the send side.** In every run in which the total requested
on each session stays below `2^64`: no (session, counter) pair is sealed twice; each sealed counter is
below the session's rekey limit, and two counters sealed on one session give different nonces; the two
ends of each session seal under the two directional keys, which differ. -/
theorem nonce_unique {prims : Primitives} (separated : prims.LabelSeparated directionalLabels)
    {origin : HandshakeOutput} {events : List SendEvent} {side : SendSide}
    (run : Run (Taken (step prims)) (start prims origin) events side) (budget : side.WithinBudget) :
    side.seals.Nodup ∧
    (∀ handle counter, (handle, counter) ∈ side.seals → ∃ cell, side.sessions[handle]? = some cell ∧
      counter < cell.session.rekeyAt ∧
      ∀ other, (handle, other) ∈ side.seals →
        cell.session.makeNonce cell.session.txSalt counter =
          cell.session.makeNonce cell.session.txSalt other → counter = other) ∧
    ∀ cell ∈ side.sessions,
      (cell.session.txAead.key, (share prims cell.origin.peer).session.txAead.key) =
        deriveDirectionalKeys prims cell.origin.shared cell.origin.isInitiator ∧
      cell.session.txAead.key ≠ (share prims cell.origin.peer).session.txAead.key := by
  have ledger := ledger_run run (ledger_start origin) budget
  refine ⟨(List.nodup_append.mp ledger.distinct).2.1, fun handle counter member => ?_,
    fun cell member => ?_⟩
  · obtain ⟨cell, found, requested, below⟩ := ledger.granted _ (List.mem_append_right _ member)
    have inside := budget cell (List.mem_of_getElem? found)
    refine ⟨cell, found, below, fun other again same => ?_⟩
    obtain ⟨cell', found', requested', -⟩ := ledger.granted _ (List.mem_append_right _ again)
    obtain rfl := Option.some.inj (found.symm.trans found')
    exact Session.makeNonce_injective _ _ (requested.trans inside) (requested'.trans inside) same
  · have counted : cell.session.txAead = (share prims cell.origin).session.txAead := by
      rw [ledger.counted cell member]
    rw [counted]
    exact directional_keys_ne separated cell.origin

/-- The origin of the sessions of the sample run. -/
def sampleOrigin : HandshakeOutput := ⟨7, .zero 32, true, .aegis256X2⟩

/-- A pipelined batch and an inline frame overlap an install: the batch seals on the old session, out
of order. -/
def sampleEvents : List SendEvent :=
  [.dispatchSeal 2, .encryptBatch 1, .pin 0, .install sampleOrigin, .reserve 0, .pin 1, .reserve 1,
    .sealOne 0 1, .sealOne 1 0, .sealOne 0 0]

/-- The state after the sample run. -/
def sampleRun : SendSide :=
  (execute (step .transparent) (start .transparent sampleOrigin) sampleEvents).getD
    (start .transparent sampleOrigin)

theorem nonce_unique_sample :
    sampleRun.seals = [(0, 0), (1, 0), (0, 1)] ∧ sampleRun.seals.Nodup := by
  have run : Run (Taken (step .transparent)) (start .transparent sampleOrigin) sampleEvents
      sampleRun := run_of_execute rfl
  have budget : ∀ cell ∈ sampleRun.sessions, cell.requested < 2 ^ 64 := by decide
  exact ⟨rfl, (nonce_unique
    (Primitives.transparent_labelSeparated 8 (by decide) (by decide)) run budget).1⟩

end SendSide

end ChameleonPQ
