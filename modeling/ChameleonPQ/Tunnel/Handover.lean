/-
**The live switch between unpaced and paced (`tunnel_loops.rs`).**

Three writers put a session's datagrams on the wire: the sequential sender, fed by the order channel;
the pipeline sender, fed by `send_tx`; and the outbound loop itself, for the paced slots and the profile
frame of a switch. The loop reserves every counter. Packets are counters here; what the slots emit is
any list of packets and cover.

* `Handover.step` — one event of the loop, of a worker or of a sender; the arms of the loop that wait
  for a channel or for the socket are states of their own.
* `Move`, `move_of_step` — the cases of a step.
* `Ordered`, `ordered_step` — each writer's counters wait in order, no counter waits twice, and the peer
  would accept each.
* `clean_handover` — with at most one batch left at the end of the drain, at most one is unsent at the
  first slot; without overtaking between the writers, the peer accepts everything.
* `switch_overtakes` — a run of the code in which a switch drops a packet.
-/

import ChameleonPQ.Session.Engine
import ChameleonPQ.Tunnel.Outbound

namespace ChameleonPQ

open Library Library.Runs

/-- What a slot seals: a pending packet or cover, and whether that succeeds. -/
structure Emission where
  real : Bool
  success : Bool
  deriving DecidableEq

/-- Where the outbound loop stands. -/
inductive Arm where
  | free
  /-- A switch to paced waits until `send_tx` is empty. -/
  | draining (eff : EffectiveTraffic)
  /-- `send_tx.send`, in the tick arm or in the switch to a profile. -/
  | flushing (wires : List Nat) (switching : Option EffectiveTraffic)
  /-- The profile frame of a switch goes to the socket. -/
  | announcing (counter : Nat)
  /-- The datagrams of a slot go to the socket. -/
  | slotting (wires : List Nat)

/-- The outbound loop and its senders, on one session. -/
structure Handover where
  /-- The reader's batch, the order channel, the workers, the sequential sender and the wire. -/
  lane : Pipeline
  arm : Arm
  /-- The packets staged for the slots. -/
  pending : Nat
  /-- The channel of the pipeline sender, and what it still has to send of the batch it took. -/
  residue : List (List Nat)
  hand : List Nat
  paced : Bool
  paceBurst : Nat
  /-- Switched to paced, and no slot has sent since. -/
  fresh : Bool
  /-- Every batch that was given to a sender. -/
  batches : List Batch

/-- One event. -/
inductive HandoverEvent where
  | recv (size : Nat)
  /-- The order channel takes the batch. -/
  | enqueue
  /-- A worker, or the sequential sender. -/
  | sender (event : PipelineEvent)
  /-- The ticker fired; `success` is the outcome of sealing a residue. -/
  | tick (emissions : List Emission) (success : Bool)
  | switch (eff : EffectiveTraffic) (success : Bool)
  /-- The drain sees that `send_tx` is empty. -/
  | drained
  /-- `send_tx` takes the batch. -/
  | handOver
  /-- The loop sends the next datagram itself, or fails to. -/
  | sendDirect (success : Bool)
  /-- The pipeline sender takes a batch. -/
  | takeResidue
  | sendResidue (success : Bool)

/-- The events of the workers and of the sequential sender. -/
def PipelineEvent.ofSender : PipelineEvent → Bool
  | .reply _ _ | .takeNext | .awaitReply | .drain | .send | .sendFails => true
  | .dispatchSeal _ | .enqueue | .sealFrame | .sendFrame _ | .dropFrame _ => false

namespace Handover

section Definitions

variable (config : OutboundConfig)

/-- A tunnel on a fresh session. -/
def begin (session : Session) (eff : EffectiveTraffic) : Handover where
  lane := .start session
  arm := .free
  pending := 0
  residue := []
  hand := []
  paced := eff.enabled && config.engine.obfEnabled
  paceBurst := max eff.burst.toNat 1
  fresh := false
  batches := []

/-- The loop is at its `select!`. -/
def idle (handover : Handover) : Bool :=
  match handover.arm, handover.lane.blocked with
  | .free, none => true
  | _, _ => false

/-- Counters of the session are reserved. -/
def withSession (handover : Handover) (session : Session) : Handover :=
  { handover with lane := { handover.lane with session } }

/-- A datagram goes to the socket, or fails to. -/
def emit (handover : Handover) (success : Bool) (counter : Nat) : Handover :=
  if success then { handover with lane := handover.lane.putOnWire counter } else handover

/-- The rest of the switch arm: the new mode, and the profile frame. -/
def finish (handover : Handover) (eff : EffectiveTraffic) : Handover :=
  let newPaced := eff.enabled && config.engine.obfEnabled
  let switched := { handover with
    paced := newPaced
    paceBurst := max eff.burst.toNat 1
    fresh := newPaced && (handover.fresh || !handover.paced) }
  if config.announceProfile ∧ eff.profile.wireId.isSome then
    match switched.lane.session.reserveCounters 1 with
    | (.ok counter, session) => { switched.withSession session with arm := .announcing counter }
    | (.error _, session) => switched.withSession session
  else switched

/-- What follows a flush. -/
def resume (handover : Handover) : Option EffectiveTraffic → Handover
  | none => handover
  | some eff => handover.finish config eff

/-- The residue of the pending queue is sealed, and handed to the pipeline sender. -/
def flush (handover : Handover) (success : Bool) (switching : Option EffectiveTraffic) : Handover :=
  match handover.lane.session.reserveCounters handover.pending with
  | (.error _, session) => ({ handover.withSession session with pending := 0 }).resume config switching
  | (.ok base, session) =>
    if success then
      { handover.withSession session with
        pending := 0
        batches := handover.batches ++ [⟨base, handover.pending⟩]
        arm := .flushing (List.range' base handover.pending) switching }
    else ({ handover.withSession session with pending := 0 }).resume config switching

/-- What a slot seals, one counter after the other. -/
def sealSlot : List Emission → Session → List Nat × Session
  | [], session => ([], session)
  | emission :: emissions, session =>
    match session.reserveCounters 1 with
    | (.error _, session) => sealSlot emissions session
    | (.ok counter, session) =>
      let (wires, session) := sealSlot emissions session
      (if emission.success then counter :: wires else wires, session)

/-- A paced slot. -/
def slot (handover : Handover) (emissions : List Emission) : Handover :=
  let (wires, session) := sealSlot emissions handover.lane.session
  { handover.withSession session with
    pending := handover.pending - emissions.countP Emission.real
    arm := .slotting wires }

/-- The switch arm up to the first wait. -/
def switch (handover : Handover) (eff : EffectiveTraffic) (success : Bool) : Handover :=
  let newPaced := eff.enabled && config.engine.obfEnabled
  if handover.paced = false ∧ newPaced = true then { handover with arm := .draining eff }
  else if handover.paced = true ∧ newPaced = false ∧ handover.pending ≠ 0 then
    handover.flush config success (some eff)
  else handover.finish config eff

/-- One step; `none` when it cannot happen now. -/
def step (handover : Handover) : HandoverEvent → Option Handover
  | .recv size =>
    if handover.idle ∧ 0 < size ∧ size ≤ maxBatch then
      if handover.paced then
        some { handover with pending := min (handover.pending + size) maxQueue }
      else (handover.lane.step (.dispatchSeal size)).map fun lane =>
        { handover with lane, batches := handover.batches ++ lane.blocked.toList }
    else none
  | .enqueue => (handover.lane.step .enqueue).map fun lane => { handover with lane }
  | .sender event =>
    if event.ofSender then (handover.lane.step event).map fun lane => { handover with lane } else none
  | .tick emissions success =>
    if handover.idle then
      if handover.paced then
        if emissions.length ≤ handover.paceBurst then some (handover.slot emissions) else none
      else if handover.pending = 0 then some handover
      else some (handover.flush config success none)
    else none
  | .switch eff success => if handover.idle then some (handover.switch config eff success) else none
  | .drained =>
    match handover.arm with
    | .draining eff =>
      if handover.residue = [] then some ({ handover with arm := .free }.finish config eff) else none
    | _ => none
  | .handOver =>
    match handover.arm with
    | .flushing wires switching =>
      if handover.residue.length < sendPipelineBatches then
        some (({ handover with arm := .free, residue := handover.residue ++ [wires] }).resume config
          switching)
      else none
    | _ => none
  | .sendDirect success =>
    match handover.arm with
    | .announcing counter => some ({ handover with arm := .free }.emit success counter)
    | .slotting (counter :: wires) =>
      some ({ handover with arm := .slotting wires, fresh := false }.emit success counter)
    | .slotting [] => some { handover with arm := .free }
    | _ => none
  | .takeResidue =>
    match handover.hand, handover.residue with
    | [], wires :: residue => some { handover with hand := wires, residue }
    | _, _ => none
  | .sendResidue success =>
    match handover.hand with
    | counter :: hand => some ({ handover with hand }.emit success counter)
    | [] => none

end Definitions

/-! ### What waits -/

/-- The counters that wait for the pipeline sender, in the order they will go out. -/
def residuePath (handover : Handover) : List Nat :=
  handover.hand ++ handover.residue.flatten ++
    match handover.arm with
    | .flushing wires _ => wires
    | _ => []

/-- The counters the loop is about to send itself. -/
def directPath (handover : Handover) : List Nat :=
  match handover.arm with
  | .announcing counter => [counter]
  | .slotting wires => wires
  | _ => []

/-- The batches of which something waits for a sender. -/
def unsent (handover : Handover) : List Batch :=
  handover.batches.filter fun batch =>
    batch.counters.any fun counter => counter ∈ handover.lane.queue ++ handover.residuePath

/-- The counters that some writer still has to put on the wire. -/
def waiting (handover : Handover) : List Nat :=
  handover.lane.queue ++ (handover.residuePath ++ handover.directPath)

/-- The first slot after a switch to paced is about to send. -/
def AtFirstSlot (handover : Handover) : Prop :=
  handover.fresh = true ∧ ∃ counter wires, handover.arm = .slotting (counter :: wires)

/-- **A clean hand-over**: the drain ends with at most one batch unsent; a writer's datagram goes out
while nothing that waits for the other writers is 2048 or more counters behind it; and the session's
64-bit counter does not wrap. -/
def Clean (handover : Handover) : HandoverEvent → Prop
  | .recv size => handover.lane.session.txCounter + size < 2 ^ 64
  | .tick emissions _ =>
    handover.lane.session.txCounter + (emissions.length + (handover.pending + 1)) < 2 ^ 64
  | .switch _ _ => handover.lane.session.txCounter + (handover.pending + 1) < 2 ^ 64
  | .drained => handover.lane.session.txCounter + 1 < 2 ^ 64 ∧ handover.unsent.length ≤ 1
  | .handOver => handover.lane.session.txCounter + 1 < 2 ^ 64
  | .sender .send => ∀ counter ∈ handover.lane.nextWire,
      ∀ other ∈ handover.residuePath ++ handover.directPath, counter < other + windowBits
  | .sendDirect _ => ∀ counter ∈ handover.directPath.head?,
      ∀ other ∈ handover.lane.queue ++ handover.residuePath, counter < other + windowBits
  | .sendResidue _ => ∀ counter ∈ handover.hand.head?,
      ∀ other ∈ handover.lane.queue ++ handover.directPath, counter < other + windowBits
  | _ => True

instance (handover : Handover) (event : HandoverEvent) : Decidable (handover.Clean event) :=
  match event with
  | .recv _ | .tick _ _ | .switch _ _ | .handOver => inferInstanceAs (Decidable (_ < _))
  | .drained => inferInstanceAs (Decidable (_ ∧ _))
  | .sender .send => inferInstanceAs (Decidable (∀ counter ∈ handover.lane.nextWire,
      ∀ other ∈ handover.residuePath ++ handover.directPath, counter < other + windowBits))
  | .sendDirect _ => inferInstanceAs (Decidable (∀ counter ∈ handover.directPath.head?,
      ∀ other ∈ handover.lane.queue ++ handover.residuePath, counter < other + windowBits))
  | .sendResidue _ => inferInstanceAs (Decidable (∀ counter ∈ handover.hand.head?,
      ∀ other ∈ handover.lane.queue ++ handover.directPath, counter < other + windowBits))
  | .sender (.dispatchSeal _) | .sender .enqueue | .sender (.reply _ _) | .sender .takeNext
  | .sender .awaitReply | .sender .drain | .sender .sendFails | .sender .sealFrame
  | .sender (.sendFrame _) | .sender (.dropFrame _) | .enqueue | .takeResidue =>
    inferInstanceAs (Decidable True)

instance (handover : Handover) : Decidable handover.AtFirstSlot :=
  match slot : handover.arm with
  | .slotting (counter :: wires) =>
    decidable_of_iff (handover.fresh = true) ⟨fun fresh => ⟨fresh, counter, wires, slot⟩, And.left⟩
  | .slotting [] | .free | .draining _ | .flushing _ _ | .announcing _ =>
    isFalse fun ⟨_, _, _, other⟩ => by
      rw [slot] at other
      cases other

/-! ### The order of what waits -/

/-- The pipeline, with what waits for the other writers beside its queue. -/
def merged (handover : Handover) : Pipeline :=
  { handover.lane with bypass := handover.residuePath ++ handover.directPath }

/-- **The invariant of runs without overtaking.** -/
structure Ordered (handover : Handover) : Prop where
  orderly : handover.merged.Orderly
  residue : handover.residuePath.Pairwise (· < ·)
  direct : handover.directPath.Pairwise (· < ·)

variable {config : OutboundConfig} {handover after : Handover}

theorem ordered_begin (config : OutboundConfig) {session : Session} (limit : session.rekeyAt < 2 ^ 64)
    (eff : EffectiveTraffic) : (begin config session eff).Ordered :=
  ⟨Pipeline.orderly_start limit, .nil, .nil⟩

/-- Putting a counter on the wire does not look at what waits elsewhere. -/
theorem putOnWire_bypass (lane : Pipeline) (bypass : List Nat) (counter : Nat) :
    ({ lane with bypass } : Pipeline).putOnWire counter =
      { lane.putOnWire counter with bypass } := by
  unfold Pipeline.putOnWire
  dsimp only
  split <;> rfl

/-- Nor do the steps of the reader, the workers and the sequential sender. -/
theorem step_bypass {lane lane' : Pipeline} (bypass : List Nat) {event : PipelineEvent}
    (own : event.ofSender = true ∨ (∃ size, event = .dispatchSeal size) ∨ event = .enqueue)
    (taken : lane.step event = some lane') :
    ({ lane with bypass } : Pipeline).step event = some { lane' with bypass } := by
  cases event with
  | dispatchSeal size =>
    simp only [Pipeline.step] at taken ⊢
    split at taken
    · rename_i free
      rw [if_pos free]
      split at taken <;>
      · obtain rfl := Option.some.inj taken
        rfl
    · cases taken
  | enqueue =>
    simp only [Pipeline.step] at taken ⊢
    split at taken
    · split at taken
      · rename_i room
        obtain rfl := Option.some.inj taken
        rw [if_pos room]
      · cases taken
    · cases taken
  | reply base success =>
    simp only [Pipeline.step] at taken ⊢
    split at taken
    · rename_i running
      obtain rfl := Option.some.inj taken
      rw [if_pos running]
    · cases taken
  | takeNext =>
    simp only [Pipeline.step] at taken ⊢
    split at taken
    · obtain rfl := Option.some.inj taken
      rfl
    · obtain rfl := Option.some.inj taken
      rfl
    · cases taken
  | awaitReply =>
    simp only [Pipeline.step] at taken ⊢
    split at taken
    · split at taken
      · obtain rfl := Option.some.inj taken
        rfl
      · cases taken
    · cases taken
  | drain =>
    simp only [Pipeline.step] at taken ⊢
    split at taken
    · obtain rfl := Option.some.inj taken
      unfold Pipeline.drain
      dsimp only
      split
      · rfl
      · split <;> rfl
    · cases taken
  | send =>
    simp only [Pipeline.step] at taken ⊢
    split at taken
    · obtain rfl := Option.some.inj taken
      rfl
    · rename_i counter rest pending stage
      obtain rfl := Option.some.inj taken
      exact congrArg some (putOnWire_bypass { lane with stage := .sending rest pending } bypass counter)
    · cases taken
  | sendFails =>
    simp only [Pipeline.step] at taken ⊢
    split at taken
    · obtain rfl := Option.some.inj taken
      rfl
    · cases taken
  | sealFrame | sendFrame _ | dropFrame _ =>
    obtain own | ⟨_, own⟩ | own := own <;> cases own

/-- **A step of the pipeline proper.** -/
theorem ordered_lane (ordered : handover.Ordered) {lane : Pipeline} {event : PipelineEvent}
    (own : event.ofSender = true ∨ (∃ size, event = .dispatchSeal size) ∨ event = .enqueue)
    (taken : handover.lane.step event = some lane) (careful : handover.merged.NoOvertaking event) :
    ({ handover with lane } : Handover).Ordered :=
  ⟨Pipeline.orderly_step ordered.orderly careful (step_bypass _ own taken), ordered.residue,
    ordered.direct⟩

/-- Nothing is reserved or put on the wire, and what waits for the other writers at most shrinks. -/
theorem Ordered.shrink (ordered : handover.Ordered) (lane : after.lane = handover.lane)
    (residue : after.residuePath.Sublist handover.residuePath)
    (direct : after.directPath.Sublist handover.directPath) : after.Ordered := by
  refine ⟨?_, ordered.residue.sublist residue, ordered.direct.sublist direct⟩
  refine ordered.orderly.shrink ?_ ?_ ?_ ?_ (residue.append direct)
  · show after.lane.session = handover.lane.session
    rw [lane]
  · show after.lane.wire = handover.lane.wire
    rw [lane]
  · show after.lane.peer = handover.lane.peer
    rw [lane]
  · have same : after.merged.queue = handover.merged.queue := by
      show after.lane.queue = handover.lane.queue
      rw [lane]
    rw [same]

/-- **Fresh counters join one of the other writers.** -/
theorem Ordered.reserved (ordered : handover.Ordered) (session : Session) (new : List Nat)
    (lane : after.lane = { handover.lane with session })
    (limit : session.rekeyAt = handover.lane.session.rekeyAt)
    (advanced : handover.lane.session.txCounter ≤ session.txCounter)
    (sorted : new.Pairwise (· < ·))
    (fresh : ∀ counter ∈ new,
      handover.lane.session.txCounter ≤ counter ∧ counter < session.txCounter)
    (gained : (after.residuePath = handover.residuePath ++ new ∧
        after.directPath = handover.directPath) ∨
      after.residuePath = handover.residuePath ∧ after.directPath = handover.directPath ++ new) :
    after.Ordered := by
  have queue : after.merged.queue = handover.merged.queue := by
    show after.lane.queue = handover.lane.queue
    rw [lane]
    rfl
  have old : ∀ counter ∈ handover.residuePath ++ handover.directPath,
      counter < handover.lane.session.txCounter := fun counter present =>
    ordered.orderly.below counter (List.mem_append_left _ (List.mem_append_right _ present))
  have joined : ∀ path : List Nat, path.Pairwise (· < ·) →
      (∀ counter ∈ path, counter < handover.lane.session.txCounter) →
        (path ++ new).Pairwise (· < ·) := fun path sorted' below =>
    List.pairwise_append.mpr ⟨sorted', sorted, fun first present second isNew =>
      (below first present).trans_le (fresh second isNew).1⟩
  refine ⟨?_, ?_, ?_⟩
  · refine ordered.orderly.reserved new ?_ ?_ ?_ ?_ ?_ ?_ ?_ ?_
    · show after.lane.session.rekeyAt = _
      rw [lane]
      exact limit
    · show _ ≤ after.lane.session.txCounter
      rw [lane]
      exact advanced
    · exact (congrArg Pipeline.wire lane).trans rfl
    · exact (congrArg Pipeline.peer lane).trans rfl
    · rw [queue]
      exact ordered.orderly.sorted
    · exact sorted.imp Nat.ne_of_lt
    · intro counter isNew
      show _ ∧ counter < after.lane.session.txCounter
      rw [lane]
      exact fresh counter isNew
    · show (after.merged.queue ++ (after.residuePath ++ after.directPath)).Perm
        (new ++ (handover.merged.queue ++ (handover.residuePath ++ handover.directPath)))
      rw [queue]
      obtain ⟨residue, direct⟩ | ⟨residue, direct⟩ := gained
      · rw [residue, direct]
        refine List.Perm.trans ?_ List.perm_append_comm
        simp only [List.append_assoc]
        exact ((List.perm_append_comm.append_left _).append_left _)
      · rw [residue, direct]
        refine List.Perm.trans ?_ List.perm_append_comm
        simp only [List.append_assoc]
        exact List.Perm.refl _
  · obtain ⟨residue, -⟩ | ⟨residue, -⟩ := gained
    · rw [residue]
      exact joined _ ordered.residue fun counter present =>
        old counter (List.mem_append_left _ present)
    · rw [residue]
      exact ordered.residue
  · obtain ⟨-, direct⟩ | ⟨-, direct⟩ := gained
    · rw [direct]
      exact ordered.direct
    · rw [direct]
      exact joined _ ordered.direct fun counter present =>
        old counter (List.mem_append_right _ present)

/-- **The loop or the pipeline sender puts a datagram on the wire**, or fails to. -/
theorem Ordered.emit (ordered : handover.Ordered) (moved : Handover) {counter : Nat}
    (lane : moved.lane = handover.lane)
    (residue : moved.residuePath.Sublist handover.residuePath)
    (direct : moved.directPath.Sublist handover.directPath)
    (spent : (handover.residuePath ++ handover.directPath).Perm
      (counter :: (moved.residuePath ++ moved.directPath)))
    (near : ∀ other ∈ handover.lane.queue ++ (moved.residuePath ++ moved.directPath),
      counter < other + windowBits) (success : Bool) : (moved.emit success counter).Ordered := by
  cases success with
  | false => exact ordered.shrink lane residue direct
  | true =>
    have queue : moved.merged.queue = handover.merged.queue := by
      show moved.lane.queue = handover.lane.queue
      rw [lane]
    refine ⟨?_, ordered.residue.sublist residue, ordered.direct.sublist direct⟩
    have put : (moved.emit true counter).merged = moved.merged.putOnWire counter := by
      show ({ moved.lane.putOnWire counter with
        bypass := moved.residuePath ++ moved.directPath } : Pipeline) = _
      rw [← putOnWire_bypass]
      rfl
    rw [put]
    refine ordered.orderly.putOnWire ?_ ?_ ?_ ?_ ?_ ?_
    · show moved.lane.session = handover.lane.session
      rw [lane]
    · show moved.lane.wire = handover.lane.wire
      rw [lane]
    · show moved.lane.peer = handover.lane.peer
      rw [lane]
    · rw [queue]
      exact ordered.orderly.sorted
    · show (handover.merged.queue ++ (handover.residuePath ++ handover.directPath)).Perm
        (counter :: (moved.merged.queue ++ (moved.residuePath ++ moved.directPath)))
      rw [queue]
      exact (spent.append_left _).trans List.perm_middle
    · intro other present
      refine near other ?_
      have present : other ∈ moved.merged.queue ++ (moved.residuePath ++ moved.directPath) := present
      rw [queue] at present
      exact present

/-! ### Reserving -/

/-- What a slot seals. -/
structure Slotted (emissions : List Emission) (session : Session) (wires : List Nat)
    (left : Session) : Prop where
  moved : left = { session with txCounter := session.txCounter + emissions.length }
  sorted : wires.Pairwise (· < ·)
  fresh : ∀ counter ∈ wires,
    session.txCounter ≤ counter ∧ counter < session.txCounter + emissions.length

theorem sealSlot_slotted (emissions : List Emission) {session : Session}
    (small : session.rekeyAt < 2 ^ 64) (budget : session.txCounter + emissions.length < 2 ^ 64) :
    Slotted emissions session (sealSlot emissions session).1 (sealSlot emissions session).2 := by
  induction emissions generalizing session with
  | nil => exact ⟨rfl, .nil, fun _ present => nomatch present⟩
  | cons emission emissions ih =>
    rw [List.length_cons] at budget
    obtain ⟨moved, granted⟩ := Pipeline.reserve_cases session small
      (show session.txCounter + 1 < 2 ^ 64 by omega)
    rcases reserved : session.reserveCounters 1 with ⟨outcome, next⟩
    rw [reserved] at moved granted
    dsimp only at moved granted
    subst moved
    have budget' : session.txCounter + 1 + emissions.length < 2 ^ 64 := by omega
    have rest : Slotted emissions { session with txCounter := session.txCounter + 1 } _ _ :=
      ih small budget'
    have fresh : ∀ counter ∈ (sealSlot emissions
        { session with txCounter := session.txCounter + 1 }).1, session.txCounter + 1 ≤ counter ∧
        counter < session.txCounter + 1 + emissions.length := rest.fresh
    obtain ⟨left, sorted, -⟩ := rest
    have within : ∀ counter ∈ (sealSlot emissions
        { session with txCounter := session.txCounter + 1 }).1, session.txCounter ≤ counter ∧
        counter < session.txCounter + (emissions.length + 1) := fun counter present => by
      have := fresh counter present
      omega
    have total : (sealSlot emissions { session with txCounter := session.txCounter + 1 }).2 =
        { session with txCounter := session.txCounter + (emissions.length + 1) } := by
      rw [left]
      simp only [Nat.add_assoc, Nat.add_comm 1]
    rcases granted with rfl | ⟨e, rfl⟩
    · simp only [sealSlot, reserved]
      refine ⟨total, ?_, ?_⟩
      · cases emission.success with
        | false => exact sorted
        | true =>
          refine List.pairwise_cons.mpr ⟨fun counter present => ?_, sorted⟩
          have := fresh counter present
          omega
      · cases emission.success with
        | false => exact within
        | true =>
          intro counter present
          rcases List.mem_cons.mp present with rfl | later
          · exact ⟨le_rfl, Nat.lt_add_of_pos_right (Nat.succ_pos _)⟩
          · exact within counter later
    · simp only [sealSlot, reserved]
      exact ⟨total, sorted, within⟩

theorem Ordered.limit (ordered : handover.Ordered) : handover.lane.session.rekeyAt < 2 ^ 64 :=
  ordered.orderly.limit

/-- **A slot reserves its counters.** -/
theorem ordered_slot (ordered : handover.Ordered) (free : handover.arm = .free)
    {emissions : List Emission}
    (budget : handover.lane.session.txCounter + emissions.length < 2 ^ 64) :
    (handover.slot emissions).Ordered := by
  obtain ⟨moved, sorted, fresh⟩ := sealSlot_slotted emissions ordered.limit budget
  refine ordered.reserved (sealSlot emissions handover.lane.session).2 _ rfl ?_ ?_ sorted ?_
    (.inr ⟨?_, ?_⟩)
  · rw [moved]
  · rw [moved]
    exact Nat.le_add_right _ _
  · rw [moved]
    exact fresh
  · unfold residuePath
    rw [free]
    rfl
  · unfold directPath
    rw [free]
    rfl

/-- **The end of a switch** may reserve one counter, for the profile frame. -/
theorem ordered_finish (ordered : handover.Ordered) (free : handover.arm = .free)
    (eff : EffectiveTraffic) (budget : handover.lane.session.txCounter + 1 < 2 ^ 64) :
    (handover.finish config eff).Ordered := by
  obtain ⟨moved, granted⟩ := Pipeline.reserve_cases handover.lane.session ordered.limit budget
  rcases reserved : handover.lane.session.reserveCounters 1 with ⟨outcome, session⟩
  rw [reserved] at moved granted
  dsimp only at moved granted
  simp only [finish]
  split
  · rw [reserved]
    rcases granted with rfl | ⟨e, rfl⟩
    · refine ordered.reserved session [handover.lane.session.txCounter] rfl ?_ ?_
        (List.pairwise_singleton _ _) ?_ (.inr ⟨?_, ?_⟩)
      · rw [moved]
      · rw [moved]
        exact Nat.le_succ _
      · intro counter present
        rw [List.mem_singleton.mp present, moved]
        exact ⟨le_rfl, Nat.lt_succ_self _⟩
      · unfold residuePath
        rw [free]
        rfl
      · unfold directPath
        rw [free]
        rfl
    · refine ordered.reserved session [] rfl ?_ ?_ .nil (fun _ => nofun)
        (.inl ⟨(List.append_nil _).symm, rfl⟩)
      · rw [moved]
      · rw [moved]
        exact Nat.le_succ _
  · exact ordered.shrink rfl (.refl _) (.refl _)

theorem ordered_resume (ordered : handover.Ordered) (free : handover.arm = .free)
    (switching : Option EffectiveTraffic) (budget : handover.lane.session.txCounter + 1 < 2 ^ 64) :
    (handover.resume config switching).Ordered := by
  cases switching with
  | none => exact ordered
  | some eff => exact ordered_finish ordered free eff budget

/-- **A flush** reserves the whole residue. -/
theorem ordered_flush (ordered : handover.Ordered) (free : handover.arm = .free) (success : Bool)
    (switching : Option EffectiveTraffic)
    (budget : handover.lane.session.txCounter + (handover.pending + 1) < 2 ^ 64) :
    (handover.flush config success switching).Ordered := by
  obtain ⟨moved, granted⟩ := Pipeline.reserve_cases handover.lane.session ordered.limit
    (show handover.lane.session.txCounter + handover.pending < 2 ^ 64 by omega)
  rcases reserved : handover.lane.session.reserveCounters handover.pending with ⟨outcome, session⟩
  rw [reserved] at moved granted
  dsimp only at moved granted
  have lost : ({ handover.withSession session with pending := 0 } : Handover).Ordered := by
    refine ordered.reserved session [] rfl ?_ ?_ .nil (fun _ => nofun)
      (.inl ⟨(List.append_nil _).symm, rfl⟩)
    · rw [moved]
    · rw [moved]
      exact Nat.le_add_right _ _
  have left : session.txCounter + 1 < 2 ^ 64 := by
    rw [moved]
    show handover.lane.session.txCounter + handover.pending + 1 < 2 ^ 64
    omega
  simp only [flush]
  rw [reserved]
  rcases granted with rfl | ⟨e, rfl⟩
  · cases success with
    | false => exact ordered_resume lost free switching left
    | true =>
      refine ordered.reserved session (List.range' handover.lane.session.txCounter handover.pending)
        rfl ?_ ?_ List.pairwise_lt_range' ?_ (.inl ⟨?_, ?_⟩)
      · rw [moved]
      · rw [moved]
        exact Nat.le_add_right _ _
      · rw [moved]
        exact fun counter => List.mem_range'_1.mp
      · unfold residuePath
        rw [free]
        exact congrArg (· ++ _) (List.append_nil _).symm
      · unfold directPath
        rw [free]
        rfl
  · exact ordered_resume lost free switching left

/-- The loop at its `select!` is in no arm. -/
theorem free_of_idle (idle : handover.idle = true) : handover.arm = .free := by
  unfold Handover.idle at idle
  split at idle
  · assumption
  · cases idle

/-- The mode a switch asks for. -/
def newPaced (config : OutboundConfig) (eff : EffectiveTraffic) : Bool :=
  eff.enabled && config.engine.obfEnabled

/-- **What a step does**, with what it found. -/
inductive Move (config : OutboundConfig) (handover : Handover) : HandoverEvent → Handover → Prop
  | stage {size : Nat} (ready : handover.idle ∧ 0 < size ∧ size ≤ maxBatch) (paced : handover.paced = true) :
      Move config handover (.recv size) { handover with pending := min (handover.pending + size) maxQueue }
  | dispatch {size : Nat} {lane : Pipeline} (ready : handover.idle ∧ 0 < size ∧ size ≤ maxBatch)
      (unpaced : ¬ handover.paced = true) (dispatched : handover.lane.step (.dispatchSeal size) = some lane) :
      Move config handover (.recv size) { handover with lane, batches := handover.batches ++ lane.blocked.toList }
  | enqueue {lane : Pipeline} (queued : handover.lane.step .enqueue = some lane) :
      Move config handover .enqueue { handover with lane }
  | sender {event : PipelineEvent} {lane : Pipeline} (own : event.ofSender = true)
      (moved : handover.lane.step event = some lane) : Move config handover (.sender event) { handover with lane }
  | slot {emissions : List Emission} {success : Bool} (free : handover.arm = .free) (paced : handover.paced = true)
      (burst : emissions.length ≤ handover.paceBurst) :
      Move config handover (.tick emissions success) (handover.slot emissions)
  | quiet {emissions : List Emission} {success : Bool} (free : handover.arm = .free)
      (unpaced : handover.paced = false) (empty : handover.pending = 0) :
      Move config handover (.tick emissions success) handover
  | flush {emissions : List Emission} {success : Bool} (free : handover.arm = .free)
      (unpaced : handover.paced = false) :
      Move config handover (.tick emissions success) (handover.flush config success none)
  | drain {eff : EffectiveTraffic} {success : Bool} (free : handover.arm = .free) (unpaced : handover.paced = false)
      (toPaced : newPaced config eff = true) :
      Move config handover (.switch eff success) { handover with arm := .draining eff }
  | leave {eff : EffectiveTraffic} {success : Bool} (free : handover.arm = .free)
      (toUnpaced : newPaced config eff = false) :
      Move config handover (.switch eff success) (handover.flush config success (some eff))
  | adopt {eff : EffectiveTraffic} {success : Bool} (free : handover.arm = .free)
      (stays : newPaced config eff = true → handover.paced = true) :
      Move config handover (.switch eff success) (handover.finish config eff)
  | drained {eff : EffectiveTraffic} (arm : handover.arm = .draining eff) (empty : handover.residue = []) :
      Move config handover .drained ({ handover with arm := .free }.finish config eff)
  | handOver {wires : List Nat} {switching : Option EffectiveTraffic}
      (arm : handover.arm = .flushing wires switching) (room : handover.residue.length < sendPipelineBatches) :
      Move config handover .handOver
        (({ handover with arm := .free, residue := handover.residue ++ [wires] }).resume config switching)
  | announce {counter : Nat} {success : Bool} (arm : handover.arm = .announcing counter) :
      Move config handover (.sendDirect success) ({ handover with arm := .free }.emit success counter)
  | sendSlot {counter : Nat} {wires : List Nat} {success : Bool}
      (arm : handover.arm = .slotting (counter :: wires)) :
      Move config handover (.sendDirect success)
        ({ handover with arm := .slotting wires, fresh := false }.emit success counter)
  | endSlot {success : Bool} (arm : handover.arm = .slotting []) :
      Move config handover (.sendDirect success) { handover with arm := .free }
  | takeResidue {wires : List Nat} {residue : List (List Nat)} (hand : handover.hand = [])
      (channel : handover.residue = wires :: residue) :
      Move config handover .takeResidue { handover with hand := wires, residue }
  | sendResidue {counter : Nat} {hand : List Nat} {success : Bool} (held : handover.hand = counter :: hand) :
      Move config handover (.sendResidue success) ({ handover with hand }.emit success counter)

theorem move_of_switch (idle : handover.idle = true) (eff : EffectiveTraffic) (success : Bool) :
    Move config handover (.switch eff success) (handover.switch config eff success) := by
  have free := free_of_idle idle
  simp only [switch]
  split
  · rename_i toPaced
    exact .drain free toPaced.1 toPaced.2
  rename_i notDrain
  split
  · rename_i toUnpaced
    exact .leave free toUnpaced.2.1
  · exact .adopt free fun toPaced => Bool.of_not_eq_false fun unpaced => notDrain ⟨unpaced, toPaced⟩

theorem move_of_tick {emissions : List Emission} {success : Bool}
    (taken : handover.step config (.tick emissions success) = some after) :
    Move config handover (.tick emissions success) after := by
  simp only [step] at taken
  split at taken
  swap
  · cases taken
  rename_i idle
  have free := free_of_idle idle
  split at taken
  · rename_i paced
    split at taken
    · rename_i burst
      obtain rfl := Option.some.inj taken
      exact .slot free paced burst
    · cases taken
  rename_i unpaced
  have unpaced := Bool.eq_false_iff.mpr unpaced
  split at taken
  · rename_i empty
    obtain rfl := Option.some.inj taken
    exact .quiet free unpaced empty
  · obtain rfl := Option.some.inj taken
    exact .flush free unpaced

theorem move_of_sendDirect {success : Bool} (taken : handover.step config (.sendDirect success) = some after) :
    Move config handover (.sendDirect success) after := by
  simp only [step] at taken
  split at taken
  · rename_i counter arm
    obtain rfl := Option.some.inj taken
    exact .announce arm
  · rename_i counter wires arm
    obtain rfl := Option.some.inj taken
    exact .sendSlot arm
  · rename_i arm
    obtain rfl := Option.some.inj taken
    exact .endSlot arm
  · cases taken

/-- **The cases of a step.** -/
theorem move_of_step {event : HandoverEvent} (taken : handover.step config event = some after) :
    Move config handover event after := by
  cases event with
  | recv size =>
    simp only [step] at taken
    split at taken
    swap
    · cases taken
    rename_i ready
    split at taken
    · rename_i paced
      obtain rfl := Option.some.inj taken
      exact .stage ready paced
    · rename_i unpaced
      obtain ⟨lane, dispatched, rfl⟩ := Option.map_eq_some_iff.mp taken
      exact .dispatch ready unpaced dispatched
  | enqueue =>
    obtain ⟨lane, queued, rfl⟩ := Option.map_eq_some_iff.mp taken
    exact .enqueue queued
  | sender event =>
    simp only [step] at taken
    split at taken
    swap
    · cases taken
    rename_i own
    obtain ⟨lane, moved, rfl⟩ := Option.map_eq_some_iff.mp taken
    exact .sender own moved
  | tick emissions success => exact move_of_tick taken
  | switch eff success =>
    simp only [step] at taken
    split at taken
    swap
    · cases taken
    rename_i idle
    obtain rfl := Option.some.inj taken
    exact move_of_switch idle eff success
  | drained =>
    simp only [step] at taken
    split at taken
    · rename_i eff arm
      split at taken
      · rename_i empty
        obtain rfl := Option.some.inj taken
        exact .drained arm empty
      · cases taken
    · cases taken
  | handOver =>
    simp only [step] at taken
    split at taken
    · rename_i wires switching arm
      split at taken
      · rename_i room
        obtain rfl := Option.some.inj taken
        exact .handOver arm room
      · cases taken
    · cases taken
  | sendDirect success => exact move_of_sendDirect taken
  | takeResidue =>
    simp only [step] at taken
    split at taken
    · rename_i wires residue hand channel
      obtain rfl := Option.some.inj taken
      exact .takeResidue hand channel
    · cases taken
  | sendResidue success =>
    simp only [step] at taken
    split at taken
    · rename_i counter hand held
      obtain rfl := Option.some.inj taken
      exact .sendResidue held
    · cases taken

/-- **The loop sends the next datagram itself.** -/
theorem ordered_sendDirect (ordered : handover.Ordered) {counter : Nat} {wires : List Nat} (moved : Handover)
    (lane : moved.lane = handover.lane) (residue : moved.residuePath = handover.residuePath)
    (direct : handover.directPath = counter :: wires) (rest : moved.directPath = wires)
    (near : ∀ other ∈ handover.lane.queue ++ handover.residuePath, counter < other + windowBits) (success : Bool) :
    (moved.emit success counter).Ordered := by
  have sorted := ordered.direct
  rw [direct, List.pairwise_cons] at sorted
  refine ordered.emit moved lane (residue ▸ .refl _) ?_ ?_ ?_ success
  · rw [direct, rest]
    exact List.sublist_cons_self _ _
  · rw [residue, direct, rest]
    exact List.perm_middle
  · rw [residue, rest]
    intro other present
    rw [← List.append_assoc] at present
    rcases List.mem_append.mp present with elsewhere | later
    · exact near other elsewhere
    · exact (sorted.1 other later).trans_le (Nat.le_add_right _ _)

/-- **The pipeline sender sends its next datagram.** -/
theorem ordered_sendResidue (ordered : handover.Ordered) {counter : Nat} {hand : List Nat}
    (held : handover.hand = counter :: hand)
    (near : ∀ other ∈ handover.lane.queue ++ handover.directPath, counter < other + windowBits) (success : Bool) :
    ({ handover with hand }.emit success counter).Ordered := by
  have path : handover.residuePath = counter :: ({ handover with hand } : Handover).residuePath := by
    unfold residuePath
    rw [held]
    rfl
  have sorted := ordered.residue
  rw [path, List.pairwise_cons] at sorted
  refine ordered.emit { handover with hand } rfl (path ▸ List.sublist_cons_self _ _) (.refl _) ?_ ?_ success
  · rw [path]
    exact List.Perm.refl _
  · intro other present
    rcases List.mem_append.mp present with data | rest
    · exact near other (List.mem_append_left _ data)
    · rcases List.mem_append.mp rest with later | direct
      · exact (sorted.1 other later).trans_le (Nat.le_add_right _ _)
      · exact near other (List.mem_append_right _ direct)

/-- **A step of a clean hand-over** keeps what waits in order. -/
theorem ordered_step (ordered : handover.Ordered) {event : HandoverEvent}
    (clean : handover.Clean event) (taken : handover.step config event = some after) :
    after.Ordered := by
  cases move_of_step taken with
  | stage ready paced => exact ordered.shrink rfl (.refl _) (.refl _)
  | dispatch ready unpaced dispatched =>
    obtain ⟨orderly, residue, direct⟩ := ordered_lane ordered (.inr (.inl ⟨_, rfl⟩)) dispatched clean
    exact ⟨orderly, residue, direct⟩
  | enqueue queued => exact ordered_lane ordered (.inr (.inr rfl)) queued trivial
  | @sender event lane own moved =>
    refine ordered_lane ordered (.inl own) moved ?_
    cases event with
    | send => exact clean
    | reply _ _ | takeNext | awaitReply | drain | sendFails => trivial
    | dispatchSeal _ | enqueue | sealFrame | sendFrame _ | dropFrame _ => cases own
  | @slot emissions success free paced burst =>
    have clean : handover.lane.session.txCounter + (emissions.length + (handover.pending + 1)) < 2 ^ 64 := clean
    exact ordered_slot ordered free (by omega)
  | quiet free unpaced empty => exact ordered
  | @flush emissions success free unpaced =>
    have clean : handover.lane.session.txCounter + (emissions.length + (handover.pending + 1)) < 2 ^ 64 := clean
    exact ordered_flush ordered free success none (by omega)
  | drain free unpaced toPaced =>
    refine ordered.shrink rfl ?_ ?_
    · unfold residuePath
      rw [free]
    · unfold directPath
      rw [free]
  | leave free toUnpaced => exact ordered_flush ordered free _ _ clean
  | adopt free stays =>
    refine ordered_finish ordered free _ ?_
    have clean : handover.lane.session.txCounter + (handover.pending + 1) < 2 ^ 64 := clean
    omega
  | drained arm empty =>
    have moved : ({ handover with arm := .free } : Handover).Ordered := by
      refine ordered.shrink rfl ?_ ?_
      · unfold residuePath
        rw [arm]
      · unfold directPath
        rw [arm]
    exact ordered_finish moved rfl _ clean.1
  | @handOver wires switching arm room =>
    have moved : ({ handover with arm := .free, residue := handover.residue ++ [wires] } : Handover).Ordered := by
      refine ordered.shrink rfl ?_ ?_
      · unfold residuePath
        rw [arm]
        simp
      · unfold directPath
        rw [arm]
    exact ordered_resume moved rfl switching clean
  | @announce counter success arm =>
    have direct : handover.directPath = [counter] := by rw [directPath, arm]
    have near := clean counter (by rw [direct]; rfl)
    refine ordered_sendDirect ordered { handover with arm := .free } rfl ?_ direct rfl near success
    unfold residuePath
    rw [arm]
  | @sendSlot counter wires success arm =>
    have direct : handover.directPath = counter :: wires := by rw [directPath, arm]
    have near := clean counter (by rw [direct]; rfl)
    refine ordered_sendDirect ordered { handover with arm := .slotting wires, fresh := false } rfl ?_ direct rfl
      near success
    unfold residuePath
    rw [arm]
  | endSlot arm =>
    refine ordered.shrink rfl ?_ ?_
    · unfold residuePath
      rw [arm]
    · unfold directPath
      rw [arm]
  | takeResidue hand channel =>
    refine ordered.shrink rfl ?_ (.refl _)
    unfold residuePath
    rw [hand, channel]
    simp
  | sendResidue held => exact ordered_sendResidue ordered held (clean _ (by rw [held]; rfl)) _

/-! ### The first slot -/

/-- What the mode is while the loop waits in an arm: a residue is flushed by the tick of an unpaced loop
or by a switch to unpaced. -/
def ArmFits (config : OutboundConfig) (paced : Bool) : Arm → Prop
  | .free | .announcing _ => True
  | .draining _ | .flushing _ none => paced = false
  | .flushing _ (some eff) => newPaced config eff = false
  | .slotting _ => paced = true

/-- The residue of a switch to unpaced is on its way to `send_tx`. -/
def LeavesPacing (handover : Handover) : Prop := ∃ wires eff, handover.arm = .flushing wires (some eff)

/-- **The invariant of runs whose drains end with at most one batch unsent.** -/
structure Staged (config : OutboundConfig) (handover : Handover) : Prop where
  arm : ArmFits config handover.paced handover.arm
  fresh : handover.fresh = true → handover.paced = true
  drained : handover.paced = true → handover.residue = []
  few : handover.fresh = true → ¬ handover.LeavesPacing → handover.unsent.length ≤ 1

/-- Batches only get sent. -/
theorem unsent_le (handover after : Handover) (batches : after.batches = handover.batches)
    (waits : ∀ counter ∈ after.lane.queue ++ after.residuePath,
      counter ∈ handover.lane.queue ++ handover.residuePath) :
    after.unsent.length ≤ handover.unsent.length := by
  unfold unsent
  rw [batches]
  refine (List.monotone_filter_right handover.batches fun batch holds => ?_).length_le
  obtain ⟨counter, member, present⟩ := List.any_eq_true.mp holds
  exact List.any_eq_true.mpr
    ⟨counter, member, decide_eq_true (waits counter (of_decide_eq_true present))⟩

/-- What the end of a switch leaves. -/
structure Finishes (config : OutboundConfig) (eff : EffectiveTraffic) (handover after : Handover) :
    Prop where
  batches : after.batches = handover.batches
  queue : after.lane.queue = handover.lane.queue
  residue : after.residue = handover.residue
  path : after.residuePath = handover.residuePath
  arm : ∀ paced, ArmFits config paced after.arm
  leaves : ¬ after.LeavesPacing
  paced : after.paced = newPaced config eff
  fresh : after.fresh = (newPaced config eff && (handover.fresh || !handover.paced))

theorem finishes (config : OutboundConfig) (free : handover.arm = .free) (eff : EffectiveTraffic) :
    Finishes config eff handover (handover.finish config eff) := by
  have path : ∀ arm : Arm, (∀ wires switching, arm ≠ .flushing wires switching) →
      handover.hand ++ handover.residue.flatten ++ (match arm with
        | .flushing wires _ => wires
        | _ => []) = handover.residuePath := by
    intro arm other
    unfold residuePath
    rw [free]
    cases arm with
    | flushing wires switching => exact absurd rfl (other wires switching)
    | free | draining _ | announcing _ | slotting _ => rfl
  simp only [finish]
  split
  · split
    · exact ⟨rfl, rfl, rfl, path (.announcing 0) fun _ _ => nofun, fun _ => trivial,
        fun ⟨_, _, impossible⟩ => (nomatch impossible), rfl, rfl⟩
    · refine ⟨rfl, rfl, rfl, rfl, fun paced => ?_, ?_, rfl, rfl⟩
      · show ArmFits config paced handover.arm
        rw [free]
        trivial
      · rintro ⟨_, _, impossible⟩
        cases free.symm.trans impossible
  · refine ⟨rfl, rfl, rfl, rfl, fun paced => ?_, ?_, rfl, rfl⟩
    · show ArmFits config paced handover.arm
      rw [free]
      trivial
    · rintro ⟨_, _, impossible⟩
      cases free.symm.trans impossible

/-- **The end of a switch** keeps the invariant when a switch to paced has drained `send_tx`. -/
theorem staged_finish (handover : Handover) (free : handover.arm = .free) (eff : EffectiveTraffic)
    (drained : newPaced config eff = true → handover.residue = [])
    (few : newPaced config eff = true → handover.fresh = true ∨ handover.paced = false →
      handover.unsent.length ≤ 1) : (handover.finish config eff).Staged config := by
  obtain ⟨batches, queue, residue, path, arm, -, paced, fresh⟩ := finishes config free eff
  refine ⟨arm _, fun isFresh => ?_, fun isPaced => ?_, fun isFresh _ => ?_⟩
  · rw [fresh] at isFresh
    rw [paced]
    exact (Bool.and_eq_true_iff.mp isFresh).1
  · rw [paced] at isPaced
    rw [residue]
    exact drained isPaced
  · rw [fresh] at isFresh
    obtain ⟨toPaced, first⟩ := Bool.and_eq_true_iff.mp isFresh
    have first : handover.fresh = true ∨ handover.paced = false := by
      simpa using first
    refine (unsent_le handover _ batches fun counter present => ?_).trans (few toPaced first)
    rw [queue, path] at present
    exact present

/-- The senders only take from the order path. -/
theorem queue_sender {lane : Pipeline} {event : PipelineEvent} (own : event.ofSender = true)
    (taken : handover.lane.step event = some lane) :
    lane.queue.Sublist handover.lane.queue := by
  by_cases internal : handover.lane.Internal event
  · exact (Pipeline.letsGo_step taken internal).queue
  cases event with
  | send =>
    simp only [Pipeline.step] at taken
    split at taken
    · rename_i pending stage
      refine absurd ?_ internal
      show handover.lane.nextWire = none
      rw [Pipeline.nextWire, stage]
    · rename_i counter rest pending stage
      obtain rfl := Option.some.inj taken
      have queue : handover.lane.queue = counter ::
          (({ handover.lane with stage := .sending rest pending } : Pipeline).putOnWire
            counter).queue := by
        unfold Pipeline.putOnWire
        split <;> simp [Pipeline.queue, stage, SenderStage.counters]
      rw [queue]
      exact List.sublist_cons_self _ _
    · cases taken
  | reply _ _ | takeNext | awaitReply | drain | sendFails => exact absurd trivial internal
  | dispatchSeal _ | enqueue | sealFrame | sendFrame _ | dropFrame _ => cases own

/-- A datagram on the wire does not change what waits for the senders. -/
theorem emit_frame (handover : Handover) (success : Bool) (counter : Nat) :
    (handover.emit success counter).lane.queue = handover.lane.queue ∧
    (handover.emit success counter).residuePath = handover.residuePath ∧
    (handover.emit success counter).residue = handover.residue ∧
    (handover.emit success counter).batches = handover.batches ∧
    (handover.emit success counter).arm = handover.arm ∧
    (handover.emit success counter).paced = handover.paced ∧
    (handover.emit success counter).fresh = handover.fresh := by
  have queue : (handover.lane.putOnWire counter).queue = handover.lane.queue := by
    unfold Pipeline.putOnWire
    split <;> rfl
  cases success with
  | false => exact ⟨rfl, rfl, rfl, rfl, rfl, rfl, rfl⟩
  | true => exact ⟨queue, rfl, rfl, rfl, rfl, rfl, rfl⟩

/-- A step that gives nothing to the senders, and takes nothing from `send_tx` but to send it. -/
theorem Staged.shrink (staged : handover.Staged config) (after : Handover)
    (batches : after.batches = handover.batches)
    (waits : ∀ counter ∈ after.lane.queue ++ after.residuePath,
      counter ∈ handover.lane.queue ++ handover.residuePath)
    (arm : ArmFits config after.paced after.arm) (paced : after.paced = handover.paced)
    (fresh : after.fresh = true → handover.fresh = true)
    (residue : handover.residue = [] → after.residue = [])
    (leaves : handover.LeavesPacing → after.LeavesPacing) : after.Staged config := by
  refine ⟨arm, fun isFresh => ?_, fun isPaced => ?_, fun isFresh stays => ?_⟩
  · rw [paced]
    exact staged.fresh (fresh isFresh)
  · rw [paced] at isPaced
    exact residue (staged.drained isPaced)
  · exact (unsent_le handover after batches waits).trans
      (staged.few (fresh isFresh) fun left => stays (leaves left))

theorem staged_emit (staged : handover.Staged config) (success : Bool) (counter : Nat) :
    (handover.emit success counter).Staged config := by
  obtain ⟨queue, path, residue, batches, arm, paced, fresh⟩ := emit_frame handover success counter
  refine staged.shrink _ batches (fun other present => ?_) ?_ paced (fun isFresh => fresh ▸ isFresh)
    (fun empty => residue.trans empty) fun ⟨wires, eff, left⟩ => ⟨wires, eff, arm.trans left⟩
  · rw [queue, path] at present
    exact present
  · rw [paced, arm]
    exact staged.arm

/-- The loop goes on with what it sends itself. -/
theorem Staged.toDirect (staged : handover.Staged config) (after : Handover)
    (same : after = { handover with arm := after.arm, fresh := after.fresh })
    (arm : ArmFits config handover.paced after.arm)
    (fresh : after.fresh = true → handover.fresh = true)
    (was : ∀ wires switching, handover.arm ≠ .flushing wires switching)
    (is : ∀ wires switching, after.arm ≠ .flushing wires switching) : after.Staged config := by
  have path : after.residuePath = handover.residuePath := by
    rw [same]
    unfold residuePath
    cases isArm : after.arm with
    | flushing wires switching => exact absurd isArm (is wires switching)
    | free | draining _ | announcing _ | slotting _ =>
      cases wasArm : handover.arm with
      | flushing wires switching => exact absurd wasArm (was wires switching)
      | free | draining _ | announcing _ | slotting _ => rfl
  have queue : after.lane.queue = handover.lane.queue := by rw [same]
  have paced : after.paced = handover.paced := by rw [same]
  refine staged.shrink after (by rw [same]) (fun counter present => ?_) ?_ paced fresh
    (fun empty => ?_) fun ⟨wires, eff, left⟩ => absurd left (was wires (some eff))
  · rw [queue, path] at present
    exact present
  · rw [paced]
    exact arm
  · rw [same]
    exact empty

/-- A flush comes with a switch to unpaced, or in an unpaced loop. -/
theorem staged_flush (staged : handover.Staged config) (free : handover.arm = .free) (success : Bool)
    (switching : Option EffectiveTraffic)
    (leaves : match switching with
      | none => handover.paced = false
      | some eff => newPaced config eff = false) :
    (handover.flush config success switching).Staged config := by
  have lost : ∀ session, ({ handover.withSession session with pending := 0 } : Handover).Staged config :=
    fun session => staged.shrink _ rfl (fun _ => id) staged.arm rfl id id id
  have resumed : ∀ session, (({ handover.withSession session with pending := 0 } : Handover).resume config
      switching).Staged config := by
    intro session
    cases switching with
    | none => exact lost session
    | some eff =>
      refine staged_finish { handover.withSession session with pending := 0 } free eff
        (fun toPaced => ?_) fun toPaced => ?_ <;>
      · rw [leaves] at toPaced
        cases toPaced
  simp only [flush]
  split
  · exact resumed _
  · cases success with
    | false => exact resumed _
    | true =>
      rw [if_pos rfl]
      cases switching with
      | none =>
        refine ⟨leaves, staged.fresh, staged.drained, fun fresh => ?_⟩
        rw [staged.fresh fresh] at leaves
        cases leaves
      | some eff =>
        exact ⟨leaves, staged.fresh, staged.drained, fun _ stays => absurd ⟨_, _, rfl⟩ stays⟩

/-- **A step whose drain, if it ends one, leaves at most one batch** keeps the invariant. -/
theorem staged_step (staged : handover.Staged config) {event : HandoverEvent}
    (clean : event = .drained → handover.unsent.length ≤ 1)
    (taken : handover.step config event = some after) : after.Staged config := by
  cases move_of_step taken with
  | stage ready paced => exact staged.shrink _ rfl (fun _ => id) staged.arm rfl id id id
  | dispatch ready unpaced dispatched =>
    refine ⟨staged.arm, staged.fresh, staged.drained, fun fresh => ?_⟩
    exact absurd (staged.fresh fresh) unpaced
  | @enqueue lane queued =>
    have queue := (Pipeline.letsGo_step queued trivial).queue
    exact staged.shrink { handover with lane } rfl (fun _ present =>
      (queue.append_right _).subset present) staged.arm rfl id id id
  | @sender event lane own moved =>
    exact staged.shrink { handover with lane } rfl (fun _ present =>
      ((queue_sender own moved).append_right _).subset present) staged.arm rfl id id id
  | @slot emissions success free paced burst =>
    refine staged.shrink _ rfl (fun counter present => ?_) paced rfl id id fun left => ?_
    · have path : (handover.slot emissions).residuePath = handover.residuePath := by
        unfold residuePath
        rw [free]
        rfl
      rw [path] at present
      exact present
    · obtain ⟨_, _, impossible⟩ := left
      cases free.symm.trans impossible
  | quiet free unpaced empty => exact staged
  | flush free unpaced => exact staged_flush staged free _ none unpaced
  | @drain eff success free unpaced toPaced =>
    refine staged.shrink _ rfl (fun counter present => ?_) unpaced rfl id id fun left => ?_
    · have path : ({ handover with arm := .draining eff } : Handover).residuePath = handover.residuePath := by
        unfold residuePath
        rw [free]
      rw [path] at present
      exact present
    · obtain ⟨_, _, impossible⟩ := left
      cases free.symm.trans impossible
  | @leave eff success free toUnpaced => exact staged_flush staged free success (some eff) toUnpaced
  | @adopt eff success free stays =>
    refine staged_finish handover free eff (fun toPaced => staged.drained (stays toPaced)) fun toPaced first => ?_
    refine staged.few (first.resolve_right fun unpaced => ?_) fun ⟨_, _, impossible⟩ => ?_
    · rw [stays toPaced] at unpaced
      cases unpaced
    · cases free.symm.trans impossible
  | @drained eff arm empty =>
    refine staged_finish { handover with arm := .free } rfl eff (fun _ => empty) fun _ _ => ?_
    refine (unsent_le handover { handover with arm := .free } rfl fun counter present => ?_).trans (clean rfl)
    have path : ({ handover with arm := .free } : Handover).residuePath = handover.residuePath := by
      unfold residuePath
      rw [arm]
    rw [path] at present
    exact present
  | @handOver wires switching arm room =>
    have fits := staged.arm
    rw [arm] at fits
    cases switching with
    | none =>
      have unpaced : handover.paced = false := fits
      refine ⟨trivial, staged.fresh, fun paced => ?_, fun fresh => ?_⟩
      · exact absurd (unpaced.symm.trans paced) nofun
      · exact absurd (unpaced.symm.trans (staged.fresh fresh)) nofun
    | some eff =>
      have toUnpaced : newPaced config eff = false := fits
      refine staged_finish _ rfl eff (fun toPaced => ?_) fun toPaced => ?_ <;>
      · rw [toUnpaced] at toPaced
        cases toPaced
  | @announce counter success arm =>
    exact staged_emit (staged.toDirect { handover with arm := .free } rfl trivial id
      (by rw [arm]; exact fun _ _ => nofun) fun _ _ => nofun) success counter
  | @sendSlot counter wires success arm =>
    have paced := staged.arm
    rw [arm] at paced
    exact staged_emit (staged.toDirect { handover with arm := .slotting wires, fresh := false } rfl
      paced nofun (by rw [arm]; exact fun _ _ => nofun) fun _ _ => nofun) success counter
  | endSlot arm =>
    exact staged.toDirect { handover with arm := .free } rfl trivial id
      (by rw [arm]; exact fun _ _ => nofun) fun _ _ => nofun
  | @takeResidue wires residue hand channel =>
    refine staged.shrink _ rfl (fun counter present => ?_) staged.arm rfl id (fun empty => ?_) id
    · have path : ({ handover with hand := wires, residue } : Handover).residuePath = handover.residuePath := by
        unfold residuePath
        rw [hand, channel]
        simp
      rw [path] at present
      exact present
    · rw [channel] at empty
      cases empty
  | @sendResidue counter hand success held =>
    refine staged_emit (staged.shrink { handover with hand } rfl (fun other present => ?_) staged.arm rfl
      id id id) success counter
    have path : handover.residuePath = counter :: ({ handover with hand } : Handover).residuePath := by
      unfold residuePath
      rw [held]
      rfl
    rw [path]
    rcases List.mem_append.mp present with data | rest
    · exact List.mem_append_left _ data
    · exact List.mem_append_right _ (List.mem_cons_of_mem _ rest)

/-! ### Runs -/

theorem staged_begin (config : OutboundConfig) (session : Session) (eff : EffectiveTraffic) :
    (begin config session eff).Staged config :=
  ⟨trivial, nofun, fun _ => rfl, nofun⟩

theorem staged_clean {event : HandoverEvent} (clean : handover.Clean event) :
    event = .drained → handover.unsent.length ≤ 1 := by
  rintro rfl
  exact clean.2

/-- **A clean hand-over at every switch.** In every run of the outbound loop and its senders in which
each drain ends with at most one batch unsent, and no writer's datagram goes out while one that waits
for another writer is 2048 or more counters behind it: whenever the first slot after a switch to paced
is about to send, at most one batch is unsent; and the peer accepts every datagram put on the wire, none
of which is sent after one 2048 or more counters above it. -/
theorem clean_handover {prims : Primitives} {sessionId : UInt32} {shared : Octets 32}
    {isInitiator : Bool} {algo : AeadAlgo} (config : OutboundConfig) (eff : EffectiveTraffic)
    {events : List HandoverEvent} {last : Handover}
    (run : Run (Guarded Clean (Taken (step config)))
      (begin config (.fromHandshakeWithAlgo prims sessionId shared isInitiator algo) eff) events last) :
    (last.AtFirstSlot → last.unsent.length ≤ 1) ∧
      (∀ entry ∈ last.lane.wire, entry.2 = true) ∧
      last.lane.sent.Pairwise fun later earlier => earlier < later + windowBits := by
  have kept := run.invariant (fun handover => handover.Ordered ∧ handover.Staged config)
    (fun _ _ _ kept taken => ⟨ordered_step kept.1 taken.1 taken.2,
      staged_step kept.2 (staged_clean taken.1) taken.2⟩)
    ⟨ordered_begin config (show 2 ^ 48 < 2 ^ 64 by decide) eff, staged_begin config _ eff⟩
  obtain ⟨ordered, staged⟩ := kept
  refine ⟨fun ⟨fresh, counter, wires, slotting⟩ => ?_, ordered.orderly.accepted, ordered.orderly.inWindow⟩
  refine staged.few fresh fun ⟨_, _, left⟩ => ?_
  rw [slotting] at left
  cases left

/-- A tunnel that does not announce its profile, unpaced. -/
def sampleHandover : OutboundConfig := ⟨⟨true, .bucketed⟩, false⟩

def sampleSlow : EffectiveTraffic :=
  TrafficConfig.effective ⟨.off, false, .adaptive, 256, 2, 500, 64, 0.25⟩

/-- Eight full batches wait in the order channel while the tunnel is switched to the stealth profile, and
the first slot seals two cover packets. -/
def sampleSwitched : List HandoverEvent :=
  (List.replicate 8 [.recv 256, .enqueue]).flatten ++
    [.switch Outbound.sampleStealth true, .drained, .tick [⟨false, true⟩, ⟨false, true⟩] true]

/-- The slot sends, and then the first batch goes out. -/
def sampleOvertaken : List HandoverEvent :=
  [.sendDirect true, .sender .takeNext, .sender (.reply 0 true), .sender .awaitReply, .sender .drain,
    .sender .send]

/-- **The drain waits for the wrong channel**: at the first slot eight batches are unsent, the slot's
first datagram passes the oldest packet by 2048, and the peer drops the packet. -/
theorem switch_overtakes : ∃ slotted last,
    Run (Taken (step sampleHandover)) (begin sampleHandover Pipeline.sampleSession sampleSlow)
      sampleSwitched slotted ∧ slotted.AtFirstSlot ∧ ¬ slotted.unsent.length ≤ 1 ∧
    Run (Taken (step sampleHandover)) slotted sampleOvertaken last ∧
      last.lane.wire = [(0, false), (2048, true)] ∧
      ¬ last.lane.sent.Pairwise fun later earlier => earlier < later + windowBits := by
  have executed : ((execute (step sampleHandover)
      (begin sampleHandover Pipeline.sampleSession sampleSlow) sampleSwitched).map fun slotted =>
        (decide slotted.AtFirstSlot, slotted.unsent.length,
          (execute (step sampleHandover) slotted sampleOvertaken).map (·.lane.wire))) =
      some (true, 8, some [(0, false), (2048, true)]) := by
    decide +kernel
  obtain ⟨slotted, ran, seen⟩ := Option.map_eq_some_iff.mp executed
  obtain ⟨first, unsent, rest⟩ : _ ∧ _ ∧ _ := by simpa only [Prod.mk.injEq] using seen
  obtain ⟨last, ran', wire⟩ := Option.map_eq_some_iff.mp rest
  refine ⟨slotted, last, run_of_execute ran, of_decide_eq_true first, by rw [unsent]; decide,
    run_of_execute ran', wire, ?_⟩
  rw [Pipeline.sent, wire]
  decide

/-- A batch is half sent when the tunnel is switched to the stealth profile, the slot sends, and the batch
is done. -/
def sampleClean : List HandoverEvent :=
  [.recv 2, .enqueue, .sender .takeNext, .sender (.reply 0 true), .sender .awaitReply, .sender .drain,
    .sender .send, .switch Outbound.sampleStealth true, .drained, .tick [⟨false, true⟩] true]

theorem clean_handover_sample : ∃ last,
    Run (Guarded Clean (Taken (step sampleHandover)))
      (begin sampleHandover Pipeline.sampleSession sampleSlow) sampleClean last ∧
    last.AtFirstSlot ∧ last.unsent.length ≤ 1 := by
  have executed : ((execute (guardedStep Clean (step sampleHandover))
      (begin sampleHandover Pipeline.sampleSession sampleSlow) sampleClean).map fun last =>
        decide last.AtFirstSlot) = some true := by
    decide +kernel
  obtain ⟨last, ran, first⟩ := Option.map_eq_some_iff.mp executed
  have run := run_of_guarded ran
  exact ⟨last, run, of_decide_eq_true first,
    (clean_handover sampleHandover sampleSlow run).1 (of_decide_eq_true first)⟩

end Handover

end ChameleonPQ
