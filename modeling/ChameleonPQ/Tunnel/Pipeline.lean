/-
**The unpaced send pipeline (`tunnel_loops.rs`).**

The outbound reader reserves the counters of a batch and hands the batch to a worker and, in the same
order, to a bounded channel; one sender takes the batches from the channel and puts their datagrams on
the wire. Keepalives and profile announcements reserve one counter and go to the socket directly, past
whatever waits in the channel. The network neither loses nor reorders, so the peer's replay window sees
the wire as it is.

* `step` — one atomic step of the reader, a worker, the sender or a bypassing task.
* `Orderly`, `orderly_run` — the queue is in counter order, no counter is in two places, and every
  counter still to be sent is one the peer would accept.
* `no_self_inflicted_drops` — if no datagram overtakes a waiting one by 2048 counters or more, the
  peer accepts everything; `overtaken_dropped` — a run of the code in which it does not.
-/

import ChameleonPQ.Crypto.Transparent
import ChameleonPQ.Library.Runs
import ChameleonPQ.Session.Session
import Mathlib.Data.List.Pairwise
import Mathlib.Data.List.Range

namespace ChameleonPQ

open Library Library.Runs Library.SeenWindow

/-- `MAX_BATCH`. -/
def maxBatch : Nat := 256

/-- `SEND_PIPELINE_BATCHES`, the capacity of the order channel. -/
def sendPipelineBatches : Nat := 16

/-- A dispatched batch: the receiver of its worker's reply, and the counters reserved for it. -/
structure Batch where
  base : Nat
  size : Nat
  deriving DecidableEq

/-- The counters of a batch. -/
def Batch.counters (batch : Batch) : List Nat := List.range' batch.base batch.size

/-- Where `run_sequential_sender` stands. `pending` is the receiver it popped before its reply was
there; it is set when the `try_recv` loop ends and taken at the head of the next round. -/
inductive SenderStage where
  /-- The head of the loop. -/
  | taking (pending : Option Batch)
  /-- `next.await`. -/
  | awaiting (batch : Batch)
  /-- The `try_recv` loop, with the wires collected so far. -/
  | draining (wires : List Nat)
  /-- Sending what was collected. -/
  | sending (wires : List Nat) (pending : Option Batch)
  deriving DecidableEq

/-- The counters of a batch that may be there. -/
def optionalCounters (batch : Option Batch) : List Nat := batch.toList.flatMap Batch.counters

/-- The counters the sender holds in a stage. -/
def SenderStage.counters : SenderStage → List Nat
  | .taking pending => optionalCounters pending
  | .awaiting batch => batch.counters
  | .draining wires => wires
  | .sending wires pending => wires ++ optionalCounters pending

/-- The sending half of a tunnel on one session, and the wire up to the peer's window. -/
structure Pipeline where
  session : Session
  /-- The batch the reader is blocked on in `order_tx.send`. -/
  blocked : Option Batch
  order : List Batch
  stage : SenderStage
  /-- The base counters of the batches being sealed. -/
  running : List Nat
  /-- What the workers replied, by base counter: sealed, or failed. -/
  replies : List (Nat × Bool)
  /-- Sealed keepalive and profile frames that are not on the wire yet. -/
  bypass : List Nat
  /-- The counters put on the wire, newest first, with the peer's verdict. -/
  wire : List (Nat × Bool)
  peer : ReplayWindow

/-- One atomic step. -/
inductive PipelineEvent where
  /-- The reader drained `size` packets and dispatches them. -/
  | dispatchSeal (size : Nat)
  /-- The channel takes the batch the reader is blocked on. -/
  | enqueue
  /-- A worker replies. -/
  | reply (base : Nat) (success : Bool)
  /-- The sender takes its pending receiver, or one from the channel. -/
  | takeNext
  /-- The awaited reply is there. -/
  | awaitReply
  /-- One round of the `try_recv` loop. -/
  | drain
  /-- The sender sends one datagram, or is done sending. -/
  | send
  /-- `batch_send` fails; the error is logged. -/
  | sendFails
  /-- A keepalive or profile frame is sealed. -/
  | sealFrame
  /-- A sealed frame goes to the socket. -/
  | sendFrame (counter : Nat)
  /-- Its `send_to` fails, or its task is gone. -/
  | dropFrame (counter : Nat)

namespace Pipeline

/-- A tunnel on a fresh session. -/
def start (session : Session) : Pipeline :=
  { session, blocked := none, order := [], stage := .taking none, running := [], replies := []
    bypass := [], wire := [], peer := .new }

/-- A datagram reaches the peer's window. -/
def putOnWire (pipeline : Pipeline) (counter : Nat) : Pipeline :=
  match pipeline.peer.check counter with
  | .ok () => { pipeline with
      wire := (counter, true) :: pipeline.wire
      peer := pipeline.peer.commit counter }
  | .error _ => { pipeline with wire := (counter, false) :: pipeline.wire }

/-- What a reply adds to the wires: a failed batch is logged and dropped. -/
def sealedWires (batch : Batch) (success : Bool) : List Nat := if success then batch.counters else []

/-- One round of the `try_recv` loop: it stops at an empty channel and at the first batch that is not
sealed yet, which it keeps. -/
def drain (pipeline : Pipeline) (wires : List Nat) : Pipeline :=
  match pipeline.order with
  | [] => { pipeline with stage := .sending wires none }
  | batch :: rest =>
    match pipeline.replies.lookup batch.base with
    | some success => { pipeline with
        order := rest
        stage := .draining (wires ++ sealedWires batch success) }
    | none => { pipeline with order := rest, stage := .sending wires (some batch) }

/-- One step; `none` when it is not enabled. -/
def step (pipeline : Pipeline) : PipelineEvent → Option Pipeline
  | .dispatchSeal size =>
    if pipeline.blocked = none ∧ 0 < size ∧ size ≤ maxBatch then
      match pipeline.session.reserveCounters size with
      | (.ok base, session) => some { pipeline with
          session
          blocked := some ⟨base, size⟩
          running := base :: pipeline.running }
      | (.error _, session) => some { pipeline with session }
    else none
  | .enqueue =>
    match pipeline.blocked with
    | some batch =>
      if pipeline.order.length < sendPipelineBatches then
        some { pipeline with blocked := none, order := pipeline.order ++ [batch] }
      else none
    | none => none
  | .reply base success =>
    if base ∈ pipeline.running then
      some { pipeline with
        running := pipeline.running.erase base
        replies := (base, success) :: pipeline.replies }
    else none
  | .takeNext =>
    match pipeline.stage, pipeline.order with
    | .taking (some batch), _ => some { pipeline with stage := .awaiting batch }
    | .taking none, batch :: rest =>
      some { pipeline with stage := .awaiting batch, order := rest }
    | _, _ => none
  | .awaitReply =>
    match pipeline.stage with
    | .awaiting batch =>
      match pipeline.replies.lookup batch.base with
      | some success => some { pipeline with stage := .draining (sealedWires batch success) }
      | none => none
    | _ => none
  | .drain =>
    match pipeline.stage with
    | .draining wires => some (pipeline.drain wires)
    | _ => none
  | .send =>
    match pipeline.stage with
    | .sending [] pending => some { pipeline with stage := .taking pending }
    | .sending (counter :: rest) pending =>
      some ({ pipeline with stage := .sending rest pending }.putOnWire counter)
    | _ => none
  | .sendFails =>
    match pipeline.stage with
    | .sending (_ :: rest) pending => some { pipeline with stage := .sending rest pending }
    | _ => none
  | .sealFrame =>
    match pipeline.session.reserveCounters 1 with
    | (.ok counter, session) =>
      some { pipeline with session, bypass := counter :: pipeline.bypass }
    | (.error _, session) => some { pipeline with session }
  | .sendFrame counter =>
    if counter ∈ pipeline.bypass then
      some ({ pipeline with bypass := pipeline.bypass.erase counter }.putOnWire counter)
    else none
  | .dropFrame counter =>
    if counter ∈ pipeline.bypass then
      some { pipeline with bypass := pipeline.bypass.erase counter }
    else none

/-! ### The queue -/

/-- The data counters that are reserved and not on the wire, in the order they will go out. -/
def queue (pipeline : Pipeline) : List Nat :=
  pipeline.stage.counters ++ pipeline.order.flatMap Batch.counters ++
    optionalCounters pipeline.blocked

/-- The datagram the sender puts on the wire next. -/
def nextWire (pipeline : Pipeline) : Option Nat :=
  match pipeline.stage with
  | .sending (counter :: _) _ => some counter
  | _ => none

/-- **No overtaking**: a datagram goes out while no waiting datagram that it passes is 2048 or more
counters behind it, and the session's 64-bit counter does not wrap. Data packets pass only bypassing
frames, for they leave the queue in order. -/
def NoOvertaking (pipeline : Pipeline) : PipelineEvent → Prop
  | .dispatchSeal size => pipeline.session.txCounter + size < 2 ^ 64
  | .sealFrame => pipeline.session.txCounter + 1 < 2 ^ 64
  | .send => ∀ counter ∈ pipeline.nextWire, ∀ other ∈ pipeline.bypass, counter < other + windowBits
  | .sendFrame counter => ∀ other ∈ pipeline.queue ++ pipeline.bypass, counter < other + windowBits
  | _ => True

instance (pipeline : Pipeline) (event : PipelineEvent) : Decidable (pipeline.NoOvertaking event) :=
  match event with
  | .dispatchSeal _ => inferInstanceAs (Decidable (_ < _))
  | .sealFrame => inferInstanceAs (Decidable (_ < _))
  | .send => inferInstanceAs (Decidable (∀ counter ∈ pipeline.nextWire, ∀ other ∈ pipeline.bypass,
      counter < other + windowBits))
  | .sendFrame counter => inferInstanceAs (Decidable (∀ other ∈ pipeline.queue ++ pipeline.bypass,
      counter < other + windowBits))
  | .enqueue | .reply _ _ | .takeNext | .awaitReply | .drain | .sendFails | .dropFrame _ =>
    inferInstanceAs (Decidable True)

/-- The counters put on the wire. -/
def sent (pipeline : Pipeline) : List Nat := pipeline.wire.map Prod.fst

/-- The counters that are reserved and not on the wire. -/
def waiting (pipeline : Pipeline) : List Nat := pipeline.queue ++ pipeline.bypass

/-- **The invariant of runs without overtaking.** -/
structure Orderly (pipeline : Pipeline) : Prop where
  limit : pipeline.session.rekeyAt < 2 ^ 64
  sorted : pipeline.queue.Pairwise (· < ·)
  distinct : pipeline.waiting.Nodup
  below : ∀ counter ∈ pipeline.waiting ++ pipeline.sent, counter < pipeline.session.txCounter
  represents : pipeline.peer.Represents {counter | counter ∈ pipeline.sent}
  acceptable : ∀ counter ∈ pipeline.waiting,
    AcceptsWithin windowBits {counter | counter ∈ pipeline.sent} counter
  accepted : ∀ entry ∈ pipeline.wire, entry.2 = true
  inWindow : pipeline.sent.Pairwise fun later earlier => earlier < later + windowBits

variable {pipeline after : Pipeline}

theorem orderly_start {session : Session} (limit : session.rekeyAt < 2 ^ 64) :
    Orderly (start session) where
  limit := limit
  sorted := .nil
  distinct := .nil
  below := fun _ present => nomatch present
  represents := by
    have empty : {counter | counter ∈ (start session).sent} = ∅ :=
      Set.eq_empty_of_forall_notMem fun _ present => nomatch present
    rw [empty]
    exact ReplayWindow.new_represents
  acceptable := fun _ present => nomatch present
  accepted := fun _ present => nomatch present
  inWindow := .nil

/-- Letting go of waiting counters keeps the invariant, whatever the stages and channels are. -/
theorem Orderly.shrink (orderly : Orderly pipeline) (session : after.session = pipeline.session)
    (wire : after.wire = pipeline.wire) (peer : after.peer = pipeline.peer)
    (queue : after.queue.Sublist pipeline.queue) (bypass : after.bypass.Sublist pipeline.bypass) :
    Orderly after := by
  have waiting : after.waiting.Sublist pipeline.waiting := queue.append bypass
  have sent : after.sent = pipeline.sent := congrArg (List.map Prod.fst) wire
  exact
    { limit := session ▸ orderly.limit
      sorted := orderly.sorted.sublist queue
      distinct := orderly.distinct.sublist waiting
      below := fun counter present => by
        rw [session]
        rw [sent] at present
        exact orderly.below counter ((waiting.append_right _).subset present)
      represents := by
        rw [peer, sent]
        exact orderly.represents
      acceptable := fun counter present => by
        rw [sent]
        exact orderly.acceptable counter (waiting.subset present)
      accepted := wire ▸ orderly.accepted
      inWindow := sent ▸ orderly.inWindow }

/-- What the peer accepts goes on the wire as accepted. -/
theorem putOnWire_of_check {counter : Nat} (accepts : pipeline.peer.check counter = .ok ()) :
    pipeline.putOnWire counter = { pipeline with
      wire := (counter, true) :: pipeline.wire
      peer := pipeline.peer.commit counter } := by
  rw [putOnWire, accepts]

/-- **Putting a waiting counter on the wire**: if no other one is left 2048 behind, the peer accepts
it and would accept each of the others. -/
theorem Orderly.putOnWire (orderly : Orderly pipeline) {moved : Pipeline} {counter : Nat}
    (session : moved.session = pipeline.session) (wire : moved.wire = pipeline.wire)
    (peer : moved.peer = pipeline.peer) (sorted : moved.queue.Pairwise (· < ·))
    (spent : pipeline.waiting.Perm (counter :: moved.waiting))
    (near : ∀ other ∈ moved.waiting, counter < other + windowBits) :
    Orderly (moved.putOnWire counter) := by
  have sent : moved.sent = pipeline.sent := congrArg (List.map Prod.fst) wire
  have wasWaiting : counter ∈ pipeline.waiting := spent.mem_iff.mpr List.mem_cons_self
  have acceptable := orderly.acceptable counter wasWaiting
  have distinct := spent.nodup_iff.mp orderly.distinct
  have represents := orderly.represents
  have inWindow := orderly.inWindow
  rw [← peer, ← sent] at represents
  rw [← sent] at inWindow
  rw [← sent] at acceptable
  have accepts : moved.peer.check counter = .ok () :=
    (ReplayWindow.check_eq_ok_iff represents counter).mpr acceptable
  have grown : {other | other ∈ counter :: moved.sent} =
      insert counter {other | other ∈ moved.sent} := Set.ext fun _ => List.mem_cons
  rw [putOnWire_of_check accepts]
  exact
    { limit := session ▸ orderly.limit
      sorted
      distinct := distinct.of_cons
      below := fun other present => by
        show other < moved.session.txCounter
        rw [session]
        refine orderly.below other ?_
        rcases List.mem_append.mp present with old | new
        · exact List.mem_append_left _ (spent.mem_iff.mpr (List.mem_cons_of_mem _ old))
        · rcases List.mem_cons.mp new with rfl | old
          · exact List.mem_append_left _ wasWaiting
          · exact List.mem_append_right _ (sent ▸ old)
      represents := by
        show (moved.peer.commit counter).Represents {other | other ∈ counter :: moved.sent}
        rw [grown]
        exact ReplayWindow.commit_represents represents counter
      acceptable := fun other present => by
        have different : other ≠ counter := fun same =>
          (List.nodup_cons.mp distinct).1 (same ▸ present)
        have old := orderly.acceptable other (spent.mem_iff.mpr (List.mem_cons_of_mem _ present))
        rw [← sent] at old
        show AcceptsWithin windowBits {other | other ∈ counter :: moved.sent} other
        rw [grown]
        exact old.insert different (near other present)
      accepted := fun entry present => by
        rcases List.mem_cons.mp present with rfl | old
        · rfl
        · exact orderly.accepted entry (wire ▸ old)
      inWindow := List.pairwise_cons.mpr ⟨acceptable.2, inWindow⟩ }

/-- The session's counter moves on, and some of the counters it passed join the waiting ones. -/
theorem Orderly.reserved (orderly : Orderly pipeline) (new : List Nat)
    (limit : after.session.rekeyAt = pipeline.session.rekeyAt)
    (advanced : pipeline.session.txCounter ≤ after.session.txCounter)
    (wire : after.wire = pipeline.wire) (peer : after.peer = pipeline.peer)
    (sorted : after.queue.Pairwise (· < ·)) (distinct : new.Nodup)
    (fresh : ∀ counter ∈ new,
      pipeline.session.txCounter ≤ counter ∧ counter < after.session.txCounter)
    (gained : after.waiting.Perm (new ++ pipeline.waiting)) : Orderly after := by
  have sent : after.sent = pipeline.sent := congrArg (List.map Prod.fst) wire
  have inWindow := orderly.inWindow
  rw [← sent] at inWindow
  exact
    { limit := limit ▸ orderly.limit
      sorted
      distinct := by
        refine gained.nodup_iff.mpr (List.nodup_append.mpr ⟨distinct, orderly.distinct, ?_⟩)
        rintro counter isNew _ old rfl
        have := orderly.below counter (List.mem_append_left _ old)
        have := fresh counter isNew
        omega
      below := fun counter present => by
        rw [sent] at present
        rcases List.mem_append.mp present with waits | wasSent
        · rcases List.mem_append.mp (gained.mem_iff.mp waits) with isNew | old
          · exact (fresh counter isNew).2
          · exact (orderly.below counter (List.mem_append_left _ old)).trans_le advanced
        · exact (orderly.below counter (List.mem_append_right _ wasSent)).trans_le advanced
      represents := by
        rw [peer, sent]
        exact orderly.represents
      acceptable := fun counter waits => by
        rw [sent]
        rcases List.mem_append.mp (gained.mem_iff.mp waits) with isNew | old
        · -- everything sent so far lies below a fresh counter
          have above := (fresh counter isNew).1
          refine ⟨fun wasSent => ?_, fun other wasSent => ?_⟩
          · have := orderly.below counter (List.mem_append_right _ wasSent)
            omega
          · have : other < pipeline.session.txCounter :=
              orderly.below other (List.mem_append_right _ wasSent)
            show other < counter + windowBits
            omega
        · exact orderly.acceptable counter old
      accepted := wire ▸ orderly.accepted
      inWindow }

/-! ### Steps -/

/-- A step that puts nothing on the wire and reserves nothing. -/
structure LetsGo (pipeline after : Pipeline) : Prop where
  session : after.session = pipeline.session
  wire : after.wire = pipeline.wire
  peer : after.peer = pipeline.peer
  queue : after.queue.Sublist pipeline.queue
  bypass : after.bypass.Sublist pipeline.bypass

theorem letsGo_of_queue (session : after.session = pipeline.session)
    (wire : after.wire = pipeline.wire) (peer : after.peer = pipeline.peer)
    (bypass : after.bypass = pipeline.bypass) (queue : after.queue = pipeline.queue) :
    LetsGo pipeline after :=
  ⟨session, wire, peer, queue ▸ List.Sublist.refl _, bypass ▸ List.Sublist.refl _⟩

theorem sealedWires_sublist (batch : Batch) (success : Bool) :
    (sealedWires batch success).Sublist batch.counters := by
  cases success with
  | true => exact List.Sublist.refl _
  | false => exact List.nil_sublist _

/-- A round of the `try_recv` loop keeps the order of what it collects. -/
theorem letsGo_drain {wires : List Nat} (stage : pipeline.stage = .draining wires) :
    LetsGo pipeline (pipeline.drain wires) := by
  unfold drain
  cases order : pipeline.order with
  | nil =>
    refine letsGo_of_queue rfl rfl rfl rfl ?_
    simp [queue, stage, order, SenderStage.counters, optionalCounters]
  | cons batch rest =>
    dsimp only
    cases pipeline.replies.lookup batch.base with
    | none =>
      refine letsGo_of_queue rfl rfl rfl rfl ?_
      simp [queue, stage, order, SenderStage.counters, optionalCounters]
    | some success =>
      refine ⟨rfl, rfl, rfl, ?_, List.Sublist.refl _⟩
      simp only [queue, stage, order, SenderStage.counters, List.flatMap_cons, List.append_assoc]
      exact (List.Sublist.refl wires).append ((sealedWires_sublist batch success).append_right _)

/-- The steps that neither reserve a counter nor put one on the wire. -/
def Internal (pipeline : Pipeline) : PipelineEvent → Prop
  | .dispatchSeal _ | .sealFrame | .sendFrame _ => False
  | .send => pipeline.nextWire = none
  | _ => True

/-- **The steps between reserving and sending** keep the order of the queue. -/
theorem letsGo_step {event : PipelineEvent} (taken : pipeline.step event = some after)
    (internal : pipeline.Internal event) : LetsGo pipeline after := by
  cases event with
  | dispatchSeal _ | sealFrame | sendFrame _ => exact internal.elim
  | enqueue =>
    simp only [step] at taken
    split at taken
    · rename_i batch blocked
      split at taken
      · obtain rfl := Option.some.inj taken
        refine letsGo_of_queue rfl rfl rfl rfl ?_
        simp [queue, blocked, optionalCounters]
      · cases taken
    · cases taken
  | reply base success =>
    simp only [step] at taken
    split at taken
    · obtain rfl := Option.some.inj taken
      exact letsGo_of_queue rfl rfl rfl rfl rfl
    · cases taken
  | takeNext =>
    simp only [step] at taken
    split at taken
    · rename_i batch stage
      obtain rfl := Option.some.inj taken
      refine letsGo_of_queue rfl rfl rfl rfl ?_
      simp [queue, stage, SenderStage.counters, optionalCounters]
    · rename_i batch rest stage order
      obtain rfl := Option.some.inj taken
      refine letsGo_of_queue rfl rfl rfl rfl ?_
      simp [queue, stage, order, SenderStage.counters, optionalCounters]
    · cases taken
  | awaitReply =>
    simp only [step] at taken
    split at taken
    · rename_i batch stage
      split at taken
      · rename_i success _
        obtain rfl := Option.some.inj taken
        refine ⟨rfl, rfl, rfl, ?_, List.Sublist.refl _⟩
        simp only [queue, stage, SenderStage.counters, List.append_assoc]
        exact (sealedWires_sublist batch success).append_right _
      · cases taken
    · cases taken
  | drain =>
    simp only [step] at taken
    split at taken
    · rename_i wires stage
      obtain rfl := Option.some.inj taken
      exact letsGo_drain stage
    · cases taken
  | send =>
    simp only [step] at taken
    split at taken
    · rename_i pending stage
      obtain rfl := Option.some.inj taken
      refine letsGo_of_queue rfl rfl rfl rfl ?_
      simp [queue, stage, SenderStage.counters]
    · rename_i counter rest pending stage
      rw [Internal, nextWire, stage] at internal
      cases internal
    · cases taken
  | sendFails =>
    simp only [step] at taken
    split at taken
    · rename_i counter rest pending stage
      obtain rfl := Option.some.inj taken
      refine ⟨rfl, rfl, rfl, ?_, List.Sublist.refl _⟩
      simp only [queue, stage, SenderStage.counters, List.append_assoc]
      exact (List.sublist_cons_self counter rest).append_right _
    · cases taken
  | dropFrame counter =>
    simp only [step] at taken
    split at taken
    · obtain rfl := Option.some.inj taken
      exact ⟨rfl, rfl, rfl, List.Sublist.refl _, List.erase_sublist⟩
    · cases taken

/-- A reservation moves the counter without wrapping and grants the range from the old one. -/
theorem reserve_cases (session : Session) {size : Nat} (small : session.rekeyAt < 2 ^ 64)
    (budget : session.txCounter + size < 2 ^ 64) :
    (session.reserveCounters size).2 = { session with txCounter := session.txCounter + size } ∧
      ((session.reserveCounters size).1 = .ok session.txCounter ∨
        ∃ e, (session.reserveCounters size).1 = .error e) := by
  refine ⟨?_, ?_⟩
  · rw [Session.reserveCounters_session, Nat.mod_eq_of_lt budget]
  · rcases granted : session.reserveCounters size with ⟨_ | first, moved⟩
    · exact .inr ⟨_, rfl⟩
    · exact .inl (congrArg Except.ok (Session.reserveCounters_ok small granted).1)

theorem orderly_dispatchSeal (orderly : Orderly pipeline) {size : Nat}
    (budget : pipeline.session.txCounter + size < 2 ^ 64)
    (taken : pipeline.step (.dispatchSeal size) = some after) : Orderly after := by
  obtain ⟨moved, granted⟩ := reserve_cases pipeline.session orderly.limit budget
  simp only [step] at taken
  split at taken
  · rename_i free
    rcases reserved : pipeline.session.reserveCounters size with ⟨outcome, session⟩
    rw [reserved] at moved granted taken
    dsimp only at moved granted taken
    subst moved
    rcases granted with rfl | ⟨e, rfl⟩
    · obtain rfl := Option.some.inj taken
      have queue : ∀ session running, ({ pipeline with
          session
          blocked := some ⟨pipeline.session.txCounter, size⟩
          running } : Pipeline).queue =
          pipeline.queue ++ List.range' pipeline.session.txCounter size := by
        intro session running
        simp [queue, free.1, optionalCounters, Batch.counters]
      refine orderly.reserved _ rfl (Nat.le_add_right _ _) rfl rfl ?_ List.nodup_range'
        (fun counter => List.mem_range'_1.mp) ?_
      · rw [queue]
        refine List.pairwise_append.mpr ⟨orderly.sorted, List.pairwise_lt_range', ?_⟩
        intro old present new isNew
        have := orderly.below old (List.mem_append_left _ (List.mem_append_left _ present))
        have := (List.mem_range'_1.mp isNew).1
        omega
      · rw [waiting, queue]
        show ((pipeline.queue ++ _) ++ pipeline.bypass).Perm (_ ++ (pipeline.queue ++ pipeline.bypass))
        rw [List.append_assoc]
        exact (List.perm_append_comm_assoc _ _ _)
    · obtain rfl := Option.some.inj taken
      exact orderly.reserved [] rfl (Nat.le_add_right _ _) rfl rfl orderly.sorted List.nodup_nil
        (fun _ present => nomatch present) (List.Perm.refl _)
  · cases taken

theorem orderly_sealFrame (orderly : Orderly pipeline)
    (budget : pipeline.session.txCounter + 1 < 2 ^ 64)
    (taken : pipeline.step .sealFrame = some after) : Orderly after := by
  obtain ⟨moved, granted⟩ := reserve_cases pipeline.session orderly.limit budget
  rcases reserved : pipeline.session.reserveCounters 1 with ⟨outcome, session⟩
  simp only [step] at taken
  rw [reserved] at moved granted taken
  dsimp only at moved granted taken
  subst moved
  rcases granted with rfl | ⟨e, rfl⟩
  · obtain rfl := Option.some.inj taken
    refine orderly.reserved [pipeline.session.txCounter] rfl (Nat.le_add_right _ _) rfl rfl
      orderly.sorted (List.nodup_singleton _) (fun counter present => ?_) List.perm_middle
    rw [List.mem_singleton.mp present]
    exact ⟨le_rfl, Nat.lt_succ_self _⟩
  · obtain rfl := Option.some.inj taken
    exact orderly.reserved [] rfl (Nat.le_add_right _ _) rfl rfl orderly.sorted List.nodup_nil
      (fun _ present => nomatch present) (List.Perm.refl _)

/-- The sender sends in counter order, so only bypassing frames can be left behind. -/
theorem orderly_send (orderly : Orderly pipeline) (guarded : pipeline.NoOvertaking .send)
    (taken : pipeline.step .send = some after) : Orderly after := by
  cases next : pipeline.nextWire with
  | none =>
    have goes := letsGo_step taken next
    exact orderly.shrink goes.session goes.wire goes.peer goes.queue goes.bypass
  | some counter =>
    simp only [step] at taken
    split at taken
    · rename_i pending stage
      rw [nextWire, stage] at next
      cases next
    · rename_i head rest pending stage
      obtain rfl := Option.some.inj taken
      have head_eq : head = counter := by
        rw [nextWire, stage] at next
        exact Option.some.inj next
      subst head_eq
      have queue : pipeline.queue =
          head :: ({ pipeline with stage := .sending rest pending } : Pipeline).queue := by
        simp [Pipeline.queue, stage, SenderStage.counters]
      have sorted := orderly.sorted
      rw [queue, List.pairwise_cons] at sorted
      refine orderly.putOnWire rfl rfl rfl sorted.2 ?_ fun other waits => ?_
      · rw [waiting, queue]
        exact List.Perm.refl _
      · rcases List.mem_append.mp waits with data | frame
        · exact (sorted.1 other data).trans_le (Nat.le_add_right _ _)
        · exact guarded head next other frame
    · cases taken

theorem orderly_sendFrame (orderly : Orderly pipeline) {counter : Nat}
    (guarded : pipeline.NoOvertaking (.sendFrame counter))
    (taken : pipeline.step (.sendFrame counter) = some after) : Orderly after := by
  simp only [step] at taken
  split at taken
  · rename_i present
    obtain rfl := Option.some.inj taken
    refine orderly.putOnWire rfl rfl rfl orderly.sorted ?_ fun other waits => ?_
    · exact ((List.perm_cons_erase present).append_left _).trans List.perm_middle
    · refine guarded other ?_
      rcases List.mem_append.mp waits with data | frame
      · exact List.mem_append_left _ data
      · exact List.mem_append_right _ (List.mem_of_mem_erase frame)
  · cases taken

/-- **One step without overtaking keeps the invariant.** -/
theorem orderly_step {event : PipelineEvent} (orderly : Orderly pipeline)
    (guarded : pipeline.NoOvertaking event) (taken : pipeline.step event = some after) :
    Orderly after := by
  have quiet : LetsGo pipeline after → Orderly after := fun goes =>
    orderly.shrink goes.session goes.wire goes.peer goes.queue goes.bypass
  cases event with
  | dispatchSeal size => exact orderly_dispatchSeal orderly guarded taken
  | sealFrame => exact orderly_sealFrame orderly guarded taken
  | send => exact orderly_send orderly guarded taken
  | sendFrame counter => exact orderly_sendFrame orderly guarded taken
  | enqueue | reply _ _ | takeNext | awaitReply | drain | sendFails | dropFrame _ =>
    exact quiet (letsGo_step taken trivial)

/-- **Runs without overtaking keep the invariant.** -/
theorem orderly_run {session : Session} (limit : session.rekeyAt < 2 ^ 64)
    {events : List PipelineEvent} {last : Pipeline}
    (run : Run (Guarded NoOvertaking (Taken step)) (start session) events last) : Orderly last :=
  run.invariant Orderly (fun _ _ _ orderly taken => orderly_step orderly taken.1 taken.2)
    (orderly_start limit)

/-- **No self-inflicted drops without overtaking.** In every run on a fresh session in which each
datagram goes out while it passes no waiting one by 2048 counters or more, every datagram put on the
wire is accepted by the peer's window, and none is sent after one 2048 or more above it. -/
theorem no_self_inflicted_drops {prims : Primitives} {sessionId : UInt32} {shared : Octets 32}
    {isInitiator : Bool} {algo : AeadAlgo} {events : List PipelineEvent} {last : Pipeline}
    (run : Run (Guarded NoOvertaking (Taken step))
      (start (.fromHandshakeWithAlgo prims sessionId shared isInitiator algo)) events last) :
    (∀ entry ∈ last.wire, entry.2 = true) ∧
      last.sent.Pairwise fun later earlier => earlier < later + windowBits := by
  have orderly := orderly_run (show 2 ^ 48 < 2 ^ 64 by decide) run
  exact ⟨orderly.accepted, orderly.inWindow⟩

/-- A session to send on. -/
def sampleSession : Session := .fromHandshakeWithAlgo .transparent 7 (.zero 32) true .chaCha20Poly1305

/-- Eight full batches wait for their workers while a keepalive is sealed and sent; then the first
batch goes out. -/
def overtakingEvents : List PipelineEvent :=
  (List.replicate 8 [.dispatchSeal 256, .enqueue]).flatten ++
    [.sealFrame, .sendFrame 2048, .takeNext, .reply 0 true, .awaitReply, .drain, .send]

/-- **The keepalive overtakes a waiting packet by 2048**, and the peer drops the packet. -/
theorem overtaken_dropped : ∃ last, Run (Taken step) (start sampleSession) overtakingEvents last ∧
    last.wire = [(0, false), (2048, true)] ∧
      ¬ last.sent.Pairwise fun later earlier => earlier < later + windowBits := by
  have executed : ((execute step (start sampleSession) overtakingEvents).map Pipeline.wire) =
      some [(0, false), (2048, true)] := by
    decide +kernel
  obtain ⟨last, ran, wire⟩ := Option.map_eq_some_iff.mp executed
  refine ⟨last, run_of_execute ran, wire, ?_⟩
  rw [sent, wire]
  decide

/-- A batch of two goes out while a keepalive passes it. -/
def orderlyEvents : List PipelineEvent :=
  [.dispatchSeal 2, .enqueue, .sealFrame, .takeNext, .reply 0 true, .sendFrame 2, .awaitReply, .drain,
    .send, .send]

theorem no_self_inflicted_drops_sample : ∃ last,
    Run (Guarded NoOvertaking (Taken step)) (start sampleSession) orderlyEvents last ∧
      last.sent = [1, 0, 2] ∧ ∀ entry ∈ last.wire, entry.2 = true := by
  have executed : ((execute (guardedStep NoOvertaking step) (start sampleSession)
      orderlyEvents).map sent) = some [1, 0, 2] := by
    decide +kernel
  obtain ⟨last, ran, sent⟩ := Option.map_eq_some_iff.mp executed
  have run := run_of_guarded ran
  exact ⟨last, run, sent, (no_self_inflicted_drops run).1⟩

end Pipeline

end ChameleonPQ
