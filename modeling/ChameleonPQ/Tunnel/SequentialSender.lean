/-
**The sequential sender (`run_sequential_sender`).**

One reader submits seal jobs to a bounded order channel; the jobs end in any order; one sender takes them
from the channel, collects the wires of those that have ended and flushes them run by run.

* `advance` — one atomic step of the sender, `Advance` its cases; `step` adds the reader, the jobs and the socket.
* `Ordered`, `ordered_run` — what was handed to `batch_send`, then what is collected, are the outputs of
  the first jobs in submission order; every other job is still in the channel, held by the sender, or
  blocked behind it.
* `work` — the sender cannot run forever on its own; `Ordered.settled` is where it stops.
* `sequential_order` — the sender emits the outputs of the jobs that succeeded, in submission order.
-/

import ChameleonPQ.Tunnel.Offload
import ChameleonPQ.Tunnel.Pipeline

namespace ChameleonPQ

open Library Library.Runs

/-! ### The sender and its jobs -/

/-- The reply channel of a seal job: nothing yet, the worker's result, or dropped without one. -/
inductive SealReply where
  | running
  | replied (result : Result (List Bytes))
  | abandoned

namespace SealReply

/-- What the sender gets from a reply channel; `none` while it is empty. -/
def wires? : SealReply → Option (List Bytes)
  | running => none
  | replied (.ok wires) => some wires
  | replied (.error _) => some []
  | abandoned => some []

/-- The wires of a job; a failed or abandoned one has none. -/
def output (reply : SealReply) : List Bytes := reply.wires?.getD []

end SealReply

/-- Where `run_sequential_sender` stands. Jobs are named by their place in submission order. -/
inductive SequentialStage where
  /-- The head of the loop. -/
  | taking (pending : Option Nat)
  /-- `next.await`. -/
  | awaiting (job : Nat)
  /-- `order_rx.try_recv()`, with the wires collected so far. -/
  | draining (wires : List Bytes)
  /-- `next_rx.try_recv()`. -/
  | checking (wires : List Bytes) (job : Nat)
  /-- The rest of a `batch_send`, and the runs after it. -/
  | sending (transmits : List Transmit) (runs : List (List Bytes × Nat)) (pending : Option Nat)
  /-- The reader is gone. -/
  | ended

namespace SequentialStage

/-- The jobs the sender holds. -/
def jobs : SequentialStage → List Nat
  | taking pending => pending.toList
  | awaiting job => [job]
  | draining _ => []
  | checking _ job => [job]
  | sending _ _ pending => pending.toList
  | ended => []

/-- The wires the sender holds that are not handed to `batch_send`. -/
def collected : SequentialStage → List Bytes
  | draining wires => wires
  | checking wires _ => wires
  | sending _ runs _ => (runs.map Prod.fst).flatten
  | _ => []

/-- The transmits of the current `batch_send` that are still to go. -/
def unsent : SequentialStage → List Transmit
  | sending transmits _ _ => transmits
  | _ => []

end SequentialStage

/-- The flush of what was collected; nothing is sent when it is empty. -/
def flushing (wires : List Bytes) (pending : Option Nat) : SequentialStage :=
  .sending [] (groupEqualSized wires) pending

/-- The sender, its order channel, the jobs submitted so far and the socket. -/
structure SequentialSender where
  peer : SocketAddr
  reported : Nat
  gso : Bool
  /-- Every submitted job, in submission order. -/
  replies : List SealReply
  /-- The job the reader is blocked on in `order_tx.send`. -/
  blocked : Option Nat
  order : List Nat
  /-- `order_tx` is dropped. -/
  closed : Bool
  stage : SequentialStage
  /-- What was handed to `batch_send`. -/
  emitted : List Bytes
  /-- What the socket sent. -/
  wire : List Transmit

/-- One atomic step. -/
inductive SequentialEvent where
  /-- The reader dispatches a job. -/
  | submit
  /-- The channel takes the job the reader is blocked on. -/
  | enqueue
  /-- The reader ends. -/
  | close
  /-- A worker replies. -/
  | reply (job : Nat) (result : Result (List Bytes))
  /-- A worker is gone without a reply. -/
  | abandon (job : Nat)
  /-- The peer's address changes. -/
  | roam (peer : SocketAddr)
  /-- The sender goes on; a transmit that it sends leaves. -/
  | advance
  /-- A send fails: the rest of its run is given up. -/
  | sendFails

namespace SequentialSender

/-- A sender without jobs. -/
def start (peer : SocketAddr) (reported : Nat) (gso : Bool) : SequentialSender :=
  { peer, reported, gso, replies := [], blocked := none, order := [], closed := false
    stage := .taking none, emitted := [], wire := [] }

/-- What the sender gets from the reply channel of a job. -/
def tryReply (sender : SequentialSender) (job : Nat) : Option (List Bytes) :=
  sender.replies[job]?.bind SealReply.wires?

/-- A job that is running gets its reply. -/
def settle (sender : SequentialSender) (job : Nat) (reply : SealReply) : Option SequentialSender :=
  match sender.replies[job]? with
  | some .running => some { sender with replies := sender.replies.set job reply }
  | _ => none

/-- The next atomic step of the sender; `none` while it waits. -/
def advance (sender : SequentialSender) : Option SequentialSender :=
  match sender.stage with
  | .taking (some job) => some { sender with stage := .awaiting job }
  | .taking none =>
    match sender.order with
    | job :: rest => some { sender with order := rest, stage := .awaiting job }
    | [] => if sender.closed then some { sender with stage := .ended } else none
  | .awaiting job => (sender.tryReply job).map fun wires => { sender with stage := .draining wires }
  | .draining wires =>
    match sender.order with
    | [] => some { sender with stage := flushing wires none }
    | job :: rest => some { sender with order := rest, stage := .checking wires job }
  | .checking wires job =>
    match sender.tryReply job with
    | some more => some { sender with stage := .draining (wires ++ more) }
    | none => some { sender with stage := flushing wires (some job) }
  | .sending (transmit :: rest) runs pending =>
    some { sender with wire := sender.wire ++ [transmit], stage := .sending rest runs pending }
  | .sending [] ((run, seg) :: rest) pending =>
    some { sender with
      emitted := sender.emitted ++ run
      stage := .sending (batchSend sender.peer sender.reported sender.gso run seg) rest pending }
  | .sending [] [] pending => some { sender with stage := .taking pending }
  | .ended => none

/-- One step; `none` when it is not enabled. -/
def step (sender : SequentialSender) : SequentialEvent → Option SequentialSender
  | .submit =>
    if sender.blocked = none ∧ sender.closed = false then
      some { sender with
        replies := sender.replies ++ [.running]
        blocked := some sender.replies.length }
    else none
  | .enqueue =>
    match sender.blocked with
    | some job =>
      if sender.order.length < sendPipelineBatches then
        some { sender with blocked := none, order := sender.order ++ [job] }
      else none
    | none => none
  | .close => if sender.blocked = none then some { sender with closed := true } else none
  | .reply job result => sender.settle job (.replied result)
  | .abandon job => sender.settle job .abandoned
  | .roam peer => some { sender with peer }
  | .advance => sender.advance
  | .sendFails =>
    match sender.stage with
    | .sending (_ :: _) runs pending => some { sender with stage := .sending [] runs pending }
    | _ => none

/-- The outputs of the submitted jobs, in submission order. -/
def outputs (sender : SequentialSender) : List Bytes := sender.replies.flatMap SealReply.output

/-- The jobs that are not consumed, in the order the sender will come to them. -/
def waiting (sender : SequentialSender) : List Nat :=
  sender.stage.jobs ++ sender.order ++ sender.blocked.toList

/-- **The order invariant**: the sender has consumed the first jobs, all of which have ended; what it
emitted and what it holds are their outputs, and the other jobs wait in submission order. -/
structure Ordered (sender : SequentialSender) : Prop where
  consumed : ∃ count, sender.waiting = List.range' count (sender.replies.length - count) ∧
    count ≤ sender.replies.length ∧
    (∀ reply ∈ sender.replies.take count, reply.wires?.isSome) ∧
    sender.emitted ++ sender.stage.collected = (sender.replies.take count).flatMap SealReply.output
  closing : sender.closed = true → sender.blocked = none
  ending : sender.stage = .ended → sender.closed = true ∧ sender.order = []

variable {sender after : SequentialSender}

theorem ordered_start (peer : SocketAddr) (reported : Nat) (gso : Bool) :
    Ordered (start peer reported gso) where
  consumed := ⟨0, rfl, Nat.le_refl _, by simp, rfl⟩
  closing := by simp [start]
  ending := by simp [start]

/-! ### One step -/

/-- A flush holds the wires it was built from. -/
theorem collected_flushing (wires : List Bytes) (pending : Option Nat) :
    (flushing wires pending).collected = wires := equalRuns_flatten wires

/-- The next job in line is the first one that is not consumed. -/
theorem head_waiting {count length job : Nat} {rest : List Nat}
    (same : job :: rest = List.range' count (length - count)) :
    job = count ∧ count < length ∧ rest = List.range' (count + 1) (length - (count + 1)) := by
  have inside : count < length := by
    by_contra beyond
    rw [Nat.sub_eq_zero_of_le (Nat.le_of_not_lt beyond)] at same
    cases same
  obtain ⟨extra, more⟩ := Nat.exists_eq_add_of_lt inside
  have succ : length - count = extra + 1 := by omega
  rw [succ, List.range'_succ, List.cons.injEq] at same
  refine ⟨same.1, inside, ?_⟩
  rw [same.2]
  congr 1
  omega

/-- **Consuming the next job**: its reply is there, and its wires join the collected ones. -/
theorem Ordered.consume (ordered : Ordered sender) {job : Nat} {rest : List Nat} {more : List Bytes}
    (next : sender.waiting = job :: rest) (there : sender.tryReply job = some more)
    (replies : after.replies = sender.replies) (waiting : after.waiting = rest)
    (emitted : after.emitted ++ after.stage.collected = sender.emitted ++ sender.stage.collected ++ more)
    (closing : after.closed = true → after.blocked = none)
    (ending : after.stage ≠ .ended) : Ordered after := by
  obtain ⟨count, same, -, replied, held⟩ := ordered.consumed
  rw [next] at same
  obtain ⟨rfl, inside, later⟩ := head_waiting same
  have found : sender.replies[job]? = some sender.replies[job] := List.getElem?_eq_getElem inside
  have reply : sender.replies[job].wires? = some more := by
    rw [tryReply, found] at there
    exact there
  refine ⟨⟨job + 1, ?_, ?_, ?_, ?_⟩, closing, fun done => absurd done ending⟩
  · rw [waiting, replies, later]
  · rw [replies]
    exact inside
  · intro earlier present
    rw [replies, List.take_succ_eq_append_getElem inside] at present
    rcases List.mem_append.mp present with before | here
    · exact replied earlier before
    · simp [List.mem_singleton.mp here, reply]
  · have output : sender.replies[job].output = more := by simp [SealReply.output, reply]
    rw [emitted, held, replies, List.take_succ_eq_append_getElem inside, List.flatMap_append,
      List.flatMap_singleton, output]

/-- A step that consumes nothing keeps the order. -/
theorem Ordered.keep (ordered : Ordered sender) (replies : after.replies = sender.replies)
    (waiting : after.waiting = sender.waiting)
    (emitted : after.emitted ++ after.stage.collected = sender.emitted ++ sender.stage.collected)
    (closing : after.closed = true → after.blocked = none)
    (ending : after.stage = .ended → after.closed = true ∧ after.order = []) : Ordered after := by
  obtain ⟨count, same, within, replied, held⟩ := ordered.consumed
  refine ⟨⟨count, ?_, ?_, ?_, ?_⟩, closing, ending⟩
  · rw [waiting, replies, same]
  · rw [replies]
    exact within
  · rw [replies]
    exact replied
  · rw [emitted, replies, held]

/-- **What a step of the sender does**, with what it found. -/
inductive Advance (sender : SequentialSender) : SequentialSender → Prop
  /-- The head of the loop. -/
  | pending {job : Nat} (stage : sender.stage = .taking (some job)) :
      Advance sender { sender with stage := .awaiting job }
  | next {job : Nat} {rest : List Nat} (stage : sender.stage = .taking none) (queued : sender.order = job :: rest) :
      Advance sender { sender with order := rest, stage := .awaiting job }
  | ends (stage : sender.stage = .taking none) (empty : sender.order = []) (closed : sender.closed = true) :
      Advance sender { sender with stage := .ended }
  /-- The awaited reply. -/
  | replied {job : Nat} {wires : List Bytes} (stage : sender.stage = .awaiting job)
      (there : sender.tryReply job = some wires) : Advance sender { sender with stage := .draining wires }
  /-- The `try_recv` loop. -/
  | drained {wires : List Bytes} (stage : sender.stage = .draining wires) (empty : sender.order = []) :
      Advance sender { sender with stage := flushing wires none }
  | takes {wires : List Bytes} {job : Nat} {rest : List Nat} (stage : sender.stage = .draining wires)
      (queued : sender.order = job :: rest) :
      Advance sender { sender with order := rest, stage := .checking wires job }
  | collects {wires more : List Bytes} {job : Nat} (stage : sender.stage = .checking wires job)
      (there : sender.tryReply job = some more) : Advance sender { sender with stage := .draining (wires ++ more) }
  | unfinished {wires : List Bytes} {job : Nat} (stage : sender.stage = .checking wires job)
      (there : sender.tryReply job = none) : Advance sender { sender with stage := flushing wires (some job) }
  /-- The flush. -/
  | sends {transmit : Transmit} {rest : List Transmit} {runs : List (List Bytes × Nat)} {pending : Option Nat}
      (stage : sender.stage = .sending (transmit :: rest) runs pending) :
      Advance sender { sender with wire := sender.wire ++ [transmit], stage := .sending rest runs pending }
  | batches {run : List Bytes} {seg : Nat} {rest : List (List Bytes × Nat)} {pending : Option Nat}
      (stage : sender.stage = .sending [] ((run, seg) :: rest) pending) :
      Advance sender { sender with
        emitted := sender.emitted ++ run
        stage := .sending (batchSend sender.peer sender.reported sender.gso run seg) rest pending }
  | flushed {pending : Option Nat} (stage : sender.stage = .sending [] [] pending) :
      Advance sender { sender with stage := .taking pending }

/-- **The cases of a step of the sender.** -/
theorem advance_cases (taken : sender.advance = some after) : Advance sender after := by
  unfold SequentialSender.advance at taken
  split at taken
  · rename_i job stage
    cases taken
    exact .pending stage
  · rename_i stage
    split at taken
    · rename_i job rest queued
      cases taken
      exact .next stage queued
    · rename_i empty
      split at taken
      · rename_i closed
        cases taken
        exact .ends stage empty closed
      · cases taken
  · rename_i job stage
    obtain ⟨wires, there, rfl⟩ := Option.map_eq_some_iff.mp taken
    exact .replied stage there
  · rename_i wires stage
    split at taken
    · rename_i empty
      cases taken
      exact .drained stage empty
    · rename_i job rest queued
      cases taken
      exact .takes stage queued
  · rename_i wires job stage
    split at taken
    · rename_i more there
      cases taken
      exact .collects stage there
    · rename_i there
      cases taken
      exact .unfinished stage there
  · rename_i transmit rest runs pending stage
    cases taken
    exact .sends stage
  · rename_i run seg rest pending stage
    cases taken
    exact .batches stage
  · rename_i pending stage
    cases taken
    exact .flushed stage
  · cases taken

/-- **One step of the sender keeps the order.** -/
theorem Ordered.advance (ordered : Ordered sender) (taken : sender.advance = some after) : Ordered after := by
  have closing := ordered.closing
  cases advance_cases taken with
  | pending stage | sends stage | batches stage | flushed stage =>
    exact ordered.keep rfl (by simp [waiting, stage, SequentialStage.jobs])
      (by simp [stage, SequentialStage.collected]) closing nofun
  | next stage queued | takes stage queued =>
    exact ordered.keep rfl (by simp [waiting, stage, queued, SequentialStage.jobs])
      (by simp [stage, SequentialStage.collected]) closing nofun
  | ends stage empty closed =>
    exact ordered.keep rfl (by simp [waiting, stage, SequentialStage.jobs])
      (by simp [stage, SequentialStage.collected]) closing fun _ => ⟨closed, empty⟩
  | @replied job wires stage there | @collects _ wires job stage there =>
    have next : sender.waiting = job :: (sender.order ++ sender.blocked.toList) := by
      simp [waiting, stage, SequentialStage.jobs]
    exact ordered.consume next there rfl rfl (by simp [stage, SequentialStage.collected]) closing nofun
  | drained stage _ | unfinished stage _ =>
    exact ordered.keep rfl (by simp [waiting, stage, flushing, SequentialStage.jobs])
      (by rw [collected_flushing, stage]; rfl) closing nofun

/-- A reply goes to a job that is running. -/
theorem settle_eq {job : Nat} {reply : SealReply} (taken : sender.settle job reply = some after) :
    sender.replies[job]? = some .running ∧ after = { sender with replies := sender.replies.set job reply } := by
  unfold settle at taken
  split at taken
  · rename_i running
    exact ⟨running, (Option.some.inj taken).symm⟩
  · cases taken

/-- **A reply changes no consumed job.** -/
theorem Ordered.settle (ordered : Ordered sender) {job : Nat} {reply : SealReply}
    (taken : sender.settle job reply = some after) : Ordered after := by
  obtain ⟨running, rfl⟩ := settle_eq taken
  obtain ⟨count, same, within, replied, held⟩ := ordered.consumed
  have later : count ≤ job := by
    by_contra earlier
    have present : SealReply.running ∈ sender.replies.take count :=
      List.mem_of_getElem? (i := job) (by rw [List.getElem?_take_of_lt (Nat.lt_of_not_le earlier), running])
    cases replied .running present
  have kept : (sender.replies.set job reply).take count = sender.replies.take count :=
    List.take_set_of_le later
  refine ⟨⟨count, ?_, ?_, ?_, ?_⟩, ordered.closing, ordered.ending⟩
  · simpa [waiting] using same
  · simpa using within
  · rw [kept]
    exact replied
  · rw [kept]
    exact held

/-- **One step keeps the order.** -/
theorem ordered_step {event : SequentialEvent} (ordered : Ordered sender)
    (taken : sender.step event = some after) : Ordered after := by
  have closing := ordered.closing
  cases event with
  | submit =>
    obtain ⟨count, same, within, replied, held⟩ := ordered.consumed
    simp only [step] at taken
    split at taken
    · rename_i free
      cases taken
      have kept : (sender.replies ++ [SealReply.running]).take count = sender.replies.take count :=
        List.take_append_of_le_length within
      refine ⟨⟨count, ?_, ?_, ?_, ?_⟩, by simp [free.2], fun done => ?_⟩
      · have front : sender.stage.jobs ++ sender.order = List.range' count (sender.replies.length - count) := by
          simpa [waiting, free.1] using same
        have grown : (sender.replies ++ [SealReply.running]).length - count =
            sender.replies.length - count + 1 := by
          rw [List.length_append, List.length_singleton]
          omega
        rw [waiting, grown, List.range'_concat, front]
        simp
        omega
      · rw [List.length_append]
        omega
      · rw [kept]
        exact replied
      · rw [kept]
        exact held
      · simp [(ordered.ending done).1] at free
    · cases taken
  | enqueue =>
    simp only [step] at taken
    split at taken
    · rename_i job waits
      split at taken
      · cases taken
        refine ordered.keep rfl (by simp [waiting, waits]) rfl (fun _ => rfl) fun done => ?_
        have := closing (ordered.ending done).1
        simp [waits] at this
      · cases taken
    · cases taken
  | close =>
    simp only [step] at taken
    split at taken
    · rename_i free
      cases taken
      exact ordered.keep rfl rfl rfl (fun _ => free) fun done => ⟨rfl, (ordered.ending done).2⟩
    · cases taken
  | reply job result => exact ordered.settle taken
  | abandon job => exact ordered.settle taken
  | roam peer =>
    cases taken
    exact ordered.keep rfl rfl rfl closing ordered.ending
  | advance => exact ordered.advance taken
  | sendFails =>
    simp only [step] at taken
    split at taken
    · rename_i transmit rest runs pending stage
      cases taken
      exact ordered.keep rfl (by simp [waiting, stage, SequentialStage.jobs])
        (by simp [stage, SequentialStage.collected]) closing nofun
    · cases taken

/-- **Every run keeps the order.** -/
theorem ordered_run {events : List SequentialEvent} {first last : SequentialSender}
    (run : Run (Taken step) first events last) (ordered : Ordered first) : Ordered last :=
  run.invariant _ (fun _ _ _ kept taken => ordered_step kept taken) ordered

/-! ### Where the sender stops -/

/-- The steps of the sender, and of the channel it frees. -/
def Onward : SequentialEvent → Prop
  | .enqueue | .advance => True
  | _ => False

/-- Every job has ended. -/
def AllEnded (sender : SequentialSender) : Prop := ∀ reply ∈ sender.replies, reply.wires?.isSome

/-- The outputs of ended jobs are all consumed once nothing waits. -/
theorem Ordered.complete (ordered : Ordered sender) (empty : sender.waiting = []) :
    sender.emitted ++ sender.stage.collected = sender.outputs := by
  obtain ⟨count, same, within, -, held⟩ := ordered.consumed
  rw [empty, eq_comm, List.range'_eq_nil_iff] at same
  rw [held, List.take_of_length_le (by omega), outputs]

/-- **Where the sender stops, nothing waits**: it is at the head of its loop or has ended. -/
theorem Ordered.settled (ordered : Ordered sender) (ended : sender.AllEnded)
    (still : ∀ event, Onward event → sender.step event = none) :
    sender.emitted = sender.outputs ∧ sender.stage.unsent = [] := by
  have stopped : sender.advance = none := still .advance trivial
  have free (room : sender.order = []) : sender.blocked = none := by
    have stuck := still .enqueue trivial
    cases blocked : sender.blocked with
    | none => rfl
    | some job => simp [step, blocked, room, sendPipelineBatches] at stuck
  have idle (stage : sender.stage.jobs = [] ∧ sender.stage.collected = []) (room : sender.order = []) :
      sender.emitted = sender.outputs := by
    have complete := ordered.complete (by rw [waiting, stage.1, room, free room]; rfl)
    rwa [stage.2, List.append_nil] at complete
  cases stage : sender.stage with
  | taking pending =>
    cases pending with
    | some job => simp [SequentialSender.advance, stage] at stopped
    | none =>
      cases room : sender.order with
      | nil => exact ⟨idle (by rw [stage]; exact ⟨rfl, rfl⟩) room, rfl⟩
      | cons job rest => simp [SequentialSender.advance, stage, room] at stopped
  | awaiting job =>
    -- The awaited job was submitted, so it has ended.
    obtain ⟨count, same, -⟩ := ordered.consumed
    have next : sender.waiting = job :: (sender.order ++ sender.blocked.toList) := by
      simp [waiting, stage, SequentialStage.jobs]
    obtain ⟨rfl, inside, -⟩ := head_waiting (next.symm.trans same)
    have there := ended _ (List.getElem_mem inside)
    obtain ⟨wires, replied⟩ := Option.isSome_iff_exists.mp there
    simp [SequentialSender.advance, stage, tryReply, List.getElem?_eq_getElem inside, replied] at stopped
  | draining wires =>
    cases room : sender.order <;> simp [SequentialSender.advance, stage, room] at stopped
  | checking wires job =>
    cases there : sender.tryReply job <;> simp [SequentialSender.advance, stage, there] at stopped
  | sending transmits runs pending =>
    match transmits, runs with
    | _ :: _, _ => simp [SequentialSender.advance, stage] at stopped
    | [], _ :: _ => simp [SequentialSender.advance, stage] at stopped
    | [], [] => simp [SequentialSender.advance, stage] at stopped
  | ended => exact ⟨idle (by rw [stage]; exact ⟨rfl, rfl⟩) (ordered.ending stage).2, rfl⟩

/-! ### How long it goes on -/

/-- Nonempty lists are at most as many as their items. -/
theorem length_le_length_flatten {Item : Type} {lists : List (List Item)} (filled : ∀ list ∈ lists, list ≠ []) :
    lists.length ≤ lists.flatten.length := by
  induction lists with
  | nil => exact Nat.le_refl _
  | cons list rest ih =>
    have positive := List.length_pos_of_ne_nil (filled list List.mem_cons_self)
    have shorter := ih fun other present => filled other (List.mem_cons_of_mem _ present)
    simp only [List.length_cons, List.flatten_cons, List.length_append]
    omega

/-- The steps that flushing some runs takes, at most. -/
def runsWork (runs : List (List Bytes × Nat)) : Nat := runs.length + (runs.map Prod.fst).flatten.length

/-- A batch has at most as many runs as datagrams. -/
theorem runsWork_groupEqualSized (wires : List Bytes) :
    runsWork (groupEqualSized wires) ≤ 2 * wires.length := by
  have filled : ∀ run ∈ (groupEqualSized wires).map Prod.fst, run ≠ [] := by
    intro run present
    obtain ⟨entry, among, rfl⟩ := List.mem_map.mp present
    exact (of_mem_equalRunsFrom among).1
  have count := length_le_length_flatten filled
  have same : ((groupEqualSized wires).map Prod.fst).flatten = wires := equalRuns_flatten wires
  rw [List.length_map, same] at count
  rw [runsWork, same]
  omega

/-- A run has at most as many transmits as datagrams. -/
theorem length_batchSend_le (peer : SocketAddr) (reported : Nat) (gso : Bool) (run : List Bytes) (seg : Nat) :
    (batchSend peer reported gso run seg).length ≤ run.length := by
  have positive := maxSegments_pos reported gso
  have nonempty : ∀ group ∈ chunks (maxSegments reported gso) run, group ≠ [] :=
    fun group present => ne_nil_of_mem_chunksFrom positive present
  have count := length_le_length_flatten nonempty
  rwa [chunks_flatten positive, ← List.length_map (f := batchTransmit peer seg)] at count

/-- The steps a job takes from the reply on. -/
def replyWork (sender : SequentialSender) (job : Nat) : Nat := 2 * ((sender.tryReply job).getD []).length

/-- The steps a job takes that the sender has popped before its reply was there. -/
def pendingWork (sender : SequentialSender) (pending : Option Nat) : Nat :=
  (pending.toList.map fun job => sender.replyWork job + 5).sum

/-- The steps the sender takes from a stage on with what it holds. -/
def stageWork (sender : SequentialSender) : SequentialStage → Nat
  | .taking pending => sender.pendingWork pending + 1
  | .awaiting job => sender.replyWork job + 4
  | .draining wires => 2 * wires.length + 3
  | .checking wires job => 2 * wires.length + sender.replyWork job + 8
  | .sending transmits runs pending => transmits.length + runsWork runs + sender.pendingWork pending + 2
  | .ended => 0

/-- The steps the sender takes while no job is submitted and none ends, at most. -/
def work (sender : SequentialSender) : Nat :=
  sender.stageWork sender.stage + (sender.order.map fun job => sender.replyWork job + 6).sum +
    (sender.blocked.toList.map fun job => sender.replyWork job + 7).sum

/-- **Every step of the sender makes its work smaller.** -/
theorem work_advance (taken : sender.advance = some after) : after.work < sender.work := by
  cases advance_cases taken with
  | pending stage | ends stage _ _ | sends stage =>
    simp [work, stage, stageWork, pendingWork, replyWork, tryReply]
  | next stage queued | takes stage queued =>
    simp [work, stage, queued, stageWork, pendingWork, replyWork, tryReply]
    omega
  | replied stage there =>
    rw [tryReply] at there
    simp [work, stage, there, stageWork, replyWork, tryReply]
  | @drained wires stage empty =>
    have runs := runsWork_groupEqualSized wires
    simp [work, stage, flushing, stageWork, pendingWork, replyWork, tryReply]
    omega
  | collects stage there =>
    rw [tryReply] at there
    simp [work, stage, there, stageWork, replyWork, tryReply]
    omega
  | @unfinished wires job stage there =>
    have runs := runsWork_groupEqualSized wires
    rw [tryReply] at there
    simp [work, stage, there, flushing, stageWork, pendingWork, replyWork, tryReply]
    omega
  | @batches run seg rest pending stage =>
    have count := length_batchSend_le sender.peer sender.reported sender.gso run seg
    simp [work, stage, stageWork, runsWork, pendingWork, replyWork, tryReply]
    omega
  | flushed stage => simp [work, stage, stageWork, runsWork, pendingWork, replyWork, tryReply]

/-- The work of a stage depends on the replies alone. -/
theorem stageWork_congr (replies : after.replies = sender.replies) : after.stageWork = sender.stageWork := by
  funext stage
  cases stage <;> simp [stageWork, pendingWork, replyWork, tryReply, replies]

theorem work_onward {event : SequentialEvent} (onward : Onward event) (taken : sender.step event = some after) :
    after.work < sender.work := by
  cases event with
  | advance => exact work_advance taken
  | enqueue =>
    simp only [step] at taken
    split at taken
    · rename_i job waits
      split at taken
      · cases taken
        have same : ({ sender with blocked := none, order := sender.order ++ [job] } : SequentialSender).stageWork =
            sender.stageWork := stageWork_congr rfl
        rw [work, same, work, waits]
        simp [replyWork, tryReply]
        omega
      · cases taken
    · cases taken
  | _ => cases onward

/-- **The sender comes to a stop** when no job is submitted and none ends. -/
theorem onward_bounded {events : List SequentialEvent}
    (run : Run (Guarded (fun _ event => Onward event) (Taken step)) sender events after) :
    events.length ≤ sender.work :=
  run.length_le work fun _ _ _ taken => work_onward taken.1 taken.2

/-! ### On the wire -/

/-- No send fails, and no sealed datagram is empty. -/
def Delivered : SequentialEvent → Prop
  | .reply _ (.ok wires) => ∀ datagram ∈ wires, datagram ≠ []
  | .sendFails => False
  | _ => True

/-- **The wire carries what was handed to `batch_send`**, up to the transmits that are still to go. -/
structure OnWire (sender : SequentialSender) : Prop where
  filled : ∀ reply ∈ sender.replies, ∀ datagram ∈ reply.output, datagram ≠ []
  sized : ∀ transmits runs pending, sender.stage = .sending transmits runs pending →
    ∀ run ∈ runs, ∀ datagram ∈ run.1, datagram.length = run.2
  carried : sender.wire.flatMap Transmit.segments ++ sender.stage.unsent.flatMap Transmit.segments =
    sender.emitted

theorem onWire_start (peer : SocketAddr) (reported : Nat) (gso : Bool) :
    OnWire (start peer reported gso) where
  filled := by simp [start]
  sized := by simp [start]
  carried := rfl

/-- What the sender holds is the output of some job. -/
theorem OnWire.collected_filled (onWire : OnWire sender) (ordered : Ordered sender) :
    ∀ datagram ∈ sender.stage.collected, datagram ≠ [] := by
  obtain ⟨count, -, -, -, held⟩ := ordered.consumed
  intro datagram present
  have among : datagram ∈ (sender.replies.take count).flatMap SealReply.output := by
    rw [← held]
    exact List.mem_append_right _ present
  obtain ⟨reply, submitted, output⟩ := List.mem_flatMap.mp among
  exact onWire.filled reply (List.mem_of_mem_take submitted) datagram output

/-- A step that sends nothing keeps the wire. -/
theorem OnWire.keep (onWire : OnWire sender) (replies : after.replies = sender.replies)
    (wire : after.wire = sender.wire) (emitted : after.emitted = sender.emitted)
    (unsent : after.stage.unsent = sender.stage.unsent)
    (sized : ∀ transmits runs pending, after.stage = .sending transmits runs pending →
      ∀ run ∈ runs, ∀ datagram ∈ run.1, datagram.length = run.2) : OnWire after where
  filled := replies ▸ onWire.filled
  sized := sized
  carried := by
    rw [wire, unsent, emitted]
    exact onWire.carried

/-- A flush has runs of one size. -/
theorem sized_flushing {wires : List Bytes} {pending : Option Nat} :
    ∀ transmits runs other, flushing wires pending = .sending transmits runs other →
      ∀ run ∈ runs, ∀ datagram ∈ run.1, datagram.length = run.2 := by
  intro transmits runs other same run present
  cases same
  exact (of_mem_equalRunsFrom present).2

/-- **One step of the sender keeps the wire.** -/
theorem OnWire.advance (onWire : OnWire sender) (ordered : Ordered sender)
    (taken : sender.advance = some after) : OnWire after := by
  have nonempty := onWire.collected_filled ordered
  have carried := onWire.carried
  cases advance_cases taken with
  | pending stage | next stage _ | ends stage _ _ | replied stage _ | takes stage _ | collects stage _
  | flushed stage => exact onWire.keep rfl rfl rfl (by rw [stage]; rfl) nofun
  | drained stage _ | unfinished stage _ => exact onWire.keep rfl rfl rfl (by rw [stage]; rfl) sized_flushing
  | sends stage =>
    refine ⟨onWire.filled, fun transmits others other same => ?_, ?_⟩
    · cases same
      exact onWire.sized _ _ _ stage
    · simpa [stage, SequentialStage.unsent] using carried
  -- A run is handed to `batch_send`: its transmits are its datagrams.
  | @batches run seg rest pending stage =>
    have sized := onWire.sized _ _ _ stage
    refine ⟨onWire.filled, fun transmits others other same => ?_, ?_⟩
    · cases same
      exact fun other present => sized other (List.mem_cons_of_mem _ present)
    · have segments : (batchSend sender.peer sender.reported sender.gso run seg).flatMap Transmit.segments =
          run := by
        cases run with
        | nil => rfl
        | cons datagram others =>
          have size := sized (datagram :: others, seg) List.mem_cons_self
          have filled : datagram ≠ [] := nonempty datagram (by simp [stage, SequentialStage.collected])
          have same : datagram.length = seg := size datagram List.mem_cons_self
          have positive : 0 < seg := same ▸ List.length_pos_of_ne_nil filled
          exact segments_batchSend positive size
      simp only [stage, SequentialStage.unsent, List.flatMap_nil, List.append_nil] at carried ⊢
      rw [segments, carried]

/-- A reply keeps the wire. -/
theorem OnWire.settle (onWire : OnWire sender) {job : Nat} {reply : SealReply}
    (filled : ∀ datagram ∈ reply.output, datagram ≠ []) (taken : sender.settle job reply = some after) :
    OnWire after := by
  obtain ⟨-, rfl⟩ := settle_eq taken
  refine ⟨fun other present => ?_, onWire.sized, onWire.carried⟩
  rcases List.mem_or_eq_of_mem_set present with old | rfl
  · exact onWire.filled other old
  · exact filled

/-- **One delivered step keeps the wire.** -/
theorem onWire_step {event : SequentialEvent} (delivered : Delivered event) (ordered : Ordered sender)
    (onWire : OnWire sender) (taken : sender.step event = some after) : OnWire after := by
  cases event with
  | submit =>
    simp only [step] at taken
    split at taken
    · cases taken
      refine ⟨fun reply present => ?_, onWire.sized, onWire.carried⟩
      rcases List.mem_append.mp present with old | new
      · exact onWire.filled reply old
      · simp [List.mem_singleton.mp new, SealReply.output, SealReply.wires?]
    · cases taken
  | enqueue =>
    simp only [step] at taken
    split at taken
    · split at taken
      · cases taken
        exact ⟨onWire.filled, onWire.sized, onWire.carried⟩
      · cases taken
    · cases taken
  | close =>
    simp only [step] at taken
    split at taken
    · cases taken
      exact ⟨onWire.filled, onWire.sized, onWire.carried⟩
    · cases taken
  | reply job result =>
    refine onWire.settle ?_ taken
    cases result with
    | error _ => simp [SealReply.output, SealReply.wires?]
    | ok wires => exact delivered
  | abandon job => exact onWire.settle (by simp [SealReply.output, SealReply.wires?]) taken
  | roam peer =>
    cases taken
    exact ⟨onWire.filled, onWire.sized, onWire.carried⟩
  | advance => exact onWire.advance ordered taken
  | sendFails => exact delivered.elim

/-- **The sequential sender keeps submission order.** In every run, whatever the order in which the jobs end
and the sender drains: what it handed to `batch_send` is an initial part of the outputs of the jobs that
succeeded, in submission order; it is all of them once every job has ended and the sender waits, which it
comes to within `work` steps; and when no send fails, the wire carries the same. -/
theorem sequential_order {peer : SocketAddr} {reported : Nat} {gso : Bool} {events : List SequentialEvent}
    {last : SequentialSender} (run : Run (Taken step) (start peer reported gso) events last) :
    last.emitted <+: last.outputs ∧
    (last.AllEnded → (∀ event, Onward event → last.step event = none) → last.emitted = last.outputs) ∧
    (∀ more final, Run (Guarded (fun _ event => Onward event) (Taken step)) last more final →
      more.length ≤ last.work) ∧
    ((∀ event ∈ events, Delivered event) →
      last.wire.flatMap Transmit.segments <+: last.outputs ∧
      (last.AllEnded → (∀ event, Onward event → last.step event = none) →
        last.wire.flatMap Transmit.segments = last.outputs)) := by
  have ordered := ordered_run run (ordered_start peer reported gso)
  have front : last.emitted <+: last.outputs := by
    obtain ⟨count, -, -, -, held⟩ := ordered.consumed
    have consumed : (last.replies.take count).flatMap SealReply.output <+: last.outputs :=
      (List.take_prefix count last.replies).flatMap SealReply.output
    exact (List.prefix_append _ _).trans (held ▸ consumed)
  refine ⟨front, fun ended still => (ordered.settled ended still).1, fun _ _ => onward_bounded,
    fun delivered => ?_⟩
  have onWire : Ordered last ∧ OnWire last :=
    (run.guarded delivered).invariant (fun sender => Ordered sender ∧ OnWire sender)
      (fun _ _ _ kept taken => ⟨ordered_step kept.1 taken.2, onWire_step taken.1 kept.1 kept.2 taken.2⟩)
      ⟨ordered_start peer reported gso, onWire_start peer reported gso⟩
  have carried := onWire.2.carried
  refine ⟨(List.prefix_append _ _).trans (carried ▸ front), fun ended still => ?_⟩
  obtain ⟨all, nothing⟩ := ordered.settled ended still
  rw [nothing, List.flatMap_nil, List.append_nil] at carried
  rw [carried, all]

end SequentialSender

/-- Four jobs that end out of order, one of them failed and one abandoned. -/
def sampleSealing : List SequentialEvent :=
  [.submit, .enqueue, .submit, .enqueue, .submit, .enqueue, .submit, .enqueue,
    .advance, .reply 3 (.ok [[7, 8]]), .abandon 2, .reply 0 (.ok [[1, 2], [3, 4]]), .advance, .advance, .advance,
    .reply 1 (.error .io)]

/-- The sender after the sample: the second job was not there when it looked. -/
def sampleSealed : Option SequentialSender :=
  execute SequentialSender.step (.start ⟨[127, 0, 0, 1], 9⟩ 2 true)
    (sampleSealing ++ List.replicate 13 .advance)

theorem sampleSealed_isSome : sampleSealed.isSome = true := by decide +kernel

theorem sequential_order_sample :
    (sampleSealed.get sampleSealed_isSome).emitted <+: (sampleSealed.get sampleSealed_isSome).outputs ∧
      (sampleSealed.get sampleSealed_isSome).emitted = [[1, 2], [3, 4], [7, 8]] := by
  refine ⟨?_, by decide +kernel⟩
  exact (SequentialSender.sequential_order
    (run_of_execute (Option.some_get sampleSealed_isSome).symm)).1

end ChameleonPQ
