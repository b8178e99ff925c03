/-
**The decrypt jobs of the inbound loop (`tunnel_loops.rs`, `engine.rs`, `udp.rs`).**

Each receive call becomes one job on the rayon pool; a semaphore with one permit a thread bounds the
jobs in flight, and within a job the threads decrypt the datagrams in parallel. The loop takes the
results of the jobs as they end. All calls of `decrypt` share one session (`Workers`).

* `DecryptJobs.step` — one event: a receive call that gets its permit, an atomic step of one call of
  `decrypt`, the end of a job, and its results reaching the loop.
* `Flowing`, `flowing_step` — while the window accepts every counter in flight, every call is on track
  and each datagram is in exactly one place.
* `InTurn` — with one thread the datagrams are decrypted in the order they came in.
* `overtaken` — with two threads a job may stand still while others go by.
* `jobs_drop_nothing` — nothing is dropped in any run, exactly with one thread or a sequence that
  spans fewer than `2048` counters.
-/

import ChameleonPQ.Library.Chunks
import ChameleonPQ.Library.Runs
import ChameleonPQ.Session.ConcurrentDecrypt
import ChameleonPQ.Session.Engine

namespace ChameleonPQ

open Library Library.Runs

/-! ### Receiving and opening datagrams -/

/-- `RECV_BATCH`. -/
def recvBatch : Nat := 32

/-- `RECV_BUF`. -/
def recvBuf : Nat := 64 * 1024

/-- One received message: one datagram, or a coalesced run of them, `stride` octets each. -/
structure RecvMessage where
  stride : Nat
  bytes : Bytes

/-- What one call of `batch_recv` returns. -/
structure ReceiveCall where
  messages : List RecvMessage
  bounded : messages.length ≤ recvBatch
  fits : ∀ message ∈ messages, message.bytes.length ≤ recvBuf

/-- `iter_datagrams`, less the source addresses. -/
def ReceiveCall.iterDatagrams (call : ReceiveCall) : List Bytes :=
  call.messages.flatMap fun message =>
    let stride := if message.stride = 0 then message.bytes.length else message.stride
    chunks (max stride 1) message.bytes

namespace Session

variable (prims : Primitives)

/-- The counter and the ciphertext that `try_open_obf` hands to `decrypt`; `none` when the datagram is
not addressed to the session. -/
def addressed (session : Session) (datagram : Bytes) : Option (Nat × Bytes) :=
  match Obf.unmask prims session.rxObfKey datagram with
  | none => none
  | some header =>
    if header.sessionId ≠ session.sessionId then none
    else some (header.counter, Obf.ctSlice datagram)

/-- What `try_open_obf` makes of the result of `decrypt`. -/
def interpret : Result Bytes → Result (Option (FrameType × Bytes))
  | .error _ => .ok none
  | .ok framed =>
    match Obf.unpackInner framed with
    | .error e => .error e
    | .ok (innerType, plaintext) =>
      match FrameType.fromU8 innerType with
      | .error e => .error e
      | .ok frameType => .ok (some (frameType, plaintext))

/-- **`try_open_obf` is a call of `decrypt`** on what is addressed to the session. -/
theorem tryOpenObf_eq (session : Session) (datagram : Bytes) :
    session.tryOpenObf prims datagram =
      match session.addressed prims datagram with
      | none => (.ok none, session)
      | some (counter, ciphertext) =>
        (interpret (session.decrypt prims counter ciphertext).1,
          (session.decrypt prims counter ciphertext).2) := by
  simp only [tryOpenObf, addressed]
  cases Obf.unmask prims session.rxObfKey datagram with
  | none => rfl
  | some header =>
    by_cases other : header.sessionId ≠ session.sessionId
    · simp only [if_pos other]
    · simp only [if_neg other]
      cases decrypted : session.decrypt prims header.counter (Obf.ctSlice datagram) with
      | mk result after =>
        cases result with
        | error e => rfl
        | ok framed =>
          cases unpacked : Obf.unpackInner framed with
          | error e => simp only [interpret, unpacked]
          | ok inner =>
            obtain ⟨innerType, plaintext⟩ := inner
            cases known : FrameType.fromU8 innerType <;> simp only [interpret, unpacked, known]

/-- A ciphertext that authenticates and frames the content. -/
def Frames (session : Session) (trial : Nat × Bytes) (content : FrameType × Bytes) : Prop :=
  ∃ framed, session.openCiphertext prims trial.1 trial.2 = .ok framed ∧
    interpret (.ok framed) = .ok (some content)

/-- An authentic datagram of the session that carries the content. -/
def Carries (session : Session) (datagram : Bytes) (content : FrameType × Bytes) : Prop :=
  ∃ trial, session.addressed prims datagram = some trial ∧ session.Frames prims trial content

variable {prims}

/-- **What the peer seals is addressed to the session and carries its content.** -/
theorem addressed_sealed {sealer opener : Session} (correct : prims.AeadCorrect)
    (opens : Opens sealer opener) {counter : Nat} (small : counter < 2 ^ 64) {frameType : FrameType}
    {plaintext : Bytes} (short : plaintext.length ≤ 65535) {policy : Obf.PadPolicy}
    {noise : Nat → UInt8} {datagram : Bytes}
    (success : sealer.sealObfCore prims counter frameType.asU8 plaintext policy noise =
      .ok datagram) :
    ∃ ct, opener.addressed prims datagram = some (counter, ct) ∧
      opener.Frames prims (counter, ct) (frameType, plaintext) := by
  obtain ⟨ct, sealed_, rfl⟩ := sealObfCore_ok success
  refine ⟨ct, ?_, _, opens.openCiphertext correct sealed_, ?_⟩
  · rw [addressed, unmask_sealed correct opens small sealed_]
    simp only [Obf.ctSlice_sealWire]
    exact if_neg (not_not.mpr opens.sessionId.symm)
  · simp only [interpret, Obf.unpackInner_packInner _ _ _ _ short, FrameType.fromU8_asU8]

end Session

/-- What the inbound loop gets from a call of `decrypt`. -/
def DecryptTask.content (task : DecryptTask) : Option (FrameType × Bytes) :=
  match task.phase with
  | .done result =>
    match Session.interpret result with
    | .ok (some content) => some content
    | _ => none
  | _ => none

/-- The call at position `i` has returned. -/
def Workers.returned (workers : Workers) (i : Nat) : Bool :=
  match workers.tasks[i]? with
  | some ⟨_, _, .done _⟩ | none => true
  | some _ => false

/-- What came out at position `i`, with the position. -/
def Workers.outcome (workers : Workers) (i : Nat) : Option ((FrameType × Bytes) × Nat) :=
  (workers.tasks[i]?.bind DecryptTask.content).map (·, i)

/-! ### The jobs -/

/-- The inbound loop with its decrypt jobs; a job is the positions of its datagrams in the sequence. -/
structure DecryptJobs where
  workers : Workers
  /-- The receive calls to come. -/
  arriving : List (List Nat)
  /-- The jobs that hold a permit. -/
  inFlight : List (List Nat)
  /-- The jobs whose results wait for the loop. -/
  ended : List (List Nat)
  /-- What the loop took out of the results. -/
  delivered : List ((FrameType × Bytes) × Nat)
  running : Bool

/-- One event. -/
inductive JobEvent where
  /-- A receive call returns, and its job gets a permit. -/
  | receive
  /-- A thread takes the next atomic step of the call at position `i`. -/
  | advance (i : Nat)
  /-- A job in flight has all its results and releases the permit. -/
  | finish (k : Nat)
  /-- `join_next` returns an ended job. -/
  | join (k : Nat)

namespace DecryptJobs

/-- The positions of the datagrams of each receive call. -/
def positions : Nat → List (List (Nat × Bytes)) → List (List Nat)
  | _, [] => []
  | first, call :: calls => List.range' first call.length :: positions (first + call.length) calls

/-- The loop takes the results of a job in order, up to a Close. -/
def take : List ((FrameType × Bytes) × Nat) → List ((FrameType × Bytes) × Nat) × Bool
  | [] => ([], true)
  | result :: results =>
    if result.1.1 = .close then ([result], false)
    else (result :: (take results).1, (take results).2)

section Definitions

variable (prims : Primitives) (threads : Nat)

/-- What a session can open of each receive call. -/
def trials (session : Session) (calls : List ReceiveCall) : List (List (Nat × Bytes)) :=
  calls.map fun call => call.iterDatagrams.filterMap (session.addressed prims)

/-- The loop before the first receive call. -/
def begin (session : Session) (history : List Nat) (calls : List ReceiveCall) : DecryptJobs where
  workers := .begin session history (trials prims session calls).flatten
  arriving := positions 0 (trials prims session calls)
  inFlight := []
  ended := []
  delivered := []
  running := true

/-- A thread may work on the call at position `i`: the job is in flight, the call has not returned,
and a single thread takes the datagrams of a job in order. -/
def MayAdvance (jobs : DecryptJobs) (i : Nat) : Prop :=
  jobs.workers.returned i = false ∧ ∃ job ∈ jobs.inFlight, i ∈ job ∧
    (threads = 1 → ∀ earlier ∈ job, earlier < i → jobs.workers.returned earlier = true)

instance (jobs : DecryptJobs) (i : Nat) : Decidable (jobs.MayAdvance threads i) :=
  inferInstanceAs (Decidable (_ ∧ _))

/-- One event; `none` when it cannot happen. -/
def step (jobs : DecryptJobs) (event : JobEvent) : Option DecryptJobs :=
  if jobs.running = false then none
  else
    match event with
    | .receive =>
      match jobs.arriving with
      | [] => none
      | job :: arriving =>
        if jobs.inFlight.length < threads then
          some { jobs with arriving, inFlight := jobs.inFlight ++ [job] }
        else none
    | .advance i =>
      if jobs.MayAdvance threads i then some { jobs with workers := jobs.workers.step prims i }
      else none
    | .finish k =>
      match jobs.inFlight[k]? with
      | none => none
      | some job =>
        if ∀ i ∈ job, jobs.workers.returned i = true then
          some { jobs with inFlight := jobs.inFlight.eraseIdx k, ended := jobs.ended ++ [job] }
        else none
    | .join k =>
      match jobs.ended[k]? with
      | none => none
      | some job =>
        let taken := take (job.filterMap jobs.workers.outcome)
        some { jobs with
          ended := jobs.ended.eraseIdx k
          delivered := jobs.delivered ++ taken.1
          running := taken.2 }

/-- In every run no call is rejected, and when nothing is left to do every datagram was delivered
exactly once. -/
def DropsNothing (session : Session) (history : List Nat) (calls : List ReceiveCall)
    (contents : List (FrameType × Bytes)) : Prop :=
  ∀ events jobs, Run (Taken (step prims threads)) (begin prims session history calls) events jobs →
    (∀ task ∈ jobs.workers.tasks, ∀ e, task.phase ≠ .done (.error e)) ∧
    ((∀ event, jobs.step prims threads event = none) → jobs.delivered.Perm contents.zipIdx)

end Definitions

variable {prims : Primitives} {threads : Nat}

/-! ### The sequence -/

/-- What the window and the AEAD see of an authentic sequence in counter order. -/
structure InOrder (prims : Primitives) (session : Session) (history : List Nat)
    (trials : List (Nat × Bytes)) (contents : List (FrameType × Bytes)) : Prop where
  frames : List.Forall₂ (session.Frames prims) trials contents
  increasing : (trials.map Prod.fst).Pairwise (· < ·)
  unseen : ∀ seen ∈ history, ∀ trial ∈ trials, seen < trial.1
  noClose : ∀ content ∈ contents, content.1 ≠ .close

theorem frames_of_carries {session : Session} {datagrams : List Bytes}
    {contents : List (FrameType × Bytes)}
    (carries : List.Forall₂ (session.Carries prims) datagrams contents) :
    List.Forall₂ (session.Frames prims) (datagrams.filterMap (session.addressed prims)) contents := by
  induction carries with
  | nil => exact .nil
  | cons first _ ih =>
    obtain ⟨trial, addressed, frames⟩ := first
    rw [List.filterMap_cons, addressed]
    exact .cons frames ih

theorem flatten_trials (session : Session) (calls : List ReceiveCall) :
    (trials prims session calls).flatten =
      (calls.flatMap ReceiveCall.iterDatagrams).filterMap (session.addressed prims) := by
  induction calls with
  | nil => rfl
  | cons call calls ih =>
    rw [List.flatMap_cons, List.filterMap_append, ← ih]
    rfl

/-- **The jobs hold the positions of the sequence in order.** -/
theorem flatten_positions (first : Nat) (calls : List (List (Nat × Bytes))) :
    (positions first calls).flatten = List.range' first calls.flatten.length := by
  induction calls generalizing first with
  | nil => rfl
  | cons call calls ih =>
    rw [positions, List.flatten_cons, ih, List.flatten_cons, List.length_append,
      List.range'_append_1]

section InOrder

variable {session : Session} {history : List Nat} {trials : List (Nat × Bytes)}
  {contents : List (FrameType × Bytes)}

theorem InOrder.authentic (inOrder : InOrder prims session history trials contents) :
    ∀ trial ∈ trials, ∃ plain, session.openCiphertext prims trial.1 trial.2 = .ok plain := by
  intro trial member
  obtain ⟨i, inside, rfl⟩ := List.getElem_of_mem member
  have frames := inOrder.frames.get inside (by rw [← inOrder.frames.length_eq]; exact inside)
  obtain ⟨framed, opens, -⟩ := frames
  exact ⟨framed, opens⟩

/-- A position of the sequence: its datagram and its content. -/
theorem InOrder.at (inOrder : InOrder prims session history trials contents) {i : Nat}
    (inside : i < trials.length) : ∃ counter ciphertext framed content,
      trials[i]? = some (counter, ciphertext) ∧ contents[i]? = some content ∧
      session.openCiphertext prims counter ciphertext = .ok framed ∧
      Session.interpret (.ok framed) = .ok (some content) := by
  have bound : i < contents.length := by
    rw [← inOrder.frames.length_eq]
    exact inside
  obtain ⟨framed, opens, interprets⟩ := inOrder.frames.get inside bound
  exact ⟨_, _, framed, _, List.getElem?_eq_getElem inside, List.getElem?_eq_getElem bound, opens,
    interprets⟩

/-- Later positions have larger counters. -/
theorem InOrder.lt (inOrder : InOrder prims session history trials contents) {i j first later : Nat}
    {ct other : Bytes} (here : trials[i]? = some (first, ct)) (there : trials[j]? = some (later, other))
    (before : i < j) : first < later := by
  obtain ⟨iInside, iHere⟩ := List.getElem?_eq_some_iff.mp here
  obtain ⟨jInside, jThere⟩ := List.getElem?_eq_some_iff.mp there
  have increasing := List.pairwise_iff_getElem.mp inOrder.increasing i j
    (by rwa [List.length_map]) (by rwa [List.length_map]) before
  rwa [List.getElem_map, List.getElem_map, iHere, jThere] at increasing

theorem InOrder.distinct (inOrder : InOrder prims session history trials contents) :
    (trials.map Prod.fst).Nodup := inOrder.increasing.imp fun before => before.ne

end InOrder

/-! ### What a step can do -/

/-- **One event**, by its kind. -/
theorem step_cases {jobs after : DecryptJobs} {event : JobEvent}
    (stepped : jobs.step prims threads event = some after) :
    (∃ job arriving, event = .receive ∧ jobs.arriving = job :: arriving ∧
      jobs.inFlight.length < threads ∧
      after = { jobs with arriving, inFlight := jobs.inFlight ++ [job] }) ∨
    (∃ i, event = .advance i ∧ jobs.MayAdvance threads i ∧
      after = { jobs with workers := jobs.workers.step prims i }) ∨
    (∃ k job, event = .finish k ∧ jobs.inFlight[k]? = some job ∧
      (∀ i ∈ job, jobs.workers.returned i = true) ∧
      after = { jobs with inFlight := jobs.inFlight.eraseIdx k, ended := jobs.ended ++ [job] }) ∨
    (∃ k job, event = .join k ∧ jobs.ended[k]? = some job ∧
      after = { jobs with
        ended := jobs.ended.eraseIdx k
        delivered := jobs.delivered ++ (take (job.filterMap jobs.workers.outcome)).1
        running := (take (job.filterMap jobs.workers.outcome)).2 }) := by
  simp only [step] at stepped
  split at stepped
  · cases stepped
  · cases event with
    | receive =>
      left
      simp only at stepped
      split at stepped
      · cases stepped
      · rename_i job arriving waiting
        split at stepped
        · rename_i permit
          exact ⟨job, arriving, rfl, waiting, permit, (Option.some.inj stepped).symm⟩
        · cases stepped
    | advance i =>
      right; left
      simp only at stepped
      split at stepped
      · rename_i may
        exact ⟨i, rfl, may, (Option.some.inj stepped).symm⟩
      · cases stepped
    | finish k =>
      right; right; left
      simp only at stepped
      split at stepped
      · cases stepped
      · rename_i job found
        split at stepped
        · rename_i returned
          exact ⟨k, job, rfl, found, returned, (Option.some.inj stepped).symm⟩
        · cases stepped
    | join k =>
      right; right; right
      simp only at stepped
      split at stepped
      · cases stepped
      · rename_i job found
        exact ⟨k, job, rfl, found, (Option.some.inj stepped).symm⟩

/-- The jobs whose datagrams were not delivered yet. -/
def remaining (jobs : DecryptJobs) : List (List Nat) := jobs.arriving ++ jobs.inFlight ++ jobs.ended

theorem perm_receive {jobs : DecryptJobs} {job : List Nat} {arriving : List (List Nat)}
    (waiting : jobs.arriving = job :: arriving) :
    (remaining { jobs with arriving, inFlight := jobs.inFlight ++ [job] }).Perm jobs.remaining := by
  have moved : (arriving ++ (jobs.inFlight ++ [job])).Perm (job :: arriving ++ jobs.inFlight) := by
    rw [← List.append_assoc]
    exact List.perm_append_singleton job _
  rw [remaining, remaining, waiting]
  exact moved.append_right _

theorem perm_finish {jobs : DecryptJobs} {k : Nat} {job : List Nat}
    (found : jobs.inFlight[k]? = some job) :
    (remaining { jobs with inFlight := jobs.inFlight.eraseIdx k, ended := jobs.ended ++ [job] }).Perm
      jobs.remaining := by
  obtain ⟨inside, here⟩ := List.getElem?_eq_some_iff.mp found
  have split : (job :: jobs.inFlight.eraseIdx k).Perm jobs.inFlight := by
    rw [← here]
    exact List.getElem_cons_eraseIdx_perm inside
  have moved : (jobs.inFlight.eraseIdx k ++ (jobs.ended ++ [job])).Perm
      (jobs.inFlight ++ jobs.ended) := by
    rw [← List.append_assoc]
    exact (List.perm_append_singleton job _).trans (split.append_right jobs.ended)
  rw [remaining, remaining, List.append_assoc, List.append_assoc]
  exact moved.append_left _

theorem perm_join {jobs : DecryptJobs} {k : Nat} {job : List Nat}
    (found : jobs.ended[k]? = some job) (delivered : List ((FrameType × Bytes) × Nat))
    (running : Bool) :
    jobs.remaining.Perm
      (job :: remaining { jobs with ended := jobs.ended.eraseIdx k, delivered, running }) := by
  obtain ⟨inside, here⟩ := List.getElem?_eq_some_iff.mp found
  have split : (job :: jobs.ended.eraseIdx k).Perm jobs.ended := by
    rw [← here]
    exact List.getElem_cons_eraseIdx_perm inside
  exact (split.symm.append_left _).trans List.perm_middle

/-! ### Calls on track -/

section Flow

variable {session : Session} {history : List Nat} {trials : List (Nat × Bytes)}
  {contents : List (FrameType × Bytes)} {steps : Nat → Nat}

/-- The content of a position, with the position. -/
def item (contents : List (FrameType × Bytes)) (i : Nat) : Option ((FrameType × Bytes) × Nat) :=
  contents[i]?.map (·, i)

theorem filterMap_item (contents : List (FrameType × Bytes)) :
    (List.range contents.length).filterMap (item contents) = contents.zipIdx := by
  have all : ∀ i ∈ List.range contents.length, item contents i = contents.zipIdx[i]? := by
    intro i _
    rw [item, List.getElem?_zipIdx, Nat.zero_add]
  rw [List.filterMap_congr all]
  have length : contents.length = contents.zipIdx.length := List.length_zipIdx.symm
  rw [length]
  generalize contents.zipIdx = items
  induction items using List.reverseRecOn with
  | nil => rfl
  | append_singleton front last ih =>
    have same : ∀ i ∈ List.range front.length, (front ++ [last])[i]? = front[i]? := fun i inside =>
      List.getElem?_append_left (List.mem_range.mp inside)
    rw [List.length_append, List.length_singleton, List.range_succ, List.filterMap_append,
      List.filterMap_congr same, ih]
    simp

/-- A call on track has returned once it has taken three steps. -/
theorem returned_iff (inOrder : InOrder prims session history trials contents)
    {workers : Workers} (onTrack : Workers.OnTrack prims session history trials steps workers) {i : Nat}
    (inside : i < trials.length) : workers.returned i = true ↔ 3 ≤ steps i := by
  obtain ⟨counter, ciphertext, framed, content, here, -, opens, -⟩ := inOrder.at inside
  have found := onTrack.tasks i counter ciphertext framed here opens
  rw [Workers.returned, found]
  match steps i with
  | 0 | 1 | 2 => simp [Workers.phaseAfter]
  | later + 3 => simp [Workers.phaseAfter]

/-- What comes out of it then is its content. -/
theorem outcome_eq (inOrder : InOrder prims session history trials contents)
    {workers : Workers} (onTrack : Workers.OnTrack prims session history trials steps workers) {i : Nat}
    (inside : i < trials.length) (done : 3 ≤ steps i) : workers.outcome i = item contents i := by
  obtain ⟨counter, ciphertext, framed, content, here, there, opens, interprets⟩ := inOrder.at inside
  have found := onTrack.tasks i counter ciphertext framed here opens
  obtain ⟨later, count⟩ := Nat.exists_eq_add_of_le' done
  rw [count] at found
  rw [Workers.outcome, found, item, there]
  show (DecryptTask.content ⟨counter, ciphertext, .done (.ok framed)⟩).map _ = _
  simp only [DecryptTask.content, interprets]

/-- No call on track was rejected. -/
theorem not_rejected (inOrder : InOrder prims session history trials contents)
    {workers : Workers} (onTrack : Workers.OnTrack prims session history trials steps workers) :
    ∀ task ∈ workers.tasks, ∀ e, task.phase ≠ .done (.error e) := by
  intro task member e
  obtain ⟨i, inside, rfl⟩ := List.getElem_of_mem member
  have bound : i < trials.length := by rwa [← onTrack.length]
  obtain ⟨counter, ciphertext, framed, content, here, -, opens, -⟩ := inOrder.at bound
  have found := onTrack.tasks i counter ciphertext framed here opens
  rw [List.getElem?_eq_getElem inside] at found
  rw [Option.some.inj found]
  match steps i with
  | 0 | 1 | 2 => simp [Workers.phaseAfter]
  | later + 3 => simp [Workers.phaseAfter]

theorem take_of_noClose {results : List ((FrameType × Bytes) × Nat)}
    (noClose : ∀ result ∈ results, result.1.1 ≠ .close) : take results = (results, true) := by
  induction results with
  | nil => rfl
  | cons result results ih =>
    obtain ⟨first, rest⟩ := List.forall_mem_cons.mp noClose
    rw [take, if_neg first, ih rest]

/-- While nothing is dropped: every call is on track, and each datagram was delivered or belongs to
one of the remaining jobs. -/
structure Flowing (prims : Primitives) (session : Session) (history : List Nat)
    (trials : List (Nat × Bytes)) (contents : List (FrameType × Bytes)) (steps : Nat → Nat)
    (jobs : DecryptJobs) : Prop where
  onTrack : Workers.OnTrack prims session history trials steps jobs.workers
  inside : ∀ job ∈ jobs.remaining, ∀ i ∈ job, i < trials.length
  done : ∀ job ∈ jobs.ended, ∀ i ∈ job, 3 ≤ steps i
  all : (jobs.delivered ++ jobs.remaining.flatten.filterMap (item contents)).Perm contents.zipIdx
  running : jobs.running = true

theorem flowing_begin {calls : List ReceiveCall}
    (inOrder : InOrder prims session history (DecryptJobs.trials prims session calls).flatten contents) :
    Flowing prims session history (DecryptJobs.trials prims session calls).flatten contents
      (fun _ => 0) (begin prims session history calls) := by
  have flat : (begin prims session history calls).remaining.flatten =
      List.range (DecryptJobs.trials prims session calls).flatten.length := by
    show (positions 0 _ ++ [] ++ []).flatten = _
    rw [List.append_nil, List.append_nil, flatten_positions, List.range_eq_range']
  refine ⟨Workers.onTrack_begin, fun job member i listed => ?_, fun job member => ?_, ?_, rfl⟩
  · have inside : i ∈ (begin prims session history calls).remaining.flatten :=
      List.mem_flatten.mpr ⟨job, member, listed⟩
    rw [flat] at inside
    exact List.mem_range.mp inside
  · cases member
  · rw [flat, inOrder.frames.length_eq, filterMap_item]
    exact List.Perm.refl _

theorem Flowing.receive {jobs : DecryptJobs} {job : List Nat} {arriving : List (List Nat)}
    (flowing : Flowing prims session history trials contents steps jobs)
    (waiting : jobs.arriving = job :: arriving) :
    Flowing prims session history trials contents steps
      { jobs with arriving, inFlight := jobs.inFlight ++ [job] } where
  onTrack := flowing.onTrack
  inside := fun other member => flowing.inside other ((perm_receive waiting).mem_iff.mp member)
  done := flowing.done
  all := (((perm_receive waiting).flatten.filterMap _).append_left _).trans flowing.all
  running := flowing.running

/-- A call of a job in flight has returned once it has taken three steps. -/
theorem Flowing.stepped_of_returned {jobs : DecryptJobs} {job : List Nat}
    (inOrder : InOrder prims session history trials contents)
    (flowing : Flowing prims session history trials contents steps jobs)
    (member : job ∈ jobs.inFlight) :
    ∀ i ∈ job, jobs.workers.returned i = true → 3 ≤ steps i := by
  intro i listed returned
  have here : job ∈ jobs.remaining := by
    rw [remaining, List.mem_append, List.mem_append]
    exact Or.inl (Or.inr member)
  exact (returned_iff inOrder flowing.onTrack (flowing.inside job here i listed)).mp returned

theorem Flowing.finish {jobs : DecryptJobs} {k : Nat} {job : List Nat}
    (flowing : Flowing prims session history trials contents steps jobs)
    (found : jobs.inFlight[k]? = some job) (done : ∀ i ∈ job, 3 ≤ steps i) :
    Flowing prims session history trials contents steps
      { jobs with inFlight := jobs.inFlight.eraseIdx k, ended := jobs.ended ++ [job] } where
  onTrack := flowing.onTrack
  inside := fun other member => flowing.inside other ((perm_finish found).mem_iff.mp member)
  done := by
    intro other member i listed
    rcases List.mem_append.mp member with old | new
    · exact flowing.done other old i listed
    · obtain rfl := List.mem_singleton.mp new
      exact done i listed
  all := (((perm_finish found).flatten.filterMap _).append_left _).trans flowing.all
  running := flowing.running

/-- The results of an ended job are the contents of its positions. -/
theorem Flowing.results {jobs : DecryptJobs} {k : Nat} {job : List Nat}
    (inOrder : InOrder prims session history trials contents)
    (flowing : Flowing prims session history trials contents steps jobs)
    (found : jobs.ended[k]? = some job) :
    take (job.filterMap jobs.workers.outcome) = (job.filterMap (item contents), true) := by
  have member : job ∈ jobs.ended := List.mem_of_getElem? found
  have here : job ∈ jobs.remaining := List.mem_append_right _ member
  have same : ∀ i ∈ job, jobs.workers.outcome i = item contents i := fun i listed =>
    outcome_eq inOrder flowing.onTrack (flowing.inside job here i listed)
      (flowing.done job member i listed)
  rw [List.filterMap_congr same]
  refine take_of_noClose fun result taken => ?_
  obtain ⟨i, -, isItem⟩ := List.mem_filterMap.mp taken
  obtain ⟨content, there, rfl⟩ := Option.map_eq_some_iff.mp isItem
  exact inOrder.noClose content (List.mem_of_getElem? there)

theorem Flowing.join {jobs : DecryptJobs} {k : Nat} {job : List Nat}
    (inOrder : InOrder prims session history trials contents)
    (flowing : Flowing prims session history trials contents steps jobs)
    (found : jobs.ended[k]? = some job) :
    Flowing prims session history trials contents steps
      { jobs with
        ended := jobs.ended.eraseIdx k
        delivered := jobs.delivered ++ (take (job.filterMap jobs.workers.outcome)).1
        running := (take (job.filterMap jobs.workers.outcome)).2 } := by
  rw [flowing.results inOrder found]
  have perm := perm_join found (jobs.delivered ++ job.filterMap (item contents)) true
  refine ⟨flowing.onTrack, fun other member => ?_, fun other member => ?_, ?_, rfl⟩
  · exact flowing.inside other (perm.mem_iff.mpr (List.mem_cons_of_mem _ member))
  · exact flowing.done other (List.mem_of_mem_eraseIdx member)
  · have split := perm.flatten.filterMap (item contents)
    rw [List.flatten_cons, List.filterMap_append] at split
    have whole := (split.symm.append_left jobs.delivered).trans flowing.all
    rwa [← List.append_assoc] at whole

/-- Nothing that was committed lies a whole window above the call at position `i`. -/
def Near (trials : List (Nat × Bytes)) (steps : Nat → Nat) (i : Nat) : Prop :=
  ∀ (counter : Nat) (ct : Bytes), trials[i]? = some (counter, ct) →
    ∀ (j other : Nat) (ct' : Bytes), trials[j]? = some (other, ct') → 3 ≤ steps j →
      other < counter + windowBits

/-- A step of a call that nothing lies a whole window above. -/
theorem onTrack_near (inOrder : InOrder prims session history trials contents) {workers : Workers}
    (onTrack : Workers.OnTrack prims session history trials steps workers) {i : Nat}
    (near : steps i < 3 → Near trials steps i) :
    Workers.OnTrack prims session history trials (Function.update steps i (steps i + 1))
      (workers.step prims i) := by
  apply Workers.onTrack_step inOrder.authentic onTrack i
  intro counter ciphertext here pending
  have above : ∀ seen ∈ history, seen < counter := fun seen old =>
    inOrder.unseen seen old _ (List.mem_of_getElem? here)
  apply onTrack.check_of_near inOrder.distinct here pending
  · exact fun old => (above counter old).false
  · exact fun other old => (above other old).trans_le (Nat.le_add_right _ _)
  · exact near pending counter ciphertext here

theorem Flowing.advance {jobs : DecryptJobs} {i : Nat}
    (inOrder : InOrder prims session history trials contents)
    (flowing : Flowing prims session history trials contents steps jobs)
    (near : steps i < 3 → Near trials steps i) :
    Flowing prims session history trials contents (Function.update steps i (steps i + 1))
      { jobs with workers := jobs.workers.step prims i } where
  onTrack := onTrack_near inOrder flowing.onTrack near
  inside := flowing.inside
  done := by
    intro job member j listed
    have done := flowing.done job member j listed
    by_cases same : j = i
    · subst same
      rw [Function.update_self]
      exact done.trans (Nat.le_succ _)
    · rwa [Function.update_of_ne same]
  all := flowing.all
  running := flowing.running

/-! ### One thread -/

/-- With one thread at most one job is in flight, what came in before it is done, and no call has
started before every earlier one was done. -/
structure InTurn (length : Nat) (steps : Nat → Nat) (jobs : DecryptJobs) : Prop where
  alone : jobs.inFlight.length ≤ 1
  front : ∃ first, (jobs.inFlight ++ jobs.arriving).flatten = List.range' first (length - first) ∧
    ∀ i < first, 3 ≤ steps i
  order : ∀ i j, i < j → 0 < steps j → 3 ≤ steps i

theorem inTurn_begin (calls : List ReceiveCall) :
    InTurn (DecryptJobs.trials prims session calls).flatten.length (fun _ => 0)
      (begin prims session history calls) where
  alone := Nat.zero_le 1
  front := ⟨0, flatten_positions 0 _, fun _ impossible => absurd impossible (Nat.not_lt_zero _)⟩
  order := fun _ _ _ impossible => absurd impossible (lt_irrefl 0)

theorem InTurn.receive {jobs : DecryptJobs} {length : Nat} {job : List Nat}
    {arriving : List (List Nat)} (inTurn : InTurn length steps jobs)
    (waiting : jobs.arriving = job :: arriving) (permit : jobs.inFlight.length < 1) :
    InTurn length steps { jobs with arriving, inFlight := jobs.inFlight ++ [job] } where
  alone := by
    rw [List.length_append, List.length_singleton]
    exact permit
  front := by
    obtain ⟨first, flat, before⟩ := inTurn.front
    refine ⟨first, ?_, before⟩
    rw [← flat, waiting, List.append_assoc]
    rfl
  order := inTurn.order

theorem InTurn.single {jobs : DecryptJobs} {length : Nat} {job : List Nat}
    (inTurn : InTurn length steps jobs) (member : job ∈ jobs.inFlight) : jobs.inFlight = [job] := by
  obtain ⟨only, same⟩ := List.length_eq_one_iff.mp
    (le_antisymm inTurn.alone (List.length_pos_of_mem member))
  rw [same] at member ⊢
  rw [List.mem_singleton.mp member]

/-- The front part of a range, and the rest of it. -/
theorem range'_split {job rest : List Nat} {first count : Nat}
    (flat : job ++ rest = List.range' first count) : job = List.range' first job.length ∧
      rest = List.range' (first + job.length) (count - job.length) := by
  have lengths := congrArg List.length flat
  rw [List.length_append, List.length_range'] at lengths
  have whole : job.length + (count - job.length) = count := by omega
  rw [← whole, ← List.range'_append_1] at flat
  exact List.append_inj flat (List.length_range').symm

/-- The only job in flight ends: what is left starts behind it. -/
theorem InTurn.finish {jobs : DecryptJobs} {length k : Nat} {job : List Nat}
    (inTurn : InTurn length steps jobs) (found : jobs.inFlight[k]? = some job)
    (done : ∀ i ∈ job, 3 ≤ steps i) :
    InTurn length steps
      { jobs with inFlight := jobs.inFlight.eraseIdx k, ended := jobs.ended ++ [job] } := by
  have single := inTurn.single (List.mem_of_getElem? found)
  obtain rfl : k = 0 := by
    have inside := (List.getElem?_eq_some_iff.mp found).1
    rw [single, List.length_singleton] at inside
    exact Nat.lt_one_iff.mp inside
  obtain ⟨first, flat, before⟩ := inTurn.front
  rw [single, List.singleton_append, List.flatten_cons] at flat
  obtain ⟨jobIs, rest⟩ := range'_split flat
  rw [Nat.sub_sub] at rest
  refine ⟨?_, ⟨first + job.length, ?_, fun i inside => ?_⟩, inTurn.order⟩
  · rw [single]
    exact Nat.zero_le 1
  · rw [single]
    exact rest
  · by_cases earlier : i < first
    · exact before i earlier
    · apply done i
      rw [jobIs, List.mem_range'_1]
      omega

/-- The call that may step next comes after all that are done. -/
theorem InTurn.before {jobs : DecryptJobs} {i : Nat}
    (inOrder : InOrder prims session history trials contents)
    (flowing : Flowing prims session history trials contents steps jobs)
    (inTurn : InTurn trials.length steps jobs) (may : jobs.MayAdvance 1 i) :
    ∀ earlier < i, 3 ≤ steps earlier := by
  intro earlier less
  obtain ⟨-, job, member, listed, turn⟩ := may
  obtain ⟨first, flat, before⟩ := inTurn.front
  by_cases front : earlier < first
  · exact before earlier front
  · -- both are in the one job in flight
    rw [inTurn.single member, List.singleton_append, List.flatten_cons] at flat
    have jobIs := (range'_split flat).1
    have bounds : first ≤ i ∧ i < first + job.length := by
      rw [jobIs, List.mem_range'_1] at listed
      exact listed
    have together : earlier ∈ job := by
      rw [jobIs, List.mem_range'_1]
      omega
    exact flowing.stepped_of_returned inOrder member earlier together (turn rfl earlier together less)

theorem InTurn.advance {jobs : DecryptJobs} {length i : Nat} (inTurn : InTurn length steps jobs)
    (before : ∀ earlier < i, 3 ≤ steps earlier) :
    InTurn length (Function.update steps i (steps i + 1))
      { jobs with workers := jobs.workers.step prims i } := by
  have grows : ∀ j, steps j ≤ Function.update steps i (steps i + 1) j := by
    intro j
    by_cases same : j = i
    · subst same
      rw [Function.update_self]
      exact Nat.le_succ _
    · rw [Function.update_of_ne same]
  obtain ⟨first, flat, done⟩ := inTurn.front
  refine ⟨inTurn.alone, ⟨first, flat, fun j inside => (done j inside).trans (grows j)⟩, ?_⟩
  intro j k less started
  refine le_trans ?_ (grows j)
  by_cases same : k = i
  · subst same
    exact before j less
  · rw [Function.update_of_ne same] at started
    exact inTurn.order j k less started

/-! ### Every run -/

/-- The condition: one thread, or a sequence that spans fewer counters than the window. -/
def Narrow (threads : Nat) (trials : List (Nat × Bytes)) : Prop :=
  threads = 1 ∨ ∀ first ∈ trials, ∀ later ∈ trials, later.1 < first.1 + windowBits

/-- Under the condition nothing that was committed lies a whole window above a call that may step. -/
theorem near_of_narrow {jobs : DecryptJobs} {i : Nat}
    (inOrder : InOrder prims session history trials contents) (narrow : Narrow threads trials)
    (inTurn : threads = 1 → InTurn trials.length steps jobs) (pending : steps i < 3) :
    Near trials steps i := by
  intro counter ct here j other ct' there done
  rcases narrow with single | span
  · by_cases later : i < j
    · have done := (inTurn single).order i j later (lt_of_lt_of_le (by decide) done)
      exact absurd pending (Nat.not_lt.mpr done)
    · rcases (Nat.le_of_not_lt later).lt_or_eq with earlier | same
      · exact (inOrder.lt there here earlier).trans_le (Nat.le_add_right _ _)
      · subst same
        exact absurd pending (Nat.not_lt.mpr done)
  · exact span (counter, ct) (List.mem_of_getElem? here) (other, ct') (List.mem_of_getElem? there)

/-- **One event keeps everything flowing.** -/
theorem flowing_step {jobs after : DecryptJobs} {event : JobEvent}
    (inOrder : InOrder prims session history trials contents) (narrow : Narrow threads trials)
    (flowing : Flowing prims session history trials contents steps jobs)
    (inTurn : threads = 1 → InTurn trials.length steps jobs)
    (stepped : jobs.step prims threads event = some after) :
    ∃ steps', Flowing prims session history trials contents steps' after ∧
      (threads = 1 → InTurn trials.length steps' after) := by
  rcases step_cases stepped with ⟨job, arriving, -, waiting, permit, rfl⟩ | ⟨i, -, may, rfl⟩ |
    ⟨k, job, -, found, returned, rfl⟩ | ⟨k, job, -, found, rfl⟩
  · exact ⟨steps, flowing.receive waiting, fun single =>
      (inTurn single).receive waiting (single ▸ permit)⟩
  · refine ⟨_, flowing.advance inOrder (near_of_narrow inOrder narrow inTurn), fun single => ?_⟩
    subst single
    exact (inTurn rfl).advance ((inTurn rfl).before inOrder flowing may)
  · have done : ∀ i ∈ job, 3 ≤ steps i := fun i listed =>
      flowing.stepped_of_returned inOrder (List.mem_of_getElem? found) i listed (returned i listed)
    exact ⟨steps, flowing.finish found done, fun single => (inTurn single).finish found done⟩
  · refine ⟨steps, flowing.join inOrder found, fun single => ?_⟩
    exact ⟨(inTurn single).alone, (inTurn single).front, (inTurn single).order⟩

/-- **When nothing can happen any more, nothing is left**: a job in flight has a call that may step or
it may end, an ended job is taken, and with no job in flight the next receive call gets a permit. -/
theorem remaining_of_stuck {jobs : DecryptJobs} (positive : 0 < threads) (running : jobs.running = true)
    (stuck : ∀ event, jobs.step prims threads event = none) : jobs.remaining = [] := by
  have awake : ¬ jobs.running = false := by
    rw [running]
    exact Bool.noConfusion
  have noEnded : jobs.ended = [] := by
    by_contra some
    obtain ⟨job, rest, same⟩ := List.exists_cons_of_ne_nil some
    have none := stuck (.join 0)
    simp only [step, if_neg awake, same, List.getElem?_cons_zero] at none
    cases none
  have noFlight : jobs.inFlight = [] := by
    by_contra some
    obtain ⟨job, rest, same⟩ := List.exists_cons_of_ne_nil some
    have here : job ∈ jobs.inFlight := by
      rw [same]
      exact List.mem_cons_self
    by_cases settled : ∀ i ∈ job, jobs.workers.returned i = true
    · have none := stuck (.finish 0)
      simp only [step, if_neg awake, same, List.getElem?_cons_zero] at none
      rw [if_pos settled] at none
      cases none
    · -- the first call of the job that has not returned may step
      have open_ : ∃ i, i ∈ job ∧ jobs.workers.returned i = false := by
        by_contra all
        refine settled fun i listed => ?_
        by_contra pending
        exact all ⟨i, listed, Bool.eq_false_iff.mpr pending⟩
      have listed := (Nat.find_spec open_).1
      have pending := (Nat.find_spec open_).2
      have may : jobs.MayAdvance threads (Nat.find open_) := by
        refine ⟨pending, job, here, listed, fun _ earlier together less => ?_⟩
        by_contra notYet
        exact Nat.find_min open_ less ⟨together, Bool.eq_false_iff.mpr notYet⟩
      have none := stuck (.advance (Nat.find open_))
      simp only [step, if_neg awake, if_pos may] at none
      cases none
  have noArriving : jobs.arriving = [] := by
    by_contra some
    obtain ⟨job, rest, same⟩ := List.exists_cons_of_ne_nil some
    have permit : jobs.inFlight.length < threads := by
      rw [noFlight]
      exact positive
    have none := stuck .receive
    simp only [step, if_neg awake, same, if_pos permit] at none
    cases none
  rw [remaining, noArriving, noFlight, noEnded]
  rfl

/-- **Under the condition every run keeps everything flowing.** -/
theorem flowing_run {calls : List ReceiveCall} {events : List JobEvent} {jobs : DecryptJobs}
    (inOrder : InOrder prims session history (DecryptJobs.trials prims session calls).flatten contents)
    (narrow : Narrow threads (DecryptJobs.trials prims session calls).flatten)
    (run : Run (Taken (step prims threads)) (begin prims session history calls) events jobs) :
    ∃ steps, Flowing prims session history (DecryptJobs.trials prims session calls).flatten contents
      steps jobs := by
  have invariant := run.invariant
    (fun jobs => ∃ steps, Flowing prims session history
        (DecryptJobs.trials prims session calls).flatten contents steps jobs ∧
      (threads = 1 → InTurn (DecryptJobs.trials prims session calls).flatten.length steps jobs))
    (fun before event after ⟨steps, flowing, inTurn⟩ stepped =>
      flowing_step inOrder narrow flowing inTurn stepped)
    ⟨_, flowing_begin inOrder, fun _ => inTurn_begin calls⟩
  obtain ⟨steps, flowing, -⟩ := invariant
  exact ⟨steps, flowing⟩

theorem dropsNothing_of_narrow {calls : List ReceiveCall} (positive : 0 < threads)
    (inOrder : InOrder prims session history (DecryptJobs.trials prims session calls).flatten contents)
    (narrow : Narrow threads (DecryptJobs.trials prims session calls).flatten) :
    DropsNothing prims threads session history calls contents := by
  intro events jobs run
  obtain ⟨steps, flowing⟩ := flowing_run inOrder narrow run
  refine ⟨not_rejected inOrder flowing.onTrack, fun stuck => ?_⟩
  have all := flowing.all
  rw [remaining_of_stuck positive flowing.running stuck] at all
  rwa [List.flatten_nil, List.filterMap_nil, List.append_nil] at all

/-! ### Overtaking -/

/-- With more than one thread a call of a job in flight that has not returned may always step; if it
is ahead of all that are done, it stays on track. -/
theorem advances (many : threads ≠ 1)
    (inOrder : InOrder prims session history trials contents) (jobs : DecryptJobs)
    (onTrack : Workers.OnTrack prims session history trials steps jobs.workers)
    (running : jobs.running = true) {job : List Nat} (member : job ∈ jobs.inFlight) {i : Nat}
    (listed : i ∈ job) (inside : i < trials.length) (pending : steps i < 3)
    (ahead : ∀ j, 3 ≤ steps j → j < i) :
    jobs.step prims threads (.advance i) = some { jobs with workers := jobs.workers.step prims i } ∧
    Workers.OnTrack prims session history trials (Function.update steps i (steps i + 1))
      (jobs.workers.step prims i) := by
  constructor
  · have open_ : jobs.workers.returned i = false := by
      rw [Bool.eq_false_iff]
      intro returned
      exact absurd pending (Nat.not_lt.mpr ((returned_iff inOrder onTrack inside).mp returned))
    have may : jobs.MayAdvance threads i :=
      ⟨open_, job, member, listed, fun single => absurd single many⟩
    rw [step, if_neg (by rw [running]; exact Bool.noConfusion)]
    exact if_pos may
  · refine onTrack_near inOrder onTrack fun _ counter ct here j other ct' there done => ?_
    exact (inOrder.lt there here (ahead j done)).trans_le (Nat.le_add_right _ _)

/-- A call ahead of all that are done completes. -/
theorem completes_one (many : threads ≠ 1)
    (inOrder : InOrder prims session history trials contents) {jobs : DecryptJobs}
    (onTrack : Workers.OnTrack prims session history trials steps jobs.workers)
    (running : jobs.running = true) {job : List Nat} (member : job ∈ jobs.inFlight) {i : Nat}
    (listed : i ∈ job) (inside : i < trials.length) (ahead : ∀ j, 0 < steps j → j < i) :
    ∃ events workers, Run (Taken (step prims threads)) jobs events { jobs with workers } ∧
      Workers.OnTrack prims session history trials (Function.update steps i 3) workers := by
  have fresh : steps i = 0 := by
    by_contra started
    exact (ahead i (Nat.pos_of_ne_zero started)).false
  -- while the call is on its way, all that are done are behind it
  have behind : ∀ k < 3, ∀ j, 3 ≤ Function.update steps i k j → j < i := by
    intro k less j done
    by_cases same : j = i
    · subst same
      rw [Function.update_self] at done
      exact absurd less (Nat.not_lt.mpr done)
    · rw [Function.update_of_ne same] at done
      exact ahead j (lt_of_lt_of_le (by decide) done)
  have next : ∀ (k : Nat) (workers : Workers), k < 3 →
      Workers.OnTrack prims session history trials (Function.update steps i k) workers →
      Taken (step prims threads) { jobs with workers } (.advance i)
        { jobs with workers := workers.step prims i } ∧
      Workers.OnTrack prims session history trials (Function.update steps i (k + 1))
        (workers.step prims i) := by
    intro k workers less onTrack
    have count : Function.update steps i k i = k := Function.update_self i k steps
    have step := advances many inOrder { jobs with workers } onTrack running member
      listed inside (by rw [count]; exact less) (behind k less)
    rw [count, Function.update_idem] at step
    exact step
  have start : Workers.OnTrack prims session history trials (Function.update steps i 0)
      jobs.workers := by
    rw [← fresh, Function.update_eq_self]
    exact onTrack
  have first := next 0 jobs.workers (by decide) start
  have second := next 1 _ (by decide) first.2
  have third := next 2 _ (by decide) second.2
  exact ⟨_, _, .next first.1 (.next second.1 (.next third.1 (.done _))), third.2⟩

/-- **Calls in order complete**, whatever other calls stand still. -/
theorem completes (many : threads ≠ 1)
    (inOrder : InOrder prims session history trials contents) (jobs : DecryptJobs)
    (onTrack : Workers.OnTrack prims session history trials steps jobs.workers)
    (running : jobs.running = true) {job : List Nat} (member : job ∈ jobs.inFlight) {calls : List Nat}
    (listed : ∀ i ∈ calls, i ∈ job) (inside : ∀ i ∈ calls, i < trials.length)
    (sorted : calls.Pairwise (· < ·)) (ahead : ∀ i ∈ calls, ∀ j, 0 < steps j → j < i) :
    ∃ events workers, Run (Taken (step prims threads)) jobs events { jobs with workers } ∧
      Workers.OnTrack prims session history trials (fun i => if i ∈ calls then 3 else steps i)
        workers := by
  induction calls generalizing steps jobs with
  | nil =>
    refine ⟨[], jobs.workers, .done jobs, ?_⟩
    simpa using onTrack
  | cons i rest ih =>
    obtain ⟨before, sorted⟩ := List.pairwise_cons.mp sorted
    obtain ⟨listedHere, listedRest⟩ := List.forall_mem_cons.mp listed
    obtain ⟨insideHere, insideRest⟩ := List.forall_mem_cons.mp inside
    obtain ⟨aheadHere, aheadRest⟩ := List.forall_mem_cons.mp ahead
    obtain ⟨first, workers, run, onTrack⟩ :=
      completes_one many inOrder onTrack running member listedHere insideHere aheadHere
    have aheadStill : ∀ k ∈ rest, ∀ j, 0 < Function.update steps i 3 j → j < k := by
      intro k later j started
      by_cases same : j = i
      · subst same
        exact before k later
      · rw [Function.update_of_ne same] at started
        exact aheadRest k later j started
    obtain ⟨more, final, rest_run, finally_⟩ := ih { jobs with workers } onTrack running member
      listedRest insideRest sorted aheadStill
    refine ⟨first ++ more, final, run.append rest_run, ?_⟩
    have same : (fun k => if k ∈ rest then 3 else Function.update steps i 3 k) =
        fun k => if k ∈ i :: rest then 3 else steps k := by
      funext k
      by_cases here : k = i
      · subst here
        simp
      · rw [Function.update_of_ne here]
        simp only [List.mem_cons, here, false_or]
    rw [same] at finally_
    exact finally_

/-- The next receive call gets a permit. -/
theorem receives {jobs : DecryptJobs} {job : List Nat} {arriving : List (List Nat)}
    (running : jobs.running = true) (waiting : jobs.arriving = job :: arriving)
    (permit : jobs.inFlight.length < threads) :
    Taken (step prims threads) jobs .receive
      { jobs with arriving, inFlight := jobs.inFlight ++ [job] } := by
  rw [Taken, step, if_neg (by rw [running]; exact Bool.noConfusion)]
  simp only [waiting, if_pos permit]

/-- A job comes in, completes and ends. -/
theorem passes (many : threads ≠ 1)
    (inOrder : InOrder prims session history trials contents) (jobs : DecryptJobs)
    (onTrack : Workers.OnTrack prims session history trials steps jobs.workers)
    (running : jobs.running = true) {job : List Nat} {arriving : List (List Nat)}
    (waiting : jobs.arriving = job :: arriving) (permit : jobs.inFlight.length < threads)
    (inside : ∀ i ∈ job, i < trials.length) (sorted : job.Pairwise (· < ·))
    (ahead : ∀ i ∈ job, ∀ j, 0 < steps j → j < i) :
    ∃ events workers, Run (Taken (step prims threads)) jobs events
        { jobs with workers, arriving, ended := jobs.ended ++ [job] } ∧
      Workers.OnTrack prims session history trials (fun i => if i ∈ job then 3 else steps i)
        workers := by
  have received : Taken (step prims threads) jobs .receive
      { jobs with arriving, inFlight := jobs.inFlight ++ [job] } := receives running waiting permit
  have member : job ∈ jobs.inFlight ++ [job] :=
    List.mem_append_right _ (List.mem_singleton_self job)
  obtain ⟨events, workers, run, done⟩ := completes many inOrder
    { jobs with arriving, inFlight := jobs.inFlight ++ [job] } onTrack running member
    (fun _ listed => listed) inside sorted ahead
  have returned : ∀ i ∈ job, workers.returned i = true := by
    intro i listed
    rw [returned_iff inOrder done (inside i listed), if_pos listed]
  have last : (jobs.inFlight ++ [job])[jobs.inFlight.length]? = some job := by
    rw [List.getElem?_append_right (le_refl _), Nat.sub_self]
    rfl
  have left : (jobs.inFlight ++ [job]).eraseIdx jobs.inFlight.length = jobs.inFlight := by
    rw [List.eraseIdx_append_of_length_le (le_refl _), Nat.sub_self]
    exact List.append_nil _
  have finished : Taken (step prims threads)
      { jobs with workers, arriving, inFlight := jobs.inFlight ++ [job] }
      (.finish jobs.inFlight.length)
      { jobs with workers, arriving, ended := jobs.ended ++ [job] } := by
    rw [Taken, step, if_neg (by rw [running]; exact Bool.noConfusion)]
    simp only [last, left]
    exact if_pos returned
  exact ⟨_, workers, (Run.next received run).append (.next finished (.done _)), done⟩

/-- **Any number of jobs go by** while those in flight stand still. -/
theorem passesAll (many : threads ≠ 1)
    (inOrder : InOrder prims session history trials contents) (jobs : DecryptJobs)
    (onTrack : Workers.OnTrack prims session history trials steps jobs.workers)
    (running : jobs.running = true) (front arriving : List (List Nat))
    (waiting : jobs.arriving = front ++ arriving) (permit : jobs.inFlight.length < threads)
    (inside : ∀ i ∈ front.flatten, i < trials.length) (sorted : front.flatten.Pairwise (· < ·))
    (ahead : ∀ i ∈ front.flatten, ∀ j, 0 < steps j → j < i) :
    ∃ events workers, Run (Taken (step prims threads)) jobs events
        { jobs with workers, arriving, ended := jobs.ended ++ front } ∧
      Workers.OnTrack prims session history trials
        (fun i => if i ∈ front.flatten then 3 else steps i) workers := by
  induction front generalizing steps jobs with
  | nil =>
    refine ⟨[], jobs.workers, ?_, by simpa using onTrack⟩
    have same : { jobs with arriving, ended := jobs.ended ++ [] } = jobs := by
      rw [List.append_nil, ← show jobs.arriving = arriving from waiting]
    rw [same]
    exact .done jobs
  | cons job front ih =>
    rw [List.flatten_cons] at inside sorted ahead
    obtain ⟨sortedHere, sortedRest, before⟩ := List.pairwise_append.mp sorted
    obtain ⟨first, workers, run, done⟩ := passes many inOrder jobs onTrack running waiting permit
      (fun i listed => inside i (List.mem_append_left _ listed)) sortedHere
      (fun i listed => ahead i (List.mem_append_left _ listed))
    have aheadStill : ∀ i ∈ front.flatten, ∀ j, 0 < (if j ∈ job then 3 else steps j) → j < i := by
      intro i listed j started
      by_cases here : j ∈ job
      · exact before j here i listed
      · rw [if_neg here] at started
        exact ahead i (List.mem_append_right _ listed) j started
    obtain ⟨more, final, rest, finally_⟩ := ih
      { jobs with workers, arriving := front ++ arriving, ended := jobs.ended ++ [job] } done running
      rfl permit (fun i listed => inside i (List.mem_append_right _ listed)) sortedRest aheadStill
    refine ⟨first ++ more, final, ?_, ?_⟩
    · have whole := run.append rest
      rwa [List.append_assoc, List.singleton_append] at whole
    · have same : (fun k => if k ∈ front.flatten then 3 else if k ∈ job then 3 else steps k) =
          fun k => if k ∈ (job :: front).flatten then 3 else steps k := by
        funext k
        by_cases here : k ∈ job <;> simp [here]
      rw [same] at finally_
      exact finally_

/-- **The call that was overtaken is rejected**: something a whole window above it was committed. -/
theorem rejects (many : threads ≠ 1) (jobs : DecryptJobs)
    (onTrack : Workers.OnTrack prims session history trials steps jobs.workers)
    (running : jobs.running = true) {job : List Nat} (member : job ∈ jobs.inFlight) {i j : Nat}
    (listed : i ∈ job) (fresh : steps i = 0) (done : 3 ≤ steps j) {first later : Nat}
    {ct other plain : Bytes} (here : trials[i]? = some (first, ct))
    (opens : session.openCiphertext prims first ct = .ok plain)
    (there : trials[j]? = some (later, other)) (far : first + windowBits ≤ later) :
    ∃ after, Taken (step prims threads) jobs (.advance i) after ∧
      ∃ task ∈ after.workers.tasks, ∃ e, task.phase = .done (.error e) := by
  have found := onTrack.tasks i first ct plain here opens
  rw [fresh] at found
  have closed : jobs.workers.session.replay.check first ≠ .ok () := by
    intro passes
    have near := ((ReplayWindow.check_eq_ok_iff onTrack.window first).mp passes).2 later
      (Or.inr ⟨j, other, there, done⟩)
    exact absurd near (Nat.not_lt.mpr far)
  have may : jobs.MayAdvance threads i := by
    refine ⟨?_, job, member, listed, fun single => absurd single many⟩
    rw [Workers.returned, found]
    rfl
  refine ⟨{ jobs with workers := jobs.workers.step prims i }, ?_, ?_⟩
  · rw [Taken, step, if_neg (by rw [running]; exact Bool.noConfusion)]
    exact if_pos may
  · cases checked : jobs.workers.session.checkReplay first with
    | ok passed => exact absurd checked closed
    | error e =>
      refine ⟨⟨first, ct, .done (.error e)⟩, ?_, e, rfl⟩
      have bound := (List.getElem?_eq_some_iff.mp found).1
      rw [Workers.step_eq found]
      simp only [DecryptTask.advance, Workers.phaseAfter, checked]
      exact List.mem_set bound _

/-- A job with the later call is in flight together with the one of the earlier call: the later call
completes, and the earlier one is rejected. -/
theorem overtakes (many : threads ≠ 1) (inOrder : InOrder prims session history trials contents)
    (jobs : DecryptJobs) (onTrack : Workers.OnTrack prims session history trials steps jobs.workers)
    (running : jobs.running = true) {stalled passing : List Nat} {i j : Nat}
    (stalledIn : stalled ∈ jobs.inFlight) (passingIn : passing ∈ jobs.inFlight)
    (iListed : i ∈ stalled) (jListed : j ∈ passing) (ahead : ∀ k, 0 < steps k → k < j)
    (fresh : steps i = 0) (before : i < j) {first later : Nat} {ct other : Bytes}
    (here : trials[i]? = some (first, ct)) (there : trials[j]? = some (later, other))
    (far : first + windowBits ≤ later) :
    ∃ events after, Run (Taken (step prims threads)) jobs events after ∧
      ∃ task ∈ after.workers.tasks, ∃ e, task.phase = .done (.error e) := by
  have inside : j < trials.length := (List.getElem?_eq_some_iff.mp there).1
  obtain ⟨events, workers, run, done⟩ :=
    completes_one many inOrder onTrack running passingIn jListed inside ahead
  obtain ⟨plain, opens⟩ := inOrder.authentic _ (List.mem_of_getElem? here)
  have still : Function.update steps j 3 i = 0 := by
    rw [Function.update_of_ne before.ne]
    exact fresh
  have finished : 3 ≤ Function.update steps j 3 j := by rw [Function.update_self]
  obtain ⟨after, taken, rejected⟩ := rejects many { jobs with workers } done running
    stalledIn iListed still finished here opens there far
  exact ⟨_, after, run.append (.next taken (.done _)), rejected⟩

/-- The same when the job with the later call is still to come: the jobs in between go by. -/
theorem overtakes_arriving (several : 1 < threads)
    (inOrder : InOrder prims session history trials contents) (jobs : DecryptJobs)
    (onTrack : Workers.OnTrack prims session history trials steps jobs.workers)
    (running : jobs.running = true) {stalled : List Nat} (alone : jobs.inFlight = [stalled])
    {i j : Nat} (iListed : i ∈ stalled) (jListed : j ∈ jobs.arriving.flatten)
    (sorted : (stalled ++ jobs.arriving.flatten).Pairwise (· < ·))
    (inside : ∀ k ∈ jobs.arriving.flatten, k < trials.length)
    (ahead : ∀ k, 0 < steps k → ∀ l ∈ stalled ++ jobs.arriving.flatten, k < l)
    {first later : Nat} {ct other : Bytes} (here : trials[i]? = some (first, ct))
    (there : trials[j]? = some (later, other)) (far : first + windowBits ≤ later) :
    ∃ events after, Run (Taken (step prims threads)) jobs events after ∧
      ∃ task ∈ after.workers.tasks, ∃ e, task.phase = .done (.error e) := by
  obtain ⟨passing, passingIn, jPassing⟩ := List.mem_flatten.mp jListed
  obtain ⟨mid, back, waiting⟩ := List.append_of_mem passingIn
  have flat : jobs.arriving.flatten = mid.flatten ++ (passing ++ back.flatten) := by
    rw [waiting, List.flatten_append, List.flatten_cons]
  have inMid : ∀ k ∈ mid.flatten, k ∈ jobs.arriving.flatten := by
    intro k listed
    rw [flat]
    exact List.mem_append_left _ listed
  obtain ⟨-, sortedArriving, stalledBefore⟩ := List.pairwise_append.mp sorted
  rw [flat] at sortedArriving
  obtain ⟨sortedMid, -, midBefore⟩ := List.pairwise_append.mp sortedArriving
  have permit : jobs.inFlight.length < threads := by
    rw [alone]
    exact several
  obtain ⟨middle, workers, run, track⟩ := passesAll several.ne' inOrder jobs onTrack running mid
    (passing :: back) waiting permit (fun k listed => inside k (inMid k listed)) sortedMid
    (fun k listed l started => ahead l started k (List.mem_append_right _ (inMid k listed)))
  have received := run.append (.next (receives running rfl permit) (.done _))
  have fresh : (if i ∈ mid.flatten then 3 else steps i) = 0 := by
    rw [if_neg fun listed => (stalledBefore i iListed i (inMid i listed)).false]
    by_contra started
    exact (ahead i (Nat.pos_of_ne_zero started) i (List.mem_append_left _ iListed)).false
  have behind : ∀ k, 0 < (if k ∈ mid.flatten then 3 else steps k) → k < j := by
    intro k started
    by_cases inside : k ∈ mid.flatten
    · exact midBefore k inside j (List.mem_append_left _ jPassing)
    · rw [if_neg inside] at started
      exact ahead k started j (List.mem_append_right _ jListed)
  have stalledIn : stalled ∈ jobs.inFlight ++ [passing] := by
    rw [alone]
    exact List.mem_cons_self
  obtain ⟨events, after, rest, rejected⟩ := overtakes several.ne' inOrder
    { jobs with
      workers, arriving := back, inFlight := jobs.inFlight ++ [passing], ended := jobs.ended ++ mid }
    track running stalledIn (List.mem_append_right _ (List.mem_singleton_self passing)) iListed
    jPassing behind fresh (stalledBefore i iListed j jListed) here there far
  exact ⟨_, after, received.append rest, rejected⟩

end Flow

/-- **With two threads the first of two datagrams a window apart can be dropped**: its job stands still
while the jobs up to the other's come in and complete. -/
theorem overtaken {session : Session} {history : List Nat} {calls : List ReceiveCall}
    {contents : List (FrameType × Bytes)} (several : 1 < threads)
    (inOrder : InOrder prims session history (trials prims session calls).flatten contents)
    {i j first later : Nat} {ct other : Bytes}
    (here : (trials prims session calls).flatten[i]? = some (first, ct))
    (there : (trials prims session calls).flatten[j]? = some (later, other))
    (far : first + windowBits ≤ later) :
    ∃ events jobs, Run (Taken (step prims threads)) (begin prims session history calls) events jobs ∧
      ∃ task ∈ jobs.workers.tasks, ∃ e, task.phase = .done (.error e) := by
  have many : threads ≠ 1 := several.ne'
  -- the earlier datagram is the earlier position
  have before : i < j := by
    by_contra notBefore
    rcases (Nat.le_of_not_lt notBefore).lt_or_eq with after | same
    · have less := inOrder.lt there here after
      rw [windowBits] at far
      omega
    · subst same
      obtain ⟨rfl, -⟩ := Prod.mk.inj (Option.some.inj (here.symm.trans there))
      rw [windowBits] at far
      omega
  have jInside := (List.getElem?_eq_some_iff.mp there).1
  have flat : (positions 0 (trials prims session calls)).flatten =
      List.range (trials prims session calls).flatten.length := by
    rw [flatten_positions, List.range_eq_range']
  have held : ∀ k < (trials prims session calls).flatten.length,
      ∃ job ∈ positions 0 (trials prims session calls), k ∈ job := by
    intro k inside
    rw [← List.mem_flatten, flat]
    exact List.mem_range.mpr inside
  obtain ⟨stalled, stalledIn, iListed⟩ := held i (before.trans jInside)
  obtain ⟨front, rest, split⟩ := List.append_of_mem stalledIn
  rw [split, List.flatten_append, List.flatten_cons] at flat
  have sorted : (front.flatten ++ (stalled ++ rest.flatten)).Pairwise (· < ·) := by
    rw [flat]
    exact List.pairwise_lt_range
  have inside : ∀ k ∈ front.flatten ++ (stalled ++ rest.flatten),
      k < (trials prims session calls).flatten.length := by
    intro k listed
    rw [flat] at listed
    exact List.mem_range.mp listed
  obtain ⟨sortedFront, sortedRest, frontBefore⟩ := List.pairwise_append.mp sorted
  -- the jobs before it come and go, then it comes in and stands still
  obtain ⟨opening, workers, openingRun, openingTrack⟩ := passesAll many inOrder
    (begin prims session history calls) Workers.onTrack_begin rfl front (stalled :: rest) split
    (Nat.zero_lt_of_lt several) (fun k listed => inside k (List.mem_append_left _ listed)) sortedFront
    (fun k listed l impossible => absurd impossible (lt_irrefl 0))
  have received := openingRun.append (.next (receives rfl rfl (Nat.zero_lt_of_lt several)) (.done _))
  have iFresh : (if i ∈ front.flatten then 3 else 0) = 0 := by
    refine if_neg fun listed => ?_
    exact (frontBefore i listed i (List.mem_append_left _ iListed)).false
  have frontAhead : ∀ k, 0 < (if k ∈ front.flatten then 3 else 0) →
      ∀ l ∈ stalled ++ rest.flatten, k < l := by
    intro k started l listed
    by_cases inFront : k ∈ front.flatten
    · exact frontBefore k inFront l listed
    · rw [if_neg inFront] at started
      exact absurd started (lt_irrefl 0)
  have jListed : j ∈ stalled ++ rest.flatten := by
    have listed : j ∈ front.flatten ++ (stalled ++ rest.flatten) := by
      rw [flat]
      exact List.mem_range.mpr jInside
    rcases List.mem_append.mp listed with inFront | later
    · exact absurd before (frontBefore j inFront i (List.mem_append_left _ iListed)).asymm
    · exact later
  rcases List.mem_append.mp jListed with together | apart
  · obtain ⟨events, after, run, rejected⟩ := overtakes many inOrder
      { begin prims session history calls with
        workers, arriving := rest, inFlight := [stalled], ended := [] ++ front }
      openingTrack rfl (List.mem_singleton_self stalled) (List.mem_singleton_self stalled) iListed
      together (fun k started => frontAhead k started j jListed) iFresh before here there far
    exact ⟨_, after, received.append run, rejected⟩
  · obtain ⟨events, after, run, rejected⟩ := overtakes_arriving several inOrder
      { begin prims session history calls with
        workers, arriving := rest, inFlight := [stalled], ended := [] ++ front }
      openingTrack rfl rfl iListed apart sortedRest
      (fun k listed => inside k (List.mem_append_right _ (List.mem_append_right _ listed)))
      frontAhead here there far
    exact ⟨_, after, received.append run, rejected⟩

/-! ### Every run ends -/

/-- The steps a call has still to take, at most. -/
def left : DecryptPhase → Nat
  | .start => 3
  | .checked => 2
  | .opened _ => 1
  | .done _ => 0

/-- The events that can still happen, at most. -/
def work (jobs : DecryptJobs) : Nat :=
  3 * jobs.arriving.length + 2 * jobs.inFlight.length + jobs.ended.length +
    (jobs.workers.tasks.map fun task => left task.phase).sum

/-- A call that has not returned comes closer to its end. -/
theorem left_advance {session : Session} {task : DecryptTask}
    (pending : ∀ result, task.phase ≠ .done result) :
    left (task.advance prims session).1.phase < left task.phase := by
  obtain ⟨counter, ciphertext, phase⟩ := task
  cases phase with
  | start =>
    cases checked : session.checkReplay counter <;> simp [DecryptTask.advance, checked, left]
  | checked =>
    cases opened : session.openCiphertext prims counter ciphertext <;>
      simp [DecryptTask.advance, opened, left]
  | opened plain =>
    cases rechecked : session.recheckCommit counter with
    | mk result after => cases result <;> simp [DecryptTask.advance, rechecked, left]
  | done result => exact absurd rfl (pending result)

/-- **Every event leaves less work.** -/
theorem work_step {jobs after : DecryptJobs} {event : JobEvent}
    (stepped : jobs.step prims threads event = some after) : after.work < jobs.work := by
  rcases step_cases stepped with ⟨job, arriving, -, waiting, -, rfl⟩ | ⟨i, -, may, rfl⟩ |
    ⟨k, job, -, found, -, rfl⟩ | ⟨k, job, -, found, rfl⟩
  · simp only [work, waiting, List.length_append, List.length_cons, List.length_nil]
    omega
  · obtain ⟨pending, -⟩ := may
    cases found : jobs.workers.tasks[i]? with
    | none =>
      rw [Workers.returned, found] at pending
      cases pending
    | some task =>
      have notDone : ∀ result, task.phase ≠ .done result := by
        rintro result isDone
        obtain ⟨counter, ciphertext, phase⟩ := task
        obtain rfl : phase = .done result := isDone
        rw [Workers.returned, found] at pending
        cases pending
      have less : left (task.advance prims jobs.workers.session).1.phase < left task.phase :=
        left_advance notDone
      obtain ⟨inside, here⟩ := List.getElem?_eq_some_iff.mp found
      have before := ((List.getElem_cons_eraseIdx_perm inside).map
        fun task => left task.phase).sum_nat
      have after := ((List.set_perm_cons_eraseIdx inside
        (task.advance prims jobs.workers.session).1).map fun task => left task.phase).sum_nat
      rw [here, List.map_cons, List.sum_cons] at before
      rw [List.map_cons, List.sum_cons] at after
      rw [Workers.step_eq found]
      simp only [work]
      omega
  · have inside := (List.getElem?_eq_some_iff.mp found).1
    simp only [work, List.length_append, List.length_singleton, List.length_eraseIdx_of_lt inside]
    omega
  · have inside := (List.getElem?_eq_some_iff.mp found).1
    simp only [work, List.length_eraseIdx_of_lt inside]
    omega

theorem length_positions (first : Nat) (calls : List (List (Nat × Bytes))) :
    (positions first calls).length = calls.length := by
  induction calls generalizing first with
  | nil => rfl
  | cons call calls ih => rw [positions, List.length_cons, ih, List.length_cons]

theorem work_begin (session : Session) (history : List Nat) (calls : List ReceiveCall) :
    (begin prims session history calls).work =
      3 * calls.length + 3 * (trials prims session calls).flatten.length := by
  have fresh : ((begin prims session history calls).workers.tasks.map
      fun task => left task.phase) =
        List.replicate (trials prims session calls).flatten.length 3 := by
    show (((trials prims session calls).flatten.map _).map _) = _
    rw [List.map_map]
    exact List.map_const'
  have length : (positions 0 (trials prims session calls)).length = calls.length := by
    rw [length_positions, trials, List.length_map]
  rw [work, fresh, List.sum_replicate_nat]
  simp only [begin, length, List.length_nil]
  omega

/-! ### The result -/

/-- A sequence of authentic datagrams of one session that arrives in counter order, with no Close
among them, which would end the tunnel. -/
structure Arrives (prims : Primitives) (session : Session) (history : List Nat)
    (calls : List ReceiveCall) (contents : List (FrameType × Bytes)) : Prop where
  carries : List.Forall₂ (session.Carries prims) (calls.flatMap ReceiveCall.iterDatagrams) contents
  increasing : ((trials prims session calls).flatten.map Prod.fst).Pairwise (· < ·)
  unseen : ∀ seen ∈ history, ∀ trial ∈ (trials prims session calls).flatten, seen < trial.1
  noClose : ∀ content ∈ contents, content.1 ≠ .close

theorem Arrives.inOrder {session : Session} {history : List Nat} {calls : List ReceiveCall}
    {contents : List (FrameType × Bytes)} (arrives : Arrives prims session history calls contents) :
    InOrder prims session history (trials prims session calls).flatten contents where
  frames := by
    rw [flatten_trials]
    exact frames_of_carries arrives.carries
  increasing := arrives.increasing
  unseen := arrives.unseen
  noClose := arrives.noClose

/-- **Parallel inbound decryption drops nothing, exactly below the window.** A sequence of authentic
datagrams of one session arrives in counter order, cut into receive calls in any way, on any number of
threads. Every run of the decrypt jobs ends. No run rejects a datagram, and every run that has ended has
delivered each exactly once, if and only if there is one thread or every counter of the sequence is
less than `2048` above every other. -/
theorem jobs_drop_nothing (prims : Primitives) (threads : Nat) (session : Session)
    (history : List Nat) (calls : List ReceiveCall) (contents : List (FrameType × Bytes))
    (positive : 0 < threads) (arrives : Arrives prims session history calls contents) :
    (∀ events jobs,
      Run (Taken (step prims threads)) (begin prims session history calls) events jobs →
        events.length ≤ 3 * calls.length + 3 * (trials prims session calls).flatten.length) ∧
    (DropsNothing prims threads session history calls contents ↔
      Narrow threads (trials prims session calls).flatten) := by
  refine ⟨fun events jobs run => ?_, fun dropsNothing => ?_, fun narrow => ?_⟩
  · rw [← work_begin session history calls]
    exact run.length_le work fun before event after stepped => work_step stepped
  · by_contra wide
    rw [Narrow, not_or] at wide
    obtain ⟨many, span⟩ := wide
    push Not at span
    obtain ⟨⟨first, ct⟩, firstIn, ⟨later, other⟩, laterIn, far⟩ := span
    obtain ⟨i, here⟩ := List.mem_iff_getElem?.mp firstIn
    obtain ⟨j, there⟩ := List.mem_iff_getElem?.mp laterIn
    have several : 1 < threads := lt_of_le_of_ne positive (Ne.symm many)
    obtain ⟨events, jobs, run, task, member, e, rejected⟩ :=
      overtaken several arrives.inOrder here there far
    exact (dropsNothing events jobs run).1 task member e rejected
  · exact dropsNothing_of_narrow positive arrives.inOrder narrow

/-! ### A sample sequence -/

/-- The peer's end of `sampleSession`. -/
def samplePeer : Session := .fromHandshakeWithAlgo .transparent 7 (.zero 32) true .aegis256X2

/-- An empty packet, sealed by the peer with a given counter. -/
def sampleSealed (counter : Nat) : Bytes :=
  (samplePeer.sealObfWithCounter .transparent counter FrameType.data.asU8 [] .off
    fun _ => 0).toOption.getD []

/-- The packets with the given counters in one receive call, each a message of its own. -/
def sampleCall (counters : List Nat) : ReceiveCall where
  messages := (counters.take recvBatch).map fun counter => ⟨0, (sampleSealed counter).take recvBuf⟩
  bounded := by
    rw [List.length_map]
    exact List.length_take_le _ _
  fits := by
    intro message member
    obtain ⟨counter, -, rfl⟩ := List.mem_map.mp member
    exact List.length_take_le _ _

/-- The packets with the counters below `count`, as many as fit in each receive call. -/
def sampleCalls (count : Nat) : List ReceiveCall :=
  (chunks recvBatch (List.range count)).map sampleCall

theorem sampleSealed_ok (counter : Nat) :
    samplePeer.sealObfWithCounter .transparent counter FrameType.data.asU8 [] .off (fun _ => 0) =
      .ok (sampleSealed counter) := by
  have short : (Obf.packInner FrameType.data.asU8 [] .off (Obf.maxFramed samplePeer.algo.tagLen)
      fun _ => 0).length ≤ 2 ^ 38 - 64 := by
    rw [Obf.length_packInner]
    decide
  obtain ⟨ct, sealed_⟩ : ∃ ct, samplePeer.sealWithCounter .transparent counter _ = .ok ct :=
    Session.sealWithCounter_exists Primitives.transparent_chachaSeals rfl counter short
  simp only [sampleSealed, Session.sealObfWithCounter, Session.sealObfCore, sealed_]
  rfl

theorem length_sampleSealed (counter : Nat) : (sampleSealed counter).length = 48 :=
  Session.length_sealed Primitives.transparent_aeadCorrect rfl (sampleSealed_ok counter)

/-- The receive calls hold the packets in order. -/
theorem iterDatagrams_sampleCalls (count : Nat) :
    (sampleCalls count).flatMap ReceiveCall.iterDatagrams =
      (List.range count).map sampleSealed := by
  have each : ∀ counters ∈ chunks recvBatch (List.range count),
      (sampleCall counters).iterDatagrams = counters.map sampleSealed := by
    intro counters member
    have fits : counters.length ≤ recvBatch := length_of_mem_chunksFrom member
    have message : ∀ counter, chunks (max (sampleSealed counter).length 1) (sampleSealed counter) =
        [sampleSealed counter] := by
      intro counter
      have positive : 0 < (sampleSealed counter).length := by
        rw [length_sampleSealed]
        decide
      rw [max_eq_left positive]
      exact chunks_length (List.ne_nil_of_length_pos positive)
    have whole : ∀ counter, (sampleSealed counter).take recvBuf = sampleSealed counter := by
      intro counter
      apply List.take_of_length_le
      rw [length_sampleSealed]
      decide
    simp only [ReceiveCall.iterDatagrams, sampleCall, List.take_of_length_le fits, List.flatMap_map,
      if_true, whole, message]
    exact List.map_eq_flatMap.symm
  calc (sampleCalls count).flatMap ReceiveCall.iterDatagrams
      = ((chunks recvBatch (List.range count)).map fun counters =>
          (sampleCall counters).iterDatagrams).flatten := by
        rw [sampleCalls, List.flatMap_map]
        rfl
    _ = ((chunks recvBatch (List.range count)).map (List.map sampleSealed)).flatten := by
        rw [List.map_congr_left each]
    _ = (List.range count).map sampleSealed := by
        rw [← List.map_flatten, chunks_flatten (by decide)]

/-- The sample sequence arrives in order, with the counters from `0` on. -/
theorem sample_arrives (count : Nat) (small : count ≤ 2 ^ 64) :
    Arrives .transparent Workers.sampleSession [] (sampleCalls count)
        (List.replicate count (.data, [])) ∧
      (trials .transparent Workers.sampleSession (sampleCalls count)).flatten.map Prod.fst =
        List.range count := by
  have opens : Session.Opens samplePeer Workers.sampleSession :=
    Session.opens_fromHandshake .transparent 7 (.zero 32) true .aegis256X2
  have each : ∀ counter ∈ List.range count, ∃ ct,
      Workers.sampleSession.addressed .transparent (sampleSealed counter) = some (counter, ct) ∧
      Workers.sampleSession.Frames .transparent (counter, ct) (.data, []) := fun counter member =>
    Session.addressed_sealed Primitives.transparent_aeadCorrect opens
      ((List.mem_range.mp member).trans_le small) (Nat.zero_le _) (sampleSealed_ok counter)
  have counters : (trials .transparent Workers.sampleSession (sampleCalls count)).flatten.map
      Prod.fst = List.range count := by
    rw [flatten_trials, iterDatagrams_sampleCalls, List.filterMap_map, List.map_filterMap]
    have found : ∀ counter ∈ List.range count,
        (((Workers.sampleSession.addressed .transparent) ∘ sampleSealed) counter).map Prod.fst =
          some counter := by
      intro counter member
      obtain ⟨ct, addressed, -⟩ := each counter member
      rw [Function.comp_apply, addressed]
      rfl
    rw [List.filterMap_congr found, List.filterMap_some]
  refine ⟨⟨?_, ?_, fun _ none => (nomatch none), ?_⟩, counters⟩
  · have contents : List.replicate count (FrameType.data, ([] : Bytes)) =
        (List.range count).map fun _ => (FrameType.data, []) := by
      rw [List.map_const', List.length_range]
    rw [iterDatagrams_sampleCalls, contents, List.forall₂_map_left_iff, List.forall₂_map_right_iff,
      List.forall₂_same]
    intro counter member
    obtain ⟨ct, addressed, frames⟩ := each counter member
    exact ⟨_, addressed, frames⟩
  · rw [counters]
    exact List.pairwise_lt_range
  · intro content member
    rw [List.eq_of_mem_replicate member]
    decide

theorem jobs_drop_nothing_sample :
    0 < 4 ∧ DropsNothing .transparent 4 Workers.sampleSession [] (sampleCalls 40)
      (List.replicate 40 (.data, [])) := by
  obtain ⟨arrives, counters⟩ := sample_arrives 40 (by decide)
  have below : ∀ trial ∈ (trials .transparent Workers.sampleSession (sampleCalls 40)).flatten,
      trial.1 < 40 := by
    intro trial member
    rw [← List.mem_range, ← counters]
    exact List.mem_map_of_mem member
  have narrow : Narrow 4 (trials .transparent Workers.sampleSession (sampleCalls 40)).flatten := by
    refine Or.inr fun first _ later member => ?_
    have := below later member
    rw [windowBits]
    omega
  exact ⟨by decide, (jobs_drop_nothing .transparent 4 Workers.sampleSession [] (sampleCalls 40) _
    (by decide) arrives).2.mpr narrow⟩

/-- **A job that stands still is overtaken by a whole window**: with two threads, the packets with the
counters `0` to `2048` in order and without loss, one a message and `32` a receive call. -/
theorem stalled_job_overtaken :
    Arrives .transparent Workers.sampleSession [] (sampleCalls 2049)
        (List.replicate 2049 (.data, [])) ∧
      ¬ DropsNothing .transparent 2 Workers.sampleSession [] (sampleCalls 2049)
        (List.replicate 2049 (.data, [])) := by
  obtain ⟨arrives, counters⟩ := sample_arrives 2049 (by decide)
  refine ⟨arrives, fun dropsNothing => ?_⟩
  have at_ : ∀ i < 2049, ∃ ct,
      (trials .transparent Workers.sampleSession (sampleCalls 2049)).flatten[i]? = some (i, ct) := by
    intro i inside
    have here : ((trials .transparent Workers.sampleSession (sampleCalls 2049)).flatten.map
        Prod.fst)[i]? = some i := by
      rw [counters]
      exact List.getElem?_range inside
    rw [List.getElem?_map, Option.map_eq_some_iff] at here
    obtain ⟨⟨counter, ct⟩, found, rfl⟩ := here
    exact ⟨ct, found⟩
  obtain ⟨ct, here⟩ := at_ 0 (by decide)
  obtain ⟨other, there⟩ := at_ 2048 (by decide)
  obtain ⟨events, jobs, run, task, member, e, rejected⟩ :=
    overtaken (show 1 < 2 by decide) arrives.inOrder here there (by decide)
  exact (dropsNothing events jobs run).1 task member e rejected

end DecryptJobs

end ChameleonPQ
