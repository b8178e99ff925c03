/-
**Batched UDP I/O (`udp.rs`).**

* `groupEqualSized`, `batchSend` — a batch cut into runs of one size, and a run into transmits of at most
  as many segments as the socket layer reports; `flush` is the loop of the senders over the runs.
* `Transmit.segments` — what the kernel puts on the wire for a transmit.
* `iterDatagrams` — the datagrams of a received batch.
* `segmentation_transparent` — the wire carries the batch as if it were sent one by one, and coalesced
  datagrams come back out of the receive buffers.
* `offload_within_limit` — exactly when no transmit exceeds the largest UDP payload.
-/

import ChameleonPQ.Library.EqualRuns
import ChameleonPQ.Net.Drivers
import ChameleonPQ.Tunnel.DecryptJobs

namespace ChameleonPQ

open Library

/-- `quinn_udp::Transmit`; `ecn` and `src_ip` are not set. -/
structure Transmit where
  destination : SocketAddr
  contents : Bytes
  segmentSize : Option Nat
  deriving DecidableEq

/-- The datagrams that leave for a transmit: its contents, cut at the segment size. -/
def Transmit.segments (transmit : Transmit) : List Bytes :=
  match transmit.segmentSize with
  | none => [transmit.contents]
  | some size => chunks size transmit.contents

/-- `group_equal_sized`. -/
def groupEqualSized (datagrams : List Bytes) : List (List Bytes × Nat) :=
  equalRuns List.length datagrams

/-- `max_seg` of `batch_send`; `reported` is `max_gso_segments()`. -/
def maxSegments (reported : Nat) (gso : Bool) : Nat := if gso then max reported 1 else 1

/-- One round of the loop of `batch_send`. -/
def batchTransmit (peer : SocketAddr) (segSize : Nat) (datagrams : List Bytes) : Transmit where
  destination := peer
  contents := datagrams.flatten
  segmentSize := if 1 < datagrams.length then some segSize else none

/-- `batch_send`: the transmits it builds, in the order it sends them. -/
def batchSend (peer : SocketAddr) (reported : Nat) (gso : Bool) (datagrams : List Bytes)
    (segSize : Nat) : List Transmit :=
  (chunks (maxSegments reported gso) datagrams).map (batchTransmit peer segSize)

/-- The loop of every sender: `batch_send` for each run of a batch. -/
def flush (peer : SocketAddr) (reported : Nat) (gso : Bool) (wires : List Bytes) : List Transmit :=
  (groupEqualSized wires).flatMap fun (run, seg) => batchSend peer reported gso run seg

/-- `quinn_udp::RecvMeta`, as far as it is read. -/
structure RecvMeta where
  addr : SocketAddr
  len : Nat
  stride : Nat

/-- `iter_datagrams`. -/
def iterDatagrams (storage : List Bytes) (metas : List RecvMeta) (count : Nat) :
    List (SocketAddr × Bytes) :=
  ((metas.take count).zip storage).flatMap fun (m, buf) =>
    let len := min m.len buf.length
    let stride := max (if m.stride = 0 then len else m.stride) 1
    (chunks stride (buf.take len)).map (m.addr, ·)

/-- `RecvMessage` is a buffer with its meta data, cut to its length. -/
theorem iterDatagrams_receiveCall (call : ReceiveCall) (addr : SocketAddr) :
    iterDatagrams (call.messages.map RecvMessage.bytes)
        (call.messages.map fun message => ⟨addr, message.bytes.length, message.stride⟩)
        call.messages.length =
      call.iterDatagrams.map (addr, ·) := by
  rw [iterDatagrams, ReceiveCall.iterDatagrams, List.take_of_length_le (List.length_map _).le,
    List.zip_map', List.flatMap_map, List.map_flatMap]
  simp only [min_self, List.take_length]

/-! ### Sending -/

section Sending

variable {peer : SocketAddr} {reported segSize : Nat} {gso : Bool} {datagrams : List Bytes}

theorem maxSegments_pos (reported : Nat) (gso : Bool) : 0 < maxSegments reported gso := by
  unfold maxSegments
  split
  · exact Nat.lt_of_lt_of_le Nat.one_pos (Nat.le_max_right _ _)
  · exact Nat.one_pos

/-- A transmit of datagrams of one size leaves as these datagrams. -/
theorem segments_batchTransmit (nonempty : datagrams ≠ []) (positive : 0 < segSize)
    (same : ∀ datagram ∈ datagrams, datagram.length = segSize) :
    (batchTransmit peer segSize datagrams).segments = datagrams := by
  unfold batchTransmit Transmit.segments
  by_cases several : 1 < datagrams.length
  · simp only [if_pos several]
    exact chunks_strided (strided_of_length positive same)
  · simp only [if_neg several]
    match datagrams, nonempty with
    | [datagram], _ => simp
    | _ :: _ :: _, _ => exact absurd (Nat.succ_lt_succ (Nat.succ_pos _)) several

/-- **The transmits of a run leave as its datagrams**, whatever the segment cap. -/
theorem segments_batchSend (positive : 0 < segSize)
    (same : ∀ datagram ∈ datagrams, datagram.length = segSize) :
    (batchSend peer reported gso datagrams segSize).flatMap Transmit.segments = datagrams := by
  have each : ∀ group ∈ chunks (maxSegments reported gso) datagrams,
      (batchTransmit peer segSize group).segments = group := by
    intro group present
    refine segments_batchTransmit (ne_nil_of_mem_chunksFrom (maxSegments_pos reported gso) present)
      positive fun datagram among => ?_
    exact same datagram ((infix_of_mem_chunksFrom present).subset among)
  rw [batchSend, List.flatMap_map, List.flatMap_congr each, List.flatMap_id']
  exact chunks_flatten (maxSegments_pos reported gso) datagrams

/-- **A batch leaves as its datagrams in their order.** -/
theorem segments_flush (nonempty : ∀ datagram ∈ datagrams, datagram ≠ []) :
    (flush peer reported gso datagrams).flatMap Transmit.segments = datagrams := by
  have each : ∀ run ∈ groupEqualSized datagrams,
      (batchSend peer reported gso run.1 run.2).flatMap Transmit.segments = run.1 := by
    intro run present
    obtain ⟨filled, same⟩ := of_mem_equalRunsFrom present
    obtain ⟨first, among⟩ := List.exists_mem_of_ne_nil run.1 filled
    have positive : 0 < run.2 := by
      rw [← same first among]
      exact List.length_pos_of_ne_nil (nonempty first ((infix_of_mem_equalRunsFrom present).subset among))
    exact segments_batchSend positive same
  calc (flush peer reported gso datagrams).flatMap Transmit.segments
      = (groupEqualSized datagrams).flatMap fun run =>
          (batchSend peer reported gso run.1 run.2).flatMap Transmit.segments := List.flatMap_assoc
    _ = (groupEqualSized datagrams).flatMap Prod.fst := List.flatMap_congr each
    _ = datagrams := equalRuns_flatten datagrams

/-- Every transmit goes to the peer. -/
theorem destination_of_mem_flush {transmit : Transmit} (present : transmit ∈ flush peer reported gso datagrams) :
    transmit.destination = peer := by
  obtain ⟨run, -, built⟩ := List.mem_flatMap.mp present
  obtain ⟨group, -, rfl⟩ := List.mem_map.mp built
  rfl

/-- Without offload each datagram is a transmit of its own. -/
theorem flush_unsegmented (peer : SocketAddr) (reported : Nat) (datagrams : List Bytes) :
    flush peer reported false datagrams = datagrams.map fun datagram => ⟨peer, datagram, none⟩ := by
  have each : ∀ run ∈ groupEqualSized datagrams, batchSend peer reported false run.1 run.2 =
      run.1.map fun datagram => ⟨peer, datagram, none⟩ := by
    intro run _
    rw [batchSend, show maxSegments reported false = 1 from rfl, chunks_one, List.map_map]
    apply List.map_congr_left
    intro datagram _
    simp [batchTransmit]
  calc flush peer reported false datagrams
      = (groupEqualSized datagrams).flatMap fun run =>
          run.1.map fun datagram => ⟨peer, datagram, none⟩ := List.flatMap_congr each
    _ = ((groupEqualSized datagrams).flatMap Prod.fst).map fun datagram => ⟨peer, datagram, none⟩ :=
          List.map_flatMap.symm
    _ = _ := congrArg _ (equalRuns_flatten datagrams)

end Sending

/-! ### Receiving -/

/-- One message of a receive call: the datagrams it holds lie one after the other at the front of the
buffer, `stride` octets each but for the last; a single one may come without a stride. -/
structure Coalesced where
  datagrams : List Bytes
  received : RecvMeta
  buffer : Bytes
  front : datagrams.flatten <+: buffer
  length : received.len = datagrams.flatten.length
  strided : received.stride ≠ 0 → Strided received.stride datagrams
  single : received.stride = 0 → datagrams.length ≤ 1 ∧ ∀ datagram ∈ datagrams, datagram ≠ []

/-- **A message is cut back into its datagrams.** -/
theorem Coalesced.chunks_eq (message : Coalesced) :
    (let len := min message.received.len message.buffer.length
     let stride := max (if message.received.stride = 0 then len else message.received.stride) 1
     chunks stride (message.buffer.take len)) = message.datagrams := by
  obtain ⟨datagrams, received, buffer, ⟨spare, rfl⟩, length, strided, single⟩ := message
  have inside : min received.len (datagrams.flatten ++ spare).length = datagrams.flatten.length := by
    rw [length, List.length_append]
    omega
  simp only [inside, List.take_left]
  by_cases lone : received.stride = 0
  · rw [if_pos lone]
    obtain ⟨atMostOne, nonempty⟩ := single lone
    match datagrams, atMostOne with
    | [], _ => rfl
    | [datagram], _ =>
      have filled := nonempty datagram (List.mem_singleton_self _)
      have positive := List.length_pos_of_ne_nil filled
      simp only [List.flatten_cons, List.flatten_nil, List.append_nil, Nat.max_eq_left positive]
      exact chunks_length filled
    | _ :: _ :: _, tooMany => simp at tooMany
  · rw [if_neg lone, Nat.max_eq_left (Nat.pos_of_ne_zero lone)]
    exact chunks_strided (strided lone)

/-- **A receive call gives back the datagrams of its messages**, each with its source, whatever the
buffers and the meta data past the last message hold. -/
theorem iterDatagrams_coalesced (messages : List Coalesced) (spareBuffers : List Bytes)
    (spareMetas : List RecvMeta) :
    iterDatagrams (messages.map Coalesced.buffer ++ spareBuffers)
        (messages.map Coalesced.received ++ spareMetas) messages.length =
      messages.flatMap fun message => message.datagrams.map (message.received.addr, ·) := by
  have metas : (messages.map Coalesced.received ++ spareMetas).take messages.length =
      messages.map Coalesced.received := List.take_left' (List.length_map _)
  have zipped : (messages.map Coalesced.received).zip (messages.map Coalesced.buffer ++ spareBuffers) =
      messages.map fun message => (message.received, message.buffer) := by
    induction messages with
    | nil => rfl
    | cons message rest ih => simp [ih]
  rw [iterDatagrams, metas, zipped, List.flatMap_map]
  apply List.flatMap_congr
  intro message _
  exact congrArg _ message.chunks_eq

/-- **Segmentation offload is transparent.** What leaves for the transmits of a batch is the batch, in
its order and towards the peer, for every segment cap; with the offload off the transmits are the
datagrams one by one. What a receive call coalesced comes back as it was. -/
theorem segmentation_transparent (peer : SocketAddr) (reported : Nat) (gso : Bool)
    {datagrams : List Bytes} (nonempty : ∀ datagram ∈ datagrams, datagram ≠ [])
    (messages : List Coalesced) (spareBuffers : List Bytes) (spareMetas : List RecvMeta) :
    ((flush peer reported gso datagrams).flatMap Transmit.segments = datagrams ∧
      (∀ transmit ∈ flush peer reported gso datagrams, transmit.destination = peer) ∧
      flush peer reported false datagrams = datagrams.map fun datagram => ⟨peer, datagram, none⟩) ∧
    iterDatagrams (messages.map Coalesced.buffer ++ spareBuffers)
        (messages.map Coalesced.received ++ spareMetas) messages.length =
      messages.flatMap fun message => message.datagrams.map (message.received.addr, ·) :=
  ⟨⟨segments_flush nonempty, fun _ present => destination_of_mem_flush present,
    flush_unsegmented peer reported datagrams⟩, iterDatagrams_coalesced messages spareBuffers spareMetas⟩

/-- Five datagrams of three sizes under a cap of two segments. -/
def sampleBatch : List Bytes := [[1, 2], [3, 4], [5, 6], [7], [8, 9]]

/-- Three datagrams in one buffer that has room for more. -/
def sampleCoalesced : Coalesced where
  datagrams := [[1, 2], [3, 4], [5]]
  received := ⟨⟨[127, 0, 0, 1], 9⟩, 5, 2⟩
  buffer := [1, 2, 3, 4, 5, 0, 0]
  front := ⟨[0, 0], rfl⟩
  length := rfl
  strided := fun _ => ⟨rfl, rfl, by decide, by decide⟩
  single := fun none => absurd none (by decide)

theorem segmentation_transparent_sample :
    (flush ⟨[127, 0, 0, 1], 9⟩ 2 true sampleBatch).flatMap Transmit.segments = sampleBatch ∧
      iterDatagrams [[1, 2, 3, 4, 5, 0, 0], [0]] [⟨⟨[127, 0, 0, 1], 9⟩, 5, 2⟩] 1 =
        [(⟨[127, 0, 0, 1], 9⟩, [1, 2]), (⟨[127, 0, 0, 1], 9⟩, [3, 4]), (⟨[127, 0, 0, 1], 9⟩, [5])] := by
  have both := segmentation_transparent ⟨[127, 0, 0, 1], 9⟩ 2 true
    (show ∀ datagram ∈ sampleBatch, datagram ≠ [] by decide) [sampleCoalesced] [[0]] []
  exact ⟨both.1.1, both.2⟩

/-! ### The size of a transmit -/

/-- The largest UDP payload over IPv4. -/
def maxUdpPayload : Nat := 65507

section Limit

variable {peer : SocketAddr} {reported : Nat} {gso : Bool} {datagrams : List Bytes}

/-- Consecutive datagrams of one size, at most as many as go in one transmit. -/
structure Groupable (reported : Nat) (gso : Bool) (datagrams block : List Bytes) : Prop where
  inside : block <:+: datagrams
  few : block.length ≤ maxSegments reported gso
  same : ∀ first ∈ block, ∀ second ∈ block, first.length = second.length

/-- A transmit holds consecutive datagrams of one size. -/
theorem groupable_of_mem_flush {transmit : Transmit}
    (present : transmit ∈ flush peer reported gso datagrams) :
    ∃ block, Groupable reported gso datagrams block ∧ transmit.contents = block.flatten := by
  obtain ⟨run, among, built⟩ := List.mem_flatMap.mp present
  obtain ⟨group, cut, rfl⟩ := List.mem_map.mp built
  have within := infix_of_mem_chunksFrom cut
  have size := (of_mem_equalRunsFrom among).2
  refine ⟨group, ⟨within.trans (infix_of_mem_equalRunsFrom among), length_of_mem_chunksFrom cut,
    fun first firstAmong second secondAmong => ?_⟩, rfl⟩
  exact (size first (within.subset firstAmong)).trans (size second (within.subset secondAmong)).symm

/-- **Groupable datagrams are filled up**: a transmit holds at least as many octets. -/
theorem exists_transmit_of_groupable (peer : SocketAddr) {block : List Bytes}
    (groupable : Groupable reported gso datagrams block) (nonempty : block ≠ []) :
    ∃ transmit ∈ flush peer reported gso datagrams,
      block.flatten.length ≤ transmit.contents.length := by
  obtain ⟨run, among, within⟩ := exists_run_of_infix nonempty groupable.same (Nat.le_refl _)
    groupable.inside
  obtain ⟨filled, size⟩ := of_mem_equalRunsFrom among
  have total : ∀ part : List Bytes, (∀ datagram ∈ part, datagram.length = run.2) →
      part.flatten.length = part.length * run.2 := by
    intro part same
    rw [List.length_flatten, List.map_congr_left same, List.map_const', List.sum_replicate_nat]
  refine ⟨batchTransmit peer run.2 (run.1.take (maxSegments reported gso)), ?_, ?_⟩
  · exact List.mem_flatMap.mpr ⟨run, among, List.mem_map_of_mem (take_mem_chunks _ filled)⟩
  · show block.flatten.length ≤ (run.1.take (maxSegments reported gso)).flatten.length
    rw [total _ fun datagram member => size datagram (within.subset member),
      total _ fun datagram member => size datagram (List.mem_of_mem_take member), List.length_take]
    exact Nat.mul_le_mul_right _ (le_min groupable.few within.length_le)

/-- **Offloaded sends stay within the UDP limit exactly when no datagrams that go in one transmit exceed
it together**: no consecutive datagrams of one size, at most as many as the segment cap. -/
theorem offload_within_limit (peer : SocketAddr) (reported : Nat) (gso : Bool) (datagrams : List Bytes) :
    (∀ transmit ∈ flush peer reported gso datagrams, transmit.contents.length ≤ maxUdpPayload) ↔
      ∀ block, Groupable reported gso datagrams block → block.flatten.length ≤ maxUdpPayload := by
  constructor
  · intro within block groupable
    by_cases empty : block = []
    · rw [empty]
      exact Nat.zero_le _
    · obtain ⟨transmit, present, atLeast⟩ := exists_transmit_of_groupable peer groupable empty
      exact atLeast.trans (within transmit present)
  · intro blocks transmit present
    obtain ⟨block, groupable, contents⟩ := groupable_of_mem_flush present
    rw [contents]
    exact blocks block groupable

/-- Fifty-two datagrams of the full size under a cap of sixty-four segments make one transmit of 66560
octets. -/
theorem full_batch_exceeds_limit :
    ∃ datagrams : List Bytes, (∀ datagram ∈ datagrams, datagram.length ≤ Obf.mtuWire) ∧
      ∃ transmit ∈ flush ⟨[127, 0, 0, 1], 9⟩ 64 true datagrams,
        maxUdpPayload < transmit.contents.length := by
  have size : ∀ datagram ∈ List.replicate 52 (List.replicate 1280 (0 : UInt8)),
      datagram.length = 1280 := by
    intro datagram member
    rw [List.eq_of_mem_replicate member, List.length_replicate]
  refine ⟨List.replicate 52 (List.replicate 1280 0), fun datagram member => (size datagram member).le, ?_⟩
  have groupable : Groupable 64 true (List.replicate 52 (List.replicate 1280 (0 : UInt8)))
      (List.replicate 52 (List.replicate 1280 0)) := by
    refine ⟨List.infix_rfl, ?_, fun first firstAmong second secondAmong => ?_⟩
    · rw [List.length_replicate]
      decide
    · rw [size first firstAmong, size second secondAmong]
  obtain ⟨transmit, present, atLeast⟩ := exists_transmit_of_groupable ⟨[127, 0, 0, 1], 9⟩ groupable
    (List.replicate_succ_ne_nil)
  refine ⟨transmit, present, lt_of_lt_of_le ?_ atLeast⟩
  rw [List.length_flatten, List.map_replicate, List.sum_replicate_nat, List.length_replicate]
  decide

end Limit

end ChameleonPQ
