/-
**The outbound loop keeps its traffic.**

* `Conserved` — every packet taken in is sealed, pending or tail-dropped, once; seals are in arrival
  order and at increasing counters. Every event keeps it, unless a reservation or a seal failed.
* `HandedOnce` — what went into the order channel, to the pipeline sender and into the slots is what the
  packets were sealed to, and what the slots carry beside them, each once.
* `Settled` — after a switch to unpaced and one further tick nothing accepted before the switch is left.
* `SinkEmpty` — the handshake queue is empty when the loop is switched to unpaced, which is when
  the loop stops draining it.
* `traffic_conserved` — the statement over whole runs.
-/

import ChameleonPQ.Tunnel.Outbound
import Mathlib.Data.List.Range

namespace ChameleonPQ

open Library Library.Runs

/-- Sealed earlier: on an earlier session, or at a lower counter of the same one. -/
def Seal.Before (first second : Seal) : Prop :=
  first.epoch < second.epoch ∨ first.epoch = second.epoch ∧ first.counter < second.counter

section SealsAt

theorem arrivals_sealsAt {epoch counter : Nat} {batch : List (Stamped Bytes)} {wires : List Bytes}
    (whole : wires.length = batch.length) :
    (sealsAt epoch counter batch wires).map Seal.arrival = batch.map Stamped.arrival := by
  induction batch generalizing counter wires with
  | nil =>
    obtain rfl := List.eq_nil_of_length_eq_zero whole
    rfl
  | cons packet batch ih =>
    obtain ⟨wire, wires, rfl⟩ := List.exists_cons_of_length_eq_add_one whole
    rw [sealsAt, List.map_cons, List.map_cons, ih (Nat.succ.inj whole)]

theorem wires_sealsAt {epoch counter : Nat} {batch : List (Stamped Bytes)} {wires : List Bytes}
    (whole : wires.length = batch.length) : (sealsAt epoch counter batch wires).map Seal.wire = wires := by
  induction batch generalizing counter wires with
  | nil =>
    obtain rfl := List.eq_nil_of_length_eq_zero whole
    rfl
  | cons packet batch ih =>
    obtain ⟨wire, wires, rfl⟩ := List.exists_cons_of_length_eq_add_one whole
    rw [sealsAt, List.map_cons, ih (Nat.succ.inj whole)]

theorem mem_sealsAt {epoch counter : Nat} {batch : List (Stamped Bytes)} {wires : List Bytes} {entry : Seal}
    (member : entry ∈ sealsAt epoch counter batch wires) :
    entry.epoch = epoch ∧ counter ≤ entry.counter ∧ entry.counter < counter + batch.length := by
  induction batch generalizing counter wires with
  | nil => cases member
  | cons packet batch ih =>
    cases wires with
    | nil => cases member
    | cons wire wires =>
      rw [List.length_cons]
      rcases List.mem_cons.mp member with rfl | later
      · exact ⟨rfl, Nat.le_refl _, by show counter < _; omega⟩
      · obtain ⟨same, low, high⟩ := ih later
        exact ⟨same, by omega, by omega⟩

theorem pairwise_sealsAt (epoch counter : Nat) (batch : List (Stamped Bytes)) (wires : List Bytes) :
    (sealsAt epoch counter batch wires).Pairwise Seal.Before := by
  induction batch generalizing counter wires with
  | nil => exact .nil
  | cons packet batch ih =>
    cases wires with
    | nil => exact .nil
    | cons wire wires =>
      refine List.Pairwise.cons (fun later member => ?_) (ih (counter + 1) wires)
      obtain ⟨same, low, _⟩ := mem_sealsAt member
      exact Or.inr ⟨same.symm, low⟩

theorem length_stamp {Item : Type} (first : Nat) (items : List Item) :
    (stamp first items).length = items.length := by
  induction items generalizing first with
  | nil => rfl
  | cons item items ih => rw [stamp, List.length_cons, List.length_cons, ih]

end SealsAt

namespace Ledger

/-- What went to a sender: through the order channel, to the pipeline sender, or in a slot. -/
def handedOver (ledger : Ledger) : List Bytes :=
  ledger.orderTx.flatten ++ ledger.sendTx.flatten ++ ledger.slots.flatten

/-- What there was to send: what the packets were sealed to, and what there was for the slots beside them. -/
def produced (ledger : Ledger) : List Bytes := ledger.seals.map Seal.wire ++ ledger.beside

/-- **Everything goes to a sender, once.** -/
def HandedOnce (ledger : Ledger) : Prop := ledger.handedOver.Perm ledger.produced

theorem HandedOnce.gain {before after : Ledger} (once : before.HandedOnce) {gained : List Bytes}
    (handed : after.handedOver.Perm (before.handedOver ++ gained))
    (made : after.produced.Perm (before.produced ++ gained)) : after.HandedOnce :=
  handed.trans ((once.append_right gained).trans made.symm)

end Ledger

namespace Outbound

/-- The packets sealed and those still pending, in the order they are or will be sealed. -/
def line (outbound : Outbound) : List Nat :=
  outbound.ledger.seals.map Seal.arrival ++ outbound.pending.map Stamped.arrival

/-- Nothing that was taken in is lost, doubled or reordered: of the first `seen` packets each is
sealed, pending or dropped on arrival. -/
structure Conserved (seen : Nat) (outbound : Outbound) : Prop where
  every : (outbound.line ++ outbound.ledger.dropped.map TailDrop.arrival).Perm (List.range seen)
  order : outbound.line.Pairwise (· < ·)
  counters : outbound.ledger.seals.Pairwise Seal.Before
  below : ∀ entry ∈ outbound.ledger.seals, entry.epoch < outbound.ledger.epoch ∨
    entry.epoch = outbound.ledger.epoch ∧ entry.counter < outbound.sessions.current.txCounter
  drops : ∀ drop ∈ outbound.ledger.dropped, drop.paced = true ∧ drop.pending = maxQueue
  capacity : outbound.pending.length ≤ maxQueue
  limit : outbound.sessions.current.rekeyAt = 2 ^ 48

/-- Conserved, unless a reservation or a seal failed. -/
def Healthy (seen : Nat) (outbound : Outbound) : Prop :=
  outbound.ledger.failures = 0 → Conserved seen outbound

section Steps

variable {prims : Primitives} {config : OutboundConfig} {seen : Nat} {outbound : Outbound}

theorem healthy_fail (seen : Nat) (outbound : Outbound) : Healthy seen outbound.fail :=
  fun none => nomatch none

/-- The counters may move on, and the session may stay. -/
theorem Conserved.advance (conserved : Conserved seen outbound) {after : Outbound}
    (pending : after.pending = outbound.pending) (seals : after.ledger.seals = outbound.ledger.seals)
    (dropped : after.ledger.dropped = outbound.ledger.dropped)
    (epoch : after.ledger.epoch = outbound.ledger.epoch)
    (counter : outbound.sessions.current.txCounter ≤ after.sessions.current.txCounter)
    (limit : after.sessions.current.rekeyAt = outbound.sessions.current.rekeyAt) :
    Conserved seen after := by
  have line : after.line = outbound.line := by rw [Outbound.line, Outbound.line, seals, pending]
  constructor
  · rw [line, dropped]
    exact conserved.every
  · rw [line]
    exact conserved.order
  · rw [seals]
    exact conserved.counters
  · intro entry member
    rw [seals] at member
    rw [epoch]
    exact (conserved.below entry member).imp id fun current =>
      ⟨current.1, Nat.lt_of_lt_of_le current.2 counter⟩
  · rw [dropped]
    exact conserved.drops
  · rw [pending]
    exact conserved.capacity
  · rw [limit]
    exact conserved.limit

/-- **Sealing the front of the queue keeps the traffic**, when it spends as many counters. -/
theorem Conserved.noteSeals (conserved : Conserved seen outbound) {after : Outbound}
    {batch : List (Stamped Bytes)} {wires : List Bytes} (whole : wires.length = batch.length)
    (pending : outbound.pending = batch ++ after.pending)
    (ledger : after.ledger = outbound.ledger)
    (counter : after.sessions.current.txCounter =
      outbound.sessions.current.txCounter + batch.length)
    (limit : after.sessions.current.rekeyAt = outbound.sessions.current.rekeyAt) :
    Conserved seen (after.noteSeals batch outbound.sessions.current.txCounter wires) := by
  have line : (after.noteSeals batch outbound.sessions.current.txCounter wires).line = outbound.line := by
    show ((after.ledger.seals ++ sealsAt after.ledger.epoch _ batch wires).map Seal.arrival) ++ _ = _
    rw [List.map_append, arrivals_sealsAt whole, ledger, Outbound.line, pending, List.map_append,
      List.append_assoc]
    rfl
  constructor
  · rw [line]
    show (_ ++ after.ledger.dropped.map TailDrop.arrival).Perm _
    rw [ledger]
    exact conserved.every
  · rw [line]
    exact conserved.order
  · show (after.ledger.seals ++ sealsAt after.ledger.epoch _ batch wires).Pairwise Seal.Before
    rw [ledger]
    refine List.pairwise_append.mpr ⟨conserved.counters, pairwise_sealsAt _ _ _ _, ?_⟩
    intro first old second new
    obtain ⟨epoch, low, _⟩ := mem_sealsAt new
    rcases conserved.below first old with earlier | ⟨same, less⟩
    · exact Or.inl (by rw [epoch]; exact earlier)
    · exact Or.inr ⟨same.trans epoch.symm, Nat.lt_of_lt_of_le less low⟩
  · intro entry member
    replace member : entry ∈ after.ledger.seals ++
      sealsAt after.ledger.epoch outbound.sessions.current.txCounter batch wires := member
    rw [ledger] at member
    show entry.epoch < after.ledger.epoch ∨ entry.epoch = after.ledger.epoch ∧
      entry.counter < after.sessions.current.txCounter
    rw [ledger, counter]
    rcases List.mem_append.mp member with old | new
    · exact (conserved.below entry old).imp id fun current => ⟨current.1, by omega⟩
    · obtain ⟨epoch, _, high⟩ := mem_sealsAt new
      exact Or.inr ⟨epoch, high⟩
  · show ∀ drop ∈ after.ledger.dropped, _
    rw [ledger]
    exact conserved.drops
  · have capacity := conserved.capacity
    rw [pending, List.length_append] at capacity
    show after.pending.length ≤ maxQueue
    omega
  · exact limit.trans conserved.limit

/-- Staging the next packet: it waits, or it is dropped because the queue is full. -/
theorem Conserved.stage (conserved : Conserved seen outbound) (paced : outbound.paced = true)
    {packet : Stamped Bytes} (next : packet.arrival = seen) :
    Conserved (seen + 1) (outbound.stage packet) := by
  have fresh : ∀ arrival ∈ outbound.line, arrival < seen := by
    intro arrival member
    exact List.mem_range.mp (conserved.every.mem_iff.mp (List.mem_append_left _ member))
  unfold Outbound.stage
  split
  · rename_i full
    refine ⟨?_, conserved.order, conserved.counters, conserved.below, ?_,
      conserved.capacity, conserved.limit⟩
    · show (outbound.line ++ (outbound.ledger.dropped ++ [_]).map TailDrop.arrival).Perm _
      rw [List.map_append, ← List.append_assoc, List.range_succ, List.map_singleton, next]
      exact conserved.every.append_right [seen]
    · intro drop member
      rcases List.mem_append.mp member with old | new
      · exact conserved.drops drop old
      · rw [List.mem_singleton.mp new]
        exact ⟨paced, Nat.le_antisymm conserved.capacity full⟩
  · rename_i room
    have line : ({ outbound with pending := outbound.pending ++ [packet] } : Outbound).line =
        outbound.line ++ [seen] := by
      show _ ++ (outbound.pending ++ [packet]).map Stamped.arrival = _
      rw [List.map_append, ← List.append_assoc, List.map_singleton, next]
      rfl
    refine ⟨?_, ?_, conserved.counters, conserved.below, conserved.drops, ?_,
      conserved.limit⟩
    · rw [line, List.range_succ]
      have moved : (outbound.line ++ [seen] ++ outbound.ledger.dropped.map TailDrop.arrival).Perm
          (outbound.line ++ outbound.ledger.dropped.map TailDrop.arrival ++ [seen]) := by
        rw [List.append_assoc, List.append_assoc]
        exact List.perm_append_comm.append_left outbound.line
      exact moved.trans (conserved.every.append_right [seen])
    · rw [line]
      refine List.pairwise_append.mpr ⟨conserved.order, List.pairwise_singleton _ _, ?_⟩
      intro earlier member later last
      rw [List.mem_singleton.mp last]
      exact fresh earlier member
    · show (outbound.pending ++ [packet]).length ≤ maxQueue
      rw [List.length_append, List.length_singleton]
      omega

/-! ### The rounds of a slot -/

/-- What one round of a slot can do, and what it puts into the slot: a handshake datagram leaves the queue,
a packet is sealed, cover is sealed, or a seal fails and takes its packet along. -/
inductive Round (prims : Primitives) (before : Outbound) : Option Bytes → Outbound → Prop
  | handshake {queued : Stamped Bytes} {rest : List (Stamped Bytes)} :
      before.hsSend = queued :: rest →
      Round prims before (some queued.item) (({ before with hsSend := rest } : Outbound).noteBeside queued.item)
  | real {packet : Stamped Bytes} {pending : List (Stamped Bytes)} {pacer : Pacer}
      {sessions : SessionManager Session} {noise : Nat → UInt8} {wire : Bytes} :
      before.pending = packet :: pending →
      CryptoEngine.sealDataFull prims before.sessions packet.item noise = (.ok wire, sessions) →
      Round prims before (some wire) (({ before with sessions, pacer, pending } : Outbound).noteSeals [packet]
        before.sessions.current.txCounter [wire])
  | cover {pacer : Pacer} {sessions : SessionManager Session} {noise : Nat → UInt8} {wire : Bytes} :
      CryptoEngine.coverDatagram prims before.sessions noise = (.ok wire, sessions) →
      Round prims before (some wire) (({ before with sessions, pacer } : Outbound).noteBeside wire)
  | failed {pacer : Pacer} {sessions : SessionManager Session} {pending : List (Stamped Bytes)} :
      Round prims before none { before with sessions, pacer, pending }.fail

/-- A slot goes on with what its first round leaves, behind what that put into it, or stops. -/
theorem emit_cases (now rounds : Nat) (outbound : Outbound) (noise : Nat → Nat → UInt8) :
    (∃ pacer, emit prims now (rounds + 1) outbound noise = ([], { outbound with pacer })) ∨
      ∃ put next, Round prims outbound put next ∧ emit prims now (rounds + 1) outbound noise =
        (put.toList ++ (emit prims now rounds next fun i => noise (i + 1)).1,
          (emit prims now rounds next fun i => noise (i + 1)).2) := by
  obtain ⟨sessions, pending, hsSend, pacer, paced, paceBurst, rekeying, ledger⟩ := outbound
  rw [emit]
  cases hsSend with
  | cons queued rest => exact Or.inr ⟨_, _, .handshake rfl, rfl⟩
  | nil =>
    simp only []
    cases decision : pacer.nextEmit (!pending.isEmpty) now with
    | mk choice decided =>
      cases choice with
      | idle => exact Or.inl ⟨decided, rfl⟩
      | cover =>
        cases sealed : CryptoEngine.coverDatagram prims sessions (noise 0) with
        | mk outcome after =>
          cases outcome with
          | ok wire => exact Or.inr ⟨_, _, .cover sealed, rfl⟩
          | error e => exact Or.inr ⟨_, _, .failed, rfl⟩
      | real =>
        cases pending with
        | nil => exact Or.inl ⟨decided, rfl⟩
        | cons packet pending =>
          simp only []
          cases sealed : CryptoEngine.sealDataFull prims sessions packet.item (noise 0) with
          | mk outcome after =>
            cases outcome with
            | ok wire => exact Or.inr ⟨_, _, .real rfl sealed, rfl⟩
            | error e => exact Or.inr ⟨_, _, .failed, rfl⟩

/-- **The invariant rule of a slot.** -/
theorem emit_invariant {inv : Outbound → Prop}
    (round : ∀ before put after, inv before → Round prims before put after → inv after)
    (stops : ∀ before pacer, inv before → inv { before with pacer }) (now rounds : Nat)
    {outbound : Outbound} (initial : inv outbound) (noise : Nat → Nat → UInt8) :
    inv (emit prims now rounds outbound noise).2 := by
  induction rounds generalizing outbound noise with
  | zero => exact initial
  | succ rounds ih =>
    rcases emit_cases now rounds outbound noise with ⟨pacer, stopped⟩ | ⟨put, next, taken, rest⟩
    · rw [stopped]
      exact stops _ _ initial
    · rw [rest]
      exact ih (round _ _ _ initial taken) _

/-- What serving the queues leaves alone; handshake datagrams only leave their queue. -/
structure Serves (before after : Outbound) : Prop where
  paced : after.paced = before.paced
  taken : after.ledger.taken = before.ledger.taken
  queued : after.ledger.queued = before.ledger.queued
  mark : after.ledger.mark = before.ledger.mark
  hsSend : ∀ datagram ∈ after.hsSend, datagram ∈ before.hsSend

theorem Serves.refl (outbound : Outbound) : Serves outbound outbound :=
  ⟨rfl, rfl, rfl, rfl, fun _ member => member⟩

theorem Serves.trans {first second third : Outbound} (front : Serves first second)
    (back : Serves second third) : Serves first third :=
  ⟨back.paced.trans front.paced, back.taken.trans front.taken, back.queued.trans front.queued,
    back.mark.trans front.mark, fun datagram member => front.hsSend _ (back.hsSend datagram member)⟩

theorem serves_round {before after : Outbound} {put : Option Bytes} (round : Round prims before put after) :
    Serves before after := by
  cases round with
  | handshake queue =>
    refine ⟨rfl, rfl, rfl, rfl, fun datagram member => ?_⟩
    rw [queue]
    exact List.mem_cons_of_mem _ member
  | real => exact ⟨rfl, rfl, rfl, rfl, fun _ member => member⟩
  | cover => exact ⟨rfl, rfl, rfl, rfl, fun _ member => member⟩
  | failed => exact ⟨rfl, rfl, rfl, rfl, fun _ member => member⟩

theorem serves_emit (prims : Primitives) (now rounds : Nat) (outbound : Outbound)
    (noise : Nat → Nat → UInt8) :
    Serves outbound (emit prims now rounds outbound noise).2 :=
  emit_invariant (fun _ _ _ kept round => kept.trans (serves_round round))
    (fun _ _ kept => ⟨kept.paced, kept.taken, kept.queued, kept.mark, kept.hsSend⟩) now rounds
    (Serves.refl outbound) noise

/-- The slots of the past are not touched. -/
theorem slots_emit (now rounds : Nat) (outbound : Outbound) (noise : Nat → Nat → UInt8) :
    (emit prims now rounds outbound noise).2.ledger.slots = outbound.ledger.slots :=
  @emit_invariant prims (fun after => after.ledger.slots = outbound.ledger.slots)
    (fun _ _ _ kept round => by cases round <;> exact kept) (fun _ _ kept => kept) now rounds outbound rfl noise

/-- **A round of a slot keeps the traffic.** -/
theorem healthy_round {before after : Outbound} {put : Option Bytes} (healthy : Healthy seen before)
    (round : Round prims before put after) : Healthy seen after := by
  cases round with
  | handshake queue =>
    exact fun none => (healthy none).advance rfl rfl rfl rfl (Nat.le_refl _) rfl
  | @real packet pending pacer sessions noise wire waiting sealed =>
    intro none
    have conserved := healthy none
    have small : before.sessions.current.rekeyAt < 2 ^ 64 := by rw [conserved.limit]; decide
    have current := CryptoEngine.current_of_sealObf small sealed
    refine conserved.noteSeals rfl waiting rfl ?_ ?_
    · show sessions.current.txCounter = _
      rw [current]
      rfl
    · show sessions.current.rekeyAt = _
      rw [current]
  | @cover pacer sessions noise wire sealed =>
    intro none
    have conserved := healthy none
    have small : before.sessions.current.rekeyAt < 2 ^ 64 := by rw [conserved.limit]; decide
    have current := CryptoEngine.current_of_sealObf small sealed
    refine conserved.advance rfl rfl rfl rfl ?_ ?_
    · show _ ≤ sessions.current.txCounter
      rw [current]
      exact Nat.le_succ _
    · show sessions.current.rekeyAt = _
      rw [current]
  | failed => exact healthy_fail _ _

theorem healthy_emit (healthy : Healthy seen outbound) (now rounds : Nat)
    (noise : Nat → Nat → UInt8) : Healthy seen (emit prims now rounds outbound noise).2 :=
  emit_invariant (fun _ _ _ => healthy_round)
    (fun _ _ kept none => (kept none).advance rfl rfl rfl rfl (Nat.le_refl _) rfl) now rounds
    healthy noise

/-! ### The other arms -/

/-- A flush empties the queue and leaves the rest alone. -/
theorem serves_flush (prims : Primitives) (config : OutboundConfig) (outbound : Outbound) (noise : Nat → Nat → UInt8) :
    Serves outbound (outbound.flush prims config noise) ∧
      (outbound.flush prims config noise).pending = [] ∧
      (outbound.flush prims config noise).hsSend = outbound.hsSend := by
  rcases flush_cases prims config outbound noise with
    ⟨e, sessions, -, flushed⟩ | ⟨wires, sessions, sendTx, -, -, -, flushed⟩
  · rw [flushed]
    exact ⟨⟨rfl, rfl, rfl, rfl, fun _ member => member⟩, rfl, rfl⟩
  · rw [flushed]
    exact ⟨⟨rfl, rfl, rfl, rfl, fun _ member => member⟩, rfl, rfl⟩

/-- **Flushing the residue keeps the traffic.** -/
theorem healthy_flush (healthy : Healthy seen outbound) (noise : Nat → Nat → UInt8) :
    Healthy seen (outbound.flush prims config noise) := by
  rcases flush_cases prims config outbound noise with
    ⟨e, sessions, -, flushed⟩ | ⟨wires, sessions, sendTx, sealed, whole, -, flushed⟩
  · rw [flushed]
    exact healthy_fail _ _
  · rw [flushed]
    intro none
    have conserved := healthy none
    have small : outbound.sessions.current.rekeyAt < 2 ^ 64 := by rw [conserved.limit]; decide
    obtain ⟨_, current⟩ := CryptoEngine.encryptBatch_ok config.engine outbound.sessions small sealed
    have kept : Conserved seen (({ outbound with sessions, pending := [] } : Outbound).noteSeals
        outbound.pending outbound.sessions.current.txCounter wires) := by
      refine conserved.noteSeals whole (List.append_nil _).symm rfl ?_ ?_
      · show sessions.current.txCounter = _
        rw [current, List.length_map]
      · show sessions.current.rekeyAt = _
        rw [current]
    exact kept.advance rfl rfl rfl rfl (Nat.le_refl _) rfl

/-- What reserving counters does to the current session, when it is granted. -/
theorem current_of_reserve {manager after : SessionManager Session} {n : Nat}
    (small : manager.current.rekeyAt < 2 ^ 63) {granted : Session × Nat}
    (success : manager.reserve n = (.ok granted, after)) :
    granted.2 = manager.current.txCounter ∧
      after.current = { manager.current with txCounter := manager.current.txCounter + n } := by
  unfold SessionManager.reserve at success
  split at success
  · cases success
  · rename_i first current reserved
    cases success
    obtain ⟨rfl, inside, rfl⟩ := Session.reserveCounters_ok (by omega) reserved
    have wraps : (manager.current.txCounter + n) % 2 ^ 64 = manager.current.txCounter + n :=
      Nat.mod_eq_of_lt (by omega)
    exact ⟨rfl, by rw [wraps]⟩

/-- **A batch that goes out at once keeps the traffic**: it is as if it had been staged first. -/
theorem healthy_dispatchSeal {batch : List (Stamped Bytes)}
    (healthy : Healthy seen { outbound with pending := batch }) (waiting : outbound.pending = [])
    (noise : Nat → Nat → UInt8) : Healthy seen (outbound.dispatchSeal prims config batch noise) := by
  obtain ⟨granted, sessions, reserved, dispatched | ⟨pinned, base, wires, rfl, whole, dispatched⟩⟩ :=
    dispatchSeal_cases prims config outbound batch noise
  · rw [dispatched]
    exact healthy_fail _ _
  · rw [dispatched]
    intro none
    have conserved := healthy none
    have limit : outbound.sessions.current.rekeyAt = 2 ^ 48 := conserved.limit
    have small : outbound.sessions.current.rekeyAt < 2 ^ 63 := by rw [limit]; decide
    obtain ⟨rfl, current⟩ := current_of_reserve small reserved
    have kept : Conserved seen (({ outbound with sessions } : Outbound).noteSeals batch
        outbound.sessions.current.txCounter wires) := by
      refine conserved.noteSeals whole ?_ rfl ?_ ?_
      · show batch = batch ++ outbound.pending
        rw [waiting, List.append_nil]
      · show sessions.current.txCounter = _
        rw [current]
      · show sessions.current.rekeyAt = _
        rw [current]
    exact kept.advance rfl rfl rfl rfl (Nat.le_refl _) rfl

theorem healthy_announce (healthy : Healthy seen outbound) (eff : EffectiveTraffic)
    (noise : Nat → UInt8) : Healthy seen (outbound.announce prims config eff noise) := by
  unfold announce sendProfileFrame
  split
  · split
    · split
      · rename_i sessions sealed
        intro none
        have conserved := healthy none
        have small : outbound.sessions.current.rekeyAt < 2 ^ 64 := by rw [conserved.limit]; decide
        have current := CryptoEngine.current_of_sealObf small sealed
        refine conserved.advance rfl rfl rfl rfl ?_ ?_
        · show _ ≤ sessions.current.txCounter
          rw [current]
          exact Nat.le_succ _
        · show sessions.current.rekeyAt = _
          rw [current]
      · exact healthy_fail _ _
    · exact healthy
  · exact healthy

theorem serves_announce (prims : Primitives) (config : OutboundConfig) (outbound : Outbound)
    (eff : EffectiveTraffic) (noise : Nat → UInt8) :
    Serves outbound (outbound.announce prims config eff noise) ∧
      (outbound.announce prims config eff noise).pending = outbound.pending ∧
      (outbound.announce prims config eff noise).hsSend = outbound.hsSend := by
  unfold announce sendProfileFrame
  repeat' split
  all_goals exact ⟨⟨rfl, rfl, rfl, rfl, fun _ member => member⟩, rfl, rfl⟩

theorem serves_stage (outbound : Outbound) (packet : Stamped Bytes) :
    Serves outbound (outbound.stage packet) := by
  unfold stage
  split <;> exact ⟨rfl, rfl, rfl, rfl, fun _ member => member⟩

theorem serves_stageAll (outbound : Outbound) (arrived : List (Stamped Bytes)) :
    Serves outbound (arrived.foldl stage outbound) := by
  induction arrived generalizing outbound with
  | nil => exact Serves.refl outbound
  | cons packet arrived ih => exact (serves_stage outbound packet).trans (ih _)

theorem Conserved.stageAll {seen : Nat} {outbound : Outbound} (conserved : Conserved seen outbound)
    (items : List Bytes) (paced : outbound.paced = true) :
    Conserved (seen + items.length) ((stamp seen items).foldl Outbound.stage outbound) := by
  induction items generalizing seen outbound with
  | nil => exact conserved
  | cons item items ih =>
    rw [List.length_cons, Nat.add_comm items.length 1, ← Nat.add_assoc]
    exact ih (conserved.stage paced rfl) ((serves_stage outbound _).paced.trans paced)

/-- While there is room, staging appends. -/
theorem foldl_stage_room {arrived : List (Stamped Bytes)}
    (room : outbound.pending.length + arrived.length ≤ maxQueue) :
    arrived.foldl stage outbound = { outbound with pending := outbound.pending ++ arrived } := by
  induction arrived generalizing outbound with
  | nil => rw [List.append_nil]; rfl
  | cons packet arrived ih =>
    rw [List.length_cons] at room
    have open' : ¬ maxQueue ≤ outbound.pending.length := by omega
    rw [List.foldl_cons, stage, if_neg open', ih]
    · simp only [List.append_assoc, List.singleton_append]
    · show (outbound.pending ++ [packet]).length + arrived.length ≤ maxQueue
      rw [List.length_append, List.length_singleton]
      omega

/-- **Taking in a batch keeps the traffic.** -/
theorem healthy_recv (healthy : Healthy outbound.ledger.taken outbound)
    (resting : outbound.paced = false → outbound.pending = []) {packets : List Bytes}
    (small : packets.length ≤ maxBatch) (noise : Nat → Nat → UInt8) :
    Healthy (outbound.ledger.taken + packets.length) (outbound.recv prims config packets noise) := by
  have taken : ∀ paced, outbound.ledger.failures = 0 → Conserved outbound.ledger.taken
      { outbound with
        paced
        ledger := { outbound.ledger with taken := outbound.ledger.taken + packets.length } } :=
    fun paced none => (healthy none).advance rfl rfl rfl rfl (Nat.le_refl _) rfl
  have failures : ∀ (arrived : List (Stamped Bytes)) (state : Outbound),
      (arrived.foldl stage state).ledger.failures = state.ledger.failures := by
    intro arrived
    induction arrived with
    | nil => exact fun _ => rfl
    | cons packet arrived ih =>
      intro state
      rw [List.foldl_cons, ih, stage]
      split <;> rfl
  simp only [recv]
  by_cases paced : outbound.paced = true
  · rw [if_pos paced]
    intro none
    rw [failures] at none
    exact (taken outbound.paced none).stageAll packets paced
  · rw [if_neg paced]
    have empty := resting (Bool.eq_false_of_not_eq_true paced)
    refine healthy_dispatchSeal (fun none => ?_) ?_ noise
    · have staged := (taken true none).stageAll packets rfl
      have room : outbound.pending.length + (stamp outbound.ledger.taken packets).length ≤
          maxQueue := by
        rw [empty, length_stamp, List.length_nil, Nat.zero_add]
        exact small.trans (by decide)
      rw [foldl_stage_room] at staged
      · simp only [empty, List.nil_append] at staged
        exact staged.advance rfl rfl rfl rfl (Nat.le_refl _) rfl
      · exact room
    · exact empty

/-- What a tick does: one of the queues is served, and the switch mark sees the tick. -/
theorem tick_cases (prims : Primitives) (config : OutboundConfig) (outbound : Outbound) (now : Nat)
    (noise : Nat → Nat → UInt8) :
    ∃ served sessions rekeying, Serves outbound served ∧
      (∀ seen, Healthy seen outbound → Healthy seen served) ∧
      (outbound.paced = false → served.pending = []) ∧
      (outbound.paced = false → served.hsSend = outbound.hsSend) ∧
      sessions.current = served.sessions.current ∧
      outbound.tick prims config now noise =
        { served with
          sessions, rekeying
          ledger := { served.ledger with mark := served.ledger.mark.map SwitchMark.tick } } := by
  have current := fun served : Outbound =>
    needsRekey_current served.sessions served.sessions.current.txCounter now
  simp only [tick, triggerRekey]
  by_cases paced : outbound.paced = true
  · rw [if_pos paced]
    have serves := serves_emit prims now outbound.paceBurst outbound noise
    refine ⟨_, _, _, ?_, fun seen healthy none => ?_, fun off => ?_, fun off => ?_, ?_, rfl⟩
    · exact ⟨serves.paced, serves.taken, serves.queued, serves.mark, serves.hsSend⟩
    · exact (healthy_emit healthy now outbound.paceBurst noise none).advance rfl rfl rfl rfl
        (Nat.le_refl _) rfl
    · exact absurd paced (by rw [off]; decide)
    · exact absurd paced (by rw [off]; decide)
    · exact current (emit prims now outbound.paceBurst outbound noise).2
  · rw [if_neg paced]
    by_cases empty : outbound.pending = []
    · rw [if_pos empty]
      exact ⟨outbound, _, _, Serves.refl outbound, fun _ healthy => healthy, fun _ => empty,
        fun _ => rfl, current outbound, rfl⟩
    · rw [if_neg empty]
      obtain ⟨serves, emptied, hsSend⟩ := serves_flush prims config outbound noise
      exact ⟨_, _, _, serves, fun _ healthy => healthy_flush healthy noise, fun _ => emptied,
        fun _ => hsSend, current _, rfl⟩

/-- The residue is flushed when the loop leaves the paced mode with packets pending. -/
theorem flushed_cases (prims : Primitives) (config : OutboundConfig) (outbound : Outbound) (newPaced : Bool)
    (noise : Nat → Nat → UInt8)
    (resting : outbound.paced = false → outbound.pending = []) :
    ∃ flushed, (if outbound.paced ∧ ¬ newPaced ∧ outbound.pending ≠ [] then
        outbound.flush prims config noise else outbound) = flushed ∧
      Serves outbound flushed ∧ flushed.hsSend = outbound.hsSend ∧
      (∀ seen, Healthy seen outbound → Healthy seen flushed) ∧
      (newPaced = false → flushed.pending = []) := by
  by_cases leaves : outbound.paced = true ∧ ¬ newPaced = true ∧ outbound.pending ≠ []
  · rw [if_pos leaves]
    obtain ⟨serves, emptied, hsSend⟩ := serves_flush prims config outbound noise
    exact ⟨_, rfl, serves, hsSend, fun _ healthy => healthy_flush healthy noise, fun _ => emptied⟩
  · rw [if_neg leaves]
    refine ⟨outbound, rfl, Serves.refl outbound, rfl, fun _ healthy => healthy, fun off => ?_⟩
    by_cases paced : outbound.paced = true
    · by_contra waiting
      exact leaves ⟨paced, by rw [off]; decide, waiting⟩
    · exact resting (Bool.eq_false_of_not_eq_true paced)

/-- What a live switch does: the traffic is kept, and the switch to unpaced is marked. -/
theorem switch_cases (prims : Primitives) (config : OutboundConfig) (outbound : Outbound)
    (eff : EffectiveTraffic) (noise : Nat → Nat → UInt8)
    (resting : outbound.paced = false → outbound.pending = []) :
    ∃ after, outbound.switch prims config eff noise = after ∧
      (∀ seen, Healthy seen outbound → Healthy seen after) ∧
      after.ledger.taken = outbound.ledger.taken ∧
      after.ledger.queued = outbound.ledger.queued ∧ after.hsSend = outbound.hsSend ∧
      after.paced = (eff.enabled && config.engine.obfEnabled) ∧
      (after.paced = false → after.pending = []) ∧
      after.ledger.mark = if (eff.enabled && config.engine.obfEnabled) = true then none else
        some ⟨outbound.ledger.taken, outbound.ledger.queued, false⟩ := by
  obtain ⟨flushed, isFlushed, serves, kept, healthy, emptied⟩ := flushed_cases prims config
    outbound (eff.enabled && config.engine.obfEnabled) (fun i => noise (i + 1)) resting
  have announces := serves_announce prims config
    { flushed with
      paced := eff.enabled && config.engine.obfEnabled
      ledger := { flushed.ledger with
        mark := if (eff.enabled && config.engine.obfEnabled) = true then none else
          some ⟨flushed.ledger.taken, flushed.ledger.queued, false⟩ } } eff (noise 0)
  obtain ⟨announced, pending, hsSend⟩ := announces
  simp only [switch]
  rw [isFlushed]
  refine ⟨_, rfl, fun seen sound none => ?_, announced.taken.trans serves.taken,
    announced.queued.trans serves.queued, hsSend.trans kept, announced.paced, fun off => ?_, ?_⟩
  · refine Conserved.advance (healthy_announce (fun fine => ?_) eff (noise 0) none) rfl rfl rfl rfl
      (Nat.le_refl _) rfl
    exact (healthy seen sound fine).advance rfl rfl rfl rfl (Nat.le_refl _) rfl
  · exact pending.trans (emptied (announced.paced.symm.trans off))
  · rw [← serves.taken, ← serves.queued]
    exact announced.mark

/-- What the receive arm leaves alone. -/
theorem recv_cases (prims : Primitives) (config : OutboundConfig) (outbound : Outbound)
    (packets : List Bytes) (noise : Nat → Nat → UInt8) :
    Serves { outbound with ledger := { outbound.ledger with
        taken := outbound.ledger.taken + packets.length } } (outbound.recv prims config packets noise) ∧
      (outbound.paced = false →
        (outbound.recv prims config packets noise).pending = outbound.pending) := by
  simp only [recv]
  by_cases paced : outbound.paced = true
  · rw [if_pos paced]
    exact ⟨serves_stageAll _ _, fun off => absurd paced (by rw [off]; decide)⟩
  · rw [if_neg paced]
    obtain ⟨granted, sessions, -, dispatched | ⟨pinned, base, wires, -, -, dispatched⟩⟩ :=
      dispatchSeal_cases prims config _ (stamp outbound.ledger.taken packets) noise
    · rw [dispatched]
      exact ⟨⟨rfl, rfl, rfl, rfl, fun _ member => member⟩, fun _ => rfl⟩
    · rw [dispatched]
      exact ⟨⟨rfl, rfl, rfl, rfl, fun _ member => member⟩, fun _ => rfl⟩

/-! ### Every event -/

/-- What holds of the loop in every run: the traffic is kept, an unpaced loop has nothing pending, and
the bookkeeping of the handshake queue is right. -/
structure Sound (outbound : Outbound) : Prop where
  healthy : Healthy outbound.ledger.taken outbound
  resting : outbound.paced = false → outbound.pending = []
  known : ∀ datagram ∈ outbound.hsSend, datagram.arrival < outbound.ledger.queued
  marked : ∀ mark, outbound.ledger.mark = some mark →
    outbound.paced = false ∧ mark.handshakes ≤ outbound.ledger.queued

theorem Sound.serve {after : Outbound} (sound : Sound outbound) (serves : Serves outbound after)
    (healthy : ∀ seen, Healthy seen outbound → Healthy seen after)
    (resting : outbound.paced = false → after.pending = []) : Sound after := by
  refine ⟨?_, fun off => resting (serves.paced ▸ off), fun datagram member => ?_, fun mark isMark => ?_⟩
  · rw [serves.taken]
    exact healthy _ sound.healthy
  · rw [serves.queued]
    exact sound.known datagram (serves.hsSend datagram member)
  · rw [serves.mark] at isMark
    rw [serves.paced, serves.queued]
    exact sound.marked mark isMark

theorem sound_begin {sessions : SessionManager Session} (limit : sessions.current.rekeyAt = 2 ^ 48)
    (eff : EffectiveTraffic) : Sound (begin config sessions eff) := by
  refine ⟨fun _ => ?_, fun _ => rfl, fun _ member => (nomatch member), fun _ same => (nomatch same)⟩
  exact ⟨.refl _, .nil, .nil, fun _ member => (nomatch member),
    fun _ member => (nomatch member), Nat.zero_le _, limit⟩

/-- A marked tick is seen by the mark only. -/
theorem mark_of_tick {before : Option SwitchMark} {mark : SwitchMark}
    (ticked : before.map SwitchMark.tick = some mark) :
    ∃ last, before = some last ∧ last.handshakes = mark.handshakes ∧ last.packets = mark.packets := by
  cases before with
  | none => cases ticked
  | some last => exact ⟨last, rfl, by cases ticked; rfl, by cases ticked; rfl⟩

/-- **Every event keeps the loop sound.** -/
theorem sound_step (sound : Sound outbound) {event : OutboundEvent} {after : Outbound}
    (taken : outbound.step prims config event = some after) : Sound after := by
  cases event with
  | recv packets noise =>
    simp only [step] at taken
    split at taken
    · rename_i sizes
      cases taken
      obtain ⟨serves, waiting⟩ := recv_cases prims config outbound packets noise
      have healthy : Healthy _ (outbound.recv prims config packets noise) :=
        healthy_recv sound.healthy sound.resting sizes.2 noise
      refine ⟨?_, fun off => ?_, fun datagram member => ?_, fun mark isMark => ?_⟩
      · rw [show (outbound.react prims config (.recv packets noise)).ledger.taken = _ from
          serves.taken]
        exact healthy
      · have unpaced : outbound.paced = false := serves.paced.symm.trans off
        exact (waiting unpaced).trans (sound.resting unpaced)
      · have bound := sound.known datagram (serves.hsSend datagram member)
        exact Nat.lt_of_lt_of_eq bound serves.queued.symm
      · have held := sound.marked mark (serves.mark.symm.trans isMark)
        exact ⟨serves.paced.trans held.1, held.2.trans_eq serves.queued.symm⟩
    · cases taken
  | tick now noise =>
    obtain rfl := Option.some.inj taken
    obtain ⟨served, sessions, rekeying, serves, healthy, rests, _, current, isTick⟩ :=
      tick_cases prims config outbound now noise
    show Sound (outbound.tick prims config now noise)
    have kept := sound.serve serves healthy rests
    rw [isTick]
    refine ⟨fun none => ?_, kept.resting, kept.known, fun mark isMark => ?_⟩
    · exact (kept.healthy none).advance rfl rfl rfl rfl (by rw [current]) (by rw [current])
    · obtain ⟨last, isLast, handshakes, _⟩ := mark_of_tick isMark
      rw [← handshakes]
      exact kept.marked last isLast
  | rekeyDone success =>
    obtain rfl := Option.some.inj taken
    cases success <;>
      exact ⟨fun none => (sound.healthy none).advance rfl rfl rfl rfl (Nat.le_refl _) rfl,
        sound.resting, sound.known, sound.marked⟩
  | switch eff noise =>
    obtain rfl := Option.some.inj taken
    obtain ⟨after, isAfter, healthy, sameTaken, queued, hsSend, paced, rests, mark⟩ :=
      switch_cases prims config outbound eff noise sound.resting
    show Sound (outbound.switch prims config eff noise)
    rw [isAfter]
    refine ⟨?_, rests, fun datagram member => ?_, fun held isHeld => ?_⟩
    · rw [sameTaken]
      exact healthy _ sound.healthy
    · rw [hsSend] at member
      rw [queued]
      exact sound.known datagram member
    · rw [mark] at isHeld
      split at isHeld
      · cases isHeld
      · rename_i off
        obtain rfl := Option.some.inj isHeld
        exact ⟨paced.trans (Bool.eq_false_of_not_eq_true off), queued.ge⟩
  | queueHandshake datagram =>
    obtain rfl := Option.some.inj taken
    refine ⟨fun none => (sound.healthy none).advance rfl rfl rfl rfl (Nat.le_refl _) rfl,
      sound.resting, fun held member => ?_, fun mark isMark => ?_⟩
    · show held.arrival < outbound.ledger.queued + 1
      rcases List.mem_append.mp member with old | new
      · exact Nat.lt_succ_of_lt (sound.known held old)
      · rw [List.mem_singleton.mp new]
        exact Nat.lt_succ_self _
    · have held := sound.marked mark isMark
      exact ⟨held.1, Nat.le_succ_of_le held.2⟩
  | reserve n =>
    obtain rfl := Option.some.inj taken
    refine sound.serve ?_ (fun seen healthy => ?_) fun off => ?_
    · simp only [react]
      split <;> exact ⟨rfl, rfl, rfl, rfl, fun _ member => member⟩
    · simp only [react]
      split
      · rename_i granted sessions reserved
        intro none
        have conserved := healthy none
        have small : outbound.sessions.current.rekeyAt < 2 ^ 63 := by rw [conserved.limit]; decide
        have current := (current_of_reserve small reserved).2
        refine conserved.advance rfl rfl rfl rfl ?_ ?_
        · show _ ≤ sessions.current.txCounter
          rw [current]
          exact Nat.le_add_right _ _
        · show sessions.current.rekeyAt = _
          rw [current]
      · exact healthy_fail _ _
    · simp only [react]
      split <;> exact sound.resting off
  | install origin =>
    obtain rfl := Option.some.inj taken
    refine ⟨fun none => ?_, sound.resting, sound.known, sound.marked⟩
    have conserved := sound.healthy none
    refine ⟨conserved.every, conserved.order, conserved.counters, ?_,
      conserved.drops, conserved.capacity, rfl⟩
    intro entry member
    refine Or.inl ?_
    show entry.epoch < outbound.ledger.epoch + 1
    rcases conserved.below entry member with earlier | current
    · exact Nat.lt_succ_of_lt earlier
    · exact Nat.lt_succ_of_le current.1.le
  | retire =>
    obtain rfl := Option.some.inj taken
    exact ⟨fun none => (sound.healthy none).advance rfl rfl rfl rfl (Nat.le_refl _) rfl,
      sound.resting, sound.known, sound.marked⟩

/-! ### Where the sealed packets go -/

/-- What is sealed is there to send. -/
theorem produced_noteSeals {batch : List (Stamped Bytes)} {base : Nat} {wires : List Bytes}
    (whole : wires.length = batch.length) :
    (outbound.noteSeals batch base wires).ledger.produced.Perm (outbound.ledger.produced ++ wires) := by
  show ((outbound.ledger.seals ++ sealsAt outbound.ledger.epoch base batch wires).map Seal.wire ++
    outbound.ledger.beside).Perm (outbound.ledger.seals.map Seal.wire ++ outbound.ledger.beside ++ wires)
  rw [List.map_append, wires_sealsAt whole, List.append_assoc, List.append_assoc]
  exact List.perm_append_comm.append_left _

theorem produced_noteBeside (outbound : Outbound) (wire : Bytes) :
    (outbound.noteBeside wire).ledger.produced = outbound.ledger.produced ++ [wire] :=
  (List.append_assoc _ _ _).symm

theorem handedOver_sendOrder (outbound : Outbound) (wires : List Bytes) :
    (outbound.sendOrder wires).ledger.handedOver.Perm (outbound.ledger.handedOver ++ wires) := by
  show ((outbound.ledger.orderTx ++ [wires]).flatten ++ outbound.ledger.sendTx.flatten ++
    outbound.ledger.slots.flatten).Perm _
  rw [List.flatten_append, List.flatten_singleton, Ledger.handedOver]
  simp only [List.append_assoc]
  refine List.Perm.append_left _ (List.perm_append_comm.trans (.of_eq ?_))
  rw [List.append_assoc]

theorem handedOver_sendSlot (outbound : Outbound) (slot : List Bytes) :
    (outbound.sendSlot slot).ledger.handedOver = outbound.ledger.handedOver ++ slot := by
  show _ ++ (outbound.ledger.slots ++ [slot]).flatten = _
  rw [List.flatten_append, List.flatten_singleton, ← List.append_assoc]
  rfl

/-- **A round of a slot** puts into the slot what it produced. -/
theorem produced_round {before after : Outbound} {put : Option Bytes} (round : Round prims before put after) :
    after.ledger.handedOver = before.ledger.handedOver ∧
      after.ledger.produced.Perm (before.ledger.produced ++ put.toList) := by
  cases round with
  | handshake _ => exact ⟨rfl, .of_eq (produced_noteBeside _ _)⟩
  | real _ _ => exact ⟨rfl, produced_noteSeals rfl⟩
  | cover _ => exact ⟨rfl, .of_eq (produced_noteBeside _ _)⟩
  | failed => exact ⟨rfl, .of_eq (List.append_nil _).symm⟩

/-- **A slot holds what its rounds produced.** -/
theorem produced_emit (prims : Primitives) (now rounds : Nat) (outbound : Outbound) (noise : Nat → Nat → UInt8) :
    (emit prims now rounds outbound noise).2.ledger.handedOver = outbound.ledger.handedOver ∧
      (emit prims now rounds outbound noise).2.ledger.produced.Perm
        (outbound.ledger.produced ++ (emit prims now rounds outbound noise).1) := by
  induction rounds generalizing outbound noise with
  | zero => exact ⟨rfl, .of_eq (List.append_nil _).symm⟩
  | succ rounds ih =>
    rcases emit_cases now rounds outbound noise with ⟨pacer, stopped⟩ | ⟨put, next, round, rest⟩
    · rw [stopped]
      exact ⟨rfl, .of_eq (List.append_nil _).symm⟩
    · obtain ⟨handed, produced⟩ := produced_round round
      obtain ⟨handed', produced'⟩ := ih next fun i => noise (i + 1)
      rw [rest]
      refine ⟨handed'.trans handed, produced'.trans ?_⟩
      rw [← List.append_assoc]
      exact produced.append_right _

/-- A flush hands on what it seals. -/
theorem handedOnce_flush (once : outbound.ledger.HandedOnce) (noise : Nat → Nat → UInt8) :
    (outbound.flush prims config noise).ledger.HandedOnce := by
  rcases flush_cases prims config outbound noise with
    ⟨e, sessions, -, flushed⟩ | ⟨wires, sessions, sendTx, -, whole, sent, flushed⟩
  · rw [flushed]
    exact once
  · rw [flushed]
    refine once.gain ?_ (produced_noteSeals whole)
    show (outbound.ledger.orderTx.flatten ++ sendTx.flatten ++ outbound.ledger.slots.flatten).Perm _
    rw [sent, Ledger.handedOver]
    simp only [List.append_assoc]
    exact (List.perm_append_comm.append_left _).append_left _

theorem handedOnce_dispatchSeal (once : outbound.ledger.HandedOnce) (batch : List (Stamped Bytes))
    (noise : Nat → Nat → UInt8) : (outbound.dispatchSeal prims config batch noise).ledger.HandedOnce := by
  obtain ⟨granted, sessions, -, dispatched | ⟨pinned, base, wires, -, whole, dispatched⟩⟩ :=
    dispatchSeal_cases prims config outbound batch noise
  · rw [dispatched]
    exact once
  · rw [dispatched]
    exact once.gain (handedOver_sendOrder (({ outbound with sessions } : Outbound).noteSeals batch base wires) wires)
      (produced_noteSeals whole)

theorem handedOnce_stageAll (once : outbound.ledger.HandedOnce) (arrived : List (Stamped Bytes)) :
    (arrived.foldl stage outbound).ledger.HandedOnce := by
  induction arrived generalizing outbound with
  | nil => exact once
  | cons packet arrived ih =>
    refine ih ?_
    unfold stage
    split <;> exact once

theorem handedOnce_announce (once : outbound.ledger.HandedOnce) (eff : EffectiveTraffic) (noise : Nat → UInt8) :
    (outbound.announce prims config eff noise).ledger.HandedOnce := by
  unfold announce sendProfileFrame
  repeat' split
  all_goals exact once

/-- **Every event hands on what it seals.** -/
theorem handedOnce_step (once : outbound.ledger.HandedOnce) {event : OutboundEvent} {after : Outbound}
    (taken : outbound.step prims config event = some after) : after.ledger.HandedOnce := by
  cases event with
  | recv packets noise =>
    simp only [step] at taken
    split at taken
    · obtain rfl := Option.some.inj taken
      have counted : ({ outbound with ledger := { outbound.ledger with
          taken := outbound.ledger.taken + packets.length } } : Outbound).ledger.HandedOnce := once
      simp only [react, recv]
      split
      · exact handedOnce_stageAll counted _
      · exact handedOnce_dispatchSeal counted _ noise
    · cases taken
  | tick now noise =>
    obtain rfl := Option.some.inj taken
    simp only [react, tick, triggerRekey]
    by_cases paced : outbound.paced = true
    · obtain ⟨handed, produced⟩ := produced_emit prims now outbound.paceBurst outbound noise
      simp only [if_pos paced]
      refine Ledger.HandedOnce.gain once (.of_eq ?_) produced
      rw [← handed]
      exact handedOver_sendSlot (emit prims now outbound.paceBurst outbound noise).2 _
    · simp only [if_neg paced]
      split
      · exact once
      · exact handedOnce_flush once noise
  | rekeyDone success =>
    obtain rfl := Option.some.inj taken
    cases success <;> exact once
  | switch eff noise =>
    obtain rfl := Option.some.inj taken
    simp only [react, switch]
    refine handedOnce_announce ?_ eff (noise 0)
    split
    · exact handedOnce_flush once _
    · exact once
  | reserve n =>
    obtain rfl := Option.some.inj taken
    simp only [react]
    split <;> exact once
  | queueHandshake datagram =>
    obtain rfl := Option.some.inj taken
    exact once
  | install origin =>
    obtain rfl := Option.some.inj taken
    exact once
  | retire =>
    obtain rfl := Option.some.inj taken
    exact once

/-! ### What a switch leaves behind -/

/-- Once the loop was switched to unpaced and has ticked, neither queue holds anything accepted before
the switch. -/
def Settled (outbound : Outbound) : Prop :=
  ∀ mark, outbound.ledger.mark = some mark → mark.ticked = true →
    (∀ packet ∈ outbound.pending, mark.packets ≤ packet.arrival) ∧
      ∀ datagram ∈ outbound.hsSend, mark.handshakes ≤ datagram.arrival

/-- The paced handshake queue is empty when the loop is switched to unpaced. -/
def SinkEmpty (config : OutboundConfig) (outbound : Outbound) : OutboundEvent → Prop
  | .switch eff _ => (eff.enabled && config.engine.obfEnabled) = false → outbound.hsSend = []
  | _ => True

/-- No handshake datagram of before the last switch to unpaced is queued. -/
def Swept (outbound : Outbound) : Prop :=
  ∀ mark, outbound.ledger.mark = some mark →
    ∀ datagram ∈ outbound.hsSend, mark.handshakes ≤ datagram.arrival

theorem settled_of_swept (sound : Sound outbound) (swept : Swept outbound) : Settled outbound := by
  intro mark isMark _
  refine ⟨fun packet member => ?_, swept mark isMark⟩
  rw [sound.resting (sound.marked mark isMark).1] at member
  cases member

theorem Swept.serve {after : Outbound} (swept : Swept outbound)
    (mark : after.ledger.mark = outbound.ledger.mark)
    (hsSend : ∀ datagram ∈ after.hsSend, datagram ∈ outbound.hsSend) : Swept after := by
  intro held isHeld datagram member
  exact swept held (mark.symm.trans isHeld) datagram (hsSend datagram member)

/-- **A switch over an empty sink leaves nothing behind.** -/
theorem swept_step (sound : Sound outbound) (swept : Swept outbound) {event : OutboundEvent}
    (empty : SinkEmpty config outbound event) {after : Outbound}
    (taken : outbound.step prims config event = some after) : Swept after := by
  cases event with
  | recv packets noise =>
    simp only [step] at taken
    split at taken
    · cases taken
      obtain ⟨serves, _⟩ := recv_cases prims config outbound packets noise
      exact swept.serve serves.mark serves.hsSend
    · cases taken
  | tick now noise =>
    obtain rfl := Option.some.inj taken
    obtain ⟨served, sessions, rekeying, serves, _, _, _, _, isTick⟩ :=
      tick_cases prims config outbound now noise
    show Swept (outbound.tick prims config now noise)
    rw [isTick]
    intro mark isMark datagram member
    obtain ⟨last, isLast, handshakes, _⟩ := mark_of_tick isMark
    rw [← handshakes]
    exact swept last (serves.mark.symm.trans isLast) datagram (serves.hsSend datagram member)
  | switch eff noise =>
    obtain rfl := Option.some.inj taken
    obtain ⟨after, isAfter, _, _, _, hsSend, _, _, mark⟩ :=
      switch_cases prims config outbound eff noise sound.resting
    show Swept (outbound.switch prims config eff noise)
    rw [isAfter]
    intro held isHeld datagram member
    rw [mark] at isHeld
    split at isHeld
    · cases isHeld
    · rename_i off
      rw [hsSend, empty (Bool.eq_false_of_not_eq_true off)] at member
      cases member
  | queueHandshake datagram =>
    obtain rfl := Option.some.inj taken
    intro mark isMark held member
    rcases List.mem_append.mp member with old | new
    · exact swept mark isMark held old
    · rw [List.mem_singleton.mp new]
      exact (sound.marked mark isMark).2
  | rekeyDone success =>
    obtain rfl := Option.some.inj taken
    cases success <;> exact swept
  | reserve n =>
    obtain rfl := Option.some.inj taken
    simp only [react]
    split <;> exact swept
  | install origin =>
    obtain rfl := Option.some.inj taken
    exact swept
  | retire =>
    obtain rfl := Option.some.inj taken
    exact swept

/-- **A switch over a sink that is not empty strands what it holds.** -/
theorem stranded (sound : Sound outbound) {eff : EffectiveTraffic}
    (off : (eff.enabled && config.engine.obfEnabled) = false) (held : outbound.hsSend ≠ [])
    (noise : Nat → Nat → UInt8) (now : Nat) (later : Nat → Nat → UInt8) :
    ¬ Settled ((outbound.react prims config (.switch eff noise)).react prims config
      (.tick now later)) := by
  obtain ⟨switched, isSwitched, _, _, _, hsSend, paced, _, mark⟩ :=
    switch_cases prims config outbound eff noise sound.resting
  obtain ⟨served, sessions, rekeying, serves, _, _, queue, _, isTick⟩ :=
    tick_cases prims config switched now later
  show ¬ Settled ((outbound.switch prims config eff noise).tick prims config now later)
  rw [isSwitched, isTick]
  intro settled
  have isMark : served.ledger.mark = some ⟨outbound.ledger.taken, outbound.ledger.queued, false⟩ := by
    rw [serves.mark, mark, if_neg (by rw [off]; decide)]
  obtain ⟨datagram, rest, first⟩ := List.exists_cons_of_ne_nil held
  have present : datagram ∈ outbound.hsSend := first ▸ List.mem_cons_self
  have waiting : datagram ∈ served.hsSend := by
    rw [queue (paced.trans off), hsSend]
    exact present
  have bound := (settled _ (congrArg (Option.map SwitchMark.tick) isMark) rfl).2 datagram waiting
  exact absurd (sound.known datagram present) (Nat.not_lt.mpr bound)

/-! ### Runs -/

theorem sound_run {first last : Outbound} {events : List OutboundEvent}
    (run : Run (Taken (step prims config)) first events last) (sound : Sound first) : Sound last :=
  run.invariant Sound (fun _ _ _ kept taken => sound_step kept taken) sound

/-- **The outbound loop keeps its traffic.** In every run what went into the order channel, to the pipeline
sender and into the slots is what the packets were sealed to, beside the handshake datagrams and the cover
of the slots, each once; and while no reservation and no seal fails, every packet taken in is sealed once,
in arrival order at increasing counters, or pending, or was dropped while the full queue limit was pending
in paced mode. Once the loop was switched to unpaced and has ticked, nothing accepted before is queued,
provided the paced handshake queue was empty at the switch; and otherwise something is. -/
theorem traffic_conserved (prims : Primitives) (config : OutboundConfig)
    {sessions : SessionManager Session} {sessionId : UInt32} {shared : Octets 32}
    {isInitiator : Bool} {algo : AeadAlgo} {sent : Nat} {history : List Nat}
    (current : sessions.current =
      Session.established prims sessionId shared isInitiator algo sent history)
    (eff : EffectiveTraffic) :
    (∀ events last, Run (Taken (step prims config)) (begin config sessions eff) events last →
      last.ledger.HandedOnce ∧ (last.ledger.failures = 0 → Conserved last.ledger.taken last)) ∧
    (∀ events last,
      Run (Guarded (SinkEmpty config) (Taken (step prims config))) (begin config sessions eff) events
        last → Settled last) ∧
    ∀ events last, Run (Taken (step prims config)) (begin config sessions eff) events last →
      ∀ eff' noise, ¬ SinkEmpty config last (.switch eff' noise) → ∀ now later,
        ¬ Settled ((last.react prims config (.switch eff' noise)).react prims config
          (.tick now later)) := by
  have start : Sound (begin config sessions eff) := sound_begin (by rw [current]; rfl) eff
  refine ⟨fun events last run => ⟨?_, (sound_run run start).healthy⟩, fun events last run => ?_,
    fun events last run eff' noise full now later => ?_⟩
  · exact run.invariant (fun outbound => outbound.ledger.HandedOnce)
      (fun _ _ _ once taken => handedOnce_step once taken) (.refl [])
  · have both := run.invariant (fun outbound => Sound outbound ∧ Swept outbound)
      (fun _ _ _ kept taken => ⟨sound_step kept.1 taken.2, swept_step kept.1 kept.2 taken.1 taken.2⟩)
      ⟨start, fun _ same => nomatch same⟩
    exact settled_of_swept both.1 both.2
  · have reached := sound_run run start
    simp only [SinkEmpty, Classical.not_imp] at full
    exact stranded reached full.1 full.2 noise now later

end Steps

/-! ### A rekey datagram left behind -/

/-- The default profile: no pacing. -/
def sampleOff : EffectiveTraffic where
  profile := .off
  enabled := false
  mode := .adaptive
  ratePps := 256
  burst := 2
  cooldownMs := 500
  coverBudgetPackets := 64
  coverRatio := 0.25

/-- Two packets and a slot, in the stealth profile. -/
def samplePaced : List OutboundEvent :=
  [.recv [[1, 2, 3], [4]] fun _ _ => 9, .tick 4 fun _ _ => 1]

/-- A queued rekey datagram, then a switch to unpaced and a tick. -/
def sampleSwitch : List OutboundEvent :=
  [.queueHandshake [7, 7], .switch sampleOff fun _ _ => 9, .tick 4 fun _ _ => 1]

theorem traffic_conserved_sample : ∃ last, Run (Taken (step .transparent sampleOutbound))
    (begin sampleOutbound sampleSessions sampleStealth) samplePaced last ∧
      (last.ledger.HandedOnce ∧ last.ledger.handedOver.length = 2) ∧ Conserved last.ledger.taken last := by
  obtain ⟨once, conserved⟩ := (traffic_conserved .transparent sampleOutbound sampleSessions_current
    sampleStealth).1 samplePaced _ (.next rfl (.next rfl (.done _)))
  exact ⟨_, .next rfl (.next rfl (.done _)), ⟨once, by decide +kernel⟩, conserved rfl⟩

/-- **A handshake datagram that is queued when the loop is switched to unpaced stays queued.** -/
theorem handshake_stranded : ∃ last, Run (Taken (step .transparent sampleOutbound))
    (begin sampleOutbound sampleSessions sampleStealth) sampleSwitch last ∧
      last.ledger.failures = 0 ∧ ¬ Settled last := by
  refine ⟨_, .next rfl (.next rfl (.next rfl (.done _))), rfl, ?_⟩
  have start : Sound (begin sampleOutbound sampleSessions sampleStealth) :=
    sound_begin rfl sampleStealth
  have queued : (begin sampleOutbound sampleSessions sampleStealth).step .transparent sampleOutbound
      (.queueHandshake [7, 7]) = some _ := rfl
  exact stranded (sound_step start queued) rfl (by decide) _ _ _

end Outbound

end ChameleonPQ
