/-
**How long something waits for a paced slot (`tunnel_loops.rs`).**

What waits for a slot is one queue: the handshake datagrams of the paced sink, and behind them the pending packets.

* `emit_queue` — a slot of so many rounds takes as many items off the front of the queue, and the packets among
  them are sealed, unless a seal fails; `emit_sink` — the handshake datagrams among them come first in the slot.
* `Works` — what the arms beside the live switch leave alone, and what none of them takes back.
* `waits_step`, `waits_run` — a packet moves up by the burst with every tick, and a handshake datagram that joins
  puts it one place back.
* `sink_step`, `sink_run` — the sink is drained into the slots from its front.
* `slots_serve_in_time` — so nothing waits for more slots than its place in the queue says: a rekey delays the
  packets by its own datagrams only, and packets never delay a rekey.
-/

import ChameleonPQ.Tunnel.Conservation

namespace ChameleonPQ

open Library Library.Runs

namespace Outbound

section Definitions

variable (config : OutboundConfig)

/-- An item that waits for a slot: a handshake datagram, or a packet. -/
abbrev Waiter := Stamped Bytes ⊕ Stamped Bytes

/-- What waits for a slot, in the order in which it is served. -/
def queue (outbound : Outbound) : List Waiter :=
  outbound.hsSend.map .inl ++ outbound.pending.map .inr

/-- The packet was sealed, or a seal failed. -/
def Served (outbound : Outbound) (packet : Stamped Bytes) : Prop :=
  packet.arrival ∈ outbound.ledger.seals.map Seal.arrival ∨ 0 < outbound.ledger.failures

/-- The packet is among the first so many items of the queue. -/
def Waits (outbound : Outbound) (packet : Stamped Bytes) (places : Nat) : Prop :=
  ∃ place < places, outbound.queue[place]? = some (.inr packet)

/-- How many items an event puts before the packets. -/
def joins : OutboundEvent → Nat
  | .queueHandshake _ => 1
  | _ => 0

/-- How many of a run are ticks. -/
def ticks (events : List OutboundEvent) : Nat :=
  events.countP fun | .tick .. => true | _ => false

/-- A slot serves at least so many items. -/
def AtLeast (burst : Nat) : OutboundEvent → Prop
  | .switch eff _ => burst ≤ max eff.burst.toNat 1
  | _ => True

/-- Handshake datagrams are served while the loop is paced. -/
def StaysPaced : OutboundEvent → Prop
  | .switch eff _ => (eff.enabled && config.engine.obfEnabled) = true
  | _ => True

end Definitions

/-- **What no arm beside the live switch changes, and what none of them takes back.** -/
structure Works (before after : Outbound) : Prop where
  paced : after.paced = before.paced
  paceBurst : after.paceBurst = before.paceBurst
  seals : before.ledger.seals <+: after.ledger.seals
  failures : before.ledger.failures ≤ after.ledger.failures

section Steps

variable {prims : Primitives} {config : OutboundConfig} {before after outbound : Outbound} {packet : Stamped Bytes}

theorem Works.refl (outbound : Outbound) : Works outbound outbound :=
  ⟨rfl, rfl, List.prefix_rfl, Nat.le_refl _⟩

theorem Works.trans {first second third : Outbound} (front : Works first second) (back : Works second third) :
    Works first third :=
  ⟨back.paced.trans front.paced, back.paceBurst.trans front.paceBurst, front.seals.trans back.seals,
    front.failures.trans back.failures⟩

/-- **What was served stays served.** -/
theorem served_of_prefix (served : before.Served packet) (seals : before.ledger.seals <+: after.ledger.seals)
    (failures : before.ledger.failures ≤ after.ledger.failures) : after.Served packet := by
  rcases served with sealed | failed
  · exact .inl ((seals.map Seal.arrival).subset sealed)
  · exact .inr (Nat.lt_of_lt_of_le failed failures)

theorem Works.served (works : Works before after) (served : before.Served packet) : after.Served packet :=
  served_of_prefix served works.seals works.failures

theorem works_round {put : Option Bytes} (round : Round prims before put after) : Works before after := by
  cases round with
  | handshake => exact ⟨rfl, rfl, List.prefix_rfl, Nat.le_refl _⟩
  | real => exact ⟨rfl, rfl, List.prefix_append _ _, Nat.le_refl _⟩
  | cover => exact ⟨rfl, rfl, List.prefix_rfl, Nat.le_refl _⟩
  | failed => exact ⟨rfl, rfl, List.prefix_rfl, Nat.le_succ _⟩

theorem works_emit (prims : Primitives) (now rounds : Nat) (outbound : Outbound) (noise : Nat → Nat → UInt8) :
    Works outbound (emit prims now rounds outbound noise).2 :=
  emit_invariant (fun _ _ _ kept round => kept.trans (works_round round))
    (fun _ _ kept => ⟨kept.paced, kept.paceBurst, kept.seals, kept.failures⟩) now rounds
    (Works.refl outbound) noise

theorem served_noteSeals (outbound : Outbound) {batch : List (Stamped Bytes)} {wires : List Bytes}
    (whole : wires.length = batch.length) (member : packet ∈ batch) (base : Nat) :
    (outbound.noteSeals batch base wires).Served packet := by
  refine .inl ?_
  show packet.arrival ∈ (outbound.ledger.seals ++ sealsAt outbound.ledger.epoch base batch wires).map Seal.arrival
  rw [List.map_append, arrivals_sealsAt whole]
  exact List.mem_append_right _ (List.mem_map_of_mem member)

/-- Nothing waits: a slot is cover, or it stops. -/
theorem emit_empty (prims : Primitives) (now rounds : Nat) {outbound : Outbound} (empty : outbound.queue = [])
    (noise : Nat → Nat → UInt8) : (emit prims now rounds outbound noise).2.queue = [] := by
  induction rounds generalizing outbound noise with
  | zero => exact empty
  | succ rounds ih =>
    obtain ⟨sessions, pending, hsSend, pacer, paced, paceBurst, rekeying, ledger⟩ := outbound
    obtain ⟨hs, none⟩ := List.append_eq_nil_iff.mp empty
    obtain rfl : hsSend = [] := List.map_eq_nil_iff.mp hs
    obtain rfl : pending = [] := List.map_eq_nil_iff.mp none
    rw [emit]
    simp only [List.isEmpty_nil, Bool.not_true]
    cases decision : pacer.nextEmit false now with
    | mk choice decided =>
      cases choice with
      | idle => rfl
      | real => rfl
      | cover =>
        cases sealed : CryptoEngine.coverDatagram prims sessions (noise 0) with
        | mk outcome later =>
          cases outcome with
          | ok wire => exact ih rfl _
          | error e => exact ih rfl _

/-- **A slot takes its items off the front of the queue**, and the packets among them are sealed. -/
theorem emit_queue (prims : Primitives) (now rounds : Nat) (outbound : Outbound) (noise : Nat → Nat → UInt8) :
    (emit prims now rounds outbound noise).2.queue = outbound.queue.drop rounds ∧
      ∀ packet, .inr packet ∈ outbound.queue.take rounds → (emit prims now rounds outbound noise).2.Served packet := by
  induction rounds generalizing outbound noise with
  | zero => exact ⟨rfl, nofun⟩
  | succ rounds ih =>
    obtain ⟨sessions, pending, hsSend, pacer, paced, paceBurst, rekeying, ledger⟩ := outbound
    cases hsSend with
    | cons queued rest =>
      obtain ⟨left, packets⟩ := ih
        (noteBeside ⟨sessions, pending, rest, pacer, paced, paceBurst, rekeying, ledger⟩ queued.item)
        fun i => noise (i + 1)
      exact ⟨left, fun packet member => packets packet ((List.mem_cons.mp member).resolve_left nofun)⟩
    | nil =>
      cases pending with
      | nil =>
        have empty : queue ⟨sessions, [], [], pacer, paced, paceBurst, rekeying, ledger⟩ = [] := rfl
        rw [emit_empty prims now (rounds + 1) empty noise, empty]
        exact ⟨List.drop_nil.symm, nofun⟩
      | cons packet pending =>
        -- a packet waits, so the pacer calls for a real one
        have choice : (pacer.nextEmit true now).1 = .real := (pacer.nextEmit_real_iff now true).mpr rfl
        cases decision : pacer.nextEmit true now with
        | mk chosen decided =>
          obtain rfl : chosen = .real := (congrArg Prod.fst decision).symm.trans choice
          cases sealed : CryptoEngine.sealDataFull prims sessions packet.item (noise 0) with
          | mk outcome later =>
            -- what is left of the slot, after this packet went out
            have onward : ∀ next : Outbound, next.queue = pending.map .inr → next.Served packet →
                (emit prims now rounds next fun i => noise (i + 1)).2.queue =
                    ((packet :: pending).map .inr : List Waiter).drop (rounds + 1) ∧
                  ∀ waiting, .inr waiting ∈ ((packet :: pending).map .inr : List Waiter).take (rounds + 1) →
                    (emit prims now rounds next fun i => noise (i + 1)).2.Served waiting := by
              intro next rest served
              obtain ⟨left, packets⟩ := ih next fun i => noise (i + 1)
              rw [rest] at left packets
              refine ⟨left, fun waiting member => ?_⟩
              rcases List.mem_cons.mp member with same | later
              · rw [Sum.inr.inj same]
                exact (works_emit prims now rounds next _).served served
              · exact packets waiting later
            let next : Outbound :=
              { sessions := later, pending, hsSend := [], pacer := decided, paced, paceBurst, rekeying, ledger }
            cases outcome with
            | ok wire =>
              have went := onward (next.noteSeals [packet] sessions.current.txCounter [wire]) rfl
                (served_noteSeals next rfl List.mem_cons_self _)
              simp only [emit, List.isEmpty_cons, Bool.not_false, decision, sealed]
              exact went
            | error e =>
              have went := onward next.fail rfl (.inr (Nat.zero_lt_succ _))
              simp only [emit, List.isEmpty_cons, Bool.not_false, decision, sealed]
              exact went

/-- **A slot begins with the handshake datagrams it takes off the front of the sink.** -/
theorem emit_sink (prims : Primitives) (now rounds : Nat) (outbound : Outbound) (noise : Nat → Nat → UInt8) :
    (emit prims now rounds outbound noise).2.hsSend = outbound.hsSend.drop rounds ∧
      (outbound.hsSend.take rounds).map Stamped.item <+: (emit prims now rounds outbound noise).1 := by
  induction rounds generalizing outbound noise with
  | zero => exact ⟨rfl, List.nil_prefix⟩
  | succ rounds ih =>
    cases sink : outbound.hsSend with
    | cons queued rest =>
      obtain ⟨left, begins⟩ := ih (({ outbound with hsSend := rest } : Outbound).noteBeside queued.item)
        fun i => noise (i + 1)
      simp only [emit, sink]
      exact ⟨left, List.cons_prefix_cons.mpr ⟨rfl, begins⟩⟩
    | nil =>
      refine ⟨List.eq_nil_iff_forall_not_mem.mpr fun datagram member => ?_, List.nil_prefix⟩
      have among := (serves_emit prims now (rounds + 1) outbound noise).hsSend datagram member
      rw [sink] at among
      cases among

/-- The residue of the queue is sealed, or the seal fails. -/
theorem served_flush (prims : Primitives) (config : OutboundConfig) (outbound : Outbound)
    (noise : Nat → Nat → UInt8) :
    Works outbound (outbound.flush prims config noise) ∧
      (outbound.flush prims config noise).ledger.slots = outbound.ledger.slots ∧
      ∀ packet ∈ outbound.pending, (outbound.flush prims config noise).Served packet := by
  rcases flush_cases prims config outbound noise with
    ⟨e, sessions, -, flushed⟩ | ⟨wires, sessions, sendTx, -, whole, -, flushed⟩
  · rw [flushed]
    exact ⟨⟨rfl, rfl, List.prefix_rfl, Nat.le_succ _⟩, rfl, fun _ _ => .inr (Nat.zero_lt_succ _)⟩
  · rw [flushed]
    exact ⟨⟨rfl, rfl, List.prefix_append _ _, Nat.le_refl _⟩, rfl,
      fun packet member => served_noteSeals _ whole member _⟩

/-- Staging a batch appends to the pending packets. -/
theorem stageAll_works (arrived : List (Stamped Bytes)) (outbound : Outbound) :
    Works outbound (arrived.foldl stage outbound) ∧ (arrived.foldl stage outbound).hsSend = outbound.hsSend ∧
      (arrived.foldl stage outbound).ledger.slots = outbound.ledger.slots ∧
      ∃ more, (arrived.foldl stage outbound).pending = outbound.pending ++ more := by
  induction arrived generalizing outbound with
  | nil => exact ⟨.refl outbound, rfl, rfl, [], (List.append_nil _).symm⟩
  | cons packet arrived ih =>
    have one : Works outbound (outbound.stage packet) ∧ (outbound.stage packet).hsSend = outbound.hsSend ∧
        (outbound.stage packet).ledger.slots = outbound.ledger.slots ∧
        ∃ more, (outbound.stage packet).pending = outbound.pending ++ more := by
      unfold stage
      split
      · exact ⟨⟨rfl, rfl, List.prefix_rfl, Nat.le_refl _⟩, rfl, rfl, [], (List.append_nil _).symm⟩
      · exact ⟨⟨rfl, rfl, List.prefix_rfl, Nat.le_refl _⟩, rfl, rfl, [packet], rfl⟩
    obtain ⟨works, hsSend, slots, more, pending⟩ := one
    obtain ⟨later, hsSend', slots', more', pending'⟩ := ih (outbound.stage packet)
    exact ⟨works.trans later, hsSend'.trans hsSend, slots'.trans slots, more ++ more', by
      rw [List.foldl_cons, pending', pending, List.append_assoc]⟩

/-- **The arms beside the tick and the live switch**: what waits keeps its place, but for a handshake datagram that
joins the sink, ahead of the packets; and no slot goes out. -/
theorem waits_beside {event : OutboundEvent} (other : ∀ now noise, event ≠ .tick now noise)
    (stays : ∀ eff noise, event ≠ .switch eff noise) (taken : before.step prims config event = some after) :
    Works before after ∧ after.ledger.slots = before.ledger.slots ∧ before.hsSend <+: after.hsSend ∧
      ∀ packet places, before.Waits packet places → after.Waits packet (places + joins event) := by
  have same : ∀ {after : Outbound}, after.queue = before.queue → ∀ packet places, before.Waits packet places →
      after.Waits packet (places + joins event) := by
    rintro after unchanged packet places ⟨place, inside, here⟩
    exact ⟨place, Nat.lt_add_right _ inside, by rw [unchanged, here]⟩
  cases event with
  | tick now noise => exact absurd rfl (other now noise)
  | switch eff noise => exact absurd rfl (stays eff noise)
  | recv packets noise =>
    simp only [step] at taken
    split at taken
    swap
    · cases taken
    obtain rfl := Option.some.inj taken
    simp only [react, recv]
    split
    · obtain ⟨works, hsSend, slots, more, pending⟩ := stageAll_works (stamp before.ledger.taken packets)
        { before with ledger := { before.ledger with taken := before.ledger.taken + packets.length } }
      refine ⟨⟨works.paced, works.paceBurst, works.seals, works.failures⟩, slots,
        ⟨[], (List.append_nil _).trans hsSend.symm⟩, ?_⟩
      rintro packet places ⟨place, inside, here⟩
      refine ⟨place, Nat.lt_add_right _ inside, ?_⟩
      rw [queue, hsSend, pending, List.map_append, ← List.append_assoc]
      exact List.getElem?_append_left (List.getElem?_eq_some_iff.mp here).1 ▸ here
    · obtain ⟨granted, sessions, -, dispatched | ⟨pinned, base, wires, -, -, dispatched⟩⟩ :=
        dispatchSeal_cases prims config _ (stamp before.ledger.taken packets) noise
      · rw [dispatched]
        exact ⟨⟨rfl, rfl, List.prefix_rfl, Nat.le_succ _⟩, rfl, List.prefix_rfl, same rfl⟩
      · rw [dispatched]
        exact ⟨⟨rfl, rfl, List.prefix_append _ _, Nat.le_refl _⟩, rfl, List.prefix_rfl, same rfl⟩
  | rekeyDone success =>
    obtain rfl := Option.some.inj taken
    cases success <;> exact ⟨⟨rfl, rfl, List.prefix_rfl, Nat.le_refl _⟩, rfl, List.prefix_rfl, same rfl⟩
  | queueHandshake datagram =>
    obtain rfl := Option.some.inj taken
    refine ⟨⟨rfl, rfl, List.prefix_rfl, Nat.le_refl _⟩, rfl, List.prefix_append _ _, ?_⟩
    rintro packet places ⟨place, inside, here⟩
    simp only [react, Waits, queue, List.map_append, List.append_assoc, List.map_cons, List.map_nil] at here ⊢
    by_cases ahead : place < (before.hsSend.map Sum.inl : List Waiter).length
    · rw [List.getElem?_append_left ahead] at here
      exact ⟨place, Nat.lt_add_right _ inside, by rw [List.getElem?_append_left ahead, here]⟩
    · have behind := Nat.le_of_not_lt ahead
      rw [List.getElem?_append_right behind] at here
      refine ⟨place + 1, Nat.succ_lt_succ inside, ?_⟩
      rw [List.getElem?_append_right (Nat.le_succ_of_le behind), Nat.succ_sub behind, List.singleton_append,
        List.getElem?_cons_succ, here]
  | reserve n =>
    obtain rfl := Option.some.inj taken
    simp only [react]
    split
    · exact ⟨⟨rfl, rfl, List.prefix_rfl, Nat.le_refl _⟩, rfl, List.prefix_rfl, same rfl⟩
    · exact ⟨⟨rfl, rfl, List.prefix_rfl, Nat.le_succ _⟩, rfl, List.prefix_rfl, same rfl⟩
  | install origin =>
    obtain rfl := Option.some.inj taken
    exact ⟨⟨rfl, rfl, List.prefix_rfl, Nat.le_refl _⟩, rfl, List.prefix_rfl, same rfl⟩
  | retire =>
    obtain rfl := Option.some.inj taken
    exact ⟨⟨rfl, rfl, List.prefix_rfl, Nat.le_refl _⟩, rfl, List.prefix_rfl, same rfl⟩

/-- **A tick**: in the paced mode everything moves up by the burst, and the packets at the front were sealed. -/
theorem waits_tick (prims : Primitives) (config : OutboundConfig) (before : Outbound) (now : Nat)
    (noise : Nat → Nat → UInt8) :
    Works before (before.tick prims config now noise) ∧
      ∀ packet places, before.paced = true → before.Waits packet places →
        (before.tick prims config now noise).Served packet ∨
          (before.tick prims config now noise).Waits packet (places - before.paceBurst) := by
  simp only [tick, triggerRekey]
  by_cases paced : before.paced = true
  · obtain ⟨left, packets⟩ := emit_queue prims now before.paceBurst before noise
    have works := works_emit prims now before.paceBurst before noise
    rw [if_pos paced]
    refine ⟨⟨works.paced, works.paceBurst, works.seals, works.failures⟩, ?_⟩
    rintro packet places - ⟨place, inside, here⟩
    by_cases first : place < before.paceBurst
    · have among : .inr packet ∈ before.queue.take before.paceBurst :=
        List.mem_of_getElem? (i := place) (by rw [List.getElem?_take_of_lt first, here])
      exact .inl (packets packet among)
    · right
      refine ⟨place - before.paceBurst, by omega, ?_⟩
      show (emit prims now before.paceBurst before noise).2.queue[place - before.paceBurst]? = some (.inr packet)
      rw [left, List.getElem?_drop, Nat.add_sub_cancel' (Nat.le_of_not_lt first), here]
  · rw [if_neg paced]
    refine ⟨?_, fun _ _ on => absurd on paced⟩
    split
    · exact ⟨rfl, rfl, List.prefix_rfl, Nat.le_refl _⟩
    · obtain ⟨works, -⟩ := served_flush prims config before noise
      exact ⟨works.paced, works.paceBurst, works.seals, works.failures⟩

theorem works_announce (outbound : Outbound) (eff : EffectiveTraffic) (noise : Nat → UInt8) :
    Works outbound (outbound.announce prims config eff noise) ∧
      (outbound.announce prims config eff noise).ledger.slots = outbound.ledger.slots := by
  unfold announce sendProfileFrame
  repeat' split
  · exact ⟨⟨rfl, rfl, List.prefix_rfl, Nat.le_refl _⟩, rfl⟩
  · exact ⟨⟨rfl, rfl, List.prefix_rfl, Nat.le_succ _⟩, rfl⟩
  · exact ⟨.refl outbound, rfl⟩
  · exact ⟨.refl outbound, rfl⟩

/-- **The live switch**: what waits keeps its place, or the residue is sealed; and no slot goes out. -/
theorem waits_switch (prims : Primitives) (config : OutboundConfig) (before : Outbound) (eff : EffectiveTraffic)
    (noise : Nat → Nat → UInt8) :
    ((before.switch prims config eff noise).ledger.slots = before.ledger.slots ∧
        (before.switch prims config eff noise).hsSend = before.hsSend) ∧
      (∀ packet, before.Served packet → (before.switch prims config eff noise).Served packet) ∧
      ∀ packet places, before.Waits packet places → (before.switch prims config eff noise).Served packet ∨
        (before.switch prims config eff noise).Waits packet places := by
  -- what the announcement and the new settings leave of the loop after the residue went out
  have settles : ∀ flushed : Outbound, Works before flushed →
      (if before.paced ∧ ¬ (eff.enabled && config.engine.obfEnabled) ∧ before.pending ≠ [] then
        before.flush prims config fun i => noise (i + 1) else before) = flushed →
      (before.switch prims config eff noise).ledger.slots = flushed.ledger.slots ∧
        (before.switch prims config eff noise).hsSend = flushed.hsSend ∧
        (∀ packet, flushed.Served packet → (before.switch prims config eff noise).Served packet) ∧
        (before.switch prims config eff noise).queue = flushed.queue := by
    intro flushed works isFlushed
    let marked : Outbound := { flushed with
      paced := eff.enabled && config.engine.obfEnabled
      ledger := { flushed.ledger with
        mark := if (eff.enabled && config.engine.obfEnabled) = true then none else
          some ⟨flushed.ledger.taken, flushed.ledger.queued, false⟩ } }
    obtain ⟨announces, slots⟩ := @works_announce prims config marked eff (noise 0)
    obtain ⟨-, pending, hsSend⟩ := serves_announce prims config marked eff (noise 0)
    simp only [switch, isFlushed]
    refine ⟨slots, hsSend, fun packet served => ?_, ?_⟩
    · have kept : marked.Served packet := served
      exact announces.served kept
    · show (marked.announce prims config eff (noise 0)).hsSend.map _ ++
        (marked.announce prims config eff (noise 0)).pending.map _ = _
      rw [pending, hsSend]
      rfl
  by_cases leaves : before.paced = true ∧ ¬ (eff.enabled && config.engine.obfEnabled) = true ∧ before.pending ≠ []
  · obtain ⟨works, slots, sealed⟩ := served_flush prims config before fun i => noise (i + 1)
    have sink := (serves_flush prims config before fun i => noise (i + 1)).2.2
    obtain ⟨slots', sink', stays, -⟩ := settles _ works (if_pos leaves)
    refine ⟨⟨slots'.trans slots, sink'.trans sink⟩, fun packet served => stays packet (works.served served),
      fun packet places waits => .inl ?_⟩
    obtain ⟨place, -, here⟩ := waits
    rcases List.mem_append.mp (List.mem_of_getElem? here) with hs | among
    · obtain ⟨_, -, same⟩ := List.mem_map.mp hs
      cases same
    · obtain ⟨_, member, same⟩ := List.mem_map.mp among
      exact stays _ (sealed packet (Sum.inr.inj same ▸ member))
  · obtain ⟨slots, sink, stays, queue⟩ := settles before (.refl before) (if_neg leaves)
    refine ⟨⟨slots, sink⟩, stays, fun packet places waits => .inr ?_⟩
    rwa [Waits, queue]

/-! ### One event, and a run -/

theorem waits_zero (packet : Stamped Bytes) : ¬ outbound.Waits packet 0 :=
  fun ⟨_, inside, _⟩ => Nat.not_lt_zero _ inside

theorem Waits.mono {fewer more : Nat} (waits : outbound.Waits packet fewer) (le : fewer ≤ more) :
    outbound.Waits packet more := by
  obtain ⟨place, inside, here⟩ := waits
  exact ⟨place, Nat.lt_of_lt_of_le inside le, here⟩

theorem ticks_cons (event : OutboundEvent) (events : List OutboundEvent) :
    ticks (event :: events) = ticks [event] + ticks events := by
  rw [ticks, ticks, ticks, List.countP_cons, List.countP_cons, List.countP_nil]
  omega

theorem ticks_other {event : OutboundEvent} (other : ∀ now noise, event ≠ .tick now noise) : ticks [event] = 0 := by
  cases event with
  | tick now noise => exact absurd rfl (other now noise)
  | _ => rfl

/-- **One event**: a packet that waits is sealed, or moves up by the burst with a tick. -/
theorem waits_step (sound : Sound before) {event : OutboundEvent} (taken : before.step prims config event = some after)
    {burst : Nat} (bound : burst ≤ before.paceBurst) (least : AtLeast burst event) :
    (before.Served packet → after.Served packet) ∧ burst ≤ after.paceBurst ∧
      ∀ places, before.Waits packet places →
        after.Served packet ∨ after.Waits packet (places + joins event - burst * ticks [event]) := by
  by_cases tick : ∃ now noise, event = .tick now noise
  · obtain ⟨now, noise, rfl⟩ := tick
    obtain rfl := Option.some.inj taken
    obtain ⟨works, moves⟩ := waits_tick prims config before now noise
    refine ⟨works.served, works.paceBurst ▸ bound, fun places waits => ?_⟩
    have on : before.paced = true := by
      by_contra off
      have unpaced := Bool.eq_false_of_not_eq_true off
      obtain ⟨place, -, here⟩ := waits
      have member := List.mem_of_getElem? here
      simp [queue, sound.resting unpaced] at member
    refine (moves packet places on waits).imp id fun waits => waits.mono ?_
    show places - before.paceBurst ≤ places + 0 - burst * 1
    omega
  have notTick : ∀ now noise, event ≠ .tick now noise := fun now noise same => tick ⟨now, noise, same⟩
  simp only [ticks_other notTick, Nat.mul_zero, Nat.sub_zero]
  by_cases switch : ∃ eff noise, event = .switch eff noise
  · obtain ⟨eff, noise, rfl⟩ := switch
    obtain rfl := Option.some.inj taken
    obtain ⟨-, served, moves⟩ := waits_switch prims config before eff noise
    exact ⟨served packet, least, moves packet⟩
  · obtain ⟨works, -, -, moves⟩ := waits_beside notTick (fun eff noise same => switch ⟨eff, noise, same⟩) taken
    exact ⟨works.served, works.paceBurst ▸ bound, fun places waits => .inr (moves packet places waits)⟩

/-- **A run**: a packet is sealed once the slots outweigh its place and what joined before it. -/
theorem waits_run {first last : Outbound} {events : List OutboundEvent}
    (run : Run (Taken (step prims config)) first events last) (sound : Sound first) {burst : Nat}
    (bound : burst ≤ first.paceBurst) (least : ∀ event ∈ events, AtLeast burst event) :
    (first.Served packet → last.Served packet) ∧ ∀ places, first.Waits packet places →
      places + (events.map joins).sum ≤ burst * ticks events → last.Served packet := by
  induction run with
  | done state =>
    refine ⟨id, fun places waits enough => absurd (waits.mono (Nat.le_of_add_right_le enough)) ?_⟩
    exact waits_zero packet
  | @next before middle last event events taken _ ih =>
    obtain ⟨served, bound', moves⟩ := @waits_step _ _ _ _ packet sound _ taken _ bound (least event List.mem_cons_self)
    obtain ⟨keeps, arrives⟩ := ih (sound_step sound taken) bound'
      (fun other member => least other (List.mem_cons_of_mem _ member))
    refine ⟨fun already => keeps (served already), fun places waits enough => ?_⟩
    rw [ticks_cons, Nat.mul_add, List.map_cons, List.sum_cons] at enough
    rcases moves places waits with gone | waits
    · exact keeps gone
    · by_cases left : places + joins event ≤ burst * ticks [event]
      · rw [Nat.sub_eq_zero_of_le left] at waits
        exact absurd waits (waits_zero packet)
      · exact arrives _ waits (by omega)

/-! ### The sink -/

/-- **One event drains the sink from its front**: what leaves it goes out in the slots since, in its order, and it
is at least a burst with a tick. -/
theorem sink_step {event : OutboundEvent} (taken : before.step prims config event = some after)
    (paced : before.paced = true) {burst : Nat} (bound : burst ≤ before.paceBurst) (least : AtLeast burst event)
    (stays : StaysPaced config event) :
    (after.paced = true ∧ burst ≤ after.paceBurst) ∧ ∃ slots gone, after.ledger.slots = before.ledger.slots ++ slots ∧
      burst * ticks [event] ≤ gone ∧ ((before.hsSend.take gone).map Stamped.item).Sublist slots.flatten ∧
        before.hsSend.drop gone <+: after.hsSend := by
  by_cases tick : ∃ now noise, event = .tick now noise
  · obtain ⟨now, noise, rfl⟩ := tick
    obtain rfl := Option.some.inj taken
    have works := (waits_tick prims config before now noise).1
    obtain ⟨left, begins⟩ := emit_sink prims now before.paceBurst before noise
    refine ⟨⟨works.paced.trans paced, works.paceBurst ▸ bound⟩,
      [(emit prims now before.paceBurst before noise).1], before.paceBurst, ?_, ?_, ?_, ?_⟩
    · simp only [react, Outbound.tick, if_pos paced, triggerRekey, sendSlot, slots_emit]
    · show burst * 1 ≤ before.paceBurst
      omega
    · rw [List.flatten_singleton]
      exact begins.sublist
    · simp only [react, Outbound.tick, if_pos paced, triggerRekey, sendSlot, left]
      exact List.prefix_rfl
  have notTick : ∀ now noise, event ≠ .tick now noise := fun now noise same => tick ⟨now, noise, same⟩
  rw [ticks_other notTick, Nat.mul_zero]
  by_cases switch : ∃ eff noise, event = .switch eff noise
  · obtain ⟨eff, noise, rfl⟩ := switch
    obtain rfl := Option.some.inj taken
    obtain ⟨⟨slots, sink⟩, -⟩ := waits_switch prims config before eff noise
    have isPaced : (before.switch prims config eff noise).paced = (eff.enabled && config.engine.obfEnabled) := by
      simp only [Outbound.switch]
      exact (serves_announce prims config _ eff (noise 0)).1.paced
    refine ⟨⟨isPaced.trans stays, least⟩, [], 0, ?_, Nat.le_refl _, List.nil_sublist _, ?_⟩
    · rw [List.append_nil]
      exact slots
    · exact ⟨[], (List.append_nil _).trans sink.symm⟩
  · obtain ⟨works, slots, sink, -⟩ := waits_beside notTick (fun eff noise same => switch ⟨eff, noise, same⟩) taken
    refine ⟨⟨works.paced.trans paced, works.paceBurst ▸ bound⟩, [], 0, ?_, Nat.le_refl _, List.nil_sublist _, sink⟩
    rw [List.append_nil]
    exact slots

/-- **A run drains the sink from its front.** -/
theorem sink_run {first last : Outbound} {events : List OutboundEvent}
    (run : Run (Taken (step prims config)) first events last) (paced : first.paced = true) {burst : Nat}
    (bound : burst ≤ first.paceBurst) (least : ∀ event ∈ events, AtLeast burst event)
    (stays : ∀ event ∈ events, StaysPaced config event) :
    ∃ slots, last.ledger.slots = first.ledger.slots ++ slots ∧
      ((first.hsSend.take (burst * ticks events)).map Stamped.item).Sublist slots.flatten := by
  induction run with
  | done state => exact ⟨[], (List.append_nil _).symm, List.Sublist.refl _⟩
  | @next before middle last event events taken _ ih =>
    obtain ⟨⟨paced', bound'⟩, now, gone, grown, drained, wentOut, rest⟩ := sink_step taken paced bound
      (least event List.mem_cons_self) (stays event List.mem_cons_self)
    obtain ⟨later, grown', wentOut'⟩ := ih paced' bound'
      (fun other member => least other (List.mem_cons_of_mem _ member))
      (fun other member => stays other (List.mem_cons_of_mem _ member))
    refine ⟨now ++ later, by rw [grown', grown, List.append_assoc], ?_⟩
    have within : burst * ticks (event :: events) ≤ gone + burst * ticks events := by
      rw [ticks_cons, Nat.mul_add]
      exact Nat.add_le_add_right drained _
    -- the front is what left the sink now, and what is at its front after that
    have front : (before.hsSend.take (burst * ticks (event :: events))).Sublist
        (before.hsSend.take gone ++ middle.hsSend.take (burst * ticks events)) := by
      refine (List.take_prefix_take_left within).sublist.trans ?_
      rw [List.take_add]
      exact (rest.take _).sublist.append_left _
    rw [List.flatten_append]
    refine (front.map Stamped.item).trans ?_
    rw [List.map_append]
    exact wentOut.append wentOut'

/-- **Nothing waits longer than its place in the queue says.** From any state of any run on, with slots of at least
`burst` items: a pending packet is sealed once `burst` times the slots exceeds its place behind the pending packets
and the handshake datagrams ahead of it, those that joined since included, unless a seal failed; and the handshake
datagrams in as many first places of the paced sink go out in the slots since, each of them and in their order, while
the loop stays paced, whatever packets wait. -/
theorem slots_serve_in_time (prims : Primitives) (config : OutboundConfig) {sessions : SessionManager Session}
    (limit : sessions.current.rekeyAt = 2 ^ 48) (eff : EffectiveTraffic) {history events : List OutboundEvent}
    {first last : Outbound} (reached : Run (Taken (step prims config)) (begin config sessions eff) history first)
    (run : Run (Taken (step prims config)) first events last) {burst : Nat} (bound : burst ≤ first.paceBurst)
    (least : ∀ event ∈ events, AtLeast burst event) :
    (∀ place packet, first.pending[place]? = some packet →
      first.hsSend.length + (events.map joins).sum + place < burst * ticks events →
        last.ledger.failures = 0 → packet.arrival ∈ last.ledger.seals.map Seal.arrival) ∧
      (first.paced = true → (∀ event ∈ events, StaysPaced config event) →
        ((first.hsSend.take (burst * ticks events)).map Stamped.item).Sublist
          (last.ledger.slots.drop first.ledger.slots.length).flatten) := by
  have sound : Sound first := sound_run reached (sound_begin limit eff)
  refine ⟨fun place packet here enough fine => ?_, fun paced stays => ?_⟩
  · obtain ⟨-, arrives⟩ := @waits_run _ _ packet _ _ _ run sound _ bound least
    have waits : first.Waits packet (first.hsSend.length + place + 1) := by
      refine ⟨first.hsSend.length + place, Nat.lt_succ_self _, ?_⟩
      rw [queue, List.getElem?_append_right (by simp)]
      simp [here]
    exact (arrives _ waits (by omega)).resolve_right (by omega)
  · obtain ⟨slots, grown, wentOut⟩ := sink_run run paced bound least stays
    rw [grown, List.drop_left]
    exact wentOut

end Steps

/-- Two packets wait, and a handshake datagram with its resend. -/
def sampleWaiting : List OutboundEvent :=
  [.recv [[1, 2, 3], [4]] fun _ _ => 9, .queueHandshake [7, 7], .queueHandshake [7, 7]]

/-- Two slots of two items each, with one more packet between them. -/
def sampleSlots : List OutboundEvent :=
  [.tick 4 fun _ _ => 1, .recv [[5]] fun _ _ => 9, .tick 8 fun _ _ => 1]

/-- The loop where the slots begin, and where they end. -/
def sampleQueued : Outbound :=
  sampleWaiting.foldl (react .transparent sampleOutbound) (begin sampleOutbound sampleSessions sampleStealth)

def sampleSlotted : Outbound := sampleSlots.foldl (react .transparent sampleOutbound) sampleQueued

/-- Both handshake datagrams go out, and then the packet. -/
theorem slots_serve_in_time_sample :
    [[7, 7], [7, 7]].Sublist (sampleSlotted.ledger.slots.drop sampleQueued.ledger.slots.length).flatten ∧
      0 ∈ sampleSlotted.ledger.seals.map Seal.arrival := by
  have reached : Run (Taken (step .transparent sampleOutbound))
      (begin sampleOutbound sampleSessions sampleStealth) sampleWaiting sampleQueued :=
    .next rfl (.next rfl (.next rfl (.done _)))
  have run : Run (Taken (step .transparent sampleOutbound)) sampleQueued sampleSlots sampleSlotted :=
    .next rfl (.next rfl (.next rfl (.done _)))
  have least : ∀ event ∈ sampleSlots, AtLeast 2 event := by
    simp [sampleSlots, AtLeast]
  have burst : 2 ≤ sampleQueued.paceBurst := by decide +kernel
  have stays : ∀ event ∈ sampleSlots, StaysPaced sampleOutbound event := by
    simp [sampleSlots, StaysPaced]
  obtain ⟨packets, datagrams⟩ :=
    slots_serve_in_time .transparent sampleOutbound rfl sampleStealth reached run burst least
  exact ⟨datagrams rfl stays, packets 0 ⟨0, [1, 2, 3]⟩ rfl (by decide +kernel) rfl⟩

end Outbound

end ChameleonPQ
