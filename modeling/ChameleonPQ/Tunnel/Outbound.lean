/-
**The outbound loop (`tunnel_loops.rs`).**

One round of the `select!` is one step: a batch arrives from the TUN, the ticker fires, the rekey
driver ends, or the traffic profile is switched live. Handshake datagrams reach the loop through the
paced sink; other tasks take counters of the session and the rekey code installs and retires sessions.

* `Ledger` — what a run did: what was dropped and why, at which counter each packet was sealed and to
  which octets; and the ways out, where the loop writes them: the order channel of the sequential sender,
  the channel of the pipeline sender, and the slots the loop sends itself.
* `emit`, `tick` — the paced slot and the tick arm.
* `switch` — the live switch of the traffic profile.
* `step` — one event.
* `dispatchSeal_cases`, `flush_cases` — what sealing a batch and flushing the residue come to.
-/

import ChameleonPQ.Library.Runs
import ChameleonPQ.Session.Engine
import ChameleonPQ.Session.SendSide
import ChameleonPQ.Tunnel.Pacer
import ChameleonPQ.Tunnel.Pipeline

namespace ChameleonPQ

open Library Library.Runs

/-- `MAX_QUEUE`. -/
def maxQueue : Nat := 4096

/-- An item with its place in the order of arrival. -/
structure Stamped (Item : Type) where
  arrival : Nat
  item : Item
  deriving DecidableEq

/-- Items arriving one after the other. -/
def stamp {Item : Type} (first : Nat) : List Item → List (Stamped Item)
  | [] => []
  | item :: items => ⟨first, item⟩ :: stamp (first + 1) items

/-- A packet was dropped on arrival: with so many packets pending, in this mode. -/
structure TailDrop where
  arrival : Nat
  pending : Nat
  paced : Bool
  deriving DecidableEq

/-- A packet was sealed at a counter of a session, and this is what came of it; sessions are numbered in
the order they became current. -/
structure Seal where
  arrival : Nat
  epoch : Nat
  counter : Nat
  wire : Bytes
  deriving DecidableEq

/-- The packets of a batch, sealed at consecutive counters. -/
def sealsAt (epoch : Nat) : Nat → List (Stamped Bytes) → List Bytes → List Seal
  | counter, packet :: batch, wire :: wires =>
    ⟨packet.arrival, epoch, counter, wire⟩ :: sealsAt epoch (counter + 1) batch wires
  | _, _, _ => []

/-- The last switch to unpaced: what had been taken in by then, and whether the ticker has fired
since. -/
structure SwitchMark where
  packets : Nat
  handshakes : Nat
  ticked : Bool
  deriving DecidableEq

/-- The ticker fired. -/
def SwitchMark.tick (mark : SwitchMark) : SwitchMark := { mark with ticked := true }

/-- What a run of the outbound loop did. -/
structure Ledger where
  /-- TUN packets taken in. -/
  taken : Nat
  dropped : List TailDrop
  seals : List Seal
  /-- The batches that went into the order channel, as what their seals resolve to. -/
  orderTx : List (List Bytes)
  /-- The batches that went to the pipeline sender. -/
  sendTx : List (List Bytes)
  /-- What each paced slot put on the wire. -/
  slots : List (List Bytes)
  /-- What there was for the slots beside packets: handshake datagrams and cover. -/
  beside : List Bytes
  /-- Handshake datagrams accepted by the paced sink. -/
  queued : Nat
  /-- Reservations and seals that failed. -/
  failures : Nat
  epoch : Nat
  mark : Option SwitchMark

/-- The settings of the outbound loop. -/
structure OutboundConfig where
  engine : CryptoEngine
  announceProfile : Bool

/-- The state of the outbound loop: its local variables, the session manager it shares, and the
receiving end of the paced handshake sink. -/
structure Outbound where
  sessions : SessionManager Session
  pending : List (Stamped Bytes)
  hsSend : List (Stamped Bytes)
  pacer : Pacer
  paced : Bool
  paceBurst : Nat
  rekeying : Bool
  ledger : Ledger

/-- What can happen next; `noise` feeds the padding of what is sealed. -/
inductive OutboundEvent where
  /-- `from_tun.recv_many` gave a batch. -/
  | recv (packets : List Bytes) (noise : Nat → Nat → UInt8)
  /-- The ticker fired. -/
  | tick (now : Nat) (noise : Nat → Nat → UInt8)
  /-- The rekey driver ended. -/
  | rekeyDone (success : Bool)
  /-- `traffic_rx` changed. -/
  | switch (eff : EffectiveTraffic) (noise : Nat → Nat → UInt8)
  /-- `HandshakeSink::Paced` took a handshake datagram. -/
  | queueHandshake (datagram : Bytes)
  /-- Another task took counters of the current session: a keepalive, a profile frame. -/
  | reserve (n : Nat)
  /-- A rekey installed a new session. -/
  | install (origin : HandshakeOutput)
  /-- A grace period ended. -/
  | retire

namespace Outbound

section Definitions

variable (prims : Primitives) (config : OutboundConfig)

/-- The loop of a tunnel that starts on the given sessions. -/
def begin (sessions : SessionManager Session) (eff : EffectiveTraffic) : Outbound :=
  { sessions, pending := [], hsSend := []
    pacer := .ofTraffic eff
    paced := eff.enabled && config.engine.obfEnabled
    paceBurst := max eff.burst.toNat 1
    rekeying := false
    ledger := ⟨0, [], [], [], [], [], [], 0, 0, 0, none⟩ }

/-- A reservation or a seal failed. -/
def fail (outbound : Outbound) : Outbound :=
  { outbound with ledger := { outbound.ledger with failures := outbound.ledger.failures + 1 } }

/-- A batch was sealed at consecutive counters of the current session. -/
def noteSeals (outbound : Outbound) (batch : List (Stamped Bytes)) (base : Nat) (wires : List Bytes) :
    Outbound :=
  { outbound with ledger := { outbound.ledger with
      seals := outbound.ledger.seals ++ sealsAt outbound.ledger.epoch base batch wires } }

/-- A slot has something else to send. -/
def noteBeside (outbound : Outbound) (wire : Bytes) : Outbound :=
  { outbound with ledger := { outbound.ledger with beside := outbound.ledger.beside ++ [wire] } }

/-- `order_tx.send`. -/
def sendOrder (outbound : Outbound) (wires : List Bytes) : Outbound :=
  { outbound with ledger := { outbound.ledger with orderTx := outbound.ledger.orderTx ++ [wires] } }

/-- `send_tx.send`, unless there is nothing to send. -/
def sendPipeline (outbound : Outbound) (wires : List Bytes) : Outbound :=
  if wires = [] then outbound
  else { outbound with ledger := { outbound.ledger with sendTx := outbound.ledger.sendTx ++ [wires] } }

/-- `batch_send` of a slot. -/
def sendSlot (outbound : Outbound) (slot : List Bytes) : Outbound :=
  { outbound with ledger := { outbound.ledger with slots := outbound.ledger.slots ++ [slot] } }

/-- One packet of the paced receive arm: it is staged, or dropped when the queue is full. -/
def stage (outbound : Outbound) (packet : Stamped Bytes) : Outbound :=
  if maxQueue ≤ outbound.pending.length then
    { outbound with ledger := { outbound.ledger with
        dropped := outbound.ledger.dropped ++
          [⟨packet.arrival, outbound.pending.length, outbound.paced⟩] } }
  else { outbound with pending := outbound.pending ++ [packet] }

/-- `dispatch_seal`, the worker's seal, and the hand-over through the order channel. -/
def dispatchSeal (outbound : Outbound) (batch : List (Stamped Bytes)) (noise : Nat → Nat → UInt8) :
    Outbound :=
  match outbound.sessions.reserve batch.length with
  | (.error _, sessions) => { outbound with sessions }.fail
  | (.ok (pinned, base), sessions) =>
    match config.engine.sealBatchWithCounters prims pinned base (batch.map Stamped.item) noise with
    | .error _ => { outbound with sessions }.fail
    | .ok wires => (({ outbound with sessions } : Outbound).noteSeals batch base wires).sendOrder wires

/-- The receive arm. -/
def recv (outbound : Outbound) (packets : List Bytes) (noise : Nat → Nat → UInt8) : Outbound :=
  let arrived := stamp outbound.ledger.taken packets
  let outbound := { outbound with ledger := { outbound.ledger with
    taken := outbound.ledger.taken + packets.length } }
  if outbound.paced then arrived.foldl stage outbound
  else outbound.dispatchSeal prims config arrived noise

/-- The residue of the pending queue is sealed inline and handed to the pipeline sender. -/
def flush (outbound : Outbound) (noise : Nat → Nat → UInt8) : Outbound :=
  let base := outbound.sessions.current.txCounter
  match config.engine.encryptBatch prims outbound.sessions (outbound.pending.map Stamped.item)
      noise with
  | (.error _, sessions) => { outbound with sessions, pending := [] }.fail
  | (.ok wires, sessions) =>
    (({ outbound with sessions, pending := [] } : Outbound).noteSeals outbound.pending base wires).sendPipeline wires

/-- The rounds of one paced slot: a queued handshake datagram goes first, then a pending packet, then
cover. -/
def emit (now : Nat) : Nat → Outbound → (Nat → Nat → UInt8) → List Bytes × Outbound
  | 0, outbound, _ => ([], outbound)
  | rounds + 1, outbound, noise =>
    match outbound.hsSend with
    | queued :: rest =>
      let (more, after) := emit now rounds
        (({ outbound with hsSend := rest } : Outbound).noteBeside queued.item) fun i => noise (i + 1)
      (queued.item :: more, after)
    | [] =>
      match outbound.pacer.nextEmit (!outbound.pending.isEmpty) now, outbound.pending with
      | (.real, pacer), packet :: pending =>
        let base := outbound.sessions.current.txCounter
        match CryptoEngine.sealDataFull prims outbound.sessions packet.item (noise 0) with
        | (.ok wire, sessions) =>
          let (more, after) := emit now rounds
            (({ outbound with sessions, pacer, pending } : Outbound).noteSeals [packet] base [wire])
            fun i => noise (i + 1)
          (wire :: more, after)
        | (.error _, sessions) =>
          emit now rounds ({ outbound with sessions, pacer, pending }.fail) fun i => noise (i + 1)
      -- `Emit::Real` implies that a packet is pending.
      | (.real, pacer), [] => ([], { outbound with pacer })
      | (.cover, pacer), _ =>
        match CryptoEngine.coverDatagram prims outbound.sessions (noise 0) with
        | (.ok wire, sessions) =>
          let (more, after) := emit now rounds
            (({ outbound with sessions, pacer } : Outbound).noteBeside wire) fun i => noise (i + 1)
          (wire :: more, after)
        | (.error _, sessions) =>
          emit now rounds ({ outbound with sessions, pacer }.fail) fun i => noise (i + 1)
      | (.idle, pacer), _ => ([], { outbound with pacer })

/-- The rekey trigger at the end of the tick arm. -/
def triggerRekey (outbound : Outbound) (now : Nat) : Outbound :=
  let (due, sessions) := outbound.sessions.needsRekey outbound.sessions.current.txCounter now
  { outbound with sessions, rekeying := outbound.rekeying || due }

/-- The tick arm. -/
def tick (outbound : Outbound) (now : Nat) (noise : Nat → Nat → UInt8) : Outbound :=
  let served : Outbound :=
    if outbound.paced then
      let (slot, after) := emit prims now outbound.paceBurst outbound noise
      after.sendSlot slot
    else if outbound.pending = [] then outbound
    else outbound.flush prims config noise
  let marked := { served with ledger := { served.ledger with
    mark := served.ledger.mark.map SwitchMark.tick } }
  marked.triggerRekey now

/-- `send_profile_frame`: the frame goes straight to the socket. -/
def sendProfileFrame (outbound : Outbound) (id : UInt8) (noise : Nat → UInt8) : Outbound :=
  match outbound.sessions.sealObf prims FrameType.profile.asU8 [id] config.engine.padPolicy noise with
  | (.ok _, sessions) => { outbound with sessions }
  | (.error _, sessions) => { outbound with sessions }.fail

/-- The peer is told the new profile, unless it is a custom one. -/
def announce (outbound : Outbound) (eff : EffectiveTraffic) (noise : Nat → UInt8) : Outbound :=
  match eff.profile.wireId with
  | some id =>
    if config.announceProfile then outbound.sendProfileFrame prims config id noise else outbound
  | none => outbound

/-- The live switch arm. -/
def switch (outbound : Outbound) (eff : EffectiveTraffic) (noise : Nat → Nat → UInt8) : Outbound :=
  let newPaced := eff.enabled && config.engine.obfEnabled
  let flushed : Outbound :=
    if outbound.paced ∧ ¬ newPaced ∧ outbound.pending ≠ [] then
      outbound.flush prims config fun i => noise (i + 1)
    else outbound
  let mark := if newPaced then none else
    some ⟨flushed.ledger.taken, flushed.ledger.queued, false⟩
  let switched := { flushed with
    paced := newPaced
    ledger := { flushed.ledger with mark } }
  { switched.announce prims config eff (noise 0) with
    paceBurst := max eff.burst.toNat 1
    pacer := .ofTraffic eff }

/-- The handling of one event. -/
def react (outbound : Outbound) : OutboundEvent → Outbound
  | .recv packets noise => outbound.recv prims config packets noise
  | .tick now noise => outbound.tick prims config now noise
  | .rekeyDone true => { outbound with rekeying := false }
  | .rekeyDone false => { outbound with rekeying := false, sessions := outbound.sessions.abortRekey }
  | .switch eff noise => outbound.switch prims config eff noise
  | .queueHandshake datagram => { outbound with
      hsSend := outbound.hsSend ++ [⟨outbound.ledger.queued, datagram⟩]
      ledger := { outbound.ledger with queued := outbound.ledger.queued + 1 } }
  | .reserve n =>
    match outbound.sessions.reserve n with
    | (.ok _, sessions) => { outbound with sessions }
    | (.error _, sessions) => { outbound with sessions }.fail
  | .install origin => { outbound with
      sessions := outbound.sessions.installNewSession
        (Session.fromHandshakeWithAlgo prims origin.sessionId origin.shared origin.isInitiator
          origin.algo)
      ledger := { outbound.ledger with epoch := outbound.ledger.epoch + 1 } }
  | .retire => { outbound with sessions := outbound.sessions.retirePrevious }

/-- One step: a batch holds between one and `MAX_BATCH` packets. -/
def step (outbound : Outbound) (event : OutboundEvent) : Option Outbound :=
  match event with
  | .recv packets _ =>
    if 0 < packets.length ∧ packets.length ≤ maxBatch then some (outbound.react prims config event)
    else none
  | _ => some (outbound.react prims config event)

end Definitions

/-- Only the channel of the pipeline sender sees what is sent to it. -/
theorem sendPipeline_frame (outbound : Outbound) (wires : List Bytes) :
    ∃ sendTx, outbound.sendPipeline wires = { outbound with ledger := { outbound.ledger with sendTx } } ∧
      sendTx.flatten = outbound.ledger.sendTx.flatten ++ wires := by
  unfold sendPipeline
  split
  · rename_i none
    exact ⟨outbound.ledger.sendTx, rfl, by rw [none, List.append_nil]⟩
  · exact ⟨_, rfl, by rw [List.flatten_append, List.flatten_singleton]⟩

/-- **What dispatching a batch does.** The reservation or the seal fails, or the batch was sealed at the
reserved counters, one wire for each packet, and went into the order channel. -/
theorem dispatchSeal_cases (prims : Primitives) (config : OutboundConfig) (outbound : Outbound)
    (batch : List (Stamped Bytes)) (noise : Nat → Nat → UInt8) :
    ∃ granted sessions, outbound.sessions.reserve batch.length = (granted, sessions) ∧
      (outbound.dispatchSeal prims config batch noise = { outbound with sessions }.fail ∨
        ∃ pinned base wires, granted = .ok (pinned, base) ∧ wires.length = batch.length ∧
          outbound.dispatchSeal prims config batch noise =
            (({ outbound with sessions } : Outbound).noteSeals batch base wires).sendOrder wires) := by
  unfold dispatchSeal
  rcases reserved : outbound.sessions.reserve batch.length with ⟨e | ⟨pinned, base⟩, sessions⟩
  · exact ⟨_, sessions, rfl, .inl rfl⟩
  · refine ⟨_, sessions, rfl, ?_⟩
    dsimp only
    rcases sealed : config.engine.sealBatchWithCounters prims pinned base (batch.map Stamped.item) noise
      with e | wires
    · exact .inl rfl
    · have whole : wires.length = batch.length :=
        (CryptoEngine.length_sealBatchWithCounters sealed).trans (List.length_map _)
      exact .inr ⟨pinned, base, wires, rfl, whole, rfl⟩

/-- **What a flush does.** The residue is gone with a seal that failed, or it was sealed, one wire for
each packet, and the wires joined the channel of the pipeline sender. -/
theorem flush_cases (prims : Primitives) (config : OutboundConfig) (outbound : Outbound)
    (noise : Nat → Nat → UInt8) :
    (∃ e sessions, config.engine.encryptBatch prims outbound.sessions (outbound.pending.map Stamped.item) noise =
        (.error e, sessions) ∧
      outbound.flush prims config noise = { outbound with sessions, pending := [] }.fail) ∨
    ∃ wires sessions sendTx, config.engine.encryptBatch prims outbound.sessions
        (outbound.pending.map Stamped.item) noise = (.ok wires, sessions) ∧
      wires.length = outbound.pending.length ∧
      sendTx.flatten = outbound.ledger.sendTx.flatten ++ wires ∧
      outbound.flush prims config noise =
        ({ outbound with sessions, pending := [], ledger := { outbound.ledger with sendTx } } : Outbound).noteSeals
          outbound.pending outbound.sessions.current.txCounter wires := by
  unfold flush
  rcases sealed : config.engine.encryptBatch prims outbound.sessions (outbound.pending.map Stamped.item) noise
    with ⟨e | wires, sessions⟩
  · exact .inl ⟨e, sessions, rfl, rfl⟩
  · have whole : wires.length = outbound.pending.length :=
      (CryptoEngine.length_encryptBatch sealed).trans (List.length_map _)
    obtain ⟨sendTx, sent, flattened⟩ := sendPipeline_frame
      (({ outbound with sessions, pending := [] } : Outbound).noteSeals outbound.pending
        outbound.sessions.current.txCounter wires) wires
    exact .inr ⟨wires, sessions, sendTx, rfl, whole, flattened, sent⟩

/-- The rekey claim does not touch the sessions. -/
theorem needsRekey_current (manager : SessionManager Session) (counter now : Nat) :
    (manager.needsRekey counter now).2.current = manager.current := by
  unfold SessionManager.needsRekey
  repeat' first | split | rfl

/-! ### A sample tunnel -/

/-- The stealth profile. -/
def sampleStealth : EffectiveTraffic where
  profile := .stealth
  enabled := true
  mode := .cbr
  ratePps := 256
  burst := 2
  cooldownMs := 500
  coverBudgetPackets := 64
  coverRatio := 0.25

def sampleSessions : SessionManager Session :=
  .new (.established .transparent 7 (.zero 32) true .aegis256X2 0 []) 0

theorem sampleSessions_current : sampleSessions.current =
    Session.established .transparent 7 (.zero 32) true .aegis256X2 0 [] := rfl

def sampleOutbound : OutboundConfig := ⟨⟨true, .bucketed⟩, true⟩

end Outbound

end ChameleonPQ
