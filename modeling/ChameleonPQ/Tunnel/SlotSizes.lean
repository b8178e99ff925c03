/-
**The sizes of a paced slot.**

A slot carries real packets, cover and the handshake datagrams of a running rekey.

* `emit_sizes` — what is sealed for a slot fills the wire MTU, whatever it is; a queued handshake datagram
  goes out as it was built.
* `length_of_built` — a built handshake datagram is shorter than that, obfuscated or in the clear.
* `slot_sizes` — in every reachable state, the slot has one size exactly when no handshake datagram is queued.
* `rekey_stands_out` — a slot with two sizes.
-/

import ChameleonPQ.Handshake.Honest
import ChameleonPQ.Transport.Envelope
import ChameleonPQ.Tunnel.Conservation
import ChameleonPQ.Tunnel.Keepalive

namespace ChameleonPQ

open Library Library.Runs

/-! ### Handshake datagrams -/

section Built

variable {prims : Primitives}

/-- A fragment in the clear: the frame header, the fragment header and a chunk. -/
theorem length_of_mem_encodeFrames {sessionId : UInt32} {wire : Bytes} {datagrams : List Bytes}
    (built : encodeFrames (fragment sessionId wire) = .ok datagrams) {raw : Bytes} (sent : raw ∈ datagrams) :
    raw.length ≤ headerLen + (8 + fragPayload) := by
  obtain ⟨index, there⟩ := List.mem_iff_getElem?.mp sent
  obtain ⟨frag, present, encoded⟩ := (encodeFrames_getElem? built).2 index raw there
  obtain ⟨⟨piece, place⟩, among, rfl⟩ := List.mem_map.mp (List.mem_of_getElem? present)
  have short : piece.length ≤ fragPayload := length_of_mem_chunksFrom (List.fst_mem_of_mem_zipIdx among)
  have size : (fragmentHeader sessionId place (chunks fragPayload wire).length ++ piece).length ≤
      8 + fragPayload := by
    simp only [fragmentHeader, List.length_append, length_leBytes]
    omega
  have inside : ¬ maxPayload < (fragmentHeader sessionId place (chunks fragPayload wire).length ++ piece).length :=
    Nat.not_lt.mpr (size.trans (by decide))
  obtain rfl := Except.ok.inj (encoded.symm.trans (if_neg inside))
  rw [List.length_append, length_headerBytes]
  exact Nat.add_le_add_left size headerLen

/-- **A built handshake datagram does not fill the MTU.** -/
theorem length_of_built {sessionId : UInt32} {wire : Bytes} {hsObf : Option (Octets 32)} {coins : HsObf.SealCoins}
    {datagrams : List Bytes}
    (built : buildHandshakeDatagrams prims sessionId wire hsObf coins = .ok datagrams) {raw : Bytes}
    (sent : raw ∈ datagrams) : raw.length < Obf.mtuWire := by
  cases hsObf with
  | none => exact Nat.lt_of_le_of_lt (length_of_mem_encodeFrames built sent) (by decide)
  | some key =>
    obtain ⟨blob, -, rfl⟩ := sealAndFragment_eq built
    have bounds := HsObf.variableChunksFrom_bounds coins.sizes blob.length 0 blob (Nat.le_add_right _ _)
    exact Nat.lt_of_le_of_lt (length_of_mem_maskedDatagrams bounds.1 sent) (by decide)

end Built

namespace Outbound

/-! ### What a slot emits -/

section Slots

variable {prims : Primitives} {outbound : Outbound}

/-- A round of a slot without a queued handshake datagram that goes on: it seals a pending packet or cover. -/
structure Sealing (prims : Primitives) (before next : Outbound) (plaintext : Bytes) : Prop where
  pending : ∀ packet ∈ next.pending, packet ∈ before.pending
  hsSend : next.hsSend = []
  burst : next.paceBurst = before.paceBurst
  spends : next.sessions = before.sessions.spend
  origin : plaintext = [] ∨ ∃ packet ∈ before.pending, packet.item = plaintext

/-- **One round without a queued handshake datagram.** -/
theorem emit_unqueued (prims : Primitives) (empty : outbound.hsSend = []) (now rounds : Nat)
    (noise : Nat → Nat → UInt8) :
    (∃ pacer, emit prims now (rounds + 1) outbound noise = ([], { outbound with pacer })) ∨
      ∃ innerType plaintext next, Sealing prims outbound next plaintext ∧
        emit prims now (rounds + 1) outbound noise =
          match (outbound.sessions.sealObf prims innerType plaintext .full (noise 0)).1 with
          | .ok wire =>
            (wire :: (emit prims now rounds next fun i => noise (i + 1)).1,
              (emit prims now rounds next fun i => noise (i + 1)).2)
          | .error _ => emit prims now rounds next fun i => noise (i + 1) := by
  obtain ⟨sessions, pending, hsSend, pacer, paced, paceBurst, rekeying, ledger⟩ := outbound
  obtain rfl : hsSend = [] := empty
  rw [emit]
  simp only []
  cases decision : pacer.nextEmit (!pending.isEmpty) now with
  | mk choice decided =>
    cases choice with
    | idle => exact .inl ⟨decided, rfl⟩
    | cover =>
      have spent := sealObf_sessions prims sessions FrameType.padding.asU8 [] .full (noise 0)
      refine .inr ⟨FrameType.padding.asU8, [], ?_⟩
      simp only [CryptoEngine.coverDatagram, SessionManager.sealCover]
      cases produced : sessions.sealObf prims FrameType.padding.asU8 [] .full (noise 0) with
      | mk outcome after =>
        rw [produced] at spent
        cases outcome with
        | ok wire =>
          refine ⟨_, ?_, rfl⟩
          exact ⟨fun _ member => member, rfl, rfl, spent, .inl rfl⟩
        | error e =>
          refine ⟨_, ?_, rfl⟩
          exact ⟨fun _ member => member, rfl, rfl, spent, .inl rfl⟩
    | real =>
      cases pending with
      | nil => exact .inl ⟨decided, rfl⟩
      | cons packet pending =>
        have spent := sealObf_sessions prims sessions FrameType.data.asU8 packet.item .full (noise 0)
        refine .inr ⟨FrameType.data.asU8, packet.item, ?_⟩
        simp only [CryptoEngine.sealDataFull]
        cases produced : sessions.sealObf prims FrameType.data.asU8 packet.item .full (noise 0) with
        | mk outcome after =>
          rw [produced] at spent
          have origin : packet.item = [] ∨ ∃ other ∈ packet :: pending, other.item = packet.item :=
            .inr ⟨packet, List.mem_cons_self, rfl⟩
          cases outcome with
          | ok wire =>
            refine ⟨_, ?_, rfl⟩
            exact ⟨fun _ => List.mem_cons_of_mem _, rfl, rfl, spent, origin⟩
          | error e =>
            refine ⟨_, ?_, rfl⟩
            exact ⟨fun _ => List.mem_cons_of_mem _, rfl, rfl, spent, origin⟩

/-- The burst stays, and packets only leave the pending queue. -/
structure Draws (before after : Outbound) : Prop where
  burst : after.paceBurst = before.paceBurst
  pending : ∀ packet ∈ after.pending, packet ∈ before.pending

theorem Draws.trans {first second third : Outbound} (front : Draws first second) (back : Draws second third) :
    Draws first third :=
  ⟨back.burst.trans front.burst, fun packet member => front.pending packet (back.pending packet member)⟩

theorem draws_emit (prims : Primitives) (now rounds : Nat) (outbound : Outbound) (noise : Nat → Nat → UInt8) :
    Draws outbound (emit prims now rounds outbound noise).2 := by
  induction rounds generalizing outbound noise with
  | zero => exact ⟨rfl, fun _ member => member⟩
  | succ rounds ih =>
    cases queue : outbound.hsSend with
    | cons queued rest =>
      simp only [emit, queue]
      have first : Draws outbound (({ outbound with hsSend := rest } : Outbound).noteBeside queued.item) :=
        ⟨rfl, fun _ member => member⟩
      exact first.trans (ih _ _)
    | nil =>
      rcases emit_unqueued prims queue now rounds noise with
        ⟨pacer, stops⟩ | ⟨innerType, plaintext, next, sealing, round⟩
      · rw [stops]
        exact ⟨rfl, fun _ member => member⟩
      · have drawn := Draws.trans ⟨sealing.burst, sealing.pending⟩ (ih next fun i => noise (i + 1))
        rw [round]
        split <;> exact drawn

/-- The packets that fit one datagram, whatever the cipher. -/
def Fitting (outbound : Outbound) : Prop :=
  ∀ packet ∈ outbound.pending, ∀ algo : AeadAlgo,
    Obf.innerHeaderLen + packet.item.length ≤ Obf.maxFramed algo.tagLen

/-- **Everything sealed for a slot fills the wire MTU.** -/
theorem emit_sizes (correct : prims.AeadCorrect) (seals : prims.ChachaSeals) (now rounds : Nat)
    {outbound : Outbound} (can : outbound.CanSeal) (fitting : outbound.Fitting) (empty : outbound.hsSend = [])
    (noise : Nat → Nat → UInt8) :
    ∀ datagram ∈ (emit prims now rounds outbound noise).1, datagram.length = Obf.mtuWire := by
  induction rounds generalizing outbound noise with
  | zero => nofun
  | succ rounds ih =>
    rcases emit_unqueued prims empty now rounds noise with
      ⟨pacer, stops⟩ | ⟨innerType, plaintext, next, sealing, round⟩
    · rw [stops]
      nofun
    · have canNext : next.CanSeal := by
        obtain ⟨aead, algo⟩ := reserveCounters_static outbound.sessions.current 1
        rw [CanSeal, sealing.spends]
        exact (congrArg DirectionalAead.algo aead).trans (can.trans algo.symm)
      have later := ih canNext (fun packet member => fitting packet (sealing.pending packet member))
        sealing.hsSend fun i => noise (i + 1)
      have fits : Obf.innerHeaderLen + plaintext.length ≤
          Obf.maxFramed outbound.sessions.current.algo.tagLen := by
        rcases sealing.origin with rfl | ⟨packet, member, rfl⟩
        · cases outbound.sessions.current.algo <;> decide
        · exact fitting packet member _
      have size := sealObf_full correct seals can innerType fits (noise 0)
      rw [round]
      cases produced : (outbound.sessions.sealObf prims innerType plaintext .full (noise 0)).1 with
      | error e => exact later
      | ok wire =>
        refine List.forall_mem_cons.mpr ⟨?_, later⟩
        rw [produced] at size
        cases granted : (outbound.sessions.current.reserveCounters 1).1 with
        | error e =>
          rw [granted] at size
          cases size
        | ok counter =>
          rw [granted] at size
          exact Except.ok.inj size

/-- **A slot has one size exactly when no handshake datagram is queued**, when those are shorter. -/
theorem emit_one_size (correct : prims.AeadCorrect) (seals : prims.ChachaSeals) (now : Nat) {rounds : Nat}
    (some_round : 0 < rounds) (can : outbound.CanSeal) (fitting : outbound.Fitting)
    (short : ∀ queued ∈ outbound.hsSend, queued.item.length < Obf.mtuWire) (noise : Nat → Nat → UInt8) :
    (∀ datagram ∈ (emit prims now rounds outbound noise).1, datagram.length = Obf.mtuWire) ↔
      outbound.hsSend = [] := by
  refine ⟨fun sizes => ?_, fun empty => emit_sizes correct seals now rounds can fitting empty noise⟩
  obtain ⟨rounds, rfl⟩ := Nat.exists_eq_succ_of_ne_zero some_round.ne'
  cases queue : outbound.hsSend with
  | nil => rfl
  | cons queued rest =>
    -- The datagram at the head of the queue is the first one of the slot.
    have first : queued.item ∈ (emit prims now (rounds + 1) outbound noise).1 := by
      simp only [emit, queue]
      exact List.mem_cons_self
    have below := short queued (queue ▸ List.mem_cons_self)
    exact absurd (sizes _ first) below.ne

end Slots

/-! ### Every event -/

section Runs

variable {prims : Primitives} {config : OutboundConfig} {app : AppConfig} {outbound : Outbound}

/-- What the other tasks hand to the loop: packets that the MTU of the tunnel admits, and handshake datagrams
as they are built. -/
def Admits (prims : Primitives) (app : AppConfig) : OutboundEvent → Prop
  | .recv packets _ => ∀ packet ∈ packets, packet.length ≤ app.tun.mtu.toNat
  | .queueHandshake datagram => ∃ sessionId wire hsObf coins datagrams,
      buildHandshakeDatagrams prims sessionId wire hsObf coins = .ok datagrams ∧ datagram ∈ datagrams
  | _ => True

/-- What the sizes of a slot depend on. -/
structure Sized (app : AppConfig) (outbound : Outbound) : Prop where
  burst : 0 < outbound.paceBurst
  can : outbound.CanSeal
  pending : ∀ packet ∈ outbound.pending, packet.item.length ≤ app.tun.mtu.toNat
  hsSend : ∀ queued ∈ outbound.hsSend, queued.item.length < Obf.mtuWire
  paced : outbound.paced = true → app.obfuscation.enabled = true

/-- Under an accepted configuration with obfuscation, what the MTU admits fits a datagram. -/
theorem Sized.fitting (sized : Sized app outbound) (accepted : app.validate = .ok ())
    (enabled : app.obfuscation.enabled = true) : outbound.Fitting := by
  intro packet member algo
  have fits := CryptoEngine.fits_of_accepted (AppConfig.accepted_of_validate accepted) algo (.inl enabled)
    (sized.pending packet member)
  rwa [CryptoEngine.Fits, if_pos (show (CryptoEngine.ofConfig app).obfEnabled = true from enabled)] at fits

theorem Sized.draw (sized : Sized app outbound) {after : Outbound} (draws : Draws outbound after)
    (serves : Serves outbound after) (can : after.CanSeal) : Sized app after :=
  ⟨draws.burst ▸ sized.burst, can, fun packet member => sized.pending packet (draws.pending packet member),
    fun queued member => sized.hsSend queued (serves.hsSend queued member),
    fun paced => sized.paced (serves.paced ▸ paced)⟩

theorem draws_flush (outbound : Outbound) (noise : Nat → Nat → UInt8) :
    Draws outbound (outbound.flush prims config noise) := by
  rcases flush_cases prims config outbound noise with
    ⟨e, sessions, -, flushed⟩ | ⟨wires, sessions, sendTx, -, -, -, flushed⟩
  · rw [flushed]
    exact ⟨rfl, fun _ member => absurd member List.not_mem_nil⟩
  · rw [flushed]
    exact ⟨rfl, fun _ member => absurd member List.not_mem_nil⟩

theorem draws_tick (prims : Primitives) (config : OutboundConfig) (outbound : Outbound) (now : Nat)
    (noise : Nat → Nat → UInt8) :
    Draws outbound (outbound.tick prims config now noise) := by
  unfold tick
  by_cases paced : outbound.paced = true
  · rw [if_pos paced]
    have drawn := draws_emit prims now outbound.paceBurst outbound noise
    exact ⟨drawn.burst, drawn.pending⟩
  · rw [if_neg paced]
    split
    · exact ⟨rfl, fun _ member => member⟩
    · exact ⟨(draws_flush outbound noise).burst, (draws_flush outbound noise).pending⟩

theorem serves_tick (now : Nat) (noise : Nat → Nat → UInt8) (queued : Stamped Bytes)
    (member : queued ∈ (outbound.tick prims config now noise).hsSend) : queued ∈ outbound.hsSend := by
  obtain ⟨served, sessions, rekeying, serves, -, -, -, -, ticked⟩ :=
    tick_cases prims config outbound now noise
  rw [ticked] at member
  exact serves.hsSend queued member

/-- Staging leaves the burst, and the pending packets were pending or have just arrived. -/
theorem stageAll_pending (arrived : List (Stamped Bytes)) (outbound : Outbound) :
    (arrived.foldl stage outbound).paceBurst = outbound.paceBurst ∧
      ∀ packet ∈ (arrived.foldl stage outbound).pending, packet ∈ outbound.pending ∨ packet ∈ arrived := by
  induction arrived generalizing outbound with
  | nil => exact ⟨rfl, fun _ member => .inl member⟩
  | cons first arrived ih =>
    obtain ⟨burst, pending⟩ := ih (outbound.stage first)
    have staged : (outbound.stage first).paceBurst = outbound.paceBurst ∧
        ∀ packet ∈ (outbound.stage first).pending, packet ∈ outbound.pending ∨ packet = first := by
      unfold stage
      split
      · exact ⟨rfl, fun _ member => .inl member⟩
      · refine ⟨rfl, fun packet member => ?_⟩
        simpa using member
    refine ⟨burst.trans staged.1, fun packet member => ?_⟩
    rcases pending packet member with before | later
    · refine (staged.2 packet before).imp_right fun same => ?_
      rw [same]
      exact List.mem_cons_self
    · exact .inr (List.mem_cons_of_mem _ later)

theorem recv_pending (prims : Primitives) (config : OutboundConfig) (outbound : Outbound) (packets : List Bytes)
    (noise : Nat → Nat → UInt8) :
    (outbound.recv prims config packets noise).paceBurst = outbound.paceBurst ∧
      ∀ packet ∈ (outbound.recv prims config packets noise).pending,
        packet ∈ outbound.pending ∨ packet.item ∈ packets := by
  simp only [recv]
  split
  · obtain ⟨burst, pending⟩ := stageAll_pending (stamp outbound.ledger.taken packets)
      { outbound with ledger := { outbound.ledger with taken := outbound.ledger.taken + packets.length } }
    exact ⟨burst, fun packet member => (pending packet member).imp_right item_of_mem_stamp⟩
  · obtain ⟨granted, sessions, -, dispatched | ⟨pinned, base, wires, -, -, dispatched⟩⟩ :=
      dispatchSeal_cases prims config _ (stamp outbound.ledger.taken packets) noise
    · rw [dispatched]
      exact ⟨rfl, fun _ member => .inl member⟩
    · rw [dispatched]
      exact ⟨rfl, fun _ member => .inl member⟩

theorem switch_queues (prims : Primitives) (config : OutboundConfig) (outbound : Outbound) (eff : EffectiveTraffic)
    (noise : Nat → Nat → UInt8) :
    (outbound.switch prims config eff noise).hsSend = outbound.hsSend ∧
      ∀ packet ∈ (outbound.switch prims config eff noise).pending, packet ∈ outbound.pending := by
  have announces := fun before => serves_announce prims config before eff (noise 0)
  have flushed : (if outbound.paced ∧ ¬ (eff.enabled && config.engine.obfEnabled) ∧ outbound.pending ≠ [] then
        outbound.flush prims config fun i => noise (i + 1) else outbound).hsSend = outbound.hsSend ∧
      ∀ packet ∈ (if outbound.paced ∧ ¬ (eff.enabled && config.engine.obfEnabled) ∧ outbound.pending ≠ [] then
        outbound.flush prims config fun i => noise (i + 1) else outbound).pending, packet ∈ outbound.pending := by
    split
    · exact ⟨(serves_flush prims config outbound _).2.2, (draws_flush outbound _).pending⟩
    · exact ⟨rfl, fun _ member => member⟩
  unfold switch
  dsimp only
  generalize (if outbound.paced ∧ ¬ (eff.enabled && config.engine.obfEnabled) ∧ outbound.pending ≠ [] then
    outbound.flush prims config fun i => noise (i + 1) else outbound) = served at flushed ⊢
  refine ⟨(announces _).2.2.trans flushed.1, fun packet member => ?_⟩
  rw [(announces _).2.1] at member
  exact flushed.2 packet member

/-- **Every event keeps what the sizes depend on.** -/
theorem sized_step (engine : config.engine = .ofConfig app) (sized : Sized app outbound) {event : OutboundEvent}
    (admits : Admits prims app event) {after : Outbound} (taken : outbound.step prims config event = some after) :
    Sized app after := by
  have steady : ∀ {event}, outbound.step prims config event = some after →
      (∀ eff noise, event ≠ .switch eff noise) →
        (after.paced = true → app.obfuscation.enabled = true) ∧ after.CanSeal := by
    intro event taken other
    obtain ⟨paced, -, can⟩ := kept_step other taken sized.can
    exact ⟨fun now => sized.paced (paced ▸ now), can⟩
  obtain rfl := react_of_step taken
  cases event with
  | recv packets noise =>
    obtain ⟨paced, can⟩ := steady taken (by rintro _ _ ⟨⟩)
    obtain ⟨burst, pending⟩ := recv_pending prims config outbound packets noise
    refine ⟨?_, can, fun packet member => ?_, fun queued member => ?_, paced⟩
    · rw [react, burst]
      exact sized.burst
    · rcases pending packet member with before | arrived
      · exact sized.pending packet before
      · exact admits packet.item arrived
    · exact sized.hsSend queued ((recv_cases prims config outbound packets noise).1.hsSend queued member)
  | tick now noise =>
    obtain ⟨paced, can⟩ := steady taken (by rintro _ _ ⟨⟩)
    have drawn := draws_tick prims config outbound now noise
    refine ⟨?_, can, fun packet member => sized.pending packet (drawn.pending packet member),
      fun queued member => sized.hsSend queued (serves_tick now noise queued member), paced⟩
    rw [react, drawn.burst]
    exact sized.burst
  | rekeyDone success => cases success <;> exact ⟨sized.burst, sized.can, sized.pending, sized.hsSend, sized.paced⟩
  | switch eff noise =>
    obtain ⟨paced, -, can⟩ := switch_shaping prims config eff noise sized.can
    obtain ⟨hsSend, pending⟩ := switch_queues prims config outbound eff noise
    refine ⟨Nat.lt_of_lt_of_le Nat.zero_lt_one (Nat.le_max_right _ _), can,
      fun packet member => sized.pending packet (pending packet member),
      fun queued member => sized.hsSend queued (hsSend ▸ member), fun now => ?_⟩
    rw [react, paced, engine, Bool.and_eq_true] at now
    exact now.2
  | queueHandshake datagram =>
    obtain ⟨sessionId, wire, hsObf, coins, datagrams, built, sent⟩ := admits
    refine ⟨sized.burst, sized.can, sized.pending, fun queued member => ?_, sized.paced⟩
    rcases List.mem_append.mp member with before | last
    · exact sized.hsSend queued before
    · rw [List.mem_singleton.mp last]
      exact length_of_built built sent
  | reserve n =>
    obtain ⟨paced, can⟩ := steady taken (by rintro _ _ ⟨⟩)
    revert paced can
    rw [react]
    split <;> exact fun paced can => ⟨sized.burst, can, sized.pending, sized.hsSend, paced⟩
  | install origin => exact ⟨sized.burst, rfl, sized.pending, sized.hsSend, sized.paced⟩
  | retire => exact ⟨sized.burst, sized.can, sized.pending, sized.hsSend, sized.paced⟩

/-- The session of a handshake. -/
abbrev initial (prims : Primitives) (origin : HandshakeOutput) : Session :=
  .fromHandshakeWithAlgo prims origin.sessionId origin.shared origin.isInitiator origin.algo

theorem sized_begin (engine : config.engine = .ofConfig app) (origin : HandshakeOutput) (now : Nat)
    (eff : EffectiveTraffic) : Sized app (begin config (.new (initial prims origin) now) eff) where
  burst := Nat.lt_of_lt_of_le Nat.zero_lt_one (Nat.le_max_right _ _)
  can := rfl
  pending := nofun
  hsSend := nofun
  paced paced := by
    simp only [begin, engine, Bool.and_eq_true] at paced
    exact paced.2

/-- **When a paced slot has one size.** In every state that a run of the loop reaches, under an accepted
configuration: the next slot, if it is paced, emits datagrams of the wire MTU only, real or cover, exactly when
no handshake datagram is queued for it. -/
theorem slot_sizes (correct : prims.AeadCorrect) (seals : prims.ChachaSeals) (accepted : app.validate = .ok ())
    (engine : config.engine = .ofConfig app) {origin : HandshakeOutput} {start : Nat} {eff : EffectiveTraffic}
    {events : List OutboundEvent}
    (run : Run (Guarded (fun _ => Admits prims app) (Taken (step prims config)))
      (begin config (.new (initial prims origin) start) eff) events outbound)
    (paced : outbound.paced = true) (now : Nat) (noise : Nat → Nat → UInt8) :
    ∃ slot after, outbound.step prims config (.tick now noise) = some after ∧
      after.ledger.slots = outbound.ledger.slots ++ [slot] ∧
      ((∀ datagram ∈ slot, datagram.length = Obf.mtuWire) ↔ outbound.hsSend = []) := by
  have sized : Sized app outbound := run.invariant (Sized app)
    (fun _ _ _ sized taken => sized_step engine sized taken.1 taken.2) (sized_begin engine origin start eff)
  refine ⟨(emit prims now outbound.paceBurst outbound noise).1, _, rfl, ?_,
    emit_one_size correct seals now sized.burst sized.can (sized.fitting accepted (sized.paced paced))
      sized.hsSend noise⟩
  simp only [react, tick, if_pos paced, triggerRekey, sendSlot, slots_emit]

end Runs

/-! ### A rekey on a paced tunnel -/

/-- The Init of a sample rekey. -/
def sampleRekeyInit : Bytes :=
  ((Handshake.start .transparent Handshake.sampleInitiator .aegis256X2 Handshake.sampleStart).toOption.map
    Prod.snd).getD []

/-- Its datagrams. -/
def sampleRekeyDatagrams : List Bytes :=
  (buildHandshakeDatagrams .transparent 9 sampleRekeyInit (some (.zero 32))
    ⟨.zero 12, 0, fun _ => 0⟩).toOption.getD []

/-- The first one. -/
def sampleRekeyDatagram : Bytes := sampleRekeyDatagrams.headD []

theorem built_sample :
    buildHandshakeDatagrams .transparent 9 sampleRekeyInit (some (.zero 32)) ⟨.zero 12, 0, fun _ => 0⟩ =
      .ok sampleRekeyDatagrams ∧ sampleRekeyDatagram ∈ sampleRekeyDatagrams := by
  obtain ⟨init, encoded⟩ := Handshake.encode_exists
    ((Handshake.length_initMessage_sig Handshake.sampleInitiator .aegis256X2 Handshake.sampleStart).le.trans
      (by decide : Handshake.sampleInitiator.signatureLen .transparent ≤ 6923)) Handshake.sampleStart.padNoise
  have long : sampleRekeyInit.length = handshakeMsgLen := by
    rw [sampleRekeyInit, Handshake.start_eq_ok_iff.mpr ⟨encoded, rfl⟩]
    exact HandshakeMessage.length_of_encode encoded
  obtain ⟨datagrams, built⟩ :=
    build_exists Primitives.transparent_chachaSeals 9 (some (.zero 32)) ⟨.zero 12, 0, fun _ => 0⟩ long
  have same : sampleRekeyDatagrams = datagrams := by rw [sampleRekeyDatagrams, built]; rfl
  refine ⟨same ▸ built, ?_⟩
  have any : sampleRekeyDatagrams ≠ [] := by decide +kernel
  obtain ⟨first, later, split⟩ := List.exists_cons_of_ne_nil any
  rw [sampleRekeyDatagram, split]
  exact List.mem_cons_self

/-- The loop of a tunnel under the sample configuration with obfuscation, at the stealth profile. -/
def sampleBegin : Outbound :=
  begin sampleOutbound (.new (initial .transparent ⟨7, .zero 32, true, .aegis256X2⟩) 10000) sampleStealth

/-- A packet arrives, and is followed by cover. -/
theorem slot_sizes_sample : ∃ outbound slot after,
    Run (Taken (step .transparent sampleOutbound)) sampleBegin [.recv [List.replicate 40 7] fun _ _ => 0] outbound ∧
      outbound.step .transparent sampleOutbound (.tick 10010 fun _ _ => 0) = some after ∧
      after.ledger.slots = [slot] ∧ slot.length = 2 ∧ ∀ datagram ∈ slot, datagram.length = Obf.mtuWire := by
  have arrives : Run (Guarded (fun _ => Admits .transparent CryptoEngine.sampleObfuscated)
      (Taken (step .transparent sampleOutbound))) sampleBegin [.recv [List.replicate 40 7] fun _ _ => 0]
      (sampleBegin.react .transparent sampleOutbound (.recv [List.replicate 40 7] fun _ _ => 0)) := by
    refine .next ⟨fun packet among => ?_, rfl⟩ (.done _)
    rw [List.mem_singleton.mp among]
    decide
  obtain ⟨slot, after, ticks, slots, sizes⟩ := slot_sizes Primitives.transparent_aeadCorrect
    Primitives.transparent_chachaSeals (show CryptoEngine.sampleObfuscated.validate = .ok () from rfl) (by rfl)
    arrives (by rfl) 10010 fun _ _ => 0
  refine ⟨_, slot, after, arrives.weaken fun _ _ _ taken => taken.2, ticks, slots, ?_, sizes.mpr (by rfl)⟩
  have counts : after.ledger.slots.map List.length = [2] := by
    obtain rfl := Option.some.inj ticks
    decide +kernel
  rw [slots] at counts
  exact List.head_eq_of_cons_eq counts

/-- **A rekey stands out by its sizes**: in the slot after the first datagram of its Init was queued, that
datagram is followed by cover of another length. -/
theorem rekey_stands_out : ∃ outbound after,
    Run (Guarded (fun _ => Admits .transparent CryptoEngine.sampleObfuscated)
      (Taken (step .transparent sampleOutbound))) sampleBegin [.queueHandshake sampleRekeyDatagram] outbound ∧
      outbound.paced = true ∧ outbound.step .transparent sampleOutbound (.tick 10010 fun _ _ => 0) = some after ∧
      after.ledger.slots.map (List.map List.length) = [[520, 1280]] := by
  obtain ⟨built, queued⟩ := built_sample
  exact ⟨sampleBegin.react .transparent sampleOutbound (.queueHandshake sampleRekeyDatagram), _,
    .next ⟨⟨_, _, _, _, _, built, queued⟩, rfl⟩ (.done _), rfl, rfl, by decide +kernel⟩

end Outbound

end ChameleonPQ
