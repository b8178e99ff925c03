/-
**Keepalives and live traffic switches (`tunnel_loops.rs`).**

The keepalive task decides once, when the tunnel starts, whether to send; the outbound loop's shaping
changes with every live switch, of the operator or to follow the peer's profile.

* `LiveTunnel` — the outbound loop, the traffic channel, the profile the tasks share, the keepalive task.
* `tick` — one tick of the keepalive task, and what it puts on the wire.
* `applied_run` — in every run, the shaping and the shared profile are those of the last switch.
* `keepalive_liveness` — a tick sends, or the loop is paced at a constant bit-rate, exactly when the peer
  is not declared dead and the tunnel was not started in that mode or announces a profile, or when the
  mode is in force.
-/

import ChameleonPQ.Net.Drivers
import ChameleonPQ.Tunnel.Noninterference

namespace ChameleonPQ

open Library Library.Runs

/-- `PEER_DEAD_AFTER`, in seconds. -/
def peerDeadAfter : Nat := 45

/-- `NO_PROFILE`. -/
def noProfile : UInt8 := 255

/-- `PEER_PROFILE_MIN_INTERVAL`, in milliseconds. -/
def peerProfileMinInterval : Nat := 1000

/-- `TunnelParams`, as far as shaping and keepalives depend on it; `traffic` are its pacing fields and its
profile, `followPeer` the base settings of a server that follows. -/
structure TunnelParams where
  allowRoaming : Bool
  announceProfile : Bool
  followPeer : Option TrafficConfig
  obfEnabled : Bool
  padding : Obf.PadPolicy
  traffic : EffectiveTraffic

namespace TunnelParams

/-- Announcements need obfuscation. -/
def announces (params : TunnelParams) : Bool := params.announceProfile && params.obfEnabled

def outbound (params : TunnelParams) : OutboundConfig :=
  ⟨⟨params.obfEnabled, params.padding⟩, params.announces⟩

/-- `ka_skip_send`, computed when the tunnel starts. -/
def kaSkipSend (params : TunnelParams) : Bool :=
  params.traffic.enabled && params.obfEnabled && decide (params.traffic.mode = .cbr)

end TunnelParams

/-- The profile a frame announces. -/
def announcedProfile : Bytes → Option TrafficProfile
  | [id] => TrafficProfile.fromWireId id
  | _ => none

/-- A tunnel as its keepalive task sees it. -/
structure LiveTunnel where
  outbound : Outbound
  peer : SocketAddr
  /-- `last_recv`, in seconds. -/
  lastRecv : Nat
  currentProfile : UInt8
  /-- The value of the traffic channel that the outbound loop has not taken yet. -/
  offered : Option EffectiveTraffic
  /-- The settings of the last switch, or those of the start. -/
  traffic : EffectiveTraffic
  appliedPeerProfile : Option TrafficProfile
  /-- In milliseconds. -/
  lastPeerSwitch : Option Nat
  /-- Announcements that are due once more. -/
  repeats : List UInt8
  running : Bool

/-- What can happen next. -/
inductive LiveEvent where
  /-- The outbound loop takes any other arm than the live switch. -/
  | work (event : OutboundEvent)
  /-- The operator picks a profile. -/
  | operator (eff : EffectiveTraffic)
  /-- An authenticated datagram that is no profile frame. -/
  | authentic (now : Nat) (src : SocketAddr)
  /-- A handshake fragment or a clear frame from the peer's address. -/
  | heard (now : Nat)
  /-- An authenticated profile frame. -/
  | announced (now instant : Nat) (src : SocketAddr) (plain : Bytes)
  /-- The live switch arm of the outbound loop. -/
  | switch (noise : Nat → Nat → UInt8)
  | repeatProfile (index : Nat) (noise : Nat → UInt8)
  /-- A tick of the keepalive task. -/
  | tick (now : Nat) (profileNoise noise : Nat → UInt8)

namespace LiveTunnel

section Definitions

variable (prims : Primitives) (params : TunnelParams)

/-- The tunnel on the session of a handshake. -/
def begin (origin : HandshakeOutput) (peer : SocketAddr) (now : Nat) : LiveTunnel where
  outbound := .begin params.outbound
    (.new (.fromHandshakeWithAlgo prims origin.sessionId origin.shared origin.isInitiator origin.algo) now)
    params.traffic
  peer
  lastRecv := now
  currentProfile := params.traffic.profile.wireId.getD noProfile
  offered := none
  traffic := params.traffic
  appliedPeerProfile := none
  lastPeerSwitch := none
  repeats := []
  running := true

def withSessions (tunnel : LiveTunnel) (sessions : SessionManager Session) : LiveTunnel :=
  { tunnel with outbound := { tunnel.outbound with sessions } }

/-- A frame is sealed and sent to the peer; a failed seal sends nothing. -/
def sendSealed (tunnel : LiveTunnel) (frameType : FrameType) (plain : Bytes) (noise : Nat → UInt8) :
    List (SocketAddr × Bytes) × LiveTunnel :=
  match tunnel.outbound.sessions.sealObf prims frameType.asU8 plain params.padding noise with
  | (.ok wire, sessions) => ([(tunnel.peer, wire)], tunnel.withSessions sessions)
  | (.error _, sessions) => ([], tunnel.withSessions sessions)

/-- `send_profile_frame`. -/
def sendProfileFrame (tunnel : LiveTunnel) (id : UInt8) (noise : Nat → UInt8) :
    List (SocketAddr × Bytes) × LiveTunnel := tunnel.sendSealed prims params .profile [id] noise

/-- The keepalive frame: obfuscated, or the classic one. -/
def sendKeepalive (tunnel : LiveTunnel) (noise : Nat → UInt8) : List (SocketAddr × Bytes) × LiveTunnel :=
  if params.obfEnabled then tunnel.sendSealed prims params .keepAlive [] noise
  else
    match (⟨.keepAlive, 0, 0, []⟩ : Frame).encode with
    | .ok wire => ([(tunnel.peer, wire)], tunnel)
    | .error _ => ([], tunnel)

/-- The announcement at the head of a tick. -/
def announceProfile (tunnel : LiveTunnel) (noise : Nat → UInt8) : List (SocketAddr × Bytes) × LiveTunnel :=
  if params.announces = true ∧ tunnel.currentProfile ≠ noProfile then
    tunnel.sendProfileFrame prims params tunnel.currentProfile noise
  else ([], tunnel)

/-- One tick of the keepalive task. -/
def tick (tunnel : LiveTunnel) (now : Nat) (profileNoise noise : Nat → UInt8) :
    List (SocketAddr × Bytes) × LiveTunnel :=
  if peerDeadAfter ≤ now - tunnel.lastRecv then ([], { tunnel with running := false })
  else
    let (announced, tunnel) := tunnel.announceProfile prims params profileNoise
    if params.kaSkipSend then (announced, tunnel)
    else
      let (alive, tunnel) := tunnel.sendKeepalive prims params noise
      (announced ++ alive, tunnel)

/-- The interval since the last switch the peer asked for is over. -/
def followDue (tunnel : LiveTunnel) (instant : Nat) : Bool :=
  match tunnel.lastPeerSwitch with
  | none => true
  | some last => decide (peerProfileMinInterval ≤ instant - last)

/-- An authenticated datagram: a sign of life, and the peer moves where roaming is allowed. -/
def hear (tunnel : LiveTunnel) (now : Nat) (src : SocketAddr) : LiveTunnel :=
  { tunnel with lastRecv := now, peer := if params.allowRoaming then src else tunnel.peer }

/-- A server follows the profile of its peer, at most once an interval. -/
def follow (tunnel : LiveTunnel) (instant : Nat) (plain : Bytes) : LiveTunnel :=
  match params.followPeer, announcedProfile plain with
  | some base, some profile =>
    if some profile ≠ tunnel.appliedPeerProfile ∧ tunnel.followDue instant = true then
      { tunnel with
        offered := some ({ base with profile } : TrafficConfig).effective
        appliedPeerProfile := some profile
        lastPeerSwitch := some instant }
    else tunnel
  | _, _ => tunnel

/-- The live switch arm; the announcement is part of it, and is said once more later. -/
def switch (tunnel : LiveTunnel) (eff : EffectiveTraffic) (noise : Nat → Nat → UInt8) : LiveTunnel :=
  { tunnel with
    outbound := tunnel.outbound.switch prims params.outbound eff noise
    currentProfile := eff.profile.wireId.getD noProfile
    offered := none
    traffic := eff
    repeats := tunnel.repeats ++ if params.announces then eff.profile.wireId.toList else [] }

/-- One event; `none` when it cannot happen now. -/
def react (tunnel : LiveTunnel) : LiveEvent → Option LiveTunnel
  | .work (.switch _ _) => none
  | .work event =>
    (tunnel.outbound.step prims params.outbound event).map fun outbound => { tunnel with outbound }
  | .operator eff => some { tunnel with offered := some eff }
  | .authentic now src => some (tunnel.hear params now src)
  | .heard now => some { tunnel with lastRecv := now }
  | .announced now instant src plain => some ((tunnel.hear params now src).follow params instant plain)
  | .switch noise => tunnel.offered.map fun eff => tunnel.switch prims params eff noise
  | .repeatProfile index noise => tunnel.repeats[index]?.map fun id =>
    let said := { tunnel with repeats := tunnel.repeats.eraseIdx index }
    if tunnel.currentProfile = id then (said.sendProfileFrame prims params id noise).2 else said
  | .tick now profileNoise noise => some (tunnel.tick prims params now profileNoise noise).2

/-- One step of a tunnel that runs. -/
def step (tunnel : LiveTunnel) (event : LiveEvent) : Option LiveTunnel :=
  if tunnel.running = true then tunnel.react prims params event else none

end Definitions

end LiveTunnel

/-! ### What the other arms leave alone -/

/-- The current session seals with the same key. -/
def SameKey (before after : SessionManager Session) : Prop :=
  after.current.txAead = before.current.txAead ∧ after.current.algo = before.current.algo

namespace SameKey

variable {first second third : SessionManager Session}

theorem trans (front : SameKey first second) (back : SameKey second third) : SameKey first third :=
  ⟨back.1.trans front.1, back.2.trans front.2⟩

/-- Spending counters keeps the key. -/
theorem of_reserve (manager : SessionManager Session) (n : Nat) {after : SessionManager Session}
    (current : after.current = (manager.current.reserveCounters n).2) : SameKey manager after := by
  rw [SameKey, current]
  exact Outbound.reserveCounters_static manager.current n

theorem of_reserve_manager (manager : SessionManager Session) (n : Nat) :
    SameKey manager (manager.reserve n).2 := by
  refine .of_reserve _ n ?_
  unfold SessionManager.reserve
  rcases manager.current.reserveCounters n with ⟨e | first, current⟩ <;> rfl

theorem of_sealObf (prims : Primitives) (manager : SessionManager Session) (innerType : UInt8)
    (plaintext : Bytes) (policy : Obf.PadPolicy) (noise : Nat → UInt8) :
    SameKey manager (manager.sealObf prims innerType plaintext policy noise).2 := by
  rw [sealObf_sessions]
  exact of_reserve manager 1 rfl

theorem of_sealOne (prims : Primitives) (engine : CryptoEngine) (manager : SessionManager Session)
    (plaintext : Bytes) (noise : Nat → UInt8) :
    SameKey manager (engine.sealOne prims manager plaintext noise).2 := by
  unfold CryptoEngine.sealOne
  split
  · exact of_sealObf prims manager _ plaintext _ noise
  · have spent : SameKey manager (manager.encrypt prims plaintext).2 := by
      refine of_reserve manager 1 ?_
      simp only [SessionManager.encrypt, Session.encrypt]
      rcases manager.current.reserveCounters 1 with ⟨e | counter, advanced⟩
      · rfl
      · dsimp only
        rcases manager.current.sealWithCounter prims counter plaintext with e | ct <;> rfl
    generalize manager.encrypt prims plaintext = encrypted at spent ⊢
    obtain ⟨e | ⟨sessionId, counter, ct⟩, after⟩ := encrypted <;> exact spent

theorem of_encryptBatch (prims : Primitives) (engine : CryptoEngine) (manager : SessionManager Session)
    (batch : List Bytes) (noise : Nat → Nat → UInt8) :
    SameKey manager (engine.encryptBatch prims manager batch noise).2 := by
  induction batch generalizing manager noise with
  | nil => exact ⟨rfl, rfl⟩
  | cons plaintext batch ih =>
    have first := of_sealOne prims engine manager plaintext (noise 0)
    rw [CryptoEngine.encryptBatch]
    generalize engine.sealOne prims manager plaintext (noise 0) = produced at first ⊢
    obtain ⟨e | datagram, after⟩ := produced
    · exact first
    · have rest := first.trans (ih after fun i => noise (i + 1))
      dsimp only at rest ⊢
      generalize (engine.encryptBatch prims after batch fun i => noise (i + 1)) = others at rest ⊢
      obtain ⟨e | datagrams, last⟩ := others <;> exact rest

end SameKey

namespace Outbound

variable {prims : Primitives} {config : OutboundConfig} {outbound : Outbound}

/-- The shaping and the key stay. -/
structure Steady (before after : Outbound) : Prop where
  paced : after.paced = before.paced
  mode : after.pacer.mode = before.pacer.mode
  key : SameKey before.sessions after.sessions

theorem Steady.refl (outbound : Outbound) : Steady outbound outbound := ⟨rfl, rfl, rfl, rfl⟩

theorem Steady.trans {first second third : Outbound} (front : Steady first second)
    (back : Steady second third) : Steady first third :=
  ⟨back.paced.trans front.paced, back.mode.trans front.mode, front.key.trans back.key⟩

theorem steady_emit (prims : Primitives) (now rounds : Nat) (outbound : Outbound)
    (noise : Nat → Nat → UInt8) : Steady outbound (emit prims now rounds outbound noise).2 := by
  induction rounds generalizing outbound noise with
  | zero => exact .refl outbound
  | succ rounds ih =>
    obtain ⟨sessions, pending, hsSend, pacer, paced, paceBurst, rekeying, ledger⟩ := outbound
    have round : ∀ (next : Outbound) (noise' : Nat → Nat → UInt8), next.paced = paced →
        next.pacer.mode = pacer.mode → SameKey sessions next.sessions →
          Steady ⟨sessions, pending, hsSend, pacer, paced, paceBurst, rekeying, ledger⟩
            (emit prims now rounds next noise').2 := fun next noise' samePaced sameMode sameKey =>
      Steady.trans ⟨samePaced, sameMode, sameKey⟩ (ih next noise')
    rw [emit]
    cases hsSend with
    | cons queued rest => exact round _ _ rfl rfl ⟨rfl, rfl⟩
    | nil =>
      have mode := Pacer.nextEmit_mode pacer now (!pending.isEmpty)
      simp only []
      cases decision : pacer.nextEmit (!pending.isEmpty) now with
      | mk choice decided =>
        rw [decision] at mode
        cases choice with
        | idle => exact ⟨rfl, mode, rfl, rfl⟩
        | cover =>
          have key := SameKey.of_sealObf prims sessions FrameType.padding.asU8 [] .full (noise 0)
          cases produced : CryptoEngine.coverDatagram prims sessions (noise 0) with
          | mk outcome after =>
            replace key : SameKey sessions (CryptoEngine.coverDatagram prims sessions (noise 0)).2 := key
            rw [produced] at key
            cases outcome with
            | ok wire => exact round _ _ rfl mode key
            | error e => exact round _ _ rfl mode key
        | real =>
          cases pending with
          | nil => exact ⟨rfl, mode, rfl, rfl⟩
          | cons packet pending =>
            have key := SameKey.of_sealObf prims sessions FrameType.data.asU8 packet.item .full (noise 0)
            simp only []
            cases produced : CryptoEngine.sealDataFull prims sessions packet.item (noise 0) with
            | mk outcome after =>
              replace key : SameKey sessions
                (CryptoEngine.sealDataFull prims sessions packet.item (noise 0)).2 := key
              rw [produced] at key
              cases outcome with
              | ok wire => exact round _ _ rfl mode key
              | error e => exact round _ _ rfl mode key

theorem steady_flush (outbound : Outbound) (noise : Nat → Nat → UInt8) :
    Steady outbound (outbound.flush prims config noise) := by
  have key := SameKey.of_encryptBatch prims config.engine outbound.sessions
    (outbound.pending.map Stamped.item) noise
  rcases flush_cases prims config outbound noise with
    ⟨e, sessions, sealed, flushed⟩ | ⟨wires, sessions, sendTx, sealed, -, -, flushed⟩
  · rw [sealed] at key
    rw [flushed]
    exact ⟨rfl, rfl, key⟩
  · rw [sealed] at key
    rw [flushed]
    exact ⟨rfl, rfl, key⟩

theorem steady_dispatchSeal (batch : List (Stamped Bytes)) (noise : Nat → Nat → UInt8) :
    Steady outbound (outbound.dispatchSeal prims config batch noise) := by
  have key := SameKey.of_reserve_manager outbound.sessions batch.length
  obtain ⟨granted, sessions, reserved, dispatched | ⟨pinned, base, wires, -, -, dispatched⟩⟩ :=
    dispatchSeal_cases prims config outbound batch noise
  · rw [reserved] at key
    rw [dispatched]
    exact ⟨rfl, rfl, key⟩
  · rw [reserved] at key
    rw [dispatched]
    exact ⟨rfl, rfl, key⟩

theorem steady_stageAll (arrived : List (Stamped Bytes)) (outbound : Outbound) :
    Steady outbound (arrived.foldl stage outbound) := by
  induction arrived generalizing outbound with
  | nil => exact .refl outbound
  | cons packet arrived ih =>
    have staged : Steady outbound (outbound.stage packet) := by
      unfold stage
      split <;> exact ⟨rfl, rfl, rfl, rfl⟩
    exact staged.trans (ih (outbound.stage packet))

theorem steady_tick (now : Nat) (noise : Nat → Nat → UInt8) :
    Steady outbound (outbound.tick prims config now noise) := by
  have served : ∀ served : Outbound, Steady outbound served → Steady outbound
      (({ served with ledger := { served.ledger with
        mark := served.ledger.mark.map SwitchMark.tick } } : Outbound).triggerRekey now) := by
    intro served steady
    have current := needsRekey_current served.sessions served.sessions.current.txCounter now
    refine ⟨steady.paced, steady.mode, ?_⟩
    rw [SameKey, ← steady.key.1, ← steady.key.2]
    exact ⟨congrArg Session.txAead current, congrArg Session.algo current⟩
  unfold tick
  apply served
  by_cases paced : outbound.paced = true
  · rw [if_pos paced]
    have emitted := steady_emit prims now outbound.paceBurst outbound noise
    exact ⟨emitted.paced, emitted.mode, emitted.key⟩
  · rw [if_neg paced]
    split
    · exact .refl outbound
    · exact steady_flush outbound noise

/-- The current session can seal: its key is for its cipher. -/
def CanSeal (outbound : Outbound) : Prop :=
  outbound.sessions.current.txAead.algo = outbound.sessions.current.algo

theorem Steady.canSeal {before after : Outbound} (steady : Steady before after) (can : before.CanSeal) :
    after.CanSeal := by
  rw [CanSeal, steady.key.1, steady.key.2]
  exact can

/-- **What every arm but the live switch leaves alone.** -/
theorem kept_step {event : OutboundEvent} {after : Outbound} (other : ∀ eff noise, event ≠ .switch eff noise)
    (taken : outbound.step prims config event = some after) (can : outbound.CanSeal) :
    after.paced = outbound.paced ∧ after.pacer.mode = outbound.pacer.mode ∧ after.CanSeal := by
  have steadily : Steady outbound after →
      after.paced = outbound.paced ∧ after.pacer.mode = outbound.pacer.mode ∧ after.CanSeal :=
    fun steady => ⟨steady.paced, steady.mode, steady.canSeal can⟩
  cases event with
  | recv packets noise =>
    simp only [step] at taken
    split at taken
    · obtain rfl := Option.some.inj taken
      apply steadily
      have counted : Steady outbound { outbound with ledger := { outbound.ledger with
        taken := outbound.ledger.taken + packets.length } } := ⟨rfl, rfl, rfl, rfl⟩
      refine counted.trans ?_
      simp only [react, recv]
      split
      · exact steady_stageAll _ _
      · exact steady_dispatchSeal _ noise
    · cases taken
  | tick now noise =>
    obtain rfl := Option.some.inj taken
    exact steadily (steady_tick now noise)
  | rekeyDone success =>
    obtain rfl := Option.some.inj taken
    cases success <;> exact steadily ⟨rfl, rfl, rfl, rfl⟩
  | switch eff noise => exact absurd rfl (other eff noise)
  | queueHandshake datagram =>
    obtain rfl := Option.some.inj taken
    exact steadily ⟨rfl, rfl, rfl, rfl⟩
  | reserve n =>
    obtain rfl := Option.some.inj taken
    apply steadily
    have key : SameKey outbound.sessions (outbound.sessions.reserve n).2 := .of_reserve_manager _ n
    simp only [react]
    generalize outbound.sessions.reserve n = reserved at key ⊢
    obtain ⟨e | granted, sessions⟩ := reserved <;> exact ⟨rfl, rfl, key⟩
  | install origin =>
    obtain rfl := Option.some.inj taken
    exact ⟨rfl, rfl, rfl⟩
  | retire =>
    obtain rfl := Option.some.inj taken
    exact steadily ⟨rfl, rfl, rfl, rfl⟩

/-- **What the live switch sets.** -/
theorem switch_shaping (prims : Primitives) (config : OutboundConfig) (eff : EffectiveTraffic)
    (noise : Nat → Nat → UInt8) (can : outbound.CanSeal) :
    (outbound.switch prims config eff noise).paced = (eff.enabled && config.engine.obfEnabled) ∧
      (outbound.switch prims config eff noise).pacer.mode = eff.mode.toShapeMode ∧
      (outbound.switch prims config eff noise).CanSeal := by
  have flushed : Steady outbound (if outbound.paced ∧ ¬ (eff.enabled && config.engine.obfEnabled) ∧
      outbound.pending ≠ [] then outbound.flush prims config fun i => noise (i + 1) else outbound) := by
    split
    · exact steady_flush outbound _
    · exact .refl outbound
  have announced : ∀ before : Outbound, Steady before (before.announce prims config eff (noise 0)) := by
    intro before
    unfold announce
    split
    · split
      · rename_i id _ _
        have key := SameKey.of_sealObf prims before.sessions FrameType.profile.asU8 [id]
          config.engine.padPolicy (noise 0)
        unfold sendProfileFrame
        generalize before.sessions.sealObf prims FrameType.profile.asU8 [id] config.engine.padPolicy
          (noise 0) = produced at key ⊢
        obtain ⟨e | wire, sessions⟩ := produced <;> exact ⟨rfl, rfl, key⟩
      · exact .refl before
    · exact .refl before
  unfold switch
  refine ⟨(announced _).paced, rfl, ?_⟩
  exact (announced _).canSeal (flushed.canSeal can)

end Outbound

namespace LiveTunnel

variable {prims : Primitives} {params : TunnelParams} {tunnel : LiveTunnel}

/-! ### The settings in force -/

/-- **The loop shapes as the last switch says**, and the shared profile is that of the switch. -/
structure Applied (params : TunnelParams) (tunnel : LiveTunnel) : Prop where
  paced : tunnel.outbound.paced = (tunnel.traffic.enabled && params.obfEnabled)
  mode : tunnel.outbound.pacer.mode = tunnel.traffic.mode.toShapeMode
  profile : tunnel.currentProfile = tunnel.traffic.profile.wireId.getD noProfile
  canSeal : tunnel.outbound.CanSeal

theorem applied_begin (prims : Primitives) (params : TunnelParams) (origin : HandshakeOutput)
    (peer : SocketAddr) (now : Nat) : (begin prims params origin peer now).Applied params :=
  ⟨rfl, rfl, rfl, rfl⟩

/-- Sending a frame spends a counter, and that is all. -/
theorem sendSealed_applied (applied : tunnel.Applied params) (frameType : FrameType) (plain : Bytes)
    (noise : Nat → UInt8) : (tunnel.sendSealed prims params frameType plain noise).2.Applied params := by
  have key := SameKey.of_sealObf prims tunnel.outbound.sessions frameType.asU8 plain params.padding noise
  unfold sendSealed
  generalize tunnel.outbound.sessions.sealObf prims frameType.asU8 plain params.padding noise =
    produced at key ⊢
  have steady : Outbound.Steady tunnel.outbound { tunnel.outbound with sessions := produced.2 } :=
    ⟨rfl, rfl, key⟩
  obtain ⟨e | wire, sessions⟩ := produced <;>
    exact ⟨applied.paced, applied.mode, applied.profile, steady.canSeal applied.canSeal⟩

theorem tick_applied (applied : tunnel.Applied params) (now : Nat) (profileNoise noise : Nat → UInt8) :
    (tunnel.tick prims params now profileNoise noise).2.Applied params := by
  have announced : (tunnel.announceProfile prims params profileNoise).2.Applied params := by
    unfold announceProfile
    split
    · exact sendSealed_applied applied _ _ _
    · exact applied
  unfold tick
  split
  · exact ⟨applied.paced, applied.mode, applied.profile, applied.canSeal⟩
  · dsimp only
    split
    · exact announced
    · unfold sendKeepalive
      split
      · exact sendSealed_applied announced _ _ _
      · split <;> exact announced

theorem follow_applied (applied : tunnel.Applied params) (instant : Nat) (plain : Bytes) :
    (tunnel.follow params instant plain).Applied params := by
  unfold follow
  repeat' split
  all_goals exact ⟨applied.paced, applied.mode, applied.profile, applied.canSeal⟩

theorem applied_step (applied : tunnel.Applied params) {event : LiveEvent} {after : LiveTunnel}
    (taken : tunnel.step prims params event = some after) : after.Applied params := by
  unfold step at taken
  split at taken
  case isFalse => cases taken
  case isTrue =>
    cases event with
    | work event =>
      have other : ∀ eff noise, event ≠ .switch eff noise := by
        rintro eff noise rfl
        cases taken
      obtain ⟨outbound, worked, rfl⟩ : ∃ outbound,
          tunnel.outbound.step prims params.outbound event = some outbound ∧
            { tunnel with outbound } = after := by
        cases event
        case switch eff noise => exact absurd rfl (other eff noise)
        all_goals exact Option.map_eq_some_iff.mp taken
      obtain ⟨paced, mode, canSeal⟩ := Outbound.kept_step other worked applied.canSeal
      exact ⟨paced.trans applied.paced, mode.trans applied.mode, applied.profile, canSeal⟩
    | operator eff =>
      obtain rfl := Option.some.inj taken
      exact ⟨applied.paced, applied.mode, applied.profile, applied.canSeal⟩
    | authentic now src =>
      obtain rfl := Option.some.inj taken
      exact ⟨applied.paced, applied.mode, applied.profile, applied.canSeal⟩
    | heard now =>
      obtain rfl := Option.some.inj taken
      exact ⟨applied.paced, applied.mode, applied.profile, applied.canSeal⟩
    | announced now instant src plain =>
      obtain rfl := Option.some.inj taken
      have heard : (tunnel.hear params now src).Applied params :=
        ⟨applied.paced, applied.mode, applied.profile, applied.canSeal⟩
      exact follow_applied heard instant plain
    | switch noise =>
      obtain ⟨eff, -, rfl⟩ := Option.map_eq_some_iff.mp taken
      obtain ⟨paced, mode, canSeal⟩ := Outbound.switch_shaping prims params.outbound eff noise applied.canSeal
      exact ⟨paced, mode, rfl, canSeal⟩
    | repeatProfile index noise =>
      obtain ⟨id, -, rfl⟩ := Option.map_eq_some_iff.mp taken
      have said : Applied params { tunnel with repeats := tunnel.repeats.eraseIdx index } :=
        ⟨applied.paced, applied.mode, applied.profile, applied.canSeal⟩
      dsimp only
      split
      · exact sendSealed_applied said _ _ _
      · exact said
    | tick now profileNoise noise =>
      obtain rfl := Option.some.inj taken
      exact tick_applied applied now profileNoise noise

theorem applied_run {origin : HandshakeOutput} {peer : SocketAddr} {start : Nat} {events : List LiveEvent}
    (run : Run (Taken (step prims params)) (begin prims params origin peer start) events tunnel) :
    tunnel.Applied params :=
  run.invariant (Applied params) (fun _ _ _ applied taken => applied_step applied taken)
    (applied_begin prims params origin peer start)

/-! ### What a tick sends -/

/-- The tick puts a datagram for the peer on the wire. -/
def Sends (prims : Primitives) (params : TunnelParams) (tunnel : LiveTunnel) (now : Nat)
    (profileNoise noise : Nat → UInt8) : Prop :=
  ∃ wire, (tunnel.peer, wire) ∈ (tunnel.tick prims params now profileNoise noise).1

/-- The outbound loop is paced at a constant bit-rate. -/
def ConstantRate (tunnel : LiveTunnel) : Prop :=
  tunnel.outbound.paced = true ∧ tunnel.outbound.pacer.mode = .cbr

/-- Below the limit a session seals a short frame. -/
theorem sealObf_short (seals : prims.ChachaSeals) {session : Session}
    (aeadAlgo : session.txAead.algo = session.algo) (below : session.txCounter < session.rekeyAt)
    (innerType : UInt8) {plain : Bytes} (short : plain.length ≤ 1) (policy : Obf.PadPolicy)
    (noise : Nat → UInt8) : ∃ wire, (session.sealObf prims innerType plain policy noise).1 = .ok wire := by
  have granted : (session.reserveCounters 1).1 = .ok session.txCounter := by
    have inside : ¬ session.rekeyAt ≤ min (session.txCounter + (1 - 1)) (2 ^ 64 - 1) := by omega
    simp only [Session.reserveCounters, if_neg inside]
  have framed : (Obf.packInner innerType plain policy (Obf.maxFramed session.algo.tagLen) noise).length ≤
      2 ^ 38 - 64 := by
    have room : Obf.innerHeaderLen + 1 ≤ Obf.maxFramed session.algo.tagLen := by
      cases session.algo <;> decide
    have fits : Obf.innerHeaderLen + plain.length ≤ Obf.maxFramed session.algo.tagLen := by omega
    have small : Obf.maxFramed session.algo.tagLen ≤ 2 ^ 38 - 64 := by cases session.algo <;> decide
    rw [Obf.length_packInner]
    exact (Obf.padTarget_le policy fits).trans small
  obtain ⟨ct, encrypted⟩ := Session.sealWithCounter_exists seals aeadAlgo session.txCounter framed
  have core : session.sealObfCore prims session.txCounter innerType plain policy noise =
      .ok (Obf.sealWire prims session.txObfKey session.sessionId session.txCounter ct) := by
    simp only [Session.sealObfCore, encrypted]
  unfold Session.sealObf
  generalize session.reserveCounters 1 = reserved at granted ⊢
  obtain ⟨outcome, advanced⟩ := reserved
  obtain rfl : outcome = .ok session.txCounter := granted
  exact ⟨_, core⟩

/-- Below the limit a short frame is sent. -/
theorem sendSealed_sends (seals : prims.ChachaSeals) (canSeal : tunnel.outbound.CanSeal)
    (below : tunnel.outbound.sessions.current.txCounter < tunnel.outbound.sessions.current.rekeyAt)
    (frameType : FrameType) {plain : Bytes} (short : plain.length ≤ 1) (noise : Nat → UInt8) :
    ∃ wire, (tunnel.sendSealed prims params frameType plain noise).1 = [(tunnel.peer, wire)] := by
  obtain ⟨wire, success⟩ := sealObf_short seals canSeal below frameType.asU8 short params.padding noise
  refine ⟨wire, ?_⟩
  replace success : (tunnel.outbound.sessions.sealObf prims frameType.asU8 plain params.padding noise).1 =
    .ok wire := success
  unfold sendSealed
  generalize tunnel.outbound.sessions.sealObf prims frameType.asU8 plain params.padding noise =
    produced at success ⊢
  obtain ⟨outcome, sessions⟩ := produced
  obtain rfl : outcome = .ok wire := success
  rfl

theorem wireId_getD_eq_noProfile (profile : TrafficProfile) :
    profile.wireId.getD noProfile = noProfile ↔ profile = .custom := by
  cases profile <;> decide

/-- The classic keepalive frame always encodes. -/
theorem keepalive_encodes : ∃ wire, (⟨.keepAlive, 0, 0, []⟩ : Frame).encode = .ok wire :=
  ⟨_, if_neg (Nat.not_lt_zero _)⟩

theorem announceProfile_sends (seals : prims.ChachaSeals) (applied : tunnel.Applied params)
    (below : tunnel.outbound.sessions.current.txCounter < tunnel.outbound.sessions.current.rekeyAt)
    (noise : Nat → UInt8) :
    if params.announces = true ∧ tunnel.traffic.profile ≠ .custom then
      ∃ wire, (tunnel.announceProfile prims params noise).1 = [(tunnel.peer, wire)]
    else tunnel.announceProfile prims params noise = ([], tunnel) := by
  have known : tunnel.currentProfile ≠ noProfile ↔ tunnel.traffic.profile ≠ .custom := by
    rw [applied.profile]
    exact not_congr (wireId_getD_eq_noProfile _)
  unfold announceProfile
  split
  · rename_i both
    rw [if_pos ⟨both.1, known.mpr both.2⟩]
    exact sendSealed_sends seals applied.canSeal below .profile (Nat.le_refl _) noise
  · rename_i not_both
    rw [if_neg fun both => not_both ⟨both.1, known.mp both.2⟩]

theorem sendKeepalive_sends (seals : prims.ChachaSeals) (applied : tunnel.Applied params)
    (below : tunnel.outbound.sessions.current.txCounter < tunnel.outbound.sessions.current.rekeyAt)
    (noise : Nat → UInt8) : ∃ wire, (tunnel.peer, wire) ∈ (tunnel.sendKeepalive prims params noise).1 := by
  unfold sendKeepalive
  split
  · have empty : ([] : Bytes).length ≤ 1 := Nat.zero_le 1
    obtain ⟨wire, sent⟩ := sendSealed_sends seals applied.canSeal below .keepAlive empty noise
    exact ⟨wire, sent ▸ List.mem_singleton.mpr rfl⟩
  · obtain ⟨wire, encoded⟩ := keepalive_encodes
    rw [encoded]
    exact ⟨wire, List.mem_singleton.mpr rfl⟩

/-- **When a tick sends.** -/
theorem sends_iff (seals : prims.ChachaSeals) (applied : tunnel.Applied params)
    (below : tunnel.outbound.sessions.current.txCounter < tunnel.outbound.sessions.current.rekeyAt)
    (now : Nat) (profileNoise noise : Nat → UInt8) :
    tunnel.Sends prims params now profileNoise noise ↔
      now - tunnel.lastRecv < peerDeadAfter ∧
        (params.kaSkipSend = false ∨ (params.announces = true ∧ tunnel.traffic.profile ≠ .custom)) := by
  unfold Sends tick
  by_cases dead : peerDeadAfter ≤ now - tunnel.lastRecv
  · rw [if_pos dead]
    refine iff_of_false ?_ fun both => absurd dead (Nat.not_le.mpr both.1)
    rintro ⟨wire, none_sent⟩
    cases none_sent
  rw [if_neg dead]
  have alive : now - tunnel.lastRecv < peerDeadAfter := Nat.not_le.mp dead
  have announced := announceProfile_sends seals applied below profileNoise
  dsimp only
  by_cases announcing : params.announces = true ∧ tunnel.traffic.profile ≠ .custom
  · rw [if_pos announcing] at announced
    obtain ⟨wire, sent⟩ := announced
    refine iff_of_true ⟨wire, ?_⟩ ⟨alive, .inr announcing⟩
    split
    · exact sent ▸ List.mem_singleton.mpr rfl
    · exact List.mem_append_left _ (sent ▸ List.mem_singleton.mpr rfl)
  · rw [if_neg announcing] at announced
    rw [announced]
    by_cases skips : params.kaSkipSend = true
    · rw [if_pos skips]
      refine iff_of_false ?_ ?_
      · rintro ⟨wire, none_sent⟩
        cases none_sent
      · rintro ⟨-, sends | announces⟩
        · exact Bool.false_ne_true (sends.symm.trans skips)
        · exact announcing announces
    · rw [if_neg skips]
      obtain ⟨wire, sent⟩ := sendKeepalive_sends seals applied below noise
      exact iff_of_true ⟨wire, sent⟩ ⟨alive, .inl (Bool.eq_false_of_not_eq_true skips)⟩

/-- **The liveness of keepalives.** In every run, at every tick of a tunnel whose session is below its
limit: the tick sends, or the loop is paced at a constant bit-rate, exactly when

* the tick does not declare the peer dead, and the tunnel was not started paced at a constant bit-rate or
  announces its profile and the one in force has an id; or
* the settings in force are paced at a constant bit-rate. -/
theorem keepalive_liveness (seals : prims.ChachaSeals) {origin : HandshakeOutput} {peer : SocketAddr}
    {start : Nat} {events : List LiveEvent}
    (run : Run (Taken (step prims params)) (begin prims params origin peer start) events tunnel)
    (below : tunnel.outbound.sessions.current.txCounter < tunnel.outbound.sessions.current.rekeyAt)
    (now : Nat) (profileNoise noise : Nat → UInt8) :
    (tunnel.Sends prims params now profileNoise noise ∨ tunnel.ConstantRate) ↔
      (now - tunnel.lastRecv < peerDeadAfter ∧
          (¬ (params.traffic.enabled = true ∧ params.obfEnabled = true ∧ params.traffic.mode = .cbr) ∨
            (params.announces = true ∧ tunnel.traffic.profile ≠ .custom))) ∨
        (tunnel.traffic.enabled = true ∧ params.obfEnabled = true ∧ tunnel.traffic.mode = .cbr) := by
  have applied := applied_run run
  have skips : params.kaSkipSend = false ↔
      ¬ (params.traffic.enabled = true ∧ params.obfEnabled = true ∧ params.traffic.mode = .cbr) := by
    rw [TunnelParams.kaSkipSend, Bool.eq_false_iff, ne_eq, Bool.and_eq_true, Bool.and_eq_true,
      decide_eq_true_iff, and_assoc]
  have constantRate : tunnel.ConstantRate ↔
      tunnel.traffic.enabled = true ∧ params.obfEnabled = true ∧ tunnel.traffic.mode = .cbr := by
    have mode : tunnel.traffic.mode.toShapeMode = .cbr ↔ tunnel.traffic.mode = .cbr := by
      cases tunnel.traffic.mode <;> decide
    rw [ConstantRate, applied.paced, applied.mode, mode, Bool.and_eq_true, and_assoc]
  rw [sends_iff seals applied below now profileNoise noise, skips, constantRate]

/-- A server that announces nothing and follows its clients, started on some settings. -/
def sampleServer (traffic : EffectiveTraffic) : TunnelParams where
  allowRoaming := true
  announceProfile := false
  followPeer := some ⟨.stealth, true, .cbr, 256, 2, 500, 64, 0.25⟩
  obfEnabled := true
  padding := .bucketed
  traffic

def sampleClient : SocketAddr := ⟨[203, 0, 113, 9], 40000⟩

/-- The sample server on the session of a handshake. -/
def sampleStart (traffic : EffectiveTraffic) : LiveTunnel :=
  begin .transparent (sampleServer traffic) ⟨7, .zero 32, false, .aegis256X2⟩ sampleClient 0

/-- The client announces that it is off. -/
def sampleEvents : List LiveEvent := [.announced 1 1000 sampleClient [0], .switch fun _ _ => 0]

/-- An adaptive mode of the operator's own. -/
def sampleAdaptive : EffectiveTraffic := { Outbound.sampleStealth with profile := .custom, mode := .adaptive }

/-- Started in the adaptive mode, the server that has followed its client still sends keepalives. -/
theorem keepalive_liveness_sample : ∃ tunnel,
    Run (Taken (step .transparent (sampleServer sampleAdaptive))) (sampleStart sampleAdaptive) sampleEvents
        tunnel ∧ tunnel.outbound.paced = false ∧
      (tunnel.Sends .transparent (sampleServer sampleAdaptive) 15 (fun _ => 0) (fun _ => 0) ∨
        tunnel.ConstantRate) := by
  have run : Run (Taken (step .transparent (sampleServer sampleAdaptive))) (sampleStart sampleAdaptive)
    sampleEvents _ := run_of_execute rfl
  refine ⟨_, run, rfl, ?_⟩
  refine (keepalive_liveness Primitives.transparent_chachaSeals run (by decide) 15 _ _).mpr
    (.inl ⟨by decide, .inl ?_⟩)
  rintro ⟨-, -, cbr⟩
  cases cbr

/-- Started on the stealth profile, a server that has followed its client to `off` sends nothing at its
ticks, and is not paced any more. -/
theorem keepalive_stops : ∃ tunnel,
    Run (Taken (step .transparent (sampleServer Outbound.sampleStealth)))
        (sampleStart Outbound.sampleStealth) sampleEvents tunnel ∧ tunnel.running = true ∧
      tunnel.outbound.sessions.current.txCounter < tunnel.outbound.sessions.current.rekeyAt ∧
      15 - tunnel.lastRecv < peerDeadAfter ∧
      ¬ (tunnel.Sends .transparent (sampleServer Outbound.sampleStealth) 15 (fun _ => 0) (fun _ => 0) ∨
        tunnel.ConstantRate) := by
  refine ⟨_, run_of_execute rfl, rfl, by decide, by decide, ?_⟩
  rintro (⟨wire, sent⟩ | ⟨paced, -⟩)
  · cases sent
  · cases paced

end LiveTunnel

end ChameleonPQ
