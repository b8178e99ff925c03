/-
**The ticker of the outbound loop (`tunnel_loops.rs`).**

The loop creates an interval when it starts and one at every live switch: a slot of the pacer, or the time a
batch waits. A period of zero panics.

* `tickPeriod` — the period for the settings in force; `tickPeriod_ne_zero_iff`.
* `TimedTunnel` — a tunnel with the periods of its intervals so far; `Derived`, the switches that come from
  loaded configurations and from the peer.
* `Sound` — no period is zero, and none will be for what is in the channel; every step keeps it.
* `timers_nonzero_iff` — no run creates an interval of period zero exactly when batches wait and no rate that
  can be put into force has more slots than a second has microseconds.
-/

import ChameleonPQ.Tunnel.Keepalive

namespace ChameleonPQ

open Library Library.Runs

/-- The slot of the pacer, `1_000_000 / rate_pps.max(1)`, in microseconds. -/
def EffectiveTraffic.slotUs (eff : EffectiveTraffic) : Nat := 1000000 / max eff.ratePps.toNat 1

/-- The period of the ticker, in microseconds: paced or not. -/
def tickPeriod (obfEnabled : Bool) (batchLingerUs : UInt64) (eff : EffectiveTraffic) : Nat :=
  if eff.enabled && obfEnabled then eff.slotUs else batchLingerUs.toNat

/-- The part a node plays. Before it connects, a client's operator may pick another profile than the one of
its configuration; a server may follow its client. -/
inductive TunnelRole where
  | client (profile : TrafficProfile)
  | server (followClientProfile : Bool)
  deriving DecidableEq

/-- `TunnelParams::from_config`, with what each part changes of it. -/
def TunnelParams.ofConfig (config : AppConfig) : TunnelRole → TunnelParams
  | .client profile =>
    { allowRoaming := false, announceProfile := true, followPeer := none
      obfEnabled := config.obfuscation.enabled
      padding := config.obfuscation.padding.toPadPolicy
      traffic := ({ config.traffic with profile } : TrafficConfig).effective }
  | .server follows =>
    { allowRoaming := true, announceProfile := false
      followPeer := if follows then some config.traffic else none
      obfEnabled := config.obfuscation.enabled
      padding := config.obfuscation.padding.toPadPolicy
      traffic := config.traffic.effective }

/-- A tunnel, and the periods of the intervals its outbound loop has created, the last one first. -/
structure TimedTunnel where
  tunnel : LiveTunnel
  periods : List Nat

namespace TimedTunnel

section Definitions

variable (prims : Primitives) (config : AppConfig) (role : TunnelRole)

/-- The period for some settings. -/
def period (eff : EffectiveTraffic) : Nat :=
  tickPeriod config.obfuscation.enabled config.engine.batchLingerUs eff

/-- The first interval is created when the loop starts. -/
def begin (origin : HandshakeOutput) (peer : SocketAddr) (now : Nat) : TimedTunnel :=
  ⟨.begin prims (.ofConfig config role) origin peer now, [period config (TunnelParams.ofConfig config role).traffic]⟩

/-- The live switch arm creates the next one. -/
def step (timed : TimedTunnel) (event : LiveEvent) : Option TimedTunnel :=
  (timed.tunnel.step prims (.ofConfig config role) event).map fun tunnel =>
    match event, timed.tunnel.offered with
    | .switch _, some eff => ⟨tunnel, period config eff :: timed.periods⟩
    | _, _ => ⟨tunnel, timed.periods⟩

/-- **Where the switches come from**: a client's operator picks a profile of a loaded configuration. What the
peer announces is part of the step. -/
def Derived (loaded : List AppConfig) (_ : TimedTunnel) : LiveEvent → Prop
  | .operator eff => (∃ profile, role = .client profile) ∧ ∃ other ∈ config :: loaded, ∃ profile,
      eff = ({ other.traffic with profile } : TrafficConfig).effective
  | _ => True

/-- **What keeps every period from zero**: batches wait, and on an obfuscated data path no loaded rate
exceeds a million slots a second. -/
def Spaced (loaded : List AppConfig) : Prop :=
  config.engine.batchLingerUs ≠ 0 ∧ (config.obfuscation.enabled = true →
    ∀ other ∈ config :: loaded, other.traffic.enabled = true → other.traffic.ratePps ≤ 1000000)

end Definitions

end TimedTunnel

/-! ### One period -/

theorem EffectiveTraffic.slotUs_ne_zero_iff (eff : EffectiveTraffic) :
    eff.slotUs ≠ 0 ↔ eff.ratePps ≤ 1000000 := by
  rw [slotUs, Nat.div_ne_zero_iff, UInt32.le_iff_toNat_le]
  show max eff.ratePps.toNat 1 ≠ 0 ∧ max eff.ratePps.toNat 1 ≤ 1000000 ↔ eff.ratePps.toNat ≤ 1000000
  omega

/-- **When the period of some settings is not zero.** -/
theorem tickPeriod_ne_zero_iff {obfEnabled : Bool} {batchLingerUs : UInt64} {eff : EffectiveTraffic} :
    tickPeriod obfEnabled batchLingerUs eff ≠ 0 ↔
      if eff.enabled && obfEnabled then eff.ratePps ≤ 1000000 else batchLingerUs ≠ 0 := by
  unfold tickPeriod
  split
  · exact eff.slotUs_ne_zero_iff
  · exact not_congr (UInt64.toNat_inj (b := 0))

/-! ### What is in the traffic channel -/

namespace LiveTunnel

variable {prims : Primitives} {params : TunnelParams} {tunnel after : LiveTunnel}

theorem sendSealed_offered (frameType : FrameType) (plain : Bytes) (noise : Nat → UInt8) :
    (tunnel.sendSealed prims params frameType plain noise).2.offered = tunnel.offered := by
  unfold sendSealed
  split <;> rfl

/-- A tick of the keepalive task leaves the channel alone. -/
theorem tick_offered (now : Nat) (profileNoise noise : Nat → UInt8) :
    (tunnel.tick prims params now profileNoise noise).2.offered = tunnel.offered := by
  have announced : (tunnel.announceProfile prims params profileNoise).2.offered = tunnel.offered := by
    unfold announceProfile
    split
    · exact sendSealed_offered ..
    · rfl
  unfold tick
  split
  · rfl
  · dsimp only
    split
    · exact announced
    · unfold sendKeepalive
      split
      · exact (sendSealed_offered ..).trans announced
      · split <;> exact announced

/-- **What a step puts into the channel**: what the operator or the peer asks for, and nothing else; the live
switch takes it out. -/
theorem offered_step {event : LiveEvent} (taken : tunnel.step prims params event = some after)
    {eff : EffectiveTraffic} (offers : after.offered = some eff) :
    tunnel.offered = some eff ∨ event = .operator eff ∨
      ∃ base profile, params.followPeer = some base ∧ eff = ({ base with profile } : TrafficConfig).effective := by
  unfold step at taken
  split at taken
  case isFalse => cases taken
  case isTrue =>
    cases event with
    | work event =>
      obtain ⟨outbound, -, rfl⟩ : ∃ outbound, tunnel.outbound.step prims params.outbound event = some outbound ∧
          { tunnel with outbound } = after := by
        cases event
        case switch eff noise => cases taken
        all_goals exact Option.map_eq_some_iff.mp taken
      exact .inl offers
    | operator other =>
      obtain rfl := Option.some.inj taken
      exact .inr (.inl (congrArg LiveEvent.operator (Option.some.inj offers)))
    | authentic now src =>
      obtain rfl := Option.some.inj taken
      exact .inl offers
    | heard now =>
      obtain rfl := Option.some.inj taken
      exact .inl offers
    | announced now instant src plain =>
      obtain rfl := Option.some.inj taken
      unfold follow at offers
      split at offers
      · rename_i base profile follows announced
        split at offers
        · exact .inr (.inr ⟨base, profile, follows, (Option.some.inj offers).symm⟩)
        · exact .inl offers
      · exact .inl offers
    | switch noise =>
      obtain ⟨other, -, rfl⟩ := Option.map_eq_some_iff.mp taken
      cases offers
    | repeatProfile index noise =>
      obtain ⟨id, -, rfl⟩ := Option.map_eq_some_iff.mp taken
      left
      dsimp only at offers
      split at offers
      · have sent := @sendSealed_offered prims params { tunnel with repeats := tunnel.repeats.eraseIdx index }
          .profile [id] noise
        exact sent.symm.trans offers
      · exact offers
    | tick now profileNoise noise =>
      obtain rfl := Option.some.inj taken
      exact .inl ((tick_offered ..).symm.trans offers)

end LiveTunnel

/-! ### Every run -/

namespace TimedTunnel

variable {prims : Primitives} {config : AppConfig} {role : TunnelRole} {loaded : List AppConfig}
  {timed after : TimedTunnel} {event : LiveEvent}

/-- No period so far is zero, and none will be for the settings in the channel. -/
structure Sound (config : AppConfig) (timed : TimedTunnel) : Prop where
  periods : ∀ period ∈ timed.periods, period ≠ 0
  offered : ∀ eff, timed.tunnel.offered = some eff → period config eff ≠ 0

/-- Any profile of a loaded configuration gives a period. -/
theorem Spaced.period_ne_zero (spaced : Spaced config loaded) {other : AppConfig} (member : other ∈ config :: loaded)
    (profile : TrafficProfile) :
    period config ({ other.traffic with profile } : TrafficConfig).effective ≠ 0 := by
  rw [period, tickPeriod_ne_zero_iff]
  split
  · rename_i paced
    obtain ⟨enabled, obfuscated⟩ := Bool.and_eq_true_iff.mp paced
    cases profile with
    | custom => exact spaced.2 obfuscated other member enabled
    | off => cases enabled
    | stealth => exact (by decide : (256 : UInt32) ≤ 1000000)
    | balanced => exact (by decide : (3000 : UInt32) ≤ 1000000)
    | throughput => exact (by decide : (6000 : UInt32) ≤ 1000000)
  · exact spaced.1

theorem sound_begin (spaced : Spaced config loaded) (origin : HandshakeOutput) (peer : SocketAddr) (now : Nat) :
    Sound config (begin prims config role origin peer now) := by
  refine ⟨fun period member => ?_, fun eff none => by cases none⟩
  obtain rfl := List.mem_singleton.mp member
  cases role with
  | client profile => exact spaced.period_ne_zero List.mem_cons_self profile
  | server follows => exact spaced.period_ne_zero List.mem_cons_self config.traffic.profile

theorem sound_step (spaced : Spaced config loaded) (sound : Sound config timed)
    (derived : Derived config role loaded timed event) (taken : timed.step prims config role event = some after) :
    Sound config after := by
  obtain ⟨tunnel, stepped, rfl⟩ := Option.map_eq_some_iff.mp taken
  have channel : ∀ eff, tunnel.offered = some eff → period config eff ≠ 0 := by
    intro eff offers
    rcases LiveTunnel.offered_step stepped offers with before | rfl | ⟨base, profile, follows, rfl⟩
    · exact sound.offered eff before
    · obtain ⟨-, other, member, profile, rfl⟩ := derived
      exact spaced.period_ne_zero member profile
    · cases role with
      | client _ => cases follows
      | server followClientProfile =>
        simp only [TunnelParams.ofConfig] at follows
        split at follows
        · obtain rfl := Option.some.inj follows
          exact spaced.period_ne_zero List.mem_cons_self profile
        · cases follows
  split
  · rename_i _ eff offers
    exact ⟨List.forall_mem_cons.mpr ⟨sound.offered eff offers, sound.periods⟩, channel⟩
  · exact ⟨sound.periods, channel⟩

/-- A client's operator picks a profile, and the loop switches. -/
theorem switched (prims : Primitives) (config : AppConfig) (own : TrafficProfile) (origin : HandshakeOutput)
    (peer : SocketAddr) (now : Nat) {other : AppConfig} (member : other ∈ config :: loaded) (profile : TrafficProfile) :
    ∃ events last, Run (Guarded (Derived config (.client own) loaded) (Taken (step prims config (.client own))))
      (begin prims config (.client own) origin peer now) events last ∧
        period config ({ other.traffic with profile } : TrafficConfig).effective ∈ last.periods := by
  refine ⟨[.operator _, .switch fun _ _ => 0], _, .next ⟨⟨⟨own, rfl⟩, other, member, profile, rfl⟩, rfl⟩
    (.next ⟨trivial, rfl⟩ (.done _)), List.mem_cons_self⟩

/-- **No run creates an interval of period zero exactly when** batches wait, and no rate that can be put into
force exceeds a million slots a second. -/
theorem timers_nonzero_iff (prims : Primitives) (config : AppConfig) (loaded : List AppConfig) :
    (∀ role origin peer now events last,
        Run (Guarded (Derived config role loaded) (Taken (step prims config role)))
          (begin prims config role origin peer now) events last →
        ∀ period ∈ last.periods, period ≠ 0) ↔
      Spaced config loaded := by
  constructor
  · intro nonzero
    have picked : ∀ other ∈ config :: loaded, ∀ profile,
        period config ({ other.traffic with profile } : TrafficConfig).effective ≠ 0 := by
      intro other member profile
      obtain ⟨events, last, run, created⟩ := @switched loaded prims config .off ⟨0, .zero 32, true, .aegis256X2⟩
        ⟨[], 0⟩ 0 other member profile
      exact nonzero _ _ _ _ _ _ run _ created
    refine ⟨?_, fun obfuscated other member enabled => ?_⟩
    · have unpaced := picked config List.mem_cons_self .off
      rw [period, tickPeriod_ne_zero_iff] at unpaced
      exact unpaced
    · have paced := picked other member .custom
      rw [period, tickPeriod_ne_zero_iff] at paced
      exact (if_pos (Bool.and_eq_true_iff.mpr ⟨enabled, obfuscated⟩)).mp paced
  · intro spaced role origin peer now events last run
    have sound : Sound config last := run.invariant (Sound config)
      (fun before event after sound taken => sound_step spaced sound taken.1 taken.2)
      (sound_begin spaced origin peer now)
    exact sound.periods

/-- A client of two million slots a second. -/
def sampleFastConfig : AppConfig where
  identity :=
    { ed25519SeedHex := "0101010101010101010101010101010101010101010101010101010101010101"
      peerEd25519PubHex := "0909090909090909090909090909090909090909090909090909090909090909"
      mldsaSecretHex := none
      peerMldsaPubHex := none }
  tun := { mtu := 1200, routeAll := false, killSwitch := false, dns := [] }
  obfuscation := { enabled := true, padding := .full, handshake := true, pskHex := none }
  traffic :=
    { profile := .custom, enabled := true, mode := .cbr, ratePps := 2000000, burst := 1
      cooldownMs := 500, coverBudgetPackets := 64, coverRatio := 0.25 }

/-- **Validation lets the rate through**, and the first interval of the loop has period zero. -/
theorem zero_period : ¬ ∀ (prims : Primitives) (config : AppConfig) (loaded : List AppConfig),
    (∀ other ∈ config :: loaded, other.validate = .ok ()) →
    ∀ role origin peer now events last,
      Run (Guarded (Derived config role loaded) (Taken (step prims config role)))
        (begin prims config role origin peer now) events last →
      ∀ period ∈ last.periods, period ≠ 0 := by
  intro claim
  have accepted : ∀ other ∈ [sampleFastConfig], other.validate = .ok () :=
    List.forall_mem_singleton.mpr rfl
  refine claim .transparent sampleFastConfig [] accepted (.client .custom) ⟨0, .zero 32, true, .aegis256X2⟩
    ⟨[], 0⟩ 0 [] _ (.done _) 0 (List.mem_singleton.mpr ?_) rfl
  rfl

end TimedTunnel

end ChameleonPQ
