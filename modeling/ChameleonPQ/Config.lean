/-
**The configuration and its validation (`config.rs`).**

* `hexTo32`, `hexToVec` — the hex fields.
* `TrafficConfig.effective` — a traffic profile resolved into pacing parameters.
* `AppConfig.validate` — the checks of the loader, in the source's order; `validate_error` says that
  every refusal is a configuration error, `accepted_of_validate` and `readable_of_validate` what an
  accepted configuration keeps.

The fields no check and no modelled function reads (the addresses of the network and of the tunnel's own
side, the worker count) are left out.
-/

import ChameleonPQ.Obf

namespace ChameleonPQ

open Library

/-- A refusal of the loader. -/
def configError (msg : String) : ChameleonError := .handshake "config" msg

/-! ### Hex fields -/

/-- The Unicode `White_Space` property, which `str::trim` strips. -/
def isWhitespace (c : Char) : Bool :=
  let code := c.toNat
  (9 ≤ code && code ≤ 13) || code == 0x20 || code == 0x85 || code == 0xA0 || code == 0x1680 ||
    (0x2000 ≤ code && code ≤ 0x200A) || code == 0x2028 || code == 0x2029 || code == 0x202F ||
    code == 0x205F || code == 0x3000

/-- `s.trim().as_bytes()`. -/
def trimmedBytes (s : String) : Bytes :=
  let front := s.toList.dropWhile isWhitespace
  (front.reverse.dropWhile isWhitespace).reverse.flatMap String.utf8EncodeChar

/-- `hex_nibble`. -/
def hexNibble (b : UInt8) (field : String) : Result UInt8 :=
  if 0x30 ≤ b ∧ b ≤ 0x39 then .ok (b - 0x30)
  else if 0x61 ≤ b ∧ b ≤ 0x66 then .ok (b - 0x61 + 10)
  else if 0x41 ≤ b ∧ b ≤ 0x46 then .ok (b - 0x41 + 10)
  else
    .error (configError
      (field ++ ": invalid hex character '" ++ (Char.ofNat b.toNat).toString ++ "'"))

/-- The loop over `chunks(2)`; the callers have checked that the length is even. -/
def hexPairs (field : String) : Bytes → Result Bytes
  | hi :: lo :: rest => do
    let hi ← hexNibble hi field
    let lo ← hexNibble lo field
    let rest ← hexPairs field rest
    return (hi <<< 4 ||| lo) :: rest
  | _ => .ok []

/-- `hex_to_32`. -/
def hexTo32 (s field : String) : Result (Octets 32) :=
  let raw := trimmedBytes s
  if raw.length ≠ 64 then
    .error (configError (field ++ ": expected 64 hex chars, got " ++ toString raw.length))
  else (hexPairs field raw).map (Octets.fill 32)

/-- `hex_to_vec`. -/
def hexToVec (s field : String) : Result Bytes :=
  let raw := trimmedBytes s
  if raw.length % 2 ≠ 0 then
    .error (configError (field ++ ": hex length " ++ toString raw.length ++ " is not even"))
  else hexPairs field raw

/-! ### The sections -/

/-- `IdentityConfig`. -/
structure IdentityConfig where
  ed25519SeedHex : String
  peerEd25519PubHex : String
  mldsaSecretHex : Option String
  peerMldsaPubHex : Option String

namespace IdentityConfig

variable (identity : IdentityConfig)

/-- `seed_bytes`. -/
def seedBytes : Result (Octets 32) := hexTo32 identity.ed25519SeedHex "identity.ed25519_seed_hex"

/-- `peer_pub_bytes`. -/
def peerPubBytes : Result (Octets 32) :=
  hexTo32 identity.peerEd25519PubHex "identity.peer_ed25519_pub_hex"

/-- `mldsa_secret_bytes`. -/
def mldsaSecretBytes : Result (Option Bytes) :=
  match identity.mldsaSecretHex with
  | none => .ok none
  | some s => (hexToVec s "identity.mldsa_secret_hex").map some

/-- `peer_mldsa_pub_bytes`. -/
def peerMldsaPubBytes : Result (Option Bytes) :=
  match identity.peerMldsaPubHex with
  | none => .ok none
  | some s => (hexToVec s "identity.peer_mldsa_pub_hex").map some

end IdentityConfig

/-- `TunConfig`. -/
structure TunConfig where
  name : String := "chameleon0"
  mtu : UInt16
  routeAll : Bool
  peerAddress : Option String := none
  killSwitch : Bool
  dns : List String

/-- `EngineConfig`. -/
structure EngineConfig where
  batchLingerUs : UInt64 := 200

/-- `PaddingPolicy`. -/
inductive PaddingPolicy where
  | off
  | bucketed
  | full
  deriving DecidableEq, Repr

/-- `impl From<PaddingPolicy> for PadPolicy`. -/
def PaddingPolicy.toPadPolicy : PaddingPolicy → Obf.PadPolicy
  | off => .off
  | bucketed => .bucketed
  | full => .full

/-- `ObfuscationConfig`. -/
structure ObfuscationConfig where
  enabled : Bool
  padding : PaddingPolicy
  handshake : Bool
  pskHex : Option String

/-- `psk_bytes`. -/
def ObfuscationConfig.pskBytes (obfuscation : ObfuscationConfig) : Result (Option Bytes) :=
  match obfuscation.pskHex with
  | none => .ok none
  | some s => (hexToVec s "obfuscation.psk_hex").map some

/-- `TrafficMode`. -/
inductive TrafficMode where
  | cbr
  | adaptive
  deriving DecidableEq, Repr

/-- `TrafficProfile`. -/
inductive TrafficProfile where
  | stealth
  | balanced
  | throughput
  | off
  | custom
  deriving DecidableEq, Repr

/-- `wire_id`: a custom profile has none. -/
def TrafficProfile.wireId : TrafficProfile → Option UInt8
  | off => some 0
  | balanced => some 1
  | throughput => some 2
  | stealth => some 3
  | custom => none

/-- `from_wire_id`. -/
def TrafficProfile.fromWireId (id : UInt8) : Option TrafficProfile :=
  if id = 0 then some off
  else if id = 1 then some balanced
  else if id = 2 then some throughput
  else if id = 3 then some stealth
  else none

/-- A profile is what its id is read as. -/
theorem TrafficProfile.fromWireId_eq_some_iff (id : UInt8) (profile : TrafficProfile) :
    fromWireId id = some profile ↔ profile.wireId = some id := by
  unfold fromWireId
  cases profile <;> grind [wireId]

/-- `EffectiveTraffic`. -/
structure EffectiveTraffic where
  profile : TrafficProfile
  enabled : Bool
  mode : TrafficMode
  ratePps : UInt32
  burst : UInt16
  cooldownMs : UInt64
  coverBudgetPackets : UInt32
  coverRatio : Float32

/-- `TrafficConfig`. -/
structure TrafficConfig where
  profile : TrafficProfile
  enabled : Bool
  mode : TrafficMode
  ratePps : UInt32
  burst : UInt16
  cooldownMs : UInt64
  coverBudgetPackets : UInt32
  coverRatio : Float32

/-- `effective`: the preset profiles ignore the individual fields, but for the cooldown and the
cover settings. -/
def TrafficConfig.effective (traffic : TrafficConfig) : EffectiveTraffic :=
  let resolved := fun enabled mode ratePps burst =>
    { profile := traffic.profile, enabled, mode, ratePps, burst
      cooldownMs := traffic.cooldownMs
      coverBudgetPackets := traffic.coverBudgetPackets
      coverRatio := traffic.coverRatio }
  match traffic.profile with
  | .stealth => resolved true .cbr 256 2
  | .balanced => resolved true .adaptive 3000 4
  | .throughput => resolved true .adaptive 6000 8
  | .off => resolved false traffic.mode traffic.ratePps traffic.burst
  | .custom => resolved traffic.enabled traffic.mode traffic.ratePps traffic.burst

/-- `AppConfig`. -/
structure AppConfig where
  identity : IdentityConfig
  tun : TunConfig
  engine : EngineConfig := {}
  obfuscation : ObfuscationConfig
  traffic : TrafficConfig

/-! ### Validation -/

/-- `SAFE_TUN_MTU`. -/
def safeTunMtu : UInt16 := 1232

/-- One check: the configuration is refused when `bad` holds. -/
def refuseIf (bad : Prop) [Decidable bad] (msg : String) : Result Unit :=
  if bad then .error (configError msg) else .ok ()

namespace AppConfig

/-- The ML-DSA fields belong together. -/
def checkMldsa (config : AppConfig) : Result Unit :=
  match config.identity.mldsaSecretHex, config.identity.peerMldsaPubHex with
  | some _, some _ | none, none => do
    let _ ← config.identity.mldsaSecretBytes
    let _ ← config.identity.peerMldsaPubBytes
    return ()
  | _, _ =>
    .error (configError ("identity: set BOTH mldsa_secret_hex and peer_mldsa_pub_hex, " ++
      "or neither (hybrid ML-DSA auth is all-or-nothing)"))

/-- The handshake obfuscation secret parses and is not absurdly short. -/
def checkPsk (config : AppConfig) : Result Unit := do
  match ← config.obfuscation.pskBytes with
  | none => return ()
  | some psk =>
    refuseIf (psk.length < 16)
      ("obfuscation.psk_hex is only " ++ toString psk.length ++ " bytes; use at least 16")

/-- `validate`. -/
def validate (config : AppConfig) : Result Unit := do
  let _ ← config.identity.seedBytes
  let _ ← config.identity.peerPubBytes
  config.checkMldsa
  refuseIf (config.tun.mtu < 576) ("tun.mtu " ++ toString config.tun.mtu ++ " is below minimum 576")
  refuseIf (config.obfuscation.enabled = true ∧ safeTunMtu < config.tun.mtu)
    ("tun.mtu " ++ toString config.tun.mtu ++ " exceeds the obfuscation-safe maximum " ++
      toString safeTunMtu ++ ": a larger MTU would fragment the obfuscated data path (breaking " ++
      "the constant-size property and adding a fingerprint). Lower tun.mtu.")
  refuseIf (config.tun.killSwitch = true ∧ config.tun.routeAll = false)
    "tun.kill_switch requires tun.route_all = true (kill switch only guards full-tunnel routing)"
  refuseIf (config.tun.dns ≠ [] ∧ config.tun.routeAll = false)
    ("tun.dns requires tun.route_all = true (DNS-leak protection only applies with full-tunnel " ++
      "routing)")
  config.checkPsk
  refuseIf (config.obfuscation.handshake = true ∧ config.obfuscation.enabled = false)
    "obfuscation.handshake requires obfuscation.enabled = true"
  let eff := config.traffic.effective
  refuseIf (eff.enabled = true ∧ config.obfuscation.enabled = false)
    "traffic (profile != off) requires obfuscation.enabled = true"
  refuseIf (eff.enabled = true ∧ (eff.ratePps < 1 ∨ eff.burst < 1))
    "traffic.rate_pps and traffic.burst must both be >= 1"

/-! ### What validation promises -/

/-- Every refusal of a check is a configuration error. -/
def RefusesByConfig {Value : Type} (check : Result Value) : Prop :=
  ∀ e, check = .error e → ∃ msg, e = configError msg

section Checks

variable {Value Next : Type}

theorem refusesByConfig_ok (value : Value) : RefusesByConfig (.ok value : Result Value) :=
  fun _ same => nomatch same

theorem refusesByConfig_error (msg : String) :
    RefusesByConfig (.error (configError msg) : Result Value) :=
  fun _ same => ⟨msg, (Except.error.inj same).symm⟩

theorem RefusesByConfig.bind {check : Result Value} {rest : Value → Result Next}
    (first : RefusesByConfig check) (second : ∀ value, RefusesByConfig (rest value)) :
    RefusesByConfig (check >>= rest) := by
  cases check with
  | error e =>
    intro e' same
    exact first e' (congrArg Except.error (Except.error.inj same))
  | ok value => exact second value

theorem RefusesByConfig.map {check : Result Value} (first : RefusesByConfig check)
    (f : Value → Next) : RefusesByConfig (check.map f) := by
  cases check with
  | error e =>
    intro e' same
    exact first e' (congrArg Except.error (Except.error.inj same))
  | ok value => exact refusesByConfig_ok (f value)

/-- A sequence of checks passes when both parts do. -/
theorem bind_eq_ok {check : Result Value} {rest : Value → Result Next} {result : Next}
    (passed : check >>= rest = .ok result) : ∃ value, check = .ok value ∧ rest value = .ok result := by
  cases check with
  | error e => cases passed
  | ok value => exact ⟨value, rfl, passed⟩

theorem refusesByConfig_refuseIf (bad : Prop) [Decidable bad] (msg : String) :
    RefusesByConfig (refuseIf bad msg) := by
  unfold refuseIf
  split
  · exact refusesByConfig_error msg
  · exact refusesByConfig_ok ()

theorem not_of_refuseIf {bad : Prop} [Decidable bad] {msg : String} {passed : Unit}
    (ok : refuseIf bad msg = .ok passed) : ¬ bad := by
  intro holds
  rw [refuseIf, if_pos holds] at ok
  cases ok

theorem refusesByConfig_hexNibble (b : UInt8) (field : String) :
    RefusesByConfig (hexNibble b field) := by
  unfold hexNibble
  split_ifs
  · exact refusesByConfig_ok _
  · exact refusesByConfig_ok _
  · exact refusesByConfig_ok _
  · exact refusesByConfig_error _

theorem refusesByConfig_hexPairs (field : String) (raw : Bytes) :
    RefusesByConfig (hexPairs field raw) := by
  fun_induction hexPairs field raw with
  | case1 hi lo rest ih =>
    refine (refusesByConfig_hexNibble hi field).bind fun _ => ?_
    refine (refusesByConfig_hexNibble lo field).bind fun _ => ?_
    exact ih.bind fun _ => refusesByConfig_ok _
  | case2 => exact refusesByConfig_ok []

theorem refusesByConfig_hexTo32 (s field : String) : RefusesByConfig (hexTo32 s field) := by
  simp only [hexTo32]
  split
  · exact refusesByConfig_error _
  · exact (refusesByConfig_hexPairs field _).map _

theorem refusesByConfig_hexToVec (s field : String) : RefusesByConfig (hexToVec s field) := by
  simp only [hexToVec]
  split
  · exact refusesByConfig_error _
  · exact refusesByConfig_hexPairs field _

theorem refusesByConfig_optional (s : Option String) (field : String) :
    RefusesByConfig (match s with
      | none => .ok none
      | some s => (hexToVec s field).map some) := by
  cases s with
  | none => exact refusesByConfig_ok none
  | some s => exact (refusesByConfig_hexToVec s field).map some

end Checks

variable {config : AppConfig}

/-- **Every refusal of the loader is a configuration error.** -/
theorem validate_error : RefusesByConfig config.validate := by
  have mldsa : RefusesByConfig config.checkMldsa := by
    unfold checkMldsa
    split
    · exact (refusesByConfig_optional _ _).bind fun _ =>
        (refusesByConfig_optional _ _).bind fun _ => refusesByConfig_ok ()
    · exact (refusesByConfig_optional _ _).bind fun _ =>
        (refusesByConfig_optional _ _).bind fun _ => refusesByConfig_ok ()
    · exact refusesByConfig_error _
  have psk : RefusesByConfig config.checkPsk := by
    refine (refusesByConfig_optional _ _).bind fun secret => ?_
    cases secret with
    | none => exact refusesByConfig_ok ()
    | some secret => exact refusesByConfig_refuseIf _ _
  refine (refusesByConfig_hexTo32 _ _).bind fun _ => (refusesByConfig_hexTo32 _ _).bind fun _ => ?_
  refine mldsa.bind fun _ => (refusesByConfig_refuseIf _ _).bind fun _ => ?_
  refine (refusesByConfig_refuseIf _ _).bind fun _ => (refusesByConfig_refuseIf _ _).bind fun _ => ?_
  refine (refusesByConfig_refuseIf _ _).bind fun _ => psk.bind fun _ => ?_
  exact (refusesByConfig_refuseIf _ _).bind fun _ => (refusesByConfig_refuseIf _ _).bind fun _ =>
    refusesByConfig_refuseIf _ _

/-- The secrets of a configuration can be read, and the two ML-DSA keys come together. -/
structure Readable (config : AppConfig) : Prop where
  seed : ∃ seed, config.identity.seedBytes = .ok seed
  peerPub : ∃ peerPub, config.identity.peerPubBytes = .ok peerPub
  mldsa : (config.identity.mldsaSecretBytes = .ok none ∧ config.identity.peerMldsaPubBytes = .ok none) ∨
    ∃ secret peerPub, config.identity.mldsaSecretBytes = .ok (some secret) ∧
      config.identity.peerMldsaPubBytes = .ok (some peerPub)
  psk : ∃ psk, config.obfuscation.pskBytes = .ok psk

theorem map_eq_ok {Value Next : Type} {read : Result Value} {f : Value → Next} {result : Next}
    (same : read.map f = .ok result) : ∃ value, result = f value := by
  cases read with
  | error e => cases same
  | ok value => exact ⟨value, (Except.ok.inj same).symm⟩

/-- **The secrets of an accepted configuration can be read.** -/
theorem readable_of_validate (accepted : config.validate = .ok ()) : config.Readable := by
  obtain ⟨seed, seedRead, accepted⟩ := bind_eq_ok accepted
  obtain ⟨peerPub, peerPubRead, accepted⟩ := bind_eq_ok accepted
  obtain ⟨_, mldsa, accepted⟩ := bind_eq_ok accepted
  obtain ⟨_, _, accepted⟩ := bind_eq_ok accepted
  obtain ⟨_, _, accepted⟩ := bind_eq_ok accepted
  obtain ⟨_, _, accepted⟩ := bind_eq_ok accepted
  obtain ⟨_, _, accepted⟩ := bind_eq_ok accepted
  obtain ⟨_, psk, -⟩ := bind_eq_ok accepted
  obtain ⟨psk, pskRead, -⟩ := bind_eq_ok psk
  refine ⟨⟨seed, seedRead⟩, ⟨peerPub, peerPubRead⟩, ?_, ⟨psk, pskRead⟩⟩
  unfold checkMldsa at mldsa
  split at mldsa
  · rename_i secretHex peerHex hasSecret hasPeer
    obtain ⟨secret, secretRead, mldsa⟩ := bind_eq_ok mldsa
    obtain ⟨peer, peerRead, -⟩ := bind_eq_ok mldsa
    right
    have secretSome := secretRead
    have peerSome := peerRead
    rw [IdentityConfig.mldsaSecretBytes, hasSecret] at secretSome
    rw [IdentityConfig.peerMldsaPubBytes, hasPeer] at peerSome
    obtain ⟨secret, rfl⟩ := map_eq_ok secretSome
    obtain ⟨peer, rfl⟩ := map_eq_ok peerSome
    exact ⟨secret, peer, secretRead, peerRead⟩
  · rename_i hasSecret hasPeer
    left
    rw [IdentityConfig.mldsaSecretBytes, IdentityConfig.peerMldsaPubBytes, hasSecret, hasPeer]
    exact ⟨rfl, rfl⟩
  · cases mldsa

/-- What every accepted configuration keeps about its sizes and its shaping. -/
structure Accepted (config : AppConfig) : Prop where
  mtuFloor : ¬ config.tun.mtu < 576
  mtuCap : config.obfuscation.enabled = true → ¬ safeTunMtu < config.tun.mtu
  fullTunnel : config.tun.routeAll = false → config.tun.killSwitch = false ∧ config.tun.dns = []
  handshake : config.obfuscation.handshake = true → config.obfuscation.enabled = true
  shaped : config.traffic.effective.enabled = true → config.obfuscation.enabled = true ∧
    ¬ config.traffic.effective.ratePps < 1 ∧ ¬ config.traffic.effective.burst < 1

/-- **An accepted configuration keeps the checked relations.** -/
theorem accepted_of_validate (accepted : config.validate = .ok ()) : config.Accepted := by
  obtain ⟨_, _, accepted⟩ := bind_eq_ok accepted
  obtain ⟨_, _, accepted⟩ := bind_eq_ok accepted
  obtain ⟨_, _, accepted⟩ := bind_eq_ok accepted
  obtain ⟨_, floor, accepted⟩ := bind_eq_ok accepted
  obtain ⟨_, cap, accepted⟩ := bind_eq_ok accepted
  obtain ⟨_, killSwitch, accepted⟩ := bind_eq_ok accepted
  obtain ⟨_, dns, accepted⟩ := bind_eq_ok accepted
  obtain ⟨_, _, accepted⟩ := bind_eq_ok accepted
  obtain ⟨_, handshake, accepted⟩ := bind_eq_ok accepted
  obtain ⟨_, shapedObf, shaped⟩ := bind_eq_ok accepted
  have killSwitch := not_of_refuseIf killSwitch
  have dns := not_of_refuseIf dns
  have handshake := not_of_refuseIf handshake
  have shapedObf := not_of_refuseIf shapedObf
  have shaped := not_of_refuseIf shaped
  refine ⟨not_of_refuseIf floor, fun on => ?_, fun split => ⟨?_, ?_⟩, fun on => ?_, fun on => ?_⟩
  · exact fun large => not_of_refuseIf cap ⟨on, large⟩
  · by_contra on
    exact killSwitch ⟨Bool.eq_true_of_not_eq_false on, split⟩
  · by_contra some
    exact dns ⟨some, split⟩
  · by_contra off
    exact handshake ⟨on, Bool.eq_false_of_not_eq_true off⟩
  · refine ⟨?_, fun low => shaped ⟨on, Or.inl low⟩, fun low => shaped ⟨on, Or.inr low⟩⟩
    by_contra off
    exact shapedObf ⟨on, Bool.eq_false_of_not_eq_true off⟩

end AppConfig

end ChameleonPQ
