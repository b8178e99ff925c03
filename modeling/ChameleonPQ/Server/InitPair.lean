/-
**The generated pair of configurations (`setup.rs`).**

* `hexText` — the hex text of some octets; `hexTo32_hexText` and `hexToVec_hexText`, the loader reads it back.
* `buildPair` — a server's and a client's configuration with each other's keys and one shared secret.
* `buildPair_accepted_iff` — the loader takes both exactly when the MTU is one it takes, whatever the keys are.

A configuration is the parsed file. The fields the text leaves out have the loader's defaults.
-/

import ChameleonPQ.Config
import ChameleonPQ.Library.IpText
import ChameleonPQ.Net.Drivers

namespace ChameleonPQ

open Library Library.IpText

/-! ### Hex text -/

/-- The two digits of `{b:02x}`. -/
def hexByte (b : UInt8) : List Char := [Nat.digitChar (b.toNat / 16), Nat.digitChar (b.toNat % 16)]

/-- `hex`. -/
def hexText (bytes : Bytes) : String := String.ofList (bytes.flatMap hexByte)

/-- The code of a hex digit. -/
def digitCode (digit : Nat) : UInt8 := if digit < 10 then 0x30 + UInt8.ofNat digit else 0x57 + UInt8.ofNat digit

theorem utf8EncodeChar_digitChar : ∀ digit < 16,
    String.utf8EncodeChar (Nat.digitChar digit) = [digitCode digit] := by decide

theorem isWhitespace_digitChar : ∀ digit < 16, isWhitespace (Nat.digitChar digit) = false := by decide

theorem hexNibble_digitCode (field : String) {digit : Nat} (small : digit < 16) :
    hexNibble (digitCode digit) field = .ok (UInt8.ofNat digit) := by
  have decimal : ∀ digit < 16, (0x30 ≤ digitCode digit ∧ digitCode digit ≤ 0x39 ∧
      digitCode digit - 0x30 = UInt8.ofNat digit) ∨
      (¬ (0x30 ≤ digitCode digit ∧ digitCode digit ≤ 0x39) ∧ 0x61 ≤ digitCode digit ∧ digitCode digit ≤ 0x66 ∧
        digitCode digit - 0x61 + 10 = UInt8.ofNat digit) := by decide
  unfold hexNibble
  rcases decimal digit small with ⟨low, high, value⟩ | ⟨letter, low, high, value⟩
  · rw [if_pos ⟨low, high⟩, value]
  · rw [if_neg letter, if_pos ⟨low, high⟩, value]

/-- The codes of a hex text. -/
def hexCodes (bytes : Bytes) : Bytes := bytes.flatMap fun b => [digitCode (b.toNat / 16), digitCode (b.toNat % 16)]

theorem halves_small (b : UInt8) : b.toNat / 16 < 16 ∧ b.toNat % 16 < 16 := by
  have := b.toNat_lt
  omega

/-- Nothing of a hex text is trimmed. -/
theorem trimmedBytes_hexText (bytes : Bytes) : trimmedBytes (hexText bytes) = hexCodes bytes := by
  have plain : ∀ c ∈ bytes.flatMap hexByte, isWhitespace c = false := by
    intro c member
    obtain ⟨b, -, digit⟩ := List.mem_flatMap.mp member
    rcases List.mem_pair.mp digit with rfl | rfl
    · exact isWhitespace_digitChar _ (halves_small b).1
    · exact isWhitespace_digitChar _ (halves_small b).2
  have untouched : ∀ text : List Char, (∀ c ∈ text, isWhitespace c = false) →
      text.dropWhile isWhitespace = text := by
    intro text plain
    cases text with
    | nil => rfl
    | cons c rest => exact List.dropWhile_cons_of_neg (by rw [plain c List.mem_cons_self]; decide)
  have codes : (bytes.flatMap hexByte).flatMap String.utf8EncodeChar = hexCodes bytes := by
    rw [List.flatMap_assoc, hexCodes]
    refine List.flatMap_congr fun b _ => ?_
    simp only [hexByte, List.flatMap_cons, List.flatMap_nil, utf8EncodeChar_digitChar _ (halves_small b).1,
      utf8EncodeChar_digitChar _ (halves_small b).2, List.append_nil, List.singleton_append]
  rw [trimmedBytes, hexText, String.toList_ofList, untouched _ plain,
    untouched _ fun c member => plain c (List.mem_reverse.mp member), List.reverse_reverse, codes]

theorem length_hexCodes (bytes : Bytes) : (hexCodes bytes).length = 2 * bytes.length := by
  induction bytes with
  | nil => rfl
  | cons b rest ih =>
    rw [hexCodes, List.flatMap_cons, List.length_append, ← hexCodes, ih, List.length_cons]
    simp only [List.length_cons, List.length_nil]
    omega

theorem nibbles_join (b : UInt8) : UInt8.ofNat (b.toNat / 16) <<< 4 ||| UInt8.ofNat (b.toNat % 16) = b := by
  have joined : ∀ b : Fin 256,
      UInt8.ofNat (b.val / 16) <<< 4 ||| UInt8.ofNat (b.val % 16) = UInt8.ofNat b.val := by decide +kernel
  exact (joined ⟨b.toNat, b.toNat_lt⟩).trans UInt8.ofNat_toNat

/-- **The loader reads a hex text back.** -/
theorem hexPairs_hexCodes (field : String) (bytes : Bytes) : hexPairs field (hexCodes bytes) = .ok bytes := by
  induction bytes with
  | nil => rfl
  | cons b rest ih =>
    show hexPairs field (digitCode (b.toNat / 16) :: digitCode (b.toNat % 16) :: hexCodes rest) = .ok (b :: rest)
    rw [hexPairs, hexNibble_digitCode field (halves_small b).1, hexNibble_digitCode field (halves_small b).2, ih]
    exact congrArg (fun first => Except.ok (first :: rest)) (nibbles_join b)

theorem hexToVec_hexText (bytes : Bytes) (field : String) : hexToVec (hexText bytes) field = .ok bytes := by
  have even : ¬ (hexCodes bytes).length % 2 ≠ 0 := by
    rw [length_hexCodes]
    omega
  simp only [hexToVec, trimmedBytes_hexText]
  rw [if_neg even]
  exact hexPairs_hexCodes field bytes

theorem hexTo32_hexText (octets : Octets 32) (field : String) :
    hexTo32 (hexText octets.bytes) field = .ok (.fill 32 octets.bytes) := by
  have length : ¬ (hexCodes octets.bytes).length ≠ 64 := by
    rw [length_hexCodes, octets.length_eq]
    decide
  simp only [hexTo32, trimmedBytes_hexText]
  rw [if_neg length, hexPairs_hexCodes]
  rfl

/-! ### The pair -/

/-- `KeyMat`: one node's fresh identity, as the octets its hex texts are of. -/
structure KeyMat where
  edSeed : Octets 32
  edPub : Octets 32
  mldsaSk : Bytes
  mldsaPub : Bytes

/-- What `init_pair` draws: two identities and the shared secret. -/
structure PairKeys where
  server : KeyMat
  client : KeyMat
  psk : Octets 32

/-- `PairParams`. -/
structure PairParams where
  serverAddr : SocketAddr
  bindAddr : SocketAddr
  tunNet : Octets 3
  mtu : UInt16
  fullTunnel : Bool
  killSwitch : Bool
  profile : TrafficProfile

/-- A configuration file with the addresses of its `[network]` and `[tun]` sections. -/
structure ConfigFile extends AppConfig where
  bindAddr : SocketAddr := ⟨[0, 0, 0, 0], 51820⟩
  serverAddr : Option SocketAddr := none
  address : String := "10.99.0.1"
  netmask : String := "255.255.255.0"

/-- The address with this last octet in the `/24` network. -/
def tunAddress (tunNet : Octets 3) (last : UInt8) : String := String.ofList (ipv4Text (tunNet.bytes ++ [last]))

section Pair

variable (params : PairParams) (keys : PairKeys)

/-- The keys of a node, and its peer's. -/
def identityOf (own peer : KeyMat) : IdentityConfig where
  ed25519SeedHex := hexText own.edSeed.bytes
  peerEd25519PubHex := hexText peer.edPub.bytes
  mldsaSecretHex := some (hexText own.mldsaSk)
  peerMldsaPubHex := some (hexText peer.mldsaPub)

/-- Both configurations have one `[obfuscation]` section. -/
def obfuscationOf : ObfuscationConfig where
  enabled := true
  padding := .bucketed
  handshake := true
  pskHex := some (hexText keys.psk.bytes)

/-- Both configurations have one `[traffic]` section. -/
def trafficOf : TrafficConfig where
  profile := params.profile
  enabled := true
  mode := .adaptive
  ratePps := 256
  burst := 2
  cooldownMs := 500
  coverBudgetPackets := 64
  coverRatio := 0.25

/-- The server trusts the client's public keys; it binds and forwards. -/
def serverFile : ConfigFile where
  identity := identityOf keys.server keys.client
  tun := { name := "chameleon0", mtu := params.mtu, routeAll := false, killSwitch := false, dns := [] }
  obfuscation := obfuscationOf keys
  traffic := trafficOf params
  bindAddr := params.bindAddr
  address := tunAddress params.tunNet 1
  netmask := "255.255.255.0"

/-- The client trusts the server's; for a full tunnel it routes everything through the server. -/
def clientFile : ConfigFile where
  identity := identityOf keys.client keys.server
  tun :=
    { name := "chameleon0", mtu := params.mtu, routeAll := params.fullTunnel
      peerAddress := some (tunAddress params.tunNet 1)
      killSwitch := params.fullTunnel && params.killSwitch, dns := [] }
  obfuscation := obfuscationOf keys
  traffic := trafficOf params
  serverAddr := some params.serverAddr
  address := tunAddress params.tunNet 2
  netmask := "255.255.255.0"

/-- `build_pair`. -/
def buildPair : ConfigFile × ConfigFile := (serverFile params keys, clientFile params keys)

end Pair

/-! ### The loader takes the pair -/

theorem refuseIf_eq_ok_iff {bad : Prop} [Decidable bad] {msg : String} : refuseIf bad msg = .ok () ↔ ¬ bad := by
  unfold refuseIf
  split
  · exact ⟨(nomatch ·), fun fine => absurd ‹bad› fine⟩
  · exact ⟨fun _ => ‹¬ bad›, fun _ => rfl⟩

theorem refuseIf_bind_eq_ok_iff {bad : Prop} [Decidable bad] {msg : String} {rest : Unit → Result Unit} :
    (refuseIf bad msg >>= rest) = .ok () ↔ ¬ bad ∧ rest () = .ok () := by
  unfold refuseIf
  split
  · exact ⟨(nomatch ·), fun fine => absurd ‹bad› fine.1⟩
  · exact ⟨fun passed => ⟨‹¬ bad›, passed⟩, fun fine => fine.2⟩

/-- No profile of the generated traffic section has a rate or a burst of zero. -/
theorem effective_positive (params : PairParams) :
    ¬ ((trafficOf params).effective.ratePps < 1 ∨ (trafficOf params).effective.burst < 1) := by
  unfold trafficOf TrafficConfig.effective
  cases params.profile <;> decide

/-- **What is left to check of a generated configuration** is its MTU: its keys are read back, both ML-DSA
keys are there, and its secret is long enough. -/
theorem validate_eq_ok_iff {config : AppConfig} {own peer : KeyMat} {keys : PairKeys} {params : PairParams}
    (identity : config.identity = identityOf own peer) (obfuscation : config.obfuscation = obfuscationOf keys)
    (traffic : config.traffic = trafficOf params) (dns : config.tun.dns = [])
    (killSwitch : config.tun.killSwitch = true → config.tun.routeAll = true) :
    config.validate = .ok () ↔ 576 ≤ config.tun.mtu ∧ config.tun.mtu ≤ safeTunMtu := by
  have seed : config.identity.seedBytes = .ok (.fill 32 own.edSeed.bytes) := by
    rw [identity]
    exact hexTo32_hexText own.edSeed _
  have peerPub : config.identity.peerPubBytes = .ok (.fill 32 peer.edPub.bytes) := by
    rw [identity]
    exact hexTo32_hexText peer.edPub _
  have mldsa : config.checkMldsa = .ok () := by
    simp only [AppConfig.checkMldsa, identity, identityOf, IdentityConfig.mldsaSecretBytes,
      IdentityConfig.peerMldsaPubBytes, hexToVec_hexText]
    rfl
  have psk : config.checkPsk = .ok () := by
    have long : ¬ keys.psk.bytes.length < 16 := by
      rw [keys.psk.length_eq]
      decide
    simp only [AppConfig.checkPsk, obfuscation, obfuscationOf, ObfuscationConfig.pskBytes, hexToVec_hexText]
    exact refuseIf_eq_ok_iff.mpr long
  have enabled : config.obfuscation.enabled = true := by rw [obfuscation]; rfl
  have passes : ∀ {Value : Type} (value : Value) (rest : Value → Result Unit),
      ((.ok value : Result Value) >>= rest) = rest value := fun _ _ => rfl
  unfold AppConfig.validate
  rw [seed, peerPub, mldsa, psk, traffic, enabled]
  simp only [passes, refuseIf_bind_eq_ok_iff, refuseIf_eq_ok_iff]
  have positive := effective_positive params
  constructor
  · rintro ⟨least, most, -⟩
    exact ⟨UInt16.not_lt.mp least, UInt16.not_lt.mp fun above => most ⟨trivial, above⟩⟩
  · rintro ⟨least, most⟩
    refine ⟨UInt16.not_lt.mpr least, fun above => absurd above.2 (UInt16.not_lt.mpr most), fun split => ?_,
      fun listed => listed.1 dns, ?_⟩
    · exact absurd (killSwitch split.1) (by rw [split.2]; decide)
    · exact ⟨fun off => absurd off.2 (by decide), fun off => absurd off.2 (by decide), fun zero => positive zero.2⟩

/-- **The loader takes a generated pair exactly when it takes the MTU**, whatever the keys are. -/
theorem buildPair_accepted_iff (params : PairParams) (keys : PairKeys) :
    ((buildPair params keys).1.validate = .ok () ∧ (buildPair params keys).2.validate = .ok ()) ↔
      576 ≤ params.mtu ∧ params.mtu ≤ safeTunMtu := by
  have server := @validate_eq_ok_iff (serverFile params keys).toAppConfig keys.server keys.client keys params
    rfl rfl rfl rfl (fun none => by cases none)
  have client := @validate_eq_ok_iff (clientFile params keys).toAppConfig keys.client keys.server keys params
    rfl rfl rfl rfl (fun both => (Bool.and_eq_true_iff.mp both).1)
  exact (and_congr server client).trans (and_self_iff)

end ChameleonPQ
