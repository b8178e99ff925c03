/-
**A generated pair connects (`setup.rs`, `client.rs`, `main.rs`, `net.rs`).**

What `init` writes, from the files on disk to the packets in the tunnel.

* `buildAuth_identityOf`, `hsObfKey_obfuscationOf` — what a generated configuration is made into at a start.
* `CarriesPackets` — every packet the MTU admits gets through from one session to the other, in any order.
* `ReadBack` — the datagrams of a handshake message are read as the message, in any order.
* `init_connects` — after an `init` that succeeds, both ends start from their files, the handshake completes, with or
  without a cookie round, and the tunnel carries every admitted packet both ways.
-/

import ChameleonPQ.Server.MatchedPair
import ChameleonPQ.Session.Engine
import ChameleonPQ.Transport.Envelope

namespace ChameleonPQ

open Library Library.Paths

/-- The ML-DSA crate takes back a key pair it made. -/
def MlDsaKeys.Takes (keys : MlDsaKeys) (prims : Primitives) (secret : Bytes) : Prop :=
  keys.secretKeyFromBytes secret = true ∧ keys.publicKeyFromBytes (prims.mldsaPublic secret) = true

/-- **The sealer's packets get through**: every packet that the configuration admits is sealed at every counter,
and opens wherever the opener has not seen the counter. -/
def CarriesPackets (prims : Primitives) (config : AppConfig) (sealer opener : Session) : Prop :=
  ∀ (packet : Bytes) (counter : Nat) (noise : Nat → UInt8) (window : ReplayWindow),
    packet.length ≤ config.tun.mtu.toNat → counter < 2 ^ 64 → window.check counter = .ok () →
      ∃ datagram, sealer.sealObfCore prims counter FrameType.data.asU8 packet
          config.obfuscation.padding.toPadPolicy noise = .ok datagram ∧
        datagram.length ≤ Obf.mtuWire ∧
        (Session.tryOpenObf prims { opener with replay := window } datagram).1 = .ok (some (.data, packet))

/-- **A message is read back**: there are datagrams for it, and in whatever order they arrive, the last one completes
it and the others nothing. -/
def ReadBack (prims : Primitives) (hsObf : Option (Octets 32)) (wire : Bytes) : Prop :=
  ∀ (sessionId : UInt32) (envelope : HsObf.SealCoins), ∃ datagrams,
    buildHandshakeDatagrams prims sessionId wire hsObf envelope = .ok datagrams ∧
    ∀ (order : List Nat) (clock : Nat → Nat), order.Perm (List.range datagrams.length) →
      ∃ front now raw middle after,
        (order.map fun index => (clock index, datagrams.getD index [])) = front ++ [(now, raw)] ∧
        receiveAll (receiveFragment prims hsObf) .new front = (front.map fun _ => .ok none, middle) ∧
        pushHandshake prims middle now raw hsObf = (.ok (some wire), after)

section Start

variable {prims : Primitives} {keys : MlDsaKeys}

theorem buildAuth_identityOf {config : AppConfig} {own peer : KeyMat} (identity : config.identity = identityOf own peer)
    (secret : keys.secretKeyFromBytes own.mldsaSk = true) (peerPub : keys.publicKeyFromBytes peer.mldsaPub = true) :
    buildAuth keys config =
      .ok (.hybrid [.ed25519 own.edSeed.bytes peer.edPub, .mlDsa own.mldsaSk peer.mldsaPub]) := by
  have leg : AuthLeg.fromKeys keys own.mldsaSk peer.mldsaPub = .ok (.mlDsa own.mldsaSk peer.mldsaPub) := by
    unfold AuthLeg.fromKeys
    rw [secret, peerPub]
    rfl
  simp only [buildAuth, identity, seedBytes_identityOf, peerPubBytes_identityOf, mldsaSecretBytes_identityOf,
    peerMldsaPubBytes_identityOf]
  show (AuthLeg.fromKeys keys own.mldsaSk peer.mldsaPub).map _ = _
  rw [leg]
  rfl

/-- **One key for both**: it is derived from the shared secret alone. -/
theorem hsObfKey_obfuscationOf {config : AppConfig} {own peer : KeyMat} {pair : PairKeys}
    (identity : config.identity = identityOf own peer) (obfuscation : config.obfuscation = obfuscationOf pair) :
    hsObfKey prims config = .ok (some (prims.hkdfSha256 (ascii "Chameleon-PQ-v1-hs-obf") pair.psk.bytes
      (ascii "handshake obfuscation key"))) := by
  unfold hsObfKey
  rw [obfuscation, if_neg (show ¬ (obfuscationOf pair).handshake = false from nofun), identity, seedBytes_identityOf,
    peerPubBytes_identityOf, pskBytes_obfuscationOf]
  rfl

/-- **What one session seals gets through to its partner.** -/
theorem carriesPackets_of_opens (aead : prims.AeadCorrect) (seals : prims.ChachaSeals) {config : AppConfig}
    (accepted : config.validate = .ok ()) (obfuscated : config.obfuscation.enabled = true) {sealer opener : Session}
    (opens : Session.Opens sealer opener) :
    CarriesPackets prims config sealer opener := by
  intro packet counter noise window admitted small fresh
  have short : packet.length ≤ 65535 := admitted.trans (Nat.le_of_lt_succ config.tun.mtu.toNat_lt)
  have framed := CryptoEngine.fits_of_accepted (AppConfig.accepted_of_validate accepted) sealer.algo
    (.inl obfuscated) admitted
  rw [CryptoEngine.Fits, if_pos (show (CryptoEngine.ofConfig config).obfEnabled = true from obfuscated)] at framed
  obtain ⟨datagram, sealed, size⟩ := (Session.sealed_obf_iff aead seals opens.aeadAlgo counter
    FrameType.data.asU8 packet config.obfuscation.padding.toPadPolicy noise).mpr framed
  have opens' : Session.Opens sealer { opener with replay := window } :=
    opens.of_static rfl rfl
  exact ⟨datagram, sealed, size,
    congrArg Prod.fst (Session.tryOpenObf_sealed aead opens' small fresh short sealed)⟩

/-- **A message is read back**, whatever it is. -/
theorem readBack_of_long (aead : prims.AeadCorrect) (seals : prims.ChachaSeals) (hsObf : Option (Octets 32))
    {wire : Bytes} (long : wire.length = handshakeMsgLen) : ReadBack prims hsObf wire := by
  intro sessionId envelope
  obtain ⟨datagrams, built⟩ := build_exists seals sessionId hsObf envelope long
  refine ⟨datagrams, built, fun order clock all => ?_⟩
  obtain ⟨front, now, raw, middle, after, arrivals, nothing, last, -⟩ :=
    built_arrives aead long built Reassembler.bounded_new rfl (by decide) all clock
  exact ⟨front, now, raw, middle, after, arrivals, nothing, last⟩

/-- **Partners complete a handshake**, with or without a cookie round. -/
theorem partners_complete (exchange : prims.KeyExchangeCorrect) (signatures : prims.SignatureCorrect)
    {initiator responder : Authenticator} (cross : Authenticator.Cross prims initiator responder)
    (fits : initiator.signatureLen prims ≤ 6923) (preferred preferred' : AeadAlgo) {start : StartCoins}
    {respondCoins : RespondCoins} (confirmCoins : ConfirmCoins) (contributory : Handshake.nonContributory
      (prims.diffieHellman respondCoins.ephX (prims.x25519Public start.ephX)) = false) :
    ∃ sentInit initWire, Handshake.start prims initiator preferred start = .ok (sentInit, initWire) ∧
      initWire.length = handshakeMsgLen ∧ ∀ delivered, Handshake.InitDelivery initWire delivered →
        ∃ answered respWire theirs confirmWire ours,
          Handshake.respond prims delivered responder preferred' respondCoins = .ok (answered, respWire) ∧
          Handshake.finalize prims sentInit respWire initiator confirmCoins =
            .ok (.established theirs, confirmWire) ∧
          Handshake.confirm prims answered confirmWire responder = .ok (.established ours) ∧
          (delivered.length = handshakeMsgLen ∧ respWire.length = handshakeMsgLen ∧
            confirmWire.length = handshakeMsgLen) ∧
          Session.Opens theirs ours ∧ Session.Opens ours theirs := by
  obtain ⟨initWire, encoded⟩ := Handshake.encode_exists
    ((Handshake.length_initMessage_sig initiator preferred start).le.trans fits) start.padNoise
  refine ⟨_, initWire, Handshake.start_eq_ok_iff.mpr ⟨encoded, rfl⟩, HandshakeMessage.length_of_encode encoded, ?_⟩
  intro delivered delivery
  obtain ⟨cookie, decoded⟩ := Handshake.decode_delivery encoded delivery
  obtain ⟨view, respWire, confirmWire, -, -, answered, responded, finalized, confirms, confirmed⟩ :=
    Handshake.honest_exchange exchange signatures cross fits preferred' confirmCoins contributory decoded
  exact ⟨_, respWire, _, confirmWire, _, responded, finalized, confirmed,
    ⟨HandshakeMessage.length_of_decode decoded, HandshakeMessage.length_of_decode answered,
      HandshakeMessage.length_of_decode confirms⟩,
    Handshake.opens_views rfl rfl true, Handshake.opens_views rfl rfl false⟩

end Start

/-! ### From `init` to the tunnel -/

/-- A pair is made of what was drawn for it. -/
theorem draws_of_generated {toml : TomlReader} {prims : Primitives} {args : InitArgs}
    {line : Except IoError (List Char)} {draws : PairDraws} {pair : GeneratedPair toml prims}
    (generated : args.generated toml prims line draws = .ok pair) : pair.draws = draws := by
  unfold InitArgs.generated at generated
  split at generated
  · cases generated
  · unfold generate at generated
    split at generated
    · cases generated
    · cases generated
    · rw [← Except.ok.inj generated]

/-- What the two ends of a pair of configurations are started with. -/
structure StartsFrom (keys : MlDsaKeys) (prims : Primitives) (server client : AppConfig)
    (serverAuth clientAuth : Authenticator) (hsObf : Option (Octets 32)) : Prop where
  serverAuth : buildAuth keys server = .ok serverAuth
  clientAuth : buildAuth keys client = .ok clientAuth
  serverKey : hsObfKey prims server = .ok hsObf
  clientKey : hsObfKey prims client = .ok hsObf

/-- **A generated pair connects.** After an `init` that succeeds, whatever was on disk, both files are loaded, and
both ends are started from them with authenticators and one key for the envelope. Whatever the two ends draw for a
handshake, as long as the exchange is contributory:

* the client starts it, the server answers the Init as it was sent or after a cookie round, the client accepts the
  Response and the server the Confirm;
* each message is read back from its datagrams, in any order of them;
* every packet that the configurations admit gets through the tunnel both ways. -/
theorem init_connects {toml : TomlReader} {prims : Primitives} (reads : ReadsPair toml) (keys : MlDsaKeys)
    (aead : prims.AeadCorrect) (seals : prims.ChachaSeals) (exchange : prims.KeyExchangeCorrect)
    (signatures : prims.SignatureCorrect) (room : ed25519SigLen + prims.mldsaSignatureBytes ≤ 6923)
    (args : InitArgs) (line : Except IoError (List Char)) (draws : PairDraws) (faults : InitFaults)
    (before : PairFiles) (serverTaken : keys.Takes prims draws.serverMldsa)
    (clientTaken : keys.Takes prims draws.clientMldsa)
    (ok : (runInit toml prims args line draws faults before).1 = .ok ()) :
    ∃ server client serverAuth clientAuth hsObf,
      loadConfig toml args.paths.server (runInit toml prims args line draws faults before).2.server = .ok server ∧
      loadConfig toml args.paths.client (runInit toml prims args line draws faults before).2.client = .ok client ∧
      StartsFrom keys prims server.toAppConfig client.toAppConfig serverAuth clientAuth hsObf ∧
      ∀ (preferred preferred' : AeadAlgo) (start : StartCoins) (respondCoins : RespondCoins)
        (confirmCoins : ConfirmCoins), Handshake.nonContributory
            (prims.diffieHellman respondCoins.ephX (prims.x25519Public start.ephX)) = false →
        ∃ sentInit initWire, Handshake.start prims clientAuth preferred start = .ok (sentInit, initWire) ∧
          ∀ delivered, Handshake.InitDelivery initWire delivered →
            ∃ answered respWire theirs confirmWire ours,
              Handshake.respond prims delivered serverAuth preferred' respondCoins = .ok (answered, respWire) ∧
              Handshake.finalize prims sentInit respWire clientAuth confirmCoins =
                .ok (.established theirs, confirmWire) ∧
              Handshake.confirm prims answered confirmWire serverAuth = .ok (.established ours) ∧
              (∀ wire, wire = initWire ∨ wire = delivered ∨ wire = respWire ∨ wire = confirmWire →
                ReadBack prims hsObf wire) ∧
              CarriesPackets prims client.toAppConfig theirs ours ∧
              CarriesPackets prims server.toAppConfig ours theirs := by
  obtain ⟨pair, drawn, onDisk⟩ : ∃ pair : GeneratedPair toml prims, pair.draws = draws ∧
      pair.OnDisk (runInit toml prims args line draws faults before).2 := by
    unfold runInit at ok ⊢
    split at ok
    · cases ok
    · rename_i pair generated
      exact ⟨pair, draws_of_generated generated, (writePair_left args.paths pair).onDisk ok⟩
  subst drawn
  obtain ⟨serverRead, clientRead⟩ := reads pair.params (pair.draws.keys prims) pair.wellFormed
  have serverAccepted := (isOk_fromTomlStr_iff serverRead).mp pair.serverPasses
  have clientAccepted := (isOk_fromTomlStr_iff clientRead).mp pair.clientPasses
  let server := serverFile pair.params (pair.draws.keys prims)
  let client := clientFile pair.params (pair.draws.keys prims)
  -- what a start makes of either file
  have starts : StartsFrom keys prims server.toAppConfig client.toAppConfig _ _ _ :=
    ⟨buildAuth_identityOf rfl serverTaken.1 clientTaken.2, buildAuth_identityOf rfl clientTaken.1 serverTaken.2,
      hsObfKey_obfuscationOf rfl rfl, hsObfKey_obfuscationOf rfl rfl⟩
  refine ⟨server, client, _, _, _, ?_, ?_, starts, ?_⟩
  · rw [loadConfig_of_content onDisk.server]
    exact fromTomlStr_of_passes serverRead pair.serverPasses
  · rw [loadConfig_of_content onDisk.client]
    exact fromTomlStr_of_passes clientRead pair.clientPasses
  intro preferred preferred' start respondCoins confirmCoins contributory
  obtain ⟨sentInit, initWire, started, long, completes⟩ := partners_complete exchange signatures
    (.hybrid (.cons (.ed25519 _ _) (.cons (.mlDsa _ _) .nil))) ((Nat.add_zero _).le.trans room) preferred preferred'
    confirmCoins contributory
  refine ⟨sentInit, initWire, started, fun delivered delivery => ?_⟩
  obtain ⟨answered, respWire, theirs, confirmWire, ours, responded, finalized, confirmed, lengths, opens, opened⟩ :=
    completes delivered delivery
  refine ⟨answered, respWire, theirs, confirmWire, ours, responded, finalized, confirmed, fun wire sent => ?_,
    carriesPackets_of_opens aead seals clientAccepted rfl opens,
    carriesPackets_of_opens aead seals serverAccepted rfl opened⟩
  rcases sent with rfl | rfl | rfl | rfl
  · exact readBack_of_long aead seals _ long
  · exact readBack_of_long aead seals _ lengths.1
  · exact readBack_of_long aead seals _ lengths.2.1
  · exact readBack_of_long aead seals _ lengths.2.2

/-- The sample pair, written to an empty disk. -/
theorem init_connects_sample : ∃ server client theirs ours,
    loadConfig readConfig sampleInitArgs.paths.server
        (runInit readConfig .transparent sampleInitArgs (.error notFound) sampleDraws ⟨none, none⟩ emptyDisk).2.server =
      .ok server ∧
    loadConfig readConfig sampleInitArgs.paths.client
        (runInit readConfig .transparent sampleInitArgs (.error notFound) sampleDraws ⟨none, none⟩ emptyDisk).2.client =
      .ok client ∧
    CarriesPackets .transparent client.toAppConfig theirs ours ∧
      CarriesPackets .transparent server.toAppConfig ours theirs := by
  have ok : (runInit readConfig .transparent sampleInitArgs (.error notFound) sampleDraws ⟨none, none⟩
      emptyDisk).1 = .ok () := by
    obtain ⟨pair, generated⟩ := sampleInitArgs_generated
    rw [runInit, generated]
    rfl
  have room : ed25519SigLen + Primitives.transparent.mldsaSignatureBytes ≤ 6923 := by decide
  obtain ⟨server, client, _, _, _, serverLoaded, clientLoaded, -, connects⟩ := init_connects readConfig_readsPair
    ⟨fun _ => true, fun _ => true⟩ Primitives.transparent_aeadCorrect Primitives.transparent_chachaSeals
    Primitives.transparent_keyExchangeCorrect Primitives.transparent_signatureCorrect room sampleInitArgs
    (.error notFound) sampleDraws ⟨none, none⟩ emptyDisk ⟨rfl, rfl⟩ ⟨rfl, rfl⟩ ok
  obtain ⟨_, initWire, -, answers⟩ := connects .aegis256X2 .aegis256X2 Handshake.sampleStart Handshake.sampleRespond
    Handshake.sampleConfirm Handshake.sample_contributory
  obtain ⟨_, _, theirs, _, ours, -, -, -, -, carries, carried⟩ := answers initWire .asSent
  exact ⟨server, client, theirs, ours, serverLoaded, clientLoaded, carries, carried⟩

end ChameleonPQ
