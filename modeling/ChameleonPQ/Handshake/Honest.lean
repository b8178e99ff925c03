/-
**The honest handshake completes.**

Two cross-configured parties, whatever random values they draw and whether or not the Init was resent
with a cookie: all four steps succeed through the wire codec (`honest_handshake`), both ends hold the
same session id and cipher, and each opens what the other seals.
-/

import ChameleonPQ.Crypto.Transparent
import ChameleonPQ.Handshake.Machine
import ChameleonPQ.Session.RoundTrip

namespace ChameleonPQ

open Library

/-- The random values of a CookieChallenge. -/
structure ChallengeCoins where
  xNoise : Nat → UInt8
  kemNoise : Nat → UInt8
  macNoise : Nat → UInt8
  padNoise : Nat → UInt8

namespace Handshake

/-- The CookieChallenge the responder sends. -/
def challengeWire (cookie : Octets 16) (coins : ChallengeCoins) : Result Bytes :=
  (HandshakeMessage.newCookieChallenge cookie coins.xNoise coins.kemNoise coins.macNoise).encode
    coins.padNoise

/-- What the initiator makes of a CookieChallenge: its own Init again, with the cookie echoed. -/
def echoCookie (initWire challenge : Bytes) (padNoise : Nat → UInt8) : Result Bytes :=
  match HandshakeMessage.decode challenge with
  | .error e => .error e
  | .ok ch =>
    match HandshakeMessage.decode initWire with
    | .error e => .error e
    | .ok message => { message with cookie := ch.cookie }.encode padNoise

/-- The Init as it may reach the responder: as sent, or resent after a CookieChallenge. -/
inductive InitDelivery (initWire : Bytes) : Bytes → Prop
  | asSent : InitDelivery initWire initWire
  | resent (cookie : Octets 16) (coins : ChallengeCoins) (padNoise : Nat → UInt8)
      (challenge delivered : Bytes) : challengeWire cookie coins = .ok challenge →
      echoCookie initWire challenge padNoise = .ok delivered → InitDelivery initWire delivered

variable {prims : Primitives} {initiator responder : Authenticator}

/-- Every message whose signature fits has an encoding. -/
theorem encode_exists {message : HandshakeMessage} (fits : message.sig.length ≤ 6923)
    (padNoise : Nat → UInt8) : ∃ wire, message.encode padNoise = .ok wire :=
  (HandshakeMessage.encode_ok_iff message padNoise).mpr fits

theorem length_initMessage_sig (auth : Authenticator) (preferred : AeadAlgo) (coins : StartCoins) :
    (initMessage prims auth preferred coins).sig.length = auth.signatureLen prims :=
  Octets.length_eq _

/-- A cookie round always succeeds, and its Init differs from the first one in the cookie only. -/
theorem decode_delivery {auth : Authenticator} {preferred : AeadAlgo} {coins : StartCoins}
    {initWire delivered : Bytes}
    (encoded : (initMessage prims auth preferred coins).encode coins.padNoise = .ok initWire)
    (delivery : InitDelivery initWire delivered) :
    ∃ cookie, HandshakeMessage.decode delivered =
      .ok { initMessage prims auth preferred coins with cookie } := by
  have original := HandshakeMessage.decode_encode rfl encoded
  cases delivery with
  | asSent => exact ⟨_, original⟩
  | resent cookie challengeCoins padNoise challenge delivered sent echoed =>
    have received := HandshakeMessage.decode_encode rfl sent
    simp only [echoCookie, received, original] at echoed
    exact ⟨cookie, HandshakeMessage.decode_encode rfl echoed⟩

/-- Every challenge can be answered by an Init that decodes. -/
theorem echoCookie_of_decode {initWire challenge : Bytes} {init received : HandshakeMessage}
    (own : HandshakeMessage.decode initWire = .ok init)
    (decoded : HandshakeMessage.decode challenge = .ok received) (padNoise : Nat → UInt8) :
    ∃ wire, echoCookie initWire challenge padNoise = .ok wire ∧ wire.length = handshakeMsgLen := by
  have fits : init.sig.length ≤ 6923 := HandshakeMessage.sig_length_of_decode own
  have fits : ({ init with cookie := received.cookie } : HandshakeMessage).sig.length ≤ 6923 := fits
  obtain ⟨wire, encoded⟩ := encode_exists fits padNoise
  refine ⟨wire, ?_, HandshakeMessage.length_of_encode encoded⟩
  simp only [echoCookie, decoded, own]
  exact encoded

/-- The cookie round succeeds whenever the signature fits. -/
theorem echoCookie_exists {auth : Authenticator} {preferred : AeadAlgo} {coins : StartCoins}
    {initWire : Bytes} (fits : auth.signatureLen prims ≤ 6923)
    (encoded : (initMessage prims auth preferred coins).encode coins.padNoise = .ok initWire)
    (cookie : Octets 16) (challengeCoins : ChallengeCoins) (padNoise : Nat → UInt8) :
    ∃ challenge delivered, challengeWire cookie challengeCoins = .ok challenge ∧
      echoCookie initWire challenge padNoise = .ok delivered := by
  have small : (HandshakeMessage.newCookieChallenge cookie challengeCoins.xNoise
      challengeCoins.kemNoise challengeCoins.macNoise).sig.length ≤ 6923 := Nat.zero_le _
  obtain ⟨challenge, sent⟩ := encode_exists small challengeCoins.padNoise
  have received := HandshakeMessage.decode_encode rfl sent
  have original := HandshakeMessage.decode_encode rfl encoded
  have sigLength : ({ initMessage prims auth preferred coins with cookie } :
      HandshakeMessage).sig.length ≤ 6923 := (length_initMessage_sig auth preferred coins).le.trans fits
  obtain ⟨delivered, echoed⟩ := encode_exists sigLength padNoise
  refine ⟨challenge, delivered, sent, ?_⟩
  simp only [echoCookie, received, original]
  exact echoed

/-- The responder's step on a delivered Init. -/
theorem honest_respond (fits : responder.signatureLen prims ≤ 6923) {preferred preferred' : AeadAlgo}
    {start : StartCoins} {coins : RespondCoins} {delivered : Bytes} {cookie : Octets 16}
    (valid : ∀ secret, prims.mlkemPublicKeyFromBytes (prims.mlkemPublic secret) =
      some (prims.mlkemPublic secret))
    (contributory :
      nonContributory (prims.diffieHellman coins.ephX (prims.x25519Public start.ephX)) = false)
    (decoded : HandshakeMessage.decode delivered =
      .ok { initMessage prims initiator preferred start with cookie }) :
    ∃ view wire, view.init = { initMessage prims initiator preferred start with cookie } ∧
      Responds prims responder preferred' coins view ∧ view.resp.encode coins.padNoise = .ok wire ∧
        respond prims delivered responder preferred' coins =
          .ok (.sentResponse (view.session prims false) (view.hash prims responder), wire) := by
  have knownKey : prims.mlkemPublicKeyFromBytes ({ initMessage prims initiator preferred start with
      cookie } : HandshakeMessage).kem = some (prims.mlkemPublic start.mlkemSk) := valid _
  -- the view is determined by the Init and the coins
  let init : HandshakeMessage := { initMessage prims initiator preferred start with cookie }
  let chosen := AeadAlgo.negotiate preferred' (peerPreference init.aeadAlgo)
  let encapsulated := prims.mlkemEncapsulate (prims.mlkemPublic start.mlkemSk) coins.encapsulation
  let shared := deriveShared prims (prims.diffieHellman coins.ephX init.x25519Pub) encapsulated.1
  let reply := HandshakeMessage.newResponse (prims.x25519Public coins.ephX) encapsulated.2
    (responder.signatureLen prims) chosen.asU8 coins.kemNoise
  let th := Exchange.hash prims responder ⟨init, reply⟩
  let resp : HandshakeMessage := { reply with
    sig := responder.sign prims (roleBoundHash prims sigLabelResponder th)
    mac := prims.hmacSha256 (macKeyFrom prims shared).bytes th.bytes }
  have responds : Responds prims responder preferred' coins ⟨⟨init, resp⟩, chosen, shared⟩ :=
    ⟨rfl, contributory, rfl, _, knownKey, rfl, rfl⟩
  have small : resp.sig.length ≤ 6923 := by
    show (responder.sign prims _).length ≤ 6923
    rw [Authenticator.length_sign]
    exact fits
  obtain ⟨wire, encoded⟩ := encode_exists small coins.padNoise
  exact ⟨_, wire, rfl, responds, encoded,
    respond_eq_ok_iff.mpr ⟨_, decoded, responds, encoded, rfl⟩⟩

/-- The initiator's view of the exchange a responder answered. -/
def mirrorView (init : HandshakeMessage) (view : View) : View := { view with init }

/-- Both ends build the same transcript: the cookie is not part of it and the identities bind alike. -/
theorem transcript_mirrorView (cross : Authenticator.Cross prims initiator responder)
    {init : HandshakeMessage} {cookie : Octets 16} {view : View}
    (viewInit : view.init = { init with cookie }) :
    (mirrorView init view).transcript prims initiator = view.transcript prims responder := by
  have binding := Authenticator.identityBinding_symm cross
  show (initTranscript prims initiator init).absorb _ =
    (initTranscript prims responder view.init).absorb _
  rw [initTranscript, initTranscript, binding, viewInit]
  rfl

theorem hash_mirrorView (cross : Authenticator.Cross prims initiator responder)
    {init : HandshakeMessage} {cookie : Octets 16} {view : View}
    (viewInit : view.init = { init with cookie }) :
    (mirrorView init view).hash prims initiator = view.hash prims responder := by
  rw [Exchange.hash, Exchange.hash, transcript_mirrorView cross viewInit]

/-- **The initiator accepts what the responder answered.** -/
theorem finalizes_mirrorView (keys : prims.KeyExchangeCorrect) (signatures : prims.SignatureCorrect)
    (cross : Authenticator.Cross prims initiator responder) {preferred preferred' : AeadAlgo}
    {start : StartCoins} {coins : RespondCoins} {cookie : Octets 16} {view : View}
    (responds : Responds prims responder preferred' coins view)
    (viewInit : view.init = { initMessage prims initiator preferred start with cookie }) :
    Finalizes prims initiator start.ephX start.mlkemSk
      (mirrorView (initMessage prims initiator preferred start) view) := by
  obtain ⟨pk, parsed, shared, resp⟩ := responds.reply
  have hash := hash_mirrorView cross viewInit
  have initX : view.init.x25519Pub = prims.x25519Public start.ephX := by rw [viewInit]; rfl
  have respX : view.resp.x25519Pub = prims.x25519Public coins.ephX := by rw [resp]; rfl
  have agreed := keys.diffieHellman_comm start.ephX coins.ephX
  have key : pk = prims.mlkemPublic start.mlkemSk := by
    rw [viewInit] at parsed
    exact (Option.some.inj ((keys.mlkemPublicKey_valid start.mlkemSk).symm.trans parsed)).symm
  have sent : view.resp.mlkemCt = (prims.mlkemEncapsulate pk coins.encapsulation).2 :=
    HandshakeMessage.mlkemCt_of_kem (by rw [resp]; rfl)
  have ciphertext : prims.mlkemCiphertextFromBytes view.resp.mlkemCt =
      some (prims.mlkemEncapsulate pk coins.encapsulation).2 := by
    rw [sent, key]
    exact keys.mlkemCiphertext_valid _ _
  have secret : view.shared = deriveShared prims (prims.diffieHellman start.ephX view.resp.x25519Pub)
      (prims.mlkemDecapsulate (prims.mlkemEncapsulate pk coins.encapsulation).2 start.mlkemSk) := by
    rw [shared, key, keys.mlkemDecapsulate_encapsulate, respX, agreed, initX]
  refine ⟨?_, ?_, ⟨_, ciphertext, secret⟩, ?_, ?_, ?_⟩
  · show view.resp.msgType = .response
    rw [resp]
    rfl
  · show nonContributory (prims.diffieHellman start.ephX view.resp.x25519Pub) = false
    rw [respX, agreed, ← initX]
    exact responds.contributory
  · rw [hash]
    show initiator.verify prims _ view.resp.sig = .ok ()
    rw [resp]
    exact Authenticator.verify_sign cross.symm signatures _
  · have tag : (mirrorView (initMessage prims initiator preferred start) view).tag prims initiator =
        view.tag prims responder := by
      rw [View.tag, View.tag, hash]
      rfl
    rw [tag]
    show view.tag prims responder = view.resp.mac
    rw [resp]
  · show AeadAlgo.fromU8 view.resp.aeadAlgo = .ok view.chosen
    rw [resp]
    exact AeadAlgo.fromU8_asU8 _

/-- **The three answers to a delivered Init**: the responder's, the initiator's, and the responder's
acceptance, with the views they leave. -/
theorem honest_exchange (keys : prims.KeyExchangeCorrect) (signatures : prims.SignatureCorrect)
    (cross : Authenticator.Cross prims initiator responder)
    (fits : initiator.signatureLen prims ≤ 6923) {preferred : AeadAlgo} (preferred' : AeadAlgo)
    {start : StartCoins} {respondCoins : RespondCoins} (confirmCoins : ConfirmCoins)
    {delivered : Bytes} {cookie : Octets 16}
    (contributory : nonContributory
      (prims.diffieHellman respondCoins.ephX (prims.x25519Public start.ephX)) = false)
    (decoded : HandshakeMessage.decode delivered =
      .ok { initMessage prims initiator preferred start with cookie }) :
    ∃ view respWire confirmWire,
      view.init = { initMessage prims initiator preferred start with cookie } ∧
      Responds prims responder preferred' respondCoins view ∧
      HandshakeMessage.decode respWire = .ok view.resp ∧
      respond prims delivered responder preferred' respondCoins =
        .ok (.sentResponse (view.session prims false) (view.hash prims responder), respWire) ∧
      finalize prims (.sentInit start.ephX start.mlkemSk
          (initTranscript prims initiator (initMessage prims initiator preferred start))) respWire
          initiator confirmCoins =
        .ok (.established ((mirrorView (initMessage prims initiator preferred start)
          view).session prims true), confirmWire) ∧
      HandshakeMessage.decode confirmWire = .ok ((mirrorView (initMessage prims initiator preferred
        start) view).confirmMessage prims initiator confirmCoins) ∧
      confirm prims (.sentResponse (view.session prims false) (view.hash prims responder))
          confirmWire responder = .ok (.established (view.session prims false)) := by
  have fits' : responder.signatureLen prims ≤ 6923 := cross.signatureLen ▸ fits
  obtain ⟨view, respWire, viewInit, responds, respEncoded, responded⟩ :=
    honest_respond fits' keys.mlkemPublicKey_valid contributory decoded
  have version : view.resp.version = protoVersion := by
    obtain ⟨_, _, _, resp⟩ := responds.reply
    rw [resp]
    rfl
  have received := HandshakeMessage.decode_encode version respEncoded
  have hash := hash_mirrorView cross viewInit
  have finalizes := finalizes_mirrorView keys signatures cross responds viewInit
  have confirmFits : ((mirrorView (initMessage prims initiator preferred start)
      view).confirmMessage prims initiator confirmCoins).sig.length ≤ 6923 := by
    show (initiator.sign prims _).length ≤ 6923
    rw [Authenticator.length_sign]
    exact fits
  obtain ⟨confirmWire, confirmEncoded⟩ := encode_exists confirmFits confirmCoins.padNoise
  have confirmReceived : HandshakeMessage.decode confirmWire =
      .ok ((mirrorView (initMessage prims initiator preferred start) view).confirmMessage prims
        initiator confirmCoins) :=
    HandshakeMessage.decode_encode rfl confirmEncoded
  have verified : responder.verify prims (roleBoundHash prims sigLabelInitiator
      (view.hash prims responder)) ((mirrorView (initMessage prims initiator preferred start)
        view).confirmMessage prims initiator confirmCoins).sig = .ok () := by
    show responder.verify prims _ (initiator.sign prims (roleBoundHash prims sigLabelInitiator
      ((mirrorView (initMessage prims initiator preferred start) view).hash prims
        initiator))) = .ok ()
    rw [hash]
    exact Authenticator.verify_sign cross signatures _
  exact ⟨view, respWire, confirmWire, viewInit, responds, received, responded,
    finalize_eq_ok_iff.mpr ⟨mirrorView _ view, rfl, received, finalizes, confirmEncoded, rfl⟩,
    confirmReceived, confirm_eq_ok_iff.mpr ⟨_, _, _, rfl, confirmReceived, rfl, verified, rfl⟩⟩

/-- **An honest handshake completes.** For cross-configured authenticators whose signatures fit the
message, every random choice with a contributory Diffie–Hellman result, every pair of preferences, and
the Init delivered as sent or after a cookie round: the four steps succeed, both sessions have the same
id and cipher, the cipher is AEGIS exactly when both prefer it, and each side opens what the other
seals. -/
theorem honest_handshake (aead : prims.AeadCorrect) (keys : prims.KeyExchangeCorrect)
    (signatures : prims.SignatureCorrect) (cross : Authenticator.Cross prims initiator responder)
    (fits : initiator.signatureLen prims ≤ 6923) (preferred preferred' : AeadAlgo)
    (startCoins : StartCoins) (respondCoins : RespondCoins) (confirmCoins : ConfirmCoins)
    (contributory : nonContributory
      (prims.diffieHellman respondCoins.ephX (prims.x25519Public startCoins.ephX)) = false) :
    ∃ sentInit initWire, start prims initiator preferred startCoins = .ok (sentInit, initWire) ∧
      (∀ cookie coins padNoise, ∃ challenge delivered, challengeWire cookie coins = .ok challenge ∧
        echoCookie initWire challenge padNoise = .ok delivered) ∧
      ∀ delivered, InitDelivery initWire delivered →
        ∃ sentResponse respWire sessionI confirmWire sessionR,
          respond prims delivered responder preferred' respondCoins = .ok (sentResponse, respWire) ∧
          finalize prims sentInit respWire initiator confirmCoins =
            .ok (.established sessionI, confirmWire) ∧
          confirm prims sentResponse confirmWire responder = .ok (.established sessionR) ∧
          sessionI.sessionId = sessionR.sessionId ∧ sessionI.algo = sessionR.algo ∧
          (sessionI.algo = .aegis256X2 ↔ preferred = .aegis256X2 ∧ preferred' = .aegis256X2) ∧
          ∀ sealer opener : Session, (sealer, opener) = (sessionI, sessionR) ∨
              (sealer, opener) = (sessionR, sessionI) →
            ∀ counter, counter < 2 ^ 64 →
              (∀ plaintext ct, sealer.sealWithCounter prims counter plaintext = .ok ct →
                (opener.decrypt prims counter ct).1 = .ok plaintext) ∧
              ∀ frameType plaintext policy noise datagram, plaintext.length ≤ 65535 →
                sealer.sealObfWithCounter prims counter (FrameType.asU8 frameType) plaintext policy
                  noise = .ok datagram →
                (opener.tryOpenObf prims datagram).1 = .ok (some (frameType, plaintext)) := by
  obtain ⟨initWire, encoded⟩ := encode_exists
    ((length_initMessage_sig initiator preferred startCoins).le.trans fits) startCoins.padNoise
  refine ⟨_, initWire, start_eq_ok_iff.mpr ⟨encoded, rfl⟩,
    fun cookie coins padNoise => echoCookie_exists fits encoded cookie coins padNoise,
    fun delivered delivery => ?_⟩
  obtain ⟨cookie, decoded⟩ := decode_delivery encoded delivery
  obtain ⟨view, respWire, confirmWire, viewInit, responds, -, responded, finalized, -, confirmed⟩ :=
    honest_exchange keys signatures cross fits preferred' confirmCoins contributory decoded
  refine ⟨_, respWire, _, confirmWire, _, responded, finalized, confirmed, rfl, rfl, ?_, ?_⟩
  · show view.chosen = .aegis256X2 ↔ _
    have peer : peerPreference view.init.aeadAlgo = preferred := by
      rw [viewInit]
      show peerPreference preferred.asU8 = preferred
      rw [peerPreference, AeadAlgo.fromU8_asU8]
    rw [responds.chosen, AeadAlgo.negotiate_eq_aegis_iff, peer]
    exact and_comm
  · intro sealer opener pair counter small
    have opens : Session.Opens sealer opener := by
      rcases pair with pair | pair
      · obtain ⟨rfl, rfl⟩ := Prod.mk.inj pair
        exact opens_views rfl rfl true
      · obtain ⟨rfl, rfl⟩ := Prod.mk.inj pair
        exact opens_views rfl rfl false
    have fresh : opener.replay.check counter = .ok () := by
      rcases pair with pair | pair <;>
        · obtain ⟨rfl, rfl⟩ := Prod.mk.inj pair
          rfl
    refine ⟨fun plaintext ct sealed => ?_,
      fun frameType plaintext policy noise datagram short sealed => ?_⟩
    · exact congrArg Prod.fst (Session.decrypt_sealed aead opens fresh sealed)
    · exact congrArg Prod.fst (Session.tryOpenObf_sealed aead opens small fresh short sealed)

/-- Random values of a sample handshake. -/
def sampleStart : StartCoins := ⟨.zero 32, [], fun _ => 0, fun _ => 0, fun _ => 0⟩

def sampleRespond : RespondCoins := ⟨⟨List.replicate 32 1, rfl⟩, [], fun _ => 0, fun _ => 0⟩

def sampleConfirm : ConfirmCoins := ⟨fun _ => 0, fun _ => 0, fun _ => 0⟩

/-- Two hybrid authenticators configured for each other. -/
def sampleInitiator : Authenticator :=
  .hybrid [.ed25519 [1] (Primitives.transparent.ed25519Public [2]), .mlDsa [3] [4]]

def sampleResponder : Authenticator :=
  .hybrid [.ed25519 [2] (Primitives.transparent.ed25519Public [1]), .mlDsa [4] [3]]

theorem sample_cross :
    Authenticator.Cross .transparent sampleInitiator sampleResponder :=
  .hybrid (.cons (.ed25519 [1] [2]) (.cons (.mlDsa [3] [4]) .nil))

theorem sample_contributory : nonContributory (Primitives.transparent.diffieHellman
    sampleRespond.ephX (Primitives.transparent.x25519Public sampleStart.ephX)) = false := by
  decide +kernel

theorem honest_handshake_sample : ∃ sentInit initWire sentResponse respWire sessionI confirmWire
    sessionR, start .transparent sampleInitiator .aegis256X2 sampleStart = .ok (sentInit, initWire) ∧
      respond .transparent initWire sampleResponder .aegis256X2 sampleRespond =
        .ok (sentResponse, respWire) ∧
      finalize .transparent sentInit respWire sampleInitiator sampleConfirm =
        .ok (.established sessionI, confirmWire) ∧
      confirm .transparent sentResponse confirmWire sampleResponder = .ok (.established sessionR) ∧
      sessionI.sessionId = sessionR.sessionId := by
  obtain ⟨sentInit, initWire, started, -, rest⟩ := honest_handshake
    Primitives.transparent_aeadCorrect Primitives.transparent_keyExchangeCorrect
    Primitives.transparent_signatureCorrect sample_cross (by decide) .aegis256X2 .aegis256X2
    sampleStart sampleRespond sampleConfirm sample_contributory
  obtain ⟨sentResponse, respWire, sessionI, confirmWire, sessionR, responded, finalized, confirmed,
    sameId, -⟩ := rest initWire .asSent
  exact ⟨sentInit, initWire, sentResponse, respWire, sessionI, confirmWire, sessionR, started,
    responded, finalized, confirmed, sameId⟩

end Handshake

end ChameleonPQ
