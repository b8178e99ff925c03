/-
**The handshake state machine (`tunnel.rs`, `Handshake`).**

Init, Response, Confirm. Each step is a function of the message it gets, the party's authenticator and
the random values it draws. `ResponderView` and `InitiatorView` are what the two sides know when their
step succeeds; `respond_eq_ok_iff`, `finalize_eq_ok_iff` and `confirm_eq_ok_iff` say exactly when it
does and what it returns.
-/

import ChameleonPQ.Crypto.Authenticator
import ChameleonPQ.Crypto.Transcript
import ChameleonPQ.Handshake.Message
import ChameleonPQ.Session.Session

namespace ChameleonPQ

open Library

/-- The random values `start` draws. -/
structure StartCoins where
  ephX : Octets 32
  mlkemSk : Bytes
  sigNoise : Nat → UInt8
  macNoise : Nat → UInt8
  padNoise : Nat → UInt8

/-- The random values `respond` draws. -/
structure RespondCoins where
  ephX : Octets 32
  encapsulation : Bytes
  kemNoise : Nat → UInt8
  padNoise : Nat → UInt8

/-- The random values a Confirm draws. -/
structure ConfirmCoins where
  xNoise : Nat → UInt8
  kemNoise : Nat → UInt8
  padNoise : Nat → UInt8

/-- `Handshake`. -/
inductive Handshake where
  | idle
  /-- Initiator: Init sent, waiting for the Response. -/
  | sentInit (ephX : Octets 32) (mlkemSk : Bytes) (transcript : Transcript)
  /-- Responder: Response sent, session not trusted until the Confirm checks out. -/
  | sentResponse (session : Session) (transcriptHash : Octets 32)
  | established (session : Session)
  | failed
  deriving DecidableEq

namespace Handshake

section Definitions

variable (prims : Primitives)

/-- The transcript after the identities and the Init. -/
def initTranscript (auth : Authenticator) (init : HandshakeMessage) : Transcript :=
  (Transcript.new.absorb (auth.identityBinding prims)).absorb init.transcriptBytes

/-- The Init that `start` builds. -/
def initMessage (auth : Authenticator) (preferred : AeadAlgo) (coins : StartCoins) :
    HandshakeMessage :=
  .newInit (prims.x25519Public coins.ephX) (prims.mlkemPublic coins.mlkemSk)
    (auth.signatureLen prims) preferred.asU8 coins.sigNoise coins.macNoise

/-- `start`. -/
def start (auth : Authenticator) (preferred : AeadAlgo) (coins : StartCoins) :
    Result (Handshake × Bytes) :=
  let message := initMessage prims auth preferred coins
  let transcript := initTranscript prims auth message
  match message.encode coins.padNoise with
  | .error e => .error e
  | .ok wire => .ok (.sentInit coins.ephX coins.mlkemSk transcript, wire)

/-- The all-zero test on a Diffie–Hellman result. -/
def nonContributory (xSs : Octets 32) : Bool := xSs.bytes.all (· == 0)

/-- The peer's preference as the responder reads it: an unknown id counts as ChaCha20. -/
def peerPreference (aeadAlgo : UInt8) : AeadAlgo :=
  match AeadAlgo.fromU8 aeadAlgo with
  | .ok algo => algo
  | .error _ => .chaCha20Poly1305

/-- `respond`. -/
def respond (raw : Bytes) (auth : Authenticator) (preferred : AeadAlgo) (coins : RespondCoins) :
    Result (Handshake × Bytes) :=
  match HandshakeMessage.decode raw with
  | .error e => .error e
  | .ok init =>
    if init.msgType ≠ .init then .error (.handshake "respond" "expected Init")
    else
      match prims.mlkemPublicKeyFromBytes init.kem with
      | none => .error (.handshake "respond" "kem slot is not a valid ML-KEM public key")
      | some peerMlkemPk =>
        let transcript := initTranscript prims auth init
        let chosen := AeadAlgo.negotiate preferred (peerPreference init.aeadAlgo)
        let encapsulated := prims.mlkemEncapsulate peerMlkemPk coins.encapsulation
        let xSs := prims.diffieHellman coins.ephX init.x25519Pub
        if nonContributory xSs then
          .error (.handshake "respond"
            "X25519 shared secret is all-zero (low-order/non-contributory point)")
        else
          let shared := deriveShared prims xSs encapsulated.1
          let reply := HandshakeMessage.newResponse (prims.x25519Public coins.ephX) encapsulated.2
            (auth.signatureLen prims) chosen.asU8 coins.kemNoise
          let th := (transcript.absorb reply.transcriptBytes).hash prims
          let resp := { reply with
            sig := auth.sign prims (roleBoundHash prims sigLabelResponder th)
            mac := prims.hmacSha256 (macKeyFrom prims shared).bytes th.bytes }
          match resp.encode coins.padNoise with
          | .error e => .error e
          | .ok wire =>
            .ok (.sentResponse (.fromHandshakeWithAlgo prims (deriveSessionId prims shared) shared
              false chosen) th, wire)

/-- `finalize`. -/
def finalize (handshake : Handshake) (raw : Bytes) (auth : Authenticator) (coins : ConfirmCoins) :
    Result (Handshake × Bytes) :=
  match handshake with
  | .sentInit ephX mlkemSk transcript =>
    match HandshakeMessage.decode raw with
    | .error e => .error e
    | .ok resp =>
      if resp.msgType ≠ .response then .error (.handshake "finalize" "expected Response")
      else
        match prims.mlkemCiphertextFromBytes resp.mlkemCt with
        | none => .error (.handshake "finalize" "kem slot is not a valid ML-KEM ciphertext")
        | some ct =>
          let mlkemSs := prims.mlkemDecapsulate ct mlkemSk
          let xSs := prims.diffieHellman ephX resp.x25519Pub
          if nonContributory xSs then
            .error (.handshake "finalize"
              "X25519 shared secret is all-zero (low-order/non-contributory point)")
          else
            let shared := deriveShared prims xSs mlkemSs
            let th := (transcript.absorb resp.transcriptBytes).hash prims
            match auth.verify prims (roleBoundHash prims sigLabelResponder th) resp.sig with
            | .error e => .error e
            | .ok () =>
              let tag := prims.hmacSha256 (macKeyFrom prims shared).bytes th.bytes
              if tag ≠ resp.mac then .error (.handshake "finalize" "MAC verification failed")
              else
                let confirm := { HandshakeMessage.newConfirm (auth.signatureLen prims) coins.xNoise
                    coins.kemNoise with
                  sig := auth.sign prims (roleBoundHash prims sigLabelInitiator th)
                  mac := tag }
                match confirm.encode coins.padNoise with
                | .error e => .error e
                | .ok wire =>
                  match AeadAlgo.fromU8 resp.aeadAlgo with
                  | .error e => .error e
                  | .ok chosen =>
                    .ok (.established (.fromHandshakeWithAlgo prims (deriveSessionId prims shared)
                      shared true chosen), wire)
  | _ => .error (.handshake "finalize" "not in SentInit state")

/-- `confirm`. -/
def confirm (handshake : Handshake) (raw : Bytes) (auth : Authenticator) : Result Handshake :=
  match handshake with
  | .sentResponse session transcriptHash =>
    match HandshakeMessage.decode raw with
    | .error e => .error e
    | .ok conf =>
      if conf.msgType ≠ .confirm then .error (.handshake "confirm" "expected Confirm")
      else
        match auth.verify prims (roleBoundHash prims sigLabelInitiator transcriptHash) conf.sig with
        | .error _ => .error (.handshake "confirm"
            "initiator signature verification failed (not the expected peer)")
        | .ok () => .ok (.established session)
  | _ => .error (.handshake "confirm" "not in SentResponse state")

end Definitions

/-! ### The two views of an exchange -/

/-- The two messages of an exchange, as one side has them. -/
@[ext] structure Exchange where
  init : HandshakeMessage
  resp : HandshakeMessage

/-- What one side knows of an exchange that succeeded for it: the messages, the cipher, the shared
secret. -/
structure View extends Exchange where
  chosen : AeadAlgo
  shared : Octets 32

namespace Exchange

variable (prims : Primitives)

/-- The whole transcript as a party of the given identities sees it. -/
def transcript (auth : Authenticator) (exchange : Exchange) : Transcript :=
  (initTranscript prims auth exchange.init).absorb exchange.resp.transcriptBytes

/-- The transcript hash. -/
def hash (auth : Authenticator) (exchange : Exchange) : Octets 32 :=
  (exchange.transcript prims auth).hash prims

end Exchange

namespace View

variable (prims : Primitives)

/-- The session of the view, in a role. -/
def session (isInitiator : Bool) (view : View) : Session :=
  .fromHandshakeWithAlgo prims (deriveSessionId prims view.shared) view.shared isInitiator view.chosen

/-- The key confirmation tag. -/
def tag (auth : Authenticator) (view : View) : Octets 32 :=
  prims.hmacSha256 (macKeyFrom prims view.shared).bytes (view.hash prims auth).bytes

/-- The Confirm message of an initiator with this view. -/
def confirmMessage (auth : Authenticator) (coins : ConfirmCoins) (view : View) : HandshakeMessage :=
  { HandshakeMessage.newConfirm (auth.signatureLen prims) coins.xNoise coins.kemNoise with
    sig := auth.sign prims (roleBoundHash prims sigLabelInitiator (view.hash prims auth))
    mac := view.tag prims auth }

end View

/-- **A responder's view**: how its messages, cipher and secret come about. -/
structure Responds (prims : Primitives) (auth : Authenticator) (preferred : AeadAlgo)
    (coins : RespondCoins) (view : View) : Prop where
  kind : view.init.msgType = .init
  contributory : nonContributory (prims.diffieHellman coins.ephX view.init.x25519Pub) = false
  chosen : view.chosen = AeadAlgo.negotiate preferred (peerPreference view.init.aeadAlgo)
  reply : ∃ peerMlkemPk, prims.mlkemPublicKeyFromBytes view.init.kem = some peerMlkemPk ∧
    view.shared = deriveShared prims (prims.diffieHellman coins.ephX view.init.x25519Pub)
      (prims.mlkemEncapsulate peerMlkemPk coins.encapsulation).1 ∧
    view.resp = { HandshakeMessage.newResponse (prims.x25519Public coins.ephX)
        (prims.mlkemEncapsulate peerMlkemPk coins.encapsulation).2 (auth.signatureLen prims)
        view.chosen.asU8 coins.kemNoise with
      sig := auth.sign prims (roleBoundHash prims sigLabelResponder (view.hash prims auth))
      mac := view.tag prims auth }

/-- **An initiator's view**: what `finalize` checked and derived. -/
structure Finalizes (prims : Primitives) (auth : Authenticator) (ephX : Octets 32) (mlkemSk : Bytes)
    (view : View) : Prop where
  kind : view.resp.msgType = .response
  contributory : nonContributory (prims.diffieHellman ephX view.resp.x25519Pub) = false
  shared : ∃ ct, prims.mlkemCiphertextFromBytes view.resp.mlkemCt = some ct ∧
    view.shared = deriveShared prims (prims.diffieHellman ephX view.resp.x25519Pub)
      (prims.mlkemDecapsulate ct mlkemSk)
  verified : auth.verify prims (roleBoundHash prims sigLabelResponder (view.hash prims auth))
    view.resp.sig = .ok ()
  mac : view.tag prims auth = view.resp.mac
  chosen : AeadAlgo.fromU8 view.resp.aeadAlgo = .ok view.chosen

variable {prims : Primitives} {auth : Authenticator} {preferred : AeadAlgo} {raw wire : Bytes}

theorem start_eq_ok_iff {coins : StartCoins} {state : Handshake} :
    start prims auth preferred coins = .ok (state, wire) ↔
      (initMessage prims auth preferred coins).encode coins.padNoise = .ok wire ∧
        state = .sentInit coins.ephX coins.mlkemSk
          (initTranscript prims auth (initMessage prims auth preferred coins)) := by
  simp only [start]
  cases (initMessage prims auth preferred coins).encode coins.padNoise with
  | error e => simp
  | ok encoded =>
    simp only [Except.ok.injEq, Prod.mk.injEq]
    exact ⟨fun ⟨state, wire⟩ => ⟨wire, state.symm⟩, fun ⟨wire, state⟩ => ⟨state.symm, wire⟩⟩

/-- **When `respond` succeeds, and with what.** -/
theorem respond_eq_ok_iff {coins : RespondCoins} {state : Handshake} :
    respond prims raw auth preferred coins = .ok (state, wire) ↔
      ∃ view, HandshakeMessage.decode raw = .ok view.init ∧
        Responds prims auth preferred coins view ∧ view.resp.encode coins.padNoise = .ok wire ∧
          state = .sentResponse (view.session prims false) (view.hash prims auth) := by
  constructor
  · intro success
    simp only [respond] at success
    split at success
    · cases success
    rename_i init decoded
    split at success
    · cases success
    rename_i kind
    split at success
    · cases success
    rename_i pk parsed
    split at success
    · cases success
    rename_i contributory
    split at success
    · cases success
    rename_i encodedWire encoded
    cases success
    refine ⟨⟨⟨init, _⟩, _, _⟩, decoded, ⟨not_not.mp kind, ?_, rfl, pk, parsed, rfl, rfl⟩, encoded, rfl⟩
    exact Bool.eq_false_iff.mpr contributory
  · rintro ⟨⟨⟨init, resp⟩, chosen, shared⟩, decoded, responds, encoded, rfl⟩
    obtain ⟨kind, contributory, sameChosen, pk, parsed, sameShared, sameResp⟩ := responds
    dsimp only at decoded kind contributory sameChosen parsed sameShared sameResp encoded
    subst sameChosen sameShared
    have transcript : resp.transcriptBytes =
        (HandshakeMessage.newResponse (prims.x25519Public coins.ephX)
          (prims.mlkemEncapsulate pk coins.encapsulation).2 (auth.signatureLen prims)
          (AeadAlgo.negotiate preferred (peerPreference init.aeadAlgo)).asU8
          coins.kemNoise).transcriptBytes := by
      rw [sameResp]
      rfl
    simp only [Exchange.hash, Exchange.transcript, View.tag, transcript] at sameResp
    simp only [respond, decoded, kind, ne_eq, not_true_eq_false, if_false, parsed, contributory,
      Bool.false_eq_true]
    rw [← sameResp]
    simp only [encoded, View.session, Exchange.hash, Exchange.transcript, transcript]

/-- **When `finalize` succeeds, and with what.** -/
theorem finalize_eq_ok_iff {coins : ConfirmCoins} {ephX : Octets 32} {mlkemSk : Bytes}
    {init : HandshakeMessage} {state : Handshake} :
    finalize prims (.sentInit ephX mlkemSk (initTranscript prims auth init)) raw auth coins =
        .ok (state, wire) ↔
      ∃ view, view.init = init ∧ HandshakeMessage.decode raw = .ok view.resp ∧
        Finalizes prims auth ephX mlkemSk view ∧
          (view.confirmMessage prims auth coins).encode coins.padNoise = .ok wire ∧
            state = .established (view.session prims true) := by
  constructor
  · intro success
    simp only [finalize] at success
    split at success
    · cases success
    rename_i resp decoded
    split at success
    · cases success
    rename_i kind
    split at success
    · cases success
    rename_i ct parsed
    split at success
    · cases success
    rename_i contributory
    split at success
    · cases success
    rename_i verified
    split at success
    · cases success
    rename_i mac
    split at success
    · cases success
    rename_i encodedWire encoded
    split at success
    · cases success
    rename_i chosen known
    cases success
    refine ⟨⟨⟨init, resp⟩, chosen, _⟩, rfl, decoded, ⟨not_not.mp kind, ?_, ⟨ct, parsed, rfl⟩, verified,
      not_not.mp mac, known⟩, encoded, rfl⟩
    exact Bool.eq_false_iff.mpr contributory
  · rintro ⟨⟨⟨init', resp⟩, chosen, shared⟩, rfl, decoded, finalizes, encoded, rfl⟩
    obtain ⟨kind, contributory, ⟨ct, parsed, sameShared⟩, verified, mac, known⟩ := finalizes
    dsimp only at decoded kind contributory parsed sameShared verified mac known encoded ⊢
    subst sameShared
    simp only [Exchange.hash, Exchange.transcript, View.tag, View.confirmMessage] at verified mac encoded
    simp only [finalize, decoded, kind, ne_eq, not_true_eq_false, if_false, parsed, contributory,
      Bool.false_eq_true, verified, mac, known]
    rw [mac] at encoded
    simp only [encoded, View.session]

/-- **When `confirm` succeeds, and with what.** -/
theorem confirm_eq_ok_iff {handshake state : Handshake} :
    confirm prims handshake raw auth = .ok state ↔
      ∃ session hash conf, handshake = .sentResponse session hash ∧
        HandshakeMessage.decode raw = .ok conf ∧ conf.msgType = .confirm ∧
          auth.verify prims (roleBoundHash prims sigLabelInitiator hash) conf.sig = .ok () ∧
            state = .established session := by
  constructor
  · intro success
    cases handshake with
    | sentResponse session hash =>
      simp only [confirm] at success
      split at success
      · cases success
      rename_i conf decoded
      split at success
      · cases success
      rename_i kind
      split at success
      · cases success
      rename_i verified
      cases success
      exact ⟨session, hash, conf, rfl, decoded, not_not.mp kind, verified, rfl⟩
    | idle | sentInit _ _ _ | established _ | failed => cases success
  · rintro ⟨session, hash, conf, rfl, decoded, kind, verified, rfl⟩
    simp only [confirm, decoded, kind, ne_eq, not_true_eq_false, if_false, verified]

/-! ### Matching views -/

/-- Two sides have messages that agree on everything the transcript binds. -/
structure SameExchange (first second : Exchange) : Prop where
  initVersion : first.init.version = second.init.version
  initX25519 : first.init.x25519Pub = second.init.x25519Pub
  proposed : first.init.aeadAlgo = second.init.aeadAlgo
  kemKey : first.init.kem = second.init.kem
  respVersion : first.resp.version = second.resp.version
  respX25519 : first.resp.x25519Pub = second.resp.x25519Pub
  chosen : first.resp.aeadAlgo = second.resp.aeadAlgo
  kemCiphertext : first.resp.mlkemCt = second.resp.mlkemCt

/-- **Equal transcripts bind equal exchanges and equal identities.** -/
theorem sameExchange_of_stream {auth auth' : Authenticator} {first second : Exchange}
    (firstInit : first.init.msgType = .init) (secondInit : second.init.msgType = .init)
    (firstResp : first.resp.msgType = .response) (secondResp : second.resp.msgType = .response)
    (same : (first.transcript prims auth).stream = (second.transcript prims auth').stream) :
    SameExchange first second ∧ auth.identityBinding prims = auth'.identityBinding prims := by
  have initLength := (HandshakeMessage.length_transcriptBytes_init firstInit).trans
    (HandshakeMessage.length_transcriptBytes_init secondInit).symm
  have respLength := (HandshakeMessage.length_transcriptBytes_response firstResp).trans
    (HandshakeMessage.length_transcriptBytes_response secondResp).symm
  obtain ⟨binding, init, resp⟩ := Transcript.stream_injective initLength respLength same
  obtain ⟨initVersion, initX, proposed, kemKey⟩ :=
    HandshakeMessage.transcriptBytes_init_inj firstInit secondInit init
  obtain ⟨respVersion, respX, chosen, ct⟩ :=
    HandshakeMessage.transcriptBytes_response_inj firstResp secondResp resp
  exact ⟨⟨initVersion, initX, proposed, kemKey, respVersion, respX, chosen, ct⟩, binding⟩

/-- **The two sides of one exchange derive the same secret and the same cipher**: Diffie–Hellman
commutes and decapsulation inverts encapsulation. -/
theorem same_secrets (correct : prims.KeyExchangeCorrect) {auth' : Authenticator}
    {coins : RespondCoins} {ephX : Octets 32} {mlkemSk : Bytes} {initiator responder : View}
    (finalizes : Finalizes prims auth ephX mlkemSk initiator)
    (responds : Responds prims auth' preferred coins responder)
    (ownX : initiator.init.x25519Pub = prims.x25519Public ephX)
    (ownKem : initiator.init.kem = prims.mlkemPublic mlkemSk)
    (exchange : SameExchange initiator.toExchange responder.toExchange) :
    initiator.shared = responder.shared ∧ initiator.chosen = responder.chosen := by
  obtain ⟨pk, parsed, respShared, resp⟩ := responds.reply
  obtain ⟨ct, valid, initShared⟩ := finalizes.shared
  have key : pk = prims.mlkemPublic mlkemSk := by
    rw [← exchange.kemKey, ownKem, correct.mlkemPublicKey_valid] at parsed
    exact (Option.some.inj parsed).symm
  have ciphertext : ct = (prims.mlkemEncapsulate pk coins.encapsulation).2 := by
    have sent : responder.resp.mlkemCt = (prims.mlkemEncapsulate pk coins.encapsulation).2 :=
      HandshakeMessage.mlkemCt_of_kem (by rw [resp]; rfl)
    rw [exchange.kemCiphertext, sent, key, correct.mlkemCiphertext_valid] at valid
    rw [key]
    exact (Option.some.inj valid).symm
  have respX : initiator.resp.x25519Pub = prims.x25519Public coins.ephX := by
    rw [exchange.respX25519, resp]
    rfl
  have algo : initiator.resp.aeadAlgo = responder.chosen.asU8 := by
    rw [exchange.chosen, resp]
    rfl
  refine ⟨?_, ?_⟩
  · rw [initShared, respShared, ciphertext, key, correct.mlkemDecapsulate_encapsulate, respX,
      correct.diffieHellman_comm, ← exchange.initX25519, ownX]
  · have known := finalizes.chosen
    rw [algo, AeadAlgo.fromU8_asU8] at known
    exact (Except.ok.inj known).symm

/-- The random values and the Init determine a responder's transcript. -/
theorem transcript_of_responds {coins : RespondCoins} {first second : View}
    (responds : Responds prims auth preferred coins first)
    (responds' : Responds prims auth preferred coins second) (init : first.init = second.init) :
    first.transcript prims auth = second.transcript prims auth := by
  obtain ⟨pk, parsed, -, resp⟩ := responds.reply
  obtain ⟨pk', parsed', -, resp'⟩ := responds'.reply
  have key : pk = pk' := by
    rw [init, parsed'] at parsed
    exact (Option.some.inj parsed).symm
  have chosen : first.chosen = second.chosen := by rw [responds.chosen, responds'.chosen, init]
  have same : first.resp.transcriptBytes = second.resp.transcriptBytes := by
    rw [resp, resp', key, chosen]
    rfl
  rw [Exchange.transcript, Exchange.transcript, init, same]

/-- What a view's session opens and seals. -/
theorem opens_views {first second : View} (shared : first.shared = second.shared)
    (chosen : first.chosen = second.chosen) (isInitiator : Bool) :
    Session.Opens (first.session prims isInitiator) (second.session prims (!isInitiator)) := by
  rw [View.session, View.session, shared, chosen]
  exact Session.opens_fromHandshake _ _ _ _ _

end Handshake

end ChameleonPQ
