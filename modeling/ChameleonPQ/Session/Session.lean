/-
**A session and the session manager (`session.rs`).**

* `Session` — one direction pair of AEAD keys, the transmit counter, the replay window, the two
  header-protection keys; its operations return the result together with the session they leave.
* `deriveDirectionalKeys_ne` — the two directions of one shared secret have different keys.
* `Opens` — what one end seals the other can open: same id and cipher, the sealer's transmit keys are
  the opener's receive keys. `opens_fromHandshake` — sessions built in opposite roles are so related.
* `open_sealWithCounter` — the AEAD round trip between two such ends, at every counter.
* `SessionManager` — the current session and the previous one, over any kind of session handle.

A 32-octet HKDF expansion and a 32-octet cipher key cannot fail, so the constructors are total here.
-/

import ChameleonPQ.Crypto.Aead
import ChameleonPQ.Obf
import ChameleonPQ.Session.ReplayWindow

namespace ChameleonPQ

open Library

/-- `HKDF_SALT` of the key schedule: `b"Chameleon-PQ-v1-directional"`. -/
def directionalSalt : Bytes := ascii "Chameleon-PQ-v1-directional"

/-- The two expansions of one shared secret, as (tx, rx) of the given role. -/
def deriveDirections (prims : Primitives) (toResponder toInitiator : Bytes) (shared : Octets 32)
    (isInitiator : Bool) : Octets 32 × Octets 32 :=
  let a := prims.hkdfSha256 directionalSalt shared.bytes toResponder
  let b := prims.hkdfSha256 directionalSalt shared.bytes toInitiator
  if isInitiator then (a, b) else (b, a)

/-- `derive_directional_keys`. -/
def deriveDirectionalKeys (prims : Primitives) : Octets 32 → Bool → Octets 32 × Octets 32 :=
  deriveDirections prims (ascii "key-A->B") (ascii "key-B->A")

/-- `derive_obf_keys`. -/
def deriveObfKeys (prims : Primitives) : Octets 32 → Bool → Octets 32 × Octets 32 :=
  deriveDirections prims (ascii "obf-A->B") (ascii "obf-B->A")

/-- The info strings of the key schedule. -/
def directionalLabels : List Bytes :=
  [ascii "key-A->B", ascii "key-B->A", ascii "obf-A->B", ascii "obf-B->A"]

/-- The other role derives the same two keys, swapped. -/
theorem deriveDirections_not (prims : Primitives) (toResponder toInitiator : Bytes)
    (shared : Octets 32) (isInitiator : Bool) :
    deriveDirections prims toResponder toInitiator shared (!isInitiator) =
      (deriveDirections prims toResponder toInitiator shared isInitiator).swap := by
  cases isInitiator <;> rfl

/-- **The two directions have different AEAD keys.** -/
theorem deriveDirectionalKeys_ne {prims : Primitives}
    (separated : prims.LabelSeparated directionalLabels) (shared : Octets 32) (isInitiator : Bool) :
    (deriveDirectionalKeys prims shared isInitiator).1 ≠
      (deriveDirectionalKeys prims shared isInitiator).2 := by
  have keys := separated directionalSalt shared.bytes (ascii "key-A->B") (by decide)
    (ascii "key-B->A") (by decide) (by decide)
  cases isInitiator with
  | true => exact keys
  | false => exact keys.symm

/-! ### Sessions -/

/-- `Session`. -/
structure Session where
  sessionId : UInt32
  algo : AeadAlgo
  txAead : DirectionalAead
  rxAead : DirectionalAead
  txCounter : Nat
  txSalt : Octets 4
  rxSalt : Octets 4
  rekeyAt : Nat
  replay : ReplayWindow
  txObfKey : Octets 32
  rxObfKey : Octets 32
  deriving DecidableEq

/-- The salt of the frames the initiator sends. -/
def initiatorSalt : Octets 4 := ⟨[0x01, 0, 0, 0], rfl⟩

/-- The salt of the frames the responder sends. -/
def responderSalt : Octets 4 := ⟨[0x02, 0, 0, 0], rfl⟩

namespace Session

section Definitions

variable (prims : Primitives)

/-- `from_handshake_with_algo`. -/
def fromHandshakeWithAlgo (sessionId : UInt32) (shared : Octets 32) (isInitiator : Bool)
    (algo : AeadAlgo) : Session :=
  let keys := deriveDirectionalKeys prims shared isInitiator
  let obfKeys := deriveObfKeys prims shared isInitiator
  let salts := if isInitiator then (initiatorSalt, responderSalt) else (responderSalt, initiatorSalt)
  { sessionId, algo
    txAead := ⟨algo, keys.1⟩
    rxAead := ⟨algo, keys.2⟩
    txCounter := 0
    txSalt := salts.1
    rxSalt := salts.2
    rekeyAt := 2 ^ 48
    replay := .new
    txObfKey := obfKeys.1
    rxObfKey := obfKeys.2 }

/-- `reserve_counters`: the `fetch_add` wraps and happens whether or not the range is granted; the
last counter of the range saturates. -/
def reserveCounters (session : Session) (n : Nat) : Result Nat × Session :=
  let first := session.txCounter
  let advanced := { session with txCounter := (first + n) % 2 ^ 64 }
  if session.rekeyAt ≤ min (first + (n - 1)) (2 ^ 64 - 1) then (.error .rekeyRequired, advanced)
  else (.ok first, advanced)

/-- `make_nonce`: salt, little-endian counter, zeros up to the cipher's nonce length. -/
def makeNonce (session : Session) (salt : Octets 4) (counter : Nat) : Bytes :=
  salt.bytes ++ leBytes 8 counter ++ List.replicate (session.algo.nonceLen - 12) 0

/-- `data_aad`: the visible header. -/
def dataAad (session : Session) (counter : Nat) : Bytes := headerBytes 0x01 session.sessionId counter

/-- `seal_with_counter`. -/
def sealWithCounter (session : Session) (counter : Nat) (plaintext : Bytes) : Result Bytes :=
  session.txAead.sealBytes prims (session.makeNonce session.txSalt counter)
    (session.dataAad counter) plaintext

/-- `encrypt`. -/
def encrypt (session : Session) (plaintext : Bytes) : Result (Nat × Bytes) × Session :=
  match session.reserveCounters 1 with
  | (.error e, advanced) => (.error e, advanced)
  | (.ok counter, advanced) =>
    match session.sealWithCounter prims counter plaintext with
    | .error e => (.error e, advanced)
    | .ok ct => (.ok (counter, ct), advanced)

/-- The first step of `decrypt`: the check under the window lock. -/
def checkReplay (session : Session) (counter : Nat) : Result Unit := session.replay.check counter

/-- The second step of `decrypt`: the AEAD open, without the lock. -/
def openCiphertext (session : Session) (counter : Nat) (ciphertext : Bytes) : Result Bytes :=
  session.rxAead.openBytes prims (session.makeNonce session.rxSalt counter)
    (session.dataAad counter) ciphertext

/-- The third step of `decrypt`: the re-check and the commit, under one lock. -/
def recheckCommit (session : Session) (counter : Nat) : Result Unit × Session :=
  match session.replay.check counter with
  | .error e => (.error e, session)
  | .ok () => (.ok (), { session with replay := session.replay.commit counter })

/-- `decrypt`: check, open, re-check and commit. -/
def decrypt (session : Session) (counter : Nat) (ciphertext : Bytes) : Result Bytes × Session :=
  match session.checkReplay counter with
  | .error e => (.error e, session)
  | .ok () =>
    match session.openCiphertext prims counter ciphertext with
    | .error e => (.error e, session)
    | .ok plain =>
      match session.recheckCommit counter with
      | (.error e, after) => (.error e, after)
      | (.ok (), after) => (.ok plain, after)

/-- `seal_obf_core`; `noise` feeds the padding. -/
def sealObfCore (session : Session) (counter : Nat) (innerType : UInt8) (plaintext : Bytes)
    (policy : Obf.PadPolicy) (noise : Nat → UInt8) : Result Bytes :=
  let maxFramed := Obf.maxFramed session.algo.tagLen
  let framed := Obf.packInner innerType plaintext policy maxFramed noise
  match session.sealWithCounter prims counter framed with
  | .error e => .error e
  | .ok ct => .ok (Obf.sealWire prims session.txObfKey session.sessionId counter ct)

/-- `seal_obf_with_counter`. -/
def sealObfWithCounter (session : Session) (counter : Nat) (innerType : UInt8) (plaintext : Bytes)
    (policy : Obf.PadPolicy) (noise : Nat → UInt8) : Result Bytes :=
  session.sealObfCore prims counter innerType plaintext policy noise

/-- `seal_obf`. -/
def sealObf (session : Session) (innerType : UInt8) (plaintext : Bytes) (policy : Obf.PadPolicy)
    (noise : Nat → UInt8) : Result Bytes × Session :=
  match session.reserveCounters 1 with
  | (.error e, advanced) => (.error e, advanced)
  | (.ok counter, advanced) =>
    (session.sealObfCore prims counter innerType plaintext policy noise, advanced)

/-- `try_open_obf`: `none` when the datagram is not (any longer) for this session. -/
def tryOpenObf (session : Session) (datagram : Bytes) :
    Result (Option (FrameType × Bytes)) × Session :=
  match Obf.unmask prims session.rxObfKey datagram with
  | none => (.ok none, session)
  | some header =>
    if header.sessionId ≠ session.sessionId then (.ok none, session)
    else
      match session.decrypt prims header.counter (Obf.ctSlice datagram) with
      | (.error _, after) => (.ok none, after)
      | (.ok framed, after) =>
        match Obf.unpackInner framed with
        | .error e => (.error e, after)
        | .ok (innerType, plaintext) =>
          match FrameType.fromU8 innerType with
          | .error e => (.error e, after)
          | .ok frameType => (.ok (some (frameType, plaintext)), after)

end Definitions

/-! ### Reserving counters -/

/-- The counter moves whether or not the range is granted. -/
theorem reserveCounters_session (session : Session) (n : Nat) :
    (session.reserveCounters n).2 =
      { session with txCounter := (session.txCounter + n) % 2 ^ 64 } := by
  simp only [reserveCounters]
  split <;> rfl

/-- A granted range starts at the counter and ends below the limit. -/
theorem reserveCounters_ok {session after : Session} {n first : Nat}
    (small : session.rekeyAt < 2 ^ 64) (success : session.reserveCounters n = (.ok first, after)) :
    first = session.txCounter ∧ first + (n - 1) < session.rekeyAt ∧
      after = { session with txCounter := (first + n) % 2 ^ 64 } := by
  simp only [reserveCounters] at success
  split at success
  · cases success
  · rename_i inside
    cases success
    refine ⟨rfl, ?_, rfl⟩
    omega

/-! ### Nonces -/

/-- A nonce has the length the cipher asks for. -/
theorem length_makeNonce (session : Session) (salt : Octets 4) (counter : Nat) :
    (session.makeNonce salt counter).length = session.algo.nonceLen := by
  simp only [makeNonce, List.length_append, Octets.length_bytes, length_leBytes,
    List.length_replicate]
  cases session.algo <;> rfl

/-- **Distinct counters have distinct nonces.** -/
theorem makeNonce_injective (session : Session) (salt : Octets 4) {first second : Nat}
    (firstSmall : first < 2 ^ 64) (secondSmall : second < 2 ^ 64)
    (same : session.makeNonce salt first = session.makeNonce salt second) : first = second := by
  have front : salt.bytes ++ leBytes 8 first = salt.bytes ++ leBytes 8 second :=
    List.append_cancel_right same
  exact leBytes_injective firstSmall secondSmall (List.append_cancel_left front)

/-! ### Two ends of one session -/

/-- What `sealer` seals, `opener` can open. -/
structure Opens (sealer opener : Session) : Prop where
  sessionId : opener.sessionId = sealer.sessionId
  algo : opener.algo = sealer.algo
  aead : opener.rxAead = sealer.txAead
  aeadAlgo : sealer.txAead.algo = sealer.algo
  salt : opener.rxSalt = sealer.txSalt
  obfKey : opener.rxObfKey = sealer.txObfKey

/-- **Sessions built from one secret in opposite roles open each other's traffic.** -/
theorem opens_fromHandshake (prims : Primitives) (sessionId : UInt32) (shared : Octets 32)
    (isInitiator : Bool) (algo : AeadAlgo) :
    Opens (fromHandshakeWithAlgo prims sessionId shared isInitiator algo)
      (fromHandshakeWithAlgo prims sessionId shared (!isInitiator) algo) := by
  cases isInitiator <;> exact ⟨rfl, rfl, rfl, rfl, rfl, rfl⟩

namespace Opens

variable {prims : Primitives} {sealer opener : Session}

/-- The transmit counters and windows do not matter for who can open what. -/
theorem of_static {sealer' opener' : Session} (opens : Opens sealer opener)
    (sealerSame : sealer' = { sealer with txCounter := sealer'.txCounter, replay := sealer'.replay })
    (openerSame : opener' = { opener with txCounter := opener'.txCounter, replay := opener'.replay }) :
    Opens sealer' opener' := by
  rw [sealerSame, openerSame]
  exact ⟨opens.sessionId, opens.algo, opens.aead, opens.aeadAlgo, opens.salt, opens.obfKey⟩

/-- Both ends build the same nonce. -/
theorem makeNonce (opens : Opens sealer opener) (counter : Nat) :
    opener.makeNonce opener.rxSalt counter = sealer.makeNonce sealer.txSalt counter := by
  rw [Session.makeNonce, Session.makeNonce, opens.algo, opens.salt]

/-- Both ends build the same associated data. -/
theorem dataAad (opens : Opens sealer opener) (counter : Nat) :
    opener.dataAad counter = sealer.dataAad counter := by
  rw [Session.dataAad, Session.dataAad, opens.sessionId]

/-- **The AEAD round trip between the two ends.** -/
theorem openCiphertext (opens : Opens sealer opener) (correct : prims.AeadCorrect) {counter : Nat}
    {plaintext ct : Bytes} (success : sealer.sealWithCounter prims counter plaintext = .ok ct) :
    opener.openCiphertext prims counter ct = .ok plaintext := by
  unfold Session.openCiphertext
  rw [opens.makeNonce, opens.dataAad, opens.aead]
  exact DirectionalAead.openBytes_sealBytes correct success

end Opens

/-- The ciphertext is the plaintext and one tag. -/
theorem length_sealWithCounter {prims : Primitives} (correct : prims.AeadCorrect) {session : Session}
    (aeadAlgo : session.txAead.algo = session.algo) {counter : Nat} {plaintext ct : Bytes}
    (success : session.sealWithCounter prims counter plaintext = .ok ct) :
    ct.length = plaintext.length + session.algo.tagLen := by
  rw [DirectionalAead.length_of_sealBytes correct success, aeadAlgo]

end Session

/-! ### The session manager -/

/-- `SessionManager`: the slots hold session handles, which are `Session` values where a session is
only used through its manager and positions in a heap where several tasks share it. -/
structure SessionManager (Handle : Type) where
  current : Handle
  previous : Option Handle
  rekeyThreshold : Nat
  rekeyInProgress : Bool
  lastRekeyAttempt : Nat
  deriving DecidableEq

/-- `REKEY_AFTER_FRACTION_NUM`. -/
def rekeyAfterFractionNum : Nat := 3

/-- `REKEY_AFTER_FRACTION_DEN`. -/
def rekeyAfterFractionDen : Nat := 4

/-- `MIN_REKEY_INTERVAL`, in milliseconds. -/
def minRekeyInterval : Nat := 5000

namespace SessionManager

section Slots

variable {Handle : Type} (manager : SessionManager Handle)

/-- `install_new_session`. -/
def installNewSession (newSession : Handle) : SessionManager Handle :=
  { manager with current := newSession, previous := some manager.current, rekeyInProgress := false }

/-- `retire_previous`. -/
def retirePrevious : SessionManager Handle := { manager with previous := none }

/-- `abort_rekey`. -/
def abortRekey : SessionManager Handle := { manager with rekeyInProgress := false }

/-- `needs_rekey`: `counter` is the current session's transmit counter, `now` the time. -/
def needsRekey (counter now : Nat) : Bool × SessionManager Handle :=
  if counter < manager.rekeyThreshold then (false, manager)
  else if now - manager.lastRekeyAttempt < minRekeyInterval then (false, manager)
  else if manager.rekeyInProgress then (false, manager)
  else (true, { manager with rekeyInProgress := true, lastRekeyAttempt := now })

end Slots

section Values

variable (prims : Primitives)

/-- `SessionManager::new`, at a time `now` not before `2 * MIN_REKEY_INTERVAL`. -/
def new (initial : Session) (now : Nat) : SessionManager Session :=
  { current := initial
    previous := none
    rekeyThreshold := initial.rekeyAt / rekeyAfterFractionDen * rekeyAfterFractionNum
    rekeyInProgress := false
    lastRekeyAttempt := now - minRekeyInterval * 2 }

/-- `decrypt`: the slot with the given id opens, the current one first. -/
def decrypt (manager : SessionManager Session) (sessionId : UInt32) (counter : Nat) (ct : Bytes) :
    Result Bytes × SessionManager Session :=
  if manager.current.sessionId = sessionId then
    match manager.current.decrypt prims counter ct with
    | (outcome, current) => (outcome, { manager with current })
  else
    match manager.previous with
    | none => (.error .decryptionFailed, manager)
    | some previous =>
      if previous.sessionId = sessionId then
        match previous.decrypt prims counter ct with
        | (outcome, previous) => (outcome, { manager with previous := some previous })
      else (.error .decryptionFailed, manager)

/-- `decrypt_obf`: trial decryption, the current session first. -/
def decryptObf (manager : SessionManager Session) (datagram : Bytes) :
    Result (FrameType × Bytes) × SessionManager Session :=
  match manager.current.tryOpenObf prims datagram with
  | (.error e, current) => (.error e, { manager with current })
  | (.ok (some opened), current) => (.ok opened, { manager with current })
  | (.ok none, current) =>
    match manager.previous with
    | none => (.error .decryptionFailed, { manager with current })
    | some previous =>
      match previous.tryOpenObf prims datagram with
      | (.error e, previous) => (.error e, { manager with current, previous := some previous })
      | (.ok (some opened), previous) =>
        (.ok opened, { manager with current, previous := some previous })
      | (.ok none, previous) =>
        (.error .decryptionFailed, { manager with current, previous := some previous })

end Values

end SessionManager

end ChameleonPQ
