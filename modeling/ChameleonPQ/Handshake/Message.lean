/-
**The handshake message and its codec (`tunnel.rs`, `HandshakeMessage`).**

* `decode_encode` — the codec round trip, for every padding.
* `decode_ok_iff` — which strings decode; `codec` puts the facts about the codec together.
* `transcriptBytes_init_inj`, `transcriptBytes_response_inj` — what the transcript part of a message
  binds: version, type, X25519 key, cipher and the KEM key or ciphertext.

Random octets are parameters: each function takes the streams it draws from.
-/

import ChameleonPQ.Crypto.Aead

namespace ChameleonPQ

open Library

/-- `HANDSHAKE_MSG_LEN`. -/
def handshakeMsgLen : Nat := 8192

/-- `PROTO_VERSION`. -/
def protoVersion : UInt8 := 7

/-- `MLKEM_CT_LEN`. -/
def mlkemCtLen : Nat := 1088

/-- `HandshakeType`. -/
inductive HandshakeType where
  | init
  | response
  | confirm
  | cookieChallenge
  deriving DecidableEq, Repr

namespace HandshakeType

/-- The wire byte. -/
def asU8 : HandshakeType → UInt8
  | init => 0x01
  | response => 0x02
  | confirm => 0x03
  | cookieChallenge => 0x04

/-- `from_u8`. -/
def fromU8 (value : UInt8) : Result HandshakeType :=
  if value = 0x01 then .ok init
  else if value = 0x02 then .ok response
  else if value = 0x03 then .ok confirm
  else if value = 0x04 then .ok cookieChallenge
  else .error (.handshake "decode" s!"unknown type {value}")

@[simp] theorem fromU8_asU8 (msgType : HandshakeType) : fromU8 msgType.asU8 = .ok msgType := by
  cases msgType <;> rfl

theorem asU8_of_fromU8 {value : UInt8} {msgType : HandshakeType} (known : fromU8 value = .ok msgType) :
    value = msgType.asU8 := by
  unfold fromU8 at known
  split at known
  · rename_i same
    exact Except.ok.inj known ▸ same
  split at known
  · rename_i same
    exact Except.ok.inj known ▸ same
  split at known
  · rename_i same
    exact Except.ok.inj known ▸ same
  split at known
  · rename_i same
    exact Except.ok.inj known ▸ same
  · cases known

end HandshakeType

/-- `HandshakeMessage`. -/
@[ext] structure HandshakeMessage where
  version : UInt8
  msgType : HandshakeType
  aeadAlgo : UInt8
  x25519Pub : Octets 32
  kem : Octets 1184
  sig : Bytes
  mac : Octets 32
  cookie : Octets 16
  deriving DecidableEq

namespace HandshakeMessage

/-- `new_init`. -/
def newInit (x25519Pub : Octets 32) (mlkemPub : Octets 1184) (sigLen : Nat) (aeadAlgo : UInt8)
    (sigNoise macNoise : Nat → UInt8) : HandshakeMessage :=
  { version := protoVersion
    msgType := .init
    aeadAlgo, x25519Pub
    kem := mlkemPub
    sig := (Octets.ofStream sigLen sigNoise).bytes
    mac := .ofStream 32 macNoise
    cookie := .zero 16 }

/-- The KEM slot of a Response: the ciphertext, then noise. -/
def responseKem (mlkemCt : Octets 1088) (noise : Nat → UInt8) : Octets 1184 :=
  ⟨mlkemCt.bytes ++ (Octets.ofStream 96 noise).bytes, by
    rw [List.length_append, mlkemCt.length_eq, Octets.length_eq]⟩

/-- `new_response`. -/
def newResponse (x25519Pub : Octets 32) (mlkemCt : Octets 1088) (sigLen : Nat) (aeadAlgo : UInt8)
    (kemNoise : Nat → UInt8) : HandshakeMessage :=
  { version := protoVersion
    msgType := .response
    aeadAlgo, x25519Pub
    kem := responseKem mlkemCt kemNoise
    sig := List.replicate sigLen 0
    mac := .zero 32
    cookie := .zero 16 }

/-- `new_confirm`. -/
def newConfirm (sigLen : Nat) (xNoise kemNoise : Nat → UInt8) : HandshakeMessage :=
  { version := protoVersion
    msgType := .confirm
    aeadAlgo := 0
    x25519Pub := .ofStream 32 xNoise
    kem := .ofStream 1184 kemNoise
    sig := List.replicate sigLen 0
    mac := .zero 32
    cookie := .zero 16 }

/-- `new_cookie_challenge`. -/
def newCookieChallenge (cookie : Octets 16) (xNoise kemNoise macNoise : Nat → UInt8) :
    HandshakeMessage :=
  { version := protoVersion
    msgType := .cookieChallenge
    aeadAlgo := 0
    x25519Pub := .ofStream 32 xNoise
    kem := .ofStream 1184 kemNoise
    sig := []
    mac := .ofStream 32 macNoise
    cookie }

/-- `mlkem_ct`. -/
def mlkemCt (message : HandshakeMessage) : Octets 1088 :=
  ⟨message.kem.bytes.take mlkemCtLen, by rw [List.length_take, message.kem.length_eq]; rfl⟩

/-! ### The codec -/

/-- The fields in wire order, before the padding. -/
def wireFields (message : HandshakeMessage) : Bytes :=
  message.version :: message.msgType.asU8 :: message.aeadAlgo ::
    (message.x25519Pub.bytes ++ (message.kem.bytes ++ (leBytes 2 (message.sig.length % 2 ^ 16) ++
      (message.sig ++ (message.mac.bytes ++ message.cookie.bytes)))))

/-- `encode`, padding with noise to the fixed size. -/
def encode (message : HandshakeMessage) (padNoise : Nat → UInt8) : Result Bytes :=
  let used := message.wireFields.length
  if handshakeMsgLen < used then
    .error (.handshake "encode" s!"message {used} > {handshakeMsgLen}")
  else .ok (message.wireFields ++ (Octets.ofStream (handshakeMsgLen - used) padNoise).bytes)

/-- `decode`. -/
def decode (raw : Bytes) : Result HandshakeMessage :=
  if raw.length ≠ handshakeMsgLen then
    .error (.handshake "decode" s!"expected {handshakeMsgLen}, got {raw.length}")
  else
    let version := raw.headD 0
    if version ≠ protoVersion then .error (.handshake "decode" s!"bad version {version}")
    else
      match HandshakeType.fromU8 ((raw.drop 1).headD 0) with
      | .error e => .error e
      | .ok msgType =>
        let aeadAlgo := (raw.drop 2).headD 0
        let x25519Pub := Octets.fill 32 (raw.drop 3)
        let kem := Octets.fill 1184 (raw.drop 35)
        let sigLen := leNat ((raw.drop 1219).take 2)
        let rest := raw.drop 1221
        if rest.length < sigLen + 32 + 16 then
          .error (.handshake "decode" "truncated sig/mac/cookie")
        else
          .ok { version, msgType, aeadAlgo, x25519Pub, kem
                sig := rest.take sigLen
                mac := Octets.fill 32 (rest.drop sigLen)
                cookie := Octets.fill 16 (rest.drop (sigLen + 32)) }

/-- What decodes has the fixed length. -/
theorem length_of_decode {raw : Bytes} {message : HandshakeMessage}
    (decoded : decode raw = .ok message) : raw.length = handshakeMsgLen := by
  by_contra other
  rw [decode, if_pos other] at decoded
  cases decoded

/-- The second octet of what decodes is the type. -/
theorem kind_of_decode {raw : Bytes} {message : HandshakeMessage} (decoded : decode raw = .ok message) :
    (raw.drop 1).headD 0 = message.msgType.asU8 := by
  unfold decode at decoded
  split at decoded
  · cases decoded
  · dsimp only at decoded
    split at decoded
    · cases decoded
    · split at decoded
      · cases decoded
      · rename_i msgType known
        split at decoded
        · cases decoded
        · obtain rfl := Except.ok.inj decoded
          exact HandshakeType.asU8_of_fromU8 known

theorem length_wireFields (message : HandshakeMessage) :
    message.wireFields.length = 1269 + message.sig.length := by
  simp only [wireFields, List.length_cons, List.length_append, Octets.length_bytes, length_leBytes]
  omega

/-- A message fits exactly when its signature does. -/
theorem encode_ok_iff (message : HandshakeMessage) (padNoise : Nat → UInt8) :
    (∃ raw, message.encode padNoise = .ok raw) ↔ message.sig.length ≤ 6923 := by
  simp only [encode, length_wireFields, handshakeMsgLen]
  by_cases large : 8192 < 1269 + message.sig.length
  · rw [if_pos large]
    refine ⟨fun ⟨_, impossible⟩ => (by cases impossible), fun small => ?_⟩
    omega
  · rw [if_neg large]
    exact ⟨fun _ => by omega, fun _ => ⟨_, rfl⟩⟩

/-- What encodes has the fixed length. -/
theorem length_of_encode {message : HandshakeMessage} {padNoise : Nat → UInt8} {raw : Bytes}
    (encoded : message.encode padNoise = .ok raw) : raw.length = handshakeMsgLen := by
  unfold encode at encoded
  dsimp only at encoded
  split at encoded
  · cases encoded
  · obtain rfl := Except.ok.inj encoded
    rw [List.length_append, Octets.length_eq]
    omega

/-- What decodes fits in an encoding again. -/
theorem sig_length_of_decode {raw : Bytes} {message : HandshakeMessage}
    (decoded : decode raw = .ok message) : message.sig.length ≤ 6923 := by
  have length := length_of_decode decoded
  unfold decode at decoded
  rw [if_neg (not_not.mpr length)] at decoded
  dsimp only at decoded
  split at decoded
  · cases decoded
  split at decoded
  · cases decoded
  split at decoded
  · cases decoded
  rename_i long
  obtain rfl := Except.ok.inj decoded
  dsimp only
  rw [List.length_drop, length, handshakeMsgLen] at long
  rw [List.length_take]
  omega

/-- Dropping a known front. -/
theorem drop_front {n : Nat} {front : Bytes} (length : front.length = n) (rest : Bytes) (more : Nat) :
    (front ++ rest).drop (n + more) = rest.drop more := by
  rw [List.drop_append, ← length, Nat.add_sub_cancel_left, List.drop_eq_nil_of_le (by omega),
    List.nil_append]

/-- **The codec round trip**, for every padding. -/
theorem decode_encode {message : HandshakeMessage} {padNoise : Nat → UInt8} {raw : Bytes}
    (current : message.version = protoVersion) (success : message.encode padNoise = .ok raw) :
    decode raw = .ok message := by
  have small : message.sig.length ≤ 6923 := (encode_ok_iff message padNoise).mp ⟨raw, success⟩
  have fits : ¬ handshakeMsgLen < message.wireFields.length := by
    rw [length_wireFields, handshakeMsgLen]
    omega
  rw [encode] at success
  simp only [if_neg fits] at success
  obtain ⟨pad, padLength, rfl⟩ : ∃ pad : Bytes,
      pad.length = handshakeMsgLen - message.wireFields.length ∧
        raw = message.wireFields ++ pad :=
    ⟨_, Octets.length_eq _, (Except.ok.inj success).symm⟩
  have whole : (message.wireFields ++ pad).length = handshakeMsgLen := by
    rw [List.length_append, padLength]
    exact Nat.add_sub_cancel' (Nat.le_of_not_lt fits)
  -- the tail of the datagram after each field
  have afterHead : (message.wireFields ++ pad).drop 3 = message.x25519Pub.bytes ++
      (message.kem.bytes ++ (leBytes 2 message.sig.length ++
        (message.sig ++ (message.mac.bytes ++ (message.cookie.bytes ++ pad))))) := by
    rw [wireFields, Nat.mod_eq_of_lt (by omega)]
    simp only [List.cons_append, List.drop_succ_cons, List.drop_zero, List.append_assoc]
  have afterX : (message.wireFields ++ pad).drop 35 = message.kem.bytes ++
      (leBytes 2 message.sig.length ++
        (message.sig ++ (message.mac.bytes ++ (message.cookie.bytes ++ pad)))) := by
    rw [show 35 = 3 + 32 from rfl, ← List.drop_drop, afterHead,
      List.drop_left' message.x25519Pub.length_eq]
  have afterKem : (message.wireFields ++ pad).drop 1219 = leBytes 2 message.sig.length ++
      (message.sig ++ (message.mac.bytes ++ (message.cookie.bytes ++ pad))) := by
    rw [show 1219 = 35 + 1184 from rfl, ← List.drop_drop, afterX,
      List.drop_left' message.kem.length_eq]
  have afterLength : (message.wireFields ++ pad).drop 1221 =
      message.sig ++ (message.mac.bytes ++ (message.cookie.bytes ++ pad)) := by
    rw [show 1221 = 1219 + 2 from rfl, ← List.drop_drop, afterKem,
      List.drop_left' (length_leBytes _ _)]
  have sigLen : leNat (((message.wireFields ++ pad).drop 1219).take 2) = message.sig.length := by
    rw [afterKem, List.take_left' (length_leBytes _ _)]
    exact leNat_leBytes_of_lt (by omega)
  have enough : ¬ ((message.wireFields ++ pad).drop 1221).length <
      message.sig.length + 32 + 16 := by
    rw [afterLength]
    simp only [List.length_append, Octets.length_bytes]
    omega
  have version : (message.wireFields ++ pad).headD 0 = message.version := rfl
  have msgType : ((message.wireFields ++ pad).drop 1).headD 0 = message.msgType.asU8 := rfl
  have aeadAlgo : ((message.wireFields ++ pad).drop 2).headD 0 = message.aeadAlgo := rfl
  rw [decode, if_neg (not_not.mpr whole)]
  simp only [version, current, ne_eq, not_true_eq_false, if_false, msgType,
    HandshakeType.fromU8_asU8, aeadAlgo, sigLen, if_neg enough]
  refine congrArg Except.ok (HandshakeMessage.ext current.symm rfl rfl ?_ ?_ ?_ ?_ ?_)
  · rw [afterHead]
    exact Octets.fill_append _ _
  · rw [afterX]
    exact Octets.fill_append _ _
  · rw [afterLength]
    exact List.take_left' rfl
  · rw [afterLength, List.drop_left' rfl]
    exact Octets.fill_append _ _
  · rw [afterLength, drop_front rfl, List.drop_left' message.mac.length_eq]
    exact Octets.fill_append _ _

/-- What decodes is a message of the current version. -/
theorem version_of_decode {raw : Bytes} {message : HandshakeMessage}
    (decoded : decode raw = .ok message) : message.version = protoVersion := by
  unfold decode at decoded
  split at decoded
  · cases decoded
  dsimp only at decoded
  split at decoded
  · cases decoded
  rename_i current
  split at decoded
  · cases decoded
  split at decoded
  · cases decoded
  obtain rfl := Except.ok.inj decoded
  exact not_not.mp current

/-- **What decodes**: strings of the fixed size, of the current version, with a known type and a signature
length that leaves room for the fields after the signature. -/
theorem decode_ok_iff (raw : Bytes) : (∃ message, decode raw = .ok message) ↔
    raw.length = handshakeMsgLen ∧ raw.headD 0 = protoVersion ∧
      (∃ msgType : HandshakeType, (raw.drop 1).headD 0 = msgType.asU8) ∧
      1221 + leNat ((raw.drop 1219).take 2) + 32 + 16 ≤ handshakeMsgLen := by
  unfold decode
  by_cases size : raw.length = handshakeMsgLen
  · rw [if_neg (not_not.mpr size)]
    dsimp only
    by_cases version : raw.headD 0 = protoVersion
    · rw [if_neg (not_not.mpr version)]
      rcases known : HandshakeType.fromU8 ((raw.drop 1).headD 0) with e | msgType
      · refine iff_of_false (fun ⟨_, impossible⟩ => (by cases impossible)) ?_
        rintro ⟨-, -, ⟨msgType, kind⟩, -⟩
        rw [kind, HandshakeType.fromU8_asU8] at known
        cases known
      · dsimp only
        have kind := HandshakeType.asU8_of_fromU8 known
        by_cases short : (raw.drop 1221).length < leNat ((raw.drop 1219).take 2) + 32 + 16
        · rw [if_pos short]
          rw [List.length_drop, size] at short
          refine iff_of_false (fun ⟨_, impossible⟩ => (by cases impossible)) fun fits => ?_
          have := fits.2.2.2
          omega
        · rw [if_neg short]
          rw [List.length_drop, size] at short
          have header : 1221 < handshakeMsgLen := by decide
          exact iff_of_true ⟨_, rfl⟩ ⟨size, version, ⟨msgType, kind⟩, by omega⟩
    · rw [if_pos version]
      exact iff_of_false (fun ⟨_, impossible⟩ => (by cases impossible)) fun fits => version fits.2.1
  · rw [if_pos size]
    exact iff_of_false (fun ⟨_, impossible⟩ => (by cases impossible)) fun fits => size fits.1

/-! ### The transcript part -/

/-- `transcript_bytes`. -/
def transcriptBytes (message : HandshakeMessage) : Bytes :=
  message.version :: message.msgType.asU8 :: (message.x25519Pub.bytes ++
    match message.msgType with
    | .init => message.aeadAlgo :: message.kem.bytes
    | .response => message.aeadAlgo :: message.mlkemCt.bytes
    | .confirm | .cookieChallenge => [])

theorem length_transcriptBytes_init {message : HandshakeMessage} (kind : message.msgType = .init) :
    message.transcriptBytes.length = 1219 := by
  simp only [transcriptBytes, kind, List.length_cons, List.length_append, Octets.length_bytes]

theorem length_transcriptBytes_response {message : HandshakeMessage}
    (kind : message.msgType = .response) : message.transcriptBytes.length = 1123 := by
  simp only [transcriptBytes, kind, List.length_cons, List.length_append, Octets.length_bytes]

/-- **The transcript part of an Init binds** version, X25519 key, proposed cipher and KEM key. -/
theorem transcriptBytes_init_inj {first second : HandshakeMessage} (firstKind : first.msgType = .init)
    (secondKind : second.msgType = .init)
    (same : first.transcriptBytes = second.transcriptBytes) :
    first.version = second.version ∧ first.x25519Pub = second.x25519Pub ∧
      first.aeadAlgo = second.aeadAlgo ∧ first.kem = second.kem := by
  simp only [transcriptBytes, firstKind, secondKind, List.cons.injEq] at same
  obtain ⟨version, -, rest⟩ := same
  obtain ⟨x, rest⟩ := List.append_inj rest (by rw [Octets.length_bytes, Octets.length_bytes])
  obtain ⟨algo, kem⟩ := List.cons.inj rest
  exact ⟨version, Octets.ext x, algo, Octets.ext kem⟩

/-- **The transcript part of a Response binds** version, X25519 key, chosen cipher and ciphertext. -/
theorem transcriptBytes_response_inj {first second : HandshakeMessage}
    (firstKind : first.msgType = .response) (secondKind : second.msgType = .response)
    (same : first.transcriptBytes = second.transcriptBytes) :
    first.version = second.version ∧ first.x25519Pub = second.x25519Pub ∧
      first.aeadAlgo = second.aeadAlgo ∧ first.mlkemCt = second.mlkemCt := by
  simp only [transcriptBytes, firstKind, secondKind, List.cons.injEq] at same
  obtain ⟨version, -, rest⟩ := same
  obtain ⟨x, rest⟩ := List.append_inj rest (by rw [Octets.length_bytes, Octets.length_bytes])
  obtain ⟨algo, ct⟩ := List.cons.inj rest
  exact ⟨version, Octets.ext x, algo, Octets.ext ct⟩

/-- The ciphertext is read back from the KEM slot. -/
theorem mlkemCt_of_kem {message : HandshakeMessage} {ct : Octets 1088} {noise : Nat → UInt8}
    (slot : message.kem = responseKem ct noise) : message.mlkemCt = ct := by
  apply Octets.ext
  show message.kem.bytes.take mlkemCtLen = ct.bytes
  rw [slot]
  exact List.take_left' ct.length_eq

/-! ### The codec as a whole -/

/-- A well-formed message: the current version, and a signature that leaves room for the other fields. -/
def WellFormed (message : HandshakeMessage) : Prop :=
  message.version = protoVersion ∧ 1221 + message.sig.length + 32 + 16 ≤ handshakeMsgLen

theorem wellFormed_of_decode {raw : Bytes} {message : HandshakeMessage}
    (decoded : decode raw = .ok message) : message.WellFormed := by
  refine ⟨version_of_decode decoded, ?_⟩
  have small := sig_length_of_decode decoded
  have size : handshakeMsgLen = 8192 := rfl
  omega

/-- **A well-formed message is encoded, and decodes to itself.** -/
theorem WellFormed.roundTrip {message : HandshakeMessage} (wellFormed : message.WellFormed)
    (padNoise : Nat → UInt8) :
    ∃ raw, message.encode padNoise = .ok raw ∧ decode raw = .ok message := by
  obtain ⟨current, fits⟩ := wellFormed
  have size : handshakeMsgLen = 8192 := rfl
  obtain ⟨raw, encoded⟩ := (encode_ok_iff message padNoise).mpr (by omega)
  exact ⟨raw, encoded, decode_encode current encoded⟩

/-- The cookie is outside the transcript. -/
theorem transcriptBytes_cookie (message : HandshakeMessage) (cookie : Octets 16) :
    { message with cookie }.transcriptBytes = message.transcriptBytes := rfl

/-- The length field of an encoding. -/
theorem sigLen_of_encode {message : HandshakeMessage} {padNoise : Nat → UInt8} {raw : Bytes}
    (encoded : message.encode padNoise = .ok raw) :
    leNat ((raw.drop 1219).take 2) = message.sig.length := by
  have small : message.sig.length ≤ 6923 := (encode_ok_iff message padNoise).mp ⟨raw, encoded⟩
  unfold encode at encoded
  dsimp only at encoded
  split at encoded
  · cases encoded
  obtain rfl := Except.ok.inj encoded
  have front : message.wireFields = (message.version :: message.msgType.asU8 :: message.aeadAlgo ::
      (message.x25519Pub.bytes ++ message.kem.bytes)) ++ (leBytes 2 message.sig.length ++
        (message.sig ++ (message.mac.bytes ++ message.cookie.bytes))) := by
    rw [wireFields, Nat.mod_eq_of_lt (by omega)]
    simp only [List.cons_append, List.append_assoc]
  have length : (message.version :: message.msgType.asU8 :: message.aeadAlgo ::
      (message.x25519Pub.bytes ++ message.kem.bytes)).length = 1219 := by
    simp only [List.length_cons, List.length_append, Octets.length_bytes]
  rw [front, List.append_assoc, List.drop_left' length, List.append_assoc,
    List.take_left' (length_leBytes _ _)]
  exact leNat_leBytes_of_lt (by omega)

/-- **The handshake message codec.** A well-formed message decodes to itself, with any padding. Encoding
fails exactly when the fields and the signature exceed the fixed size, and the length field of what is
encoded is the length of the signature, not a truncation. A string decodes exactly when size, version,
type and signature length are right. An Init encoded again with a cookie arrives with that cookie and
brings the same octets into the transcript. -/
theorem codec (message : HandshakeMessage) (padNoise : Nat → UInt8) :
    (message.WellFormed → ∃ raw, message.encode padNoise = .ok raw ∧ decode raw = .ok message) ∧
      ((∃ e, message.encode padNoise = .error e) ↔
        handshakeMsgLen < 3 + 32 + 1184 + 2 + message.sig.length + 32 + 16) ∧
      (∀ raw, message.encode padNoise = .ok raw →
        leNat ((raw.drop 1219).take 2) = message.sig.length) ∧
      (∀ raw, (∃ decoded, decode raw = .ok decoded) ↔
        raw.length = handshakeMsgLen ∧ raw.headD 0 = protoVersion ∧
          (∃ msgType : HandshakeType, (raw.drop 1).headD 0 = msgType.asU8) ∧
          1221 + leNat ((raw.drop 1219).take 2) + 32 + 16 ≤ handshakeMsgLen) ∧
      ∀ raw, decode raw = .ok message → message.msgType = .init → ∀ cookie,
        ∃ again, { message with cookie }.encode padNoise = .ok again ∧
          decode again = .ok { message with cookie } ∧
          { message with cookie }.transcriptBytes = message.transcriptBytes := by
  refine ⟨fun wellFormed => wellFormed.roundTrip padNoise, ?_, fun raw => sigLen_of_encode, decode_ok_iff, ?_⟩
  · have fails : (∃ e, message.encode padNoise = .error e) ↔
        ¬ ∃ raw, message.encode padNoise = .ok raw := by
      cases message.encode padNoise with
      | error e => exact iff_of_true ⟨e, rfl⟩ fun ⟨_, impossible⟩ => (by cases impossible)
      | ok raw => exact iff_of_false (fun ⟨_, impossible⟩ => (by cases impossible)) (not_not.mpr ⟨raw, rfl⟩)
    have size : handshakeMsgLen = 8192 := rfl
    rw [fails, encode_ok_iff]
    omega
  · intro raw decoded _ cookie
    have wellFormed := wellFormed_of_decode decoded
    have withCookie : { message with cookie }.WellFormed := wellFormed
    obtain ⟨again, encoded, received⟩ := withCookie.roundTrip padNoise
    exact ⟨again, encoded, received, transcriptBytes_cookie message cookie⟩

end HandshakeMessage

end ChameleonPQ
