/-
**The wire frame (`frame.rs`).**

The frame types with their wire bytes, and the cleartext frame codec. `decode_encode` is the round
trip; the frame needs no length field because the datagram carries the boundary.
-/

import ChameleonPQ.Error
import ChameleonPQ.Library.Octets

namespace ChameleonPQ

open Library

/-- `HEADER_LEN`: type, session id, sequence. -/
def headerLen : Nat := 13

/-- `MAX_PAYLOAD`. -/
def maxPayload : Nat := 1280 - headerLen

/-- `type ‖ session_id ‖ sequence`, the header layout every framing of this project uses. -/
def headerBytes (kind : UInt8) (sessionId : UInt32) (sequence : Nat) : Bytes :=
  kind :: (leBytes 4 sessionId.toNat ++ leBytes 8 sequence)

/-! ### Reading a header -/

section Header

variable (kind : UInt8) (sessionId : UInt32) (sequence : Nat) (rest : Bytes)

@[simp] theorem length_headerBytes : (headerBytes kind sessionId sequence).length = headerLen := by
  simp [headerBytes, headerLen]

theorem drop_headerBytes : (headerBytes kind sessionId sequence ++ rest).drop headerLen = rest :=
  List.drop_left' (length_headerBytes _ _ _)

theorem headerBytes_kind : (headerBytes kind sessionId sequence ++ rest).headD 0 = kind := rfl

theorem headerBytes_sessionId :
    UInt32.ofNat (leNat (((headerBytes kind sessionId sequence ++ rest).drop 1).take 4)) =
      sessionId := by
  have read : ((headerBytes kind sessionId sequence ++ rest).drop 1).take 4 =
      leBytes 4 sessionId.toNat := by
    rw [headerBytes, List.cons_append, List.drop_one, List.tail_cons, List.append_assoc]
    exact List.take_left' (length_leBytes _ _)
  rw [read, leNat_leBytes_of_lt sessionId.toNat_lt, UInt32.ofNat_toNat]

theorem headerBytes_sequence (small : sequence < 2 ^ 64) :
    leNat (((headerBytes kind sessionId sequence ++ rest).drop 5).take 8) = sequence := by
  have read : ((headerBytes kind sessionId sequence ++ rest).drop 5).take 8 = leBytes 8 sequence := by
    have split : headerBytes kind sessionId sequence ++ rest =
        (kind :: leBytes 4 sessionId.toNat) ++ (leBytes 8 sequence ++ rest) := by
      simp [headerBytes]
    rw [split, List.drop_left' (by simp)]
    exact List.take_left' (length_leBytes _ _)
  rw [read, leNat_leBytes_of_lt small]

/-- The fields a header-sized string is read as make it up. -/
theorem headerBytes_of_length {raw : Bytes} (length : raw.length = headerLen) :
    headerBytes (raw.headD 0) (UInt32.ofNat (leNat ((raw.drop 1).take 4)))
      (leNat ((raw.drop 5).take 8)) = raw := by
  cases raw with
  | nil => cases length
  | cons first fields =>
    have size : fields.length = 12 := Nat.succ.inj length
    have idLength : (fields.take 4).length = 4 := List.length_take_of_le (by omega)
    have counterLength : ((fields.drop 4).take 8).length = 8 :=
      List.length_take_of_le (by rw [List.length_drop]; omega)
    have id : leBytes 4 (UInt32.ofNat (leNat (fields.take 4))).toNat = fields.take 4 := by
      have small := leNat_lt (fields.take 4)
      rw [idLength] at small
      have read := leBytes_leNat (fields.take 4)
      rw [idLength] at read
      rw [UInt32.toNat_ofNat_of_lt' small, read]
    have counter : leBytes 8 (leNat ((fields.drop 4).take 8)) = fields.drop 4 := by
      have read := leBytes_leNat ((fields.drop 4).take 8)
      rw [counterLength] at read
      rw [read, List.take_of_length_le (by rw [List.length_drop]; omega)]
    show first :: (leBytes 4 (UInt32.ofNat (leNat (fields.take 4))).toNat ++
      leBytes 8 (leNat ((fields.drop 4).take 8))) = first :: fields
    rw [id, counter, List.take_append_drop]

end Header

/-- `FrameType`. -/
inductive FrameType where
  | data
  | handshake
  | keepAlive
  | close
  | padding
  | profile
  deriving DecidableEq, Repr

namespace FrameType

/-- The wire byte (`as u8`). -/
def asU8 : FrameType → UInt8
  | data => 0x01
  | handshake => 0x02
  | keepAlive => 0x03
  | close => 0x04
  | padding => 0x05
  | profile => 0x06

/-- `from_u8`: unknown types fail closed. -/
def fromU8 (value : UInt8) : Result FrameType :=
  if value = 0x01 then .ok data
  else if value = 0x02 then .ok handshake
  else if value = 0x03 then .ok keepAlive
  else if value = 0x04 then .ok close
  else if value = 0x05 then .ok padding
  else if value = 0x06 then .ok profile
  else .error (.unknownFrameType value)

@[simp] theorem fromU8_asU8 (frameType : FrameType) : fromU8 frameType.asU8 = .ok frameType := by
  cases frameType <;> rfl

theorem asU8_of_fromU8 {value : UInt8} {frameType : FrameType} (known : fromU8 value = .ok frameType) :
    value = frameType.asU8 := by
  unfold fromU8 at known
  split_ifs at known with h1 h2 h3 h4 h5 h6 <;>
    · obtain rfl := Except.ok.inj known
      assumption

end FrameType

/-- `Frame`. -/
structure Frame where
  frameType : FrameType
  sessionId : UInt32
  sequence : UInt64
  payload : Bytes
  deriving DecidableEq

namespace Frame

/-- `new_handshake`. -/
def newHandshake (payload : Bytes) : Frame := ⟨.handshake, 0, 0, payload⟩

/-- `encode`. -/
def encode (frame : Frame) : Result Bytes :=
  if maxPayload < frame.payload.length then .error (.payloadTooLarge frame.payload.length)
  else .ok (headerBytes frame.frameType.asU8 frame.sessionId frame.sequence.toNat ++ frame.payload)

/-- `decode`: no length field, the datagram provides the boundary. -/
def decode (raw : Bytes) : Result Frame :=
  if raw.length < headerLen then .error (.packetTooShort raw.length headerLen)
  else
    match FrameType.fromU8 (raw.headD 0) with
    | .error e => .error e
    | .ok frameType =>
      .ok { frameType
            sessionId := UInt32.ofNat (leNat ((raw.drop 1).take 4))
            sequence := UInt64.ofNat (leNat ((raw.drop 5).take 8))
            payload := raw.drop headerLen }

/-- **The frame round trip.** -/
theorem decode_encode {frame : Frame} {raw : Bytes} (success : frame.encode = .ok raw) :
    decode raw = .ok frame := by
  unfold encode at success
  split at success
  · cases success
  · cases success
    rw [decode, if_neg (by simp), headerBytes_kind, FrameType.fromU8_asU8, headerBytes_sessionId,
      headerBytes_sequence _ _ _ _ frame.sequence.toNat_lt, drop_headerBytes, UInt64.ofNat_toNat]

end Frame

end ChameleonPQ
