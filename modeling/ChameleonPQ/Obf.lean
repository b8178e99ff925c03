/-
**The obfuscation layer of the data path (`obf.rs`).**

Header protection: the 13-octet header is masked with a keystream drawn from the last 16 octets of
the ciphertext, so the opener recovers it from the datagram alone (`unmask_sealWire`). Inner framing:
`inner_type ‖ real_len ‖ plaintext ‖ padding`, inverted by `unpackInner_packInner` for every policy and
every choice of padding; `padTarget_le` and `padTarget_full` are the size facts.
-/

import ChameleonPQ.Crypto.Primitives
import ChameleonPQ.Frame

namespace ChameleonPQ

open Library

namespace Obf

/-- `SAMPLE_LEN`. -/
def sampleLen : Nat := 16

/-- `HP_HEADER_LEN`. -/
def hpHeaderLen : Nat := headerLen

/-- `MTU_WIRE`. -/
def mtuWire : Nat := 1280

/-- `WIRE_TYPE_DATA`. -/
def wireTypeData : UInt8 := 0x01

/-- `INNER_HEADER_LEN`. -/
def innerHeaderLen : Nat := 3

/-- `PadPolicy`. -/
inductive PadPolicy where
  | off
  | bucketed
  | full
  deriving DecidableEq, Repr

/-- `BUCKETS`. -/
def buckets : List Nat := [64, 128, 256, 512, 1024]

/-- `max_framed`: saturating, as the source. -/
def maxFramed (tagLen : Nat) : Nat := mtuWire - hpHeaderLen - tagLen

/-- `Recovered`: what the masked header gives back. -/
structure Recovered where
  wireType : UInt8
  sessionId : UInt32
  counter : Nat
  deriving DecidableEq, Repr

/-! ### Header protection -/

/-- `header_mask`. -/
def headerMask (prims : Primitives) (obfKey : Octets 32) (sample : Bytes) : Bytes :=
  (prims.hmacSha256 obfKey.bytes sample).bytes.take hpHeaderLen

/-- `sample_of`: the last `SAMPLE_LEN` octets. -/
def sampleOf (ct : Bytes) : Bytes := ct.drop (ct.length - sampleLen)

/-- `seal_wire`: `masked_H ‖ ct`. -/
def sealWire (prims : Primitives) (obfKey : Octets 32) (sessionId : UInt32) (counter : Nat)
    (ct : Bytes) : Bytes :=
  mask (headerMask prims obfKey (sampleOf ct)) (headerBytes wireTypeData sessionId counter) ++ ct

/-- `unmask`: `none` for a datagram too short to carry a header and a sample. -/
def unmask (prims : Primitives) (obfKey : Octets 32) (datagram : Bytes) : Option Recovered :=
  if datagram.length < hpHeaderLen + sampleLen then none
  else
    let header := mask (headerMask prims obfKey (sampleOf datagram)) (datagram.take hpHeaderLen)
    some { wireType := header.headD 0
           sessionId := UInt32.ofNat (leNat ((header.drop 1).take 4))
           counter := leNat ((header.drop 5).take 8) }

/-- `ct_slice`. -/
def ctSlice (datagram : Bytes) : Bytes := datagram.drop hpHeaderLen

section Wire

variable (prims : Primitives) (obfKey : Octets 32) (sessionId : UInt32) (counter : Nat)

@[simp] theorem length_headerMask (sample : Bytes) :
    (headerMask prims obfKey sample).length = headerLen := by
  rw [headerMask, List.length_take, Octets.length_bytes]
  rfl

@[simp] theorem length_maskedHeader (sample : Bytes) :
    (mask (headerMask prims obfKey sample) (headerBytes wireTypeData sessionId counter)).length =
      headerLen := by
  rw [length_mask, length_headerMask, length_headerBytes, Nat.min_self]

theorem length_sealWire (ct : Bytes) :
    (sealWire prims obfKey sessionId counter ct).length = headerLen + ct.length := by
  rw [sealWire, List.length_append, length_maskedHeader]

theorem ctSlice_sealWire (ct : Bytes) :
    ctSlice (sealWire prims obfKey sessionId counter ct) = ct :=
  List.drop_left' (length_maskedHeader _ _ _ _ _)

/-- The sample is inside the ciphertext, so prefixing a header does not move it. -/
theorem sampleOf_append (header : Bytes) {ct : Bytes} (long : sampleLen ≤ ct.length) :
    sampleOf (header ++ ct) = sampleOf ct := by
  have position : (header ++ ct).length - sampleLen = header.length + (ct.length - sampleLen) := by
    rw [List.length_append]
    omega
  rw [sampleOf, sampleOf, position, List.drop_append]
  simp

/-- **The opener recovers the header before it knows the counter.** -/
theorem unmask_sealWire {ct : Bytes} (long : sampleLen ≤ ct.length) (small : counter < 2 ^ 64) :
    unmask prims obfKey (sealWire prims obfKey sessionId counter ct) =
      some ⟨wireTypeData, sessionId, counter⟩ := by
  have enough : ¬ (sealWire prims obfKey sessionId counter ct).length < hpHeaderLen + sampleLen := by
    rw [length_sealWire]
    exact Nat.not_lt.mpr (Nat.add_le_add_left long _)
  have front : (sealWire prims obfKey sessionId counter ct).take hpHeaderLen =
      mask (headerMask prims obfKey (sampleOf ct)) (headerBytes wireTypeData sessionId counter) :=
    List.take_left' (length_maskedHeader _ _ _ _ _)
  have sample : sampleOf (sealWire prims obfKey sessionId counter ct) = sampleOf ct :=
    sampleOf_append _ long
  have header : mask (headerMask prims obfKey (sampleOf ct))
      (mask (headerMask prims obfKey (sampleOf ct)) (headerBytes wireTypeData sessionId counter)) =
        headerBytes wireTypeData sessionId counter ++ [] := by
    rw [List.append_nil]
    exact mask_mask _ _ (by simp)
  rw [unmask, if_neg enough]
  simp only [front, sample, header, headerBytes_kind, headerBytes_sessionId]
  rw [headerBytes_sequence _ _ _ _ small]

end Wire

/-! ### Inner framing -/

/-- `pad_target`. -/
def padTarget (base : Nat) (policy : PadPolicy) (maxFramed : Nat) : Nat :=
  match policy with
  | .off => base
  | .full => if base ≤ maxFramed then maxFramed else base
  | .bucketed =>
    match buckets.find? fun b => decide (base ≤ b ∧ b ≤ maxFramed) with
    | some b => b
    | none => base

/-- `pack_inner`; `noise` is the operating system's random stream. -/
def packInner (innerType : UInt8) (plaintext : Bytes) (policy : PadPolicy) (maxFramed : Nat)
    (noise : Nat → UInt8) : Bytes :=
  let realLen := plaintext.length
  let base := innerHeaderLen + realLen
  let target := padTarget base policy maxFramed
  innerType :: (leBytes 2 realLen ++ plaintext ++
    if base < target then (Octets.ofStream (target - base) noise).bytes else [])

/-- `unpack_inner`. -/
def unpackInner (framed : Bytes) : Result (UInt8 × Bytes) :=
  if framed.length < innerHeaderLen then .error (.packetTooShort framed.length innerHeaderLen)
  else
    let realLen := leNat ((framed.drop 1).take 2)
    let last := innerHeaderLen + realLen
    if framed.length < last then .error .decryptionFailed
    else .ok (framed.headD 0, (framed.take last).drop innerHeaderLen)

/-- Padding never shortens the frame. -/
theorem le_padTarget (base : Nat) (policy : PadPolicy) (maxFramed : Nat) :
    base ≤ padTarget base policy maxFramed := by
  cases policy with
  | off => exact le_rfl
  | full =>
    simp only [padTarget]
    split
    · assumption
    · exact le_rfl
  | bucketed =>
    simp only [padTarget]
    split
    · rename_i b found
      have good := List.find?_some found
      exact (of_decide_eq_true good).1
    · exact le_rfl

/-- Padding stays within the MTU-safe limit whenever the frame does. -/
theorem padTarget_le {base maxFramed : Nat} (policy : PadPolicy) (fits : base ≤ maxFramed) :
    padTarget base policy maxFramed ≤ maxFramed := by
  cases policy with
  | off => exact fits
  | full => rw [padTarget, if_pos fits]
  | bucketed =>
    simp only [padTarget]
    split
    · rename_i b found
      have good := List.find?_some found
      exact (of_decide_eq_true good).2
    · exact fits

theorem padTarget_full {base maxFramed : Nat} (fits : base ≤ maxFramed) :
    padTarget base .full maxFramed = maxFramed := if_pos fits

/-- The packed frame has exactly the chosen target length. -/
theorem length_packInner (innerType : UInt8) (plaintext : Bytes) (policy : PadPolicy)
    (maxFramed : Nat) (noise : Nat → UInt8) :
    (packInner innerType plaintext policy maxFramed noise).length =
      padTarget (innerHeaderLen + plaintext.length) policy maxFramed := by
  have bound := le_padTarget (innerHeaderLen + plaintext.length) policy maxFramed
  simp only [packInner]
  by_cases larger : innerHeaderLen + plaintext.length <
      padTarget (innerHeaderLen + plaintext.length) policy maxFramed
  · rw [if_pos larger]
    simp only [List.length_cons, List.length_append, length_leBytes, Octets.length_bytes,
      innerHeaderLen] at larger ⊢
    omega
  · rw [if_neg larger]
    simp only [List.length_cons, List.length_append, length_leBytes, List.length_nil,
      innerHeaderLen] at bound larger ⊢
    omega

/-- **The inner round trip**, for every policy and every padding. -/
theorem unpackInner_packInner (innerType : UInt8) {plaintext : Bytes} (policy : PadPolicy)
    (maxFramed : Nat) (noise : Nat → UInt8) (short : plaintext.length ≤ 65535) :
    unpackInner (packInner innerType plaintext policy maxFramed noise) = .ok (innerType, plaintext) := by
  have length := length_packInner innerType plaintext policy maxFramed noise
  have bound := le_padTarget (innerHeaderLen + plaintext.length) policy maxFramed
  obtain ⟨pad, packed⟩ : ∃ pad, packInner innerType plaintext policy maxFramed noise =
      innerType :: (leBytes 2 plaintext.length ++ plaintext ++ pad) := ⟨_, rfl⟩
  have realLen : leNat (((innerType :: (leBytes 2 plaintext.length ++ plaintext ++ pad)).drop
      1).take 2) = plaintext.length := by
    rw [List.drop_one, List.tail_cons, List.append_assoc, List.take_left' (length_leBytes _ _)]
    exact leNat_leBytes_of_lt (Nat.lt_succ_of_le short)
  have payload : ((innerType :: (leBytes 2 plaintext.length ++ plaintext ++ pad)).take
      (innerHeaderLen + plaintext.length)).drop innerHeaderLen = plaintext := by
    have split : innerType :: (leBytes 2 plaintext.length ++ plaintext ++ pad) =
        (innerType :: leBytes 2 plaintext.length) ++ plaintext ++ pad := by simp
    rw [split, List.take_left' (by simp [innerHeaderLen]; omega), List.drop_left' (by simp [innerHeaderLen])]
  rw [packed] at length ⊢
  rw [unpackInner, if_neg (by rw [length]; omega)]
  simp only [realLen, payload, List.headD_cons]
  rw [if_neg (by rw [length]; omega)]

end Obf

end ChameleonPQ
