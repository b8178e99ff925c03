/-
**No attacker-facing parser panics (`frame.rs`, `tunnel.rs`, `obf.rs`, `hsobf.rs`).**

Each parser once more, with the buffer reads, ranges, differences and conversions of the source as
operations that panic when they are out of range. `decodeChecked_eq` and its siblings: on every string the
parser runs to its end, with the result the other modules work with. `parsers_never_panic` puts them
together.
-/

import ChameleonPQ.Library.Panics
import ChameleonPQ.Obf
import ChameleonPQ.Transport.Datagrams

namespace ChameleonPQ

open Library

/-! ### The parsers as the source writes them -/

/-- `Frame::decode`. -/
def Frame.decodeChecked (raw : Bytes) : Checked (Result Frame) :=
  if raw.length < headerLen then pure (.error (.packetTooShort raw.length headerLen))
  else do
    let (kind, raw) ← getU8 raw
    match FrameType.fromU8 kind with
    | .error e => pure (.error e)
    | .ok frameType => do
      let (sessionId, raw) ← getLe 4 raw
      let (sequence, raw) ← getLe 8 raw
      let (payload, _) ← takeOctets raw.length raw
      pure (.ok ⟨frameType, UInt32.ofNat sessionId, UInt64.ofNat sequence, payload⟩)

/-- `HandshakeMessage::decode`. -/
def HandshakeMessage.decodeChecked (raw : Bytes) : Checked (Result HandshakeMessage) :=
  if raw.length ≠ handshakeMsgLen then
    pure (.error (.handshake "decode" s!"expected {handshakeMsgLen}, got {raw.length}"))
  else do
    let (version, raw) ← getU8 raw
    if version ≠ protoVersion then pure (.error (.handshake "decode" s!"bad version {version}"))
    else do
      let (kind, raw) ← getU8 raw
      match HandshakeType.fromU8 kind with
      | .error e => pure (.error e)
      | .ok msgType => do
        let (aeadAlgo, raw) ← getU8 raw
        let (x25519Pub, raw) ← getArray 32 raw
        let (kem, raw) ← getArray 1184 raw
        let (sigLen, raw) ← getLe 2 raw
        let withMac ← addChecked sigLen 32
        let needed ← addChecked withMac 16
        if raw.length < needed then pure (.error (.handshake "decode" "truncated sig/mac/cookie"))
        else do
          let (sig, raw) ← takeOctets sigLen raw
          let (mac, raw) ← getArray 32 raw
          let (cookie, _) ← getArray 16 raw
          pure (.ok { version, msgType, aeadAlgo, x25519Pub, kem, sig, mac, cookie })

section Obfuscated

variable (prims : Primitives)

/-- `header_mask`. -/
def Obf.headerMaskChecked (obfKey : Octets 32) (sample : Bytes) : Checked Bytes := do
  let front ← slice (prims.hmacSha256 obfKey.bytes sample).bytes 0 hpHeaderLen
  let mask ← toArray hpHeaderLen front
  pure mask.bytes

/-- `sample_of`. -/
def Obf.sampleOfChecked (ct : Bytes) : Checked Bytes := do
  let first ← subChecked ct.length sampleLen
  sliceFrom ct first

/-- `unmask`. -/
def Obf.unmaskChecked (obfKey : Octets 32) (datagram : Bytes) : Checked (Option Recovered) :=
  if datagram.length < hpHeaderLen + sampleLen then pure none
  else do
    let sample ← Obf.sampleOfChecked datagram
    let mask ← Obf.headerMaskChecked prims obfKey sample
    let header ← xorLoop datagram mask hpHeaderLen
    let wireType ← byteAt header 0
    let sessionId ← slice header 1 5
    let sessionId ← toArray 4 sessionId
    let counter ← slice header 5 13
    let counter ← toArray 8 counter
    pure (some ⟨wireType, UInt32.ofNat (leNat sessionId.bytes), leNat counter.bytes⟩)

/-- `ct_slice`. -/
def Obf.ctSliceChecked (datagram : Bytes) : Checked Bytes := sliceFrom datagram hpHeaderLen

/-- `unpack_inner`. -/
def Obf.unpackInnerChecked (framed : Bytes) : Checked (Result (UInt8 × Bytes)) :=
  if framed.length < innerHeaderLen then pure (.error (.packetTooShort framed.length innerHeaderLen))
  else do
    let innerType ← byteAt framed 0
    let low ← byteAt framed 1
    let high ← byteAt framed 2
    let last ← addChecked innerHeaderLen (leNat [low, high])
    if framed.length < last then pure (.error .decryptionFailed)
    else do
      let plain ← slice framed innerHeaderLen last
      pure (.ok (innerType, plain))

/-- `frag_mask`. -/
def HsObf.fragMaskChecked (key : Octets 32) (msgId : UInt32) : Checked Bytes := do
  let front ← slice (prims.hmacSha256 key.bytes (leBytes 4 msgId.toNat)).bytes 0 4
  let mask ← toArray 4 front
  pure mask.bytes

/-- `unmask_fragment`. -/
def HsObf.unmaskFragmentChecked (key : Octets 32) (raw : Bytes) :
    Checked (Option (UInt32 × Nat × Nat × Bytes)) :=
  if raw.length < hsFragHeaderLen then pure none
  else do
    let raw0 ← byteAt raw 0
    let raw1 ← byteAt raw 1
    let raw2 ← byteAt raw 2
    let raw3 ← byteAt raw 3
    let msgId := UInt32.ofNat (leNat [raw0, raw1, raw2, raw3])
    let mask ← HsObf.fragMaskChecked prims key msgId
    let raw4 ← byteAt raw 4
    let mask0 ← byteAt mask 0
    let raw5 ← byteAt raw 5
    let mask1 ← byteAt mask 1
    let index := leNat [raw4 ^^^ mask0, raw5 ^^^ mask1]
    let raw6 ← byteAt raw 6
    let mask2 ← byteAt mask 2
    let raw7 ← byteAt raw 7
    let mask3 ← byteAt mask 3
    let total := leNat [raw6 ^^^ mask2, raw7 ^^^ mask3]
    if total = 0 ∨ maxFragments < total ∨ total ≤ index then pure none
    else do
      let chunk ← sliceFrom raw hsFragHeaderLen
      pure (some (msgId, index, total, chunk))

/-- `open`; a nonce of another length is an error of `try_assume_unique_for_key`. -/
def HsObf.openChecked (key : Octets 32) (reassembled : Bytes) : Checked (Result Bytes) :=
  if reassembled.length < hsNonceLen + hsTagLen then pure (.error .decryptionFailed)
  else do
    let (nonce, ct) ← splitAt reassembled hsNonceLen
    if nonce.length ≠ hsNonceLen then pure (.error .decryptionFailed)
    else
      match prims.chachaOpen key nonce [] ct with
      | none => pure (.error .decryptionFailed)
      | some plain => pure (.ok plain)

end Obfuscated

/-- `Reassembler::push`. -/
def Reassembler.pushChecked (reasm : Reassembler) (now : Nat) (raw : Bytes) :
    Checked (Result (Option Bytes) × Reassembler) :=
  if raw.length < fragHeaderLen then pure (.error (.packetTooShort raw.length fragHeaderLen), reasm)
  else do
    let hdr ← slice raw 0 fragHeaderLen
    let (msgId, hdr) ← getLe 4 hdr
    let (index, hdr) ← getLe 2 hdr
    let (total, _) ← getLe 2 hdr
    let payload ← sliceFrom raw fragHeaderLen
    pure (reasm.pushParts now (UInt32.ofNat msgId) index total payload)

/-! ### They run to their end -/

theorem Frame.decodeChecked_eq (raw : Bytes) : Frame.decodeChecked raw = .done (Frame.decode raw) := by
  unfold Frame.decodeChecked Frame.decode
  by_cases short : raw.length < headerLen
  · rw [if_pos short, if_pos short]
    rfl
  have long : 13 ≤ raw.length := Nat.not_lt.mp short
  rw [if_neg short, if_neg short, getU8_eq (by omega), Checked.done_bind]
  dsimp only
  cases FrameType.fromU8 (raw.headD 0) with
  | error e => rfl
  | ok frameType =>
    have afterKind : 4 ≤ (raw.drop 1).length := by
      rw [List.length_drop]
      omega
    have afterId : 8 ≤ (raw.drop 5).length := by
      rw [List.length_drop]
      omega
    dsimp only
    rw [getLe_eq afterKind, Checked.done_bind, List.drop_drop]
    dsimp only
    rw [getLe_eq afterId, Checked.done_bind, List.drop_drop]
    dsimp only
    rw [takeOctets_eq le_rfl, Checked.done_bind, List.take_length]
    rfl

theorem HandshakeMessage.decodeChecked_eq (raw : Bytes) :
    HandshakeMessage.decodeChecked raw = .done (HandshakeMessage.decode raw) := by
  unfold HandshakeMessage.decodeChecked HandshakeMessage.decode
  by_cases size : raw.length ≠ handshakeMsgLen
  · rw [if_pos size, if_pos size]
    rfl
  have length : raw.length = 8192 := not_not.mp size
  have left : ∀ read, (raw.drop read).length = 8192 - read := fun read => by rw [List.length_drop, length]
  rw [if_neg size, if_neg size, getU8_eq (by omega), Checked.done_bind]
  dsimp only
  by_cases version : raw.headD 0 ≠ protoVersion
  · rw [if_pos version, if_pos version]
    rfl
  rw [if_neg version, if_neg version, getU8_eq (by rw [left]; decide), Checked.done_bind]
  dsimp only
  cases HandshakeType.fromU8 ((raw.drop 1).headD 0) with
  | error e => rfl
  | ok msgType =>
    dsimp only
    rw [List.drop_drop, getU8_eq (by rw [left]; decide), Checked.done_bind]
    dsimp only
    rw [List.drop_drop, getArray_eq (by rw [left]; decide), Checked.done_bind]
    dsimp only
    rw [List.drop_drop, getArray_eq (by rw [left]; decide), Checked.done_bind]
    dsimp only
    rw [List.drop_drop, getLe_eq (by rw [left]; decide), Checked.done_bind]
    dsimp only
    -- the length field is a 16-bit number, so the sum does not wrap
    have small := leNat_lt ((raw.drop 1219).take 2)
    rw [List.length_take_of_le (by rw [left]; decide)] at small
    simp only [List.drop_drop, Nat.reduceAdd]
    rw [addChecked_eq (by omega), Checked.done_bind, addChecked_eq (by omega), Checked.done_bind]
    by_cases short : (raw.drop 1221).length < leNat ((raw.drop 1219).take 2) + 32 + 16
    · rw [if_pos short, if_pos short]
      rfl
    rw [if_neg short, if_neg short, takeOctets_eq (by omega), Checked.done_bind]
    dsimp only
    rw [getArray_eq (by rw [List.length_drop]; omega), Checked.done_bind]
    dsimp only
    rw [List.drop_drop, getArray_eq (by rw [List.length_drop]; omega), Checked.done_bind]
    simp only [List.drop_drop, Checked.pure_eq]

section Obfuscated

variable (prims : Primitives)

theorem Obf.headerMaskChecked_eq (obfKey : Octets 32) (sample : Bytes) :
    Obf.headerMaskChecked prims obfKey sample = .done (Obf.headerMask prims obfKey sample) := by
  have tag : (prims.hmacSha256 obfKey.bytes sample).bytes.length = 32 := Octets.length_eq _
  have front : ((prims.hmacSha256 obfKey.bytes sample).bytes.take hpHeaderLen).length = hpHeaderLen :=
    List.length_take_of_le (by rw [tag]; decide)
  rw [Obf.headerMaskChecked, slice_eq (Nat.zero_le _) (by rw [tag]; decide), Checked.done_bind,
    List.drop_zero, toArray_eq front]
  rfl

theorem Obf.sampleOfChecked_eq {ct : Bytes} (long : Obf.sampleLen ≤ ct.length) :
    Obf.sampleOfChecked ct = .done (Obf.sampleOf ct) := by
  rw [Obf.sampleOfChecked, subChecked_eq long, Checked.done_bind, sliceFrom_eq (Nat.sub_le _ _)]
  rfl

theorem Obf.unmaskChecked_eq (obfKey : Octets 32) (datagram : Bytes) :
    Obf.unmaskChecked prims obfKey datagram = .done (Obf.unmask prims obfKey datagram) := by
  unfold Obf.unmaskChecked Obf.unmask
  by_cases short : datagram.length < Obf.hpHeaderLen + Obf.sampleLen
  · rw [if_pos short, if_pos short]
    rfl
  have long : Obf.hpHeaderLen + Obf.sampleLen ≤ datagram.length := Nat.not_lt.mp short
  have enough : Obf.hpHeaderLen ≤ datagram.length := (Nat.le_add_right _ _).trans long
  have maskLength : (Obf.headerMask prims obfKey (Obf.sampleOf datagram)).length = Obf.hpHeaderLen :=
    Obf.length_headerMask prims obfKey _
  rw [if_neg short, if_neg short, Obf.sampleOfChecked_eq ((Nat.le_add_left _ _).trans long),
    Checked.done_bind, Obf.headerMaskChecked_eq, Checked.done_bind, xorLoop_eq enough maskLength.ge,
    Checked.done_bind, List.take_of_length_le maskLength.le]
  have length : (mask (Obf.headerMask prims obfKey (Obf.sampleOf datagram))
      (datagram.take Obf.hpHeaderLen)).length = 13 := by
    rw [length_mask, maskLength, List.length_take_of_le enough]
    rfl
  dsimp only
  generalize mask (Obf.headerMask prims obfKey (Obf.sampleOf datagram))
    (datagram.take Obf.hpHeaderLen) = header at length
  have first : header.getD 0 0 = header.headD 0 := by cases header <;> rfl
  have idLength : ((header.take 5).drop 1).length = 4 := by
    rw [List.length_drop, List.length_take_of_le (by omega)]
  have counterLength : ((header.take 13).drop 5).length = 8 := by
    rw [List.length_drop, List.length_take_of_le (by omega)]
  rw [byteAt_eq (by omega), Checked.done_bind, slice_eq (by decide) (by omega), Checked.done_bind,
    toArray_eq idLength, Checked.done_bind, slice_eq (by decide) (by omega), Checked.done_bind,
    toArray_eq counterLength, Checked.done_bind, first]
  simp only [List.drop_take, Checked.pure_eq]

theorem Obf.ctSliceChecked_eq {obfKey : Octets 32} {datagram : Bytes} {recovered : Obf.Recovered}
    (unmasked : Obf.unmask prims obfKey datagram = some recovered) :
    Obf.ctSliceChecked datagram = .done (Obf.ctSlice datagram) := by
  unfold Obf.unmask at unmasked
  split at unmasked
  · cases unmasked
  · rename_i long
    exact sliceFrom_eq ((Nat.le_add_right _ _).trans (Nat.not_lt.mp long))

theorem Obf.unpackInnerChecked_eq (framed : Bytes) :
    Obf.unpackInnerChecked framed = .done (Obf.unpackInner framed) := by
  unfold Obf.unpackInnerChecked Obf.unpackInner
  by_cases short : framed.length < Obf.innerHeaderLen
  · rw [if_pos short, if_pos short]
    rfl
  rw [if_neg short, if_neg short]
  -- three octets are there
  obtain _ | ⟨innerType, _ | ⟨low, _ | ⟨high, rest⟩⟩⟩ := framed
  · exact absurd (Nat.succ_pos 2) short
  · exact absurd (Nat.succ_lt_succ (Nat.succ_pos 1)) short
  · exact absurd (Nat.lt_succ_self 2) short
  have small := leNat_lt [low, high]
  rw [byteAt_eq (by simp), Checked.done_bind, byteAt_eq (by simp), Checked.done_bind, byteAt_eq (by simp),
    Checked.done_bind]
  simp only [List.getD_cons_succ, List.getD_cons_zero]
  rw [addChecked_eq (by unfold Obf.innerHeaderLen; simp at small; omega), Checked.done_bind]
  have field : ((innerType :: low :: high :: rest).drop 1).take 2 = [low, high] := rfl
  rw [field]
  by_cases beyond : (innerType :: low :: high :: rest).length < Obf.innerHeaderLen + leNat [low, high]
  · rw [if_pos beyond, if_pos beyond]
    rfl
  · rw [if_neg beyond, if_neg beyond, slice_eq (Nat.le_add_right _ _) (Nat.not_lt.mp beyond)]
    rfl

theorem HsObf.fragMaskChecked_eq (key : Octets 32) (msgId : UInt32) :
    HsObf.fragMaskChecked prims key msgId = .done (HsObf.fragMask prims key msgId) := by
  have tag : (prims.hmacSha256 key.bytes (leBytes 4 msgId.toNat)).bytes.length = 32 := Octets.length_eq _
  have front : ((prims.hmacSha256 key.bytes (leBytes 4 msgId.toNat)).bytes.take 4).length = 4 :=
    List.length_take_of_le (by rw [tag]; decide)
  rw [HsObf.fragMaskChecked, slice_eq (Nat.zero_le _) (by rw [tag]; decide), Checked.done_bind,
    List.drop_zero, toArray_eq front]
  rfl

theorem HsObf.unmaskFragmentChecked_eq (key : Octets 32) (raw : Bytes) :
    HsObf.unmaskFragmentChecked prims key raw = .done (HsObf.unmaskFragment prims key raw) := by
  unfold HsObf.unmaskFragmentChecked HsObf.unmaskFragment
  by_cases short : raw.length < HsObf.hsFragHeaderLen
  · rw [if_pos short, if_pos short]
    rfl
  have enough : 8 ≤ raw.length := Nat.not_lt.mp short
  have front := take_four (show 4 ≤ raw.length by omega)
  have dropped : ∀ i, (raw.drop 4).getD i 0 = raw.getD (4 + i) 0 := fun i => by
    rw [List.getD_eq_getElem?_getD, List.getElem?_drop, List.getD_eq_getElem?_getD]
  have back := take_four (show 4 ≤ (raw.drop 4).length by rw [List.length_drop]; omega)
  simp only [dropped, Nat.reduceAdd] at back
  have read : ∀ i, i < 8 → byteAt raw i = .done (raw.getD i 0) := fun i inside => byteAt_eq (by omega)
  rw [if_neg short, if_neg short, read 0 (by decide), Checked.done_bind, read 1 (by decide),
    Checked.done_bind, read 2 (by decide), Checked.done_bind, read 3 (by decide), Checked.done_bind, ← front]
  dsimp only
  generalize UInt32.ofNat (leNat (raw.take 4)) = msgId
  have maskLength : (HsObf.fragMask prims key msgId).length = 4 := by
    rw [HsObf.fragMask, List.length_take, Octets.length_eq]
    rfl
  have keystream := take_four maskLength.ge
  rw [List.take_of_length_le maskLength.le] at keystream
  have keyAt : ∀ i, i < 4 → byteAt (HsObf.fragMask prims key msgId) i =
      .done ((HsObf.fragMask prims key msgId).getD i 0) := fun i inside => byteAt_eq (by omega)
  have clear : mask (HsObf.fragMask prims key msgId) ((raw.drop 4).take 4) =
      [raw.getD 4 0 ^^^ (HsObf.fragMask prims key msgId).getD 0 0,
        raw.getD 5 0 ^^^ (HsObf.fragMask prims key msgId).getD 1 0,
        raw.getD 6 0 ^^^ (HsObf.fragMask prims key msgId).getD 2 0,
        raw.getD 7 0 ^^^ (HsObf.fragMask prims key msgId).getD 3 0] := by
    rw [back, mask]
    conv_lhs => rw [keystream]
    rfl
  rw [HsObf.fragMaskChecked_eq, Checked.done_bind, read 4 (by decide), Checked.done_bind,
    keyAt 0 (by decide), Checked.done_bind, read 5 (by decide), Checked.done_bind, keyAt 1 (by decide),
    Checked.done_bind, read 6 (by decide), Checked.done_bind, keyAt 2 (by decide), Checked.done_bind,
    read 7 (by decide), Checked.done_bind, keyAt 3 (by decide), Checked.done_bind, clear]
  generalize raw.getD 4 0 ^^^ (HsObf.fragMask prims key msgId).getD 0 0 = index0
  generalize raw.getD 5 0 ^^^ (HsObf.fragMask prims key msgId).getD 1 0 = index1
  generalize raw.getD 6 0 ^^^ (HsObf.fragMask prims key msgId).getD 2 0 = total0
  generalize raw.getD 7 0 ^^^ (HsObf.fragMask prims key msgId).getD 3 0 = total1
  have indexPart : [index0, index1, total0, total1].take 2 = [index0, index1] := rfl
  have totalPart : [index0, index1, total0, total1].drop 2 = [total0, total1] := rfl
  rw [indexPart, totalPart]
  by_cases impossible : leNat [total0, total1] = 0 ∨ HsObf.maxFragments < leNat [total0, total1] ∨
      leNat [total0, total1] ≤ leNat [index0, index1]
  · rw [if_pos impossible, if_pos impossible]
    rfl
  · rw [if_neg impossible, if_neg impossible, sliceFrom_eq (Nat.not_lt.mp short)]
    rfl

theorem HsObf.openChecked_eq (key : Octets 32) (reassembled : Bytes) :
    HsObf.openChecked prims key reassembled = .done (HsObf.openBlob prims key reassembled) := by
  unfold HsObf.openChecked HsObf.openBlob
  by_cases short : reassembled.length < HsObf.hsNonceLen + HsObf.hsTagLen
  · rw [if_pos short, if_pos short]
    rfl
  have enough : HsObf.hsNonceLen ≤ reassembled.length :=
    (Nat.le_add_right _ _).trans (Nat.not_lt.mp short)
  rw [if_neg short, if_neg short, splitAt_eq enough, Checked.done_bind]
  dsimp only
  rw [if_neg (not_not.mpr (List.length_take_of_le enough))]
  cases prims.chachaOpen key (reassembled.take HsObf.hsNonceLen) [] (reassembled.drop HsObf.hsNonceLen) <;>
    rfl

end Obfuscated

theorem Reassembler.pushChecked_eq (reasm : Reassembler) (now : Nat) (raw : Bytes) :
    reasm.pushChecked now raw = .done (reasm.push now raw) := by
  unfold Reassembler.pushChecked Reassembler.push
  by_cases short : raw.length < fragHeaderLen
  · rw [if_pos short, if_pos short]
    rfl
  have enough : fragHeaderLen ≤ raw.length := Nat.not_lt.mp short
  have length : (raw.take fragHeaderLen).length = 8 := List.length_take_of_le enough
  rw [if_neg short, if_neg short, slice_eq (Nat.zero_le _) enough, Checked.done_bind, List.drop_zero,
    getLe_eq (by omega), Checked.done_bind]
  dsimp only
  rw [getLe_eq (by rw [List.length_drop]; omega), Checked.done_bind]
  dsimp only
  rw [getLe_eq (by rw [List.length_drop, List.length_drop]; omega), Checked.done_bind]
  dsimp only
  rw [sliceFrom_eq enough, Checked.done_bind]
  simp only [List.drop_take, List.take_take, List.drop_drop, fragHeaderLen, Checked.pure_eq]
  rfl

/-- **No attacker-facing parser panics.** On every string, and whatever the primitives compute, each of
them runs to its end and returns a value or one of its errors: no range, index, difference, sum or
conversion in it is out of bounds. -/
theorem parsers_never_panic (prims : Primitives) :
    (∀ raw, Frame.decodeChecked raw = .done (Frame.decode raw)) ∧
      (∀ raw, HandshakeMessage.decodeChecked raw = .done (HandshakeMessage.decode raw)) ∧
      (∀ obfKey datagram, Obf.unmaskChecked prims obfKey datagram =
        .done (Obf.unmask prims obfKey datagram)) ∧
      (∀ obfKey datagram recovered, Obf.unmask prims obfKey datagram = some recovered →
        Obf.ctSliceChecked datagram = .done (Obf.ctSlice datagram)) ∧
      (∀ framed, Obf.unpackInnerChecked framed = .done (Obf.unpackInner framed)) ∧
      (∀ key raw, HsObf.unmaskFragmentChecked prims key raw =
        .done (HsObf.unmaskFragment prims key raw)) ∧
      (∀ key reassembled, HsObf.openChecked prims key reassembled =
        .done (HsObf.openBlob prims key reassembled)) ∧
      ∀ (reasm : Reassembler) now raw frame, Frame.decode raw = .ok frame →
        reasm.pushChecked now frame.payload = .done (reasm.push now frame.payload) :=
  ⟨Frame.decodeChecked_eq, HandshakeMessage.decodeChecked_eq, Obf.unmaskChecked_eq prims,
    fun _ _ _ unmasked => Obf.ctSliceChecked_eq prims unmasked, Obf.unpackInnerChecked_eq,
    HsObf.unmaskFragmentChecked_eq prims, HsObf.openChecked_eq prims,
    fun reasm now _ frame _ => reasm.pushChecked_eq now frame.payload⟩

end ChameleonPQ
