/-
**The obfuscated handshake envelope (`hsobf.rs`).**

A handshake message is sealed under the static key, cut into chunks of random size, and each chunk gets
a header whose index and total are masked.

* `variableChunks_flatten` — the chunks make up the blob, whatever sizes are drawn.
* `unmaskFragment_sealed`, `open_seal` — the receiver reads back every header and the message.
-/

import ChameleonPQ.Crypto.Primitives
import ChameleonPQ.Error
import ChameleonPQ.Library.Octets

namespace ChameleonPQ

open Library

namespace HsObf

/-- `HS_NONCE_LEN`. -/
def hsNonceLen : Nat := 12

/-- `HS_TAG_LEN`. -/
def hsTagLen : Nat := 16

/-- `HS_FRAG_HEADER_LEN`. -/
def hsFragHeaderLen : Nat := 8

/-- `MIN_CHUNK`. -/
def minChunk : Nat := 512

/-- `MAX_CHUNK`. -/
def maxChunk : Nat := 1024

/-- `MAX_FRAGMENTS`. -/
def maxFragments : Nat := 64

/-- The random values of one envelope. -/
structure SealCoins where
  nonce : Octets 12
  msgId : UInt32
  /-- What `gen_range` draws, before it is brought into the range. -/
  sizes : Nat → Nat

section Definitions

variable (prims : Primitives)

/-- `frag_mask`. -/
def fragMask (key : Octets 32) (msgId : UInt32) : Bytes :=
  (prims.hmacSha256 key.bytes (leBytes 4 msgId.toNat)).bytes.take 4

/-- `gen_range(MIN_CHUNK..=MAX_CHUNK)`. -/
def drawnSize (draw : Nat) : Nat := minChunk + draw % (maxChunk - minChunk + 1)

/-- The loop of `variable_chunks`: chunk `round` on, for blobs of at most `fuel` octets. -/
def variableChunksFrom (sizes : Nat → Nat) : Nat → Nat → Bytes → List Bytes
  | 0, _, blob => [blob]
  | fuel + 1, round, blob =>
    if maxChunk < blob.length then
      blob.take (drawnSize (sizes round)) ::
        variableChunksFrom sizes fuel (round + 1) (blob.drop (drawnSize (sizes round)))
    else [blob]

/-- `variable_chunks`. -/
def variableChunks (sizes : Nat → Nat) (blob : Bytes) : List Bytes :=
  variableChunksFrom sizes blob.length 0 blob

/-- The masked fragment header. -/
def maskedFragmentHeader (key : Octets 32) (msgId : UInt32) (index total : Nat) : Bytes :=
  leBytes 4 msgId.toNat ++ mask (fragMask prims key msgId) (leBytes 2 index ++ leBytes 2 total)

/-- The sealed blob: nonce, ciphertext, tag. -/
def sealBlob (key : Octets 32) (nonce : Octets 12) (message : Bytes) : Result Bytes :=
  match prims.chachaSeal key nonce.bytes [] message with
  | none => .error .decryptionFailed
  | some sealed => .ok (nonce.bytes ++ sealed)

/-- `seal_and_fragment`. -/
def sealAndFragment (key : Octets 32) (message : Bytes) (coins : SealCoins) : Result (List Bytes) :=
  match sealBlob prims key coins.nonce message with
  | .error e => .error e
  | .ok blob =>
    let pieces := variableChunks coins.sizes blob
    .ok (pieces.zipIdx.map fun (piece, index) =>
      maskedFragmentHeader prims key coins.msgId index pieces.length ++ piece)

/-- `unmask_fragment`: message id, index, total and chunk. -/
def unmaskFragment (key : Octets 32) (raw : Bytes) : Option (UInt32 × Nat × Nat × Bytes) :=
  if raw.length < hsFragHeaderLen then none
  else
    let msgId := UInt32.ofNat (leNat (raw.take 4))
    let clear := mask (fragMask prims key msgId) ((raw.drop 4).take 4)
    let index := leNat (clear.take 2)
    let total := leNat (clear.drop 2)
    if total = 0 ∨ maxFragments < total ∨ total ≤ index then none
    else some (msgId, index, total, raw.drop hsFragHeaderLen)

/-- `open`. -/
def openBlob (key : Octets 32) (reassembled : Bytes) : Result Bytes :=
  if reassembled.length < hsNonceLen + hsTagLen then .error .decryptionFailed
  else
    match prims.chachaOpen key (reassembled.take hsNonceLen) [] (reassembled.drop hsNonceLen) with
    | none => .error .decryptionFailed
    | some plain => .ok plain

end Definitions

variable {prims : Primitives}

/-! ### Chunks -/

theorem variableChunksFrom_flatten (sizes : Nat → Nat) (fuel round : Nat) (blob : Bytes) :
    (variableChunksFrom sizes fuel round blob).flatten = blob := by
  induction fuel generalizing round blob with
  | zero => exact List.append_nil _
  | succ fuel ih =>
    rw [variableChunksFrom]
    split
    · rw [List.flatten_cons, ih, List.take_append_drop]
    · exact List.append_nil _

/-- **The chunks make up the blob**, whatever sizes are drawn. -/
theorem variableChunks_flatten (sizes : Nat → Nat) (blob : Bytes) :
    (variableChunks sizes blob).flatten = blob := variableChunksFrom_flatten sizes _ 0 blob

theorem drawnSize_bounds (draw : Nat) : minChunk ≤ drawnSize draw ∧ drawnSize draw ≤ maxChunk := by
  have small : draw % (maxChunk - minChunk + 1) < maxChunk - minChunk + 1 := Nat.mod_lt _ (by decide)
  unfold drawnSize minChunk maxChunk at *
  omega

/-- The chunks are short, and there are few of them. -/
theorem variableChunksFrom_bounds (sizes : Nat → Nat) (fuel round : Nat) (blob : Bytes)
    (enough : blob.length ≤ fuel + maxChunk) :
    (∀ piece ∈ variableChunksFrom sizes fuel round blob, piece.length ≤ maxChunk) ∧
      0 < (variableChunksFrom sizes fuel round blob).length ∧
        (variableChunksFrom sizes fuel round blob).length ≤ 1 + blob.length / minChunk := by
  induction fuel generalizing round blob with
  | zero =>
    refine ⟨fun piece present => ?_, Nat.one_pos, Nat.le_add_right _ _⟩
    rw [List.mem_singleton.mp present]
    omega
  | succ fuel ih =>
    rw [variableChunksFrom]
    split
    · rename_i long
      obtain ⟨least, most⟩ := drawnSize_bounds (sizes round)
      have left : (blob.drop (drawnSize (sizes round))).length =
          blob.length - drawnSize (sizes round) := List.length_drop
      obtain ⟨short, -, few⟩ := ih (round + 1) (blob.drop (drawnSize (sizes round)))
        (by unfold minChunk at least; omega)
      refine ⟨fun piece present => ?_, Nat.succ_pos _, ?_⟩
      · rcases List.mem_cons.mp present with rfl | later
        · exact (List.length_take_le _ _).trans most
        · exact short piece later
      · rw [left] at few
        rw [List.length_cons]
        unfold minChunk maxChunk at *
        omega
    · refine ⟨fun piece present => ?_, Nat.one_pos, Nat.le_add_right _ _⟩
      rw [List.mem_singleton.mp present]
      omega

/-! ### Round trips -/

/-- **The receiver reads a masked header back.** -/
theorem unmaskFragment_masked (key : Octets 32) (msgId : UInt32) {index total : Nat} (piece : Bytes)
    (inside : index < total) (few : total ≤ maxFragments) :
    unmaskFragment prims key (maskedFragmentHeader prims key msgId index total ++ piece) =
      some (msgId, index, total, piece) := by
  have maskLength : (fragMask prims key msgId).length = 4 := by
    rw [fragMask, List.length_take, Octets.length_eq]
    rfl
  have clearLength : (leBytes 2 index ++ leBytes 2 total).length = 4 := by simp
  have maskedLength : (mask (fragMask prims key msgId) (leBytes 2 index ++ leBytes 2 total)).length = 4 := by
    rw [length_mask, clearLength, maskLength]
    rfl
  have headerLength : (maskedFragmentHeader prims key msgId index total).length = hsFragHeaderLen := by
    rw [maskedFragmentHeader, List.length_append, length_leBytes, maskedLength]
    rfl
  have idPart : (maskedFragmentHeader prims key msgId index total ++ piece).take 4 =
      leBytes 4 msgId.toNat := by
    rw [maskedFragmentHeader, List.append_assoc]
    exact List.take_left' (length_leBytes _ _)
  have maskedPart : ((maskedFragmentHeader prims key msgId index total ++ piece).drop 4).take 4 =
      mask (fragMask prims key msgId) (leBytes 2 index ++ leBytes 2 total) := by
    rw [maskedFragmentHeader, List.append_assoc, List.drop_left' (length_leBytes _ _)]
    exact List.take_left' maskedLength
  have rest : (maskedFragmentHeader prims key msgId index total ++ piece).drop hsFragHeaderLen = piece :=
    List.drop_left' headerLength
  have long : ¬ (maskedFragmentHeader prims key msgId index total ++ piece).length < hsFragHeaderLen := by
    rw [List.length_append, headerLength]
    omega
  have unmasked : mask (fragMask prims key msgId)
      (mask (fragMask prims key msgId) (leBytes 2 index ++ leBytes 2 total)) =
        leBytes 2 index ++ leBytes 2 total := mask_mask _ _ (by rw [clearLength, maskLength])
  have bound : maxFragments < 256 ^ 2 := by decide
  have indexPart : leNat ((leBytes 2 index ++ leBytes 2 total).take 2) = index := by
    rw [List.take_left' (length_leBytes _ _), leNat_leBytes_of_lt (by omega)]
  have totalPart : leNat ((leBytes 2 index ++ leBytes 2 total).drop 2) = total := by
    rw [List.drop_left' (length_leBytes _ _), leNat_leBytes_of_lt (by omega)]
  have valid : ¬ (total = 0 ∨ maxFragments < total ∨ total ≤ index) := by omega
  have readId : UInt32.ofNat (leNat (leBytes 4 msgId.toNat)) = msgId := by
    rw [leNat_leBytes_of_lt msgId.toNat_lt, UInt32.ofNat_toNat]
  simp only [unmaskFragment, if_neg long, idPart, readId, maskedPart, unmasked, indexPart, totalPart,
    if_neg valid, rest]

/-- **A sealed blob opens to its message.** -/
theorem openBlob_sealBlob (correct : prims.AeadCorrect) {key : Octets 32} {nonce : Octets 12}
    {message blob : Bytes} (success : sealBlob prims key nonce message = .ok blob) :
    openBlob prims key blob = .ok message := by
  unfold sealBlob at success
  split at success
  · cases success
  · rename_i sealed chacha
    obtain rfl := Except.ok.inj success
    have length := correct.chachaSeal_length _ _ _ _ _ chacha
    have long : ¬ (nonce.bytes ++ sealed).length < hsNonceLen + hsTagLen := by
      rw [List.length_append, nonce.length_eq, length]
      unfold hsNonceLen hsTagLen
      omega
    have front : nonce.bytes.length = hsNonceLen := nonce.length_eq
    rw [openBlob, if_neg long, List.take_left' front, List.drop_left' front,
      correct.chachaOpen_seal _ _ _ _ _ chacha]

/-- The blob is 28 octets longer than the message. -/
theorem length_sealBlob (correct : prims.AeadCorrect) {key : Octets 32} {nonce : Octets 12}
    {message blob : Bytes} (success : sealBlob prims key nonce message = .ok blob) :
    blob.length = message.length + (hsNonceLen + hsTagLen) := by
  unfold sealBlob at success
  split at success
  · cases success
  · rename_i sealed chacha
    obtain rfl := Except.ok.inj success
    have length := correct.chachaSeal_length _ _ _ _ _ chacha
    rw [List.length_append, nonce.length_eq, length]
    unfold hsNonceLen hsTagLen
    omega

end HsObf

end ChameleonPQ
