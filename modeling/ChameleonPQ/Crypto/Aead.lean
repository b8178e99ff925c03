/-
**The pluggable AEAD of the data path (`aead.rs`).**

`AeadAlgo` with its wire ids, lengths and `negotiate`; `DirectionalAead`, one direction of a session
cipher. `openBytes_sealBytes` and `length_of_sealBytes` are the two facts the data path uses, one statement for both
ciphers.
-/

import ChameleonPQ.Crypto.Primitives
import ChameleonPQ.Error

namespace ChameleonPQ

open Library

/-- `AeadAlgo`. -/
inductive AeadAlgo where
  | chaCha20Poly1305
  | aegis256X2
  deriving DecidableEq, Repr

namespace AeadAlgo

/-- `from_u8`. -/
def fromU8 (value : UInt8) : Result AeadAlgo :=
  if value = 0x01 then .ok .chaCha20Poly1305
  else if value = 0x02 then .ok .aegis256X2
  else .error (.handshake "aead" ("unknown AEAD id " ++ toString value))

/-- `as_u8`. -/
def asU8 : AeadAlgo → UInt8
  | chaCha20Poly1305 => 0x01
  | aegis256X2 => 0x02

/-- `nonce_len`. -/
def nonceLen : AeadAlgo → Nat
  | chaCha20Poly1305 => 12
  | aegis256X2 => 32

/-- `tag_len`. -/
def tagLen : AeadAlgo → Nat
  | chaCha20Poly1305 => 16
  | aegis256X2 => 32

/-- `negotiate`: AEGIS only if both sides prefer it. -/
def negotiate (ours peer : AeadAlgo) : AeadAlgo :=
  if ours = aegis256X2 ∧ peer = aegis256X2 then aegis256X2 else chaCha20Poly1305

@[simp] theorem fromU8_asU8 (algo : AeadAlgo) : fromU8 algo.asU8 = .ok algo := by
  cases algo <;> rfl

theorem negotiate_eq_aegis_iff (ours peer : AeadAlgo) :
    negotiate ours peer = aegis256X2 ↔ ours = aegis256X2 ∧ peer = aegis256X2 := by
  unfold negotiate
  split <;> simp_all

end AeadAlgo

/-- One direction (tx or rx) of a session cipher: `ChaChaDir` or `AegisDir` with its key, as
`make_directional` builds it. -/
structure DirectionalAead where
  algo : AeadAlgo
  key : Octets 32
  deriving DecidableEq

namespace DirectionalAead

variable (prims : Primitives)

/-- `seal`: ciphertext followed by the tag. -/
def sealBytes (dir : DirectionalAead) (nonce aad plaintext : Bytes) : Result Bytes :=
  match dir.algo with
  | .chaCha20Poly1305 =>
    match prims.chachaSeal dir.key nonce aad plaintext with
    | some sealed => .ok sealed
    | none => .error .decryptionFailed
  | .aegis256X2 =>
    if nonce.length ≠ 32 then .error .decryptionFailed
    else
      let encrypted := prims.aegisEncrypt dir.key (Octets.fill 32 nonce) plaintext aad
      .ok (encrypted.1 ++ encrypted.2.bytes)

/-- `open`. -/
def openBytes (dir : DirectionalAead) (nonce aad ciphertext : Bytes) : Result Bytes :=
  match dir.algo with
  | .chaCha20Poly1305 =>
    match prims.chachaOpen dir.key nonce aad ciphertext with
    | some plain => .ok plain
    | none => .error .decryptionFailed
  | .aegis256X2 =>
    if nonce.length ≠ 32 ∨ ciphertext.length < 32 then .error .decryptionFailed
    else
      let split := ciphertext.length - 32
      match prims.aegisDecrypt dir.key (Octets.fill 32 nonce) (ciphertext.take split)
          (Octets.fill 32 (ciphertext.drop split)) aad with
      | some plain => .ok plain
      | none => .error .decryptionFailed

variable {prims}

/-- A sealed message is the plaintext's length plus the tag. -/
theorem length_of_sealBytes (correct : prims.AeadCorrect) {dir : DirectionalAead}
    {nonce aad plaintext sealed : Bytes} (success : dir.sealBytes prims nonce aad plaintext = .ok sealed) :
    sealed.length = plaintext.length + dir.algo.tagLen := by
  obtain ⟨algo, key⟩ := dir
  cases algo with
  | chaCha20Poly1305 =>
    simp only [sealBytes] at success
    split at success
    · rename_i found
      cases success
      exact correct.chachaSeal_length _ _ _ _ _ found
    · cases success
  | aegis256X2 =>
    simp only [sealBytes] at success
    split at success
    · cases success
    · cases success
      rw [List.length_append, correct.aegisEncrypt_length, Octets.length_bytes]
      rfl

/-- The AEGIS opener splits a ciphertext from its tag where the sealer joined them. -/
theorem openBytes_aegis (key : Octets 32) {nonce : Bytes} (nonceLength : nonce.length = 32)
    (aad ct : Bytes) (tag : Octets 32) :
    openBytes prims ⟨.aegis256X2, key⟩ nonce aad (ct ++ tag.bytes) =
      match prims.aegisDecrypt key (Octets.fill 32 nonce) ct tag aad with
      | some plain => .ok plain
      | none => .error .decryptionFailed := by
  have split : (ct ++ tag.bytes).length - 32 = ct.length := by
    rw [List.length_append, Octets.length_bytes]
    exact Nat.add_sub_cancel _ _
  have long : ¬ (nonce.length ≠ 32 ∨ (ct ++ tag.bytes).length < 32) := by
    rw [List.length_append, Octets.length_bytes]
    omega
  simp only [openBytes, if_neg long, split, List.take_left, List.drop_left, Octets.fill_bytes]

/-- **Opening inverts sealing**, for both ciphers. -/
theorem openBytes_sealBytes (correct : prims.AeadCorrect) {dir : DirectionalAead}
    {nonce aad plaintext sealed : Bytes}
    (success : dir.sealBytes prims nonce aad plaintext = .ok sealed) :
    dir.openBytes prims nonce aad sealed = .ok plaintext := by
  obtain ⟨algo, key⟩ := dir
  cases algo with
  | chaCha20Poly1305 =>
    simp only [sealBytes] at success
    split at success
    · rename_i found
      cases success
      simp only [openBytes, correct.chachaOpen_seal _ _ _ _ _ found]
    · cases success
  | aegis256X2 =>
    simp only [sealBytes] at success
    split at success
    · cases success
    · rename_i nonceLength
      cases success
      rw [openBytes_aegis key (not_not.mp nonceLength), correct.aegisDecrypt_encrypt]

/-- Sealing under a nonce of the right length succeeds, whatever the content. -/
theorem sealBytes_exists (seals : prims.ChachaSeals) {dir : DirectionalAead} {nonce : Bytes}
    (nonceLength : nonce.length = dir.algo.nonceLen) (aad : Bytes) {plaintext : Bytes}
    (short : plaintext.length ≤ 2 ^ 38 - 64) :
    ∃ sealed, dir.sealBytes prims nonce aad plaintext = .ok sealed := by
  obtain ⟨algo, key⟩ := dir
  cases algo with
  | chaCha20Poly1305 =>
    obtain ⟨sealed, success⟩ := seals key nonce aad plaintext nonceLength short
    exact ⟨sealed, by simp only [sealBytes, success]⟩
  | aegis256X2 =>
    have long : ¬ nonce.length ≠ 32 := not_not.mpr nonceLength
    let encrypted := prims.aegisEncrypt key (Octets.fill 32 nonce) plaintext aad
    exact ⟨encrypted.1 ++ encrypted.2.bytes, by simp only [sealBytes, if_neg long, encrypted]⟩

end DirectionalAead

end ChameleonPQ
