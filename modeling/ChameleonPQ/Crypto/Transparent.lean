/-
**A transparent choice of the primitives.**

Every function below returns its inputs in the clear, cut or padded to the right length. It protects
nothing and meets every correctness predicate of `Primitives`, so definitions evaluate on it and no
result that assumes one of the predicates is empty.
-/

import ChameleonPQ.Crypto.Primitives

namespace ChameleonPQ

open Library

namespace Primitives

/-- Splits off and checks a trailing tag. -/
def splitTag (tag ciphertext : Bytes) : Option Bytes :=
  let plain := ciphertext.take (ciphertext.length - tag.length)
  if ciphertext = plain ++ tag then some plain else none

theorem splitTag_append (tag plain : Bytes) : splitTag tag (plain ++ tag) = some plain := by
  have front : (plain ++ tag).take ((plain ++ tag).length - tag.length) = plain := by
    rw [List.length_append, Nat.add_sub_cancel, List.take_left]
  simp only [splitTag, front, if_true]

/-- The choice. -/
def transparent : Primitives where
  sha256 raw := .fill 32 raw
  hmacSha256 key message := .fill 32 (message ++ key)
  hkdfSha256 _ ikm info := .fill 32 (info ++ ikm)
  x25519Public secret := secret
  diffieHellman secret public_ := .fill 32 (mask secret.bytes public_.bytes)
  mlkemPublic secret := .fill 1184 secret
  mlkemPublicKeyFromBytes raw := some raw
  mlkemCiphertextFromBytes raw := some raw
  mlkemEncapsulate _ coins := (.fill 32 coins, .fill 1088 (Octets.fill 32 coins).bytes)
  mlkemDecapsulate ct _ := .fill 32 ct.bytes
  ed25519Public seed := .fill 32 seed
  ed25519Sign seed message := .fill 64 (message ++ (Octets.fill 32 seed).bytes)
  ed25519Verify pub message signature :=
    decide (signature = (Octets.fill 64 (message ++ pub.bytes)).bytes)
  mldsaSignatureBytes := 3309
  mldsaPublic secret := secret
  mldsaSign secret message := .fill 3309 (message ++ secret)
  mldsaSignatureFromBytes raw := some raw
  mldsaVerify pub message signature :=
    decide (signature = (Octets.fill 3309 (message ++ pub)).bytes)
  chachaSeal key nonce _ plain := some (plain ++ (Octets.fill 16 (nonce ++ key.bytes)).bytes)
  chachaOpen key nonce _ ciphertext := splitTag (Octets.fill 16 (nonce ++ key.bytes)).bytes ciphertext
  aegisEncrypt key nonce plain _ := (plain, .fill 32 (mask nonce.bytes key.bytes))
  aegisDecrypt key nonce ciphertext tag _ :=
    if tag = Octets.fill 32 (mask nonce.bytes key.bytes) then some ciphertext else none

theorem transparent_aeadCorrect : transparent.AeadCorrect where
  chachaOpen_seal := fun key nonce aad plain sealed success => by
    obtain rfl := Option.some.inj success
    exact splitTag_append _ plain
  chachaSeal_length := fun key nonce aad plain sealed success => by
    obtain rfl := Option.some.inj success
    rw [List.length_append, Octets.length_bytes]
  aegisDecrypt_encrypt := fun _ _ _ _ => if_pos rfl
  aegisEncrypt_length := fun _ _ _ _ => rfl

theorem transparent_chachaSeals : transparent.ChachaSeals := fun _ _ _ _ _ _ => ⟨_, rfl⟩

theorem mask_comm (first second : Bytes) : mask first second = mask second first := by
  rw [mask, mask, List.zipWith_comm]
  congr 1
  funext left right
  exact UInt8.xor_comm _ _

theorem transparent_keyExchangeCorrect : transparent.KeyExchangeCorrect where
  diffieHellman_comm := fun first second => congrArg (Octets.fill 32) (mask_comm _ _)
  mlkemDecapsulate_encapsulate := fun _ coins => Octets.fill_fill (.fill 32 coins) (by decide)
  mlkemPublicKey_valid := fun _ => rfl
  mlkemCiphertext_valid := fun _ _ => rfl

theorem transparent_signatureCorrect : transparent.SignatureCorrect where
  ed25519Verify_sign := fun _ _ => decide_eq_true rfl
  mldsaSignature_valid := fun _ _ => rfl
  mldsaVerify_sign := fun _ _ => decide_eq_true rfl

/-- Info strings of one length up to 32 stay apart. -/
theorem transparent_labelSeparated {labels : List Bytes} (width : Nat) (short : width ≤ 32)
    (same : ∀ label ∈ labels, label.length = width) : transparent.LabelSeparated labels := by
  intro salt ikm first firstMember second secondMember different equal
  have front : ∀ label ∈ labels, ((Octets.fill 32 (label ++ ikm)).bytes).take width = label := by
    intro label member
    show (((label ++ ikm) ++ List.replicate 32 0).take 32).take width = label
    rw [List.take_take, min_eq_left short, List.append_assoc]
    exact List.take_left' (same label member)
  apply different
  rw [← front first firstMember, ← front second secondMember]
  exact congrArg (fun key : Octets 32 => key.bytes.take width) equal

end Primitives

end ChameleonPQ
