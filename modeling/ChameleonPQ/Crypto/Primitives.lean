/-
**The cryptographic primitives the code calls, as parameters.**

Hashing, HMAC, HKDF, X25519, ML-KEM-768, Ed25519, ML-DSA-65 and the two AEAD ciphers live in
third-party crates. `Primitives` is one choice of these functions, with the output lengths of the
crates' types. What the crates document and the code relies on is stated as separate predicates, so
that each result names exactly the ones it uses:

* `AeadCorrect` — opening a sealed message gives it back; ciphertext lengths.
* `ChachaSeals` — the ChaCha20-Poly1305 sealer refuses only plaintexts beyond its block counter.
* `KeyExchangeCorrect` — Diffie–Hellman commutes, ML-KEM decapsulates what it encapsulated.
* `SignatureCorrect` — a signature verifies under the signer's public key.
* `LabelSeparated` — HKDF outputs for different info strings differ.
* `CollisionFreeOn` — SHA-256 does not collide on a given set of inputs.
-/

import ChameleonPQ.Library.Octets

namespace ChameleonPQ

open Library

/-- The octets of an ASCII byte-string literal. -/
def ascii (text : String) : Bytes := text.toList.map fun c => UInt8.ofNat c.toNat

/-- One choice of the primitives. Secret keys and signature keys are opaque octet strings. -/
structure Primitives where
  sha256 : Bytes → Octets 32
  /-- HMAC-SHA256: key, message. -/
  hmacSha256 : Bytes → Bytes → Octets 32
  /-- HKDF-SHA256 with a 32-byte output: salt, input key material, info. -/
  hkdfSha256 : Bytes → Bytes → Bytes → Octets 32
  x25519Public : Octets 32 → Octets 32
  /-- Own secret, peer public key. -/
  diffieHellman : Octets 32 → Octets 32 → Octets 32
  /-- The public half of an ML-KEM-768 key pair, from its secret half. -/
  mlkemPublic : Bytes → Octets 1184
  mlkemPublicKeyFromBytes : Octets 1184 → Option (Octets 1184)
  mlkemCiphertextFromBytes : Octets 1088 → Option (Octets 1088)
  /-- Public key, coins; the shared secret and the ciphertext. -/
  mlkemEncapsulate : Octets 1184 → Bytes → Octets 32 × Octets 1088
  mlkemDecapsulate : Octets 1088 → Bytes → Octets 32
  ed25519Public : Bytes → Octets 32
  ed25519Sign : Bytes → Bytes → Octets 64
  /-- Public key, message, signature. -/
  ed25519Verify : Octets 32 → Bytes → Bytes → Bool
  mldsaSignatureBytes : Nat
  /-- The public half of an ML-DSA-65 key pair, from its secret half. -/
  mldsaPublic : Bytes → Bytes
  mldsaSign : Bytes → Bytes → Octets mldsaSignatureBytes
  mldsaSignatureFromBytes : Bytes → Option Bytes
  /-- Public key, message, signature. -/
  mldsaVerify : Bytes → Bytes → Bytes → Bool
  /-- `ring`: key, nonce, associated data, plaintext; ciphertext and tag. -/
  chachaSeal : Octets 32 → Bytes → Bytes → Bytes → Option Bytes
  chachaOpen : Octets 32 → Bytes → Bytes → Bytes → Option Bytes
  /-- `aegis`: key, nonce, plaintext, associated data. -/
  aegisEncrypt : Octets 32 → Octets 32 → Bytes → Bytes → Bytes × Octets 32
  /-- `aegis`: key, nonce, ciphertext, tag, associated data. -/
  aegisDecrypt : Octets 32 → Octets 32 → Bytes → Octets 32 → Bytes → Option Bytes

namespace Primitives

/-- **The AEAD ciphers are correct**: what was sealed opens to itself under the same key, nonce and
associated data, and the lengths are those the crates document. -/
structure AeadCorrect (prims : Primitives) : Prop where
  chachaOpen_seal : ∀ key nonce aad plain sealed,
    prims.chachaSeal key nonce aad plain = some sealed →
      prims.chachaOpen key nonce aad sealed = some plain
  chachaSeal_length : ∀ key nonce aad plain sealed,
    prims.chachaSeal key nonce aad plain = some sealed → sealed.length = plain.length + 16
  aegisDecrypt_encrypt : ∀ key nonce plain aad,
    prims.aegisDecrypt key nonce (prims.aegisEncrypt key nonce plain aad).1
      (prims.aegisEncrypt key nonce plain aad).2 aad = some plain
  aegisEncrypt_length : ∀ key nonce plain aad,
    (prims.aegisEncrypt key nonce plain aad).1.length = plain.length

/-- **Sealing succeeds**, up to the longest plaintext the block counter allows. -/
def ChachaSeals (prims : Primitives) : Prop :=
  ∀ key nonce aad plain, nonce.length = 12 → plain.length ≤ 2 ^ 38 - 64 →
    ∃ sealed, prims.chachaSeal key nonce aad plain = some sealed

/-- **The key exchange is correct**: both Diffie–Hellman computations agree, and decapsulation
inverts encapsulation under a generated key pair. -/
structure KeyExchangeCorrect (prims : Primitives) : Prop where
  diffieHellman_comm : ∀ first second,
    prims.diffieHellman first (prims.x25519Public second) =
      prims.diffieHellman second (prims.x25519Public first)
  mlkemDecapsulate_encapsulate : ∀ secret coins,
    prims.mlkemDecapsulate (prims.mlkemEncapsulate (prims.mlkemPublic secret) coins).2 secret =
      (prims.mlkemEncapsulate (prims.mlkemPublic secret) coins).1
  mlkemPublicKey_valid : ∀ secret,
    prims.mlkemPublicKeyFromBytes (prims.mlkemPublic secret) = some (prims.mlkemPublic secret)
  mlkemCiphertext_valid : ∀ secret coins,
    prims.mlkemCiphertextFromBytes (prims.mlkemEncapsulate (prims.mlkemPublic secret) coins).2 =
      some (prims.mlkemEncapsulate (prims.mlkemPublic secret) coins).2

/-- **The signatures are correct**: what was signed verifies under the public key of the pair. -/
structure SignatureCorrect (prims : Primitives) : Prop where
  ed25519Verify_sign : ∀ seed message,
    prims.ed25519Verify (prims.ed25519Public seed) message (prims.ed25519Sign seed message).bytes = true
  mldsaSignature_valid : ∀ secret message,
    prims.mldsaSignatureFromBytes (prims.mldsaSign secret message).bytes =
      some (prims.mldsaSign secret message).bytes
  mldsaVerify_sign : ∀ secret message,
    prims.mldsaVerify (prims.mldsaPublic secret) message (prims.mldsaSign secret message).bytes = true

/-- **HKDF separates labels**: from one salt and one input, different info strings of a list give
different keys. -/
def LabelSeparated (prims : Primitives) (labels : List Bytes) : Prop :=
  ∀ salt ikm, ∀ first ∈ labels, ∀ second ∈ labels, first ≠ second →
    prims.hkdfSha256 salt ikm first ≠ prims.hkdfSha256 salt ikm second

/-- SHA-256 has no collision among the given inputs. -/
def CollisionFreeOn (prims : Primitives) (inputs : Set Bytes) : Prop :=
  ∀ first ∈ inputs, ∀ second ∈ inputs, prims.sha256 first = prims.sha256 second → first = second

end Primitives

end ChameleonPQ
