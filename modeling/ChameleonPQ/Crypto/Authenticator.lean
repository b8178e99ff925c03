/-
**Peer authentication (`crypto.rs`, `Authenticator`).**

The two legs, Ed25519 and ML-DSA-65, and the hybrid that requires every leg to validate.

* `identityBinding_symm` — cross-configured authenticators derive the same identity binding.
* `verify_sign` — what one end signs its cross-configured peer verifies, for a single leg and for a
  hybrid of any number of legs, each at its own offset.
-/

import ChameleonPQ.Crypto.Primitives
import ChameleonPQ.Error

namespace ChameleonPQ

open Library

/-- `ED25519_SIG_LEN`. -/
def ed25519SigLen : Nat := 64

/-- The byte-lexicographic order of Rust slices. -/
def lexLe : Bytes → Bytes → Bool
  | [], _ => true
  | _ :: _, [] => false
  | a :: as, b :: bs => if a < b then true else if b < a then false else lexLe as bs

theorem lexLe_total (first second : Bytes) (above : lexLe first second = false) :
    lexLe second first = true := by
  induction first generalizing second with
  | nil => cases above
  | cons a as ih =>
    cases second with
    | nil => rfl
    | cons b bs =>
      simp only [lexLe] at above ⊢
      by_cases less : a < b
      · rw [if_pos less] at above
        cases above
      · rw [if_neg less] at above
        by_cases greater : b < a
        · exact if_pos greater
        · rw [if_neg greater] at above
          rw [if_neg greater, if_neg less]
          exact ih bs above

theorem lexLe_antisymm {first second : Bytes} (le : lexLe first second = true)
    (ge : lexLe second first = true) : first = second := by
  induction first generalizing second with
  | nil =>
    cases second with
    | nil => rfl
    | cons _ _ => cases ge
  | cons a as ih =>
    cases second with
    | nil => cases le
    | cons b bs =>
      simp only [lexLe] at le ge
      by_cases less : a < b
      · rw [if_neg (UInt8.lt_asymm less), if_pos less] at ge
        cases ge
      · by_cases greater : b < a
        · rw [if_neg less, if_pos greater] at le
          cases le
        · rw [if_neg less, if_neg greater] at le
          rw [if_neg greater, if_neg less] at ge
          have same : a = b := UInt8.le_antisymm (UInt8.not_lt.mp greater) (UInt8.not_lt.mp less)
          rw [same, ih le ge]

/-- One leg: `Ed25519Auth` or `MlDsaAuth`, own secret and pre-shared peer key. -/
inductive AuthLeg where
  | ed25519 (seed : Bytes) (peerPub : Octets 32)
  | mlDsa (secret peerPub : Bytes)
  deriving DecidableEq

/-- `dyn Authenticator` as `build_auth` makes it: one leg, or a `HybridAuth` of several. -/
inductive Authenticator where
  | single (leg : AuthLeg)
  | hybrid (legs : List AuthLeg)
  deriving DecidableEq

namespace AuthLeg

variable (prims : Primitives)

/-- `sign`. -/
def sign (message : Octets 32) : AuthLeg → Bytes
  | ed25519 seed _ => (prims.ed25519Sign seed message.bytes).bytes
  | mlDsa secret _ => (prims.mldsaSign secret message.bytes).bytes

/-- `verify`. -/
def verify (message : Octets 32) (signature : Bytes) : AuthLeg → Result Unit
  | ed25519 _ peerPub =>
    if signature.length ≠ ed25519SigLen then
      .error (.handshake "verify"
        s!"Ed25519 sig len {signature.length} != {ed25519SigLen}")
    else if prims.ed25519Verify peerPub message.bytes signature then .ok ()
    else .error (.handshake "verify" "Ed25519 verification failed (MITM or wrong peer)")
  | mlDsa _ peerPub =>
    match prims.mldsaSignatureFromBytes signature with
    | none => .error (.handshake "verify" "ML-DSA signature malformed")
    | some parsed =>
      if prims.mldsaVerify peerPub message.bytes parsed then .ok ()
      else .error (.handshake "verify" "ML-DSA verification failed (MITM or wrong peer)")

/-- `signature_len`. -/
def signatureLen : AuthLeg → Nat
  | ed25519 _ _ => ed25519SigLen
  | mlDsa _ _ => prims.mldsaSignatureBytes

/-- `identity_binding`: both Ed25519 public keys in byte order; empty for ML-DSA. -/
def identityBinding : AuthLeg → Bytes
  | ed25519 seed peerPub =>
    let own := (prims.ed25519Public seed).bytes
    let peer := peerPub.bytes
    if lexLe own peer then own ++ peer else peer ++ own
  | mlDsa _ _ => []

/-- The public key of the leg's own secret. -/
def ownKey : AuthLeg → Bytes
  | ed25519 seed _ => (prims.ed25519Public seed).bytes
  | mlDsa secret _ => prims.mldsaPublic secret

/-- The pre-shared peer key. -/
def peerKey : AuthLeg → Bytes
  | ed25519 _ peerPub => peerPub.bytes
  | mlDsa _ peerPub => peerPub

/-- Two legs of one scheme, each configured with the other's public key. -/
inductive Cross : AuthLeg → AuthLeg → Prop
  | ed25519 (first second : Bytes) :
      Cross (.ed25519 first (prims.ed25519Public second)) (.ed25519 second (prims.ed25519Public first))
  | mlDsa (first second : Bytes) :
      Cross (.mlDsa first (prims.mldsaPublic second)) (.mlDsa second (prims.mldsaPublic first))

variable {prims} {first second : AuthLeg}

theorem Cross.symm (cross : Cross prims first second) : Cross prims second first := by
  cases cross with
  | ed25519 a b => exact .ed25519 b a
  | mlDsa a b => exact .mlDsa b a

theorem Cross.signatureLen (cross : Cross prims first second) :
    first.signatureLen prims = second.signatureLen prims := by
  cases cross <;> rfl

theorem length_sign (message : Octets 32) (leg : AuthLeg) :
    (leg.sign prims message).length = leg.signatureLen prims := by
  cases leg with
  | ed25519 seed _ => exact (prims.ed25519Sign seed message.bytes).length_eq
  | mlDsa secret _ => exact (prims.mldsaSign secret message.bytes).length_eq

/-- The binding does not depend on which end computes it. -/
theorem Cross.identityBinding (cross : Cross prims first second) :
    first.identityBinding prims = second.identityBinding prims := by
  cases cross with
  | mlDsa _ _ => rfl
  | ed25519 a b =>
    simp only [AuthLeg.identityBinding]
    cases order : lexLe (prims.ed25519Public a).bytes (prims.ed25519Public b).bytes with
    | false =>
      rw [lexLe_total _ _ order]
      simp
    | true =>
      cases reverse : lexLe (prims.ed25519Public b).bytes (prims.ed25519Public a).bytes with
      | false => simp
      | true =>
        rw [lexLe_antisymm order reverse]

theorem Cross.verify_sign (cross : Cross prims first second) (correct : prims.SignatureCorrect)
    (message : Octets 32) : second.verify prims message (first.sign prims message) = .ok () := by
  cases cross with
  | ed25519 a b =>
    have length : (prims.ed25519Sign a message.bytes).bytes.length = ed25519SigLen :=
      Octets.length_eq _
    simp only [AuthLeg.sign, AuthLeg.verify, length, ne_eq, not_true_eq_false, if_false,
      correct.ed25519Verify_sign, if_true]
  | mlDsa a b =>
    simp only [AuthLeg.sign, AuthLeg.verify, correct.mldsaSignature_valid,
      correct.mldsaVerify_sign, if_true]

end AuthLeg

namespace Authenticator

variable (prims : Primitives)

/-- The legs, in order. -/
def legs : Authenticator → List AuthLeg
  | single leg => [leg]
  | hybrid legs => legs

/-- `sign`: the legs' signatures in order. -/
def sign (auth : Authenticator) (message : Octets 32) : Bytes :=
  auth.legs.flatMap (AuthLeg.sign prims message)

/-- `signature_len`. -/
def signatureLen (auth : Authenticator) : Nat := (auth.legs.map (AuthLeg.signatureLen prims)).sum

/-- The loop of `HybridAuth::verify`: each leg checks its own slice. -/
def verifyFrom (message : Octets 32) (signature : Bytes) : Nat → List AuthLeg → Result Unit
  | _, [] => .ok ()
  | offset, leg :: rest =>
    if signature.length < offset + leg.signatureLen prims then
      .error (.handshake "verify" "hybrid signature truncated")
    else
      match leg.verify prims message ((signature.drop offset).take (leg.signatureLen prims)) with
      | .error e => .error e
      | .ok () => verifyFrom message signature (offset + leg.signatureLen prims) rest

/-- `verify`. -/
def verify (auth : Authenticator) (message : Octets 32) (signature : Bytes) : Result Unit :=
  match auth with
  | single leg => leg.verify prims message signature
  | hybrid legs => verifyFrom prims message signature 0 legs

/-- `identity_binding`. -/
def identityBinding (auth : Authenticator) : Bytes :=
  auth.legs.flatMap (AuthLeg.identityBinding prims)

/-- The public keys of the authenticator's own secrets. -/
def ownKeys (auth : Authenticator) : List Bytes := auth.legs.map (AuthLeg.ownKey prims)

/-- The pre-shared keys of the peer. -/
def peerKeys (auth : Authenticator) : List Bytes := auth.legs.map AuthLeg.peerKey

/-- **Cross-configured authenticators**: the same scheme, each leg with the other's public key. -/
inductive Cross : Authenticator → Authenticator → Prop
  | single {first second : AuthLeg} : AuthLeg.Cross prims first second →
      Cross (.single first) (.single second)
  | hybrid {first second : List AuthLeg} : List.Forall₂ (AuthLeg.Cross prims) first second →
      Cross (.hybrid first) (.hybrid second)

variable {prims} {first second : Authenticator}

theorem Cross.symm (cross : Cross prims first second) : Cross prims second first := by
  cases cross with
  | single legs => exact .single legs.symm
  | hybrid legs =>
    refine .hybrid ?_
    induction legs with
    | nil => exact .nil
    | cons leg _ ih => exact .cons leg.symm ih

theorem Cross.legs (cross : Cross prims first second) :
    List.Forall₂ (AuthLeg.Cross prims) first.legs second.legs := by
  cases cross with
  | single leg => exact .cons leg .nil
  | hybrid legs => exact legs

/-- One end owns the keys the other one expects. -/
theorem Cross.ownKeys (cross : Cross prims first second) :
    first.ownKeys prims = second.peerKeys := by
  have each : ∀ {left right : List AuthLeg}, List.Forall₂ (AuthLeg.Cross prims) left right →
      left.map (AuthLeg.ownKey prims) = right.map AuthLeg.peerKey := by
    intro left right legs
    induction legs with
    | nil => rfl
    | cons leg _ ih =>
      rw [List.map_cons, List.map_cons, ih]
      congr 1
      cases leg <;> rfl
  exact each cross.legs

theorem length_sign (auth : Authenticator) (message : Octets 32) :
    (auth.sign prims message).length = auth.signatureLen prims := by
  rw [sign, signatureLen, List.length_flatMap]
  congr 1
  exact List.map_congr_left fun leg _ => AuthLeg.length_sign message leg

theorem Cross.signatureLen (cross : Cross prims first second) :
    first.signatureLen prims = second.signatureLen prims := by
  have each : ∀ {left right : List AuthLeg}, List.Forall₂ (AuthLeg.Cross prims) left right →
      left.map (AuthLeg.signatureLen prims) = right.map (AuthLeg.signatureLen prims) := by
    intro left right legs
    induction legs with
    | nil => rfl
    | cons leg _ ih => rw [List.map_cons, List.map_cons, leg.signatureLen, ih]
  exact congrArg List.sum (each cross.legs)

/-- **Both ends bind the same identities.** -/
theorem identityBinding_symm (cross : Cross prims first second) :
    first.identityBinding prims = second.identityBinding prims := by
  have each : ∀ {left right : List AuthLeg}, List.Forall₂ (AuthLeg.Cross prims) left right →
      left.flatMap (AuthLeg.identityBinding prims) =
        right.flatMap (AuthLeg.identityBinding prims) := by
    intro left right legs
    induction legs with
    | nil => rfl
    | cons leg _ ih => rw [List.flatMap_cons, List.flatMap_cons, leg.identityBinding, ih]
  exact each cross.legs

/-- The hybrid loop accepts the legs' signatures, each at its own offset. -/
theorem verifyFrom_sign (correct : prims.SignatureCorrect) (message : Octets 32)
    {signers verifiers : List AuthLeg} (legs : List.Forall₂ (AuthLeg.Cross prims) signers verifiers)
    (before : Bytes) :
    verifyFrom prims message (before ++ signers.flatMap (AuthLeg.sign prims message)) before.length
      verifiers = .ok () := by
  induction legs generalizing before with
  | nil => rfl
  | @cons signer verifier signers verifiers leg _ ih =>
    have length : (signer.sign prims message).length = verifier.signatureLen prims :=
      (AuthLeg.length_sign message signer).trans leg.signatureLen
    have part : ((before ++ (signer.sign prims message ++
        signers.flatMap (AuthLeg.sign prims message))).drop before.length).take
          (verifier.signatureLen prims) = signer.sign prims message := by
      rw [List.drop_left]
      exact List.take_left' length
    have enough : ¬ (before ++ (signer.sign prims message ++
        signers.flatMap (AuthLeg.sign prims message))).length <
          before.length + verifier.signatureLen prims := by
      rw [List.length_append, List.length_append, length]
      omega
    have next := ih (before ++ signer.sign prims message)
    rw [List.append_assoc, List.length_append, length] at next
    rw [List.flatMap_cons, verifyFrom, if_neg enough, part, leg.verify_sign correct message]
    exact next

/-- **What one end signs, its cross-configured peer verifies.** -/
theorem verify_sign (cross : Cross prims first second) (correct : prims.SignatureCorrect)
    (message : Octets 32) : second.verify prims message (first.sign prims message) = .ok () := by
  cases cross with
  | @single signer verifier leg =>
    have whole : Authenticator.sign prims (.single signer) message = signer.sign prims message :=
      List.append_nil _
    rw [whole]
    exact leg.verify_sign correct message
  | hybrid legs => exact verifyFrom_sign correct message legs []

end Authenticator

end ChameleonPQ
