/-
**The hybrid authenticator over any legs (`crypto.rs`, `HybridAuth`).**

* `AuthMethods` — what `HybridAuth` calls of a `dyn Authenticator`; a `HybridAuth` is one again.
* `Concatenates` — a byte string is one part per leg, in leg order, each of the leg's declared length and
  verified by it.
* `verifyFrom_eq_ok_iff` — the loop accepts a byte string exactly when it begins with such parts.
* `verify_exact_iff` — verification is exact but for byte strings that carry more behind a valid signature;
  `verify_padded` is one. `verify_of_sign` — what the peer's legs sign is accepted.
* `legs_sign`, `legs_verify`, `paired_of_cross` — the two schemes of the program are such legs.
-/

import Mathlib.Data.List.Infix
import ChameleonPQ.Crypto.Authenticator
import ChameleonPQ.Crypto.Transparent

namespace ChameleonPQ

open Library

/-- The methods of a `dyn Authenticator` that signing and verifying use. -/
structure AuthMethods where
  sign : Octets 32 → Result Bytes
  verify : Octets 32 → Bytes → Result Unit
  signatureLen : Nat

namespace HybridAuth

/-- `HybridAuth::sign`: the first leg that fails ends it. -/
def sign (hash : Octets 32) : List AuthMethods → Result Bytes
  | [] => .ok []
  | leg :: legs =>
    match leg.sign hash with
    | .error e => .error e
    | .ok part =>
      match sign hash legs with
      | .error e => .error e
      | .ok rest => .ok (part ++ rest)

/-- `total_sig_len`. -/
def totalSigLen (legs : List AuthMethods) : Nat := (legs.map AuthMethods.signatureLen).sum

/-- The loop of `HybridAuth::verify`. -/
def verifyFrom (hash : Octets 32) (signature : Bytes) : Nat → List AuthMethods → Result Unit
  | _, [] => .ok ()
  | offset, leg :: legs =>
    if signature.length < offset + leg.signatureLen then
      .error (.handshake "verify" "hybrid signature truncated")
    else
      match leg.verify hash ((signature.drop offset).take leg.signatureLen) with
      | .error e => .error e
      | .ok () => verifyFrom hash signature (offset + leg.signatureLen) legs

/-- `HybridAuth::verify`. -/
def verify (legs : List AuthMethods) (hash : Octets 32) (signature : Bytes) : Result Unit :=
  verifyFrom hash signature 0 legs

/-- `HybridAuth` as an authenticator, which may be a leg itself. -/
def methods (legs : List AuthMethods) : AuthMethods :=
  ⟨fun hash => sign hash legs, verify legs, totalSigLen legs⟩

/-! ### What a hybrid signature is -/

/-- One part per leg, in leg order, each of the leg's declared length and verified by it. -/
inductive Concatenates (hash : Octets 32) : List AuthMethods → Bytes → Prop
  | nil : Concatenates hash [] []
  | cons {leg : AuthMethods} {legs : List AuthMethods} {part rest : Bytes} :
      part.length = leg.signatureLen → leg.verify hash part = .ok () → Concatenates hash legs rest →
        Concatenates hash (leg :: legs) (part ++ rest)

variable {hash : Octets 32} {legs : List AuthMethods} {signature : Bytes}

theorem Concatenates.length_eq (parts : Concatenates hash legs signature) :
    signature.length = totalSigLen legs := by
  induction parts with
  | nil => rfl
  | cons length _ _ ih =>
    rw [List.length_append, length, ih, totalSigLen, totalSigLen, List.map_cons, List.sum_cons]

/-- The first leg's part is the front of the signature. -/
theorem concatenates_cons_iff {leg : AuthMethods} :
    Concatenates hash (leg :: legs) signature ↔
      leg.signatureLen ≤ signature.length ∧ leg.verify hash (signature.take leg.signatureLen) = .ok () ∧
        Concatenates hash legs (signature.drop leg.signatureLen) := by
  constructor
  · intro parts
    cases parts with
    | @cons _ _ part rest length verified others =>
      rw [List.take_left' length, List.drop_left' length]
      refine ⟨?_, verified, others⟩
      rw [List.length_append, length]
      exact Nat.le_add_right _ _
  · rintro ⟨enough, verified, others⟩
    have whole := Concatenates.cons (List.length_take_of_le enough) verified others
    rwa [List.take_append_drop] at whole

/-- **The loop accepts what begins with one verifying part per leg**, wherever it stands. -/
theorem verifyFrom_eq_ok_iff {offset : Nat} (inside : offset ≤ signature.length) :
    verifyFrom hash signature offset legs = .ok () ↔
      ∃ front back, signature.drop offset = front ++ back ∧ Concatenates hash legs front := by
  induction legs generalizing offset with
  | nil => exact iff_of_true rfl ⟨[], signature.drop offset, rfl, .nil⟩
  | cons leg legs ih =>
    rw [verifyFrom]
    by_cases truncated : signature.length < offset + leg.signatureLen
    · rw [if_pos truncated]
      refine iff_of_false (fun absurd => by cases absurd) ?_
      rintro ⟨front, back, split, parts⟩
      have enough := (concatenates_cons_iff.mp parts).1
      have lengths := congrArg List.length split
      rw [List.length_drop, List.length_append] at lengths
      omega
    · rw [if_neg truncated]
      have next := ih (Nat.not_lt.mp truncated)
      rw [← List.drop_drop] at next
      have part : ∀ front back, signature.drop offset = front ++ back →
          leg.signatureLen ≤ front.length →
            (signature.drop offset).take leg.signatureLen = front.take leg.signatureLen ∧
              (signature.drop offset).drop leg.signatureLen = front.drop leg.signatureLen ++ back := by
        intro front back split enough
        rw [split]
        exact ⟨List.take_append_of_le_length enough, List.drop_append_of_le_length enough⟩
      constructor
      · intro accepted
        split at accepted
        · cases accepted
        · rename_i verified
          obtain ⟨front, back, split, parts⟩ := next.mp accepted
          refine ⟨(signature.drop offset).take leg.signatureLen ++ front, back, ?_, .cons ?_ verified parts⟩
          · rw [List.append_assoc, ← split, List.take_append_drop]
          · rw [List.length_take, List.length_drop]
            omega
      · rintro ⟨front, back, split, parts⟩
        obtain ⟨enough, verified, others⟩ := concatenates_cons_iff.mp parts
        obtain ⟨same, rest⟩ := part front back split enough
        rw [same, verified]
        exact next.mpr ⟨_, back, rest, others⟩

/-- **Verification accepts what begins with a hybrid signature.** -/
theorem verify_eq_ok_iff :
    verify legs hash signature = .ok () ↔ ∃ front back, signature = front ++ back ∧ Concatenates hash legs front :=
  verifyFrom_eq_ok_iff (Nat.zero_le _)

/-! ### Signing -/

/-- The verifying leg is the peer of the signing one: it accepts what the other signs, at the length it
declares itself. -/
def Paired (signer verifier : AuthMethods) : Prop :=
  ∀ hash part, signer.sign hash = .ok part → part.length = verifier.signatureLen ∧ verifier.verify hash part = .ok ()

/-- What the signing legs produce is a hybrid signature of their peers. -/
theorem concatenates_of_sign {signers : List AuthMethods} (paired : List.Forall₂ Paired signers legs)
    (signed : sign hash signers = .ok signature) : Concatenates hash legs signature := by
  induction paired generalizing signature with
  | nil =>
    obtain rfl := Except.ok.inj signed
    exact .nil
  | cons pair _ ih =>
    rw [sign] at signed
    split at signed
    · cases signed
    · rename_i part produced
      split at signed
      · cases signed
      · rename_i rest others
        obtain rfl := Except.ok.inj signed
        obtain ⟨length, verified⟩ := pair _ _ produced
        exact .cons length verified (ih others)

/-- **What sign produces on the peer verifies.** -/
theorem verify_of_sign {signers : List AuthMethods} (paired : List.Forall₂ Paired signers legs)
    (signed : sign hash signers = .ok signature) : verify legs hash signature = .ok () :=
  verify_eq_ok_iff.mpr ⟨signature, [], (List.append_nil _).symm, concatenates_of_sign paired signed⟩

/-- **Verification is exact, for any legs, on every byte string but those that carry more behind a hybrid
signature**; and it accepts what sign produces on the peer. -/
theorem verify_exact_iff (legs : List AuthMethods) (hash : Octets 32) (signature : Bytes) :
    ((verify legs hash signature = .ok () ↔ Concatenates hash legs signature) ∧
        ∀ signers, List.Forall₂ Paired signers legs → sign hash signers = .ok signature →
          verify legs hash signature = .ok ()) ↔
      ¬ ∃ front back, back ≠ [] ∧ signature = front ++ back ∧ Concatenates hash legs front := by
  rw [and_iff_left fun signers paired signed => verify_of_sign paired signed, verify_eq_ok_iff]
  constructor
  · rintro exact ⟨front, back, more, split, parts⟩
    have whole := exact.mp ⟨front, back, split, parts⟩
    have lengths := congrArg List.length split
    rw [whole.length_eq, List.length_append, parts.length_eq] at lengths
    exact more (List.length_eq_zero_iff.mp (by omega))
  · intro bare
    constructor
    · rintro ⟨front, back, split, parts⟩
      by_cases nothing : back = []
      · rw [split, nothing, List.append_nil]
        exact parts
      · exact absurd ⟨front, back, nothing, split, parts⟩ bare
    · exact fun parts => ⟨signature, [], (List.append_nil _).symm, parts⟩

end HybridAuth

/-! ### The two schemes as legs -/

namespace AuthLeg

variable (prims : Primitives)

/-- `Ed25519Auth` or `MlDsaAuth` as a `dyn Authenticator`; signing cannot fail. -/
def methods (leg : AuthLeg) : AuthMethods :=
  ⟨fun hash => .ok (leg.sign prims hash), fun hash signature => leg.verify prims hash signature,
    leg.signatureLen prims⟩

variable {prims}

/-- Cross-configured legs are paired. -/
theorem paired_of_cross (correct : prims.SignatureCorrect) {signer verifier : AuthLeg}
    (cross : Cross prims signer verifier) :
    HybridAuth.Paired (signer.methods prims) (verifier.methods prims) := by
  intro hash part signed
  obtain rfl := Except.ok.inj signed
  exact ⟨(length_sign hash signer).trans cross.signatureLen, cross.verify_sign correct hash⟩

end AuthLeg

namespace HybridAuth

variable (prims : Primitives)

/-- Signing over the program's legs. -/
theorem legs_sign (legs : List AuthLeg) (hash : Octets 32) :
    sign hash (legs.map (AuthLeg.methods prims)) = .ok (Authenticator.sign prims (.hybrid legs) hash) := by
  induction legs with
  | nil => rfl
  | cons leg legs ih =>
    rw [List.map_cons, sign, ih]
    rfl

/-- Verifying over the program's legs. -/
theorem legs_verify (legs : List AuthLeg) (hash : Octets 32) (signature : Bytes) :
    verify (legs.map (AuthLeg.methods prims)) hash signature =
      Authenticator.verify prims (.hybrid legs) hash signature := by
  have loop : ∀ offset, verifyFrom hash signature offset (legs.map (AuthLeg.methods prims)) =
      Authenticator.verifyFrom prims hash signature offset legs := by
    induction legs with
    | nil => exact fun _ => rfl
    | cons leg legs ih =>
      intro offset
      rw [List.map_cons, verifyFrom, Authenticator.verifyFrom]
      refine if_congr Iff.rfl rfl ?_
      dsimp only [AuthLeg.methods]
      cases leg.verify prims hash ((signature.drop offset).take (leg.signatureLen prims)) with
      | error e => rfl
      | ok passed => exact ih _
  exact loop 0

variable {prims}

/-- Cross-configured hybrids are paired leg by leg. -/
theorem paired_of_cross (correct : prims.SignatureCorrect) {signers verifiers : List AuthLeg}
    (cross : List.Forall₂ (AuthLeg.Cross prims) signers verifiers) :
    List.Forall₂ Paired (signers.map (AuthLeg.methods prims)) (verifiers.map (AuthLeg.methods prims)) := by
  induction cross with
  | nil => exact .nil
  | cons leg _ ih => exact .cons (AuthLeg.paired_of_cross correct leg) ih

/-- The legs of a sample hybrid: Ed25519 and ML-DSA. -/
def sampleLegs (secret peer : UInt8) : List AuthLeg :=
  [.ed25519 [secret] (Primitives.transparent.ed25519Public [peer]),
    .mlDsa [secret] (Primitives.transparent.mldsaPublic [peer])]

/-- **A longer byte string is accepted**: the peer's signature with one more byte behind it. -/
theorem verify_padded : ¬ ∀ (legs : List AuthMethods) (hash : Octets 32) (signature : Bytes),
    verify legs hash signature = .ok () ↔ Concatenates hash legs signature := by
  intro claim
  have cross : List.Forall₂ (AuthLeg.Cross .transparent) (sampleLegs 1 2) (sampleLegs 2 1) :=
    .cons (.ed25519 [1] [2]) (.cons (.mlDsa [1] [2]) .nil)
  have paired := paired_of_cross Primitives.transparent_signatureCorrect cross
  have parts := concatenates_of_sign paired (legs_sign .transparent (sampleLegs 1 2) (.zero 32))
  have longer := (claim _ _ _).mp (verify_eq_ok_iff.mpr ⟨_, [0], rfl, parts⟩)
  have lengths := longer.length_eq.trans parts.length_eq.symm
  rw [List.length_append] at lengths
  exact absurd (Nat.left_eq_add.mp lengths.symm) (by decide)

end HybridAuth

end ChameleonPQ
