/-
**The handshake transcript and the key schedule (`crypto.rs`).**

`Transcript` is the octet stream fed to SHA-256: a fixed prefix, then each absorbed string after its
length. `stream_injective` — three absorbed strings, the last two of known lengths, are determined by
the stream. `roleBoundInput_injective` — so are the role label and the hash of a role-bound signature.
-/

import ChameleonPQ.Crypto.Primitives

namespace ChameleonPQ

open Library

/-- `Transcript`: what the hasher was given so far. -/
structure Transcript where
  stream : Bytes
  deriving DecidableEq

namespace Transcript

/-- `new`. -/
def new : Transcript := ⟨ascii "Chameleon-PQ-v1 transcript"⟩

/-- `absorb`: the length as a `u32`, then the octets. -/
def absorb (transcript : Transcript) (raw : Bytes) : Transcript :=
  ⟨transcript.stream ++ leBytes 4 (raw.length % 2 ^ 32) ++ raw⟩

/-- `hash`. -/
def hash (prims : Primitives) (transcript : Transcript) : Octets 32 := prims.sha256 transcript.stream

/-- **A transcript determines what was absorbed**: the last two strings have fixed lengths, so the
length of the whole stream fixes that of the first one. -/
theorem stream_injective {binding init resp binding' init' resp' : Bytes}
    (initLength : init.length = init'.length) (respLength : resp.length = resp'.length)
    (same : (((new.absorb binding).absorb init).absorb resp).stream =
      (((new.absorb binding').absorb init').absorb resp').stream) :
    binding = binding' ∧ init = init' ∧ resp = resp' := by
  simp only [absorb, List.append_assoc] at same
  have body := List.append_cancel_left same
  have total := congrArg List.length body
  simp only [List.length_append, length_leBytes, initLength, respLength] at total
  have bindingLength : binding.length = binding'.length := by omega
  obtain ⟨-, rest⟩ := List.append_inj body (by rw [length_leBytes, length_leBytes])
  obtain ⟨bindingSame, rest⟩ := List.append_inj rest bindingLength
  obtain ⟨-, rest⟩ := List.append_inj rest (by rw [length_leBytes, length_leBytes])
  obtain ⟨initSame, rest⟩ := List.append_inj rest initLength
  obtain ⟨-, respSame⟩ := List.append_inj rest (by rw [length_leBytes, length_leBytes])
  exact ⟨bindingSame, initSame, respSame⟩

end Transcript

/-! ### Role-bound signatures -/

/-- `SIG_LABEL_RESPONDER`. -/
def sigLabelResponder : Bytes := ascii "Chameleon-PQ-v1 responder proof"

/-- `SIG_LABEL_INITIATOR`. -/
def sigLabelInitiator : Bytes := ascii "Chameleon-PQ-v1 initiator proof"

/-- The input `role_bound_hash` feeds to SHA-256. -/
def roleBoundInput (label : Bytes) (transcriptHash : Octets 32) : Bytes :=
  label ++ transcriptHash.bytes

/-- `role_bound_hash`. -/
def roleBoundHash (prims : Primitives) (label : Bytes) (transcriptHash : Octets 32) : Octets 32 :=
  prims.sha256 (roleBoundInput label transcriptHash)

theorem sigLabel_ne : sigLabelResponder ≠ sigLabelInitiator := by decide

theorem roleBoundInput_injective {label label' : Bytes} {hash hash' : Octets 32}
    (same : roleBoundInput label hash = roleBoundInput label' hash') :
    label = label' ∧ hash = hash' := by
  obtain ⟨labels, hashes⟩ := List.append_inj' same (by rw [hash.length_eq, hash'.length_eq])
  exact ⟨labels, Octets.ext hashes⟩

/-! ### Key derivation -/

section Derivation

variable (prims : Primitives)

/-- `derive_shared`: X25519 and ML-KEM secrets in one HKDF. -/
def deriveShared (xSs mlkemSs : Octets 32) : Octets 32 :=
  prims.hkdfSha256 (ascii "Chameleon-PQ-v1-salt") (xSs.bytes ++ mlkemSs.bytes)
    (ascii "chameleon-pq hybrid session key")

/-- `derive_session_id`. -/
def deriveSessionId (shared : Octets 32) : UInt32 :=
  UInt32.ofNat (leNat
    ((prims.sha256 (ascii "Chameleon-PQ-v1 session-id" ++ shared.bytes)).bytes.take 4))

/-- `mac_key_from`. -/
def macKeyFrom (shared : Octets 32) : Octets 32 :=
  prims.hkdfSha256 (ascii "Chameleon-PQ-v1-mac") shared.bytes (ascii "handshake mac key")

end Derivation

end ChameleonPQ
