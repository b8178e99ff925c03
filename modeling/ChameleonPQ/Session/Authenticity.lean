/-
**What the AEAD tag of an obfuscated datagram covers.**

* `tryOpenObf_set_first` — no session looks at the first octet of a datagram: its type octet is
  recovered and neither compared nor authenticated.
* `Peer` — the sealing end of a session and what it sealed; `Ideal` — the AEAD accepts only that.
* `opened_is_produced` — a datagram a session opens is one the peer produced in every octet but the
  first, and in that one as well exactly when it unmasks to the wire type.
* `accepted_iff_produced` — the statement over a session manager; `first_octet_forged` is a datagram
  nobody produced.
-/

import ChameleonPQ.Session.RoundTrip

namespace ChameleonPQ

open Library

namespace Obf

/-! ### The first octet -/

theorem sampleOf_set_first {datagram : Bytes} (octet : UInt8)
    (long : hpHeaderLen + sampleLen ≤ datagram.length) :
    sampleOf (datagram.set 0 octet) = sampleOf datagram := by
  unfold sampleOf
  rw [List.length_set]
  refine List.drop_set_of_lt ?_
  have header : 0 < hpHeaderLen := by decide
  omega

/-- What the opener uses of a recovered header does not depend on the first octet. -/
theorem unmask_set_first (prims : Primitives) (obfKey : Octets 32) (datagram : Bytes) (octet : UInt8) :
    (unmask prims obfKey (datagram.set 0 octet)).map (fun header => (header.sessionId, header.counter)) =
      (unmask prims obfKey datagram).map fun header => (header.sessionId, header.counter) := by
  unfold unmask
  rw [List.length_set]
  by_cases short : datagram.length < hpHeaderLen + sampleLen
  · rw [if_pos short, if_pos short]
  · rw [if_neg short, if_neg short, sampleOf_set_first octet (Nat.not_lt.mp short)]
    cases datagram with
    | nil => rfl
    | cons first rest =>
      generalize headerMask prims obfKey (sampleOf (first :: rest)) = stream
      cases stream <;> rfl

end Obf

namespace Session

variable {prims : Primitives}

/-- **No session looks at the first octet of a datagram.** -/
theorem tryOpenObf_set_first (prims : Primitives) (session : Session) (datagram : Bytes)
    (octet : UInt8) :
    session.tryOpenObf prims (datagram.set 0 octet) = session.tryOpenObf prims datagram := by
  have same := Obf.unmask_set_first prims session.rxObfKey datagram octet
  have ct : Obf.ctSlice (datagram.set 0 octet) = Obf.ctSlice datagram :=
    List.drop_set_of_lt (by decide)
  unfold tryOpenObf
  rw [ct]
  rcases changed : Obf.unmask prims session.rxObfKey (datagram.set 0 octet) with _ | header' <;>
    rcases recovered : Obf.unmask prims session.rxObfKey datagram with _ | header <;>
    rw [changed, recovered] at same
  · cases same
  · cases same
  · obtain ⟨sameId, sameCounter⟩ := Prod.mk.inj (Option.some.inj same)
    dsimp only at sameId sameCounter ⊢
    rw [sameId, sameCounter]

/-! ### What the peer sealed -/

/-- One call of the obfuscated seal. -/
structure Sealing where
  counter : Nat
  innerType : UInt8
  plaintext : Bytes
  policy : Obf.PadPolicy
  noise : Nat → UInt8

/-- The sealing end of a session, and what it sealed so far. -/
structure Peer where
  sealer : Session
  sent : List Sealing

namespace Peer

section Definitions

variable (prims : Primitives)

/-- The AEAD ciphertext of a sealing. -/
def ciphertext (peer : Peer) (sealing : Sealing) : Result Bytes :=
  peer.sealer.sealWithCounter prims sealing.counter (Obf.packInner sealing.innerType
    sealing.plaintext sealing.policy (Obf.maxFramed peer.sealer.algo.tagLen) sealing.noise)

/-- The datagram is one the peer produced. -/
def Produces (peer : Peer) (datagram : Bytes) : Prop :=
  ∃ sealing ∈ peer.sent, peer.sealer.sealObfWithCounter prims sealing.counter sealing.innerType
    sealing.plaintext sealing.policy sealing.noise = .ok datagram

/-- **The AEAD is ideal on a datagram**: when it opens, the peer sealed its ciphertext, under the same
nonce and the same associated data. -/
def Ideal (peer : Peer) (opener : Session) (datagram : Bytes) : Prop :=
  ∀ header framed, Obf.unmask prims opener.rxObfKey datagram = some header →
    opener.openCiphertext prims header.counter (Obf.ctSlice datagram) = .ok framed →
    ∃ sealing ∈ peer.sent, peer.ciphertext prims sealing = .ok (Obf.ctSlice datagram) ∧
      opener.makeNonce opener.rxSalt header.counter =
        peer.sealer.makeNonce peer.sealer.txSalt sealing.counter ∧
      opener.dataAad header.counter = peer.sealer.dataAad sealing.counter

/-- The two ends of one session, with an AEAD that is ideal on a datagram. -/
structure Linked (peer : Peer) (opener : Session) (datagram : Bytes) : Prop where
  opens : Opens peer.sealer opener
  counters : ∀ sealing ∈ peer.sent, sealing.counter < 2 ^ 64
  ideal : peer.Ideal prims opener datagram

end Definitions

end Peer

/-! ### Opened datagrams -/

/-- A session opens a datagram only if its header and its ciphertext are its own. -/
theorem opened_header {opener : Session} {datagram : Bytes} {opened : FrameType × Bytes}
    (success : (opener.tryOpenObf prims datagram).1 = .ok (some opened)) :
    ∃ header framed, Obf.unmask prims opener.rxObfKey datagram = some header ∧
      header.sessionId = opener.sessionId ∧
        opener.openCiphertext prims header.counter (Obf.ctSlice datagram) = .ok framed := by
  unfold tryOpenObf at success
  split at success
  · cases success
  rename_i header recovered
  split at success
  · cases success
  rename_i sameId
  split at success
  · cases success
  rename_i framed after decrypted
  refine ⟨header, framed, recovered, not_not.mp sameId, ?_⟩
  unfold decrypt at decrypted
  split at decrypted
  · cases decrypted
  split at decrypted
  · cases decrypted
  rename_i plain authentic
  split at decrypted
  · cases decrypted
  · obtain ⟨same, -⟩ := Prod.mk.inj decrypted
    rw [authentic]
    exact same

end Session

namespace Obf

/-- A datagram is the masked header its header unmasks to, around its ciphertext. -/
theorem datagram_of_unmask {prims : Primitives} {obfKey : Octets 32} {datagram : Bytes}
    {header : Recovered} (recovered : unmask prims obfKey datagram = some header) :
    sampleLen ≤ (ctSlice datagram).length ∧ header.counter < 2 ^ 64 ∧
      datagram = mask (headerMask prims obfKey (sampleOf (ctSlice datagram)))
        (headerBytes header.wireType header.sessionId header.counter) ++ ctSlice datagram := by
  unfold unmask at recovered
  split at recovered
  · cases recovered
  rename_i enough
  obtain rfl := Option.some.inj recovered
  have split : datagram.take hpHeaderLen ++ ctSlice datagram = datagram :=
    List.take_append_drop hpHeaderLen datagram
  have long : sampleLen ≤ (ctSlice datagram).length := by
    show sampleLen ≤ (datagram.drop hpHeaderLen).length
    rw [List.length_drop]
    omega
  have sample : sampleOf datagram = sampleOf (ctSlice datagram) := by
    rw [← sampleOf_append (datagram.take hpHeaderLen) long, split]
  have front : (datagram.take hpHeaderLen).length = headerLen :=
    List.length_take_of_le (by unfold hpHeaderLen at enough ⊢; omega)
  have size : (mask (headerMask prims obfKey (sampleOf datagram))
      (datagram.take hpHeaderLen)).length = headerLen := by
    rw [length_mask, length_headerMask, front, Nat.min_self]
  refine ⟨long, ?_, ?_⟩
  · have small := leNat_lt (((mask (headerMask prims obfKey (sampleOf datagram))
      (datagram.take hpHeaderLen)).drop 5).take 8)
    have wide : (256 : Nat) ^ 8 = 2 ^ 64 := by decide
    refine small.trans_le (wide ▸ Nat.pow_le_pow_right (by decide : 0 < 256) ?_)
    exact List.length_take_le _ _
  · dsimp only
    rw [headerBytes_of_length size, ← sample, mask_mask _ _ (by rw [front, length_headerMask])]
    exact split.symm

/-- Headers of different types differ in their first octet only. -/
theorem drop_masked_header (stream : Bytes) (kind kind' : UInt8) (sessionId : UInt32) (counter : Nat)
    (ct : Bytes) : (mask stream (headerBytes kind sessionId counter) ++ ct).drop 1 =
      (mask stream (headerBytes kind' sessionId counter) ++ ct).drop 1 := by
  cases stream <;> rfl

end Obf

namespace Session

variable {prims : Primitives} {peer : Peer} {opener : Session} {datagram : Bytes}

/-- The fields of equal headers are equal. -/
theorem dataAad_injective {first second : Session} {counter counter' : Nat} (small : counter < 2 ^ 64)
    (small' : counter' < 2 ^ 64) (same : first.dataAad counter = second.dataAad counter') :
    first.sessionId = second.sessionId ∧ counter = counter' := by
  have padded : headerBytes 0x01 first.sessionId counter ++ [] =
      headerBytes 0x01 second.sessionId counter' ++ [] := congrArg (· ++ []) same
  have ids := headerBytes_sessionId 0x01 first.sessionId counter []
  have counters := headerBytes_sequence 0x01 first.sessionId counter [] small
  rw [padded] at ids counters
  rw [headerBytes_sessionId] at ids
  rw [headerBytes_sequence _ _ _ _ small'] at counters
  exact ⟨ids.symm, counters.symm⟩

/-- **What a session opens, its peer produced**, up to the first octet, and in that one as well exactly
when it unmasks to the wire type. -/
theorem opened_is_produced (correct : prims.AeadCorrect) (linked : peer.Linked prims opener datagram)
    {opened : FrameType × Bytes}
    (success : (opener.tryOpenObf prims datagram).1 = .ok (some opened)) :
    (∃ genuine, peer.Produces prims genuine ∧ genuine.drop 1 = datagram.drop 1) ∧
      (peer.Produces prims datagram ↔ ∃ header,
        Obf.unmask prims opener.rxObfKey datagram = some header ∧
          header.wireType = Obf.wireTypeData) := by
  obtain ⟨header, framed, recovered, sameId, authentic⟩ := opened_header success
  obtain ⟨sealing, sent, sealed, -, aad⟩ := linked.ideal header framed recovered authentic
  obtain ⟨long, small, shape⟩ := Obf.datagram_of_unmask recovered
  obtain ⟨-, sameCounter⟩ := dataAad_injective small (linked.counters sealing sent) aad
  have produced : peer.sealer.sealObfWithCounter prims sealing.counter sealing.innerType
      sealing.plaintext sealing.policy sealing.noise =
      .ok (mask (Obf.headerMask prims opener.rxObfKey (Obf.sampleOf (Obf.ctSlice datagram)))
        (headerBytes Obf.wireTypeData header.sessionId header.counter) ++ Obf.ctSlice datagram) := by
    unfold Peer.ciphertext at sealed
    unfold sealObfWithCounter sealObfCore
    dsimp only
    rw [sealed, sameId, sameCounter, linked.opens.obfKey, linked.opens.sessionId]
    rfl
  refine ⟨⟨_, ⟨sealing, sent, produced⟩, ?_⟩, ?_, ?_⟩
  · refine Eq.trans ?_ (congrArg (List.drop 1) shape.symm)
    exact Obf.drop_masked_header _ _ _ _ _ _
  · rintro ⟨other, otherSent, otherProduced⟩
    obtain ⟨ct, otherSealed, whole⟩ := sealObfCore_ok otherProduced
    refine ⟨header, recovered, ?_⟩
    rw [whole, unmask_sealed correct linked.opens (linked.counters other otherSent) otherSealed] at recovered
    exact congrArg Obf.Recovered.wireType (Option.some.inj recovered).symm
  · rintro ⟨header', recovered', wireType⟩
    obtain rfl := Option.some.inj (recovered.symm.trans recovered')
    rw [← wireType, ← shape] at produced
    exact ⟨sealing, sent, produced⟩

end Session

namespace SessionManager

open Session

variable {prims : Primitives} {manager : SessionManager Session} {datagram : Bytes}

/-- A session of one of the two slots. -/
def InSlot (manager : SessionManager Session) (session : Session) : Prop :=
  manager.current = session ∨ manager.previous = some session

/-- What the manager accepts, the session of a slot opened. -/
theorem opened_of_accepted {opened : FrameType × Bytes}
    (accepted : (manager.decryptObf prims datagram).1 = .ok opened) :
    ∃ session, manager.InSlot session ∧ (session.tryOpenObf prims datagram).1 = .ok (some opened) := by
  unfold decryptObf at accepted
  split at accepted
  · cases accepted
  · rename_i opened' current tried
    obtain rfl := Except.ok.inj accepted
    exact ⟨manager.current, .inl rfl, congrArg Prod.fst tried⟩
  · split at accepted
    · cases accepted
    rename_i previous slot
    split at accepted
    · cases accepted
    · rename_i opened' after tried
      obtain rfl := Except.ok.inj accepted
      exact ⟨previous, .inr slot, congrArg Prod.fst tried⟩
    · cases accepted

/-- **The first octet of every datagram can be changed unnoticed.** -/
theorem decryptObf_set_first (prims : Primitives) (manager : SessionManager Session) (datagram : Bytes)
    (octet : UInt8) :
    manager.decryptObf prims (datagram.set 0 octet) = manager.decryptObf prims datagram := by
  unfold decryptObf
  simp only [tryOpenObf_set_first]

/-- **Which accepted datagrams the peer produced.** With an AEAD that opens only what the peer of a slot
sealed, under its nonce and associated data: an accepted datagram is opened by the session of a slot,
whose peer produced all its octets but the first, and the first as well exactly when it unmasks to the
wire type. Whatever stands in the first octet, the manager accepts and returns the same. -/
theorem accepted_iff_produced (correct : prims.AeadCorrect) (peerOf : Session → Peer)
    (linked : ∀ session, manager.InSlot session →
      (peerOf session).Linked prims session datagram)
    {opened : FrameType × Bytes} (accepted : (manager.decryptObf prims datagram).1 = .ok opened) :
    (∃ session, manager.InSlot session ∧
      (session.tryOpenObf prims datagram).1 = .ok (some opened) ∧
      (∃ genuine, (peerOf session).Produces prims genuine ∧ genuine.drop 1 = datagram.drop 1) ∧
      ((peerOf session).Produces prims datagram ↔ ∃ header,
        Obf.unmask prims session.rxObfKey datagram = some header ∧
          header.wireType = Obf.wireTypeData)) ∧
    ∀ octet, (manager.decryptObf prims (datagram.set 0 octet)).1 = .ok opened := by
  obtain ⟨session, slot, success⟩ := opened_of_accepted accepted
  obtain ⟨produced, exactly⟩ := opened_is_produced correct (linked session slot) success
  refine ⟨⟨session, slot, success, produced, exactly⟩, fun octet => ?_⟩
  rw [decryptObf_set_first]
  exact accepted

/-- The end that sealed the sample datagram. -/
def samplePeerEnd : Peer :=
  ⟨established .transparent 7 (.zero 32) true .aegis256X2 0 [],
    [⟨3, FrameType.data.asU8, [1, 2, 3], .off, fun _ => 0⟩]⟩

/-- The end that receives it. -/
def sampleOpener : Session := established .transparent 7 (.zero 32) false .aegis256X2 0 [1, 5]

/-- The sample datagram, and its header as the receiver recovers it, with any first octet. -/
theorem sample_linked (datagram : Bytes) {header : Obf.Recovered}
    (recovered : Obf.unmask .transparent sampleOpener.rxObfKey datagram = some header)
    (counter : header.counter = 3) (same : Obf.ctSlice datagram = Obf.ctSlice sampleDatagram) :
    samplePeerEnd.Linked .transparent sampleOpener datagram := by
  have opens : Opens samplePeerEnd.sealer sampleOpener :=
    opens_established .transparent 7 (.zero 32) true .aegis256X2 0 0 [] [1, 5]
  refine ⟨opens, ?_, ?_⟩
  · intro sealing sent
    rw [List.mem_singleton.mp sent]
    decide
  · intro header' framed recovered' _
    obtain rfl := Option.some.inj (recovered.symm.trans recovered')
    rw [counter, same]
    exact ⟨_, List.mem_singleton.mpr rfl, by decide +kernel, opens.makeNonce 3, opens.dataAad 3⟩

/-- The sample manager. -/
def sampleManager : SessionManager Session := .new sampleOpener 10000

theorem sampleManager_slot {session : Session} (slot : sampleManager.InSlot session) :
    session = sampleOpener := by
  rcases slot with rfl | absent
  · rfl
  · cases absent

theorem accepted_iff_produced_sample : samplePeerEnd.Produces .transparent sampleDatagram := by
  have recovered : Obf.unmask .transparent sampleOpener.rxObfKey sampleDatagram = some ⟨1, 7, 3⟩ := by
    decide +kernel
  have accepted : (sampleManager.decryptObf .transparent sampleDatagram).1 = .ok (.data, [1, 2, 3]) := by
    decide +kernel
  obtain ⟨⟨session, slot, -, -, exactly⟩, -⟩ := accepted_iff_produced
    Primitives.transparent_aeadCorrect (fun _ => samplePeerEnd)
    (fun session slot => sampleManager_slot slot ▸ sample_linked sampleDatagram recovered rfl rfl) accepted
  rw [sampleManager_slot slot] at exactly
  exact exactly.mpr ⟨_, recovered, rfl⟩

/-- **A forged first octet**: the receiver accepts a datagram its peer did not produce. -/
theorem first_octet_forged :
    (sampleManager.decryptObf .transparent (sampleDatagram.set 0 0xff)).1 = .ok (.data, [1, 2, 3]) ∧
    samplePeerEnd.Linked .transparent sampleOpener (sampleDatagram.set 0 0xff) ∧
    ¬ samplePeerEnd.Produces .transparent (sampleDatagram.set 0 0xff) := by
  have recovered : Obf.unmask .transparent sampleOpener.rxObfKey (sampleDatagram.set 0 0xff) =
      some ⟨0xff, 7, 3⟩ := by decide +kernel
  have linked := sample_linked (sampleDatagram.set 0 0xff) recovered rfl (by decide +kernel)
  have opened : (sampleOpener.tryOpenObf .transparent (sampleDatagram.set 0 0xff)).1 =
      .ok (some (.data, [1, 2, 3])) := by decide +kernel
  refine ⟨by decide +kernel, linked, fun produced => ?_⟩
  obtain ⟨header, recovered', wireType⟩ :=
    (opened_is_produced Primitives.transparent_aeadCorrect linked opened).2.mp produced
  obtain rfl := Option.some.inj (recovered.symm.trans recovered')
  exact absurd wireType (by decide)

end SessionManager

end ChameleonPQ
