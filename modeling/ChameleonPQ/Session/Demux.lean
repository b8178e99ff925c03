/-
**The two demultiplexers of the session manager (`session.rs`, `decrypt` and `decrypt_obf`).**

`decrypt` picks the slot by the id a cleartext packet carries and stops there; `decrypt_obf` tries the
slots in turn and goes on when one does not open the datagram.

* `Takes` — a packet is authentic and fresh for a session; `Genuine` — a session opens what the peer sealed
  to nothing else.
* `decryptObf_genuine` — trial decryption accepts every packet that is authentic and fresh for a slot.
* `decrypt_current`, `decrypt_previous` — selection by id accepts exactly the packets that are authentic
  and fresh for the first slot with their id.
* `demux_agree_iff` — the two agree unless the current session has the packet's id and does not take it;
  `shadowed_previous` is a packet on the previous session that only one of them opens.
-/

import ChameleonPQ.Session.RoundTrip

namespace ChameleonPQ

open Library

namespace Session

section Definitions

variable (prims : Primitives)

/-- The packet is fresh and in the window of the session, and its tag verifies under its keys. -/
structure Takes (session : Session) (counter : Nat) (ct : Bytes) : Prop where
  fresh : session.replay.check counter = .ok ()
  authentic : ∃ plain, session.openCiphertext prims counter ct = .ok plain

/-- **AEAD integrity on a ciphertext the peer sealed**: whatever counter a session opens it under, it
finds what the peer sealed. -/
def Genuine (session : Session) (ct sealed : Bytes) : Prop :=
  ∀ counter plain, session.openCiphertext prims counter ct = .ok plain → plain = sealed

end Definitions

variable {prims : Primitives}

/-- What decrypting returns: the plaintext of a packet the session takes. -/
theorem decrypt_eq_ok_iff (session : Session) (counter : Nat) (ct plain : Bytes) :
    (session.decrypt prims counter ct).1 = .ok plain ↔
      session.replay.check counter = .ok () ∧ session.openCiphertext prims counter ct = .ok plain := by
  constructor
  · intro success
    simp only [decrypt, checkReplay, recheckCommit] at success
    split at success
    · cases success
    · rename_i fresh
      split at success
      · cases success
      · rename_i opened
        cases success
        exact ⟨fresh, opened⟩
  · rintro ⟨fresh, opened⟩
    simp only [decrypt, checkReplay, recheckCommit, fresh, opened]

/-- The peer's packet decrypts to what the peer sealed exactly where a session takes it. -/
theorem decrypt_genuine_iff {session : Session} {ct sealed : Bytes}
    (genuine : Genuine prims session ct sealed) (counter : Nat) :
    (session.decrypt prims counter ct).1 = .ok sealed ↔ Takes prims session counter ct := by
  rw [decrypt_eq_ok_iff]
  constructor
  · rintro ⟨fresh, opened⟩
    exact ⟨fresh, sealed, opened⟩
  · rintro ⟨fresh, plain, opened⟩
    obtain rfl := genuine counter plain opened
    exact ⟨fresh, opened⟩

/-- The other end of the sealing session takes a fresh packet. -/
theorem takes_sealed {sealer opener : Session} (correct : prims.AeadCorrect) (opens : Opens sealer opener)
    {counter : Nat} (fresh : opener.replay.check counter = .ok ()) {plaintext ct : Bytes}
    (sealed : sealer.sealWithCounter prims counter plaintext = .ok ct) : Takes prims opener counter ct :=
  ⟨fresh, plaintext, opens.openCiphertext correct sealed⟩

/-- **A trial on the peer's datagram** opens it to the type and plaintext the peer sealed, or leaves it to
the next candidate. -/
theorem tryOpenObf_genuine {session : Session} {datagram : Bytes} {frameType : FrameType}
    {plaintext : Bytes} (short : plaintext.length ≤ 65535) {policy : Obf.PadPolicy} {room : Nat}
    {noise : Nat → UInt8}
    (genuine : Genuine prims session (Obf.ctSlice datagram)
      (Obf.packInner frameType.asU8 plaintext policy room noise)) :
    (session.tryOpenObf prims datagram).1 = .ok none ∨
      (session.tryOpenObf prims datagram).1 = .ok (some (frameType, plaintext)) := by
  unfold tryOpenObf
  split
  · exact Or.inl rfl
  · rename_i header recovered
    by_cases other : header.sessionId ≠ session.sessionId
    · rw [if_pos other]
      exact Or.inl rfl
    · rw [if_neg other]
      split
      · exact Or.inl rfl
      · rename_i framed after decrypted
        have success : (session.decrypt prims header.counter (Obf.ctSlice datagram)).1 = .ok framed :=
          congrArg Prod.fst decrypted
        have opened := ((decrypt_eq_ok_iff _ _ _ _).mp success).2
        obtain rfl := genuine _ _ opened
        rw [Obf.unpackInner_packInner _ _ _ _ short]
        refine Or.inr ?_
        simp only [FrameType.fromU8_asU8]

end Session

namespace SessionManager

open Session

variable {prims : Primitives}

/-! ### Selection by id -/

/-- A packet with the current session's id goes to the current session and to no other. -/
theorem decrypt_current {manager : SessionManager Session} {sessionId : UInt32}
    (same : manager.current.sessionId = sessionId) {ct sealed : Bytes}
    (genuine : Genuine prims manager.current ct sealed) (counter : Nat) :
    (manager.decrypt prims sessionId counter ct).1 = .ok sealed ↔
      Takes prims manager.current counter ct := by
  rw [← decrypt_genuine_iff genuine counter, decrypt, if_pos same]

/-- A packet with another id goes to the previous session. -/
theorem decrypt_previous {manager : SessionManager Session} {previous : Session}
    (slot : manager.previous = some previous)
    (other : manager.current.sessionId ≠ previous.sessionId) (counter : Nat) (ct : Bytes) :
    (manager.decrypt prims previous.sessionId counter ct).1 = (previous.decrypt prims counter ct).1 := by
  rw [decrypt, if_neg other, slot]
  simp only [if_true]

/-! ### Both framings of one packet -/

/-- A packet of the peer in both framings: the counter, the frame and the sealed bytes. -/
structure Sealed (prims : Primitives) (sealer : Session) (counter : Nat) (frameType : FrameType)
    (plaintext : Bytes) (policy : Obf.PadPolicy) (noise : Nat → UInt8) (ct datagram : Bytes) : Prop where
  small : counter < 2 ^ 64
  short : plaintext.length ≤ 65535
  clear : sealer.sealWithCounter prims counter plaintext = .ok ct
  obfuscated : sealer.sealObfCore prims counter frameType.asU8 plaintext policy noise = .ok datagram

variable {sealer opener : Session} {counter : Nat} {frameType : FrameType} {plaintext : Bytes}
  {policy : Obf.PadPolicy} {noise : Nat → UInt8} {ct datagram : Bytes} {manager : SessionManager Session}

/-- **Trial decryption accepts the peer's packet from whichever slot takes it.** -/
theorem decryptObf_genuine (correct : prims.AeadCorrect)
    (packet : Sealed prims sealer counter frameType plaintext policy noise ct datagram)
    (opens : Opens sealer opener) (fresh : opener.replay.check counter = .ok ())
    (held : manager.current = opener ∨ manager.previous = some opener)
    (genuine : Genuine prims manager.current (Obf.ctSlice datagram)
      (Obf.packInner frameType.asU8 plaintext policy (Obf.maxFramed sealer.algo.tagLen) noise)) :
    (manager.decryptObf prims datagram).1 = .ok (frameType, plaintext) := by
  have opened := tryOpenObf_sealed correct opens packet.small fresh packet.short packet.obfuscated
  obtain ⟨current, slot, _, _, _⟩ := manager
  rcases held with here | there
  · obtain rfl : current = opener := here
    simp only [decryptObf, opened]
  · obtain rfl : slot = some opener := there
    have tried := tryOpenObf_genuine packet.short genuine
    unfold decryptObf
    split
    · rename_i failed
      rw [failed] at tried
      rcases tried with absurd | absurd <;> cases absurd
    · rename_i found
      rw [found] at tried
      rcases tried with absurd | same
      · cases absurd
      · cases same
        rfl
    · simp only [opened]

/-- **Selection by id and trial decryption agree** on the peer's packets unless the current session has the
packet's id and does not take the packet: trial decryption accepts them all. -/
theorem demux_agree_iff (correct : prims.AeadCorrect)
    (packet : Sealed prims sealer counter frameType plaintext policy noise ct datagram)
    (opens : Opens sealer opener) (fresh : opener.replay.check counter = .ok ())
    (held : manager.current = opener ∨ manager.previous = some opener)
    (clearGenuine : Genuine prims manager.current ct plaintext)
    (obfGenuine : Genuine prims manager.current (Obf.ctSlice datagram)
      (Obf.packInner frameType.asU8 plaintext policy (Obf.maxFramed sealer.algo.tagLen) noise)) :
    ((manager.decrypt prims sealer.sessionId counter ct).1 = .ok plaintext ∧
        (manager.decryptObf prims datagram).1 = .ok (frameType, plaintext)) ↔
      (manager.current.sessionId = sealer.sessionId → Takes prims manager.current counter ct) := by
  have takes := takes_sealed correct opens fresh packet.clear
  have trial := decryptObf_genuine correct packet opens fresh held obfGenuine
  rw [and_iff_left trial]
  by_cases same : manager.current.sessionId = sealer.sessionId
  · rw [decrypt_current same clearGenuine]
    exact (imp_iff_right same).symm
  · rw [iff_true_right fun equal => absurd equal same]
    have slot : manager.previous = some opener :=
      held.resolve_left fun here => same (here ▸ opens.sessionId)
    have other : manager.current.sessionId ≠ opener.sessionId := opens.sessionId ▸ same
    rw [← opens.sessionId, decrypt_previous slot other, decrypt_eq_ok_iff]
    exact ⟨fresh, opens.openCiphertext correct packet.clear⟩

/-! ### Samples -/

/-- The transparent AEGIS opens a ciphertext only to what stands before its tag. -/
theorem transparent_genuine {session : Session} (aegis : session.rxAead.algo = .aegis256X2) (ct : Bytes) :
    Genuine .transparent session ct (ct.take (ct.length - 32)) := by
  intro counter plain opened
  rw [openCiphertext, DirectionalAead.openBytes, aegis] at opened
  simp only at opened
  split at opened
  · cases opened
  · simp only [Primitives.transparent] at opened
    split at opened
    · rename_i found
      split at found
      · cases found
        cases opened
        rfl
      · cases found
    · cases opened

/-- The receiving end of a sample session. -/
def sampleHolder (sessionId : UInt32) (secret : Octets 32) : Session :=
  established .transparent sessionId secret false .aegis256X2 0 []

/-- The peer's end of the previous session. -/
def sampleOtherEnd : Session := established .transparent 7 (.zero 32) true .aegis256X2 0 []

/-- A manager that installed a session of another secret over session 7. -/
def sampleSlots (sessionId : UInt32) : SessionManager Session :=
  (SessionManager.new (sampleHolder 7 (.zero 32)) 10000).installNewSession
    (sampleHolder sessionId (.fill 32 [9]))

/-- Packet 3 of the peer on the previous session, in the clear. -/
def sampleClearPacket : Bytes := (sampleOtherEnd.sealWithCounter .transparent 3 [1, 2]).toOption.getD []

/-- The same packet, obfuscated. -/
def sampleObfPacket : Bytes :=
  (sampleOtherEnd.sealObfCore .transparent 3 FrameType.data.asU8 [1, 2] .off fun _ => 0).toOption.getD []

theorem sealed_sample : Sealed .transparent sampleOtherEnd 3 .data [1, 2] .off (fun _ => 0) sampleClearPacket
    sampleObfPacket where
  small := by decide
  short := by decide
  clear := by decide +kernel
  obfuscated := by decide +kernel

theorem genuine_clear_sample (sessionId : UInt32) :
    Genuine .transparent (sampleSlots sessionId).current sampleClearPacket [1, 2] :=
  transparent_genuine rfl sampleClearPacket

theorem genuine_obf_sample (sessionId : UInt32) :
    Genuine .transparent (sampleSlots sessionId).current (Obf.ctSlice sampleObfPacket)
      (Obf.packInner FrameType.data.asU8 [1, 2] .off (Obf.maxFramed sampleOtherEnd.algo.tagLen) fun _ => 0) := by
  have framed : (Obf.ctSlice sampleObfPacket).take ((Obf.ctSlice sampleObfPacket).length - 32) =
      Obf.packInner FrameType.data.asU8 [1, 2] .off (Obf.maxFramed sampleOtherEnd.algo.tagLen) fun _ => 0 := by
    decide +kernel
  exact framed ▸ transparent_genuine rfl (Obf.ctSlice sampleObfPacket)

theorem demux_agree_iff_sample :
    ((sampleSlots 8).decrypt .transparent 7 3 sampleClearPacket).1 = .ok [1, 2] ∧
      ((sampleSlots 8).decryptObf .transparent sampleObfPacket).1 = .ok (.data, [1, 2]) := by
  have opens : Opens sampleOtherEnd (sampleHolder 7 (.zero 32)) :=
    opens_established .transparent 7 (.zero 32) true .aegis256X2 0 0 [] []
  exact (demux_agree_iff Primitives.transparent_aeadCorrect sealed_sample opens (by decide +kernel)
    (Or.inr rfl) (genuine_clear_sample 8) (genuine_obf_sample 8)).mpr fun same => absurd same (by decide)

/-- **With one id in both slots a packet of the previous session is lost in the clear**: the current session
rejects it and the previous one is not asked. -/
theorem shadowed_previous : ¬ ∀ (prims : Primitives) (sealer opener : Session) (counter : Nat)
    (frameType : FrameType) (plaintext : Bytes) (policy : Obf.PadPolicy) (noise : Nat → UInt8)
    (ct datagram : Bytes) (manager : SessionManager Session),
    prims.AeadCorrect → Sealed prims sealer counter frameType plaintext policy noise ct datagram →
    Opens sealer opener → opener.replay.check counter = .ok () →
    manager.current = opener ∨ manager.previous = some opener →
    Genuine prims manager.current ct plaintext →
    Genuine prims manager.current (Obf.ctSlice datagram)
      (Obf.packInner frameType.asU8 plaintext policy (Obf.maxFramed sealer.algo.tagLen) noise) →
    (manager.decrypt prims sealer.sessionId counter ct).1 = .ok plaintext ∧
      (manager.decryptObf prims datagram).1 = .ok (frameType, plaintext) := by
  intro claim
  have opens : Opens sampleOtherEnd (sampleHolder 7 (.zero 32)) :=
    opens_established .transparent 7 (.zero 32) true .aegis256X2 0 0 [] []
  have both := claim _ _ _ _ _ _ _ _ _ _ (sampleSlots 7) Primitives.transparent_aeadCorrect sealed_sample
    opens (by decide +kernel) (Or.inr rfl) (genuine_clear_sample 7) (genuine_obf_sample 7)
  have rejected : ((sampleSlots 7).decrypt .transparent sampleOtherEnd.sessionId 3 sampleClearPacket).1 =
      .error .decryptionFailed := by decide +kernel
  rw [rejected] at both
  cases both.1

end SessionManager

end ChameleonPQ
