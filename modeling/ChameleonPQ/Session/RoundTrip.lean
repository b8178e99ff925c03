/-
**The obfuscated data path, end to end.**

* `tryOpenObf_sealed` — a sealed datagram opens at the other end to the same inner type and plaintext,
  and its counter is committed.
* `Refuses` — a session that can no longer open a given datagram; `refuses_tryOpenObf` keeps it so
  whatever else the session opens.
* `RefusedByAll` — no slot of a session manager opens the datagram; `refusedByAll_step` keeps it over
  receiving, sealing, installing and retiring.
* `length_sealed` — the size of the datagram.
* `decryptObf_roundTrip` — the statement over a session manager.
-/

import ChameleonPQ.Crypto.Transparent
import ChameleonPQ.Session.Session

namespace ChameleonPQ

open Library

namespace Session

variable {prims : Primitives}

/-! ### Opening what the other end sealed -/

/-- The sealed datagram is a header around an AEAD ciphertext of the packed frame. -/
theorem sealObfCore_ok {session : Session} {counter : Nat} {innerType : UInt8} {plaintext : Bytes}
    {policy : Obf.PadPolicy} {noise : Nat → UInt8} {datagram : Bytes}
    (success : session.sealObfCore prims counter innerType plaintext policy noise = .ok datagram) :
    ∃ ct, session.sealWithCounter prims counter
        (Obf.packInner innerType plaintext policy (Obf.maxFramed session.algo.tagLen) noise) = .ok ct ∧
      datagram = Obf.sealWire prims session.txObfKey session.sessionId counter ct := by
  simp only [sealObfCore] at success
  split at success
  · cases success
  · rename_i ct sealed
    cases success
    exact ⟨ct, sealed, rfl⟩

/-- A ciphertext is at least one tag long, so it carries the header sample. -/
theorem sampleLen_le {session : Session} (correct : prims.AeadCorrect)
    (aeadAlgo : session.txAead.algo = session.algo) {counter : Nat} {plaintext ct : Bytes}
    (sealed : session.sealWithCounter prims counter plaintext = .ok ct) :
    Obf.sampleLen ≤ ct.length := by
  have tag : Obf.sampleLen ≤ session.algo.tagLen := by cases session.algo <;> decide
  rw [length_sealWithCounter correct aeadAlgo sealed]
  exact tag.trans (Nat.le_add_left _ _)

/-- The opener recovers the header of a sealed datagram. -/
theorem unmask_sealed {sealer opener : Session} (correct : prims.AeadCorrect)
    (opens : Opens sealer opener) {counter : Nat} (small : counter < 2 ^ 64) {plaintext ct : Bytes}
    (sealed : sealer.sealWithCounter prims counter plaintext = .ok ct) :
    Obf.unmask prims opener.rxObfKey
        (Obf.sealWire prims sealer.txObfKey sealer.sessionId counter ct) =
      some ⟨Obf.wireTypeData, sealer.sessionId, counter⟩ := by
  rw [opens.obfKey]
  exact Obf.unmask_sealWire _ _ _ _ (sampleLen_le correct opens.aeadAlgo sealed) small

/-- A ciphertext decrypts at the other end, and its counter is committed. -/
theorem decrypt_sealed {sealer opener : Session} (correct : prims.AeadCorrect)
    (opens : Opens sealer opener) {counter : Nat} (fresh : opener.replay.check counter = .ok ())
    {plaintext ct : Bytes} (sealed : sealer.sealWithCounter prims counter plaintext = .ok ct) :
    opener.decrypt prims counter ct =
      (.ok plaintext, { opener with replay := opener.replay.commit counter }) := by
  simp only [decrypt, checkReplay, recheckCommit, fresh, opens.openCiphertext correct sealed]

/-- **A sealed datagram opens at the other end**, to the same inner type and plaintext, while the
window has neither seen nor passed its counter. -/
theorem tryOpenObf_sealed {sealer opener : Session} (correct : prims.AeadCorrect)
    (opens : Opens sealer opener) {counter : Nat} (small : counter < 2 ^ 64)
    (fresh : opener.replay.check counter = .ok ()) {frameType : FrameType} {plaintext : Bytes}
    (short : plaintext.length ≤ 65535) {policy : Obf.PadPolicy} {noise : Nat → UInt8}
    {datagram : Bytes}
    (success : sealer.sealObfCore prims counter frameType.asU8 plaintext policy noise =
      .ok datagram) :
    opener.tryOpenObf prims datagram =
      (.ok (some (frameType, plaintext)),
        { opener with replay := opener.replay.commit counter }) := by
  obtain ⟨ct, sealed, rfl⟩ := sealObfCore_ok success
  have decrypted := decrypt_sealed correct opens fresh sealed
  have sameId : ¬ sealer.sessionId ≠ opener.sessionId := not_not.mpr opens.sessionId.symm
  unfold tryOpenObf
  rw [unmask_sealed correct opens small sealed]
  simp only [if_neg sameId, Obf.ctSlice_sealWire, decrypted,
    Obf.unpackInner_packInner _ _ _ _ short, FrameType.fromU8_asU8]

/-! ### Sessions that refuse a datagram -/

/-- The session can never open the datagram again: it is not addressed to it, or its counter was
seen, or its ciphertext does not authenticate. -/
def Refuses (prims : Primitives) (datagram : Bytes) (session : Session) : Prop :=
  ∀ header, Obf.unmask prims session.rxObfKey datagram = some header →
    header.sessionId = session.sessionId →
      (∃ seen, session.replay.Represents seen ∧ header.counter ∈ seen) ∨
        ∀ plain, session.openCiphertext prims header.counter (Obf.ctSlice datagram) ≠ .ok plain

/-- What decrypting can do to a session: nothing, or one commit. -/
theorem decrypt_session (prims : Primitives) (session : Session) (counter : Nat) (ciphertext : Bytes) :
    (session.decrypt prims counter ciphertext).2 = session ∨
      (session.decrypt prims counter ciphertext).2 =
        { session with replay := session.replay.commit counter } := by
  simp only [decrypt, checkReplay, recheckCommit]
  cases session.replay.check counter with
  | error e => exact Or.inl rfl
  | ok _ =>
    cases session.openCiphertext prims counter ciphertext with
    | error e => exact Or.inl rfl
    | ok plain => exact Or.inr rfl

/-- What a trial decryption can do to a session: nothing, or one commit. -/
theorem tryOpenObf_session (prims : Primitives) (session : Session) (datagram : Bytes) :
    (session.tryOpenObf prims datagram).2 = session ∨
      ∃ counter, (session.tryOpenObf prims datagram).2 =
        { session with replay := session.replay.commit counter } := by
  unfold tryOpenObf
  cases Obf.unmask prims session.rxObfKey datagram with
  | none => exact Or.inl rfl
  | some header =>
    by_cases other : header.sessionId ≠ session.sessionId
    · refine Or.inl ?_
      simp only [if_pos other]
    · have kept := decrypt_session prims session header.counter (Obf.ctSlice datagram)
      simp only [if_neg other]
      split
      · rename_i decrypted
        rw [decrypted] at kept
        exact kept.imp id fun committed => ⟨_, committed⟩
      · rename_i decrypted
        rw [decrypted] at kept
        have same : ∀ result : Result (Option (FrameType × Bytes)) × Session,
            result.2 = _ → result.2 = session ∨ ∃ counter, result.2 =
              { session with replay := session.replay.commit counter } :=
          fun result after => after ▸ kept.imp id fun committed => ⟨_, committed⟩
        refine same _ ?_
        repeat' split
        all_goals rfl

/-- A refusing session opens nothing and stays as it is. -/
theorem Refuses.tryOpenObf {datagram : Bytes} {session : Session}
    (refuses : Refuses prims datagram session) :
    session.tryOpenObf prims datagram = (.ok none, session) := by
  unfold Session.tryOpenObf
  cases recovered : Obf.unmask prims session.rxObfKey datagram with
  | none => rfl
  | some header =>
    by_cases other : header.sessionId ≠ session.sessionId
    · simp only [if_pos other]
    · have failed : ∃ e, session.decrypt prims header.counter (Obf.ctSlice datagram) =
          (.error e, session) := by
        rcases refuses header recovered (not_not.mp other) with ⟨seen, rep, member⟩ | closed
        · have rejected : session.replay.check header.counter ≠ .ok () := fun accepted =>
            ((ReplayWindow.check_eq_ok_iff rep _).mp accepted).1 member
          refine ⟨.decryptionFailed, ?_⟩
          simp only [decrypt, checkReplay, ReplayWindow.check_eq_error rejected]
        · simp only [decrypt, checkReplay]
          cases session.replay.check header.counter with
          | error e => exact ⟨e, rfl⟩
          | ok _ =>
            cases opened : session.openCiphertext prims header.counter (Obf.ctSlice datagram) with
            | error e => exact ⟨e, rfl⟩
            | ok plain => exact absurd opened (closed plain)
      obtain ⟨e, decrypted⟩ := failed
      simp only [if_neg other, decrypted]

/-- A commit keeps a refusing session refusing: the window only grows. -/
theorem Refuses.commit {datagram : Bytes} {session : Session}
    (refuses : Refuses prims datagram session) (counter : Nat) :
    Refuses prims datagram { session with replay := session.replay.commit counter } := by
  intro header recovered addressed
  rcases refuses header recovered addressed with ⟨seen, rep, member⟩ | closed
  · exact Or.inl ⟨_, ReplayWindow.commit_represents rep counter, Set.mem_insert_of_mem _ member⟩
  · exact Or.inr closed

/-- **A refusing session stays refusing**, whatever else it is asked to open. -/
theorem refuses_tryOpenObf {datagram : Bytes} {session : Session}
    (refuses : Refuses prims datagram session) (other : Bytes) :
    Refuses prims datagram (session.tryOpenObf prims other).2 := by
  rcases tryOpenObf_session prims session other with same | ⟨counter, committed⟩
  · rwa [same]
  · rw [committed]
    exact refuses.commit counter

/-- Once the counter of a sealed datagram is committed, the opener refuses the datagram. -/
theorem refuses_of_committed {sealer opener : Session} (correct : prims.AeadCorrect)
    (opens : Opens sealer opener) {counter : Nat} (small : counter < 2 ^ 64) {seen : Set Nat}
    (rep : opener.replay.Represents seen) (member : counter ∈ seen) {plaintext ct : Bytes}
    (sealed : sealer.sealWithCounter prims counter plaintext = .ok ct) :
    Refuses prims (Obf.sealWire prims sealer.txObfKey sealer.sessionId counter ct) opener := by
  intro header recovered _
  rw [unmask_sealed correct opens small sealed] at recovered
  obtain rfl := Option.some.inj recovered
  exact Or.inl ⟨seen, rep, member⟩

/-! ### Sizes -/

/-- A sealed datagram is the header, the padded frame and one tag. -/
theorem length_sealed {session : Session} (correct : prims.AeadCorrect)
    (aeadAlgo : session.txAead.algo = session.algo) {counter : Nat} {innerType : UInt8}
    {plaintext : Bytes} {policy : Obf.PadPolicy} {noise : Nat → UInt8} {datagram : Bytes}
    (success : session.sealObfCore prims counter innerType plaintext policy noise = .ok datagram) :
    datagram.length = headerLen + (Obf.padTarget (Obf.innerHeaderLen + plaintext.length) policy
      (Obf.maxFramed session.algo.tagLen) + session.algo.tagLen) := by
  obtain ⟨ct, sealed, rfl⟩ := sealObfCore_ok success
  rw [Obf.length_sealWire, length_sealWithCounter correct aeadAlgo sealed, Obf.length_packInner]

/-- The header, the largest framed length and the tag fill the MTU exactly. -/
theorem mtu_split (algo : AeadAlgo) :
    headerLen + (Obf.maxFramed algo.tagLen + algo.tagLen) = Obf.mtuWire := by
  cases algo <;> rfl

/-- A session of a given role as it stands after some traffic: any transmit counter, any history of
commits. -/
def established (prims : Primitives) (sessionId : UInt32) (shared : Octets 32) (isInitiator : Bool)
    (algo : AeadAlgo) (txCounter : Nat) (history : List Nat) : Session :=
  { fromHandshakeWithAlgo prims sessionId shared isInitiator algo with
    txCounter, replay := ReplayWindow.afterHistory history }

theorem opens_established (prims : Primitives) (sessionId : UInt32) (shared : Octets 32)
    (isInitiator : Bool) (algo : AeadAlgo) (sent received : Nat) (sealerHistory openerHistory : List Nat) :
    Opens (established prims sessionId shared isInitiator algo sent sealerHistory)
      (established prims sessionId shared (!isInitiator) algo received openerHistory) :=
  (opens_fromHandshake prims sessionId shared isInitiator algo).of_static rfl rfl

end Session

/-! ### Over a session manager -/

/-- What can happen to a session manager between two datagrams. -/
inductive ManagerEvent where
  /-- Some datagram is opened or dropped. -/
  | receive (datagram : Bytes)
  /-- Counters are reserved on the current session. -/
  | reserve (n : Nat)
  | install (newSession : Session)
  | retire

namespace SessionManager

open Session

variable (prims : Primitives)

/-- One event. -/
def afterEvent (manager : SessionManager Session) : ManagerEvent → SessionManager Session
  | .receive datagram => (manager.decryptObf prims datagram).2
  | .reserve n => { manager with current := (manager.current.reserveCounters n).2 }
  | .install newSession => manager.installNewSession newSession
  | .retire => manager.retirePrevious

/-- A whole sequence of events. -/
def afterEvents (manager : SessionManager Session) (events : List ManagerEvent) :
    SessionManager Session := events.foldl (afterEvent prims) manager

/-- No slot opens the datagram. -/
structure RefusedByAll (datagram : Bytes) (manager : SessionManager Session) : Prop where
  current : Refuses prims datagram manager.current
  previous : ∀ previous, manager.previous = some previous → Refuses prims datagram previous

/-- The session sits in one slot and the other slot does not open the datagram. -/
def HeldIn (datagram : Bytes) (opener : Session) (manager : SessionManager Session) : Prop :=
  (manager.current = opener ∧
      ∀ previous, manager.previous = some previous → Refuses prims datagram previous) ∨
    (Refuses prims datagram manager.current ∧ manager.previous = some opener)

variable {prims}

/-- A datagram that every slot refuses is an error and changes nothing. -/
theorem RefusedByAll.decryptObf {datagram : Bytes} {manager : SessionManager Session}
    (refused : RefusedByAll prims datagram manager) :
    manager.decryptObf prims datagram = (.error .decryptionFailed, manager) := by
  obtain ⟨current, previous, _, _, _⟩ := manager
  have first : Refuses prims datagram current := refused.current
  cases previous with
  | none => simp only [SessionManager.decryptObf, first.tryOpenObf]
  | some previous =>
    have second : Refuses prims datagram previous := refused.previous previous rfl
    simp only [SessionManager.decryptObf, first.tryOpenObf, second.tryOpenObf]

/-- What decrypting does to the slots: each is left alone or tried once. -/
theorem decryptObf_slots (prims : Primitives) (manager : SessionManager Session)
    (datagram : Bytes) :
    (manager.decryptObf prims datagram).2.current = (manager.current.tryOpenObf prims datagram).2 ∧
      ∀ after, (manager.decryptObf prims datagram).2.previous = some after →
        ∃ before, manager.previous = some before ∧
          (after = before ∨ after = (before.tryOpenObf prims datagram).2) := by
  unfold decryptObf
  split
  · rename_i tried
    exact ⟨by rw [tried], fun last same => ⟨last, same, Or.inl rfl⟩⟩
  · rename_i tried
    exact ⟨by rw [tried], fun last same => ⟨last, same, Or.inl rfl⟩⟩
  · rename_i tried
    split
    · exact ⟨by rw [tried], fun last same => ⟨last, same, Or.inl rfl⟩⟩
    · rename_i previous slot
      have second : ∀ last, some (previous.tryOpenObf prims datagram).2 = some last →
          ∃ before, manager.previous = some before ∧
            (last = before ∨ last = (before.tryOpenObf prims datagram).2) :=
        fun last same => ⟨previous, slot, Or.inr (Option.some.inj same).symm⟩
      split
      all_goals
        rename_i after
        rw [after] at second
        exact ⟨by rw [tried], second⟩

/-- **Every event keeps a refused datagram refused**, if the sessions it installs refuse it. -/
theorem refusedByAll_step {datagram : Bytes} {manager : SessionManager Session}
    (refused : RefusedByAll prims datagram manager) (event : ManagerEvent)
    (installs : ∀ newSession, event = .install newSession → Refuses prims datagram newSession) :
    RefusedByAll prims datagram (manager.afterEvent prims event) := by
  cases event with
  | receive other =>
    obtain ⟨current, previous⟩ := decryptObf_slots prims manager other
    refine ⟨?_, fun after same => ?_⟩
    · show Refuses prims datagram (manager.decryptObf prims other).2.current
      rw [current]
      exact refuses_tryOpenObf refused.current other
    · obtain ⟨before, slot, rfl | tried⟩ := previous after same
      · exact refused.previous _ slot
      · rw [tried]
        exact refuses_tryOpenObf (refused.previous _ slot) other
  | reserve n =>
    refine ⟨?_, refused.previous⟩
    show Refuses prims datagram (manager.current.reserveCounters n).2
    rw [reserveCounters_session]
    exact refused.current
  | install newSession =>
    refine ⟨installs newSession rfl, fun previous same => ?_⟩
    rw [← Option.some.inj same]
    exact refused.current
  | retire => exact ⟨refused.current, fun previous same => by cases same⟩

/-- **A refused datagram stays refused** over every sequence of events. -/
theorem refusedByAll_events {datagram : Bytes} {manager : SessionManager Session}
    (refused : RefusedByAll prims datagram manager) (events : List ManagerEvent)
    (installs : ∀ newSession, .install newSession ∈ events → Refuses prims datagram newSession) :
    RefusedByAll prims datagram (manager.afterEvents prims events) := by
  induction events generalizing manager with
  | nil => exact refused
  | cons event rest ih =>
    refine ih (refusedByAll_step refused event fun newSession same => ?_) fun newSession member => ?_
    · exact installs newSession (same ▸ List.mem_cons_self)
    · exact installs newSession (List.mem_cons_of_mem _ member)

/-- **The obfuscated data path round trip.** Two sessions of one secret and one id in opposite roles:
the datagram one seals below its rekey limit is opened by the other's session manager, from whichever
slot, to exactly the sealed type and plaintext while the window has neither seen nor passed its
counter; every later time it is an error; and the datagram fits the MTU whenever the frame does, with
one length under the `Full` policy. -/
theorem decryptObf_roundTrip (correct : prims.AeadCorrect) {sessionId : UInt32} {shared : Octets 32}
    {isInitiator : Bool} {algo : AeadAlgo} {sent received : Nat}
    {sealerHistory openerHistory : List Nat} {counter : Nat} {frameType : FrameType}
    {plaintext : Bytes} {policy : Obf.PadPolicy} {noise : Nat → UInt8} {datagram : Bytes}
    {manager : SessionManager Session}
    (inside : counter <
      (established prims sessionId shared isInitiator algo sent sealerHistory).rekeyAt)
    (fresh : (ReplayWindow.afterHistory openerHistory).check counter = .ok ())
    (short : plaintext.length ≤ 65535)
    (success : (established prims sessionId shared isInitiator algo sent
      sealerHistory).sealObfWithCounter prims counter frameType.asU8 plaintext policy noise =
        .ok datagram)
    (held : HeldIn prims datagram
      (established prims sessionId shared (!isInitiator) algo received openerHistory) manager) :
    (manager.decryptObf prims datagram).1 = .ok (frameType, plaintext) ∧
    (∀ events : List ManagerEvent,
      (∀ newSession, .install newSession ∈ events → Refuses prims datagram newSession) →
        ∃ e, (((manager.decryptObf prims datagram).2.afterEvents prims events).decryptObf prims
          datagram).1 = .error e) ∧
    (3 + plaintext.length ≤ Obf.maxFramed algo.tagLen → datagram.length ≤ 1280 ∧
      (policy = .full → datagram.length = 1280)) := by
  have below : counter < 2 ^ 48 := inside
  have small : counter < 2 ^ 64 := below.trans (by decide)
  have opens := opens_established prims sessionId shared isInitiator algo sent received
    sealerHistory openerHistory
  have opened := tryOpenObf_sealed correct opens small fresh short success
  -- after the first time the counter is committed, so every slot refuses
  have committed : Refuses prims datagram
      { established prims sessionId shared (!isInitiator) algo received openerHistory with
        replay := (ReplayWindow.afterHistory openerHistory).commit counter } := by
    obtain ⟨ct, sealed, rfl⟩ := sealObfCore_ok success
    exact refuses_of_committed correct (opens.of_static rfl rfl) small
      (ReplayWindow.commit_represents (ReplayWindow.afterHistory_represents openerHistory) counter)
      (Set.mem_insert _ _) sealed
  have first : (manager.decryptObf prims datagram).1 = .ok (frameType, plaintext) ∧
      RefusedByAll prims datagram (manager.decryptObf prims datagram).2 := by
    unfold SessionManager.decryptObf
    rcases held with ⟨current, others⟩ | ⟨refuses, previous⟩
    · rw [current, opened]
      exact ⟨rfl, committed, others⟩
    · rw [refuses.tryOpenObf, previous]
      simp only [opened]
      refine ⟨trivial, refuses, fun after same => ?_⟩
      rw [← Option.some.inj same]
      exact committed
  refine ⟨first.1, fun events installs => ?_, fun fits => ?_⟩
  · exact ⟨_, congrArg Prod.fst (refusedByAll_events first.2 events installs).decryptObf⟩
  · have length := length_sealed correct opens.aeadAlgo success
    have whole := mtu_split algo
    refine ⟨?_, fun full => ?_⟩
    · have bound := Obf.padTarget_le policy fits
      calc datagram.length = _ := length
        _ ≤ headerLen + (Obf.maxFramed algo.tagLen + algo.tagLen) :=
          Nat.add_le_add_left (Nat.add_le_add_right bound _) _
        _ = 1280 := whole
    · subst full
      rw [length]
      show headerLen + (Obf.padTarget (3 + plaintext.length) .full _ + algo.tagLen) = 1280
      rw [show (established prims sessionId shared isInitiator algo sent sealerHistory).algo = algo
        from rfl, Obf.padTarget_full fits]
      exact whole

/-- A datagram of the initiator's side of a sample session. -/
def sampleDatagram : Bytes :=
  ((established .transparent 7 (.zero 32) true .aegis256X2 0 []).sealObfWithCounter .transparent 3
    FrameType.data.asU8 [1, 2, 3] .off fun _ => 0).toOption.getD []

theorem decryptObf_roundTrip_sample :
    ((SessionManager.new (established .transparent 7 (.zero 32) false .aegis256X2 0 [1, 5])
      10000).decryptObf .transparent sampleDatagram).1 = .ok (.data, [1, 2, 3]) := by
  have fresh : (ReplayWindow.afterHistory [1, 5]).check 3 = .ok () := by decide +kernel
  have success : (established .transparent 7 (.zero 32) true .aegis256X2 0 []).sealObfWithCounter
      .transparent 3 FrameType.data.asU8 [1, 2, 3] .off (fun _ => 0) = .ok sampleDatagram := by
    decide +kernel
  have held : HeldIn .transparent sampleDatagram
      (established .transparent 7 (.zero 32) (!true) .aegis256X2 0 [1, 5])
      (.new (established .transparent 7 (.zero 32) false .aegis256X2 0 [1, 5]) 10000) :=
    Or.inl ⟨rfl, fun _ absent => by cases absent⟩
  exact (decryptObf_roundTrip Primitives.transparent_aeadCorrect (by decide) fresh (by decide)
    success held).1

end SessionManager

end ChameleonPQ
