/-
**What the slots of a session manager opened (`session.rs`, `replay.rs`).**

* `SealedFrame` — what the peer handed to its AEAD; `Session.Unforged` — the AEAD opens nothing else.
* `Session.Guards` — the window of a session has seen every frame that was opened under its key;
  `Session.Guards.unseen` is what it lets through.
* `Booked` — no frame was opened twice, and the slots guard what was opened; commits, installs and emptied
  slots keep the books.
* `Booked.decryptObf_ok`, `Booked.decrypt_ok` — what the slots open was not opened before.
-/

import ChameleonPQ.Session.Authenticity

namespace ChameleonPQ

open Library

/-- A frame as the peer sealed it: the key, the counter, and the octets it handed to its AEAD. -/
structure SealedFrame where
  key : Octets 32
  counter : Nat
  framed : Bytes
  deriving DecidableEq

namespace SealedFrame

/-- What no two seals of the peer share. -/
def token (frame : SealedFrame) : Octets 32 × Nat := (frame.key, frame.counter)

/-- The data of a packed frame. -/
def data (frame : SealedFrame) : Option Bytes :=
  match Obf.unpackInner frame.framed with
  | .ok (innerType, plain) => if innerType = FrameType.data.asU8 then some plain else none
  | .error _ => none

/-- The data of a frame that the obfuscated seal packed. -/
theorem data_packInner (key : Octets 32) (counter : Nat) {plain : Bytes} (policy : Obf.PadPolicy)
    (maxFramed : Nat) (noise : Nat → UInt8) (short : plain.length ≤ 65535) :
    data ⟨key, counter, Obf.packInner FrameType.data.asU8 plain policy maxFramed noise⟩ = some plain := by
  rw [data, Obf.unpackInner_packInner _ _ _ _ short]
  exact if_pos rfl

end SealedFrame

/-! ### What a session has seen -/

namespace Session

variable {prims : Primitives} {session after : Session}

/-- What a ciphertext opens to is among what the peer sealed. -/
def Unforged (prims : Primitives) (sent : List SealedFrame) (session : Session) (counter : Nat) (ct : Bytes) :
    Prop := ∀ framed, session.openCiphertext prims counter ct = .ok framed →
  ⟨session.rxAead.key, counter, framed⟩ ∈ sent

/-- The window has seen every frame that was opened under the session's key. -/
def Guards (taken : List SealedFrame) (session : Session) : Prop :=
  ∃ seen, session.replay.Represents seen ∧
    ∀ frame ∈ taken, frame.key = session.rxAead.key → frame.counter ∈ seen

/-- A session that opened nothing guards what other keys opened. -/
theorem guards_new {taken : List SealedFrame} (fresh : session.replay = .new)
    (others : ∀ frame ∈ taken, frame.key ≠ session.rxAead.key) : session.Guards taken :=
  ⟨∅, fresh ▸ ReplayWindow.new_represents, fun frame member same => absurd same (others frame member)⟩

/-- A commit notes the frame that was opened. -/
theorem Guards.cons {taken : List SealedFrame} (guards : session.Guards taken) (frame : SealedFrame) :
    ({ session with replay := session.replay.commit frame.counter } : Session).Guards (frame :: taken) := by
  obtain ⟨seen, rep, all⟩ := guards
  refine ⟨_, ReplayWindow.commit_represents rep frame.counter, fun other member same => ?_⟩
  rcases List.mem_cons.mp member with rfl | old
  · exact Set.mem_insert _ _
  · exact Set.mem_insert_of_mem _ (all other old same)

/-- What another key opened is none of the session's concern. -/
theorem Guards.cons_other {taken : List SealedFrame} {frame : SealedFrame} (guards : session.Guards taken)
    (other : frame.key ≠ session.rxAead.key) : session.Guards (frame :: taken) := by
  obtain ⟨seen, rep, all⟩ := guards
  refine ⟨seen, rep, fun frame' member same => ?_⟩
  rcases List.mem_cons.mp member with rfl | old
  · exact absurd same other
  · exact all frame' old same

/-- **The window lets nothing through twice.** -/
theorem Guards.unseen {taken : List SealedFrame} {frame : SealedFrame} (guards : session.Guards taken)
    (key : frame.key = session.rxAead.key) (passes : session.replay.check frame.counter = .ok ()) :
    frame.token ∉ taken.map SealedFrame.token := by
  obtain ⟨seen, rep, all⟩ := guards
  intro member
  obtain ⟨old, among, same⟩ := List.mem_map.mp member
  obtain ⟨sameKey, sameCounter⟩ := Prod.mk.inj same
  have unseen := ((ReplayWindow.check_eq_ok_iff rep frame.counter).mp passes).1
  exact unseen (sameCounter ▸ all old among (sameKey.trans key))

/-- The keys of the session stay, and its window does or takes one commit. -/
structure Committed (session after : Session) : Prop where
  key : after.rxAead = session.rxAead
  window : after.replay = session.replay ∨ ∃ counter, after.replay = session.replay.commit counter

theorem Committed.refl (session : Session) : session.Committed session := ⟨rfl, .inl rfl⟩

theorem Committed.guards {taken : List SealedFrame} (committed : session.Committed after)
    (guards : session.Guards taken) : after.Guards taken := by
  obtain ⟨key, same | ⟨counter, window⟩⟩ := committed
  · unfold Guards
    rw [key, same]
    exact guards
  · obtain ⟨seen, rep, all⟩ := guards
    unfold Guards
    rw [key, window]
    exact ⟨_, ReplayWindow.commit_represents rep counter,
      fun frame member same => Set.mem_insert_of_mem _ (all frame member same)⟩

theorem committed_tryOpenObf (prims : Primitives) (session : Session) (raw : Bytes) :
    session.Committed (session.tryOpenObf prims raw).2 := by
  rcases tryOpenObf_session prims session raw with same | ⟨counter, committed⟩
  · rw [same]
    exact .refl session
  · rw [committed]
    exact ⟨rfl, .inr ⟨counter, rfl⟩⟩

theorem committed_decrypt (prims : Primitives) (session : Session) (counter : Nat) (ct : Bytes) :
    session.Committed (session.decrypt prims counter ct).2 := by
  rcases decrypt_session prims session counter ct with same | committed
  · rw [same]
    exact .refl session
  · rw [committed]
    exact ⟨rfl, .inr ⟨counter, rfl⟩⟩

theorem committed_reserveCounters (session : Session) (n : Nat) :
    session.Committed (session.reserveCounters n).2 := by
  rw [reserveCounters_session]
  exact ⟨rfl, .inl rfl⟩

/-- **The session opens a frame**: the window lets its counter through, and notes it. -/
structure Opening (prims : Primitives) (session after : Session) (counter : Nat) (ct framed : Bytes) : Prop where
  passes : session.replay.check counter = .ok ()
  opens : session.openCiphertext prims counter ct = .ok framed
  after : after = { session with replay := session.replay.commit counter }

theorem opening_of_decrypt {counter : Nat} {ct framed : Bytes}
    (decrypted : session.decrypt prims counter ct = (.ok framed, after)) :
    Opening prims session after counter ct framed := by
  unfold decrypt checkReplay at decrypted
  split at decrypted
  · cases decrypted
  rename_i passes
  split at decrypted
  · cases decrypted
  rename_i opens
  unfold recheckCommit at decrypted
  rw [passes] at decrypted
  obtain ⟨same, rfl⟩ := Prod.mk.inj decrypted
  exact ⟨passes, opens.trans same, rfl⟩

/-- The frame of a datagram that a session opens. -/
theorem opening_of_tryOpenObf {datagram plain : Bytes} {frameType : FrameType}
    (opened : session.tryOpenObf prims datagram = (.ok (some (frameType, plain)), after)) :
    ∃ header framed, Obf.unmask prims session.rxObfKey datagram = some header ∧
      Opening prims session after header.counter (Obf.ctSlice datagram) framed ∧
        Obf.unpackInner framed = .ok (frameType.asU8, plain) := by
  unfold tryOpenObf at opened
  split at opened
  · cases opened
  rename_i header recovered
  split at opened
  · cases opened
  split at opened
  · cases opened
  rename_i framed later decrypted
  split at opened
  · cases opened
  rename_i innerType content unpacked
  split at opened
  · cases opened
  rename_i known
  obtain ⟨same, rfl⟩ := Prod.mk.inj opened
  obtain ⟨rfl, rfl⟩ := Prod.mk.inj (Option.some.inj (Except.ok.inj same))
  exact ⟨header, framed, recovered, opening_of_decrypt decrypted, FrameType.asU8_of_fromU8 known ▸ unpacked⟩

end Session

/-! ### What the slots have seen -/

/-- **The books are kept**: no frame was opened twice, every slot guards the frames its key opened, and the
slots have different keys among those the tunnel has used. -/
structure Booked (keys : List (Octets 32)) (taken : List SealedFrame) (sessions : SessionManager Session) :
    Prop where
  distinct : (taken.map SealedFrame.token).Nodup
  known : ∀ frame ∈ taken, frame.key ∈ keys
  current : sessions.current.Guards taken
  currentKey : sessions.current.rxAead.key ∈ keys
  previous : ∀ previous, sessions.previous = some previous → previous.Guards taken
  previousKey : ∀ previous, sessions.previous = some previous →
    previous.rxAead.key ∈ keys ∧ previous.rxAead.key ≠ sessions.current.rxAead.key

namespace Booked

open Session

variable {prims : Primitives} {keys : List (Octets 32)} {taken : List SealedFrame}
  {sessions after : SessionManager Session}

/-- The books stay when the slots are committed to, or emptied. -/
theorem of_committed (booked : Booked keys taken sessions) (current : sessions.current.Committed after.current)
    (previous : ∀ last, after.previous = some last →
      ∃ before, sessions.previous = some before ∧ before.Committed last) : Booked keys taken after where
  distinct := booked.distinct
  known := booked.known
  current := current.guards booked.current
  currentKey := current.key ▸ booked.currentKey
  previous := fun last slot => by
    obtain ⟨before, held, committed⟩ := previous last slot
    exact committed.guards (booked.previous before held)
  previousKey := fun last slot => by
    obtain ⟨before, held, committed⟩ := previous last slot
    rw [committed.key, current.key]
    exact booked.previousKey before held

/-- The same slots have the same books. -/
theorem of_same (booked : Booked keys taken sessions) (current : after.current = sessions.current)
    (previous : after.previous = sessions.previous) : Booked keys taken after :=
  booked.of_committed (current ▸ .refl _) fun last slot => ⟨last, previous ▸ slot, .refl last⟩

/-- More keys may be known. -/
theorem more (booked : Booked keys taken sessions) (key : Octets 32) : Booked (key :: keys) taken sessions where
  distinct := booked.distinct
  known := fun frame member => List.mem_cons_of_mem _ (booked.known frame member)
  current := booked.current
  currentKey := List.mem_cons_of_mem _ booked.currentKey
  previous := booked.previous
  previousKey := fun previous slot =>
    ⟨List.mem_cons_of_mem _ (booked.previousKey previous slot).1, (booked.previousKey previous slot).2⟩

/-- **A new session opens new books**, when its key is new. -/
theorem install (booked : Booked keys taken sessions) {session : Session} (unused : session.replay = .new)
    (fresh : session.rxAead.key ∉ keys) :
    Booked (session.rxAead.key :: keys) taken (sessions.installNewSession session) where
  distinct := booked.distinct
  known := fun frame member => List.mem_cons_of_mem _ (booked.known frame member)
  current := guards_new unused fun frame member same => fresh (same ▸ booked.known frame member)
  currentKey := List.mem_cons_self
  previous := fun previous slot => Option.some.inj slot ▸ booked.current
  previousKey := fun previous slot => by
    obtain rfl := Option.some.inj slot
    exact ⟨List.mem_cons_of_mem _ booked.currentKey, fun same => fresh (same ▸ booked.currentKey)⟩

section Opened

variable {counter : Nat} {ct framed : Bytes}

/-- The current session opens a frame. -/
theorem open_current (booked : Booked keys taken sessions) {current : Session}
    (opening : Opening prims sessions.current current counter ct framed) :
    Booked keys (⟨sessions.current.rxAead.key, counter, framed⟩ :: taken) { sessions with current } := by
  obtain ⟨passes, -, rfl⟩ := opening
  refine ⟨List.nodup_cons.mpr ⟨booked.current.unseen rfl passes, booked.distinct⟩, ?_, ?_, booked.currentKey,
    fun previous slot => ?_, booked.previousKey⟩
  · exact List.forall_mem_cons.mpr ⟨booked.currentKey, booked.known⟩
  · exact booked.current.cons ⟨_, counter, framed⟩
  · exact (booked.previous previous slot).cons_other fun same => (booked.previousKey previous slot).2 same.symm

/-- The previous session opens a frame. -/
theorem open_previous (booked : Booked keys taken sessions) {current before last : Session}
    (committed : sessions.current.Committed current) (slot : sessions.previous = some before)
    (opening : Opening prims before last counter ct framed) :
    Booked keys (⟨before.rxAead.key, counter, framed⟩ :: taken)
      { sessions with current, previous := some last } := by
  obtain ⟨passes, -, rfl⟩ := opening
  obtain ⟨keyKnown, keysDiffer⟩ := booked.previousKey before slot
  refine ⟨List.nodup_cons.mpr ⟨(booked.previous before slot).unseen rfl passes, booked.distinct⟩, ?_, ?_, ?_,
    fun previous here => ?_, fun previous here => ?_⟩
  · exact List.forall_mem_cons.mpr ⟨keyKnown, booked.known⟩
  · refine (committed.guards booked.current).cons_other ?_
    show before.rxAead.key ≠ current.rxAead.key
    rw [committed.key]
    exact keysDiffer
  · show current.rxAead.key ∈ keys
    rw [committed.key]
    exact booked.currentKey
  · obtain rfl := Option.some.inj here
    exact (booked.previous before slot).cons ⟨_, counter, framed⟩
  · obtain rfl := Option.some.inj here
    show before.rxAead.key ∈ keys ∧ before.rxAead.key ≠ current.rxAead.key
    rw [committed.key]
    exact ⟨keyKnown, keysDiffer⟩

end Opened

/-- Trial decryption keeps the books. -/
theorem decryptObf (booked : Booked keys taken sessions) (prims : Primitives) (raw : Bytes) :
    Booked keys taken (sessions.decryptObf prims raw).2 := by
  obtain ⟨current, previous⟩ := SessionManager.decryptObf_slots prims sessions raw
  refine booked.of_committed ?_ fun last slot => ?_
  · rw [current]
    exact committed_tryOpenObf prims sessions.current raw
  · obtain ⟨before, held, rfl | tried⟩ := previous last slot
    · exact ⟨_, held, .refl _⟩
    · exact ⟨before, held, tried ▸ committed_tryOpenObf prims before raw⟩

/-- **What trial decryption opens was not opened before**, and is the peer's where the slots open nothing
else. -/
theorem decryptObf_ok (booked : Booked keys taken sessions) {sent : List SealedFrame} {raw plain : Bytes}
    {frameType : FrameType}
    (unforged : ∀ session, sessions.InSlot session → ∀ header,
      Obf.unmask prims session.rxObfKey raw = some header →
        session.Unforged prims sent header.counter (Obf.ctSlice raw))
    (opened : sessions.decryptObf prims raw = (.ok (frameType, plain), after)) :
    ∃ frame ∈ sent, Obf.unpackInner frame.framed = .ok (frameType.asU8, plain) ∧
      Booked keys (frame :: taken) after := by
  unfold SessionManager.decryptObf at opened
  split at opened
  · cases opened
  · rename_i opened' current tried
    obtain ⟨same, rfl⟩ := Prod.mk.inj opened
    obtain rfl := Except.ok.inj same
    obtain ⟨header, framed, recovered, opening, unpacked⟩ := opening_of_tryOpenObf tried
    exact ⟨_, unforged _ (.inl rfl) header recovered framed opening.opens, unpacked, booked.open_current opening⟩
  · rename_i current tried
    have committed : sessions.current.Committed current := by
      have kept := committed_tryOpenObf prims sessions.current raw
      rwa [tried] at kept
    split at opened
    · cases opened
    rename_i before slot
    split at opened
    · cases opened
    · rename_i opened' last tried'
      obtain ⟨same, rfl⟩ := Prod.mk.inj opened
      obtain rfl := Except.ok.inj same
      obtain ⟨header, framed, recovered, opening, unpacked⟩ := opening_of_tryOpenObf tried'
      exact ⟨_, unforged _ (.inr slot) header recovered framed opening.opens, unpacked,
        booked.open_previous committed slot opening⟩
    · cases opened

/-- So does decryption of a clear frame. -/
theorem decrypt (booked : Booked keys taken sessions) (prims : Primitives) (sessionId : UInt32) (counter : Nat)
    (ct : Bytes) : Booked keys taken (sessions.decrypt prims sessionId counter ct).2 := by
  unfold SessionManager.decrypt
  split
  · exact booked.of_committed (committed_decrypt prims _ counter ct) fun last slot => ⟨last, slot, .refl last⟩
  · split
    · exact booked
    rename_i before slot
    split
    · refine booked.of_committed (.refl _) fun last here => ⟨before, slot, ?_⟩
      rw [← Option.some.inj here]
      exact committed_decrypt prims before counter ct
    · exact booked

theorem decrypt_ok (booked : Booked keys taken sessions) {sent : List SealedFrame} {sessionId : UInt32}
    {counter : Nat} {ct plain : Bytes}
    (unforged : ∀ session, sessions.InSlot session → session.Unforged prims sent counter ct)
    (opened : sessions.decrypt prims sessionId counter ct = (.ok plain, after)) :
    ∃ frame ∈ sent, frame.framed = plain ∧ Booked keys (frame :: taken) after := by
  unfold SessionManager.decrypt at opened
  split at opened
  · rcases decrypted : sessions.current.decrypt prims counter ct with ⟨outcome, current⟩
    rw [decrypted] at opened
    obtain ⟨rfl, rfl⟩ := Prod.mk.inj opened
    have opening := opening_of_decrypt decrypted
    exact ⟨_, unforged _ (.inl rfl) _ opening.opens, rfl, booked.open_current opening⟩
  · split at opened
    · cases opened
    rename_i before slot
    split at opened
    · rcases decrypted : before.decrypt prims counter ct with ⟨outcome, last⟩
      rw [decrypted] at opened
      obtain ⟨rfl, rfl⟩ := Prod.mk.inj opened
      have opening := opening_of_decrypt decrypted
      exact ⟨_, unforged _ (.inr slot) _ opening.opens, rfl, booked.open_previous (.refl _) slot opening⟩
    · cases opened

end Booked

end ChameleonPQ
