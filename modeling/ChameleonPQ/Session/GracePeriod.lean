/-
**The grace period of a replaced session (`schedule_retire`).**

Every install of a session starts a timer that empties the previous slot when it fires, whatever is in it by
then. Installs come at any time, and a timer fires at its deadline or later.

* `Graced` — the session replaced last is in the previous slot until its grace period is over;
  `Graced.opens` — so it opens its authentic datagrams.
* `NotEarly` — no timer fires within the grace period of the last replacement.
* `graced_iff_notEarly` — the grace period is kept exactly in the runs in which none does;
  `early_retirement` — one in which the timer of an earlier replacement does.
* `graced_of_settled` — installs that wait for the timers before them.
-/

import ChameleonPQ.Library.Runs
import ChameleonPQ.Session.RoundTrip

namespace ChameleonPQ

open Library Library.Runs Session

/-- The delay of `schedule_retire`, in milliseconds. -/
def gracePeriod : Nat := 3000

/-- A manager and the timers that retire its previous session. -/
structure Retirement where
  manager : SessionManager Session
  now : Nat
  /-- Installs whose `schedule_retire` is still to come. -/
  unscheduled : Nat
  /-- The deadlines of the timers that run. -/
  timers : List Nat
  /-- The last replacement: its time, and the session that was replaced. -/
  replaced : Option (Nat × Session)

/-- What can happen next. -/
inductive RetirementEvent where
  | elapse (ms : Nat)
  | install (newSession : Session)
  | schedule
  | fire (index : Nat)
  /-- Some datagram is opened or dropped. -/
  | receive (datagram : Bytes)
  /-- Counters are reserved on the current session. -/
  | reserve (n : Nat)

namespace Session

/-- The session as it stood when it was replaced, up to what was sealed and opened since. -/
def SameKeys (held replaced : Session) : Prop :=
  held = { replaced with txCounter := held.txCounter, replay := held.replay }

theorem SameKeys.tryOpenObf {held replaced : Session} (same : held.SameKeys replaced) (prims : Primitives)
    (datagram : Bytes) : (held.tryOpenObf prims datagram).2.SameKeys replaced := by
  rcases tryOpenObf_session prims held datagram with unchanged | ⟨counter, committed⟩
  · rwa [unchanged]
  · rw [committed]
    rw [SameKeys] at same ⊢
    rw [same]

end Session

namespace Retirement

section Definitions

variable (prims : Primitives)

/-- A manager without timers. -/
def start (manager : SessionManager Session) (now : Nat) : Retirement :=
  { manager, now, unscheduled := 0, timers := [], replaced := none }

/-- One step; `none` when it is not enabled. -/
def step (state : Retirement) : RetirementEvent → Option Retirement
  | .elapse ms => some { state with now := state.now + ms }
  | .install newSession => some { state with
      manager := state.manager.installNewSession newSession
      unscheduled := state.unscheduled + 1
      replaced := some (state.now, state.manager.current) }
  | .schedule =>
    if 0 < state.unscheduled then
      some { state with
        unscheduled := state.unscheduled - 1
        timers := (state.now + gracePeriod) :: state.timers }
    else none
  | .fire index =>
    match state.timers[index]? with
    | some deadline =>
      if deadline ≤ state.now then
        some { state with manager := state.manager.retirePrevious, timers := state.timers.eraseIdx index }
      else none
    | none => none
  | .receive datagram => some { state with manager := (state.manager.decryptObf prims datagram).2 }
  | .reserve n => some { state with manager := { state.manager with
      current := (state.manager.current.reserveCounters n).2 } }

end Definitions

/-- The grace period of the last replacement is not over. -/
def InGrace (state : Retirement) (time : Nat) : Prop := state.now < time + gracePeriod

instance (state : Retirement) (time : Nat) : Decidable (state.InGrace time) :=
  inferInstanceAs (Decidable (_ < _))

/-- **The grace period is kept**: until it is over the session replaced last is in the previous slot. -/
def Graced (state : Retirement) : Prop :=
  ∀ time replaced, state.replaced = some (time, replaced) → state.InGrace time →
    ∃ held, state.manager.previous = some held ∧ held.SameKeys replaced

/-- No timer fires within the grace period of the last replacement. -/
def NotEarly (state : Retirement) : RetirementEvent → Prop
  | .fire _ => ∀ time replaced, state.replaced = some (time, replaced) → ¬ state.InGrace time
  | _ => True

variable {prims : Primitives} {state after : Retirement} {event : RetirementEvent}

/-- **Within its grace period a replaced session opens its authentic datagrams**: those of its other end that
its window has neither seen nor passed and the current session refuses. -/
theorem Graced.opens (graced : Graced state) (correct : prims.AeadCorrect) {time : Nat} {replaced : Session}
    (last : state.replaced = some (time, replaced)) (inGrace : state.InGrace time) :
    ∃ held, state.manager.previous = some held ∧ held.SameKeys replaced ∧
      ∀ (sealer : Session) (counter : Nat) (frameType : FrameType) (plaintext : Bytes) (policy : Obf.PadPolicy)
        (noise : Nat → UInt8) (datagram : Bytes),
        Opens sealer replaced → counter < 2 ^ 64 → held.replay.check counter = .ok () →
        plaintext.length ≤ 65535 →
        sealer.sealObfCore prims counter frameType.asU8 plaintext policy noise = .ok datagram →
        Refuses prims datagram state.manager.current →
        (state.manager.decryptObf prims datagram).1 = .ok (frameType, plaintext) := by
  obtain ⟨held, slot, same⟩ := graced time replaced last inGrace
  refine ⟨held, slot, same, ?_⟩
  intro sealer counter frameType plaintext policy noise datagram opens small fresh short sealed refuses
  have opened := tryOpenObf_sealed correct (opens.of_static rfl same) small fresh short sealed
  rw [SessionManager.decryptObf, refuses.tryOpenObf, slot]
  simp only [opened]

/-! ### One step -/

/-- Receiving leaves the previous slot filled, with the same keys. -/
theorem previous_receive {held replaced : Session} (slot : state.manager.previous = some held)
    (same : held.SameKeys replaced) (datagram : Bytes) :
    ∃ next, (state.manager.decryptObf prims datagram).2.previous = some next ∧ next.SameKeys replaced := by
  unfold SessionManager.decryptObf
  split
  · exact ⟨held, slot, same⟩
  · exact ⟨held, slot, same⟩
  · rw [slot]
    have tried := same.tryOpenObf prims datagram
    dsimp only
    split
    all_goals
      rename_i next opened
      rw [opened] at tried
      exact ⟨next, rfl, tried⟩

/-- **One step keeps the grace period exactly when it is no early timer.** -/
theorem graced_step (graced : Graced state) (taken : state.step prims event = some after) :
    Graced after ↔ state.NotEarly event := by
  cases event with
  | elapse ms =>
    cases taken
    refine iff_of_true (fun time replaced last inGrace => graced time replaced last ?_) trivial
    exact Nat.lt_of_le_of_lt (Nat.le_add_right _ _) inGrace
  | install newSession =>
    cases taken
    refine iff_of_true (fun time replaced last _ => ?_) trivial
    cases last
    exact ⟨_, rfl, rfl⟩
  | schedule =>
    simp only [step] at taken
    split at taken
    · cases taken
      exact iff_of_true graced trivial
    · cases taken
  | fire index =>
    simp only [step] at taken
    split at taken
    · split at taken
      · cases taken
        constructor
        · intro kept time replaced last inGrace
          obtain ⟨held, slot, -⟩ := kept time replaced last inGrace
          cases slot
        · intro notEarly time replaced last inGrace
          exact absurd inGrace (notEarly time replaced last)
      · cases taken
    · cases taken
  | receive datagram =>
    cases taken
    refine iff_of_true (fun time replaced last inGrace => ?_) trivial
    obtain ⟨held, slot, same⟩ := graced time replaced last inGrace
    exact previous_receive slot same datagram
  | reserve n =>
    cases taken
    exact iff_of_true graced trivial

/-- **The grace period is kept exactly while no timer fires within the one of the last replacement**, along
every sequence of installs, timers and datagrams; and while it is kept, the replaced session opens its
authentic datagrams. -/
theorem graced_iff_notEarly (correct : prims.AeadCorrect) (manager : SessionManager Session) (now : Nat)
    (events : List RetirementEvent) :
    (Along (step prims) (fun _ _ after => Graced after) (start manager now) events ↔
      Along (step prims) (fun before event _ => before.NotEarly event) (start manager now) events) ∧
    ∀ state time replaced, Graced state → state.replaced = some (time, replaced) → state.InGrace time →
      ∃ held, state.manager.previous = some held ∧ held.SameKeys replaced ∧
        ∀ (sealer : Session) (counter : Nat) (frameType : FrameType) (plaintext : Bytes)
          (policy : Obf.PadPolicy) (noise : Nat → UInt8) (datagram : Bytes),
          Opens sealer replaced → counter < 2 ^ 64 → held.replay.check counter = .ok () →
          plaintext.length ≤ 65535 →
          sealer.sealObfCore prims counter frameType.asU8 plaintext policy noise = .ok datagram →
          Refuses prims datagram state.manager.current →
          (state.manager.decryptObf prims datagram).1 = .ok (frameType, plaintext) := by
  refine ⟨?_, fun state time replaced graced last inGrace => graced.opens correct last inGrace⟩
  exact along_congr Graced (fun _ _ _ kept taken => graced_step kept taken) (fun _ _ _ _ _ kept => kept) nofun

/-! ### Installs that wait -/

/-- A session is installed only while no timer runs. -/
def Settled (state : Retirement) : RetirementEvent → Prop
  | .install _ => state.timers = []
  | _ => True

/-- Every timer that runs is due when the grace period of the last replacement is over. -/
structure Timed (state : Retirement) : Prop where
  past : ∀ time replaced, state.replaced = some (time, replaced) → time ≤ state.now
  late : ∀ deadline ∈ state.timers, ∀ time replaced, state.replaced = some (time, replaced) →
    time + gracePeriod ≤ deadline

theorem timed_start (manager : SessionManager Session) (now : Nat) : Timed (start manager now) :=
  ⟨nofun, nofun⟩

theorem Timed.notEarly (timed : Timed state) (taken : state.step prims event = some after) :
    state.NotEarly event := by
  cases event with
  | fire index =>
    simp only [step] at taken
    split at taken
    · rename_i deadline found
      split at taken
      · rename_i due
        intro time replaced last
        exact Nat.not_lt.mpr ((timed.late deadline (List.mem_of_getElem? found) time replaced last).trans due)
      · cases taken
    · cases taken
  | elapse _ | install _ | schedule | receive _ | reserve _ => trivial

/-- **One settled step keeps the timers late.** -/
theorem timed_step (timed : Timed state) (settled : state.Settled event)
    (taken : state.step prims event = some after) : Timed after := by
  cases event with
  | elapse ms =>
    cases taken
    exact ⟨fun time replaced last => (timed.past time replaced last).trans (Nat.le_add_right _ _), timed.late⟩
  | install newSession =>
    cases taken
    refine ⟨fun time replaced last => ?_, fun deadline runs => ?_⟩
    · cases last
      exact Nat.le_refl _
    · rw [show state.timers = [] from settled] at runs
      cases runs
  | schedule =>
    simp only [step] at taken
    split at taken
    · cases taken
      refine ⟨timed.past, fun deadline runs time replaced last => ?_⟩
      rcases List.mem_cons.mp runs with rfl | earlier
      · exact Nat.add_le_add_right (timed.past time replaced last) _
      · exact timed.late deadline earlier time replaced last
    · cases taken
  | fire index =>
    simp only [step] at taken
    split at taken
    · split at taken
      · cases taken
        exact ⟨timed.past, fun deadline runs => timed.late deadline (List.mem_of_mem_eraseIdx runs)⟩
      · cases taken
    · cases taken
  | receive datagram =>
    cases taken
    exact ⟨timed.past, timed.late⟩
  | reserve n =>
    cases taken
    exact ⟨timed.past, timed.late⟩

/-- **Installs that wait for the timers before them keep every grace period.** -/
theorem graced_of_settled {manager : SessionManager Session} {now : Nat} {events : List RetirementEvent}
    {last : Retirement} (run : Run (Guarded Settled (Taken (step prims))) (start manager now) events last) :
    Graced last := by
  have both : Timed last ∧ Graced last := run.invariant (fun state => Timed state ∧ Graced state)
    (fun _ _ _ kept taken => ⟨timed_step kept.1 taken.1 taken.2,
      (graced_step kept.2 taken.2).mpr (kept.1.notEarly taken.2)⟩)
    ⟨timed_start manager now, nofun⟩
  exact both.2

/-! ### Two replacements within one grace period -/

/-- The receiving end of a sample session. -/
def sampleSession (sessionId : UInt32) : Session :=
  .established .transparent sessionId (.zero 32) false .aegis256X2 0 []

/-- A datagram for the session with id 8. -/
def sampleDatagram : Bytes :=
  ((Session.established .transparent 8 (.zero 32) true .aegis256X2 0 []).sealObfCore .transparent 3
    FrameType.data.asU8 [1, 2, 3] .off fun _ => 0).toOption.getD []

/-- A second install two seconds after the first one. -/
def sampleInstalls : List RetirementEvent :=
  [.install (sampleSession 8), .schedule, .elapse 2000, .install (sampleSession 9), .schedule, .elapse 1000]

/-- Sessions before the installs. -/
def sampleStart : Retirement := start (.new (sampleSession 7) 10000) 10000

/-- The end of the sample. -/
def sampleInstalled : Option Retirement := execute (step .transparent) sampleStart sampleInstalls

theorem sampleInstalled_isSome : sampleInstalled.isSome = true := by decide +kernel

/-- A second after it was replaced, the session with id 8 opens a datagram of its other end. -/
theorem graced_iff_notEarly_sample :
    ((sampleInstalled.get sampleInstalled_isSome).manager.decryptObf .transparent sampleDatagram).1 =
      .ok (.data, [1, 2, 3]) := by
  obtain ⟨same, opens⟩ := graced_iff_notEarly Primitives.transparent_aeadCorrect
    (.new (sampleSession 7) 10000) 10000 sampleInstalls
  have along := same.mpr (by simp [sampleInstalls, Along, step, NotEarly])
  have graced := along.atEnd (Option.some_get sampleInstalled_isSome).symm nofun
  obtain ⟨held, slot, -, opened⟩ := opens _ 12000 (sampleSession 8) graced (by decide +kernel) (by decide +kernel)
  have found : held = sampleSession 8 := by
    refine Option.some.inj (slot.symm.trans ?_)
    decide +kernel
  refine opened (.established .transparent 8 (.zero 32) true .aegis256X2 0 []) 3 .data [1, 2, 3] .off (fun _ => 0)
    sampleDatagram (opens_established _ _ _ _ _ _ _ _ _) (by decide) ?_ (by decide) (by decide +kernel) ?_
  · rw [found]
    decide +kernel
  · -- The datagram is addressed to another session.
    intro header recovered addressed
    have elsewhere : ((Obf.unmask .transparent (sampleInstalled.get sampleInstalled_isSome).manager.current.rxObfKey
        sampleDatagram).all fun header => decide (header.sessionId ≠
          (sampleInstalled.get sampleInstalled_isSome).manager.current.sessionId)) = true := by decide +kernel
    rw [recovered] at elsewhere
    exact absurd addressed (of_decide_eq_true elsewhere)

/-- The timer of the first install fires, within the grace period of the second. -/
def sampleEarly : Option Retirement :=
  execute (step .transparent) sampleStart (sampleInstalls ++ [.fire 1])

theorem sampleEarly_isSome : sampleEarly.isSome = true := by decide +kernel

/-- **A timer of an earlier replacement removes the session replaced last**, two seconds before its grace
period is over, and its fresh datagrams are dropped. -/
theorem early_retirement : ∃ last, Run (Taken (step .transparent)) sampleStart (sampleInstalls ++ [.fire 1]) last ∧
    last.replaced = some (12000, sampleSession 8) ∧ last.InGrace 12000 ∧
    Opens (.established .transparent 8 (.zero 32) true .aegis256X2 0 []) (sampleSession 8) ∧
    (Session.established .transparent 8 (.zero 32) true .aegis256X2 0 []).sealObfCore .transparent 3
      FrameType.data.asU8 [1, 2, 3] .off (fun _ => 0) = .ok sampleDatagram ∧
    (last.manager.decryptObf .transparent sampleDatagram).1 = .error .decryptionFailed := by
  refine ⟨sampleEarly.get sampleEarly_isSome, run_of_execute (Option.some_get sampleEarly_isSome).symm,
    by decide +kernel, by decide +kernel, opens_established _ _ _ _ _ _ _ _ _, by decide +kernel,
    by decide +kernel⟩

end Retirement

end ChameleonPQ
