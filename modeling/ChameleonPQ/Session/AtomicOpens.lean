/-
**Concurrent calls of `decrypt_obf` are atomic.**

A parallel batch and the jobs beside it open datagrams on the same two sessions, each call one lock acquisition at
a time (`OpenCall.advance`). Between installs, and for datagrams that at most one of the two sessions opens:

* `OpenCall.bound` — a call takes effect where the window of the session that opens its datagram refuses or
  commits its counter; a datagram that neither session opens is lost from the call's first steps on.
* `step_effect` — there the whole of `decrypt_obf` returns the same and leaves the same windows; every other step
  leaves the windows alone.
* `opens_linearizable` — so every schedule of any number of calls is one of whole calls, one after another.
-/

import ChameleonPQ.Library.Linearization
import ChameleonPQ.Session.InstallRace

namespace ChameleonPQ

open Library Library.Linearization

/-- The datagram is addressed to the session, and its ciphertext opens. -/
def Session.unseals (prims : Primitives) (session : Session) (datagram : Bytes) : Bool :=
  match session.addressed prims datagram with
  | none => false
  | some (counter, ciphertext) => (session.openCiphertext prims counter ciphertext).isOk

namespace Session

variable {prims : Primitives} {session : Session} {datagram ciphertext plain : Bytes} {counter : Nat}

/-- What does not unseal is not opened, and leaves the session as it is. -/
theorem tryOpenObf_foreign (sealed : session.unseals prims datagram = false) :
    session.tryOpenObf prims datagram = (.ok none, session) := by
  rw [tryOpenObf_eq]
  unfold unseals at sealed
  cases addressed : session.addressed prims datagram with
  | none => rfl
  | some found =>
    obtain ⟨counter, ciphertext⟩ := found
    rw [addressed] at sealed
    cases opens : session.openCiphertext prims counter ciphertext with
    | ok plain =>
      simp only [opens] at sealed
      cases sealed
    | error e => cases checked : session.checkReplay counter <;> simp [decrypt, checked, opens, interpret]

/-- A counter that the window refuses is not opened. -/
theorem tryOpenObf_refused (addressed : session.addressed prims datagram = some (counter, ciphertext))
    {e : ChameleonError} (refused : session.replay.check counter = .error e) :
    session.tryOpenObf prims datagram = (.ok none, session) := by
  have checked : session.checkReplay counter = .error e := refused
  rw [tryOpenObf_eq, addressed]
  simp [decrypt, checked, interpret]

/-- A counter that the window accepts is committed. -/
theorem tryOpenObf_commits (addressed : session.addressed prims datagram = some (counter, ciphertext))
    (accepted : session.replay.check counter = .ok ())
    (opens : session.openCiphertext prims counter ciphertext = .ok plain) :
    session.tryOpenObf prims datagram =
      (interpret (.ok plain), { session with replay := session.replay.commit counter }) := by
  have checked : session.checkReplay counter = .ok () := accepted
  rw [tryOpenObf_eq, addressed]
  simp [decrypt, checked, opens, recheckCommit, accepted]

end Session

namespace SessionManager

variable {prims : Primitives} {manager : SessionManager Session} {datagram : Bytes}

/-- Neither session opens the datagram. -/
theorem decryptObf_lost (current : manager.current.tryOpenObf prims datagram = (.ok none, manager.current))
    (previous : ∀ last, manager.previous = some last → last.tryOpenObf prims datagram = (.ok none, last)) :
    manager.decryptObf prims datagram = (.error .decryptionFailed, manager) := by
  obtain ⟨_, slot, _, _⟩ := manager
  cases slot with
  | none => simp only [decryptObf, current]
  | some last => simp only [decryptObf, current, previous last rfl]

end SessionManager

namespace OpenCall

variable {Handle : Type}

section Definitions

variable (prims : Primitives) (origin : Handle → Session) (manager : SessionManager Handle)

/-- What a call is bound to that the current session does not open. -/
def missedBound (datagram : Bytes) : Option (Result (FrameType × Bytes)) :=
  match manager.previous with
  | none => some (.error .decryptionFailed)
  | some handle =>
    if (origin handle).unseals prims datagram then none else some (.error .decryptionFailed)

/-- The result of a call that has taken effect. -/
def bound (call : OpenCall Handle) : Option (Result (FrameType × Bytes)) :=
  match call.stage with
  | .start => none
  | .trying slot handle task =>
    if ((origin handle).openCiphertext prims task.counter task.ciphertext).isOk then none
    else
      match slot with
      | .current => missedBound prims origin manager call.datagram
      | .previous => some (.error .decryptionFailed)
  | .missed => missedBound prims origin manager call.datagram
  | .done result => some result

end Definitions

end OpenCall

namespace InstallRace

variable {Handle : Type}

section Definitions

variable (prims : Primitives) [DecidableEq Handle] (origin : Handle → Session) (manager : SessionManager Handle)

/-- The sessions behind the handles with the calls of `decrypt_obf` on them. -/
def opensObject : Object (Handle → Session) (SessionManager Session) (OpenCall Handle) Bytes
    (Result (FrameType × Bytes)) where
  advance sessions call := call.advance prims manager sessions
  op := OpenCall.datagram
  bound := OpenCall.bound prims origin manager
  result call := call.stage.result
  view := values manager
  whole sessions datagram := sessions.decryptObf prims datagram

/-- Calls that have not begun, on these datagrams. -/
def callsOn (datagrams : List Bytes) : Pool (Handle → Session) (OpenCall Handle) :=
  ⟨origin, datagrams.map fun datagram => ⟨datagram, .start, false, true⟩⟩

end Definitions

section Effects

variable (prims : Primitives) (origin : Handle → Session) (manager : SessionManager Handle)

/-- Only the windows differ from the start. -/
def Static (sessions : Handle → Session) : Prop :=
  ∀ handle, ∃ replay, sessions handle = { origin handle with replay }

/-- **At most one of the two sessions opens the datagram.** -/
def Exclusive (datagram : Bytes) : Prop :=
  ∀ last, manager.previous = some last → ∀ c c', Genuine prims origin manager.current datagram c →
    ¬ Genuine prims origin last datagram c'

/-- A call on such a datagram that tries it on the session of a slot. -/
structure Opening (call : OpenCall Handle) : Prop where
  exclusive : Exclusive prims origin manager call.datagram
  onTrial : OnTrial prims origin call
  slot : ∀ slot handle task, call.stage = .trying slot handle task →
    match slot with
    | .current => manager.current = handle
    | .previous => manager.previous = some handle

variable {prims origin manager} {sessions after : Handle → Session} {call next : OpenCall Handle} {datagram : Bytes}
  {handle : Handle} {slot : SlotName} {task : DecryptTask}

theorem unseals_iff {session : Session} : session.unseals prims datagram = true ↔ ∃ counter ciphertext plain,
    session.addressed prims datagram = some (counter, ciphertext) ∧
      session.openCiphertext prims counter ciphertext = .ok plain := by
  unfold Session.unseals
  split
  · rename_i addressed
    simp [addressed]
  · rename_i counter ciphertext addressed
    cases opens : session.openCiphertext prims counter ciphertext with
    | error e => simp [addressed, opens, Except.isOk, Except.toBool]
    | ok plain => simp [addressed, opens, Except.isOk, Except.toBool]

theorem genuine_iff : (∃ c, Genuine prims origin handle datagram c) ↔
    (origin handle).unseals prims datagram = true := by
  rw [unseals_iff]
  exact Iff.rfl

/-- What the windows do not decide is as at the start. -/
theorem Static.unseals (static : Static origin sessions) (handle : Handle) (datagram : Bytes) :
    (sessions handle).unseals prims datagram = (origin handle).unseals prims datagram := by
  obtain ⟨replay, same⟩ := static handle
  rw [same]
  rfl

theorem Static.addressed (static : Static origin sessions) (handle : Handle) (datagram : Bytes) :
    (sessions handle).addressed prims datagram = (origin handle).addressed prims datagram := by
  obtain ⟨replay, same⟩ := static handle
  rw [same]
  rfl

theorem Static.openCiphertext (static : Static origin sessions) (handle : Handle) (counter : Nat)
    (ciphertext : Bytes) : (sessions handle).openCiphertext prims counter ciphertext =
      (origin handle).openCiphertext prims counter ciphertext := by
  obtain ⟨replay, same⟩ := static handle
  rw [same]
  rfl

theorem Static.commits [DecidableEq Handle] (static : Static origin sessions) (handle : Handle)
    (replay : ReplayWindow) : Static origin (Function.update sessions handle { sessions handle with replay }) := by
  intro other
  by_cases here : other = handle
  · subst here
    obtain ⟨_, same⟩ := static other
    exact ⟨replay, by rw [Function.update_self, same]⟩
  · rw [Function.update_of_ne here]
    exact static other

/-! What the whole call does, by the session that opens the datagram. -/

/-- A call that the current session does not open is bound to be lost, or to what the previous one makes of it. -/
theorem missedBound_cases (prims : Primitives) (origin : Handle → Session) (manager : SessionManager Handle)
    (datagram : Bytes) :
    (OpenCall.missedBound prims origin manager datagram = some (.error .decryptionFailed) ∧
        ∀ last, manager.previous = some last → (origin last).unseals prims datagram = false) ∨
      ∃ last, manager.previous = some last ∧ (origin last).unseals prims datagram = true ∧
        OpenCall.missedBound prims origin manager datagram = none := by
  unfold OpenCall.missedBound
  cases slot : manager.previous with
  | none => exact .inl ⟨rfl, nofun⟩
  | some last =>
    cases unseals : (origin last).unseals prims datagram with
    | false =>
      refine .inl ⟨by simp [unseals], fun other same => ?_⟩
      rw [← Option.some.inj same, unseals]
    | true => exact .inr ⟨last, rfl, unseals, by simp [unseals]⟩

theorem missedBound_of_exclusive (exclusive : Exclusive prims origin manager datagram)
    (opens : (origin manager.current).unseals prims datagram = true) :
    OpenCall.missedBound prims origin manager datagram = some (.error .decryptionFailed) ∧
      ∀ last, manager.previous = some last → (origin last).unseals prims datagram = false := by
  refine (missedBound_cases prims origin manager datagram).resolve_right ?_
  rintro ⟨last, slot, both, -⟩
  obtain ⟨c, genuine⟩ := genuine_iff.mpr opens
  obtain ⟨c', genuine'⟩ := genuine_iff.mpr both
  exact exclusive last slot c c' genuine genuine'

theorem current_sealed_of_exclusive (exclusive : Exclusive prims origin manager datagram) {last : Handle}
    (slot : manager.previous = some last) (opens : (origin last).unseals prims datagram = true) :
    (origin manager.current).unseals prims datagram = false := by
  rw [Bool.eq_false_iff]
  intro both
  obtain ⟨c, genuine⟩ := genuine_iff.mpr both
  obtain ⟨c', genuine'⟩ := genuine_iff.mpr opens
  exact exclusive last slot c c' genuine genuine'

/-- The whole call is lost when neither session opens its datagram. -/
theorem whole_lost
    (current : (sessions manager.current).tryOpenObf prims datagram = (.ok none, sessions manager.current))
    (previous : ∀ last, manager.previous = some last →
      (sessions last).tryOpenObf prims datagram = (.ok none, sessions last)) :
    (values manager sessions).decryptObf prims datagram = (.error .decryptionFailed, values manager sessions) := by
  refine SessionManager.decryptObf_lost current fun last slot => ?_
  obtain ⟨handle, held, rfl⟩ := Option.map_eq_some_iff.mp slot
  exact previous handle held

section Slots

variable [DecidableEq Handle]

theorem values_update_current (distinct : manager.previous ≠ some manager.current) (session : Session) :
    values manager (Function.update sessions manager.current session) =
      { values manager sessions with current := session } := by
  cases slot : manager.previous with
  | none => simp [values, slot]
  | some last =>
    have away : last ≠ manager.current := fun same => distinct (slot.trans (congrArg some same))
    simp [values, slot, Function.update_of_ne away]

theorem values_update_previous (distinct : manager.previous ≠ some manager.current) {last : Handle}
    (slot : manager.previous = some last) (session : Session) :
    values manager (Function.update sessions last session) =
      { values manager sessions with previous := some session } := by
  have away : manager.current ≠ last := fun same => distinct (slot.trans (congrArg some same.symm))
  simp [values, slot, Function.update_of_ne away]

/-- The whole call when the current session opens its datagram. -/
theorem whole_current (distinct : manager.previous ≠ some manager.current) {session : Session}
    {outcome : Result (Option (FrameType × Bytes))} (opened : outcome ≠ .ok none)
    (tried : (sessions manager.current).tryOpenObf prims datagram = (outcome, session)) (slot : SlotName) :
    ∃ result, (OpenCall.settle slot outcome : OpenStage Handle) = .done result ∧
      (values manager sessions).decryptObf prims datagram =
        (result, values manager (Function.update sessions manager.current session)) := by
  have here : (values manager sessions).current = sessions manager.current := rfl
  rw [values_update_current distinct]
  match outcome with
  | .error e => exact ⟨.error e, rfl, by simp only [SessionManager.decryptObf, here, tried]⟩
  | .ok (some content) => exact ⟨.ok content, rfl, by simp only [SessionManager.decryptObf, here, tried]⟩
  | .ok none => exact absurd rfl opened

/-- The whole call when the previous session opens its datagram. -/
theorem whole_previous (distinct : manager.previous ≠ some manager.current) {last : Handle}
    (slot : manager.previous = some last)
    (current : (sessions manager.current).tryOpenObf prims datagram = (.ok none, sessions manager.current))
    {session : Session} {outcome : Result (Option (FrameType × Bytes))} (opened : outcome ≠ .ok none)
    (tried : (sessions last).tryOpenObf prims datagram = (outcome, session)) :
    ∃ result, (OpenCall.settle .previous outcome : OpenStage Handle) = .done result ∧
      (values manager sessions).decryptObf prims datagram =
        (result, values manager (Function.update sessions last session)) := by
  have here : (values manager sessions).current = sessions manager.current := rfl
  have there : (values manager sessions).previous = some (sessions last) := by rw [values, slot, Option.map_some]
  rw [values_update_previous distinct slot]
  cases outcome with
  | error e => exact ⟨.error e, rfl, by simp only [SessionManager.decryptObf, here, current, there, tried]⟩
  | ok found =>
    cases found with
    | some content =>
      exact ⟨.ok content, rfl, by simp only [SessionManager.decryptObf, here, current, there, tried]⟩
    | none => exact absurd rfl opened

end Slots

/-! ### One step of a call -/

/-- **What a step is to the call at once**: nothing, or all of it. -/
def StepEffect (prims : Primitives) (origin : Handle → Session) (manager : SessionManager Handle)
    (sessions after : Handle → Session) (call next : OpenCall Handle) : Prop :=
  (next.bound prims origin manager = call.bound prims origin manager ∧
      values manager after = values manager sessions) ∨
    (call.bound prims origin manager = none ∧ ∃ result, next.bound prims origin manager = some result ∧
      (values manager sessions).decryptObf prims call.datagram = (result, values manager after))

/-- The bound of a call on a slot whose session the datagram does not open. -/
theorem bound_trying (stands : call.stage = .trying slot handle task) (fails : ∀ plain,
    (origin handle).openCiphertext prims task.counter task.ciphertext ≠ .ok plain) :
    call.bound prims origin manager =
      ({ call with stage := OpenCall.settle slot (.ok none) } : OpenCall Handle).bound prims origin manager := by
  cases opens : (origin handle).openCiphertext prims task.counter task.ciphertext with
  | ok plain => exact absurd opens (fails plain)
  | error e => cases slot <;> simp [OpenCall.bound, stands, opens, Except.isOk, Except.toBool, OpenCall.settle]

theorem bound_trying_opens (stands : call.stage = .trying slot handle task) {plain : Bytes}
    (opens : (origin handle).openCiphertext prims task.counter task.ciphertext = .ok plain) :
    call.bound prims origin manager = none := by
  simp [OpenCall.bound, stands, opens, Except.isOk, Except.toBool]

/-- The session that opens the datagram refuses its counter: the call is lost there. -/
theorem refused_effect (static : Static origin sessions) (opening : Opening prims origin manager call)
    (stands : call.stage = .trying slot handle task) {plain : Bytes}
    (opens : (origin handle).openCiphertext prims task.counter task.ciphertext = .ok plain) {e : ChameleonError}
    (refused : (sessions handle).replay.check task.counter = .error e) :
    StepEffect prims origin manager sessions sessions call
      { call with stage := OpenCall.settle slot (.ok none) } := by
  obtain ⟨addressed, -, -⟩ := opening.onTrial slot handle task stands
  have unseals : (origin handle).unseals prims call.datagram = true :=
    unseals_iff.mpr ⟨_, _, plain, addressed, opens⟩
  have missed := Session.tryOpenObf_refused ((static.addressed handle call.datagram).trans addressed) refused
  have foreign : ∀ other, (origin other).unseals prims call.datagram = false →
      (sessions other).tryOpenObf prims call.datagram = (.ok none, sessions other) := fun other sealed =>
    Session.tryOpenObf_foreign ((static.unseals other call.datagram).trans sealed)
  refine .inr ⟨bound_trying_opens stands opens, .error .decryptionFailed, ?_⟩
  have place := opening.slot slot handle task stands
  cases slot with
  | current =>
    obtain rfl : manager.current = handle := place
    obtain ⟨lost, sealed⟩ := missedBound_of_exclusive opening.exclusive unseals
    exact ⟨lost, whole_lost missed fun last slot => foreign last (sealed last slot)⟩
  | previous =>
    have held : manager.previous = some handle := place
    refine ⟨rfl, whole_lost (foreign _ (current_sealed_of_exclusive opening.exclusive held unseals)) ?_⟩
    intro last slot
    rw [← Option.some.inj (held.symm.trans slot)]
    exact missed

/-- The session that opens the datagram commits its counter: the call returns what is in it. -/
theorem committed_effect [DecidableEq Handle] (distinct : manager.previous ≠ some manager.current)
    (static : Static origin sessions) (opening : Opening prims origin manager call)
    (stands : call.stage = .trying slot handle task) {plain : Bytes}
    (opens : (origin handle).openCiphertext prims task.counter task.ciphertext = .ok plain)
    (accepted : (sessions handle).replay.check task.counter = .ok ()) :
    StepEffect prims origin manager sessions
      (Function.update sessions handle
        { sessions handle with replay := (sessions handle).replay.commit task.counter })
      call { call with stage := OpenCall.settle slot (Session.interpret (.ok plain)) } := by
  obtain ⟨addressed, -, -⟩ := opening.onTrial slot handle task stands
  have unseals : (origin handle).unseals prims call.datagram = true :=
    unseals_iff.mpr ⟨_, _, plain, addressed, opens⟩
  have tried := Session.tryOpenObf_commits ((static.addressed handle call.datagram).trans addressed) accepted
    ((static.openCiphertext handle _ _).trans opens)
  have place := opening.slot slot handle task stands
  have opened := interpret_ok_ne_none plain
  refine .inr ⟨bound_trying_opens stands opens, ?_⟩
  cases slot with
  | current =>
    obtain rfl : manager.current = handle := place
    obtain ⟨result, done, whole⟩ := whole_current distinct opened tried .current
    exact ⟨result, by simp only [OpenCall.bound, done], whole⟩
  | previous =>
    have held : manager.previous = some handle := place
    have foreign := Session.tryOpenObf_foreign ((static.unseals manager.current call.datagram).trans
      (current_sealed_of_exclusive opening.exclusive held unseals))
    obtain ⟨result, done, whole⟩ := whole_previous distinct held foreign opened tried
    exact ⟨result, by simp only [OpenCall.bound, done], whole⟩

/-- A step of `decrypt` on the session of a slot. -/
theorem trial_effect [DecidableEq Handle] (distinct : manager.previous ≠ some manager.current)
    (static : Static origin sessions) (opening : Opening prims origin manager call)
    (stands : call.stage = .trying slot handle task) :
    StepEffect prims origin manager sessions
      (Function.update sessions handle (task.advance prims (sessions handle)).2)
      call { call with stage := OpenCall.proceed slot handle (task.advance prims (sessions handle)).1 } := by
  obtain ⟨-, authentic, running⟩ := opening.onTrial slot handle task stands
  have same : (sessions handle).openCiphertext prims task.counter task.ciphertext =
      (origin handle).openCiphertext prims task.counter task.ciphertext :=
    static.openCiphertext handle task.counter task.ciphertext
  have ended : ∀ result, OpenCall.proceed slot handle { task with phase := .done result } =
      OpenCall.settle slot (Session.interpret result) := fun _ => rfl
  have lost : ∀ e, Session.interpret (.error e) = .ok none := fun _ => rfl
  cases opens : (origin handle).openCiphertext prims task.counter task.ciphertext with
  | error e =>
    -- the call is on its way to the previous slot, whatever the window says
    have missed : StepEffect prims origin manager sessions sessions call
        { call with stage := OpenCall.settle slot (.ok none) } :=
      .inl ⟨(bound_trying stands fun plain opened => by rw [opens] at opened; cases opened).symm, rfl⟩
    cases phase : task.phase with
    | start =>
      cases checked : (sessions handle).checkReplay task.counter with
      | error e' => simpa [DecryptTask.advance, phase, checked, ended, lost] using missed
      | ok _ =>
        refine .inl ⟨?_, ?_⟩
        · simp [DecryptTask.advance, phase, checked, OpenCall.proceed, OpenCall.bound, stands, opens]
        · simp [DecryptTask.advance, phase, checked]
    | checked => simpa [DecryptTask.advance, phase, same, opens, ended, lost] using missed
    | opened plain => rw [opens] at authentic; cases authentic plain phase
    | done result => exact absurd phase (running result)
  | ok plain =>
    cases phase : task.phase with
    | start =>
      cases checked : (sessions handle).replay.check task.counter with
      | error e =>
        have step : (sessions handle).checkReplay task.counter = .error e := checked
        simpa [DecryptTask.advance, phase, step, ended, lost] using
          refused_effect static opening stands opens checked
      | ok _ =>
        have step : (sessions handle).checkReplay task.counter = .ok () := checked
        refine .inl ⟨?_, ?_⟩
        · simp [DecryptTask.advance, phase, step, OpenCall.proceed, OpenCall.bound, stands]
        · simp [DecryptTask.advance, phase, step]
    | checked =>
      refine .inl ⟨?_, ?_⟩
      · simp [DecryptTask.advance, phase, same, opens, OpenCall.proceed, OpenCall.bound, stands]
      · simp [DecryptTask.advance, phase, same, opens]
    | opened found =>
      obtain rfl : plain = found := Except.ok.inj (opens.symm.trans (authentic found phase))
      cases checked : (sessions handle).replay.check task.counter with
      | error e =>
        have step : (sessions handle).recheckCommit task.counter = (.error e, sessions handle) := by
          rw [Session.recheckCommit, checked]
        simpa [DecryptTask.advance, phase, step, ended, lost] using
          refused_effect static opening stands opens checked
      | ok _ =>
        have step : (sessions handle).recheckCommit task.counter =
            (.ok (), { sessions handle with replay := (sessions handle).replay.commit task.counter }) := by
          rw [Session.recheckCommit, checked]
        simpa [DecryptTask.advance, phase, step, ended] using
          committed_effect distinct static opening stands opens checked
    | done result => exact absurd phase (running result)

/-- **What a step of a call is to the call at once.** -/
theorem step_effect [DecidableEq Handle] (distinct : manager.previous ≠ some manager.current)
    (static : Static origin sessions) (opening : Opening prims origin manager call)
    (taken : call.advance prims manager sessions = some (next, after)) :
    StepEffect prims origin manager sessions after call next := by
  have foreign : ∀ other, (origin other).unseals prims call.datagram = false →
      (sessions other).tryOpenObf prims call.datagram = (.ok none, sessions other) := fun other sealed =>
    Session.tryOpenObf_foreign ((static.unseals other call.datagram).trans sealed)
  obtain ⟨stage, rfl, moves⟩ := OpenCall.advance_cases taken
  cases moves with
  | current stands =>
    have unbound : call.bound prims origin manager = none := by rw [OpenCall.bound, stands]
    cases unseals : (origin manager.current).unseals prims call.datagram with
    | true =>
      obtain ⟨counter, ciphertext, plain, addressed, opens⟩ := unseals_iff.mp unseals
      refine .inl ⟨?_, rfl⟩
      rw [unbound, OpenCall.tryOpen, static.addressed, addressed]
      simp [OpenCall.bound, opens, Except.isOk, Except.toBool]
    | false =>
      have tries : ({ call with stage := OpenCall.tryOpen prims sessions call.datagram .current manager.current } :
          OpenCall Handle).bound prims origin manager =
            OpenCall.missedBound prims origin manager call.datagram := by
        unfold Session.unseals at unseals
        rw [OpenCall.tryOpen, static.addressed]
        cases addressed : (origin manager.current).addressed prims call.datagram with
        | none => rfl
        | some trial =>
          rw [addressed] at unseals
          simp only [OpenCall.bound, unseals]
          rfl
      rcases missedBound_cases prims origin manager call.datagram with ⟨lost, sealed⟩ | ⟨last, -, -, waits⟩
      · exact .inr ⟨unbound, _, tries.trans lost,
          whole_lost (foreign _ unseals) fun last slot => foreign last (sealed last slot)⟩
      · exact .inl ⟨by rw [tries, waits, unbound], rfl⟩
  | trial stands => exact trial_effect distinct static opening stands
  | empty stands slot => exact .inl ⟨by simp [OpenCall.bound, stands, OpenCall.missedBound, slot], rfl⟩
  | @previous handle stands slot =>
    refine .inl ⟨?_, rfl⟩
    rw [OpenCall.tryOpen, static.addressed]
    cases addressed : (origin handle).addressed prims call.datagram with
    | none =>
      have sealed : (origin handle).unseals prims call.datagram = false := by rw [Session.unseals, addressed]
      simp [OpenCall.bound, stands, OpenCall.missedBound, slot, sealed, OpenCall.settle]
    | some trial =>
      simp only [OpenCall.bound, stands, OpenCall.missedBound, slot, Session.unseals, addressed]

/-! ### Every schedule -/

theorem settle_ne_trying (slot slot' : SlotName) (outcome : Result (Option (FrameType × Bytes))) (handle : Handle)
    (task : DecryptTask) : OpenCall.settle slot outcome ≠ .trying slot' handle task := by
  match outcome, slot with
  | .error _, _ => nofun
  | .ok (some _), _ => nofun
  | .ok none, .current => nofun
  | .ok none, .previous => nofun

/-- A call that has come to an end on a slot. -/
theorem Opening.settle (opening : Opening prims origin manager call) (slot : SlotName)
    (outcome : Result (Option (FrameType × Bytes))) :
    Opening prims origin manager { call with stage := OpenCall.settle slot outcome } :=
  ⟨opening.exclusive, fun slot' handle task trying => (settle_ne_trying slot slot' outcome handle task trying).elim,
    fun slot' handle task trying => (settle_ne_trying slot slot' outcome handle task trying).elim⟩

/-- A call that clones the session of a slot. -/
theorem Opening.tryOpen (opening : Opening prims origin manager call) (static : Static origin sessions)
    (place : match slot with
      | .current => manager.current = handle
      | .previous => manager.previous = some handle) :
    Opening prims origin manager
      { call with stage := OpenCall.tryOpen prims sessions call.datagram slot handle } := by
  unfold OpenCall.tryOpen
  rw [static.addressed]
  split
  · exact opening.settle slot _
  · rename_i counter ciphertext addressed
    refine ⟨opening.exclusive, fun slot' handle' task trying => ?_, fun slot' handle' task trying => ?_⟩
    · cases trying
      exact ⟨addressed, nofun, nofun⟩
    · cases trying
      exact place

/-- What is asked of the calls holds after a step, and the sessions differ in their windows only. -/
theorem opening_step [DecidableEq Handle] (static : Static origin sessions)
    (opening : Opening prims origin manager call) (taken : call.advance prims manager sessions = some (next, after)) :
    Static origin after ∧ Opening prims origin manager next := by
  obtain ⟨stage, rfl, moves⟩ := OpenCall.advance_cases taken
  cases moves with
  | current stands => exact ⟨static, opening.tryOpen static rfl⟩
  | empty stands slot => exact ⟨static, opening.exclusive, nofun, nofun⟩
  | previous stands slot => exact ⟨static, opening.tryOpen static slot⟩
  | @trial slot handle task stands =>
    obtain ⟨addressed, -, -⟩ := opening.onTrial slot handle task stands
    have place := opening.slot slot handle task stands
    constructor
    · rcases DecryptTask.advance_cases prims (sessions handle) task with ⟨same, -⟩ | ⟨plain, -, -, advanced⟩
      · rw [same, Function.update_eq_self]
        exact static
      · rw [advanced]
        exact static.commits handle _
    · unfold OpenCall.proceed
      split
      · exact opening.settle slot _
      · rename_i running
        refine ⟨opening.exclusive, fun slot' handle' task' trying => ?_, fun slot' handle' task' trying => ?_⟩
        · cases trying
          refine ⟨by simpa using addressed, fun plain opened => ?_, running⟩
          rw [DecryptTask.advance_counter, DecryptTask.advance_ciphertext, ← static.openCiphertext]
          exact DecryptTask.advance_opened opened
        · cases trying
          exact place

/-- **The calls take effect at one step each.** -/
theorem opens_effective [DecidableEq Handle] (distinct : manager.previous ≠ some manager.current) :
    Effective (opensObject prims origin manager) (Static origin) (Opening prims origin manager) where
  state static opening taken := (opening_step static opening taken).1
  call static opening taken := (opening_step static opening taken).2
  op taken := by
    obtain ⟨stage, rfl, -⟩ := OpenCall.advance_cases taken
    rfl
  keeps static opening taken bound := by
    rcases step_effect distinct static opening taken with ⟨stays, same⟩ | ⟨unbound, -⟩
    · exact ⟨stays.trans bound, same⟩
    · cases bound.symm.trans unbound
  takes static opening taken unbound := by
    rcases step_effect distinct static opening taken with ⟨stays, same⟩ | ⟨-, effect⟩
    · exact .inl ⟨stays.trans unbound, same⟩
    · exact .inr effect
  returns {call result} _ returned := by
    show call.bound prims origin manager = some result
    cases stands : call.stage with
    | done found =>
      obtain rfl : found = result := by simpa [opensObject, OpenStage.result, stands] using returned
      rw [OpenCall.bound, stands]
    | _ => simp [opensObject, OpenStage.result, stands] at returned

end Effects

/-- **Calls of `decrypt_obf` are atomic between installs.** Whatever the order of the steps of any number of calls,
on datagrams that at most one of the two sessions opens, they can be put in one order that later steps do not
change: each call after its first step, and every call that returned. Made whole and one after another in that
order, they return what they returned and leave the windows as the steps left them. -/
theorem opens_linearizable [DecidableEq Handle] (prims : Primitives) (origin : Handle → Session)
    (manager : SessionManager Handle) (distinct : manager.previous ≠ some manager.current) (datagrams : List Bytes)
    (exclusive : ∀ datagram ∈ datagrams, Exclusive prims origin manager datagram) :
    ∃ order : List Nat → List Nat, (∀ schedule later, order schedule <+: order (schedule ++ later)) ∧
      ∀ schedule, Linearized (opensObject prims origin manager) (callsOn origin datagrams) schedule
        (order schedule) := by
  have held : (callsOn origin datagrams).Held (Static origin) (Opening prims origin manager) := by
    refine ⟨fun handle => ⟨_, rfl⟩, fun call member => ?_⟩
    obtain ⟨datagram, listed, rfl⟩ := List.mem_map.mp member
    exact ⟨exclusive datagram listed, nofun, nofun⟩
  refine ⟨(callsOn origin datagrams).order (opensObject prims origin manager), fun schedule later => ?_,
    fun schedule => ?_⟩
  · rw [Pool.order_append]
    exact List.prefix_append _ _
  · refine linearized (opens_effective distinct) held (fun call member => ?_) schedule
    obtain ⟨datagram, -, rfl⟩ := List.mem_map.mp member
    rfl

/-- The slots after the switch of the sample. -/
def sampleBothSlots : SessionManager Bool := { sampleSlots with current := true, previous := some false }

/-- Two calls on copies of one datagram, step by step in turn. -/
theorem opens_linearizable_sample : ∃ order, Linearized (opensObject .transparent sampleOrigin sampleBothSlots)
    (callsOn sampleOrigin [sampleOld, sampleOld]) [0, 1, 0, 1, 0, 1, 0, 1, 0, 1] order := by
  have elsewhere : (sampleOrigin true).addressed .transparent sampleOld = none := by decide +kernel
  have exclusive : ∀ datagram ∈ [sampleOld, sampleOld],
      Exclusive .transparent sampleOrigin sampleBothSlots datagram := by
    rintro datagram copies last - c c' ⟨ciphertext, framed, addressed, -⟩
    have same : datagram = sampleOld := by simpa using copies
    rw [same] at addressed
    cases elsewhere.symm.trans addressed
  obtain ⟨order, -, explained⟩ :=
    opens_linearizable .transparent sampleOrigin sampleBothSlots (by decide) [sampleOld, sampleOld] exclusive
  exact ⟨_, explained _⟩

end InstallRace

end ChameleonPQ
