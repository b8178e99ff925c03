/-
**The rekey claim of the outbound loop (`tunnel_loops.rs`, `rekey.rs`).**

The tick arm claims the rekey in the manager and then the loop's own flag; the future of the rekey is polled
beside it, and the result arm releases both. Each step is one atomic access; the inbound loop installs
sessions as rekey responder step by step in between.

* `LoopPlace`, `RekeyAttempt` — where the loop stands, and `rekey_fut`.
* `Claimed`, `claimed_step` — what holds of the two flags in each place.
* `claim_never_stuck` — with no rekey in flight neither flag is held, none is started beside another, and
  a tick past the threshold and the interval starts one.
-/

import ChameleonPQ.Session.ManagerSteps
import ChameleonPQ.Tunnel.Rekey

namespace ChameleonPQ

open Library Library.Runs

/-! ### The outbound loop -/

/-- `rekey_fut`: not polled yet, with the sink it chose and its session id, or running. -/
inductive RekeyAttempt where
  | unpolled (sink : HandshakeSink) (newId : UInt32)
  | running (driver : RekeyDriver)

/-- Where the outbound loop stands. -/
inductive LoopPlace where
  /-- At `select!`. -/
  | head
  /-- In `needs_rekey`, called by the tick arm. -/
  | asking (stage : NeedsRekeyStage)
  /-- `needs_rekey` returned true. -/
  | swapping
  /-- The flag was free and is taken. -/
  | starting
  /-- The driver's last poll, in `install_new_session`. -/
  | installing (stage : InstallStage Session)
  /-- The result arm of a failed rekey, before `abort_rekey`. -/
  | aborting
  /-- The end of the result arm. -/
  | releasing

/-- The outbound loop, the manager it shares, and the calls of `install_new_session` by the inbound loop. -/
structure RekeyLoop where
  manager : SessionManager Session
  now : Nat
  rekeying : Bool
  place : LoopPlace
  attempt : Option RekeyAttempt
  installs : List (InstallStage Session)
  /-- The rekeys started, and those whose result was taken. -/
  started : Nat
  finished : Nat

/-- One atomic step. -/
inductive LoopEvent where
  | elapse (ms : Nat)
  /-- The ticker fires: its arm comes to the rekey trigger. -/
  | tick
  /-- The loop goes on in the arm it is in; a rekey that starts has this sink and id. -/
  | advance (sink : HandshakeSink) (newId : UInt32)
  /-- The first poll of the rekey. -/
  | begin (start : StartCoins) (envelope : HsObf.SealCoins)
  /-- A datagram of the rekey leaves, or does not. -/
  | sends (success : Bool)
  /-- The rekey takes a datagram from its channel. -/
  | reads (raw : Bytes) (coins : DriverCoins)
  | timesOut
  /-- The inbound loop is gone. -/
  | channelClosed
  /-- The inbound loop installs a session as responder. -/
  | install (session : Session)
  | installStep (index : Nat)
  /-- Counters are reserved on the current session. -/
  | reserve (n : Nat)

/-- The driver's channel is closed. -/
def RekeyDriver.channelClosed (driver : RekeyDriver) : RekeyDriver :=
  match driver.stage with
  | .waiting _ _ _ _ => { driver with stage := .ended (.error .channelClosed) }
  | _ => driver

/-! ### How the driver ends -/

namespace RekeyDriver

/-- A driver that succeeded has a session to install. -/
def Succeeds (driver : RekeyDriver) (established : Option Session) : Prop :=
  driver.stage = .ended (.ok ()) → established ≠ none

theorem send_ne_ended (init : RekeyInit) (now attempt : Nat) (left : List Bytes) (result : Result Unit) :
    init.send now attempt left ≠ .ended result := by
  cases left <;> nofun

theorem sendConfirm_succeeds (session : Session) (left : List Bytes) :
    (sendConfirm session left).1 = .ended (.ok ()) → (sendConfirm session left).2 ≠ none := by
  cases left <;> nofun

theorem begin_succeeds (prims : Primitives) (config : InboundConfig) (sink : HandshakeSink) (newId : UInt32)
    (now : Nat) (start : StartCoins) (envelope : HsObf.SealCoins) :
    (begin prims config sink newId now start envelope).Succeeds none := by
  intro ended
  simp only [begin] at ended
  split at ended
  · cases ended
  · split at ended
    · cases ended
    · exact absurd ended (send_ne_ended _ _ _ _ _)

theorem sent_succeeds {driver : RekeyDriver} (now : Nat) (next : driver.nextDatagram.isSome) :
    (driver.sent now).1.Succeeds (driver.sent now).2 := by
  unfold sent Succeeds
  cases stage : driver.stage with
  | sendingInit init attempt left => exact fun ended => absurd ended (send_ne_ended _ _ _ _ _)
  | sendingConfirm session left => exact sendConfirm_succeeds session left.tail
  | waiting _ _ _ _ | ended _ => simp [nextDatagram, stage] at next

theorem conclude_succeeds (prims : Primitives) (config : InboundConfig) (driver : RekeyDriver)
    (init : RekeyInit) (respWire : Bytes) (coins : DriverCoins) :
    (driver.conclude prims config init respWire coins).1.Succeeds
      (driver.conclude prims config init respWire coins).2 := by
  unfold conclude Succeeds
  split
  · nofun
  · split
    · nofun
    · exact sendConfirm_succeeds _ _
  · nofun

theorem read_succeeds (prims : Primitives) (config : InboundConfig) {driver : RekeyDriver} (now : Nat)
    (raw : Bytes) (coins : DriverCoins) {init : RekeyInit} {attempt deadline : Nat} {reasm : Reassembler}
    (stage : driver.stage = .waiting init attempt reasm deadline) :
    (driver.read prims config now raw coins).1.Succeeds (driver.read prims config now raw coins).2 := by
  simp only [read, stage]
  split
  · exact conclude_succeeds prims config driver init _ coins
  · nofun

theorem timeOut_succeeds {driver : RekeyDriver} (now : Nat) {init : RekeyInit} {attempt deadline : Nat}
    {reasm : Reassembler} (stage : driver.stage = .waiting init attempt reasm deadline) :
    (driver.timeOut now).Succeeds none := by
  simp only [timeOut, stage, Succeeds]
  split
  · exact fun ended => absurd ended (send_ne_ended _ _ _ _ _)
  · nofun

theorem channelClosed_succeeds {driver : RekeyDriver} {init : RekeyInit} {attempt deadline : Nat}
    {reasm : Reassembler} (stage : driver.stage = .waiting init attempt reasm deadline) :
    driver.channelClosed.Succeeds none := by
  simp [channelClosed, stage, Succeeds]

end RekeyDriver

namespace RekeyLoop

section Definitions

variable (prims : Primitives) (config : InboundConfig)

/-- A loop that starts on the sessions of a manager. -/
def start (manager : SessionManager Session) (now : Nat) : RekeyLoop :=
  { manager, now, rekeying := false, place := .head, attempt := none, installs := [], started := 0
    finished := 0 }

/-- What follows a poll: a session to install, an error for the result arm, or another wait. -/
def polled (loop : RekeyLoop) (driver : RekeyDriver) (established : Option Session) : RekeyLoop :=
  match established, driver.stage with
  | some session, _ => { loop with attempt := some (.running driver), place := .installing (.start session) }
  | none, .ended (.ok ()) => { loop with attempt := none, place := .releasing }
  | none, .ended (.error _) => { loop with attempt := none, place := .aborting }
  | none, _ => { loop with attempt := some (.running driver) }

/-- The driver of a rekey that was polled and has not ended. -/
def driver? (loop : RekeyLoop) : Option RekeyDriver :=
  match loop.place, loop.attempt with
  | .head, some (.running driver) => some driver
  | _, _ => none

/-- The next step of the arm the loop is in; `none` at its head. -/
def advance (loop : RekeyLoop) (sink : HandshakeSink) (newId : UInt32) : Option RekeyLoop :=
  match loop.place with
  | .head => none
  | .asking (.done true) => some { loop with place := .swapping }
  | .asking (.done false) => some { loop with place := .head }
  | .asking stage =>
    (stage.advance loop.manager loop.manager.current.txCounter loop.now).map fun (after, manager) =>
      { loop with manager, place := .asking after }
  | .swapping =>
    if loop.rekeying then some { loop with place := .head }
    else some { loop with rekeying := true, place := .starting }
  | .starting => some { loop with
      attempt := some (.unpolled sink newId)
      place := .head
      started := loop.started + 1 }
  | .installing .done => some { loop with attempt := none, place := .releasing }
  | .installing stage =>
    (stage.advance loop.manager).map fun (after, manager) =>
      { loop with manager, place := .installing after }
  | .aborting => some { loop with manager := loop.manager.abortRekey, place := .releasing }
  | .releasing => some { loop with rekeying := false, place := .head, finished := loop.finished + 1 }

/-- One step; `none` when it is not enabled. -/
def step (loop : RekeyLoop) : LoopEvent → Option RekeyLoop
  | .elapse ms => some { loop with now := loop.now + ms }
  | .tick =>
    match loop.place with
    | .head => some { loop with place := .asking .start }
    | _ => none
  | .advance sink newId => loop.advance sink newId
  | .begin start envelope =>
    match loop.place, loop.attempt with
    | .head, some (.unpolled sink newId) =>
      some (loop.polled (.begin prims config sink newId loop.now start envelope) none)
    | _, _ => none
  | .sends success => loop.driver?.bind fun driver =>
    match driver.nextDatagram with
    | none => none
    | some _ =>
      if success then some (loop.polled (driver.sent loop.now).1 (driver.sent loop.now).2)
      else some (loop.polled driver.sendFailed none)
  | .reads raw coins => loop.driver?.bind fun driver =>
    match driver.stage with
    | .waiting _ _ _ _ =>
      some (loop.polled (driver.read prims config loop.now raw coins).1
        (driver.read prims config loop.now raw coins).2)
    | _ => none
  | .timesOut => loop.driver?.bind fun driver =>
    match driver.stage with
    | .waiting _ _ _ deadline =>
      if loop.now < deadline then none else some (loop.polled (driver.timeOut loop.now) none)
    | _ => none
  | .channelClosed => loop.driver?.bind fun driver =>
    match driver.stage with
    | .waiting _ _ _ _ => some (loop.polled driver.channelClosed none)
    | _ => none
  | .install session => some { loop with installs := loop.installs ++ [.start session] }
  | .installStep index => loop.installs[index]?.bind fun stage =>
    (stage.advance loop.manager).map fun (after, manager) =>
      { loop with manager, installs := loop.installs.set index after }
  | .reserve n => some { loop with manager := { loop.manager with
      current := (loop.manager.current.reserveCounters n).2 } }

end Definitions

/-! ### The two flags -/

/-- A call of `needs_rekey` that has not won the exchange. -/
def Unclaimed : NeedsRekeyStage → Prop
  | .start | .overThreshold | .due | .done false => True
  | .won | .stamping _ | .done true => False

/-- **What holds of the flags in each place.** A rekey in flight has the loop's flag; without one, neither
flag is held but by the arm that is taking or releasing it. -/
def Flags (loop : RekeyLoop) : Prop :=
  match loop.place with
  | .head => loop.rekeying = loop.attempt.isSome ∧ (loop.attempt = none → loop.manager.rekeyInProgress = false)
  | .asking stage => loop.rekeying = loop.attempt.isSome ∧
      (loop.attempt = none → Unclaimed stage → loop.manager.rekeyInProgress = false)
  | .swapping => loop.rekeying = loop.attempt.isSome
  | .starting => loop.rekeying = true ∧ loop.attempt = none
  | .installing stage => loop.rekeying = true ∧ loop.attempt.isSome ∧
      (stage = .done → loop.manager.rekeyInProgress = false)
  | .aborting => loop.rekeying = true ∧ loop.attempt = none
  | .releasing => loop.rekeying = true ∧ loop.attempt = none ∧ loop.manager.rekeyInProgress = false

/-- The rekey whose result the loop is taking, or whose future it holds. -/
def inFlight (loop : RekeyLoop) : Nat :=
  match loop.place with
  | .aborting | .releasing => 1
  | _ => if loop.attempt.isSome then 1 else 0

/-- **The invariant**: the flags, and that every rekey that was started is in flight or its result was taken. -/
structure Claimed (loop : RekeyLoop) : Prop where
  flags : loop.Flags
  counted : loop.started = loop.finished + loop.inFlight

variable {prims : Primitives} {config : InboundConfig} {loop after : RekeyLoop}

theorem claimed_start {manager : SessionManager Session} (free : manager.rekeyInProgress = false) (now : Nat) :
    Claimed (start manager now) where
  flags := ⟨rfl, fun _ => free⟩
  counted := rfl

/-- Other tasks only ever clear the claim. -/
theorem Claimed.keep (claimed : Claimed loop) {manager : SessionManager Session} {now : Nat}
    {installs : List (InstallStage Session)}
    (clears : loop.manager.rekeyInProgress = false → manager.rekeyInProgress = false) :
    Claimed { loop with manager, now, installs } := by
  obtain ⟨flags, counted⟩ := claimed
  refine ⟨?_, counted⟩
  unfold Flags at flags ⊢
  cases place : loop.place with
  | head =>
    rw [place] at flags
    exact ⟨flags.1, fun none => clears (flags.2 none)⟩
  | asking stage =>
    rw [place] at flags
    exact ⟨flags.1, fun none early => clears (flags.2 none early)⟩
  | installing stage =>
    rw [place] at flags
    exact ⟨flags.1, flags.2.1, fun done => clears (flags.2.2 done)⟩
  | releasing =>
    rw [place] at flags
    exact ⟨flags.1, flags.2.1, clears flags.2.2⟩
  | swapping | starting | aborting =>
    rw [place] at flags
    exact flags

/-- **A poll keeps the claim**: the loop's flag stays until the result arm. -/
theorem Claimed.polled (claimed : Claimed loop) (head : loop.place = .head) (inFlight : loop.attempt.isSome)
    {driver : RekeyDriver} {established : Option Session} (succeeds : driver.Succeeds established) :
    Claimed (loop.polled driver established) := by
  obtain ⟨flags, counted⟩ := claimed
  have rekeying : loop.rekeying = true := by
    rw [Flags, head] at flags
    exact flags.1.trans inFlight
  rw [RekeyLoop.inFlight, head, if_pos inFlight] at counted
  unfold RekeyLoop.polled
  split
  · exact ⟨⟨rekeying, rfl, nofun⟩, counted⟩
  · rename_i ended
    exact absurd rfl (succeeds ended)
  · exact ⟨⟨rekeying, rfl⟩, counted⟩
  · refine ⟨?_, ?_⟩
    · simp [Flags, head, rekeying]
    · simpa [RekeyLoop.inFlight, head] using counted

/-- **A step of `needs_rekey`**: the flag is only raised by the exchange, past which the call has claimed. -/
theorem Claimed.asks (claimed : Claimed loop) {stage next : NeedsRekeyStage} {manager : SessionManager Session}
    {counter now : Nat} (place : loop.place = .asking stage)
    (moves : stage.advance loop.manager counter now = some (next, manager)) :
    Claimed { loop with manager, place := .asking next } := by
  obtain ⟨flags, counted⟩ := claimed
  simp only [Flags, place] at flags
  simp only [inFlight, place] at counted
  refine ⟨⟨flags.1, fun none early => ?_⟩, counted⟩
  rcases NeedsRekeyStage.rekeyInProgress_of_advance moves with ⟨-, won, -⟩ | ⟨-, -, same⟩
  · rw [won] at early
    exact early.elim
  · refine same.trans (flags.2 none ?_)
    cases stage with
    | start | overThreshold | due => trivial
    | won | stamping _ =>
      cases moves
      exact early
    | done _ => cases moves

/-- **The second half of the test**: the loop's flag is taken, or was taken by a rekey in flight. -/
theorem Claimed.swaps (claimed : Claimed loop) (place : loop.place = .swapping)
    (taken : (if loop.rekeying then some { loop with place := .head }
      else some { loop with rekeying := true, place := .starting }) = some after) : Claimed after := by
  obtain ⟨flags, counted⟩ := claimed
  simp only [Flags, place] at flags
  simp only [inFlight, place] at counted
  split at taken
  · rename_i busy
    cases taken
    refine ⟨⟨flags, fun none => ?_⟩, counted⟩
    rw [none, busy] at flags
    cases flags
  · rename_i free
    cases taken
    have none : loop.attempt = none := by
      cases attempt : loop.attempt with
      | none => rfl
      | some running =>
        rw [attempt] at flags
        exact absurd flags free
    refine ⟨⟨rfl, none⟩, ?_⟩
    simpa [RekeyLoop.inFlight, none] using counted

/-- **A step of the driver's install**, the last of which clears the claim. -/
theorem Claimed.installs (claimed : Claimed loop) {stage next : InstallStage Session}
    {manager : SessionManager Session} (place : loop.place = .installing stage)
    (moves : stage.advance loop.manager = some (next, manager)) :
    Claimed { loop with manager, place := .installing next } := by
  obtain ⟨flags, counted⟩ := claimed
  simp only [Flags, place] at flags
  simp only [inFlight, place] at counted
  refine ⟨⟨flags.1, flags.2.1, fun done => ?_⟩, counted⟩
  cases stage with
  | start _ | swapped _ =>
    cases moves
    cases done
  | kept =>
    cases moves
    rfl
  | done => cases moves

/-- **One step of an arm keeps the claim.** -/
theorem Claimed.advance (claimed : Claimed loop) {sink : HandshakeSink} {newId : UInt32}
    (taken : loop.advance sink newId = some after) : Claimed after := by
  have flags := claimed.flags
  have counted := claimed.counted
  unfold Flags at flags
  unfold RekeyLoop.inFlight at counted
  unfold RekeyLoop.advance at taken
  split at taken
  · cases taken
  -- `needs_rekey` returned.
  · rename_i place
    cases taken
    simp only [place] at flags counted
    exact ⟨flags.1, counted⟩
  · rename_i place
    cases taken
    simp only [place] at flags counted
    exact ⟨⟨flags.1, fun none => flags.2 none trivial⟩, counted⟩
  · rename_i place
    obtain ⟨⟨next, manager⟩, moves, rfl⟩ := Option.map_eq_some_iff.mp taken
    exact claimed.asks place moves
  · rename_i place
    exact claimed.swaps place taken
  -- The rekey is in flight from here on.
  · rename_i place
    cases taken
    simp only [place] at flags counted
    refine ⟨⟨flags.1, nofun⟩, ?_⟩
    simpa [RekeyLoop.inFlight, flags.2] using counted
  -- The driver installed its session.
  · rename_i place
    cases taken
    simp only [place] at flags counted
    refine ⟨⟨flags.1, rfl, flags.2.2 trivial⟩, ?_⟩
    simpa [RekeyLoop.inFlight, flags.2.1] using counted
  · rename_i place
    obtain ⟨⟨next, manager⟩, moves, rfl⟩ := Option.map_eq_some_iff.mp taken
    exact claimed.installs place moves
  -- The result arm.
  · rename_i place
    cases taken
    simp only [place] at flags counted
    exact ⟨⟨flags.1, flags.2, rfl⟩, counted⟩
  · rename_i place
    cases taken
    simp only [place] at flags counted
    refine ⟨⟨?_, fun _ => flags.2.2⟩, ?_⟩
    · simp [flags.2.1]
    · simpa [RekeyLoop.inFlight, flags.2.1] using counted

/-- A driver that is polled is in flight, at the head of the loop. -/
theorem driver?_eq {driver : RekeyDriver} (found : loop.driver? = some driver) :
    loop.place = .head ∧ loop.attempt = some (.running driver) := by
  unfold driver? at found
  split at found
  · rename_i place attempt
    cases found
    exact ⟨place, attempt⟩
  · cases found

/-- **One step keeps the claim.** -/
theorem claimed_step {event : LoopEvent} (claimed : Claimed loop)
    (taken : loop.step prims config event = some after) : Claimed after := by
  cases event with
  | elapse ms => cases taken; exact claimed.keep id
  | install session => cases taken; exact claimed.keep id
  | reserve n => cases taken; exact claimed.keep id
  | installStep index =>
    obtain ⟨stage, found, moved⟩ := Option.bind_eq_some_iff.mp taken
    obtain ⟨⟨next, manager⟩, moves, rfl⟩ := Option.map_eq_some_iff.mp moved
    refine claimed.keep fun free => ?_
    cases stage <;> cases moves
    · exact free
    · exact free
    · rfl
  | tick =>
    simp only [step] at taken
    split at taken
    · rename_i head
      cases taken
      obtain ⟨flags, counted⟩ := claimed
      simp only [Flags, head] at flags
      simp only [inFlight, head] at counted
      exact ⟨⟨flags.1, fun none _ => flags.2 none⟩, counted⟩
    · cases taken
  | advance sink newId => exact claimed.advance taken
  | begin start envelope =>
    simp only [step] at taken
    split at taken
    · rename_i head attempt
      cases taken
      exact claimed.polled head (by simp [attempt]) (RekeyDriver.begin_succeeds prims config _ _ _ start envelope)
    · cases taken
  | sends success =>
    obtain ⟨driver, found, moved⟩ := Option.bind_eq_some_iff.mp taken
    obtain ⟨head, attempt⟩ := driver?_eq found
    split at moved
    · cases moved
    · rename_i next
      split at moved
      · cases moved
        exact claimed.polled head (by simp [attempt]) (driver.sent_succeeds _ (by simp [next]))
      · cases moved
        exact claimed.polled head (by simp [attempt]) nofun
  | reads raw coins =>
    obtain ⟨driver, found, moved⟩ := Option.bind_eq_some_iff.mp taken
    obtain ⟨head, attempt⟩ := driver?_eq found
    split at moved
    · rename_i waiting
      cases moved
      exact claimed.polled head (by simp [attempt]) (driver.read_succeeds prims config _ _ _ waiting)
    · cases moved
  | timesOut =>
    obtain ⟨driver, found, moved⟩ := Option.bind_eq_some_iff.mp taken
    obtain ⟨head, attempt⟩ := driver?_eq found
    split at moved
    · rename_i waiting
      split at moved
      · cases moved
      · cases moved
        exact claimed.polled head (by simp [attempt]) (driver.timeOut_succeeds _ waiting)
    · cases moved
  | channelClosed =>
    obtain ⟨driver, found, moved⟩ := Option.bind_eq_some_iff.mp taken
    obtain ⟨head, attempt⟩ := driver?_eq found
    split at moved
    · rename_i waiting
      cases moved
      exact claimed.polled head (by simp [attempt]) (driver.channelClosed_succeeds waiting)
    · cases moved

/-- The steps of a tick that starts a rekey. -/
def startingTick (sink : HandshakeSink) (newId : UInt32) : List LoopEvent :=
  .tick :: List.replicate 8 (.advance sink newId)

/-- **A tick past the threshold and the interval starts a rekey** when neither flag is held. -/
theorem startingTick_starts (prims : Primitives) (config : InboundConfig) (head : loop.place = .head)
    (rekeying : loop.rekeying = false) (free : loop.manager.rekeyInProgress = false)
    (threshold : loop.manager.rekeyThreshold ≤ loop.manager.current.txCounter)
    (interval : loop.manager.lastRekeyAttempt + minRekeyInterval ≤ loop.now)
    (sink : HandshakeSink) (newId : UInt32) :
    execute (step prims config) loop (startingTick sink newId) = some { loop with
      manager := { loop.manager with rekeyInProgress := true, lastRekeyAttempt := loop.now }
      rekeying := true
      attempt := some (.unpolled sink newId)
      started := loop.started + 1 } := by
  have counter : ¬ loop.manager.current.txCounter < loop.manager.rekeyThreshold := Nat.not_lt.mpr threshold
  have elapsed : ¬ loop.now - loop.manager.lastRekeyAttempt < minRekeyInterval := by omega
  simp [startingTick, List.replicate, execute, step, RekeyLoop.advance, NeedsRekeyStage.advance, head, rekeying,
    free, counter, elapsed]

/-- **A rekey claim is never stuck.** In every run of ticks, polls, ends of rekeys and installs of the inbound
loop: with no rekey in flight neither flag is held at the head of the loop, and then a tick past the threshold
and the interval starts one; and at most one rekey is in flight. -/
theorem claim_never_stuck {manager : SessionManager Session} (free : manager.rekeyInProgress = false) {now : Nat}
    {events : List LoopEvent} {last : RekeyLoop}
    (run : Run (Taken (step prims config)) (start manager now) events last) :
    (last.place = .head → last.attempt = none →
      last.rekeying = false ∧ last.manager.rekeyInProgress = false ∧
      (last.manager.rekeyThreshold ≤ last.manager.current.txCounter →
        last.manager.lastRekeyAttempt + minRekeyInterval ≤ last.now → ∀ sink newId, ∃ next,
          Run (Taken (step prims config)) last (startingTick sink newId) next ∧
            next.attempt = some (.unpolled sink newId) ∧ next.started = last.started + 1)) ∧
    (last.place = .starting → last.attempt = none) ∧
    last.started = last.finished + last.inFlight ∧ last.inFlight ≤ 1 := by
  have claimed : Claimed last :=
    run.invariant Claimed (fun _ _ _ kept taken => claimed_step kept taken) (claimed_start free now)
  obtain ⟨flags, counted⟩ := claimed
  refine ⟨fun head none => ?_, fun starting => ?_, counted, ?_⟩
  · simp only [Flags, head, none] at flags
    refine ⟨flags.1, flags.2 trivial, fun threshold interval sink newId => ?_⟩
    exact ⟨_, run_of_execute (startingTick_starts prims config head flags.1 (flags.2 trivial) threshold interval
      sink newId), rfl, rfl⟩
  · simp only [Flags, starting] at flags
    exact flags.2
  · unfold inFlight
    split
    · exact Nat.le_refl _
    · exact Nat.le_refl _
    · split <;> simp

/-- Sessions at their threshold. -/
def sampleOver : SessionManager Session :=
  .new (.established .transparent 7 (.zero 32) true .aegis256X2 (2 ^ 48 / 4 * 3) []) 10000

/-- A failed rekey comes back to the head of the loop. -/
theorem aborting_run (prims : Primitives) (config : InboundConfig) (aborting : loop.place = .aborting)
    (sink : HandshakeSink) (newId : UInt32) :
    ∃ last, Run (Taken (step prims config)) loop [.advance sink newId, .advance sink newId] last ∧
      last.place = .head ∧ last.attempt = loop.attempt ∧ last.finished = loop.finished + 1 := by
  obtain ⟨manager, now, rekeying, place, attempt, installs, started, finished⟩ := loop
  cases aborting
  exact ⟨_, .next rfl (.next rfl (.done _)), rfl, rfl, rfl⟩

/-- A rekey whose Init cannot be sent fails. -/
theorem unpolled_fails {sink : HandshakeSink} {newId : UInt32} {coins : StartCoins} {envelope : HsObf.SealCoins}
    {init : RekeyInit} {datagrams : List Bytes} (head : loop.place = .head)
    (unpolled : loop.attempt = some (.unpolled sink newId))
    (begun : RekeyDriver.begin prims config sink newId loop.now coins envelope =
      ⟨newId, sink, init.send loop.now 1 datagrams⟩) :
    ∃ event last, Run (Taken (step prims config)) loop [.begin coins envelope, event] last ∧
      last.place = .aborting ∧ last.attempt = none ∧ last.finished = loop.finished := by
  obtain ⟨manager, now, rekeying, place, attempt, installs, started, finished⟩ := loop
  cases head
  cases unpolled
  have polls : ∀ stage, init.send now 1 datagrams = stage →
      step prims config ⟨manager, now, rekeying, .head, some (.unpolled sink newId), installs, started, finished⟩
        (.begin coins envelope) =
      some (RekeyLoop.polled ⟨manager, now, rekeying, .head, some (.unpolled sink newId), installs, started,
        finished⟩ ⟨newId, sink, stage⟩ none) := by
    rintro stage rfl
    exact congrArg (fun driver => some (RekeyLoop.polled _ driver none)) begun
  cases datagrams with
  | nil => exact ⟨.channelClosed, _, .next (polls _ rfl) (.next rfl (.done _)), rfl, rfl, rfl⟩
  | cons datagram rest => exact ⟨.sends false, _, .next (polls _ rfl) (.next rfl (.done _)), rfl, rfl, rfl⟩

/-- **A rekey whose Init cannot be sent** leaves neither flag held. -/
theorem claim_never_stuck_sample : ∃ events last,
    Run (Taken (step .transparent Inbound.sampleObfuscated)) (start sampleOver 10000) events last ∧
      last.finished = 1 ∧ last.rekeying = false ∧ last.manager.rekeyInProgress = false := by
  obtain ⟨begins, starts, head, unpolled, untaken, time⟩ : ∃ begins,
      execute (step .transparent Inbound.sampleObfuscated) (start sampleOver 10000) (startingTick .paced 9) =
        some begins ∧ begins.place = .head ∧ begins.attempt = some (.unpolled .paced 9) ∧
        begins.finished = 0 ∧ begins.now = 10000 :=
    ⟨_, startingTick_starts .transparent Inbound.sampleObfuscated rfl rfl rfl (by decide +kernel)
      (by decide +kernel) .paced 9, rfl, rfl, rfl, rfl⟩
  obtain ⟨handshake, initWire, datagrams, -, -, begun⟩ := RekeyDriver.begin_exists
    Primitives.transparent_chachaSeals
    (show Inbound.sampleObfuscated.auth.signatureLen .transparent ≤ 6923 by decide) .paced 9 10000
    Handshake.sampleStart Inbound.sampleCoins.envelope
  rw [← time] at begun
  obtain ⟨event, failed, polls, aborting, none, still⟩ := unpolled_fails head unpolled begun
  obtain ⟨last, ends, atHead, attempt, finished⟩ := aborting_run .transparent Inbound.sampleObfuscated
    aborting .paced 9
  have run := (run_of_execute starts).append (polls.append ends)
  have free := (claim_never_stuck (show sampleOver.rekeyInProgress = false from rfl) run).1 atHead
    (attempt.trans none)
  refine ⟨_, last, run, ?_, free.1, free.2.1⟩
  rw [finished, still, untaken]

end RekeyLoop

end ChameleonPQ
