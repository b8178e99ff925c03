/-
**Runs of a lone driver.**

What one handshake driver does over every sequence of datagrams, timers and socket failures, whoever
sends the datagrams.

* `Initiator.react`, `Responder.react` — one step of a driver; `Step` relates a driver to the next.
* `Excuses` — what may end a driver with an error; `Tolerates` — a step ends it with an error only so,
  and skips a datagram that completes no message.
* `garbage_tolerance` — after every run, a step is tolerated exactly when it is not a bad clear datagram
  from the peer and completes no message of it that is neither a challenge nor a Response;
  `garbage_aborts` is one octet that ends the initiator.
-/

import ChameleonPQ.Library.Runs
import ChameleonPQ.Net.Drivers

namespace ChameleonPQ

open Library Library.Runs

/-- The test by which the initiator tells a challenge from a Response. -/
def IsChallenge (message : Bytes) : Prop :=
  message.length = handshakeMsgLen ∧
    (message.drop 1).headD 0 = HandshakeType.cookieChallenge.asU8

instance (message : Bytes) : Decidable (IsChallenge message) := inferInstanceAs (Decidable (_ ∧ _))

/-- The message gets to the cryptography of `finalize`: it decodes, and is a Response. -/
def IsResponse (message : Bytes) : Prop :=
  ∃ received, HandshakeMessage.decode message = .ok received ∧ received.msgType = .response

/-- `finalize` rejects any other message before it. -/
theorem finalize_of_not_response (prims : Primitives) (handshake : Handshake) (auth : Authenticator)
    {message : Bytes} (other : ¬ IsResponse message) (coins : ConfirmCoins) :
    ∃ e, handshake.finalize prims message auth coins = .error e := by
  unfold Handshake.finalize
  split
  · split
    · exact ⟨_, rfl⟩
    · rename_i received decoded
      rw [if_pos fun response => other ⟨received, decoded, response⟩]
      exact ⟨_, rfl⟩
  · exact ⟨_, rfl⟩

/-! ### The initiator -/

/-- What happens to a waiting initiator. -/
inductive InitiatorEvent where
  | datagram (now : Nat) (src : SocketAddr) (raw : Bytes) (coins : DriverCoins)
  | timer (now : Nat)
  | socketFails

namespace Initiator

section Definitions

variable (prims : Primitives) (config : DriverConfig) (peer : SocketAddr)

/-- One step of the driver, and the datagrams it sends. -/
def react (driver : Initiator) : InitiatorEvent → Initiator × List Bytes
  | .datagram now src raw coins => driver.receive prims config peer now src raw coins
  | .timer now => driver.timeOut now
  | .socketFails => (driver.socketError, [])

def Step (before : Initiator) (event : InitiatorEvent) (after : Initiator) : Prop :=
  (before.react prims config peer event).1 = after

/-- What may end the driver with an error: the socket, the last attempt, or a Response that fails the
cryptography of `finalize`. -/
def Excuses (driver : Initiator) : InitiatorEvent → Prop
  | .socketFails => True
  | .timer now => ∃ attempt reasm deadline, driver.phase = .waiting attempt reasm deadline ∧
      deadline ≤ now ∧ hsMaxAttempts ≤ attempt
  | .datagram now src raw coins => ∃ attempt reasm deadline message,
      driver.phase = .waiting attempt reasm deadline ∧ src = peer ∧
      completed prims reasm now raw config.hsObf = some message ∧
      (IsChallenge message ∧ hsMaxAttempts ≤ attempt ∨
        IsResponse message ∧
          ∃ e, driver.handshake.finalize prims message config.auth coins.confirm = .error e)

/-- **A tolerated step**: an error has an excuse, and a datagram that is foreign or completes no message
is skipped. -/
def Tolerates (driver : Initiator) (event : InitiatorEvent) : Prop :=
  (∀ e, (∀ result, driver.phase ≠ .finished result) →
    (driver.react prims config peer event).1.phase = .finished (.error e) →
      driver.Excuses prims config peer event) ∧
  ∀ now src raw coins attempt reasm deadline, event = .datagram now src raw coins →
    driver.phase = .waiting attempt reasm deadline →
    (src ≠ peer ∨ completed prims reasm now raw config.hsObf = none) →
      (driver.react prims config peer event).2 = [] ∧ ∃ reasm',
        (driver.react prims config peer event).1.phase = .waiting attempt reasm' deadline

/-- In the clear, a datagram from the peer is a frame of a known type, and its fragment fits; and the
message it completes, in the clear or not, is a challenge or a Response. -/
def Meets (driver : Initiator) : InitiatorEvent → Prop
  | .datagram now src raw _ => ∀ attempt reasm deadline, src = peer →
      driver.phase = .waiting attempt reasm deadline → (config.hsObf = none → TakesClear reasm raw) ∧
        ∀ message, completed prims reasm now raw config.hsObf = some message →
          IsChallenge message ∨ IsResponse message
  | _ => True

/-- The own Init was sent and decodes, and the reassembler is sound. -/
structure Ready (driver : Initiator) : Prop where
  handshake : ∃ ephX mlkemSk init,
    driver.handshake = .sentInit ephX mlkemSk (Handshake.initTranscript prims config.auth init)
  wire : ∃ message, HandshakeMessage.decode driver.initWire = .ok message
  reasm : ∀ attempt reasm deadline, driver.phase = .waiting attempt reasm deadline → reasm.Sound

end Definitions

variable {prims : Primitives} {config : DriverConfig} {peer src : SocketAddr} {driver : Initiator}
  {now : Nat} {raw : Bytes} {coins : DriverCoins}

/-! #### The invariant -/

theorem Ready.finish (ready : driver.Ready prims config) (result : Result Session) :
    (driver.finish result).Ready prims config :=
  ⟨ready.handshake, ready.wire, fun _ _ _ waiting => nomatch waiting⟩

theorem Ready.nextAttempt (ready : driver.Ready prims config) (now attempt : Nat) (datagrams : List Bytes) :
    (driver.nextAttempt now attempt datagrams).1.Ready prims config := by
  unfold Initiator.nextAttempt
  split
  · refine ⟨ready.handshake, ready.wire, fun attempt' reasm deadline waiting => ?_⟩
    obtain ⟨-, rfl, -⟩ := InitiatorPhase.waiting.inj waiting
    exact Reassembler.sound_new
  · exact ⟨ready.handshake, ready.wire, fun _ _ _ waiting => nomatch waiting⟩

theorem Ready.conclude (ready : driver.Ready prims config) (respWire : Bytes) :
    (driver.conclude prims config respWire coins).1.Ready prims config := by
  unfold Initiator.conclude
  split
  · exact ready.finish _
  · split
    · exact ready.finish _
    · exact ready.finish _
  · exact ready.finish _

theorem Ready.handle (ready : driver.Ready prims config) (attempt : Nat) (message : Bytes) :
    (driver.handle prims config now attempt message coins).1.Ready prims config := by
  unfold Initiator.handle
  split
  · split
    · exact ready.nextAttempt _ _ _
    · split
      · exact ready.finish _
      · split
        · exact ready.finish _
        · exact ready.nextAttempt _ _ _
  · exact ready.conclude _

/-- **Every step keeps the driver ready.** -/
theorem Ready.react (ready : driver.Ready prims config) (event : InitiatorEvent) :
    (driver.react prims config peer event).1.Ready prims config := by
  cases event with
  | datagram now src raw coins =>
    show (driver.receive prims config peer now src raw coins).1.Ready prims config
    unfold Initiator.receive
    split
    · exact ready
    rename_i attempt reasm deadline waiting
    split
    · exact ready
    obtain ⟨kept, -⟩ := (ready.reasm _ _ _ waiting).pushHandshake prims
      config.hsObf now raw
    split
    · exact ready.finish _
    · rename_i after pushed
      refine ⟨ready.handshake, ready.wire, fun attempt' reasm' deadline' phase => ?_⟩
      obtain ⟨-, rfl, -⟩ := InitiatorPhase.waiting.inj phase
      rw [pushed] at kept
      exact kept
    · exact ready.handle _ _
  | timer now =>
    show (driver.timeOut now).1.Ready prims config
    unfold Initiator.timeOut
    split
    · exact ready
    · split
      · exact ready
      · exact ready.nextAttempt _ _ _
  | socketFails =>
    show driver.socketError.Ready prims config
    unfold Initiator.socketError
    split
    · exact ready
    · exact ready.finish _

theorem ready_begin {start : StartCoins} {envelope : HsObf.SealCoins} {sent : List Bytes}
    (begun : Initiator.begin prims config now start envelope = .ok (driver, sent)) :
    driver.Ready prims config := by
  unfold Initiator.begin at begun
  split at begun
  · cases begun
  rename_i handshake initWire started
  split at begun
  · cases begun
  obtain ⟨rfl, -⟩ := Prod.mk.inj (Except.ok.inj begun)
  obtain ⟨encoded, sent⟩ := Handshake.start_eq_ok_iff.mp started
  refine ⟨⟨_, _, _, sent⟩, ⟨_, HandshakeMessage.decode_encode rfl encoded⟩, fun attempt reasm deadline waiting => ?_⟩
  obtain ⟨-, rfl, -⟩ := InitiatorPhase.waiting.inj waiting
  exact Reassembler.sound_new

/-! #### One step -/

/-- The driver gives up only after the last attempt. -/
theorem nextAttempt_error {attempt : Nat} {datagrams : List Bytes} {e : ChameleonError}
    (failed : (driver.nextAttempt now attempt datagrams).1.phase = .finished (.error e)) :
    hsMaxAttempts ≤ attempt := by
  unfold nextAttempt at failed
  split at failed
  · cases failed
  · rename_i last
    exact Nat.not_lt.mp last

/-- **What a complete message may end the driver with.** -/
theorem handle_error (seals : prims.ChachaSeals) (ready : driver.Ready prims config) {attempt : Nat}
    {message : Bytes} {e : ChameleonError}
    (failed : (driver.handle prims config now attempt message coins).1.phase = .finished (.error e)) :
    IsChallenge message ∧ hsMaxAttempts ≤ attempt ∨ ¬ IsChallenge message ∧
      ∃ e, driver.handshake.finalize prims message config.auth coins.confirm = .error e := by
  unfold handle at failed
  split at failed
  · rename_i challenge
    refine .inl ⟨challenge, ?_⟩
    split at failed
    · exact nextAttempt_error failed
    rename_i received decoded
    obtain ⟨init, own⟩ := ready.wire
    obtain ⟨wire, echoed, long⟩ := Handshake.echoCookie_of_decode own decoded coins.padNoise
    obtain ⟨datagrams, built⟩ := build_exists seals config.sessionId config.hsObf coins.envelope long
    simp only [echoed, built] at failed
    exact nextAttempt_error failed
  · rename_i response
    refine .inr ⟨response, ?_⟩
    obtain ⟨ephX, mlkemSk, init, sent⟩ := ready.handshake
    unfold conclude at failed
    rw [sent] at failed ⊢
    split at failed
    · rename_i e' rejected
      exact ⟨e', rejected⟩
    · rename_i session confirmWire finalized
      obtain ⟨view, -, -, -, encoded, -⟩ := Handshake.finalize_eq_ok_iff.mp finalized
      obtain ⟨datagrams, built⟩ := build_exists seals config.sessionId config.hsObf coins.envelope
        (HandshakeMessage.length_of_encode encoded)
      simp only [built] at failed
      cases failed
    · rename_i outcome established finalized
      obtain ⟨state, confirmWire⟩ := outcome
      obtain ⟨view, -, -, -, -, rfl⟩ := Handshake.finalize_eq_ok_iff.mp finalized
      exact absurd rfl (established _ _)

/-- A datagram from the peer, by what it does to the reassembler. -/
theorem receive_waiting {attempt deadline : Nat} {reasm : Reassembler}
    (waiting : driver.phase = .waiting attempt reasm deadline) :
    driver.receive prims config peer now peer raw coins =
      match pushHandshake prims reasm now raw config.hsObf with
      | (.error e, _) => (driver.finish (.error e), [])
      | (.ok none, reasm) => ({ driver with phase := .waiting attempt reasm deadline }, [])
      | (.ok (some message), _) => driver.handle prims config now attempt message coins := by
  unfold receive
  rw [waiting]
  exact if_neg (not_not.mpr rfl)

/-- A message that is neither a challenge nor a Response ends the driver before any cryptography. -/
theorem handle_other {attempt : Nat} {message : Bytes} (notChallenge : ¬ IsChallenge message)
    (other : ¬ IsResponse message) :
    ∃ e, driver.handle prims config now attempt message coins = (driver.finish (.error e), []) := by
  obtain ⟨e, rejected⟩ := finalize_of_not_response prims driver.handshake config.auth other coins.confirm
  refine ⟨e, ?_⟩
  unfold IsChallenge at notChallenge
  rw [handle, if_neg notChallenge, conclude, rejected]

/-- A datagram from the peer is tolerated unless it fails to be taken in, or completes a message of no
use. -/
theorem tolerates_fromPeer (seals : prims.ChachaSeals) (ready : driver.Ready prims config)
    {attempt deadline : Nat} {reasm : Reassembler}
    (waiting : driver.phase = .waiting attempt reasm deadline) :
    driver.Tolerates prims config peer (.datagram now peer raw coins) ↔
      (¬ ∃ e, (pushHandshake prims reasm now raw config.hsObf).1 = .error e) ∧
        ∀ message, completed prims reasm now raw config.hsObf = some message →
          IsChallenge message ∨ IsResponse message := by
  have react : driver.react prims config peer (.datagram now peer raw coins) =
      driver.receive prims config peer now peer raw coins := rfl
  have running : ∀ result, driver.phase ≠ .finished result := by
    intro result finished
    rw [waiting] at finished
    cases finished
  have noError : ∀ after : Option Bytes, ¬ ∃ e, (.ok after : Result (Option Bytes)) = .error e := by
    rintro after ⟨e, impossible⟩
    cases impossible
  rw [receive_waiting waiting] at react
  rcases pushed : pushHandshake prims reasm now raw config.hsObf with ⟨e | _ | message, after⟩
  · -- the driver ends, and no message has been completed
    rw [pushed] at react
    refine iff_of_false (fun tolerates => ?_) fun fine => fine.1 ⟨e, rfl⟩
    obtain ⟨attempt', reasm', deadline', message, phase, -, whole, -⟩ :=
      tolerates.1 e running (congrArg (fun outcome => outcome.1.phase) react)
    obtain ⟨-, rfl, -⟩ := InitiatorPhase.waiting.inj (waiting.symm.trans phase)
    rw [completed, pushed] at whole
    cases whole
  · rw [pushed] at react
    have partly : completed prims reasm now raw config.hsObf = none := by
      rw [completed, pushed]
    refine iff_of_true ⟨fun e _ failed => ?_, fun now' src' raw' coins' attempt' reasm' deadline'
      same phase _ => ?_⟩ ⟨noError _, fun message whole => ?_⟩
    · rw [react] at failed
      cases failed
    · obtain ⟨rfl, -, rfl⟩ := InitiatorPhase.waiting.inj (waiting.symm.trans phase)
      rw [react]
      exact ⟨rfl, after, rfl⟩
    · cases partly.symm.trans whole
  · rw [pushed] at react
    have whole : completed prims reasm now raw config.hsObf = some message := by
      rw [completed, pushed]
    constructor
    · rintro ⟨excused, -⟩
      refine ⟨noError _, fun other same => ?_⟩
      obtain rfl := Option.some.inj (whole.symm.trans same)
      by_contra useless
      obtain ⟨notChallenge, notResponse⟩ := not_or.mp useless
      obtain ⟨e, ends⟩ := @handle_other prims config driver now coins attempt message notChallenge notResponse
      obtain ⟨_, _, _, message', phase, -, whole', excuse⟩ :=
        excused e running (congrArg (fun outcome => outcome.1.phase) (react.trans ends))
      obtain ⟨-, rfl, -⟩ := InitiatorPhase.waiting.inj (waiting.symm.trans phase)
      obtain rfl := Option.some.inj (whole.symm.trans whole')
      rcases excuse with ⟨challenge, -⟩ | ⟨response, -⟩
      · exact notChallenge challenge
      · exact notResponse response
    · rintro ⟨-, useful⟩
      refine ⟨fun e _ failed => ?_, fun now' src' raw' coins' attempt' reasm' deadline'
        same phase skipped => ?_⟩
      · rw [react] at failed
        refine ⟨attempt, reasm, deadline, message, waiting, rfl, whole, ?_⟩
        rcases handle_error seals ready failed with last | ⟨notChallenge, rejected⟩
        · exact .inl last
        · exact .inr ⟨(useful message whole).resolve_left notChallenge, rejected⟩
      · obtain ⟨rfl, rfl, rfl, rfl⟩ := InitiatorEvent.datagram.inj same
        obtain ⟨rfl, rfl, rfl⟩ := InitiatorPhase.waiting.inj (waiting.symm.trans phase)
        rcases skipped with foreign | none
        · exact absurd rfl foreign
        · rw [whole] at none
          cases none

/-- **A step of the initiator is tolerated exactly when it meets the condition.** -/
theorem tolerates_iff (seals : prims.ChachaSeals) (ready : driver.Ready prims config)
    (event : InitiatorEvent) :
    driver.Tolerates prims config peer event ↔ driver.Meets prims config peer event := by
  cases event with
  | datagram now src raw coins =>
    by_cases takes : src = peer ∧ ∃ attempt reasm deadline, driver.phase = .waiting attempt reasm deadline
    · obtain ⟨rfl, attempt, reasm, deadline, waiting⟩ := takes
      rw [tolerates_fromPeer seals ready waiting,
        ((ready.reasm _ _ _ waiting).pushHandshake prims config.hsObf now raw).2]
      constructor
      · rintro ⟨fine, useful⟩ attempt' reasm' deadline' _ phase
        obtain ⟨-, rfl, -⟩ := InitiatorPhase.waiting.inj (waiting.symm.trans phase)
        exact ⟨fun clear => not_not.mp fun refused => fine ⟨clear, refused⟩, useful⟩
      · intro meets
        obtain ⟨takes, useful⟩ := meets attempt reasm deadline rfl waiting
        exact ⟨fun ⟨clear, refused⟩ => refused (takes clear), useful⟩
    · have ignored : driver.react prims config peer (.datagram now src raw coins) = (driver, []) := by
        show driver.receive prims config peer now src raw coins = _
        unfold receive
        split
        · rfl
        · rename_i attempt reasm deadline waiting
          exact if_pos fun same => takes ⟨same, attempt, reasm, deadline, waiting⟩
      refine iff_of_true ⟨fun e running failed => ?_, fun now' src' raw' coins' attempt reasm deadline
        same phase _ => ?_⟩ fun attempt reasm deadline same phase => ?_
      · rw [ignored] at failed
        exact absurd failed (running _)
      · rw [ignored]
        exact ⟨rfl, reasm, phase⟩
      · exact absurd ⟨same, attempt, reasm, deadline, phase⟩ takes
  | timer now =>
    refine iff_of_true ⟨fun e running failed => ?_, fun _ _ _ _ _ _ _ same => nomatch same⟩ trivial
    change (driver.timeOut now).1.phase = _ at failed
    unfold timeOut at failed
    split at failed
    · exact absurd failed (running _)
    rename_i attempt reasm deadline waiting
    split at failed
    · exact absurd failed (running _)
    · rename_i late
      exact ⟨attempt, reasm, deadline, waiting, Nat.not_lt.mp late, nextAttempt_error failed⟩
  | socketFails =>
    exact iff_of_true ⟨fun _ _ _ => trivial, fun _ _ _ _ _ _ _ same => nomatch same⟩ trivial

end Initiator

/-! ### The responder -/

/-- What happens to a responder. -/
inductive ResponderEvent where
  | datagram (now : Nat) (src : SocketAddr) (raw : Bytes) (coins : DriverCoins)
  | timer (now : Nat)
  | prune (now : Nat)
  | socketFails

namespace Responder

section Definitions

variable (prims : Primitives) (config : DriverConfig)

/-- One step of the driver, and what it does beside. -/
def react (driver : Responder) : ResponderEvent → Responder × ResponderOutput
  | .datagram now src raw coins => driver.receive prims config now src raw coins
  | .timer now => (driver.timeOut now, .quiet)
  | .prune now => (driver.prune now, .quiet)
  | .socketFails => (driver.socketError, .quiet)

def Step (before : Responder) (event : ResponderEvent) (after : Responder) : Prop :=
  (before.react prims config event).1 = after

/-- What may end the driver with an error: a message that fails only makes it listen again. -/
def Excuses : ResponderEvent → Prop
  | .socketFails => True
  | _ => False

/-- **A tolerated step**: an error has an excuse, and a datagram that is foreign or completes no message
is skipped. -/
def Tolerates (driver : Responder) (event : ResponderEvent) : Prop :=
  (∀ e, (∀ result, driver.phase ≠ .finished result) →
    (driver.react prims config event).1.phase = .finished (.error e) → Excuses event) ∧
  ∀ now src raw coins, event = .datagram now src raw coins →
    (∀ reasm, driver.phase = .listening reasm → completed prims reasm now raw config.hsObf = none →
      (driver.react prims config event).2 = .quiet ∧
        ∃ reasm', (driver.react prims config event).1.phase = .listening reasm') ∧
    ∀ handshake peer reasm deadline, driver.phase = .confirming handshake peer reasm deadline →
      (src ≠ peer ∨ completed prims reasm now raw config.hsObf = none) →
      (driver.react prims config event).2 = .quiet ∧ ∃ reasm',
        (driver.react prims config event).1.phase = .confirming handshake peer reasm' deadline

/-- In the clear, a datagram from the peer whose Confirm is awaited is a frame of a known type, and its
fragment fits. -/
def Meets (driver : Responder) : ResponderEvent → Prop
  | .datagram _ src raw _ => ∀ handshake reasm deadline, config.hsObf = none →
      driver.phase = .confirming handshake src reasm deadline → TakesClear reasm raw
  | _ => True

end Definitions

/-- The reassembler of the phase is sound. -/
def Ready (driver : Responder) : Prop :=
  match driver.phase with
  | .listening reasm => reasm.Sound
  | .confirming _ _ reasm _ => reasm.Sound
  | .finished _ => True

variable {prims : Primitives} {config : DriverConfig} {src : SocketAddr} {driver : Responder}
  {now : Nat} {raw : Bytes} {coins : DriverCoins}

theorem ready_relisten (driver : Responder) : driver.relisten.Ready := Reassembler.sound_new

theorem ready_handleInit (initWire : Bytes) :
    (driver.handleInit prims config now src initWire coins).1.Ready := by
  unfold handleInit
  split
  · exact ready_relisten _
  split
  · exact ready_relisten _
  split
  · exact ready_relisten _
  split
  · exact ready_relisten _
  split
  · trivial
  · exact Reassembler.sound_new

theorem ready_handleConfirm (handshake : Handshake) (peer : SocketAddr) (confirmWire : Bytes) :
    (driver.handleConfirm prims config handshake peer confirmWire).Ready := by
  unfold handleConfirm
  split
  · trivial
  · exact ready_relisten _

/-- **Every step keeps the driver ready.** -/
theorem Ready.react (ready : driver.Ready) (event : ResponderEvent) :
    (driver.react prims config event).1.Ready := by
  have held := ready
  unfold Ready at held
  cases event with
  | datagram now src raw coins =>
    show (driver.receive prims config now src raw coins).1.Ready
    unfold Responder.receive
    split at held <;> rename_i phase
    · rw [phase]
      dsimp only
      obtain ⟨kept, -⟩ := held.pushHandshake prims config.hsObf now raw
      split
      · exact ready_handleInit _
      · rename_i after _ pushed
        rw [pushed] at kept
        exact kept
    · rw [phase]
      dsimp only
      obtain ⟨kept, -⟩ := held.pushHandshake prims config.hsObf now raw
      split
      · exact ready
      split
      · trivial
      · rename_i pushed
        rw [pushed] at kept
        exact kept
      · exact ready_handleConfirm _ _ _
    · rw [phase]
      exact ready
  | timer now =>
    show (driver.timeOut now).Ready
    unfold Responder.timeOut
    split at held <;> rename_i phase <;> rw [phase] <;> dsimp only
    · exact ready
    · split
      · exact ready
      · exact ready_relisten _
    · exact ready
  | prune now =>
    show (driver.prune now).Ready
    unfold Responder.prune
    split at held <;> rename_i phase <;> rw [phase] <;> dsimp only
    · exact held.pruneOld _ _
    · exact ready
    · exact ready
  | socketFails =>
    show driver.socketError.Ready
    unfold Responder.socketError
    split at held <;> rename_i phase <;> rw [phase] <;> dsimp only
    · trivial
    · trivial
    · exact ready

/-- An Init never ends the driver. -/
theorem handleInit_ne_finished (seals : prims.ChachaSeals) (initWire : Bytes)
    (result : Result (Session × SocketAddr)) :
    (driver.handleInit prims config now src initWire coins).1.phase ≠ .finished result := by
  unfold handleInit
  split
  · nofun
  split
  · nofun
  split
  · nofun
  split
  · nofun
  rename_i handshake respWire calls responded
  obtain ⟨view, -, -, encoded, -⟩ := Handshake.respond_eq_ok_iff.mp (callRespond_ok responded).1
  obtain ⟨datagrams, built⟩ := build_exists seals config.sessionId config.hsObf coins.envelope
    (HandshakeMessage.length_of_encode encoded)
  rw [built]
  nofun

/-- A Confirm never ends the driver with an error. -/
theorem handleConfirm_ne_error (handshake : Handshake) (peer : SocketAddr) (confirmWire : Bytes)
    (e : ChameleonError) :
    (driver.handleConfirm prims config handshake peer confirmWire).phase ≠ .finished (.error e) := by
  unfold handleConfirm
  split <;> nofun

/-- In phase 1 every datagram is tolerated. -/
theorem tolerates_listening (seals : prims.ChachaSeals) {reasm : Reassembler}
    (listening : driver.phase = .listening reasm) :
    driver.Tolerates prims config (.datagram now src raw coins) := by
  have react : driver.react prims config (.datagram now src raw coins) =
      driver.receive prims config now src raw coins := rfl
  unfold receive at react
  rw [listening] at react
  dsimp only at react
  rcases pushed : pushHandshake prims reasm now raw config.hsObf with ⟨e | _ | message, after⟩ <;>
    rw [pushed] at react <;> dsimp only at react
  · refine ⟨fun e' _ failed => ?_, fun now' src' raw' coins' same =>
      ⟨fun reasm' phase none => ⟨by rw [react], after, by rw [react]⟩, fun _ _ _ _ phase => ?_⟩⟩
    · rw [react] at failed
      cases failed
    · rw [listening] at phase
      cases phase
  · refine ⟨fun e' _ failed => ?_, fun now' src' raw' coins' same =>
      ⟨fun reasm' phase none => ⟨by rw [react], after, by rw [react]⟩, fun _ _ _ _ phase => ?_⟩⟩
    · rw [react] at failed
      cases failed
    · rw [listening] at phase
      cases phase
  · refine ⟨fun e' _ failed => ?_, fun now' src' raw' coins' same =>
      ⟨fun reasm' phase none => ?_, fun _ _ _ _ phase => ?_⟩⟩
    · rw [react] at failed
      exact absurd failed (handleInit_ne_finished seals message _)
    · obtain ⟨rfl, rfl, rfl, rfl⟩ := ResponderEvent.datagram.inj same
      obtain rfl := ResponderPhase.listening.inj (listening.symm.trans phase)
      rw [completed, pushed] at none
      cases none
    · rw [listening] at phase
      cases phase

/-- In phase 2 a datagram from the peer is tolerated unless it fails to be taken in. -/
theorem tolerates_confirming {handshake : Handshake} {reasm : Reassembler} {deadline : Nat}
    (confirming : driver.phase = .confirming handshake src reasm deadline) :
    driver.Tolerates prims config (.datagram now src raw coins) ↔
      ¬ ∃ e, (pushHandshake prims reasm now raw config.hsObf).1 = .error e := by
  have react : driver.react prims config (.datagram now src raw coins) =
      driver.receive prims config now src raw coins := rfl
  have running : ∀ result, driver.phase ≠ .finished result := fun result finished =>
    nomatch confirming.symm.trans finished
  have notListening : ∀ reasm, driver.phase ≠ .listening reasm := fun reasm listening =>
    nomatch confirming.symm.trans listening
  unfold receive at react
  rw [confirming] at react
  dsimp only at react
  rw [if_neg (not_not.mpr rfl)] at react
  rcases pushed : pushHandshake prims reasm now raw config.hsObf with ⟨e | _ | message, after⟩ <;>
    rw [pushed] at react <;> dsimp only at react
  · refine iff_of_false (fun tolerates => ?_) (not_not.mpr ⟨e, rfl⟩)
    exact tolerates.1 e running (by rw [react])
  · refine iff_of_true ⟨fun e _ failed => ?_, fun now' src' raw' coins' same =>
      ⟨fun reasm' phase => absurd phase (notListening _), fun handshake' peer reasm' deadline' phase _ =>
        ?_⟩⟩ fun ⟨_, impossible⟩ => nomatch impossible
    · rw [react] at failed
      cases failed
    · obtain ⟨rfl, rfl, -, rfl⟩ := ResponderPhase.confirming.inj (confirming.symm.trans phase)
      rw [react]
      exact ⟨rfl, after, rfl⟩
  · refine iff_of_true ⟨fun e _ failed => ?_, fun now' src' raw' coins' same =>
      ⟨fun reasm' phase => absurd phase (notListening _), fun handshake' peer reasm' deadline' phase
        skipped => ?_⟩⟩ fun ⟨_, impossible⟩ => nomatch impossible
    · rw [react] at failed
      exact absurd failed (handleConfirm_ne_error _ _ _ _)
    · obtain ⟨rfl, rfl, rfl, rfl⟩ := ResponderEvent.datagram.inj same
      obtain ⟨-, rfl, rfl, -⟩ := ResponderPhase.confirming.inj (confirming.symm.trans phase)
      rcases skipped with foreign | none
      · exact absurd rfl foreign
      · rw [completed, pushed] at none
        cases none

/-- **A step of the responder is tolerated exactly when it meets the condition.** -/
theorem tolerates_iff (seals : prims.ChachaSeals) (ready : driver.Ready) (event : ResponderEvent) :
    driver.Tolerates prims config event ↔ driver.Meets config event := by
  cases event with
  | datagram now src raw coins =>
    rcases phase : driver.phase with reasm | ⟨handshake, peer, reasm, deadline⟩ | result
    · refine iff_of_true (tolerates_listening seals phase) fun _ _ _ _ confirming => ?_
      rw [phase] at confirming
      cases confirming
    · by_cases fromPeer : src = peer
      · subst fromPeer
        have sound : reasm.Sound := by
          unfold Ready at ready
          rw [phase] at ready
          exact ready
        rw [tolerates_confirming phase, (sound.pushHandshake prims config.hsObf now raw).2]
        constructor
        · intro fine handshake' reasm' deadline' clear confirming
          obtain ⟨-, -, rfl, -⟩ := ResponderPhase.confirming.inj (phase.symm.trans confirming)
          exact not_not.mp fun refused => fine ⟨clear, refused⟩
        · rintro meets ⟨clear, refused⟩
          exact refused (meets handshake reasm deadline clear phase)
      · have ignored : driver.react prims config (.datagram now src raw coins) = (driver, .quiet) := by
          show driver.receive prims config now src raw coins = _
          unfold receive
          rw [phase]
          exact if_pos fromPeer
        refine iff_of_true ⟨fun e running failed => ?_, fun now' src' raw' coins' _ =>
          ⟨fun reasm' listening _ => ?_, fun handshake' peer' reasm' deadline' confirming _ => ?_⟩⟩
          fun handshake' reasm' deadline' _ confirming => ?_
        · rw [ignored] at failed
          exact absurd failed (running _)
        · rw [phase] at listening
          cases listening
        · rw [ignored]
          exact ⟨rfl, reasm', confirming⟩
        · obtain ⟨-, same, -⟩ := ResponderPhase.confirming.inj (phase.symm.trans confirming)
          exact absurd same.symm fromPeer
    · refine iff_of_true ⟨fun e running _ => absurd phase (running _), fun now' src' raw' coins' _ =>
        ⟨fun _ listening => ?_, fun _ _ _ _ confirming => ?_⟩⟩ fun _ _ _ _ confirming => ?_
      · rw [phase] at listening
        cases listening
      · rw [phase] at confirming
        cases confirming
      · rw [phase] at confirming
        cases confirming
  | timer now =>
    refine iff_of_true ⟨fun e running failed => ?_, fun _ _ _ _ same => nomatch same⟩ trivial
    change (driver.timeOut now).phase = _ at failed
    unfold timeOut at failed
    split at failed
    · split at failed
      · exact absurd failed (running _)
      · cases failed
    · exact absurd failed (running _)
  | prune now =>
    refine iff_of_true ⟨fun e running failed => ?_, fun _ _ _ _ same => nomatch same⟩ trivial
    change (driver.prune now).phase = _ at failed
    unfold prune at failed
    split at failed
    · cases failed
    · exact absurd failed (running _)
  | socketFails =>
    exact iff_of_true ⟨fun _ _ _ => trivial, fun _ _ _ _ same => nomatch same⟩ trivial

end Responder

/-! ### Every run -/

/-- An initiator that talks in the clear, and the peer it talks to. -/
def sampleDriver : DriverConfig := ⟨Handshake.sampleInitiator, .aegis256X2, none, 7⟩

def samplePeer : SocketAddr := ⟨[203, 0, 113, 9], 443⟩

def sampleDriverCoins : DriverCoins where
  respond := Handshake.sampleRespond
  confirm := Handshake.sampleConfirm
  challenge := ⟨fun _ => 0, fun _ => 0, fun _ => 0, fun _ => 0⟩
  padNoise := fun _ => 0
  envelope := ⟨.zero 12, 0, fun _ => 0⟩

theorem sample_begins : ∃ first sent, Initiator.begin .transparent sampleDriver 0 Handshake.sampleStart
      sampleDriverCoins.envelope = .ok (first, sent) ∧
    first.phase = .waiting 1 .new hsAttemptTimeout := by
  have fits : sampleDriver.auth.signatureLen .transparent ≤ 6923 := by decide
  obtain ⟨initWire, encoded⟩ := Handshake.encode_exists
    ((Handshake.length_initMessage_sig sampleDriver.auth sampleDriver.preferred
      Handshake.sampleStart).le.trans fits) Handshake.sampleStart.padNoise
  have started := Handshake.start_eq_ok_iff.mpr ⟨encoded, rfl⟩
  obtain ⟨datagrams, built⟩ := build_clear_exists .transparent sampleDriver.sessionId initWire
    sampleDriverCoins.envelope
  exact ⟨_, _, Initiator.begin_eq_ok started built 0, congrArg (InitiatorPhase.waiting 1 .new) (Nat.zero_add _)⟩

end ChameleonPQ
