/-
**The drivers of the initial handshake (`net.rs`).**

`run_handshake_initiator` and `run_handshake_responder` as state machines: a datagram arrives, a timer
fires, the socket fails. Each step returns the datagrams it sends: the initiator's go to its peer, the
responder's to the address each is for, and with them it returns its calls of `respond`. Times are
milliseconds.

* `Initiator.receive`, `Initiator.timeOut` — up to eight attempts, each with a fresh reassembler; a
  cookie challenge starts the next attempt with the cookie in the Init.
* `Responder.receive`, `Responder.timeOut` — phase 1 waits for an Init with a valid cookie, phase 2
  takes the next complete message from that address as the Confirm.
-/

import ChameleonPQ.Handshake.Honest
import ChameleonPQ.Transport.Datagrams

namespace ChameleonPQ

open Library

/-- `HS_ATTEMPT_TIMEOUT`. -/
def hsAttemptTimeout : Nat := 800

/-- `HS_MAX_ATTEMPTS`. -/
def hsMaxAttempts : Nat := 8

/-- `HS_CONFIRM_TIMEOUT`. -/
def hsConfirmTimeout : Nat := 2000

/-- `COOKIE_WINDOW_SECS`. -/
def cookieWindowSecs : Nat := 120

/-- `SocketAddr`: the octets of the IP address, and the port. -/
structure SocketAddr where
  ip : Bytes
  port : UInt16
  deriving DecidableEq

/-- `compute_cookie`. -/
def computeCookie (prims : Primitives) (secret : Octets 32) (src : SocketAddr) (timeBucket : Nat) :
    Octets 16 :=
  .fill 16 (prims.hmacSha256 secret.bytes
    (src.ip ++ leBytes 2 src.port.toNat ++ leBytes 8 timeBucket)).bytes

namespace CookieState

/-- `bucket`. -/
def bucket (now : Nat) : Nat := now / 1000 / cookieWindowSecs

/-- `issue`. -/
def issue (prims : Primitives) (secret : Octets 32) (now : Nat) (src : SocketAddr) : Octets 16 :=
  computeCookie prims secret src (bucket now)

/-- `valid`: the current or the previous window; the subtraction wraps. -/
def valid (prims : Primitives) (secret : Octets 32) (now : Nat) (src : SocketAddr)
    (cookie : Octets 16) : Bool :=
  cookie = computeCookie prims secret src (bucket now) ||
    cookie = computeCookie prims secret src ((bucket now + (2 ^ 64 - 1)) % 2 ^ 64)

end CookieState

/-- What a handshake driver is configured with. -/
structure DriverConfig where
  auth : Authenticator
  preferred : AeadAlgo
  hsObf : Option (Octets 32)
  sessionId : UInt32

/-- The random values a driver may draw in one step. -/
structure DriverCoins where
  respond : RespondCoins
  confirm : ConfirmCoins
  challenge : ChallengeCoins
  padNoise : Nat → UInt8
  envelope : HsObf.SealCoins

/-- The message a datagram completes. -/
def completed (prims : Primitives) (reasm : Reassembler) (now : Nat) (raw : Bytes)
    (hsObf : Option (Octets 32)) : Option Bytes :=
  match (pushHandshake prims reasm now raw hsObf).1 with
  | .ok message => message
  | .error _ => none

/-! ### The initiator -/

/-- Where `run_handshake_initiator` stands. -/
inductive InitiatorPhase where
  /-- Attempt `attempt` waits for a message until `deadline`. -/
  | waiting (attempt : Nat) (reasm : Reassembler) (deadline : Nat)
  | finished (result : Result Session)
  deriving DecidableEq

/-- `run_handshake_initiator` towards one peer. -/
structure Initiator where
  handshake : Handshake
  initWire : Bytes
  /-- The Init as it is sent in each attempt. -/
  datagrams : List Bytes
  phase : InitiatorPhase
  deriving DecidableEq

namespace Initiator

section Definitions

variable (prims : Primitives) (config : DriverConfig) (peer : SocketAddr)

/-- The driver up to the end of the first sends, and what it sent. -/
def begin (now : Nat) (start : StartCoins) (envelope : HsObf.SealCoins) :
    Result (Initiator × List Bytes) :=
  match Handshake.start prims config.auth config.preferred start with
  | .error e => .error e
  | .ok (handshake, initWire) =>
    match buildHandshakeDatagrams prims config.sessionId initWire config.hsObf envelope with
    | .error e => .error e
    | .ok datagrams =>
      .ok (⟨handshake, initWire, datagrams, .waiting 1 .new (now + hsAttemptTimeout)⟩, datagrams)

/-- The next round of the attempt loop, with the given Init datagrams; after the last one the driver
gives up. -/
def nextAttempt (driver : Initiator) (now attempt : Nat) (datagrams : List Bytes) :
    Initiator × List Bytes :=
  if attempt < hsMaxAttempts then
    ({ driver with datagrams, phase := .waiting (attempt + 1) .new (now + hsAttemptTimeout) },
      datagrams)
  else
    ({ driver with datagrams, phase := .finished (.error (.handshake "initiator"
      "no handshake response after retries (peer unreachable?)")) }, [])

/-- The driver ends with a result. -/
def finish (driver : Initiator) (result : Result Session) : Initiator :=
  { driver with phase := .finished result }

/-- The end of the driver: `finalize`, and the Confirm. -/
def conclude (driver : Initiator) (respWire : Bytes) (coins : DriverCoins) :
    Initiator × List Bytes :=
  match driver.handshake.finalize prims respWire config.auth coins.confirm with
  | .error e => (driver.finish (.error e), [])
  | .ok (.established session, confirmWire) =>
    match buildHandshakeDatagrams prims config.sessionId confirmWire config.hsObf coins.envelope with
    | .error e => (driver.finish (.error e), [])
    | .ok datagrams => (driver.finish (.ok session), datagrams)
  | .ok _ => (driver.finish (.error (.handshake "initiator" "handshake failed (auth/MAC)")), [])

/-- A complete message: a challenge starts the next attempt, anything else is the Response. -/
def handle (driver : Initiator) (now attempt : Nat) (message : Bytes) (coins : DriverCoins) :
    Initiator × List Bytes :=
  if message.length = handshakeMsgLen ∧
      (message.drop 1).headD 0 = HandshakeType.cookieChallenge.asU8 then
    match HandshakeMessage.decode message with
    | .error _ => driver.nextAttempt now attempt driver.datagrams
    | .ok _ =>
      match Handshake.echoCookie driver.initWire message coins.padNoise with
      | .error e => (driver.finish (.error e), [])
      | .ok wire =>
        match buildHandshakeDatagrams prims config.sessionId wire config.hsObf coins.envelope with
        | .error e => (driver.finish (.error e), [])
        | .ok datagrams => driver.nextAttempt now attempt datagrams
  else driver.conclude prims config message coins

/-- A datagram arrives. -/
def receive (driver : Initiator) (now : Nat) (src : SocketAddr) (raw : Bytes) (coins : DriverCoins) :
    Initiator × List Bytes :=
  match driver.phase with
  | .finished _ => (driver, [])
  | .waiting attempt reasm deadline =>
    if src ≠ peer then (driver, [])
    else
      match pushHandshake prims reasm now raw config.hsObf with
      | (.error e, _) => (driver.finish (.error e), [])
      | (.ok none, reasm) => ({ driver with phase := .waiting attempt reasm deadline }, [])
      | (.ok (some message), _) => driver.handle prims config now attempt message coins

/-- The attempt times out. -/
def timeOut (driver : Initiator) (now : Nat) : Initiator × List Bytes :=
  match driver.phase with
  | .finished _ => (driver, [])
  | .waiting attempt _ deadline =>
    if now < deadline then (driver, []) else driver.nextAttempt now attempt driver.datagrams

/-- The socket fails. -/
def socketError (driver : Initiator) : Initiator :=
  match driver.phase with
  | .finished _ => driver
  | .waiting _ _ _ => driver.finish (.error .io)

end Definitions

variable {prims : Primitives} {config : DriverConfig} {peer src : SocketAddr} {driver : Initiator}
  {now : Nat} {raw : Bytes} {coins : DriverCoins}

/-- The driver begins with an Init that was built. -/
theorem begin_eq_ok {handshake : Handshake} {initWire : Bytes} {datagrams : List Bytes} {start : StartCoins}
    {envelope : HsObf.SealCoins}
    (started : Handshake.start prims config.auth config.preferred start = .ok (handshake, initWire))
    (built : buildHandshakeDatagrams prims config.sessionId initWire config.hsObf envelope = .ok datagrams)
    (now : Nat) : begin prims config now start envelope =
      .ok (⟨handshake, initWire, datagrams, .waiting 1 .new (now + hsAttemptTimeout)⟩, datagrams) := by
  rw [begin, started]
  dsimp only
  rw [built]

@[simp] theorem nextAttempt_handshake (attempt : Nat) (datagrams : List Bytes) :
    (driver.nextAttempt now attempt datagrams).1.handshake = driver.handshake := by
  unfold nextAttempt
  split <;> rfl

theorem nextAttempt_ne_ok (attempt : Nat) (datagrams : List Bytes) (session : Session) :
    (driver.nextAttempt now attempt datagrams).1.phase ≠ .finished (.ok session) := by
  unfold nextAttempt
  split <;> nofun

@[simp] theorem conclude_handshake (respWire : Bytes) :
    (driver.conclude prims config respWire coins).1.handshake = driver.handshake := by
  unfold conclude
  split
  · rfl
  · split <;> rfl
  · rfl

@[simp] theorem handle_handshake (attempt : Nat) (message : Bytes) :
    (driver.handle prims config now attempt message coins).1.handshake = driver.handshake := by
  unfold handle
  split
  · split
    · exact nextAttempt_handshake _ _
    · split
      · rfl
      · split
        · rfl
        · exact nextAttempt_handshake _ _
  · exact conclude_handshake _

/-- The driver keeps its handshake until the end. -/
@[simp] theorem receive_handshake :
    (driver.receive prims config peer now src raw coins).1.handshake = driver.handshake := by
  unfold receive
  split
  · rfl
  · split
    · rfl
    · split
      · rfl
      · rfl
      · exact handle_handshake _ _

@[simp] theorem timeOut_handshake : (driver.timeOut now).1.handshake = driver.handshake := by
  unfold timeOut
  split
  · rfl
  · split
    · rfl
    · exact nextAttempt_handshake _ _

/-- A timer never makes the driver succeed. -/
theorem timeOut_ne_ok {session : Session} (running : driver.phase ≠ .finished (.ok session)) :
    (driver.timeOut now).1.phase ≠ .finished (.ok session) := by
  unfold timeOut
  split
  · exact running
  · split
    · exact running
    · exact nextAttempt_ne_ok _ _ _

/-- A driver that has ended stays as it is. -/
theorem receive_finished {result : Result Session} (finished : driver.phase = .finished result) :
    driver.receive prims config peer now src raw coins = (driver, []) := by
  rw [receive, finished]

theorem timeOut_finished {result : Result Session} (finished : driver.phase = .finished result) :
    driver.timeOut now = (driver, []) := by
  rw [timeOut, finished]

/-- What a complete message does does not depend on where the attempt stands. -/
theorem handle_phase (phase : InitiatorPhase) (attempt : Nat) (message : Bytes) :
    ({ driver with phase } : Initiator).handle prims config now attempt message coins =
      driver.handle prims config now attempt message coins := by
  simp only [handle, nextAttempt, conclude, finish]

/-- A challenge whose cookie is echoed. -/
theorem handle_challenge {attempt : Nat} {message wire : Bytes} {received : HandshakeMessage}
    {datagrams : List Bytes} (decoded : HandshakeMessage.decode message = .ok received)
    (kind : received.msgType = .cookieChallenge)
    (echoed : Handshake.echoCookie driver.initWire message coins.padNoise = .ok wire)
    (built : buildHandshakeDatagrams prims config.sessionId wire config.hsObf coins.envelope =
      .ok datagrams) :
    driver.handle prims config now attempt message coins =
      driver.nextAttempt now attempt datagrams := by
  have challenge : message.length = handshakeMsgLen ∧
      (message.drop 1).headD 0 = HandshakeType.cookieChallenge.asU8 :=
    ⟨HandshakeMessage.length_of_decode decoded, kind ▸ HandshakeMessage.kind_of_decode decoded⟩
  rw [handle, if_pos challenge, decoded]
  dsimp only
  rw [echoed]
  dsimp only
  rw [built]

/-- A Response that `finalize` accepts. -/
theorem handle_response {attempt : Nat} {message confirmWire : Bytes} {received : HandshakeMessage}
    {session : Session} {datagrams : List Bytes}
    (decoded : HandshakeMessage.decode message = .ok received)
    (kind : received.msgType = .response)
    (finalized : driver.handshake.finalize prims message config.auth coins.confirm =
      .ok (.established session, confirmWire))
    (built : buildHandshakeDatagrams prims config.sessionId confirmWire config.hsObf coins.envelope =
      .ok datagrams) :
    driver.handle prims config now attempt message coins =
      (driver.finish (.ok session), datagrams) := by
  have notChallenge : ¬ (message.length = handshakeMsgLen ∧
      (message.drop 1).headD 0 = HandshakeType.cookieChallenge.asU8) := by
    rintro ⟨-, challenge⟩
    rw [HandshakeMessage.kind_of_decode decoded, kind] at challenge
    exact absurd challenge (by decide)
  rw [handle, if_neg notChallenge, conclude, finalized]
  dsimp only
  rw [built]

/-- **How the initiator succeeds**: the datagram completed a Response that `finalize` accepts, and what
is sent is its Confirm. -/
theorem receive_ok {attempt deadline : Nat} {reasm : Reassembler} {session : Session}
    (waiting : driver.phase = .waiting attempt reasm deadline)
    (ok : (driver.receive prims config peer now src raw coins).1.phase = .finished (.ok session)) :
    ∃ message confirmWire, completed prims reasm now raw config.hsObf = some message ∧
      driver.handshake.finalize prims message config.auth coins.confirm =
        .ok (.established session, confirmWire) ∧
      buildHandshakeDatagrams prims config.sessionId confirmWire config.hsObf coins.envelope =
        .ok (driver.receive prims config peer now src raw coins).2 := by
  simp only [receive, waiting, completed] at ok ⊢
  split at ok
  · rw [waiting] at ok
    cases ok
  rename_i fromPeer
  rw [if_neg fromPeer]
  split at ok
  · cases ok
  · cases ok
  rename_i message after pushed
  rw [pushed]
  dsimp only at ok ⊢
  rw [handle] at ok ⊢
  split at ok
  · split at ok
    · exact absurd ok (nextAttempt_ne_ok _ _ _)
    · split at ok
      · cases ok
      · split at ok
        · cases ok
        · exact absurd ok (nextAttempt_ne_ok _ _ _)
  rename_i notChallenge
  rw [if_neg notChallenge]
  rw [conclude] at ok ⊢
  split at ok
  · cases ok
  · rename_i session' confirmWire finalized
    split at ok
    · cases ok
    · rename_i datagrams built
      obtain rfl := Except.ok.inj (InitiatorPhase.finished.inj ok)
      exact ⟨message, confirmWire, rfl, finalized, built⟩
  · cases ok

end Initiator

/-! ### The responder -/

/-- Where `run_handshake_responder` stands. -/
inductive ResponderPhase where
  /-- Phase 1: waiting for an Init from anyone. -/
  | listening (reasm : Reassembler)
  /-- Phase 2: waiting for the Confirm from one address. -/
  | confirming (handshake : Handshake) (peer : SocketAddr) (reasm : Reassembler) (deadline : Nat)
  | finished (result : Result (Session × SocketAddr))
  deriving DecidableEq

/-- `run_handshake_responder`. -/
structure Responder where
  secret : Octets 32
  phase : ResponderPhase
  deriving DecidableEq

/-- What a step of the responder does beside its state. -/
structure ResponderOutput where
  /-- The messages `respond` was called for. -/
  responds : List Bytes
  /-- The datagrams sent, each with its destination. -/
  sent : List (SocketAddr × Bytes)
  deriving DecidableEq

namespace ResponderOutput

/-- Nothing is sent, and `respond` is not called. -/
abbrev quiet : ResponderOutput := ⟨[], []⟩

/-- What goes out, wherever it goes. -/
def datagrams (output : ResponderOutput) : List Bytes := output.sent.map Prod.snd

/-- What goes to one address. -/
def sentTo (output : ResponderOutput) (dest : SocketAddr) : List Bytes :=
  (output.sent.filter fun entry => entry.1 = dest).map Prod.snd

end ResponderOutput

/-- `HandshakeSink::Direct`: every datagram of a message goes to one address. -/
def directTo (dest : SocketAddr) (datagrams : List Bytes) : List (SocketAddr × Bytes) :=
  datagrams.map fun datagram => (dest, datagram)

section Output

variable (responds : List Bytes) (dest : SocketAddr) (datagrams : List Bytes)

@[simp] theorem ResponderOutput.datagrams_nil :
    (⟨responds, []⟩ : ResponderOutput).datagrams = [] := rfl

@[simp] theorem ResponderOutput.sentTo_nil :
    (⟨responds, []⟩ : ResponderOutput).sentTo dest = [] := rfl

@[simp] theorem ResponderOutput.datagrams_directTo :
    (⟨responds, directTo dest datagrams⟩ : ResponderOutput).datagrams = datagrams := by
  simp [ResponderOutput.datagrams, directTo, Function.comp_def]

@[simp] theorem ResponderOutput.sentTo_directTo :
    (⟨responds, directTo dest datagrams⟩ : ResponderOutput).sentTo dest = datagrams := by
  have all : (directTo dest datagrams).filter (fun entry => entry.1 = dest) = directTo dest datagrams := by
    refine List.filter_eq_self.mpr fun entry present => ?_
    obtain ⟨datagram, -, rfl⟩ := List.mem_map.mp present
    exact decide_eq_true rfl
  rw [ResponderOutput.sentTo, all]
  exact ResponderOutput.datagrams_directTo responds dest datagrams

end Output

namespace Responder

section Definitions

variable (prims : Primitives) (config : DriverConfig)

/-- The driver listens. -/
def begin (secret : Octets 32) : Responder := ⟨secret, .listening .new⟩

/-- Back to phase 1 with a fresh reassembler. -/
def relisten (driver : Responder) : Responder := { driver with phase := .listening .new }

/-- The cheap answer to an Init without a valid cookie; a failure to build it is logged. -/
def challenge (driver : Responder) (now : Nat) (src : SocketAddr) (coins : DriverCoins) :
    List (SocketAddr × Bytes) :=
  match Handshake.challengeWire (CookieState.issue prims driver.secret now src) coins.challenge with
  | .error _ => []
  | .ok wire =>
    match buildHandshakeDatagrams prims config.sessionId wire config.hsObf coins.envelope with
    | .error _ => []
    | .ok datagrams => directTo src datagrams

/-- A call of `Handshake.respond`, which is noted. -/
def callRespond (initWire : Bytes) (coins : DriverCoins) : Result (Handshake × Bytes) × List Bytes :=
  (Handshake.respond prims initWire config.auth config.preferred coins.respond, [initWire])

/-- A complete message in phase 1. -/
def handleInit (driver : Responder) (now : Nat) (src : SocketAddr) (initWire : Bytes)
    (coins : DriverCoins) : Responder × ResponderOutput :=
  match HandshakeMessage.decode initWire with
  | .error _ => (driver.relisten, .quiet)
  | .ok init =>
    if init.msgType ≠ .init then (driver.relisten, .quiet)
    else if CookieState.valid prims driver.secret now src init.cookie = false then
      (driver.relisten, ⟨[], driver.challenge prims config now src coins⟩)
    else
      match callRespond prims config initWire coins with
      | (.error _, calls) => (driver.relisten, ⟨calls, []⟩)
      | (.ok (handshake, respWire), calls) =>
        match buildHandshakeDatagrams prims config.sessionId respWire config.hsObf coins.envelope with
        | .error e => ({ driver with phase := .finished (.error e) }, ⟨calls, []⟩)
        | .ok datagrams =>
          ({ driver with phase := .confirming handshake src .new (now + hsConfirmTimeout) },
            ⟨calls, directTo src datagrams⟩)

/-- A complete message in phase 2, taken as the Confirm. -/
def handleConfirm (driver : Responder) (handshake : Handshake) (peer : SocketAddr)
    (confirmWire : Bytes) : Responder :=
  match handshake.confirm prims confirmWire config.auth with
  | .ok (.established session) => { driver with phase := .finished (.ok (session, peer)) }
  | _ => driver.relisten

/-- A datagram arrives. -/
def receive (driver : Responder) (now : Nat) (src : SocketAddr) (raw : Bytes) (coins : DriverCoins) :
    Responder × ResponderOutput :=
  match driver.phase with
  | .finished _ => (driver, .quiet)
  | .listening reasm =>
    match pushHandshake prims reasm now raw config.hsObf with
    | (.ok (some initWire), _) => driver.handleInit prims config now src initWire coins
    | (_, reasm) => ({ driver with phase := .listening reasm }, .quiet)
  | .confirming handshake peer reasm deadline =>
    if src ≠ peer then (driver, .quiet)
    else
      match pushHandshake prims reasm now raw config.hsObf with
      | (.error e, _) => ({ driver with phase := .finished (.error e) }, .quiet)
      | (.ok none, reasm) => ({ driver with phase := .confirming handshake peer reasm deadline }, .quiet)
      | (.ok (some confirmWire), _) =>
        (driver.handleConfirm prims config handshake peer confirmWire, .quiet)

/-- The confirm timer fires. -/
def timeOut (driver : Responder) (now : Nat) : Responder :=
  match driver.phase with
  | .confirming _ _ _ deadline => if now < deadline then driver else driver.relisten
  | _ => driver

/-- The prune timer of phase 1 fires. -/
def prune (driver : Responder) (now : Nat) : Responder :=
  match driver.phase with
  | .listening reasm => { driver with phase := .listening (reasm.pruneOld now 10000) }
  | _ => driver

/-- The socket fails. -/
def socketError (driver : Responder) : Responder :=
  match driver.phase with
  | .finished _ => driver
  | _ => { driver with phase := .finished (.error .io) }

end Definitions

variable {prims : Primitives} {config : DriverConfig} {src : SocketAddr} {driver : Responder}
  {now : Nat} {raw : Bytes} {coins : DriverCoins}

theorem callRespond_ok {initWire : Bytes} {outcome : Handshake × Bytes} {calls : List Bytes}
    (called : callRespond prims config initWire coins = (.ok outcome, calls)) :
    Handshake.respond prims initWire config.auth config.preferred coins.respond = .ok outcome ∧
      calls = [initWire] :=
  ⟨congrArg Prod.fst called, (congrArg Prod.snd called).symm⟩

theorem challenge_phase (phase : ResponderPhase) :
    ({ driver with phase } : Responder).challenge prims config now src coins =
      driver.challenge prims config now src coins := by
  unfold challenge
  dsimp only

/-- What a complete message does depends on the secret only. -/
theorem handleInit_phase (phase : ResponderPhase) (initWire : Bytes) :
    ({ driver with phase } : Responder).handleInit prims config now src initWire coins =
      driver.handleInit prims config now src initWire coins := by
  unfold handleInit
  dsimp only
  rewrite [challenge_phase]
  unfold relisten
  dsimp only

/-- An Init without a valid cookie. -/
theorem handleInit_challenge {initWire : Bytes} {init : HandshakeMessage}
    (decoded : HandshakeMessage.decode initWire = .ok init) (kind : init.msgType = .init)
    (stale : CookieState.valid prims driver.secret now src init.cookie = false) :
    driver.handleInit prims config now src initWire coins =
      (driver.relisten, ⟨[], driver.challenge prims config now src coins⟩) := by
  rw [handleInit, decoded]
  dsimp only
  rw [if_neg (not_not.mpr kind), if_pos stale]

/-- An Init with a valid cookie that `respond` accepts. -/
theorem handleInit_respond {initWire respWire : Bytes} {init : HandshakeMessage}
    {handshake : Handshake} {datagrams : List Bytes}
    (decoded : HandshakeMessage.decode initWire = .ok init) (kind : init.msgType = .init)
    (valid : CookieState.valid prims driver.secret now src init.cookie = true)
    (responded : Handshake.respond prims initWire config.auth config.preferred coins.respond =
      .ok (handshake, respWire))
    (built : buildHandshakeDatagrams prims config.sessionId respWire config.hsObf coins.envelope =
      .ok datagrams) :
    driver.handleInit prims config now src initWire coins =
      ({ driver with phase := .confirming handshake src .new (now + hsConfirmTimeout) },
        ⟨[initWire], directTo src datagrams⟩) := by
  rw [handleInit, decoded]
  dsimp only
  rw [if_neg (not_not.mpr kind), if_neg (Bool.not_eq_false _ ▸ valid), callRespond, responded]
  dsimp only
  rw [built]

/-- A message that is no Init is skipped. -/
theorem handleInit_other {message : Bytes} {received : HandshakeMessage}
    (decoded : HandshakeMessage.decode message = .ok received) (kind : received.msgType ≠ .init) :
    driver.handleInit prims config now src message coins = (driver.relisten, .quiet) := by
  rw [handleInit, decoded]
  dsimp only
  rw [if_pos kind]

/-- **A message that is no Confirm ends the handshake it is taken for.** -/
theorem handleConfirm_other {handshake : Handshake} {message : Bytes} {received : HandshakeMessage}
    (decoded : HandshakeMessage.decode message = .ok received) (kind : received.msgType ≠ .confirm) :
    driver.handleConfirm prims config handshake src message = driver.relisten := by
  unfold handleConfirm
  split
  · rename_i session confirmed
    obtain ⟨_, _, conf, -, decoded', kind', -⟩ := Handshake.confirm_eq_ok_iff.mp confirmed
    rw [decoded] at decoded'
    exact absurd (Except.ok.inj decoded' ▸ kind') kind
  · rfl

/-- **How the responder gets to phase 2**: the datagram completed an Init that `respond` accepts, and
what is sent is its Response. -/
theorem receive_confirming {reasm reasm' : Reassembler} {handshake : Handshake} {peer : SocketAddr}
    {deadline : Nat} (listening : driver.phase = .listening reasm)
    (confirming : (driver.receive prims config now src raw coins).1.phase =
      .confirming handshake peer reasm' deadline) :
    ∃ initWire respWire, completed prims reasm now raw config.hsObf = some initWire ∧
      Handshake.respond prims initWire config.auth config.preferred coins.respond =
        .ok (handshake, respWire) ∧
      peer = src ∧ reasm' = .new ∧ deadline = now + hsConfirmTimeout := by
  simp only [receive, listening, completed] at confirming ⊢
  split at confirming
  · rename_i initWire after pushed
    rw [pushed]
    rw [handleInit] at confirming
    split at confirming
    · cases confirming
    split at confirming
    · cases confirming
    split at confirming
    · cases confirming
    split at confirming
    · cases confirming
    rename_i pending respWire calls responded
    split at confirming
    · cases confirming
    obtain ⟨rfl, rfl, rfl, rfl⟩ := ResponderPhase.confirming.inj confirming
    exact ⟨initWire, respWire, rfl, (callRespond_ok responded).1, rfl, rfl, rfl⟩
  · cases confirming

end Responder

end ChameleonPQ
