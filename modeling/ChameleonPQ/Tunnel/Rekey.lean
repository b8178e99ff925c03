/-
**The rekey driver (`rekey.rs`, `net.rs`).**

`rekey_as_initiator` as a state machine. It does not read the socket: the inbound loop hands it
handshake datagrams, and its own leave one by one through a `HandshakeSink`. Times are milliseconds.

* `RekeyDriver.begin` — the Init is built once and resent in each attempt.
* `RekeyDriver.sent`, `sendFailed` — one datagram left, or did not.
* `RekeyDriver.read`, `timeOut` — a datagram from the inbound loop, and the end of an attempt.
-/

import ChameleonPQ.Tunnel.Inbound

namespace ChameleonPQ

open Library

/-- `PER_ATTEMPT_TIMEOUT`. -/
def perAttemptTimeout : Nat := 800

/-- `MAX_REKEY_RETRIES`. -/
def maxRekeyRetries : Nat := 4

/-- `HandshakeSink`: the socket, towards an address, or the outbound pacer. -/
inductive HandshakeSink where
  | direct (peer : SocketAddr)
  | paced
  deriving DecidableEq

/-- What the driver holds until the Response arrives. -/
structure RekeyInit where
  handshake : Handshake
  datagrams : List Bytes
  deriving DecidableEq

/-- Where `rekey_as_initiator` stands. -/
inductive RekeyStage where
  | sendingInit (init : RekeyInit) (attempt : Nat) (left : List Bytes)
  /-- The attempt reads the channel until `deadline`. -/
  | waiting (init : RekeyInit) (attempt : Nat) (reasm : Reassembler) (deadline : Nat)
  | sendingConfirm (session : Session) (left : List Bytes)
  | ended (result : Result Unit)
  deriving DecidableEq

/-- `rekey_as_initiator`, with the id it was given and its sink. -/
structure RekeyDriver where
  newId : UInt32
  sink : HandshakeSink
  stage : RekeyStage
  deriving DecidableEq

namespace RekeyInit

/-- The Init of an attempt is sent datagram by datagram; then the attempt waits. -/
def send (init : RekeyInit) (now attempt : Nat) : List Bytes → RekeyStage
  | [] => .waiting init attempt .new (now + perAttemptTimeout)
  | left => .sendingInit init attempt left

end RekeyInit

/-- So is the Confirm; then the session is installed. -/
def sendConfirm (session : Session) : List Bytes → RekeyStage × Option Session
  | [] => (.ended (.ok ()), some session)
  | left => (.sendingConfirm session left, none)

namespace RekeyDriver

section Definitions

variable (prims : Primitives) (config : InboundConfig)

/-- The driver up to its first send. -/
def begin (sink : HandshakeSink) (newId : UInt32) (now : Nat) (start : StartCoins)
    (envelope : HsObf.SealCoins) : RekeyDriver where
  newId := newId
  sink := sink
  stage :=
    match Handshake.start prims config.auth config.preferred start with
    | .error e => .ended (.error e)
    | .ok (handshake, initWire) =>
      match buildHandshakeDatagrams prims newId initWire config.hsObf envelope with
      | .error e => .ended (.error e)
      | .ok datagrams => RekeyInit.send ⟨handshake, datagrams⟩ now 1 datagrams

/-- The datagram that is to leave next. -/
def nextDatagram (driver : RekeyDriver) : Option Bytes :=
  match driver.stage with
  | .sendingInit _ _ left => left.head?
  | .sendingConfirm _ left => left.head?
  | _ => none

/-- The next datagram left; after the last one of a Confirm there is a session to install. -/
def sent (driver : RekeyDriver) (now : Nat) : RekeyDriver × Option Session :=
  match driver.stage with
  | .sendingInit init attempt left =>
    ({ driver with stage := init.send now attempt left.tail }, none)
  | .sendingConfirm session left =>
    let (stage, established) := sendConfirm session left.tail
    ({ driver with stage }, established)
  | _ => (driver, none)

/-- The socket refused the next datagram. -/
def sendFailed (driver : RekeyDriver) : RekeyDriver := { driver with stage := .ended (.error .io) }

/-- A complete Response: `finalize`, and the Confirm. -/
def conclude (driver : RekeyDriver) (init : RekeyInit) (respWire : Bytes) (coins : DriverCoins) :
    RekeyDriver × Option Session :=
  match init.handshake.finalize prims respWire config.auth coins.confirm with
  | .error e => ({ driver with stage := .ended (.error e) }, none)
  | .ok (.established session, confirmWire) =>
    match buildHandshakeDatagrams prims driver.newId confirmWire config.hsObf coins.envelope with
    | .error e => ({ driver with stage := .ended (.error e) }, none)
    | .ok datagrams =>
      let (stage, established) := sendConfirm session datagrams
      ({ driver with stage }, established)
  | .ok _ =>
    ({ driver with stage := .ended (.error
      (.handshake "rekey" "rekey handshake failed (auth/MAC)")) }, none)

/-- A datagram from the channel; what the reassembler refuses is noise. -/
def read (driver : RekeyDriver) (now : Nat) (raw : Bytes) (coins : DriverCoins) :
    RekeyDriver × Option Session :=
  match driver.stage with
  | .waiting init attempt reasm deadline =>
    match pushHandshake prims reasm now raw config.hsObf with
    | (.ok (some respWire), _) => driver.conclude prims config init respWire coins
    | (_, reasm) => ({ driver with stage := .waiting init attempt reasm deadline }, none)
  | _ => (driver, none)

end Definitions

/-- An attempt timed out. -/
def timeOut (driver : RekeyDriver) (now : Nat) : RekeyDriver :=
  match driver.stage with
  | .waiting init attempt _ _ =>
    if attempt < maxRekeyRetries then
      { driver with stage := init.send now (attempt + 1) init.datagrams }
    else { driver with stage := .ended (.error
      (.handshake "rekey" s!"timed out after {attempt} attempts")) }
  | _ => driver

/-- **Every rekey can be begun**: its Init is encoded and sealed. -/
theorem begin_exists {prims : Primitives} (seals : prims.ChachaSeals) {config : InboundConfig}
    (fits : config.auth.signatureLen prims ≤ 6923) (sink : HandshakeSink) (newId : UInt32) (now : Nat)
    (start : StartCoins) (envelope : HsObf.SealCoins) : ∃ handshake initWire datagrams,
      Handshake.start prims config.auth config.preferred start = .ok (handshake, initWire) ∧
      buildHandshakeDatagrams prims newId initWire config.hsObf envelope = .ok datagrams ∧
      begin prims config sink newId now start envelope =
        ⟨newId, sink, RekeyInit.send ⟨handshake, datagrams⟩ now 1 datagrams⟩ := by
  obtain ⟨initWire, encoded⟩ := Handshake.encode_exists
    ((Handshake.length_initMessage_sig config.auth config.preferred start).le.trans fits) start.padNoise
  have started := Handshake.start_eq_ok_iff.mpr ⟨encoded, rfl⟩
  obtain ⟨datagrams, built⟩ := build_exists seals newId config.hsObf envelope
    (HandshakeMessage.length_of_encode encoded)
  refine ⟨_, initWire, datagrams, started, built, ?_⟩
  unfold begin
  simp only [started, built]

end RekeyDriver

end ChameleonPQ
