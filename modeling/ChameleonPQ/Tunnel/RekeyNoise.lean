/-
**What a rekey driver makes of its channel (`rekey.rs`).**

The inbound loop hands a running driver every handshake datagram that arrives. The first complete message is
consumed by `finalize`, and a driver whose `finalize` fails is at its end.

* `Accepts` — a message is a valid Response to the Init of the attempt; `accepts_genuine` — the peer's is one.
* `readTolerant` — how a driver would read that skips every other message.
* `follow_heeding` — a driver that heeds only some messages waits on until the first of them.
* `noise_survived_iff` — the driver goes the tolerant driver's way exactly in the runs in which each message it
  completes is a valid Response.
* `init_ends_rekey` — the peer's own Init is completed first, and the genuine Response comes too late.
-/

import ChameleonPQ.Transport.Envelope
import ChameleonPQ.Tunnel.RekeyClaim

namespace ChameleonPQ

open Library Library.Runs

/-! ### A running driver -/

/-- What can happen to a running driver. -/
inductive RekeyEvent where
  /-- The next datagram left, or was refused. -/
  | sent (now : Nat)
  | refused
  /-- A datagram came out of the channel. -/
  | read (now : Nat) (raw : Bytes) (coins : DriverCoins)
  | timeOut (now : Nat)
  | channelClosed

/-- A datagram on the channel, with when it is read and the random values drawn then. -/
structure ChannelArrival where
  now : Nat
  raw : Bytes
  coins : DriverCoins

/-- The driver, and the session it installed. -/
structure RekeyRun where
  driver : RekeyDriver
  installed : Option Session

namespace RekeyRun

/-- How a driver reads a datagram. -/
abbrev Reading : Type := RekeyDriver → Nat → Bytes → DriverCoins → RekeyDriver × Option Session

/-- A step of the driver, and the session there is to install after it. -/
def take (run : RekeyRun) (taken : RekeyDriver × Option Session) : RekeyRun :=
  ⟨taken.1, taken.2.or run.installed⟩

/-- One event; what the driver does not wait for changes nothing. -/
def step (reading : Reading) (run : RekeyRun) : RekeyEvent → RekeyRun
  | .sent now => run.take (run.driver.sent now)
  | .refused => if run.driver.nextDatagram = none then run else { run with driver := run.driver.sendFailed }
  | .read now raw coins => run.take (reading run.driver now raw coins)
  | .timeOut now => { run with driver := run.driver.timeOut now }
  | .channelClosed => { run with driver := run.driver.channelClosed }

/-- Some events, one after the other. -/
def follow (reading : Reading) (run : RekeyRun) (events : List RekeyEvent) : RekeyRun :=
  events.foldl (step reading) run

section Definitions

variable (prims : Primitives) (config : InboundConfig)

/-- The message is a valid Response to the Init. -/
def Accepts (init : RekeyInit) (coins : DriverCoins) (wire : Bytes) : Prop :=
  ∃ session confirmWire,
    init.handshake.finalize prims wire config.auth coins.confirm = .ok (.established session, confirmWire)

instance (init : RekeyInit) (coins : DriverCoins) (wire : Bytes) :
    Decidable (Accepts prims config init coins wire) :=
  match outcome : init.handshake.finalize prims wire config.auth coins.confirm with
  | .ok (.established session, confirmWire) => .isTrue ⟨session, confirmWire, outcome⟩
  | .ok (.idle, _) | .ok (.failed, _) | .ok (.sentInit _ _ _, _) | .ok (.sentResponse _ _, _) | .error _ =>
    .isFalse fun ⟨_, _, success⟩ => nomatch outcome.symm.trans success

/-- How a driver reads that heeds only some of the messages. -/
def readHeeding (heeds : RekeyInit → DriverCoins → Bytes → Bool) : Reading := fun driver now raw coins =>
  match driver.stage with
  | .waiting init attempt reasm deadline =>
    match pushHandshake prims reasm now raw config.hsObf with
    | (.ok (some wire), reasm) =>
      if heeds init coins wire then driver.conclude prims config init wire coins
      else ({ driver with stage := .waiting init attempt reasm deadline }, none)
    | (_, reasm) => ({ driver with stage := .waiting init attempt reasm deadline }, none)
  | _ => (driver, none)

/-- How a driver reads that takes every message but a valid Response for noise. -/
def readTolerant : Reading := readHeeding prims config fun init coins wire => Accepts prims config init coins wire

/-- A message that the driver completes is a valid Response. -/
def Clean (run : RekeyRun) : RekeyEvent → Prop
  | .read now raw coins => ∀ init attempt reasm deadline wire,
      run.driver.stage = .waiting init attempt reasm deadline →
      (pushHandshake prims reasm now raw config.hsObf).1 = .ok (some wire) → Accepts prims config init coins wire
  | _ => True

/-- The driver does not wait for a message. -/
def Deaf (driver : RekeyDriver) : Prop :=
  ∀ init attempt reasm deadline, driver.stage ≠ .waiting init attempt reasm deadline

/-- The driver waits on. -/
def wait (run : RekeyRun) (init : RekeyInit) (attempt : Nat) (reasm : Reassembler) (deadline : Nat) : RekeyRun :=
  { run with driver := { run.driver with stage := .waiting init attempt reasm deadline } }

/-- The messages that some datagrams complete, with the random values for each. -/
def messages : Reassembler → List ChannelArrival → List (Bytes × DriverCoins)
  | _, [] => []
  | reasm, arrival :: later =>
    match pushHandshake prims reasm arrival.now arrival.raw config.hsObf with
    | (.ok (some wire), after) => (wire, arrival.coins) :: messages after later
    | (_, after) => messages after later

/-- The first of some messages that a driver heeds. -/
def firstHeeded (heeds : RekeyInit → DriverCoins → Bytes → Bool) (init : RekeyInit)
    (messages : List (Bytes × DriverCoins)) : Option (Bytes × DriverCoins) :=
  messages.find? fun message => heeds init message.2 message.1

/-- The first valid Response among some messages. -/
def firstValid (init : RekeyInit) (messages : List (Bytes × DriverCoins)) : Option (Bytes × DriverCoins) :=
  firstHeeded (fun init coins wire => Accepts prims config init coins wire) init messages

end Definitions

/-- Datagrams that come out of the channel one after the other. -/
def reads (arrivals : List ChannelArrival) : List RekeyEvent :=
  arrivals.map fun arrival => .read arrival.now arrival.raw arrival.coins

section Steps

variable {prims : Primitives} {config : InboundConfig} {run : RekeyRun}

/-! ### Valid Responses -/

/-- **The peer's Response is valid**: its answer to the Init of the attempt, as sent or after a cookie round. -/
theorem accepts_genuine (keys : prims.KeyExchangeCorrect) (signatures : prims.SignatureCorrect)
    {responder : Authenticator} (cross : Authenticator.Cross prims config.auth responder) {startCoins : StartCoins}
    {handshake answered : Handshake} {initWire delivered respWire : Bytes}
    (started : Handshake.start prims config.auth config.preferred startCoins = .ok (handshake, initWire))
    (delivery : Handshake.InitDelivery initWire delivered) {preferred : AeadAlgo} {respondCoins : RespondCoins}
    (responded : Handshake.respond prims delivered responder preferred respondCoins = .ok (answered, respWire))
    (datagrams : List Bytes) (coins : DriverCoins) :
    Accepts prims config ⟨handshake, datagrams⟩ coins respWire := by
  obtain ⟨encoded, rfl⟩ := Handshake.start_eq_ok_iff.mp started
  obtain ⟨cookie, decoded⟩ := Handshake.decode_delivery encoded delivery
  have fits : config.auth.signatureLen prims ≤ 6923 := by
    rw [← Handshake.length_initMessage_sig config.auth config.preferred startCoins]
    exact (HandshakeMessage.encode_ok_iff _ _).mp ⟨_, encoded⟩
  have contributory : Handshake.nonContributory
      (prims.diffieHellman respondCoins.ephX (prims.x25519Public startCoins.ephX)) = false := by
    obtain ⟨view, received, responds, -⟩ := Handshake.respond_eq_ok_iff.mp responded
    have positive := responds.contributory
    rw [Except.ok.inj (received.symm.trans decoded)] at positive
    exact positive
  obtain ⟨view, respWire', confirmWire, -, -, -, responded', finalized, -⟩ :=
    Handshake.honest_exchange keys signatures cross fits preferred coins.confirm contributory decoded
  obtain ⟨-, rfl⟩ := Prod.mk.inj (Except.ok.inj (responded.symm.trans responded'))
  exact ⟨_, confirmWire, finalized⟩

/-- **An Init is not**, whoever sent it. -/
theorem finalize_init {handshake : Handshake} {auth other : Authenticator} {preferred preferred' : AeadAlgo}
    {startCoins peerCoins : StartCoins} {initWire peerInit : Bytes} {state : Handshake}
    (started : Handshake.start prims auth preferred startCoins = .ok (handshake, initWire))
    (peerStarted : Handshake.start prims other preferred' peerCoins = .ok (state, peerInit))
    (coins : ConfirmCoins) :
    handshake.finalize prims peerInit auth coins = .error (.handshake "finalize" "expected Response") := by
  obtain ⟨-, rfl⟩ := Handshake.start_eq_ok_iff.mp started
  obtain ⟨encoded, -⟩ := Handshake.start_eq_ok_iff.mp peerStarted
  obtain ⟨cookie, decoded⟩ := Handshake.decode_delivery encoded .asSent
  rw [Handshake.finalize, decoded]
  exact if_pos (show HandshakeType.init ≠ .response by decide)

/-- A message that `finalize` refuses is the end of the driver. -/
theorem conclude_error (driver : RekeyDriver) {init : RekeyInit} {wire : Bytes} {coins : DriverCoins}
    {e : ChameleonError} (refused : init.handshake.finalize prims wire config.auth coins.confirm = .error e) :
    driver.conclude prims config init wire coins = ({ driver with stage := .ended (.error e) }, none) := by
  unfold RekeyDriver.conclude
  rw [refused]

/-- **So is any message but a valid Response.** -/
theorem conclude_refused (driver : RekeyDriver) {init : RekeyInit} {wire : Bytes} {coins : DriverCoins}
    (refused : ¬ Accepts prims config init coins wire) :
    ∃ e, driver.conclude prims config init wire coins = ({ driver with stage := .ended (.error e) }, none) := by
  unfold RekeyDriver.conclude
  split
  · exact ⟨_, rfl⟩
  · rename_i session confirmWire finalized
    exact absurd ⟨session, confirmWire, finalized⟩ refused
  · exact ⟨_, rfl⟩

/-- A Confirm is a whole handshake message. -/
theorem length_of_finalize {handshake state : Handshake} {raw wire : Bytes} {auth : Authenticator}
    {coins : ConfirmCoins} (finalized : handshake.finalize prims raw auth coins = .ok (state, wire)) :
    wire.length = handshakeMsgLen := by
  simp only [Handshake.finalize] at finalized
  split at finalized
  · split at finalized
    · cases finalized
    split at finalized
    · cases finalized
    split at finalized
    · cases finalized
    split at finalized
    · cases finalized
    split at finalized
    · cases finalized
    split at finalized
    · cases finalized
    split at finalized
    · cases finalized
    rename_i encoded
    split at finalized
    · cases finalized
    cases finalized
    exact HandshakeMessage.length_of_encode encoded
  · cases finalized

/-- **A valid Response is answered**: the driver sends its Confirm. -/
theorem conclude_accepted (seals : prims.ChachaSeals) (driver : RekeyDriver) {init : RekeyInit} {wire : Bytes}
    {coins : DriverCoins} {session : Session} {confirmWire : Bytes}
    (finalized : init.handshake.finalize prims wire config.auth coins.confirm =
      .ok (.established session, confirmWire)) : ∃ datagrams,
      buildHandshakeDatagrams prims driver.newId confirmWire config.hsObf coins.envelope = .ok datagrams ∧
      driver.conclude prims config init wire coins =
        ({ driver with stage := (sendConfirm session datagrams).1 }, (sendConfirm session datagrams).2) := by
  obtain ⟨datagrams, built⟩ := build_exists seals driver.newId config.hsObf coins.envelope
    (length_of_finalize finalized)
  refine ⟨datagrams, built, ?_⟩
  simp only [RekeyDriver.conclude, finalized, built]

/-! ### The tolerant driver -/

theorem clean_read {init : RekeyInit} {attempt deadline : Nat} {reasm : Reassembler}
    (waiting : run.driver.stage = .waiting init attempt reasm deadline) {now : Nat} {raw : Bytes}
    {coins : DriverCoins} : run.Clean prims config (.read now raw coins) ↔ ∀ wire,
      (pushHandshake prims reasm now raw config.hsObf).1 = .ok (some wire) →
        Accepts prims config init coins wire := by
  refine ⟨fun clean wire => clean init attempt reasm deadline wire waiting, fun all => ?_⟩
  intro init' attempt' reasm' deadline' wire waiting' completes
  cases waiting.symm.trans waiting'
  exact all wire completes

/-- A message that is not a valid Response is skipped, and nothing else is. -/
theorem read_eq_tolerant_iff (run : RekeyRun) (now : Nat) (raw : Bytes) (coins : DriverCoins) :
    run.step (RekeyDriver.read prims config) (.read now raw coins) =
        run.step (readTolerant prims config) (.read now raw coins) ↔
      run.Clean prims config (.read now raw coins) := by
  cases stage : run.driver.stage with
  | waiting init attempt reasm deadline =>
    rw [clean_read stage]
    simp only [step, RekeyDriver.read, readTolerant, readHeeding, stage]
    cases pushed : pushHandshake prims reasm now raw config.hsObf with
    | mk outcome after =>
      match outcome with
      | .error e => exact iff_of_true rfl nofun
      | .ok none => exact iff_of_true rfl nofun
      | .ok (some wire) =>
        by_cases accepts : Accepts prims config init coins wire
        · simp only [decide_eq_true accepts, if_true, true_iff]
          intro other same
          cases same
          exact accepts
        · -- The driver has ended, and the tolerant one waits.
          obtain ⟨e, ended⟩ := conclude_refused run.driver accepts
          simp only [decide_eq_false accepts, Bool.false_eq_true, if_false, ended]
          refine iff_of_false (fun same => ?_) fun all => accepts (all wire rfl)
          have stages := congrArg (fun run : RekeyRun => run.driver.stage) same
          cases stages
  | _ =>
    refine iff_of_true ?_ ?_
    · simp only [step, RekeyDriver.read, readTolerant, readHeeding, stage]
    · intro _ _ _ _ _ waiting
      rw [stage] at waiting
      cases waiting

theorem step_eq_tolerant_iff (run : RekeyRun) (event : RekeyEvent) :
    run.step (RekeyDriver.read prims config) event = run.step (readTolerant prims config) event ↔
      run.Clean prims config event := by
  cases event with
  | read now raw coins => exact read_eq_tolerant_iff run now raw coins
  | _ => exact iff_of_true rfl trivial

theorem follow_append (reading : Reading) (run : RekeyRun) (front back : List RekeyEvent) :
    follow reading run (front ++ back) = follow reading (follow reading run front) back := List.foldl_append

/-- The driver of the source heeds every message. -/
theorem read_eq_heeding : RekeyDriver.read prims config = readHeeding prims config fun _ _ _ => true := by
  funext driver now raw coins
  unfold RekeyDriver.read readHeeding
  cases driver.stage with
  | waiting init attempt reasm deadline =>
    dsimp only
    split <;> simp_all
  | _ => rfl

theorem sendConfirm_deaf (session : Session) (datagrams : List Bytes) (init : RekeyInit) (attempt : Nat)
    (reasm : Reassembler) (deadline : Nat) :
    (sendConfirm session datagrams).1 ≠ .waiting init attempt reasm deadline := by
  cases datagrams <;> nofun

theorem conclude_deaf (driver : RekeyDriver) (init : RekeyInit) (wire : Bytes) (coins : DriverCoins) :
    Deaf (driver.conclude prims config init wire coins).1 := by
  intro init' attempt reasm deadline
  unfold RekeyDriver.conclude
  split
  · nofun
  · split
    · nofun
    · exact sendConfirm_deaf _ _ init' attempt reasm deadline
  · nofun

/-- A driver that does not wait leaves its channel alone. -/
theorem step_deaf (heeds : RekeyInit → DriverCoins → Bytes → Bool) (deaf : Deaf run.driver) (now : Nat)
    (raw : Bytes) (coins : DriverCoins) :
    run.step (readHeeding prims config heeds) (.read now raw coins) = run := by
  cases stage : run.driver.stage with
  | waiting init attempt reasm deadline => exact absurd stage (deaf init attempt reasm deadline)
  | _ => simp only [step, readHeeding, stage, take, Option.none_or]

theorem follow_deaf (heeds : RekeyInit → DriverCoins → Bytes → Bool) (deaf : Deaf run.driver)
    (arrivals : List ChannelArrival) : follow (readHeeding prims config heeds) run (reads arrivals) = run := by
  induction arrivals with
  | nil => rfl
  | cons arrival arrivals ih =>
    rw [reads, List.map_cons, follow, List.foldl_cons, step_deaf heeds deaf]
    exact ih

/-- **A datagram that completes nothing is read past.** -/
theorem step_quiet (heeds : RekeyInit → DriverCoins → Bytes → Bool) {init : RekeyInit} {attempt deadline : Nat}
    {reasm after : Reassembler} (waiting : run.driver.stage = .waiting init attempt reasm deadline)
    {arrival : ChannelArrival} {outcome : Result (Option Bytes)}
    (pushed : pushHandshake prims reasm arrival.now arrival.raw config.hsObf = (outcome, after))
    (nothing : ∀ wire, outcome ≠ .ok (some wire)) :
    run.step (readHeeding prims config heeds) (.read arrival.now arrival.raw arrival.coins) =
      run.wait init attempt after deadline := by
  simp only [step, readHeeding, waiting, pushed]
  rfl

theorem messages_cons {reasm after : Reassembler} {arrival : ChannelArrival} {outcome : Result (Option Bytes)}
    (pushed : pushHandshake prims reasm arrival.now arrival.raw config.hsObf = (outcome, after))
    (nothing : ∀ wire, outcome ≠ .ok (some wire)) (later : List ChannelArrival) :
    messages prims config reasm (arrival :: later) = messages prims config after later := by
  rw [messages, pushed]
  split
  · rename_i wire _ same
    exact absurd (congrArg Prod.fst same) (nothing wire)
  · rename_i same
    obtain ⟨-, rfl⟩ := Prod.mk.inj same
    rfl

/-- **The first message that is heeded decides**: until then the driver waits. -/
theorem follow_heeding (prims : Primitives) (config : InboundConfig)
    (heeds : RekeyInit → DriverCoins → Bytes → Bool) {init : RekeyInit} {attempt deadline : Nat}
    {reasm : Reassembler} (waiting : run.driver.stage = .waiting init attempt reasm deadline)
    (arrivals : List ChannelArrival) :
    (firstHeeded heeds init (messages prims config reasm arrivals) = none →
      ∃ after, follow (readHeeding prims config heeds) run (reads arrivals) =
        run.wait init attempt after deadline) ∧
    ∀ wire coins, firstHeeded heeds init (messages prims config reasm arrivals) = some (wire, coins) →
      follow (readHeeding prims config heeds) run (reads arrivals) =
        run.take (run.driver.conclude prims config init wire coins) := by
  induction arrivals generalizing run reasm with
  | nil =>
    refine ⟨fun _ => ⟨reasm, ?_⟩, nofun⟩
    obtain ⟨⟨newId, sink, stage⟩, installed⟩ := run
    obtain rfl : stage = _ := waiting
    rfl
  | cons arrival arrivals ih =>
    have first : follow (readHeeding prims config heeds) run (reads (arrival :: arrivals)) =
        follow (readHeeding prims config heeds)
          (run.step (readHeeding prims config heeds) (.read arrival.now arrival.raw arrival.coins))
          (reads arrivals) := rfl
    cases pushed : pushHandshake prims reasm arrival.now arrival.raw config.hsObf with
    | mk outcome after =>
      have waits := ih
        (show (run.wait init attempt after deadline).driver.stage = .waiting init attempt after deadline from rfl)
      by_cases completes : ∃ wire, outcome = .ok (some wire)
      · obtain ⟨wire, rfl⟩ := completes
        rw [first]
        simp only [messages, step, readHeeding, waiting, pushed, firstHeeded]
        cases heeded : heeds init arrival.coins wire with
        | true =>
          simp only [List.find?_cons, heeded, if_true]
          refine ⟨nofun, ?_⟩
          rintro _ _ ⟨⟩
          exact follow_deaf heeds (conclude_deaf run.driver init wire arrival.coins) arrivals
        | false =>
          simp only [List.find?_cons, heeded, Bool.false_eq_true, if_false]
          exact waits
      · have nothing := not_exists.mp completes
        rw [first, step_quiet heeds waiting pushed nothing, messages_cons pushed nothing]
        exact waits

/-- **The datagrams of a Confirm leave, and its session is installed.** -/
theorem follow_confirm (reading : Reading) (driver : RekeyDriver) (installed : Option Session) (session : Session)
    (datagrams : List Bytes) (now : Nat) :
    follow reading
        (take ⟨driver, installed⟩
          ({ driver with stage := (sendConfirm session datagrams).1 }, (sendConfirm session datagrams).2))
        (List.replicate datagrams.length (.sent now)) =
      ⟨{ driver with stage := .ended (.ok ()) }, some session⟩ := by
  induction datagrams generalizing driver with
  | nil => rfl
  | cons datagram datagrams ih => exact ih { driver with stage := .sendingConfirm session (datagram :: datagrams) }

/-- **The datagrams of an Init leave, and the attempt waits.** -/
theorem follow_init (reading : Reading) (driver : RekeyDriver) (installed : Option Session) (init : RekeyInit)
    (attempt : Nat) (datagrams : List Bytes) (now : Nat) :
    follow reading ⟨{ driver with stage := init.send now attempt datagrams }, installed⟩
        (List.replicate datagrams.length (.sent now)) =
      ⟨{ driver with stage := .waiting init attempt .new (now + perAttemptTimeout) }, installed⟩ := by
  induction datagrams generalizing driver with
  | nil => rfl
  | cons datagram datagrams ih =>
    exact ih { driver with stage := .sendingInit init attempt (datagram :: datagrams) }

/-! ### Whole messages -/

/-- Datagrams that complete nothing are read past. -/
theorem messages_quiet {front : List (Nat × Bytes)} {base middle : Reassembler}
    (nothing : receiveAll (receiveFragment prims config.hsObf) base front = (front.map fun _ => .ok none, middle))
    (coins : DriverCoins) (later : List ChannelArrival) :
    messages prims config base (front.map (fun arrival => ⟨arrival.1, arrival.2, coins⟩) ++ later) =
      messages prims config middle later := by
  induction front generalizing base with
  | nil =>
    obtain rfl : base = middle := congrArg Prod.snd nothing
    rfl
  | cons arrival front ih =>
    obtain ⟨now, raw⟩ := arrival
    rcases pushed : receiveFragment prims config.hsObf base now raw with ⟨answer, reasm⟩
    rw [receiveAll, pushed, List.map_cons] at nothing
    obtain ⟨answers, left⟩ := Prod.mk.inj nothing
    obtain ⟨rfl, rest⟩ := List.cons.inj answers
    have outcome : pushHandshake prims base now raw config.hsObf = (.ok none, reasm) := by
      rw [pushHandshake_eq, pushed]
      cases config.hsObf <;> rfl
    rw [List.map_cons, List.cons_append, messages_cons outcome fun wire same => by cases same]
    exact ih (Prod.ext rest left)

/-- **A message whose datagrams are delivered is completed**, in any order of them, when the reassembler has
room. -/
theorem messages_built (config : InboundConfig) (correct : prims.AeadCorrect) {sessionId : UInt32}
    {envelope : HsObf.SealCoins} {wire : Bytes} {sent : List Bytes} (long : wire.length = handshakeMsgLen)
    (built : buildHandshakeDatagrams prims sessionId wire config.hsObf envelope = .ok sent) {base : Reassembler}
    (bounded : base.Bounded) (unused : base.partials.lookup (wireMsgId config.hsObf sessionId envelope) = none)
    (capacity : base.partials.length < maxPendingMsgs) {order : List Nat}
    (all : order.Perm (List.range sent.length)) (clock : Nat → Nat) (coins : DriverCoins) :
    ∃ after : Reassembler, (∀ msgId, after.partials.lookup msgId = base.partials.lookup msgId) ∧ ∀ later,
      messages prims config base
          (order.map (fun index => ⟨clock index, sent.getD index [], coins⟩) ++ later) =
        (wire, coins) :: messages prims config after later := by
  obtain ⟨front, now, raw, middle, after, arrivals, nothing, last, restored⟩ :=
    built_arrives correct long built bounded unused capacity all clock
  refine ⟨after, restored, fun later => ?_⟩
  have same : order.map (fun index => (⟨clock index, sent.getD index [], coins⟩ : ChannelArrival)) =
      (front ++ [(now, raw)]).map fun arrival => ⟨arrival.1, arrival.2, coins⟩ := by
    rw [← arrivals, List.map_map]
    rfl
  rw [same, List.map_append, List.append_assoc, messages_quiet nothing]
  simp only [List.map_cons, List.map_nil, List.cons_append, List.nil_append, messages, last]

/-! ### Noise -/

/-- A driver that does not wait completes no message. -/
theorem clean_deaf (deaf : Deaf run.driver) (arrivals : List ChannelArrival) :
    Along (fun run event => some (run.step (RekeyDriver.read prims config) event))
      (fun before event _ => before.Clean prims config event) run (reads arrivals) := by
  induction arrivals with
  | nil => trivial
  | cons arrival arrivals ih =>
    refine ⟨fun init attempt reasm deadline _ waiting => absurd waiting (deaf init attempt reasm deadline), ?_⟩
    rw [read_eq_heeding, step_deaf _ deaf, ← read_eq_heeding]
    exact ih

/-- **In one attempt, the runs without noise are those whose first complete message is a valid Response.** -/
theorem clean_reads_iff {init : RekeyInit} {attempt deadline : Nat} {reasm : Reassembler}
    (waiting : run.driver.stage = .waiting init attempt reasm deadline) (arrivals : List ChannelArrival) :
    Along (fun run event => some (run.step (RekeyDriver.read prims config) event))
        (fun before event _ => before.Clean prims config event) run (reads arrivals) ↔
      ∀ message ∈ (messages prims config reasm arrivals).head?, Accepts prims config init message.2 message.1 := by
  induction arrivals generalizing run reasm with
  | nil => exact iff_of_true trivial nofun
  | cons arrival arrivals ih =>
    have first : Along (fun run event => some (run.step (RekeyDriver.read prims config) event))
          (fun before event _ => before.Clean prims config event) run (reads (arrival :: arrivals)) ↔
        run.Clean prims config (.read arrival.now arrival.raw arrival.coins) ∧
          Along (fun run event => some (run.step (RekeyDriver.read prims config) event))
            (fun before event _ => before.Clean prims config event)
            (run.step (RekeyDriver.read prims config) (.read arrival.now arrival.raw arrival.coins))
            (reads arrivals) := Iff.rfl
    rw [first, clean_read waiting]
    cases pushed : pushHandshake prims reasm arrival.now arrival.raw config.hsObf with
    | mk outcome after =>
      have waits := ih
        (show (run.wait init attempt after deadline).driver.stage = .waiting init attempt after deadline from rfl)
      by_cases completes : ∃ wire, outcome = .ok (some wire)
      · obtain ⟨wire, rfl⟩ := completes
        simp only [messages, step, RekeyDriver.read, waiting, pushed]
        constructor
        · rintro ⟨clean, -⟩ message ⟨⟩
          exact clean wire rfl
        · refine fun valid => ⟨?_, clean_deaf (conclude_deaf run.driver init wire arrival.coins) arrivals⟩
          rintro other ⟨⟩
          exact valid _ rfl
      · have nothing := not_exists.mp completes
        rw [messages_cons pushed nothing, and_iff_right fun wire same => absurd same (nothing wire),
          read_eq_heeding, step_quiet _ waiting pushed nothing, ← read_eq_heeding]
        exact waits

end Steps

/-! ### Runs -/

section Runs

variable {prims : Primitives} {config : InboundConfig}

/-- **When a rekey survives its channel.** In every run of a driver, from every state:

* its steps are those of a driver that takes everything but valid Responses for noise, exactly when each message
  that it completes is one;
* that driver waits on while none is completed, and otherwise installs the session of the first one, once its
  Confirm has left. -/
theorem noise_survived_iff (seals : prims.ChachaSeals) (start : RekeyRun) (events : List RekeyEvent) :
    (Along (fun run event => some (run.step (RekeyDriver.read prims config) event))
        (fun before event after => after = before.step (readTolerant prims config) event) start events ↔
      Along (fun run event => some (run.step (RekeyDriver.read prims config) event))
        (fun before event _ => before.Clean prims config event) start events) ∧
    ∀ init attempt reasm deadline, start.driver.stage = .waiting init attempt reasm deadline → ∀ arrivals,
      (firstValid prims config init (messages prims config reasm arrivals) = none →
        ∃ after, follow (readTolerant prims config) start (reads arrivals) =
          start.wait init attempt after deadline) ∧
      ∀ wire coins, firstValid prims config init (messages prims config reasm arrivals) = some (wire, coins) →
        ∃ session confirmWire datagrams,
          init.handshake.finalize prims wire config.auth coins.confirm = .ok (.established session, confirmWire) ∧
          buildHandshakeDatagrams prims start.driver.newId confirmWire config.hsObf coins.envelope = .ok datagrams ∧
          ∀ now, follow (readTolerant prims config) start
              (reads arrivals ++ List.replicate datagrams.length (.sent now)) =
            ⟨{ start.driver with stage := .ended (.ok ()) }, some session⟩ := by
  refine ⟨along_congr (fun _ => True) ?_ (fun _ _ _ _ _ _ => trivial) trivial, ?_⟩
  · intro before event after _ taken
    rw [← Option.some.inj taken]
    exact step_eq_tolerant_iff before event
  · intro init attempt reasm deadline waiting arrivals
    obtain ⟨waits, concludes⟩ := follow_heeding prims config
      (fun init coins wire => Accepts prims config init coins wire) waiting arrivals
    refine ⟨waits, fun wire coins valid => ?_⟩
    have accepted := List.find?_some valid
    obtain ⟨session, confirmWire, finalized⟩ := of_decide_eq_true accepted
    obtain ⟨datagrams, built, answered⟩ := conclude_accepted seals start.driver finalized
    refine ⟨session, confirmWire, datagrams, finalized, built, fun now => ?_⟩
    rw [follow_append, readTolerant, concludes wire coins valid, answered]
    exact follow_confirm _ start.driver start.installed session datagrams now

end Runs

/-! ### Sample attempts -/

/-- An initiator that talks in the clear. -/
def sampleOwn : InboundConfig := ⟨Handshake.sampleInitiator, .aegis256X2, none, false⟩

/-- Random values for what the driver draws. -/
def sampleCoins : DriverCoins where
  respond := Handshake.sampleRespond
  confirm := Handshake.sampleConfirm
  challenge := ⟨fun _ => 0, fun _ => 0, fun _ => 0, fun _ => 0⟩
  padNoise := fun _ => 0
  envelope := ⟨.zero 12, 0, fun _ => 0⟩

/-- Its driver, up to the first send. -/
def sampleBegun : RekeyRun :=
  ⟨.begin .transparent sampleOwn .paced 9 10000 Handshake.sampleStart sampleCoins.envelope, none⟩

/-- The datagrams of a message come in. -/
def delivered (sent : List Bytes) : List ChannelArrival :=
  (List.range sent.length).map fun index => ⟨10100, sent.getD index [], sampleCoins⟩

/-- The sample driver waits, and there is a valid Response. -/
theorem exists_attempt : ∃ handshake datagrams initWire respWire,
    Handshake.start .transparent sampleOwn.auth sampleOwn.preferred Handshake.sampleStart =
        .ok (handshake, initWire) ∧
      (∀ reading, follow reading sampleBegun (List.replicate datagrams.length (.sent 10000)) =
        ⟨⟨9, .paced, .waiting ⟨handshake, datagrams⟩ 1 .new 10800⟩, none⟩) ∧
      respWire.length = handshakeMsgLen ∧
      ∀ coins, Accepts .transparent sampleOwn ⟨handshake, datagrams⟩ coins respWire := by
  obtain ⟨handshake, initWire, datagrams, started, -, begun⟩ := RekeyDriver.begin_exists
    Primitives.transparent_chachaSeals (show sampleOwn.auth.signatureLen .transparent ≤ 6923 by decide) .paced 9
    10000 Handshake.sampleStart sampleCoins.envelope
  obtain ⟨encoded, -⟩ := Handshake.start_eq_ok_iff.mp started
  obtain ⟨cookie, decoded⟩ := Handshake.decode_delivery encoded .asSent
  obtain ⟨view, respWire, confirmWire, -, -, -, responded, -⟩ := Handshake.honest_exchange
    Primitives.transparent_keyExchangeCorrect Primitives.transparent_signatureCorrect
    Handshake.sample_cross (by decide) .aegis256X2 Handshake.sampleConfirm Handshake.sample_contributory decoded
  obtain ⟨view', -, -, respEncoded, -⟩ := Handshake.respond_eq_ok_iff.mp responded
  refine ⟨handshake, datagrams, initWire, respWire, started, fun reading => ?_,
    HandshakeMessage.length_of_encode respEncoded, fun coins => ?_⟩
  · rw [sampleBegun, begun]
    exact follow_init reading ⟨9, .paced, .ended (.ok ())⟩ none ⟨handshake, datagrams⟩ 1 datagrams 10000
  · exact accepts_genuine Primitives.transparent_keyExchangeCorrect Primitives.transparent_signatureCorrect
      Handshake.sample_cross started .asSent responded datagrams coins

/-- The datagrams of a message, in the clear, make it a complete one. -/
theorem messages_delivered (sessionId : UInt32) {wire : Bytes} (long : wire.length = handshakeMsgLen) :
    ∃ sent, buildHandshakeDatagrams .transparent sessionId wire none sampleCoins.envelope = .ok sent ∧ ∀ later,
      messages .transparent sampleOwn .new (delivered sent ++ later) =
        (wire, sampleCoins) :: messages .transparent sampleOwn .new later := by
  obtain ⟨sent, built⟩ := build_clear_exists .transparent sessionId wire sampleCoins.envelope
  obtain ⟨after, restored, completes⟩ := messages_built sampleOwn Primitives.transparent_aeadCorrect long
    built Reassembler.bounded_new rfl (by decide) (.refl _) (fun _ => 10100) sampleCoins
  obtain rfl := Reassembler.eq_new restored
  exact ⟨sent, built, completes⟩

/-- A corrupt datagram is noise, and the Response after it is not. -/
theorem noise_survived_iff_sample : ∃ (waiting : RekeyRun) (sent : List Bytes),
    (∃ sends, follow (RekeyDriver.read .transparent sampleOwn) sampleBegun (List.replicate sends (.sent 10000)) =
      waiting) ∧
    Along (fun run event => some (run.step (RekeyDriver.read .transparent sampleOwn) event))
      (fun before event after => after = before.step (readTolerant .transparent sampleOwn) event) waiting
      (reads (⟨10050, [], sampleCoins⟩ :: delivered sent)) ∧
    ∃ session sends, follow (readTolerant .transparent sampleOwn) waiting
      (reads (⟨10050, [], sampleCoins⟩ :: delivered sent) ++ List.replicate sends (.sent 10200)) =
        ⟨⟨9, .paced, .ended (.ok ())⟩, some session⟩ := by
  obtain ⟨handshake, datagrams, initWire, respWire, -, begun, long, accepted⟩ := exists_attempt
  obtain ⟨sent, -, completes⟩ := messages_delivered 6 long
  have complete : messages .transparent sampleOwn .new (⟨10050, [], sampleCoins⟩ :: delivered sent) =
      [(respWire, sampleCoins)] := by
    have corrupt : messages .transparent sampleOwn .new (⟨10050, [], sampleCoins⟩ :: delivered sent) =
        messages .transparent sampleOwn .new (delivered sent) := rfl
    rw [corrupt, ← List.append_nil (delivered sent), completes]
    rfl
  obtain ⟨same, tolerant⟩ := @noise_survived_iff .transparent sampleOwn
    Primitives.transparent_chachaSeals
    ⟨⟨9, .paced, .waiting ⟨handshake, datagrams⟩ 1 .new 10800⟩, none⟩
    (reads (⟨10050, [], sampleCoins⟩ :: delivered sent))
  refine ⟨_, sent, ⟨datagrams.length, begun _⟩, same.mpr ((clean_reads_iff rfl _).mpr ?_), ?_⟩
  · rw [complete]
    rintro message ⟨⟩
    exact accepted sampleCoins
  · have valid : firstValid .transparent sampleOwn ⟨handshake, datagrams⟩
        (messages .transparent sampleOwn .new (⟨10050, [], sampleCoins⟩ :: delivered sent)) =
          some (respWire, sampleCoins) := by
      rw [complete, firstValid, firstHeeded]
      exact List.find?_cons_of_pos (decide_eq_true (accepted sampleCoins))
    obtain ⟨session, confirmWire, confirm, -, -, installs⟩ := (tolerant _ 1 .new 10800 rfl _).2 _ _ valid
    exact ⟨session, confirm.length, installs 10200⟩

/-- **The peer's own Init ends a rekey**: the genuine Response is delivered in time, behind it on the channel, and
no session is installed. -/
theorem init_ends_rekey : ∃ (sends : Nat) (init : RekeyInit) (peerInit respWire : Bytes)
    (arrivals : List ChannelArrival),
    follow (RekeyDriver.read .transparent sampleOwn) sampleBegun (List.replicate sends (.sent 10000)) =
      ⟨⟨9, .paced, .waiting init 1 .new 10800⟩, none⟩ ∧
    (∃ state, Handshake.start .transparent Handshake.sampleResponder .aegis256X2 Handshake.sampleStart =
      .ok (state, peerInit)) ∧
    Accepts .transparent sampleOwn init sampleCoins respWire ∧
    messages .transparent sampleOwn .new arrivals = [(peerInit, sampleCoins), (respWire, sampleCoins)] ∧
    follow (RekeyDriver.read .transparent sampleOwn) sampleBegun
        (List.replicate sends (.sent 10000) ++ reads arrivals) =
      ⟨⟨9, .paced, .ended (.error (.handshake "finalize" "expected Response"))⟩, none⟩ := by
  obtain ⟨handshake, datagrams, initWire, respWire, started, begun, long, accepted⟩ := exists_attempt
  obtain ⟨peerInit, encoded⟩ := Handshake.encode_exists
    ((Handshake.length_initMessage_sig Handshake.sampleResponder .aegis256X2 Handshake.sampleStart).le.trans
      (by decide : Handshake.sampleResponder.signatureLen .transparent ≤ 6923)) Handshake.sampleStart.padNoise
  have peerStarted := Handshake.start_eq_ok_iff.mpr ⟨encoded, rfl⟩
  obtain ⟨first, -, completesFirst⟩ := messages_delivered 5 (HandshakeMessage.length_of_encode encoded)
  obtain ⟨second, -, completesSecond⟩ := messages_delivered 6 long
  have complete : messages .transparent sampleOwn .new (delivered first ++ delivered second) =
      [(peerInit, sampleCoins), (respWire, sampleCoins)] := by
    rw [completesFirst, ← List.append_nil (delivered second), completesSecond]
    rfl
  refine ⟨datagrams.length, ⟨handshake, datagrams⟩, peerInit, respWire, delivered first ++ delivered second,
    begun _, ⟨_, peerStarted⟩, accepted sampleCoins, complete, ?_⟩
  have refused := finalize_init started peerStarted sampleCoins.confirm
  rw [follow_append, begun, read_eq_heeding,
    (follow_heeding .transparent sampleOwn (fun _ _ _ => true)
      (show (⟨⟨9, .paced, .waiting ⟨handshake, datagrams⟩ 1 .new 10800⟩, none⟩ : RekeyRun).driver.stage = _ from rfl)
      _).2 peerInit sampleCoins (by rw [complete]; rfl), conclude_error _ refused]
  rfl

end RekeyRun

end ChameleonPQ
