/-
**One end of the tunnel (`tunnel_loops.rs`, `rekey.rs`).**

The inbound loop, the outbound loop and the rekey driver, with the two bounded channels between them:
the inbound loop hands handshake datagrams to the driver, and both hand datagrams to the pacer. Trial
decryption happens in the workers' order; the loop takes the results in any order.

* `Node.step` — one event: what every task can do next, and the handshake datagrams it puts on the wire.
* `BlockedOnDriver`, `BlockedOnPaced` — the loop waits for a place in a channel.
* `take_step` — what the demultiplexer hands on.
* `inbound_drained` — in every run, the loop waits on a channel only while somebody drains it, exactly
  while no step takes the reader away from a waiting loop or has it wait where nobody reads.
-/

import ChameleonPQ.Config
import ChameleonPQ.Net.DriverRuns
import ChameleonPQ.Tunnel.Rekey

namespace ChameleonPQ

open Library Library.Runs

/-- The capacity of `handshake_channel`. -/
def handshakeChannel : Nat := 16

/-- The capacity of the paced handshake queue. -/
def pacedChannel : Nat := 16

/-- What one end of the tunnel is started with. -/
structure NodeConfig extends InboundConfig where
  obfEnabled : Bool

/-- A received datagram, and what trial decryption made of it. -/
structure Opened where
  src : SocketAddr
  raw : Bytes
  outcome : Option (FrameType × Bytes)
  deriving DecidableEq

/-- One end of the tunnel. -/
structure Node where
  inbound : Inbound
  opened : List Opened
  /-- What the inbound loop still has to do for the datagram it is at. -/
  agenda : List Effect
  driver : Option RekeyDriver
  hsQueue : List Bytes
  hsSend : List Bytes
  paced : Bool
  /-- The outbound loop's mode, as the inbound loop reads it. -/
  pacedState : Bool
  paceBurst : Nat
  rekeying : Bool
  /-- Grace periods that run. -/
  retirements : Nat

/-- What can happen next. -/
inductive NodeEvent where
  /-- A worker opens a datagram. -/
  | decrypt (src : SocketAddr) (raw : Bytes)
  /-- The inbound loop takes one of the results. -/
  | take (index now : Nat) (sends : Bool) (coins : InboundCoins)
  /-- The inbound loop does the next thing for the datagram it is at. -/
  | work
  /-- The TUN channel is closed when the inbound loop has a packet for it. -/
  | tunCloses
  | prune (now : Nat)
  /-- The ticker of the outbound loop fired. -/
  | tick (now : Nat) (newId : UInt32) (start : StartCoins) (envelope : HsObf.SealCoins)
  | driverSends (now : Nat) (success : Bool)
  | driverReads (now : Nat) (coins : DriverCoins)
  | driverTimesOut (now : Nat)
  /-- The outbound loop sees that the driver ended. -/
  | rekeyDone
  | switch (eff : EffectiveTraffic)
  /-- Counters are reserved on the current session. -/
  | reserve (n : Nat)
  | retire

/-- A datagram that trial decryption opened or not. -/
def Inbound.take (prims : Primitives) (config : InboundConfig) (flags : Flags) (inbound : Inbound)
    (now : Nat) (datagram : Opened) (coins : InboundCoins) : Inbound × List Effect :=
  match datagram.outcome with
  | some (frameType, plain) => inbound.takeOpened config flags datagram.src frameType plain
  | none => inbound.takeOther prims config flags now datagram.src datagram.raw coins

namespace Node

section Definitions

variable (prims : Primitives) (config : NodeConfig)

/-- The tunnel starts on the given sessions. -/
def begin (sessions : SessionManager Session) (peer : SocketAddr) (eff : EffectiveTraffic) : Node where
  inbound := .begin sessions peer
  opened := []
  agenda := []
  driver := none
  hsQueue := []
  hsSend := []
  paced := eff.enabled && config.obfEnabled
  pacedState := eff.enabled && config.obfEnabled
  paceBurst := max eff.burst.toNat 1
  rekeying := false
  retirements := 0

/-- The sessions are replaced. -/
def withSessions (node : Node) (sessions : SessionManager Session) : Node :=
  { node with inbound := { node.inbound with sessions } }

/-- A worker's trial decryption. -/
def decrypt (node : Node) (src : SocketAddr) (raw : Bytes) : Node :=
  let (outcome, sessions) := node.inbound.sessions.decryptObf prims raw
  { node.withSessions sessions with opened := node.opened ++ [⟨src, raw, outcome.toOption⟩] }

/-- The inbound loop takes a result; a send to the pacer does not fail, and the TUN channel is asked when
the loop comes to the packet. -/
def take (node : Node) (index now : Nat) (sends : Bool) (coins : InboundCoins) (datagram : Opened) :
    Node :=
  let flags : Flags := ⟨node.rekeying, node.pacedState, node.pacedState || sends, true⟩
  let (inbound, agenda) :=
    node.inbound.take prims config.toInboundConfig flags now datagram coins
  { node with inbound, agenda, opened := node.opened.eraseIdx index }

/-- What the inbound loop does next; `none` while the channel is full. -/
def work (node : Node) : Option (Node × List (SocketAddr × Bytes)) :=
  match node.agenda with
  | [] => none
  | .toDriver raw :: agenda =>
    if node.hsQueue.length < handshakeChannel then
      some ({ node with hsQueue := node.hsQueue ++ [raw], agenda }, [])
    else none
  | .sendPaced (datagram :: left) :: agenda =>
    if node.hsSend.length < pacedChannel then
      some ({ node with hsSend := node.hsSend ++ [datagram], agenda := .sendPaced left :: agenda }, [])
    else none
  | .sendPaced [] :: agenda => some ({ node with agenda }, [])
  | .sendDirect dst datagrams :: agenda => some ({ node with agenda }, datagrams.map (dst, ·))
  | .scheduleRetire :: agenda => some ({ node with agenda, retirements := node.retirements + 1 }, [])
  | .toTun _ :: agenda => some ({ node with agenda }, [])
  | .announced _ :: agenda => some ({ node with agenda }, [])

/-- `to_tun.send` fails: the loop ends at the packet. -/
def tunCloses (node : Node) : Option Node :=
  match node.agenda with
  | .toTun _ :: _ => some { node with inbound := { node.inbound with running := false } }
  | _ => none

/-- The queued handshake datagrams of a slot; an unpaced loop leaves them alone. -/
def slot (node : Node) : Node × List (SocketAddr × Bytes) :=
  if node.paced = true then
    ({ node with hsSend := node.hsSend.drop node.paceBurst },
      (node.hsSend.take node.paceBurst).map (node.inbound.peer, ·))
  else (node, [])

/-- Where a rekey that starts now sends. -/
def sink (node : Node) : HandshakeSink :=
  if node.paced = true then .paced else .direct node.inbound.peer

/-- The rekey trigger at the end of the tick arm. -/
def triggerRekey (node : Node) (now : Nat) (newId : UInt32) (start : StartCoins)
    (envelope : HsObf.SealCoins) : Node :=
  let (due, sessions) :=
    node.inbound.sessions.needsRekey node.inbound.sessions.current.txCounter now
  if due = true ∧ node.rekeying = false then
    { node.withSessions sessions with
      rekeying := true
      driver := some (.begin prims config.toInboundConfig node.sink newId now start envelope) }
  else node.withSessions sessions

/-- The driver's next datagram leaves; `none` when it has none, or waits for a place. -/
def driverSends (node : Node) (driver : RekeyDriver) (now : Nat) (success : Bool) :
    Option (Node × List (SocketAddr × Bytes)) :=
  match driver.nextDatagram with
  | none => none
  | some datagram =>
    let (after, established) := driver.sent now
    let sessions := match established with
      | some session => node.inbound.sessions.installNewSession session
      | none => node.inbound.sessions
    match driver.sink with
    | .direct peer =>
      if success = true then
        some ({ node.withSessions sessions with driver := some after }, [(peer, datagram)])
      else some ({ node with driver := some driver.sendFailed }, [])
    | .paced =>
      if node.hsSend.length < pacedChannel then
        some ({ node.withSessions sessions with
          driver := some after
          hsSend := node.hsSend ++ [datagram] }, [])
      else none

/-- The driver takes a datagram from the channel. -/
def driverReads (node : Node) (driver : RekeyDriver) (now : Nat) (coins : DriverCoins) : Option Node :=
  match driver.stage, node.hsQueue with
  | .waiting _ _ _ _, raw :: hsQueue =>
    let (after, established) := driver.read prims config.toInboundConfig now raw coins
    let sessions := match established with
      | some session => node.inbound.sessions.installNewSession session
      | none => node.inbound.sessions
    some { node.withSessions sessions with driver := some after, hsQueue }
  | _, _ => none

/-- The attempt's timer fires. -/
def driverTimesOut (node : Node) (driver : RekeyDriver) (now : Nat) : Option Node :=
  match driver.stage with
  | .waiting _ _ _ deadline =>
    if now < deadline then none else some { node with driver := some (driver.timeOut now) }
  | _ => none

/-- The rekey result arm. -/
def rekeyDone (node : Node) (driver : RekeyDriver) : Option Node :=
  match driver.stage with
  | .ended (.ok ()) =>
    some { node with driver := none, rekeying := false, retirements := node.retirements + 1 }
  | .ended (.error _) =>
    some { node.withSessions node.inbound.sessions.abortRekey with driver := none, rekeying := false }
  | _ => none

/-- The mode after a live switch. -/
def newPaced (eff : EffectiveTraffic) : Bool := eff.enabled && config.obfEnabled

/-- The live switch arm, as far as it goes for handshake datagrams. -/
def switch (node : Node) (eff : EffectiveTraffic) : Node :=
  { node with
    paced := newPaced config eff
    pacedState := newPaced config eff
    paceBurst := max eff.burst.toNat 1 }

/-- One event, and what it puts on the wire; `none` when it cannot happen now. -/
def react (node : Node) : NodeEvent → Option (Node × List (SocketAddr × Bytes))
  | .decrypt src raw => some (node.decrypt prims src raw, [])
  | .take index now sends coins =>
    match node.agenda, node.opened[index]? with
    | [], some datagram => some (node.take prims config index now sends coins datagram, [])
    | _, _ => none
  | .work => node.work
  | .tunCloses => node.tunCloses.map (·, [])
  | .prune now =>
    match node.agenda with
    | [] => some ({ node with inbound := node.inbound.prune now }, [])
    | _ => none
  | .tick now newId start envelope =>
    let (served, sent) := node.slot
    some (served.triggerRekey prims config now newId start envelope, sent)
  | .driverSends now success => node.driver.bind fun driver => node.driverSends driver now success
  | .driverReads now coins =>
    node.driver.bind fun driver => (node.driverReads prims config driver now coins).map (·, [])
  | .driverTimesOut now =>
    node.driver.bind fun driver => (node.driverTimesOut driver now).map (·, [])
  | .rekeyDone => node.driver.bind fun driver => (node.rekeyDone driver).map (·, [])
  | .switch eff => some (node.switch config eff, [])
  | .reserve n =>
    some (node.withSessions { node.inbound.sessions with
      current := (node.inbound.sessions.current.reserveCounters n).2 }, [])
  | .retire =>
    if 0 < node.retirements then
      some ({ node.withSessions node.inbound.sessions.retirePrevious with
        retirements := node.retirements - 1 }, [])
    else none

/-- One step of a tunnel that runs. -/
def step (node : Node) (event : NodeEvent) : Option Node :=
  if node.inbound.running = true then (node.react prims config event).map Prod.fst else none

end Definitions

/-! ### Waiting on the channels -/

/-- The inbound loop waits for a place in the driver's channel. -/
def BlockedOnDriver (node : Node) : Prop :=
  (∃ raw rest, node.agenda = .toDriver raw :: rest) ∧ handshakeChannel ≤ node.hsQueue.length

/-- The inbound loop is at a Response that goes to the pacer. -/
def HandsToPacer (node : Node) : Prop :=
  ∃ datagram left rest, node.agenda = .sendPaced (datagram :: left) :: rest

/-- The inbound loop waits for a place in the paced queue. -/
def BlockedOnPaced (node : Node) : Prop :=
  node.HandsToPacer ∧ pacedChannel ≤ node.hsSend.length

/-- The paced queue is full, and an unpaced loop does not drain it. -/
def Stalled (node : Node) : Prop := pacedChannel ≤ node.hsSend.length ∧ node.paced = false

/-- The next datagram takes the last place of a paced queue that is not drained. -/
def LastPlace (node : Node) : Prop := node.hsSend.length + 1 = pacedChannel ∧ node.paced = false

/-- The stage comes to the channel: it reads it, or sends an Init that is not held up for good. -/
def StageReads (stalled : Prop) (sink : HandshakeSink) : RekeyStage → Prop
  | .waiting _ _ _ _ => True
  | .sendingInit _ _ _ => sink = .paced → ¬ stalled
  | .sendingConfirm _ _ | .ended _ => False

/-- A rekey driver that still reads the channel is in flight. -/
def Reading (node : Node) : Prop :=
  ∃ driver, node.driver = some driver ∧ StageReads node.Stalled driver.sink driver.stage

/-- **Somebody drains the channel the inbound loop waits on.** -/
structure Drained (node : Node) : Prop where
  driver : node.BlockedOnDriver → node.Reading
  pacer : node.BlockedOnPaced → node.paced = true

section Condition

variable (prims : Primitives) (config : NodeConfig)

/-- A handshake fragment, in the framing in use. -/
def IsHandshake (raw : Bytes) : Prop :=
  match config.hsObf with
  | some key => (HsObf.unmaskFragment prims key raw).isSome = true
  | none => ∃ frame, Frame.decode raw = .ok frame ∧ frame.frameType = .handshake

/-- The demultiplexer hands the datagram to the driver. -/
def ForDriver (node : Node) (datagram : Opened) : Prop :=
  node.rekeying = true ∧ datagram.outcome = none ∧ datagram.src = node.inbound.peer ∧
    IsHandshake prims config datagram.raw

/-- The step does not have the loop wait where nobody drains: a datagram for the driver finds a place
or a reader; the last place of a paced queue that is not drained goes to nobody who has more to send
while the loop depends on it; and while the loop waits, the driver does not give up and the pacing it
waits for is not switched off. -/
def Harmless (node : Node) : NodeEvent → Prop
  | .take index _ _ _ => ∀ datagram, node.opened[index]? = some datagram →
      node.ForDriver prims config datagram →
        node.hsQueue.length < handshakeChannel ∨ node.Reading
  | .work => ∀ datagram next left rest, node.agenda = .sendPaced (datagram :: next :: left) :: rest →
      ¬ node.LastPlace
  | .driverSends _ success => ∀ driver, node.driver = some driver →
      match driver.sink with
      | .direct _ => node.BlockedOnDriver → success = true
      | .paced => node.LastPlace → ¬ node.HandsToPacer ∧
          (node.BlockedOnDriver → ∃ init attempt datagram,
            driver.stage = .sendingInit init attempt [datagram])
  | .driverTimesOut _ => node.BlockedOnDriver → ∀ driver init attempt reasm deadline,
      node.driver = some driver → driver.stage = .waiting init attempt reasm deadline →
        attempt < maxRekeyRetries ∧ (driver.sink = .paced → init.datagrams ≠ [] → ¬ node.Stalled)
  | .switch eff => newPaced config eff = false → ¬ node.BlockedOnPaced ∧
      (node.BlockedOnDriver → ∀ driver init attempt left, node.driver = some driver →
        driver.stage = .sendingInit init attempt left → driver.sink = .paced →
          node.hsSend.length < pacedChannel)
  | _ => True

end Condition

/-- What holds in every reachable state. -/
structure Sound (node : Node) : Prop where
  rekeying : node.driver.isSome = true → node.rekeying = true
  pacedState : node.pacedState = node.paced
  single : node.agenda.length ≤ 1
  bounded : node.hsQueue.length ≤ handshakeChannel

/-! ### What the demultiplexer hands on -/

/-- At most one thing to do, nothing for the driver, and a Response for the pacer only when the loop
reads the paced mode. -/
structure Mild (flags : Flags) (effects : List Effect) : Prop where
  single : effects.length ≤ 1
  notDriver : ∀ raw, Effect.toDriver raw ∉ effects
  paced : ∀ datagrams, Effect.sendPaced datagrams ∈ effects → flags.paced = true

section Demultiplexer

variable {prims : Primitives} {config : InboundConfig} {flags : Flags} {inbound : Inbound} {now : Nat}
  {src : SocketAddr} {raw : Bytes} {coins : InboundCoins}

theorem Mild.nil : Mild flags [] := ⟨Nat.zero_le _, fun _ => nofun, fun _ => nofun⟩

theorem Mild.one {effect : Effect} (notDriver : ∀ raw, effect ≠ .toDriver raw)
    (paced : ∀ datagrams, effect = .sendPaced datagrams → flags.paced = true) : Mild flags [effect] :=
  ⟨le_rfl, fun raw member => notDriver raw (List.mem_singleton.mp member).symm,
    fun datagrams member => paced datagrams (List.mem_singleton.mp member).symm⟩

theorem respondRekey_mild (initWire : Bytes) :
    Mild flags (inbound.respondRekey prims config flags src initWire coins).2 := by
  unfold Inbound.respondRekey
  split
  · exact .nil
  · split
    · exact .nil
    · split
      · by_cases paced : flags.paced = true
        · rw [if_pos paced]
          exact .one (fun _ => nofun) fun _ _ => paced
        · rw [if_neg paced]
          exact .one (fun _ => nofun) fun _ => nofun
      · exact .nil
  · exact .nil

theorem confirmRekey_mild (handshake : Handshake) (confirmWire : Bytes) :
    Mild flags (inbound.confirmRekey prims config handshake confirmWire).2 := by
  unfold Inbound.confirmRekey
  split
  · exact .one (fun _ => nofun) fun _ => nofun
  · exact .nil

theorem sendToTun_mild (inbound : Inbound) (plain : Bytes) : Mild flags (inbound.sendToTun flags plain).2 := by
  unfold Inbound.sendToTun
  split
  · exact .one (fun _ => nofun) fun _ => nofun
  · exact .nil

/-- While a rekey runs, a handshake datagram is the driver's. -/
theorem demultiplex_rekeying (rekeying : flags.rekeying = true)
    (push : Reassembler → Result (Option Bytes) × Reassembler) :
    inbound.demultiplex prims config flags src raw coins push = (inbound, [.toDriver raw]) :=
  if_pos rekeying

theorem demultiplex_mild (quiet : flags.rekeying = false)
    (push : Reassembler → Result (Option Bytes) × Reassembler) :
    Mild flags (inbound.demultiplex prims config flags src raw coins push).2 := by
  unfold Inbound.demultiplex
  rw [if_neg (by rw [quiet]; decide)]
  split
  · split
    · exact respondRekey_mild _
    · exact .nil
  · split
    · exact confirmRekey_mild _ _
    · exact .nil

/-- What the loop does for a datagram that was not opened. -/
theorem takeOther_hands (obf : Bool) :
    (flags.rekeying = true ∧ src = inbound.peer ∧ IsHandshake prims ⟨config, obf⟩ raw →
      (inbound.takeOther prims config flags now src raw coins).2 = [.toDriver raw]) ∧
    (¬ (flags.rekeying = true ∧ src = inbound.peer ∧ IsHandshake prims ⟨config, obf⟩ raw) →
      Mild flags (inbound.takeOther prims config flags now src raw coins).2) := by
  unfold Inbound.takeOther IsHandshake
  by_cases foreign : src = inbound.peer
  swap
  · rw [if_pos foreign]
    exact ⟨fun all => absurd all.2.1 foreign, fun _ => .nil⟩
  rw [if_neg (not_not.mpr foreign)]
  have demultiplexed : ∀ push, (flags.rekeying = true →
      (inbound.demultiplex prims config flags src raw coins push).2 = [.toDriver raw]) ∧
      (flags.rekeying = false →
        Mild flags (inbound.demultiplex prims config flags src raw coins push).2) := fun push =>
    ⟨fun rekeying => congrArg Prod.snd (demultiplex_rekeying rekeying push), fun quiet =>
      demultiplex_mild quiet push⟩
  rcases framing : config.hsObf with _ | key
  · dsimp only
    rcases decoded : Frame.decode raw with e | frame
    · exact ⟨fun ⟨_, _, _, impossible, _⟩ => (nomatch impossible), fun _ => .nil⟩
    dsimp only
    unfold Inbound.takeFrame
    have other : ∀ effects, frame.frameType ≠ .handshake → Mild flags effects →
        (flags.rekeying = true ∧ src = inbound.peer ∧
          (∃ frame', (Except.ok frame : Result Frame) = .ok frame' ∧
            frame'.frameType = .handshake) → effects = [.toDriver raw]) ∧
        (¬ (flags.rekeying = true ∧ src = inbound.peer ∧
          (∃ frame', (Except.ok frame : Result Frame) = .ok frame' ∧
            frame'.frameType = .handshake)) → Mild flags effects) := fun effects kind mild =>
      ⟨fun ⟨_, _, frame', same, handshake⟩ =>
        absurd (Except.ok.inj same ▸ handshake) kind, fun _ => mild⟩
    rcases kind : frame.frameType with _ | _ | _ | _ | _ | _ <;> dsimp only
    · refine other _ (by rw [kind]; nofun) ?_
      split
      · exact sendToTun_mild _ _
      · exact .nil
    · refine ⟨fun all => (demultiplexed _).1 all.1, fun not => (demultiplexed _).2 ?_⟩
      exact Bool.eq_false_iff.mpr fun rekeying => not ⟨rekeying, foreign, frame, rfl, kind⟩
    all_goals exact other _ (by rw [kind]; nofun) .nil
  · dsimp only
    split
    · rename_i noise
      exact ⟨fun all => by simp [noise] at all, fun _ => .nil⟩
    · rename_i fragment
      refine ⟨fun all => (demultiplexed _).1 all.1, fun not => (demultiplexed _).2 ?_⟩
      exact Bool.eq_false_iff.mpr fun rekeying => not ⟨rekeying, foreign, by rw [fragment]; rfl⟩

end Demultiplexer

/-! ### One step -/

/-- A driver comes to the channel all the sooner when the paced queue is less of a hindrance. -/
theorem stageReads_mono {stalled stalled' : Prop} (less : stalled' → stalled) {sink : HandshakeSink}
    {stage : RekeyStage} (reads : StageReads stalled sink stage) : StageReads stalled' sink stage := by
  cases stage with
  | sendingInit init attempt left => exact fun paced held => reads paced (less held)
  | waiting _ _ _ _ => trivial
  | sendingConfirm _ _ => exact reads
  | ended _ => exact reads

section Steps

variable {prims : Primitives} {config : NodeConfig} {node after : Node} {event : NodeEvent}

/-- What the loop is left with when it takes a datagram. -/
theorem take_hands (prims : Primitives) (config : NodeConfig) (node : Node) (index now : Nat)
    (sends : Bool) (coins : InboundCoins) (datagram : Opened) :
    (node.ForDriver prims config datagram →
      (node.take prims config index now sends coins datagram).agenda = [.toDriver datagram.raw]) ∧
    (¬ node.ForDriver prims config datagram →
      Mild ⟨node.rekeying, node.pacedState, node.pacedState || sends, true⟩
        (node.take prims config index now sends coins datagram).agenda) := by
  unfold ForDriver take Inbound.take
  obtain ⟨src, raw, outcome⟩ := datagram
  cases outcome with
  | some opened =>
    refine ⟨fun all => (nomatch all.2.1), fun _ => ?_⟩
    obtain ⟨frameType, plain⟩ := opened
    unfold Inbound.takeOpened
    cases frameType with
    | data => exact sendToTun_mild (node.inbound.follow config.toInboundConfig src) plain
    | profile => exact .one (fun _ => nofun) fun _ => nofun
    | keepAlive | handshake | padding | close => exact .nil
  | none =>
    refine ⟨fun ⟨rekeying, _, fromPeer, kind⟩ => ?_, fun not => ?_⟩
    · exact (takeOther_hands config.obfEnabled).1 ⟨rekeying, fromPeer, kind⟩
    · exact (takeOther_hands config.obfEnabled).2 fun ⟨rekeying, fromPeer, kind⟩ =>
        not ⟨rekeying, rfl, fromPeer, kind⟩

theorem not_blockedOnDriver (idle : ∀ raw, Effect.toDriver raw ∉ node.agenda) :
    ¬ node.BlockedOnDriver := by
  rintro ⟨⟨raw, rest, agenda⟩, -⟩
  exact idle raw (agenda ▸ List.mem_cons_self)

theorem not_handsToPacer (idle : ∀ datagrams, Effect.sendPaced datagrams ∉ node.agenda) :
    ¬ node.HandsToPacer := by
  rintro ⟨datagram, left, rest, agenda⟩
  exact idle _ (agenda ▸ List.mem_cons_self)

/-- A step that leaves the channels, the agenda, the driver and the mode alone. -/
theorem Drained.of_same (drained : node.Drained) (agenda : after.agenda = node.agenda)
    (driver : after.driver = node.driver) (hsQueue : after.hsQueue = node.hsQueue)
    (hsSend : after.hsSend = node.hsSend) (paced : after.paced = node.paced) : after.Drained := by
  obtain ⟨reads, drains⟩ := drained
  refine ⟨?_, ?_⟩
  · unfold BlockedOnDriver Reading Stalled
    rw [agenda, driver, hsQueue, hsSend, paced]
    exact reads
  · unfold BlockedOnPaced HandsToPacer
    rw [agenda, hsSend, paced]
    exact drains

/-- **Taking a datagram** leaves the loop drained exactly when a datagram for the driver finds a place
or a reader. -/
theorem drained_take (sound : node.Sound) {index now : Nat} {sends : Bool}
    {coins : InboundCoins} {datagram : Opened} (present : node.opened[index]? = some datagram) :
    (node.take prims config index now sends coins datagram).Drained ↔
      node.Harmless prims config (.take index now sends coins) := by
  have harmless : node.Harmless prims config (.take index now sends coins) ↔
      (node.ForDriver prims config datagram →
        node.hsQueue.length < handshakeChannel ∨ node.Reading) := by
    refine ⟨fun all => all datagram present, fun one other present' => ?_⟩
    rw [present] at present'
    exact Option.some.inj present' ▸ one
  rw [harmless]
  obtain ⟨hands, mild⟩ := take_hands prims config node index now sends coins datagram
  by_cases forDriver : node.ForDriver prims config datagram
  · have agenda := hands forDriver
    refine ⟨fun drained _ => ?_, fun finds => ⟨fun blocked => ?_, fun blocked => ?_⟩⟩
    · by_cases room : node.hsQueue.length < handshakeChannel
      · exact .inl room
      · exact .inr (drained.driver ⟨⟨_, _, agenda⟩, Nat.not_lt.mp room⟩)
    · exact (finds forDriver).resolve_left (Nat.not_lt.mpr blocked.2)
    · obtain ⟨⟨_, _, _, impossible⟩, -⟩ := blocked
      rw [agenda] at impossible
      cases impossible
  · obtain ⟨-, notDriver, paced⟩ := mild forDriver
    refine iff_of_true ⟨fun blocked => ?_, fun blocked => ?_⟩ fun impossible =>
      absurd impossible forDriver
    · exact absurd blocked (not_blockedOnDriver notDriver)
    · obtain ⟨⟨_, _, _, agenda⟩, -⟩ := blocked
      exact sound.pacedState ▸ paced _ (agenda ▸ List.mem_cons_self)

/-- **The loop's next effect** goes wrong only where a Response takes the last place of a paced queue
that is not drained, with more to come. -/
theorem drained_work (sound : node.Sound)
    {sent : List (SocketAddr × Bytes)} (worked : node.work = some (after, sent)) :
    after.Drained ↔ node.Harmless prims config .work := by
  have single := sound.single
  unfold work at worked
  have done : ∀ effect rest, node.agenda = effect :: rest → rest = [] := by
    intro effect rest agenda
    rw [agenda, List.length_cons] at single
    exact List.eq_nil_of_length_eq_zero (by omega)
  have idle : after.agenda = [] → after.Drained := fun none =>
    ⟨fun blocked => absurd blocked (not_blockedOnDriver fun _ => by rw [none]; nofun),
      fun blocked => absurd blocked.1 (not_handsToPacer fun _ => by rw [none]; nofun)⟩
  have other : ∀ effect rest, node.agenda = effect :: rest →
      (∀ first next left, effect ≠ .sendPaced (first :: next :: left)) →
        node.Harmless prims config .work := by
    intro effect rest agenda different first next left rest' agenda'
    rw [agenda] at agenda'
    exact absurd (List.cons.inj agenda').1 (different _ _ _)
  split at worked
  · cases worked
  · rename_i raw rest agenda
    split at worked
    · cases worked
      exact iff_of_true (idle (done _ _ agenda)) (other _ _ agenda fun _ _ _ => nofun)
    · cases worked
  · rename_i datagram left rest agenda
    split at worked
    · rename_i room
      cases worked
      have notBlocked : ¬ BlockedOnDriver
          { node with hsSend := node.hsSend ++ [datagram], agenda := .sendPaced left :: rest } := by
        rintro ⟨⟨_, _, impossible⟩, -⟩
        cases impossible
      cases left with
      | nil =>
        refine iff_of_true ⟨fun blocked => absurd blocked notBlocked, fun blocked => ?_⟩
          (other _ _ agenda fun _ _ _ => nofun)
        obtain ⟨⟨_, _, _, impossible⟩, -⟩ := blocked
        cases impossible
      | cons next left =>
        refine ⟨fun after first next' left' rest' agenda' last => ?_, fun harmless =>
          ⟨fun blocked => absurd blocked notBlocked, fun blocked => ?_⟩⟩
        · have paced := after.pacer ⟨⟨_, _, _, rfl⟩, by
            show pacedChannel ≤ (node.hsSend ++ [datagram]).length
            rw [List.length_append, List.length_singleton, last.1]⟩
          exact absurd paced (by rw [last.2]; decide)
        · have full : pacedChannel ≤ (node.hsSend ++ [datagram]).length := blocked.2
          rw [List.length_append, List.length_singleton] at full
          refine Bool.of_not_eq_false fun unpaced => ?_
          exact harmless datagram next left rest agenda
            ⟨Nat.le_antisymm room full, unpaced⟩
    · cases worked
  all_goals
    rename_i agenda
    cases worked
    exact iff_of_true (idle (done _ _ agenda)) (other _ _ agenda fun _ _ _ => nofun)

/-- A closed TUN channel ends the loop, and no more. -/
theorem tunCloses_eq {sent : List (SocketAddr × Bytes)}
    (closed : node.tunCloses.map (·, []) = some (after, sent)) :
    after = { node with inbound := { node.inbound with running := false } } := by
  obtain ⟨ended, ends, same⟩ := Option.map_eq_some_iff.mp closed
  obtain ⟨rfl, -⟩ := Prod.mk.inj same
  unfold tunCloses at ends
  split at ends
  · exact (Option.some.inj ends).symm
  · cases ends

/-- What the rekey trigger leaves alone. -/
theorem triggerRekey_frame (prims : Primitives) (config : NodeConfig) (node : Node) (now : Nat)
    (newId : UInt32) (start : StartCoins) (envelope : HsObf.SealCoins) :
    (node.triggerRekey prims config now newId start envelope).agenda = node.agenda ∧
    (node.triggerRekey prims config now newId start envelope).hsQueue = node.hsQueue ∧
    (node.triggerRekey prims config now newId start envelope).hsSend = node.hsSend ∧
    (node.triggerRekey prims config now newId start envelope).paced = node.paced ∧
    (node.triggerRekey prims config now newId start envelope).pacedState = node.pacedState := by
  simp only [triggerRekey]
  split <;> exact ⟨rfl, rfl, rfl, rfl, rfl⟩

/-- A rekey that runs is not started again. -/
theorem triggerRekey_running (rekeying : node.rekeying = true) (now : Nat) (newId : UInt32)
    (start : StartCoins) (envelope : HsObf.SealCoins) :
    (node.triggerRekey prims config now newId start envelope).driver = node.driver ∧
    (node.triggerRekey prims config now newId start envelope).rekeying = true := by
  simp only [triggerRekey]
  rw [if_neg fun both => by rw [rekeying] at both; exact absurd both.2 (by decide)]
  exact ⟨rfl, rekeying⟩

/-- A driver that the trigger leaves comes with the flag. -/
theorem triggerRekey_rekeying (rekeying : node.driver.isSome = true → node.rekeying = true) (now : Nat)
    (newId : UInt32) (start : StartCoins) (envelope : HsObf.SealCoins) :
    (node.triggerRekey prims config now newId start envelope).driver.isSome = true →
      (node.triggerRekey prims config now newId start envelope).rekeying = true := by
  simp only [triggerRekey]
  split
  · exact fun _ => rfl
  · exact rekeying

/-- What a slot leaves alone, and what it takes. -/
theorem slot_frame (node : Node) :
    node.slot.1.agenda = node.agenda ∧ node.slot.1.hsQueue = node.hsQueue ∧
    node.slot.1.driver = node.driver ∧ node.slot.1.rekeying = node.rekeying ∧
    node.slot.1.paced = node.paced ∧ node.slot.1.pacedState = node.pacedState ∧
    node.slot.1.hsSend.length ≤ node.hsSend.length ∧
    (node.paced = false → node.slot.1.hsSend = node.hsSend) := by
  unfold slot
  split
  · rename_i paced
    refine ⟨rfl, rfl, rfl, rfl, rfl, rfl, ?_, fun unpaced => ?_⟩
    · exact (List.length_drop ▸ Nat.sub_le _ _)
    · rw [paced] at unpaced
      cases unpaced
  · exact ⟨rfl, rfl, rfl, rfl, rfl, rfl, le_rfl, fun _ => rfl⟩

/-- **A tick** keeps the loop drained. -/
theorem drained_tick (sound : node.Sound) (drained : node.Drained) (now : Nat) (newId : UInt32)
    (start : StartCoins) (envelope : HsObf.SealCoins) :
    (node.slot.1.triggerRekey prims config now newId start envelope).Drained := by
  obtain ⟨agenda, hsQueue, driver, rekeying, paced, -, shorter, unpaced⟩ := slot_frame node
  obtain ⟨agenda', hsQueue', hsSend', paced', -⟩ :=
    triggerRekey_frame prims config node.slot.1 now newId start envelope
  refine ⟨fun blocked => ?_, fun blocked => ?_⟩
  · unfold BlockedOnDriver at blocked
    rw [agenda', agenda, hsQueue', hsQueue] at blocked
    obtain ⟨running, some, reads⟩ := drained.driver blocked
    have claimed : node.slot.1.rekeying = true := by
      rw [rekeying]
      exact sound.rekeying (some ▸ rfl)
    refine ⟨running, ?_, ?_⟩
    · rw [(triggerRekey_running claimed now newId start envelope).1, driver]
      exact some
    · refine stageReads_mono ?_ reads
      rintro ⟨full, off⟩
      rw [hsSend'] at full
      rw [paced', paced] at off
      exact ⟨full.trans shorter, off⟩
  · obtain ⟨hands, full⟩ := blocked
    unfold HandsToPacer at hands
    rw [agenda', agenda] at hands
    rw [hsSend'] at full
    rw [paced', paced]
    exact drained.pacer ⟨hands, full.trans shorter⟩

/-- Whether the next stage of an attempt comes to the channel. -/
theorem stageReads_send {stalled : Prop} {sink : HandshakeSink} {init : RekeyInit} {now attempt : Nat}
    {left : List Bytes} : StageReads stalled sink (init.send now attempt left) ↔
      (sink = .paced → left ≠ [] → ¬ stalled) := by
  cases left with
  | nil => exact iff_of_true trivial fun _ none => absurd rfl none
  | cons datagram left => exact ⟨fun reads paced _ => reads paced, fun free paced => free paced nofun⟩

/-- A driver that sends and still reads is sending its Init. -/
theorem sending_of_reads {stalled : Prop} {driver : RekeyDriver} {datagram : Bytes} (now : Nat)
    (sends : driver.nextDatagram = some datagram)
    (reads : StageReads stalled driver.sink driver.stage) :
    ∃ init attempt left, driver.stage = .sendingInit init attempt (datagram :: left) ∧
      driver.sent now = ({ driver with stage := init.send now attempt left }, none) := by
  unfold RekeyDriver.nextDatagram at sends
  unfold RekeyDriver.sent
  cases stage : driver.stage with
  | sendingInit init attempt left =>
    rw [stage] at sends
    cases left with
    | nil => cases sends
    | cons first left =>
      obtain rfl := Option.some.inj sends
      exact ⟨init, attempt, left, rfl, rfl⟩
  | waiting _ _ _ _ =>
    rw [stage] at sends
    cases sends
  | sendingConfirm _ _ =>
    rw [stage] at reads
    cases reads
  | ended _ =>
    rw [stage] at sends
    cases sends

/-- **The driver sends**: through the socket nothing may fail while the loop waits for it, and the last
place of a paced queue that is not drained is for the end of an Init. -/
theorem drained_driverSends (drained : node.Drained) {driver : RekeyDriver} {now : Nat} {success : Bool}
    {out : List (SocketAddr × Bytes)} (running : node.driver = some driver)
    (sent : node.driverSends driver now success = some (after, out)) :
    after.Drained ↔ node.Harmless prims config (.driverSends now success) := by
  have harmless : node.Harmless prims config (.driverSends now success) ↔ match driver.sink with
      | .direct _ => node.BlockedOnDriver → success = true
      | .paced => node.LastPlace → ¬ node.HandsToPacer ∧
          (node.BlockedOnDriver → ∃ init attempt datagram,
            driver.stage = .sendingInit init attempt [datagram]) :=
    ⟨fun all => all driver running, fun one other running' => by
      rw [running] at running'
      exact Option.some.inj running' ▸ one⟩
  rw [harmless]
  have stillReads : node.BlockedOnDriver → StageReads node.Stalled driver.sink driver.stage := by
    intro blocked
    obtain ⟨driver', running', reads⟩ := drained.driver blocked
    rw [running] at running'
    exact Option.some.inj running' ▸ reads
  unfold driverSends at sent
  split at sent
  · cases sent
  rename_i datagram next
  cases sink : driver.sink with
  | direct peer =>
    simp only [sink] at sent
    dsimp only
    cases success with
    | true =>
      rw [if_pos rfl] at sent
      cases sent
      refine iff_of_true ⟨fun blocked => ?_, drained.pacer⟩ fun _ => rfl
      obtain ⟨init, attempt, left, -, after⟩ :=
        sending_of_reads now next (stillReads blocked)
      refine ⟨_, rfl, ?_⟩
      rw [after]
      refine stageReads_send.mpr fun paced => ?_
      rw [sink] at paced
      cases paced
    | false =>
      rw [if_neg (by decide)] at sent
      cases sent
      refine ⟨fun after blocked => ?_, fun notBlocked => ⟨fun blocked => ?_, drained.pacer⟩⟩
      · obtain ⟨_, same, reads⟩ := after.driver blocked
        cases same
        cases reads
      · cases notBlocked blocked
  | paced =>
    simp only [sink] at sent
    split at sent
    swap
    · cases sent
    rename_i room
    cases sent
    have stalls : pacedChannel ≤ (node.hsSend ++ [datagram]).length ∧ node.paced = false ↔
        node.LastPlace := by
      unfold LastPlace
      rw [List.length_append, List.length_singleton]
      exact and_congr_left fun _ => ⟨fun full => Nat.le_antisymm room full, fun last => last.ge⟩
    refine ⟨fun after last => ⟨fun hands => ?_, fun blocked => ?_⟩, fun careful =>
      ⟨fun blocked => ?_, fun blocked => ?_⟩⟩
    · have paced : node.paced = true := after.pacer ⟨hands, (stalls.mpr last).1⟩
      exact absurd paced (by rw [last.2]; decide)
    · obtain ⟨init, attempt, left, stage, sent⟩ :=
        sending_of_reads now next (stillReads blocked)
      obtain ⟨_, same, reads⟩ := after.driver blocked
      obtain rfl := Option.some.inj same
      rw [sent] at reads
      refine ⟨init, attempt, datagram, ?_⟩
      rw [stage]
      by_cases more : left = []
      · rw [more]
      · exact absurd (stalls.mpr last) (stageReads_send.mp reads sink more)
    · obtain ⟨init, attempt, left, stage, sent⟩ :=
        sending_of_reads now next (stillReads blocked)
      refine ⟨_, rfl, ?_⟩
      rw [sent]
      refine stageReads_send.mpr fun _ more stalled => ?_
      obtain ⟨init', attempt', datagram', stage'⟩ := (careful (stalls.mp stalled)).2 blocked
      rw [stage] at stage'
      exact more (List.cons.inj (RekeyStage.sendingInit.inj stage').2.2).2
    · refine Bool.of_not_eq_false fun unpaced => ?_
      exact (careful (stalls.mp ⟨blocked.2, unpaced⟩)).1 blocked.1

/-- A driver that reads frees a place. -/
theorem drained_driverReads (sound : node.Sound) (drained : node.Drained) {driver : RekeyDriver}
    {now : Nat} {coins : DriverCoins}
    (read : node.driverReads prims config driver now coins = some after) : after.Drained := by
  have bounded := sound.bounded
  unfold driverReads at read
  split at read
  · rename_i raw hsQueue _ queue
    rw [queue, List.length_cons] at bounded
    cases read
    refine ⟨fun blocked => ?_, drained.pacer⟩
    have full : handshakeChannel ≤ hsQueue.length := blocked.2
    omega
  · cases read

/-- **A timeout** may not be the last one while the loop waits, nor be followed by an Init that is held
up. -/
theorem drained_driverTimesOut (drained : node.Drained) {driver : RekeyDriver} {now : Nat}
    (running : node.driver = some driver) (timed : node.driverTimesOut driver now = some after) :
    after.Drained ↔ node.Harmless prims config (.driverTimesOut now) := by
  unfold driverTimesOut at timed
  split at timed
  swap
  · cases timed
  rename_i init attempt reasm deadline stage
  split at timed
  · cases timed
  cases timed
  have after : StageReads node.Stalled (driver.timeOut now).sink (driver.timeOut now).stage ↔
      attempt < maxRekeyRetries ∧ (driver.sink = .paced → init.datagrams ≠ [] → ¬ node.Stalled) := by
    unfold RekeyDriver.timeOut
    rw [stage]
    dsimp only
    split
    · rename_i again
      exact stageReads_send.trans (and_iff_right again).symm
    · rename_i last
      exact iff_of_false id fun both => last both.1
  refine ⟨fun drained' blocked => ?_, fun harmless => ⟨fun blocked => ⟨_, rfl, ?_⟩, drained.pacer⟩⟩
  · intro driver' init' attempt' reasm' deadline' running' stage'
    rw [running] at running'
    obtain rfl := Option.some.inj running'
    rw [stage] at stage'
    obtain ⟨rfl, rfl, -, -⟩ := RekeyStage.waiting.inj stage'
    obtain ⟨_, same, reads⟩ := drained'.driver blocked
    obtain rfl := Option.some.inj same
    exact after.mp reads
  · exact after.mpr (harmless blocked driver init attempt reasm deadline running stage)

/-- A driver that ended was not awaited. -/
theorem drained_rekeyDone (drained : node.Drained) {driver : RekeyDriver}
    (running : node.driver = some driver) (ended : node.rekeyDone driver = some after) :
    after.Drained := by
  have notBlocked : ∀ result, driver.stage = .ended result → ¬ node.BlockedOnDriver := by
    intro result stage blocked
    obtain ⟨driver', running', reads⟩ := drained.driver blocked
    rw [running] at running'
    obtain rfl := Option.some.inj running'
    rw [stage] at reads
    exact reads
  unfold rekeyDone at ended
  split at ended
  · rename_i stage
    cases ended
    exact ⟨fun blocked => absurd blocked (notBlocked _ stage), drained.pacer⟩
  · rename_i stage
    cases ended
    exact ⟨fun blocked => absurd blocked (notBlocked _ stage), drained.pacer⟩
  · cases ended

/-- **A switch to unpaced** may not come while the loop or the driver waits for the pacer. -/
theorem drained_switch (drained : node.Drained) (eff : EffectiveTraffic) :
    (node.switch config eff).Drained ↔ node.Harmless prims config (.switch eff) := by
  refine ⟨fun after unpaced => ⟨fun blocked => ?_, fun blocked => ?_⟩, fun harmless =>
    ⟨fun blocked => ?_, fun blocked => ?_⟩⟩
  · have paced : newPaced config eff = true := after.pacer blocked
    rw [unpaced] at paced
    cases paced
  · intro driver init attempt left running stage sink
    obtain ⟨driver', same, reads⟩ := after.driver blocked
    have same : node.driver = some driver' := same
    rw [running] at same
    obtain rfl := Option.some.inj same
    rw [stage] at reads
    exact Nat.lt_of_not_le fun full => reads sink ⟨full, unpaced⟩
  · obtain ⟨driver, running, reads⟩ := drained.driver blocked
    refine ⟨driver, running, ?_⟩
    cases stage : driver.stage with
    | sendingInit init attempt left =>
      rintro sink ⟨full, unpaced⟩
      have room := (harmless unpaced).2 blocked driver init attempt left running stage sink
      exact Nat.not_lt.mpr full room
    | waiting _ _ _ _ => trivial
    | sendingConfirm _ _ | ended _ =>
      rw [stage] at reads
      cases reads
  · exact Bool.of_not_eq_false fun unpaced => (harmless unpaced).1 blocked

/-- **One step**: a drained loop stays drained exactly when the step is harmless. -/
theorem drained_step (sound : node.Sound) (drained : node.Drained)
    (taken : node.step prims config event = some after) :
    after.Drained ↔ node.Harmless prims config event := by
  unfold step at taken
  split at taken
  swap
  · cases taken
  obtain ⟨⟨_, sent⟩, reacted, rfl⟩ := Option.map_eq_some_iff.mp taken
  cases event with
  | decrypt src raw =>
    cases reacted
    exact iff_of_true (drained.of_same rfl rfl rfl rfl rfl) trivial
  | take index now sends coins =>
    simp only [react] at reacted
    split at reacted
    · rename_i datagram _ present
      cases reacted
      exact drained_take sound present
    · cases reacted
  | work => exact drained_work sound reacted
  | tunCloses =>
    rw [tunCloses_eq reacted]
    exact iff_of_true (drained.of_same rfl rfl rfl rfl rfl) trivial
  | prune now =>
    simp only [react] at reacted
    split at reacted
    · cases reacted
      exact iff_of_true (drained.of_same rfl rfl rfl rfl rfl) trivial
    · cases reacted
  | tick now newId start envelope =>
    cases reacted
    exact iff_of_true (drained_tick sound drained now newId start envelope) trivial
  | driverSends now success =>
    obtain ⟨driver, running, sends⟩ := Option.bind_eq_some_iff.mp reacted
    exact drained_driverSends drained running sends
  | driverReads now coins =>
    obtain ⟨driver, -, reads⟩ := Option.bind_eq_some_iff.mp reacted
    obtain ⟨_, read, same⟩ := Option.map_eq_some_iff.mp reads
    cases same
    exact iff_of_true (drained_driverReads sound drained read) trivial
  | driverTimesOut now =>
    obtain ⟨driver, running, times⟩ := Option.bind_eq_some_iff.mp reacted
    obtain ⟨_, timed, same⟩ := Option.map_eq_some_iff.mp times
    cases same
    exact drained_driverTimesOut drained running timed
  | rekeyDone =>
    obtain ⟨driver, running, done⟩ := Option.bind_eq_some_iff.mp reacted
    obtain ⟨_, ended, same⟩ := Option.map_eq_some_iff.mp done
    cases same
    exact iff_of_true (drained_rekeyDone drained running ended) trivial
  | switch eff =>
    cases reacted
    exact drained_switch drained eff
  | reserve n =>
    cases reacted
    exact iff_of_true (drained.of_same rfl rfl rfl rfl rfl) trivial
  | retire =>
    simp only [react] at reacted
    split at reacted
    · cases reacted
      exact iff_of_true (drained.of_same rfl rfl rfl rfl rfl) trivial
    · cases reacted

theorem sound_tick (sound : node.Sound) (now : Nat) (newId : UInt32) (start : StartCoins)
    (envelope : HsObf.SealCoins) :
    (node.slot.1.triggerRekey prims config now newId start envelope).Sound := by
  obtain ⟨rekeying, pacedState, single, bounded⟩ := sound
  obtain ⟨agenda, hsQueue, driver, claimed, paced, state, -, -⟩ := slot_frame node
  obtain ⟨agenda', hsQueue', -, paced', state'⟩ :=
    triggerRekey_frame prims config node.slot.1 now newId start envelope
  refine ⟨triggerRekey_rekeying ?_ now newId start envelope, ?_, ?_, ?_⟩
  · rw [driver, claimed]
    exact rekeying
  · rw [state', paced', state, paced]
    exact pacedState
  · rw [agenda', agenda]
    exact single
  · rw [hsQueue', hsQueue]
    exact bounded

/-- **Soundness is kept.** -/
theorem sound_step (sound : node.Sound) (taken : node.step prims config event = some after) :
    after.Sound := by
  obtain ⟨rekeying, pacedState, single, bounded⟩ := sound
  unfold step at taken
  split at taken
  swap
  · cases taken
  obtain ⟨⟨_, sent⟩, reacted, rfl⟩ := Option.map_eq_some_iff.mp taken
  cases event with
  | decrypt src raw =>
    cases reacted
    exact ⟨rekeying, pacedState, single, bounded⟩
  | take index now sends coins =>
    simp only [react] at reacted
    split at reacted
    · rename_i datagram idle _
      cases reacted
      refine ⟨rekeying, pacedState, ?_, bounded⟩
      obtain ⟨hands, mild⟩ := take_hands prims config node index now sends coins datagram
      by_cases forDriver : node.ForDriver prims config datagram
      · rw [hands forDriver]
        exact le_rfl
      · exact (mild forDriver).single
    · cases reacted
  | work =>
    have worked : node.work = some (_, sent) := reacted
    unfold work at worked
    split at worked
    · cases worked
    all_goals
      rename_i agenda
      rw [agenda] at single
    · split at worked
      · cases worked
        refine ⟨rekeying, pacedState, Nat.le_of_succ_le single, ?_⟩
        rw [List.length_append, List.length_singleton]
        assumption
      · cases worked
    · split at worked
      · cases worked
        exact ⟨rekeying, pacedState, single, bounded⟩
      · cases worked
    all_goals
      cases worked
      exact ⟨rekeying, pacedState, Nat.le_of_succ_le single, bounded⟩
  | tunCloses =>
    rw [tunCloses_eq reacted]
    exact ⟨rekeying, pacedState, single, bounded⟩
  | prune now =>
    simp only [react] at reacted
    split at reacted
    · cases reacted
      exact ⟨rekeying, pacedState, single, bounded⟩
    · cases reacted
  | tick now newId start envelope =>
    cases reacted
    exact sound_tick ⟨rekeying, pacedState, single, bounded⟩ now newId start envelope
  | driverSends now success =>
    obtain ⟨driver, running, sends⟩ := Option.bind_eq_some_iff.mp reacted
    have claimed : node.rekeying = true := rekeying (running ▸ rfl)
    simp only [driverSends] at sends
    split at sends
    · cases sends
    split at sends
    · split at sends <;>
      · cases sends
        exact ⟨fun _ => claimed, pacedState, single, bounded⟩
    · split at sends
      · cases sends
        exact ⟨fun _ => claimed, pacedState, single, bounded⟩
      · cases sends
  | driverReads now coins =>
    obtain ⟨driver, running, reads⟩ := Option.bind_eq_some_iff.mp reacted
    obtain ⟨_, read, same⟩ := Option.map_eq_some_iff.mp reads
    cases same
    simp only [driverReads] at read
    split at read
    · rename_i queue
      rw [queue] at bounded
      cases read
      exact ⟨fun _ => rekeying (running ▸ rfl), pacedState, single, Nat.le_of_succ_le bounded⟩
    · cases read
  | driverTimesOut now =>
    obtain ⟨driver, running, times⟩ := Option.bind_eq_some_iff.mp reacted
    obtain ⟨_, timed, same⟩ := Option.map_eq_some_iff.mp times
    cases same
    unfold driverTimesOut at timed
    split at timed
    · split at timed
      · cases timed
      · cases timed
        exact ⟨fun _ => rekeying (running ▸ rfl), pacedState, single, bounded⟩
    · cases timed
  | rekeyDone =>
    obtain ⟨driver, running, done⟩ := Option.bind_eq_some_iff.mp reacted
    obtain ⟨_, ended, same⟩ := Option.map_eq_some_iff.mp done
    cases same
    unfold rekeyDone at ended
    split at ended
    · cases ended
      exact ⟨nofun, pacedState, single, bounded⟩
    · cases ended
      exact ⟨nofun, pacedState, single, bounded⟩
    · cases ended
  | switch eff =>
    cases reacted
    exact ⟨rekeying, rfl, single, bounded⟩
  | reserve n =>
    cases reacted
    exact ⟨rekeying, pacedState, single, bounded⟩
  | retire =>
    simp only [react] at reacted
    split at reacted
    · cases reacted
      exact ⟨rekeying, pacedState, single, bounded⟩
    · cases reacted

/-! ### Runs -/

theorem sound_begin (config : NodeConfig) (sessions : SessionManager Session) (peer : SocketAddr)
    (eff : EffectiveTraffic) : (begin config sessions peer eff).Sound :=
  ⟨nofun, rfl, Nat.zero_le _, Nat.zero_le _⟩

theorem drained_begin (config : NodeConfig) (sessions : SessionManager Session) (peer : SocketAddr)
    (eff : EffectiveTraffic) : (begin config sessions peer eff).Drained := by
  refine ⟨fun blocked => ?_, fun blocked => ?_⟩
  · obtain ⟨⟨_, _, impossible⟩, -⟩ := blocked
    cases impossible
  · obtain ⟨⟨_, _, _, impossible⟩, -⟩ := blocked
    cases impossible

theorem guarded_run {first last : Node} {events : List NodeEvent} (sound : first.Sound)
    (drained : first.Drained)
    (run : Run (Guarded (Harmless prims config) (Taken (step prims config))) first events last) :
    last.Sound ∧ last.Drained :=
  run.invariant (fun node => node.Sound ∧ node.Drained)
    (fun _ _ _ kept taken =>
      ⟨sound_step kept.1 taken.2, (drained_step kept.1 kept.2 taken.2).mpr taken.1⟩)
    ⟨sound, drained⟩

/-- **The inbound loop waits only on a queue that somebody drains.** In every run whose steps are
harmless, the loop that waits for the driver has a reading driver, and the loop that waits for the pacer
has a paced one; and the first step that is not harmless ends this. -/
theorem inbound_drained (prims : Primitives) (config : NodeConfig) (sessions : SessionManager Session)
    (peer : SocketAddr) (eff : EffectiveTraffic) (events : List NodeEvent) (last : Node)
    (run : Run (Guarded (Harmless prims config) (Taken (step prims config)))
      (begin config sessions peer eff) events last) :
    ((last.BlockedOnDriver → last.Reading) ∧ (last.BlockedOnPaced → last.paced = true)) ∧
    ∀ event after, last.step prims config event = some after →
      (((after.BlockedOnDriver → after.Reading) ∧ (after.BlockedOnPaced → after.paced = true)) ↔
        last.Harmless prims config event) := by
  obtain ⟨sound, drained⟩ :=
    guarded_run (sound_begin config sessions peer eff) (drained_begin config sessions peer eff) run
  refine ⟨⟨drained.driver, drained.pacer⟩, fun event after taken => ?_⟩
  rw [← drained_step sound drained taken]
  exact ⟨fun ⟨driver, pacer⟩ => ⟨driver, pacer⟩, fun after => ⟨after.driver, after.pacer⟩⟩

end Steps

/-! ### The relation to the inbound loop on its own -/

/-- Opening a datagram and taking the result is what the inbound loop alone does with it. -/
theorem decrypt_take (prims : Primitives) (config : NodeConfig) (node : Node)
    (running : node.inbound.running = true) (now : Nat) (sends : Bool) (src : SocketAddr)
    (raw : Bytes) (coins : InboundCoins) :
    let taken := (node.decrypt prims src raw).take prims config 0 now sends coins
      ⟨src, raw, (node.inbound.sessions.decryptObf prims raw).1.toOption⟩
    (taken.inbound, taken.agenda) = node.inbound.receive prims config.toInboundConfig
      ⟨node.rekeying, node.pacedState, node.pacedState || sends, true⟩ now src raw coins := by
  unfold Inbound.receive
  rw [if_pos running]
  unfold decrypt take withSessions Inbound.take
  rcases node.inbound.sessions.decryptObf prims raw with ⟨e | ⟨frameType, plain⟩, sessions⟩ <;> rfl

/-- Data that meets a closed TUN channel ends the loop as it ends the inbound loop alone. -/
theorem decrypt_take_closed (prims : Primitives) (config : NodeConfig) (node : Node)
    (running : node.inbound.running = true) (now : Nat) (sends : Bool) (src : SocketAddr)
    (raw : Bytes) (coins : InboundCoins) (plain : Bytes)
    (opens : (node.inbound.sessions.decryptObf prims raw).1 = .ok (.data, plain)) :
    (((node.decrypt prims src raw).take prims config 0 now sends coins
        ⟨src, raw, some (.data, plain)⟩).tunCloses).map Node.inbound =
      some (node.inbound.receive prims config.toInboundConfig
        ⟨node.rekeying, node.pacedState, node.pacedState || sends, false⟩ now src raw coins).1 := by
  unfold Inbound.receive
  rw [if_pos running]
  unfold decrypt take withSessions Inbound.take tunCloses
  rcases opened : node.inbound.sessions.decryptObf prims raw with ⟨outcome, sessions⟩
  rw [opened] at opens
  obtain rfl : outcome = .ok (.data, plain) := opens
  rfl

/-! ### A loop that waits for good -/

/-- A node that talks in the clear and does not pace. -/
def sampleClear : NodeConfig := ⟨Inbound.sampleConfig none, false⟩

def sampleUnpaced : EffectiveTraffic :=
  TrafficConfig.effective ⟨.off, false, .adaptive, 256, 2, 500, 64, 0.25⟩

/-- Sessions due for a rekey, and the same once it is claimed. -/
def sampleDue : SessionManager Session :=
  .new (.established .transparent 7 (.zero 32) true .aegis256X2 (2 ^ 48 / 4 * 3) []) 10000

def sampleClaimed : SessionManager Session :=
  { sampleDue with rekeyInProgress := true, lastRekeyAttempt := 10000 }

/-- An injected frame: one fragment that makes a message of one octet. -/
def sampleGarbage : Bytes :=
  (Frame.newHandshake (fragmentHeader 0 0 1 ++ [0])).encode.toOption.getD []

theorem garbage_closed : sampleClaimed.decryptObf .transparent sampleGarbage =
    (.error .decryptionFailed, sampleClaimed) := by decide +kernel

theorem garbage_completes :
    pushHandshake .transparent .new 10000 sampleGarbage none = (.ok (some [0]), .new) := by
  decide +kernel

/-- A rekey runs; some garbage is queued for its driver, and the loop may be at a piece of it. -/
def flooded (driver : RekeyDriver) (queued : Nat) (agenda : List Effect) : Node where
  inbound := .begin sampleClaimed samplePeer
  opened := []
  agenda := agenda
  driver := some driver
  hsQueue := List.replicate queued sampleGarbage
  hsSend := []
  paced := false
  pacedState := false
  paceBurst := 2
  rekeying := true
  retirements := 0

/-- A run of harmless steps of the sample node. -/
def Leads (first last : Node) : Prop :=
  ∃ events, Run (Guarded (Harmless .transparent sampleClear) (Taken (step .transparent sampleClear)))
    first events last

theorem Leads.trans {first middle last : Node} (front : Leads first middle) (back : Leads middle last) :
    Leads first last := by
  obtain ⟨events, run⟩ := front
  obtain ⟨more, run'⟩ := back
  exact ⟨events ++ more, run.append run'⟩

theorem Leads.one {node after : Node} (event : NodeEvent)
    (harmless : node.Harmless .transparent sampleClear event)
    (taken : node.step .transparent sampleClear event = some after) : Leads node after :=
  ⟨[event], .next ⟨harmless, taken⟩ (.done _)⟩

/-- The garbage opened, in the hands of the loop. -/
theorem garbage_opened (driver : RekeyDriver) (queued : Nat) :
    (flooded driver queued []).step .transparent sampleClear (.decrypt samplePeer sampleGarbage) =
      some { flooded driver queued [] with opened := [⟨samplePeer, sampleGarbage, none⟩] } := by
  have opened : (flooded driver queued []).decrypt .transparent samplePeer sampleGarbage =
      { flooded driver queued [] with opened := [⟨samplePeer, sampleGarbage, none⟩] } := by
    simp only [decrypt]
    rw [show (flooded driver queued []).inbound.sessions = sampleClaimed from rfl, garbage_closed]
    rfl
  exact congrArg some opened

theorem garbage_taken (driver : RekeyDriver) (queued : Nat) :
    ({ flooded driver queued [] with opened := [⟨samplePeer, sampleGarbage, none⟩] } : Node).step
      .transparent sampleClear (.take 0 10000 true Inbound.sampleCoins) =
      some (flooded driver queued [.toDriver sampleGarbage]) := rfl

/-- Garbage arrives, and is for the driver. -/
theorem garbage_arrives {driver : RekeyDriver} {queued : Nat}
    (finds : queued < handshakeChannel ∨ (flooded driver queued []).Reading) :
    Leads (flooded driver queued []) (flooded driver queued [.toDriver sampleGarbage]) := by
  refine (Leads.one (.decrypt samplePeer sampleGarbage) trivial (garbage_opened driver queued)).trans
    (Leads.one (.take 0 10000 true Inbound.sampleCoins) ?_ (garbage_taken driver queued))
  intro datagram _ _
  refine finds.imp_left fun room => ?_
  show (List.replicate queued sampleGarbage).length < handshakeChannel
  rw [List.length_replicate]
  exact room

/-- The loop hands it over. -/
theorem garbage_queued {driver : RekeyDriver} {queued : Nat} (room : queued < handshakeChannel) :
    Leads (flooded driver queued [.toDriver sampleGarbage]) (flooded driver (queued + 1) []) := by
  refine Leads.one .work (fun _ _ _ _ => nofun) ?_
  have short : (List.replicate queued sampleGarbage).length < handshakeChannel := by
    rw [List.length_replicate]
    exact room
  have worked : (flooded driver queued [.toDriver sampleGarbage]).work =
      some (flooded driver (queued + 1) [], []) := by
    refine (if_pos short).trans ?_
    unfold flooded
    rw [List.replicate_succ']
  show Option.map Prod.fst (flooded driver queued [.toDriver sampleGarbage]).work = _
  rw [worked]
  rfl

/-- The channel fills up. -/
theorem garbage_floods (driver : RekeyDriver) (queued : Nat) (fits : queued ≤ handshakeChannel) :
    Leads (flooded driver 0 []) (flooded driver queued []) := by
  induction queued with
  | zero => exact ⟨[], .done _⟩
  | succ queued ih =>
    exact (ih (Nat.le_of_succ_le fits)).trans
      ((garbage_arrives (.inl fits)).trans (garbage_queued fits))

/-- The Init leaves through the socket, and the driver waits. -/
theorem init_sent (init : RekeyInit) (left : List Bytes) :
    Leads (flooded ⟨9, .direct samplePeer, init.send 10000 1 left⟩ 0 [])
      (flooded ⟨9, .direct samplePeer, .waiting init 1 .new 10800⟩ 0 []) := by
  induction left with
  | nil => exact ⟨[], .done _⟩
  | cons datagram left ih =>
    refine (Leads.one (.driverSends 10000 true) ?_ rfl).trans ih
    intro driver same
    obtain rfl := Option.some.inj same
    exact fun _ => rfl

/-- **The tunnel starts a rekey, and waits for the Response.** -/
theorem sample_rekeys : ∃ init,
    Leads (begin sampleClear sampleDue samplePeer sampleUnpaced)
      (flooded ⟨9, .direct samplePeer, .waiting init 1 .new 10800⟩ 0 []) := by
  have fits : sampleClear.auth.signatureLen .transparent ≤ 6923 := by decide
  obtain ⟨initWire, encoded⟩ := Handshake.encode_exists
    ((Handshake.length_initMessage_sig sampleClear.auth sampleClear.preferred
      Handshake.sampleStart).le.trans fits) Handshake.sampleStart.padNoise
  obtain ⟨handshake, started⟩ : ∃ handshake, Handshake.start .transparent sampleClear.auth
      sampleClear.preferred Handshake.sampleStart = .ok (handshake, initWire) :=
    ⟨_, Handshake.start_eq_ok_iff.mpr ⟨encoded, rfl⟩⟩
  obtain ⟨datagrams, built⟩ := build_clear_exists .transparent 9 initWire sampleDriverCoins.envelope
  have clear : sampleClear.hsObf = none := rfl
  refine ⟨⟨handshake, datagrams⟩,
    (Leads.one (.tick 10000 9 Handshake.sampleStart sampleDriverCoins.envelope) trivial ?_).trans
      (init_sent _ datagrams)⟩
  have due : sampleDue.needsRekey sampleDue.current.txCounter 10000 = (true, sampleClaimed) := by
    decide +kernel
  have begun : RekeyDriver.begin .transparent sampleClear.toInboundConfig (.direct samplePeer) 9 10000
      Handshake.sampleStart sampleDriverCoins.envelope =
        ⟨9, .direct samplePeer, RekeyInit.send ⟨handshake, datagrams⟩ 10000 1 datagrams⟩ := by
    unfold RekeyDriver.begin
    rw [started]
    dsimp only
    rw [clear, built]
  have triggered : (begin sampleClear sampleDue samplePeer sampleUnpaced).triggerRekey .transparent
      sampleClear 10000 9 Handshake.sampleStart sampleDriverCoins.envelope =
        flooded ⟨9, .direct samplePeer, RekeyInit.send ⟨handshake, datagrams⟩ 10000 1 datagrams⟩
          0 [] := by
    simp only [triggerRekey]
    have sessions : (begin sampleClear sampleDue samplePeer sampleUnpaced).inbound.sessions =
      sampleDue := rfl
    have sink : (begin sampleClear sampleDue samplePeer sampleUnpaced).sink =
      .direct samplePeer := rfl
    rw [sessions, due, if_pos ⟨rfl, rfl⟩, sink, begun]
    rfl
  exact congrArg some triggered

/-- The loop waits for a driver that reads. -/
theorem sample_waits : ∃ init,
    Leads (begin sampleClear sampleDue samplePeer sampleUnpaced)
      (flooded ⟨9, .direct samplePeer, .waiting init 1 .new 10800⟩ 16 [.toDriver sampleGarbage]) := by
  obtain ⟨init, rekeys⟩ := sample_rekeys
  refine ⟨init, rekeys.trans ((garbage_floods _ 16 le_rfl).trans (garbage_arrives (.inr ?_)))⟩
  exact ⟨_, rfl, trivial⟩

theorem inbound_drained_sample : ∃ events last, Run (Guarded (Harmless .transparent sampleClear)
      (Taken (step .transparent sampleClear)))
      (begin sampleClear sampleDue samplePeer sampleUnpaced) events last ∧
    last.BlockedOnDriver ∧ last.Reading := by
  obtain ⟨init, events, run⟩ := sample_waits
  have blocked : (flooded ⟨9, .direct samplePeer, .waiting init 1 .new 10800⟩ 16
      [.toDriver sampleGarbage]).BlockedOnDriver := ⟨⟨_, _, rfl⟩, List.length_replicate.ge⟩
  exact ⟨events, _, run, blocked,
    (inbound_drained .transparent sampleClear sampleDue samplePeer sampleUnpaced events _ run).1.1
      blocked⟩

/-- A message of one octet fails the handshake it is taken for. -/
theorem garbage_refused (init : RekeyInit) :
    ∃ e, RekeyDriver.read .transparent sampleClear.toInboundConfig
      ⟨9, .direct samplePeer, .waiting init 1 .new 10800⟩ 10000 sampleGarbage sampleDriverCoins =
        (⟨9, .direct samplePeer, .ended (.error e)⟩, none) := by
  have refused : ∃ e, init.handshake.finalize .transparent [0] sampleClear.auth
      sampleDriverCoins.confirm = .error e := by
    cases init.handshake <;> exact ⟨_, rfl⟩
  obtain ⟨e, refused⟩ := refused
  refine ⟨e, ?_⟩
  have clear : sampleClear.hsObf = none := rfl
  unfold RekeyDriver.read
  dsimp only
  rw [clear, garbage_completes]
  dsimp only
  unfold RekeyDriver.conclude
  rw [refused]

/-- **The driver gives up with its channel full, and the next datagram waits for good**: from the peer's
address, during one rekey, come eighteen frames of one octet. No driver is left, no rekey is marked as
running, and the inbound loop waits for a place in the channel. -/
theorem inbound_loop_stuck : ∃ events last,
    Run (Taken (step .transparent sampleClear))
      (begin sampleClear sampleDue samplePeer sampleUnpaced) events last ∧
    last.BlockedOnDriver ∧ last.driver = none ∧ last.rekeying = false ∧ ¬ last.Reading := by
  obtain ⟨init, waits⟩ := sample_waits
  obtain ⟨e, refused⟩ := garbage_refused init
  have reads : Leads
      (flooded ⟨9, .direct samplePeer, .waiting init 1 .new 10800⟩ 16 [.toDriver sampleGarbage])
      (flooded ⟨9, .direct samplePeer, .ended (.error e)⟩ 15 [.toDriver sampleGarbage]) := by
    refine Leads.one (.driverReads 10000 sampleDriverCoins) trivial ?_
    have read : (flooded ⟨9, .direct samplePeer, .waiting init 1 .new 10800⟩ 16
        [.toDriver sampleGarbage]).driverReads .transparent sampleClear
        ⟨9, .direct samplePeer, .waiting init 1 .new 10800⟩ 10000 sampleDriverCoins =
        some (flooded ⟨9, .direct samplePeer, .ended (.error e)⟩ 15 [.toDriver sampleGarbage]) := by
      simp only [driverReads, flooded, List.replicate_succ, refused]
      rfl
    exact congrArg (fun outcome => Option.map Prod.fst (Option.map (·, []) outcome)) read
  obtain ⟨events, run⟩ := waits.trans (reads.trans (garbage_queued (by decide)))
  have taken : Run (Taken (step .transparent sampleClear))
      (flooded ⟨9, .direct samplePeer, .ended (.error e)⟩ 16 [])
      [.decrypt samplePeer sampleGarbage, .take 0 10000 true Inbound.sampleCoins, .rekeyDone]
      { (flooded ⟨9, .direct samplePeer, .ended (.error e)⟩ 16
          [.toDriver sampleGarbage]).withSessions sampleClaimed.abortRekey with
        driver := none, rekeying := false } :=
    .next (garbage_opened _ 16) (.next (garbage_taken _ 16) (.next rfl (.done _)))
  refine ⟨_, _, (run.weaken fun _ _ _ guarded => guarded.2).append taken,
    ⟨⟨_, _, rfl⟩, List.length_replicate.ge⟩, rfl, rfl, ?_⟩
  rintro ⟨_, impossible, -⟩
  cases impossible

end Node

end ChameleonPQ
