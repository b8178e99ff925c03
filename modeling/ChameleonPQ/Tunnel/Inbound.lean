/-
**The inbound loop of the tunnel (`tunnel_loops.rs`, `rekey.rs`).**

* `Inbound.receive` — one datagram: trial decryption, then the data path, or the demultiplexer of the
  rekey handshake behind the pin on the peer's address.
* `respondRekey`, `confirmRekey` — the responder's two halves of a rekey; `Effect` lists what the loop
  does besides changing its state.
* `Inbound.Step` — the loop between the other tasks that touch the sessions.
* `roaming` — in every run, a datagram is treated as roaming asks exactly when it is no clear data frame
  from another address than the peer's.
-/

import ChameleonPQ.Library.Runs
import ChameleonPQ.Net.Drivers
import ChameleonPQ.Session.RoundTrip

namespace ChameleonPQ

open Library Library.Runs

/-- What the inbound loop is started with. -/
structure InboundConfig where
  auth : Authenticator
  preferred : AeadAlgo
  hsObf : Option (Octets 32)
  allowRoaming : Bool

/-- The flags of other tasks that the loop reads, and whether the socket and the TUN channel take what it
sends. -/
structure Flags where
  rekeying : Bool
  paced : Bool
  sends : Bool
  tunOpen : Bool

/-- What the loop draws for one datagram: the id `alloc_session_id` returns, and random values. -/
structure InboundCoins where
  newId : UInt32
  respond : RespondCoins
  envelope : HsObf.SealCoins

/-- What the loop does besides changing its state. -/
inductive Effect where
  | toTun (plain : Bytes)
  | announced (plain : Bytes)
  /-- Handed to the rekey driver. -/
  | toDriver (datagram : Bytes)
  /-- A Response, straight to an address or to the pacer. -/
  | sendDirect (dst : SocketAddr) (datagrams : List Bytes)
  | sendPaced (datagrams : List Bytes)
  | scheduleRetire
  deriving DecidableEq

/-- The state of the inbound loop; the sessions and the peer address are shared with other tasks. -/
structure Inbound where
  sessions : SessionManager Session
  peer : SocketAddr
  rekeyReasm : Reassembler
  confirmReasm : Reassembler
  pendingRekey : Option (Handshake × UInt32)
  running : Bool
  deriving DecidableEq

namespace Inbound

section Definitions

variable (prims : Primitives) (config : InboundConfig) (flags : Flags)

/-- The loop when the tunnel starts. -/
def begin (sessions : SessionManager Session) (peer : SocketAddr) : Inbound :=
  ⟨sessions, peer, .new, .new, none, true⟩

/-- An authenticated datagram moves the peer address, where roaming is allowed. -/
def follow (inbound : Inbound) (src : SocketAddr) : Inbound :=
  if config.allowRoaming = true ∧ src ≠ inbound.peer then { inbound with peer := src } else inbound

/-- `rekey_as_responder`, and what the loop keeps of it. -/
def respondRekey (inbound : Inbound) (src : SocketAddr) (initWire : Bytes) (coins : InboundCoins) :
    Inbound × List Effect :=
  match Handshake.respond prims initWire config.auth config.preferred coins.respond with
  | .error _ => (inbound, [])
  | .ok (.sentResponse session hash, respWire) =>
    match buildHandshakeDatagrams prims coins.newId respWire config.hsObf coins.envelope with
    | .error _ => (inbound, [])
    | .ok datagrams =>
      if flags.sends = true then
        ({ inbound with pendingRekey := some (.sentResponse session hash, coins.newId) },
          [if flags.paced = true then .sendPaced datagrams else .sendDirect src datagrams])
      else (inbound, [])
  | .ok _ => (inbound, [])

/-- `rekey_responder_confirm`; the pending handshake is spent in any case. -/
def confirmRekey (inbound : Inbound) (handshake : Handshake) (confirmWire : Bytes) :
    Inbound × List Effect :=
  match handshake.confirm prims confirmWire config.auth with
  | .ok (.established session) =>
    ({ inbound with pendingRekey := none, sessions := inbound.sessions.installNewSession session },
      [.scheduleRetire])
  | _ => ({ inbound with pendingRekey := none }, [])

/-- The demultiplexer of handshake datagrams; `push` puts one into a reassembler. -/
def demultiplex (inbound : Inbound) (src : SocketAddr) (raw : Bytes) (coins : InboundCoins)
    (push : Reassembler → Result (Option Bytes) × Reassembler) : Inbound × List Effect :=
  if flags.rekeying = true then (inbound, [.toDriver raw])
  else
    match inbound.pendingRekey with
    | none =>
      match push inbound.rekeyReasm with
      | (.ok (some initWire), rekeyReasm) =>
        ({ inbound with rekeyReasm } : Inbound).respondRekey prims config flags src initWire coins
      | (_, rekeyReasm) => ({ inbound with rekeyReasm }, [])
    | some (handshake, _) =>
      match push inbound.confirmReasm with
      | (.ok (some confirmWire), confirmReasm) =>
        ({ inbound with confirmReasm } : Inbound).confirmRekey prims config handshake confirmWire
      | (_, confirmReasm) => ({ inbound with confirmReasm }, [])

/-- `to_tun.send`: a closed channel ends the loop. -/
def sendToTun (inbound : Inbound) (plain : Bytes) : Inbound × List Effect :=
  if flags.tunOpen = true then (inbound, [.toTun plain]) else ({ inbound with running := false }, [])

/-- A datagram that trial decryption opened. -/
def takeOpened (inbound : Inbound) (src : SocketAddr) (frameType : FrameType) (plain : Bytes) :
    Inbound × List Effect :=
  match frameType with
  | .data => (inbound.follow config src).sendToTun flags plain
  | .close => ({ inbound.follow config src with running := false }, [])
  | .profile => (inbound.follow config src, [.announced plain])
  | .keepAlive | .handshake | .padding => (inbound.follow config src, [])

/-- A cleartext frame from the peer. -/
def takeFrame (inbound : Inbound) (now : Nat) (src : SocketAddr) (raw : Bytes) (coins : InboundCoins)
    (frame : Frame) : Inbound × List Effect :=
  match frame.frameType with
  | .data =>
    match inbound.sessions.decrypt prims frame.sessionId frame.sequence.toNat frame.payload with
    | (.ok plain, sessions) =>
      (({ inbound with sessions } : Inbound).follow config src).sendToTun flags plain
    | (.error _, sessions) => ({ inbound with sessions }, [])
  | .handshake => inbound.demultiplex prims config flags src raw coins (·.push now frame.payload)
  | .keepAlive | .close | .padding | .profile => (inbound, [])

/-- A datagram that trial decryption did not open: a handshake fragment, a cleartext frame, or noise. -/
def takeOther (inbound : Inbound) (now : Nat) (src : SocketAddr) (raw : Bytes) (coins : InboundCoins) :
    Inbound × List Effect :=
  if src ≠ inbound.peer then (inbound, [])
  else
    match config.hsObf with
    | some key =>
      match HsObf.unmaskFragment prims key raw with
      | none => (inbound, [])
      | some (msgId, index, total, chunk) =>
        inbound.demultiplex prims config flags src raw coins fun reasm =>
          openPushed prims key (reasm.pushParts now msgId index total chunk)
    | none =>
      match Frame.decode raw with
      | .error _ => (inbound, [])
      | .ok frame => inbound.takeFrame prims config flags now src raw coins frame

/-- One received datagram. -/
def receive (inbound : Inbound) (now : Nat) (src : SocketAddr) (raw : Bytes) (coins : InboundCoins) :
    Inbound × List Effect :=
  if inbound.running = true then
    match inbound.sessions.decryptObf prims raw with
    | (.ok (frameType, plain), sessions) =>
      ({ inbound with sessions } : Inbound).takeOpened config flags src frameType plain
    | (.error _, sessions) =>
      ({ inbound with sessions } : Inbound).takeOther prims config flags now src raw coins
  else (inbound, [])

/-- The prune timer. -/
def prune (inbound : Inbound) (now : Nat) : Inbound :=
  { inbound with
    rekeyReasm := inbound.rekeyReasm.pruneOld now 10000
    confirmReasm := inbound.confirmReasm.pruneOld now 10000 }

end Definitions

/-- What happens to the loop: a datagram, or another task that touches the sessions. -/
inductive InboundEvent where
  | datagram (flags : Flags) (now : Nat) (src : SocketAddr) (raw : Bytes) (coins : InboundCoins)
  | prune (now : Nat)
  /-- Counters are reserved on the current session. -/
  | reserve (n : Nat)
  | install (newSession : Session)
  | retire

section Runs

variable (prims : Primitives) (config : InboundConfig)

/-- One event, and what it makes the loop do. -/
def react (inbound : Inbound) : InboundEvent → Inbound × List Effect
  | .datagram flags now src raw coins => inbound.receive prims config flags now src raw coins
  | .prune now => (inbound.prune now, [])
  | .reserve n =>
    ({ inbound with sessions := { inbound.sessions with
      current := (inbound.sessions.current.reserveCounters n).2 } }, [])
  | .install newSession =>
    ({ inbound with sessions := inbound.sessions.installNewSession newSession }, [])
  | .retire => ({ inbound with sessions := inbound.sessions.retirePrevious }, [])

def Step (before : Inbound) (event : InboundEvent) (after : Inbound) : Prop :=
  (before.react prims config event).1 = after

end Runs

/-! ### Roaming -/

section Roaming

variable (prims : Primitives) (config : InboundConfig)

/-- The plaintext of a cleartext data frame that decrypts under the session it names. -/
def clearPlain (sessions : SessionManager Session) (raw : Bytes) : Option Bytes :=
  match Frame.decode raw with
  | .error _ => none
  | .ok frame =>
    if frame.frameType = .data then
      (sessions.decrypt prims frame.sessionId frame.sequence.toNat frame.payload).1.toOption
    else none

/-- The datagram decrypts in the cleartext framing, and not in the obfuscated one. -/
def ReadsInClear (inbound : Inbound) (raw : Bytes) : Prop :=
  config.hsObf = none ∧ (∃ e, (inbound.sessions.decryptObf prims raw).1 = .error e) ∧
    ∃ plain, clearPlain prims (inbound.sessions.decryptObf prims raw).2 raw = some plain

/-- What a datagram decrypts to on the current or the previous session, in the framing in use. -/
def reads (inbound : Inbound) (raw : Bytes) : Option (FrameType × Bytes) :=
  match inbound.sessions.decryptObf prims raw with
  | (.ok opened, _) => some opened
  | (.error _, sessions) =>
    if config.hsObf = none then (clearPlain prims sessions raw).map (.data, ·) else none

/-- The data among what the loop does. -/
def delivered (effects : List Effect) : List Bytes :=
  effects.filterMap fun effect => match effect with
    | .toTun plain => some plain
    | _ => none

/-- The data a datagram that was read is to deliver, where the TUN channel is open. -/
def owed (flags : Flags) : Option (FrameType × Bytes) → List Bytes
  | some (.data, plain) => if flags.tunOpen = true then [plain] else []
  | _ => []

/-- **Roaming, for one datagram**: when it decrypts, its data is delivered once, unless the TUN channel is
closed, and the peer is where it came from; when it does not, nothing is delivered and the peer stays. -/
structure Roams (inbound : Inbound) (flags : Flags) (now : Nat) (src : SocketAddr) (raw : Bytes)
    (coins : InboundCoins) : Prop where
  delivers : delivered (inbound.receive prims config flags now src raw coins).2 =
    owed flags (inbound.reads prims config raw)
  peer : (inbound.receive prims config flags now src raw coins).1.peer =
    match inbound.reads prims config raw with
    | some _ => src
    | none => inbound.peer

variable {prims config} {inbound : Inbound} {flags : Flags} {now : Nat} {src : SocketAddr} {raw : Bytes}
  {coins : InboundCoins}

theorem follow_peer (roaming : config.allowRoaming = true) :
    (inbound.follow config src).peer = src := by
  unfold follow
  by_cases same : src = inbound.peer
  · rw [if_neg fun both => both.2 same]
    exact same.symm
  · rw [if_pos ⟨roaming, same⟩]

/-- A packet for the TUN ends the loop at most. -/
theorem sendToTun_frame (inbound : Inbound) (plain : Bytes) :
    ∃ running, (inbound.sendToTun flags plain).1 = { inbound with running } := by
  unfold sendToTun
  split
  · exact ⟨inbound.running, rfl⟩
  · exact ⟨false, rfl⟩

theorem sendToTun_peer (inbound : Inbound) (plain : Bytes) :
    (inbound.sendToTun flags plain).1.peer = inbound.peer := by
  obtain ⟨running, same⟩ := @sendToTun_frame flags inbound plain
  rw [same]

theorem sendToTun_open (tunOpen : flags.tunOpen = true) (inbound : Inbound) (plain : Bytes) :
    inbound.sendToTun flags plain = (inbound, [.toTun plain]) := if_pos tunOpen

theorem sendToTun_delivers (inbound : Inbound) (plain : Bytes) :
    delivered (inbound.sendToTun flags plain).2 = owed flags (some (.data, plain)) := by
  unfold sendToTun owed
  split <;> rfl

/-- The rekey handshake does not touch the peer address, and delivers nothing. -/
theorem demultiplex_peer (push : Reassembler → Result (Option Bytes) × Reassembler) :
    (inbound.demultiplex prims config flags src raw coins push).1.peer = inbound.peer ∧
      delivered (inbound.demultiplex prims config flags src raw coins push).2 = [] := by
  unfold demultiplex
  split
  · exact ⟨rfl, rfl⟩
  split
  · split
    · unfold respondRekey
      split
      · exact ⟨rfl, rfl⟩
      · split
        · exact ⟨rfl, rfl⟩
        · split
          · refine ⟨rfl, ?_⟩
            cases flags.paced <;> rfl
          · exact ⟨rfl, rfl⟩
      · exact ⟨rfl, rfl⟩
    · exact ⟨rfl, rfl⟩
  · split
    · unfold confirmRekey
      split <;> exact ⟨rfl, rfl⟩
    · exact ⟨rfl, rfl⟩

/-- A datagram that opens moves the peer, and data is delivered. -/
theorem takeOpened_roams (inbound : Inbound) (src : SocketAddr)
    (roaming : config.allowRoaming = true) (frameType : FrameType) (plain : Bytes) :
    delivered (inbound.takeOpened config flags src frameType plain).2 =
        owed flags (some (frameType, plain)) ∧
      (inbound.takeOpened config flags src frameType plain).1.peer = src := by
  unfold takeOpened
  cases frameType with
  | data => exact ⟨sendToTun_delivers _ plain, (sendToTun_peer _ plain).trans (follow_peer roaming)⟩
  | close | profile | keepAlive | handshake | padding => exact ⟨rfl, follow_peer roaming⟩

/-- What does not open leaves the peer where it is: from its address nothing moves, and from any other
the datagram is dropped. -/
theorem takeOther_peer : (inbound.takeOther prims config flags now src raw coins).1.peer =
    inbound.peer := by
  unfold takeOther
  split
  · rfl
  rename_i fromPeer
  split
  · split
    · rfl
    · exact (demultiplex_peer _).1
  split
  · rfl
  rename_i frame decoded
  unfold takeFrame
  cases frame.frameType with
  | data =>
    dsimp only
    split
    · rw [sendToTun_peer, follow, if_neg fun both => fromPeer both.2]
    · rfl
  | handshake => exact (demultiplex_peer _).1
  | keepAlive => rfl
  | close => rfl
  | padding => rfl
  | profile => rfl

/-- A datagram from the peer's address that does not open delivers the clear data it holds. -/
theorem takeOther_delivers (fromPeer : src = inbound.peer) :
    delivered (inbound.takeOther prims config flags now src raw coins).2 =
      if config.hsObf = none then owed flags ((clearPlain prims inbound.sessions raw).map (.data, ·))
      else [] := by
  unfold takeOther
  rw [if_neg (not_not.mpr fromPeer)]
  rcases clear : config.hsObf with _ | key
  · rw [if_pos rfl]
    unfold clearPlain
    dsimp only
    rcases decoded : Frame.decode raw with e | frame
    · rfl
    dsimp only
    unfold takeFrame
    rcases frameType : frame.frameType <;> dsimp only
    · rw [if_pos rfl]
      rcases opened : inbound.sessions.decrypt prims frame.sessionId frame.sequence.toNat
        frame.payload with ⟨e | plain, sessions⟩
      · rfl
      · exact sendToTun_delivers _ plain
    · rw [if_neg nofun]
      exact (demultiplex_peer _).2
    all_goals
      rw [if_neg nofun]
      rfl
  · rw [if_neg nofun]
    dsimp only
    split
    · rfl
    · exact (demultiplex_peer _).2

/-- From another address a datagram that does not open does nothing. -/
theorem takeOther_foreign (foreign : src ≠ inbound.peer) :
    inbound.takeOther prims config flags now src raw coins = (inbound, []) := if_pos foreign

/-- **When a datagram is treated as roaming asks**: unless it reads in the clear only and comes from
another address than the peer's. -/
theorem roams_iff (roaming : config.allowRoaming = true) (running : inbound.running = true)
    (flags : Flags) (now : Nat) (src : SocketAddr) (raw : Bytes) (coins : InboundCoins) :
    inbound.Roams prims config flags now src raw coins ↔
      (inbound.ReadsInClear prims config raw → src = inbound.peer) := by
  rcases opened : inbound.sessions.decryptObf prims raw with ⟨e | ⟨frameType, plain⟩, sessions⟩
  · have received : inbound.receive prims config flags now src raw coins =
        ({ inbound with sessions } : Inbound).takeOther prims config flags now src raw coins := by
      unfold receive
      rw [if_pos running, opened]
    have read : inbound.reads prims config raw =
        if config.hsObf = none then (clearPlain prims sessions raw).map (.data, ·) else none := by
      unfold reads
      rw [opened]
    by_cases fromPeer : src = inbound.peer
    · have same : src = ({ inbound with sessions } : Inbound).peer := fromPeer
      refine iff_of_true ⟨?_, ?_⟩ fun _ => fromPeer
      · rw [received, read, takeOther_delivers same]
        by_cases clear : config.hsObf = none
        · rw [if_pos clear, if_pos clear]
        · rw [if_neg clear, if_neg clear]
          rfl
      · rw [received, takeOther_peer]
        split
        · exact fromPeer.symm
        · rfl
    · have foreign : src ≠ ({ inbound with sessions } : Inbound).peer := fromPeer
      rw [takeOther_foreign foreign] at received
      by_cases clear : config.hsObf = none ∧ ∃ plain, clearPlain prims sessions raw = some plain
      · obtain ⟨clear, plain, decrypts⟩ := clear
        rw [if_pos clear, decrypts] at read
        refine iff_of_false (fun roams => ?_) fun pinned => ?_
        · have moved := roams.peer
          rw [received, read] at moved
          exact fromPeer moved.symm
        · refine fromPeer (pinned ⟨clear, ⟨e, ?_⟩, plain, ?_⟩)
          · rw [opened]
          · rw [opened]
            exact decrypts
      · have nothing : inbound.reads prims config raw = none := by
          rw [read]
          split
          · rename_i hsObf
            rw [Option.map_eq_none_iff, Option.eq_none_iff_forall_ne_some]
            exact fun plain decrypts => clear ⟨hsObf, plain, decrypts⟩
          · rfl
        refine iff_of_true ⟨?_, ?_⟩ ?_
        · rw [received, nothing]
          rfl
        · rw [received, nothing]
        · rintro ⟨hsObf, -, plain, decrypts⟩
          rw [opened] at decrypts
          exact absurd ⟨hsObf, plain, decrypts⟩ clear
  · have received : inbound.receive prims config flags now src raw coins =
        ({ inbound with sessions } : Inbound).takeOpened config flags src frameType plain := by
      unfold receive
      rw [if_pos running, opened]
    have read : inbound.reads prims config raw = some (frameType, plain) := by
      unfold reads
      rw [opened]
    obtain ⟨delivers, moved⟩ := takeOpened_roams { inbound with sessions } src roaming frameType plain
    refine iff_of_true ⟨?_, ?_⟩ ?_
    · rw [received, read]
      exact delivers
    · rw [received, read]
      exact moved
    · rintro ⟨-, ⟨e, impossible⟩, -⟩
      rw [opened] at impossible
      cases impossible

/-- The loop, with the source of the last datagram that decrypted, the data such datagrams held for an open
TUN channel and the data that was delivered. -/
structure Trail where
  inbound : Inbound
  source : SocketAddr
  held : List Bytes
  delivered : List Bytes

namespace Trail

/-- One event. -/
def after (prims : Primitives) (config : InboundConfig) (trail : Trail) (event : InboundEvent) : Trail where
  inbound := (trail.inbound.react prims config event).1
  source := match event with
    | .datagram _ _ src raw _ =>
      match trail.inbound.reads prims config raw with
      | some _ => src
      | none => trail.source
    | _ => trail.source
  held := match event with
    | .datagram flags _ _ raw _ => trail.held ++ owed flags (trail.inbound.reads prims config raw)
    | _ => trail.held
  delivered := trail.delivered ++ Inbound.delivered (trail.inbound.react prims config event).2

def Step (prims : Primitives) (config : InboundConfig) (before : Trail) (event : InboundEvent)
    (next : Trail) : Prop :=
  before.inbound.running = true ∧ before.after prims config event = next

/-- No clear data frame from an address other than the peer's. -/
def Pinned (prims : Primitives) (config : InboundConfig) (trail : Trail) : InboundEvent → Prop
  | .datagram _ _ src raw _ => trail.inbound.ReadsInClear prims config raw → src = trail.inbound.peer
  | _ => True

/-- The peer is where the last datagram that decrypted came from, and all data was delivered. -/
structure Followed (trail : Trail) : Prop where
  peer : trail.inbound.peer = trail.source
  delivered : trail.delivered = trail.held

theorem followed_step (roaming : config.allowRoaming = true) {trail next : Trail} {event : InboundEvent}
    (followed : trail.Followed) (pinned : trail.Pinned prims config event)
    (taken : Step prims config trail event next) : next.Followed := by
  obtain ⟨running, rfl⟩ := taken
  cases event with
  | datagram flags now src raw coins =>
    obtain ⟨delivers, peer⟩ := (roams_iff roaming running flags now src raw coins).mpr pinned
    refine ⟨?_, ?_⟩
    · show (trail.inbound.receive prims config flags now src raw coins).1.peer = _
      rw [peer, followed.peer]
      rfl
    · show trail.delivered ++ Inbound.delivered (trail.inbound.receive prims config flags now src raw
        coins).2 = _
      rw [delivers, followed.delivered]
      rfl
  | prune now => exact ⟨followed.peer, (List.append_nil _).trans followed.delivered⟩
  | reserve n => exact ⟨followed.peer, (List.append_nil _).trans followed.delivered⟩
  | install newSession => exact ⟨followed.peer, (List.append_nil _).trans followed.delivered⟩
  | retire => exact ⟨followed.peer, (List.append_nil _).trans followed.delivered⟩

end Trail

/-- **Roaming, in every run.** Whatever datagrams came before, and whatever the other tasks did with the
sessions: the next datagram is delivered and moves the peer address if it decrypts, and leaves it alone
if it does not, exactly when it is not a clear data frame from an address other than the peer's. So in a
run without such frames the peer is where the last datagram that decrypted came from, and the data of
all of them was delivered, but for the one at which a closed TUN channel ended the loop. -/
theorem roaming (allowed : config.allowRoaming = true) (sessions : SessionManager Session)
    (peer : SocketAddr) :
    (∀ events before, Run (Trail.Step prims config) ⟨.begin sessions peer, peer, [], []⟩ events before →
      before.inbound.running = true → ∀ flags now src raw coins,
        (before.inbound.Roams prims config flags now src raw coins ↔
          (before.inbound.ReadsInClear prims config raw → src = before.inbound.peer))) ∧
    ∀ events last, Run (Guarded (Trail.Pinned prims config) (Trail.Step prims config))
        ⟨.begin sessions peer, peer, [], []⟩ events last →
      last.inbound.peer = last.source ∧ last.delivered = last.held := by
  refine ⟨fun events before _ running flags now src raw coins => roams_iff allowed running _ _ _ _ _,
    fun events last run => ?_⟩
  have followed := run.invariant Trail.Followed (fun before event after followed taken =>
    Trail.followed_step allowed followed taken.1 taken.2) ⟨rfl, rfl⟩
  exact ⟨followed.peer, followed.delivered⟩

end Roaming

/-- A tunnel that roams, and a datagram's flags and coins. -/
def sampleConfig (hsObf : Option (Octets 32)) : InboundConfig :=
  ⟨Handshake.sampleResponder, .aegis256X2, hsObf, true⟩

def sampleFlags : Flags := ⟨false, false, true, true⟩

def sampleCoins : InboundCoins := ⟨9, Handshake.sampleRespond, ⟨.zero 12, 0, fun _ => 0⟩⟩

/-- The loop of the receiving end of a sample session. -/
def sampleLoop (algo : AeadAlgo) : Inbound :=
  .begin (.new (.established .transparent 7 (.zero 32) false algo 0 [1, 5]) 10000)
    ⟨[203, 0, 113, 9], 443⟩

def sampleObfuscated : InboundConfig := sampleConfig (some (.zero 32))

def sampleClear : Inbound := sampleLoop .chaCha20Poly1305

/-- An address the peer roams to. -/
def sampleElsewhere : SocketAddr := ⟨[198, 51, 100, 7], 40000⟩

/-- The peer's obfuscated datagram from elsewhere is followed. -/
theorem roaming_sample : (sampleLoop .aegis256X2).Roams .transparent sampleObfuscated sampleFlags 0
    sampleElsewhere SessionManager.sampleDatagram sampleCoins := by
  have allowed : sampleObfuscated.allowRoaming = true := rfl
  refine ((roaming allowed _ _).1 [] _ (.done _) rfl sampleFlags 0 sampleElsewhere
    SessionManager.sampleDatagram sampleCoins).mpr ?_
  rintro ⟨clear, -⟩
  cases clear

/-- A data frame of the other cipher, in the clear. -/
def sampleFrame : Bytes :=
  (do
    let ct ← (Session.established .transparent 7 (.zero 32) true .chaCha20Poly1305 0 []).sealWithCounter
      .transparent 3 [1, 2, 3]
    (Frame.mk .data 7 3 ct).encode : Result Bytes).toOption.getD []

/-- **In the clear the peer cannot roam**: its data frame decrypts, is not delivered, and the peer address
stays. -/
theorem clear_frame_dropped :
    sampleClear.reads .transparent (sampleConfig none) sampleFrame = some (.data, [1, 2, 3]) ∧
    (sampleClear.receive .transparent (sampleConfig none) sampleFlags 0 sampleElsewhere sampleFrame
      sampleCoins).2 = [] ∧
    (sampleClear.receive .transparent (sampleConfig none) sampleFlags 0 sampleElsewhere sampleFrame
      sampleCoins).1.peer = sampleClear.peer ∧
    ¬ sampleClear.Roams .transparent (sampleConfig none) sampleFlags 0 sampleElsewhere sampleFrame
      sampleCoins := by
  have read : sampleClear.reads .transparent (sampleConfig none) sampleFrame =
      some (.data, [1, 2, 3]) := by decide +kernel
  have dropped : (sampleClear.receive .transparent (sampleConfig none) sampleFlags 0 sampleElsewhere
      sampleFrame sampleCoins).2 = [] := by decide +kernel
  refine ⟨read, dropped, by decide +kernel, fun roams => ?_⟩
  have delivers := roams.delivers
  rw [read, dropped] at delivers
  cases delivers

end Inbound

end ChameleonPQ
