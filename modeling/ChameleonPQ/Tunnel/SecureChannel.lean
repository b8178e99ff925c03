/-
**What one end of the tunnel delivers (`tunnel_loops.rs`, `rekey.rs`).**

Over a whole run, with any number of rekeys as initiator or as responder, whatever arrives and in whatever
order the workers' results are taken.

* `Yields` — the data a sealed frame holds for the TUN.
* `Node.Unused` — what is about to be installed received nothing.
* `Node.step_moves` — what a step opens is on the way, and what it hands to the TUN was; `Node.Gain.books`
  notes what was opened.
* `delivered_once` — what reaches the TUN is data the peer sealed, each sealed frame at most once.
-/

import ChameleonPQ.Session.Books
import ChameleonPQ.Tunnel.Node

namespace ChameleonPQ

open Library Library.Runs

/-! ### New sessions -/

/-- A session that waits for its Confirm received nothing. -/
def Handshake.Unused (handshake : Handshake) : Prop :=
  ∀ session hash, handshake = .sentResponse session hash → session.replay = .new

/-- Nor did the session a driver is about to install. -/
def RekeyStage.Unused : RekeyStage → Prop
  | .sendingConfirm session _ => session.replay = .new
  | .sendingInit _ _ _ | .waiting _ _ _ _ | .ended _ => True

section Unused

variable {prims : Primitives} {auth : Authenticator} {raw wire : Bytes} {session : Session}

theorem unused_of_respond {preferred : AeadAlgo} {coins : RespondCoins} {state : Handshake}
    (responded : Handshake.respond prims raw auth preferred coins = .ok (state, wire)) : state.Unused := by
  obtain ⟨view, -, -, -, rfl⟩ := Handshake.respond_eq_ok_iff.mp responded
  intro session hash same
  cases same
  rfl

theorem unused_of_confirm {handshake : Handshake} (unused : handshake.Unused)
    (confirmed : handshake.confirm prims raw auth = .ok (.established session)) : session.replay = .new := by
  obtain ⟨session', hash, conf, held, -, -, -, same⟩ := Handshake.confirm_eq_ok_iff.mp confirmed
  cases same
  exact unused _ hash held

theorem unused_of_finalize {handshake : Handshake} {coins : ConfirmCoins}
    (finalized : handshake.finalize prims raw auth coins = .ok (.established session, wire)) :
    session.replay = .new := by
  simp only [Handshake.finalize] at finalized
  repeat' split at finalized
  all_goals
    cases finalized
  rfl

/-! #### The driver -/

variable {config : InboundConfig} {driver : RekeyDriver} {now : Nat}

theorem unused_send (init : RekeyInit) (attempt : Nat) (left : List Bytes) : (init.send now attempt left).Unused := by
  cases left <;> trivial

theorem unused_sendConfirm (unused : session.replay = .new) (left : List Bytes) :
    (sendConfirm session left).1.Unused ∧
      ∀ installed, (sendConfirm session left).2 = some installed → installed.replay = .new := by
  cases left with
  | nil => exact ⟨trivial, fun installed here => Option.some.inj here ▸ unused⟩
  | cons datagram left => exact ⟨unused, fun _ none => by cases none⟩

theorem unused_begin (sink : HandshakeSink) (newId : UInt32) (start : StartCoins) (envelope : HsObf.SealCoins) :
    (RekeyDriver.begin prims config sink newId now start envelope).stage.Unused := by
  unfold RekeyDriver.begin
  dsimp only
  split
  · trivial
  · split
    · trivial
    · exact unused_send _ _ _

theorem unused_sent (now : Nat) (unused : driver.stage.Unused) :
    (driver.sent now).1.stage.Unused ∧
      ∀ installed, (driver.sent now).2 = some installed → installed.replay = .new := by
  unfold RekeyDriver.sent
  split
  · exact ⟨unused_send _ _ _, fun _ none => by cases none⟩
  · rename_i session left stage
    rw [stage] at unused
    exact unused_sendConfirm unused _
  · exact ⟨unused, fun _ none => by cases none⟩

/-- **A Response gives a session that received nothing.** -/
theorem unused_read (prims : Primitives) (config : InboundConfig) (now : Nat) (raw : Bytes)
    (unused : driver.stage.Unused) (coins : DriverCoins) :
    (driver.read prims config now raw coins).1.stage.Unused ∧
      ∀ installed, (driver.read prims config now raw coins).2 = some installed → installed.replay = .new := by
  unfold RekeyDriver.read
  split
  · split
    · unfold RekeyDriver.conclude
      split
      · exact ⟨trivial, fun _ none => by cases none⟩
      · rename_i finalized
        split
        · exact ⟨trivial, fun _ none => by cases none⟩
        · exact unused_sendConfirm (unused_of_finalize finalized) _
      · exact ⟨trivial, fun _ none => by cases none⟩
    · exact ⟨trivial, fun _ none => by cases none⟩
  · exact ⟨unused, fun _ none => by cases none⟩

theorem unused_timeOut (unused : driver.stage.Unused) : (driver.timeOut now).stage.Unused := by
  unfold RekeyDriver.timeOut
  split
  · split
    · exact unused_send _ _ _
    · trivial
  · exact unused

end Unused

/-! ### The inbound loop -/

/-- The data a frame holds for the TUN: packed, or in the clear where the loop reads clear frames. -/
def Yields (config : InboundConfig) (frame : SealedFrame) (plain : Bytes) : Prop :=
  Obf.unpackInner frame.framed = .ok (FrameType.data.asU8, plain) ∨ (config.hsObf = none ∧ frame.framed = plain)

namespace Inbound

/-- The handshake the loop holds has a session that received nothing. -/
def PendingUnused (inbound : Inbound) : Prop :=
  ∀ handshake id, inbound.pendingRekey = some (handshake, id) → handshake.Unused

/-- **What a datagram that was not opened does to the sessions**, and the data it delivers. -/
inductive Turn (prims : Primitives) (config : InboundConfig) (raw : Bytes) (before after : SessionManager Session) :
    List Bytes → Prop
  | kept : after = before → Turn prims config raw before after []
  | installed (session : Session) : session.replay = .new → after = before.installNewSession session →
      Turn prims config raw before after []
  | clear (frame : Frame) : config.hsObf = none → Frame.decode raw = .ok frame →
      after = (before.decrypt prims frame.sessionId frame.sequence.toNat frame.payload).2 →
      Turn prims config raw before after
        (before.decrypt prims frame.sessionId frame.sequence.toNat frame.payload).1.toOption.toList

variable (prims : Primitives) (config : InboundConfig) (flags : Flags) {inbound : Inbound} (now : Nat)
  (src : SocketAddr) (raw : Bytes) (coins : InboundCoins)

theorem respondRekey_turn (unused : inbound.PendingUnused) (initWire : Bytes) :
    (inbound.respondRekey prims config flags src initWire coins).1.PendingUnused ∧
      (inbound.respondRekey prims config flags src initWire coins).1.sessions = inbound.sessions := by
  unfold respondRekey
  split
  · exact ⟨unused, rfl⟩
  · rename_i session hash respWire responded
    split
    · exact ⟨unused, rfl⟩
    · split
      · refine ⟨fun handshake id here => ?_, rfl⟩
        obtain ⟨rfl, rfl⟩ := Prod.mk.inj (Option.some.inj here)
        exact unused_of_respond responded
      · exact ⟨unused, rfl⟩
  · exact ⟨unused, rfl⟩

theorem confirmRekey_turn {handshake : Handshake} (unused : handshake.Unused) (confirmWire : Bytes) :
    (inbound.confirmRekey prims config handshake confirmWire).1.PendingUnused ∧
      Turn prims config raw inbound.sessions
        (inbound.confirmRekey prims config handshake confirmWire).1.sessions [] := by
  unfold confirmRekey
  split
  · rename_i session confirmed
    exact ⟨nofun, .installed session (unused_of_confirm unused confirmed) rfl⟩
  · exact ⟨nofun, .kept rfl⟩

theorem demultiplex_turn (unused : inbound.PendingUnused)
    (push : Reassembler → Result (Option Bytes) × Reassembler) :
    (inbound.demultiplex prims config flags src raw coins push).1.PendingUnused ∧
      Turn prims config raw inbound.sessions
        (inbound.demultiplex prims config flags src raw coins push).1.sessions [] := by
  unfold demultiplex
  split
  · exact ⟨unused, .kept rfl⟩
  split
  · split
    · rename_i initWire rekeyReasm _
      have held : ({ inbound with rekeyReasm } : Inbound).PendingUnused := unused
      obtain ⟨pending, same⟩ := respondRekey_turn prims config flags src coins held initWire
      exact ⟨pending, .kept same⟩
    · exact ⟨unused, .kept rfl⟩
  · rename_i handshake id held
    split
    · exact confirmRekey_turn prims config raw (unused handshake id held) _
    · exact ⟨unused, .kept rfl⟩

theorem follow_sessions : (inbound.follow config src).sessions = inbound.sessions := by
  unfold follow
  split <;> rfl

theorem follow_pendingRekey : (inbound.follow config src).pendingRekey = inbound.pendingRekey := by
  unfold follow
  split <;> rfl

/-- A datagram that was opened leaves the slots and the pending rekey alone. -/
theorem takeOpened_slots (inbound : Inbound) (frameType : FrameType) (plain : Bytes) :
    (inbound.takeOpened config flags src frameType plain).1.sessions = inbound.sessions ∧
      (inbound.takeOpened config flags src frameType plain).1.pendingRekey = inbound.pendingRekey := by
  unfold takeOpened
  cases frameType with
  | data =>
    obtain ⟨running, sent⟩ := @sendToTun_frame flags (inbound.follow config src) plain
    dsimp only
    rw [sent]
    exact ⟨follow_sessions config src, follow_pendingRekey config src⟩
  | close | profile | keepAlive | handshake | padding =>
    exact ⟨follow_sessions config src, follow_pendingRekey config src⟩

/-- **A datagram that was not opened** delivers the data of a clear frame or none, while the TUN channel is
open, and installs a session that received nothing or none. -/
theorem takeOther_turn (unused : inbound.PendingUnused) (tunOpen : flags.tunOpen = true) :
    (inbound.takeOther prims config flags now src raw coins).1.PendingUnused ∧
      Turn prims config raw inbound.sessions (inbound.takeOther prims config flags now src raw coins).1.sessions
        (delivered (inbound.takeOther prims config flags now src raw coins).2) := by
  have demuxed : ∀ push, (inbound.demultiplex prims config flags src raw coins push).1.PendingUnused ∧
      Turn prims config raw inbound.sessions
        (inbound.demultiplex prims config flags src raw coins push).1.sessions
        (delivered (inbound.demultiplex prims config flags src raw coins push).2) := fun push => by
    rw [(demultiplex_peer push).2]
    exact demultiplex_turn prims config flags src raw coins unused push
  unfold takeOther
  split
  · exact ⟨unused, .kept rfl⟩
  split
  · split
    · exact ⟨unused, .kept rfl⟩
    · exact demuxed _
  rename_i framing
  split
  · exact ⟨unused, .kept rfl⟩
  rename_i frame decoded
  unfold takeFrame
  split
  · have turn : Turn prims config raw inbound.sessions _ _ := .clear frame framing decoded rfl
    rcases opened : inbound.sessions.decrypt prims frame.sessionId frame.sequence.toNat frame.payload with
      ⟨e | plain, sessions⟩
    · rw [opened] at turn
      exact ⟨unused, turn⟩
    · rw [opened] at turn
      dsimp only
      rw [sendToTun_open tunOpen]
      refine ⟨fun handshake id here => unused handshake id ?_, ?_⟩
      · rwa [follow_pendingRekey] at here
      · rw [follow_sessions]
        exact turn
  · exact demuxed _
  all_goals exact ⟨unused, .kept rfl⟩

end Inbound

/-! ### One end of the tunnel -/

/-- The data of a result. -/
def Opened.data (datagram : Opened) : Option Bytes :=
  match datagram.outcome with
  | some (.data, plain) => some plain
  | _ => none

namespace Node

/-- The data that was opened, and has not reached the TUN. -/
def onTheWay (node : Node) : List Bytes := Inbound.delivered node.agenda ++ node.opened.filterMap Opened.data

/-- The data an event hands to the TUN. -/
def handed (node : Node) : NodeEvent → List Bytes
  | .work => Inbound.delivered (node.agenda.take 1)
  | _ => []

/-- The sessions of the slots open only what the peer sealed. -/
def Unforged (prims : Primitives) (config : NodeConfig) (sent : List SealedFrame) (node : Node) : NodeEvent → Prop
  | .decrypt _ raw => ∀ session, node.inbound.sessions.InSlot session → ∀ header,
      Obf.unmask prims session.rxObfKey raw = some header →
        session.Unforged prims sent header.counter (Obf.ctSlice raw)
  | .take index _ _ _ => config.hsObf = none → ∀ datagram, node.opened[index]? = some datagram → ∀ frame,
      Frame.decode datagram.raw = .ok frame → ∀ session, node.inbound.sessions.InSlot session →
        session.Unforged prims sent frame.sequence.toNat frame.payload
  | _ => True

theorem filterMap_concat (opened : List Opened) (datagram : Opened) :
    (opened ++ [datagram]).filterMap Opened.data = opened.filterMap Opened.data ++ datagram.data.toList := by
  rw [List.filterMap_append, List.filterMap_cons]
  cases datagram.data <;> rfl

/-- What is about to be installed received nothing. -/
structure Unused (node : Node) : Prop where
  pending : node.inbound.PendingUnused
  driver : ∀ driver, node.driver = some driver → driver.stage.Unused

/-- **What an event does to the sessions**, and the data it opens. -/
inductive Gain (prims : Primitives) (config : InboundConfig) (node : Node) (after : SessionManager Session) :
    NodeEvent → List Bytes → Prop
  | kept (event : NodeEvent) : node.inbound.sessions.current.Committed after.current →
      (∀ last, after.previous = some last → node.inbound.sessions.previous = some last) →
      Gain prims config node after event []
  | installed (event : NodeEvent) (session : Session) : session.replay = .new →
      after = node.inbound.sessions.installNewSession session → Gain prims config node after event []
  | opened (src : SocketAddr) (raw : Bytes) : after = (node.inbound.sessions.decryptObf prims raw).2 →
      Gain prims config node after (.decrypt src raw)
        (Opened.data ⟨src, raw, (node.inbound.sessions.decryptObf prims raw).1.toOption⟩).toList
  | clear (index now : Nat) (sends : Bool) (coins : InboundCoins) (datagram : Opened) (frame : Frame) :
      node.opened[index]? = some datagram → config.hsObf = none → Frame.decode datagram.raw = .ok frame →
      after = (node.inbound.sessions.decrypt prims frame.sessionId frame.sequence.toNat frame.payload).2 →
      Gain prims config node after (.take index now sends coins)
        (node.inbound.sessions.decrypt prims frame.sessionId frame.sequence.toNat frame.payload).1.toOption.toList

section Steps

variable {prims : Primitives} {config : NodeConfig} {node after : Node} {event : NodeEvent}

theorem Gain.of_slots {sessions : SessionManager Session} (current : sessions.current = node.inbound.sessions.current)
    (previous : sessions.previous = node.inbound.sessions.previous) :
    Gain prims config.toInboundConfig node sessions event [] := by
  refine .kept event ?_ fun _ slot => previous ▸ slot
  rw [current]
  exact .refl _

theorem Gain.same (sessions : after.inbound.sessions = node.inbound.sessions) :
    Gain prims config.toInboundConfig node after.inbound.sessions event [] :=
  .of_slots (congrArg _ sessions) (congrArg _ sessions)

theorem Gain.established {established : Option Session} {sessions : SessionManager Session}
    (installs : sessions = match established with
      | some session => node.inbound.sessions.installNewSession session
      | none => node.inbound.sessions)
    (unused : ∀ installed, established = some installed → installed.replay = .new) :
    Gain prims config.toInboundConfig node sessions event [] := by
  cases established with
  | none => exact .of_slots (congrArg _ installs) (congrArg _ installs)
  | some session => exact .installed event session (unused session rfl) installs

theorem work_moves {sent : List (SocketAddr × Bytes)} (worked : node.work = some (after, sent)) :
    after.inbound = node.inbound ∧ after.driver = node.driver ∧
      node.handed .work ++ after.onTheWay = node.onTheWay := by
  unfold work at worked
  unfold handed onTheWay
  split at worked
  · cases worked
  · rename_i agenda
    split at worked
    · obtain ⟨rfl, -⟩ := Prod.mk.inj (Option.some.inj worked)
      exact ⟨rfl, rfl, by rw [agenda]; rfl⟩
    · cases worked
  · rename_i agenda
    split at worked
    · obtain ⟨rfl, -⟩ := Prod.mk.inj (Option.some.inj worked)
      exact ⟨rfl, rfl, by rw [agenda]; rfl⟩
    · cases worked
  all_goals
    rename_i agenda
    obtain ⟨rfl, -⟩ := Prod.mk.inj (Option.some.inj worked)
    exact ⟨rfl, rfl, by rw [agenda]; rfl⟩

/-- **Taking a result** moves its data on, or opens a clear frame. -/
theorem take_moves (unused : node.Unused) {index : Nat} {datagram : Opened} (idle : node.agenda = [])
    (present : node.opened[index]? = some datagram) (now : Nat) (sends : Bool) (coins : InboundCoins) :
    ∃ gained, Gain prims config.toInboundConfig node
        (node.take prims config index now sends coins datagram).inbound.sessions (.take index now sends coins)
          gained ∧
      (node.take prims config index now sends coins datagram).Unused ∧
      (node.take prims config index now sends coins datagram).onTheWay.Perm (gained ++ node.onTheWay) := by
  have inside := (List.getElem?_eq_some_iff.mp present).1
  have here : node.opened[index] = datagram := (List.getElem?_eq_some_iff.mp present).2
  have split : (node.opened.filterMap Opened.data).Perm
      (datagram.data.toList ++ (node.opened.eraseIdx index).filterMap Opened.data) := by
    have moved := (List.getElem_cons_eraseIdx_perm inside).symm.filterMap Opened.data
    rw [here, List.filterMap_cons] at moved
    cases data : datagram.data with
    | none => rwa [data] at moved
    | some plain => rwa [data] at moved
  unfold take Inbound.take onTheWay
  rw [idle]
  rcases outcome : datagram.outcome with _ | ⟨frameType, plain⟩
  · obtain ⟨pending, turn⟩ := Inbound.takeOther_turn prims config.toInboundConfig
      ⟨node.rekeying, node.pacedState, node.pacedState || sends, true⟩ now datagram.src datagram.raw coins
      unused.pending rfl
    have none : datagram.data = none := by
      unfold Opened.data
      rw [outcome]
    rw [none] at split
    refine ⟨_, ?_, ⟨pending, unused.driver⟩, split.symm.append_left _⟩
    generalize Inbound.delivered _ = gained at turn ⊢
    cases turn with
    | kept same => exact .same same
    | installed session fresh same => exact .installed _ session fresh same
    | clear frame framing decoded same =>
      exact .clear index now sends coins datagram frame present framing decoded same
  · let flags : Flags := ⟨node.rekeying, node.pacedState, node.pacedState || sends, true⟩
    have same := Inbound.takeOpened_slots config.toInboundConfig flags datagram.src node.inbound frameType plain
    have moved : Inbound.delivered
        (node.inbound.takeOpened config.toInboundConfig flags datagram.src frameType plain).2 =
          datagram.data.toList := by
      unfold Inbound.takeOpened Opened.data
      rw [outcome, Inbound.sendToTun_open rfl]
      cases frameType <;> rfl
    refine ⟨[], .same same.1,
      ⟨fun handshake id held => unused.pending handshake id (same.2 ▸ held), unused.driver⟩, ?_⟩
    rw [moved]
    exact split.symm

/-- The driver is replaced. -/
theorem Unused.withDriver (unused : node.Unused) {driver : Option RekeyDriver}
    (advanced : ∀ driver', driver = some driver' → driver'.stage.Unused)
    (pending : after.inbound.pendingRekey = node.inbound.pendingRekey) (replaced : after.driver = driver) :
    after.Unused where
  pending := fun handshake id held => unused.pending handshake id (pending ▸ held)
  driver := fun driver' here => advanced driver' (replaced ▸ here)

theorem needsRekey_slots (sessions : SessionManager Session) (counter now : Nat) :
    (sessions.needsRekey counter now).2.current = sessions.current ∧
      (sessions.needsRekey counter now).2.previous = sessions.previous := by
  unfold SessionManager.needsRekey
  repeat' split
  all_goals exact ⟨rfl, rfl⟩

/-- The rekey trigger leaves the slots alone, and what is on the way. -/
theorem triggerRekey_moves (prims : Primitives) (config : NodeConfig) (event : NodeEvent) (unused : node.Unused)
    (now : Nat) (newId : UInt32) (start : StartCoins)
    (envelope : HsObf.SealCoins) :
    Gain prims config.toInboundConfig node
        (node.triggerRekey prims config now newId start envelope).inbound.sessions event [] ∧
      (node.triggerRekey prims config now newId start envelope).Unused ∧
      (node.triggerRekey prims config now newId start envelope).onTheWay = node.onTheWay := by
  obtain ⟨current, previous⟩ := needsRekey_slots node.inbound.sessions node.inbound.sessions.current.txCounter now
  have gain : Gain prims config.toInboundConfig node (node.inbound.sessions.needsRekey
      node.inbound.sessions.current.txCounter now).2 event [] := .of_slots current previous
  unfold triggerRekey
  dsimp only
  split
  · refine ⟨gain, unused.withDriver (fun begun here => ?_) rfl rfl, rfl⟩
    rw [← Option.some.inj here]
    exact unused_begin _ _ _ _
  · exact ⟨gain, ⟨unused.pending, unused.driver⟩, rfl⟩

/-- **What a step of the tunnel moves**: what it opens is on the way, and what it hands to the TUN was. -/
theorem step_moves (unused : node.Unused) (taken : node.step prims config event = some after) :
    ∃ gained, Gain prims config.toInboundConfig node after.inbound.sessions event gained ∧ after.Unused ∧
      (node.handed event ++ after.onTheWay).Perm (gained ++ node.onTheWay) := by
  unfold step at taken
  split at taken
  swap
  · cases taken
  obtain ⟨⟨after', sent⟩, reacts, rfl⟩ := Option.map_eq_some_iff.mp taken
  cases event with
  | decrypt src raw =>
    obtain ⟨rfl, -⟩ := Prod.mk.inj (Option.some.inj reacts)
    refine ⟨_, .opened src raw rfl, ⟨unused.pending, unused.driver⟩, ?_⟩
    show (Inbound.delivered node.agenda ++ (node.opened ++ [_]).filterMap Opened.data).Perm _
    rw [filterMap_concat, ← List.append_assoc]
    exact List.perm_append_comm
  | take index now sends coins =>
    simp only [react] at reacts
    split at reacts
    · rename_i datagram idle present
      obtain ⟨rfl, -⟩ := Prod.mk.inj (Option.some.inj reacts)
      exact take_moves unused idle present now sends coins
    · cases reacts
  | work =>
    obtain ⟨inbound, driver, moved⟩ := work_moves reacts
    exact ⟨[], .same (congrArg _ inbound), unused.withDriver unused.driver (congrArg _ inbound) driver,
      .of_eq moved⟩
  | tunCloses =>
    obtain rfl := tunCloses_eq reacts
    exact ⟨[], .same rfl, ⟨unused.pending, unused.driver⟩, .refl _⟩
  | prune now =>
    simp only [react] at reacts
    split at reacts
    · obtain ⟨rfl, -⟩ := Prod.mk.inj (Option.some.inj reacts)
      exact ⟨[], .same rfl, ⟨unused.pending, unused.driver⟩, .refl _⟩
    · cases reacts
  | tick now newId start envelope =>
    -- a slot takes handshake datagrams from their queue only
    obtain ⟨hsSend, served⟩ : ∃ hsSend, node.slot.1 = { node with hsSend } := by
      unfold slot
      split <;> exact ⟨_, rfl⟩
    have triggers : node.slot.1.triggerRekey prims config now newId start envelope = after' :=
      congrArg Prod.fst (Option.some.inj reacts)
    rw [served] at triggers
    have idle : ({ node with hsSend } : Node).Unused := ⟨unused.pending, unused.driver⟩
    obtain ⟨gain, kept, onTheWay⟩ :=
      triggerRekey_moves prims config (.tick now newId start envelope) idle now newId start envelope
    rw [triggers] at gain kept onTheWay
    refine ⟨[], ?_, kept, .of_eq onTheWay⟩
    cases gain with
    | kept _ current previous => exact .kept _ current previous
    | installed _ session fresh same => exact .installed _ session fresh same
  | driverSends now success =>
    obtain ⟨driver, inFlight, sends⟩ := Option.bind_eq_some_iff.mp reacts
    obtain ⟨stage, fresh⟩ := unused_sent now (unused.driver driver inFlight)
    have advanced : ∀ driver', some (driver.sent now).1 = some driver' → driver'.stage.Unused := by
      intro driver' here
      rw [← Option.some.inj here]
      exact stage
    unfold driverSends at sends
    split at sends
    · cases sends
    · dsimp only at sends
      split at sends
      · split at sends
        · obtain ⟨rfl, -⟩ := Prod.mk.inj (Option.some.inj sends)
          exact ⟨[], .established rfl fresh, unused.withDriver advanced rfl rfl, .refl _⟩
        · obtain ⟨rfl, -⟩ := Prod.mk.inj (Option.some.inj sends)
          refine ⟨[], .same rfl, unused.withDriver (fun failed here => ?_) rfl rfl, .refl _⟩
          rw [← Option.some.inj here]
          trivial
      · split at sends
        · obtain ⟨rfl, -⟩ := Prod.mk.inj (Option.some.inj sends)
          exact ⟨[], .established rfl fresh, unused.withDriver advanced rfl rfl, .refl _⟩
        · cases sends
  | driverReads now coins =>
    obtain ⟨driver, inFlight, mapped⟩ := Option.bind_eq_some_iff.mp reacts
    obtain ⟨advanced, reads, same⟩ := Option.map_eq_some_iff.mp mapped
    obtain ⟨rfl, -⟩ := Prod.mk.inj same
    unfold driverReads at reads
    split at reads
    · rename_i raw hsQueue _ _
      obtain ⟨stage, fresh⟩ := unused_read prims config.toInboundConfig now raw
        (unused.driver driver inFlight) coins
      obtain rfl := Option.some.inj reads
      refine ⟨[], .established rfl fresh, unused.withDriver (fun driver' here => ?_) rfl rfl, .refl _⟩
      rw [← Option.some.inj here]
      exact stage
    · cases reads
  | driverTimesOut now =>
    obtain ⟨driver, inFlight, mapped⟩ := Option.bind_eq_some_iff.mp reacts
    obtain ⟨advanced, times, same⟩ := Option.map_eq_some_iff.mp mapped
    obtain ⟨rfl, -⟩ := Prod.mk.inj same
    unfold driverTimesOut at times
    split at times
    · split at times
      · cases times
      · obtain rfl := Option.some.inj times
        refine ⟨[], .same rfl, unused.withDriver (fun driver' here => ?_) rfl rfl, .refl _⟩
        rw [← Option.some.inj here]
        exact unused_timeOut (unused.driver driver inFlight)
    · cases times
  | rekeyDone =>
    obtain ⟨driver, inFlight, mapped⟩ := Option.bind_eq_some_iff.mp reacts
    obtain ⟨advanced, done, same⟩ := Option.map_eq_some_iff.mp mapped
    obtain ⟨rfl, -⟩ := Prod.mk.inj same
    unfold rekeyDone at done
    split at done
    · obtain rfl := Option.some.inj done
      exact ⟨[], .same rfl, unused.withDriver (by intro _ ended; cases ended) rfl rfl, .refl _⟩
    · obtain rfl := Option.some.inj done
      exact ⟨[], Gain.of_slots rfl rfl, unused.withDriver (by intro _ ended; cases ended) rfl rfl, .refl _⟩
    · cases done
  | switch eff =>
    obtain ⟨rfl, -⟩ := Prod.mk.inj (Option.some.inj reacts)
    exact ⟨[], .same rfl, ⟨unused.pending, unused.driver⟩, .refl _⟩
  | reserve n =>
    obtain ⟨rfl, -⟩ := Prod.mk.inj (Option.some.inj reacts)
    exact ⟨[], .kept _ (Session.committed_reserveCounters _ n) fun _ slot => slot,
      ⟨unused.pending, unused.driver⟩, .refl _⟩
  | retire =>
    simp only [react] at reacts
    split at reacts
    · obtain ⟨rfl, -⟩ := Prod.mk.inj (Option.some.inj reacts)
      exact ⟨[], .kept _ (.refl _) (by intro _ slot; cases slot), ⟨unused.pending, unused.driver⟩, .refl _⟩
    · cases reacts

/-- **The books after a step**: what it opened is noted, and is the peer's. -/
theorem Gain.books {sent : List SealedFrame} {keys : List (Octets 32)} {taken : List SealedFrame}
    {sessions : SessionManager Session} {gained : List Bytes}
    (gain : Gain prims config.toInboundConfig node sessions event gained)
    (booked : Booked keys taken node.inbound.sessions)
    (unforged : node.Unforged prims config sent event)
    (fresh : ∀ session, sessions = node.inbound.sessions.installNewSession session → session.rxAead.key ∉ keys) :
    ∃ noted : List (SealedFrame × Bytes), noted.map Prod.snd = gained ∧
      (∀ entry ∈ noted, entry.1 ∈ sent ∧ Yields config.toInboundConfig entry.1 entry.2) ∧
        Booked (sessions.current.rxAead.key :: keys) (noted.map Prod.fst ++ taken) sessions := by
  cases gain with
  | kept _ current previous =>
    refine ⟨[], rfl, nofun, (booked.of_committed current fun last slot => ?_).more _⟩
    exact ⟨last, previous last slot, .refl last⟩
  | installed _ session unused same =>
    subst same
    exact ⟨[], rfl, nofun, booked.install unused (fresh session rfl)⟩
  | opened src raw same =>
    rcases opens : node.inbound.sessions.decryptObf prims raw with ⟨e | ⟨frameType, plain⟩, later⟩
    · refine ⟨[], rfl, nofun, ?_⟩
      rw [same]
      exact (booked.decryptObf prims raw).more _
    · obtain rfl : sessions = later := by rw [same, opens]
      obtain ⟨frame, among, unpacked, books⟩ := booked.decryptObf_ok unforged opens
      cases frameType with
      | data =>
        exact ⟨[(frame, plain)], rfl, List.forall_mem_singleton.mpr ⟨among, .inl unpacked⟩, books.more _⟩
      | handshake | keepAlive | close | padding | profile =>
        refine ⟨[], rfl, nofun, ?_⟩
        rw [same]
        exact (booked.decryptObf prims raw).more _
  | clear index now sends coins datagram frame present framing decoded same =>
    rcases opens : node.inbound.sessions.decrypt prims frame.sessionId frame.sequence.toNat frame.payload with
      ⟨e | plain, later⟩
    · refine ⟨[], rfl, nofun, ?_⟩
      rw [same]
      exact (booked.decrypt prims _ _ _).more _
    · obtain rfl : sessions = later := by rw [same, opens]
      obtain ⟨opened, among, framed, books⟩ :=
        booked.decrypt_ok (unforged framing datagram present frame decoded) opens
      exact ⟨[(opened, plain)], rfl, List.forall_mem_singleton.mpr ⟨among, .inr ⟨framing, framed⟩⟩, books.more _⟩

end Steps

end Node

/-! ### A tunnel that delivers -/

/-- One end of the tunnel, the keys its sessions received under, and what reached the TUN. -/
structure DeliveringTunnel where
  node : Node
  keys : List (Octets 32)
  delivered : List Bytes

namespace DeliveringTunnel

section Definitions

variable (prims : Primitives) (config : NodeConfig)

def begin (sessions : SessionManager Session) (peer : SocketAddr) (eff : EffectiveTraffic) : DeliveringTunnel :=
  ⟨.begin config sessions peer eff, [sessions.current.rxAead.key], []⟩

def step (tunnel : DeliveringTunnel) (event : NodeEvent) : Option DeliveringTunnel :=
  (tunnel.node.step prims config event).map fun node =>
    ⟨node, node.inbound.sessions.current.rxAead.key :: tunnel.keys, tunnel.delivered ++ tunnel.node.handed event⟩

/-- **What the tunnel relies on**: the AEAD opens only what the peer sealed, and a handshake gives a key that
was not used. -/
structure Secure (sent : List SealedFrame) (tunnel : DeliveringTunnel) (event : NodeEvent) : Prop where
  unforged : tunnel.node.Unforged prims config sent event
  fresh : ∀ after session, tunnel.node.step prims config event = some after →
    after.inbound.sessions = tunnel.node.inbound.sessions.installNewSession session →
      session.rxAead.key ∉ tunnel.keys

end Definitions

/-- **What was opened is the peer's, and is delivered or on the way**, each frame once. -/
structure Accounts (config : NodeConfig) (sent : List SealedFrame) (taken : List (SealedFrame × Bytes))
    (tunnel : DeliveringTunnel) : Prop where
  unused : tunnel.node.Unused
  booked : Booked tunnel.keys (taken.map Prod.fst) tunnel.node.inbound.sessions
  genuine : ∀ entry ∈ taken, entry.1 ∈ sent ∧ Yields config.toInboundConfig entry.1 entry.2
  balance : (taken.map Prod.snd).Perm (tunnel.delivered ++ tunnel.node.onTheWay)

variable {prims : Primitives} {config : NodeConfig} {sent : List SealedFrame} {tunnel after : DeliveringTunnel}
  {event : NodeEvent}

/-- Nothing was opened when the tunnel starts. -/
theorem accounts_begin (sent : List SealedFrame) {session : Session} (unused : session.replay = .new) (now : Nat)
    (peer : SocketAddr) (eff : EffectiveTraffic) :
    Accounts config sent [] (begin config (.new session now) peer eff) where
  unused := ⟨nofun, nofun⟩
  booked := ⟨List.nodup_nil, nofun, Session.guards_new unused nofun, List.mem_cons_self, nofun, nofun⟩
  genuine := nofun
  balance := .refl _

/-- **The step lemma.** -/
theorem Accounts.step {taken : List (SealedFrame × Bytes)} (accounts : Accounts config sent taken tunnel)
    (secure : Secure prims config sent tunnel event) (stepped : tunnel.step prims config event = some after) :
    ∃ taken', Accounts config sent taken' after := by
  obtain ⟨node, moved, rfl⟩ := Option.map_eq_some_iff.mp stepped
  obtain ⟨gained, gain, unused, balance⟩ := Node.step_moves accounts.unused moved
  obtain ⟨noted, yields, genuine, booked⟩ := gain.books accounts.booked secure.unforged
    fun session installed => secure.fresh node session moved installed
  refine ⟨noted ++ taken, unused, List.map_append ▸ booked,
    List.forall_mem_append.mpr ⟨genuine, accounts.genuine⟩, ?_⟩
  calc (noted ++ taken).map Prod.snd
    _ = gained ++ taken.map Prod.snd := by rw [List.map_append, yields]
    List.Perm _ (gained ++ (tunnel.delivered ++ tunnel.node.onTheWay)) := accounts.balance.append_left gained
    List.Perm _ (tunnel.delivered ++ (gained ++ tunnel.node.onTheWay)) := by
      rw [← List.append_assoc, ← List.append_assoc]
      exact List.perm_append_comm.append_right _
    List.Perm _ (tunnel.delivered ++ (tunnel.node.handed event ++ node.onTheWay)) := balance.symm.append_left _
    _ = tunnel.delivered ++ tunnel.node.handed event ++ node.onTheWay := (List.append_assoc _ _ _).symm

/-- **The run lemma.** -/
theorem accounts_run {first last : DeliveringTunnel} {events : List NodeEvent} {taken : List (SealedFrame × Bytes)}
    (run : Run (Guarded (Secure prims config sent) (Taken (step prims config))) first events last)
    (accounts : Accounts config sent taken first) : ∃ taken', Accounts config sent taken' last :=
  run.invariant (fun tunnel => ∃ taken, Accounts config sent taken tunnel)
    (fun _ _ _ holds met => holds.elim fun _ accounts => accounts.step met.1 met.2) ⟨taken, accounts⟩

/-- What the books of an obfuscated tunnel hold is the data of frames the peer sealed. -/
theorem Accounts.data {taken : List (SealedFrame × Bytes)} (accounts : Accounts config sent taken tunnel)
    (framing : config.hsObf ≠ none) : (taken.map Prod.snd).Subperm (sent.filterMap SealedFrame.data) := by
  have among : (taken.map Prod.fst).Subperm sent := by
    refine accounts.booked.distinct.of_map.subperm fun frame member => ?_
    obtain ⟨entry, held, rfl⟩ := List.mem_map.mp member
    exact (accounts.genuine entry held).1
  have holds : ∀ entry ∈ taken, entry.1.data = some entry.2 := fun entry member => by
    rcases (accounts.genuine entry member).2 with unpacked | ⟨clear, -⟩
    · rw [SealedFrame.data, unpacked]
      exact if_pos rfl
    · exact absurd clear framing
  have same : (taken.map Prod.fst).filterMap SealedFrame.data = taken.map Prod.snd := by
    rw [List.filterMap_map, ← List.filterMap_eq_map]
    exact List.filterMap_congr holds
  obtain ⟨held, perm, sublist⟩ := among
  exact same ▸ ⟨held.filterMap SealedFrame.data, perm.filterMap _, sublist.filterMap _⟩

/-- **Every packet at most once.** Whatever arrives at one end of the tunnel, from whatever address and in
whatever order, through any number of rekeys of either role: what reaches the TUN are data frames the peer
sealed, no sealed frame twice. Where the tunnel is obfuscated, they are among the packets the peer sealed. -/
theorem delivered_once (prims : Primitives) (config : NodeConfig) (sent : List SealedFrame) (session : Session)
    (unused : session.replay = .new) (now : Nat) (peer : SocketAddr) (eff : EffectiveTraffic)
    (events : List NodeEvent) (last : DeliveringTunnel)
    (run : Run (Guarded (Secure prims config sent) (Taken (step prims config)))
      (begin config (.new session now) peer eff) events last) :
    (∃ taken : List (SealedFrame × Bytes), (taken.map fun entry => entry.1.token).Nodup ∧
      (∀ entry ∈ taken, entry.1 ∈ sent ∧ Yields config.toInboundConfig entry.1 entry.2) ∧
        last.delivered.Subperm (taken.map Prod.snd)) ∧
    (config.hsObf ≠ none → last.delivered.Subperm (sent.filterMap SealedFrame.data)) := by
  obtain ⟨taken, accounts⟩ := accounts_run run (accounts_begin sent unused now peer eff)
  have among : last.delivered.Subperm (taken.map Prod.snd) :=
    (List.sublist_append_left _ _).subperm.trans accounts.balance.symm.subperm
  refine ⟨⟨taken, ?_, accounts.genuine, among⟩, fun framing => among.trans (accounts.data framing)⟩
  have distinct := accounts.booked.distinct
  rwa [List.map_map] at distinct

/-! ### A replay -/

/-- The receiving end of a sample session. -/
def sampleOpener : Session := .established .transparent 7 (.zero 32) false .aegis256X2 0 []

/-- The frame of the sample datagram. -/
def sampleSealed : SealedFrame :=
  ⟨sampleOpener.rxAead.key, 3,
    Obf.packInner FrameType.data.asU8 [1, 2, 3] .off (Obf.maxFramed AeadAlgo.aegis256X2.tagLen) fun _ => 0⟩

def sampleNode : NodeConfig := ⟨Inbound.sampleObfuscated, true⟩

def sampleTunnel : DeliveringTunnel :=
  begin sampleNode (.new sampleOpener 10000) ⟨[203, 0, 113, 9], 443⟩ Node.sampleUnpaced

/-- The sample datagram arrives twice, the second time from another address. -/
def sampleReplay : List NodeEvent :=
  [.decrypt ⟨[203, 0, 113, 9], 443⟩ SessionManager.sampleDatagram,
    .decrypt Inbound.sampleElsewhere SessionManager.sampleDatagram, .take 0 10000 true Inbound.sampleCoins, .work,
    .take 0 10000 true Inbound.sampleCoins]

/-- The event is of a kind the sample has. -/
def sampleKind : NodeEvent → Bool
  | .decrypt _ raw => raw = SessionManager.sampleDatagram
  | .take _ _ _ _ => true
  | .work => true
  | _ => false

/-- The only slot is that of the sample session, and stays. -/
def SampleHeld (before : DeliveringTunnel) (event : NodeEvent) (after : DeliveringTunnel) : Prop :=
  sampleKind event = true ∧ after.node.inbound.sessions.previous = none ∧
    before.node.inbound.sessions.previous = none ∧ before.node.inbound.sessions.current =
      { sampleOpener with replay := before.node.inbound.sessions.current.replay }

instance (before : DeliveringTunnel) (event : NodeEvent) (after : DeliveringTunnel) :
    Decidable (SampleHeld before event after) :=
  inferInstanceAs (Decidable (_ ∧ _ ∧ _ ∧ _))

/-- The AEAD of the sample opens the sample datagram as it was sealed. -/
theorem sampleHeld_secure {before after : DeliveringTunnel} {event : NodeEvent}
    (stepped : before.step .transparent sampleNode event = some after) (held : SampleHeld before event after) :
    Secure .transparent sampleNode [sampleSealed] before event := by
  obtain ⟨kind, alone, single, current⟩ := held
  refine ⟨?_, fun node session moved installed => ?_⟩
  · cases event with
    | decrypt src raw =>
      obtain rfl : raw = SessionManager.sampleDatagram := of_decide_eq_true kind
      rintro session (rfl | slot) header recovered framed opens
      · rw [current] at recovered opens ⊢
        have unmasked : Obf.unmask .transparent sampleOpener.rxObfKey SessionManager.sampleDatagram =
            some ⟨1, 7, 3⟩ := by decide +kernel
        obtain rfl := Option.some.inj (unmasked.symm.trans recovered)
        have opened : sampleOpener.openCiphertext .transparent 3 (Obf.ctSlice SessionManager.sampleDatagram) =
            .ok sampleSealed.framed := by decide +kernel
        obtain rfl := Except.ok.inj (opened.symm.trans opens)
        exact List.mem_singleton.mpr rfl
      · cases single.symm.trans slot
    | take => exact nofun
    | _ => trivial
  · obtain ⟨node', moved', rfl⟩ := Option.map_eq_some_iff.mp stepped
    obtain rfl := Option.some.inj (moved'.symm.trans moved)
    have replaced := congrArg SessionManager.previous installed
    cases alone.symm.trans replaced

/-- The replay is dropped. -/
theorem delivered_once_sample : ∃ last,
    execute (step .transparent sampleNode) sampleTunnel sampleReplay = some last ∧
      last.delivered = [[1, 2, 3]] ∧ last.delivered.Subperm [[1, 2, 3]] := by
  have packed : sampleSealed.data = some [1, 2, 3] := SealedFrame.data_packInner _ _ _ _ _ (by decide)
  have data : [sampleSealed].filterMap SealedFrame.data = [[1, 2, 3]] := List.filterMap_cons_some packed
  have ends : (execute (step .transparent sampleNode) sampleTunnel sampleReplay).isSome = true := by decide +kernel
  obtain ⟨last, executed⟩ := Option.isSome_iff_exists.mp ends
  have along : Along (step .transparent sampleNode) SampleHeld sampleTunnel sampleReplay := by decide +kernel
  have once := (delivered_once .transparent sampleNode [sampleSealed] sampleOpener rfl 10000 _ _ _ _
    (run_of_along along (fun _ _ _ => sampleHeld_secure) executed)).2 nofun
  have reached : (execute (step .transparent sampleNode) sampleTunnel sampleReplay).map delivered =
      some [[1, 2, 3]] := by decide +kernel
  rw [executed] at reached
  exact ⟨last, executed, Option.some.inj reached, data ▸ once⟩

end DeliveringTunnel

end ChameleonPQ
