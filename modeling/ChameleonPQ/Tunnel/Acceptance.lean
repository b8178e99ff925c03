/-
**What is accepted, and what is installed (`rekey.rs`, `net.rs`, `tunnel_loops.rs`).**

A session is installed in four places: by the two drivers of the initial handshake, by the rekey driver,
and by the inbound loop.

* `Delivery` — a complete message in the hands of `finalize` or `confirm`.
* `Own`, `verifies_of_established` — a handshake of the end's own accepts what it has verified.
* `trusted_react` — a step of the tunnel fills a slot only with what was accepted.
* `trusted_initiator`, `trusted_responder` — and so for what a driver returns.
-/

import ChameleonPQ.Handshake.Agreement
import ChameleonPQ.Net.DriverRuns
import ChameleonPQ.Tunnel.Node

namespace ChameleonPQ

open Library Library.Runs Handshake

/-! ### What is accepted -/

/-- A complete message in the hands of `finalize`, or of `confirm`. -/
inductive Delivery where
  | response (handshake : Handshake) (wire : Bytes) (coins : ConfirmCoins)
  | confirm (handshake : Handshake) (wire : Bytes)

/-- A message that was accepted, and the session it established. -/
structure Acceptance where
  delivery : Delivery
  session : Session

namespace Delivery

def handshake : Delivery → Handshake
  | .response handshake _ _ => handshake
  | .confirm handshake _ => handshake

def wire : Delivery → Bytes
  | .response _ wire _ => wire
  | .confirm _ wire => wire

section Definitions

variable (prims : Primitives) (auth : Authenticator)

/-- The session the call returns, if it accepts. -/
def established : Delivery → Option Session
  | .response handshake wire coins =>
    match handshake.finalize prims wire auth coins with
    | .ok (.established session, _) => some session
    | _ => none
  | .confirm handshake wire =>
    match handshake.confirm prims wire auth with
    | .ok (.established session) => some session
    | _ => none

/-- What the call adds to the log. -/
def acceptance (delivery : Delivery) : List Acceptance :=
  match delivery.established prims auth with
  | some session => [⟨delivery, session⟩]
  | none => []

/-- The delivered signature verifies under the peer's key, for a message over the handshake's own
transcript. -/
def Verifies (delivery : Delivery) (message : Octets 32) : Prop :=
  ∃ received, HandshakeMessage.decode delivery.wire = .ok received ∧
    Arena.checkedMessage prims delivery.handshake received = some message ∧
    auth.verify prims message received.sig = .ok ()

end Definitions

end Delivery

/-- A handshake the end made itself: it sent this Init, or this Response. -/
inductive Own (prims : Primitives) (auth : Authenticator) (preferred : AeadAlgo) : Handshake → Prop
  | started (coins : StartCoins) : Own prims auth preferred
      (.sentInit coins.ephX coins.mlkemSk
        (initTranscript prims auth (initMessage prims auth preferred coins)))
  | responded {coins : RespondCoins} {view : View} : Responds prims auth preferred coins view →
      Own prims auth preferred (.sentResponse (view.session prims false) (view.hash prims auth))

section Own

variable {prims : Primitives} {auth : Authenticator} {preferred : AeadAlgo}

theorem own_start {coins : StartCoins} {handshake : Handshake} {wire : Bytes}
    (started : Handshake.start prims auth preferred coins = .ok (handshake, wire)) :
    Own prims auth preferred handshake := by
  obtain ⟨-, rfl⟩ := start_eq_ok_iff.mp started
  exact .started coins

theorem own_respond {raw wire : Bytes} {coins : RespondCoins} {handshake : Handshake}
    (responded : Handshake.respond prims raw auth preferred coins = .ok (handshake, wire)) :
    Own prims auth preferred handshake := by
  obtain ⟨view, -, responds, -, rfl⟩ := respond_eq_ok_iff.mp responded
  exact .responded responds

/-- **What accepts a message has verified it.** -/
theorem verifies_of_established {delivery : Delivery} {session : Session}
    (own : Own prims auth preferred delivery.handshake)
    (established : delivery.established prims auth = some session) :
    ∃ message, delivery.Verifies prims auth message := by
  cases delivery with
  | response handshake wire coins =>
    simp only [Delivery.established] at established
    split at established
    · rename_i accepted confirmWire finalized
      change Own prims auth preferred handshake at own
      cases own with
      | started start =>
        obtain ⟨view, init, decoded, finalizes, -, -⟩ := finalize_eq_ok_iff.mp finalized
        refine ⟨_, view.resp, decoded, rfl, ?_⟩
        have verified := finalizes.verified
        rw [Exchange.hash, Exchange.transcript, init] at verified
        exact verified
      | responded responds => cases finalized
    · cases established
  | confirm handshake wire =>
    simp only [Delivery.established] at established
    split at established
    · rename_i accepted confirmed
      obtain ⟨pending, hash, conf, rfl, decoded, -, verified, -⟩ := confirm_eq_ok_iff.mp confirmed
      exact ⟨_, conf, decoded, rfl, verified⟩
    · cases established

end Own

/-! ### Sessions and their slots -/

/-- What traffic does not change of a session. -/
def Session.keys (session : Session) : Session := { session with txCounter := 0, replay := .new }

/-- The session came out of an accepted message. -/
def Vouched (accepted : List Acceptance) (session : Session) : Prop :=
  ∃ acceptance ∈ accepted, session.keys = acceptance.session.keys

/-- Both slots hold such sessions. -/
structure SlotsVouched (accepted : List Acceptance) (sessions : SessionManager Session) : Prop where
  current : Vouched accepted sessions.current
  previous : ∀ session, sessions.previous = some session → Vouched accepted session

section Slots

variable {prims : Primitives} {accepted more : List Acceptance} {sessions : SessionManager Session}

theorem Session.keys_decrypt (prims : Primitives) (session : Session) (counter : Nat)
    (ciphertext : Bytes) : (session.decrypt prims counter ciphertext).2.keys = session.keys := by
  rcases Session.decrypt_session prims session counter ciphertext with same | committed
  · rw [same]
  · rw [committed]
    rfl

theorem Session.keys_tryOpenObf (prims : Primitives) (session : Session) (datagram : Bytes) :
    (session.tryOpenObf prims datagram).2.keys = session.keys := by
  unfold Session.tryOpenObf
  split
  · rfl
  · rename_i header _
    have decrypted := session.keys_decrypt prims header.counter (Obf.ctSlice datagram)
    split
    · rfl
    · split
      · rename_i after same
        rwa [same] at decrypted
      · rename_i framed after same
        rw [same] at decrypted
        split
        · exact decrypted
        · split <;> exact decrypted

theorem Session.keys_reserveCounters (session : Session) (n : Nat) :
    (session.reserveCounters n).2.keys = session.keys := by
  rw [Session.reserveCounters_session]
  rfl

theorem Vouched.mono {session : Session} (vouched : Vouched accepted session)
    (grows : accepted ⊆ more) : Vouched more session := by
  obtain ⟨acceptance, member, same⟩ := vouched
  exact ⟨acceptance, grows member, same⟩

theorem Vouched.of_keys {session other : Session} (vouched : Vouched accepted session)
    (same : other.keys = session.keys) : Vouched accepted other := by
  obtain ⟨acceptance, member, keys⟩ := vouched
  exact ⟨acceptance, member, same.trans keys⟩

theorem SlotsVouched.mono (slots : SlotsVouched accepted sessions) (grows : accepted ⊆ more) :
    SlotsVouched more sessions where
  current := slots.current.mono grows
  previous := fun session here => (slots.previous session here).mono grows

theorem SlotsVouched.decryptObf (slots : SlotsVouched accepted sessions) (datagram : Bytes) :
    SlotsVouched accepted (sessions.decryptObf prims datagram).2 := by
  obtain ⟨current, previous⟩ := SessionManager.decryptObf_slots prims sessions datagram
  refine ⟨?_, fun session here => ?_⟩
  · rw [current]
    exact slots.current.of_keys (Session.keys_tryOpenObf _ _ _)
  · obtain ⟨before, slot, rfl | tried⟩ := previous session here
    · exact slots.previous _ slot
    · rw [tried]
      exact (slots.previous _ slot).of_keys (Session.keys_tryOpenObf _ _ _)

theorem SlotsVouched.decrypt (slots : SlotsVouched accepted sessions) (sessionId : UInt32)
    (counter : Nat) (ct : Bytes) :
    SlotsVouched accepted (sessions.decrypt prims sessionId counter ct).2 := by
  unfold SessionManager.decrypt
  split
  · exact ⟨slots.current.of_keys (Session.keys_decrypt _ _ _ _), slots.previous⟩
  · split
    · exact slots
    · rename_i previous slot
      split
      · refine ⟨slots.current, fun session here => ?_⟩
        rw [← Option.some.inj here]
        exact (slots.previous _ slot).of_keys (Session.keys_decrypt _ _ _ _)
      · exact slots

theorem SlotsVouched.installNewSession (slots : SlotsVouched accepted sessions) {session : Session}
    (vouched : Vouched accepted session) :
    SlotsVouched accepted (sessions.installNewSession session) where
  current := vouched
  previous := fun other here => by
    rw [← Option.some.inj here]
    exact slots.current

theorem SlotsVouched.retirePrevious (slots : SlotsVouched accepted sessions) :
    SlotsVouched accepted sessions.retirePrevious where
  current := slots.current
  previous := fun _ none => by cases none

end Slots

/-! ### The tunnel -/

section Definitions

variable (prims : Primitives) (config : InboundConfig)

/-- What the demultiplexer hands to `confirm`. -/
def Inbound.delivers (rekeying : Bool) (inbound : Inbound) (now : Nat) (datagram : Opened) :
    Option Delivery :=
  match datagram.outcome, inbound.pendingRekey with
  | none, some (handshake, _) =>
    if datagram.src = inbound.peer ∧ rekeying = false then
      (completed prims inbound.confirmReasm now datagram.raw config.hsObf).map (.confirm handshake)
    else none
  | _, _ => none

/-- What the rekey driver hands to `finalize`. -/
def RekeyDriver.delivers (driver : RekeyDriver) (now : Nat) (raw : Bytes) (coins : DriverCoins) :
    Option Delivery :=
  match driver.stage with
  | .waiting init _ reasm _ =>
    (completed prims reasm now raw config.hsObf).map (.response init.handshake · coins.confirm)
  | _ => none

/-- What one event of the tunnel hands to `confirm` or to `finalize`. -/
def Node.delivers (node : Node) : NodeEvent → Option Delivery
  | .take index now _ _ =>
    match node.agenda, node.opened[index]? with
    | [], some datagram => node.inbound.delivers prims config node.rekeying now datagram
    | _, _ => none
  | .driverReads now coins =>
    match node.driver, node.hsQueue with
    | some driver, raw :: _ => driver.delivers prims config now raw coins
    | _, _ => none
  | _ => none

/-- The sessions in the slots. -/
def Node.slots (node : Node) : List Session :=
  node.inbound.sessions.current :: node.inbound.sessions.previous.toList

/-- The sessions an event opens or seals data with: trial decryption and a cleartext data frame go to the
slots, counters are reserved on the current session. -/
def Node.uses (node : Node) : NodeEvent → List Session
  | .decrypt _ _ | .take _ _ _ _ => node.slots
  | .reserve _ => [node.inbound.sessions.current]
  | _ => []

end Definitions

/-- A pending handshake is the end's own, and what the driver is about to install was accepted. -/
def RekeyStage.Trusted (prims : Primitives) (config : InboundConfig) (accepted : List Acceptance) :
    RekeyStage → Prop
  | .sendingInit init _ _ | .waiting init _ _ _ => Own prims config.auth config.preferred init.handshake
  | .sendingConfirm session _ => Vouched accepted session
  | .ended _ => True

/-- The state of an inbound loop whose slots hold accepted sessions only. -/
structure Inbound.Trusted (prims : Primitives) (config : InboundConfig) (accepted : List Acceptance)
    (inbound : Inbound) : Prop where
  slots : SlotsVouched accepted inbound.sessions
  pending : ∀ handshake id, inbound.pendingRekey = some (handshake, id) →
    Own prims config.auth config.preferred handshake

/-- And of a tunnel. -/
structure Node.Trusted (prims : Primitives) (config : InboundConfig) (accepted : List Acceptance)
    (node : Node) : Prop where
  inbound : node.inbound.Trusted prims config accepted
  driver : ∀ driver, node.driver = some driver → driver.stage.Trusted prims config accepted

section Tunnel

variable {prims : Primitives} {config : InboundConfig} {flags : Flags} {accepted more : List Acceptance}
  {inbound : Inbound} {now : Nat} {src : SocketAddr} {raw : Bytes} {coins : InboundCoins}

theorem trusted_respondRekey (trusted : inbound.Trusted prims config accepted) (initWire : Bytes) :
    (inbound.respondRekey prims config flags src initWire coins).1.Trusted prims config accepted := by
  unfold Inbound.respondRekey
  split
  · exact trusted
  · rename_i session hash respWire responded
    split
    · exact trusted
    · split
      · refine ⟨trusted.slots, fun handshake id here => ?_⟩
        obtain ⟨rfl, rfl⟩ := Prod.mk.inj (Option.some.inj here)
        exact own_respond responded
      · exact trusted
  · exact trusted

/-- A Confirm that is accepted fills the current slot. -/
theorem trusted_confirmRekey (trusted : inbound.Trusted prims config accepted) (handshake : Handshake)
    (confirmWire : Bytes) (vouches : ∀ session,
      (Delivery.confirm handshake confirmWire).established prims config.auth = some session →
        Vouched accepted session) :
    (inbound.confirmRekey prims config handshake confirmWire).1.Trusted prims config accepted := by
  unfold Inbound.confirmRekey
  split
  · rename_i session confirmed
    have vouched := vouches session (by simp only [Delivery.established, confirmed])
    exact ⟨trusted.slots.installNewSession vouched, fun _ _ none => by cases none⟩
  · exact ⟨trusted.slots, fun _ _ none => by cases none⟩

theorem trusted_demultiplex (trusted : inbound.Trusted prims config accepted)
    (push : Reassembler → Result (Option Bytes) × Reassembler)
    (vouches : ∀ handshake id wire after session, flags.rekeying = false →
      inbound.pendingRekey = some (handshake, id) →
      push inbound.confirmReasm = (.ok (some wire), after) →
      (Delivery.confirm handshake wire).established prims config.auth = some session →
        Vouched accepted session) :
    (inbound.demultiplex prims config flags src raw coins push).1.Trusted prims config accepted := by
  unfold Inbound.demultiplex
  split
  · exact trusted
  · rename_i quiet
    split
    · split
      · rename_i initWire rekeyReasm _
        have kept : ({ inbound with rekeyReasm } : Inbound).Trusted prims config accepted :=
          ⟨trusted.slots, trusted.pending⟩
        exact trusted_respondRekey kept initWire
      · exact ⟨trusted.slots, trusted.pending⟩
    · rename_i handshake id pending
      split
      · rename_i wire confirmReasm pushed
        have kept : ({ inbound with confirmReasm } : Inbound).Trusted prims config accepted :=
          ⟨trusted.slots, trusted.pending⟩
        exact trusted_confirmRekey kept handshake wire fun session established =>
          vouches handshake id wire confirmReasm session (Bool.eq_false_iff.mpr quiet) pending pushed
            established
      · exact ⟨trusted.slots, trusted.pending⟩

theorem trusted_follow (trusted : inbound.Trusted prims config accepted) :
    (inbound.follow config src).Trusted prims config accepted := by
  unfold Inbound.follow
  split
  · exact ⟨trusted.slots, trusted.pending⟩
  · exact trusted

theorem trusted_sendToTun (trusted : inbound.Trusted prims config accepted) (plain : Bytes) :
    (inbound.sendToTun flags plain).1.Trusted prims config accepted := by
  obtain ⟨running, same⟩ := @Inbound.sendToTun_frame flags inbound plain
  rw [same]
  exact ⟨trusted.slots, trusted.pending⟩

theorem trusted_takeOpened (trusted : inbound.Trusted prims config accepted) (frameType : FrameType)
    (plain : Bytes) :
    (inbound.takeOpened config flags src frameType plain).1.Trusted prims config accepted := by
  have followed : (inbound.follow config src).Trusted prims config accepted := trusted_follow trusted
  cases frameType with
  | data => exact trusted_sendToTun followed plain
  | close => exact ⟨followed.slots, followed.pending⟩
  | keepAlive | handshake | padding | profile => exact followed

/-- **A datagram fills a slot only as an accepted Confirm.** -/
theorem trusted_takeOther (trusted : inbound.Trusted prims config accepted)
    (vouches : ∀ handshake id wire session, flags.rekeying = false → src = inbound.peer →
      inbound.pendingRekey = some (handshake, id) →
      completed prims inbound.confirmReasm now raw config.hsObf = some wire →
      (Delivery.confirm handshake wire).established prims config.auth = some session →
        Vouched accepted session) :
    (inbound.takeOther prims config flags now src raw coins).1.Trusted prims config accepted := by
  unfold Inbound.takeOther
  split
  · exact trusted
  rename_i fromPeer
  split
  · rename_i key framing
    split
    · exact trusted
    · rename_i msgId index total chunk fragment
      apply trusted_demultiplex trusted
      intro handshake id wire after session quiet pending pushed established
      refine vouches handshake id wire session quiet (not_not.mp fromPeer) pending ?_ established
      rw [completed, framing]
      simp only [pushHandshake, fragment, pushOutcome, pushed]
  · rename_i framing
    split
    · exact trusted
    · rename_i frame decoded
      unfold Inbound.takeFrame
      split
      · split
        · rename_i plain sessions decrypted
          have slots : SlotsVouched accepted (inbound.sessions.decrypt prims frame.sessionId
              frame.sequence.toNat frame.payload).2 := trusted.slots.decrypt _ _ _
          rw [decrypted] at slots
          have kept : ({ inbound with sessions } : Inbound).Trusted prims config accepted :=
            ⟨slots, trusted.pending⟩
          exact trusted_sendToTun (trusted_follow kept) _
        · rename_i e sessions decrypted
          have slots : SlotsVouched accepted (inbound.sessions.decrypt prims frame.sessionId
              frame.sequence.toNat frame.payload).2 := trusted.slots.decrypt _ _ _
          rw [decrypted] at slots
          exact ⟨slots, trusted.pending⟩
      · rename_i kind
        apply trusted_demultiplex trusted
        intro handshake id wire after session quiet pending pushed established
        refine vouches handshake id wire session quiet (not_not.mp fromPeer) pending ?_ established
        rw [completed, framing]
        simp only [pushHandshake, decoded, kind, ne_eq, not_true_eq_false, if_false, pushOutcome,
          pushed]
      · exact trusted
      · exact trusted
      · exact trusted
      · exact trusted

/-- The inbound loop takes a result. -/
theorem trusted_inboundTake {datagram : Opened} (trusted : inbound.Trusted prims config accepted)
    (vouches : ∀ delivery session,
      inbound.delivers prims config flags.rekeying now datagram = some delivery →
      delivery.established prims config.auth = some session → Vouched accepted session) :
    (inbound.take prims config flags now datagram coins).1.Trusted prims config accepted := by
  obtain ⟨src, raw, outcome⟩ := datagram
  cases outcome with
  | some opened => exact trusted_takeOpened trusted opened.1 opened.2
  | none =>
    apply trusted_takeOther trusted
    intro handshake id wire session quiet fromPeer pending whole established
    refine vouches (.confirm handshake wire) session ?_ established
    simp only [Inbound.delivers, pending]
    rw [if_pos ⟨fromPeer, quiet⟩, whole]
    rfl

/-! #### The rekey driver -/

variable {driver : RekeyDriver}

theorem trusted_send {init : RekeyInit} {attempt : Nat}
    (own : Own prims config.auth config.preferred init.handshake) (left : List Bytes) :
    (init.send now attempt left).Trusted prims config accepted := by
  cases left with
  | nil => exact own
  | cons datagram left => exact own

theorem trusted_sendConfirm {session : Session} (vouched : Vouched accepted session)
    (left : List Bytes) :
    (sendConfirm session left).1.Trusted prims config accepted ∧
      ∀ installed, (sendConfirm session left).2 = some installed → Vouched accepted installed := by
  cases left with
  | nil => exact ⟨trivial, fun installed here => Option.some.inj here ▸ vouched⟩
  | cons datagram left => exact ⟨vouched, fun _ none => by cases none⟩

theorem trusted_begin (sink : HandshakeSink) (newId : UInt32) (start : StartCoins)
    (envelope : HsObf.SealCoins) :
    (RekeyDriver.begin prims config sink newId now start envelope).stage.Trusted prims config
      accepted := by
  unfold RekeyDriver.begin
  dsimp only
  split
  · trivial
  · rename_i handshake initWire started
    split
    · trivial
    · exact trusted_send (own_start started) _

theorem trusted_sent (now : Nat) (trusted : driver.stage.Trusted prims config accepted) :
    (driver.sent now).1.stage.Trusted prims config accepted ∧
      ∀ installed, (driver.sent now).2 = some installed → Vouched accepted installed := by
  unfold RekeyDriver.sent
  split
  · rename_i init attempt left stage
    rw [stage] at trusted
    exact ⟨trusted_send trusted _, fun _ none => by cases none⟩
  · rename_i session left stage
    rw [stage] at trusted
    exact trusted_sendConfirm trusted _
  · exact ⟨trusted, fun _ none => by cases none⟩

/-- A Response that is accepted is what the driver installs. -/
theorem trusted_read (now : Nat) (raw : Bytes) (driverCoins : DriverCoins)
    (trusted : driver.stage.Trusted prims config accepted)
    (vouches : ∀ delivery session, driver.delivers prims config now raw driverCoins = some delivery →
      delivery.established prims config.auth = some session → Vouched accepted session) :
    (driver.read prims config now raw driverCoins).1.stage.Trusted prims config accepted ∧
      ∀ installed, (driver.read prims config now raw driverCoins).2 = some installed →
        Vouched accepted installed := by
  unfold RekeyDriver.read
  split
  · rename_i init attempt reasm deadline stage
    rw [stage] at trusted
    split
    · rename_i respWire after pushed
      unfold RekeyDriver.conclude
      split
      · exact ⟨trivial, fun _ none => by cases none⟩
      · rename_i session confirmWire finalized
        split
        · exact ⟨trivial, fun _ none => by cases none⟩
        · apply trusted_sendConfirm
          apply vouches (.response init.handshake respWire driverCoins.confirm) session
          · simp only [RekeyDriver.delivers, stage, completed, pushed]
            rfl
          · simp only [Delivery.established, finalized]
      · exact ⟨trivial, fun _ none => by cases none⟩
    · exact ⟨trusted, fun _ none => by cases none⟩
  · exact ⟨trusted, fun _ none => by cases none⟩

theorem trusted_driverTimeOut (trusted : driver.stage.Trusted prims config accepted) :
    (driver.timeOut now).stage.Trusted prims config accepted := by
  unfold RekeyDriver.timeOut
  split
  · rename_i init attempt reasm deadline stage
    rw [stage] at trusted
    split
    · exact trusted_send trusted _
    · trivial
  · exact trusted

end Tunnel

/-! #### One end of the tunnel -/

section Node

variable {prims : Primitives} {config : NodeConfig} {accepted more : List Acceptance}
  {node after : Node}

theorem RekeyStage.Trusted.mono {stage : RekeyStage}
    (trusted : stage.Trusted prims config.toInboundConfig accepted) (grows : accepted ⊆ more) :
    stage.Trusted prims config.toInboundConfig more := by
  cases stage with
  | sendingInit init attempt left => exact trusted
  | waiting init attempt reasm deadline => exact trusted
  | sendingConfirm session left => exact Vouched.mono trusted grows
  | ended result => trivial

theorem Node.Trusted.mono (trusted : node.Trusted prims config.toInboundConfig accepted)
    (grows : accepted ⊆ more) : node.Trusted prims config.toInboundConfig more where
  inbound := ⟨trusted.inbound.slots.mono grows, trusted.inbound.pending⟩
  driver := fun driver here => (trusted.driver driver here).mono grows

/-- The sessions are replaced. -/
theorem Inbound.Trusted.withSessions {inbound : Inbound} {sessions : SessionManager Session}
    (trusted : inbound.Trusted prims config.toInboundConfig accepted)
    (slots : SlotsVouched accepted sessions) :
    ({ inbound with sessions } : Inbound).Trusted prims config.toInboundConfig accepted :=
  ⟨slots, trusted.pending⟩

/-- What the driver installs. -/
theorem SlotsVouched.install {sessions : SessionManager Session} (slots : SlotsVouched accepted sessions)
    (established : Option Session) :
    (∀ session, established = some session → Vouched accepted session) →
      SlotsVouched accepted (match established with
        | some session => sessions.installNewSession session
        | none => sessions) := by
  intro vouched
  cases established with
  | none => exact slots
  | some session => exact slots.installNewSession (vouched session rfl)

theorem SlotsVouched.needsRekey {sessions : SessionManager Session}
    (slots : SlotsVouched accepted sessions) (counter now : Nat) :
    SlotsVouched accepted (sessions.needsRekey counter now).2 := by
  unfold SessionManager.needsRekey
  split
  · exact slots
  · split
    · exact slots
    · split
      · exact slots
      · exact ⟨slots.current, slots.previous⟩

theorem trusted_work {sent : List (SocketAddr × Bytes)}
    (trusted : node.Trusted prims config.toInboundConfig accepted)
    (worked : node.work = some (after, sent)) :
    after.Trusted prims config.toInboundConfig accepted := by
  unfold Node.work at worked
  split at worked
  · cases worked
  · split at worked
    · obtain ⟨rfl, -⟩ := Prod.mk.inj (Option.some.inj worked)
      exact ⟨trusted.inbound, trusted.driver⟩
    · cases worked
  · split at worked
    · obtain ⟨rfl, -⟩ := Prod.mk.inj (Option.some.inj worked)
      exact ⟨trusted.inbound, trusted.driver⟩
    · cases worked
  all_goals
    obtain ⟨rfl, -⟩ := Prod.mk.inj (Option.some.inj worked)
    exact ⟨trusted.inbound, trusted.driver⟩

/-- A slot of the pacer, and the trigger. -/
theorem trusted_tick (trusted : node.Trusted prims config.toInboundConfig accepted) (now : Nat)
    (newId : UInt32) (start : StartCoins) (envelope : HsObf.SealCoins) :
    (node.slot.1.triggerRekey prims config now newId start envelope).Trusted prims
      config.toInboundConfig accepted := by
  have served : node.slot.1.Trusted prims config.toInboundConfig accepted := by
    unfold Node.slot
    split
    · exact ⟨trusted.inbound, trusted.driver⟩
    · exact trusted
  have claimed := served.inbound.slots.needsRekey node.slot.1.inbound.sessions.current.txCounter now
  unfold Node.triggerRekey
  dsimp only
  split
  · refine ⟨served.inbound.withSessions claimed, fun driver here => ?_⟩
    rw [← Option.some.inj here]
    exact trusted_begin _ _ _ _
  · exact ⟨served.inbound.withSessions claimed, served.driver⟩

theorem trusted_driverSends {driver : RekeyDriver} {now : Nat} {success : Bool}
    {sent : List (SocketAddr × Bytes)} (trusted : node.Trusted prims config.toInboundConfig accepted)
    (inFlight : node.driver = some driver)
    (sends : node.driverSends driver now success = some (after, sent)) :
    after.Trusted prims config.toInboundConfig accepted := by
  obtain ⟨stage, vouched⟩ := trusted_sent now (trusted.driver driver inFlight)
  have slots := trusted.inbound.slots.install _ vouched
  have advances : ∀ advanced, some (driver.sent now).1 = some advanced →
      advanced.stage.Trusted prims config.toInboundConfig accepted := by
    intro advanced here
    rw [← Option.some.inj here]
    exact stage
  unfold Node.driverSends at sends
  split at sends
  · cases sends
  · dsimp only at sends
    split at sends
    · split at sends
      · obtain ⟨rfl, -⟩ := Prod.mk.inj (Option.some.inj sends)
        exact ⟨trusted.inbound.withSessions slots, advances⟩
      · obtain ⟨rfl, -⟩ := Prod.mk.inj (Option.some.inj sends)
        refine ⟨trusted.inbound, fun failed here => ?_⟩
        rw [← Option.some.inj here]
        trivial
    · split at sends
      · obtain ⟨rfl, -⟩ := Prod.mk.inj (Option.some.inj sends)
        exact ⟨trusted.inbound.withSessions slots, advances⟩
      · cases sends

theorem trusted_driverReads {driver : RekeyDriver} {now : Nat} {coins : DriverCoins}
    (trusted : node.Trusted prims config.toInboundConfig accepted)
    (inFlight : node.driver = some driver)
    (vouches : ∀ delivery session,
      node.delivers prims config.toInboundConfig (.driverReads now coins) = some delivery →
      delivery.established prims config.auth = some session → Vouched accepted session)
    (reads : node.driverReads prims config driver now coins = some after) :
    after.Trusted prims config.toInboundConfig accepted := by
  unfold Node.driverReads at reads
  split at reads
  · rename_i init attempt reasm deadline raw hsQueue stage queue
    obtain ⟨trustedStage, vouched⟩ := trusted_read now raw coins
      (trusted.driver driver inFlight) fun delivery session delivers established =>
        vouches delivery session (by simp only [Node.delivers, inFlight, queue, delivers]) established
    have slots := trusted.inbound.slots.install _ vouched
    obtain rfl := Option.some.inj reads
    refine ⟨trusted.inbound.withSessions slots, fun advanced here => ?_⟩
    rw [← Option.some.inj here]
    exact trustedStage
  · cases reads

theorem trusted_rekeyDone {driver : RekeyDriver}
    (trusted : node.Trusted prims config.toInboundConfig accepted)
    (done : node.rekeyDone driver = some after) :
    after.Trusted prims config.toInboundConfig accepted := by
  unfold Node.rekeyDone at done
  split at done
  · obtain rfl := Option.some.inj done
    exact ⟨trusted.inbound, fun _ none => by cases none⟩
  · obtain rfl := Option.some.inj done
    exact ⟨⟨⟨trusted.inbound.slots.current, trusted.inbound.slots.previous⟩, trusted.inbound.pending⟩,
      fun _ none => by cases none⟩
  · cases done

/-- **A slot is filled only with what the event had accepted.** -/
theorem trusted_react {event : NodeEvent} {sent : List (SocketAddr × Bytes)}
    (trusted : node.Trusted prims config.toInboundConfig accepted)
    (vouches : ∀ delivery session, node.delivers prims config.toInboundConfig event = some delivery →
      delivery.established prims config.auth = some session → Vouched accepted session)
    (reacts : node.react prims config event = some (after, sent)) :
    after.Trusted prims config.toInboundConfig accepted := by
  cases event with
  | decrypt src raw =>
    obtain ⟨rfl, -⟩ := Prod.mk.inj (Option.some.inj reacts)
    exact ⟨trusted.inbound.withSessions (trusted.inbound.slots.decryptObf raw), trusted.driver⟩
  | take index now sends coins =>
    simp only [Node.react] at reacts
    split at reacts
    · rename_i datagram idle opened
      obtain ⟨rfl, -⟩ := Prod.mk.inj (Option.some.inj reacts)
      refine ⟨trusted_inboundTake trusted.inbound fun delivery session delivers established => ?_,
        trusted.driver⟩
      exact vouches delivery session (by simp only [Node.delivers, idle, opened, delivers]) established
    · cases reacts
  | work => exact trusted_work trusted reacts
  | tunCloses =>
    rw [Node.tunCloses_eq reacts]
    exact ⟨⟨trusted.inbound.slots, trusted.inbound.pending⟩, trusted.driver⟩
  | prune now =>
    simp only [Node.react] at reacts
    split at reacts
    · obtain ⟨rfl, -⟩ := Prod.mk.inj (Option.some.inj reacts)
      exact ⟨⟨trusted.inbound.slots, trusted.inbound.pending⟩, trusted.driver⟩
    · cases reacts
  | tick now newId start envelope =>
    obtain ⟨rfl, -⟩ := Prod.mk.inj (Option.some.inj reacts)
    exact trusted_tick trusted now newId start envelope
  | driverSends now success =>
    obtain ⟨driver, inFlight, sends⟩ := Option.bind_eq_some_iff.mp reacts
    exact trusted_driverSends trusted inFlight sends
  | driverReads now coins =>
    obtain ⟨driver, inFlight, mapped⟩ := Option.bind_eq_some_iff.mp reacts
    obtain ⟨read, reads, same⟩ := Option.map_eq_some_iff.mp mapped
    obtain ⟨rfl, -⟩ := Prod.mk.inj same
    exact trusted_driverReads trusted inFlight vouches reads
  | driverTimesOut now =>
    obtain ⟨driver, inFlight, mapped⟩ := Option.bind_eq_some_iff.mp reacts
    obtain ⟨late, timesOut, same⟩ := Option.map_eq_some_iff.mp mapped
    obtain ⟨rfl, -⟩ := Prod.mk.inj same
    unfold Node.driverTimesOut at timesOut
    split at timesOut
    · split at timesOut
      · cases timesOut
      · obtain rfl := Option.some.inj timesOut
        refine ⟨trusted.inbound, fun advanced here => ?_⟩
        rw [← Option.some.inj here]
        exact trusted_driverTimeOut (trusted.driver driver inFlight)
    · cases timesOut
  | rekeyDone =>
    obtain ⟨driver, -, mapped⟩ := Option.bind_eq_some_iff.mp reacts
    obtain ⟨ended, done, same⟩ := Option.map_eq_some_iff.mp mapped
    obtain ⟨rfl, -⟩ := Prod.mk.inj same
    exact trusted_rekeyDone trusted done
  | switch eff =>
    obtain ⟨rfl, -⟩ := Prod.mk.inj (Option.some.inj reacts)
    exact ⟨trusted.inbound, trusted.driver⟩
  | reserve n =>
    obtain ⟨rfl, -⟩ := Prod.mk.inj (Option.some.inj reacts)
    have current := trusted.inbound.slots.current.of_keys
      (node.inbound.sessions.current.keys_reserveCounters n)
    exact ⟨trusted.inbound.withSessions ⟨current, trusted.inbound.slots.previous⟩, trusted.driver⟩
  | retire =>
    simp only [Node.react] at reacts
    split at reacts
    · obtain ⟨rfl, -⟩ := Prod.mk.inj (Option.some.inj reacts)
      exact ⟨trusted.inbound.withSessions trusted.inbound.slots.retirePrevious, trusted.driver⟩
    · cases reacts

/-- What is used is in a slot. -/
theorem vouched_of_uses {event : NodeEvent} {session : Session}
    (slots : SlotsVouched accepted node.inbound.sessions) (used : session ∈ node.uses event) :
    Vouched accepted session := by
  have inSlot : ∀ held ∈ node.slots, Vouched accepted held := by
    intro held present
    rcases List.mem_cons.mp present with rfl | present
    · exact slots.current
    · exact slots.previous held (Option.mem_toList.mp present)
  cases event with
  | decrypt src raw => exact inSlot session used
  | take index now sends coins => exact inSlot session used
  | reserve n =>
    rw [List.mem_singleton.mp used]
    exact slots.current
  | work | tunCloses | prune _ | tick _ _ _ _ | driverSends _ _ | driverReads _ _ | driverTimesOut _
  | rekeyDone | switch _ | retire => cases used

end Node

/-! ### The initial handshake -/

section Definitions

variable (prims : Primitives) (config : DriverConfig)

/-- What `run_handshake_initiator` hands to `finalize`. -/
def Initiator.delivers (peer : SocketAddr) (driver : Initiator) : InitiatorEvent → Option Delivery
  | .datagram now src raw coins =>
    match driver.phase with
    | .waiting _ reasm _ =>
      if src = peer then
        (completed prims reasm now raw config.hsObf).bind fun message =>
          if IsChallenge message then none
          else some (.response driver.handshake message coins.confirm)
      else none
    | .finished _ => none
  | _ => none

/-- What `run_handshake_responder` hands to `confirm`. -/
def Responder.delivers (driver : Responder) : ResponderEvent → Option Delivery
  | .datagram now src raw _ =>
    match driver.phase with
    | .confirming handshake peer reasm _ =>
      if src = peer then (completed prims reasm now raw config.hsObf).map (.confirm handshake) else none
    | _ => none
  | _ => none

end Definitions

/-- A driver that waits with its own handshake, and returns an accepted session only. -/
structure Initiator.Trusted (prims : Primitives) (config : DriverConfig) (accepted : List Acceptance)
    (driver : Initiator) : Prop where
  own : Own prims config.auth config.preferred driver.handshake
  returned : ∀ session, driver.phase = .finished (.ok session) → Vouched accepted session

structure Responder.Trusted (prims : Primitives) (config : DriverConfig) (accepted : List Acceptance)
    (driver : Responder) : Prop where
  own : ∀ handshake peer reasm deadline, driver.phase = .confirming handshake peer reasm deadline →
    Own prims config.auth config.preferred handshake
  returned : ∀ session peer, driver.phase = .finished (.ok (session, peer)) → Vouched accepted session

section Drivers

variable {prims : Primitives} {config : DriverConfig} {peer : SocketAddr}
  {accepted more : List Acceptance}

theorem notChallenge_of_finalize {handshake : Handshake} {message : Bytes} {coins : ConfirmCoins}
    {outcome : Handshake × Bytes} (own : Own prims config.auth config.preferred handshake)
    (finalized : handshake.finalize prims message config.auth coins = .ok outcome) :
    ¬ IsChallenge message := by
  rintro ⟨-, challenge⟩
  cases own with
  | started start =>
    obtain ⟨view, -, decoded, finalizes, -⟩ := finalize_eq_ok_iff.mp finalized
    rw [HandshakeMessage.kind_of_decode decoded, finalizes.kind] at challenge
    exact absurd challenge (by decide)
  | responded responds => cases finalized

theorem trusted_initiator {driver : Initiator} (event : InitiatorEvent)
    (trusted : driver.Trusted prims config accepted)
    (vouches : ∀ delivery session, driver.delivers prims config peer event = some delivery →
      delivery.established prims config.auth = some session → Vouched accepted session) :
    (driver.react prims config peer event).1.Trusted prims config accepted := by
  cases event with
  | datagram now src raw coins =>
    have same : (driver.receive prims config peer now src raw coins).1.handshake = driver.handshake :=
      Initiator.receive_handshake
    refine ⟨same ▸ trusted.own, fun session ok => ?_⟩
    change (driver.receive prims config peer now src raw coins).1.phase = _ at ok
    cases stands : driver.phase with
    | finished result =>
      rw [Initiator.receive_finished stands] at ok
      exact trusted.returned session ok
    | waiting attempt reasm deadline =>
      obtain ⟨message, confirmWire, whole, finalized, -⟩ := Initiator.receive_ok stands ok
      have fromPeer : src = peer := by
        by_contra foreign
        simp only [Initiator.receive, stands, if_pos foreign] at ok
        cases ok
      refine vouches (.response driver.handshake message coins.confirm) session ?_ ?_
      · simp only [Initiator.delivers, stands, if_pos fromPeer, whole, Option.bind_some]
        exact if_neg (notChallenge_of_finalize trusted.own finalized)
      · simp only [Delivery.established, finalized]
  | timer now =>
    have same : (driver.timeOut now).1.handshake = driver.handshake := Initiator.timeOut_handshake
    refine ⟨same ▸ trusted.own, fun session ok => ?_⟩
    by_contra fresh
    exact Initiator.timeOut_ne_ok (fun before => fresh (trusted.returned session before)) ok
  | socketFails =>
    unfold Initiator.react Initiator.socketError
    dsimp only
    split
    · exact trusted
    · exact ⟨trusted.own, fun _ failed => by cases failed⟩

theorem trusted_listening (secret : Octets 32) (reasm : Reassembler) :
    Responder.Trusted prims config accepted ⟨secret, .listening reasm⟩ where
  own := fun _ _ _ _ listening => by cases listening
  returned := fun _ _ listening => by cases listening

theorem trusted_failed (secret : Octets 32) (e : ChameleonError) :
    Responder.Trusted prims config accepted ⟨secret, .finished (.error e)⟩ where
  own := fun _ _ _ _ failed => by cases failed
  returned := fun _ _ failed => by cases failed

theorem trusted_confirming {handshake : Handshake}
    (own : Own prims config.auth config.preferred handshake) (secret : Octets 32)
    (peer : SocketAddr) (reasm : Reassembler) (deadline : Nat) :
    Responder.Trusted prims config accepted
      ⟨secret, .confirming handshake peer reasm deadline⟩ where
  own := fun pending _ _ _ here => by
    obtain ⟨rfl, -⟩ := ResponderPhase.confirming.inj here
    exact own
  returned := fun _ _ confirming => by cases confirming

theorem trusted_handleInit (driver : Responder) (now : Nat) (src : SocketAddr) (initWire : Bytes)
    (coins : DriverCoins) :
    (driver.handleInit prims config now src initWire coins).1.Trusted prims config accepted := by
  unfold Responder.handleInit
  split
  · exact trusted_listening _ _
  split
  · exact trusted_listening _ _
  split
  · exact trusted_listening _ _
  split
  · exact trusted_listening _ _
  · rename_i handshake respWire calls responded
    split
    · exact trusted_failed _ _
    · exact trusted_confirming (own_respond (Responder.callRespond_ok responded).1) _ _ _ _

theorem trusted_responder {driver : Responder} (event : ResponderEvent)
    (trusted : driver.Trusted prims config accepted)
    (vouches : ∀ delivery session, driver.delivers prims config event = some delivery →
      delivery.established prims config.auth = some session → Vouched accepted session) :
    (driver.react prims config event).1.Trusted prims config accepted := by
  cases event with
  | datagram now src raw coins =>
    unfold Responder.react Responder.receive
    dsimp only
    split
    · exact trusted
    · split
      · exact trusted_handleInit _ _ _ _ _
      · exact trusted_listening _ _
    · rename_i handshake peer reasm deadline stands
      have own := trusted.own _ _ _ _ stands
      split
      · exact trusted
      rename_i fromPeer
      split
      · exact trusted_failed _ _
      · exact trusted_confirming own _ _ _ _
      · rename_i confirmWire after pushed
        unfold Responder.handleConfirm
        dsimp only
        split
        · rename_i session confirmed
          refine ⟨fun _ _ _ _ finished => (by cases finished), fun returned address here => ?_⟩
          obtain ⟨rfl, -⟩ := Prod.mk.inj (Except.ok.inj (ResponderPhase.finished.inj here))
          apply vouches (.confirm handshake confirmWire) session
          · simp only [Responder.delivers, stands, completed, pushed, if_pos (not_not.mp fromPeer)]
            rfl
          · simp only [Delivery.established, confirmed]
        · exact trusted_listening _ _
  | timer now =>
    unfold Responder.react Responder.timeOut
    dsimp only
    split
    · split
      · exact trusted
      · exact trusted_listening _ _
    · exact trusted
  | prune now =>
    unfold Responder.react Responder.prune
    dsimp only
    split
    · exact trusted_listening _ _
    · exact trusted
  | socketFails =>
    unfold Responder.react Responder.socketError
    dsimp only
    split
    · exact trusted
    · exact trusted_failed _ _

end Drivers

end ChameleonPQ
