/-
**What control frames do at one end of the tunnel (`tunnel_loops.rs`).**

The inbound loop ends at a Close or a closed TUN channel, follows the address the peer sends from, and hands on
the profile the peer announces. Over a whole run, with any number of rekeys of either role, whatever arrives and
from wherever.

* `ObservedTunnel` — one end of the tunnel, what its slots opened, and the announcements it handed on.
* `Inbound.takeOther_control` — a datagram that was not opened does none of this.
* `Controlled` — what is done goes back to a datagram that was opened; `controlled_step` keeps it.
* `control_authentic` — so only frames the peer sealed do it, each heard once.
-/

import ChameleonPQ.Tunnel.ProfileFollow
import ChameleonPQ.Tunnel.SecureChannel

namespace ChameleonPQ

open Library Library.Runs

/-- What the slots opened: where the datagram came from, and its frame. -/
structure Heard where
  src : SocketAddr
  frameType : FrameType
  plain : Bytes
  deriving DecidableEq

/-- The profile of a frame that announces one. -/
def Heard.announcement (heard : Heard) : Option Bytes := if heard.frameType = .profile then some heard.plain else none

/-- A result of trial decryption, as it is heard. -/
def Opened.heard (datagram : Opened) : Option Heard :=
  datagram.outcome.map fun opened => ⟨datagram.src, opened.1, opened.2⟩

theorem Opened.announcement_heard (datagram : Opened) :
    ([datagram].filterMap fun datagram => datagram.heard.bind Heard.announcement) =
      datagram.heard.toList.filterMap Heard.announcement := by
  rw [List.filterMap_cons]
  cases datagram.heard with
  | none => rfl
  | some heard =>
    rw [Option.bind_some, Option.toList_some, List.filterMap_cons]
    cases heard.announcement <;> rfl

/-- The frame says what was heard. -/
def SealedFrame.Says (frame : SealedFrame) (heard : Heard) : Prop :=
  Obf.unpackInner frame.framed = .ok (heard.frameType.asU8, heard.plain)

/-! ### The inbound loop -/

namespace Inbound

variable {prims : Primitives} {config : InboundConfig} {flags : Flags} {inbound : Inbound} {now : Nat}
  {src : SocketAddr} {raw : Bytes} {coins : InboundCoins}

theorem follow_running : (inbound.follow config src).running = inbound.running := by
  unfold follow
  split <;> rfl

theorem demultiplex_running (push : Reassembler → Result (Option Bytes) × Reassembler) :
    (inbound.demultiplex prims config flags src raw coins push).1.running = inbound.running := by
  unfold demultiplex respondRekey confirmRekey
  repeat' split
  all_goals rfl

/-- **A datagram that was not opened** does not end the loop while the TUN channel is open, and announces
nothing. -/
theorem takeOther_control (tunOpen : flags.tunOpen = true) :
    (inbound.takeOther prims config flags now src raw coins).1.running = inbound.running ∧
    (inbound.takeOther prims config flags now src raw coins).2.filterMap Effect.announcement = [] := by
  constructor
  · unfold takeOther takeFrame
    simp only [sendToTun_open tunOpen]
    repeat' split
    all_goals first
      | rfl
      | exact demultiplex_running _
      | exact follow_running
  · refine List.filterMap_eq_nil_iff.mpr ?_
    exact List.findSome?_eq_none_iff.mp takeOther_announcement

/-- What a frame that was opened does while the TUN channel is open. -/
theorem takeOpened_control (tunOpen : flags.tunOpen = true) (inbound : Inbound) (src : SocketAddr)
    (frameType : FrameType) (plain : Bytes) :
    ((inbound.takeOpened config flags src frameType plain).1.running = false →
        inbound.running = false ∨ frameType = .close) ∧
      ((inbound.takeOpened config flags src frameType plain).1.peer = inbound.peer ∨
        config.allowRoaming = true ∧ (inbound.takeOpened config flags src frameType plain).1.peer = src) ∧
      (inbound.takeOpened config flags src frameType plain).2.filterMap Effect.announcement =
        (Heard.announcement ⟨src, frameType, plain⟩).toList := by
  have moves : (inbound.follow config src).peer = inbound.peer ∨
      config.allowRoaming = true ∧ (inbound.follow config src).peer = src := by
    unfold follow
    split
    · rename_i both
      exact .inr ⟨both.1, rfl⟩
    · exact .inl rfl
  have stays : (inbound.follow config src).running = false → inbound.running = false ∨ frameType = .close :=
    fun ended => .inl (follow_running ▸ ended)
  unfold takeOpened
  rw [sendToTun_open tunOpen]
  cases frameType with
  | close => exact ⟨fun _ => .inr rfl, moves, rfl⟩
  | data | profile | keepAlive | handshake | padding => exact ⟨stays, moves, rfl⟩

end Inbound

/-! ### One end of the tunnel -/

namespace Node

section Definitions

variable (prims : Primitives) (node : Node)

/-- What a worker opens. -/
def hears : NodeEvent → List Heard
  | .decrypt src raw =>
    (Opened.heard ⟨src, raw, (node.inbound.sessions.decryptObf prims raw).1.toOption⟩).toList
  | _ => []

/-- The announcements an event hands on. -/
def announces : NodeEvent → List Bytes
  | .work => (node.agenda.take 1).filterMap Effect.announcement
  | _ => []

/-- The announcements that were opened, and are not handed on yet. -/
def unannounced : List Bytes :=
  node.agenda.filterMap Effect.announcement ++
    node.opened.filterMap fun datagram => datagram.heard.bind Heard.announcement

/-- What trial decryption, the loop's turns and its work may change. -/
structure SameControl (after : Node) : Prop where
  opened : after.opened = node.opened
  agenda : after.agenda = node.agenda
  running : after.inbound.running = node.inbound.running
  peer : after.inbound.peer = node.inbound.peer

end Definitions

variable {prims : Primitives} {config : NodeConfig} {node after : Node} {event : NodeEvent}

theorem triggerRekey_control (prims : Primitives) (config : NodeConfig) (node : Node) (now : Nat) (newId : UInt32)
    (start : StartCoins) (envelope : HsObf.SealCoins) :
    node.SameControl (node.triggerRekey prims config now newId start envelope) := by
  unfold triggerRekey
  dsimp only
  split <;> exact ⟨rfl, rfl, rfl, rfl⟩

/-- **The other tasks** leave the loop's control alone. -/
theorem step_control (taken : node.step prims config event = some after)
    (other : (∀ src raw, event ≠ .decrypt src raw) ∧ (∀ index now sends coins, event ≠ .take index now sends coins) ∧
      event ≠ .work ∧ event ≠ .tunCloses) : node.SameControl after := by
  unfold step at taken
  split at taken
  swap
  · cases taken
  obtain ⟨⟨after', sent⟩, reacts, rfl⟩ := Option.map_eq_some_iff.mp taken
  cases event with
  | decrypt src raw => exact absurd rfl (other.1 src raw)
  | take index now sends coins => exact absurd rfl (other.2.1 index now sends coins)
  | work => exact absurd rfl other.2.2.1
  | tunCloses => exact absurd rfl other.2.2.2
  | prune now =>
    simp only [react] at reacts
    split at reacts
    · obtain ⟨rfl, -⟩ := Prod.mk.inj (Option.some.inj reacts)
      exact ⟨rfl, rfl, rfl, rfl⟩
    · cases reacts
  | tick now newId start envelope =>
    obtain ⟨hsSend, served⟩ : ∃ hsSend, node.slot.1 = { node with hsSend } := by
      unfold slot
      split <;> exact ⟨_, rfl⟩
    have triggers : node.slot.1.triggerRekey prims config now newId start envelope = after' :=
      congrArg Prod.fst (Option.some.inj reacts)
    rw [served] at triggers
    subst triggers
    obtain ⟨opened, agenda, running, peer⟩ :=
      triggerRekey_control prims config { node with hsSend } now newId start envelope
    exact ⟨opened, agenda, running, peer⟩
  | driverSends now success =>
    obtain ⟨driver, -, sends⟩ := Option.bind_eq_some_iff.mp reacts
    unfold driverSends at sends
    split at sends
    · cases sends
    · dsimp only at sends
      split at sends
      · split at sends
        all_goals
          obtain ⟨rfl, -⟩ := Prod.mk.inj (Option.some.inj sends)
          exact ⟨rfl, rfl, rfl, rfl⟩
      · split at sends
        · obtain ⟨rfl, -⟩ := Prod.mk.inj (Option.some.inj sends)
          exact ⟨rfl, rfl, rfl, rfl⟩
        · cases sends
  | driverReads now coins =>
    obtain ⟨driver, -, mapped⟩ := Option.bind_eq_some_iff.mp reacts
    obtain ⟨advanced, reads, same⟩ := Option.map_eq_some_iff.mp mapped
    obtain ⟨rfl, -⟩ := Prod.mk.inj same
    unfold driverReads at reads
    split at reads
    · obtain rfl := Option.some.inj reads
      exact ⟨rfl, rfl, rfl, rfl⟩
    · cases reads
  | driverTimesOut now =>
    obtain ⟨driver, -, mapped⟩ := Option.bind_eq_some_iff.mp reacts
    obtain ⟨advanced, times, same⟩ := Option.map_eq_some_iff.mp mapped
    obtain ⟨rfl, -⟩ := Prod.mk.inj same
    unfold driverTimesOut at times
    split at times
    · split at times
      · cases times
      · obtain rfl := Option.some.inj times
        exact ⟨rfl, rfl, rfl, rfl⟩
    · cases times
  | rekeyDone =>
    obtain ⟨driver, -, mapped⟩ := Option.bind_eq_some_iff.mp reacts
    obtain ⟨advanced, done, same⟩ := Option.map_eq_some_iff.mp mapped
    obtain ⟨rfl, -⟩ := Prod.mk.inj same
    unfold rekeyDone at done
    split at done
    · obtain rfl := Option.some.inj done
      exact ⟨rfl, rfl, rfl, rfl⟩
    · obtain rfl := Option.some.inj done
      exact ⟨rfl, rfl, rfl, rfl⟩
    · cases done
  | switch eff =>
    obtain ⟨rfl, -⟩ := Prod.mk.inj (Option.some.inj reacts)
    exact ⟨rfl, rfl, rfl, rfl⟩
  | reserve n =>
    obtain ⟨rfl, -⟩ := Prod.mk.inj (Option.some.inj reacts)
    exact ⟨rfl, rfl, rfl, rfl⟩
  | retire =>
    simp only [react] at reacts
    split at reacts
    · obtain ⟨rfl, -⟩ := Prod.mk.inj (Option.some.inj reacts)
      exact ⟨rfl, rfl, rfl, rfl⟩
    · cases reacts

/-- The loop's work hands on what it was about to. -/
theorem work_control {sent : List (SocketAddr × Bytes)} (worked : node.work = some (after, sent)) :
    after.inbound = node.inbound ∧ after.opened = node.opened ∧
      node.announces .work ++ after.agenda.filterMap Effect.announcement =
        node.agenda.filterMap Effect.announcement := by
  unfold work at worked
  unfold announces
  split at worked
  · cases worked
  · rename_i agenda
    split at worked
    · obtain ⟨rfl, -⟩ := Prod.mk.inj (Option.some.inj worked)
      exact ⟨rfl, rfl, by rw [agenda]; rfl⟩
    · cases worked
  · rename_i agenda
    split at worked
    · obtain ⟨rfl, -⟩ := Prod.mk.inj (Option.some.inj worked)
      exact ⟨rfl, rfl, by rw [agenda]; rfl⟩
    · cases worked
  all_goals
    rename_i agenda
    obtain ⟨rfl, -⟩ := Prod.mk.inj (Option.some.inj worked)
    exact ⟨rfl, rfl, by rw [agenda]; rfl⟩

/-- What a step does to the sessions keeps the books. -/
theorem Gain.keeps {keys : List (Octets 32)} {taken : List SealedFrame} {sessions : SessionManager Session}
    {gained : List Bytes} (gain : Gain prims config.toInboundConfig node sessions event gained)
    (booked : Booked keys taken node.inbound.sessions)
    (fresh : ∀ session, sessions = node.inbound.sessions.installNewSession session → session.rxAead.key ∉ keys) :
    Booked (sessions.current.rxAead.key :: keys) taken sessions := by
  cases gain with
  | kept _ current previous =>
    exact (booked.of_committed current fun last slot => ⟨last, previous last slot, .refl last⟩).more _
  | installed _ session unused same =>
    subst same
    exact booked.install unused (fresh session rfl)
  | opened src raw same =>
    subst same
    exact (booked.decryptObf prims raw).more _
  | clear index now sends coins datagram frame present framing decoded same =>
    subst same
    exact (booked.decrypt prims _ _ _).more _

end Node

/-! ### A tunnel that is observed -/

/-- One end of the tunnel, what its slots opened, and the announcements it handed on. -/
structure ObservedTunnel where
  tunnel : DeliveringTunnel
  heard : List Heard
  announced : List Bytes

namespace ObservedTunnel

section Definitions

variable (prims : Primitives) (config : NodeConfig)

def begin (sessions : SessionManager Session) (peer : SocketAddr) (eff : EffectiveTraffic) : ObservedTunnel :=
  ⟨.begin config sessions peer eff, [], []⟩

def step (observed : ObservedTunnel) (event : NodeEvent) : Option ObservedTunnel :=
  (observed.tunnel.step prims config event).map fun tunnel =>
    ⟨tunnel, observed.heard ++ observed.tunnel.node.hears prims event,
      observed.announced ++ observed.tunnel.node.announces event⟩

/-- `DeliveringTunnel.Secure`, of the tunnel that is observed. -/
def Secure (sent : List SealedFrame) (observed : ObservedTunnel) (event : NodeEvent) : Prop :=
  observed.tunnel.Secure prims config sent event

end Definitions

/-- **What the loop does goes back to a frame the peer sealed**, each heard once; `gone` says that the TUN
channel may be closed. -/
structure Controlled (config : NodeConfig) (sent : List SealedFrame) (peer : SocketAddr) (gone : Prop)
    (taken : List (SealedFrame × Heard)) (observed : ObservedTunnel) : Prop where
  unused : observed.tunnel.node.Unused
  booked : Booked observed.tunnel.keys (taken.map Prod.fst) observed.tunnel.node.inbound.sessions
  genuine : ∀ entry ∈ taken, entry.1 ∈ sent ∧ entry.1.Says entry.2
  heard : (taken.map Prod.snd).Perm observed.heard
  opened : ∀ datagram ∈ observed.tunnel.node.opened, ∀ heard, datagram.heard = some heard → heard ∈ observed.heard
  balance : (observed.heard.filterMap Heard.announcement).Perm
    (observed.announced ++ observed.tunnel.node.unannounced)
  closed : observed.tunnel.node.inbound.running = false →
    (∃ heard ∈ observed.heard, heard.frameType = .close) ∨ gone
  moved : observed.tunnel.node.inbound.peer = peer ∨
    config.allowRoaming = true ∧ ∃ heard ∈ observed.heard, heard.src = observed.tunnel.node.inbound.peer

variable {prims : Primitives} {config : NodeConfig} {sent : List SealedFrame} {peer : SocketAddr} {gone : Prop}
  {taken : List (SealedFrame × Heard)} {observed after : ObservedTunnel} {event : NodeEvent}

theorem controlled_begin (sent : List SealedFrame) {session : Session} (unused : session.replay = .new) (now : Nat)
    (peer : SocketAddr) (eff : EffectiveTraffic) :
    Controlled config sent peer gone [] (begin config (.new session now) peer eff) where
  unused := ⟨nofun, nofun⟩
  booked := ⟨List.nodup_nil, nofun, Session.guards_new unused nofun, List.mem_cons_self, nofun, nofun⟩
  genuine := nofun
  heard := .refl _
  opened := nofun
  balance := .refl _
  closed := nofun
  moved := .inl rfl

/-- What was heard stays heard. -/
theorem Controlled.more (controlled : Controlled config sent peer gone taken observed) (more : List Heard) :
    (observed.tunnel.node.inbound.running = false →
        (∃ heard ∈ observed.heard ++ more, heard.frameType = .close) ∨ gone) ∧
      (observed.tunnel.node.inbound.peer = peer ∨ config.allowRoaming = true ∧
        ∃ heard ∈ observed.heard ++ more, heard.src = observed.tunnel.node.inbound.peer) := by
  constructor
  · intro ended
    refine (controlled.closed ended).imp_left fun ⟨heard, member, close⟩ => ?_
    exact ⟨heard, List.mem_append_left _ member, close⟩
  · refine controlled.moved.imp_right fun ⟨roaming, heard, member, from_⟩ => ?_
    exact ⟨roaming, heard, List.mem_append_left _ member, from_⟩

/-- **A worker opens a datagram.** -/
theorem Controlled.decrypt (controlled : Controlled config sent peer gone taken observed) {src : SocketAddr}
    {raw : Bytes}
    (unforged : observed.tunnel.node.Unforged prims config sent (.decrypt src raw)) {delivered : List Bytes}
    (unused : (observed.tunnel.node.decrypt prims src raw).Unused) :
    ∃ taken', Controlled config sent peer gone taken'
      ⟨⟨observed.tunnel.node.decrypt prims src raw,
          (observed.tunnel.node.decrypt prims src raw).inbound.sessions.current.rxAead.key :: observed.tunnel.keys,
          delivered⟩,
        observed.heard ++ observed.tunnel.node.hears prims (.decrypt src raw), observed.announced⟩ := by
  obtain ⟨closed, moved⟩ := controlled.more (observed.tunnel.node.hears prims (.decrypt src raw))
  -- the results, with the one this datagram adds
  have opened : ∀ datagram ∈ observed.tunnel.node.opened ++
      [⟨src, raw, (observed.tunnel.node.inbound.sessions.decryptObf prims raw).1.toOption⟩], ∀ heard,
        datagram.heard = some heard →
          heard ∈ observed.heard ++ observed.tunnel.node.hears prims (.decrypt src raw) := by
    intro datagram member heard here
    rcases List.mem_append.mp member with old | new
    · exact List.mem_append_left _ (controlled.opened datagram old heard here)
    · obtain rfl := List.mem_singleton.mp new
      exact List.mem_append_right _ (Option.mem_toList.mpr here)
  have balance : ((observed.heard ++ observed.tunnel.node.hears prims (.decrypt src raw)).filterMap
      Heard.announcement).Perm
        (observed.announced ++ (observed.tunnel.node.decrypt prims src raw).unannounced) := by
    have added : (observed.tunnel.node.decrypt prims src raw).unannounced =
        observed.tunnel.node.unannounced ++
          (observed.tunnel.node.hears prims (.decrypt src raw)).filterMap Heard.announcement := by
      unfold Node.unannounced
      show observed.tunnel.node.agenda.filterMap _ ++ (observed.tunnel.node.opened ++ [_]).filterMap _ = _
      rw [List.filterMap_append, ← List.append_assoc]
      exact congrArg _ (Opened.announcement_heard _)
    rw [List.filterMap_append, added, ← List.append_assoc]
    exact controlled.balance.append_right _
  rcases opens : observed.tunnel.node.inbound.sessions.decryptObf prims raw with ⟨e | ⟨frameType, plain⟩, later⟩
  · refine ⟨taken, unused, ?_, controlled.genuine, ?_, opened, balance, closed, moved⟩
    · exact (controlled.booked.decryptObf prims raw).more _
    · have nothing : observed.tunnel.node.hears prims (.decrypt src raw) = [] := by
        show (Opened.heard ⟨src, raw,
          (observed.tunnel.node.inbound.sessions.decryptObf prims raw).1.toOption⟩).toList = _
        rw [opens]
        rfl
      rw [nothing]
      exact controlled.heard.trans (.of_eq (List.append_nil _).symm)
  · obtain ⟨frame, among, unpacked, books⟩ := controlled.booked.decryptObf_ok unforged opens
    refine ⟨(frame, ⟨src, frameType, plain⟩) :: taken, unused, ?_, ?_, ?_, opened, balance, closed, moved⟩
    · have sessions : (observed.tunnel.node.decrypt prims src raw).inbound.sessions = later := by
        show (observed.tunnel.node.inbound.sessions.decryptObf prims raw).2 = later
        rw [opens]
      rw [sessions]
      exact books.more _
    · exact List.forall_mem_cons.mpr ⟨⟨among, unpacked⟩, controlled.genuine⟩
    · have heard : observed.tunnel.node.hears prims (.decrypt src raw) = [⟨src, frameType, plain⟩] := by
        show (Opened.heard ⟨src, raw,
          (observed.tunnel.node.inbound.sessions.decryptObf prims raw).1.toOption⟩).toList = _
        rw [opens]
        rfl
      rw [heard]
      exact (controlled.heard.cons _).trans (List.perm_append_singleton _ _).symm

/-- **The loop takes a result.** -/
theorem Controlled.take (controlled : Controlled config sent peer gone taken observed) {index : Nat} {datagram : Opened}
    (idle : observed.tunnel.node.agenda = []) (present : observed.tunnel.node.opened[index]? = some datagram)
    {now : Nat} {sends : Bool} {coins : InboundCoins} {keys : List (Octets 32)} {delivered : List Bytes}
    (unused : (observed.tunnel.node.take prims config index now sends coins datagram).Unused)
    (booked : Booked keys (taken.map Prod.fst)
      (observed.tunnel.node.take prims config index now sends coins datagram).inbound.sessions) :
    Controlled config sent peer gone taken
      ⟨⟨observed.tunnel.node.take prims config index now sends coins datagram, keys, delivered⟩, observed.heard,
        observed.announced⟩ := by
  have inside := (List.getElem?_eq_some_iff.mp present).1
  have here : observed.tunnel.node.opened[index] = datagram := (List.getElem?_eq_some_iff.mp present).2
  have among : ∀ other ∈ observed.tunnel.node.opened.eraseIdx index, ∀ heard, other.heard = some heard →
      heard ∈ observed.heard :=
    fun other member => controlled.opened other (List.mem_of_mem_eraseIdx member)
  -- what the loop does for the datagram, and what it announces
  have turn : ((observed.tunnel.node.take prims config index now sends coins datagram).inbound.running = false →
        (∃ heard ∈ observed.heard, heard.frameType = .close) ∨ gone) ∧
      ((observed.tunnel.node.take prims config index now sends coins datagram).inbound.peer = peer ∨
        config.allowRoaming = true ∧ ∃ heard ∈ observed.heard, heard.src =
          (observed.tunnel.node.take prims config index now sends coins datagram).inbound.peer) ∧
      (observed.tunnel.node.take prims config index now sends coins datagram).agenda.filterMap Effect.announcement =
        (datagram.heard.bind Heard.announcement).toList := by
    unfold Node.take Inbound.take
    rcases outcome : datagram.outcome with _ | ⟨frameType, plain⟩
    · have unheard : datagram.heard = none := by rw [Opened.heard, outcome, Option.map_none]
      obtain ⟨running, quiet⟩ := @Inbound.takeOther_control prims config.toInboundConfig
        ⟨observed.tunnel.node.rekeying, observed.tunnel.node.pacedState, observed.tunnel.node.pacedState || sends, true⟩
        observed.tunnel.node.inbound now datagram.src datagram.raw coins rfl
      rw [unheard]
      refine ⟨fun ended => controlled.closed (running ▸ ended), ?_, quiet⟩
      dsimp only
      rw [Inbound.takeOther_peer]
      exact controlled.moved
    · have isHeard : datagram.heard = some ⟨datagram.src, frameType, plain⟩ := by
        rw [Opened.heard, outcome, Option.map_some]
      have member : ⟨datagram.src, frameType, plain⟩ ∈ observed.heard :=
        controlled.opened datagram (here ▸ List.getElem_mem inside) _ isHeard
      obtain ⟨ends, moves, announces⟩ := @Inbound.takeOpened_control config.toInboundConfig
        ⟨observed.tunnel.node.rekeying, observed.tunnel.node.pacedState, observed.tunnel.node.pacedState || sends, true⟩
        rfl observed.tunnel.node.inbound datagram.src frameType plain
      rw [isHeard]
      refine ⟨fun ended => ?_, ?_, announces⟩
      · rcases ends ended with earlier | close
        · exact controlled.closed earlier
        · exact .inl ⟨_, member, close⟩
      · rcases moves with same | ⟨roaming, source⟩
        · dsimp only
          rw [same]
          exact controlled.moved
        · exact .inr ⟨roaming, _, member, source.symm⟩
  obtain ⟨closed, moved, announces⟩ := turn
  refine ⟨unused, booked, controlled.genuine, controlled.heard, among, controlled.balance.trans ?_, closed, moved⟩
  refine List.Perm.append_left _ ?_
  unfold Node.unannounced
  rw [idle, announces]
  have split := (List.getElem_cons_eraseIdx_perm inside).symm.filterMap fun datagram =>
    datagram.heard.bind Heard.announcement
  rw [here, List.filterMap_cons] at split
  cases pick : datagram.heard.bind Heard.announcement with
  | none => rwa [pick] at split
  | some plain => rwa [pick] at split

/-- **The step lemma.** -/
theorem controlled_step (controlled : Controlled config sent peer gone taken observed)
    (secure : Secure prims config sent observed event) (stepped : observed.step prims config event = some after)
    (closes : event = .tunCloses → gone) : ∃ taken', Controlled config sent peer gone taken' after := by
  obtain ⟨tunnel, moved, rfl⟩ := Option.map_eq_some_iff.mp stepped
  obtain ⟨node, steps, rfl⟩ := Option.map_eq_some_iff.mp moved
  obtain ⟨gained, gain, unused, -⟩ := Node.step_moves controlled.unused steps
  have booked := gain.keeps controlled.booked fun session installed => secure.fresh node session steps installed
  by_cases other : (∀ src raw, event ≠ .decrypt src raw) ∧
      (∀ index now sends coins, event ≠ .take index now sends coins) ∧ event ≠ .work ∧ event ≠ .tunCloses
  · obtain ⟨opened, agenda, running, address⟩ := Node.step_control steps other
    have silent : observed.tunnel.node.hears prims event = [] ∧ observed.tunnel.node.announces event = [] := by
      cases event with
      | decrypt src raw => exact absurd rfl (other.1 src raw)
      | work => exact absurd rfl other.2.2.1
      | _ => exact ⟨rfl, rfl⟩
    have same : node.unannounced = observed.tunnel.node.unannounced := by
      unfold Node.unannounced
      rw [opened, agenda]
    refine ⟨taken, unused, booked, controlled.genuine, ?_, ?_, ?_, ?_, ?_⟩
    · rw [silent.1, List.append_nil]
      exact controlled.heard
    · rw [silent.1, List.append_nil, opened]
      exact controlled.opened
    · rw [silent.1, silent.2, List.append_nil, List.append_nil, same]
      exact controlled.balance
    · rw [silent.1, List.append_nil, running]
      exact controlled.closed
    · rw [silent.1, List.append_nil, address]
      exact controlled.moved
  unfold Node.step at steps
  split at steps
  swap
  · cases steps
  obtain ⟨⟨node', sentNow⟩, reacts, rfl⟩ := Option.map_eq_some_iff.mp steps
  cases event with
  | decrypt src raw =>
    obtain ⟨rfl, -⟩ := Prod.mk.inj (Option.some.inj reacts)
    obtain ⟨taken', holds⟩ := controlled.decrypt secure.unforged unused
    refine ⟨taken', ?_⟩
    show Controlled _ _ _ _ _ ⟨_, _, observed.announced ++ []⟩
    rw [List.append_nil]
    exact holds
  | take index now sends coins =>
    simp only [Node.react] at reacts
    split at reacts
    · rename_i datagram idle present
      obtain ⟨rfl, -⟩ := Prod.mk.inj (Option.some.inj reacts)
      refine ⟨taken, ?_⟩
      show Controlled _ _ _ _ _ ⟨_, observed.heard ++ [], observed.announced ++ []⟩
      rw [List.append_nil, List.append_nil]
      exact controlled.take idle present unused booked
    · cases reacts
  | work =>
    obtain ⟨inbound, opened, announces⟩ := Node.work_control reacts
    refine ⟨taken, ?_⟩
    show Controlled _ _ _ _ _ ⟨_, observed.heard ++ [], _⟩
    rw [List.append_nil]
    refine ⟨unused, booked, controlled.genuine, controlled.heard, ?_, ?_, ?_, ?_⟩
    · dsimp only
      rw [opened]
      exact controlled.opened
    · have moved : observed.tunnel.node.announces .work ++ node'.unannounced =
          observed.tunnel.node.unannounced := by
        unfold Node.unannounced
        rw [← List.append_assoc, announces, opened]
      refine controlled.balance.trans (.of_eq ?_)
      dsimp only
      rw [List.append_assoc, moved]
    · dsimp only
      rw [inbound]
      exact controlled.closed
    · dsimp only
      rw [inbound]
      exact controlled.moved
  | tunCloses =>
    obtain rfl := Node.tunCloses_eq reacts
    refine ⟨taken, ?_⟩
    show Controlled _ _ _ _ _ ⟨_, observed.heard ++ [], observed.announced ++ []⟩
    rw [List.append_nil, List.append_nil]
    exact ⟨unused, booked, controlled.genuine, controlled.heard, controlled.opened, controlled.balance,
      fun _ => .inr (closes rfl), controlled.moved⟩
  | _ =>
    refine absurd ⟨fun _ _ same => ?_, fun _ _ _ _ same => ?_, fun same => ?_, fun same => ?_⟩ other
    all_goals cases same

/-- **The run lemma**: the TUN channel is gone where the run says so. -/
theorem controlled_run {first last : ObservedTunnel} {events : List NodeEvent}
    (run : Run (Guarded (Secure prims config sent) (Taken (step prims config))) first events last)
    (controlled : Controlled config sent peer (.tunCloses ∈ events) taken first) :
    ∃ taken', Controlled config sent peer (.tunCloses ∈ events) taken' last :=
  (run.guarded fun _ member => member).invariant
    (fun observed => ∃ taken, Controlled config sent peer (.tunCloses ∈ events) taken observed)
    (fun _ _ _ holds met => holds.elim fun _ controlled =>
      controlled_step controlled met.2.1 met.2.2 fun same => same ▸ met.1)
    ⟨taken, controlled⟩

/-- **Control is authentic.** Whatever arrives at one end of the tunnel, from whatever address and in whatever
order, through any number of rekeys of either role: what the slots open are frames the peer sealed, no sealed
frame twice; the loop ends only at a Close among them or at a closed TUN channel, the peer's address moves only
where roaming is allowed and to an address one of them came from, and the profiles that are handed on were
announced by them, each announcement once. -/
theorem control_authentic (prims : Primitives) (config : NodeConfig) (sent : List SealedFrame) (session : Session)
    (unused : session.replay = .new) (now : Nat) (peer : SocketAddr) (eff : EffectiveTraffic)
    (events : List NodeEvent) (last : ObservedTunnel)
    (run : Run (Guarded (Secure prims config sent) (Taken (step prims config)))
      (begin config (.new session now) peer eff) events last) :
    (∃ taken : List (SealedFrame × Heard), (taken.map fun entry => entry.1.token).Nodup ∧
      (∀ entry ∈ taken, entry.1 ∈ sent ∧ entry.1.Says entry.2) ∧ (taken.map Prod.snd).Perm last.heard) ∧
    (last.tunnel.node.inbound.running = false →
      (∃ heard ∈ last.heard, heard.frameType = .close) ∨ .tunCloses ∈ events) ∧
    (last.tunnel.node.inbound.peer ≠ peer → config.allowRoaming = true ∧
      ∃ heard ∈ last.heard, heard.src = last.tunnel.node.inbound.peer) ∧
    last.announced.Subperm (last.heard.filterMap Heard.announcement) := by
  obtain ⟨taken, controlled⟩ := controlled_run run (controlled_begin sent unused now peer eff)
  have distinct := controlled.booked.distinct
  rw [List.map_map] at distinct
  exact ⟨⟨taken, distinct, controlled.genuine, controlled.heard⟩, controlled.closed,
    fun elsewhere => controlled.moved.resolve_left elsewhere,
    (List.sublist_append_left _ _).subperm.trans controlled.balance.symm.subperm⟩

/-- The peer's datagram comes from another address. -/
def sampleRoam : List NodeEvent :=
  [.decrypt Inbound.sampleElsewhere SessionManager.sampleDatagram, .take 0 10000 true Inbound.sampleCoins]

/-- It is followed there. -/
theorem control_authentic_sample : ∃ last,
    execute (step .transparent DeliveringTunnel.sampleNode) ⟨DeliveringTunnel.sampleTunnel, [], []⟩ sampleRoam =
        some last ∧
      last.tunnel.node.inbound.peer = Inbound.sampleElsewhere ∧
        ∃ heard ∈ last.heard, heard.src = Inbound.sampleElsewhere := by
  let first : ObservedTunnel := ⟨DeliveringTunnel.sampleTunnel, [], []⟩
  have ends : ((execute (step .transparent DeliveringTunnel.sampleNode) first sampleRoam).map
      fun last => last.tunnel.node.inbound.peer) = some Inbound.sampleElsewhere := by decide +kernel
  obtain ⟨last, executed, moved⟩ := Option.map_eq_some_iff.mp ends
  have along : Along (step .transparent DeliveringTunnel.sampleNode)
      (fun before event after => DeliveringTunnel.SampleHeld before.tunnel event after.tunnel) first sampleRoam := by
    decide +kernel
  have secure : ∀ before event after, step .transparent DeliveringTunnel.sampleNode before event = some after →
      DeliveringTunnel.SampleHeld before.tunnel event after.tunnel →
        Secure .transparent DeliveringTunnel.sampleNode [DeliveringTunnel.sampleSealed] before event := by
    intro before event after stepped held
    obtain ⟨tunnel, moved, rfl⟩ := Option.map_eq_some_iff.mp stepped
    exact DeliveringTunnel.sampleHeld_secure moved held
  have authentic := (control_authentic .transparent DeliveringTunnel.sampleNode [DeliveringTunnel.sampleSealed]
    DeliveringTunnel.sampleOpener rfl 10000 _ _ _ _ (run_of_along along secure executed)).2.2.1
  rw [moved] at authentic
  exact ⟨last, executed, moved, (authentic (by decide)).2⟩

end ObservedTunnel

end ChameleonPQ
