/-
**The rekey state of the inbound loop (`tunnel_loops.rs`, `rekey.rs`).**

The pending handshake of a responder and the two reassemblers, one for each state of it.

* `slot`, `complete` — the reassembler in use, and what a complete message does.
* `receive_handshake`, `receive_other` — a datagram touches the rekey state only through the
  demultiplexer.
* `receive_pending` — a pending handshake is gone exactly when a message is complete on the confirm path.
* `bounded_run` — in every run both reassemblers are within their bounds.
-/

import ChameleonPQ.Transport.Envelope
import ChameleonPQ.Tunnel.Inbound

namespace ChameleonPQ

open Library Library.Runs

namespace Inbound

section Definitions

variable (prims : Primitives) (config : InboundConfig) (flags : Flags)

/-- The reassembler of the next handshake datagram. -/
def slot (inbound : Inbound) : Reassembler :=
  match inbound.pendingRekey with
  | none => inbound.rekeyReasm
  | some _ => inbound.confirmReasm

def withSlot (inbound : Inbound) (reasm : Reassembler) : Inbound :=
  match inbound.pendingRekey with
  | none => { inbound with rekeyReasm := reasm }
  | some _ => { inbound with confirmReasm := reasm }

/-- What the loop does with a complete handshake message. -/
def complete (inbound : Inbound) (src : SocketAddr) (wire : Bytes) (coins : InboundCoins) :
    Inbound × List Effect :=
  match inbound.pendingRekey with
  | none => inbound.respondRekey prims config flags src wire coins
  | some (handshake, _) => inbound.confirmRekey prims config handshake wire

/-- The datagrams that get as far as a reassembler. -/
def IsHandshake (raw : Bytes) : Prop :=
  match config.hsObf with
  | some key => HsObf.unmaskFragment prims key raw ≠ none
  | none => ∃ frame, Frame.decode raw = .ok frame ∧ frame.frameType = .handshake

end Definitions

variable {prims : Primitives} {config : InboundConfig} {flags : Flags} {inbound : Inbound} {now : Nat}
  {src : SocketAddr} {raw : Bytes} {coins : InboundCoins}

/-! ### The slot -/

section Slot

variable (inbound : Inbound) (reasm other : Reassembler)

@[simp] theorem slot_withSlot : (inbound.withSlot reasm).slot = reasm := by
  obtain ⟨_, _, _, _, _ | _, _⟩ := inbound <;> rfl

@[simp] theorem withSlot_withSlot : (inbound.withSlot reasm).withSlot other = inbound.withSlot other := by
  obtain ⟨_, _, _, _, _ | _, _⟩ := inbound <;> rfl

@[simp] theorem withSlot_slot : inbound.withSlot inbound.slot = inbound := by
  obtain ⟨_, _, _, _, _ | _, _⟩ := inbound <;> rfl

@[simp] theorem withSlot_pendingRekey : (inbound.withSlot reasm).pendingRekey = inbound.pendingRekey := by
  obtain ⟨_, _, _, _, _ | _, _⟩ := inbound <;> rfl

@[simp] theorem withSlot_sessions : (inbound.withSlot reasm).sessions = inbound.sessions := by
  obtain ⟨_, _, _, _, _ | _, _⟩ := inbound <;> rfl

@[simp] theorem withSlot_peer : (inbound.withSlot reasm).peer = inbound.peer := by
  obtain ⟨_, _, _, _, _ | _, _⟩ := inbound <;> rfl

@[simp] theorem withSlot_running : (inbound.withSlot reasm).running = inbound.running := by
  obtain ⟨_, _, _, _, _ | _, _⟩ := inbound <;> rfl

end Slot

/-! ### One datagram -/

/-- The demultiplexer while no rekey of this end's own runs. -/
theorem demultiplex_idle (idle : flags.rekeying = false)
    (push : Reassembler → Result (Option Bytes) × Reassembler) :
    inbound.demultiplex prims config flags src raw coins push =
      match push inbound.slot with
      | (.ok (some wire), reasm) => (inbound.withSlot reasm).complete prims config flags src wire coins
      | (_, reasm) => (inbound.withSlot reasm, []) := by
  have free : ¬ flags.rekeying = true := by
    rw [idle]
    exact Bool.false_ne_true
  rw [demultiplex, if_neg free]
  rcases pending : inbound.pendingRekey with _ | ⟨handshake, newId⟩
  · rw [show inbound.slot = inbound.rekeyReasm by rw [slot, pending]]
    rcases push inbound.rekeyReasm with ⟨_ | _ | wire, reasm⟩ <;> simp only [withSlot, complete, pending]
  · rw [show inbound.slot = inbound.confirmReasm by rw [slot, pending]]
    rcases push inbound.confirmReasm with ⟨_ | _ | wire, reasm⟩ <;> simp only [withSlot, complete, pending]

/-- The rekey state: the pending handshake and both reassemblers. -/
def SameRekey (before after : Inbound) : Prop :=
  after.pendingRekey = before.pendingRekey ∧ after.rekeyReasm = before.rekeyReasm ∧
    after.confirmReasm = before.confirmReasm

theorem sameRekey_follow : SameRekey inbound (inbound.follow config src) := by
  unfold follow
  split <;> exact ⟨rfl, rfl, rfl⟩

theorem sameRekey_sendToTun {before : Inbound} (same : SameRekey before inbound) (plain : Bytes) :
    SameRekey before (inbound.sendToTun flags plain).1 := by
  obtain ⟨running, sent⟩ := @sendToTun_frame flags inbound plain
  obtain ⟨pending, rekey, confirm⟩ := same
  rw [sent]
  exact ⟨pending, rekey, confirm⟩

theorem takeOther_handshake (fromPeer : src = inbound.peer) (isHandshake : IsHandshake prims config raw) :
    inbound.takeOther prims config flags now src raw coins =
      inbound.demultiplex prims config flags src raw coins
        fun reasm => pushHandshake prims reasm now raw config.hsObf := by
  unfold takeOther
  rw [if_neg (not_not.mpr fromPeer)]
  unfold IsHandshake at isHandshake
  rcases framing : config.hsObf with _ | key
  · rw [framing] at isHandshake
    obtain ⟨frame, decoded, kind⟩ := isHandshake
    dsimp only
    rw [decoded]
    have pushes : (fun reasm => pushHandshake prims reasm now raw none) =
        fun reasm => reasm.push now frame.payload := by
      funext reasm
      rw [pushHandshake, decoded]
      dsimp only
      rw [if_neg (not_not.mpr kind)]
      rfl
    rw [pushes]
    unfold takeFrame
    dsimp only
    rw [kind]
  · rw [framing] at isHandshake
    obtain ⟨⟨msgId, index, total, chunk⟩, unmasked⟩ := Option.ne_none_iff_exists'.mp isHandshake
    dsimp only
    rw [unmasked]
    have pushes : (fun reasm => pushHandshake prims reasm now raw (some key)) =
        fun reasm => openPushed prims key (reasm.pushParts now msgId index total chunk) := by
      funext reasm
      rw [pushHandshake, unmasked]
      rfl
    rw [pushes]

theorem takeOther_no_handshake (not_handshake : ¬ IsHandshake prims config raw) :
    SameRekey inbound (inbound.takeOther prims config flags now src raw coins).1 := by
  unfold takeOther
  split
  · exact ⟨rfl, rfl, rfl⟩
  unfold IsHandshake at not_handshake
  rcases framing : config.hsObf with _ | key
  · rw [framing] at not_handshake
    dsimp only
    rcases decoded : Frame.decode raw with e | frame
    · exact ⟨rfl, rfl, rfl⟩
    dsimp only
    unfold takeFrame
    rcases kind : frame.frameType
    case handshake => exact absurd ⟨frame, decoded, kind⟩ not_handshake
    case data =>
      dsimp only
      rcases inbound.sessions.decrypt prims frame.sessionId frame.sequence.toNat frame.payload with
        ⟨e | plain, sessions⟩
      · exact ⟨rfl, rfl, rfl⟩
      · obtain ⟨pending, rekey, confirm⟩ : SameRekey { inbound with sessions }
          ((({ inbound with sessions } : Inbound).follow config src).sendToTun flags plain).1 :=
            sameRekey_sendToTun sameRekey_follow plain
        exact ⟨pending, rekey, confirm⟩
    all_goals exact ⟨rfl, rfl, rfl⟩
  · rw [framing] at not_handshake
    dsimp only
    rw [not_not.mp not_handshake]
    exact ⟨rfl, rfl, rfl⟩

/-- The datagrams that the demultiplexer gets. -/
def Demultiplexed (prims : Primitives) (config : InboundConfig) (inbound : Inbound) (src : SocketAddr)
    (raw : Bytes) : Prop :=
  inbound.running = true ∧ (∃ e, (inbound.sessions.decryptObf prims raw).1 = .error e) ∧
    src = inbound.peer ∧ IsHandshake prims config raw

theorem receive_handshake (reaches : inbound.Demultiplexed prims config src raw) (flags : Flags)
    (now : Nat) (coins : InboundCoins) : inbound.receive prims config flags now src raw coins =
      ({ inbound with sessions := (inbound.sessions.decryptObf prims raw).2 } : Inbound).demultiplex
        prims config flags src raw coins fun reasm => pushHandshake prims reasm now raw config.hsObf := by
  obtain ⟨running, ⟨e, closed⟩, fromPeer, isHandshake⟩ := reaches
  unfold receive
  rw [if_pos running]
  rcases opened : inbound.sessions.decryptObf prims raw with ⟨result, sessions⟩
  rw [opened] at closed
  obtain rfl : result = .error e := closed
  have samePeer : src = ({ inbound with sessions } : Inbound).peer := fromPeer
  exact takeOther_handshake samePeer isHandshake

/-- **Every other datagram leaves the rekey state alone.** -/
theorem receive_other (elsewhere : ¬ inbound.Demultiplexed prims config src raw) (flags : Flags)
    (now : Nat) (coins : InboundCoins) :
    SameRekey inbound (inbound.receive prims config flags now src raw coins).1 := by
  unfold receive
  by_cases running : inbound.running = true
  · rw [if_pos running]
    rcases opened : inbound.sessions.decryptObf prims raw with ⟨e | ⟨frameType, plain⟩, sessions⟩
    · by_cases fromPeer : src = inbound.peer
      · have not_handshake : ¬ IsHandshake prims config raw := fun isHandshake =>
          elsewhere ⟨running, ⟨e, congrArg Prod.fst opened⟩, fromPeer, isHandshake⟩
        exact takeOther_no_handshake not_handshake
      · have foreign : src ≠ ({ inbound with sessions } : Inbound).peer := fromPeer
        dsimp only
        rw [takeOther_foreign foreign]
        exact ⟨rfl, rfl, rfl⟩
    · obtain ⟨pending, rekey, confirm⟩ : SameRekey { inbound with sessions }
        (({ inbound with sessions } : Inbound).follow config src) := sameRekey_follow
      unfold takeOpened
      cases frameType with
      | data => exact sameRekey_sendToTun ⟨pending, rekey, confirm⟩ plain
      | profile | keepAlive | handshake | padding | close => exact ⟨pending, rekey, confirm⟩
  · rw [if_neg running]
    exact ⟨rfl, rfl, rfl⟩

/-! ### The rekey state in every run -/

/-- A datagram completes a message on the confirm path: no session opens it, it comes from the peer's
address while no rekey of this end's own runs, and its message is whole with it. -/
structure Consumes (prims : Primitives) (config : InboundConfig) (inbound : Inbound) (flags : Flags)
    (now : Nat) (src : SocketAddr) (raw : Bytes) : Prop where
  idle : flags.rekeying = false
  running : inbound.running = true
  closed : ∃ e, (inbound.sessions.decryptObf prims raw).1 = .error e
  fromPeer : src = inbound.peer
  completes : ∃ wire, (pushHandshake prims inbound.confirmReasm now raw config.hsObf).1 = .ok (some wire)

theorem isHandshake_of_pushed {reasm : Reassembler} {wire : Bytes}
    (pushed : (pushHandshake prims reasm now raw config.hsObf).1 = .ok (some wire)) :
    IsHandshake prims config raw := by
  unfold pushHandshake at pushed
  unfold IsHandshake
  generalize config.hsObf = framing at pushed ⊢
  cases framing with
  | none =>
    dsimp only at pushed ⊢
    rcases decoded : Frame.decode raw with e | frame
    · rw [decoded] at pushed
      cases pushed
    · rw [decoded] at pushed
      dsimp only at pushed
      by_cases kind : frame.frameType = .handshake
      · exact ⟨frame, rfl, kind⟩
      · rw [if_pos kind] at pushed
        cases pushed
  | some key =>
    dsimp only at pushed ⊢
    rcases unmasked : HsObf.unmaskFragment prims key raw with _ | parts
    · rw [unmasked] at pushed
      cases pushed
    · exact Option.some_ne_none parts

theorem Consumes.demultiplexed (consumes : inbound.Consumes prims config flags now src raw) :
    inbound.Demultiplexed prims config src raw := by
  obtain ⟨-, running, closed, fromPeer, _, completes⟩ := consumes
  exact ⟨running, closed, fromPeer, isHandshake_of_pushed completes⟩

/-- Both reassemblers are within their bounds. -/
def Bounded (inbound : Inbound) : Prop := inbound.rekeyReasm.Bounded ∧ inbound.confirmReasm.Bounded

theorem SameRekey.bounded {after : Inbound} (same : SameRekey inbound after) (bounded : inbound.Bounded) :
    after.Bounded := by
  obtain ⟨-, rekey, confirm⟩ := same
  exact ⟨rekey ▸ bounded.1, confirm ▸ bounded.2⟩

/-- A push of either framing keeps a reassembler within its bounds. -/
theorem bounded_pushHandshake {reasm : Reassembler} (bounded : reasm.Bounded) (now : Nat) (raw : Bytes)
    (hsObf : Option (Octets 32)) : (pushHandshake prims reasm now raw hsObf).2.Bounded := by
  have outcome : ∀ pushed : Result (Option Bytes) × Reassembler, pushed.2.Bounded →
      (pushOutcome prims hsObf pushed).2.Bounded := by
    rintro ⟨_ | _ | _, after⟩ kept <;> cases hsObf <;> exact kept
  unfold pushHandshake
  cases hsObf with
  | some key =>
    dsimp only
    split
    · exact bounded
    · exact outcome _ (bounded.pushParts now _ _ _ _).1
  | none =>
    dsimp only
    split
    · exact bounded
    · split
      · exact bounded
      · exact outcome _ (bounded.push now _).1

theorem respondRekey_reasms (wire : Bytes) :
    (inbound.respondRekey prims config flags src wire coins).1.rekeyReasm = inbound.rekeyReasm ∧
      (inbound.respondRekey prims config flags src wire coins).1.confirmReasm = inbound.confirmReasm := by
  unfold respondRekey
  split
  · exact ⟨rfl, rfl⟩
  · split
    · exact ⟨rfl, rfl⟩
    · split <;> exact ⟨rfl, rfl⟩
  · exact ⟨rfl, rfl⟩

theorem confirmRekey_reasms (handshake : Handshake) (wire : Bytes) :
    (inbound.confirmRekey prims config handshake wire).1.rekeyReasm = inbound.rekeyReasm ∧
      (inbound.confirmRekey prims config handshake wire).1.confirmReasm = inbound.confirmReasm ∧
      (inbound.confirmRekey prims config handshake wire).1.pendingRekey = none := by
  unfold confirmRekey
  split <;> exact ⟨rfl, rfl, rfl⟩

open Classical in
/-- **A handshake datagram while a handshake is pending**: it stays unless a message is complete. -/
theorem demultiplex_pending {pending : Handshake × UInt32} (held : inbound.pendingRekey = some pending) :
    (inbound.demultiplex prims config flags src raw coins
      fun reasm => pushHandshake prims reasm now raw config.hsObf).1.pendingRekey =
        if flags.rekeying = false ∧ ∃ wire,
          (pushHandshake prims inbound.confirmReasm now raw config.hsObf).1 = .ok (some wire) then none
        else some pending := by
  cases rekeying : flags.rekeying with
  | true =>
    rw [demultiplex, if_pos rekeying, if_neg (by rintro ⟨idle, -⟩; cases idle)]
    exact held
  | false =>
    have slot : inbound.slot = inbound.confirmReasm := by rw [Inbound.slot, held]
    rw [demultiplex_idle rekeying, slot]
    rcases pushHandshake prims inbound.confirmReasm now raw config.hsObf with ⟨e | _ | wire, reasm⟩
    · rw [if_neg (by rintro ⟨-, _, completes⟩; cases completes)]
      exact (withSlot_pendingRekey inbound reasm).trans held
    · rw [if_neg (by rintro ⟨-, _, completes⟩; cases completes)]
      exact (withSlot_pendingRekey inbound reasm).trans held
    · rw [if_pos ⟨rfl, wire, rfl⟩]
      have kept : (inbound.withSlot reasm).pendingRekey = some pending :=
        (withSlot_pendingRekey inbound reasm).trans held
      obtain ⟨handshake, newId⟩ := pending
      dsimp only
      rw [complete, kept]
      exact (confirmRekey_reasms handshake wire).2.2

theorem bounded_demultiplex (bounded : inbound.Bounded)
    {push : Reassembler → Result (Option Bytes) × Reassembler}
    (keeps : ∀ reasm : Reassembler, reasm.Bounded → (push reasm).2.Bounded) :
    (inbound.demultiplex prims config flags src raw coins push).1.Bounded := by
  unfold demultiplex
  split
  · exact bounded
  split
  · have kept := keeps _ bounded.1
    generalize push inbound.rekeyReasm = pushed at kept ⊢
    obtain ⟨e | _ | wire, reasm⟩ := pushed
    · exact ⟨kept, bounded.2⟩
    · exact ⟨kept, bounded.2⟩
    · let inner : Inbound := { inbound with rekeyReasm := reasm }
      obtain ⟨rekey, confirm⟩ :
          (inner.respondRekey prims config flags src wire coins).1.rekeyReasm = reasm ∧
            (inner.respondRekey prims config flags src wire coins).1.confirmReasm =
              inbound.confirmReasm := respondRekey_reasms wire
      exact ⟨rekey.symm ▸ kept, confirm.symm ▸ bounded.2⟩
  · rename_i handshake newId _
    have kept := keeps _ bounded.2
    generalize push inbound.confirmReasm = pushed at kept ⊢
    obtain ⟨e | _ | wire, reasm⟩ := pushed
    · exact ⟨bounded.1, kept⟩
    · exact ⟨bounded.1, kept⟩
    · let inner : Inbound := { inbound with confirmReasm := reasm }
      obtain ⟨rekey, confirm, -⟩ :
          (inner.confirmRekey prims config handshake wire).1.rekeyReasm = inbound.rekeyReasm ∧
            (inner.confirmRekey prims config handshake wire).1.confirmReasm = reasm ∧ _ :=
        confirmRekey_reasms handshake wire
      exact ⟨rekey.symm ▸ bounded.1, confirm.symm ▸ kept⟩

theorem bounded_receive (prims : Primitives) (config : InboundConfig) (bounded : inbound.Bounded)
    (flags : Flags) (now : Nat) (src : SocketAddr) (raw : Bytes) (coins : InboundCoins) :
    (inbound.receive prims config flags now src raw coins).1.Bounded := by
  by_cases reaches : inbound.Demultiplexed prims config src raw
  · rw [receive_handshake reaches]
    have inside : Bounded { inbound with sessions := (inbound.sessions.decryptObf prims raw).2 } := bounded
    exact bounded_demultiplex inside fun reasm kept => bounded_pushHandshake kept now raw config.hsObf
  · exact (receive_other reaches flags now coins).bounded bounded

theorem bounded_react (bounded : inbound.Bounded) (event : InboundEvent) :
    (inbound.react prims config event).1.Bounded := by
  cases event with
  | datagram flags now src raw coins => exact bounded_receive prims config bounded flags now src raw coins
  | prune now => exact ⟨bounded.1.pruneOld now 10000, bounded.2.pruneOld now 10000⟩
  | reserve n => exact bounded
  | install newSession => exact bounded
  | retire => exact bounded

theorem bounded_run {sessions : SessionManager Session} {peer : SocketAddr} {events : List InboundEvent}
    {last : Inbound} (run : Run (Step prims config) (begin sessions peer) events last) : last.Bounded := by
  refine run.invariant Inbound.Bounded (fun before event after bounded taken => ?_)
    ⟨Reassembler.bounded_new, Reassembler.bounded_new⟩
  obtain rfl := taken
  exact bounded_react bounded event

open Classical in
/-- **A datagram while a handshake is pending**: the pending handshake is gone exactly when a message is
complete on the confirm path. -/
theorem receive_pending (prims : Primitives) (config : InboundConfig) {pending : Handshake × UInt32}
    (held : inbound.pendingRekey = some pending) (flags : Flags) (now : Nat) (src : SocketAddr) (raw : Bytes)
    (coins : InboundCoins) :
    (inbound.receive prims config flags now src raw coins).1.pendingRekey =
      if inbound.Consumes prims config flags now src raw then none else some pending := by
  by_cases reaches : inbound.Demultiplexed prims config src raw
  · have heldInside : ({ inbound with sessions := (inbound.sessions.decryptObf prims raw).2 } :
      Inbound).pendingRekey = some pending := held
    rw [receive_handshake reaches, demultiplex_pending heldInside]
    obtain ⟨running, closed, fromPeer, -⟩ := reaches
    refine if_congr ⟨fun both => ?_, fun consumes => ?_⟩ rfl rfl
    · exact ⟨both.1, running, closed, fromPeer, both.2⟩
    · exact ⟨consumes.idle, consumes.completes⟩
  · rw [if_neg fun consumes => reaches consumes.demultiplexed]
    exact (receive_other reaches flags now coins).1.trans held

end Inbound

end ChameleonPQ
