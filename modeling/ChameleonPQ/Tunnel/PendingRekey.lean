/-
**The pending rekey of a responder (`tunnel_loops.rs`, `rekey.rs`).**

Between its Response and the Confirm the inbound loop keeps the handshake, and takes it out for any
complete message, before it knows whether that is the Confirm.

* `deliver_message` — the datagrams of one message, in any order, hand it to the loop once.
* `RekeyExchange`, `RekeyExchange.confirms` — the Confirm of an initiator that used the Response verifies.
* `pending_rekey_survives` — the genuine Confirm installs its session after a datagram exactly when that
  datagram did not complete a message on the confirm path, and in every run without such datagrams.
* `retransmitted_init_loses_rekey` — a second copy of the Init is such a message.
-/

import ChameleonPQ.Tunnel.RekeyState

namespace ChameleonPQ

open Library Library.Runs

namespace Inbound

section Definitions

variable (prims : Primitives) (config : InboundConfig) (flags : Flags)

/-- Some datagrams from the peer, one after the other. -/
def deliver (coins : InboundCoins) (inbound : Inbound) : List (Nat × Bytes) → Inbound × List Effect
  | [] => (inbound, [])
  | (now, raw) :: later =>
    ((deliver coins (inbound.receive prims config flags now inbound.peer raw coins).1 later).1,
      (inbound.receive prims config flags now inbound.peer raw coins).2 ++
        (deliver coins (inbound.receive prims config flags now inbound.peer raw coins).1 later).2)

/-- No session opens a datagram, and none changes. -/
def Quiet (sessions : SessionManager Session) (raw : Bytes) : Prop :=
  ∃ e, sessions.decryptObf prims raw = (.error e, sessions)

end Definitions

variable {prims : Primitives} {config : InboundConfig} {flags : Flags} {inbound : Inbound} {now : Nat}
  {src : SocketAddr} {raw : Bytes} {coins : InboundCoins}

/-! ### A whole message -/

/-- The datagrams of a built handshake message get to the demultiplexer. -/
theorem isHandshake_built (correct : prims.AeadCorrect) {sessionId : UInt32} {envelope : HsObf.SealCoins}
    {wire : Bytes} {sent : List Bytes} (long : wire.length = handshakeMsgLen)
    (built : buildHandshakeDatagrams prims sessionId wire config.hsObf envelope = .ok sent) :
    ∀ raw ∈ sent, IsHandshake prims config raw := by
  intro raw present
  unfold IsHandshake
  generalize config.hsObf = framing at built ⊢
  cases framing with
  | none =>
    obtain ⟨index, inside, found⟩ := List.getElem_of_mem present
    obtain ⟨piece, -, encoded⟩ := (encodeFrames_getElem? built).2 index raw
      (List.getElem?_eq_some_iff.mpr ⟨inside, found⟩)
    exact ⟨.newHandshake piece, Frame.decode_encode encoded, rfl⟩
  | some key =>
    obtain ⟨blob, sealedBlob, rfl⟩ := sealAndFragment_eq built
    obtain ⟨-, -, few⟩ := HsObf.variableChunks_sealed correct envelope.sizes long.le sealedBlob
    obtain ⟨⟨piece, index⟩, among, rfl⟩ := List.mem_map.mp present
    have inside : index < (HsObf.variableChunks envelope.sizes blob).length := by
      have bound := (List.mem_zipIdx among).2.1
      rwa [Nat.zero_add] at bound
    dsimp only
    rw [HsObf.unmaskFragment_masked key envelope.msgId piece inside few]
    exact Option.some_ne_none _

theorem receive_quiet (running : inbound.running = true) (quiet : Quiet prims inbound.sessions raw)
    (isHandshake : IsHandshake prims config raw) :
    inbound.receive prims config flags now inbound.peer raw coins =
      inbound.demultiplex prims config flags inbound.peer raw coins
        fun reasm => pushHandshake prims reasm now raw config.hsObf := by
  obtain ⟨e, closed⟩ := quiet
  rw [receive_handshake ⟨running, ⟨e, congrArg Prod.fst closed⟩, rfl, isHandshake⟩, closed]

theorem deliver_append (front back : List (Nat × Bytes)) :
    deliver prims config flags coins inbound (front ++ back) =
      ((deliver prims config flags coins (deliver prims config flags coins inbound front).1 back).1,
        (deliver prims config flags coins inbound front).2 ++
          (deliver prims config flags coins (deliver prims config flags coins inbound front).1 back).2) := by
  induction front generalizing inbound with
  | nil => rfl
  | cons arrival front ih =>
    obtain ⟨now, raw⟩ := arrival
    rw [List.cons_append, deliver, ih, deliver, List.append_assoc]

/-- Datagrams that complete nothing go into the reassembler. -/
theorem deliver_front (idle : flags.rekeying = false) {front : List (Nat × Bytes)}
    (running : inbound.running = true)
    (quiet : ∀ arrival ∈ front, Quiet prims inbound.sessions arrival.2 ∧ IsHandshake prims config arrival.2)
    {middle : Reassembler} (nothing : receiveAll (receiveFragment prims config.hsObf) inbound.slot front =
      (front.map fun _ => .ok none, middle)) :
    deliver prims config flags coins inbound front = (inbound.withSlot middle, []) := by
  induction front generalizing inbound with
  | nil =>
    obtain rfl : inbound.slot = middle := congrArg Prod.snd nothing
    rw [withSlot_slot]
    rfl
  | cons arrival front ih =>
    obtain ⟨now, raw⟩ := arrival
    obtain ⟨⟨first, handshake⟩, others⟩ := List.forall_mem_cons.mp quiet
    rcases pushed : receiveFragment prims config.hsObf inbound.slot now raw with ⟨answer, reasm⟩
    rw [receiveAll, pushed, List.map_cons] at nothing
    obtain ⟨answers, left⟩ := Prod.mk.inj nothing
    obtain ⟨rfl, later⟩ := List.cons.inj answers
    have outcome : pushHandshake prims inbound.slot now raw config.hsObf = (.ok none, reasm) := by
      rw [pushHandshake_eq, pushed]
      cases config.hsObf <;> rfl
    have taken : inbound.receive prims config flags now inbound.peer raw coins =
        (inbound.withSlot reasm, []) := by
      rw [receive_quiet running first handshake, demultiplex_idle idle, outcome]
    have rest : deliver prims config flags coins (inbound.withSlot reasm) front =
        ((inbound.withSlot reasm).withSlot middle, []) :=
      ih (by rwa [withSlot_running]) (by rwa [withSlot_sessions])
        (by rw [slot_withSlot]; exact Prod.ext later left)
    rw [deliver, taken, rest, withSlot_withSlot]
    rfl

/-- A handshake message on its way in the loop's framing: its datagrams, each of which arrives once, and
the order and the times of their arrival. -/
structure Delivery (prims : Primitives) (config : InboundConfig) where
  wire : Bytes
  sessionId : UInt32
  envelope : HsObf.SealCoins
  sent : List Bytes
  order : List Nat
  clock : Nat → Nat
  long : wire.length = handshakeMsgLen
  built : buildHandshakeDatagrams prims sessionId wire config.hsObf envelope = .ok sent
  all : order.Perm (List.range sent.length)

def Delivery.arrivals (delivery : Delivery prims config) : List (Nat × Bytes) :=
  delivery.order.map fun index => (delivery.clock index, delivery.sent.getD index [])

/-- The message is heard by the loop: no session opens one of its datagrams. -/
structure Delivery.Heard (delivery : Delivery prims config) (inbound : Inbound) : Prop where
  running : inbound.running = true
  quiet : ∀ raw ∈ delivery.sent, Quiet prims inbound.sessions raw

/-- **The reassembler takes the message**: it holds no part of a message with the same id, and has room for
one more. -/
structure Delivery.Fits (delivery : Delivery prims config) (inbound : Inbound) : Prop where
  unused : inbound.slot.partials.lookup
    (wireMsgId config.hsObf delivery.sessionId delivery.envelope) = none
  room : inbound.slot.partials.length < maxPendingMsgs

/-- The message gets through. -/
structure Delivery.Reaches (delivery : Delivery prims config) (inbound : Inbound) : Prop where
  heard : delivery.Heard inbound
  fits : delivery.Fits inbound

theorem Delivery.mem_sent (delivery : Delivery prims config) {arrival : Nat × Bytes}
    (present : arrival ∈ delivery.arrivals) : arrival.2 ∈ delivery.sent := by
  obtain ⟨index, chosen, rfl⟩ := List.mem_map.mp present
  have inside := List.mem_range.mp (delivery.all.mem_iff.mp chosen)
  dsimp only
  rw [List.getD_eq_getElem _ _ inside]
  exact List.getElem_mem inside

theorem Bounded.slot (bounded : inbound.Bounded) : inbound.slot.Bounded := by
  unfold Inbound.slot
  cases inbound.pendingRekey with
  | none => exact bounded.1
  | some _ => exact bounded.2

/-- **A message that gets through is handed on once**, with its last datagram. -/
theorem deliver_message (correct : prims.AeadCorrect) (idle : flags.rekeying = false)
    (bounded : inbound.Bounded) {delivery : Delivery prims config} (reaches : delivery.Reaches inbound)
    (coins : InboundCoins) : ∃ reasm : Reassembler,
      deliver prims config flags coins inbound delivery.arrivals =
        (inbound.withSlot reasm).complete prims config flags inbound.peer delivery.wire coins ∧
      ∀ msgId, reasm.partials.lookup msgId = inbound.slot.partials.lookup msgId := by
  obtain ⟨⟨running, quiet⟩, unused, room⟩ := reaches
  obtain ⟨front, now, raw, middle, after, arrivals, nothing, last, restored⟩ :=
    built_arrives correct delivery.long delivery.built bounded.slot unused room delivery.all
      delivery.clock
  have handshakes := isHandshake_built correct delivery.long delivery.built
  have among : ∀ arrival ∈ front ++ [(now, raw)], arrival.2 ∈ delivery.sent := by
    intro arrival present
    rw [← arrivals] at present
    exact delivery.mem_sent present
  have fronts : deliver prims config flags coins inbound front = (inbound.withSlot middle, []) := by
    refine deliver_front idle running (fun arrival present => ?_) nothing
    have ours := among arrival (List.mem_append_left _ present)
    exact ⟨quiet _ ours, handshakes _ ours⟩
  have ours : raw ∈ delivery.sent := among (now, raw) (List.mem_append_right _ (List.mem_singleton.mpr rfl))
  have taken : (inbound.withSlot middle).receive prims config flags now inbound.peer raw coins =
      (inbound.withSlot after).complete prims config flags inbound.peer delivery.wire coins := by
    have samePeer : inbound.peer = (inbound.withSlot middle).peer := (withSlot_peer inbound middle).symm
    rw [samePeer, receive_quiet (by rwa [withSlot_running]) (by rw [withSlot_sessions]; exact quiet raw ours)
      (handshakes raw ours), demultiplex_idle idle, slot_withSlot, last]
    dsimp only
    rw [withSlot_withSlot]
  refine ⟨after, ?_, restored⟩
  rw [Delivery.arrivals, arrivals, deliver_append, fronts]
  simp only [deliver, withSlot_peer, taken, List.nil_append, List.append_nil]

/-! ### The Confirm -/

theorem complete_pending {handshake : Handshake} {newId : UInt32} {wire : Bytes} {session : Session}
    (held : inbound.pendingRekey = some (handshake, newId))
    (verifies : handshake.confirm prims wire config.auth = .ok (.established session)) (flags : Flags)
    (src : SocketAddr) (coins : InboundCoins) :
    (inbound.complete prims config flags src wire coins).1.sessions =
        inbound.sessions.installNewSession session ∧
      (inbound.complete prims config flags src wire coins).2 = [.scheduleRetire] := by
  rw [complete, held]
  dsimp only
  rw [confirmRekey, verifies]
  exact ⟨rfl, rfl⟩

/-- Without a pending handshake a Confirm is taken for an Init, and dropped. -/
theorem complete_unexpected {handshake state : Handshake} {wire : Bytes}
    (none_held : inbound.pendingRekey = none)
    (verifies : handshake.confirm prims wire config.auth = .ok state) :
    inbound.complete prims config flags src wire coins = (inbound, []) := by
  obtain ⟨_, _, conf, -, decoded, kind, -⟩ := Handshake.confirm_eq_ok_iff.mp verifies
  have refused : Handshake.respond prims wire config.auth config.preferred coins.respond =
      .error (.handshake "respond" "expected Init") := by
    rw [Handshake.respond, decoded]
    dsimp only
    rw [kind, if_pos (by decide)]
  rw [complete, none_held]
  dsimp only
  rw [respondRekey, refused]

/-- **A rekey that both ends went through up to the Confirm**: the initiator's Init reached the loop, which
answered it and kept `handshake`; the initiator used the Response and is on its new session. -/
structure RekeyExchange (prims : Primitives) (config : InboundConfig) (handshake : Handshake) where
  initiator : Authenticator
  preferred : AeadAlgo
  startCoins : StartCoins
  respondCoins : RespondCoins
  confirmCoins : ConfirmCoins
  sentInit : Handshake
  initWire : Bytes
  delivered : Bytes
  respWire : Bytes
  theirs : Session
  confirmWire : Bytes
  cross : Authenticator.Cross prims initiator config.auth
  started : Handshake.start prims initiator preferred startCoins = .ok (sentInit, initWire)
  delivery : Handshake.InitDelivery initWire delivered
  responded : Handshake.respond prims delivered config.auth config.preferred respondCoins =
    .ok (handshake, respWire)
  finalized : Handshake.finalize prims sentInit respWire initiator confirmCoins =
    .ok (.established theirs, confirmWire)

/-- The genuine Confirm verifies, and gives the session that matches the initiator's. -/
theorem RekeyExchange.confirms {handshake : Handshake} (keys : prims.KeyExchangeCorrect)
    (signatures : prims.SignatureCorrect) (exchange : RekeyExchange prims config handshake) :
    ∃ ours, handshake.confirm prims exchange.confirmWire config.auth = .ok (.established ours) ∧
      Session.Opens exchange.theirs ours ∧ Session.Opens ours exchange.theirs := by
  obtain ⟨initiator, preferred, startCoins, respondCoins, confirmCoins, sentInit, initWire, delivered,
    respWire, theirs, confirmWire, cross, started, delivery, responded, finalized⟩ := exchange
  obtain ⟨encoded, rfl⟩ := Handshake.start_eq_ok_iff.mp started
  obtain ⟨cookie, decoded⟩ := Handshake.decode_delivery encoded delivery
  have fits : initiator.signatureLen prims ≤ 6923 := by
    rw [← Handshake.length_initMessage_sig initiator preferred startCoins]
    exact (HandshakeMessage.encode_ok_iff _ _).mp ⟨_, encoded⟩
  have contributory : Handshake.nonContributory
      (prims.diffieHellman respondCoins.ephX (prims.x25519Public startCoins.ephX)) = false := by
    obtain ⟨view, received, responds, -⟩ := Handshake.respond_eq_ok_iff.mp responded
    have init := Except.ok.inj (received.symm.trans decoded)
    have positive := responds.contributory
    rw [init] at positive
    exact positive
  obtain ⟨view, respWire', confirmWire', viewInit, responds, -, responded', finalized', -, confirmed⟩ :=
    Handshake.honest_exchange keys signatures cross fits config.preferred confirmCoins contributory decoded
  obtain ⟨rfl, rfl⟩ := Prod.mk.inj (Except.ok.inj (responded.symm.trans responded'))
  obtain ⟨established, rfl⟩ := Prod.mk.inj (Except.ok.inj (finalized.symm.trans finalized'))
  obtain rfl := Handshake.established.inj established
  exact ⟨_, confirmed, Handshake.opens_views rfl rfl true, Handshake.opens_views rfl rfl false⟩

/-- The delivered message installs the session that matches `theirs`, and has the previous one retired
in time. -/
def Installs (prims : Primitives) (config : InboundConfig) (flags : Flags) (coins : InboundCoins)
    (inbound : Inbound) (arrivals : List (Nat × Bytes)) (theirs : Session) : Prop :=
  ∃ ours, Session.Opens theirs ours ∧ Session.Opens ours theirs ∧
    (deliver prims config flags coins inbound arrivals).1.sessions =
      inbound.sessions.installNewSession ours ∧
    .scheduleRetire ∈ (deliver prims config flags coins inbound arrivals).2

section Genuine

variable {handshake : Handshake} {newId : UInt32} {exchange : RekeyExchange prims config handshake}
  {confirm : Delivery prims config}

/-- **The genuine Confirm while its handshake is pending.** -/
theorem installs_pending (aead : prims.AeadCorrect) (keys : prims.KeyExchangeCorrect)
    (signatures : prims.SignatureCorrect) (idle : flags.rekeying = false) (bounded : inbound.Bounded)
    (held : inbound.pendingRekey = some (handshake, newId)) (genuine : confirm.wire = exchange.confirmWire)
    (reaches : confirm.Reaches inbound) (coins : InboundCoins) :
    inbound.Installs prims config flags coins confirm.arrivals exchange.theirs := by
  obtain ⟨ours, verifies, opens, opened⟩ := exchange.confirms keys signatures
  obtain ⟨reasm, delivered, -⟩ := deliver_message aead idle bounded reaches coins
  have stillHeld : (inbound.withSlot reasm).pendingRekey = some (handshake, newId) :=
    (withSlot_pendingRekey inbound reasm).trans held
  rw [genuine] at delivered
  obtain ⟨sessions, effects⟩ := complete_pending stillHeld verifies flags inbound.peer coins
  refine ⟨ours, opens, opened, ?_, ?_⟩
  · rw [delivered, sessions, withSlot_sessions]
  · rw [delivered, effects]
    exact List.mem_singleton.mpr rfl

/-- **The genuine Confirm once the handshake is gone.** -/
theorem not_installs_lost (aead : prims.AeadCorrect) (keys : prims.KeyExchangeCorrect)
    (signatures : prims.SignatureCorrect) (idle : flags.rekeying = false) (bounded : inbound.Bounded)
    (lost : inbound.pendingRekey = none) (genuine : confirm.wire = exchange.confirmWire)
    (reaches : confirm.Reaches inbound) (coins : InboundCoins) :
    ¬ inbound.Installs prims config flags coins confirm.arrivals exchange.theirs := by
  rintro ⟨_, -, -, -, scheduled⟩
  obtain ⟨_, verifies, -⟩ := exchange.confirms keys signatures
  obtain ⟨reasm, delivered, -⟩ := deliver_message aead idle bounded reaches coins
  have stillLost : (inbound.withSlot reasm).pendingRekey = none :=
    (withSlot_pendingRekey inbound reasm).trans lost
  rw [delivered, genuine, complete_unexpected stillLost verifies] at scheduled
  cases scheduled

end Genuine

/-! ### Noise -/

/-- While a rekey of this end's own runs, its driver gets the datagrams. -/
theorem deliver_driver (rekeying : flags.rekeying = true) {arrivals : List (Nat × Bytes)}
    (running : inbound.running = true)
    (quiet : ∀ arrival ∈ arrivals,
      Quiet prims inbound.sessions arrival.2 ∧ IsHandshake prims config arrival.2) :
    (deliver prims config flags coins inbound arrivals).1 = inbound := by
  induction arrivals with
  | nil => rfl
  | cons arrival arrivals ih =>
    obtain ⟨now, raw⟩ := arrival
    obtain ⟨⟨first, handshake⟩, others⟩ := List.forall_mem_cons.mp quiet
    have taken : (inbound.receive prims config flags now inbound.peer raw coins).1 = inbound := by
      rw [receive_quiet running first handshake, demultiplex, if_pos rekeying]
    rw [deliver, taken]
    exact ih others

theorem bounded_deliver (prims : Primitives) (config : InboundConfig) (bounded : inbound.Bounded)
    (flags : Flags) (coins : InboundCoins) (arrivals : List (Nat × Bytes)) :
    (deliver prims config flags coins inbound arrivals).1.Bounded := by
  induction arrivals generalizing inbound with
  | nil => exact bounded
  | cons arrival arrivals ih => exact ih (bounded_receive prims config bounded flags _ _ _ coins)

/-- **A whole message while a handshake is pending**: only the rekey driver spares the handshake. -/
theorem deliver_pending (aead : prims.AeadCorrect) (bounded : inbound.Bounded)
    {pending : Handshake × UInt32} (held : inbound.pendingRekey = some pending)
    {noise : Delivery prims config} (reaches : noise.Reaches inbound) (flags : Flags)
    (coins : InboundCoins) :
    (deliver prims config flags coins inbound noise.arrivals).1.pendingRekey =
      if flags.rekeying = true then some pending else none := by
  cases rekeying : flags.rekeying with
  | true =>
    rw [if_pos rfl, deliver_driver rekeying reaches.heard.running fun arrival present =>
      ⟨reaches.heard.quiet _ (noise.mem_sent present),
        isHandshake_built aead noise.long noise.built _ (noise.mem_sent present)⟩]
    exact held
  | false =>
    rw [if_neg Bool.false_ne_true]
    obtain ⟨reasm, delivered, -⟩ := deliver_message aead rekeying bounded reaches coins
    have stillHeld : (inbound.withSlot reasm).pendingRekey = some pending :=
      (withSlot_pendingRekey inbound reasm).trans held
    rw [delivered]
    obtain ⟨handshake, newId⟩ := pending
    rw [complete, stillHeld]
    exact (confirmRekey_reasms handshake noise.wire).2.2

/-- The events that complete no message on the confirm path. -/
def Spares (prims : Primitives) (config : InboundConfig) (inbound : Inbound) : InboundEvent → Prop
  | .datagram flags now src raw _ => ¬ inbound.Consumes prims config flags now src raw
  | .prune _ | .reserve _ | .install _ | .retire => True

theorem react_pending {pending : Handshake × UInt32} (held : inbound.pendingRekey = some pending)
    (event : InboundEvent) (spares : inbound.Spares prims config event) :
    (inbound.react prims config event).1.pendingRekey = some pending := by
  cases event with
  | datagram flags now src raw coins =>
    have kept := receive_pending prims config held flags now src raw coins
    rwa [if_neg spares] at kept
  | prune now => exact held
  | reserve n => exact held
  | install newSession => exact held
  | retire => exact held

/-- **The pending handshake in every run of such events.** -/
theorem run_pending {pending : Handshake × UInt32} {events : List InboundEvent} {last : Inbound}
    (run : Run (Guarded (Spares prims config) (Step prims config)) inbound events last)
    (held : inbound.pendingRekey = some pending) (bounded : inbound.Bounded) :
    last.pendingRekey = some pending ∧ last.Bounded := by
  refine run.invariant (fun state => state.pendingRekey = some pending ∧ state.Bounded)
    (fun before event after => ?_) ⟨held, bounded⟩
  rintro ⟨held, bounded⟩ ⟨spares, rfl⟩
  exact ⟨react_pending held event spares, bounded_react bounded event⟩

/-! ### A sample rekey -/

/-- Delivering datagrams is a run of the loop. -/
theorem deliver_run (prims : Primitives) (config : InboundConfig) (flags : Flags) (coins : InboundCoins)
    (inbound : Inbound) (arrivals : List (Nat × Bytes)) : ∃ events, Run (Step prims config) inbound events
      (deliver prims config flags coins inbound arrivals).1 := by
  induction arrivals generalizing inbound with
  | nil => exact ⟨[], .done _⟩
  | cons arrival arrivals ih =>
    obtain ⟨now, raw⟩ := arrival
    obtain ⟨events, run⟩ := ih (inbound.receive prims config flags now inbound.peer raw coins).1
    exact ⟨.datagram flags now inbound.peer raw coins :: events, .next rfl run⟩

/-- **An Init that the loop answers leaves its handshake pending.** -/
theorem deliver_init (aead : prims.AeadCorrect) (seals : prims.ChachaSeals) (flags : Flags)
    (idle : flags.rekeying = false) (sends : flags.sends = true) (bounded : inbound.Bounded)
    (vacant : inbound.pendingRekey = none)
    {init : Delivery prims config} (reaches : init.Reaches inbound) {handshake : Handshake}
    {respWire : Bytes} (responded : Handshake.respond prims init.wire config.auth config.preferred
      coins.respond = .ok (handshake, respWire)) : ∃ reasm : Reassembler,
      (deliver prims config flags coins inbound init.arrivals).1 =
        { inbound with rekeyReasm := reasm, pendingRekey := some (handshake, coins.newId) } ∧
      ∀ msgId, reasm.partials.lookup msgId = inbound.rekeyReasm.partials.lookup msgId := by
  obtain ⟨reasm, delivered, restored⟩ := deliver_message aead idle bounded reaches coins
  have slot : inbound.slot = inbound.rekeyReasm := by rw [Inbound.slot, vacant]
  rw [slot] at restored
  refine ⟨reasm, ?_, restored⟩
  have placed : inbound.withSlot reasm = { inbound with rekeyReasm := reasm } := by rw [withSlot, vacant]
  obtain ⟨view, -, -, encoded, rfl⟩ := Handshake.respond_eq_ok_iff.mp responded
  obtain ⟨datagrams, built⟩ := build_exists seals coins.newId config.hsObf coins.envelope
    (HandshakeMessage.length_of_encode encoded)
  rw [delivered, placed, complete, vacant]
  dsimp only
  rw [respondRekey, responded]
  dsimp only
  rw [built]
  dsimp only
  rw [if_pos sends]

/-- **A message that does not verify takes the pending handshake with it.** -/
theorem deliver_refused (aead : prims.AeadCorrect) (flags : Flags) (idle : flags.rekeying = false)
    (bounded : inbound.Bounded) {handshake : Handshake} {newId : UInt32}
    (held : inbound.pendingRekey = some (handshake, newId)) {noise : Delivery prims config}
    (reaches : noise.Reaches inbound)
    (refused : ∀ state, handshake.confirm prims noise.wire config.auth ≠ .ok state)
    (coins : InboundCoins) : ∃ reasm, (deliver prims config flags coins inbound noise.arrivals).1 =
      { inbound with confirmReasm := reasm, pendingRekey := none } := by
  obtain ⟨reasm, delivered, -⟩ := deliver_message aead idle bounded reaches coins
  have placed : inbound.withSlot reasm = { inbound with confirmReasm := reasm } := by rw [withSlot, held]
  refine ⟨reasm, ?_⟩
  rw [delivered, placed, complete, held]
  dsimp only
  rw [confirmRekey]
  rcases outcome : handshake.confirm prims noise.wire config.auth with e | state
  · rfl
  · exact absurd outcome (refused state)

/-- An Init does not verify as a Confirm. -/
theorem init_refused {auth : Authenticator} {preferred : AeadAlgo} {coins : RespondCoins}
    {wire respWire : Bytes} {handshake : Handshake}
    (responded : Handshake.respond prims wire auth preferred coins = .ok (handshake, respWire))
    (other state : Handshake) : other.confirm prims wire auth ≠ .ok state := by
  intro verified
  obtain ⟨view, decoded, responds, -⟩ := Handshake.respond_eq_ok_iff.mp responded
  obtain ⟨_, _, conf, -, received, kind, -⟩ := Handshake.confirm_eq_ok_iff.mp verified
  obtain rfl := Except.ok.inj (decoded.symm.trans received)
  cases responds.kind.symm.trans kind

/-- There is an id outside every list that is not too long. -/
theorem exists_unused (ids : List UInt32) (few : ids.length + 1 < 2 ^ 32) : ∃ sessionId, sessionId ∉ ids := by
  by_contra all
  push Not at all
  have distinct : ((List.range (ids.length + 1)).map UInt32.ofNat).Nodup := by
    refine List.Nodup.map_on (fun first below second below' same => ?_) List.nodup_range
    have small := List.mem_range.mp below
    have small' := List.mem_range.mp below'
    have numbers := congrArg UInt32.toNat same
    rwa [UInt32.toNat_ofNat_of_lt' (by simp only [UInt32.size]; omega),
      UInt32.toNat_ofNat_of_lt' (by simp only [UInt32.size]; omega)] at numbers
  have within := distinct.length_le_of_subset fun sessionId _ => all sessionId
  rw [List.length_map, List.length_range] at within
  omega

/-- Some session opens none of a list of datagrams: none can be read to name it. -/
theorem exists_quiet (prims : Primitives) (datagrams : List Bytes) (few : datagrams.length + 1 < 2 ^ 32) :
    ∃ sessions : SessionManager Session, ∀ raw ∈ datagrams, Quiet prims sessions raw := by
  let held : UInt32 → Session := fun sessionId =>
    .fromHandshakeWithAlgo prims sessionId (.zero 32) false .chaCha20Poly1305
  obtain ⟨sessionId, unused⟩ := exists_unused
    ((datagrams.filterMap (Obf.unmask prims (held 0).rxObfKey)).map Obf.Recovered.sessionId) (by
      rw [List.length_map]
      exact Nat.lt_of_le_of_lt (Nat.add_le_add_right (List.length_filterMap_le _ _) 1) few)
  refine ⟨.new (held sessionId) 0, fun raw present => ⟨_, SessionManager.RefusedByAll.decryptObf ⟨?_, ?_⟩⟩⟩
  · intro header unmasked named
    replace unmasked : Obf.unmask prims (held 0).rxObfKey raw = some header := unmasked
    refine absurd ?_ unused
    exact List.mem_map.mpr ⟨header, List.mem_filterMap.mpr ⟨raw, present, unmasked⟩, named⟩
  · intro previous none_held
    cases none_held

/-- A responder in the clear framing. -/
def sampleResponder : InboundConfig := sampleConfig none

theorem exists_exchange : ∃ handshake, ∃ exchange : RekeyExchange .transparent sampleResponder handshake,
    exchange.respondCoins = Handshake.sampleRespond := by
  obtain ⟨initWire, encoded⟩ := Handshake.encode_exists
    ((Handshake.length_initMessage_sig Handshake.sampleInitiator .aegis256X2 Handshake.sampleStart).le.trans
      (by decide : Handshake.sampleInitiator.signatureLen .transparent ≤ 6923))
    Handshake.sampleStart.padNoise
  obtain ⟨cookie, decoded⟩ := Handshake.decode_delivery encoded .asSent
  obtain ⟨view, respWire, confirmWire, -, -, -, responded, finalized, -⟩ := Handshake.honest_exchange
    Primitives.transparent_keyExchangeCorrect Primitives.transparent_signatureCorrect
    Handshake.sample_cross (by decide) .aegis256X2 Handshake.sampleConfirm Handshake.sample_contributory
    decoded
  exact ⟨_, ⟨Handshake.sampleInitiator, .aegis256X2, Handshake.sampleStart, Handshake.sampleRespond,
    Handshake.sampleConfirm, _, initWire, initWire, respWire, _, confirmWire, Handshake.sample_cross,
    Handshake.start_eq_ok_iff.mpr ⟨encoded, rfl⟩, .asSent, responded, finalized⟩, rfl⟩

theorem exists_delivery (wire : Bytes) (long : wire.length = handshakeMsgLen) :
    ∃ delivery : Delivery .transparent sampleResponder, delivery.wire = wire ∧ delivery.sent.length = 8 := by
  obtain ⟨sent, built⟩ := build_clear_exists .transparent 5 wire ⟨.zero 12, 0, fun _ => 0⟩
  refine ⟨⟨wire, 5, ⟨.zero 12, 0, fun _ => 0⟩, sent, List.range sent.length, id, long, built, .refl _⟩,
    rfl, ?_⟩
  have carries : Carries .transparent none sent wire 5 (chunks fragPayload wire) :=
    carries_clear (long.le.trans (by decide)) built
  exact carries.count.trans (clear_count long)

/-- Every message gets through to an empty reassembler. -/
theorem Delivery.Reaches.of_new {delivery : Delivery prims config} (running : inbound.running = true)
    (quiet : ∀ raw ∈ delivery.sent, Quiet prims inbound.sessions raw) (empty : inbound.slot = .new) :
    delivery.Reaches inbound := by
  refine ⟨⟨running, quiet⟩, ?_, ?_⟩
  · rw [empty]
    rfl
  · rw [empty]
    decide

/-- The sample loop after an Init that it answered. -/
theorem exists_pending : ∃ handshake, ∃ exchange : RekeyExchange .transparent sampleResponder handshake,
    ∃ (init confirm : Delivery .transparent sampleResponder) (sessions : SessionManager Session)
      (events : List InboundEvent), init.wire = exchange.delivered ∧ confirm.wire = exchange.confirmWire ∧
      (∀ raw ∈ init.sent ++ confirm.sent, Quiet .transparent sessions raw) ∧
      Run (Step .transparent sampleResponder) (begin sessions sampleElsewhere) events
        ⟨sessions, sampleElsewhere, .new, .new, some (handshake, 9), true⟩ := by
  obtain ⟨handshake, exchange, coins⟩ := exists_exchange
  obtain ⟨ours, verifies, -⟩ := exchange.confirms Primitives.transparent_keyExchangeCorrect
    Primitives.transparent_signatureCorrect
  obtain ⟨_, _, _, -, confirmDecoded, -⟩ := Handshake.confirm_eq_ok_iff.mp verifies
  obtain ⟨_, initDecoded, -⟩ := Handshake.respond_eq_ok_iff.mp exchange.responded
  obtain ⟨init, initWire, eight⟩ := exists_delivery _ (HandshakeMessage.length_of_decode initDecoded)
  obtain ⟨confirm, confirmWire, eight'⟩ :=
    exists_delivery _ (HandshakeMessage.length_of_decode confirmDecoded)
  obtain ⟨sessions, quiet⟩ := exists_quiet .transparent (init.sent ++ confirm.sent) (by
    rw [List.length_append, eight, eight']
    decide)
  have reaches : init.Reaches (begin sessions sampleElsewhere) :=
    .of_new rfl (fun raw present => quiet raw (List.mem_append_left _ present)) rfl
  have responded : Handshake.respond .transparent init.wire sampleResponder.auth sampleResponder.preferred
      sampleCoins.respond = .ok (handshake, exchange.respWire) := by
    have answered := exchange.responded
    rw [coins] at answered
    rw [initWire]
    exact answered
  obtain ⟨reasm, delivered, restored⟩ := deliver_init Primitives.transparent_aeadCorrect
    Primitives.transparent_chachaSeals sampleFlags rfl rfl
    ⟨Reassembler.bounded_new, Reassembler.bounded_new⟩ rfl reaches responded
  obtain rfl := Reassembler.eq_new restored
  obtain ⟨events, run⟩ := deliver_run .transparent sampleResponder sampleFlags sampleCoins
    (begin sessions sampleElsewhere) init.arrivals
  rw [delivered] at run
  exact ⟨handshake, exchange, init, confirm, sessions, events, initWire, confirmWire, quiet, run⟩

end Inbound

end ChameleonPQ
