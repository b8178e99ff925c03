/-
**Two handshake drivers over a network that delays but loses nothing.**

Datagrams arrive in the order they were sent, after any delay; both drivers' timers fire at or after
their deadlines, in any order with the deliveries.

* `Network.step` — a delivery, a timer, or time passing. `answers`, `confirmation`, `disturbed` and
  `arrived` record what the drivers did and what reached them.
* `deliver_toResponder`, `deliver_toInitiator` — a whole message, datagram by datagram.
* `Honest.opening` — two cross-configured drivers get as far as the Response.
-/

import ChameleonPQ.Library.Runs
import ChameleonPQ.Net.Drivers

namespace ChameleonPQ

open Library Library.Runs Handshake

/-- The two ends and their configurations. -/
structure Ends where
  initiator : DriverConfig
  responder : DriverConfig
  initiatorAddr : SocketAddr
  responderAddr : SocketAddr

/-- The message a datagram on its way to the responder belongs to. -/
inductive Purpose where
  | init
  | confirm
  deriving DecidableEq

/-- A datagram on its way to the responder. -/
structure Sent where
  raw : Bytes
  purpose : Purpose
  deriving DecidableEq

/-- A Response the responder sent: the Init it answers, and the half-open handshake it left. -/
structure Answer where
  initWire : Bytes
  coins : RespondCoins
  session : Session
  hash : Octets 32
  sentAt : Nat

/-- The Confirm the initiator sent: the Response it accepted, and how many there were by then. -/
structure Confirmation where
  respWire : Bytes
  answered : Nat

/-- Both drivers, the datagrams between them, and the record of the run. -/
structure Network where
  now : Nat
  initiator : Initiator
  responder : Responder
  toResponder : List Sent
  toInitiator : List Bytes
  /-- Oldest first. -/
  answers : List Answer
  /-- The answers that got an Init datagram while the responder waited for their Confirm. -/
  disturbed : List Nat
  confirmation : Option Confirmation
  /-- When the last datagram of the Confirm was delivered. -/
  arrived : Option Nat

inductive NetworkEvent where
  | tick (span : Nat)
  /-- The oldest datagram on its way to the responder arrives. -/
  | toResponder (coins : DriverCoins)
  /-- The oldest datagram on its way to the initiator arrives. -/
  | toInitiator (coins : DriverCoins)
  | initiatorTimeOut
  | responderTimeOut
  | prune

namespace Network

section Definitions

variable (prims : Primitives) (ends : Ends)

/-- Both drivers start, and the first Init is on its way. -/
def begin (now : Nat) (secret : Octets 32) (start : StartCoins) (envelope : HsObf.SealCoins) :
    Result Network :=
  match Initiator.begin prims ends.initiator now start envelope with
  | .error e => .error e
  | .ok (initiator, sent) => .ok
    { now, initiator, responder := .begin secret, toResponder := sent.map fun raw => ⟨raw, .init⟩
      toInitiator := [], answers := [], disturbed := [], confirmation := none, arrived := none }

/-- The record of an answer: an Init led to phase 2. -/
def recordAnswer (after : Responder) (initWire : Bytes) (coins : DriverCoins) (now : Nat) :
    List Answer :=
  match after.phase with
  | .confirming (.sentResponse session hash) _ _ _ =>
    [⟨initWire, coins.respond, session, hash, now⟩]
  | _ => []

/-- What a datagram adds to the answers. -/
def newAnswers (net : Network) (after : Responder) (raw : Bytes) (coins : DriverCoins) :
    List Answer :=
  match net.responder.phase with
  | .listening reasm => recordAnswer after
      ((completed prims reasm net.now raw ends.responder.hsObf).getD []) coins net.now
  | _ => []

/-- The record of a disturbance: phase 2 got an Init datagram. -/
def newDisturbed (net : Network) (purpose : Purpose) : List Nat :=
  match net.responder.phase, purpose with
  | .confirming _ _ _ _, .init => [net.answers.length - 1]
  | _, _ => []

/-- The responder gets its next datagram. -/
def responderTakes (net : Network) (datagram : Sent) (rest : List Sent) (coins : DriverCoins) :
    Network :=
  let received := net.responder.receive prims ends.responder net.now ends.initiatorAddr datagram.raw
    coins
  { net with
    responder := received.1
    toResponder := rest
    toInitiator := net.toInitiator ++ received.2.sentTo ends.initiatorAddr
    answers := net.answers ++ net.newAnswers prims ends received.1 datagram.raw coins
    disturbed := net.disturbed ++ net.newDisturbed datagram.purpose
    arrived := if datagram.purpose = .confirm ∧ rest = [] then some net.now else net.arrived }

/-- The initiator gets its next datagram; when it ends well, what it sends is the Confirm. -/
def initiatorTakes (net : Network) (raw : Bytes) (rest : List Bytes) (coins : DriverCoins) :
    Network :=
  let received := net.initiator.receive prims ends.initiator ends.responderAddr net.now
    ends.responderAddr raw coins
  match net.initiator.phase, received.1.phase with
  | .waiting _ reasm _, .finished (.ok _) => { net with
      initiator := received.1
      toInitiator := rest
      toResponder := net.toResponder ++ received.2.map fun raw => ⟨raw, .confirm⟩
      confirmation := some
        ⟨(completed prims reasm net.now raw ends.initiator.hsObf).getD [], net.answers.length⟩ }
  | _, _ => { net with
      initiator := received.1
      toInitiator := rest
      toResponder := net.toResponder ++ received.2.map fun raw => ⟨raw, .init⟩ }

/-- **One step of the network.** -/
def step (net : Network) : NetworkEvent → Option Network
  | .tick span => some { net with now := net.now + span }
  | .toResponder coins =>
    match net.toResponder with
    | [] => none
    | datagram :: rest => some (net.responderTakes prims ends datagram rest coins)
  | .toInitiator coins =>
    match net.toInitiator with
    | [] => none
    | raw :: rest => some (net.initiatorTakes prims ends raw rest coins)
  | .initiatorTimeOut =>
    let (initiator, sent) := net.initiator.timeOut net.now
    some { net with
      initiator, toResponder := net.toResponder ++ sent.map fun raw => ⟨raw, .init⟩ }
  | .responderTimeOut => some { net with responder := net.responder.timeOut net.now }
  | .prune => some { net with responder := net.responder.prune net.now }

end Definitions

end Network

/-! ### Delivering a whole message -/

/-- The reassembler a datagram from this address goes to. -/
def ResponderPhase.hears (src : SocketAddr) : ResponderPhase → Option Reassembler
  | .listening reasm => some reasm
  | .confirming _ peer reasm _ => if src = peer then some reasm else none
  | .finished _ => none

/-- The phase with another reassembler. -/
def ResponderPhase.refill (reasm : Reassembler) : ResponderPhase → ResponderPhase
  | .listening _ => .listening reasm
  | .confirming handshake peer _ deadline => .confirming handshake peer reasm deadline
  | .finished result => .finished result

theorem ResponderPhase.hears_refill {src : SocketAddr} {phase : ResponderPhase} {reasm : Reassembler}
    (hears : phase.hears src = some reasm) (after : Reassembler) :
    (phase.refill after).hears src = some after := by
  cases phase with
  | listening _ => rfl
  | confirming handshake peer _ deadline =>
    rw [ResponderPhase.hears] at hears
    split at hears
    · rename_i here
      exact if_pos here
    · cases hears
  | finished _ => cases hears

@[simp] theorem ResponderPhase.refill_refill (phase : ResponderPhase) (first second : Reassembler) :
    (phase.refill first).refill second = phase.refill second := by
  cases phase <;> rfl

theorem ResponderPhase.refill_hears {src : SocketAddr} {phase : ResponderPhase} {reasm : Reassembler}
    (hears : phase.hears src = some reasm) : phase.refill reasm = phase := by
  cases phase with
  | listening _ =>
    obtain rfl := Option.some.inj hears
    rfl
  | confirming handshake peer _ deadline =>
    rw [ResponderPhase.hears] at hears
    split at hears
    · obtain rfl := Option.some.inj hears
      rfl
    · cases hears
  | finished _ => cases hears

/-- A datagram that completes nothing. -/
theorem Responder.receive_incomplete {prims : Primitives} {config : DriverConfig} {src : SocketAddr}
    {driver : Responder} {now : Nat} {raw : Bytes} {reasm after : Reassembler}
    (hears : driver.phase.hears src = some reasm)
    (pushed : pushHandshake prims reasm now raw config.hsObf = (.ok none, after))
    (coins : DriverCoins) : driver.receive prims config now src raw coins =
      ({ driver with phase := driver.phase.refill after }, .quiet) := by
  unfold receive
  cases phase : driver.phase with
  | listening _ =>
    rw [phase] at hears
    obtain rfl := Option.some.inj hears
    dsimp only
    rw [pushed]
    rfl
  | confirming handshake peer _ deadline =>
    rw [phase, ResponderPhase.hears] at hears
    split at hears
    · rename_i here
      obtain rfl := Option.some.inj hears
      dsimp only
      rw [if_neg (not_not.mpr here), pushed]
      rfl
    · cases hears
  | finished _ =>
    rw [phase] at hears
    cases hears

namespace Network

variable {prims : Primitives} {ends : Ends} {net middle after : Network} {coins : DriverCoins}

/-- Some run leads there. -/
def Leads (prims : Primitives) (ends : Ends) (net after : Network) : Prop :=
  ∃ events, Run (Taken (step prims ends)) net events after

theorem Leads.refl (net : Network) : Leads prims ends net net := ⟨[], .done net⟩

theorem Leads.trans (front : Leads prims ends net middle) (back : Leads prims ends middle after) :
    Leads prims ends net after := by
  obtain ⟨events, run⟩ := front
  obtain ⟨more, run'⟩ := back
  exact ⟨events ++ more, run.append run'⟩

theorem Leads.one (event : NetworkEvent) (taken : step prims ends net event = some after) :
    Leads prims ends net after :=
  ⟨[event], .next taken (.done after)⟩

theorem Leads.toResponder {datagram : Sent} {rest : List Sent}
    (queue : net.toResponder = datagram :: rest) (coins : DriverCoins) :
    Leads prims ends net (net.responderTakes prims ends datagram rest coins) := by
  refine .one (.toResponder coins) ?_
  rw [step, queue]

theorem Leads.toInitiator {raw : Bytes} {rest : List Bytes} (queue : net.toInitiator = raw :: rest)
    (coins : DriverCoins) :
    Leads prims ends net (net.initiatorTakes prims ends raw rest coins) := by
  refine .one (.toInitiator coins) ?_
  rw [step, queue]

/-- The datagrams still on the way, for their purpose. -/
def tagged (purpose : Purpose) (datagrams : List Bytes) : List Sent :=
  datagrams.map fun raw => ⟨raw, purpose⟩

/-- The responder took some datagrams in that completed nothing. -/
structure Gathered (purpose : Purpose) (net after : Network) (reasm : Reassembler) : Prop where
  responder : after.responder = { net.responder with phase := net.responder.phase.refill reasm }
  now : after.now = net.now
  initiator : after.initiator = net.initiator
  toInitiator : after.toInitiator = net.toInitiator
  answers : after.answers = net.answers
  confirmation : after.confirmation = net.confirmation
  arrived : after.arrived = net.arrived
  disturbed : (∀ reasm, net.responder.phase ≠ .listening reasm) ∧ purpose = .init ∨
    after.disturbed = net.disturbed

section Messages

variable {datagrams : List Bytes} {wire : Bytes} {purpose : Purpose} {reasm : Reassembler}

/-- One datagram that completes nothing is gathered. -/
theorem gathered_one {raw : Bytes} {rest : List Sent} {left : Reassembler} (coins : DriverCoins)
    (hears : net.responder.phase.hears ends.initiatorAddr = some reasm)
    (pushed : pushHandshake prims reasm net.now raw ends.responder.hsObf = (.ok none, left))
    (more : rest ≠ []) :
    Gathered purpose net (net.responderTakes prims ends ⟨raw, purpose⟩ rest coins) left := by
  have received := Responder.receive_incomplete hears pushed coins
  have nothing : net.newAnswers prims ends (net.responder.receive prims ends.responder net.now
      ends.initiatorAddr raw coins).1 raw coins = [] := by
    rw [received]
    cases phase : net.responder.phase with
    | listening _ =>
      simp only [newAnswers, phase, recordAnswer, ResponderPhase.refill]
    | confirming _ _ _ _ | finished _ => simp only [newAnswers, phase]
  refine ⟨congrArg Prod.fst received, rfl, rfl, ?_, ?_, rfl, ?_, ?_⟩
  · show net.toInitiator ++ _ = _
    rw [received, ResponderOutput.sentTo_nil, List.append_nil]
  · show net.answers ++ _ = _
    rw [nothing, List.append_nil]
  · exact if_neg fun last => more last.2
  · show _ ∨ net.disturbed ++ net.newDisturbed purpose = _
    cases phase : net.responder.phase with
    | listening _ => exact .inr (by simp only [newDisturbed, phase, List.append_nil])
    | confirming _ _ _ _ =>
      cases purpose with
      | init => exact .inl ⟨nofun, rfl⟩
      | confirm => exact .inr (by simp only [newDisturbed, phase, List.append_nil])
    | finished _ => exact .inr (by simp only [newDisturbed, phase, List.append_nil])

theorem Gathered.trans {first second : Reassembler} (front : Gathered purpose net middle first)
    (back : Gathered purpose middle after second) : Gathered purpose net after second where
  responder := by rw [back.responder, front.responder, ResponderPhase.refill_refill]
  now := back.now.trans front.now
  initiator := back.initiator.trans front.initiator
  toInitiator := back.toInitiator.trans front.toInitiator
  answers := back.answers.trans front.answers
  confirmation := back.confirmation.trans front.confirmation
  arrived := back.arrived.trans front.arrived
  disturbed := by
    rcases front.disturbed with calm | same
    · exact .inl calm
    · rcases back.disturbed with ⟨notListening, init⟩ | same'
      · refine .inl ⟨fun reasm listening => notListening first ?_, init⟩
        rw [front.responder]
        dsimp only
        rw [listening]
        rfl
      · exact .inr (same'.trans same)

/-- **A whole message reaches the responder.** -/
theorem deliver_toResponder (coins : DriverCoins) {rest : List Sent} (nonempty : 0 < datagrams.length)
    (receiving : Receiving prims ends.responder.hsObf datagrams wire 0 .new)
    (hears : net.responder.phase.hears ends.initiatorAddr = some .new)
    (queue : net.toResponder = tagged purpose datagrams ++ rest) :
    ∃ before left raw, Gathered purpose net before left ∧
      pushHandshake prims left net.now raw ends.responder.hsObf = (.ok (some wire), .new) ∧
        Leads prims ends net (before.responderTakes prims ends ⟨raw, purpose⟩ rest coins) := by
  let reaches (count : Nat) (reasm : Reassembler) : Prop :=
    ∃ before, Leads prims ends net before ∧ Gathered purpose net before reasm ∧
      before.toResponder = tagged purpose (datagrams.drop count) ++ rest
  have start : reaches 0 .new :=
    ⟨net, .refl net, ⟨by rw [ResponderPhase.refill_hears hears], rfl, rfl, rfl, rfl, rfl, rfl, .inr rfl⟩,
      queue⟩
  have advance : ∀ count reasm raw left, count + 1 < datagrams.length → datagrams[count]? = some raw →
      reaches count reasm →
      pushHandshake prims reasm net.now raw ends.responder.hsObf = (.ok none, left) →
      reaches (count + 1) left := by
    rintro count reasm raw left inside next ⟨before, leads, gathered, queue'⟩ pushed
    obtain ⟨within, rfl⟩ := List.getElem?_eq_some_iff.mp next
    rw [List.drop_eq_getElem_cons within] at queue'
    have more : tagged purpose (datagrams.drop (count + 1)) ++ rest ≠ [] := by
      intro empty
      have short := congrArg List.length (List.append_eq_nil_iff.mp empty).1
      rw [tagged, List.length_map, List.length_drop, List.length_nil] at short
      omega
    have hears' : before.responder.phase.hears ends.initiatorAddr = some reasm := by
      rw [gathered.responder]
      exact ResponderPhase.hears_refill hears reasm
    rw [← gathered.now] at pushed
    have one : Gathered purpose before _ left := gathered_one coins hears' pushed more
    exact ⟨_, leads.trans (Leads.toResponder queue' coins), gathered.trans one, rfl⟩
  obtain ⟨count, left, raw, last, next, ⟨before, leads, gathered, queue'⟩, pushed⟩ :=
    receiving.upToLast net.now nonempty start advance
  obtain ⟨within, rfl⟩ := List.getElem?_eq_some_iff.mp next
  rw [List.drop_eq_getElem_cons within, List.drop_eq_nil_of_le last.ge] at queue'
  exact ⟨before, left, _, gathered, pushed, leads.trans (Leads.toResponder queue' coins)⟩

/-- The network with the initiator in the middle of a message. -/
def hearing (net : Network) (attempt deadline : Nat) (reasm : Reassembler) (queue : List Bytes) :
    Network :=
  { net with
    initiator := { net.initiator with phase := .waiting attempt reasm deadline }
    toInitiator := queue }

/-- One datagram that completes nothing. -/
theorem hearing_one (coins : DriverCoins) {attempt deadline : Nat} {raw : Bytes} {rest : List Bytes}
    {left : Reassembler}
    (pushed : pushHandshake prims reasm net.now raw ends.initiator.hsObf = (.ok none, left)) :
    Leads prims ends (net.hearing attempt deadline reasm (raw :: rest))
      (net.hearing attempt deadline left rest) := by
  refine .one (.toInitiator coins) ?_
  simp only [step, initiatorTakes, hearing, Initiator.receive, ne_eq, not_true_eq_false, if_false,
    pushed, List.map_nil, List.append_nil]

/-- **A whole message reaches the initiator.** -/
theorem deliver_toInitiator (net : Network) (coins : DriverCoins) (rest : List Bytes)
    (attempt deadline : Nat) (nonempty : 0 < datagrams.length)
    (receiving : Receiving prims ends.initiator.hsObf datagrams wire 0 .new) :
    ∃ left raw, pushHandshake prims left net.now raw ends.initiator.hsObf = (.ok (some wire), .new) ∧
      Leads prims ends (net.hearing attempt deadline .new (datagrams ++ rest))
        ((net.hearing attempt deadline left (raw :: rest)).initiatorTakes prims ends raw rest coins) := by
  let whole := net.hearing attempt deadline .new (datagrams ++ rest)
  let reaches (count : Nat) (reasm : Reassembler) : Prop :=
    Leads prims ends whole (net.hearing attempt deadline reasm (datagrams.drop count ++ rest))
  have advance : ∀ count reasm raw left, count + 1 < datagrams.length → datagrams[count]? = some raw →
      reaches count reasm →
      pushHandshake prims reasm net.now raw ends.initiator.hsObf = (.ok none, left) →
      reaches (count + 1) left := by
    intro count reasm raw left inside next reached pushed
    obtain ⟨within, rfl⟩ := List.getElem?_eq_some_iff.mp next
    have leads : reaches count reasm := reached
    simp only [reaches, List.drop_eq_getElem_cons within, List.cons_append] at leads
    exact leads.trans (hearing_one coins pushed)
  obtain ⟨count, left, raw, last, next, leads, pushed⟩ :=
    receiving.upToLast net.now nonempty (show reaches 0 .new from .refl whole) advance
  obtain ⟨within, rfl⟩ := List.getElem?_eq_some_iff.mp next
  simp only [reaches, List.drop_eq_getElem_cons within, List.drop_eq_nil_of_le last.ge] at leads
  exact ⟨left, _, pushed, leads.trans (.toInitiator rfl coins)⟩

/-- **A whole message in phase 1.** -/
theorem listening_takes (net : Network) (purpose : Purpose) (coins : DriverCoins) (rest : List Sent)
    (listening : net.responder.phase = .listening .new) (nonempty : 0 < datagrams.length)
    (receiving : Receiving prims ends.responder.hsObf datagrams wire 0 .new)
    (queue : net.toResponder = tagged purpose datagrams ++ rest) :
    let handled := net.responder.handleInit prims ends.responder net.now ends.initiatorAddr wire coins
    Leads prims ends net { net with
      responder := handled.1
      toResponder := rest
      toInitiator := net.toInitiator ++ handled.2.sentTo ends.initiatorAddr
      answers := net.answers ++ recordAnswer handled.1 wire coins net.now
      arrived := if purpose = .confirm ∧ rest = [] then some net.now else net.arrived } := by
  intro handled
  have hears : net.responder.phase.hears ends.initiatorAddr = some .new := by
    rw [listening]
    rfl
  obtain ⟨before, left, raw, gathered, pushed, leads⟩ :=
    deliver_toResponder coins nonempty receiving hears queue
  have phase : before.responder.phase = .listening left := by
    rw [gathered.responder]
    dsimp only
    rw [listening]
    rfl
  have received : before.responder.receive prims ends.responder net.now ends.initiatorAddr raw
      coins = handled := by
    rw [Responder.receive, phase]
    dsimp only
    rw [pushed, gathered.responder]
    exact Responder.handleInit_phase _ _
  have calm : before.disturbed = net.disturbed := by
    rcases gathered.disturbed with ⟨notListening, -⟩ | same
    · exact absurd listening (notListening _)
    · exact same
  have complete : completed prims left net.now raw ends.responder.hsObf = some wire := by
    rw [completed, pushed]
  have shape : before.responderTakes prims ends ⟨raw, purpose⟩ rest coins = { net with
      responder := handled.1
      toResponder := rest
      toInitiator := net.toInitiator ++ handled.2.sentTo ends.initiatorAddr
      answers := net.answers ++ recordAnswer handled.1 wire coins net.now
      arrived := if purpose = .confirm ∧ rest = [] then some net.now else net.arrived } := by
    simp only [responderTakes, gathered.now, received, newAnswers, newDisturbed, phase, complete,
      Option.getD_some, calm, gathered.initiator, gathered.toInitiator, gathered.answers,
      gathered.confirmation, gathered.arrived, List.append_nil]
  rw [← shape]
  exact leads

/-- **A whole message in phase 2.** -/
theorem confirming_takes (net : Network) (purpose : Purpose) (coins : DriverCoins)
    (rest : List Sent) {handshake : Handshake} {deadline : Nat}
    (confirming : net.responder.phase = .confirming handshake ends.initiatorAddr .new deadline)
    (nonempty : 0 < datagrams.length)
    (receiving : Receiving prims ends.responder.hsObf datagrams wire 0 .new)
    (queue : net.toResponder = tagged purpose datagrams ++ rest) :
    ∃ disturbed, (purpose = .confirm → disturbed = net.disturbed) ∧ Leads prims ends net { net with
      responder := net.responder.handleConfirm prims ends.responder handshake ends.initiatorAddr wire
      toResponder := rest
      disturbed
      arrived := if purpose = .confirm ∧ rest = [] then some net.now else net.arrived } := by
  have hears : net.responder.phase.hears ends.initiatorAddr = some .new := by
    rw [confirming]
    exact if_pos rfl
  obtain ⟨before, left, raw, gathered, pushed, leads⟩ :=
    deliver_toResponder coins nonempty receiving hears queue
  have phase : before.responder.phase = .confirming handshake ends.initiatorAddr left deadline := by
    rw [gathered.responder]
    dsimp only
    rw [confirming]
    rfl
  have received : before.responder.receive prims ends.responder net.now ends.initiatorAddr raw
      coins = (net.responder.handleConfirm prims ends.responder handshake ends.initiatorAddr wire,
        .quiet) := by
    rw [Responder.receive, phase]
    dsimp only
    rw [if_neg (not_not.mpr rfl), pushed, gathered.responder]
    rfl
  refine ⟨before.disturbed ++ before.newDisturbed purpose, fun confirm => ?_, ?_⟩
  · rcases gathered.disturbed with ⟨-, init⟩ | same
    · rw [confirm] at init
      cases init
    · rw [confirm, newDisturbed, List.append_nil, same]
      intro _ _ _ _ _ impossible
      cases impossible
  · have shape : before.responderTakes prims ends ⟨raw, purpose⟩ rest coins = { net with
        responder := net.responder.handleConfirm prims ends.responder handshake ends.initiatorAddr wire
        toResponder := rest
        disturbed := before.disturbed ++ before.newDisturbed purpose
        arrived := if purpose = .confirm ∧ rest = [] then some net.now else net.arrived } := by
      simp only [responderTakes, gathered.now, received, newAnswers, phase, gathered.initiator,
        gathered.toInitiator, gathered.answers, gathered.confirmation, gathered.arrived,
        ResponderOutput.sentTo_nil, List.append_nil]
    rw [← shape]
    exact leads

/-- **A whole message at the initiator**: one that does not end it well, and the Response. -/
theorem waiting_takes (net : Network) (coins : DriverCoins) (rest : List Bytes) {attempt deadline : Nat}
    (waiting : net.initiator.phase = .waiting attempt .new deadline) (nonempty : 0 < datagrams.length)
    (receiving : Receiving prims ends.initiator.hsObf datagrams wire 0 .new)
    (queue : net.toInitiator = datagrams ++ rest) :
    let handled := net.initiator.handle prims ends.initiator net.now attempt wire coins
    ((∀ session, handled.1.phase ≠ .finished (.ok session)) → Leads prims ends net { net with
      initiator := handled.1
      toInitiator := rest
      toResponder := net.toResponder ++ tagged .init handled.2 }) ∧
    ∀ session, handled.1.phase = .finished (.ok session) → Leads prims ends net { net with
      initiator := handled.1
      toInitiator := rest
      toResponder := net.toResponder ++ tagged .confirm handled.2
      confirmation := some ⟨wire, net.answers.length⟩ } := by
  intro handled
  obtain ⟨left, raw, pushed, leads⟩ :=
    deliver_toInitiator net coins rest attempt deadline nonempty receiving
  have start : net.hearing attempt deadline .new (datagrams ++ rest) = net := by
    rw [hearing, ← queue, ← waiting]
  rw [start] at leads
  have received : (net.hearing attempt deadline left (raw :: rest)).initiator.receive prims
      ends.initiator ends.responderAddr (net.hearing attempt deadline left (raw :: rest)).now
        ends.responderAddr raw coins = handled := by
    simp only [hearing, Initiator.receive, ne_eq, not_true_eq_false, if_false, pushed]
    exact Initiator.handle_phase _ _ _
  have complete : completed prims left net.now raw ends.initiator.hsObf = some wire := by
    rw [completed, pushed]
  constructor
  · intro failing
    have taken : (net.hearing attempt deadline left (raw :: rest)).initiatorTakes prims ends raw rest
        coins = { net with
          initiator := handled.1
          toInitiator := rest
          toResponder := net.toResponder ++ tagged .init handled.2 } := by
      simp only [initiatorTakes, received]
      cases phase : handled.1.phase with
      | waiting _ _ _ => rfl
      | finished result =>
        cases result with
        | error _ => rfl
        | ok session => exact absurd phase (failing session)
    rwa [taken] at leads
  · intro session finished
    have taken : (net.hearing attempt deadline left (raw :: rest)).initiatorTakes prims ends raw rest
        coins = { net with
          initiator := handled.1
          toInitiator := rest
          toResponder := net.toResponder ++ tagged .confirm handled.2
          confirmation := some ⟨wire, net.answers.length⟩ } := by
      simp only [initiatorTakes, received, finished]
      simp only [hearing, complete, Option.getD_some]
      rfl
    rwa [taken] at leads

end Messages

end Network

/-! ### Two honest drivers -/

/-- **Two drivers that can complete a handshake**: configured for each other, with random values that
make a contributory exchange. -/
structure Honest (prims : Primitives) (ends : Ends) (start : StartCoins) (coins : DriverCoins) : Prop
    where
  aead : prims.AeadCorrect
  keys : prims.KeyExchangeCorrect
  signatures : prims.SignatureCorrect
  cross : Authenticator.Cross prims ends.initiator.auth ends.responder.auth
  sameKey : ends.responder.hsObf = ends.initiator.hsObf
  fits : ends.initiator.auth.signatureLen prims ≤ 6923
  contributory : nonContributory
    (prims.diffieHellman coins.respond.ephX (prims.x25519Public start.ephX)) = false
  builds : ∀ sessionId wire envelope, ∃ datagrams,
    buildHandshakeDatagrams prims sessionId wire ends.initiator.hsObf envelope = .ok datagrams

/-- The Init of the initiator. -/
def Ends.ownInit (ends : Ends) (prims : Primitives) (start : StartCoins) : HandshakeMessage :=
  initMessage prims ends.initiator.auth ends.initiator.preferred start

/-- The handshake state after it. -/
def Ends.sentInit (ends : Ends) (prims : Primitives) (start : StartCoins) : Handshake :=
  .sentInit start.ephX start.mlkemSk
    (initTranscript prims ends.initiator.auth (ends.ownInit prims start))

/-- The messages of an honest exchange, and their datagrams. -/
structure Messages where
  view : View
  initWire : Bytes
  delivered : Bytes
  respWire : Bytes
  confirmWire : Bytes
  initDatagrams : List Bytes
  respDatagrams : List Bytes
  confirmDatagrams : List Bytes

/-- The datagrams of a message, ready to be received. -/
def Travels (prims : Primitives) (ends : Ends) (datagrams : List Bytes) (wire : Bytes) : Prop :=
  0 < datagrams.length ∧ Receiving prims ends.initiator.hsObf datagrams wire 0 .new

/-- **What an honest exchange consists of**, once the initiator echoes a cookie. -/
structure Messages.Genuine (prims : Primitives) (ends : Ends) (start : StartCoins)
    (coins : DriverCoins) (messages : Messages) : Prop where
  init : ∃ cookie, messages.view.init = { ends.ownInit prims start with cookie }
  delivered : HandshakeMessage.decode messages.delivered = .ok messages.view.init
  responds : Responds prims ends.responder.auth ends.responder.preferred coins.respond messages.view
  answered : HandshakeMessage.decode messages.respWire = .ok messages.view.resp
  finalized : finalize prims (ends.sentInit prims start) messages.respWire ends.initiator.auth
    coins.confirm = .ok (.established ((mirrorView (ends.ownInit prims start)
      messages.view).session prims true), messages.confirmWire)
  confirms : HandshakeMessage.decode messages.confirmWire =
    .ok ((mirrorView (ends.ownInit prims start) messages.view).confirmMessage prims
      ends.initiator.auth coins.confirm)
  confirmed : confirm prims (.sentResponse (messages.view.session prims false)
      (messages.view.hash prims ends.responder.auth)) messages.confirmWire ends.responder.auth =
    .ok (.established (messages.view.session prims false))
  initTravels : Travels prims ends messages.initDatagrams messages.delivered
  respTravels : Travels prims ends messages.respDatagrams messages.respWire
  confirmBuilt : buildHandshakeDatagrams prims ends.initiator.sessionId messages.confirmWire
    ends.initiator.hsObf coins.envelope = .ok messages.confirmDatagrams
  confirmTravels : Travels prims ends messages.confirmDatagrams messages.confirmWire

/-- The network once the Response is on its way. -/
def Messages.opened (prims : Primitives) (ends : Ends) (start : StartCoins) (coins : DriverCoins)
    (secret : Octets 32) (now : Nat) (messages : Messages) : Network where
  now
  initiator := ⟨ends.sentInit prims start, messages.initWire, messages.initDatagrams,
    .waiting 2 .new (now + hsAttemptTimeout)⟩
  responder := ⟨secret, .confirming (.sentResponse (messages.view.session prims false)
    (messages.view.hash prims ends.responder.auth)) ends.initiatorAddr .new (now + hsConfirmTimeout)⟩
  toResponder := []
  toInitiator := messages.respDatagrams
  answers := [⟨messages.delivered, coins.respond, messages.view.session prims false,
    messages.view.hash prims ends.responder.auth, now⟩]
  disturbed := []
  confirmation := none
  arrived := none

theorem CookieState.valid_issue (prims : Primitives) (secret : Octets 32) (now : Nat)
    (src : SocketAddr) :
    CookieState.valid prims secret now src (CookieState.issue prims secret now src) = true := by
  unfold CookieState.valid CookieState.issue
  rw [decide_eq_true rfl, Bool.true_or]

namespace Honest

variable {prims : Primitives} {ends : Ends} {start : StartCoins} {coins : DriverCoins}

/-- A message of an honest driver travels. -/
theorem travels (honest : Honest prims ends start coins) {sessionId : UInt32} {wire : Bytes}
    {message : HandshakeMessage} {datagrams : List Bytes}
    (decoded : HandshakeMessage.decode wire = .ok message)
    (built : buildHandshakeDatagrams prims sessionId wire ends.initiator.hsObf coins.envelope =
      .ok datagrams) : Travels prims ends datagrams wire :=
  receiving_of_built honest.aead decoded built

/-- **The first Init meets a challenge.** -/
theorem challenged (honest : Honest prims ends start coins) {secret : Octets 32} {now : Nat}
    (stale : CookieState.valid prims secret now ends.initiatorAddr (.zero 16) = false) :
    ∃ first initWire initDatagrams challenge challengeDatagrams,
      Network.begin prims ends now secret start coins.envelope = .ok first ∧
      (ends.ownInit prims start).encode start.padNoise = .ok initWire ∧
      challengeWire (CookieState.issue prims secret now ends.initiatorAddr) coins.challenge =
        .ok challenge ∧
      Travels prims ends challengeDatagrams challenge ∧
      Network.Leads prims ends first
        { now
          initiator := ⟨ends.sentInit prims start, initWire, initDatagrams,
            .waiting 1 .new (now + hsAttemptTimeout)⟩
          responder := .begin secret
          toResponder := [], toInitiator := challengeDatagrams, answers := [], disturbed := []
          confirmation := none, arrived := none } := by
  obtain ⟨initWire, encoded⟩ := encode_exists ((length_initMessage_sig ends.initiator.auth
    ends.initiator.preferred start).le.trans honest.fits) start.padNoise
  have started : Handshake.start prims ends.initiator.auth ends.initiator.preferred start =
      .ok (ends.sentInit prims start, initWire) := start_eq_ok_iff.mpr ⟨encoded, rfl⟩
  have decoded := HandshakeMessage.decode_encode rfl encoded
  obtain ⟨initDatagrams, built⟩ := honest.builds ends.initiator.sessionId initWire coins.envelope
  obtain ⟨nonempty, receiving⟩ := honest.travels decoded built
  obtain ⟨challenge, -, sent, -⟩ := echoCookie_exists honest.fits encoded
    (CookieState.issue prims secret now ends.initiatorAddr) coins.challenge coins.padNoise
  have received := HandshakeMessage.decode_encode rfl sent
  obtain ⟨challengeDatagrams, challengeBuilt⟩ :=
    honest.builds ends.responder.sessionId challenge coins.envelope
  let first : Network :=
    { now
      initiator := ⟨ends.sentInit prims start, initWire, initDatagrams,
        .waiting 1 .new (now + hsAttemptTimeout)⟩
      responder := .begin secret
      toResponder := Network.tagged .init initDatagrams, toInitiator := [], answers := []
      disturbed := [], confirmation := none, arrived := none }
  have begun : Network.begin prims ends now secret start coins.envelope = .ok first := by
    rw [Network.begin, Initiator.begin_eq_ok started built]
    rfl
  have handled : first.responder.handleInit prims ends.responder now ends.initiatorAddr initWire coins =
      (.begin secret, ⟨[], directTo ends.initiatorAddr challengeDatagrams⟩) := by
    have answer : first.responder.challenge prims ends.responder now ends.initiatorAddr coins =
        directTo ends.initiatorAddr challengeDatagrams := by
      unfold Responder.challenge
      dsimp only [first, Responder.begin]
      rewrite [sent]
      dsimp only
      rw [honest.sameKey, challengeBuilt]
    rw [Responder.handleInit_challenge decoded rfl stale, answer]
    rfl
  have leads := Network.listening_takes first .init coins [] rfl nonempty
    (honest.sameKey.symm ▸ receiving) (List.append_nil _).symm
  refine ⟨first, initWire, initDatagrams, challenge, challengeDatagrams, begun, encoded, sent,
    honest.travels received challengeBuilt, ?_⟩
  dsimp only at leads
  rw [handled, ResponderOutput.sentTo_directTo] at leads
  exact leads

/-- **The echoed Init is answered.** -/
theorem opening (honest : Honest prims ends start coins) {secret : Octets 32} {now : Nat}
    (stale : CookieState.valid prims secret now ends.initiatorAddr (.zero 16) = false) :
    ∃ (first : Network) (messages : Messages), Network.begin prims ends now secret start coins.envelope = .ok first ∧
      messages.Genuine prims ends start coins ∧
      Network.Leads prims ends first (messages.opened prims ends start coins secret now) := by
  obtain ⟨first, initWire, oldDatagrams, challenge, challengeDatagrams, begun, encoded, sent,
    ⟨nonempty, receiving⟩, leads⟩ := honest.challenged stale
  have received := HandshakeMessage.decode_encode rfl sent
  obtain ⟨challenge', delivered, sent', echoed⟩ := echoCookie_exists honest.fits encoded
    (CookieState.issue prims secret now ends.initiatorAddr) coins.challenge coins.padNoise
  obtain rfl : challenge' = challenge := Except.ok.inj (sent'.symm.trans sent)
  have original := HandshakeMessage.decode_encode rfl encoded
  have decoded : HandshakeMessage.decode delivered = .ok { ends.ownInit prims start with
      cookie := CookieState.issue prims secret now ends.initiatorAddr } := by
    have again := echoed
    rw [echoCookie, received] at again
    dsimp only at again
    rw [original] at again
    exact HandshakeMessage.decode_encode rfl again
  obtain ⟨initDatagrams, initBuilt⟩ := honest.builds ends.initiator.sessionId delivered coins.envelope
  have initTravels := honest.travels decoded initBuilt
  obtain ⟨view, respWire, confirmWire, viewInit, responds, answered, responded, finalized, confirms,
    confirmed⟩ := honest_exchange honest.keys honest.signatures honest.cross honest.fits
      ends.responder.preferred coins.confirm honest.contributory decoded
  obtain ⟨respDatagrams, respBuilt⟩ := honest.builds ends.responder.sessionId respWire coins.envelope
  obtain ⟨confirmDatagrams, confirmBuilt⟩ :=
    honest.builds ends.initiator.sessionId confirmWire coins.envelope
  let messages : Messages := ⟨view, initWire, delivered, respWire, confirmWire, initDatagrams,
    respDatagrams, confirmDatagrams⟩
  refine ⟨first, messages, begun, ⟨⟨_, viewInit⟩, viewInit ▸ decoded, responds, answered, finalized,
    confirms, confirmed, initTravels, honest.travels answered respBuilt, confirmBuilt,
    honest.travels confirms confirmBuilt⟩, leads.trans ?_⟩
  -- the challenge reaches the initiator, which echoes the cookie
  let waiting : Network :=
    { now
      initiator := ⟨ends.sentInit prims start, initWire, oldDatagrams,
        .waiting 1 .new (now + hsAttemptTimeout)⟩
      responder := .begin secret
      toResponder := [], toInitiator := challengeDatagrams, answers := [], disturbed := []
      confirmation := none, arrived := none }
  have handled : waiting.initiator.handle prims ends.initiator now 1 challenge' coins =
      ({ waiting.initiator with
        datagrams := initDatagrams
        phase := .waiting 2 .new (now + hsAttemptTimeout) }, initDatagrams) := by
    rw [Initiator.handle_challenge received rfl echoed initBuilt]
    exact if_pos (by decide)
  have echo := (Network.waiting_takes waiting coins [] rfl nonempty receiving
    (List.append_nil _).symm).1
  rw [handled] at echo
  have goesOn : ∀ session, InitiatorPhase.waiting 2 .new (now + hsAttemptTimeout) ≠
      .finished (.ok session) := by
    intro session impossible
    cases impossible
  refine (echo goesOn).trans ?_
  -- the echoed Init reaches the responder
  let echoing : Network := { waiting with
    initiator := { waiting.initiator with
      datagrams := initDatagrams
      phase := .waiting 2 .new (now + hsAttemptTimeout) }
    toInitiator := []
    toResponder := waiting.toResponder ++ Network.tagged .init initDatagrams }
  have handled' : echoing.responder.handleInit prims ends.responder now ends.initiatorAddr delivered
      coins = (⟨secret, .confirming (.sentResponse (view.session prims false)
        (view.hash prims ends.responder.auth)) ends.initiatorAddr .new (now + hsConfirmTimeout)⟩,
          ⟨[delivered], directTo ends.initiatorAddr respDatagrams⟩) :=
    Responder.handleInit_respond decoded rfl (CookieState.valid_issue prims secret now _) responded
      (honest.sameKey.symm ▸ respBuilt)
  have reply := Network.listening_takes echoing .init coins [] rfl initTravels.1
    (honest.sameKey.symm ▸ initTravels.2) (List.append_nil _).symm
  dsimp only at reply
  rw [handled', ResponderOutput.sentTo_directTo] at reply
  exact reply

end Honest

end ChameleonPQ
