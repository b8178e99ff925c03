/-
**One end, from its first handshake to its tunnel (`client.rs`, `main.rs`).**

An end dials or listens, runs a driver of the initial handshake, and starts the tunnel on the session it
got; rekeys install further sessions. What arrives is the adversary's, and a holder of the peer's keys
may sign anything at any time.

* `Endpoint.step` — one event, with a log of what was accepted, and of the sessions that sealed or
  opened something.
* `sound_step` — a session at hand was accepted, and a half-finished handshake is the end's own.
* `sessions_authenticated` — in every run, with the peer's signature behind each session.
-/

import ChameleonPQ.Net.InitialHandshake
import ChameleonPQ.Tunnel.Acceptance

namespace ChameleonPQ

open Library Library.Runs Handshake

/-! ### The whole end -/

/-- Where an end stands. -/
inductive EndpointStage where
  | stopped
  | connecting (sessionId : UInt32) (peer : SocketAddr) (driver : Initiator)
  | listening (sessionId : UInt32) (driver : Responder)
  | tunnel (node : Node)

/-- What can happen next. -/
inductive EndpointEvent where
  | dial (sessionId : UInt32) (peer : SocketAddr) (now : Nat) (start : StartCoins)
      (envelope : HsObf.SealCoins)
  | listen (sessionId : UInt32) (secret : Octets 32)
  | initiator (event : InitiatorEvent)
  | responder (event : ResponderEvent)
  /-- The tunnel starts on the session that the driver returned. -/
  | establish (now : Nat) (eff : EffectiveTraffic)
  /-- There is no TUN device for it: a Close is sealed under the session, which is dropped. -/
  | abandon
  | tunnel (event : NodeEvent)
  | stop
  /-- A holder of the peer's keys signs a message. -/
  | peerSigns (message : Octets 32)

/-- What the drivers of one end are configured with. -/
def NodeConfig.driver (config : NodeConfig) (sessionId : UInt32) : DriverConfig :=
  ⟨config.auth, config.preferred, config.hsObf, sessionId⟩

namespace EndpointStage

/-- What the driver of the initial handshake returned. -/
def returned : EndpointStage → Option (Session × SocketAddr)
  | .connecting _ peer driver =>
    match driver.phase with
    | .finished (.ok session) => some (session, peer)
    | _ => none
  | .listening _ driver =>
    match driver.phase with
    | .finished (.ok outcome) => some outcome
    | _ => none
  | .stopped | .tunnel _ => none

/-- The sessions in the slots of the tunnel. -/
def slots : EndpointStage → List Session
  | .tunnel node => node.slots
  | _ => []

section Definitions

variable (prims : Primitives) (config : NodeConfig)

/-- One event; `none` when it cannot happen now. -/
def react (stage : EndpointStage) : EndpointEvent → Option EndpointStage
  | .dial sessionId peer now start envelope =>
    match stage with
    | .stopped =>
      match Initiator.begin prims (config.driver sessionId) now start envelope with
      | .ok (driver, _) => some (.connecting sessionId peer driver)
      | .error _ => some .stopped
    | _ => none
  | .listen sessionId secret =>
    match stage with
    | .stopped => some (.listening sessionId (.begin secret))
    | _ => none
  | .initiator event =>
    match stage with
    | .connecting sessionId peer driver =>
      some (.connecting sessionId peer (driver.react prims (config.driver sessionId) peer event).1)
    | _ => none
  | .responder event =>
    match stage with
    | .listening sessionId driver =>
      some (.listening sessionId (driver.react prims (config.driver sessionId) event).1)
    | _ => none
  | .establish now eff => stage.returned.map fun (session, peer) =>
    .tunnel (.begin config (.new session now) peer eff)
  | .abandon => stage.returned.map fun _ => .stopped
  | .tunnel event =>
    match stage with
    | .tunnel node => (node.step prims config event).map .tunnel
    | _ => none
  | .stop => some .stopped
  | .peerSigns _ => some stage

/-- What the event hands to `finalize` or to `confirm`. -/
def delivers (stage : EndpointStage) : EndpointEvent → Option Delivery
  | .initiator event =>
    match stage with
    | .connecting sessionId peer driver => driver.delivers prims (config.driver sessionId) peer event
    | _ => none
  | .responder event =>
    match stage with
    | .listening sessionId driver => driver.delivers prims (config.driver sessionId) event
    | _ => none
  | .tunnel event =>
    match stage with
    | .tunnel node => node.delivers prims config.toInboundConfig event
    | _ => none
  | _ => none

/-- The sessions the event seals or opens something with. -/
def uses (stage : EndpointStage) : EndpointEvent → List Session
  | .tunnel event =>
    match stage with
    | .tunnel node => node.uses event
    | _ => []
  | .abandon => (stage.returned.map Prod.fst).toList
  | _ => []

end Definitions

end EndpointStage

/-- What the event has the peer sign. -/
def EndpointEvent.signs : EndpointEvent → List (Octets 32)
  | .peerSigns message => [message]
  | _ => []

/-- An end, and what happened at it so far. -/
structure Endpoint where
  stage : EndpointStage
  accepted : List Acceptance
  /-- The sessions that sealed or opened something. -/
  used : List Session
  /-- What a holder of the peer's keys signed. -/
  signed : List (Octets 32)

namespace Endpoint

/-- Nothing happened yet. -/
def empty : Endpoint := ⟨.stopped, [], [], []⟩

section Definitions

variable (prims : Primitives) (config : NodeConfig)

/-- What the event adds to the log of accepted messages. -/
def acceptances (endpoint : Endpoint) (event : EndpointEvent) : List Acceptance :=
  (endpoint.stage.delivers prims config event).toList.flatMap (Delivery.acceptance prims config.auth)

def step (endpoint : Endpoint) (event : EndpointEvent) : Option Endpoint :=
  (endpoint.stage.react prims config event).map fun stage =>
    { stage
      accepted := endpoint.accepted ++ endpoint.acceptances prims config event
      used := endpoint.used ++ endpoint.stage.uses event
      signed := endpoint.signed ++ event.signs }

/-- **Signatures are unforgeable**: where the signature of a delivered message verifies under the peer's
key, a holder of the peer's keys signed the very message that was checked. -/
def Unforgeable (endpoint : Endpoint) (event : EndpointEvent) : Prop :=
  ∀ delivery message, endpoint.stage.delivers prims config event = some delivery →
    delivery.Verifies prims config.auth message → message ∈ endpoint.signed

end Definitions

end Endpoint

section Definitions

variable (prims : Primitives) (config : NodeConfig)

/-- **A genuine acceptance.** The session is what `finalize` or `confirm` returned for a handshake of the
end's own, and what it verified, over this handshake's own transcript, is a signature of the configured
peer, who did sign that message. -/
structure Acceptance.Genuine (signed : List (Octets 32)) (acceptance : Acceptance) : Prop where
  own : Own prims config.auth config.preferred acceptance.delivery.handshake
  established : acceptance.delivery.established prims config.auth = some acceptance.session
  verified : ∃ message ∈ signed, acceptance.delivery.Verifies prims config.auth message

/-- Every half-finished handshake is the end's own, and every session at hand was accepted. -/
def EndpointStage.Trusted (accepted : List Acceptance) : EndpointStage → Prop
  | .stopped => True
  | .connecting sessionId _ driver => driver.Trusted prims (config.driver sessionId) accepted
  | .listening sessionId driver => driver.Trusted prims (config.driver sessionId) accepted
  | .tunnel node => node.Trusted prims config.toInboundConfig accepted

/-- What holds in every reachable state. -/
structure Endpoint.Sound (endpoint : Endpoint) : Prop where
  accepted : ∀ acceptance ∈ endpoint.accepted, acceptance.Genuine prims config endpoint.signed
  stage : endpoint.stage.Trusted prims config endpoint.accepted
  used : ∀ session ∈ endpoint.used, Vouched endpoint.accepted session

end Definitions

section Endpoint

variable {prims : Primitives} {config : NodeConfig} {accepted more : List Acceptance}
  {stage after : EndpointStage} {event : EndpointEvent}

theorem own_of_initiator {driver : Initiator} {sessionId : UInt32} {peer : SocketAddr}
    {event : InitiatorEvent} {delivery : Delivery}
    (trusted : driver.Trusted prims (config.driver sessionId) accepted)
    (delivers : driver.delivers prims (config.driver sessionId) peer event = some delivery) :
    Own prims config.auth config.preferred delivery.handshake := by
  unfold Initiator.delivers at delivers
  split at delivers
  · split at delivers
    · split at delivers
      · obtain ⟨message, -, handed⟩ := Option.bind_eq_some_iff.mp delivers
        split at handed
        · cases handed
        · rw [← Option.some.inj handed]
          exact trusted.own
      · cases delivers
    · cases delivers
  · cases delivers

theorem own_of_responder {driver : Responder} {sessionId : UInt32} {event : ResponderEvent}
    {delivery : Delivery} (trusted : driver.Trusted prims (config.driver sessionId) accepted)
    (delivers : driver.delivers prims (config.driver sessionId) event = some delivery) :
    Own prims config.auth config.preferred delivery.handshake := by
  unfold Responder.delivers at delivers
  split at delivers
  · split at delivers
    · rename_i confirming
      split at delivers
      · obtain ⟨message, -, rfl⟩ := Option.map_eq_some_iff.mp delivers
        exact trusted.own _ _ _ _ confirming
      · cases delivers
    · cases delivers
  · cases delivers

theorem own_of_node {node : Node} {event : NodeEvent} {delivery : Delivery}
    (trusted : node.Trusted prims config.toInboundConfig accepted)
    (delivers : node.delivers prims config.toInboundConfig event = some delivery) :
    Own prims config.auth config.preferred delivery.handshake := by
  unfold Node.delivers at delivers
  split at delivers
  · split at delivers
    · unfold Inbound.delivers at delivers
      split at delivers
      · rename_i pending
        split at delivers
        · obtain ⟨message, -, rfl⟩ := Option.map_eq_some_iff.mp delivers
          exact trusted.inbound.pending _ _ pending
        · cases delivers
      · cases delivers
    · cases delivers
  · split at delivers
    · rename_i driver raw rest inFlight queue
      have own := trusted.driver _ inFlight
      unfold RekeyDriver.delivers at delivers
      split at delivers
      · rename_i init attempt reasm deadline waits
        obtain ⟨message, -, rfl⟩ := Option.map_eq_some_iff.mp delivers
        rw [waits] at own
        exact own
      · cases delivers
    · cases delivers
  · cases delivers

/-- What is handed on is a handshake of the end's own. -/
theorem own_of_delivers {delivery : Delivery} (trusted : stage.Trusted prims config accepted)
    (delivers : stage.delivers prims config event = some delivery) :
    Own prims config.auth config.preferred delivery.handshake := by
  unfold EndpointStage.delivers at delivers
  split at delivers
  · split at delivers
    · exact own_of_initiator trusted delivers
    · cases delivers
  · split at delivers
    · exact own_of_responder trusted delivers
    · cases delivers
  · split at delivers
    · exact own_of_node trusted delivers
    · cases delivers
  · cases delivers

theorem EndpointStage.Trusted.mono (trusted : stage.Trusted prims config accepted)
    (grows : accepted ⊆ more) : stage.Trusted prims config more := by
  cases stage with
  | stopped => trivial
  | connecting sessionId peer driver =>
    exact ⟨trusted.own, fun session ok => (trusted.returned session ok).mono grows⟩
  | listening sessionId driver =>
    exact ⟨trusted.own, fun session peer ok => (trusted.returned session peer ok).mono grows⟩
  | tunnel node => exact Node.Trusted.mono trusted grows

/-- The driver of the initial handshake returns an accepted session. -/
theorem vouched_of_returned {session : Session} {peer : SocketAddr}
    (trusted : stage.Trusted prims config accepted) (returned : stage.returned = some (session, peer)) :
    Vouched accepted session := by
  unfold EndpointStage.returned at returned
  split at returned
  · split at returned
    · rename_i ok
      obtain ⟨rfl, -⟩ := Prod.mk.inj (Option.some.inj returned)
      exact trusted.returned _ ok
    · cases returned
  · split at returned
    · rename_i ok
      obtain rfl := Option.some.inj returned
      exact trusted.returned _ _ ok
    · cases returned
  · cases returned
  · cases returned

/-- **Every step keeps the stage.** -/
theorem trusted_stage (trusted : stage.Trusted prims config accepted)
    (vouches : ∀ delivery session, stage.delivers prims config event = some delivery →
      delivery.established prims config.auth = some session → Vouched accepted session)
    (reacts : stage.react prims config event = some after) : after.Trusted prims config accepted := by
  cases event with
  | dial sessionId peer now start envelope =>
    simp only [EndpointStage.react] at reacts
    split at reacts
    · split at reacts
      · rename_i driver sent begun
        obtain rfl := Option.some.inj reacts
        unfold Initiator.begin at begun
        split at begun
        · cases begun
        · rename_i handshake initWire started
          split at begun
          · cases begun
          · obtain ⟨rfl, -⟩ := Prod.mk.inj (Except.ok.inj begun)
            exact ⟨own_start started, fun _ waiting => by cases waiting⟩
      · obtain rfl := Option.some.inj reacts
        trivial
    · cases reacts
  | listen sessionId secret =>
    simp only [EndpointStage.react] at reacts
    split at reacts
    · obtain rfl := Option.some.inj reacts
      exact trusted_listening _ _
    · cases reacts
  | initiator event =>
    simp only [EndpointStage.react] at reacts
    split at reacts
    · obtain rfl := Option.some.inj reacts
      exact trusted_initiator event trusted vouches
    · cases reacts
  | responder event =>
    simp only [EndpointStage.react] at reacts
    split at reacts
    · obtain rfl := Option.some.inj reacts
      exact trusted_responder event trusted vouches
    · cases reacts
  | establish now eff =>
    obtain ⟨⟨session, peer⟩, returned, rfl⟩ := Option.map_eq_some_iff.mp reacts
    refine ⟨⟨⟨vouched_of_returned trusted returned, ?_⟩, ?_⟩, ?_⟩
    · exact fun _ none => by cases none
    · exact fun _ _ none => by cases none
    · exact fun _ none => by cases none
  | abandon =>
    obtain ⟨_, -, rfl⟩ := Option.map_eq_some_iff.mp reacts
    trivial
  | tunnel event =>
    simp only [EndpointStage.react] at reacts
    split at reacts
    · rename_i node
      obtain ⟨next, stepped, rfl⟩ := Option.map_eq_some_iff.mp reacts
      unfold Node.step at stepped
      split at stepped
      · obtain ⟨⟨reached, sent⟩, reacted, rfl⟩ := Option.map_eq_some_iff.mp stepped
        exact trusted_react trusted vouches reacted
      · cases stepped
    · cases reacts
  | stop =>
    obtain rfl := Option.some.inj reacts
    trivial
  | peerSigns message =>
    obtain rfl := Option.some.inj reacts
    exact trusted

theorem vouched_of_stage {session : Session} (trusted : stage.Trusted prims config accepted)
    (used : session ∈ stage.uses event) : Vouched accepted session := by
  unfold EndpointStage.uses at used
  split at used
  · split at used
    · exact vouched_of_uses (Node.Trusted.inbound trusted).slots used
    · cases used
  · obtain ⟨⟨_, peer⟩, returned, rfl⟩ := Option.map_eq_some_iff.mp (Option.mem_toList.mp used)
    exact vouched_of_returned trusted returned
  · cases used

theorem Acceptance.Genuine.mono {acceptance : Acceptance} {signed signed' : List (Octets 32)}
    (genuine : acceptance.Genuine prims config signed) (grows : signed ⊆ signed') :
    acceptance.Genuine prims config signed' := by
  obtain ⟨message, signedBefore, verified⟩ := genuine.verified
  exact ⟨genuine.own, genuine.established, message, grows signedBefore, verified⟩

/-- What an event has accepted. -/
theorem mem_acceptances {endpoint : Endpoint} {acceptance : Acceptance} :
    acceptance ∈ endpoint.acceptances prims config event ↔
      endpoint.stage.delivers prims config event = some acceptance.delivery ∧
        acceptance.delivery.established prims config.auth = some acceptance.session := by
  simp only [Endpoint.acceptances, List.mem_flatMap, Option.mem_toList]
  constructor
  · rintro ⟨delivery, delivers, member⟩
    unfold Delivery.acceptance at member
    split at member
    · rename_i session established
      obtain rfl := List.mem_singleton.mp member
      exact ⟨delivers, established⟩
    · cases member
  · rintro ⟨delivers, established⟩
    refine ⟨acceptance.delivery, delivers, ?_⟩
    rw [Delivery.acceptance, established]
    exact List.mem_singleton_self _

/-- **Every step keeps the invariant.** -/
theorem sound_step {endpoint next : Endpoint} (sound : endpoint.Sound prims config)
    (unforgeable : endpoint.Unforgeable prims config event)
    (taken : endpoint.step prims config event = some next) : next.Sound prims config := by
  obtain ⟨stage, reacts, rfl⟩ := Option.map_eq_some_iff.mp taken
  have grows : endpoint.accepted ⊆ endpoint.accepted ++ endpoint.acceptances prims config event :=
    List.subset_append_left _ _
  refine ⟨fun acceptance member => ?_, ?_, fun session member => ?_⟩
  · rcases List.mem_append.mp member with before | new
    · exact (sound.accepted acceptance before).mono (List.subset_append_left _ _)
    · obtain ⟨delivers, established⟩ := mem_acceptances.mp new
      have own := own_of_delivers sound.stage delivers
      obtain ⟨message, verified⟩ := verifies_of_established own established
      exact ⟨own, established, message,
        List.mem_append_left _ (unforgeable _ message delivers verified), verified⟩
  · refine trusted_stage (sound.stage.mono grows) (fun delivery session delivers established => ?_)
      reacts
    exact ⟨⟨delivery, session⟩, List.mem_append_right _ (mem_acceptances.mpr ⟨delivers, established⟩),
      rfl⟩
  · rcases List.mem_append.mp member with before | new
    · exact (sound.used session before).mono grows
    · exact (vouched_of_stage sound.stage new).mono grows

/-- **Every reachable state.** -/
theorem sound_run {events : List EndpointEvent} {last : Endpoint}
    (run : Run (Guarded (Endpoint.Unforgeable prims config) (Taken (Endpoint.step prims config)))
      .empty events last) : last.Sound prims config := by
  refine run.invariant (Endpoint.Sound prims config)
    (fun _ _ _ sound guarded => sound_step sound guarded.1 guarded.2) ?_
  exact ⟨fun _ none => (by cases none), trivial, fun _ none => (by cases none)⟩

end Endpoint

namespace Endpoint

section Response

variable {sessionId : UInt32} {peer : SocketAddr} {driver : Initiator} {attempt deadline now : Nat}
  {signed : List (Octets 32)}

/-- A run over unforgeable signatures. -/
def Leads (prims : Primitives) (config : NodeConfig) (first last : Endpoint) : Prop :=
  ∃ events, Run (Guarded (Unforgeable prims config) (Taken (step prims config))) first events last

variable {prims : Primitives} {config : NodeConfig} {first middle last : Endpoint}

theorem Leads.trans (front : Leads prims config first middle) (back : Leads prims config middle last) :
    Leads prims config first last := by
  obtain ⟨events, run⟩ := front
  obtain ⟨more, run'⟩ := back
  exact ⟨events ++ more, run.append run'⟩

theorem Leads.one (event : EndpointEvent) (unforgeable : first.Unforgeable prims config event)
    (taken : first.step prims config event = some last) : Leads prims config first last :=
  ⟨[event], .next ⟨unforgeable, taken⟩ (.done _)⟩

/-- The end in the middle of a message. -/
def hearing (sessionId : UInt32) (peer : SocketAddr) (driver : Initiator) (attempt deadline : Nat)
    (signed : List (Octets 32)) (reasm : Reassembler) : Endpoint :=
  ⟨.connecting sessionId peer { driver with phase := .waiting attempt reasm deadline }, [], [], signed⟩

/-- A step of a dialing end. -/
theorem step_initiator (accepted : List Acceptance) (used : List Session) (event : InitiatorEvent) :
    (Endpoint.mk (.connecting sessionId peer driver) accepted used signed).step prims config
        (.initiator event) =
      some ⟨.connecting sessionId peer (driver.react prims (config.driver sessionId) peer event).1,
        accepted ++ (driver.delivers prims (config.driver sessionId) peer event).toList.flatMap
          (Delivery.acceptance prims config.auth), used, signed⟩ := by
  simp only [step, EndpointStage.react, acceptances, EndpointStage.delivers, EndpointStage.uses,
    EndpointEvent.signs, List.append_nil, Option.map_some]

/-- The end dials. -/
theorem dialing {datagrams : List Bytes} {start : StartCoins} {envelope : HsObf.SealCoins}
    (begun : Initiator.begin prims (config.driver sessionId) now start envelope = .ok (driver, datagrams)) :
    Leads prims config ⟨.stopped, [], [], signed⟩ ⟨.connecting sessionId peer driver, [], [], signed⟩ := by
  refine .one (.dial sessionId peer now start envelope) (fun _ _ nothing => by cases nothing) ?_
  simp only [step, EndpointStage.react, begun, acceptances, EndpointStage.delivers, EndpointStage.uses,
    EndpointEvent.signs, Option.toList_none, List.flatMap_nil, List.append_nil, Option.map_some]

/-- One datagram that completes nothing. -/
theorem hearing_one (coins : DriverCoins) {reasm left : Reassembler} {raw : Bytes}
    (pushed : pushHandshake prims reasm now raw config.hsObf = (.ok none, left)) :
    Leads prims config (hearing sessionId peer driver attempt deadline signed reasm)
      (hearing sessionId peer driver attempt deadline signed left) := by
  have sameKey : (config.driver sessionId).hsObf = config.hsObf := rfl
  have nothing : Initiator.delivers prims (config.driver sessionId) peer
      { driver with phase := .waiting attempt reasm deadline } (.datagram now peer raw coins) =
        none := by
    simp only [Initiator.delivers, if_true, completed, sameKey, pushed]
    rfl
  refine .one (.initiator (.datagram now peer raw coins)) (fun delivery message delivers => ?_) ?_
  · simp only [hearing, EndpointStage.delivers, nothing] at delivers
    cases delivers
  · rw [hearing, step_initiator, nothing]
    simp only [Initiator.react, Initiator.receive, ne_eq, not_true_eq_false, if_false, sameKey, pushed]
    rfl

/-- The Response is complete, and accepted. -/
theorem hearing_response {coins : DriverCoins} {reasm after : Reassembler}
    {raw wire confirmWire : Bytes} {received : HandshakeMessage} {session : Session}
    {datagrams : List Bytes} {message : Octets 32}
    (pushed : pushHandshake prims reasm now raw config.hsObf = (.ok (some wire), after))
    (decoded : HandshakeMessage.decode wire = .ok received) (kind : received.msgType = .response)
    (finalized : driver.handshake.finalize prims wire config.auth coins.confirm =
      .ok (.established session, confirmWire))
    (built : buildHandshakeDatagrams prims sessionId confirmWire config.hsObf coins.envelope =
      .ok datagrams)
    (checked : Arena.checkedMessage prims driver.handshake received = some message)
    (peerSigned : message ∈ signed) :
    Leads prims config (hearing sessionId peer driver attempt deadline signed reasm)
      ⟨.connecting sessionId peer (driver.finish (.ok session)),
        [⟨.response driver.handshake wire coins.confirm, session⟩], [], signed⟩ := by
  have sameKey : (config.driver sessionId).hsObf = config.hsObf := rfl
  have notChallenge : ¬ IsChallenge wire := by
    rintro ⟨-, challenge⟩
    rw [HandshakeMessage.kind_of_decode decoded, kind] at challenge
    exact absurd challenge (by decide)
  have handed : Initiator.delivers prims (config.driver sessionId) peer
      { driver with phase := .waiting attempt reasm deadline } (.datagram now peer raw coins) =
        some (.response driver.handshake wire coins.confirm) := by
    simp only [Initiator.delivers, if_true, completed, sameKey, pushed, Option.bind_some]
    exact if_neg notChallenge
  have concluded : driver.handle prims (config.driver sessionId) now attempt wire coins =
      (driver.finish (.ok session), datagrams) :=
    Initiator.handle_response decoded kind finalized built
  refine .one (.initiator (.datagram now peer raw coins)) (fun delivery other delivers verifies => ?_) ?_
  · simp only [hearing, EndpointStage.delivers, handed] at delivers
    obtain rfl := Option.some.inj delivers
    obtain ⟨received', decoded', checked', -⟩ := verifies
    obtain rfl := Except.ok.inj (decoded.symm.trans decoded')
    obtain rfl := Option.some.inj (checked.symm.trans checked')
    exact peerSigned
  · rw [hearing, step_initiator, handed]
    simp only [Initiator.react, Initiator.receive, ne_eq, not_true_eq_false, if_false, sameKey, pushed,
      Initiator.handle_phase, concluded]
    simp only [Option.toList_some, List.flatMap_singleton, Delivery.acceptance, Delivery.established,
      finalized, List.nil_append]

/-- All but the last datagram of a message. -/
theorem hearing_most (coins : DriverCoins) {datagrams : List Bytes} {wire : Bytes}
    (nonempty : 0 < datagrams.length) (receiving : Receiving prims config.hsObf datagrams wire 0 .new) :
    ∃ left raw, pushHandshake prims left now raw config.hsObf = (.ok (some wire), .new) ∧
      Leads prims config (hearing sessionId peer driver attempt deadline signed .new)
        (hearing sessionId peer driver attempt deadline signed left) := by
  let reaches (_ : Nat) (reasm : Reassembler) : Prop :=
    Leads prims config (hearing sessionId peer driver attempt deadline signed .new)
      (hearing sessionId peer driver attempt deadline signed reasm)
  have start : reaches 0 .new := ⟨[], .done _⟩
  obtain ⟨count, left, raw, -, -, leads, pushed⟩ := receiving.upToLast now nonempty start
    fun count reasm raw left _ _ reached pushed =>
      Leads.trans (show reaches count reasm from reached) (hearing_one coins pushed)
  exact ⟨left, raw, pushed, leads⟩

/-- The tunnel starts on the session, and counters are reserved. -/
theorem established_reserves {session : Session} {accepted : List Acceptance} (now : Nat)
    (eff : EffectiveTraffic) :
    Leads prims config
      ⟨.connecting sessionId peer (driver.finish (.ok session)), accepted, [], signed⟩
      ⟨.tunnel ((Node.begin config (.new session now) peer eff).withSessions
        { SessionManager.new session now with current := (session.reserveCounters 1).2 }),
        accepted, [session], signed⟩ := by
  have quiet : ∀ (endpoint : Endpoint) (event : EndpointEvent),
      endpoint.stage.delivers prims config event = none → endpoint.Unforgeable prims config event := by
    intro endpoint event nothing delivery message delivers
    rw [nothing] at delivers
    cases delivers
  let opened : Endpoint :=
    ⟨.tunnel (.begin config (.new session now) peer eff), accepted, [], signed⟩
  have opens : Leads prims config
      ⟨.connecting sessionId peer (driver.finish (.ok session)), accepted, [], signed⟩ opened := by
    refine .one (.establish now eff) (quiet _ _ rfl) ?_
    simp only [step, acceptances, EndpointStage.react, EndpointStage.returned, EndpointStage.delivers,
      EndpointStage.uses, EndpointEvent.signs, Initiator.finish, Option.map_some, Option.toList_none,
      List.flatMap_nil, List.append_nil, opened]
  refine opens.trans (.one (.tunnel (.reserve 1)) (quiet opened _ rfl) ?_)
  simp only [step, acceptances, EndpointStage.react, EndpointStage.delivers, EndpointStage.uses,
    EndpointEvent.signs, Node.delivers, Option.toList_none, List.flatMap_nil, List.append_nil, opened]
  rfl

end Response

/-- The dialing one of two sample ends. -/
def sampleDialer : NodeConfig :=
  ⟨⟨Network.sampleEnds.initiator.auth, Network.sampleEnds.initiator.preferred, none, false⟩, false⟩

end Endpoint

end ChameleonPQ
