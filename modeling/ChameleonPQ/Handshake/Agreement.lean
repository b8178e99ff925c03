/-
**Agreement of handshakes under an active adversary.**

Any number of configured parties run any number of handshakes. Every message goes through the
adversary, who decides which party acts next and gives it any octets at all: altered, reflected,
replayed or made up. A log records, newest first, each step that released or accepted a signature.

* `grounded_run` — every record is what the code's step made of its inputs, and each signature it
  accepted was released before under the configured peer's keys.
* `Record.matching` — records over one transcript hash have matching exchanges and sessions.
* `agreement` — the correspondences: an accepted Response was answered by the peer over the same
  exchange, an accepted Confirm was sent by it, and no signature serves both roles.
-/

import ChameleonPQ.Handshake.Honest
import ChameleonPQ.Library.Runs

namespace ChameleonPQ

open Library Library.Runs Handshake

/-- A configured party. -/
structure Party where
  auth : Authenticator
  preferred : AeadAlgo

/-- What a party did that others may rely on. -/
inductive Deed where
  /-- `respond` succeeded: the Response is signed. -/
  | responded
  /-- `finalize` succeeded: a Response was accepted and the Confirm is signed. -/
  | finalized
  /-- `confirm` succeeded: a Confirm was accepted. -/
  | confirmed
  deriving DecidableEq

/-- A deed, with the exchange it belongs to and the session it made. -/
structure Record where
  deed : Deed
  party : Nat
  exchange : Exchange
  session : Session

/-- How a handshake instance came about. -/
inductive Origin where
  | started (coins : StartCoins)
  | responded (exchange : Exchange)

/-- One `Handshake` value of a party. -/
structure Instance where
  party : Nat
  origin : Origin
  state : Handshake

/-- All handshake instances, and the log of deeds, newest first. -/
structure Arena where
  instances : List Instance
  log : List Record

/-- One call of a party's handshake code; the octets are the adversary's choice. -/
inductive ArenaEvent where
  | start (party : Nat) (coins : StartCoins)
  | respond (party : Nat) (raw : Bytes) (coins : RespondCoins)
  | finalize (index : Nat) (raw : Bytes) (coins : ConfirmCoins)
  | confirm (index : Nat) (raw : Bytes)

/-- The label of the signature a deed releases. -/
def Deed.releasedLabel : Deed → Option Bytes
  | responded => some sigLabelResponder
  | finalized => some sigLabelInitiator
  | confirmed => none

/-- The label of the signature a deed accepts. -/
def Deed.acceptedLabel : Deed → Option Bytes
  | responded => none
  | finalized => some sigLabelResponder
  | confirmed => some sigLabelInitiator

namespace Arena

section Definitions

variable (prims : Primitives) (parties : Nat → Party)

def empty : Arena := ⟨[], []⟩

/-- The transcript of a record, as its party built it. -/
def transcriptOf (record : Record) : Transcript :=
  record.exchange.transcript prims (parties record.party).auth

/-- Its hash. -/
def hashOf (record : Record) : Octets 32 :=
  record.exchange.hash prims (parties record.party).auth

/-- The message of the signature a record released. -/
def released (record : Record) : Option (Octets 32) :=
  record.deed.releasedLabel.map fun label => roleBoundHash prims label (hashOf prims parties record)

/-- The message of the signature a record accepted. -/
def accepted (record : Record) : Option (Octets 32) :=
  record.deed.acceptedLabel.map fun label => roleBoundHash prims label (hashOf prims parties record)

/-- Some holder of the keys released a signature of the message. -/
def Signed (log : List Record) (keys : List Bytes) (message : Octets 32) : Prop :=
  ∃ record ∈ log, (parties record.party).auth.ownKeys prims = keys ∧
    released prims parties record = some message

/-- The inputs of SHA-256 in the exchange of a record. -/
def hashInputs (record : Record) : List Bytes :=
  [(transcriptOf prims parties record).stream,
    roleBoundInput sigLabelResponder (hashOf prims parties record),
    roleBoundInput sigLabelInitiator (hashOf prims parties record)]

/-- **One call of the code.** -/
inductive Step : Arena → ArenaEvent → Arena → Prop
  | start {arena : Arena} {party : Nat} {coins : StartCoins} {state : Handshake} {wire : Bytes} :
      Handshake.start prims (parties party).auth (parties party).preferred coins =
        .ok (state, wire) →
      Step arena (.start party coins)
        { arena with instances := arena.instances ++ [⟨party, .started coins, state⟩] }
  | respond {arena : Arena} {party : Nat} {raw wire : Bytes} {coins : RespondCoins}
      {exchange : Exchange} {session : Session} {hash : Octets 32} :
      Handshake.respond prims raw (parties party).auth (parties party).preferred coins =
        .ok (.sentResponse session hash, wire) →
      HandshakeMessage.decode raw = .ok exchange.init →
      HandshakeMessage.decode wire = .ok exchange.resp →
      Step arena (.respond party raw coins)
        { instances := arena.instances ++ [⟨party, .responded exchange, .sentResponse session hash⟩]
          log := ⟨.responded, party, exchange, session⟩ :: arena.log }
  | finalize {arena : Arena} {index party : Nat} {raw wire : Bytes} {coins : ConfirmCoins}
      {startCoins : StartCoins} {state : Handshake} {resp : HandshakeMessage} {session : Session} :
      arena.instances[index]? = some ⟨party, .started startCoins, state⟩ →
      Handshake.finalize prims state raw (parties party).auth coins =
        .ok (.established session, wire) →
      HandshakeMessage.decode raw = .ok resp →
      Step arena (.finalize index raw coins)
        { instances :=
            arena.instances.set index ⟨party, .started startCoins, .established session⟩
          log := ⟨.finalized, party, ⟨initMessage prims (parties party).auth
            (parties party).preferred startCoins, resp⟩, session⟩ :: arena.log }
  | confirm {arena : Arena} {index party : Nat} {raw : Bytes} {exchange : Exchange}
      {state : Handshake} {session : Session} :
      arena.instances[index]? = some ⟨party, .responded exchange, state⟩ →
      Handshake.confirm prims state raw (parties party).auth = .ok (.established session) →
      Step arena (.confirm index raw)
        { instances :=
            arena.instances.set index ⟨party, .responded exchange, .established session⟩
          log := ⟨.confirmed, party, exchange, session⟩ :: arena.log }
  /-- A refused Init leaves nothing behind. -/
  | respondFails {arena : Arena} {party : Nat} {raw : Bytes} {coins : RespondCoins} {e : ChameleonError} :
      Handshake.respond prims raw (parties party).auth (parties party).preferred coins = .error e →
      Step arena (.respond party raw coins) arena
  /-- `finalize` and `confirm` take the instance by value: a failure consumes it. -/
  | finalizeFails {arena : Arena} {index : Nat} {raw : Bytes} {coins : ConfirmCoins}
      {target : Instance} {e : ChameleonError} :
      arena.instances[index]? = some target →
      Handshake.finalize prims target.state raw (parties target.party).auth coins = .error e →
      Step arena (.finalize index raw coins)
        { arena with instances := arena.instances.set index { target with state := .failed } }
  | confirmFails {arena : Arena} {index : Nat} {raw : Bytes} {target : Instance} {e : ChameleonError} :
      arena.instances[index]? = some target →
      Handshake.confirm prims target.state raw (parties target.party).auth = .error e →
      Step arena (.confirm index raw)
        { arena with instances := arena.instances.set index { target with state := .failed } }

/-- The message whose signature the next step of an instance checks. -/
def checkedMessage (state : Handshake) (received : HandshakeMessage) : Option (Octets 32) :=
  match state with
  | .sentInit _ _ transcript => some (roleBoundHash prims sigLabelResponder
      ((transcript.absorb received.transcriptBytes).hash prims))
  | .sentResponse _ transcriptHash => some (roleBoundHash prims sigLabelInitiator transcriptHash)
  | _ => none

/-- **Signatures are unforgeable**: where the signature of a delivered message verifies, a holder of
the configured peer's keys released a signature of the very message that was checked. -/
def Unforgeable (arena : Arena) (event : ArenaEvent) : Prop :=
  ∀ index raw, (∃ coins, event = .finalize index raw coins) ∨ event = .confirm index raw →
    ∀ target received message, arena.instances[index]? = some target →
      HandshakeMessage.decode raw = .ok received →
      checkedMessage prims target.state received = some message →
      (parties target.party).auth.verify prims message received.sig = .ok () →
      Signed prims parties arena.log (parties target.party).auth.peerKeys message

/-! ### What the log and the instances satisfy -/

/-- What stands behind a record, given the log before it. -/
def Justified (earlier : List Record) (record : Record) : Prop :=
  let auth := (parties record.party).auth
  match record.deed with
  | .responded => ∃ coins view, view.toExchange = record.exchange ∧
      Responds prims auth (parties record.party).preferred coins view ∧
        record.session = view.session prims false
  | .finalized => (∃ coins view, view.toExchange = record.exchange ∧
      view.init = initMessage prims auth (parties record.party).preferred coins ∧
        Finalizes prims auth coins.ephX coins.mlkemSk view ∧
          record.session = view.session prims true) ∧
      Signed prims parties earlier auth.peerKeys
        (roleBoundHash prims sigLabelResponder (hashOf prims parties record))
  | .confirmed => { record with deed := .responded } ∈ earlier ∧
      Signed prims parties earlier auth.peerKeys
        (roleBoundHash prims sigLabelInitiator (hashOf prims parties record))

/-- Every record is justified by the log before it. -/
def Grounded : List Record → Prop
  | [] => True
  | record :: earlier => Justified prims parties earlier record ∧ Grounded earlier

/-- A waiting instance knows what its origin says. -/
structure InstanceSound (log : List Record) (target : Instance) : Prop where
  sentInit : ∀ ephX mlkemSk transcript, target.state = .sentInit ephX mlkemSk transcript →
    ∃ coins, target.origin = .started coins ∧ ephX = coins.ephX ∧ mlkemSk = coins.mlkemSk ∧
      transcript = initTranscript prims (parties target.party).auth
        (initMessage prims (parties target.party).auth
          (parties target.party).preferred coins)
  sentResponse : ∀ session hash, target.state = .sentResponse session hash →
    ∃ exchange, target.origin = .responded exchange ∧
      ⟨.responded, target.party, exchange, session⟩ ∈ log ∧
        hash = exchange.hash prims (parties target.party).auth

/-- The invariant of the arena. -/
structure Sound (arena : Arena) : Prop where
  grounded : Grounded prims parties arena.log
  instances : ∀ target ∈ arena.instances, InstanceSound prims parties arena.log target

end Definitions

variable {prims : Primitives} {parties : Nat → Party} {arena after : Arena}

theorem InstanceSound.mono {log more : List Record} {target : Instance}
    (sound : InstanceSound prims parties log target) (grows : log ⊆ more) :
    InstanceSound prims parties more target where
  sentInit := sound.sentInit
  sentResponse := fun session hash state => by
    obtain ⟨exchange, origin, logged, same⟩ := sound.sentResponse session hash state
    exact ⟨exchange, origin, grows logged, same⟩

/-- An instance that waits for nothing is sound. -/
theorem InstanceSound.settled {log : List Record} {target : Instance}
    (notInit : ∀ ephX mlkemSk transcript, target.state ≠ .sentInit ephX mlkemSk transcript)
    (notResponse : ∀ session hash, target.state ≠ .sentResponse session hash) :
    InstanceSound prims parties log target where
  sentInit := fun _ _ _ state => absurd state (notInit _ _ _)
  sentResponse := fun _ _ state => absurd state (notResponse _ _)

/-- Replacing one instance and adding to the log. -/
theorem Sound.replace (sound : Sound prims parties arena) {index : Nat} {target : Instance}
    {log : List Record} (grows : arena.log ⊆ log) (grounded : Grounded prims parties log)
    (settled : InstanceSound prims parties log target) :
    Sound prims parties ⟨arena.instances.set index target, log⟩ where
  grounded := grounded
  instances := fun other present => by
    rcases List.mem_or_eq_of_mem_set present with present | rfl
    · exact (sound.instances other present).mono grows
    · exact settled

/-- Adding one instance and adding to the log. -/
theorem Sound.add (sound : Sound prims parties arena) {target : Instance} {log : List Record}
    (grows : arena.log ⊆ log) (grounded : Grounded prims parties log)
    (fresh : InstanceSound prims parties log target) :
    Sound prims parties ⟨arena.instances ++ [target], log⟩ where
  grounded := grounded
  instances := fun other present => by
    rcases List.mem_append.mp present with present | present
    · exact (sound.instances other present).mono grows
    · rw [List.mem_singleton.mp present]
      exact fresh

/-- The Response a responder encodes comes back from the wire. -/
theorem decode_reply {auth : Authenticator} {preferred : AeadAlgo} {coins : RespondCoins}
    {view : View} {wire : Bytes}
    (responds : Responds prims auth preferred coins view)
    (encoded : view.resp.encode coins.padNoise = .ok wire) :
    HandshakeMessage.decode wire = .ok view.resp := by
  have version : view.resp.version = protoVersion := by
    obtain ⟨_, _, _, resp⟩ := responds.reply
    rw [resp]
    rfl
  exact HandshakeMessage.decode_encode version encoded

theorem sound_start (sound : Sound prims parties arena) {party : Nat} {coins : StartCoins}
    {state : Handshake} {wire : Bytes}
    (started : Handshake.start prims (parties party).auth (parties party).preferred coins =
      .ok (state, wire)) :
    Sound prims parties
      { arena with instances := arena.instances ++ [⟨party, .started coins, state⟩] } := by
  obtain ⟨-, rfl⟩ := start_eq_ok_iff.mp started
  refine sound.add (List.Subset.refl _) sound.grounded ⟨?_, ?_⟩
  · intro ephX mlkemSk transcript state
    obtain ⟨rfl, rfl, rfl⟩ := Handshake.sentInit.inj state
    exact ⟨coins, rfl, rfl, rfl, rfl⟩
  · intro _ _ state
    cases state

theorem sound_respond (sound : Sound prims parties arena) {party : Nat} {raw wire : Bytes}
    {coins : RespondCoins} {exchange : Exchange} {session : Session} {hash : Octets 32}
    (responded : Handshake.respond prims raw (parties party).auth (parties party).preferred coins =
      .ok (.sentResponse session hash, wire))
    (received : HandshakeMessage.decode raw = .ok exchange.init)
    (sent : HandshakeMessage.decode wire = .ok exchange.resp) :
    Sound prims parties
      { instances := arena.instances ++ [⟨party, .responded exchange, .sentResponse session hash⟩]
        log := ⟨.responded, party, exchange, session⟩ :: arena.log } := by
  obtain ⟨view, decoded, responds, encoded, state⟩ := respond_eq_ok_iff.mp responded
  obtain ⟨rfl, rfl⟩ := Handshake.sentResponse.inj state
  have init : view.init = exchange.init := Except.ok.inj (decoded.symm.trans received)
  have resp : view.resp = exchange.resp :=
    Except.ok.inj ((decode_reply responds encoded).symm.trans sent)
  have same : view.toExchange = exchange := Exchange.ext init resp
  refine sound.add (List.subset_cons_self _ _) ⟨⟨coins, view, same, responds, rfl⟩, sound.grounded⟩
    ⟨?_, ?_⟩
  · intro _ _ _ waiting
    cases waiting
  · intro session hash waiting
    obtain ⟨rfl, rfl⟩ := Handshake.sentResponse.inj waiting
    exact ⟨exchange, rfl, List.mem_cons_self, by rw [same]⟩

theorem sound_finalize (sound : Sound prims parties arena) {index party : Nat} {raw wire : Bytes}
    {coins : ConfirmCoins} {startCoins : StartCoins} {state : Handshake} {resp : HandshakeMessage}
    {session : Session}
    (unforgeable : Unforgeable prims parties arena (.finalize index raw coins))
    (present : arena.instances[index]? = some ⟨party, .started startCoins, state⟩)
    (finalized : Handshake.finalize prims state raw (parties party).auth coins =
      .ok (.established session, wire))
    (received : HandshakeMessage.decode raw = .ok resp) :
    Sound prims parties
      { instances := arena.instances.set index ⟨party, .started startCoins, .established session⟩
        log := ⟨.finalized, party, ⟨initMessage prims (parties party).auth
          (parties party).preferred startCoins, resp⟩, session⟩ :: arena.log } := by
  have waiting := sound.instances _ (List.mem_of_getElem? present)
  cases state with
  | idle | sentResponse _ _ | established _ | failed => cases finalized
  | sentInit ephX mlkemSk transcript =>
    obtain ⟨coins', origin, sameX, sameKem, sameTranscript⟩ := waiting.sentInit _ _ _ rfl
    obtain rfl := Origin.started.inj origin
    dsimp only at sameTranscript
    subst sameX sameKem sameTranscript
    obtain ⟨view, init, decoded, finalizes, -, same⟩ := finalize_eq_ok_iff.mp finalized
    obtain rfl := Handshake.established.inj same
    obtain rfl := Except.ok.inj (decoded.symm.trans received)
    have exchange : view.toExchange = ⟨initMessage prims (parties party).auth
        (parties party).preferred startCoins, view.resp⟩ := Exchange.ext init rfl
    refine sound.replace (List.subset_cons_self _ _)
      ⟨⟨⟨startCoins, view, exchange, init, finalizes, rfl⟩, ?_⟩, sound.grounded⟩
      (.settled (fun _ _ _ state => nomatch state) fun _ _ state => nomatch state)
    -- the checked message is the role-bound hash over the recorded exchange
    have verified := finalizes.verified
    rw [exchange] at verified
    exact unforgeable index raw (.inl ⟨coins, rfl⟩) _ view.resp _ present received rfl verified

theorem sound_confirm (sound : Sound prims parties arena) {index party : Nat} {raw : Bytes}
    {exchange : Exchange} {state : Handshake} {session : Session}
    (unforgeable : Unforgeable prims parties arena (.confirm index raw))
    (present : arena.instances[index]? = some ⟨party, .responded exchange, state⟩)
    (confirmed : Handshake.confirm prims state raw (parties party).auth = .ok (.established session)) :
    Sound prims parties
      { instances := arena.instances.set index ⟨party, .responded exchange, .established session⟩
        log := ⟨.confirmed, party, exchange, session⟩ :: arena.log } := by
  have waiting := sound.instances _ (List.mem_of_getElem? present)
  obtain ⟨session', hash, conf, rfl, decoded, -, verified, same⟩ := confirm_eq_ok_iff.mp confirmed
  obtain rfl := Handshake.established.inj same
  obtain ⟨exchange', origin, logged, sameHash⟩ := waiting.sentResponse _ _ rfl
  obtain rfl := Origin.responded.inj origin
  dsimp only at sameHash
  subst sameHash
  refine sound.replace (List.subset_cons_self _ _) ⟨⟨logged, ?_⟩, sound.grounded⟩
    (.settled (fun _ _ _ state => nomatch state) fun _ _ state => nomatch state)
  exact unforgeable index raw (.inr rfl) _ conf _ present decoded rfl verified

/-- Losing an instance keeps the invariant. -/
theorem sound_fail (sound : Sound prims parties arena) (index : Nat) (target : Instance) :
    Sound prims parties
      { arena with instances := arena.instances.set index { target with state := .failed } } :=
  sound.replace (List.Subset.refl _) sound.grounded
    (.settled (fun _ _ _ state => nomatch state) fun _ _ state => nomatch state)

/-- **One step keeps the invariant.** -/
theorem sound_step {event : ArenaEvent} (sound : Sound prims parties arena)
    (taken : Guarded (Unforgeable prims parties) (Step prims parties) arena event after) :
    Sound prims parties after := by
  obtain ⟨unforgeable, taken⟩ := taken
  cases taken with
  | start started => exact sound_start sound started
  | respond responded received sent => exact sound_respond sound responded received sent
  | finalize present finalized received =>
    exact sound_finalize sound unforgeable present finalized received
  | confirm present confirmed => exact sound_confirm sound unforgeable present confirmed
  | respondFails _ => exact sound
  | finalizeFails _ _ => exact sound_fail sound _ _
  | confirmFails _ _ => exact sound_fail sound _ _

/-- **Every run is grounded.** -/
theorem sound_run {events : List ArenaEvent} {last : Arena}
    (run : Run (Guarded (Unforgeable prims parties) (Step prims parties)) empty events last) :
    Sound prims parties last :=
  run.invariant (Sound prims parties) (fun _ _ _ sound taken => sound_step sound taken)
    ⟨trivial, fun _ present => nomatch present⟩

/-! ### Matching records -/

/-- A record of the log is justified by what came before it. -/
theorem Grounded.split {later earlier : List Record} {record : Record}
    (grounded : Grounded prims parties (later ++ record :: earlier)) :
    Justified prims parties earlier record ∧ Grounded prims parties earlier := by
  induction later with
  | nil => exact grounded
  | cons _ _ ih => exact ih grounded.2

theorem Grounded.of_mem {log : List Record} (grounded : Grounded prims parties log)
    {record : Record} (present : record ∈ log) : ∃ earlier, Justified prims parties earlier record := by
  obtain ⟨later, earlier, rfl⟩ := List.append_of_mem present
  exact ⟨earlier, grounded.split.1⟩

/-- The initiator's and the responder's record of one exchange fit together. -/
structure Matching (prims : Primitives) (parties : Nat → Party) (initiator responder : Record) :
    Prop where
  transcript : transcriptOf prims parties initiator = transcriptOf prims parties responder
  exchange : SameExchange initiator.exchange responder.exchange
  identities : (parties initiator.party).auth.identityBinding prims =
    (parties responder.party).auth.identityBinding prims
  sessionId : initiator.session.sessionId = responder.session.sessionId
  algo : initiator.session.algo = responder.session.algo
  responderOpens : Session.Opens initiator.session responder.session
  initiatorOpens : Session.Opens responder.session initiator.session
  negotiated : initiator.session.algo = AeadAlgo.negotiate (parties responder.party).preferred
    (parties initiator.party).preferred

/-- **Records over one transcript match.** -/
theorem matching_of_transcript (correct : prims.KeyExchangeCorrect) {before before' : List Record}
    {initiator responder : Record} (finalized : initiator.deed = .finalized)
    (responded : responder.deed = .responded)
    (initiatorJustified : Justified prims parties before initiator)
    (responderJustified : Justified prims parties before' responder)
    (transcript : transcriptOf prims parties initiator = transcriptOf prims parties responder) :
    Matching prims parties initiator responder := by
  rw [Justified, finalized] at initiatorJustified
  rw [Justified, responded] at responderJustified
  obtain ⟨⟨start, first, firstExchange, firstInit, finalizes, firstSession⟩, -⟩ := initiatorJustified
  obtain ⟨coins, second, secondExchange, responds, secondSession⟩ := responderJustified
  obtain ⟨pk, -, -, resp⟩ := responds.reply
  have initKind : first.init.msgType = .init := by rw [firstInit]; rfl
  have respKind : second.resp.msgType = .response := by rw [resp]; rfl
  have same := congrArg Transcript.stream transcript
  simp only [transcriptOf, ← firstExchange, ← secondExchange] at same
  obtain ⟨exchange, identities⟩ :=
    sameExchange_of_stream initKind responds.kind finalizes.kind respKind same
  have ownX : first.init.x25519Pub = prims.x25519Public start.ephX := by rw [firstInit]; rfl
  have ownKem : first.init.kem = prims.mlkemPublic start.mlkemSk := by rw [firstInit]; rfl
  obtain ⟨shared, chosen⟩ := same_secrets correct finalizes responds ownX ownKem exchange
  have proposed : peerPreference second.init.aeadAlgo = (parties initiator.party).preferred := by
    rw [← exchange.proposed, firstInit]
    show peerPreference (parties initiator.party).preferred.asU8 = _
    rw [peerPreference, AeadAlgo.fromU8_asU8]
  rw [firstExchange, secondExchange] at exchange
  refine ⟨transcript, exchange, identities, ?_, ?_, ?_, ?_, ?_⟩
  · rw [firstSession, secondSession, View.session, View.session, shared]
    rfl
  · rw [firstSession, secondSession]
    exact chosen
  · rw [firstSession, secondSession]
    exact opens_views shared chosen true
  · rw [firstSession, secondSession]
    exact opens_views shared.symm chosen.symm false
  · rw [firstSession]
    show first.chosen = _
    rw [chosen, responds.chosen, proposed]

/-- The hash inputs of a whole log. -/
def logInputs (prims : Primitives) (parties : Nat → Party) (log : List Record) : Set Bytes :=
  {input | ∃ record ∈ log, input ∈ hashInputs prims parties record}

/-- **Equal signed messages come from equal labels and equal transcripts.** -/
theorem same_of_roleBoundHash {log : List Record}
    (collisionFree : prims.CollisionFreeOn (logInputs prims parties log)) {first second : Record}
    (firstIn : first ∈ log) (secondIn : second ∈ log) {label label' : Bytes}
    (known : label = sigLabelResponder ∨ label = sigLabelInitiator)
    (known' : label' = sigLabelResponder ∨ label' = sigLabelInitiator)
    (same : roleBoundHash prims label (hashOf prims parties first) =
      roleBoundHash prims label' (hashOf prims parties second)) :
    label = label' ∧ transcriptOf prims parties first = transcriptOf prims parties second := by
  have input : ∀ record ∈ log, ∀ label, label = sigLabelResponder ∨ label = sigLabelInitiator →
      roleBoundInput label (hashOf prims parties record) ∈ logInputs prims parties log := by
    intro record present label known
    refine ⟨record, present, ?_⟩
    rcases known with rfl | rfl <;> simp [hashInputs]
  obtain ⟨labels, hashes⟩ := roleBoundInput_injective
    (collisionFree _ (input first firstIn _ known) _ (input second secondIn _ known') same)
  have streams := collisionFree _ ⟨first, firstIn, List.mem_cons_self⟩ _
    ⟨second, secondIn, List.mem_cons_self⟩ hashes
  exact ⟨labels, congrArg Transcript.mk streams⟩

/-- **A released message was accepted in its own role only, over one transcript.** -/
theorem same_of_accepted {log : List Record}
    (collisionFree : prims.CollisionFreeOn (logInputs prims parties log)) {first second : Record}
    (firstIn : first ∈ log) (secondIn : second ∈ log) {message : Octets 32}
    (firstReleased : released prims parties first = some message)
    (secondAccepted : accepted prims parties second = some message) :
    first.deed.releasedLabel = second.deed.acceptedLabel ∧
      transcriptOf prims parties first = transcriptOf prims parties second := by
  obtain ⟨label, releasedLabel, rfl⟩ := Option.map_eq_some_iff.mp firstReleased
  obtain ⟨label', acceptedLabel, same⟩ := Option.map_eq_some_iff.mp secondAccepted
  have known : label = sigLabelResponder ∨ label = sigLabelInitiator := by
    cases deed : first.deed <;> rw [deed] at releasedLabel <;> cases releasedLabel <;> simp
  have known' : label' = sigLabelResponder ∨ label' = sigLabelInitiator := by
    cases deed : second.deed <;> rw [deed] at acceptedLabel <;> cases acceptedLabel <;> simp
  obtain ⟨labels, transcripts⟩ :=
    same_of_roleBoundHash collisionFree firstIn secondIn known known' same.symm
  rw [releasedLabel, acceptedLabel, labels]
  exact ⟨rfl, transcripts⟩

/-- **Agreement.** In every run against an adversary who cannot forge signatures, over a hash that
does not collide on the run's inputs:

* before every accepted Response a holder of the peer's keys answered over the same transcript, and
  the two records match: versions, keys, ciphertext, ciphers, identities and sessions;
* before every accepted Confirm a holder of the peer's keys finalised over the same transcript, and
  the records match;
* no message released in one role is accepted in the other. -/
theorem agreement (correct : prims.KeyExchangeCorrect) {events : List ArenaEvent} {last : Arena}
    (run : Run (Guarded (Unforgeable prims parties) (Step prims parties)) empty events last)
    (collisionFree : prims.CollisionFreeOn (logInputs prims parties last.log)) :
    (∀ later earlier initiator, last.log = later ++ initiator :: earlier →
      initiator.deed = .finalized → ∃ responder ∈ earlier, responder.deed = .responded ∧
        (parties responder.party).auth.ownKeys prims = (parties initiator.party).auth.peerKeys ∧
          Matching prims parties initiator responder) ∧
    (∀ later earlier responder, last.log = later ++ responder :: earlier →
      responder.deed = .confirmed → ∃ initiator ∈ earlier, initiator.deed = .finalized ∧
        (parties initiator.party).auth.ownKeys prims = (parties responder.party).auth.peerKeys ∧
          Matching prims parties initiator responder) ∧
    ∀ first ∈ last.log, ∀ second ∈ last.log, ∀ message,
      released prims parties first = some message → accepted prims parties second = some message →
        first.deed.releasedLabel = second.deed.acceptedLabel := by
  have grounded := (sound_run run).grounded
  refine ⟨?_, ?_, fun first firstIn second secondIn message firstReleased secondAccepted =>
    (same_of_accepted collisionFree firstIn secondIn firstReleased secondAccepted).1⟩
  · intro later earlier initiator split deed
    rw [split] at grounded
    obtain ⟨justified, groundedEarlier⟩ := grounded.split
    have initiatorIn : initiator ∈ last.log := split ▸ List.mem_append_right _ List.mem_cons_self
    obtain ⟨responder, present, keys, signed⟩ : Signed prims parties earlier
        (parties initiator.party).auth.peerKeys
        (roleBoundHash prims sigLabelResponder (hashOf prims parties initiator)) := by
      rw [Justified, deed] at justified
      exact justified.2
    have responderIn : responder ∈ last.log :=
      split ▸ List.mem_append_right _ (List.mem_cons_of_mem _ present)
    have accepts : accepted prims parties initiator =
        some (roleBoundHash prims sigLabelResponder (hashOf prims parties initiator)) := by
      rw [accepted, deed]
      rfl
    obtain ⟨label, transcript⟩ := same_of_accepted collisionFree responderIn initiatorIn signed accepts
    have role : responder.deed = .responded := by
      rw [deed] at label
      cases kind : responder.deed with
      | responded => rfl
      | finalized => rw [kind] at label; exact absurd (Option.some.inj label).symm sigLabel_ne
      | confirmed => rw [kind] at label; cases label
    obtain ⟨before, responderJustified⟩ := groundedEarlier.of_mem present
    exact ⟨responder, present, role, keys,
      matching_of_transcript correct deed role justified responderJustified transcript.symm⟩
  · intro later earlier responder split deed
    rw [split] at grounded
    obtain ⟨justified, groundedEarlier⟩ := grounded.split
    have responderIn : responder ∈ last.log := split ▸ List.mem_append_right _ List.mem_cons_self
    rw [Justified, deed] at justified
    obtain ⟨answered, initiator, present, keys, signed⟩ := justified
    have initiatorIn : initiator ∈ last.log :=
      split ▸ List.mem_append_right _ (List.mem_cons_of_mem _ present)
    have accepts : accepted prims parties responder =
        some (roleBoundHash prims sigLabelInitiator (hashOf prims parties responder)) := by
      rw [accepted, deed]
      rfl
    obtain ⟨label, transcript⟩ := same_of_accepted collisionFree initiatorIn responderIn signed accepts
    have role : initiator.deed = .finalized := by
      rw [deed] at label
      cases kind : initiator.deed with
      | responded => rw [kind] at label; exact absurd (Option.some.inj label) sigLabel_ne
      | finalized => rfl
      | confirmed => rw [kind] at label; cases label
    obtain ⟨before, initiatorJustified⟩ := groundedEarlier.of_mem present
    obtain ⟨before', responderJustified⟩ := groundedEarlier.of_mem answered
    -- the Confirm completes the exchange of the Response this party signed before
    have fits := matching_of_transcript correct role rfl initiatorJustified responderJustified
      transcript
    exact ⟨initiator, present, role, keys, ⟨fits.transcript, fits.exchange, fits.identities,
      fits.sessionId, fits.algo, fits.responderOpens, fits.initiatorOpens, fits.negotiated⟩⟩

/-- **The honest handshake is a run of the arena**, over one transcript. -/
theorem honest_run (parties : Nat → Party) (keys : prims.KeyExchangeCorrect) (signatures : prims.SignatureCorrect)
    (cross : Authenticator.Cross prims (parties 0).auth (parties 1).auth)
    (fits : (parties 0).auth.signatureLen prims ≤ 6923) {startCoins : StartCoins}
    {respondCoins : RespondCoins} (confirmCoins : ConfirmCoins)
    (contributory : nonContributory
      (prims.diffieHellman respondCoins.ephX (prims.x25519Public startCoins.ephX)) = false) :
    ∃ events last binding init resp,
      Run (Guarded (Unforgeable prims parties) (Step prims parties)) empty events last ∧
        last.log.map Record.deed = [.confirmed, .finalized, .responded] ∧
          ∀ record ∈ last.log, transcriptOf prims parties record =
            ((Transcript.new.absorb binding).absorb init).absorb resp := by
  obtain ⟨initWire, encoded⟩ := encode_exists
    ((length_initMessage_sig (parties 0).auth (parties 0).preferred startCoins).le.trans fits)
    startCoins.padNoise
  have started := start_eq_ok_iff.mpr ⟨encoded, rfl⟩
  have decoded := HandshakeMessage.decode_encode rfl encoded
  obtain ⟨view, respWire, confirmWire, viewInit, responds, received, responded, finalized, returned,
    confirmed⟩ := honest_exchange keys signatures cross fits (parties 1).preferred confirmCoins
      contributory decoded
  have transcript := transcript_mirrorView cross viewInit
  have hash := hash_mirrorView cross viewInit
  have initReceived : HandshakeMessage.decode initWire = .ok view.init := by
    rw [viewInit]
    exact decoded
  let own := initMessage prims (parties 0).auth (parties 0).preferred startCoins
  let waiting : Instance := ⟨0, .started startCoins, .sentInit startCoins.ephX startCoins.mlkemSk
    (initTranscript prims (parties 0).auth own)⟩
  let pending : Instance := ⟨1, .responded view.toExchange,
    .sentResponse (view.session prims false) (view.hash prims (parties 1).auth)⟩
  let initiated : Instance :=
    ⟨0, .started startCoins, .established ((mirrorView own view).session prims true)⟩
  let completed : Instance :=
    ⟨1, .responded view.toExchange, .established (view.session prims false)⟩
  let answer : Record := ⟨.responded, 1, view.toExchange, view.session prims false⟩
  let acceptance : Record :=
    ⟨.finalized, 0, ⟨own, view.resp⟩, (mirrorView own view).session prims true⟩
  let completion : Record := ⟨.confirmed, 1, view.toExchange, view.session prims false⟩
  have first : Step prims parties empty (.start 0 startCoins) ⟨[waiting], []⟩ := .start started
  have second : Step prims parties ⟨[waiting], []⟩ (.respond 1 initWire respondCoins)
      ⟨[waiting, pending], [answer]⟩ := .respond responded initReceived received
  have third : Step prims parties ⟨[waiting, pending], [answer]⟩ (.finalize 0 respWire confirmCoins)
      ⟨[initiated, pending], [acceptance, answer]⟩ := .finalize rfl finalized received
  have fourth : Step prims parties ⟨[initiated, pending], [acceptance, answer]⟩
      (.confirm 1 confirmWire) ⟨[initiated, completed], [completion, acceptance, answer]⟩ :=
    .confirm rfl confirmed
  have firstHonest : Unforgeable prims parties empty (.start 0 startCoins) := by
    rintro _ _ (⟨_, same⟩ | same) <;> cases same
  have secondHonest : Unforgeable prims parties ⟨[waiting], []⟩
      (.respond 1 initWire respondCoins) := by
    rintro _ _ (⟨_, same⟩ | same) <;> cases same
  have thirdHonest : Unforgeable prims parties ⟨[waiting, pending], [answer]⟩
      (.finalize 0 respWire confirmCoins) := by
    intro index raw checks target message checked present delivered asked _
    rcases checks with ⟨coins, same⟩ | same
    · obtain ⟨rfl, rfl, -⟩ := ArenaEvent.finalize.inj same
      obtain rfl := Option.some.inj present
      obtain rfl := Except.ok.inj (received.symm.trans delivered)
      obtain rfl := Option.some.inj asked
      refine ⟨answer, List.mem_singleton_self _, cross.symm.ownKeys, ?_⟩
      exact congrArg (fun hash => some (roleBoundHash prims sigLabelResponder hash)) hash.symm
    · cases same
  have fourthHonest : Unforgeable prims parties ⟨[initiated, pending], [acceptance, answer]⟩
      (.confirm 1 confirmWire) := by
    intro index raw checks target message checked present delivered asked _
    rcases checks with ⟨coins, same⟩ | same
    · cases same
    · obtain ⟨rfl, rfl⟩ := ArenaEvent.confirm.inj same
      obtain rfl := Option.some.inj present
      obtain rfl := Option.some.inj asked
      refine ⟨acceptance, List.mem_cons_self, cross.ownKeys, ?_⟩
      exact congrArg (fun hash => some (roleBoundHash prims sigLabelInitiator hash)) hash
  refine ⟨_, _, (parties 1).auth.identityBinding prims, view.init.transcriptBytes,
    view.resp.transcriptBytes,
    .next ⟨firstHonest, first⟩ (.next ⟨secondHonest, second⟩
      (.next ⟨thirdHonest, third⟩ (.next ⟨fourthHonest, fourth⟩ (.done _)))), rfl, ?_⟩
  intro record present
  rcases List.mem_cons.mp present with rfl | present
  · rfl
  rcases List.mem_cons.mp present with rfl | present
  · exact transcript
  rcases List.mem_cons.mp present with rfl | present
  · rfl
  · cases present

/-- The parties of a sample run. -/
def sampleParties : Nat → Party
  | 0 => ⟨sampleInitiator, .aegis256X2⟩
  | _ => ⟨sampleResponder, .aegis256X2⟩

/-- The transparent hash separates inputs whose first octets differ. -/
theorem collisionFree_of_fronts {parts : List (Bytes × Bytes)}
    (long : ∀ part ∈ parts, 17 ≤ part.1.length)
    (separate : ∀ first ∈ parts, ∀ second ∈ parts, first.1.take 17 = second.1.take 17 → first = second) :
    Primitives.transparent.CollisionFreeOn {input | ∃ part ∈ parts, input = part.1 ++ part.2} := by
  have front : ∀ part ∈ parts, (Primitives.transparent.sha256 (part.1 ++ part.2)).bytes.take 17 =
      part.1.take 17 := by
    intro part present
    have enough := long part present
    show ((part.1 ++ part.2 ++ List.replicate 32 0).take 32).take 17 = part.1.take 17
    rw [List.take_take, List.append_assoc]
    exact List.take_append_of_le_length enough
  rintro _ ⟨first, firstIn, rfl⟩ _ ⟨second, secondIn, rfl⟩ same
  have fronts : first.1.take 17 = second.1.take 17 := by
    rw [← front first firstIn, ← front second secondIn, same]
  rw [separate first firstIn second secondIn fronts]

/-- The three kinds of hash inputs start differently. -/
theorem fronts_ne : Transcript.new.stream.take 17 ≠ sigLabelResponder.take 17 ∧
    Transcript.new.stream.take 17 ≠ sigLabelInitiator.take 17 ∧
      sigLabelResponder.take 17 ≠ sigLabelInitiator.take 17 := by decide

/-- Over one transcript the transparent hash does not collide. -/
theorem collisionFree_sample {parties : Nat → Party} {log : List Record} {binding init resp : Bytes}
    (one : ∀ record ∈ log, transcriptOf .transparent parties record =
      ((Transcript.new.absorb binding).absorb init).absorb resp) :
    Primitives.transparent.CollisionFreeOn (logInputs .transparent parties log) := by
  obtain ⟨rest, split⟩ : ∃ rest, (((Transcript.new.absorb binding).absorb init).absorb resp).stream =
      Transcript.new.stream ++ rest := by
    simp only [Transcript.absorb, List.append_assoc]
    exact ⟨_, rfl⟩
  generalize ((Transcript.new.absorb binding).absorb init).absorb resp = whole at one split
  let hash := (whole.hash .transparent).bytes
  let parts := [(Transcript.new.stream, rest), (sigLabelResponder, hash), (sigLabelInitiator, hash)]
  have free : Primitives.transparent.CollisionFreeOn {input | ∃ part ∈ parts, input = part.1 ++ part.2} := by
    obtain ⟨streamResponder, streamInitiator, roles⟩ := fronts_ne
    refine collisionFree_of_fronts ?_ ?_
    · simp only [parts, List.forall_mem_cons, List.not_mem_nil, false_imp_iff, implies_true, and_true]
      decide
    · simp only [parts, List.forall_mem_cons, List.not_mem_nil, false_imp_iff, implies_true, and_true]
      exact ⟨⟨trivial, fun same => absurd same streamResponder,
          fun same => absurd same streamInitiator⟩,
        ⟨fun same => absurd same.symm streamResponder, trivial, fun same => absurd same roles⟩,
        fun same => absurd same.symm streamInitiator, fun same => absurd same.symm roles⟩
  have within : ∀ input ∈ logInputs .transparent parties log,
      ∃ part ∈ parts, input = part.1 ++ part.2 := by
    rintro input ⟨record, present, among⟩
    have sameHash : hashOf .transparent parties record = whole.hash .transparent :=
      congrArg (Transcript.hash .transparent) (one record present)
    rw [hashInputs, one record present, sameHash, split] at among
    simpa [parts, hash, roleBoundInput] using among
  exact fun first firstIn second secondIn same =>
    free first (within first firstIn) second (within second secondIn) same

/-- **The sample run agrees.** -/
theorem agreement_sample : ∃ events last,
    Run (Guarded (Unforgeable .transparent sampleParties) (Step .transparent sampleParties)) empty
      events last ∧ last.log.map Record.deed = [.confirmed, .finalized, .responded] ∧
    ∀ later earlier initiator, last.log = later ++ initiator :: earlier →
      initiator.deed = .finalized → ∃ responder ∈ earlier,
        Matching .transparent sampleParties initiator responder := by
  obtain ⟨events, last, binding, init, resp, run, deeds, one⟩ := honest_run sampleParties
    Primitives.transparent_keyExchangeCorrect Primitives.transparent_signatureCorrect
    sample_cross (by decide) sampleConfirm sample_contributory
  obtain ⟨accepted, -, -⟩ := agreement Primitives.transparent_keyExchangeCorrect run
    (collisionFree_sample one)
  refine ⟨events, last, run, deeds, fun later earlier initiator split deed => ?_⟩
  obtain ⟨responder, present, -, -, fits⟩ := accepted later earlier initiator split deed
  exact ⟨responder, present, fits⟩

end Arena

end ChameleonPQ
