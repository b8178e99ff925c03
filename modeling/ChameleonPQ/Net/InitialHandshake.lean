/-
**The initial handshake over a slow network that loses nothing.**

`run_handshake_initiator` against `run_handshake_responder`.

* `Sound`, `sound_run` — until its confirm timeout, an answer no Init datagram disturbed is the one the
  responder waits on, with exactly the Confirm datagrams delivered so far in the reassembler.
* `initial_handshake` — a Confirm in time completes an undisturbed answer; `late_init_disturbs` — a
  resent Init is taken for the Confirm, and the Confirm is then skipped.
-/

import ChameleonPQ.Net.Network

namespace ChameleonPQ

open Library Library.Runs Handshake

/-! ### What the records say -/

section Records

variable (prims : Primitives) (ends : Ends) (start : StartCoins)

/-- The exchange an answer belongs to, as the responder saw it. -/
structure Answer.Describes (answer : Answer) (view : View) : Prop where
  received : HandshakeMessage.decode answer.initWire = .ok view.init
  responds : Responds prims ends.responder.auth ends.responder.preferred answer.coins view
  session : answer.session = view.session prims false
  hash : answer.hash = view.hash prims ends.responder.auth

/-- The exchange the Confirm belongs to, as the initiator saw it. -/
structure Confirmation.Describes (confirmation : Confirmation) (view : View) : Prop where
  init : view.init = initMessage prims ends.initiator.auth ends.initiator.preferred start
  received : HandshakeMessage.decode confirmation.respWire = .ok view.resp
  finalizes : Finalizes prims ends.initiator.auth start.ephX start.mlkemSk view

namespace Network

/-- **The Response the Confirm answers**: it was sent before the Confirm, and the Confirm is signed over
its transcript hash. -/
def Confirms (net : Network) (number : Nat) (answer : Answer) : Prop :=
  net.answers[number]? = some answer ∧ ∃ confirmation view, net.confirmation = some confirmation ∧
    number < confirmation.answered ∧ confirmation.Describes prims ends start view ∧
      view.hash prims ends.initiator.auth = answer.hash

/-- The transcripts of a run. -/
def transcripts (net : Network) : Set Bytes :=
  {stream | (∃ answer ∈ net.answers, ∃ view, answer.Describes prims ends view ∧
      stream = (view.transcript prims ends.responder.auth).stream) ∨
    ∃ confirmation, net.confirmation = some confirmation ∧ ∃ view,
      confirmation.Describes prims ends start view ∧
        stream = (view.transcript prims ends.initiator.auth).stream}

/-! ### The invariant -/

/-- Some of the undisturbed answers are still waited on, up to their timeout. -/
def Waits (Eligible : Nat → Prop) (Ready : Reassembler → Prop) (net : Network) : Prop :=
  ∀ number answer, Eligible number → net.answers[number]? = some answer → number ∉ net.disturbed →
    answer.sentAt + hsConfirmTimeout ≤ net.now ∨
      number + 1 = net.answers.length ∧ ∃ reasm, Ready reasm ∧ net.responder.phase =
        .confirming (.sentResponse answer.session answer.hash) ends.initiatorAddr reasm
          (answer.sentAt + hsConfirmTimeout)

/-- The initiator succeeded. -/
structure Concluded (confirmation : Confirmation) (view : View) (net : Network) : Prop where
  recorded : net.confirmation = some confirmation
  describes : confirmation.Describes prims ends start view
  finished : net.initiator.phase = .finished (.ok (view.session prims true))
  answered : confirmation.answered ≤ net.answers.length

/-- **How far the run is.** -/
inductive Stage (net : Network) : Prop
  /-- The initiator is at work, or failed. -/
  | exchanging : (∀ session, net.initiator.phase ≠ .finished (.ok session)) → net.arrived = none →
      (∀ datagram ∈ net.toResponder, datagram.purpose = .init) →
      Waits ends (fun _ => True) (· = .new) net → Stage net
  /-- The Confirm is on its way: old Init datagrams first, then the datagrams `count` and later. -/
  | confirming {confirmation : Confirmation} {view : View} {confirmWire : Bytes}
      {coins : ConfirmCoins} (inits datagrams : List Bytes) (count : Nat) :
      Concluded prims ends start confirmation view net → net.arrived = none →
      HandshakeMessage.decode confirmWire =
        .ok (view.confirmMessage prims ends.initiator.auth coins) →
      net.toResponder = inits.map (fun raw => ⟨raw, .init⟩) ++
        (datagrams.drop count).map (fun raw => ⟨raw, .confirm⟩) →
      (inits ≠ [] → count = 0) → count < datagrams.length →
      Receiving prims ends.responder.hsObf datagrams confirmWire 0 .new →
      Waits ends (· < confirmation.answered)
        (Receiving prims ends.responder.hsObf datagrams confirmWire count) net → Stage net
  /-- The Confirm arrived. -/
  | settled {confirmation : Confirmation} {view : View} {time : Nat} :
      Concluded prims ends start confirmation view net → net.arrived = some time →
      net.toResponder = [] →
      (∀ number answer, number < confirmation.answered → net.answers[number]? = some answer →
        number ∉ net.disturbed → view.hash prims ends.initiator.auth = answer.hash →
          time < answer.sentAt + hsConfirmTimeout →
            net.responder.phase = .finished (.ok (answer.session, ends.initiatorAddr))) → Stage net

/-- **The invariant of the network.** -/
structure Sound (net : Network) : Prop where
  handshake : net.initiator.handshake = .sentInit start.ephX start.mlkemSk
    (initTranscript prims ends.initiator.auth
      (initMessage prims ends.initiator.auth ends.initiator.preferred start))
  answers : ∀ answer ∈ net.answers, ∃ view, answer.Describes prims ends view
  stage : Stage prims ends start net

end Network

end Records

namespace Network

variable {prims : Primitives} {ends : Ends} {start : StartCoins} {net : Network}
  {Eligible : Nat → Prop} {Ready : Reassembler → Prop}

/-- **A new answer** is genuine, and the responder waits on it. -/
theorem newAnswers_cases (prims : Primitives) (ends : Ends) (net : Network) (raw : Bytes)
    (coins : DriverCoins) :
    let after := (net.responder.receive prims ends.responder net.now ends.initiatorAddr raw coins).1
    net.newAnswers prims ends after raw coins = [] ∨
      ∃ answer, net.newAnswers prims ends after raw coins = [answer] ∧
        (∃ view, answer.Describes prims ends view) ∧ answer.sentAt = net.now ∧ after.phase =
          .confirming (.sentResponse answer.session answer.hash) ends.initiatorAddr .new
            (net.now + hsConfirmTimeout) := by
  intro after
  unfold newAnswers
  split
  · rename_i reasm listening
    unfold recordAnswer
    split
    · rename_i session hash peer reasm' deadline confirming
      right
      obtain ⟨initWire, respWire, complete, responded, rfl, rfl, rfl⟩ :=
        Responder.receive_confirming listening confirming
      obtain ⟨view, decoded, responds, -, same⟩ := respond_eq_ok_iff.mp responded
      obtain ⟨rfl, rfl⟩ := Handshake.sentResponse.inj same
      refine ⟨_, rfl, ⟨view, ?_, responds, rfl, rfl⟩, rfl, confirming⟩
      rw [complete]
      exact decoded
    · exact .inl rfl
  · exact .inl rfl

/-- Nothing is answered in phase 2. -/
theorem newAnswers_confirming {handshake : Handshake} {peer : SocketAddr} {reasm : Reassembler}
    {deadline : Nat} (confirming : net.responder.phase = .confirming handshake peer reasm deadline)
    (after : Responder) (raw : Bytes) (coins : DriverCoins) :
    net.newAnswers prims ends after raw coins = [] := by
  rw [newAnswers, confirming]

/-- What the answers wait on is the responder's affair. -/
theorem Waits.frame {after : Network} (waits : Waits ends Eligible Ready net)
    (now : after.now = net.now) (responder : after.responder = net.responder)
    (answers : after.answers = net.answers) (disturbed : after.disturbed = net.disturbed) :
    Waits ends Eligible Ready after := by
  unfold Waits
  rw [now, responder, answers, disturbed]
  exact waits

/-- Time passes. -/
theorem Waits.tick (waits : Waits ends Eligible Ready net) (span : Nat) :
    Waits ends Eligible Ready { net with now := net.now + span } := by
  intro number answer eligible present undisturbed
  rcases waits number answer eligible present undisturbed with lapsed | current
  · exact .inl (lapsed.trans (Nat.le_add_right _ _))
  · exact .inr current

/-- The responder's timers leave an answer alone before its timeout. -/
theorem Waits.responderTimeOut (waits : Waits ends Eligible Ready net) :
    Waits ends Eligible Ready { net with responder := net.responder.timeOut net.now } := by
  intro number answer eligible present undisturbed
  rcases waits number answer eligible present undisturbed with lapsed | ⟨last, reasm, ready, phase⟩
  · exact .inl lapsed
  · by_cases early : net.now < answer.sentAt + hsConfirmTimeout
    · have same : net.responder.timeOut net.now = net.responder := by
        rw [Responder.timeOut, phase]
        exact if_pos early
      exact .inr ⟨last, reasm, ready, same.symm ▸ phase⟩
    · exact .inl (Nat.not_lt.mp early)

theorem Waits.prune (waits : Waits ends Eligible Ready net) :
    Waits ends Eligible Ready { net with responder := net.responder.prune net.now } := by
  intro number answer eligible present undisturbed
  rcases waits number answer eligible present undisturbed with lapsed | ⟨last, reasm, ready, phase⟩
  · exact .inl lapsed
  · have same : net.responder.prune net.now = net.responder := by rw [Responder.prune, phase]
    exact .inr ⟨last, reasm, ready, same.symm ▸ phase⟩

/-- A new answer joins those waited on. -/
theorem Waits.answered {datagram : Sent} {rest : List Sent} {coins : DriverCoins} {number : Nat}
    {answer : Answer} (ready : Ready .new) (later : net.answers.length ≤ number)
    (present : (net.responderTakes prims ends datagram rest coins).answers[number]? = some answer) :
    number + 1 = (net.responderTakes prims ends datagram rest coins).answers.length ∧
      ∃ reasm, Ready reasm ∧ (net.responderTakes prims ends datagram rest coins).responder.phase =
        .confirming (.sentResponse answer.session answer.hash) ends.initiatorAddr reasm
          (answer.sentAt + hsConfirmTimeout) := by
  simp only [responderTakes] at present ⊢
  rcases newAnswers_cases prims ends net datagram.raw coins with
    nothing | ⟨new, one, -, sentAt, phase⟩
  · rw [nothing, List.append_nil, List.getElem?_eq_none later] at present
    cases present
  · rw [one] at present ⊢
    have inside := (List.getElem?_eq_some_iff.mp present).1
    rw [List.length_append, List.length_singleton] at inside
    obtain rfl : number = net.answers.length := by omega
    rw [List.getElem?_concat_length] at present
    obtain rfl := Option.some.inj present
    exact ⟨by rw [List.length_append, List.length_singleton], .new, ready, sentAt ▸ phase⟩

/-- **An Init datagram leaves only undisturbed answers waited on.** -/
theorem Waits.takesInit (waits : Waits ends Eligible Ready net) {datagram : Sent} {rest : List Sent}
    (purpose : datagram.purpose = .init) (coins : DriverCoins)
    (fresh : ∀ number, Eligible number → number < net.answers.length ∨ Ready .new) :
    Waits ends Eligible Ready (net.responderTakes prims ends datagram rest coins) := by
  intro number answer eligible present undisturbed
  rcases Nat.lt_or_ge number net.answers.length with old | later
  · have known : net.answers[number]? = some answer := by
      rw [← present]
      exact (List.getElem?_append_left old).symm
    have calm : number ∉ net.disturbed := fun among =>
      undisturbed (List.mem_append_left _ among)
    rcases waits number answer eligible known calm with lapsed | ⟨last, reasm, -, phase⟩
    · exact .inl lapsed
    · -- the answer waited on is the one this datagram disturbs
      have here : number ∈ net.newDisturbed datagram.purpose := by
        unfold newDisturbed
        rw [phase, purpose]
        exact List.mem_singleton.mpr (by omega)
      exact absurd (List.mem_append_right _ here) undisturbed
  · rcases fresh number eligible with old | ready
    · exact absurd old (Nat.not_lt.mpr later)
    · exact .inr (Waits.answered ready later present)

section Confirm

variable {datagrams : List Bytes} {confirmWire raw : Bytes} {count : Nat} {rest : List Sent}

/-- An answer waited on is old and undisturbed before a datagram of the Confirm when it is after. -/
theorem before_confirm {number : Nat} {answer : Answer} {coins : DriverCoins}
    (old : number < net.answers.length)
    (present : (net.responderTakes prims ends ⟨raw, .confirm⟩ rest coins).answers[number]? =
      some answer)
    (undisturbed : number ∉ (net.responderTakes prims ends ⟨raw, .confirm⟩ rest coins).disturbed) :
    net.answers[number]? = some answer ∧ number ∉ net.disturbed := by
  refine ⟨?_, fun among => undisturbed (List.mem_append_left _ among)⟩
  rw [← present]
  exact (List.getElem?_append_left old).symm

/-- **A datagram of the Confirm, but the last one**, is gathered. -/
theorem Waits.takesConfirm
    (waits : Waits ends Eligible (Receiving prims ends.responder.hsObf datagrams confirmWire count) net)
    (next : datagrams[count]? = some raw) (more : count + 1 ≠ datagrams.length) (coins : DriverCoins)
    (old : ∀ number, Eligible number → number < net.answers.length) :
    Waits ends Eligible (Receiving prims ends.responder.hsObf datagrams confirmWire (count + 1))
      (net.responderTakes prims ends ⟨raw, .confirm⟩ rest coins) := by
  intro number answer eligible present undisturbed
  obtain ⟨known, calm⟩ := before_confirm (old number eligible) present undisturbed
  rcases waits number answer eligible known calm with lapsed | ⟨last, reasm, receiving, phase⟩
  · exact .inl lapsed
  · obtain ⟨after, eq, receiving'⟩ := receiving.push_more net.now next more
    refine .inr ⟨?_, after, receiving', ?_⟩
    · show number + 1 = (net.answers ++ net.newAnswers prims ends _ raw coins).length
      rw [newAnswers_confirming phase, List.append_nil]
      exact last
    · show (net.responder.receive prims ends.responder net.now ends.initiatorAddr raw coins).1.phase = _
      rw [Responder.receive, phase]
      dsimp only
      rw [if_neg (not_not.mpr rfl), eq]

/-- **The last datagram of the Confirm** completes the answer it confirms. -/
theorem Waits.completes
    (waits : Waits ends Eligible (Receiving prims ends.responder.hsObf datagrams confirmWire count) net)
    (next : datagrams[count]? = some raw) (last : count + 1 = datagrams.length) (coins : DriverCoins)
    {number : Nat} {answer : Answer} (eligible : Eligible number)
    (present : net.answers[number]? = some answer) (calm : number ∉ net.disturbed)
    (inTime : net.now < answer.sentAt + hsConfirmTimeout)
    (confirmed : confirm prims (.sentResponse answer.session answer.hash) confirmWire
      ends.responder.auth = .ok (.established answer.session)) :
    (net.responderTakes prims ends ⟨raw, .confirm⟩ rest coins).responder.phase =
      .finished (.ok (answer.session, ends.initiatorAddr)) := by
  rcases waits number answer eligible present calm with lapsed | ⟨-, reasm, receiving, phase⟩
  · exact absurd inTime (Nat.not_lt.mpr lapsed)
  · have pushed := receiving.push_last net.now next last
    show (net.responder.receive prims ends.responder net.now ends.initiatorAddr raw coins).1.phase = _
    rw [Responder.receive, phase]
    dsimp only
    rw [if_neg (not_not.mpr rfl), pushed]
    dsimp only
    rw [Responder.handleConfirm, confirmed]

end Confirm

/-! ### The steps of the initiator -/

/-- The responder and its record are not touched. -/
theorem initiatorTakes_frame (prims : Primitives) (ends : Ends) (net : Network) (raw : Bytes)
    (rest : List Bytes) (coins : DriverCoins) :
    let after := net.initiatorTakes prims ends raw rest coins
    after.now = net.now ∧ after.responder = net.responder ∧ after.answers = net.answers ∧
      after.disturbed = net.disturbed ∧ after.arrived = net.arrived ∧
        after.initiator.handshake = net.initiator.handshake := by
  intro after
  show _ ∧ _ ∧ _ ∧ _ ∧ _ ∧ (net.initiatorTakes prims ends raw rest coins).initiator.handshake = _
  simp only [after, initiatorTakes]
  split <;> exact ⟨rfl, rfl, rfl, rfl, rfl, Initiator.receive_handshake⟩

/-- **How the initiator's success looks from outside.** -/
theorem initiatorTakes_cases (aead : prims.AeadCorrect)
    (handshake : net.initiator.handshake = .sentInit start.ephX start.mlkemSk
      (initTranscript prims ends.initiator.auth
        (initMessage prims ends.initiator.auth ends.initiator.preferred start)))
    (running : ∀ session, net.initiator.phase ≠ .finished (.ok session)) (raw : Bytes)
    (rest : List Bytes) (coins : DriverCoins) :
    let after := net.initiatorTakes prims ends raw rest coins
    (∃ inits : List Bytes,
      after.toResponder = net.toResponder ++ inits.map (fun raw => ⟨raw, .init⟩) ∧
      ∀ session, after.initiator.phase ≠ .finished (.ok session)) ∨
    ∃ confirmation view confirmWire datagrams,
      Concluded prims ends start confirmation view after ∧
      HandshakeMessage.decode confirmWire =
        .ok (view.confirmMessage prims ends.initiator.auth coins.confirm) ∧
      after.toResponder = net.toResponder ++ datagrams.map (fun raw => ⟨raw, .confirm⟩) ∧
      confirmation.answered = net.answers.length ∧
      0 < datagrams.length ∧ Receiving prims ends.initiator.hsObf datagrams confirmWire 0 .new := by
  intro after
  by_cases success : ∃ session, (net.initiator.receive prims ends.initiator ends.responderAddr net.now
      ends.responderAddr raw coins).1.phase = .finished (.ok session)
  · right
    obtain ⟨session, finished⟩ := success
    cases waiting : net.initiator.phase with
    | finished result =>
      rw [Initiator.receive_finished waiting, waiting] at finished
      exact absurd (waiting.trans finished) (running session)
    | waiting attempt reasm deadline =>
      obtain ⟨message, confirmWire, complete, finalized, built⟩ := Initiator.receive_ok waiting finished
      rw [handshake] at finalized
      obtain ⟨view, init, decoded, finalizes, encoded, same⟩ := finalize_eq_ok_iff.mp finalized
      obtain rfl := Handshake.established.inj same
      have returned := HandshakeMessage.decode_encode rfl encoded
      obtain ⟨some_, receiving⟩ := receiving_of_built aead returned built
      have shape : after = { net with
          initiator := (net.initiator.receive prims ends.initiator ends.responderAddr net.now
            ends.responderAddr raw coins).1
          toInitiator := rest
          toResponder := net.toResponder ++ (net.initiator.receive prims ends.initiator
            ends.responderAddr net.now ends.responderAddr raw coins).2.map fun raw => ⟨raw, .confirm⟩
          confirmation := some ⟨message, net.answers.length⟩ } := by
        show net.initiatorTakes prims ends raw rest coins = _
        simp only [initiatorTakes, waiting, finished, complete, Option.getD_some]
      rw [shape]
      exact ⟨⟨message, net.answers.length⟩, view, confirmWire, _,
        ⟨rfl, ⟨init, decoded, finalizes⟩, finished, Nat.le_refl _⟩, returned, rfl, rfl, some_,
        receiving⟩
  · left
    have failing : ∀ session, (net.initiator.receive prims ends.initiator ends.responderAddr net.now
        ends.responderAddr raw coins).1.phase ≠ .finished (.ok session) :=
      fun session finished => success ⟨session, finished⟩
    have shape : after = { net with
        initiator := (net.initiator.receive prims ends.initiator ends.responderAddr net.now
          ends.responderAddr raw coins).1
        toInitiator := rest
        toResponder := net.toResponder ++ (net.initiator.receive prims ends.initiator
          ends.responderAddr net.now ends.responderAddr raw coins).2.map fun raw => ⟨raw, .init⟩ } := by
      show net.initiatorTakes prims ends raw rest coins = _
      simp only [initiatorTakes]
      split
      · rename_i finished
        exact absurd finished (failing _)
      · rfl
    rw [shape]
    exact ⟨_, rfl, failing⟩

/-- An initiator that has ended takes nothing in. -/
theorem initiatorTakes_finished {result : Result Session}
    (finished : net.initiator.phase = .finished result) (raw : Bytes) (rest : List Bytes)
    (coins : DriverCoins) :
    net.initiatorTakes prims ends raw rest coins = { net with toInitiator := rest } := by
  simp only [initiatorTakes, finished, Initiator.receive_finished finished, List.map_nil,
    List.append_nil]

/-! ### One step keeps the invariant -/

/-- A Confirm over an answer's transcript hash is accepted. -/
theorem confirm_answer (signatures : prims.SignatureCorrect)
    (cross : Authenticator.Cross prims ends.initiator.auth ends.responder.auth) {view : View}
    {coins : ConfirmCoins} {confirmWire : Bytes} {answer : Answer}
    (decoded : HandshakeMessage.decode confirmWire =
      .ok (view.confirmMessage prims ends.initiator.auth coins))
    (hash : view.hash prims ends.initiator.auth = answer.hash) :
    confirm prims (.sentResponse answer.session answer.hash) confirmWire ends.responder.auth =
      .ok (.established answer.session) := by
  refine confirm_eq_ok_iff.mpr ⟨_, _, _, rfl, decoded, rfl, ?_, rfl⟩
  show ends.responder.auth.verify prims _ (ends.initiator.auth.sign prims
    (roleBoundHash prims sigLabelInitiator (view.hash prims ends.initiator.auth))) = .ok ()
  rw [hash]
  exact Authenticator.verify_sign cross signatures _

theorem Concluded.frame {confirmation : Confirmation} {view : View} (after : Network)
    (concluded : Concluded prims ends start confirmation view net)
    (recorded : after.confirmation = net.confirmation) (initiator : after.initiator = net.initiator)
    (grows : net.answers.length ≤ after.answers.length) :
    Concluded prims ends start confirmation view after :=
  ⟨recorded.trans concluded.recorded, concluded.describes, initiator ▸ concluded.finished,
    concluded.answered.trans grows⟩

theorem queue_of_init {queue : List Sent} (inits : ∀ datagram ∈ queue, datagram.purpose = .init) :
    queue = (queue.map Sent.raw).map fun raw => ⟨raw, .init⟩ := by
  rw [List.map_map]
  refine (List.map_id queue).symm.trans (List.map_congr_left fun datagram present => ?_)
  show datagram = ⟨datagram.raw, .init⟩
  rw [← inits datagram present]

theorem answers_grow (prims : Primitives) (ends : Ends) (net : Network) (datagram : Sent) (rest : List Sent)
    (coins : DriverCoins) :
    net.answers.length ≤ (net.responderTakes prims ends datagram rest coins).answers.length := by
  show _ ≤ (net.answers ++ _).length
  rw [List.length_append]
  exact Nat.le_add_right _ _

/-- Only the last datagram of the Confirm ends the delivery. -/
theorem arrived_other {datagram : Sent} {rest : List Sent}
    (other : ¬ (datagram.purpose = .confirm ∧ rest = [])) (coins : DriverCoins) :
    (net.responderTakes prims ends datagram rest coins).arrived = net.arrived :=
  if_neg other

theorem arrived_last {datagram : Sent} {rest : List Sent} (purpose : datagram.purpose = .confirm)
    (last : rest = []) (coins : DriverCoins) :
    (net.responderTakes prims ends datagram rest coins).arrived = some net.now :=
  if_pos ⟨purpose, last⟩

/-- A datagram for the initiator. -/
theorem Stage.toInitiator (aead : prims.AeadCorrect)
    (sameKey : ends.responder.hsObf = ends.initiator.hsObf)
    (sound : Sound prims ends start net) (raw : Bytes) (rest : List Bytes) (coins : DriverCoins) :
    Stage prims ends start (net.initiatorTakes prims ends raw rest coins) := by
  obtain ⟨now, responder, answers, disturbed, arrived, -⟩ :=
    initiatorTakes_frame prims ends net raw rest coins
  cases sound.stage with
  | exchanging running notArrived inits waits =>
    have waits' := waits.frame now responder answers disturbed
    rcases initiatorTakes_cases aead sound.handshake running raw rest coins with
      ⟨more, queue, running'⟩ |
      ⟨confirmation, view, confirmWire, datagrams, concluded, decoded, queue, answered, nonempty,
        receiving⟩
    · refine .exchanging running' (arrived.trans notArrived) (fun datagram present => ?_) waits'
      rw [queue] at present
      rcases List.mem_append.mp present with present | present
      · exact inits datagram present
      · obtain ⟨_, -, rfl⟩ := List.mem_map.mp present
        rfl
    · rw [← sameKey] at receiving
      refine .confirming (net.toResponder.map Sent.raw) datagrams 0 concluded
        (arrived.trans notArrived) decoded ?_ (fun _ => rfl) nonempty receiving
        fun number answer _ present calm => ?_
      · rw [queue, ← queue_of_init inits]
        rfl
      · rcases waits' number answer trivial present calm with lapsed | ⟨last, reasm, rfl, phase⟩
        · exact .inl lapsed
        · exact .inr ⟨last, .new, receiving, phase⟩
  | confirming inits datagrams count concluded notArrived decoded queue order inside receiving waits =>
    rw [initiatorTakes_finished concluded.finished]
    exact .confirming inits datagrams count (concluded.frame _ rfl rfl (Nat.le_refl _)) notArrived
      decoded queue order inside receiving (waits.frame rfl rfl rfl rfl)
  | settled concluded arrivedAt queue done =>
    rw [initiatorTakes_finished concluded.finished]
    exact .settled (concluded.frame _ rfl rfl (Nat.le_refl _)) arrivedAt queue done

/-- A datagram for the responder. -/
theorem Stage.toResponder (signatures : prims.SignatureCorrect)
    (cross : Authenticator.Cross prims ends.initiator.auth ends.responder.auth)
    (stage : Stage prims ends start net) {datagram : Sent} {rest : List Sent}
    (waiting : net.toResponder = datagram :: rest) (coins : DriverCoins) :
    Stage prims ends start (net.responderTakes prims ends datagram rest coins) := by
  have grows := answers_grow prims ends net datagram rest coins
  cases stage with
  | exchanging running notArrived inits waits =>
    have purpose := inits datagram (waiting ▸ List.mem_cons_self)
    have other : ¬ (datagram.purpose = .confirm ∧ rest = []) := by
      rw [purpose]
      rintro ⟨⟨⟩, -⟩
    exact .exchanging running ((arrived_other other coins).trans notArrived)
      (fun other present => inits other (waiting ▸ List.mem_cons_of_mem _ present))
      (waits.takesInit purpose coins fun _ _ => .inr rfl)
  | confirming inits datagrams count concluded notArrived decoded queue order inside receiving waits =>
    have concluded' := concluded.frame (net.responderTakes prims ends datagram rest coins) rfl
      rfl grows
    have old : ∀ number, number < _ → number < net.answers.length :=
      fun number eligible => Nat.lt_of_lt_of_le eligible concluded.answered
    cases inits with
    | cons init inits =>
      -- an old Init datagram
      rw [waiting, List.map_cons, List.cons_append] at queue
      obtain ⟨rfl, rfl⟩ := List.cons.inj queue
      have other : ∀ rest : List Sent, ¬ ((⟨init, .init⟩ : Sent).purpose = .confirm ∧ rest = []) := by
        rintro _ ⟨⟨⟩, -⟩
      exact .confirming inits datagrams count concluded'
        ((arrived_other (other _) coins).trans notArrived) decoded rfl
        (fun _ => order (List.cons_ne_nil _ _)) inside receiving
        (waits.takesInit rfl coins fun number eligible => .inl (old number eligible))
    | nil =>
      -- the next datagram of the Confirm
      rw [waiting, List.map_nil, List.nil_append, List.drop_eq_getElem_cons inside,
        List.map_cons] at queue
      obtain ⟨rfl, rfl⟩ := List.cons.inj queue
      have next : datagrams[count]? = some datagrams[count] := List.getElem?_eq_getElem inside
      by_cases last : count + 1 = datagrams.length
      · have empty : (datagrams.drop (count + 1)).map (fun raw => Sent.mk raw .confirm) = [] := by
          rw [last, List.drop_length]
          rfl
        refine .settled concluded' (arrived_last rfl empty coins) empty
          fun number answer eligible present calm hash inTime => ?_
        obtain ⟨known, calm⟩ := before_confirm (old number eligible) present calm
        exact waits.completes next last coins eligible known calm inTime
          (confirm_answer signatures cross decoded hash)
      · have more : (datagrams.drop (count + 1)).map (fun raw => Sent.mk raw .confirm) ≠ [] := by
          intro empty
          have length := congrArg List.length empty
          rw [List.length_map, List.length_drop, List.length_nil] at length
          omega
        exact .confirming [] datagrams (count + 1) concluded'
          ((arrived_other (fun confirm => more confirm.2) coins).trans notArrived) decoded rfl
          (fun some_ => absurd rfl some_) (by omega) receiving
          (waits.takesConfirm next last coins old)
  | settled concluded arrivedAt queue done =>
    rw [waiting] at queue
    cases queue

/-- The responder does something else that keeps what is waited on, and what has ended. -/
theorem Stage.responder {after : Responder} (stage : Stage prims ends start net)
    (keeps : ∀ Eligible Ready, Waits ends Eligible Ready net →
      Waits ends Eligible Ready { net with responder := after })
    (ended : ∀ result, net.responder.phase = .finished result → after.phase = .finished result) :
    Stage prims ends start { net with responder := after } := by
  cases stage with
  | exchanging running notArrived inits waits => exact .exchanging running notArrived inits (keeps _ _ waits)
  | confirming inits datagrams count concluded notArrived decoded queue order inside receiving waits =>
    exact .confirming inits datagrams count (concluded.frame _ rfl rfl (Nat.le_refl _)) notArrived
      decoded queue order inside receiving (keeps _ _ waits)
  | settled concluded arrivedAt queue done =>
    exact .settled (concluded.frame _ rfl rfl (Nat.le_refl _)) arrivedAt queue
      fun number answer eligible present calm hash inTime =>
        ended _ (done number answer eligible present calm hash inTime)

/-- The initiator's timer. -/
theorem Stage.initiatorTimeOut (stage : Stage prims ends start net) :
    Stage prims ends start { net with
      initiator := (net.initiator.timeOut net.now).1
      toResponder := net.toResponder ++ (net.initiator.timeOut net.now).2.map fun raw =>
        ⟨raw, .init⟩ } := by
  cases stage with
  | exchanging running notArrived inits waits =>
    refine .exchanging (fun session => Initiator.timeOut_ne_ok (running session)) notArrived
      (fun datagram present => ?_) (waits.frame rfl rfl rfl rfl)
    rcases List.mem_append.mp present with present | present
    · exact inits datagram present
    · obtain ⟨_, -, rfl⟩ := List.mem_map.mp present
      rfl
  | confirming inits datagrams count concluded notArrived decoded queue order inside receiving waits =>
    rw [Initiator.timeOut_finished concluded.finished, List.map_nil, List.append_nil]
    exact .confirming inits datagrams count concluded notArrived decoded queue order inside receiving
      waits
  | settled concluded arrivedAt queue done =>
    rw [Initiator.timeOut_finished concluded.finished, List.map_nil, List.append_nil]
    exact .settled concluded arrivedAt queue done

/-- Time passes. -/
theorem Stage.tick (stage : Stage prims ends start net) (span : Nat) :
    Stage prims ends start { net with now := net.now + span } := by
  cases stage with
  | exchanging running notArrived inits waits =>
    exact .exchanging running notArrived inits (waits.tick span)
  | confirming inits datagrams count concluded notArrived decoded queue order inside receiving waits =>
    exact .confirming inits datagrams count (concluded.frame _ rfl rfl (Nat.le_refl _)) notArrived
      decoded queue order inside receiving (waits.tick span)
  | settled concluded arrivedAt queue done =>
    exact .settled (concluded.frame _ rfl rfl (Nat.le_refl _)) arrivedAt queue done

section Runs

variable (aead : prims.AeadCorrect) (signatures : prims.SignatureCorrect)
  (cross : Authenticator.Cross prims ends.initiator.auth ends.responder.auth)
  (sameKey : ends.responder.hsObf = ends.initiator.hsObf)

include aead signatures cross sameKey

/-- **One step keeps the invariant.** -/
theorem sound_step {event : NetworkEvent} {after : Network} (sound : Sound prims ends start net)
    (taken : Taken (step prims ends) net event after) : Sound prims ends start after := by
  unfold Taken at taken
  cases event with
  | tick span =>
    obtain rfl := Option.some.inj taken
    exact ⟨sound.handshake, sound.answers, sound.stage.tick span⟩
  | toResponder coins =>
    simp only [step] at taken
    split at taken
    · cases taken
    rename_i datagram rest waiting
    obtain rfl := Option.some.inj taken
    refine ⟨sound.handshake, fun answer present => ?_,
      sound.stage.toResponder signatures cross waiting coins⟩
    rcases List.mem_append.mp present with present | present
    · exact sound.answers answer present
    · rcases newAnswers_cases prims ends net datagram.raw coins with
        nothing | ⟨new, one, described, -⟩
      · rw [nothing] at present
        cases present
      · rw [one] at present
        rw [List.mem_singleton.mp present]
        exact described
  | toInitiator coins =>
    simp only [step] at taken
    split at taken
    · cases taken
    rename_i raw rest waiting
    obtain rfl := Option.some.inj taken
    obtain ⟨-, -, answers, -, -, handshake⟩ :=
      initiatorTakes_frame prims ends net raw rest coins
    exact ⟨handshake.trans sound.handshake, fun answer present => sound.answers answer
      (answers ▸ present), Stage.toInitiator aead sameKey sound raw rest coins⟩
  | initiatorTimeOut =>
    obtain rfl := Option.some.inj taken
    exact ⟨Initiator.timeOut_handshake.trans sound.handshake, sound.answers,
      sound.stage.initiatorTimeOut⟩
  | responderTimeOut =>
    obtain rfl := Option.some.inj taken
    refine ⟨sound.handshake, sound.answers, sound.stage.responder
      (fun _ _ waits => waits.responderTimeOut) fun result finished => ?_⟩
    rw [Responder.timeOut, finished]
    exact finished
  | prune =>
    obtain rfl := Option.some.inj taken
    refine ⟨sound.handshake, sound.answers, sound.stage.responder
      (fun _ _ waits => waits.prune) fun result finished => ?_⟩
    rw [Responder.prune, finished]
    exact finished

/-- **Every run keeps the invariant.** -/
theorem sound_run {now : Nat} {secret : Octets 32} {envelope : HsObf.SealCoins} {first last : Network}
    {events : List NetworkEvent} (begun : begin prims ends now secret start envelope = .ok first)
    (run : Run (Taken (step prims ends)) first events last) : Sound prims ends start last := by
  refine run.invariant (Sound prims ends start)
    (fun _ _ _ sound taken => sound_step aead signatures cross sameKey sound taken) ?_
  unfold begin Initiator.begin at begun
  split at begun
  · cases begun
  rename_i initiator sent started
  obtain rfl := Except.ok.inj begun
  split at started
  · cases started
  rename_i handshake initWire hello
  obtain ⟨-, rfl⟩ := start_eq_ok_iff.mp hello
  split at started
  · cases started
  obtain ⟨rfl, rfl⟩ := Prod.mk.inj (Except.ok.inj started)
  refine ⟨rfl, nofun, .exchanging nofun rfl (fun datagram present => ?_) fun number answer _ present => ?_⟩
  · obtain ⟨_, -, rfl⟩ := List.mem_map.mp present
    rfl
  · cases present

end Runs

/-! ### The theorem -/

/-- **Both ends hold the same session.** -/
structure SameSession (initiator responder : Session) : Prop where
  sessionId : initiator.sessionId = responder.sessionId
  algo : initiator.algo = responder.algo
  responderOpens : Session.Opens initiator responder
  initiatorOpens : Session.Opens responder initiator

/-- One transcript, one session. -/
theorem sameSession_of_transcript (keys : prims.KeyExchangeCorrect) {confirmation : Confirmation}
    {answer : Answer} {initiator responder : View}
    (accepted : confirmation.Describes prims ends start initiator)
    (answered : answer.Describes prims ends responder)
    (same : (initiator.transcript prims ends.initiator.auth).stream =
      (responder.transcript prims ends.responder.auth).stream) :
    SameSession (initiator.session prims true) answer.session := by
  obtain ⟨pk, -, -, resp⟩ := answered.responds.reply
  have initKind : initiator.init.msgType = .init := by rw [accepted.init]; rfl
  have respKind : responder.resp.msgType = .response := by rw [resp]; rfl
  obtain ⟨exchange, -⟩ := sameExchange_of_stream initKind answered.responds.kind
    accepted.finalizes.kind respKind same
  have ownX : initiator.init.x25519Pub = prims.x25519Public start.ephX := by rw [accepted.init]; rfl
  have ownKem : initiator.init.kem = prims.mlkemPublic start.mlkemSk := by rw [accepted.init]; rfl
  obtain ⟨shared, chosen⟩ := same_secrets keys accepted.finalizes answered.responds ownX ownKem exchange
  rw [answered.session]
  refine ⟨?_, chosen, opens_views shared chosen true, opens_views shared.symm chosen.symm false⟩
  rw [View.session, View.session, shared]
  rfl

/-- **An undisturbed answer is completed.** In every run over a network that delays and loses nothing:
if the initiator returned a session and its Confirm arrived within the confirm timeout of the Response
it answers, and no Init datagram arrived while the responder waited for that Confirm, then the
responder returned the same session. -/
theorem initial_handshake (aead : prims.AeadCorrect) (keys : prims.KeyExchangeCorrect)
    (signatures : prims.SignatureCorrect)
    (cross : Authenticator.Cross prims ends.initiator.auth ends.responder.auth)
    (sameKey : ends.responder.hsObf = ends.initiator.hsObf) {now : Nat} {secret : Octets 32}
    {envelope : HsObf.SealCoins} {first last : Network} {events : List NetworkEvent}
    (begun : begin prims ends now secret start envelope = .ok first)
    (run : Run (Taken (step prims ends)) first events last)
    (collisionFree : prims.CollisionFreeOn (last.transcripts prims ends start)) {session : Session}
    (returned : last.initiator.phase = .finished (.ok session)) {time number : Nat} {answer : Answer}
    (arrived : last.arrived = some time) (confirms : last.Confirms prims ends start number answer)
    (inTime : time < answer.sentAt + hsConfirmTimeout) (undisturbed : number ∉ last.disturbed) :
    ∃ session', last.responder.phase = .finished (.ok (session', ends.initiatorAddr)) ∧
      SameSession session session' := by
  have sound := sound_run aead signatures cross sameKey begun run
  obtain ⟨present, confirmation, view, recorded, eligible, describes, hash⟩ := confirms
  cases sound.stage with
  | exchanging running notArrived inits waits => exact absurd returned (running session)
  | confirming _ _ _ concluded notArrived decoded queue order inside receiving waits =>
    rw [arrived] at notArrived
    cases notArrived
  | settled concluded arrivedAt queue done =>
    rename_i confirmation' view' time'
    obtain rfl : confirmation' = confirmation :=
      Option.some.inj (concluded.recorded.symm.trans recorded)
    obtain rfl : time' = time := Option.some.inj (arrivedAt.symm.trans arrived)
    obtain ⟨view'', described⟩ := sound.answers answer (List.mem_of_getElem? present)
    have sameResp : view'.resp = view.resp :=
      Except.ok.inj (concluded.describes.received.symm.trans describes.received)
    have sameExchange : view'.toExchange = view.toExchange :=
      Exchange.ext (concluded.describes.init.trans describes.init.symm) sameResp
    have hash' : view'.hash prims ends.initiator.auth = answer.hash := by
      rw [sameExchange]
      exact hash
    refine ⟨answer.session, done number answer eligible present undisturbed hash' inTime, ?_⟩
    obtain rfl : session = view'.session prims true :=
      Except.ok.inj (InitiatorPhase.finished.inj (returned.symm.trans concluded.finished))
    refine sameSession_of_transcript keys concluded.describes described (collisionFree _ ?_ _ ?_ ?_)
    · exact .inr ⟨confirmation', recorded, view', concluded.describes, rfl⟩
    · exact .inl ⟨answer, List.mem_of_getElem? present, view'', described, rfl⟩
    · exact hash'.trans described.hash

/-! ### Two runs of honest drivers -/

section Honest

variable {coins : DriverCoins} {messages : Messages}

/-- The only answer of the opening. -/
def onlyAnswer (prims : Primitives) (ends : Ends) (coins : DriverCoins) (now : Nat)
    (messages : Messages) : Answer :=
  ⟨messages.delivered, coins.respond, messages.view.session prims false,
    messages.view.hash prims ends.responder.auth, now⟩

/-- The initiator's view of the opening. -/
theorem describes_confirmation (honest : Honest prims ends start coins)
    (genuine : messages.Genuine prims ends start coins) (answered : Nat) :
    (Confirmation.mk messages.respWire answered).Describes prims ends start
      (mirrorView (ends.ownInit prims start) messages.view) := by
  obtain ⟨cookie, init⟩ := genuine.init
  exact ⟨rfl, genuine.answered,
    finalizes_mirrorView honest.keys honest.signatures honest.cross genuine.responds init⟩

/-- Its Confirm answers the only answer. -/
theorem confirms_opening (honest : Honest prims ends start coins)
    (genuine : messages.Genuine prims ends start coins) {now : Nat}
    (answers : net.answers = [onlyAnswer prims ends coins now messages])
    (confirmation : net.confirmation = some ⟨messages.respWire, 1⟩) :
    net.Confirms prims ends start 0 (onlyAnswer prims ends coins now messages) := by
  obtain ⟨cookie, init⟩ := genuine.init
  refine ⟨by rw [answers]; rfl, _, _, confirmation, Nat.one_pos,
    describes_confirmation honest genuine 1, ?_⟩
  exact hash_mirrorView honest.cross init

/-- The opening has one transcript. -/
theorem collisionFree_opening (honest : Honest prims ends start coins)
    (genuine : messages.Genuine prims ends start coins) {now : Nat}
    (answers : net.answers = [onlyAnswer prims ends coins now messages])
    (confirmation : net.confirmation = some ⟨messages.respWire, 1⟩) :
    prims.CollisionFreeOn (net.transcripts prims ends start) := by
  obtain ⟨cookie, init⟩ := genuine.init
  have one : ∀ stream ∈ net.transcripts prims ends start,
      stream = (messages.view.transcript prims ends.responder.auth).stream := by
    rintro stream (⟨answer, present, view, describes, rfl⟩ | ⟨_, recorded, view, describes, rfl⟩)
    · rw [answers] at present
      obtain rfl := List.mem_singleton.mp present
      have sameInit : view.init = messages.view.init :=
        Except.ok.inj (describes.received.symm.trans genuine.delivered)
      rw [transcript_of_responds describes.responds genuine.responds sameInit]
    · rw [confirmation] at recorded
      obtain rfl := Option.some.inj recorded
      have sameResp : view.resp = messages.view.resp :=
        Except.ok.inj (describes.received.symm.trans genuine.answered)
      have same : view.toExchange = (mirrorView (ends.ownInit prims start)
          messages.view).toExchange := Exchange.ext describes.init sameResp
      rw [same, transcript_mirrorView honest.cross init]
  exact fun first firstIn second secondIn _ => (one first firstIn).trans (one second secondIn).symm

/-- The Response ends the initiator well; `pending` is still on its way to the responder. -/
theorem Leads.conclude (net : Network) (genuine : messages.Genuine prims ends start coins) {attempt deadline : Nat}
    (handshake : net.initiator.handshake = ends.sentInit prims start)
    (waiting : net.initiator.phase = .waiting attempt .new deadline)
    (queue : net.toInitiator = messages.respDatagrams) :
    Leads prims ends net { net with
      initiator := net.initiator.finish (.ok ((mirrorView (ends.ownInit prims start)
        messages.view).session prims true))
      toInitiator := []
      toResponder := net.toResponder ++ tagged .confirm messages.confirmDatagrams
      confirmation := some ⟨messages.respWire, net.answers.length⟩ } := by
  have kind : messages.view.resp.msgType = .response := by
    obtain ⟨_, _, _, resp⟩ := genuine.responds.reply
    rw [resp]
    rfl
  have handled : net.initiator.handle prims ends.initiator net.now attempt messages.respWire coins =
      (net.initiator.finish (.ok ((mirrorView (ends.ownInit prims start)
        messages.view).session prims true)), messages.confirmDatagrams) :=
    Initiator.handle_response genuine.answered kind (handshake.symm ▸ genuine.finalized)
      genuine.confirmBuilt
  have leads := (waiting_takes net coins [] waiting genuine.respTravels.1 genuine.respTravels.2
    (queue.trans (List.append_nil _).symm)).2
  rw [handled] at leads
  exact leads _ rfl

/-- **Without a late Init the handshake completes.** -/
theorem honest_completes (honest : Honest prims ends start coins) {secret : Octets 32} {now : Nat}
    (stale : CookieState.valid prims secret now ends.initiatorAddr (.zero 16) = false) :
    ∃ first last answer session, begin prims ends now secret start coins.envelope = .ok first ∧
      Leads prims ends first last ∧ last.initiator.phase = .finished (.ok session) ∧
      last.arrived = some now ∧ last.Confirms prims ends start 0 answer ∧ answer.sentAt = now ∧
      last.disturbed = [] ∧ prims.CollisionFreeOn (last.transcripts prims ends start) := by
  obtain ⟨first, messages, begun, genuine, opened⟩ := honest.opening stale
  let answering := messages.opened prims ends start coins secret now
  have concluded := Leads.conclude answering genuine rfl rfl rfl
  obtain ⟨disturbed, calm, confirmed⟩ := confirming_takes { answering with
      initiator := answering.initiator.finish
        (.ok ((mirrorView (ends.ownInit prims start) messages.view).session prims true))
      toInitiator := []
      toResponder := tagged .confirm messages.confirmDatagrams
      confirmation := some ⟨messages.respWire, 1⟩ } .confirm coins [] rfl genuine.confirmTravels.1
    (honest.sameKey.symm ▸ genuine.confirmTravels.2) (List.append_nil _).symm
  have leads := (opened.trans concluded).trans confirmed
  exact ⟨first, _, onlyAnswer prims ends coins now messages, _, begun, leads, rfl, rfl,
    confirms_opening honest genuine rfl rfl, rfl, calm rfl, collisionFree_opening honest genuine rfl rfl⟩

/-- Both drivers are past it: nothing is on its way to a listening responder, and the initiator ended. -/
def Stuck (net : Network) : Prop :=
  net.toResponder = [] ∧ (∃ result, net.initiator.phase = .finished result) ∧
    ∃ reasm, net.responder.phase = .listening reasm

/-- A responder nobody writes to listens for ever. -/
theorem stuck_step {event : NetworkEvent} {after : Network} (stuck : Stuck net)
    (taken : Taken (step prims ends) net event after) : Stuck after := by
  obtain ⟨queue, ⟨result, finished⟩, reasm, listening⟩ := stuck
  unfold Taken at taken
  cases event with
  | tick span =>
    obtain rfl := Option.some.inj taken
    exact ⟨queue, ⟨result, finished⟩, reasm, listening⟩
  | toResponder coins =>
    simp only [step, queue] at taken
    cases taken
  | toInitiator coins =>
    simp only [step] at taken
    split at taken
    · cases taken
    obtain rfl := Option.some.inj taken
    rw [initiatorTakes_finished finished]
    exact ⟨queue, ⟨result, finished⟩, reasm, listening⟩
  | initiatorTimeOut =>
    simp only [step, Initiator.timeOut_finished finished, List.map_nil, List.append_nil] at taken
    obtain rfl := Option.some.inj taken
    exact ⟨queue, ⟨result, finished⟩, reasm, listening⟩
  | responderTimeOut =>
    obtain rfl := Option.some.inj taken
    refine ⟨queue, ⟨result, finished⟩, reasm, ?_⟩
    show (net.responder.timeOut net.now).phase = _
    rw [Responder.timeOut, listening]
    exact listening
  | prune =>
    obtain rfl := Option.some.inj taken
    refine ⟨queue, ⟨result, finished⟩, reasm.pruneOld net.now 10000, ?_⟩
    show (net.responder.prune net.now).phase = _
    rw [Responder.prune, listening]

theorem stuck_run {last : Network} (leads : Leads prims ends net last) (stuck : Stuck net) :
    Stuck last := by
  obtain ⟨events, run⟩ := leads
  exact run.invariant Stuck (fun _ _ _ stuck taken => stuck_step stuck taken) stuck

/-- **A late Init disturbs the handshake.** The first attempt times out before the Response is there,
so the Init is sent again; the Response then ends the initiator well. The responder takes the resent
Init for the Confirm, listens again and skips the Confirm, and never returns. -/
theorem late_init_disturbs (honest : Honest prims ends start coins) {secret : Octets 32} {now : Nat}
    (stale : CookieState.valid prims secret now ends.initiatorAddr (.zero 16) = false) :
    ∃ first last answer session, begin prims ends now secret start coins.envelope = .ok first ∧
      Leads prims ends first last ∧ last.initiator.phase = .finished (.ok session) ∧
      last.arrived = some (now + hsAttemptTimeout) ∧ last.Confirms prims ends start 0 answer ∧
      answer.sentAt = now ∧ ∀ later, Leads prims ends last later → ∀ result,
        later.responder.phase ≠ .finished result := by
  obtain ⟨first, messages, begun, genuine, opened⟩ := honest.opening stale
  obtain ⟨cookie, init⟩ := genuine.init
  let answering := messages.opened prims ends start coins secret now
  -- the Response is late, so the Init is sent again
  have waited : Leads prims ends answering { answering with now := now + hsAttemptTimeout } :=
    .one (.tick hsAttemptTimeout) rfl
  let resending : Network := { answering with
    now := now + hsAttemptTimeout
    initiator := { answering.initiator with
      phase := .waiting 3 .new (now + hsAttemptTimeout + hsAttemptTimeout) }
    toResponder := tagged .init messages.initDatagrams }
  have timedOut : answering.initiator.timeOut (now + hsAttemptTimeout) =
      ({ answering.initiator with
        phase := .waiting 3 .new (now + hsAttemptTimeout + hsAttemptTimeout) },
      messages.initDatagrams) := by
    have late : ¬ now + hsAttemptTimeout < now + hsAttemptTimeout := Nat.lt_irrefl _
    have again : 2 < hsMaxAttempts := by decide
    simp only [answering, Messages.opened, Initiator.timeOut, if_neg late, Initiator.nextAttempt,
      if_pos again]
  have resent : Leads prims ends { answering with now := now + hsAttemptTimeout } resending := by
    refine .one .initiatorTimeOut ?_
    simp only [step, timedOut]
    rfl
  -- the Response ends the initiator well
  have concluded := Leads.conclude resending genuine rfl rfl rfl
  let confirming : Network := { resending with
    initiator := resending.initiator.finish
      (.ok ((mirrorView (ends.ownInit prims start) messages.view).session prims true))
    toInitiator := []
    toResponder := tagged .init messages.initDatagrams ++ tagged .confirm messages.confirmDatagrams
    confirmation := some ⟨messages.respWire, 1⟩ }
  -- the resent Init is taken for the Confirm
  obtain ⟨disturbed, -, taken⟩ := confirming_takes confirming .init coins
    (tagged .confirm messages.confirmDatagrams) rfl genuine.initTravels.1
    (honest.sameKey.symm ▸ genuine.initTravels.2) rfl
  have initKind : messages.view.init.msgType ≠ .confirm := by
    rw [init]
    intro impossible
    cases impossible
  have notLast : ¬ (Purpose.init = .confirm ∧ tagged .confirm messages.confirmDatagrams = []) := by
    rintro ⟨impossible, -⟩
    cases impossible
  rw [Responder.handleConfirm_other genuine.delivered initKind, if_neg notLast] at taken
  -- and the Confirm is skipped
  let listening : Network := { confirming with
    responder := confirming.responder.relisten
    toResponder := tagged .confirm messages.confirmDatagrams
    disturbed }
  have skipped := listening_takes listening .confirm coins [] rfl genuine.confirmTravels.1
    (honest.sameKey.symm ▸ genuine.confirmTravels.2) (List.append_nil _).symm
  dsimp only at skipped
  have confirmKind : HandshakeType.confirm ≠ .init := by
    intro impossible
    cases impossible
  rw [Responder.handleInit_other genuine.confirms confirmKind, if_pos ⟨rfl, rfl⟩] at skipped
  have leads := opened.trans (waited.trans (resent.trans (concluded.trans (taken.trans skipped))))
  refine ⟨first, _, onlyAnswer prims ends coins now messages, _, begun, leads, rfl, rfl,
    confirms_opening honest genuine rfl rfl, rfl, fun later more result finished => ?_⟩
  obtain ⟨-, -, reasm, still⟩ := stuck_run more ⟨rfl, ⟨_, rfl⟩, _, rfl⟩
  rw [still] at finished
  cases finished

end Honest

/-- Two ends that talk in the clear. -/
def sampleEnds : Ends where
  initiator := ⟨sampleInitiator, .aegis256X2, none, 7⟩
  responder := ⟨sampleResponder, .chaCha20Poly1305, none, 9⟩
  initiatorAddr := ⟨[203, 0, 113, 5], 51820⟩
  responderAddr := ⟨[203, 0, 113, 9], 443⟩

def sampleCoins : DriverCoins where
  respond := sampleRespond
  confirm := sampleConfirm
  challenge := ⟨fun _ => 0, fun _ => 0, fun _ => 0, fun _ => 0⟩
  padNoise := fun _ => 0
  envelope := ⟨.zero 12, 0, fun _ => 0⟩

theorem sample_honest : Honest .transparent sampleEnds sampleStart sampleCoins where
  aead := Primitives.transparent_aeadCorrect
  keys := Primitives.transparent_keyExchangeCorrect
  signatures := Primitives.transparent_signatureCorrect
  cross := sample_cross
  sameKey := rfl
  fits := by decide
  contributory := sample_contributory
  builds := fun _ _ _ => build_clear_exists _ _ _ _

theorem sample_stale : CookieState.valid .transparent (.zero 32) 0 sampleEnds.initiatorAddr (.zero 16) =
    false := by decide +kernel

theorem initial_handshake_sample : ∃ first last events session session',
    begin .transparent sampleEnds 0 (.zero 32) sampleStart sampleCoins.envelope = .ok first ∧
      Run (Taken (step .transparent sampleEnds)) first events last ∧
      last.initiator.phase = .finished (.ok session) ∧
      last.responder.phase = .finished (.ok (session', sampleEnds.initiatorAddr)) ∧
      SameSession session session' := by
  obtain ⟨first, last, answer, session, begun, ⟨events, run⟩, returned, arrived, confirms, sentAt, calm,
    collisionFree⟩ := honest_completes sample_honest sample_stale
  obtain ⟨session', accepted, same⟩ := initial_handshake Primitives.transparent_aeadCorrect
    Primitives.transparent_keyExchangeCorrect Primitives.transparent_signatureCorrect sample_cross rfl
    begun run collisionFree returned arrived confirms (by rw [sentAt]; decide) (by rw [calm]; nofun)
  exact ⟨first, last, events, session, session', begun, run, returned, accepted, same⟩

/-- **The handshake of two sample ends that a late Init disturbs.** The Confirm arrives 800 ms after the
Response it answers, and the responder never returns. -/
theorem late_init_disturbs_sample : ∃ first last answer session,
    begin .transparent sampleEnds 0 (.zero 32) sampleStart sampleCoins.envelope = .ok first ∧
      Leads .transparent sampleEnds first last ∧ last.initiator.phase = .finished (.ok session) ∧
      last.arrived = some 800 ∧ last.Confirms .transparent sampleEnds sampleStart 0 answer ∧
      800 < answer.sentAt + hsConfirmTimeout ∧
      ∀ later, Leads .transparent sampleEnds last later → ∀ result,
        later.responder.phase ≠ .finished result := by
  obtain ⟨first, last, answer, session, begun, leads, returned, arrived, confirms, sentAt, never⟩ :=
    late_init_disturbs sample_honest sample_stale
  exact ⟨first, last, answer, session, begun, leads, returned, arrived, confirms,
    by rw [sentAt]; decide, never⟩

end Network

end ChameleonPQ
