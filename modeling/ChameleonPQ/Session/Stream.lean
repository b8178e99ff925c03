/-
**A stream of frames, from one end to the other (`engine.rs`, `session.rs`, `dispatch_seal`).**

One end seals batches inline or against counters reserved before, and single frames between them; a seal that
fails sends nothing, and spends counters all the same. The network delivers in order.

* `CryptoEngine.send` — one of them; `CryptoEngine.wires`, `CryptoEngine.sealedFrames` — a whole stream.
* `send_spec` — however it is sealed, what is sent is sealed at consecutive counters from the current one.
* `stream_roundTrip` — so the other end opens every frame that was sealed, in order.
-/

import ChameleonPQ.Session.Channel
import ChameleonPQ.Session.Engine

namespace ChameleonPQ

open Library Library.OnceChannel

/-- What one end sends. -/
inductive StreamEvent where
  /-- `dispatch_seal`: a batch whose counters are reserved before it is sealed. -/
  | dispatch (batch : List Bytes) (noise : Nat → Nat → UInt8)
  /-- A batch that is sealed inline. -/
  | inline (batch : List Bytes) (noise : Nat → Nat → UInt8)
  /-- A single frame: a keepalive, an announcement, a cover packet, or the packet of a slot. -/
  | frame (frameType : FrameType) (plaintext : Bytes) (policy : Obf.PadPolicy) (noise : Nat → UInt8)

/-- The frames of an event. -/
def StreamEvent.frames : StreamEvent → List (FrameType × Bytes)
  | dispatch batch _ | inline batch _ => batch.map (.data, ·)
  | frame frameType plaintext _ _ => [(frameType, plaintext)]

namespace CryptoEngine

section Definitions

variable (prims : Primitives) (engine : CryptoEngine)

/-- One event: the datagrams, or why there are none. -/
def send (manager : SessionManager Session) : StreamEvent → Result (List Bytes) × SessionManager Session
  | .dispatch batch noise =>
    match manager.reserve batch.length with
    | (.error e, after) => (.error e, after)
    | (.ok (session, base), after) => (engine.sealBatchWithCounters prims session base batch noise, after)
  | .inline batch noise => engine.encryptBatch prims manager batch noise
  | .frame frameType plaintext policy noise =>
    match manager.sealObf prims frameType.asU8 plaintext policy noise with
    | (.error e, after) => (.error e, after)
    | (.ok datagram, after) => (.ok [datagram], after)

/-- The datagrams of a stream. -/
def wires (manager : SessionManager Session) : List StreamEvent → List Bytes
  | [] => []
  | event :: events =>
    (engine.send prims manager event).1.toOption.getD [] ++ wires (engine.send prims manager event).2 events

/-- The frames that were sealed. -/
def sealedFrames (manager : SessionManager Session) : List StreamEvent → List (FrameType × Bytes)
  | [] => []
  | event :: events =>
    (if (engine.send prims manager event).1.isOk then event.frames else []) ++
      sealedFrames (engine.send prims manager event).2 events

end Definitions

variable {prims : Primitives} {engine : CryptoEngine} {manager : SessionManager Session}

/-! ### What is sent -/

/-- A batch that sealed is a run of data frames. -/
theorem sealedFrom_sealBatch (obf : engine.obfEnabled = true) {session : Session} {base : Nat} {batch : List Bytes}
    {noise : Nat → Nat → UInt8} {datagrams : List Bytes} (small : base + batch.length ≤ 2 ^ 64)
    (short : ∀ packet ∈ batch, packet.length ≤ 65535)
    (success : engine.sealBatchWithCounters prims session base batch noise = .ok datagrams) :
    Session.SealedFrom prims session base (batch.map (.data, ·)) datagrams := by
  induction batch generalizing base noise datagrams with
  | nil =>
    cases success
    exact .nil base
  | cons packet batch ih =>
    obtain ⟨packetShort, batchShort⟩ := List.forall_mem_cons.mp short
    rw [List.length_cons] at small
    rw [sealBatchWithCounters] at success
    cases first : engine.sealAt prims session base packet (noise 0) with
    | error e =>
      rw [first] at success
      cases success
    | ok datagram =>
      rw [first] at success
      simp only at success
      cases later : engine.sealBatchWithCounters prims session (base + 1) batch fun i => noise (i + 1) with
      | error e =>
        rw [later] at success
        cases success
      | ok rest =>
        rw [later] at success
        cases success
        unfold sealAt at first
        rw [if_pos obf] at first
        exact .cons (by omega) packetShort first (ih (by omega) batchShort later)

/-- A reservation moves the counter on, granted or not. -/
theorem reserve_advances {count : Nat} (room : manager.current.txCounter + count < 2 ^ 64)
    {outcome : Result (Session × Nat)} {after : SessionManager Session}
    (reserved : manager.reserve count = (outcome, after)) :
    after.current = { manager.current with txCounter := manager.current.txCounter + count } ∧
      ∀ session base, outcome = .ok (session, base) → session = after.current ∧
        base = manager.current.txCounter := by
  have advanced := Session.reserveCounters_session manager.current count
  rw [Nat.mod_eq_of_lt room] at advanced
  unfold SessionManager.reserve at reserved
  unfold Session.reserveCounters at advanced reserved
  dsimp only at advanced reserved
  split at reserved
  · rename_i e current refused
    obtain ⟨rfl, rfl⟩ := Prod.mk.inj reserved
    rw [refused] at advanced
    exact ⟨advanced, nofun⟩
  · rename_i first current granted
    obtain ⟨rfl, rfl⟩ := Prod.mk.inj reserved
    rw [granted] at advanced
    refine ⟨advanced, fun session base same => ?_⟩
    obtain ⟨rfl, rfl⟩ := Prod.mk.inj (Except.ok.inj same)
    refine ⟨rfl, ?_⟩
    split at granted
    · cases granted
    · exact (Except.ok.inj (congrArg Prod.fst granted)).symm

/-- One packet spends one counter, sealed or not. -/
theorem sealOne_advances (engine : CryptoEngine) (room : manager.current.txCounter + 1 < 2 ^ 64) (packet : Bytes)
    (noise : Nat → UInt8) : (engine.sealOne prims manager packet noise).2.current =
      { manager.current with txCounter := manager.current.txCounter + 1 } := by
  have advanced := Session.reserveCounters_session manager.current 1
  rw [Nat.mod_eq_of_lt room] at advanced
  cases reserved : manager.current.reserveCounters 1 with
  | mk outcome current =>
    rw [reserved] at advanced
    cases outcome with
    | ok counter =>
      rw [sealOne_of_reserved prims engine packet noise reserved]
      exact advanced
    | error e =>
      unfold sealOne
      split
      · simp only [SessionManager.sealObf, Session.sealObf, reserved]
        exact advanced
      · simp only [SessionManager.encrypt, Session.encrypt, reserved]
        exact advanced

/-- An inline batch spends counters up to the packet that fails. -/
theorem encryptBatch_advances (engine : CryptoEngine) (batch : List Bytes) (noise : Nat → Nat → UInt8)
    (room : manager.current.txCounter + batch.length < 2 ^ 64) :
    ∃ count ≤ batch.length, (engine.encryptBatch prims manager batch noise).2.current =
      { manager.current with txCounter := manager.current.txCounter + count } := by
  induction batch generalizing manager noise with
  | nil => exact ⟨0, le_rfl, rfl⟩
  | cons packet batch ih =>
    rw [List.length_cons] at room ⊢
    have one : manager.current.txCounter + 1 < 2 ^ 64 := by omega
    have spent := @sealOne_advances prims manager engine one packet (noise 0)
    rw [encryptBatch]
    cases first : engine.sealOne prims manager packet (noise 0) with
    | mk outcome after =>
      rw [first] at spent
      have current : after.current = { manager.current with txCounter := manager.current.txCounter + 1 } := spent
      cases outcome with
      | error e => exact ⟨1, by omega, current⟩
      | ok datagram =>
        have later : after.current.txCounter + batch.length < 2 ^ 64 := by
          rw [current]
          show manager.current.txCounter + 1 + batch.length < 2 ^ 64
          omega
        obtain ⟨count, bounded, last⟩ := ih (fun i => noise (i + 1)) later
        have total : (engine.encryptBatch prims after batch fun i => noise (i + 1)).2.current =
            { manager.current with txCounter := manager.current.txCounter + (count + 1) } := by
          rw [last, current, Nat.add_comm count, Nat.add_assoc]
        refine ⟨count + 1, by omega, ?_⟩
        rw [← total]
        dsimp only
        split <;> simp only [*]

/-- **However it is sealed**: the counters that are spent follow the current one, and what is sent is sealed at
them. -/
theorem send_spec (obf : engine.obfEnabled = true) (small : manager.current.rekeyAt < 2 ^ 64)
    {event : StreamEvent} (short : ∀ frame ∈ event.frames, frame.2.length ≤ 65535)
    (room : manager.current.txCounter + event.frames.length < 2 ^ 64) :
    ∃ count ≤ event.frames.length, (engine.send prims manager event).2.current =
        { manager.current with txCounter := manager.current.txCounter + count } ∧
      ∀ datagrams, (engine.send prims manager event).1 = .ok datagrams → count = event.frames.length ∧
        Session.SealedFrom prims manager.current manager.current.txCounter event.frames datagrams := by
  cases event with
  | dispatch batch noise =>
    have packets : ∀ packet ∈ batch, packet.length ≤ 65535 := fun packet member =>
      short (.data, packet) (List.mem_map_of_mem member)
    simp only [StreamEvent.frames, List.length_map] at room ⊢
    cases reserved : manager.reserve batch.length with
    | mk outcome after =>
      obtain ⟨advanced, pinned⟩ := reserve_advances room reserved
      simp only [send, reserved]
      cases outcome with
      | error e => exact ⟨batch.length, le_rfl, advanced, fun _ success => by cases success⟩
      | ok granted =>
        refine ⟨batch.length, le_rfl, advanced, fun datagrams success => ⟨rfl, ?_⟩⟩
        obtain ⟨same, atCurrent⟩ := pinned granted.1 granted.2 rfl
        simp only [same, atCurrent, advanced] at success
        rw [sealBatchWithCounters_txCounter] at success
        exact sealedFrom_sealBatch obf (by omega) packets success
  | inline batch noise =>
    have packets : ∀ packet ∈ batch, packet.length ≤ 65535 := fun packet member =>
      short (.data, packet) (List.mem_map_of_mem member)
    simp only [StreamEvent.frames, List.length_map] at room ⊢
    have advances : ∃ count ≤ batch.length, (engine.encryptBatch prims manager batch noise).2.current =
        { manager.current with txCounter := manager.current.txCounter + count } :=
      encryptBatch_advances engine batch noise room
    obtain ⟨count, bounded, advanced⟩ := advances
    by_cases sealed : ∃ datagrams, (engine.encryptBatch prims manager batch noise).1 = .ok datagrams
    · obtain ⟨datagrams, success⟩ := sealed
      obtain ⟨atCounters, current⟩ := encryptBatch_ok engine manager small (Prod.ext success rfl)
      refine ⟨batch.length, le_rfl, current, fun other same => ⟨rfl, ?_⟩⟩
      obtain rfl : datagrams = other := Except.ok.inj (success.symm.trans same)
      exact sealedFrom_sealBatch obf (by omega) packets atCounters
    · exact ⟨count, bounded, advanced, fun datagrams success => absurd ⟨datagrams, success⟩ sealed⟩
  | frame frameType plaintext policy noise =>
    have fits : plaintext.length ≤ 65535 := short (frameType, plaintext) List.mem_cons_self
    simp only [StreamEvent.frames, List.length_singleton] at room ⊢
    have advanced := Session.reserveCounters_session manager.current 1
    rw [Nat.mod_eq_of_lt room] at advanced
    simp only [send, SessionManager.sealObf, Session.sealObf]
    cases reserved : manager.current.reserveCounters 1 with
    | mk outcome current =>
      rw [reserved] at advanced
      cases outcome with
      | error e => exact ⟨1, le_rfl, advanced, fun _ success => by cases success⟩
      | ok counter =>
        obtain ⟨rfl, -, -⟩ := Session.reserveCounters_ok small reserved
        dsimp only
        cases sealed : manager.current.sealObfCore prims manager.current.txCounter frameType.asU8 plaintext policy
            noise with
        | error e => exact ⟨1, le_rfl, advanced, fun _ success => by cases success⟩
        | ok datagram =>
          refine ⟨1, le_rfl, advanced, fun datagrams success => ⟨rfl, ?_⟩⟩
          obtain rfl : [datagram] = datagrams := Except.ok.inj success
          exact .cons (by omega) fits sealed (.nil _)

end CryptoEngine

/-! ### What arrives -/

/-- A run of frames is delivered in order to who has seen only what came before it. -/
theorem Session.SealedFrom.delivered {prims : Primitives} (correct : prims.AeadCorrect) {sealer opener : Session}
    (opens : Opens sealer opener) {first : Nat} {frames : List (FrameType × Bytes)} {datagrams : List Bytes}
    (sealed : SealedFrom prims sealer first frames datagrams) {inbox : Inbox Bytes Reading Nat}
    (reads : inbox.reads = opener.reads prims) (old : ∀ counter ∈ inbox.seen, counter < first) :
    inbox.results windowHorizon datagrams = frames.map (fun frame => some (.ok (some frame))) ∧
      ∀ counter ∈ (inbox.afterAll windowHorizon datagrams).seen, counter < first + frames.length := by
  induction sealed generalizing inbox with
  | nil counter => exact ⟨rfl, old⟩
  | cons small short success later ih =>
    rename_i counter _ _ _ _ datagram rest datagrams
    have isRead := reads_sealed correct opens small short success
    rw [← reads] at isRead
    have accepts : SeenWindow.Accepts windowHorizon inbox.seen counter :=
      ⟨fun seen => absurd (old counter seen) (lt_irrefl _), fun other seen => Nat.lt_add_right _ (old other seen)⟩
    have received := Inbox.receive_accepted isRead accepts
    obtain ⟨results, seen⟩ := @ih { inbox with seen := insert counter inbox.seen } reads fun other member => by
      rcases Set.mem_insert_iff.mp member with rfl | before
      · exact Nat.lt_succ_self _
      · exact Nat.lt_succ_of_lt (old other before)
    rw [Inbox.results, Inbox.afterAll, received]
    refine ⟨congrArg _ results, fun other member => ?_⟩
    have bound := seen other member
    rw [List.length_cons]
    omega

namespace CryptoEngine

variable {prims : Primitives} {engine : CryptoEngine} {manager : SessionManager Session}

/-- **A stream is delivered in order**: every event finds that the other end has seen only earlier counters. -/
theorem wires_delivered (correct : prims.AeadCorrect) (obf : engine.obfEnabled = true)
    (small : manager.current.rekeyAt < 2 ^ 64) {opener : Session} (opens : Session.Opens manager.current opener)
    {inbox : Inbox Bytes Reading Nat} (reads : inbox.reads = opener.reads prims)
    (old : ∀ counter ∈ inbox.seen, counter < manager.current.txCounter) (events : List StreamEvent)
    (short : ∀ event ∈ events, ∀ frame ∈ event.frames, frame.2.length ≤ 65535)
    (room : manager.current.txCounter + (events.flatMap StreamEvent.frames).length < 2 ^ 64) :
    inbox.results windowHorizon (engine.wires prims manager events) =
      (engine.sealedFrames prims manager events).map fun frame => some (.ok (some frame)) := by
  induction events generalizing manager inbox with
  | nil => rfl
  | cons event events ih =>
    obtain ⟨eventShort, eventsShort⟩ := List.forall_mem_cons.mp short
    rw [List.flatMap_cons, List.length_append] at room
    obtain ⟨count, bounded, advanced, sealed⟩ := send_spec obf small eventShort (by omega)
    have later : (engine.send prims manager event).2.current.txCounter = manager.current.txCounter + count := by
      rw [advanced]
    have opensLater : Session.Opens (engine.send prims manager event).2.current opener := by
      rw [advanced]
      exact opens.of_static rfl rfl
    have smallLater : (engine.send prims manager event).2.current.rekeyAt < 2 ^ 64 := by
      rw [advanced]
      exact small
    rw [wires, sealedFrames]
    cases outcome : (engine.send prims manager event).1 with
    | error e =>
      refine ih smallLater opensLater reads (fun counter seen => ?_) eventsShort (by omega)
      have bound := old counter seen
      omega
    | ok datagrams =>
      obtain ⟨rfl, run⟩ := sealed datagrams outcome
      obtain ⟨results, seen⟩ := run.delivered correct opens reads old
      have readsLater : (inbox.afterAll windowHorizon datagrams).reads = opener.reads prims :=
        (Inbox.reads_afterAll inbox datagrams).trans reads
      have rest := ih smallLater opensLater readsLater (later ▸ seen) eventsShort (by omega)
      show inbox.results windowHorizon (datagrams ++ _) = (event.frames ++ _).map _
      rw [Inbox.results_append, List.map_append, results, rest]

/-- **The stream round trip.** Whatever one end seals on its current session, in batches of either kind and single
frames in any order, is opened by the other end when it arrives in order: every frame that was sealed, once and in
order, also after seals that failed. -/
theorem stream_roundTrip (correct : prims.AeadCorrect) (obf : engine.obfEnabled = true)
    (small : manager.current.rekeyAt < 2 ^ 64) {peer : SessionManager Session} {receiver : Receiver Bytes Reading Nat}
    (mirrors : peer.Mirrors prims receiver) (opens : Session.Opens manager.current peer.current)
    (old : ∀ counter ∈ receiver.current.seen, counter < manager.current.txCounter) (events : List StreamEvent)
    (short : ∀ event ∈ events, ∀ frame ∈ event.frames, frame.2.length ≤ 65535)
    (room : manager.current.txCounter + (events.flatMap StreamEvent.frames).length < 2 ^ 64) :
    peer.results prims ((engine.wires prims manager events).map .receive) =
      (engine.sealedFrames prims manager events).map .ok := by
  have delivered := wires_delivered correct obf small opens mirrors.current.reads old events short room
  have arrivals : ((engine.wires prims manager events).map ManagerEvent.receive).filterMap
      (SessionManager.toChannel prims) = (engine.wires prims manager events).map .arrive := by
    rw [List.filterMap_map, ← List.filterMap_eq_map]
    rfl
  have alone : receiver.results windowHorizon ((engine.wires prims manager events).map .arrive) =
      receiver.current.results windowHorizon (engine.wires prims manager events) := by
    refine Receiver.results_of_delivered receiver.current receiver.previous _ fun outcome member => ?_
    rw [delivered] at member
    obtain ⟨frame, -, rfl⟩ := List.mem_map.mp member
    nofun
  rw [mirrors.results_eq _ (fun newSession member => by simp at member), arrivals, alone, delivered, List.map_map]
  rfl

/-- Two packets sealed at reserved counters, a keepalive, and a packet sealed inline. -/
def sampleStream : List StreamEvent :=
  [.dispatch [[1, 2, 3], [4]] fun _ _ => 0, .frame .keepAlive [] .off fun _ => 0, .inline [[5]] fun _ _ => 0]

theorem stream_roundTrip_sample :
    (SessionManager.new SessionManager.sampleOpening 10000).results .transparent
      ((wires .transparent ⟨true, .off⟩
        (.new (.established .transparent 7 (.zero 32) true .aegis256X2 0 []) 10000) sampleStream).map .receive) =
      [.ok (.data, [1, 2, 3]), .ok (.data, [4]), .ok (.keepAlive, []), .ok (.data, [5])] := by
  have mirrors : (SessionManager.new SessionManager.sampleOpening 10000).Mirrors .transparent
      ⟨⟨SessionManager.sampleOpening.reads .transparent, ∅⟩, none⟩ := ⟨Session.mirrors_new rfl, .none⟩
  refine (stream_roundTrip Primitives.transparent_aeadCorrect rfl (by decide) mirrors
    (Session.opens_established ..) (fun _ none => none.elim) sampleStream (by decide) (by decide)).trans ?_
  decide +kernel

end CryptoEngine

end ChameleonPQ
