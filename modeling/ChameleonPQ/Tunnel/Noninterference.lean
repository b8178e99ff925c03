/-
**Constant-rate pacing hides the traffic.**

* `Schedule` — the part of the outbound loop an observer of sizes and counts depends on: the sessions,
  the handshake queue and the pacing. It has no packets, no padding and no pacer.
* `Shaped` — the loop is paced at a constant bit-rate and every pending packet fits one datagram.
* `emit_schedule`, `schedule_run` — while the loop is shaped, its schedule steps by itself, whatever
  packets arrive and however they are padded.
* `cbr_noninterference` — two runs with the same visible events emit the same sizes in every slot.
-/

import ChameleonPQ.Tunnel.Outbound

namespace ChameleonPQ

open Library Library.Runs

/-! ### Seals of one size -/

/-- One counter of the current session is spent, whether or not it is granted. -/
def SessionManager.spend (manager : SessionManager Session) : SessionManager Session :=
  { manager with current := (manager.current.reserveCounters 1).2 }

section Sizes

variable {prims : Primitives} {manager : SessionManager Session}

/-- A seal spends one counter, whatever it seals. -/
theorem sealObf_sessions (prims : Primitives) (manager : SessionManager Session) (innerType : UInt8)
    (plaintext : Bytes) (policy : Obf.PadPolicy)
    (noise : Nat → UInt8) :
    (manager.sealObf prims innerType plaintext policy noise).2 = manager.spend := by
  simp only [SessionManager.sealObf, Session.sealObf, SessionManager.spend]
  cases manager.current.reserveCounters 1 with
  | mk granted advanced =>
    cases granted with
    | error e => rfl
    | ok counter => rfl

/-- **A fully padded seal has one size**: it succeeds when its counter is granted, and then fills the
datagram, whatever it seals. -/
theorem sealObf_full (correct : prims.AeadCorrect) (seals : prims.ChachaSeals)
    (aeadAlgo : manager.current.txAead.algo = manager.current.algo) (innerType : UInt8)
    {plaintext : Bytes}
    (fits : Obf.innerHeaderLen + plaintext.length ≤ Obf.maxFramed manager.current.algo.tagLen)
    (noise : Nat → UInt8) :
    (manager.sealObf prims innerType plaintext .full noise).1.map List.length =
      (manager.current.reserveCounters 1).1.map fun _ => Obf.mtuWire := by
  simp only [SessionManager.sealObf, Session.sealObf]
  cases manager.current.reserveCounters 1 with
  | mk granted advanced =>
    cases granted with
    | error e => rfl
    | ok counter =>
      obtain ⟨datagram, success, _⟩ := (Session.sealed_obf_iff correct seals aeadAlgo counter
        innerType plaintext .full noise).mpr fits
      have length := Session.length_sealed correct aeadAlgo success
      rw [Obf.padTarget_full fits, Session.mtu_split] at length
      show Except.map List.length (manager.current.sealObfCore prims counter innerType plaintext
        .full noise) = Except.ok Obf.mtuWire
      rw [success, ← length]
      rfl

end Sizes

/-! ### The schedule -/

/-- What the sizes and counts of the emitted datagrams depend on. -/
structure Schedule where
  sessions : SessionManager Session
  hsSend : List (Stamped Bytes)
  queued : Nat
  paceBurst : Nat
  rekeying : Bool
  /-- The sizes emitted in each slot. -/
  slots : List (List Nat)

namespace Schedule

section Definitions

variable (prims : Primitives) (config : OutboundConfig)

/-- The rounds of one slot: a queued handshake datagram, or a full-sized one. -/
def emit : Nat → Schedule → List Nat × Schedule
  | 0, schedule => ([], schedule)
  | rounds + 1, schedule =>
    match schedule.hsSend with
    | queued :: rest =>
      let (more, after) := emit rounds { schedule with hsSend := rest }
      (queued.item.length :: more, after)
    | [] =>
      let next := { schedule with sessions := schedule.sessions.spend }
      match (schedule.sessions.current.reserveCounters 1).1 with
      | .ok _ =>
        let (more, after) := emit rounds next
        (Obf.mtuWire :: more, after)
      | .error _ => emit rounds next

/-- The sessions after a profile announcement. -/
def announced (eff : EffectiveTraffic) (sessions : SessionManager Session) : SessionManager Session :=
  match eff.profile.wireId with
  | some _ => if config.announceProfile then sessions.spend else sessions
  | none => sessions

/-- One event. -/
def react (schedule : Schedule) : OutboundEvent → Schedule
  | .recv _ _ => schedule
  | .tick now _ =>
    let (slot, after) := schedule.emit schedule.paceBurst
    let (due, sessions) := after.sessions.needsRekey after.sessions.current.txCounter now
    { after with sessions, slots := after.slots ++ [slot], rekeying := after.rekeying || due }
  | .rekeyDone true => { schedule with rekeying := false }
  | .rekeyDone false => { schedule with rekeying := false, sessions := schedule.sessions.abortRekey }
  | .switch eff _ =>
    { schedule with
      paceBurst := max eff.burst.toNat 1
      sessions := announced config eff schedule.sessions }
  | .queueHandshake datagram =>
    { schedule with
      hsSend := schedule.hsSend ++ [⟨schedule.queued, datagram⟩]
      queued := schedule.queued + 1 }
  | .reserve n => { schedule with sessions := (schedule.sessions.reserve n).2 }
  | .install origin =>
    { schedule with
      sessions := schedule.sessions.installNewSession
        (Session.fromHandshakeWithAlgo prims origin.sessionId origin.shared origin.isInitiator
          origin.algo) }
  | .retire => { schedule with sessions := schedule.sessions.retirePrevious }

end Definitions

theorem emit_queued (schedule : Schedule) {queued : Stamped Bytes} {rest : List (Stamped Bytes)}
    (waiting : schedule.hsSend = queued :: rest) (rounds : Nat) :
    schedule.emit (rounds + 1) =
      (queued.item.length :: (emit rounds { schedule with hsSend := rest }).1,
        (emit rounds { schedule with hsSend := rest }).2) := by
  simp only [emit, waiting]

theorem emit_free (schedule : Schedule) (empty : schedule.hsSend = []) (rounds : Nat) :
    schedule.emit (rounds + 1) =
      match (schedule.sessions.current.reserveCounters 1).1 with
      | .ok _ =>
        (Obf.mtuWire :: (emit rounds { schedule with sessions := schedule.sessions.spend }).1,
          (emit rounds { schedule with sessions := schedule.sessions.spend }).2)
      | .error _ => emit rounds { schedule with sessions := schedule.sessions.spend } := by
  obtain ⟨sessions, hsSend, queued, paceBurst, rekeying, slots⟩ := schedule
  obtain rfl : hsSend = [] := empty
  rfl

end Schedule

namespace Outbound

/-- The schedule of an outbound loop. -/
def schedule (outbound : Outbound) : Schedule :=
  { sessions := outbound.sessions
    hsSend := outbound.hsSend
    queued := outbound.ledger.queued
    paceBurst := outbound.paceBurst
    rekeying := outbound.rekeying
    slots := outbound.ledger.slots.map (List.map List.length) }

/-- A packet fits one datagram of each of the given ciphers. -/
def Carries (algos : List AeadAlgo) (packet : Bytes) : Prop :=
  ∀ algo ∈ algos, Obf.innerHeaderLen + packet.length ≤ Obf.maxFramed algo.tagLen

/-- The loop is paced at a constant bit-rate, its session has one of the given ciphers, and every
pending packet fits one datagram of each. -/
structure Shaped (algos : List AeadAlgo) (outbound : Outbound) : Prop where
  paced : outbound.paced = true
  cbr : outbound.pacer.mode = .cbr
  aeadAlgo : outbound.sessions.current.txAead.algo = outbound.sessions.current.algo
  algo : outbound.sessions.current.algo ∈ algos
  pending : ∀ packet ∈ outbound.pending, Carries algos packet.item

section Slots

variable {prims : Primitives} {algos : List AeadAlgo} {outbound : Outbound}

/-- Spending counters does not change what a session is. -/
theorem reserveCounters_static (session : Session) (n : Nat) :
    (session.reserveCounters n).2.txAead = session.txAead ∧
      (session.reserveCounters n).2.algo = session.algo := by
  rw [Session.reserveCounters_session]
  exact ⟨rfl, rfl⟩

theorem Shaped.spend (shaped : Shaped algos outbound) {after : Outbound}
    (paced : after.paced = outbound.paced) (cbr : after.pacer.mode = outbound.pacer.mode)
    (sessions : after.sessions = outbound.sessions.spend)
    (pending : ∀ packet ∈ after.pending, packet ∈ outbound.pending) : Shaped algos after := by
  obtain ⟨aead, algo⟩ := reserveCounters_static outbound.sessions.current 1
  refine ⟨paced.trans shaped.paced, cbr.trans shaped.cbr, ?_, ?_,
    fun packet member => shaped.pending packet (pending packet member)⟩
  · rw [sessions]
    show (outbound.sessions.current.reserveCounters 1).2.txAead.algo = _
    rw [aead]
    exact shaped.aeadAlgo.trans algo.symm
  · rw [sessions]
    show (outbound.sessions.current.reserveCounters 1).2.algo ∈ algos
    rw [algo]
    exact shaped.algo

/-- **One round of a slot without a queued handshake datagram**: real or cover, it spends one counter
and yields a full-sized datagram when the counter is granted. -/
theorem emit_round (correct : prims.AeadCorrect) (seals : prims.ChachaSeals)
    (shaped : Shaped algos outbound) (empty : outbound.hsSend = []) (now rounds : Nat)
    (noise : Nat → Nat → UInt8) :
    ∃ (outcome : Result Bytes) (next : Outbound), Shaped algos next ∧
      next.schedule = { outbound.schedule with sessions := outbound.sessions.spend } ∧
      outcome.map List.length =
        ((outbound.sessions.current.reserveCounters 1).1.map fun _ => Obf.mtuWire) ∧
      emit prims now (rounds + 1) outbound noise =
        match outcome with
        | .ok wire =>
          (wire :: (emit prims now rounds next fun i => noise (i + 1)).1,
            (emit prims now rounds next fun i => noise (i + 1)).2)
        | .error _ => emit prims now rounds next fun i => noise (i + 1) := by
  obtain ⟨sessions, pending, hsSend, pacer, paced, paceBurst, rekeying, ledger⟩ := outbound
  obtain rfl : hsSend = [] := empty
  cases pending with
  | nil =>
    have decision := Pacer.nextEmit_cbr pacer now shaped.cbr
    have blank : Obf.innerHeaderLen + ([] : Bytes).length ≤
        Obf.maxFramed sessions.current.algo.tagLen := by
      cases sessions.current.algo <;> decide
    have size := sealObf_full correct seals shaped.aeadAlgo FrameType.padding.asU8 blank (noise 0)
    have spent := sealObf_sessions prims sessions FrameType.padding.asU8 []
      .full (noise 0)
    cases cover : sessions.sealObf prims FrameType.padding.asU8 [] .full (noise 0) with
    | mk outcome after =>
      rw [cover] at size spent
      obtain rfl : after = sessions.spend := spent
      cases outcome with
      | ok wire =>
        refine ⟨.ok wire,
          noteBeside ⟨sessions.spend, [], [], pacer, paced, paceBurst, rekeying, ledger⟩ wire,
          shaped.spend rfl rfl rfl fun _ member => member, rfl, size, ?_⟩
        simp only [emit, List.isEmpty_nil, Bool.not_true, decision, CryptoEngine.coverDatagram,
          SessionManager.sealCover, cover]
      | error e =>
        refine ⟨.error e, fail ⟨sessions.spend, [], [], pacer, paced, paceBurst, rekeying, ledger⟩,
          shaped.spend rfl rfl rfl fun _ member => member, rfl, size, ?_⟩
        simp only [emit, List.isEmpty_nil, Bool.not_true, decision, CryptoEngine.coverDatagram,
          SessionManager.sealCover, cover]
  | cons packet pending =>
    have fits := shaped.pending packet List.mem_cons_self _ shaped.algo
    have size := sealObf_full correct seals shaped.aeadAlgo FrameType.data.asU8 fits (noise 0)
    have spent := sealObf_sessions prims sessions FrameType.data.asU8
      packet.item .full (noise 0)
    have real := (Pacer.nextEmit_real_iff pacer now true).mpr rfl
    have mode := Pacer.nextEmit_mode pacer now true
    cases decision : pacer.nextEmit true now with
    | mk choice decided =>
      rw [decision] at real mode
      obtain rfl : choice = .real := real
      cases data : sessions.sealObf prims FrameType.data.asU8 packet.item .full (noise 0) with
      | mk outcome after =>
        rw [data] at size spent
        obtain rfl : after = sessions.spend := spent
        cases outcome with
        | ok wire =>
          refine ⟨.ok wire, noteSeals ⟨sessions.spend, pending, [], decided, paced, paceBurst, rekeying,
            ledger⟩ [packet] sessions.current.txCounter [wire],
            shaped.spend rfl mode rfl fun _ member => List.mem_cons_of_mem _ member, rfl, size, ?_⟩
          simp only [emit, List.isEmpty_cons, Bool.not_false, decision, CryptoEngine.sealDataFull,
            data]
        | error e =>
          refine ⟨.error e, fail ⟨sessions.spend, pending, [], decided, paced, paceBurst, rekeying,
            ledger⟩, shaped.spend rfl mode rfl fun _ member => List.mem_cons_of_mem _ member, rfl,
            size, ?_⟩
          simp only [emit, List.isEmpty_cons, Bool.not_false, decision, CryptoEngine.sealDataFull,
            data]

/-- **A slot of a shaped loop is a slot of its schedule.** -/
theorem emit_schedule (correct : prims.AeadCorrect) (seals : prims.ChachaSeals) (now rounds : Nat)
    {outbound : Outbound} (shaped : Shaped algos outbound) (noise : Nat → Nat → UInt8) :
    Shaped algos (emit prims now rounds outbound noise).2 ∧
      ((emit prims now rounds outbound noise).1.map List.length,
        (emit prims now rounds outbound noise).2.schedule) = outbound.schedule.emit rounds := by
  induction rounds generalizing outbound noise with
  | zero => exact ⟨shaped, rfl⟩
  | succ rounds ih =>
    cases queue : outbound.hsSend with
    | cons queued rest =>
      have later : Shaped algos (({ outbound with hsSend := rest } : Outbound).noteBeside queued.item) :=
        ⟨shaped.paced, shaped.cbr, shaped.aeadAlgo, shaped.algo, shaped.pending⟩
      obtain ⟨kept, same⟩ := ih later fun i => noise (i + 1)
      rw [Schedule.emit_queued outbound.schedule queue]
      simp only [emit, queue]
      exact ⟨kept, congrArg (fun pair : List Nat × Schedule =>
        (queued.item.length :: pair.1, pair.2)) same⟩
    | nil =>
      obtain ⟨outcome, next, nextShaped, nextSchedule, size, round⟩ :=
        emit_round correct seals shaped queue now rounds noise
      obtain ⟨kept, same⟩ := ih nextShaped fun i => noise (i + 1)
      rw [nextSchedule] at same
      rw [round, Schedule.emit_free outbound.schedule queue]
      have counter : outbound.schedule.sessions.current = outbound.sessions.current := rfl
      rw [counter]
      cases granted : (outbound.sessions.current.reserveCounters 1).1 with
      | ok counter =>
        rw [granted] at size
        cases outcome with
        | error e => cases size
        | ok wire =>
          have length : wire.length = Obf.mtuWire := Except.ok.inj size
          refine ⟨kept, ?_⟩
          simp only [List.map_cons, length]
          exact congrArg (fun pair : List Nat × Schedule => (Obf.mtuWire :: pair.1, pair.2)) same
      | error e =>
        rw [granted] at size
        cases outcome with
        | ok wire => cases size
        | error e' => exact ⟨kept, same⟩

end Slots

/-! ### Steps and runs -/

/-- What an event changes in the schedule: nothing for an arriving batch, and the padding is not
visible. -/
def visible : OutboundEvent → Option OutboundEvent
  | .recv _ _ => none
  | .tick now _ => some (.tick now fun _ _ => 0)
  | .switch eff _ => some (.switch eff fun _ _ => 0)
  | event => some event

/-- The loop stays at a constant bit-rate and takes only packets that fit one datagram. -/
def KeepsRate (algos : List AeadAlgo) : OutboundEvent → Prop
  | .recv packets _ => ∀ packet ∈ packets, Carries algos packet
  | .switch eff _ => eff.enabled = true ∧ eff.mode = .cbr
  | _ => True

instance (algos : List AeadAlgo) (packet : Bytes) : Decidable (Carries algos packet) :=
  inferInstanceAs (Decidable (∀ algo ∈ algos, _ ≤ _))

instance (algos : List AeadAlgo) : DecidablePred (KeepsRate algos)
  | .recv packets _ => inferInstanceAs (Decidable (∀ packet ∈ packets, Carries algos packet))
  | .switch _ _ => inferInstanceAs (Decidable (_ ∧ _))
  | .tick _ _ | .rekeyDone _ | .queueHandshake _ | .reserve _ | .install _ | .retire => instDecidableTrue

/-- The ciphers of the sessions a run can seal on. -/
def ciphers (initial : AeadAlgo) (events : List OutboundEvent) : List AeadAlgo :=
  initial :: events.filterMap fun event =>
    match event with
    | .install origin => some origin.algo
    | _ => none

section Runs

variable {prims : Primitives} {config : OutboundConfig} {algos : List AeadAlgo}

theorem item_of_mem_stamp {Item : Type} {first : Nat} {items : List Item} {stamped : Stamped Item}
    (member : stamped ∈ stamp first items) : stamped.item ∈ items := by
  induction items generalizing first with
  | nil => cases member
  | cons item items ih =>
    rcases List.mem_cons.mp member with rfl | later
    · exact List.mem_cons_self
    · exact List.mem_cons_of_mem _ (ih later)

/-- Staging packets is not visible. -/
theorem stage_schedule {arrived : List (Stamped Bytes)} {outbound : Outbound}
    (shaped : Shaped algos outbound) (carried : ∀ packet ∈ arrived, Carries algos packet.item) :
    Shaped algos (arrived.foldl stage outbound) ∧
      (arrived.foldl stage outbound).schedule = outbound.schedule := by
  induction arrived generalizing outbound with
  | nil => exact ⟨shaped, rfl⟩
  | cons packet arrived ih =>
    obtain ⟨packetCarried, laterCarried⟩ := List.forall_mem_cons.mp carried
    have staged : Shaped algos (outbound.stage packet) ∧
        (outbound.stage packet).schedule = outbound.schedule := by
      unfold stage
      split
      · exact ⟨⟨shaped.paced, shaped.cbr, shaped.aeadAlgo, shaped.algo, shaped.pending⟩, rfl⟩
      · refine ⟨⟨shaped.paced, shaped.cbr, shaped.aeadAlgo, shaped.algo, ?_⟩, rfl⟩
        intro queued member
        rcases List.mem_append.mp member with old | new
        · exact shaped.pending queued old
        · rw [List.mem_singleton.mp new]
          exact packetCarried
    obtain ⟨kept, same⟩ := ih staged.1 laterCarried
    exact ⟨kept, same.trans staged.2⟩

/-- An announcement spends a counter if it is made, and may fail. -/
theorem announce_eq (prims : Primitives) (config : OutboundConfig) (outbound : Outbound)
    (eff : EffectiveTraffic) (noise : Nat → UInt8) :
    ∃ failures, outbound.announce prims config eff noise =
      { outbound with
        sessions := Schedule.announced config eff outbound.sessions
        ledger := { outbound.ledger with failures } } := by
  unfold announce Schedule.announced
  cases eff.profile.wireId with
  | none => exact ⟨outbound.ledger.failures, rfl⟩
  | some id =>
    by_cases announces : config.announceProfile = true
    · have spent := sealObf_sessions prims outbound.sessions
        FrameType.profile.asU8 [id] config.engine.padPolicy noise
      simp only [announces, if_true, sendProfileFrame]
      split
      · rename_i sealed
        rw [sealed] at spent
        exact ⟨outbound.ledger.failures, by rw [← spent]⟩
      · rename_i sealed
        rw [sealed] at spent
        exact ⟨outbound.ledger.failures + 1, by rw [← spent]; rfl⟩
    · simp only [if_neg announces]
      exact ⟨outbound.ledger.failures, rfl⟩

theorem Shaped.announced (config : OutboundConfig) {outbound : Outbound} (shaped : Shaped algos outbound)
    (eff : EffectiveTraffic) :
    Shaped algos { outbound with sessions := Schedule.announced config eff outbound.sessions } := by
  unfold Schedule.announced
  split
  · split
    · exact shaped.spend rfl rfl rfl fun _ member => member
    · exact shaped
  · exact shaped

/-- **A shaped loop steps as its schedule does.** -/
theorem react_schedule (correct : prims.AeadCorrect) (seals : prims.ChachaSeals)
    (obf : config.engine.obfEnabled = true) {outbound : Outbound} (shaped : Shaped algos outbound)
    {event : OutboundEvent} (keeps : KeepsRate algos event)
    (known : ∀ origin, event = .install origin → origin.algo ∈ algos) :
    Shaped algos (outbound.react prims config event) ∧
      (outbound.react prims config event).schedule =
        Schedule.react prims config outbound.schedule event := by
  cases event with
  | recv packets noise =>
    simp only [react, recv]
    rw [if_pos shaped.paced]
    refine stage_schedule ?_ fun packet member => keeps _ (item_of_mem_stamp member)
    exact ⟨shaped.paced, shaped.cbr, shaped.aeadAlgo, shaped.algo, shaped.pending⟩
  | tick now noise =>
    obtain ⟨kept, same⟩ := emit_schedule correct seals now outbound.paceBurst shaped noise
    have current := needsRekey_current (emit prims now outbound.paceBurst outbound noise).2.sessions
      (emit prims now outbound.paceBurst outbound noise).2.sessions.current.txCounter now
    have burst : outbound.schedule.emit outbound.schedule.paceBurst =
        outbound.schedule.emit outbound.paceBurst := rfl
    simp only [react, tick, shaped.paced, if_true, sendSlot, triggerRekey, Schedule.react]
    rw [burst, ← same]
    refine ⟨⟨kept.paced, kept.cbr, ?_, ?_, kept.pending⟩, ?_⟩
    · rw [current]
      exact kept.aeadAlgo
    · rw [current]
      exact kept.algo
    · simp only [schedule, List.map_append, List.map_cons, List.map_nil]
  | rekeyDone success =>
    cases success <;>
      exact ⟨⟨shaped.paced, shaped.cbr, shaped.aeadAlgo, shaped.algo, shaped.pending⟩, rfl⟩
  | switch eff noise =>
    obtain ⟨enabled, cbr⟩ := keeps
    have stays : (eff.enabled && config.engine.obfEnabled) = true := by rw [enabled, obf]; rfl
    have mode : (Pacer.ofTraffic eff).mode = .cbr := by
      show eff.mode.toShapeMode = .cbr
      rw [cbr]
      rfl
    have steady : ¬ (outbound.paced = true ∧
        ¬ (eff.enabled && config.engine.obfEnabled) = true ∧ outbound.pending ≠ []) :=
      fun flushes => flushes.2.1 stays
    simp only [react, switch]
    rw [if_neg steady]
    obtain ⟨failures, announced⟩ := announce_eq prims config
      { outbound with
        paced := eff.enabled && config.engine.obfEnabled
        ledger := { outbound.ledger with
          mark := if (eff.enabled && config.engine.obfEnabled) = true then none else
            some ⟨outbound.ledger.taken, outbound.ledger.queued, false⟩ } } eff (noise 0)
    rw [announced]
    have kept := shaped.announced config eff
    exact ⟨⟨stays, mode, kept.aeadAlgo, kept.algo, kept.pending⟩, rfl⟩
  | queueHandshake datagram =>
    exact ⟨⟨shaped.paced, shaped.cbr, shaped.aeadAlgo, shaped.algo, shaped.pending⟩, rfl⟩
  | reserve n =>
    obtain ⟨aead, algo⟩ := reserveCounters_static outbound.sessions.current n
    have current : (outbound.sessions.reserve n).2.current =
        (outbound.sessions.current.reserveCounters n).2 := by
      unfold SessionManager.reserve
      split <;> rename_i granted <;> rw [granted]
    have kept : ∀ ledger, Shaped algos
        { outbound with sessions := (outbound.sessions.reserve n).2, ledger } := by
      refine fun ledger => ⟨shaped.paced, shaped.cbr, ?_, ?_, shaped.pending⟩
      · show (outbound.sessions.reserve n).2.current.txAead.algo = _
        rw [current, aead]
        exact shaped.aeadAlgo.trans algo.symm
      · show (outbound.sessions.reserve n).2.current.algo ∈ algos
        rw [current, algo]
        exact shaped.algo
    simp only [react, Schedule.react]
    rw [show outbound.schedule.sessions = outbound.sessions from rfl]
    revert kept
    cases outbound.sessions.reserve n with
    | mk granted sessions =>
      intro kept
      cases granted with
      | ok pinned => exact ⟨kept _, rfl⟩
      | error e => exact ⟨kept _, rfl⟩
  | install origin =>
    exact ⟨⟨shaped.paced, shaped.cbr, rfl, known origin rfl, shaped.pending⟩, rfl⟩
  | retire =>
    exact ⟨⟨shaped.paced, shaped.cbr, shaped.aeadAlgo, shaped.algo, shaped.pending⟩, rfl⟩

/-- The schedule reads of an event what is visible of it. -/
theorem react_visible (schedule : Schedule) (event : OutboundEvent) :
    Schedule.react prims config schedule event =
      match visible event with
      | none => schedule
      | some seen => Schedule.react prims config schedule seen := by
  cases event with
  | rekeyDone success => cases success <;> rfl
  | _ => rfl

theorem react_of_step {outbound after : Outbound} {event : OutboundEvent}
    (taken : outbound.step prims config event = some after) :
    after = outbound.react prims config event := by
  unfold step at taken
  split at taken
  · split at taken
    · exact (Option.some.inj taken).symm
    · cases taken
  · exact (Option.some.inj taken).symm

/-- **The schedule of a shaped run is determined by its visible events.** -/
theorem schedule_run (correct : prims.AeadCorrect) (seals : prims.ChachaSeals)
    (obf : config.engine.obfEnabled = true) {first last : Outbound} {events : List OutboundEvent}
    (run : Run (Taken (step prims config)) first events last) (shaped : Shaped algos first)
    (keeps : ∀ event ∈ events, KeepsRate algos event)
    (known : ∀ origin, .install origin ∈ events → origin.algo ∈ algos) :
    last.schedule =
      (events.filterMap visible).foldl (Schedule.react prims config) first.schedule := by
  induction run with
  | done state => rfl
  | @next first second last event events taken _ ih =>
    obtain ⟨eventKeeps, laterKeeps⟩ := List.forall_mem_cons.mp keeps
    obtain ⟨kept, same⟩ := react_schedule correct seals obf shaped eventKeeps
      fun origin install => known origin (install ▸ List.mem_cons_self)
    rw [← react_of_step taken] at kept same
    rw [ih kept laterKeeps fun origin member => known origin (List.mem_cons_of_mem _ member), same,
      react_visible]
    cases seen : visible event with
    | none => rw [List.filterMap_cons_none seen]
    | some event' => rw [List.filterMap_cons_some seen, List.foldl_cons]

theorem mem_ciphers_of_install {initial : AeadAlgo} {events : List OutboundEvent}
    {origin : HandshakeOutput} (member : .install origin ∈ events) :
    origin.algo ∈ ciphers initial events :=
  List.mem_cons_of_mem _ (List.mem_filterMap.mpr ⟨_, member, rfl⟩)

/-- **Constant-rate noninterference.** Two runs of the outbound loop at a constant bit-rate, from the
same session and through the same slots, handshake datagrams and session events, emit in every slot
the same number of datagrams of the same lengths, whatever packets came from the TUN. -/
theorem cbr_noninterference (correct : prims.AeadCorrect) (seals : prims.ChachaSeals)
    (obf : config.engine.obfEnabled = true) (sessionId : UInt32) (shared : Octets 32)
    (isInitiator : Bool) (algo : AeadAlgo) (sent : Nat) (history : List Nat)
    {sessions : SessionManager Session}
    (current : sessions.current =
      Session.established prims sessionId shared isInitiator algo sent history)
    {eff : EffectiveTraffic} (enabled : eff.enabled = true) (cbr : eff.mode = .cbr)
    {events₁ events₂ : List OutboundEvent} {last₁ last₂ : Outbound}
    (run₁ : Run (Taken (step prims config)) (begin config sessions eff) events₁ last₁)
    (run₂ : Run (Taken (step prims config)) (begin config sessions eff) events₂ last₂)
    (keeps₁ : ∀ event ∈ events₁, KeepsRate (ciphers algo events₁) event)
    (keeps₂ : ∀ event ∈ events₂, KeepsRate (ciphers algo events₂) event)
    (same : events₁.filterMap visible = events₂.filterMap visible) :
    last₁.ledger.slots.map (List.map List.length) =
      last₂.ledger.slots.map (List.map List.length) := by
  have shaped : ∀ events, Shaped (ciphers algo events) (begin config sessions eff) := by
    intro events
    refine ⟨?_, ?_, ?_, ?_, fun _ member => nomatch member⟩
    · show (eff.enabled && config.engine.obfEnabled) = true
      rw [enabled, obf]
      rfl
    · show eff.mode.toShapeMode = .cbr
      rw [cbr]
      rfl
    · show sessions.current.txAead.algo = sessions.current.algo
      rw [current]
      rfl
    · show sessions.current.algo ∈ ciphers algo events
      rw [current]
      exact List.mem_cons_self
  have first := schedule_run correct seals obf run₁ (shaped events₁) keeps₁
    fun _ member => mem_ciphers_of_install member
  have second := schedule_run correct seals obf run₂ (shaped events₂) keeps₂
    fun _ member => mem_ciphers_of_install member
  have equal : last₁.schedule = last₂.schedule := by rw [first, second, same]
  exact congrArg Schedule.slots equal

end Runs

/-! ### A busy and an idle run -/

/-- What the loop is left as by a list of events. -/
def sampleAfter (events : List OutboundEvent) : Outbound :=
  events.foldl (react .transparent sampleOutbound) (begin sampleOutbound sampleSessions sampleStealth)

/-- Two packets and a handshake datagram, then two slots. -/
def sampleBusy : List OutboundEvent :=
  [.recv [[1, 2, 3], [4]] fun _ _ => 9, .queueHandshake [7, 7], .tick 4 fun _ _ => 1,
    .tick 8 fun _ _ => 2]

/-- The handshake datagram and the two slots. -/
def sampleIdle : List OutboundEvent :=
  [.queueHandshake [7, 7], .tick 4 fun _ _ => 3, .tick 8 fun _ _ => 4]

theorem sampleBusy_run : Run (Taken (step .transparent sampleOutbound))
    (begin sampleOutbound sampleSessions sampleStealth) sampleBusy (sampleAfter sampleBusy) :=
  .next rfl (.next rfl (.next rfl (.next rfl (.done _))))

theorem sampleIdle_run : Run (Taken (step .transparent sampleOutbound))
    (begin sampleOutbound sampleSessions sampleStealth) sampleIdle (sampleAfter sampleIdle) :=
  .next rfl (.next rfl (.next rfl (.done _)))

theorem cbr_noninterference_sample :
    (sampleAfter sampleBusy).ledger.slots.map (List.map List.length) =
      (sampleAfter sampleIdle).ledger.slots.map (List.map List.length) := by
  refine cbr_noninterference Primitives.transparent_aeadCorrect Primitives.transparent_chachaSeals
    rfl 7 (.zero 32) true .aegis256X2 0 [] rfl rfl rfl sampleBusy_run sampleIdle_run
    (by decide) (by decide) rfl

end Outbound

end ChameleonPQ
