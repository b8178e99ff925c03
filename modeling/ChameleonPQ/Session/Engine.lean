/-
**The crypto engine of the data path (`engine.rs`).**

* `sealOne`, `encryptBatch` — packets sealed inline on the current session, one counter each.
* `sealBatchWithCounters` — a batch sealed on a pinned session from counters reserved before.
* `coverDatagram`, `sealDataFull` — the two seals of the paced path, both padded to the full size.
* `packet_seals_iff` — on which packet lengths a framing seals at all.
* `admitted_packets_seal` — which accepted configurations seal every packet their MTU admits.
-/

import ChameleonPQ.Config
import ChameleonPQ.Session.RoundTrip

namespace ChameleonPQ

open Library

namespace SessionManager

variable (prims : Primitives) (manager : SessionManager Session)

/-- `encrypt`: the session id, the counter and the ciphertext. -/
def encrypt (plaintext : Bytes) : Result (UInt32 × Nat × Bytes) × SessionManager Session :=
  match manager.current.encrypt prims plaintext with
  | (.error e, current) => (.error e, { manager with current })
  | (.ok (counter, ct), current) =>
    (.ok (manager.current.sessionId, counter, ct), { manager with current })

/-- `reserve`: the session the counters belong to, and the first of them. -/
def reserve (n : Nat) : Result (Session × Nat) × SessionManager Session :=
  match manager.current.reserveCounters n with
  | (.error e, current) => (.error e, { manager with current })
  | (.ok first, current) => (.ok (current, first), { manager with current })

/-- `seal_obf`. -/
def sealObf (innerType : UInt8) (plaintext : Bytes) (policy : Obf.PadPolicy) (noise : Nat → UInt8) :
    Result Bytes × SessionManager Session :=
  match manager.current.sealObf prims innerType plaintext policy noise with
  | (outcome, current) => (outcome, { manager with current })

/-- `seal_cover`. -/
def sealCover (policy : Obf.PadPolicy) (noise : Nat → UInt8) :
    Result Bytes × SessionManager Session :=
  manager.sealObf prims FrameType.padding.asU8 [] policy noise

end SessionManager

/-- `Frame::new_data`. -/
def Frame.newData (sessionId : UInt32) (sequence : Nat) (payload : Bytes) : Frame :=
  ⟨.data, sessionId, UInt64.ofNat sequence, payload⟩

/-- The settings of `CryptoEngine`; its session manager is passed beside them. -/
structure CryptoEngine where
  obfEnabled : Bool
  padPolicy : Obf.PadPolicy
  deriving DecidableEq, Repr

namespace CryptoEngine

section Definitions

variable (prims : Primitives)

/-- `CryptoEngine::new`, as the server and the client build it from the configuration. -/
def ofConfig (config : AppConfig) : CryptoEngine :=
  ⟨config.obfuscation.enabled, config.obfuscation.padding.toPadPolicy⟩

/-- `cover_datagram`. -/
def coverDatagram (manager : SessionManager Session) (noise : Nat → UInt8) :
    Result Bytes × SessionManager Session :=
  manager.sealCover prims .full noise

/-- `seal_data_full`. -/
def sealDataFull (manager : SessionManager Session) (plaintext : Bytes) (noise : Nat → UInt8) :
    Result Bytes × SessionManager Session :=
  manager.sealObf prims FrameType.data.asU8 plaintext .full noise

/-- `seal_one`. -/
def sealOne (engine : CryptoEngine) (manager : SessionManager Session) (plaintext : Bytes)
    (noise : Nat → UInt8) : Result Bytes × SessionManager Session :=
  if engine.obfEnabled then
    manager.sealObf prims FrameType.data.asU8 plaintext engine.padPolicy noise
  else
    match manager.encrypt prims plaintext with
    | (.error e, after) => (.error e, after)
    | (.ok (sessionId, counter, ct), after) => ((Frame.newData sessionId counter ct).encode, after)

/-- `encrypt_batch`; `noise i` pads packet `i`. -/
def encryptBatch (engine : CryptoEngine) (manager : SessionManager Session) :
    List Bytes → (Nat → Nat → UInt8) → Result (List Bytes) × SessionManager Session
  | [], _ => (.ok [], manager)
  | plaintext :: batch, noise =>
    match engine.sealOne prims manager plaintext (noise 0) with
    | (.error e, after) => (.error e, after)
    | (.ok datagram, after) =>
      match engine.encryptBatch after batch fun i => noise (i + 1) with
      | (.error e, last) => (.error e, last)
      | (.ok datagrams, last) => (.ok (datagram :: datagrams), last)

/-- The body of `seal_batch_with_counters` for one packet. -/
def sealAt (engine : CryptoEngine) (session : Session) (counter : Nat) (plaintext : Bytes)
    (noise : Nat → UInt8) : Result Bytes :=
  if engine.obfEnabled then
    session.sealObfWithCounter prims counter FrameType.data.asU8 plaintext engine.padPolicy noise
  else
    match session.sealWithCounter prims counter plaintext with
    | .error e => .error e
    | .ok ct => (Frame.newData session.sessionId counter ct).encode

/-- `seal_batch_with_counters`: the first packet that fails fails the batch. -/
def sealBatchWithCounters (engine : CryptoEngine) (session : Session) (baseCounter : Nat) :
    List Bytes → (Nat → Nat → UInt8) → Result (List Bytes)
  | [], _ => .ok []
  | plaintext :: batch, noise =>
    match engine.sealAt prims session baseCounter plaintext (noise 0) with
    | .error e => .error e
    | .ok datagram =>
      match engine.sealBatchWithCounters session (baseCounter + 1) batch fun i => noise (i + 1) with
      | .error e => .error e
      | .ok datagrams => .ok (datagram :: datagrams)

end Definitions

/-! ### One packet -/

/-- The packet lengths a framing takes: the obfuscated frame pads up to the MTU, the cleartext frame
has a payload limit. -/
def Fits (engine : CryptoEngine) (algo : AeadAlgo) (length : Nat) : Prop :=
  if engine.obfEnabled then Obf.innerHeaderLen + length ≤ Obf.maxFramed algo.tagLen
  else length + algo.tagLen ≤ maxPayload

instance (engine : CryptoEngine) (algo : AeadAlgo) (length : Nat) :
    Decidable (engine.Fits algo length) :=
  inferInstanceAs (Decidable (if engine.obfEnabled then
    Obf.innerHeaderLen + length ≤ Obf.maxFramed algo.tagLen else length + algo.tagLen ≤ maxPayload))

/-- A single seal that produced a datagram of at most the wire MTU. -/
def Sealed (outcome : Result Bytes) : Prop :=
  ∃ datagram, outcome = .ok datagram ∧ datagram.length ≤ Obf.mtuWire

/-- A batch that produced one datagram of at most the wire MTU for each packet. -/
def SealedAll (outcome : Result (List Bytes)) (count : Nat) : Prop :=
  ∃ datagrams, outcome = .ok datagrams ∧ datagrams.length = count ∧
    ∀ datagram ∈ datagrams, datagram.length ≤ Obf.mtuWire

end CryptoEngine

open CryptoEngine

namespace Session

variable {prims : Primitives} {session : Session}

/-- Sealing fails on no content of a datagram's size. -/
theorem sealWithCounter_exists (seals : prims.ChachaSeals)
    (aeadAlgo : session.txAead.algo = session.algo) (counter : Nat) {plaintext : Bytes}
    (short : plaintext.length ≤ 2 ^ 38 - 64) :
    ∃ ct, session.sealWithCounter prims counter plaintext = .ok ct := by
  have nonceLength : (session.makeNonce session.txSalt counter).length =
      session.txAead.algo.nonceLen := by
    rw [length_makeNonce, aeadAlgo]
  exact DirectionalAead.sealBytes_exists seals nonceLength _ short

/-- **An obfuscated seal fits the wire exactly when the framed packet fits the padding limit.** -/
theorem sealed_obf_iff (correct : prims.AeadCorrect) (seals : prims.ChachaSeals)
    (aeadAlgo : session.txAead.algo = session.algo) (counter : Nat) (innerType : UInt8)
    (plaintext : Bytes) (policy : Obf.PadPolicy) (noise : Nat → UInt8) :
    Sealed (session.sealObfCore prims counter innerType plaintext policy noise) ↔
      Obf.innerHeaderLen + plaintext.length ≤ Obf.maxFramed session.algo.tagLen := by
  have limit := mtu_split session.algo
  have wire : Obf.mtuWire = 1280 := rfl
  have grows := Obf.le_padTarget (Obf.innerHeaderLen + plaintext.length) policy
    (Obf.maxFramed session.algo.tagLen)
  constructor
  · rintro ⟨datagram, success, size⟩
    rw [length_sealed correct aeadAlgo success] at size
    omega
  · intro fits
    have padded := Obf.padTarget_le policy fits
    have framed : (Obf.packInner innerType plaintext policy (Obf.maxFramed session.algo.tagLen)
        noise).length ≤ 2 ^ 38 - 64 := by
      rw [Obf.length_packInner]
      omega
    obtain ⟨ct, sealed⟩ := sealWithCounter_exists seals aeadAlgo counter framed
    have success : session.sealObfCore prims counter innerType plaintext policy noise =
        .ok (Obf.sealWire prims session.txObfKey session.sessionId counter ct) := by
      simp only [sealObfCore, sealed]
    refine ⟨_, success, ?_⟩
    rw [length_sealed correct aeadAlgo success]
    omega

end Session

namespace CryptoEngine

variable {prims : Primitives}

/-- The cleartext frame takes a payload up to its limit. -/
theorem sealed_frame_iff (sessionId : UInt32) (counter : Nat) (ct : Bytes) :
    Sealed (Frame.newData sessionId counter ct).encode ↔ ct.length ≤ maxPayload := by
  unfold Frame.encode
  constructor
  · rintro ⟨datagram, success, _⟩
    split at success
    · cases success
    · rename_i inside
      exact Nat.not_lt.mp inside
  · intro fits
    have inside : ¬ maxPayload < (Frame.newData sessionId counter ct).payload.length :=
      Nat.not_lt.mpr fits
    refine ⟨_, if_neg inside, ?_⟩
    rw [List.length_append, length_headerBytes]
    have size : (Frame.newData sessionId counter ct).payload.length = ct.length := rfl
    have split : headerLen + maxPayload = Obf.mtuWire := rfl
    omega

/-- **A framing seals a packet exactly when its length fits.** -/
theorem packet_seals_iff (correct : prims.AeadCorrect) (seals : prims.ChachaSeals)
    (engine : CryptoEngine) (session : Session) (aeadAlgo : session.txAead.algo = session.algo)
    (counter : Nat) {plaintext : Bytes} (short : plaintext.length ≤ 65535) (noise : Nat → UInt8) :
    Sealed (engine.sealAt prims session counter plaintext noise) ↔
      engine.Fits session.algo plaintext.length := by
  unfold sealAt Fits
  by_cases obf : engine.obfEnabled = true
  · rw [if_pos obf, if_pos obf]
    exact Session.sealed_obf_iff correct seals aeadAlgo counter _ _ _ noise
  · rw [if_neg obf, if_neg obf]
    have small : plaintext.length ≤ 2 ^ 38 - 64 := by omega
    obtain ⟨ct, sealed⟩ := Session.sealWithCounter_exists seals aeadAlgo counter small
    rw [sealed, ← Session.length_sealWithCounter correct aeadAlgo sealed]
    exact sealed_frame_iff _ _ _

/-- Sealing inline is reserving one counter and sealing at it. -/
theorem sealOne_of_reserved (prims : Primitives) (engine : CryptoEngine) {manager : SessionManager Session}
    (plaintext : Bytes) (noise : Nat → UInt8) {counter : Nat} {advanced : Session}
    (granted : manager.current.reserveCounters 1 = (.ok counter, advanced)) :
    engine.sealOne prims manager plaintext noise =
      (engine.sealAt prims manager.current counter plaintext noise,
        { manager with current := advanced }) := by
  unfold sealOne sealAt
  by_cases obf : engine.obfEnabled = true
  · rw [if_pos obf, if_pos obf]
    simp only [SessionManager.sealObf, Session.sealObf, granted]
    rfl
  · rw [if_neg obf, if_neg obf]
    simp only [SessionManager.encrypt, Session.encrypt, granted]
    cases manager.current.sealWithCounter prims counter plaintext with
    | error e => rfl
    | ok ct => rfl

/-! ### Batches -/

/-- The batch stays below the rekey limit of the session. -/
def Within (session : Session) (count : Nat) : Prop :=
  session.txCounter < session.rekeyAt ∧ session.txCounter + count ≤ session.rekeyAt

/-- A range below the limit is granted. -/
theorem reserveCounters_within {session : Session} {count : Nat}
    (small : session.rekeyAt < 2 ^ 64) (within : Within session count) :
    session.reserveCounters count =
      (.ok session.txCounter, { session with txCounter := session.txCounter + count }) := by
  obtain ⟨below, fits⟩ := within
  have granted : ¬ session.rekeyAt ≤ min (session.txCounter + (count - 1)) (2 ^ 64 - 1) := by
    omega
  have wraps : (session.txCounter + count) % 2 ^ 64 = session.txCounter + count :=
    Nat.mod_eq_of_lt (by omega)
  simp only [Session.reserveCounters, if_neg granted, wraps]

theorem reserve_within {manager : SessionManager Session} {count : Nat}
    (small : manager.current.rekeyAt < 2 ^ 64) (within : Within manager.current count) :
    manager.reserve count =
      (.ok ({ manager.current with txCounter := manager.current.txCounter + count },
          manager.current.txCounter),
        { manager with
          current := { manager.current with txCounter := manager.current.txCounter + count } }) := by
  simp only [SessionManager.reserve, reserveCounters_within small within]

theorem sealedAll_cons {first : Result Bytes} {rest : Result (List Bytes)} {count : Nat}
    (head : Sealed first) (tail : SealedAll rest count) :
    ∃ datagram datagrams, first = .ok datagram ∧ rest = .ok datagrams ∧
      SealedAll (.ok (datagram :: datagrams)) (count + 1) := by
  obtain ⟨datagram, success, size⟩ := head
  obtain ⟨datagrams, successes, length, sizes⟩ := tail
  refine ⟨datagram, datagrams, success, successes, _, rfl, ?_, ?_⟩
  · rw [List.length_cons, length]
  · exact List.forall_mem_cons.mpr ⟨size, sizes⟩

/-- **A batch of fitting packets seals at reserved counters.** -/
theorem sealBatchWithCounters_sealed (correct : prims.AeadCorrect) (seals : prims.ChachaSeals)
    (engine : CryptoEngine) (session : Session) (aeadAlgo : session.txAead.algo = session.algo)
    (batch : List Bytes) (short : ∀ packet ∈ batch, packet.length ≤ 65535)
    (fits : ∀ packet ∈ batch, engine.Fits session.algo packet.length) (base : Nat)
    (noise : Nat → Nat → UInt8) :
    SealedAll (engine.sealBatchWithCounters prims session base batch noise) batch.length := by
  induction batch generalizing base noise with
  | nil => exact ⟨[], rfl, rfl, by simp⟩
  | cons packet batch ih =>
    obtain ⟨packetShort, batchShort⟩ := List.forall_mem_cons.mp short
    obtain ⟨packetFits, batchFits⟩ := List.forall_mem_cons.mp fits
    have head := (packet_seals_iff correct seals engine session aeadAlgo base packetShort (noise 0)).mpr
      packetFits
    obtain ⟨datagram, datagrams, success, successes, all⟩ :=
      sealedAll_cons head (ih batchShort batchFits (base + 1) fun i => noise (i + 1))
    rw [sealBatchWithCounters, success]
    simp only [successes]
    exact all

/-- **A batch of fitting packets seals inline.** -/
theorem encryptBatch_sealed (correct : prims.AeadCorrect) (seals : prims.ChachaSeals)
    (engine : CryptoEngine) (manager : SessionManager Session)
    (aeadAlgo : manager.current.txAead.algo = manager.current.algo)
    (small : manager.current.rekeyAt < 2 ^ 64) (batch : List Bytes)
    (short : ∀ packet ∈ batch, packet.length ≤ 65535)
    (fits : ∀ packet ∈ batch, engine.Fits manager.current.algo packet.length)
    (room : manager.current.txCounter + batch.length ≤ manager.current.rekeyAt)
    (noise : Nat → Nat → UInt8) :
    SealedAll (engine.encryptBatch prims manager batch noise).1 batch.length := by
  induction batch generalizing manager noise with
  | nil => exact ⟨[], rfl, rfl, by simp⟩
  | cons packet batch ih =>
    obtain ⟨packetShort, batchShort⟩ := List.forall_mem_cons.mp short
    obtain ⟨packetFits, batchFits⟩ := List.forall_mem_cons.mp fits
    rw [List.length_cons] at room
    have next : Within manager.current 1 := ⟨by omega, by omega⟩
    have one := sealOne_of_reserved prims engine packet (noise 0) (reserveCounters_within small next)
    have head := (packet_seals_iff correct seals engine manager.current aeadAlgo
      manager.current.txCounter packetShort (noise 0)).mpr packetFits
    have later : manager.current.txCounter + 1 + batch.length ≤ manager.current.rekeyAt := by omega
    have tail := ih
      { manager with current := { manager.current with txCounter := manager.current.txCounter + 1 } }
      aeadAlgo small batchShort batchFits later fun i => noise (i + 1)
    obtain ⟨datagram, datagrams, success, successes, all⟩ := sealedAll_cons head tail
    rw [success] at one
    simp only [encryptBatch, one]
    revert successes
    generalize encryptBatch prims engine _ batch _ = outcome
    intro successes
    obtain ⟨result, last⟩ := outcome
    obtain rfl : result = .ok datagrams := successes
    exact all

/-- A session sealed at a counter does not depend on its own transmit counter. -/
theorem sealBatchWithCounters_txCounter (engine : CryptoEngine) (session : Session) (txCounter base : Nat)
    (batch : List Bytes) (noise : Nat → Nat → UInt8) :
    engine.sealBatchWithCounters prims { session with txCounter } base batch noise =
      engine.sealBatchWithCounters prims session base batch noise := by
  induction batch generalizing base noise with
  | nil => rfl
  | cons packet batch ih =>
    rw [sealBatchWithCounters, sealBatchWithCounters, ih]
    rfl

/-- A seal that succeeded spent the current counter, and nothing else changed. -/
theorem current_of_sealObf {manager after : SessionManager Session}
    (small : manager.current.rekeyAt < 2 ^ 64) {innerType : UInt8} {plaintext : Bytes}
    {policy : Obf.PadPolicy} {noise : Nat → UInt8} {datagram : Bytes}
    (success : manager.sealObf prims innerType plaintext policy noise = (.ok datagram, after)) :
    after.current = { manager.current with txCounter := manager.current.txCounter + 1 } := by
  simp only [SessionManager.sealObf, Session.sealObf] at success
  cases granted : manager.current.reserveCounters 1 with
  | mk outcome advanced =>
    rw [granted] at success
    cases outcome with
    | error e => cases success
    | ok counter =>
      obtain ⟨rfl, inside, rfl⟩ := Session.reserveCounters_ok small granted
      have wraps : (manager.current.txCounter + 1) % 2 ^ 64 = manager.current.txCounter + 1 :=
        Nat.mod_eq_of_lt (by omega)
      rw [← (Prod.mk.inj success).2, wraps]

/-- A batch gives one datagram for each packet. -/
theorem length_sealBatchWithCounters {engine : CryptoEngine} {session : Session} {base : Nat}
    {batch datagrams : List Bytes} {noise : Nat → Nat → UInt8}
    (success : engine.sealBatchWithCounters prims session base batch noise = .ok datagrams) :
    datagrams.length = batch.length := by
  induction batch generalizing base noise datagrams with
  | nil =>
    cases success
    rfl
  | cons packet batch ih =>
    rw [sealBatchWithCounters] at success
    split at success
    · cases success
    split at success
    · cases success
    · rename_i rest sealed
      cases success
      exact congrArg (· + 1) (ih sealed)

theorem length_encryptBatch {engine : CryptoEngine} {manager after : SessionManager Session}
    {batch datagrams : List Bytes} {noise : Nat → Nat → UInt8}
    (success : engine.encryptBatch prims manager batch noise = (.ok datagrams, after)) :
    datagrams.length = batch.length := by
  induction batch generalizing manager noise datagrams with
  | nil =>
    cases success
    rfl
  | cons packet batch ih =>
    rw [encryptBatch] at success
    split at success
    · cases success
    split at success
    · cases success
    · rename_i rest last sealed
      cases success
      exact congrArg (· + 1) (ih sealed)

/-- **A batch sealed inline is sealed at consecutive counters from the current one.** -/
theorem encryptBatch_ok (engine : CryptoEngine) (manager : SessionManager Session)
    {after : SessionManager Session} (small : manager.current.rekeyAt < 2 ^ 64) {batch datagrams : List Bytes}
    {noise : Nat → Nat → UInt8}
    (success : engine.encryptBatch prims manager batch noise = (.ok datagrams, after)) :
    engine.sealBatchWithCounters prims manager.current manager.current.txCounter batch noise =
        .ok datagrams ∧
      after.current =
        { manager.current with txCounter := manager.current.txCounter + batch.length } := by
  induction batch generalizing manager noise datagrams with
  | nil =>
    cases success
    exact ⟨rfl, rfl⟩
  | cons packet batch ih =>
    rw [encryptBatch] at success
    cases granted : manager.current.reserveCounters 1 with
    | mk outcome advanced =>
      cases outcome with
      | error e =>
        have failed : engine.sealOne prims manager packet (noise 0) =
            (.error e, { manager with current := advanced }) := by
          unfold sealOne
          split
          · simp only [SessionManager.sealObf, Session.sealObf, granted]
          · simp only [SessionManager.encrypt, Session.encrypt, granted]
        rw [failed] at success
        cases success
      | ok counter =>
        rw [sealOne_of_reserved prims engine packet (noise 0) granted] at success
        obtain ⟨rfl, inside, rfl⟩ := Session.reserveCounters_ok small granted
        have wraps : (manager.current.txCounter + 1) % 2 ^ 64 = manager.current.txCounter + 1 :=
          Nat.mod_eq_of_lt (by omega)
        rw [wraps] at success
        rw [sealBatchWithCounters]
        cases first : engine.sealAt prims manager.current manager.current.txCounter packet
            (noise 0) with
        | error e =>
          rw [first] at success
          cases success
        | ok datagram =>
          rw [first] at success
          simp only at success
          split at success
          · cases success
          · rename_i rest last tail
            cases success
            obtain ⟨later, current⟩ := ih { manager with current := { manager.current with
              txCounter := manager.current.txCounter + 1 } } small tail
            rw [sealBatchWithCounters_txCounter] at later
            simp only [later]
            refine ⟨trivial, current.trans ?_⟩
            simp only [List.length_cons, Nat.add_assoc, Nat.add_comm 1]

/-! ### The configurations whose packets seal -/

/-- Every packet the MTU admits seals, on each of the three sealing paths: a pipelined batch, a batch
sealed inline, and, where the data path is obfuscated, a paced packet. -/
structure SealsAdmitted (prims : Primitives) (config : AppConfig) (manager : SessionManager Session) :
    Prop where
  pipelined : ∀ (batch : List Bytes) (noise : Nat → Nat → UInt8),
    (∀ packet ∈ batch, packet.length ≤ config.tun.mtu.toNat) → Within manager.current batch.length →
      ∃ pinned base after, manager.reserve batch.length = (.ok (pinned, base), after) ∧
        SealedAll ((ofConfig config).sealBatchWithCounters prims pinned base batch noise) batch.length
  inline : ∀ (batch : List Bytes) (noise : Nat → Nat → UInt8),
    (∀ packet ∈ batch, packet.length ≤ config.tun.mtu.toNat) → Within manager.current batch.length →
      SealedAll ((ofConfig config).encryptBatch prims manager batch noise).1 batch.length
  paced : config.obfuscation.enabled = true → ∀ (packet : Bytes) (noise : Nat → UInt8),
    packet.length ≤ config.tun.mtu.toNat → Within manager.current 1 →
      Sealed (sealDataFull prims manager packet noise).1

/-- An accepted configuration admits only packets that fit the padding limit of either cipher. -/
theorem fits_of_accepted {config : AppConfig} (accepted : config.Accepted) (algo : AeadAlgo)
    (reachable : config.obfuscation.enabled = true ∨ config.tun.mtu.toNat + algo.tagLen ≤ maxPayload)
    {length : Nat} (admitted : length ≤ config.tun.mtu.toNat) : (ofConfig config).Fits algo length := by
  unfold Fits
  split
  · rename_i enabled
    have cap : config.tun.mtu.toNat ≤ 1232 := Nat.not_lt.mp (accepted.mtuCap enabled)
    have smallest : 1235 ≤ Obf.maxFramed algo.tagLen := by cases algo <;> decide
    show 3 + length ≤ _
    omega
  · rename_i disabled
    have room := reachable.resolve_left disabled
    omega

/-- A configuration whose packets seal has room for the largest of them. -/
theorem fits_of_sealsAdmitted (correct : prims.AeadCorrect) (seals : prims.ChachaSeals)
    {config : AppConfig} (manager : SessionManager Session)
    (aeadAlgo : manager.current.txAead.algo = manager.current.algo)
    (small : manager.current.rekeyAt < 2 ^ 64) (below : manager.current.txCounter < manager.current.rekeyAt)
    (all : SealsAdmitted prims config manager) :
    (ofConfig config).Fits manager.current.algo config.tun.mtu.toNat := by
  have largest : (List.replicate config.tun.mtu.toNat (0 : UInt8)).length = config.tun.mtu.toNat :=
    List.length_replicate
  obtain ⟨pinned, base, after, reserved, datagrams, success, _, sizes⟩ :=
    all.pipelined [List.replicate config.tun.mtu.toNat 0] (fun _ _ => 0)
      (by simp) ⟨below, below⟩
  rw [List.length_singleton, reserve_within small ⟨below, below⟩] at reserved
  obtain ⟨rfl, rfl⟩ : pinned = _ ∧ base = _ := by
    have same := Except.ok.inj (congrArg Prod.fst reserved)
    exact ⟨(congrArg Prod.fst same).symm, (congrArg Prod.snd same).symm⟩
  have short : (List.replicate config.tun.mtu.toNat (0 : UInt8)).length ≤ 65535 := by
    rw [largest]
    exact Nat.le_of_lt_succ config.tun.mtu.toNat_lt
  rw [← largest]
  refine (packet_seals_iff correct seals (ofConfig config)
    { manager.current with txCounter := manager.current.txCounter + 1 } aeadAlgo
    manager.current.txCounter short fun _ => 0).mp ?_
  simp only [sealBatchWithCounters] at success
  split at success
  · cases success
  · rename_i datagram one
    cases success
    exact ⟨datagram, one, sizes datagram (by simp)⟩

/-- **Which accepted configurations seal every packet their MTU admits**: those that obfuscate, and
those whose MTU leaves the cleartext frame room for the tag of the negotiated cipher. -/
theorem admitted_packets_seal (correct : prims.AeadCorrect) (seals : prims.ChachaSeals)
    {config : AppConfig} (accepted : config.validate = .ok ()) (sessionId : UInt32)
    (shared : Octets 32) (isInitiator : Bool) (algo : AeadAlgo) {sent : Nat} (history : List Nat)
    (below : sent < 2 ^ 48) {manager : SessionManager Session}
    (current : manager.current =
      Session.established prims sessionId shared isInitiator algo sent history) :
    SealsAdmitted prims config manager ↔
      config.obfuscation.enabled = true ∨ config.tun.mtu.toNat + algo.tagLen ≤ maxPayload := by
  have aeadAlgo : manager.current.txAead.algo = manager.current.algo := by rw [current]; rfl
  have algoSame : manager.current.algo = algo := by rw [current]; rfl
  have limit : manager.current.rekeyAt = 2 ^ 48 := by rw [current]; rfl
  have counter : manager.current.txCounter = sent := by rw [current]; rfl
  have small : manager.current.rekeyAt < 2 ^ 64 := by rw [limit]; decide
  have admitted : ∀ length, length ≤ config.tun.mtu.toNat → length ≤ 65535 := fun length le =>
    le.trans (Nat.le_of_lt_succ config.tun.mtu.toNat_lt)
  constructor
  · intro all
    have fits := fits_of_sealsAdmitted correct seals manager aeadAlgo small
      (by rw [limit, counter]; exact below) all
    rw [algoSame] at fits
    unfold Fits at fits
    split at fits
    · rename_i enabled
      exact Or.inl enabled
    · exact Or.inr fits
  · intro reachable
    have fits : ∀ length, length ≤ config.tun.mtu.toNat →
        (ofConfig config).Fits manager.current.algo length := by
      intro length le
      rw [algoSame]
      exact fits_of_accepted (AppConfig.accepted_of_validate accepted) algo reachable le
    refine ⟨fun batch noise packets within => ?_, fun batch noise packets within => ?_,
      fun enabled packet noise le within => ?_⟩
    · refine ⟨_, _, _, reserve_within small within, ?_⟩
      exact sealBatchWithCounters_sealed correct seals (ofConfig config)
        { manager.current with txCounter := manager.current.txCounter + batch.length }
        aeadAlgo batch (fun packet member => admitted _ (packets packet member))
        (fun packet member => fits _ (packets packet member)) _ noise
    · exact encryptBatch_sealed correct seals (ofConfig config) manager aeadAlgo small batch
        (fun packet member => admitted _ (packets packet member))
        (fun packet member => fits _ (packets packet member)) within.2 noise
    · have granted := reserveCounters_within small within
      have framed := fits _ le
      rw [Fits, if_pos (show (ofConfig config).obfEnabled = true from enabled)] at framed
      simp only [sealDataFull, SessionManager.sealObf, Session.sealObf, granted]
      exact (Session.sealed_obf_iff correct seals aeadAlgo _ _ packet _ noise).mpr framed

/-! ### The configuration of the module documentation, without obfuscation -/

/-- The example configuration of the module documentation, data path in the clear. -/
def sampleConfig : AppConfig where
  identity :=
    { ed25519SeedHex := "0101010101010101010101010101010101010101010101010101010101010101"
      peerEd25519PubHex := "0909090909090909090909090909090909090909090909090909090909090909"
      mldsaSecretHex := none
      peerMldsaPubHex := none }
  tun := { mtu := 1400, routeAll := false, killSwitch := false, dns := [] }
  obfuscation := { enabled := false, padding := .bucketed, handshake := false, pskHex := none }
  traffic :=
    { profile := .off, enabled := true, mode := .adaptive, ratePps := 256, burst := 2
      cooldownMs := 500, coverBudgetPackets := 64, coverRatio := 0.25 }

/-- The same configuration with the default MTU and the obfuscated data path. -/
def sampleObfuscated : AppConfig :=
  { sampleConfig with
    tun := { sampleConfig.tun with mtu := 1200 }
    obfuscation := { sampleConfig.obfuscation with enabled := true } }

def sampleManager : SessionManager Session :=
  .new (.established .transparent 7 (.zero 32) true .chaCha20Poly1305 0 []) 0

theorem sampleConfig_accepted : sampleConfig.validate = .ok () := by rfl

theorem admitted_packets_seal_sample :
    SealsAdmitted .transparent sampleObfuscated sampleManager :=
  (admitted_packets_seal Primitives.transparent_aeadCorrect Primitives.transparent_chachaSeals
    (by rfl) 7 (.zero 32) true .chaCha20Poly1305 [] (by decide) rfl).mpr (Or.inl rfl)

/-- **An accepted configuration whose largest packets do not seal**: 1400 octets and one tag exceed
the payload of a cleartext frame, and the packet takes its whole batch with it. -/
theorem oversize_packet_fails : sampleConfig.validate = .ok () ∧
    ¬ SealsAdmitted .transparent sampleConfig sampleManager := by
  refine ⟨sampleConfig_accepted, fun all => ?_⟩
  have fits := fits_of_sealsAdmitted Primitives.transparent_aeadCorrect
    Primitives.transparent_chachaSeals sampleManager rfl (by decide) (by decide) all
  exact absurd fits (by decide)

end CryptoEngine

end ChameleonPQ
