/-
**No amplification by the initial responder (`net.rs`).**

Whoever can send a datagram chooses its source address. What the responder sends answers complete messages,
and a message is complete only when all its octets have come in.

* `Reassembler.pushParts_octets` — what a reassembler holds and returns is what it was given.
* `receiveFragment_octets` — of a datagram it stores the part behind the headers, or nothing.
* `Envelope.of_built` — the datagrams of an answer: as many octets as a message it answers, and few headers.
* `no_amplification` — in every run, the responder never sent more handshake octets than it received, and at
  most a 64th more on the wire.
-/

import ChameleonPQ.Library.TableWeight
import ChameleonPQ.Net.CookieGate
import ChameleonPQ.Transport.Envelope
import ChameleonPQ.Transport.Hostile

namespace ChameleonPQ

open Library Library.Runs

/-- **Opening takes the tag away.** -/
def Primitives.OpensShorter (prims : Primitives) : Prop :=
  ∀ key nonce aad sealed plain, prims.chachaOpen key nonce aad sealed = some plain →
    plain.length + 16 = sealed.length

/-! ### What a reassembler holds -/

namespace Reassembler

variable {reasm : Reassembler}

/-- The octets of a message in the making. -/
def stored (partialMsg : PartialMsg) : Nat := partialMsg.chunks.weight List.length

theorem octets_eq (reasm : Reassembler) : reasm.octets = reasm.partials.weight stored := rfl

/-- The octets of an outcome. -/
def returned : Result (Option Bytes) → Nat
  | .ok (some message) => message.length
  | _ => 0

/-- **What is held and returned was pushed.** -/
theorem pushParts_octets (reasm : Reassembler) (now : Nat) (msgId : UInt32) (index total : Nat) (payload : Bytes) :
    (reasm.pushParts now msgId index total payload).2.octets +
        returned (reasm.pushParts now msgId index total payload).1 ≤
      reasm.octets + if payload.length ≤ fragPayload then payload.length else 0 := by
  unfold pushParts
  split
  · exact Nat.le_add_right _ _
  split
  · exact Nat.le_add_right _ _
  rename_i short
  rw [if_pos (Nat.not_lt.mp short)]
  split
  · exact Nat.le_add_right _ _
  -- what the entry of the message weighs, it weighs in the table
  have entry : (reasm.partials.remove msgId).weight stored + stored (reasm.entry now msgId total) ≤
      reasm.octets := by
    rw [octets_eq]
    unfold Reassembler.entry
    split
    · rename_i held found
      exact Table.weight_remove_add_le stored (Table.mem_of_lookup found)
    · exact Table.weight_remove_le stored reasm.partials msgId
  have grown : stored ⟨(reasm.entry now msgId total).total,
      (reasm.entry now msgId total).chunks.insert index payload, (reasm.entry now msgId total).firstSeen⟩ ≤
        stored (reasm.entry now msgId total) + payload.length := Table.weight_insert_le _ index payload
  dsimp only
  split
  · exact Nat.le_add_right _ _
  split
  · split
    · rw [octets_eq, Table.weight_insert]
      dsimp only [returned]
      omega
    · rename_i parts collected
      have whole : (parts.map List.length).sum ≤ stored ⟨(reasm.entry now msgId total).total,
          (reasm.entry now msgId total).chunks.insert index payload, (reasm.entry now msgId total).firstSeen⟩ :=
        Table.weight_collect_le _ collected
      rw [octets_eq]
      dsimp only [returned]
      rw [List.length_flatten]
      omega
  · rw [octets_eq, Table.weight_insert]
    dsimp only [returned]
    omega

theorem pruneOld_octets_le (reasm : Reassembler) (now maxAge : Nat) :
    (reasm.pruneOld now maxAge).octets ≤ reasm.octets :=
  Table.weight_sublist_le stored List.filter_sublist

end Reassembler

/-! ### What a datagram carries -/

/-- The headers of a handshake datagram. -/
def handshakeOverhead (hsObf : Option (Octets 32)) : Nat :=
  match hsObf with
  | some _ => HsObf.hsFragHeaderLen
  | none => headerLen + fragHeaderLen

/-- The octets of a message in the framing in use. -/
def envelopeLen (hsObf : Option (Octets 32)) : Nat :=
  match hsObf with
  | some _ => handshakeMsgLen + (HsObf.hsNonceLen + HsObf.hsTagLen)
  | none => handshakeMsgLen

/-- The octets some datagrams carry behind their headers. -/
def carriedOctets (hsObf : Option (Octets 32)) (datagrams : List Bytes) : Nat :=
  (datagrams.map fun raw => raw.length - handshakeOverhead hsObf).sum

/-- The octets of some datagrams. -/
def wireOctets (datagrams : List Bytes) : Nat := (datagrams.map List.length).sum

section Datagrams

variable {prims : Primitives} {hsObf : Option (Octets 32)}

theorem carriedOctets_append (front back : List Bytes) :
    carriedOctets hsObf (front ++ back) = carriedOctets hsObf front + carriedOctets hsObf back := by
  rw [carriedOctets, List.map_append, List.sum_append]
  rfl

theorem wireOctets_append (front back : List Bytes) :
    wireOctets (front ++ back) = wireOctets front + wireOctets back := by
  rw [wireOctets, List.map_append, List.sum_append]
  rfl

/-- **Of a datagram that is pushed, the part behind the headers is stored, or nothing.** -/
theorem receiveFragment_octets (prims : Primitives) (hsObf : Option (Octets 32)) (reasm : Reassembler) (now : Nat)
    (raw : Bytes) : ∃ stored, stored ≤ fragPayload ∧
      (stored = 0 ∨ stored + handshakeOverhead hsObf = raw.length) ∧
      (receiveFragment prims hsObf reasm now raw).2.octets +
        Reassembler.returned (receiveFragment prims hsObf reasm now raw).1 ≤ reasm.octets + stored := by
  have nothing : ∀ outcome : Result (Option Bytes), Reassembler.returned outcome = 0 →
      ∃ stored, stored ≤ fragPayload ∧ (stored = 0 ∨ stored + handshakeOverhead hsObf = raw.length) ∧
        reasm.octets + Reassembler.returned outcome ≤ reasm.octets + stored :=
    fun outcome none => ⟨0, Nat.zero_le _, .inl rfl, by rw [none]⟩
  have part : ∀ {msgId index total} {payload : Bytes}, payload.length + handshakeOverhead hsObf = raw.length →
      ∃ stored, stored ≤ fragPayload ∧ (stored = 0 ∨ stored + handshakeOverhead hsObf = raw.length) ∧
        (reasm.pushParts now msgId index total payload).2.octets +
          Reassembler.returned (reasm.pushParts now msgId index total payload).1 ≤ reasm.octets + stored := by
    intro msgId index total payload behind
    have pushed := reasm.pushParts_octets now msgId index total payload
    by_cases short : payload.length ≤ fragPayload
    · rw [if_pos short] at pushed
      exact ⟨_, short, .inr behind, pushed⟩
    · rw [if_neg short] at pushed
      exact ⟨0, Nat.zero_le _, .inl rfl, pushed⟩
  cases hsObf with
  | some key =>
    unfold receiveFragment receiveParts HsObf.unmaskFragment
    dsimp only
    by_cases short : raw.length < HsObf.hsFragHeaderLen
    · rw [if_pos short]
      exact nothing _ rfl
    rw [if_neg short]
    split
    · exact nothing _ rfl
    · rename_i unmasked
      split at unmasked
      · cases unmasked
      · obtain ⟨-, -, -, rfl⟩ := by simpa only [Option.some.injEq, Prod.mk.injEq] using unmasked
        refine part ?_
        rw [List.length_drop]
        exact Nat.sub_add_cancel (Nat.not_lt.mp short)
  | none =>
    unfold receiveFragment receiveClear pushHandshake
    dsimp only
    unfold Frame.decode
    by_cases short : raw.length < headerLen
    · rw [if_pos short]
      exact nothing _ rfl
    rw [if_neg short]
    rcases FrameType.fromU8 (raw.headD 0) with e | frameType
    · exact nothing _ rfl
    dsimp only
    split
    · exact nothing _ rfl
    show ∃ stored, _ ∧ _ ∧ (reasm.push now (raw.drop headerLen)).2.octets +
      Reassembler.returned (reasm.push now (raw.drop headerLen)).1 ≤ _
    unfold Reassembler.push
    by_cases header : (raw.drop headerLen).length < fragHeaderLen
    · rw [if_pos header]
      exact nothing _ rfl
    · rw [if_neg header]
      refine part ?_
      rw [List.length_drop] at header
      rw [List.length_drop, List.length_drop]
      show raw.length - headerLen - fragHeaderLen + (headerLen + fragHeaderLen) = raw.length
      omega

/-! ### An answer -/

/-- The sizes of datagrams that put a header before each piece. -/
theorem sizes_of_framed (hsObf : Option (Octets 32)) {datagrams pieces : List Bytes}
    (framed : datagrams.map List.length = pieces.map fun piece => handshakeOverhead hsObf + piece.length) :
    carriedOctets hsObf datagrams = pieces.flatten.length ∧
      wireOctets datagrams = handshakeOverhead hsObf * pieces.length + pieces.flatten.length := by
  unfold carriedOctets wireOctets
  induction datagrams generalizing pieces with
  | nil =>
    obtain rfl := List.map_eq_nil_iff.mp framed.symm
    exact ⟨rfl, rfl⟩
  | cons raw datagrams ih =>
    cases pieces with
    | nil => cases framed
    | cons piece pieces =>
      obtain ⟨first, others⟩ := List.cons.inj framed
      obtain ⟨inside, outside⟩ := ih others
      simp only [List.map_cons, List.sum_cons, List.flatten_cons, List.length_append, List.length_cons, first,
        inside, outside, Nat.add_sub_cancel_left, Nat.mul_succ]
      exact ⟨trivial, by omega⟩

theorem framed_clear {pieces datagrams : List Bytes} (encoded : encodeFrames pieces = .ok datagrams) :
    datagrams.map List.length = pieces.map fun piece => headerLen + piece.length := by
  induction pieces generalizing datagrams with
  | nil =>
    obtain rfl := Except.ok.inj encoded
    rfl
  | cons piece pieces ih =>
    rw [encodeFrames] at encoded
    split at encoded
    · cases encoded
    rename_i raw first
    split at encoded
    · cases encoded
    rename_i later rest
    obtain rfl := Except.ok.inj encoded
    unfold Frame.encode at first
    split at first
    · cases first
    obtain rfl := Except.ok.inj first
    rw [List.map_cons, List.map_cons, ih rest, List.length_append, length_headerBytes]
    rfl

/-- The pieces of a message, with their places, behind headers of one length. -/
theorem framed_zipIdx (pieces : List Bytes) (header : Nat → Bytes) {size : Nat}
    (length : ∀ index, (header index).length = size) :
    (pieces.zipIdx.map fun (piece, index) => header index ++ piece).map List.length =
      pieces.map fun piece => size + piece.length := by
  have each : (fun entry : Bytes × Nat => (header entry.2 ++ entry.1).length) =
      (fun piece : Bytes => size + piece.length) ∘ Prod.fst := by
    funext entry
    rw [List.length_append, length]
    rfl
  rw [List.map_map]
  calc pieces.zipIdx.map (fun entry => (header entry.2 ++ entry.1).length)
    _ = (pieces.zipIdx.map Prod.fst).map fun piece => size + piece.length := by rw [each, List.map_map]
    _ = pieces.map fun piece => size + piece.length := by rw [List.zipIdx_map_fst]

/-- **An answer has the octets of one message**, and at most seventeen headers. -/
theorem answer_of_built (correct : prims.AeadCorrect) {sessionId : UInt32} {wire : Bytes} {coins : HsObf.SealCoins}
    {datagrams : List Bytes} (long : wire.length = handshakeMsgLen)
    (built : buildHandshakeDatagrams prims sessionId wire hsObf coins = .ok datagrams) :
    carriedOctets hsObf datagrams = envelopeLen hsObf ∧
      64 * (fragPayload * wireOctets datagrams) ≤
        65 * ((fragPayload + handshakeOverhead hsObf) * carriedOctets hsObf datagrams) := by
  cases hsObf with
  | none =>
    have framed : datagrams.map List.length =
        (chunks fragPayload wire).map fun piece => handshakeOverhead none + piece.length := by
      have clear := framed_clear built
      have header : ∀ index,
          (fragmentHeader sessionId index (chunks fragPayload wire).length).length = fragHeaderLen := fun index => by
        rw [fragmentHeader, List.length_append, List.length_append, length_leBytes, length_leBytes, length_leBytes]
        rfl
      have pieces := framed_zipIdx (chunks fragPayload wire) _ header
      calc datagrams.map List.length
        _ = (fragment sessionId wire).map fun piece => headerLen + piece.length := clear
        _ = ((fragment sessionId wire).map List.length).map (headerLen + ·) := by rw [List.map_map]; rfl
        _ = ((chunks fragPayload wire).map fun piece => fragHeaderLen + piece.length).map (headerLen + ·) :=
          congrArg _ pieces
        _ = (chunks fragPayload wire).map fun piece => handshakeOverhead none + piece.length := by
          rw [List.map_map]
          exact List.map_congr_left fun piece _ => (Nat.add_assoc _ _ _).symm
    obtain ⟨inside, outside⟩ := sizes_of_framed none framed
    have count : (chunks fragPayload wire).length = 8 := clear_count long
    rw [chunks_flatten (by decide), long] at inside outside
    rw [count] at outside
    rw [inside, outside]
    decide
  | some key =>
    obtain ⟨blob, sealedBlob, rfl⟩ := sealAndFragment_eq built
    have blobLength := HsObf.length_sealBlob correct sealedBlob
    rw [long] at blobLength
    have masked : ∀ index, (HsObf.maskedFragmentHeader prims key coins.msgId index
        (HsObf.variableChunks coins.sizes blob).length).length = handshakeOverhead (some key) := fun index => by
      have maskLength : (HsObf.fragMask prims key coins.msgId).length = 4 := by
        rw [HsObf.fragMask, List.length_take, Octets.length_eq]
        rfl
      rw [HsObf.maskedFragmentHeader, List.length_append, length_leBytes, length_mask, List.length_append,
        length_leBytes, length_leBytes, maskLength]
      rfl
    obtain ⟨inside, outside⟩ := sizes_of_framed (some key) (framed_zipIdx _ _ masked)
    have few := HsObf.length_variableChunks_le coins.sizes blobLength.le
    rw [HsObf.variableChunks_flatten, blobLength] at inside outside
    have sized : wireOctets (maskedDatagrams prims key coins.msgId (HsObf.variableChunks coins.sizes blob)) ≤
        8 * 17 + (handshakeMsgLen + (HsObf.hsNonceLen + HsObf.hsTagLen)) := by
      refine outside.le.trans (Nat.add_le_add_right ?_ _)
      exact Nat.mul_le_mul (Nat.le_refl _) few
    replace inside : carriedOctets (some key) (maskedDatagrams prims key coins.msgId
      (HsObf.variableChunks coins.sizes blob)) = handshakeMsgLen + (HsObf.hsNonceLen + HsObf.hsTagLen) := inside
    refine ⟨inside, ?_⟩
    rw [inside]
    calc 64 * (fragPayload * wireOctets _)
      _ ≤ 64 * (fragPayload * (8 * 17 + (handshakeMsgLen + (HsObf.hsNonceLen + HsObf.hsTagLen)))) :=
        Nat.mul_le_mul_left _ (Nat.mul_le_mul_left _ sized)
      _ ≤ 65 * ((fragPayload + HsObf.hsFragHeaderLen) * (handshakeMsgLen + (HsObf.hsNonceLen + HsObf.hsTagLen))) := by
        decide

/-- What is made of a push does not touch the reassembler. -/
theorem pushOutcome_reasm (pushed : Result (Option Bytes) × Reassembler) :
    (pushOutcome prims hsObf pushed).2 = pushed.2 := by
  unfold pushOutcome
  cases hsObf with
  | none => rfl
  | some key =>
    dsimp only
    unfold openPushed
    split <;> rfl

/-- **A complete message was pushed whole**, if it has the length of a message. -/
theorem returned_of_completed (shorter : prims.OpensShorter) {reasm after : Reassembler} {now : Nat} {raw wire : Bytes}
    (pushed : pushHandshake prims reasm now raw hsObf = (.ok (some wire), after))
    (long : wire.length = handshakeMsgLen) :
    envelopeLen hsObf ≤ Reassembler.returned (receiveFragment prims hsObf reasm now raw).1 := by
  rw [pushHandshake_eq] at pushed
  generalize receiveFragment prims hsObf reasm now raw = outcome at pushed ⊢
  obtain ⟨outcome, later⟩ := outcome
  cases hsObf with
  | none =>
    obtain ⟨rfl, -⟩ := Prod.mk.inj (show (outcome, later) = _ from pushed)
    exact long.ge
  | some key =>
    cases outcome with
    | error e => cases pushed
    | ok opened =>
      cases opened with
      | none => cases pushed
      | some blob =>
        obtain ⟨opens, -⟩ := Prod.mk.inj pushed
        replace opens : (HsObf.openBlob prims key blob).toOption = some wire := Except.ok.inj opens
        unfold HsObf.openBlob at opens
        split at opens
        · cases opens
        rename_i enough
        split at opens
        · cases opens
        rename_i plain opened
        obtain rfl : plain = wire := Option.some.inj opens
        have length := shorter _ _ _ _ _ opened
        rw [List.length_drop, long] at length
        show handshakeMsgLen + (HsObf.hsNonceLen + HsObf.hsTagLen) ≤ blob.length
        unfold HsObf.hsNonceLen HsObf.hsTagLen at *
        omega

end Datagrams

/-! ### The responder -/

namespace Responder

/-- The octets of incomplete messages in phase 1. -/
def held (driver : Responder) : Nat :=
  match driver.phase with
  | .listening reasm => reasm.octets
  | _ => 0

/-- The datagram of an event. -/
def arrival : ResponderEvent → List Bytes
  | .datagram _ _ raw _ => [raw]
  | _ => []

variable {prims : Primitives} {config : DriverConfig} {driver : Responder}

/-- **What is sent in phase 1 answers a whole message.** -/
theorem handleInit_answers (driver : Responder) (prims : Primitives) (config : DriverConfig) (now : Nat)
    (src : SocketAddr) (initWire : Bytes) (coins : DriverCoins) :
    (driver.handleInit prims config now src initWire coins).1.held = 0 ∧
      ((driver.handleInit prims config now src initWire coins).2.datagrams = [] ∨
        initWire.length = handshakeMsgLen ∧ ∃ wire, wire.length = handshakeMsgLen ∧
          buildHandshakeDatagrams prims config.sessionId wire config.hsObf coins.envelope =
            .ok (driver.handleInit prims config now src initWire coins).2.datagrams) := by
  unfold handleInit
  split
  · exact ⟨rfl, .inl rfl⟩
  rename_i init decoded
  have long := HandshakeMessage.length_of_decode decoded
  split
  · exact ⟨rfl, .inl rfl⟩
  split
  · refine ⟨rfl, ?_⟩
    unfold challenge
    dsimp only
    split
    · exact .inl rfl
    rename_i wire encoded
    split
    · exact .inl rfl
    · rename_i datagrams built
      refine .inr ⟨long, wire, HandshakeMessage.length_of_encode encoded, ?_⟩
      rw [ResponderOutput.datagrams_directTo]
      exact built
  · split
    · exact ⟨rfl, .inl rfl⟩
    rename_i handshake respWire calls responded
    obtain ⟨view, -, -, encoded, -⟩ := Handshake.respond_eq_ok_iff.mp (callRespond_ok responded).1
    split
    · exact ⟨rfl, .inl rfl⟩
    · rename_i datagrams built
      refine ⟨rfl, .inr ⟨long, respWire, HandshakeMessage.length_of_encode encoded, ?_⟩⟩
      rw [ResponderOutput.datagrams_directTo]
      exact built

end Responder

/-- **What was sent is paid for**: with what was held before and with what was received, and the headers with a
64th of it. -/
structure Paid (hsObf : Option (Octets 32)) (received sent : List Bytes) (before after : Nat) : Prop where
  octets : carriedOctets hsObf sent + after ≤ before + carriedOctets hsObf received
  wire : (fragPayload + handshakeOverhead hsObf) * (carriedOctets hsObf sent + after) ≤
    (fragPayload + handshakeOverhead hsObf) * before + fragPayload * wireOctets received
  headers : 64 * (fragPayload * wireOctets sent) ≤
    65 * ((fragPayload + handshakeOverhead hsObf) * carriedOctets hsObf sent)

namespace Paid

variable {hsObf : Option (Octets 32)} {received sent received' sent' : List Bytes} {before middle after : Nat}

/-- Nothing is sent, and no more is held. -/
theorem silent (received : List Bytes) (less : after ≤ before) : Paid hsObf received [] before after where
  octets := by
    show 0 + after ≤ _
    omega
  wire := by
    show _ * (0 + after) ≤ _
    rw [Nat.zero_add]
    exact (Nat.mul_le_mul_left _ less).trans (Nat.le_add_right _ _)
  headers := Nat.zero_le _

/-- A datagram pays with the part behind its headers. -/
theorem of_stored {raw : Bytes} {stored : Nat} (most : stored ≤ fragPayload)
    (part : stored = 0 ∨ stored + handshakeOverhead hsObf = raw.length)
    (covered : carriedOctets hsObf sent + after ≤ before + stored)
    (headers : 64 * (fragPayload * wireOctets sent) ≤
      65 * ((fragPayload + handshakeOverhead hsObf) * carriedOctets hsObf sent)) :
    Paid hsObf [raw] sent before after where
  octets := by
    have inside : stored ≤ carriedOctets hsObf [raw] := by
      show stored ≤ raw.length - handshakeOverhead hsObf + 0
      omega
    omega
  wire := by
    have paid : (fragPayload + handshakeOverhead hsObf) * stored ≤ fragPayload * wireOctets [raw] := by
      rcases part with rfl | whole
      · exact Nat.zero_le _
      · show _ ≤ fragPayload * (raw.length + 0)
        rw [← whole, Nat.add_mul, Nat.add_zero, Nat.mul_add, Nat.mul_comm (handshakeOverhead hsObf)]
        exact Nat.add_le_add_left (Nat.mul_le_mul_right _ most) _
    calc (fragPayload + handshakeOverhead hsObf) * (carriedOctets hsObf sent + after)
      _ ≤ (fragPayload + handshakeOverhead hsObf) * (before + stored) := Nat.mul_le_mul_left _ covered
      _ = (fragPayload + handshakeOverhead hsObf) * before + (fragPayload + handshakeOverhead hsObf) * stored :=
        Nat.mul_add _ _ _
      _ ≤ _ := Nat.add_le_add_left paid _
  headers := headers

theorem trans (first : Paid hsObf received sent before middle) (second : Paid hsObf received' sent' middle after) :
    Paid hsObf (received ++ received') (sent ++ sent') before after where
  octets := by
    have now := first.octets
    have later := second.octets
    rw [carriedOctets_append, carriedOctets_append]
    omega
  wire := by
    have now := first.wire
    have later := second.wire
    rw [carriedOctets_append, wireOctets_append]
    simp only [Nat.mul_add] at now later ⊢
    omega
  headers := by
    have now := first.headers
    have later := second.headers
    rw [carriedOctets_append, wireOctets_append]
    simp only [Nat.mul_add] at now later ⊢
    omega

/-- **A 64th more on the wire**, at most. -/
theorem amplifies (paid : Paid hsObf received sent 0 after) :
    carriedOctets hsObf sent ≤ carriedOctets hsObf received ∧ 64 * wireOctets sent ≤ 65 * wireOctets received := by
  obtain ⟨octets, wire, headers⟩ := paid
  refine ⟨by omega, ?_⟩
  have scaled : fragPayload * (64 * wireOctets sent) ≤ fragPayload * (65 * wireOctets received) := by
    rw [Nat.mul_zero, Nat.mul_add] at wire
    rw [Nat.mul_left_comm, Nat.mul_left_comm fragPayload 65]
    omega
  exact Nat.le_of_mul_le_mul_left scaled (by decide)

end Paid

namespace Responder

variable {prims : Primitives} {config : DriverConfig} {driver : Responder}

/-- **One event pays for what it makes the responder send.** -/
theorem react_paid (correct : prims.AeadCorrect) (shorter : prims.OpensShorter) (event : ResponderEvent) :
    Paid config.hsObf (arrival event) (driver.react prims config event).2.datagrams driver.held
      (driver.react prims config event).1.held := by
  cases event with
  | timer now =>
    refine .silent [] ?_
    show (driver.timeOut now).held ≤ driver.held
    unfold timeOut
    split
    · split
      · exact Nat.le_refl _
      · exact Nat.zero_le _
    · exact Nat.le_refl _
  | prune now =>
    refine .silent [] ?_
    show (driver.prune now).held ≤ driver.held
    unfold prune
    split
    · rename_i reasm phase
      unfold held
      rw [phase]
      exact reasm.pruneOld_octets_le now 10000
    · exact Nat.le_refl _
  | socketFails =>
    refine .silent [] ?_
    show driver.socketError.held ≤ driver.held
    unfold socketError
    split
    · exact Nat.le_refl _
    · exact Nat.zero_le _
  | datagram now src raw coins =>
    show Paid config.hsObf [raw] (driver.receive prims config now src raw coins).2.datagrams driver.held
      (driver.receive prims config now src raw coins).1.held
    unfold receive
    split
    · exact .silent _ (Nat.le_refl _)
    · rename_i reasm phase
      have before : driver.held = reasm.octets := by
        unfold held
        rw [phase]
      obtain ⟨stored, most, part, pushes⟩ := receiveFragment_octets prims config.hsObf reasm now raw
      rw [before]
      split
      · rename_i initWire after pushed
        obtain ⟨empty, nothing | ⟨long, wire, whole, built⟩⟩ :=
          driver.handleInit_answers prims config now src initWire coins
        · rw [nothing, empty]
          exact .silent _ (Nat.zero_le _)
        · -- the message that is answered was pushed whole
          have complete := returned_of_completed shorter pushed long
          obtain ⟨inside, headers⟩ := answer_of_built correct whole built
          refine .of_stored most part ?_ headers
          rw [inside, empty]
          omega
      · rename_i outcome after other pushed
        refine .of_stored most part ?_ (Nat.zero_le _)
        have later : after = (receiveFragment prims config.hsObf reasm now raw).2 := by
          have same := congrArg Prod.snd pushed
          rw [pushHandshake_eq, pushOutcome_reasm] at same
          exact same.symm
        show 0 + after.octets ≤ _
        rw [later]
        omega
    · split
      · exact .silent _ (Nat.le_refl _)
      · split
        · exact .silent _ (Nat.zero_le _)
        · exact .silent _ (Nat.zero_le _)
        · refine .silent _ (Nat.le_trans (Nat.le_of_eq ?_) (Nat.zero_le _))
          unfold handleConfirm
          split <;> rfl

/-- The challenge that is sent. -/
theorem challenge_of_built (driver : Responder) (config : DriverConfig) {now : Nat} {src : SocketAddr}
    {coins : DriverCoins} {wire : Bytes} {datagrams : List Bytes}
    (encoded : Handshake.challengeWire (CookieState.issue prims driver.secret now src) coins.challenge = .ok wire)
    (built : buildHandshakeDatagrams prims config.sessionId wire config.hsObf coins.envelope = .ok datagrams) :
    driver.challenge prims config now src coins = directTo src datagrams := by
  unfold challenge
  rw [encoded]
  dsimp only
  rw [built]

end Responder

/-- The responder, with what it received and what it sent. -/
structure MeteredResponder where
  driver : Responder
  received : List Bytes
  sent : List Bytes

namespace MeteredResponder

section Definitions

variable (prims : Primitives) (config : DriverConfig)

def Step (before : MeteredResponder) (event : ResponderEvent) (after : MeteredResponder) : Prop :=
  after = ⟨(before.driver.react prims config event).1, before.received ++ Responder.arrival event,
    before.sent ++ (before.driver.react prims config event).2.datagrams⟩

end Definitions

/-- **No amplification.** In every run of the initial responder, whatever arrives from whatever addresses: the
octets of the challenges and the Responses it sent are no more than the octets it received behind their
headers, and what it put on the wire is at most a 64th more than what came in. -/
theorem no_amplification (prims : Primitives) (correct : prims.AeadCorrect) (shorter : prims.OpensShorter)
    (config : DriverConfig) (secret : Octets 32) (events : List ResponderEvent) (last : MeteredResponder)
    (run : Run (Step prims config) ⟨.begin secret, [], []⟩ events last) :
    carriedOctets config.hsObf last.sent ≤ carriedOctets config.hsObf last.received ∧
      64 * wireOctets last.sent ≤ 65 * wireOctets last.received := by
  have paid : Paid config.hsObf last.received last.sent 0 last.driver.held := by
    refine run.invariant
      (fun metered => Paid config.hsObf metered.received metered.sent 0 metered.driver.held) ?_
      (.silent [] (Nat.le_refl _))
    rintro before event _ paid rfl
    exact paid.trans (Responder.react_paid correct shorter event)
  exact paid.amplifies

/-! ### A challenge -/

/-- What a responder does in a run, a metered one does. -/
theorem run_of_gate {prims : Primitives} {config : DriverConfig} {gate gate' : Gate} {events : List ResponderEvent}
    (run : Run (Guarded (Gate.Unforged prims config) (Gate.Step prims config)) gate events gate')
    (received sent : List Bytes) : ∃ received' sent',
      Run (Step prims config) ⟨gate.driver, received, sent⟩ events ⟨gate'.driver, received', sent'⟩ := by
  induction run generalizing received sent with
  | done _ => exact ⟨received, sent, .done _⟩
  | @next gate _ _ event _ taken _ ih =>
    obtain ⟨-, rfl⟩ := taken
    obtain ⟨received', sent', run⟩ := ih (received ++ Responder.arrival event)
      (sent ++ (gate.driver.react prims config event).2.datagrams)
    exact ⟨received', sent', .next rfl run⟩

theorem transparent_opensShorter : Primitives.transparent.OpensShorter := by
  intro key nonce aad sealed plain opened
  unfold Primitives.transparent Primitives.splitTag at opened
  dsimp only at opened
  split at opened
  · rename_i whole
    rw [whole, ← Option.some.inj opened, List.length_append, Octets.length_eq]
  · cases opened

/-- The sample Init without a cookie meets a challenge, which is not longer. -/
theorem no_amplification_sample : ∃ events last,
    Run (Step .transparent sampleListener) ⟨.begin (.zero 32), [], []⟩ events last ∧
      handshakeMsgLen ≤ carriedOctets sampleListener.hsObf last.sent ∧
        carriedOctets sampleListener.hsObf last.sent ≤ carriedOctets sampleListener.hsObf last.received ∧
          64 * wireOctets last.sent ≤ 65 * wireOctets last.received := by
  obtain ⟨events, left, raw, wire, run, pushed, decoded⟩ :=
    sampleInit_arrives ⟨.begin (.zero 32), []⟩ rfl (.zero 16)
  obtain ⟨received, sent, metered⟩ : ∃ received sent, Run (Step .transparent sampleListener)
      ⟨.begin (.zero 32), [], []⟩ events ⟨⟨.zero 32, .listening left⟩, received, sent⟩ := run_of_gate run [] []
  have stale : CookieState.valid .transparent (.zero 32) 0 samplePeer (sampleInit (.zero 16)).cookie = false := by
    decide +kernel
  obtain ⟨challenge, encoded⟩ : ∃ challenge, Handshake.challengeWire
      (CookieState.issue .transparent (.zero 32) 0 samplePeer) sampleDriverCoins.challenge = .ok challenge :=
    Handshake.encode_exists (Nat.zero_le _) _
  obtain ⟨datagrams, built⟩ : ∃ datagrams, buildHandshakeDatagrams .transparent sampleListener.sessionId challenge
      sampleListener.hsObf sampleDriverCoins.envelope = .ok datagrams :=
    build_clear_exists .transparent sampleListener.sessionId challenge sampleDriverCoins.envelope
  have answers : (Responder.mk (.zero 32) (.listening left)).react .transparent sampleListener
      (.datagram 0 samplePeer raw sampleDriverCoins) =
        (⟨.zero 32, .listening .new⟩, ⟨[], directTo samplePeer datagrams⟩) := by
    have received : Responder.receive .transparent sampleListener ⟨.zero 32, .listening left⟩ 0 samplePeer raw
        sampleDriverCoins = Responder.handleInit .transparent sampleListener ⟨.zero 32, .listening left⟩ 0
          samplePeer wire sampleDriverCoins := by simp only [Responder.receive, pushed]
    have challenged := Responder.challenge_of_built ⟨.zero 32, .listening left⟩ sampleListener encoded built
    rw [Responder.react, received, Responder.handleInit_challenge decoded rfl stale, challenged,
      Responder.relisten]
  have step : Step .transparent sampleListener ⟨⟨.zero 32, .listening left⟩, received, sent⟩
      (.datagram 0 samplePeer raw sampleDriverCoins)
      ⟨⟨.zero 32, .listening .new⟩, received ++ [raw], sent ++ datagrams⟩ := by
    unfold Step
    rw [answers, ResponderOutput.datagrams_directTo]
    rfl
  have whole := metered.append (.next step (.done _))
  obtain ⟨octets, headers⟩ := no_amplification .transparent Primitives.transparent_aeadCorrect
    transparent_opensShorter sampleListener (.zero 32) _ _ whole
  refine ⟨_, _, whole, ?_, octets, headers⟩
  have inside := (answer_of_built Primitives.transparent_aeadCorrect
    (HandshakeMessage.length_of_encode encoded) built).1
  show handshakeMsgLen ≤ carriedOctets sampleListener.hsObf (sent ++ datagrams)
  rw [carriedOctets_append, inside]
  exact Nat.le_add_left _ _

end MeteredResponder

end ChameleonPQ
