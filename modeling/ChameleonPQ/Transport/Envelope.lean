/-
**The obfuscated envelope, there and back (`hsobf.rs`).**

* `Chunked` — the loop of `variable_chunks` as the source runs it; `chunked_variableChunks` says that it
  ends, whatever sizes are drawn.
* `Chunked.bounds` — the chunks are not empty and within the payload limit of a fragment.
* `conveys_sealed` — unmasking a datagram gives back the part it was made of.
* `envelope_roundTrip` — in any order of arrival, into any reassembler with room, the parts make up the
  sealed blob with the last of them, and the blob opens to the message.
-/

import ChameleonPQ.Transport.Interleaving

namespace ChameleonPQ

open Library

namespace HsObf

/-! ### The chunk loop -/

/-- The loop of `variable_chunks` from chunk `round` on: a chunk of the drawn size as long as more than
`maxChunk` octets are left, then the rest. -/
inductive Chunked (sizes : Nat → Nat) : Nat → Bytes → List Bytes → Prop
  | rest {round : Nat} {blob : Bytes} : blob.length ≤ maxChunk → Chunked sizes round blob [blob]
  | cut {round : Nat} {blob : Bytes} {pieces : List Bytes} : maxChunk < blob.length →
      Chunked sizes (round + 1) (blob.drop (drawnSize (sizes round))) pieces →
        Chunked sizes round blob (blob.take (drawnSize (sizes round)) :: pieces)

variable {sizes : Nat → Nat} {round : Nat} {blob : Bytes} {pieces : List Bytes}

theorem chunked_variableChunksFrom (sizes : Nat → Nat) (fuel round : Nat) (blob : Bytes)
    (enough : blob.length ≤ fuel) :
    Chunked sizes round blob (variableChunksFrom sizes fuel round blob) := by
  induction fuel generalizing round blob with
  | zero => exact .rest (enough.trans (Nat.zero_le _))
  | succ fuel ih =>
    rw [variableChunksFrom]
    by_cases long : maxChunk < blob.length
    · rw [if_pos long]
      -- at least `minChunk` octets are taken in each round
      have least : 0 < drawnSize (sizes round) := Nat.lt_of_lt_of_le (by decide) (drawnSize_bounds _).1
      refine .cut long (ih (round + 1) _ ?_)
      rw [List.length_drop]
      omega
    · rw [if_neg long]
      exact .rest (Nat.not_lt.mp long)

/-- **The loop ends**, whatever sizes are drawn. -/
theorem chunked_variableChunks (sizes : Nat → Nat) (blob : Bytes) :
    Chunked sizes 0 blob (variableChunks sizes blob) :=
  chunked_variableChunksFrom sizes blob.length 0 blob (Nat.le_refl _)

/-- **The chunks of a blob that is not empty**: none is empty, none exceeds `maxChunk`. -/
theorem Chunked.bounds (chunked : Chunked sizes round blob pieces) (nonempty : 0 < blob.length) :
    ∀ piece ∈ pieces, 0 < piece.length ∧ piece.length ≤ maxChunk := by
  induction chunked with
  | rest short =>
    intro piece present
    rw [List.mem_singleton.mp present]
    exact ⟨nonempty, short⟩
  | @cut round blob pieces long _ ih =>
    obtain ⟨least, most⟩ := drawnSize_bounds (sizes round)
    have positive : 0 < minChunk := by decide
    intro piece present
    rcases List.mem_cons.mp present with rfl | later
    · rw [List.length_take]
      omega
    · refine ih ?_ piece later
      rw [List.length_drop]
      omega

/-- The number of chunks of a sealed handshake message. -/
theorem length_variableChunks_le (sizes : Nat → Nat)
    (small : blob.length ≤ handshakeMsgLen + (hsNonceLen + hsTagLen)) :
    (variableChunks sizes blob).length ≤ 17 := by
  obtain ⟨-, -, few⟩ := variableChunksFrom_bounds sizes blob.length 0 blob (Nat.le_add_right _ _)
  have most : blob.length / minChunk ≤ (handshakeMsgLen + (hsNonceLen + hsTagLen)) / minChunk :=
    Nat.div_le_div_right small
  have sixteen : (handshakeMsgLen + (hsNonceLen + hsTagLen)) / minChunk = 16 := by decide
  exact few.trans (Nat.add_le_add_left (most.trans sixteen.le) 1)

/-- The chunks of a sealed handshake message: not empty, within the payload limit, and few. -/
theorem variableChunks_sealed {prims : Primitives} (correct : prims.AeadCorrect) {key : Octets 32}
    {nonce : Octets 12} {message : Bytes} (sizes : Nat → Nat) (fits : message.length ≤ handshakeMsgLen)
    (sealedBlob : sealBlob prims key nonce message = .ok blob) :
    (∀ piece ∈ variableChunks sizes blob, 0 < piece.length ∧ piece.length ≤ maxChunk) ∧
      0 < (variableChunks sizes blob).length ∧ (variableChunks sizes blob).length ≤ maxFragments := by
  have blobLength := length_sealBlob correct sealedBlob
  have overhead : 0 < hsNonceLen + hsTagLen := by decide
  have few : (variableChunks sizes blob).length ≤ 17 := length_variableChunks_le sizes (by omega)
  exact ⟨(chunked_variableChunks sizes blob).bounds (by omega),
    (variableChunksFrom_bounds sizes blob.length 0 blob (Nat.le_add_right _ _)).2.1,
    few.trans (by decide)⟩

end HsObf

/-! ### The datagrams -/

/-- The receiver of the obfuscated path: `unmask_fragment`, then `push_parts`; what does not unmask is
dropped. -/
def receiveParts (prims : Primitives) (key : Octets 32) : Receive := fun reasm now raw =>
  match HsObf.unmaskFragment prims key raw with
  | none => (.ok none, reasm)
  | some (msgId, index, total, chunk) => reasm.pushParts now msgId index total chunk

section Sealed

variable {prims : Primitives} {key : Octets 32} {msgId : UInt32} {pieces datagrams : List Bytes}

/-- The datagrams of some chunks. -/
def maskedDatagrams (prims : Primitives) (key : Octets 32) (msgId : UInt32) (pieces : List Bytes) :
    List Bytes :=
  pieces.zipIdx.map fun (piece, index) =>
    HsObf.maskedFragmentHeader prims key msgId index pieces.length ++ piece

theorem length_maskedDatagrams :
    (maskedDatagrams prims key msgId pieces).length = pieces.length := by
  rw [maskedDatagrams, List.length_map, List.length_zipIdx]

theorem getD_maskedDatagrams {index : Nat} (inside : index < pieces.length) :
    (maskedDatagrams prims key msgId pieces).getD index [] =
      HsObf.maskedFragmentHeader prims key msgId index pieces.length ++ pieces.getD index [] := by
  have there : index < (maskedDatagrams prims key msgId pieces).length := by
    rwa [length_maskedDatagrams]
  rw [List.getD_eq_getElem _ _ there, List.getD_eq_getElem _ _ inside]
  simp [maskedDatagrams]

/-- **Each datagram, unmasked, is the part it was made of.** -/
theorem conveys_sealed (nonempty : 0 < pieces.length) (few : pieces.length ≤ HsObf.maxFragments)
    (short : ∀ piece ∈ pieces, piece.length ≤ HsObf.maxChunk) :
    Conveys (receiveParts prims key) (maskedDatagrams prims key msgId pieces) msgId pieces := by
  refine ⟨length_maskedDatagrams, nonempty, few, short, fun index inside reasm now => ?_⟩
  rw [getD_maskedDatagrams inside, receiveParts, HsObf.unmaskFragment_masked key msgId _ inside few]

/-- A datagram is a fragment header and a chunk. -/
theorem length_of_mem_maskedDatagrams (short : ∀ piece ∈ pieces, piece.length ≤ HsObf.maxChunk)
    {raw : Bytes} (sent : raw ∈ maskedDatagrams prims key msgId pieces) :
    raw.length ≤ HsObf.hsFragHeaderLen + HsObf.maxChunk := by
  obtain ⟨⟨piece, index⟩, among, rfl⟩ := List.mem_map.mp sent
  have most := short piece (List.fst_mem_of_mem_zipIdx among)
  have maskLength : (HsObf.fragMask prims key msgId).length = 4 := by
    rw [HsObf.fragMask, List.length_take, Octets.length_eq]
    rfl
  rw [List.length_append, HsObf.maskedFragmentHeader, List.length_append, length_leBytes, length_mask,
    List.length_append, length_leBytes, length_leBytes, maskLength]
  unfold HsObf.hsFragHeaderLen
  omega

end Sealed

/-! ### Any order of arrival -/

/-- The arrivals of one message in a given order, datagram `index` at the time `clock index`. -/
def arrivalsOf (order : List Nat) (clock : Nat → Nat) : List Arrival :=
  order.map fun index => ⟨0, index, clock index⟩

theorem interleaves_arrivalsOf {datagrams : List Bytes} {order : List Nat}
    (all : order.Perm (List.range datagrams.length)) (clock : Nat → Nat) :
    Interleaves [datagrams] (arrivalsOf order clock) := by
  have places : (arrivalsOf order clock).map Arrival.place = order.map fun index => (0, index) := by
    rw [arrivalsOf, List.map_map]
    rfl
  constructor
  · rw [places]
    exact (all.nodup_iff.mpr List.nodup_range).map fun first second same => (Prod.mk.inj same).2
  · intro message index
    rw [places, List.mem_map]
    constructor
    · rintro ⟨_, present, same⟩
      obtain ⟨rfl, rfl⟩ := Prod.mk.inj same
      exact ⟨datagrams, rfl, List.mem_range.mp (all.mem_iff.mp present)⟩
    · rintro ⟨own, sent, inside⟩
      cases message with
      | zero =>
        obtain rfl := Option.some.inj sent
        exact ⟨index, all.mem_iff.mpr (List.mem_range.mpr inside), rfl⟩
      | succ message => cases sent

/-- A single message comes out with its last datagram. -/
theorem lastOnly_single (whole : Bytes) {order : List Nat} (nonempty : order ≠ []) (clock : Nat → Nat) :
    lastOnly [whole] (arrivalsOf order clock) =
      List.replicate (order.length - 1) (.ok none) ++ [.ok (some whole)] := by
  induction order with
  | nil => exact absurd rfl nonempty
  | cons index order ih =>
    cases order with
    | nil => rfl
    | cons next order =>
      have again : (0 : Nat) ∈ (arrivalsOf (next :: order) clock).map Arrival.message :=
        List.mem_cons_self
      show lastOnly [whole] (⟨0, index, clock index⟩ :: arrivalsOf (next :: order) clock) = _
      rw [lastOnly, if_pos again, ih (List.cons_ne_nil _ _)]
      rfl

theorem sealAndFragment_eq {prims : Primitives} {key : Octets 32} {message : Bytes}
    {coins : HsObf.SealCoins} {datagrams : List Bytes}
    (built : HsObf.sealAndFragment prims key message coins = .ok datagrams) :
    ∃ blob, HsObf.sealBlob prims key coins.nonce message = .ok blob ∧
      datagrams = maskedDatagrams prims key coins.msgId (HsObf.variableChunks coins.sizes blob) := by
  rw [HsObf.sealAndFragment] at built
  split at built
  · cases built
  · rename_i blob sealedBlob
    exact ⟨blob, sealedBlob, (Except.ok.inj built).symm⟩

/-! ### Either framing -/

/-- One datagram up to the push, obfuscated or in the clear. -/
def receiveFragment (prims : Primitives) (hsObf : Option (Octets 32)) : Receive :=
  match hsObf with
  | some key => receiveParts prims key
  | none => receiveClear prims

theorem pushHandshake_eq (prims : Primitives) (reasm : Reassembler) (now : Nat) (raw : Bytes)
    (hsObf : Option (Octets 32)) : pushHandshake prims reasm now raw hsObf =
      pushOutcome prims hsObf (receiveFragment prims hsObf reasm now raw) := by
  cases hsObf with
  | none => rfl
  | some key =>
    unfold pushHandshake receiveFragment receiveParts
    dsimp only
    rcases HsObf.unmaskFragment prims key raw with _ | ⟨msgId, index, total, chunk⟩ <;> rfl

/-- The message id on the wire. -/
def wireMsgId (hsObf : Option (Octets 32)) (sessionId : UInt32) (coins : HsObf.SealCoins) : UInt32 :=
  match hsObf with
  | some _ => coins.msgId
  | none => sessionId

/-- The datagrams of a built handshake message, and what comes out when all have arrived. -/
theorem conveys_built {prims : Primitives} (correct : prims.AeadCorrect) {hsObf : Option (Octets 32)}
    {sessionId : UInt32} {coins : HsObf.SealCoins} {wire : Bytes} {sent : List Bytes}
    (long : wire.length = handshakeMsgLen)
    (built : buildHandshakeDatagrams prims sessionId wire hsObf coins = .ok sent) :
    ∃ pieces, Conveys (receiveFragment prims hsObf) sent (wireMsgId hsObf sessionId coins) pieces ∧
      ∀ after, pushOutcome prims hsObf (.ok (some pieces.flatten), after) = (.ok (some wire), after) := by
  have positive : 0 < handshakeMsgLen := by decide
  cases hsObf with
  | none =>
    have small : wire.length ≤ maxFragments * fragPayload := long.le.trans (by decide)
    have carries : Carries prims none sent wire sessionId (chunks fragPayload wire) :=
      carries_clear small built
    exact ⟨_, conveys_clear prims (long ▸ positive) small built, carries.whole⟩
  | some key =>
    obtain ⟨blob, sealedBlob, rfl⟩ := sealAndFragment_eq built
    obtain ⟨bounds, some_chunk, few⟩ := HsObf.variableChunks_sealed correct coins.sizes long.le sealedBlob
    refine ⟨_, conveys_sealed some_chunk few fun piece present => (bounds piece present).2, fun after => ?_⟩
    rw [HsObf.variableChunks_flatten]
    show (Except.ok (HsObf.openBlob prims key blob).toOption, after) = _
    rw [HsObf.openBlob_sealBlob correct sealedBlob]
    rfl

/-- **A handshake message arrives**, its datagrams in any order, at a reassembler with room: nothing comes
out before the last datagram, the message comes out with it, and nothing of it is left. -/
theorem built_arrives {prims : Primitives} (correct : prims.AeadCorrect) {hsObf : Option (Octets 32)}
    {sessionId : UInt32} {coins : HsObf.SealCoins} {wire : Bytes} {sent : List Bytes}
    (long : wire.length = handshakeMsgLen)
    (built : buildHandshakeDatagrams prims sessionId wire hsObf coins = .ok sent) {base : Reassembler}
    (bounded : base.Bounded) (unused : base.partials.lookup (wireMsgId hsObf sessionId coins) = none)
    (capacity : base.partials.length < maxPendingMsgs) {order : List Nat}
    (all : order.Perm (List.range sent.length)) (clock : Nat → Nat) :
    ∃ front now raw middle after,
      (order.map fun index => (clock index, sent.getD index [])) = front ++ [(now, raw)] ∧
      receiveAll (receiveFragment prims hsObf) base front = (front.map fun _ => .ok none, middle) ∧
      pushHandshake prims middle now raw hsObf = (.ok (some wire), after) ∧
      ∀ msgId, after.partials.lookup msgId = base.partials.lookup msgId := by
  obtain ⟨pieces, conveyed, whole⟩ := conveys_built correct long built
  have room : Room base [(wireMsgId hsObf sessionId coins, pieces)] := by
    refine ⟨bounded.distinct, List.nodup_singleton _, fun msgId ours => ?_, capacity⟩
    rw [List.mem_singleton.mp ours]
    exact unused
  have some_sent : order ≠ [] := by
    rintro rfl
    have none_sent := all.length_eq
    rw [List.length_range, conveyed.count] at none_sent
    exact absurd conveyed.nonempty (none_sent ▸ Nat.lt_irrefl 0)
  obtain ⟨answers, restored⟩ := room.run (.cons conveyed .nil) (interleaves_arrivalsOf all clock)
  have arrive : (arrivalsOf order clock).map (Arrival.arrives [sent]) =
      order.map fun index => (clock index, sent.getD index []) := by
    rw [arrivalsOf, List.map_map]
    rfl
  have singly := lastOnly_single pieces.flatten some_sent clock
  rw [arrive] at answers restored
  replace answers := answers.trans singly
  have length : (order.map fun index => (clock index, sent.getD index [])).length = order.length :=
    List.length_map _
  generalize (order.map fun index => (clock index, sent.getD index [])) = arrivals at answers restored length
  obtain rfl | ⟨front, ⟨now, raw⟩, rfl⟩ := List.eq_nil_or_concat arrivals
  · exact absurd (List.length_eq_zero_iff.mp length.symm) some_sent
  rw [List.concat_eq_append] at answers restored length ⊢
  rw [List.length_append, List.length_singleton] at length
  rw [receiveAll_append] at answers restored
  obtain ⟨quiet, last⟩ := List.append_inj answers (by
    rw [length_receiveAll, List.length_replicate]
    omega)
  let middle := (receiveAll (receiveFragment prims hsObf) base front).2
  refine ⟨front, now, raw, middle, (receiveFragment prims hsObf middle now raw).2, rfl,
    Prod.ext ?_ rfl, ?_, restored⟩
  · rw [quiet, List.map_const', ← length, Nat.add_sub_cancel]
  · have pushed := (List.cons.inj last).1
    rw [pushHandshake_eq, ← whole]
    exact congrArg (pushOutcome prims hsObf) (Prod.ext pushed rfl)

/-- **The envelope round trip.** Sealing a message of at most the handshake size succeeds; the chunk loop
ends with chunks that are not empty, fit a fragment and make up the blob; there are few enough of them,
and every datagram is within the MTU. Unmasked and pushed in any order, at any times, into any
reassembler with room, the parts give the blob exactly once, with the last of them; everything else the
reassembler held is still there, and the blob opens to the message. -/
theorem envelope_roundTrip {prims : Primitives} (correct : prims.AeadCorrect)
    (seals : prims.ChachaSeals) (key : Octets 32) (message : Bytes) (coins : HsObf.SealCoins)
    (fits : message.length ≤ handshakeMsgLen) :
    ∃ blob pieces datagrams, HsObf.sealBlob prims key coins.nonce message = .ok blob ∧
      HsObf.sealAndFragment prims key message coins = .ok datagrams ∧
      HsObf.Chunked coins.sizes 0 blob pieces ∧ pieces.flatten = blob ∧
      (∀ piece ∈ pieces, 0 < piece.length ∧ piece.length ≤ fragPayload) ∧
      datagrams.length = pieces.length ∧ datagrams.length ≤ maxFragments ∧
      (∀ raw ∈ datagrams, raw.length ≤ 1280) ∧
      HsObf.openBlob prims key blob = .ok message ∧
      ∀ (calls : List Reassembler.Call) (order : List Nat) (clock : Nat → Nat),
        (Reassembler.watch calls).reasm.partials.lookup coins.msgId = none →
        (Reassembler.watch calls).reasm.partials.length < maxPendingMsgs →
        order.Perm (List.range datagrams.length) →
        ∃ after, receiveAll (receiveParts prims key) (Reassembler.watch calls).reasm
            (order.map fun index => (clock index, datagrams.getD index [])) =
          (List.replicate (datagrams.length - 1) (.ok none) ++ [.ok (some blob)], after) ∧
          ∀ msgId, after.partials.lookup msgId =
            (Reassembler.watch calls).reasm.partials.lookup msgId := by
  have room : message.length ≤ 2 ^ 38 - 64 := fits.trans (by decide)
  obtain ⟨tagged, success⟩ := seals key coins.nonce.bytes [] message coins.nonce.length_eq room
  have sealedBlob : HsObf.sealBlob prims key coins.nonce message = .ok (coins.nonce.bytes ++ tagged) := by
    rw [HsObf.sealBlob, success]
  generalize coins.nonce.bytes ++ tagged = blob at sealedBlob
  obtain ⟨bounds, some_chunk, few⟩ := HsObf.variableChunks_sealed correct coins.sizes fits sealedBlob
  have chunked := HsObf.chunked_variableChunks coins.sizes blob
  have whole := HsObf.variableChunks_flatten coins.sizes blob
  have built : HsObf.sealAndFragment prims key message coins =
      .ok (maskedDatagrams prims key coins.msgId (HsObf.variableChunks coins.sizes blob)) := by
    rw [HsObf.sealAndFragment, sealedBlob]
    rfl
  generalize HsObf.variableChunks coins.sizes blob = pieces at *
  have count : (maskedDatagrams prims key coins.msgId pieces).length = pieces.length :=
    length_maskedDatagrams
  refine ⟨blob, pieces, _, sealedBlob, built, chunked, whole, bounds, count, count.le.trans few,
    fun raw sent => (length_of_mem_maskedDatagrams (fun piece present => (bounds piece present).2) sent).trans
      (by decide),
    HsObf.openBlob_sealBlob correct sealedBlob, ?_⟩
  intro calls order clock unused capacity all
  have conveys : List.Forall₂ (fun own (sent : UInt32 × List Bytes) =>
      Conveys (receiveParts prims key) own sent.1 sent.2)
      [maskedDatagrams prims key coins.msgId pieces] [(coins.msgId, pieces)] :=
    .cons (conveys_sealed some_chunk few fun piece present => (bounds piece present).2) .nil
  have room : Room (Reassembler.watch calls).reasm [(coins.msgId, pieces)] := by
    refine ⟨(Reassembler.exact_watch calls).bounded.distinct, List.nodup_singleton _, ?_, capacity⟩
    intro msgId ours
    rw [List.mem_singleton.mp ours]
    exact unused
  have interleaves := interleaves_arrivalsOf all clock
  obtain ⟨answers, finished⟩ := room.run conveys interleaves
  have arrive : (arrivalsOf order clock).map (Arrival.arrives [maskedDatagrams prims key coins.msgId pieces]) =
      order.map fun index => (clock index,
        (maskedDatagrams prims key coins.msgId pieces).getD index []) := by
    rw [arrivalsOf, List.map_map]
    rfl
  have arrived_some : order ≠ [] := by
    rintro rfl
    have none_sent := all.length_eq
    rw [List.length_range, count] at none_sent
    exact absurd some_chunk (none_sent ▸ Nat.lt_irrefl 0)
  have answer : lastOnly ([(coins.msgId, pieces)].map fun sent => sent.2.flatten) (arrivalsOf order clock) =
      List.replicate ((maskedDatagrams prims key coins.msgId pieces).length - 1) (.ok none) ++
        [.ok (some blob)] := by
    have size := all.length_eq
    rw [List.length_range] at size
    rw [← size, ← whole]
    exact lastOnly_single pieces.flatten arrived_some clock
  rw [arrive] at answers finished
  exact ⟨_, Prod.ext (answers.trans answer) rfl, finished⟩

/-- A full handshake message, cut by growing draws, whose datagrams arrive in reverse. -/
theorem envelope_roundTrip_sample :
    ∃ blob datagrams, HsObf.sealAndFragment .transparent (.zero 32) (List.replicate 8192 7)
        ⟨.zero 12, 5, fun round => 100 * round⟩ = .ok datagrams ∧
      HsObf.openBlob .transparent (.zero 32) blob = .ok (List.replicate 8192 7) ∧
      (receiveAll (receiveParts .transparent (.zero 32)) .new
        ((List.range datagrams.length).reverse.map fun index => (index, datagrams.getD index []))).1 =
          List.replicate (datagrams.length - 1) (.ok none) ++ [.ok (some blob)] := by
  obtain ⟨blob, _, datagrams, -, built, -, -, -, -, -, -, opened, run⟩ := envelope_roundTrip
    Primitives.transparent_aeadCorrect Primitives.transparent_chachaSeals (.zero 32)
    (List.replicate 8192 7) ⟨.zero 12, 5, fun round => 100 * round⟩ List.length_replicate.le
  obtain ⟨_, received, -⟩ := run [] _ id rfl (by decide) (List.reverse_perm _)
  exact ⟨blob, datagrams, built, opened, congrArg Prod.fst received⟩

end ChameleonPQ
