/-
**Handshake messages as datagrams (`net.rs`).**

`buildHandshakeDatagrams` puts a message on the wire, obfuscated or in clear frames, and
`pushHandshake` takes one datagram in. `Receiving` — a reassembler that took the first datagrams of one
message; `Receiving.push` — the next datagram keeps it so, and the last one gives the message back;
`Receiving.upToLast` — the induction rule over the datagrams of a message.
`TakesClear` — the clear datagrams that do not fail.
-/

import ChameleonPQ.Frame
import ChameleonPQ.Handshake.Message
import ChameleonPQ.Transport.HsObf
import ChameleonPQ.Transport.Reassembler

namespace ChameleonPQ

open Library

section Definitions

variable (prims : Primitives)

/-- The clear frames of some fragments, up to the first that fails. -/
def encodeFrames : List Bytes → Result (List Bytes)
  | [] => .ok []
  | piece :: rest =>
    match (Frame.newHandshake piece).encode with
    | .error e => .error e
    | .ok datagram =>
      match encodeFrames rest with
      | .error e => .error e
      | .ok datagrams => .ok (datagram :: datagrams)

/-- `build_handshake_datagrams`. -/
def buildHandshakeDatagrams (sessionId : UInt32) (wire : Bytes) (hsObf : Option (Octets 32))
    (coins : HsObf.SealCoins) : Result (List Bytes) :=
  match hsObf with
  | some key => HsObf.sealAndFragment prims key wire coins
  | none => encodeFrames (fragment sessionId wire)

/-- What the obfuscated path makes of a push: errors count as noise, and so does a complete blob that
does not open. -/
def openPushed (key : Octets 32) :
    Result (Option Bytes) × Reassembler → Result (Option Bytes) × Reassembler
  | (.ok (some blob), after) => (.ok (HsObf.openBlob prims key blob).toOption, after)
  | (_, after) => (.ok none, after)

/-- What `push_handshake` makes of a push. -/
def pushOutcome (hsObf : Option (Octets 32)) (pushed : Result (Option Bytes) × Reassembler) :
    Result (Option Bytes) × Reassembler :=
  match hsObf with
  | some key => openPushed prims key pushed
  | none => pushed

/-- `push_handshake`. -/
def pushHandshake (reasm : Reassembler) (now : Nat) (raw : Bytes) (hsObf : Option (Octets 32)) :
    Result (Option Bytes) × Reassembler :=
  match hsObf with
  | some key =>
    match HsObf.unmaskFragment prims key raw with
    | none => (.ok none, reasm)
    | some (msgId, index, total, chunk) =>
      pushOutcome prims hsObf (reasm.pushParts now msgId index total chunk)
  | none =>
    match Frame.decode raw with
    | .error e => (.error e, reasm)
    | .ok frame =>
      if frame.frameType ≠ .handshake then (.ok none, reasm)
      else pushOutcome prims hsObf (reasm.push now frame.payload)

end Definitions

variable {prims : Primitives} {hsObf : Option (Octets 32)} {datagrams : List Bytes} {wire : Bytes}

/-- The datagrams carry the pieces of a message, and the pieces give the message back. -/
structure Carries (prims : Primitives) (hsObf : Option (Octets 32)) (datagrams : List Bytes)
    (wire : Bytes) (msgId : UInt32) (pieces : List Bytes) : Prop where
  count : datagrams.length = pieces.length
  few : pieces.length ≤ maxFragments
  short : ∀ piece ∈ pieces, piece.length ≤ fragPayload
  pushes : ∀ index piece raw, pieces[index]? = some piece → datagrams[index]? = some raw →
    ∀ (reasm : Reassembler) (now : Nat), pushHandshake prims reasm now raw hsObf =
      pushOutcome prims hsObf (reasm.pushParts now msgId index pieces.length piece)
  whole : ∀ after, pushOutcome prims hsObf (.ok (some pieces.flatten), after) = (.ok (some wire), after)

/-- The reassembler took the first `count` datagrams of one message, and nothing else. -/
def Receiving (prims : Primitives) (hsObf : Option (Octets 32)) (datagrams : List Bytes)
    (wire : Bytes) (count : Nat) (reasm : Reassembler) : Prop :=
  ∃ msgId pieces, Carries prims hsObf datagrams wire msgId pieces ∧
    reasm.Gathers msgId pieces count

/-- **Taking the next datagram of a message.** -/
theorem Receiving.push {count : Nat} {reasm : Reassembler}
    (receiving : Receiving prims hsObf datagrams wire count reasm) (now : Nat) {raw : Bytes}
    (next : datagrams[count]? = some raw) :
    if count + 1 = datagrams.length then
      pushHandshake prims reasm now raw hsObf = (.ok (some wire), .new)
    else
      (pushHandshake prims reasm now raw hsObf).1 = .ok none ∧
        Receiving prims hsObf datagrams wire (count + 1)
          (pushHandshake prims reasm now raw hsObf).2 := by
  obtain ⟨msgId, pieces, carries, gathers⟩ := receiving
  have inside : count < pieces.length := by
    rw [← carries.count]
    exact (List.getElem?_eq_some_iff.mp next).1
  have piece : pieces[count]? = some pieces[count] := List.getElem?_eq_getElem inside
  have pushed := Reassembler.pushParts_gathers gathers now piece carries.few
    (carries.short _ (List.getElem_mem inside))
  rw [carries.pushes count _ raw piece next reasm now, carries.count]
  split at pushed
  · rename_i last
    rw [if_pos last, pushed]
    exact carries.whole _
  · rename_i more
    rw [if_neg more]
    obtain ⟨outcome, after⟩ := pushed
    rcases eq : reasm.pushParts now msgId count pieces.length pieces[count] with ⟨result, left⟩
    rw [eq] at outcome after
    dsimp only at outcome
    subst outcome
    cases hsObf with
    | none => exact ⟨rfl, msgId, pieces, carries, after⟩
    | some key => exact ⟨rfl, msgId, pieces, carries, after⟩

/-- The last datagram gives the message back. -/
theorem Receiving.push_last {count : Nat} {reasm : Reassembler}
    (receiving : Receiving prims hsObf datagrams wire count reasm) (now : Nat) {raw : Bytes}
    (next : datagrams[count]? = some raw) (last : count + 1 = datagrams.length) :
    pushHandshake prims reasm now raw hsObf = (.ok (some wire), .new) := by
  have pushed := receiving.push now next
  rwa [if_pos last] at pushed

/-- Any other datagram completes nothing. -/
theorem Receiving.push_more {count : Nat} {reasm : Reassembler}
    (receiving : Receiving prims hsObf datagrams wire count reasm) (now : Nat) {raw : Bytes}
    (next : datagrams[count]? = some raw) (more : count + 1 ≠ datagrams.length) :
    ∃ left, pushHandshake prims reasm now raw hsObf = (.ok none, left) ∧
      Receiving prims hsObf datagrams wire (count + 1) left := by
  have pushed := receiving.push now next
  rw [if_neg more] at pushed
  obtain ⟨incomplete, receiving'⟩ := pushed
  exact ⟨_, Prod.ext incomplete rfl, receiving'⟩

/-- **The induction rule of a message**: what holds of a fresh reassembler, and is kept by each datagram
that completes nothing, holds before the last datagram, which gives the message back. -/
theorem Receiving.upToLast {reaches : Nat → Reassembler → Prop} (now : Nat)
    (receiving : Receiving prims hsObf datagrams wire 0 .new) (nonempty : 0 < datagrams.length)
    (start : reaches 0 .new)
    (advance : ∀ count reasm raw left, count + 1 < datagrams.length → datagrams[count]? = some raw →
      reaches count reasm → pushHandshake prims reasm now raw hsObf = (.ok none, left) →
        reaches (count + 1) left) :
    ∃ count left raw, count + 1 = datagrams.length ∧ datagrams[count]? = some raw ∧
      reaches count left ∧ pushHandshake prims left now raw hsObf = (.ok (some wire), .new) := by
  have gathered : ∀ count, count < datagrams.length → ∃ left, reaches count left ∧
      Receiving prims hsObf datagrams wire count left := by
    intro count inside
    induction count with
    | zero => exact ⟨.new, start, receiving⟩
    | succ count ih =>
      obtain ⟨reasm, reached, receiving'⟩ := ih (Nat.lt_of_succ_lt inside)
      have next := List.getElem?_eq_getElem (Nat.lt_of_succ_lt inside)
      obtain ⟨left, pushed, receiving''⟩ := receiving'.push_more now next (Nat.ne_of_lt inside)
      exact ⟨left, advance count reasm _ left inside next reached pushed, receiving''⟩
  have last : datagrams.length - 1 + 1 = datagrams.length := Nat.sub_add_cancel nonempty
  have inside : datagrams.length - 1 < datagrams.length := Nat.sub_lt nonempty Nat.one_pos
  obtain ⟨left, reached, receiving'⟩ := gathered (datagrams.length - 1) inside
  have next := List.getElem?_eq_getElem inside
  exact ⟨_, left, _, last, next, reached, receiving'.push_last now next last⟩

/-- A fresh reassembler is ready for any message. -/
theorem Carries.receiving {msgId : UInt32} {pieces : List Bytes}
    (carries : Carries prims hsObf datagrams wire msgId pieces) :
    Receiving prims hsObf datagrams wire 0 .new :=
  ⟨msgId, pieces, carries, Reassembler.gathers_new msgId pieces⟩

theorem encodeFrames_getElem? {pieces : List Bytes} (encoded : encodeFrames pieces = .ok datagrams) :
    datagrams.length = pieces.length ∧ ∀ (index : Nat) raw, datagrams[index]? = some raw →
      ∃ piece, pieces[index]? = some piece ∧ (Frame.newHandshake piece).encode = .ok raw := by
  induction pieces generalizing datagrams with
  | nil =>
    obtain rfl := Except.ok.inj encoded
    exact ⟨rfl, fun index raw present => by simp at present⟩
  | cons piece pieces ih =>
    rw [encodeFrames] at encoded
    split at encoded
    · cases encoded
    rename_i datagram first
    split at encoded
    · cases encoded
    rename_i rest others
    obtain rfl := Except.ok.inj encoded
    obtain ⟨length, each⟩ := ih others
    refine ⟨by rw [List.length_cons, List.length_cons, length], fun index raw present => ?_⟩
    cases index with
    | zero => exact ⟨piece, rfl, Option.some.inj present ▸ first⟩
    | succ index => exact each index raw present

theorem encodeFrames_exists {pieces : List Bytes}
    (short : ∀ piece ∈ pieces, piece.length ≤ maxPayload) :
    ∃ datagrams, encodeFrames pieces = .ok datagrams := by
  induction pieces with
  | nil => exact ⟨[], rfl⟩
  | cons piece pieces ih =>
    obtain ⟨head, tail⟩ := List.forall_mem_cons.mp short
    obtain ⟨rest, others⟩ := ih tail
    have first : (Frame.newHandshake piece).encode = .ok _ := if_neg (Nat.not_lt.mpr head)
    rw [encodeFrames, first, others]
    exact ⟨_, rfl⟩

/-- In the clear every message can be sent. -/
theorem build_clear_exists (prims : Primitives) (sessionId : UInt32) (wire : Bytes)
    (coins : HsObf.SealCoins) :
    ∃ datagrams, buildHandshakeDatagrams prims sessionId wire none coins = .ok datagrams := by
  refine encodeFrames_exists fun frag present => ?_
  rw [fragment] at present
  obtain ⟨⟨piece, index⟩, among, rfl⟩ := List.mem_map.mp present
  have short := length_of_mem_chunksFrom (List.fst_mem_of_mem_zipIdx among)
  simp only [List.length_append, fragmentHeader, length_leBytes]
  have room : 4 + 2 + 2 + fragPayload ≤ maxPayload := by decide
  exact (Nat.add_le_add_left short _).trans room

/-- Every handshake message can be sent. -/
theorem build_exists (seals : prims.ChachaSeals) (sessionId : UInt32) (hsObf : Option (Octets 32))
    (coins : HsObf.SealCoins) (long : wire.length = handshakeMsgLen) :
    ∃ datagrams, buildHandshakeDatagrams prims sessionId wire hsObf coins = .ok datagrams := by
  cases hsObf with
  | none => exact build_clear_exists prims sessionId wire coins
  | some key =>
    have room : handshakeMsgLen ≤ 2 ^ 38 - 64 := by decide
    obtain ⟨sealed, success⟩ := seals key coins.nonce.bytes [] wire coins.nonce.length_eq
      (long.le.trans room)
    simp only [buildHandshakeDatagrams, HsObf.sealAndFragment, HsObf.sealBlob, success]
    exact ⟨_, rfl⟩

/-- A handshake message makes eight fragments. -/
theorem clear_count (long : wire.length = handshakeMsgLen) : (chunks fragPayload wire).length = 8 :=
  length_chunks (by decide) (long.trans (by decide))

/-- **Clear datagrams carry their message**, when it makes no more than `maxFragments` pieces. -/
theorem carries_clear {sessionId : UInt32} (small : wire.length ≤ maxFragments * fragPayload)
    (built : encodeFrames (fragment sessionId wire) = .ok datagrams) :
    Carries prims none datagrams wire sessionId (chunks fragPayload wire) := by
  obtain ⟨length, each⟩ := encodeFrames_getElem? built
  have few : (chunks fragPayload wire).length ≤ maxFragments := length_chunks_le small
  have fragments : (fragment sessionId wire).length = (chunks fragPayload wire).length := by
    simp [fragment]
  refine ⟨length.trans fragments, few, fun piece => length_of_mem_chunksFrom, ?_, fun after => by
    rw [chunks_flatten (by decide) wire]
    rfl⟩
  intro index piece raw here there reasm now
  obtain ⟨frag, present, encoded⟩ := each index raw there
  rw [getElem?_fragment, here] at present
  obtain rfl := Option.some.inj present
  have inside := (List.getElem?_eq_some_iff.mp here).1
  have decoded := Frame.decode_encode encoded
  rw [pushHandshake, decoded]
  dsimp only [Frame.newHandshake]
  rw [if_neg (not_not.mpr rfl)]
  have limit : maxFragments < 2 ^ 16 := by decide
  exact Reassembler.push_fragment piece now (by omega) (by omega)

/-- **Obfuscated datagrams carry their message.** -/
theorem carries_obf (correct : prims.AeadCorrect) {key : Octets 32} {coins : HsObf.SealCoins}
    (small : wire.length ≤ handshakeMsgLen)
    (built : HsObf.sealAndFragment prims key wire coins = .ok datagrams) :
    ∃ pieces, Carries prims (some key) datagrams wire coins.msgId pieces ∧ 0 < pieces.length := by
  rw [HsObf.sealAndFragment] at built
  split at built
  · cases built
  rename_i blob sealedBlob
  obtain rfl := Except.ok.inj built
  have blobLength := HsObf.length_sealBlob correct sealedBlob
  obtain ⟨short, positive, few⟩ := HsObf.variableChunksFrom_bounds coins.sizes blob.length 0 blob
    (Nat.le_add_right _ _)
  have bound : (HsObf.variableChunks coins.sizes blob).length ≤ maxFragments := by
    refine few.trans ?_
    rw [blobLength]
    have most : (handshakeMsgLen + (HsObf.hsNonceLen + HsObf.hsTagLen)) / HsObf.minChunk < 63 := by decide
    have fewer : (wire.length + (HsObf.hsNonceLen + HsObf.hsTagLen)) / HsObf.minChunk ≤
        (handshakeMsgLen + (HsObf.hsNonceLen + HsObf.hsTagLen)) / HsObf.minChunk :=
      Nat.div_le_div_right (Nat.add_le_add_right small _)
    unfold maxFragments
    omega
  refine ⟨HsObf.variableChunks coins.sizes blob, ⟨by simp, bound, short, ?_, fun after => ?_⟩, positive⟩
  · intro index piece raw here there reasm now
    have inside := (List.getElem?_eq_some_iff.mp here).1
    rw [List.getElem?_map, List.getElem?_zipIdx, here] at there
    obtain rfl := Option.some.inj there
    rw [pushHandshake, Nat.zero_add]
    dsimp only
    rw [HsObf.unmaskFragment_masked key coins.msgId piece inside bound]
  · rw [HsObf.variableChunks_flatten]
    show (Except.ok (HsObf.openBlob prims key blob).toOption, after) = _
    rw [HsObf.openBlob_sealBlob correct sealedBlob]
    rfl

/-- **A message put on the wire is ready to be received**: nonempty, and taken in by a fresh
reassembler. -/
theorem receiving_of_built (correct : prims.AeadCorrect) {sessionId : UInt32}
    {coins : HsObf.SealCoins} {message : HandshakeMessage}
    (decoded : HandshakeMessage.decode wire = .ok message)
    (built : buildHandshakeDatagrams prims sessionId wire hsObf coins = .ok datagrams) :
    0 < datagrams.length ∧ Receiving prims hsObf datagrams wire 0 .new := by
  have long := HandshakeMessage.length_of_decode decoded
  cases hsObf with
  | none =>
    have carries : Carries prims none datagrams wire sessionId (chunks fragPayload wire) :=
      carries_clear (long.le.trans (by decide)) built
    refine ⟨?_, carries.receiving⟩
    rw [carries.count, clear_count long]
    decide
  | some key =>
    obtain ⟨pieces, carries, positive⟩ := carries_obf correct long.le built
    exact ⟨carries.count ▸ positive, carries.receiving⟩

/-! ### Which datagrams fail -/

/-- A clear datagram that is taken in without an error: a frame of a known type, and if that is a
handshake frame, one whose fragment the reassembler accepts. -/
def TakesClear (reasm : Reassembler) (raw : Bytes) : Prop :=
  headerLen ≤ raw.length ∧ (∃ frameType : FrameType, raw.headD 0 = frameType.asU8) ∧
    (raw.headD 0 = FrameType.handshake.asU8 → reasm.Accepts (raw.drop headerLen))

/-- **What a datagram does to a sound reassembler**: it stays sound, and there is an error exactly when
the clear path gets a datagram it does not take. -/
theorem Reassembler.Sound.pushHandshake {reasm : Reassembler} (sound : reasm.Sound)
    (prims : Primitives) (hsObf : Option (Octets 32)) (now : Nat) (raw : Bytes) :
    (pushHandshake prims reasm now raw hsObf).2.Sound ∧
      ((∃ e, (ChameleonPQ.pushHandshake prims reasm now raw hsObf).1 = .error e) ↔
        hsObf = none ∧ ¬ TakesClear reasm raw) := by
  unfold ChameleonPQ.pushHandshake
  cases hsObf with
  | some key =>
    have quiet : ∀ pushed : Result (Option Bytes) × Reassembler, pushed.2.Sound →
        (openPushed prims key pushed).2.Sound ∧
          ((∃ e, (openPushed prims key pushed).1 = .error e) ↔
            some key = none ∧ ¬ TakesClear reasm raw) := by
      rintro ⟨_ | _ | blob, after⟩ kept <;>
        exact ⟨kept, iff_of_false (fun ⟨_, impossible⟩ => nomatch impossible) fun both => nomatch both.1⟩
    dsimp only
    split
    · exact ⟨sound, iff_of_false (fun ⟨_, impossible⟩ => nomatch impossible) fun both => nomatch both.1⟩
    · exact quiet _ (sound.pushParts now _ _ _ _).1
  | none =>
    dsimp only
    unfold Frame.decode
    by_cases short : raw.length < headerLen
    · rw [if_pos short]
      exact ⟨sound, iff_of_true ⟨_, rfl⟩ ⟨rfl, fun takes => absurd takes.1 (Nat.not_le.mpr short)⟩⟩
    rw [if_neg short]
    rcases read : FrameType.fromU8 (raw.headD 0) with e | frameType
    · refine ⟨sound, iff_of_true ⟨e, rfl⟩ ⟨rfl, fun takes => ?_⟩⟩
      obtain ⟨frameType, known⟩ := takes.2.1
      rw [known, FrameType.fromU8_asU8] at read
      cases read
    have known := FrameType.asU8_of_fromU8 read
    dsimp only
    by_cases other : frameType = .handshake
    · rw [if_neg (not_not.mpr other)]
      obtain ⟨kept, fails⟩ := sound.push now (raw.drop headerLen)
      refine ⟨kept, fails.trans ⟨fun refused => ⟨rfl, fun takes => ?_⟩, fun refused accepts => ?_⟩⟩
      · exact refused (takes.2.2 (known.trans (other ▸ rfl)))
      · exact refused.2 ⟨Nat.not_lt.mp short, ⟨_, known⟩, fun _ => accepts⟩
    · rw [if_pos other]
      refine ⟨sound, iff_of_false (fun ⟨_, impossible⟩ => nomatch impossible) fun refused => ?_⟩
      refine refused.2 ⟨Nat.not_lt.mp short, ⟨_, known⟩, fun handshake => absurd ?_ other⟩
      rw [handshake, FrameType.fromU8_asU8] at read
      exact (Except.ok.inj read).symm

end ChameleonPQ
