/-
**Fragments of handshake messages (`tunnel.rs`, `fragment` and `Reassembler`).**

The reassembler collects fragments by message id; `pushParts` follows the source's checks in order.

* `Gathers` — the reassembler holds the first fragments of one message and nothing else.
* `pushParts_gathers` — a message whose fragments arrive in order is returned with its last fragment,
  and nothing is left behind.
* `Sound`, `Fits` — in the reassemblers that pushes build, a fragment fails exactly when its header or
  its length does not fit (`pushParts_error_iff`); a complete entry is never missing a fragment.
-/

import ChameleonPQ.Error
import ChameleonPQ.Library.Chunks
import ChameleonPQ.Library.Octets

namespace ChameleonPQ

open Library

/-- `MAX_PENDING_MSGS`. -/
def maxPendingMsgs : Nat := 64

/-- `MAX_FRAGMENTS`. -/
def maxFragments : Nat := 64

/-- `FRAG_PAYLOAD`. -/
def fragPayload : Nat := 1024

/-- `FRAG_HEADER_LEN`. -/
def fragHeaderLen : Nat := 8

/-- The clear fragment header: message id, index and total, little endian. -/
def fragmentHeader (msgId : UInt32) (index total : Nat) : Bytes :=
  leBytes 4 msgId.toNat ++ leBytes 2 index ++ leBytes 2 total

/-- `fragment`. -/
def fragment (msgId : UInt32) (full : Bytes) : List Bytes :=
  let pieces := chunks fragPayload full
  pieces.zipIdx.map fun (piece, index) => fragmentHeader msgId index pieces.length ++ piece

/-- `PartialMsg`. -/
structure PartialMsg where
  total : Nat
  chunks : Table Nat Bytes
  firstSeen : Nat
  deriving DecidableEq

/-- `Reassembler`. -/
structure Reassembler where
  partials : Table UInt32 PartialMsg
  deriving DecidableEq

namespace Reassembler

/-- `default`. -/
def new : Reassembler := ⟨[]⟩

/-- The entry `or_insert_with` yields. -/
def entry (reasm : Reassembler) (now : Nat) (msgId : UInt32) (total : Nat) : PartialMsg :=
  match reasm.partials.lookup msgId with
  | some entry => entry
  | none => ⟨total, [], now⟩

/-- `push_parts`, at the given time. -/
def pushParts (reasm : Reassembler) (now : Nat) (msgId : UInt32) (index total : Nat)
    (payload : Bytes) : Result (Option Bytes) × Reassembler :=
  if total = 0 ∨ maxFragments < total ∨ total ≤ index then
    (.error (.handshake "reassemble" "invalid fragment index/total"), reasm)
  else if fragPayload < payload.length then
    (.error (.handshake "reassemble" "fragment payload larger than any real handshake chunk"), reasm)
  else if reasm.partials.lookup msgId = none ∧ maxPendingMsgs ≤ reasm.partials.length then
    (.ok none, reasm)
  else
    let entry := reasm.entry now msgId total
    if entry.total ≠ total then
      (.error (.handshake "reassemble" "inconsistent fragment count"), reasm)
    else
      let stored := { entry with chunks := entry.chunks.insert index payload }
      if stored.chunks.length % 2 ^ 16 = stored.total then
        match stored.chunks.collect stored.total with
        | none => (.error (.handshake "reassemble" "missing fragment"),
            ⟨reasm.partials.insert msgId stored⟩)
        | some parts => (.ok (some parts.flatten), ⟨reasm.partials.remove msgId⟩)
      else (.ok none, ⟨reasm.partials.insert msgId stored⟩)

/-- `push`: the clear header, then the parts. -/
def push (reasm : Reassembler) (now : Nat) (raw : Bytes) : Result (Option Bytes) × Reassembler :=
  if raw.length < fragHeaderLen then (.error (.packetTooShort raw.length fragHeaderLen), reasm)
  else
    reasm.pushParts now (UInt32.ofNat (leNat (raw.take 4))) (leNat ((raw.drop 4).take 2))
      (leNat ((raw.drop 6).take 2)) (raw.drop fragHeaderLen)

/-- `prune_old`. -/
def pruneOld (reasm : Reassembler) (now maxAge : Nat) : Reassembler :=
  ⟨reasm.partials.filter fun entry => now - entry.2.firstSeen < maxAge⟩

/-! ### A message that arrives in order -/

/-- The reassembler holds the first `count` of the pieces of one message, and nothing else. -/
def Gathers (reasm : Reassembler) (msgId : UInt32) (pieces : List Bytes) (count : Nat) : Prop :=
  (count = 0 ∧ reasm.partials = []) ∨ ∃ firstSeen,
    reasm.partials = [(msgId, ⟨pieces.length, gathered (pieces.take count), firstSeen⟩)]

variable {reasm : Reassembler} {msgId : UInt32} {pieces : List Bytes} {count : Nat}

theorem gathers_new (msgId : UInt32) (pieces : List Bytes) : new.Gathers msgId pieces 0 := .inl ⟨rfl, rfl⟩

/-- The entry of a message in the making. -/
theorem Gathers.entry (gathers : reasm.Gathers msgId pieces count) (now : Nat) :
    ∃ firstSeen, reasm.entry now msgId pieces.length =
      ⟨pieces.length, gathered (pieces.take count), firstSeen⟩ := by
  rcases gathers with ⟨rfl, empty⟩ | ⟨firstSeen, held⟩
  · refine ⟨now, ?_⟩
    rw [Reassembler.entry, empty]
    rfl
  · refine ⟨firstSeen, ?_⟩
    rw [Reassembler.entry, held, List.lookup_cons_self]

theorem Gathers.remove (gathers : reasm.Gathers msgId pieces count) :
    reasm.partials.remove msgId = [] := by
  rcases gathers with ⟨-, empty⟩ | ⟨firstSeen, held⟩
  · rw [empty]
    rfl
  · rw [held, Table.remove_singleton]

/-- The flood cap does not concern a single message. -/
theorem Gathers.uncapped (gathers : reasm.Gathers msgId pieces count) :
    ¬ (reasm.partials.lookup msgId = none ∧ maxPendingMsgs ≤ reasm.partials.length) := by
  rintro ⟨-, full⟩
  rcases gathers with ⟨-, held⟩ | ⟨firstSeen, held⟩
  · rw [held] at full
    exact absurd full (by decide)
  · rw [held, List.length_singleton] at full
    exact absurd full (by decide)

/-- **Pushing the next piece**: the message comes out with the last one. -/
theorem pushParts_gathers (gathers : reasm.Gathers msgId pieces count) (now : Nat) {piece : Bytes}
    (next : pieces[count]? = some piece) (few : pieces.length ≤ maxFragments)
    (short : piece.length ≤ fragPayload) :
    if count + 1 = pieces.length then
      reasm.pushParts now msgId count pieces.length piece = (.ok (some pieces.flatten), new)
    else
      (reasm.pushParts now msgId count pieces.length piece).1 = .ok none ∧
        (reasm.pushParts now msgId count pieces.length piece).2.Gathers msgId pieces (count + 1) := by
  obtain ⟨inside, rfl⟩ := List.getElem?_eq_some_iff.mp next
  obtain ⟨firstSeen, entry⟩ := gathers.entry now
  have taken : (pieces.take count).length = count := List.length_take_of_le inside.le
  have stored : (gathered (pieces.take count)).insert count pieces[count] =
      gathered (pieces.take (count + 1)) := by
    have grown := insert_gathered (pieces.take count) pieces[count]
    rw [taken] at grown
    rw [grown, List.take_add_one, List.getElem?_eq_getElem inside, Option.toList_some]
  have size : (gathered (pieces.take (count + 1))).length % 2 ^ 16 = count + 1 := by
    rw [length_gathered, List.length_take_of_le inside, Nat.mod_eq_of_lt]
    have : maxFragments < 2 ^ 16 := by decide
    omega
  have header : ¬ (pieces.length = 0 ∨ maxFragments < pieces.length ∨ pieces.length ≤ count) := by
    omega
  have pushed : reasm.pushParts now msgId count pieces.length pieces[count] =
      if count + 1 = pieces.length then
        match (gathered (pieces.take (count + 1))).collect pieces.length with
        | none => (.error (.handshake "reassemble" "missing fragment"), ⟨reasm.partials.insert msgId
            ⟨pieces.length, gathered (pieces.take (count + 1)), firstSeen⟩⟩)
        | some parts => (.ok (some parts.flatten), ⟨reasm.partials.remove msgId⟩)
      else (.ok none, ⟨reasm.partials.insert msgId
        ⟨pieces.length, gathered (pieces.take (count + 1)), firstSeen⟩⟩) := by
    simp only [pushParts, if_neg header, if_neg (Nat.not_lt.mpr short), if_neg gathers.uncapped, entry,
      ne_eq, not_true_eq_false, if_false, stored, size]
  split
  · rename_i last
    have all : pieces.take (count + 1) = pieces := by rw [last, List.take_length]
    rw [pushed, if_pos last, all, collect_gathered, gathers.remove]
    rfl
  · rename_i more
    rw [pushed, if_neg more]
    refine ⟨rfl, .inr ⟨firstSeen, ?_⟩⟩
    show _ :: reasm.partials.remove msgId = _
    rw [gathers.remove]

/-- A clear fragment is pushed as its parts. -/
theorem push_fragment {index total : Nat} (piece : Bytes) (now : Nat) (small : index < 2 ^ 16)
    (few : total < 2 ^ 16) : reasm.push now (fragmentHeader msgId index total ++ piece) =
      reasm.pushParts now msgId index total piece := by
  have idPart : (fragmentHeader msgId index total ++ piece).take 4 = leBytes 4 msgId.toNat := by
    rw [fragmentHeader, List.append_assoc, List.append_assoc]
    exact List.take_left' (length_leBytes _ _)
  have indexPart : ((fragmentHeader msgId index total ++ piece).drop 4).take 2 = leBytes 2 index := by
    rw [fragmentHeader, List.append_assoc, List.append_assoc, List.drop_left' (length_leBytes _ _)]
    exact List.take_left' (length_leBytes _ _)
  have totalPart : ((fragmentHeader msgId index total ++ piece).drop 6).take 2 = leBytes 2 total := by
    rw [fragmentHeader, List.append_assoc (_ ++ _), List.drop_left' (by simp)]
    exact List.take_left' (length_leBytes _ _)
  have rest : (fragmentHeader msgId index total ++ piece).drop fragHeaderLen = piece :=
    List.drop_left' (by simp [fragmentHeader, fragHeaderLen])
  have long : ¬ (fragmentHeader msgId index total ++ piece).length < fragHeaderLen := by
    simp only [fragmentHeader, fragHeaderLen, List.length_append, length_leBytes]
    omega
  rw [push, if_neg long, idPart, indexPart, totalPart, rest, leNat_leBytes_of_lt msgId.toNat_lt,
    leNat_leBytes_of_lt small, leNat_leBytes_of_lt few, UInt32.ofNat_toNat]

/-! ### Which fragments fail -/

/-- Every entry holds distinct fragments below its total. -/
def Sound (reasm : Reassembler) : Prop :=
  ∀ entry ∈ reasm.partials, (entry.2.chunks.map Prod.fst).Nodup ∧
    ∀ index ∈ entry.2.chunks.map Prod.fst, index < entry.2.total

/-- A fragment that fits: a sensible header, not too long, and the total its message began with. -/
def Fits (reasm : Reassembler) (msgId : UInt32) (index total : Nat) (payload : Bytes) : Prop :=
  index < total ∧ total ≤ maxFragments ∧ payload.length ≤ fragPayload ∧
    ((reasm.partials.lookup msgId).all fun entry => entry.total = total) = true

instance (msgId : UInt32) (index total : Nat) (payload : Bytes) :
    Decidable (reasm.Fits msgId index total payload) :=
  inferInstanceAs (Decidable (_ ∧ _))

theorem sound_new : new.Sound := fun _ present => nomatch present

theorem Sound.pruneOld (sound : reasm.Sound) (now maxAge : Nat) : (reasm.pruneOld now maxAge).Sound :=
  fun entry present => sound entry (List.mem_filter.mp present).1

theorem Sound.removed (sound : reasm.Sound) (msgId : UInt32) :
    Sound ⟨reasm.partials.remove msgId⟩ :=
  fun entry present => sound entry (Table.mem_remove.mp present).1

/-- The entry a fragment goes to holds distinct fragments below its total. -/
theorem Sound.entry (sound : reasm.Sound) (now : Nat) (msgId : UInt32) (total : Nat) :
    ((reasm.entry now msgId total).chunks.map Prod.fst).Nodup ∧
      ∀ index ∈ (reasm.entry now msgId total).chunks.map Prod.fst,
        index < (reasm.entry now msgId total).total := by
  unfold Reassembler.entry
  split
  · rename_i entry found
    exact sound _ (Table.mem_of_lookup found)
  · exact ⟨List.nodup_nil, fun _ present => nomatch present⟩

/-- Storing a fragment keeps the fragments distinct and below the total. -/
theorem Sound.stored (sound : reasm.Sound) (now : Nat) {index total : Nat} (payload : Bytes)
    (inside : index < total) (same : (reasm.entry now msgId total).total = total) :
    (((reasm.entry now msgId total).chunks.insert index payload).map Prod.fst).Nodup ∧
      ∀ key ∈ ((reasm.entry now msgId total).chunks.insert index payload).map Prod.fst,
        key < total := by
  obtain ⟨distinct, below⟩ := sound.entry now msgId total
  refine ⟨Table.nodup_keys_insert distinct index payload, fun key present => ?_⟩
  rw [Table.insert, List.map_cons] at present
  rcases List.mem_cons.mp present with rfl | older
  · exact inside
  · obtain ⟨entry, among, rfl⟩ := List.mem_map.mp older
    exact same ▸ below _ (List.mem_map_of_mem (Table.mem_remove.mp among).1)

/-- The total of the entry a fragment goes to. -/
theorem entry_total (reasm : Reassembler) (now : Nat) (msgId : UInt32) (total : Nat) :
    (reasm.entry now msgId total).total = total ↔
      ((reasm.partials.lookup msgId).all fun entry => entry.total = total) = true := by
  unfold Reassembler.entry
  split
  · rename_i entry found
    rw [found, Option.all_some, decide_eq_true_iff]
  · rename_i absent
    rw [absent]
    exact iff_of_true rfl rfl

/-- **What a push does to a sound reassembler**: it stays sound, and the push fails exactly when the
fragment does not fit. -/
theorem Sound.pushParts (sound : reasm.Sound) (now : Nat) (msgId : UInt32) (index total : Nat)
    (payload : Bytes) : (reasm.pushParts now msgId index total payload).2.Sound ∧
      ((∃ e, (reasm.pushParts now msgId index total payload).1 = .error e) ↔
        ¬ reasm.Fits msgId index total payload) := by
  unfold Reassembler.pushParts
  by_cases header : total = 0 ∨ maxFragments < total ∨ total ≤ index
  · rw [if_pos header]
    exact ⟨sound, iff_of_true ⟨_, rfl⟩ fun fits => by have := fits.1; have := fits.2.1; omega⟩
  rw [if_neg header]
  by_cases long : fragPayload < payload.length
  · rw [if_pos long]
    exact ⟨sound, iff_of_true ⟨_, rfl⟩ fun fits => absurd fits.2.2.1 (Nat.not_le.mpr long)⟩
  rw [if_neg long]
  have fits_iff : reasm.Fits msgId index total payload ↔
      (reasm.entry now msgId total).total = total := by
    rw [entry_total, Fits]
    exact ⟨fun fits => fits.2.2.2, fun same => ⟨by omega, by omega, by omega, same⟩⟩
  by_cases full : reasm.partials.lookup msgId = none ∧ maxPendingMsgs ≤ reasm.partials.length
  · rw [if_pos full, fits_iff, entry_total, full.1]
    exact ⟨sound, iff_of_false (fun ⟨_, impossible⟩ => nomatch impossible) (not_not.mpr rfl)⟩
  rw [if_neg full, fits_iff]
  dsimp only
  by_cases same : (reasm.entry now msgId total).total = total
  · rw [if_neg (not_not.mpr same)]
    obtain ⟨distinct, below⟩ := sound.stored now payload (by omega : index < total) same
    have inserted : Sound ⟨reasm.partials.insert msgId { reasm.entry now msgId total with
        chunks := (reasm.entry now msgId total).chunks.insert index payload }⟩ := by
      intro entry present
      rcases List.mem_cons.mp present with rfl | older
      · exact ⟨distinct, fun key among => same.symm ▸ below key among⟩
      · exact sound entry (Table.mem_remove.mp older).1
    split
    · rename_i complete
      -- a complete entry has as many fragments as places, so none is missing
      have few : ((reasm.entry now msgId total).chunks.insert index payload).length ≤ total := by
        have bound := List.Nodup.length_le_of_subset distinct
          (fun key among => List.mem_range.mpr (below key among))
        rwa [List.length_map, List.length_range] at bound
      have size : maxFragments < 2 ^ 16 := by decide
      rw [Nat.mod_eq_of_lt (by omega), same] at complete
      obtain ⟨values, collected⟩ := Table.collect_exists distinct below complete
      rw [same, collected]
      exact ⟨sound.removed msgId,
        iff_of_false (fun ⟨_, impossible⟩ => nomatch impossible) (not_not.mpr rfl)⟩
    · exact ⟨inserted, iff_of_false (fun ⟨_, impossible⟩ => nomatch impossible) (not_not.mpr same)⟩
  · rw [if_pos same]
    exact ⟨sound, iff_of_true ⟨_, rfl⟩ same⟩

/-- What `push` accepts: a fragment header whose fragment fits. -/
def Accepts (reasm : Reassembler) (raw : Bytes) : Prop :=
  fragHeaderLen ≤ raw.length ∧ reasm.Fits (UInt32.ofNat (leNat (raw.take 4)))
    (leNat ((raw.drop 4).take 2)) (leNat ((raw.drop 6).take 2)) (raw.drop fragHeaderLen)

theorem Sound.push (sound : reasm.Sound) (now : Nat) (raw : Bytes) :
    (reasm.push now raw).2.Sound ∧
      ((∃ e, (reasm.push now raw).1 = .error e) ↔ ¬ reasm.Accepts raw) := by
  unfold Reassembler.push
  by_cases short : raw.length < fragHeaderLen
  · rw [if_pos short]
    exact ⟨sound, iff_of_true ⟨_, rfl⟩ fun accepts => absurd accepts.1 (Nat.not_le.mpr short)⟩
  · rw [if_neg short]
    obtain ⟨kept, fails⟩ := sound.pushParts now (UInt32.ofNat (leNat (raw.take 4)))
      (leNat ((raw.drop 4).take 2)) (leNat ((raw.drop 6).take 2)) (raw.drop fragHeaderLen)
    exact ⟨kept, fails.trans (not_congr (iff_and_self.mpr fun _ => Nat.not_lt.mp short))⟩

end Reassembler

/-- The fragments of a message, each with its piece. -/
theorem getElem?_fragment (msgId : UInt32) (full : Bytes) (index : Nat) :
    (fragment msgId full)[index]? = (chunks fragPayload full)[index]?.map fun piece =>
      fragmentHeader msgId index (chunks fragPayload full).length ++ piece := by
  rw [fragment, List.getElem?_map, List.getElem?_zipIdx, Nat.zero_add, Option.map_map]
  rfl

end ChameleonPQ
