/-
**The reassembler under hostile fragments (`tunnel.rs`, `Reassembler`).**

Whoever can send a datagram chooses message id, index, total and payload. `Bounded` is what every
sequence of calls keeps:

* `Bounded.pushParts` — one fragment, whatever it says: the bounds hold after it, a push that fails
  changes nothing, and a complete entry is never missing a fragment.
* `Watched` — the reassembler with a record of when each message's first fragment came;
  `born_pushParts` says that later fragments do not refresh an entry.
* `hostile_calls` — the whole run: bounds, memory, errors and pruning.
-/

import ChameleonPQ.Transport.Reassembler
import Mathlib.Algebra.Order.BigOperators.Group.List
import Mathlib.Algebra.Order.Ring.Nat

namespace ChameleonPQ

open Library

/-- An incomplete message: distinct fragments below its total, some still missing, none too long. -/
structure PartialMsg.Open (partialMsg : PartialMsg) : Prop where
  total_pos : 0 < partialMsg.total
  total_le : partialMsg.total ≤ maxFragments
  distinct : (partialMsg.chunks.map Prod.fst).Nodup
  below : ∀ index ∈ partialMsg.chunks.map Prod.fst, index < partialMsg.total
  missing : partialMsg.chunks.length < partialMsg.total
  short : ∀ chunk ∈ partialMsg.chunks, chunk.2.length ≤ fragPayload

namespace Reassembler

/-- What hostile fragments cannot break: one entry for each message id, at most `maxPendingMsgs`
entries, each of them incomplete. -/
structure Bounded (reasm : Reassembler) : Prop where
  distinct : (reasm.partials.map Prod.fst).Nodup
  few : reasm.partials.length ≤ maxPendingMsgs
  entries : ∀ entry ∈ reasm.partials, entry.2.Open

/-- The octets a reassembler stores. -/
def octets (reasm : Reassembler) : Nat :=
  (reasm.partials.map fun entry => (entry.2.chunks.map fun chunk => chunk.2.length).sum).sum

variable {reasm : Reassembler}

theorem bounded_new : new.Bounded := ⟨List.nodup_nil, Nat.zero_le _, fun _ present => by cases present⟩

theorem Bounded.sound (bounded : reasm.Bounded) : reasm.Sound :=
  fun entry present => ⟨(bounded.entries entry present).distinct, (bounded.entries entry present).below⟩

/-- **The memory bound.** -/
theorem Bounded.octets_le (bounded : reasm.Bounded) :
    reasm.octets ≤ maxPendingMsgs * (maxFragments * fragPayload) := by
  have each : ∀ size ∈ reasm.partials.map fun entry =>
      (entry.2.chunks.map fun chunk => chunk.2.length).sum, size ≤ maxFragments * fragPayload := by
    intro size present
    obtain ⟨entry, among, rfl⟩ := List.mem_map.mp present
    obtain ⟨-, few, -, -, missing, short⟩ := bounded.entries entry among
    have stored := List.sum_le_card_nsmul (entry.2.chunks.map fun chunk => chunk.2.length) fragPayload
      (by
        intro length mapped
        obtain ⟨chunk, held, rfl⟩ := List.mem_map.mp mapped
        exact short chunk held)
    rw [List.length_map, Nat.nsmul_eq_mul] at stored
    exact stored.trans (Nat.mul_le_mul_right _ (missing.le.trans few))
  have all := List.sum_le_card_nsmul _ _ each
  rw [List.length_map, Nat.nsmul_eq_mul] at all
  exact all.trans (Nat.mul_le_mul_right _ bounded.few)

/-! ### One call -/

theorem Bounded.removed (bounded : reasm.Bounded) (msgId : UInt32) :
    Bounded ⟨reasm.partials.remove msgId⟩ :=
  ⟨Table.nodup_keys_remove bounded.distinct msgId, (Table.length_remove_le _ _).trans bounded.few,
    fun entry present => bounded.entries entry (Table.mem_remove.mp present).1⟩

theorem Bounded.inserted (bounded : reasm.Bounded) {msgId : UInt32} {stored : PartialMsg}
    (room : reasm.partials.lookup msgId = none → reasm.partials.length < maxPendingMsgs)
    (unfinished : stored.Open) : Bounded ⟨reasm.partials.insert msgId stored⟩ := by
  refine ⟨Table.nodup_keys_insert bounded.distinct msgId stored, ?_, fun entry present => ?_⟩
  · by_cases absent : reasm.partials.lookup msgId = none
    · have longer := Table.length_insert_le reasm.partials msgId stored
      have below := room absent
      show (reasm.partials.insert msgId stored).length ≤ maxPendingMsgs
      omega
    · exact (Table.length_insert_of_present stored absent).trans bounded.few
  · rcases Table.mem_insert present with rfl | older
    · exact unfinished
    · exact bounded.entries entry older

/-- The entry a fragment of a possible message goes to. -/
theorem Bounded.entry (bounded : reasm.Bounded) (now : Nat) (msgId : UInt32) {total : Nat}
    (positive : 0 < total) (few : total ≤ maxFragments) : (reasm.entry now msgId total).Open := by
  unfold Reassembler.entry
  split
  · rename_i entry found
    exact bounded.entries _ (Table.mem_of_lookup found)
  · exact ⟨positive, few, List.nodup_nil, fun _ present => (by cases present), positive,
      fun _ present => (by cases present)⟩

/-- The error of a complete entry with a hole. -/
def missingFragment : ChameleonError := .handshake "reassemble" "missing fragment"

/-- **One fragment, whatever it says**: the bounds hold after it, and a push that fails has changed
nothing and did not find a hole. -/
theorem Bounded.pushParts (bounded : reasm.Bounded) (now : Nat) (msgId : UInt32) (index total : Nat)
    (payload : Bytes) : (reasm.pushParts now msgId index total payload).2.Bounded ∧
      ∀ e, (reasm.pushParts now msgId index total payload).1 = .error e →
        e ≠ missingFragment ∧ (reasm.pushParts now msgId index total payload).2 = reasm := by
  unfold Reassembler.pushParts
  by_cases header : total = 0 ∨ maxFragments < total ∨ total ≤ index
  · rw [if_pos header]
    exact ⟨bounded, fun e failed => ⟨Except.error.inj failed ▸ by decide, rfl⟩⟩
  rw [if_neg header]
  by_cases long : fragPayload < payload.length
  · rw [if_pos long]
    exact ⟨bounded, fun e failed => ⟨Except.error.inj failed ▸ by decide, rfl⟩⟩
  rw [if_neg long]
  by_cases full : reasm.partials.lookup msgId = none ∧ maxPendingMsgs ≤ reasm.partials.length
  · rw [if_pos full]
    exact ⟨bounded, fun e failed => (by cases failed)⟩
  rw [if_neg full]
  dsimp only
  by_cases same : (reasm.entry now msgId total).total = total
  · rw [if_neg (not_not.mpr same)]
    have before := bounded.entry now msgId (by omega : 0 < total) (by omega)
    obtain ⟨distinct, below⟩ := bounded.sound.stored now payload (by omega : index < total) same
    have missing : (reasm.entry now msgId total).chunks.length < total := by
      have some_missing := before.missing
      rwa [same] at some_missing
    have few : ((reasm.entry now msgId total).chunks.insert index payload).length ≤ total :=
      (Table.length_insert_le _ _ _).trans missing
    have size : maxFragments < 2 ^ 16 := by decide
    rw [Nat.mod_eq_of_lt (by omega), same]
    split
    · rename_i complete
      -- as many distinct fragments as places: none is missing
      obtain ⟨values, collected⟩ := Table.collect_exists distinct below complete
      rw [collected]
      exact ⟨bounded.removed msgId, fun e failed => (by cases failed)⟩
    · rename_i incomplete
      refine ⟨bounded.inserted (fun absent => Nat.lt_of_not_le fun capped => full ⟨absent, capped⟩)
        ⟨Nat.pos_of_ne_zero fun zero => header (.inl zero), Nat.not_lt.mp fun many => header
          (.inr (.inl many)), distinct, below, Nat.lt_of_le_of_ne few incomplete, ?_⟩,
        fun e failed => (by cases failed)⟩
      · intro chunk present
        rcases Table.mem_insert present with rfl | older
        · exact Nat.not_lt.mp long
        · exact before.short chunk older
  · rw [if_pos same]
    exact ⟨bounded, fun e failed => ⟨Except.error.inj failed ▸ by decide, rfl⟩⟩

theorem Bounded.push (bounded : reasm.Bounded) (now : Nat) (raw : Bytes) :
    (reasm.push now raw).2.Bounded ∧ ∀ e, (reasm.push now raw).1 = .error e →
      e ≠ missingFragment ∧ (reasm.push now raw).2 = reasm := by
  unfold Reassembler.push
  split
  · exact ⟨bounded, fun e failed => ⟨Except.error.inj failed ▸ (by intro same; cases same), rfl⟩⟩
  · exact bounded.pushParts now _ _ _ _

theorem Bounded.pruneOld (bounded : reasm.Bounded) (now maxAge : Nat) :
    (reasm.pruneOld now maxAge).Bounded :=
  ⟨bounded.distinct.sublist (List.filter_sublist.map _), (List.length_filter_le _ _).trans bounded.few,
    fun entry present => bounded.entries entry (List.mem_filter.mp present).1⟩

/-! ### When a message was first seen -/

/-- **Later fragments do not refresh an entry**: what is there after a push came with it, or was first
seen when it already was. -/
theorem born_pushParts (reasm : Reassembler) (now : Nat) (msgId : UInt32) (index total : Nat)
    (payload : Bytes) {other : UInt32} {held : PartialMsg}
    (found : (reasm.pushParts now msgId index total payload).2.partials.lookup other = some held) :
    (reasm.partials.lookup other = none ∧ held.firstSeen = now) ∨
      ∃ before, reasm.partials.lookup other = some before ∧ held.firstSeen = before.firstSeen := by
  have untouched : reasm.partials.lookup other = some held →
      (reasm.partials.lookup other = none ∧ held.firstSeen = now) ∨
        ∃ before, reasm.partials.lookup other = some before ∧ held.firstSeen = before.firstSeen :=
    fun same => .inr ⟨held, same, rfl⟩
  -- a stored entry keeps the time of the entry it grew from
  have stored : ∀ chunks, (reasm.partials.insert msgId
      { reasm.entry now msgId total with chunks }).lookup other = some held →
        (reasm.partials.lookup other = none ∧ held.firstSeen = now) ∨
          ∃ before, reasm.partials.lookup other = some before ∧ held.firstSeen = before.firstSeen := by
    intro chunks found
    by_cases own : other = msgId
    · subst own
      rw [Table.lookup_insert_self] at found
      obtain rfl := Option.some.inj found
      unfold Reassembler.entry
      cases reasm.partials.lookup other with
      | none => exact .inl ⟨rfl, rfl⟩
      | some before => exact .inr ⟨before, rfl, rfl⟩
    · rw [Table.lookup_insert_of_ne _ _ own] at found
      exact untouched found
  unfold Reassembler.pushParts at found
  split at found
  · exact untouched found
  split at found
  · exact untouched found
  split at found
  · exact untouched found
  dsimp only at found
  split at found
  · exact untouched found
  split at found
  · split at found
    · exact stored _ found
    · by_cases own : other = msgId
      · subst own
        rw [Table.lookup_remove_self] at found
        cases found
      · rw [Table.lookup_remove_of_ne _ own] at found
        exact untouched found
  · exact stored _ found

/-! ### Runs -/

/-- A call from outside, with the time it is made at. -/
inductive Call where
  | push (now : Nat) (raw : Bytes)
  | pushParts (now : Nat) (msgId : UInt32) (index total : Nat) (payload : Bytes)
  | pruneOld (now maxAge : Nat)

/-- The time of a call. -/
def Call.now : Call → Nat
  | .push now _ => now
  | .pushParts now _ _ _ _ => now
  | .pruneOld now _ => now

/-- What a call returns, and the reassembler after it. -/
def answer (reasm : Reassembler) : Call → Result (Option Bytes) × Reassembler
  | .push now raw => reasm.push now raw
  | .pushParts now msgId index total payload => reasm.pushParts now msgId index total payload
  | .pruneOld now maxAge => (.ok none, reasm.pruneOld now maxAge)

/-- A reassembler under observation. -/
structure Watched where
  reasm : Reassembler
  /-- When the first fragment of the message that is held under an id arrived. -/
  firstFragment : UInt32 → Nat

/-- One call: an id that was not there before and is now had its first fragment in this call. -/
def Watched.step (watched : Watched) (call : Call) : Watched :=
  let after := (watched.reasm.answer call).2
  { reasm := after
    firstFragment := fun msgId =>
      if watched.reasm.partials.lookup msgId = none ∧ after.partials.lookup msgId ≠ none then call.now
      else watched.firstFragment msgId }

/-- The calls made on a new reassembler, in order. -/
def watch (calls : List Call) : Watched := calls.foldl Watched.step ⟨new, fun _ => 0⟩

/-- **Any call**: the bounds hold after it, and a call that fails has changed nothing. -/
theorem Bounded.answer (bounded : reasm.Bounded) (call : Call) :
    (reasm.answer call).2.Bounded ∧ ∀ e, (reasm.answer call).1 = .error e →
      e ≠ missingFragment ∧ (reasm.answer call).2 = reasm := by
  cases call with
  | push now raw => exact bounded.push now raw
  | pushParts now msgId index total payload => exact bounded.pushParts now msgId index total payload
  | pruneOld now maxAge => exact ⟨bounded.pruneOld now maxAge, fun e failed => (by cases failed)⟩

/-- What is there after a call came with it, or was first seen when it already was. -/
theorem Bounded.born_answer (bounded : reasm.Bounded) (call : Call) {msgId : UInt32} {held : PartialMsg}
    (found : (reasm.answer call).2.partials.lookup msgId = some held) :
    (reasm.partials.lookup msgId = none ∧ held.firstSeen = call.now) ∨
      ∃ before, reasm.partials.lookup msgId = some before ∧ held.firstSeen = before.firstSeen := by
  cases call with
  | push now raw =>
    simp only [Reassembler.answer, Reassembler.push] at found
    split at found
    · exact .inr ⟨held, found, rfl⟩
    · exact born_pushParts reasm now _ _ _ _ found
  | pushParts now id index total payload => exact born_pushParts reasm now id index total payload found
  | pruneOld now maxAge =>
    have kept := (List.mem_filter.mp (Table.mem_of_lookup found)).1
    exact .inr ⟨held, Table.lookup_of_mem bounded.distinct kept, rfl⟩

/-- The reassembler under observation is bounded, and its entries carry the time of their first
fragment. -/
structure Watched.Exact (watched : Watched) : Prop where
  bounded : watched.reasm.Bounded
  born : ∀ msgId held, watched.reasm.partials.lookup msgId = some held →
    held.firstSeen = watched.firstFragment msgId

theorem Watched.Exact.step {watched : Watched} (kept : watched.Exact) (call : Call) :
    (watched.step call).Exact := by
  refine ⟨(kept.bounded.answer call).1, fun msgId held found => ?_⟩
  have present : (watched.reasm.answer call).2.partials.lookup msgId ≠ none := by
    intro absent
    exact Option.some_ne_none held (found.symm.trans absent)
  show held.firstSeen = if _ then _ else _
  rcases kept.bounded.born_answer call found with ⟨absent, now⟩ | ⟨before, older, same⟩
  · rw [if_pos ⟨absent, present⟩, now]
  · rw [if_neg fun appeared => Option.some_ne_none before (older.symm.trans appeared.1), same]
    exact kept.born msgId before older

theorem exact_watch (calls : List Call) : (watch calls).Exact := by
  induction calls using List.reverseRecOn with
  | nil => exact ⟨bounded_new, fun _ _ found => (by cases found)⟩
  | append_singleton calls call ih =>
    rw [watch, List.foldl_append]
    exact ih.step call

/-- **Hostile fragments.** After any calls with any arguments, the reassembler holds at most
`maxPendingMsgs` incomplete messages, each within the limits of `PartialMsg.Open`, so its memory is
bounded; no call finds a complete message with a hole, and a call that fails changes nothing; and what
a pruning leaves had its first fragment less than `maxAge` ago, however often it was refreshed. -/
theorem hostile_calls (calls : List Call) :
    (watch calls).reasm.Bounded ∧
      (watch calls).reasm.octets ≤ maxPendingMsgs * (maxFragments * fragPayload) ∧
      (∀ call e, ((watch calls).reasm.answer call).1 = .error e →
        e ≠ missingFragment ∧ ((watch calls).reasm.answer call).2 = (watch calls).reasm) ∧
      ∀ now maxAge, ∀ entry ∈ ((watch calls).reasm.pruneOld now maxAge).partials,
        now - (watch calls).firstFragment entry.1 < maxAge := by
  obtain ⟨bounded, born⟩ := exact_watch calls
  refine ⟨bounded, bounded.octets_le, fun call => (bounded.answer call).2, ?_⟩
  intro now maxAge entry present
  obtain ⟨held, young⟩ := List.mem_filter.mp present
  rw [← born entry.1 entry.2 (Table.lookup_of_mem bounded.distinct held)]
  exact of_decide_eq_true young

end Reassembler

end ChameleonPQ
