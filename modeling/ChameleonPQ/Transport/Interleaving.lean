/-
**Messages whose fragments arrive in any order, between one another's (`tunnel.rs`).**

* `Collects` — the reassembler holds exactly the fragments of a message that have arrived.
* `pushParts_collects` — one more fragment: the message comes out when it was the last one missing.
* `Conveys` — each datagram, at the receiver, is the push of one fragment.
* `Interleaves` — arrivals that bring every datagram of every message once.
* `receiveAll_interleaved` — the whole run, by induction on what is still to arrive: every message comes
  out exactly once, with its last fragment, and nothing is left behind.
-/

import ChameleonPQ.Crypto.Transparent
import ChameleonPQ.Transport.Datagrams
import ChameleonPQ.Transport.Hostile
import Mathlib.Data.List.Dedup
import Mathlib.Data.List.GetD
import Mathlib.Data.List.Perm.Lattice

namespace ChameleonPQ

open Library

namespace Reassembler

/-! ### What a push leaves alone -/

section Frame

variable (reasm : Reassembler) (now : Nat) (msgId : UInt32) (index total : Nat) (payload : Bytes)

/-- A push touches one message id: it changes nothing, sets its entry or removes it. -/
theorem partials_pushParts :
    (reasm.pushParts now msgId index total payload).2 = reasm ∨
      (∃ stored, (reasm.pushParts now msgId index total payload).2 =
        ⟨reasm.partials.insert msgId stored⟩) ∨
      (reasm.pushParts now msgId index total payload).2 = ⟨reasm.partials.remove msgId⟩ := by
  unfold pushParts
  split
  · exact .inl rfl
  split
  · exact .inl rfl
  split
  · exact .inl rfl
  dsimp only
  split
  · exact .inl rfl
  split
  · split
    · exact .inr (.inl ⟨_, rfl⟩)
    · exact .inr (.inr rfl)
  · exact .inr (.inl ⟨_, rfl⟩)

theorem lookup_pushParts_of_ne {other : UInt32} (different : other ≠ msgId) :
    (reasm.pushParts now msgId index total payload).2.partials.lookup other =
      reasm.partials.lookup other := by
  rcases reasm.partials_pushParts now msgId index total payload with same | ⟨stored, set⟩ | removed
  · rw [same]
  · rw [set]
    exact Table.lookup_insert_of_ne _ _ different
  · rw [removed]
    exact Table.lookup_remove_of_ne _ different

theorem nodup_pushParts (distinct : (reasm.partials.map Prod.fst).Nodup) :
    ((reasm.pushParts now msgId index total payload).2.partials.map Prod.fst).Nodup := by
  rcases reasm.partials_pushParts now msgId index total payload with same | ⟨stored, set⟩ | removed
  · rwa [same]
  · rw [set]
    exact Table.nodup_keys_insert distinct _ _
  · rw [removed]
    exact Table.nodup_keys_remove distinct _

end Frame

/-! ### One message -/

/-- The reassembler holds exactly the fragments `seen` of a message, the most recent first. Of a message
no fragment of which has arrived, or all of them, it holds nothing. -/
def Collects (reasm : Reassembler) (msgId : UInt32) (pieces : List Bytes) (seen : List Nat) : Prop :=
  if seen = [] ∨ seen.length = pieces.length then reasm.partials.lookup msgId = none
  else ∃ firstSeen, reasm.partials.lookup msgId =
    some ⟨pieces.length, arrived (fun i => pieces.getD i []) seen, firstSeen⟩

variable {reasm : Reassembler} {msgId : UInt32} {pieces : List Bytes} {seen : List Nat}

/-- A reassembler that holds nothing under any id is empty. -/
theorem eq_new (nothing : ∀ msgId, reasm.partials.lookup msgId = new.partials.lookup msgId) :
    reasm = new := by
  obtain ⟨partials⟩ := reasm
  cases partials with
  | nil => rfl
  | cons entry partials =>
    have found := nothing entry.1
    rw [List.lookup_cons_self] at found
    cases found

theorem collects_nil : reasm.Collects msgId pieces [] ↔ reasm.partials.lookup msgId = none := by
  rw [Collects, if_pos (.inl rfl)]

theorem Collects.complete (collects : reasm.Collects msgId pieces seen)
    (all : seen.length = pieces.length) : reasm.partials.lookup msgId = none := by
  rwa [Collects, if_pos (.inr all)] at collects

theorem collects_open (some_seen : seen ≠ []) (more : seen.length < pieces.length) :
    reasm.Collects msgId pieces seen ↔ ∃ firstSeen, reasm.partials.lookup msgId =
      some ⟨pieces.length, arrived (fun i => pieces.getD i []) seen, firstSeen⟩ := by
  have neither : ¬ (seen = [] ∨ seen.length = pieces.length) := by
    rintro (none_seen | all)
    · exact some_seen none_seen
    · exact absurd all more.ne
  rw [Collects, if_neg neither]

/-- The entry the next fragment goes to. -/
theorem Collects.entry (collects : reasm.Collects msgId pieces seen) (now : Nat)
    (more : seen.length < pieces.length) : ∃ firstSeen, reasm.entry now msgId pieces.length =
      ⟨pieces.length, arrived (fun i => pieces.getD i []) seen, firstSeen⟩ := by
  unfold Reassembler.entry
  by_cases first : seen = []
  · subst first
    rw [collects_nil.mp collects]
    exact ⟨now, rfl⟩
  · obtain ⟨firstSeen, held⟩ := (collects_open first more).mp collects
    rw [held]
    exact ⟨firstSeen, rfl⟩

/-- **One more fragment of a message**: the message comes out exactly when no other fragment was
missing, and the reassembler again holds what has arrived. -/
theorem pushParts_collects (collects : reasm.Collects msgId pieces seen) (now : Nat) {index : Nat}
    (distinct : (index :: seen).Nodup) (below : ∀ i ∈ index :: seen, i < pieces.length)
    (few : pieces.length ≤ maxFragments) (short : ∀ piece ∈ pieces, piece.length ≤ fragPayload)
    (room : seen = [] → reasm.partials.length < maxPendingMsgs) :
    (reasm.pushParts now msgId index pieces.length (pieces.getD index [])).1 =
        .ok (if seen.length + 1 = pieces.length then some pieces.flatten else none) ∧
      (reasm.pushParts now msgId index pieces.length (pieces.getD index [])).2.Collects msgId pieces
        (index :: seen) := by
  have inside : index < pieces.length := below index List.mem_cons_self
  have count : (index :: seen).length ≤ pieces.length := by
    have bound := List.Nodup.length_le_of_subset distinct
      fun i among => List.mem_range.mpr (below i among)
    rwa [List.length_range] at bound
  have more : seen.length < pieces.length := count
  obtain ⟨firstSeen, entry⟩ := collects.entry now more
  have header : ¬ (pieces.length = 0 ∨ maxFragments < pieces.length ∨ pieces.length ≤ index) := by
    omega
  have piece : pieces.getD index [] = pieces[index] := List.getD_eq_getElem _ _ inside
  have fits : ¬ fragPayload < (pieces.getD index []).length := by
    rw [piece]
    exact Nat.not_lt.mpr (short _ (List.getElem_mem inside))
  have uncapped : ¬ (reasm.partials.lookup msgId = none ∧ maxPendingMsgs ≤ reasm.partials.length) := by
    rintro ⟨absent, capped⟩
    by_cases first : seen = []
    · exact absurd (room first) (Nat.not_lt.mpr capped)
    · obtain ⟨_, held⟩ := (collects_open first more).mp collects
      cases absent.symm.trans held
  have stored := insert_arrived (fun i => pieces.getD i []) (List.nodup_cons.mp distinct).1
  have size : (arrived (fun i => pieces.getD i []) (index :: seen)).length % 2 ^ 16 =
      seen.length + 1 := by
    have limit : maxFragments < 2 ^ 16 := by decide
    rw [length_arrived, List.length_cons, Nat.mod_eq_of_lt (by omega)]
  simp only [pushParts, if_neg header, if_neg fits, if_neg uncapped, entry, ne_eq, not_true_eq_false,
    if_false, stored, size]
  by_cases last : seen.length + 1 = pieces.length
  · have collected := collect_arrived (fun i => pieces.getD i []) distinct below last fun i within => by
      rw [List.getElem?_eq_getElem within, List.getD_eq_getElem _ _ within]
    rw [if_pos last, if_pos last, collected]
    refine ⟨rfl, ?_⟩
    rw [Collects, if_pos (.inr last)]
    exact Table.lookup_remove_self _ _
  · rw [if_neg last, if_neg last]
    have still : (index :: seen).length < pieces.length := Nat.lt_of_le_of_ne count last
    exact ⟨rfl, (collects_open (List.cons_ne_nil _ _) still).mpr
      ⟨firstSeen, Table.lookup_insert_self _ _ _⟩⟩

theorem Collects.frame (collects : reasm.Collects msgId pieces seen) (now : Nat) {other : UInt32}
    (different : msgId ≠ other) (index total : Nat) (payload : Bytes) :
    (reasm.pushParts now other index total payload).2.Collects msgId pieces seen := by
  rwa [Collects, lookup_pushParts_of_ne _ _ _ _ _ _ different]

end Reassembler

/-! ### Datagrams of several messages -/

/-- A receiver: what it makes of a datagram, with the time. -/
abbrev Receive := Reassembler → Nat → Bytes → Result (Option Bytes) × Reassembler

/-- The datagrams carry the pieces of a message: receiving one is the push of its piece. -/
structure Conveys (receive : Receive) (own : List Bytes) (msgId : UInt32) (pieces : List Bytes) : Prop where
  count : own.length = pieces.length
  nonempty : 0 < pieces.length
  few : pieces.length ≤ maxFragments
  short : ∀ piece ∈ pieces, piece.length ≤ fragPayload
  pushes : ∀ index, index < pieces.length → ∀ reasm now, receive reasm now (own.getD index []) =
    reasm.pushParts now msgId index pieces.length (pieces.getD index [])

/-- A datagram on its way: the number of its message, its number among the datagrams of that message,
and the time it arrives. -/
structure Arrival where
  message : Nat
  index : Nat
  now : Nat

namespace Arrival

def place (arrival : Arrival) : Nat × Nat := (arrival.message, arrival.index)

/-- The time and the datagram that arrives. -/
def arrives (datagrams : List (List Bytes)) (arrival : Arrival) : Nat × Bytes :=
  (arrival.now, (datagrams.getD arrival.message []).getD arrival.index [])

end Arrival

/-- Every datagram of every message arrives once, in some order. -/
structure Interleaves (datagrams : List (List Bytes)) (arrivals : List Arrival) : Prop where
  once : (arrivals.map Arrival.place).Nodup
  all : ∀ message index, (message, index) ∈ arrivals.map Arrival.place ↔
    ∃ own, datagrams[message]? = some own ∧ index < own.length

/-- The datagrams one after the other: the answers, and the reassembler at the end. -/
def receiveAll (receive : Receive) (reasm : Reassembler) :
    List (Nat × Bytes) → List (Result (Option Bytes)) × Reassembler
  | [] => ([], reasm)
  | (now, raw) :: later =>
    ((receive reasm now raw).1 :: (receiveAll receive (receive reasm now raw).2 later).1,
      (receiveAll receive (receive reasm now raw).2 later).2)

theorem receiveAll_append (receive : Receive) (reasm : Reassembler) (front back : List (Nat × Bytes)) :
    receiveAll receive reasm (front ++ back) =
      ((receiveAll receive reasm front).1 ++
          (receiveAll receive (receiveAll receive reasm front).2 back).1,
        (receiveAll receive (receiveAll receive reasm front).2 back).2) := by
  induction front generalizing reasm with
  | nil => rfl
  | cons first front ih =>
    rw [List.cons_append, receiveAll, ih]
    rfl

theorem length_receiveAll (receive : Receive) (reasm : Reassembler) (arrivals : List (Nat × Bytes)) :
    (receiveAll receive reasm arrivals).1.length = arrivals.length := by
  induction arrivals generalizing reasm with
  | nil => rfl
  | cons first arrivals ih => exact congrArg Nat.succ (ih _)

/-- Each message with its last datagram, and nothing before. -/
def lastOnly (wholes : List Bytes) : List Arrival → List (Result (Option Bytes))
  | [] => []
  | arrival :: later =>
    .ok (if arrival.message ∈ later.map Arrival.message then none else wholes[arrival.message]?) ::
      lastOnly wholes later

/-- What came out of some answers. -/
def returned (answers : List (Result (Option Bytes))) : List Bytes :=
  answers.filterMap fun answer => answer.toOption.join

/-! ### Arrivals -/

/-- Which datagrams of a message are among some arrivals. -/
def indexesOf (message : Nat) (arrivals : List Arrival) : List Nat :=
  (arrivals.map Arrival.place).filterMap fun place => if place.1 = message then some place.2 else none

theorem indexesOf_own {arrival : Arrival} (arrivals : List Arrival) :
    indexesOf arrival.message (arrival :: arrivals) = arrival.index :: indexesOf arrival.message arrivals := by
  rw [indexesOf, List.map_cons, List.filterMap_cons, Arrival.place, if_pos rfl]
  rfl

theorem indexesOf_other {arrival : Arrival} {message : Nat} (different : arrival.message ≠ message)
    (arrivals : List Arrival) : indexesOf message (arrival :: arrivals) = indexesOf message arrivals := by
  rw [indexesOf, List.map_cons, List.filterMap_cons, Arrival.place, if_neg different]
  rfl

theorem indexesOf_append (message : Nat) (front back : List Arrival) :
    indexesOf message (front ++ back) = indexesOf message front ++ indexesOf message back := by
  rw [indexesOf, List.map_append, List.filterMap_append]
  rfl

theorem mem_indexesOf {message index : Nat} {arrivals : List Arrival} :
    index ∈ indexesOf message arrivals ↔ (message, index) ∈ arrivals.map Arrival.place := by
  rw [indexesOf, List.mem_filterMap]
  constructor
  · rintro ⟨⟨other, position⟩, present, chosen⟩
    split at chosen
    · rename_i same
      obtain rfl := Option.some.inj chosen
      obtain rfl : other = message := same
      exact present
    · cases chosen
  · intro present
    exact ⟨_, present, if_pos rfl⟩

/-- No datagram of a message is among the arrivals exactly when none has its number. -/
theorem indexesOf_eq_nil {message : Nat} {arrivals : List Arrival} :
    indexesOf message arrivals = [] ↔ message ∉ arrivals.map Arrival.message := by
  rw [List.eq_nil_iff_forall_not_mem]
  constructor
  · intro none_there present
    obtain ⟨arrival, among, rfl⟩ := List.mem_map.mp present
    exact none_there arrival.index (mem_indexesOf.mpr (List.mem_map.mpr ⟨arrival, among, rfl⟩))
  · intro absent index present
    obtain ⟨arrival, among, place⟩ := List.mem_map.mp (mem_indexesOf.mp present)
    exact absent (List.mem_map.mpr ⟨arrival, among, congrArg Prod.fst place⟩)

namespace Interleaves

variable {datagrams : List (List Bytes)} {arrivals : List Arrival}

theorem perm {others : List Arrival} (interleaves : Interleaves datagrams arrivals)
    (same : arrivals.Perm others) : Interleaves datagrams others :=
  ⟨(same.map _).nodup_iff.mp interleaves.once,
    fun message index => (same.map _).mem_iff.symm.trans (interleaves.all message index)⟩

/-- All datagrams of a message arrive. -/
theorem indexes (interleaves : Interleaves datagrams arrivals) {message : Nat} {own : List Bytes}
    (sent : datagrams[message]? = some own) :
    (indexesOf message arrivals).Perm (List.range own.length) := by
  have distinct : (indexesOf message arrivals).Nodup := by
    refine interleaves.once.filterMap ?_
    rintro ⟨first, left⟩ ⟨second, right⟩ index chosen also
    split at chosen
    · split at also
      · rename_i same other
        obtain rfl := Option.some.inj chosen
        obtain rfl := Option.some.inj also
        exact Prod.ext (same.trans other.symm) rfl
      · cases also
    · cases chosen
  refine (List.perm_ext_iff_of_nodup distinct List.nodup_range).mpr fun index => ?_
  rw [mem_indexesOf, interleaves.all, List.mem_range]
  constructor
  · rintro ⟨_, found, inside⟩
    rwa [Option.some.inj (sent.symm.trans found)]
  · intro inside
    exact ⟨own, sent, inside⟩

end Interleaves

/-- The messages that come out, in the order of their last datagrams. -/
theorem returned_lastOnly (wholes : List Bytes) (arrivals : List Arrival) :
    returned (lastOnly wholes arrivals) =
      (arrivals.map Arrival.message).dedup.filterMap fun message => wholes[message]? := by
  induction arrivals with
  | nil => rfl
  | cons arrival later ih =>
    by_cases again : arrival.message ∈ later.map Arrival.message
    · rw [lastOnly, if_pos again, List.map_cons, List.dedup_cons_of_mem again, ← ih]
      rfl
    · rw [lastOnly, if_neg again, List.map_cons, List.dedup_cons_of_notMem again, List.filterMap_cons,
        ← ih]
      cases wholes[arrival.message]? <;> rfl

/-- **Each message comes out exactly once.** -/
theorem Interleaves.returned_perm {datagrams : List (List Bytes)} {arrivals : List Arrival}
    (interleaves : Interleaves datagrams arrivals) {wholes : List Bytes}
    (count : datagrams.length = wholes.length) (nonempty : ∀ own ∈ datagrams, 0 < own.length) :
    (returned (lastOnly wholes arrivals)).Perm wholes := by
  have numbers : (arrivals.map Arrival.message).dedup.Perm (List.range wholes.length) := by
    refine (List.perm_ext_iff_of_nodup (List.nodup_dedup _) List.nodup_range).mpr fun message => ?_
    rw [List.mem_dedup, List.mem_range]
    constructor
    · intro present
      obtain ⟨arrival, among, rfl⟩ := List.mem_map.mp present
      obtain ⟨own, sent, -⟩ := (interleaves.all _ _).mp (List.mem_map_of_mem among)
      exact count ▸ (List.getElem?_eq_some_iff.mp sent).1
    · intro inside
      have sent := List.getElem?_eq_getElem (count ▸ inside : message < datagrams.length)
      have place := (interleaves.all message 0).mpr ⟨_, sent, nonempty _ (List.getElem_mem _)⟩
      obtain ⟨arrival, among, same⟩ := List.mem_map.mp place
      exact List.mem_map.mpr ⟨arrival, among, congrArg Prod.fst same⟩
  rw [returned_lastOnly]
  exact (numbers.filterMap _).trans (List.Perm.of_eq (filterMap_getElem?_range wholes))

/-! ### The run -/

section Run

/-- In the middle of the arrivals: of every message the reassembler holds what has arrived, and under
every other id what it held at first. -/
structure Amid (base : Reassembler) (messages : List (UInt32 × List Bytes)) (before : List Arrival)
    (reasm : Reassembler) : Prop where
  distinct : (reasm.partials.map Prod.fst).Nodup
  collects : ∀ number msgId pieces, messages[number]? = some (msgId, pieces) →
    reasm.Collects msgId pieces (indexesOf number before)
  others : ∀ msgId, msgId ∉ messages.map Prod.fst →
    reasm.partials.lookup msgId = base.partials.lookup msgId

/-- There is room for messages: their ids are distinct and unused, and all of them fit under the cap. -/
structure Room (base : Reassembler) (messages : List (UInt32 × List Bytes)) : Prop where
  distinct : (base.partials.map Prod.fst).Nodup
  ids : (messages.map Prod.fst).Nodup
  unused : ∀ msgId ∈ messages.map Prod.fst, base.partials.lookup msgId = none
  capacity : base.partials.length + messages.length ≤ maxPendingMsgs

variable {receive : Receive} {base reasm : Reassembler} {datagrams : List (List Bytes)}
  {messages : List (UInt32 × List Bytes)} {before later : List Arrival}

theorem Room.amid (room : Room base messages) : Amid base messages [] base := by
  refine ⟨room.distinct, fun number msgId pieces sent => ?_, fun _ _ => rfl⟩
  exact Reassembler.collects_nil.mpr (room.unused msgId
    (List.mem_map_of_mem (List.mem_of_getElem? sent)))

/-- A message none of whose fragments is held finds room. -/
theorem Amid.below_cap (amid : Amid base messages before reasm) (room : Room base messages)
    {msgId : UInt32} (ours : msgId ∈ messages.map Prod.fst)
    (absent : reasm.partials.lookup msgId = none) : reasm.partials.length < maxPendingMsgs := by
  have among : reasm.partials.map Prod.fst ⊆
      base.partials.map Prod.fst ++ (messages.map Prod.fst).erase msgId := by
    intro key present
    obtain ⟨value, found⟩ := Table.lookup_isSome present
    rw [List.mem_append]
    by_cases sent : key ∈ messages.map Prod.fst
    · refine .inr ((List.mem_erase_of_ne fun same => ?_).mpr sent)
      rw [same, absent] at found
      cases found
    · rw [amid.others key sent] at found
      exact .inl (List.mem_map_of_mem (Table.mem_of_lookup found))
  have size := List.Nodup.length_le_of_subset amid.distinct among
  have positive := List.length_pos_of_mem ours
  rw [List.length_map] at positive
  rw [List.length_map, List.length_append, List.length_map, List.length_erase_of_mem ours,
    List.length_map] at size
  have capacity := room.capacity
  omega

/-- Two messages with one id are one. -/
theorem Room.number (room : Room base messages) {first second : Nat} {msgId : UInt32}
    {left right : List Bytes} (one : messages[first]? = some (msgId, left))
    (other : messages[second]? = some (msgId, right)) : first = second := by
  have inside : first < (messages.map Prod.fst).length := by
    rw [List.length_map]
    exact (List.getElem?_eq_some_iff.mp one).1
  refine (List.getElem?_inj inside room.ids).mp ?_
  rw [List.getElem?_map, List.getElem?_map, one, other]
  rfl

/-- **One arrival**: its message comes out exactly when nothing more of it is to arrive. -/
theorem Amid.arrival (amid : Amid base messages before reasm) (room : Room base messages)
    (conveys : List.Forall₂ (fun own (message : UInt32 × List Bytes) =>
      Conveys receive own message.1 message.2) datagrams messages)
    {arrival : Arrival} (interleaves : Interleaves datagrams (before ++ arrival :: later)) :
    (receive reasm (arrival.arrives datagrams).1 (arrival.arrives datagrams).2).1 =
        .ok (if arrival.message ∈ later.map Arrival.message then none
          else (messages.map fun message => message.2.flatten)[arrival.message]?) ∧
      Amid base messages (arrival :: before)
        (receive reasm (arrival.arrives datagrams).1 (arrival.arrives datagrams).2).2 := by
  have place : (arrival.message, arrival.index) ∈ (before ++ arrival :: later).map Arrival.place :=
    List.mem_map_of_mem (List.mem_append_right _ List.mem_cons_self)
  obtain ⟨own, sent, inside⟩ := (interleaves.all _ _).mp place
  obtain ⟨inRange, rfl⟩ := List.getElem?_eq_some_iff.mp sent
  have paired : arrival.message < messages.length := conveys.length_eq ▸ inRange
  obtain ⟨⟨msgId, pieces⟩, message⟩ : ∃ message, messages[arrival.message]? = some message :=
    ⟨_, List.getElem?_eq_getElem paired⟩
  have conveyed : Conveys receive datagrams[arrival.message] msgId pieces := by
    have pair := (List.forall₂_iff_get.mp conveys).2 arrival.message inRange paired
    rw [List.getElem?_eq_getElem paired] at message
    rwa [List.get_eq_getElem, List.get_eq_getElem, Option.some.inj message] at pair
  -- which fragments of this message came before, and which come after
  have all := interleaves.indexes sent
  rw [indexesOf_append, indexesOf_own, conveyed.count] at all
  have shuffled := List.perm_middle.symm.trans all
  have sub : (arrival.index :: indexesOf arrival.message before).Sublist
      (arrival.index :: (indexesOf arrival.message before ++ indexesOf arrival.message later)) :=
    (List.sublist_append_left _ _).cons_cons _
  have distinct := (shuffled.nodup_iff.mpr List.nodup_range).sublist sub
  have below : ∀ i ∈ arrival.index :: indexesOf arrival.message before, i < pieces.length :=
    fun i among => List.mem_range.mp (shuffled.subset (sub.subset among))
  have count := shuffled.length_eq
  rw [List.length_cons, List.length_append, List.length_range] at count
  have last : (indexesOf arrival.message before).length + 1 = pieces.length ↔
      arrival.message ∉ later.map Arrival.message := by
    rw [← indexesOf_eq_nil, ← List.length_eq_zero_iff]
    omega
  have ours : msgId ∈ messages.map Prod.fst := List.mem_map_of_mem (List.mem_of_getElem? message)
  have collects := amid.collects _ _ _ message
  obtain ⟨answer, collected⟩ := Reassembler.pushParts_collects collects arrival.now distinct below
    conveyed.few conveyed.short fun first => amid.below_cap room ours (by
      rw [first] at collects
      exact Reassembler.collects_nil.mp collects)
  have received : receive reasm (arrival.arrives datagrams).1 (arrival.arrives datagrams).2 =
      reasm.pushParts arrival.now msgId arrival.index pieces.length (pieces.getD arrival.index []) := by
    rw [Arrival.arrives, List.getD_eq_getElem _ _ inRange]
    exact conveyed.pushes _ (below _ List.mem_cons_self) _ _
  rw [received]
  refine ⟨?_, ?_, ?_, ?_⟩
  · rw [answer, List.getElem?_map, message]
    by_cases more : arrival.message ∈ later.map Arrival.message
    · rw [if_pos more, if_neg fun complete => last.mp complete more]
    · rw [if_neg more, if_pos (last.mpr more)]
      rfl
  · exact Reassembler.nodup_pushParts _ _ _ _ _ _ amid.distinct
  · intro number other theirs held
    by_cases same : arrival.message = number
    · subst same
      obtain ⟨rfl, rfl⟩ := Prod.mk.inj (Option.some.inj (message.symm.trans held))
      rw [indexesOf_own]
      exact collected
    · rw [indexesOf_other same]
      refine (amid.collects _ _ _ held).frame arrival.now (fun sameId => same ?_) _ _ _
      exact room.number message (sameId ▸ held)
  · intro other foreign
    rw [Reassembler.lookup_pushParts_of_ne _ _ _ _ _ _ fun sameId : other = msgId =>
      foreign (sameId ▸ ours)]
    exact amid.others other foreign

/-- **The whole run**: every message comes out with its last datagram, and only then. -/
theorem Amid.run (amid : Amid base messages before reasm) (room : Room base messages)
    (conveys : List.Forall₂ (fun own (message : UInt32 × List Bytes) =>
      Conveys receive own message.1 message.2) datagrams messages)
    (interleaves : Interleaves datagrams (before ++ later)) :
    (receiveAll receive reasm (later.map (Arrival.arrives datagrams))).1 =
        lastOnly (messages.map fun message => message.2.flatten) later ∧
      Amid base messages (later.reverse ++ before)
        (receiveAll receive reasm (later.map (Arrival.arrives datagrams))).2 := by
  induction later generalizing before reasm with
  | nil => exact ⟨rfl, amid⟩
  | cons arrival later ih =>
    obtain ⟨answer, after⟩ := amid.arrival room conveys interleaves
    obtain ⟨answers, last⟩ := ih after (interleaves.perm List.perm_middle)
    refine ⟨congrArg₂ List.cons answer answers, ?_⟩
    rw [List.reverse_cons, List.append_assoc]
    exact last

/-- When everything has arrived, the reassembler holds what it held at first. -/
theorem Amid.finished (amid : Amid base messages before reasm) (room : Room base messages)
    (conveys : List.Forall₂ (fun own (message : UInt32 × List Bytes) =>
      Conveys receive own message.1 message.2) datagrams messages)
    (interleaves : Interleaves datagrams before) (msgId : UInt32) :
    reasm.partials.lookup msgId = base.partials.lookup msgId := by
  by_cases ours : msgId ∈ messages.map Prod.fst
  · rw [room.unused msgId ours]
    obtain ⟨⟨_, pieces⟩, sent, rfl⟩ := List.mem_map.mp ours
    obtain ⟨number, inside, found⟩ := List.getElem_of_mem sent
    have inRange : number < datagrams.length := conveys.length_eq ▸ inside
    have pair := (List.forall₂_iff_get.mp conveys).2 number inRange inside
    rw [List.get_eq_getElem, List.get_eq_getElem, found] at pair
    refine (amid.collects number _ pieces (List.getElem?_eq_some_iff.mpr ⟨inside, found⟩)).complete ?_
    rw [(interleaves.indexes (List.getElem?_eq_getElem inRange)).length_eq, List.length_range, pair.count]
  · exact amid.others msgId ours

/-- **From the first arrival to the last**: every message comes out with its last datagram, and only
then; the reassembler ends with what it held at first. -/
theorem Room.run {arrivals : List Arrival} (room : Room base messages)
    (conveys : List.Forall₂ (fun own (message : UInt32 × List Bytes) =>
      Conveys receive own message.1 message.2) datagrams messages)
    (interleaves : Interleaves datagrams arrivals) :
    (receiveAll receive base (arrivals.map (Arrival.arrives datagrams))).1 =
        lastOnly (messages.map fun message => message.2.flatten) arrivals ∧
      ∀ msgId, (receiveAll receive base (arrivals.map (Arrival.arrives datagrams))).2.partials.lookup
        msgId = base.partials.lookup msgId := by
  obtain ⟨answers, amid⟩ := room.amid.run room conveys interleaves
  rw [List.append_nil] at amid
  exact ⟨answers, amid.finished room conveys (interleaves.perm (List.reverse_perm arrivals).symm)⟩

end Run

theorem nonempty_of_conveys {receive : Receive} {datagrams : List (List Bytes)}
    {messages : List (UInt32 × List Bytes)} (conveys : List.Forall₂ (fun own
      (message : UInt32 × List Bytes) => Conveys receive own message.1 message.2) datagrams messages) :
    ∀ own ∈ datagrams, 0 < own.length := by
  induction conveys with
  | nil => exact fun own present => (by cases present)
  | cons first _ ih =>
    intro own present
    rcases List.mem_cons.mp present with rfl | later
    · exact first.count ▸ first.nonempty
    · exact ih own later

/-! ### Clear fragments -/

/-- The receiver of the clear path. -/
def receiveClear (prims : Primitives) : Receive := fun reasm now raw => pushHandshake prims reasm now raw none

theorem conveys_clear (prims : Primitives) {msgId : UInt32} {full : Bytes} {own : List Bytes}
    (nonempty : 1 ≤ full.length) (small : full.length ≤ maxFragments * fragPayload)
    (built : encodeFrames (fragment msgId full) = .ok own) :
    Conveys (receiveClear prims) own msgId (chunks fragPayload full) := by
  have carries : Carries prims none own full msgId (chunks fragPayload full) := carries_clear small built
  have some_piece := chunks_ne_nil fragPayload (List.ne_nil_of_length_pos nonempty)
  refine ⟨carries.count, List.length_pos_iff.mpr some_piece, carries.few, carries.short, ?_⟩
  intro index inside reasm now
  have there : index < own.length := carries.count ▸ inside
  rw [List.getD_eq_getElem _ _ there, List.getD_eq_getElem _ _ inside]
  exact carries.pushes index _ _ (List.getElem?_eq_getElem inside) (List.getElem?_eq_getElem there) reasm now

/-- Some messages, each with the frames of its fragments. -/
def Framed (messages : List (UInt32 × Bytes)) (datagrams : List (List Bytes)) : Prop :=
  List.Forall₂ (fun message own => encodeFrames (fragment message.1 message.2) = .ok own) messages
    datagrams

theorem framed_exists (prims : Primitives) (messages : List (UInt32 × Bytes)) :
    ∃ datagrams, Framed messages datagrams := by
  induction messages with
  | nil => exact ⟨[], .nil⟩
  | cons message messages ih =>
    obtain ⟨datagrams, framed⟩ := ih
    obtain ⟨own, built⟩ := build_clear_exists prims message.1 message.2 ⟨.zero 12, 0, fun _ => 0⟩
    exact ⟨own :: datagrams, .cons built framed⟩

theorem Framed.conveys (prims : Primitives) {messages : List (UInt32 × Bytes)}
    {datagrams : List (List Bytes)} (framed : Framed messages datagrams)
    (sizes : ∀ message ∈ messages, 1 ≤ message.2.length ∧ message.2.length ≤ 65536) :
    List.Forall₂ (fun own (message : UInt32 × List Bytes) =>
        Conveys (receiveClear prims) own message.1 message.2) datagrams
      (messages.map fun message => (message.1, chunks fragPayload message.2)) := by
  induction framed with
  | nil => exact .nil
  | cons built _ ih =>
    obtain ⟨⟨nonempty, small⟩, rest⟩ := List.forall_mem_cons.mp sizes
    exact .cons (conveys_clear prims nonempty small built) (ih rest)

/-- **Interleaved handshake messages.** Whatever order the fragments of up to `maxPendingMsgs` messages
arrive in, each message comes out exactly once, with the last of its fragments; no push fails, and the
reassembler is empty at the end. -/
theorem fragments_interleaved (prims : Primitives) (messages : List (UInt32 × Bytes))
    (few : messages.length ≤ maxPendingMsgs) (ids : (messages.map Prod.fst).Nodup)
    (sizes : ∀ message ∈ messages, 1 ≤ message.2.length ∧ message.2.length ≤ 65536) :
    ∃ datagrams, Framed messages datagrams ∧ ∀ arrivals, Interleaves datagrams arrivals →
      receiveAll (receiveClear prims) .new (arrivals.map (Arrival.arrives datagrams)) =
          (lastOnly (messages.map Prod.snd) arrivals, .new) ∧
        (returned (lastOnly (messages.map Prod.snd) arrivals)).Perm (messages.map Prod.snd) := by
  obtain ⟨datagrams, framed⟩ := framed_exists prims messages
  refine ⟨datagrams, framed, fun arrivals interleaves => ?_⟩
  have conveys := framed.conveys prims sizes
  have sameIds : (messages.map fun message => (message.1, chunks fragPayload message.2)).map Prod.fst =
      messages.map Prod.fst := by
    rw [List.map_map]
    rfl
  have sameWholes : ((messages.map fun message => (message.1, chunks fragPayload message.2)).map
      fun message => message.2.flatten) = messages.map Prod.snd := by
    rw [List.map_map]
    refine List.map_congr_left fun message _ => ?_
    exact chunks_flatten (by decide) message.2
  have room : Room .new (messages.map fun message => (message.1, chunks fragPayload message.2)) := by
    refine ⟨List.nodup_nil, sameIds ▸ ids, fun _ _ => rfl, ?_⟩
    rw [List.length_map]
    exact (Nat.zero_add _).le.trans few
  obtain ⟨answers, empty⟩ := room.run conveys interleaves
  refine ⟨Prod.ext (sameWholes ▸ answers) (Reassembler.eq_new empty), ?_⟩
  refine interleaves.returned_perm ?_ (nonempty_of_conveys conveys)
  rw [conveys.length_eq, List.length_map, List.length_map]

/-- Two messages, the second of two fragments: the first arrives between these, which come in reverse. -/
theorem fragments_interleaved_sample :
    ∃ datagrams, Framed [(7, [1]), (8, List.replicate 2048 2)] datagrams ∧
      receiveAll (receiveClear .transparent) .new
          ([⟨1, 1, 30⟩, ⟨0, 0, 31⟩, ⟨1, 0, 35⟩].map (Arrival.arrives datagrams)) =
        ([.ok none, .ok (some [1]), .ok (some (List.replicate 2048 2))], .new) := by
  have small : ∀ message ∈ [((7 : UInt32), [(1 : UInt8)]), (8, List.replicate 2048 2)],
      1 ≤ message.2.length ∧ message.2.length ≤ 65536 := by
    refine List.forall_mem_cons.mpr ⟨by decide, List.forall_mem_cons.mpr ⟨?_, by simp⟩⟩
    rw [List.length_replicate]
    decide
  obtain ⟨datagrams, framed, run⟩ := fragments_interleaved .transparent
    [(7, [1]), (8, List.replicate 2048 2)] (by decide) (by decide) small
  refine ⟨datagrams, framed, (run _ ⟨by decide, fun message index => ?_⟩).1⟩
  have conveys := framed.conveys .transparent small
  obtain _ | ⟨first, _ | ⟨second, _ | _⟩⟩ := conveys
  rename_i one two
  have twoChunks : (chunks fragPayload (List.replicate 2048 (2 : UInt8))).length = 2 :=
    length_chunks (by decide) List.length_replicate
  have oneLength : one.length = 1 := first.count
  have twoLength : two.length = 2 := by rw [second.count, twoChunks]
  obtain _ | _ | message := message
  · simp [Arrival.place, oneLength]
  · simp [Arrival.place, twoLength]
    omega
  · simp [Arrival.place]

end ChameleonPQ
