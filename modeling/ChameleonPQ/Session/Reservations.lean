/-
**Counter reservations on one session (`session.rs`, `reserve_counters`).**

A call is one atomic addition and a check of its own result, so calls of several tasks interleave between
the two, and a call that fails has moved the counter as well.

* `reserveCounters_eq` — a call that runs alone is `reserve_counters`.
* `Reservations.step` — additions and checks of any number of calls, in any order, on one session.
* `Kept` — every range added so far ends at or before the counter, and no two of them overlap; an
  addition that does not wrap keeps it.
* `reservations_safe` — while no addition wraps, the ranges handed out are disjoint and below the limit.
* `reservation_repeated` is a run in which a counter is handed out twice.
-/

import Mathlib.Data.Set.Lattice
import Mathlib.Order.CompletePartialOrder
import Mathlib.Order.Interval.Set.Disjoint
import ChameleonPQ.Crypto.Transparent
import ChameleonPQ.Library.Runs
import ChameleonPQ.Session.Session

namespace ChameleonPQ

open Library Library.Runs

/-- A range of transmit counters. -/
structure CounterRange where
  first : Nat
  count : Nat
  deriving DecidableEq

namespace CounterRange

/-- The counters of a range. -/
def counters (range : CounterRange) : Set Nat := Set.Ico range.first (range.first + range.count)

/-- The two ranges share no counter. -/
def Apart (left right : CounterRange) : Prop := Disjoint left.counters right.counters

theorem Apart.symm {left right : CounterRange} (apart : Apart left right) : Apart right left :=
  Disjoint.symm apart

/-- Ranges that follow each other share no counter. -/
theorem apart_of_le {left right : CounterRange} (follows : left.first + left.count ≤ right.first) :
    Apart left right :=
  Set.Ico_disjoint_Ico.mpr ((min_le_left _ _).trans (follows.trans (le_max_right _ _)))

end CounterRange

namespace Session

/-- The addition of `reserve_counters`: it wraps, and hands the caller the counter before it. -/
def fetchAdd (session : Session) (n : Nat) : CounterRange × Session :=
  (⟨session.txCounter, n⟩, { session with txCounter := (session.txCounter + n) % 2 ^ 64 })

/-- The check of `reserve_counters` on the range it added; the last counter saturates. -/
def checkRange (session : Session) (range : CounterRange) : Result Nat :=
  if session.rekeyAt ≤ min (range.first + (range.count - 1)) (2 ^ 64 - 1) then .error .rekeyRequired
  else .ok range.first

/-- **A call that runs alone is `reserve_counters`.** -/
theorem reserveCounters_eq (session : Session) (n : Nat) :
    session.reserveCounters n = (session.checkRange (session.fetchAdd n).1, (session.fetchAdd n).2) := by
  rw [reserveCounters, checkRange]
  split
  · rename_i reached
    exact congrArg (·, _) (if_pos reached).symm
  · rename_i inside
    exact congrArg (·, _) (if_neg inside).symm

/-- A range that passes the check and did not wrap ends below the limit. -/
theorem end_le_of_checkRange {session : Session} {range : CounterRange} {first : Nat}
    (small : range.first + range.count < 2 ^ 64) (passed : session.checkRange range = .ok first) :
    range.count = 0 ∨ range.first + range.count ≤ session.rekeyAt := by
  rw [checkRange] at passed
  split at passed
  · cases passed
  · rename_i inside
    omega

end Session

/-! ### Interleaved calls -/

/-- The session, the ranges added by calls that have not checked theirs yet, and the ranges handed out. -/
structure Reservations where
  session : Session
  inFlight : List CounterRange
  granted : List CounterRange
  deriving DecidableEq

namespace Reservations

/-- What a call does. -/
inductive Event where
  /-- A call asks for `n` counters and makes its addition. -/
  | fetchAdd (n : UInt64)
  /-- The `i`-th call in flight makes its check and returns. -/
  | check (i : Nat)
  deriving DecidableEq

/-- No call has been made yet. -/
def start (session : Session) : Reservations := ⟨session, [], []⟩

/-- One step of some call. -/
def step (state : Reservations) : Event → Option Reservations
  | .fetchAdd n =>
    match state.session.fetchAdd n.toNat with
    | (range, session) => some { state with session, inFlight := state.inFlight ++ [range] }
  | .check i =>
    match state.inFlight[i]? with
    | none => none
    | some range =>
      match state.session.checkRange range with
      | .error _ => some { state with inFlight := state.inFlight.eraseIdx i }
      | .ok _ =>
        some { state with inFlight := state.inFlight.eraseIdx i, granted := state.granted ++ [range] }

/-- No two ranges handed out share a counter, and every counter handed out is below the limit. -/
structure Safe (state : Reservations) : Prop where
  apart : state.granted.Pairwise CounterRange.Apart
  below : ∀ range ∈ state.granted, ∀ counter ∈ range.counters, counter < state.session.rekeyAt

/-- The addition of the event does not wrap the counter. -/
def NoWrap (state : Reservations) : Event → Prop
  | .fetchAdd n => state.session.txCounter + n.toNat < 2 ^ 64
  | .check _ => True

instance (state : Reservations) (event : Event) : Decidable (NoWrap state event) := by
  cases event <;> unfold NoWrap <;> infer_instance

/-- Every range added so far, checked or not. -/
def added (state : Reservations) : List CounterRange := state.inFlight ++ state.granted

/-- What runs keep while no addition wraps. -/
structure Kept (state : Reservations) : Prop where
  apart : state.added.Pairwise CounterRange.Apart
  passed : ∀ range ∈ state.added, range.first + range.count ≤ state.session.txCounter
  small : ∀ range ∈ state.added, range.first + range.count < 2 ^ 64
  below : ∀ range ∈ state.granted, ∀ counter ∈ range.counters, counter < state.session.rekeyAt

theorem kept_start (session : Session) : Kept (start session) :=
  ⟨List.Pairwise.nil, fun _ => nofun, fun _ => nofun, fun _ => nofun⟩

theorem Kept.safe {state : Reservations} (kept : Kept state) : Safe state :=
  ⟨(List.pairwise_append.mp kept.apart).2.1, kept.below⟩

/-- An addition that does not wrap starts where every earlier range has ended. -/
theorem Kept.fetchAdd {state : Reservations} (kept : Kept state) {n : UInt64}
    (noWrap : state.session.txCounter + n.toNat < 2 ^ 64) :
    Kept { state with
      session := (state.session.fetchAdd n.toNat).2
      inFlight := state.inFlight ++ [(state.session.fetchAdd n.toNat).1] } := by
  have moved : (state.session.txCounter + n.toNat) % 2 ^ 64 = state.session.txCounter + n.toNat :=
    Nat.mod_eq_of_lt noWrap
  have perm : (state.inFlight ++ [(state.session.fetchAdd n.toNat).1] ++ state.granted).Perm
      ((state.session.fetchAdd n.toNat).1 :: state.added) := by
    rw [List.append_assoc]
    exact List.perm_middle
  refine ⟨?_, fun range member => ?_, fun range member => ?_, kept.below⟩
  · refine (perm.pairwise_iff fun apart => apart.symm).mpr (List.pairwise_cons.mpr ⟨?_, kept.apart⟩)
    intro range member
    exact (CounterRange.apart_of_le (kept.passed range member)).symm
  · show range.first + range.count ≤ (state.session.txCounter + n.toNat) % 2 ^ 64
    rw [moved]
    rcases List.mem_cons.mp (perm.mem_iff.mp member) with rfl | earlier
    · exact Nat.le_refl _
    · exact (kept.passed range earlier).trans (Nat.le_add_right _ _)
  · rcases List.mem_cons.mp (perm.mem_iff.mp member) with rfl | earlier
    · exact noWrap
    · exact kept.small range earlier

/-- A call that fails its check drops its range. -/
theorem Kept.drop {state : Reservations} (kept : Kept state) (i : Nat) :
    Kept { state with inFlight := state.inFlight.eraseIdx i } := by
  have fewer : (state.inFlight.eraseIdx i ++ state.granted).Sublist state.added :=
    (List.eraseIdx_sublist _ _).append_right _
  exact ⟨kept.apart.sublist fewer, fun range member => kept.passed range (fewer.subset member),
    fun range member => kept.small range (fewer.subset member), kept.below⟩

/-- A call that passes its check moves its range to the ranges handed out. -/
theorem Kept.grant {state : Reservations} (kept : Kept state) {i : Nat} {range : CounterRange} {first : Nat}
    (found : state.inFlight[i]? = some range) (passed : state.session.checkRange range = .ok first) :
    Kept { state with inFlight := state.inFlight.eraseIdx i, granted := state.granted ++ [range] } := by
  obtain ⟨inside, here⟩ := List.getElem?_eq_some_iff.mp found
  have member : range ∈ state.added := List.mem_append_left _ (List.mem_of_getElem? found)
  have perm : (state.inFlight.eraseIdx i ++ (state.granted ++ [range])).Perm state.added := by
    have split := (List.getElem_cons_eraseIdx_perm inside).append_right state.granted
    rw [here] at split
    rw [← List.append_assoc]
    exact (List.perm_append_singleton _ _).trans split
  refine ⟨(perm.pairwise_iff fun apart => apart.symm).mpr kept.apart,
    fun other held => kept.passed other (perm.mem_iff.mp held),
    fun other held => kept.small other (perm.mem_iff.mp held), fun other held counter within => ?_⟩
  rcases List.mem_append.mp held with earlier | new
  · exact kept.below other earlier counter within
  · obtain rfl := List.mem_singleton.mp new
    obtain ⟨above, under⟩ := within
    have ends := Session.end_le_of_checkRange (kept.small other member) passed
    show counter < state.session.rekeyAt
    omega

/-- **Every step keeps the ranges apart** while no addition wraps. -/
theorem kept_step {before after : Reservations} {event : Event} (kept : Kept before)
    (noWrap : NoWrap before event) (taken : step before event = some after) : Kept after := by
  cases event with
  | fetchAdd n =>
    obtain rfl := Option.some.inj taken
    exact kept.fetchAdd noWrap
  | check i =>
    simp only [step] at taken
    split at taken
    · cases taken
    · rename_i range found
      split at taken
      · obtain rfl := Option.some.inj taken
        exact kept.drop i
      · rename_i first passed
        obtain rfl := Option.some.inj taken
        exact kept.grant found passed

/-- **Reservations are safe while no addition wraps**: in every interleaving of any number of calls, also
of calls that fail, the ranges handed out share no counter and end below the limit. -/
theorem reservations_safe {session : Session} {events : List Event} {last : Reservations}
    (run : Run (Guarded NoWrap (Taken step)) (start session) events last) : Safe last := by
  have kept : Kept last := run.invariant Kept
    (fun before event after kept taken => kept_step kept taken.1 taken.2) (kept_start session)
  exact kept.safe

/-- A fresh session of the initiator. -/
def freshSession : Session := .fromHandshakeWithAlgo .transparent 7 (.zero 32) true .aegis256X2

/-- Two calls interleaved with one that fails at the limit. -/
def sampleEvents : List Event :=
  [.fetchAdd 5, .fetchAdd 3, .check 1, .fetchAdd 281474976710656, .check 1, .check 0]

theorem reservations_safe_sample :
    ∃ last, execute (guardedStep NoWrap step) (start freshSession) sampleEvents = some last ∧
      last.granted = [⟨5, 3⟩, ⟨0, 5⟩] ∧ Safe last := by
  have executed : execute (guardedStep NoWrap step) (start freshSession) sampleEvents =
      some ⟨{ freshSession with txCounter := 281474976710664 }, [], [⟨5, 3⟩, ⟨0, 5⟩]⟩ := by decide +kernel
  exact ⟨_, executed, rfl, reservations_safe (run_of_guarded executed)⟩

/-- **A failing call wraps the counter**: five counters are handed out, a request for `2 ^ 64 - 5` fails
and leaves the counter at zero, and the next call is handed counter zero again. -/
theorem reservation_repeated : ¬ ∀ (session : Session) (events : List Event) (last : Reservations),
    Run (Taken step) (start session) events last → Safe last := by
  intro claim
  have executed : execute step (start freshSession)
      [.fetchAdd 5, .check 0, .fetchAdd 18446744073709551611, .check 0, .fetchAdd 1, .check 0] =
        some ⟨{ freshSession with txCounter := 1 }, [], [⟨0, 5⟩, ⟨0, 1⟩]⟩ := by decide +kernel
  have safe := claim _ _ _ (run_of_execute executed)
  have apart : CounterRange.Apart ⟨0, 5⟩ ⟨0, 1⟩ := (List.pairwise_cons.mp safe.apart).1 _ List.mem_cons_self
  have first : 0 ∈ CounterRange.counters ⟨0, 5⟩ := ⟨Nat.le_refl _, by decide⟩
  have again : 0 ∈ CounterRange.counters ⟨0, 1⟩ := ⟨Nat.le_refl _, by decide⟩
  exact Set.disjoint_left.mp apart first again

end Reservations

end ChameleonPQ
