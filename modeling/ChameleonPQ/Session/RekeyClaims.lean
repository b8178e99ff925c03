/-
**Concurrent rekey claims (`needs_rekey`, `abort_rekey`, `install_new_session`).**

Any number of calls of `needs_rekey` and `install_new_session` run step by step on one manager, with aborts
in between, under a clock that never goes back.

* `Single`, `single_run` — the flag is the one outstanding claim, in every interleaving.
* `NotOvertaken` — a call that wins the exchange finds the interval still elapsed, and no winner before it
  has its time still to store.
* `Spaced`, `spaced_step` — under that condition the claims are an interval apart, and the stored time is
  the last one's.
* `claims_single_spaced` — both, in every run whose steps meet the condition; `stale_claim` — two calls that
  pass the interval check together claim at the same time.
* `apart_of_oneCaller` — one caller at a time, as the outbound loop is, always meets it.
-/

import ChameleonPQ.Library.TaskPool
import ChameleonPQ.Session.ManagerSteps

namespace ChameleonPQ

open Library.Runs Library.TaskPool

/-- What happened to the rekey flag. -/
inductive ClaimRecord where
  /-- A call won the exchange. -/
  | claimed (time : Nat)
  /-- An abort or an install cleared the flag. -/
  | released
  deriving DecidableEq

/-- The time of a claim. -/
def ClaimRecord.time? : ClaimRecord → Option Nat
  | claimed time => some time
  | released => none

/-- The claims since the last release. -/
def outstanding : List ClaimRecord → Nat
  | [] => 0
  | .released :: _ => 0
  | .claimed _ :: earlier => outstanding earlier + 1

/-- The times of the claims, newest first. -/
def claimTimes (log : List ClaimRecord) : List Nat := log.filterMap ClaimRecord.time?

/-- A manager and the calls that run on it. -/
structure ClaimRace (Handle : Type) where
  manager : SessionManager Handle
  now : Nat
  calls : List NeedsRekeyStage
  installs : List (InstallStage Handle)
  /-- The claims and releases, newest first. -/
  log : List ClaimRecord
  deriving DecidableEq

/-- One atomic step. -/
inductive ClaimEvent (Handle : Type) where
  | tick (elapsed : Nat)
  /-- A call of `needs_rekey` begins. -/
  | call
  /-- It takes its next step; `counter` is the transmit counter of the current session. -/
  | callStep (index counter : Nat)
  | abort
  /-- A call of `install_new_session` begins. -/
  | install (newSession : Handle)
  | installStep (index : Nat)

namespace ClaimRace

variable {Handle : Type}

/-- A manager whose flag is free and that no call runs on. -/
def start (manager : SessionManager Handle) (now : Nat) : ClaimRace Handle :=
  { manager, now, calls := [], installs := [], log := [] }

/-- One step of the `needs_rekey` call in a stage. -/
def advanceCall (race : ClaimRace Handle) (index counter : Nat) (stage : NeedsRekeyStage) :
    Option (ClaimRace Handle) :=
  match stage.advance race.manager counter race.now with
  | some (after, manager) => some { race with
      manager
      calls := race.calls.set index after
      log := if stage.Wins race.manager then .claimed race.now :: race.log else race.log }
  | none => none

/-- One step of the `install_new_session` call in a stage; the last one clears the flag. -/
def advanceInstall (race : ClaimRace Handle) (index : Nat) (stage : InstallStage Handle) :
    Option (ClaimRace Handle) :=
  match stage.advance race.manager with
  | some (after, manager) => some { race with
      manager
      installs := race.installs.set index after
      log := match stage with
        | .kept => .released :: race.log
        | _ => race.log }
  | none => none

/-- One step; `none` when it is not enabled. -/
def step (race : ClaimRace Handle) : ClaimEvent Handle → Option (ClaimRace Handle)
  | .tick elapsed => some { race with now := race.now + elapsed }
  | .call => some { race with calls := race.calls ++ [.start] }
  | .callStep index counter => race.calls[index]?.bind (race.advanceCall index counter)
  | .abort => some { race with manager := race.manager.abortRekey, log := .released :: race.log }
  | .install newSession => some { race with installs := race.installs ++ [.start newSession] }
  | .installStep index => race.installs[index]?.bind (race.advanceInstall index)

variable {race after : ClaimRace Handle}

/-! ### One outstanding claim -/

/-- **The flag is the outstanding claim.** -/
def Single (race : ClaimRace Handle) : Prop :=
  outstanding race.log = if race.manager.rekeyInProgress then 1 else 0

/-- **One step keeps the claim single**: only the exchange raises the flag, and only from zero. -/
theorem single_step {event : ClaimEvent Handle} (single : Single race) (taken : race.step event = some after) :
    Single after := by
  cases event with
  | tick elapsed => cases taken; exact single
  | call => cases taken; exact single
  | install newSession => cases taken; exact single
  | abort =>
    cases taken
    simp [Single, outstanding, SessionManager.abortRekey]
  | callStep index counter =>
    obtain ⟨stage, found, moved⟩ := Option.bind_eq_some_iff.mp taken
    unfold advanceCall at moved
    split at moved
    · rename_i next manager moves
      cases moved
      rcases NeedsRekeyStage.rekeyInProgress_of_advance moves with ⟨wins, -, rfl⟩ | ⟨loses, -, same⟩
      · have free := wins.2
        simp [Single, outstanding, wins, show outstanding race.log = 0 by simpa [Single, free] using single]
      · simpa [Single, loses, same] using single
    · cases moved
  | installStep index =>
    obtain ⟨stage, found, moved⟩ := Option.bind_eq_some_iff.mp taken
    cases stage <;> cases moved
    · exact single
    · exact single
    · simp [Single, outstanding]

/-- **At most one claim is outstanding**, in every interleaving. -/
theorem single_run {events : List (ClaimEvent Handle)} {first last : ClaimRace Handle}
    (run : Run (Taken step) first events last) (single : Single first) : Single last :=
  run.invariant Single (fun _ _ _ kept taken => single_step kept taken) single

/-! ### Spaced claims -/

/-- The times that winners of the exchange have still to store. -/
def unstored (race : ClaimRace Handle) : List (Option Nat) := held NeedsRekeyStage.unstored race.calls

/-- **Not overtaken**: a call that wins the exchange finds the stored time an interval old, as it did at its
check, and no other winner has its time still to store. -/
def NotOvertaken (race : ClaimRace Handle) : ClaimEvent Handle → Prop
  | .callStep index _ => ∀ stage ∈ race.calls[index]?, stage.Wins race.manager →
      race.manager.lastRekeyAttempt + minRekeyInterval ≤ race.now ∧ race.unstored = []
  | _ => True

instance (race : ClaimRace Handle) (event : ClaimEvent Handle) : Decidable (race.NotOvertaken event) :=
  match event with
  | .callStep index _ => inferInstanceAs (Decidable (∀ stage ∈ race.calls[index]?, stage.Wins race.manager →
      race.manager.lastRekeyAttempt + minRekeyInterval ≤ race.now ∧ race.unstored = []))
  | .tick _ | .call | .abort | .install _ | .installStep _ => inferInstanceAs (Decidable True)

/-- The claims are an interval apart. -/
def Apart (times : List Nat) : Prop := times.Pairwise fun later earlier => earlier + minRekeyInterval ≤ later

/-- **The invariant of runs in which no winner is overtaken**: at most one winner has its time still to
store, and the time that is stored, or that it will store, is not before any claim. -/
structure Spaced (race : ClaimRace Handle) : Prop where
  apart : Apart (claimTimes race.log)
  past : ∀ time ∈ claimTimes race.log, time ≤ race.now
  alone : race.unstored.length ≤ 1
  stamped : ∀ attempt, some attempt ∈ race.unstored → ∀ time ∈ claimTimes race.log, time ≤ attempt
  stored : race.unstored = [] → ∀ time ∈ claimTimes race.log, time ≤ race.manager.lastRekeyAttempt

theorem spaced_start (manager : SessionManager Handle) (now : Nat) : Spaced (start manager now) where
  apart := .nil
  past := by simp [start, claimTimes]
  alone := Nat.zero_le _
  stamped := by simp [start, claimTimes]
  stored := by simp [start, claimTimes]

/-- A step that makes no claim and leaves the times to store and the stored one keeps the claims spaced. -/
theorem Spaced.keep (spaced : Spaced race) (unstored : after.unstored.Perm race.unstored)
    (times : claimTimes after.log = claimTimes race.log) (later : race.now ≤ after.now)
    (attempt : after.manager.lastRekeyAttempt = race.manager.lastRekeyAttempt) : Spaced after where
  apart := times ▸ spaced.apart
  past time present := (spaced.past time (times ▸ present)).trans later
  alone := unstored.length_eq ▸ spaced.alone
  stamped other present := times ▸ spaced.stamped other (unstored.mem_iff.mp present)
  stored none := by
    rw [times, attempt]
    exact spaced.stored (List.perm_nil.mp (none ▸ unstored.symm))

/-- **A win is an interval after every claim before it.** -/
theorem Spaced.win (spaced : Spaced race) {index : Nat} (found : race.calls[index]? = some .due)
    (elapsed : race.manager.lastRekeyAttempt + minRekeyInterval ≤ race.now) (none : race.unstored = []) :
    Spaced { race with
      manager := { race.manager with rekeyInProgress := true }
      calls := race.calls.set index .won
      log := .claimed race.now :: race.log } := by
  have stored := spaced.stored none
  have unstored : held NeedsRekeyStage.unstored (race.calls.set index .won) = [Option.none] := by
    have gained := held_gain NeedsRekeyStage.unstored found
      (show NeedsRekeyStage.unstored .won = [Option.none] ++ NeedsRekeyStage.unstored .due from rfl)
    rw [show held NeedsRekeyStage.unstored race.calls = [] from none] at gained
    exact List.perm_singleton.mp gained
  refine ⟨?_, ?_, ?_, ?_, ?_⟩
  · refine List.Pairwise.cons (fun time present => ?_) spaced.apart
    exact (Nat.add_le_add_right (stored time present) _).trans elapsed
  · intro time present
    rcases List.mem_cons.mp present with rfl | earlier
    · exact Nat.le_refl _
    · exact spaced.past time earlier
  · rw [ClaimRace.unstored, unstored]
    exact Nat.le_refl _
  · intro attempt present
    simp [ClaimRace.unstored, unstored] at present
  · simp [ClaimRace.unstored, unstored]

/-- The winner in place `index` is the only one with its time still to store. -/
theorem Spaced.only (spaced : Spaced race) {index : Nat} {stage : NeedsRekeyStage} {token : Option Nat}
    (found : race.calls[index]? = some stage) (holds : stage.unstored = [token]) (after : NeedsRekeyStage) :
    race.unstored = [token] ∧ held NeedsRekeyStage.unstored (race.calls.set index after) = after.unstored := by
  have split := held_perm NeedsRekeyStage.unstored found
  have replaced := held_set_perm NeedsRekeyStage.unstored found after
  have alone := spaced.alone
  rw [ClaimRace.unstored, split.length_eq, holds, List.length_append, List.length_singleton] at alone
  have rest : held NeedsRekeyStage.unstored (race.calls.eraseIdx index) = [] :=
    List.length_eq_zero_iff.mp (by omega)
  rw [rest, List.append_nil] at split replaced
  rw [holds] at split
  refine ⟨List.perm_singleton.mp split, ?_⟩
  cases after with
  | won | stamping _ => exact List.perm_singleton.mp replaced
  | start | overThreshold | due | done _ => exact List.perm_nil.mp replaced

/-- **One step of a call keeps the claims spaced.** -/
theorem Spaced.call (spaced : Spaced race) {index counter : Nat} {stage : NeedsRekeyStage}
    (found : race.calls[index]? = some stage) (notOvertaken : race.NotOvertaken (.callStep index counter))
    (moved : race.advanceCall index counter stage = some after) : Spaced after := by
  cases stage with
  | start | overThreshold =>
    cases moved
    refine spaced.keep (held_set_same _ found ?_) rfl (Nat.le_refl _) rfl
    split <;> rfl
  | due =>
    cases busy : race.manager.rekeyInProgress with
    | true =>
      simp only [advanceCall, NeedsRekeyStage.advance, NeedsRekeyStage.Wins, busy, if_true, Bool.true_eq_false,
        and_false, if_false, Option.some.injEq] at moved
      subst moved
      exact spaced.keep (held_set_same _ found rfl) rfl (Nat.le_refl _) rfl
    | false =>
      obtain ⟨elapsed, none⟩ := notOvertaken .due found ⟨rfl, busy⟩
      simp only [advanceCall, NeedsRekeyStage.advance, NeedsRekeyStage.Wins, busy, Bool.false_eq_true, if_false,
        and_self, if_true, Option.some.injEq] at moved
      subst moved
      exact spaced.win found elapsed none
  | won =>
    -- The clock is read after the exchange, so the time is not before the claim.
    cases moved
    have unstored := (spaced.only found rfl (.stamping race.now)).2
    refine ⟨spaced.apart, spaced.past, ?_, ?_, ?_⟩
    · rw [ClaimRace.unstored, unstored]
      exact Nat.le_refl _
    · intro attempt present
      rw [ClaimRace.unstored, unstored] at present
      cases List.mem_singleton.mp present
      exact spaced.past
    · simp [ClaimRace.unstored, unstored, NeedsRekeyStage.unstored]
  | stamping attempt =>
    cases moved
    obtain ⟨own, unstored⟩ := spaced.only found rfl (.done true)
    have latest := spaced.stamped attempt (by simp [own])
    refine ⟨spaced.apart, spaced.past, ?_, ?_, fun _ => latest⟩
    · rw [ClaimRace.unstored, unstored]
      exact Nat.zero_le _
    · intro other present
      simp [ClaimRace.unstored, unstored, NeedsRekeyStage.unstored] at present
  | done claimed => cases moved

/-- **One step keeps the claims spaced.** -/
theorem spaced_step {event : ClaimEvent Handle} (spaced : Spaced race) (notOvertaken : race.NotOvertaken event)
    (taken : race.step event = some after) : Spaced after := by
  cases event with
  | tick elapsed => cases taken; exact spaced.keep .rfl rfl (Nat.le_add_right _ _) rfl
  | abort => cases taken; exact spaced.keep .rfl rfl (Nat.le_refl _) rfl
  | install newSession => cases taken; exact spaced.keep .rfl rfl (Nat.le_refl _) rfl
  | call =>
    cases taken
    have same : held NeedsRekeyStage.unstored (race.calls ++ [.start]) =
        held NeedsRekeyStage.unstored race.calls := held_join _ rfl
    exact spaced.keep (.of_eq same) rfl (Nat.le_refl _) rfl
  | callStep index counter =>
    obtain ⟨stage, found, moved⟩ := Option.bind_eq_some_iff.mp taken
    exact spaced.call found notOvertaken moved
  | installStep index =>
    obtain ⟨stage, found, moved⟩ := Option.bind_eq_some_iff.mp taken
    cases stage <;> cases moved <;> exact spaced.keep .rfl rfl (Nat.le_refl _) rfl

/-- **Rekey claims are single, and spaced unless a winner was overtaken.** In every interleaving at most one
claim is outstanding; in those in which every call that wins the exchange finds the interval still elapsed
and no earlier winner's time still to be stored, any two claims are an interval apart. -/
theorem claims_single_spaced {manager : SessionManager Handle} (free : manager.rekeyInProgress = false)
    {now : Nat} {events : List (ClaimEvent Handle)} {last : ClaimRace Handle} :
    (Run (Taken step) (start manager now) events last → outstanding last.log ≤ 1) ∧
    (Run (Guarded NotOvertaken (Taken step)) (start manager now) events last → Apart (claimTimes last.log)) := by
  have initial : Single (start manager now) := by simp [Single, start, outstanding, free]
  constructor
  · intro run
    have single := single_run run initial
    rw [Single] at single
    rw [single]
    split <;> simp
  · intro run
    have spaced : Spaced last := run.invariant Spaced
      (fun _ _ _ kept taken => spaced_step kept taken.1 taken.2) (spaced_start manager now)
    exact spaced.apart

/-- A manager of small numbers, past its threshold. -/
def sampleManager : SessionManager Nat :=
  { current := 0, previous := none, rekeyThreshold := 1, rekeyInProgress := false, lastRekeyAttempt := 0 }

/-- A call claims and is aborted; one that starts after the interval claims again. -/
def sampleClaims : List (ClaimEvent Nat) :=
  [ClaimEvent.call] ++ List.replicate 5 (ClaimEvent.callStep 0 7) ++
    [ClaimEvent.abort, ClaimEvent.tick minRekeyInterval, ClaimEvent.call] ++
      List.replicate 5 (ClaimEvent.callStep 1 7)

/-- The sample, every winner of which is not overtaken. -/
def sampleSpaced : Option (ClaimRace Nat) :=
  execute (guardedStep NotOvertaken step) (start sampleManager 10000) sampleClaims

theorem sampleSpaced_isSome : sampleSpaced.isSome = true := by decide +kernel

theorem claims_single_spaced_sample :
    Apart (claimTimes (sampleSpaced.get sampleSpaced_isSome).log) ∧
      claimTimes (sampleSpaced.get sampleSpaced_isSome).log = [15000, 10000] :=
  ⟨(claims_single_spaced (show sampleManager.rekeyInProgress = false from rfl)).2
    (run_of_guarded (Option.some_get sampleSpaced_isSome).symm), by decide +kernel⟩

/-- The second call passes the interval check before the first one claims, and wins after it was aborted. -/
def staleClaims : List (ClaimEvent Nat) :=
  [ClaimEvent.call, ClaimEvent.call, ClaimEvent.callStep 1 7, ClaimEvent.callStep 1 7] ++
    List.replicate 5 (ClaimEvent.callStep 0 7) ++
      [ClaimEvent.abort, ClaimEvent.callStep 1 7, ClaimEvent.callStep 1 7, ClaimEvent.callStep 1 7]

/-- The race after it. -/
def staleRace : Option (ClaimRace Nat) := execute step (start sampleManager 10000) staleClaims

theorem staleRace_isSome : staleRace.isSome = true := by decide +kernel

/-- Both calls return that they claimed the rekey, at the same time. -/
theorem stale_claim : ∃ last, Run (Taken step) (start sampleManager 10000) staleClaims last ∧
    last.calls = [.done true, .done true] ∧ ¬ Apart (claimTimes last.log) := by
  have times : claimTimes (staleRace.get staleRace_isSome).log = [10000, 10000] := by decide +kernel
  refine ⟨staleRace.get staleRace_isSome, run_of_execute (Option.some_get staleRace_isSome).symm,
    by decide +kernel, ?_⟩
  simp [times, Apart, minRekeyInterval]

/-! ### One caller at a time -/

/-- A call that has not returned. -/
def inFlight : NeedsRekeyStage → List NeedsRekeyStage
  | .done _ => []
  | stage => [stage]

/-- The calls that have not returned. -/
def running (race : ClaimRace Handle) : List NeedsRekeyStage := held inFlight race.calls

/-- No call begins before the last one has returned. -/
def OneCaller (race : ClaimRace Handle) : ClaimEvent Handle → Prop
  | .call => race.running = []
  | _ => True

/-- The only running call, once past its check, finds the interval elapsed. -/
structure Solitary (race : ClaimRace Handle) : Prop where
  alone : race.running.length ≤ 1
  elapsed : .due ∈ race.running → race.manager.lastRekeyAttempt + minRekeyInterval ≤ race.now

/-- The times to store are those of running calls. -/
theorem unstored_eq (race : ClaimRace Handle) :
    race.unstored = race.running.flatMap NeedsRekeyStage.unstored := by
  rw [unstored, running, held, held, List.flatMap_assoc]
  apply List.flatMap_congr
  intro stage _
  cases stage <;> simp [inFlight, NeedsRekeyStage.unstored]

/-- The call in place `index` is the only one running. -/
theorem Solitary.only (solitary : Solitary race) {index : Nat} {stage : NeedsRekeyStage}
    (found : race.calls[index]? = some stage) (runs : inFlight stage = [stage]) (after : NeedsRekeyStage) :
    race.running = [stage] ∧ held inFlight (race.calls.set index after) = inFlight after := by
  have split := held_perm inFlight found
  have replaced := held_set_perm inFlight found after
  have alone := solitary.alone
  rw [running, split.length_eq, runs, List.length_append, List.length_singleton] at alone
  have rest : held inFlight (race.calls.eraseIdx index) = [] := List.length_eq_zero_iff.mp (by omega)
  rw [rest, List.append_nil] at split replaced
  rw [runs] at split
  refine ⟨List.perm_singleton.mp split, ?_⟩
  cases after with
  | done _ => exact List.perm_nil.mp replaced
  | start | overThreshold | due | won | stamping _ => exact List.perm_singleton.mp replaced

/-- **A single caller is not overtaken.** -/
theorem Solitary.notOvertaken (solitary : Solitary race) (event : ClaimEvent Handle) :
    race.NotOvertaken event := by
  cases event with
  | callStep index counter =>
    rintro stage found ⟨rfl, -⟩
    have own := (solitary.only found rfl .due).1
    refine ⟨solitary.elapsed (by simp [own]), ?_⟩
    simp [unstored_eq, own, NeedsRekeyStage.unstored]
  | tick _ | call | abort | install _ | installStep _ => trivial

/-- A step that leaves the calls and the stored time keeps the caller alone. -/
theorem Solitary.keep (solitary : Solitary race) (calls : after.calls = race.calls) (later : race.now ≤ after.now)
    (attempt : after.manager.lastRekeyAttempt = race.manager.lastRekeyAttempt) : Solitary after where
  alone := by
    rw [running, calls]
    exact solitary.alone
  elapsed due := by
    rw [running, calls] at due
    rw [attempt]
    exact (solitary.elapsed due).trans later

/-- **One step keeps the caller alone.** -/
theorem solitary_step {event : ClaimEvent Handle} (solitary : Solitary race) (oneCaller : race.OneCaller event)
    (taken : race.step event = some after) : Solitary after := by
  cases event with
  | tick elapsed => cases taken; exact solitary.keep rfl (Nat.le_add_right _ _) rfl
  | abort => cases taken; exact solitary.keep rfl (Nat.le_refl _) rfl
  | install newSession => cases taken; exact solitary.keep rfl (Nat.le_refl _) rfl
  | call =>
    cases taken
    have only : held inFlight (race.calls ++ [.start]) = [.start] := by
      have none : race.calls.flatMap inFlight = [] := oneCaller
      simp [held, none, inFlight]
    exact ⟨by simp [running, only], by simp [running, only]⟩
  | callStep index counter =>
    obtain ⟨stage, found, moved⟩ := Option.bind_eq_some_iff.mp taken
    unfold advanceCall at moved
    split at moved
    · rename_i next manager moves
      cases moved
      have runs : inFlight stage = [stage] := by
        cases stage with
        | done claimed => cases moves
        | start | overThreshold | due | won | stamping _ => rfl
      have own := (solitary.only found runs next).2
      refine ⟨?_, fun due => ?_⟩
      · rw [running, own]
        cases next <;> simp [inFlight]
      · -- Only the interval check leads to the exchange.
        rw [running, own] at due
        cases stage with
        | overThreshold =>
          simp only [NeedsRekeyStage.advance, Option.some.injEq, Prod.mk.injEq] at moves
          obtain ⟨rfl, rfl⟩ := moves
          split at due
          · simp [inFlight] at due
          · rename_i elapsed
            show race.manager.lastRekeyAttempt + minRekeyInterval ≤ race.now
            unfold minRekeyInterval at elapsed ⊢
            omega
        | start =>
          cases moves
          split at due <;> simp [inFlight] at due
        | due =>
          simp only [NeedsRekeyStage.advance] at moves
          split at moves <;> cases moves <;> simp [inFlight] at due
        | won | stamping _ =>
          cases moves
          simp [inFlight] at due
        | done _ => cases moves
    · cases moved
  | installStep index =>
    obtain ⟨stage, found, moved⟩ := Option.bind_eq_some_iff.mp taken
    cases stage <;> cases moved <;> exact solitary.keep rfl (Nat.le_refl _) rfl

/-- **The claims of one caller at a time are spaced**, whatever is aborted and installed in between. -/
theorem apart_of_oneCaller {manager : SessionManager Handle} {now : Nat} {events : List (ClaimEvent Handle)}
    {last : ClaimRace Handle} (run : Run (Guarded OneCaller (Taken step)) (start manager now) events last) :
    Apart (claimTimes last.log) := by
  have both : Solitary last ∧ Spaced last := run.invariant (fun race => Solitary race ∧ Spaced race)
    (fun _ event _ kept taken => ⟨solitary_step kept.1 taken.1 taken.2,
      spaced_step kept.2 (kept.1.notOvertaken event) taken.2⟩)
    ⟨⟨Nat.zero_le _, nofun⟩, spaced_start manager now⟩
  exact both.2.apart

end ClaimRace

end ChameleonPQ
