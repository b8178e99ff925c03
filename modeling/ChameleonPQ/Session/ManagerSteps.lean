/-
**The session manager, one atomic step at a time (`session.rs`).**

The two slots have their own locks, and the rekey flag and the time of the last attempt theirs. What
`install_new_session` and `needs_rekey` do between two of their lock acquisitions or atomic accesses is a
step; other tasks run in between.

* `InstallStage.advance`, `NeedsRekeyStage.advance` — one step of a call.
* `install_alone`, `needsRekey_alone` — a call that nothing interrupts is the function of the manager.
-/

import ChameleonPQ.Library.Runs
import ChameleonPQ.Session.Session

namespace ChameleonPQ

open Library.Runs

variable {Handle : Type}

/-! ### Installing a session -/

/-- Where a call of `install_new_session` stands. -/
inductive InstallStage (Handle : Type) where
  /-- Nothing is written yet. -/
  | start (newSession : Handle)
  /-- `current` is written, and its old session is in hand. -/
  | swapped (old : Handle)
  /-- `previous` is written too. -/
  | kept
  | done
  deriving DecidableEq

namespace InstallStage

/-- The next step of the call; `none` when it has returned. -/
def advance (manager : SessionManager Handle) :
    InstallStage Handle → Option (InstallStage Handle × SessionManager Handle)
  | start newSession => some (swapped manager.current, { manager with current := newSession })
  | swapped old => some (kept, { manager with previous := some old })
  | kept => some (done, { manager with rekeyInProgress := false })
  | done => none

end InstallStage

/-- **An install that nothing interrupts.** -/
theorem install_alone (manager : SessionManager Handle) (newSession : Handle) :
    uninterrupted InstallStage.advance 3 manager (.start newSession) =
      (.done, manager.installNewSession newSession) := rfl

/-! ### Claiming a rekey -/

/-- Where a call of `needs_rekey` stands. -/
inductive NeedsRekeyStage where
  | start
  /-- The transmit counter has reached the threshold. -/
  | overThreshold
  /-- The interval since the last attempt has elapsed. -/
  | due
  /-- The exchange on `rekey_in_progress` is won. -/
  | won
  /-- The time of the attempt is read and not stored yet. -/
  | stamping (attempt : Nat)
  | done (claimed : Bool)
  deriving DecidableEq

namespace NeedsRekeyStage

/-- The next step of the call, with the transmit counter of the current session and the time at that step;
`none` when it has returned. -/
def advance (manager : SessionManager Handle) (counter now : Nat) :
    NeedsRekeyStage → Option (NeedsRekeyStage × SessionManager Handle)
  | start => some (if counter < manager.rekeyThreshold then done false else overThreshold, manager)
  | overThreshold =>
    some (if now - manager.lastRekeyAttempt < minRekeyInterval then done false else due, manager)
  | due =>
    if manager.rekeyInProgress then some (done false, manager)
    else some (won, { manager with rekeyInProgress := true })
  | won => some (stamping now, manager)
  | stamping attempt => some (done true, { manager with lastRekeyAttempt := attempt })
  | done _ => none

/-- What the call has still to store, having won the exchange: a time that it has read, or one to be read. -/
def unstored : NeedsRekeyStage → List (Option Nat)
  | won => [none]
  | stamping attempt => [some attempt]
  | _ => []

/-- The call wins the exchange with its next step. -/
def Wins (manager : SessionManager Handle) (stage : NeedsRekeyStage) : Prop :=
  stage = due ∧ manager.rekeyInProgress = false

instance (manager : SessionManager Handle) : DecidablePred (Wins manager) := fun _ =>
  inferInstanceAs (Decidable (_ ∧ _))

/-- Only the exchange raises the flag. -/
theorem rekeyInProgress_of_advance {manager next : SessionManager Handle} {counter now : Nat}
    {stage after : NeedsRekeyStage} (taken : stage.advance manager counter now = some (after, next)) :
    (stage.Wins manager ∧ after = won ∧ next = { manager with rekeyInProgress := true }) ∨
      (¬ stage.Wins manager ∧ after ≠ won ∧ next.rekeyInProgress = manager.rekeyInProgress) := by
  cases stage with
  | due =>
    simp only [advance] at taken
    split at taken
    · rename_i busy
      cases taken
      exact .inr ⟨by simp [Wins, busy], nofun, rfl⟩
    · rename_i free
      cases taken
      exact .inl ⟨⟨rfl, by simpa using free⟩, rfl, rfl⟩
  | start | overThreshold =>
    simp only [advance, Option.some.injEq, Prod.mk.injEq] at taken
    obtain ⟨rfl, rfl⟩ := taken
    exact .inr ⟨by simp [Wins], by split <;> nofun, rfl⟩
  | won | stamping _ =>
    cases taken
    exact .inr ⟨by simp [Wins], nofun, rfl⟩
  | done _ => cases taken

end NeedsRekeyStage

/-- **A claim that nothing interrupts.** -/
theorem needsRekey_alone (manager : SessionManager Handle) (counter now : Nat) :
    uninterrupted (fun manager stage => NeedsRekeyStage.advance manager counter now stage) 5 manager .start =
      (.done (manager.needsRekey counter now).1, (manager.needsRekey counter now).2) := by
  unfold SessionManager.needsRekey
  by_cases below : counter < manager.rekeyThreshold
  · simp [uninterrupted, NeedsRekeyStage.advance, below]
  · by_cases early : now - manager.lastRekeyAttempt < minRekeyInterval
    · simp [uninterrupted, NeedsRekeyStage.advance, below, early]
    · cases busy : manager.rekeyInProgress <;>
        simp [uninterrupted, NeedsRekeyStage.advance, below, early, busy]

end ChameleonPQ
