/-
**The adaptive cover budget (`pacer.rs`).**

The pacer with its cover allowance in any arithmetic: `CoverPacer Float32` is the source's
(`nextEmit_toCoverPacer`), `CoverPacer ℚ` keeps the allowance exact. The exact pacer runs over slots whose
times do not decrease, and every decision is kept in a history, newest first.

* `lastReal`, `isTrigger`, `sinceTrigger` — the activity bursts, read off the history alone.
* `Accounts` — the allowance is what the last trigger granted and the real slots since earned, less the
  covers since; `accounts_step` is one slot, `Run.invariant` a whole run.
* `cover_budget` — covers never exceed the budget of their burst, none leaves outside the cooldown of a
  real slot, and inside it an empty slot is covered whenever the budget allows one more.
-/

import Mathlib.Data.Rat.Cast.Order
import Mathlib.Tactic.Linarith
import Mathlib.Tactic.Ring
import ChameleonPQ.Library.Runs
import ChameleonPQ.Tunnel.Pacer

namespace ChameleonPQ

open Library.Runs

/-! ### The pacer over an arithmetic -/

/-- `Pacer` with its allowance and budget in `Allowance`; `perTrigger` is already converted. -/
structure CoverPacer (Allowance : Type) where
  mode : ShapeMode
  cooldown : Nat
  perTrigger : Allowance
  ratio : Allowance
  lastReal : Option Nat
  allowance : Allowance

/-- The source's pacer, over 32-bit floats. -/
def Pacer.toCoverPacer (pacer : Pacer) : CoverPacer Float32 :=
  { mode := pacer.mode, cooldown := pacer.cooldown, perTrigger := pacer.budget.perTrigger.toFloat32,
    ratio := pacer.budget.ratio, lastReal := pacer.lastReal, allowance := pacer.allowance }

namespace CoverPacer

section Arithmetic

variable {Allowance : Type}

/-- `new`. -/
def new [OfNat Allowance 0] (mode : ShapeMode) (cooldown : Nat) (perTrigger ratio : Allowance) :
    CoverPacer Allowance :=
  { mode, cooldown, perTrigger, ratio, lastReal := none, allowance := 0 }

variable [Add Allowance] [Sub Allowance] [OfNat Allowance 1] [LE Allowance] [DecidableLE Allowance]

/-- `next_emit`. -/
def nextEmit (pacer : CoverPacer Allowance) (hasReal : Bool) (now : Nat) : Emit × CoverPacer Allowance :=
  if hasReal then
    let newTrigger := match pacer.lastReal with
      | some t => decide (pacer.cooldown ≤ now - t)
      | none => true
    let allowance := if newTrigger then pacer.perTrigger else pacer.allowance
    (.real, { pacer with allowance := allowance + pacer.ratio, lastReal := some now })
  else
    match pacer.mode with
    | .cbr => (.cover, pacer)
    | .adaptive =>
      match pacer.lastReal with
      | some t =>
        if now - t < pacer.cooldown ∧ 1 ≤ pacer.allowance then
          (.cover, { pacer with allowance := pacer.allowance - 1 })
        else (.idle, pacer)
      | none => (.idle, pacer)

/-- An empty slot of the adaptive mode leaves the pacer one cover poorer, or as it was. -/
theorem nextEmit_empty (pacer : CoverPacer Allowance) (now : Nat) (adaptive : pacer.mode = .adaptive) :
    (pacer.nextEmit false now).2 = { pacer with
      allowance := if (pacer.nextEmit false now).1 = .cover then pacer.allowance - 1 else pacer.allowance } := by
  obtain ⟨mode, cooldown, perTrigger, ratio, lastReal, allowance⟩ := pacer
  subst adaptive
  cases lastReal with
  | none => simp [nextEmit]
  | some t => by_cases spend : now - t < cooldown ∧ 1 ≤ allowance <;> simp [nextEmit, spend]

end Arithmetic

/-- The fresh pacers correspond. -/
theorem new_toCoverPacer (mode : ShapeMode) (cooldown : Nat) (budget : CoverBudget) :
    (Pacer.new mode cooldown budget).toCoverPacer =
      new mode cooldown budget.perTrigger.toFloat32 budget.ratio := rfl

/-- **The source's pacer is the pacer over 32-bit floats.** -/
theorem nextEmit_toCoverPacer (pacer : Pacer) (hasReal : Bool) (now : Nat) :
    pacer.toCoverPacer.nextEmit hasReal now =
      ((pacer.nextEmit hasReal now).1, (pacer.nextEmit hasReal now).2.toCoverPacer) := by
  obtain ⟨mode, cooldown, budget, lastReal, allowance⟩ := pacer
  cases hasReal with
  | true => rfl
  | false =>
    cases mode with
    | cbr => rfl
    | adaptive =>
      cases lastReal with
      | none => rfl
      | some t =>
        by_cases spend : now - t < cooldown ∧ (1 : Float32) ≤ allowance <;>
          simp [nextEmit, Pacer.nextEmit, Pacer.toCoverPacer, spend]

end CoverPacer

/-! ### Histories -/

/-- One call of `next_emit`. -/
structure Slot where
  hasReal : Bool
  now : Nat
  deriving DecidableEq, Repr

/-- A call and its decision. -/
structure SlotRecord where
  slot : Slot
  emit : Emit
  deriving DecidableEq, Repr

variable (cooldown : Nat) (history : List SlotRecord)

/-- The time of the last real slot. -/
def lastReal : List SlotRecord → Option Nat
  | [] => none
  | entry :: earlier => if entry.slot.hasReal then some entry.slot.now else lastReal earlier

/-- A real slot that is the first or comes at least the cooldown after the previous one. -/
def isTrigger (slot : Slot) (earlier : List SlotRecord) : Bool :=
  slot.hasReal && (lastReal earlier).all fun t => decide (t + cooldown ≤ slot.now)

/-- The records from the last trigger on. -/
def sinceTrigger : List SlotRecord → Option (List SlotRecord)
  | [] => none
  | entry :: earlier =>
    if isTrigger cooldown entry.slot earlier then some [entry]
    else (sinceTrigger earlier).map (entry :: ·)

/-- The real slots of a history. -/
def reals : Nat := history.countP (·.slot.hasReal)

/-- The covers of a history. -/
def covers : Nat := history.countP (·.emit = .cover)

@[simp] theorem reals_nil : reals [] = 0 := rfl

@[simp] theorem covers_nil : covers [] = 0 := rfl

@[simp] theorem reals_cons (entry : SlotRecord) :
    reals (entry :: history) = reals history + if entry.slot.hasReal then 1 else 0 := by
  simp [reals, List.countP_cons]

@[simp] theorem covers_cons (entry : SlotRecord) :
    covers (entry :: history) = covers history + if entry.emit = .cover then 1 else 0 := by
  simp [covers, List.countP_cons]

/-! ### Runs of the exact pacer -/

/-- A pacer and every decision it made, newest first. -/
structure Paced where
  pacer : CoverPacer ℚ
  history : List SlotRecord

namespace Paced

/-- A fresh adaptive pacer. -/
def fresh (cooldown : Nat) (perTrigger : UInt32) (ratio : ℚ) : Paced :=
  ⟨.new .adaptive cooldown perTrigger.toNat ratio, []⟩

/-- What the pacer decides in a slot. -/
def decision (paced : Paced) (slot : Slot) : Emit := (paced.pacer.nextEmit slot.hasReal slot.now).1

/-- One slot, at a time no earlier than the last one. -/
def step (paced : Paced) (slot : Slot) : Option Paced :=
  if paced.history.head?.all fun last => decide (last.slot.now ≤ slot.now) then
    some ⟨(paced.pacer.nextEmit slot.hasReal slot.now).2, ⟨slot, paced.decision slot⟩ :: paced.history⟩
  else none

end Paced

/-- What the last trigger granted and the real slots since then earned. -/
def budgetOf (perTrigger : UInt32) (ratio : ℚ) (recent : List SlotRecord) : ℚ :=
  perTrigger.toNat + ratio * reals recent

/-- **The accounts of a paced run**: the pacer remembers the last real slot, and its allowance is the budget
of the burst less what the burst spent. -/
structure Accounts (cooldown : Nat) (perTrigger : UInt32) (ratio : ℚ) (paced : Paced) : Prop where
  adaptive : paced.pacer.mode = .adaptive
  sameCooldown : paced.pacer.cooldown = cooldown
  sameGrant : paced.pacer.perTrigger = perTrigger.toNat
  sameRatio : paced.pacer.ratio = ratio
  last : paced.pacer.lastReal = lastReal paced.history
  past : ∀ t ∈ lastReal paced.history, ∀ newest ∈ paced.history.head?, t ≤ newest.slot.now
  quiet : lastReal paced.history = none → covers paced.history = 0
  burst : ∀ recent, sinceTrigger cooldown paced.history = some recent →
    paced.pacer.allowance = budgetOf perTrigger ratio recent - covers recent ∧ 0 ≤ paced.pacer.allowance

variable {cooldown} {perTrigger : UInt32} {ratio : ℚ} {paced after : Paced} {slot : Slot}

theorem accounts_fresh : Accounts cooldown perTrigger ratio (.fresh cooldown perTrigger ratio) where
  adaptive := rfl
  sameCooldown := rfl
  sameGrant := rfl
  sameRatio := rfl
  last := rfl
  past := by simp [Paced.fresh, lastReal]
  quiet := by simp [Paced.fresh]
  burst := by simp [Paced.fresh, sinceTrigger]

/-- A slot is taken when the clock has not gone back. -/
theorem step_eq (taken : paced.step slot = some after) :
    (∀ last ∈ paced.history.head?, last.slot.now ≤ slot.now) ∧
      after = ⟨(paced.pacer.nextEmit slot.hasReal slot.now).2, ⟨slot, paced.decision slot⟩ :: paced.history⟩ := by
  unfold Paced.step at taken
  split at taken
  · rename_i ordered
    refine ⟨fun last newest => ?_, (Option.some.inj taken).symm⟩
    simpa [Option.mem_def.mp newest] using ordered
  · cases taken

/-- The time of the last real slot is past. -/
theorem Accounts.real_le (accounts : Accounts cooldown perTrigger ratio paced)
    (taken : paced.step slot = some after) {t : Nat} (real : lastReal paced.history = some t) : t ≤ slot.now := by
  obtain ⟨ordered, -⟩ := step_eq taken
  cases newest : paced.history.head? with
  | none => simp [List.head?_eq_none_iff.mp newest, lastReal] at real
  | some last => exact le_trans (accounts.past t real last newest) (ordered last newest)

/-- **An empty slot is covered** exactly inside the cooldown of a real slot with a cover left to spend. -/
theorem Accounts.cover_iff (accounts : Accounts cooldown perTrigger ratio paced)
    (taken : paced.step slot = some after) :
    paced.decision slot = .cover ↔ slot.hasReal = false ∧ 1 ≤ paced.pacer.allowance ∧
      ∃ t, lastReal paced.history = some t ∧ slot.now < t + cooldown := by
  have mode := accounts.adaptive
  have same := accounts.sameCooldown
  have last := accounts.last
  cases real : slot.hasReal with
  | true => simp [Paced.decision, CoverPacer.nextEmit, real]
  | false =>
    cases found : lastReal paced.history with
    | none => simp [Paced.decision, CoverPacer.nextEmit, real, mode, last, found]
    | some t =>
      have le := accounts.real_le taken found
      have inside : slot.now - t < cooldown ↔ slot.now < t + cooldown := by omega
      by_cases spend : slot.now < t + cooldown ∧ 1 ≤ paced.pacer.allowance <;>
        simp [Paced.decision, CoverPacer.nextEmit, real, mode, last, found, same, inside, spend, and_comm]

/-- The times of a history stay ordered. -/
theorem Accounts.past_step (accounts : Accounts cooldown perTrigger ratio paced)
    (taken : paced.step slot = some after) :
    ∀ t ∈ lastReal (⟨slot, paced.decision slot⟩ :: paced.history), t ≤ slot.now := by
  intro t real
  cases isReal : slot.hasReal with
  | true => simp_all [lastReal]
  | false =>
    simp only [lastReal, isReal, Bool.false_eq_true, if_false] at real
    exact accounts.real_le taken real

/-- A real slot: the burst starts afresh, or earns the ratio. -/
theorem Accounts.real_step (nonneg : 0 ≤ ratio) (accounts : Accounts cooldown perTrigger ratio paced)
    (taken : paced.step slot = some after) (real : slot.hasReal = true) :
    Accounts cooldown perTrigger ratio after := by
  have ordered := accounts.past_step taken
  have emitted : paced.decision slot = .real := by simp [Paced.decision, CoverPacer.nextEmit, real]
  obtain ⟨-, rfl⟩ := step_eq taken
  have fresh : ∀ t, lastReal paced.history = some t →
      (cooldown ≤ slot.now - t ↔ t + cooldown ≤ slot.now) := by
    intro t found
    have := accounts.real_le taken found
    omega
  refine ⟨?_, ?_, ?_, ?_, ?_, ?_, ?_, ?_⟩
  · simpa [CoverPacer.nextEmit, real] using accounts.adaptive
  · simpa [CoverPacer.nextEmit, real] using accounts.sameCooldown
  · simpa [CoverPacer.nextEmit, real] using accounts.sameGrant
  · simpa [CoverPacer.nextEmit, real] using accounts.sameRatio
  · simp [CoverPacer.nextEmit, lastReal, real]
  · simpa using ordered
  · simp [lastReal, real]
  · intro recent burst
    simp only [CoverPacer.nextEmit, real, if_true, accounts.last, accounts.sameCooldown, accounts.sameRatio,
      accounts.sameGrant]
    cases found : lastReal paced.history with
    | none =>
      simp only [sinceTrigger, isTrigger, real, found, Option.all_none, Bool.and_true, if_true,
        Option.some.injEq] at burst
      subst burst
      simp [budgetOf, real, emitted]
      positivity
    | some t =>
      by_cases trigger : t + cooldown ≤ slot.now
      · simp only [sinceTrigger, isTrigger, real, found, Option.all_some, trigger, decide_true, Bool.and_true,
          if_true, Option.some.injEq] at burst
        subst burst
        simp [budgetOf, real, emitted, fresh t found, trigger, nonneg, add_nonneg]
      · simp only [sinceTrigger, isTrigger, real, found, Option.all_some, trigger, decide_false, Bool.and_false,
          Bool.false_eq_true, if_false, Option.map_eq_some_iff] at burst
        obtain ⟨earlier, earned, rfl⟩ := burst
        obtain ⟨balance, enough⟩ := accounts.burst earlier earned
        simp only [fresh t found, trigger, decide_false, Bool.false_eq_true, if_false]
        refine ⟨?_, add_nonneg enough nonneg⟩
        rw [balance]
        simp [budgetOf, real, emitted]
        ring

/-- An empty slot: a cover is taken from the allowance, and an idle slot takes nothing. -/
theorem Accounts.empty_step (accounts : Accounts cooldown perTrigger ratio paced)
    (taken : paced.step slot = some after) (empty : slot.hasReal = false) :
    Accounts cooldown perTrigger ratio after := by
  have ordered := accounts.past_step taken
  have covered := accounts.cover_iff taken
  obtain ⟨-, rfl⟩ := step_eq taken
  have left : (paced.pacer.nextEmit slot.hasReal slot.now).2 = { paced.pacer with
      allowance := if paced.decision slot = .cover then paced.pacer.allowance - 1 else paced.pacer.allowance } := by
    rw [Paced.decision, empty]
    exact paced.pacer.nextEmit_empty slot.now accounts.adaptive
  rw [left]
  refine ⟨accounts.adaptive, accounts.sameCooldown, accounts.sameGrant, accounts.sameRatio, ?_, ?_, ?_, ?_⟩
  · simpa [lastReal, empty] using accounts.last
  · simpa using ordered
  · intro none
    simp only [lastReal, empty, Bool.false_eq_true, if_false] at none
    simp [accounts.quiet none, covered, none]
  · intro recent burst
    simp only [sinceTrigger, isTrigger, empty, Bool.false_and, Bool.false_eq_true, if_false,
      Option.map_eq_some_iff] at burst
    obtain ⟨earlier, earned, rfl⟩ := burst
    obtain ⟨balance, enough⟩ := accounts.burst earlier earned
    by_cases cover : paced.decision slot = .cover
    · have spend := (covered.mp cover).2.1
      simp only [cover, if_true]
      refine ⟨?_, sub_nonneg.mpr spend⟩
      rw [balance]
      simp [budgetOf, empty]
      ring
    · simp only [cover, if_false]
      refine ⟨?_, enough⟩
      rw [balance]
      simp [budgetOf, empty, cover]

/-- **One slot keeps the accounts.** -/
theorem accounts_step (nonneg : 0 ≤ ratio) (accounts : Accounts cooldown perTrigger ratio paced)
    (taken : paced.step slot = some after) : Accounts cooldown perTrigger ratio after := by
  cases real : slot.hasReal with
  | true => exact accounts.real_step nonneg taken real
  | false => exact accounts.empty_step taken real

/-- **The adaptive cover budget.** After every sequence of slots whose times do not decrease, the covers since
the last trigger are within the burst's budget; the next slot is a cover only inside the cooldown of an
earlier real slot; and an empty slot inside it is covered whenever one more cover is within the budget. -/
theorem cover_budget {slots : List Slot} (nonneg : 0 ≤ ratio)
    (run : Run (Taken Paced.step) (.fresh cooldown perTrigger ratio) slots paced) :
    (∀ recent, sinceTrigger cooldown paced.history = some recent →
      (covers recent : ℚ) ≤ perTrigger.toNat + ratio * reals recent) ∧
    (lastReal paced.history = none → covers paced.history = 0) ∧
    ∀ slot after, paced.step slot = some after →
      (paced.decision slot = .cover → ∃ t, lastReal paced.history = some t ∧ slot.now < t + cooldown) ∧
      (slot.hasReal = false → ∀ t recent, lastReal paced.history = some t → slot.now < t + cooldown →
        sinceTrigger cooldown paced.history = some recent →
        (covers recent + 1 : ℚ) ≤ perTrigger.toNat + ratio * reals recent → paced.decision slot = .cover) := by
  have accounts : Accounts cooldown perTrigger ratio paced :=
    run.invariant _ (fun _ _ _ kept taken => accounts_step nonneg kept taken) accounts_fresh
  refine ⟨fun recent burst => ?_, accounts.quiet, fun slot after taken => ⟨fun cover => ?_, ?_⟩⟩
  · obtain ⟨balance, enough⟩ := accounts.burst recent burst
    rw [balance] at enough
    exact sub_nonneg.mp enough
  · exact ((accounts.cover_iff taken).mp cover).2.2
  · intro empty t recent real inside burst room
    have balance := (accounts.burst recent burst).1
    refine (accounts.cover_iff taken).mpr ⟨empty, ?_, t, real, inside⟩
    rw [balance, budgetOf]
    linarith

/-- A burst of two real packets at ratio one half spends its grant and what it earned, and then idles. -/
def sampleSlots : List Slot :=
  [⟨false, 0⟩, ⟨true, 1⟩, ⟨false, 2⟩, ⟨true, 3⟩, ⟨false, 4⟩, ⟨false, 5⟩]

/-- The pacer after the sample. -/
def samplePaced : Option Paced := execute Paced.step (.fresh 10 1 (1 / 2)) sampleSlots

theorem samplePaced_isSome : samplePaced.isSome = true := by decide +kernel

theorem cover_budget_sample :
    (∀ recent, sinceTrigger 10 (samplePaced.get samplePaced_isSome).history = some recent →
      (covers recent : ℚ) ≤ 1 + 1 / 2 * reals recent) ∧
    (samplePaced.get samplePaced_isSome).history.map (·.emit) = [.idle, .cover, .real, .cover, .real, .idle] := by
  refine ⟨?_, by decide +kernel⟩
  exact (cover_budget (by norm_num)
    (run_of_execute (Option.some_get samplePaced_isSome).symm)).1

end ChameleonPQ
