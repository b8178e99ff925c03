/-
**The constant-rate pacer (`pacer.rs`).**

The pure decision of one emission slot. `nextEmit_real_iff`: a slot is real exactly when a packet is
queued; `nextEmit_cbr`: under a constant bit-rate an empty slot is always covered. The cover allowance
of the adaptive mode is the source's 32-bit float.
-/

import ChameleonPQ.Config

namespace ChameleonPQ

/-- `ShapeMode`. -/
inductive ShapeMode where
  | cbr
  | adaptive
  deriving DecidableEq, Repr

/-- The mode of a traffic configuration. -/
def TrafficMode.toShapeMode : TrafficMode → ShapeMode
  | cbr => .cbr
  | adaptive => .adaptive

/-- `Emit`. -/
inductive Emit where
  | real
  | cover
  | idle
  deriving DecidableEq, Repr

/-- `CoverBudget`. -/
structure CoverBudget where
  perTrigger : UInt32
  ratio : Float32

/-- `Pacer`; durations and instants in milliseconds. -/
structure Pacer where
  mode : ShapeMode
  cooldown : Nat
  budget : CoverBudget
  lastReal : Option Nat
  allowance : Float32

namespace Pacer

/-- `new`. -/
def new (mode : ShapeMode) (cooldown : Nat) (budget : CoverBudget) : Pacer :=
  { mode, cooldown, budget, lastReal := none, allowance := 0 }

/-- The pacer of a traffic configuration, as the outbound loop builds it. -/
def ofTraffic (eff : EffectiveTraffic) : Pacer :=
  new eff.mode.toShapeMode eff.cooldownMs.toNat ⟨eff.coverBudgetPackets, eff.coverRatio⟩

/-- `next_emit`. -/
def nextEmit (pacer : Pacer) (hasReal : Bool) (now : Nat) : Emit × Pacer :=
  if hasReal then
    let newTrigger := match pacer.lastReal with
      | some t => decide (pacer.cooldown ≤ now - t)
      | none => true
    let allowance := if newTrigger then pacer.budget.perTrigger.toFloat32 else pacer.allowance
    (.real, { pacer with allowance := allowance + pacer.budget.ratio, lastReal := some now })
  else
    match pacer.mode with
    | .cbr => (.cover, pacer)
    | .adaptive =>
      match pacer.lastReal with
      | some t =>
        if now - t < pacer.cooldown ∧ (1 : Float32) ≤ pacer.allowance then
          (.cover, { pacer with allowance := pacer.allowance - 1 })
        else (.idle, pacer)
      | none => (.idle, pacer)

variable (pacer : Pacer) (now : Nat)

/-- A slot decision never changes the mode. -/
@[simp] theorem nextEmit_mode (hasReal : Bool) : (pacer.nextEmit hasReal now).2.mode = pacer.mode := by
  unfold nextEmit
  cases hasReal with
  | true => rfl
  | false => repeat' first | split | rfl

/-- **A slot is real exactly when a packet is queued.** -/
theorem nextEmit_real_iff (hasReal : Bool) :
    (pacer.nextEmit hasReal now).1 = .real ↔ hasReal = true := by
  unfold nextEmit
  cases hasReal with
  | true => exact ⟨fun _ => rfl, fun _ => rfl⟩
  | false =>
    refine ⟨fun same => ?_, fun same => nomatch same⟩
    simp only [Bool.false_eq_true, if_false] at same
    repeat' split at same
    all_goals cases same

/-- **Under a constant bit-rate an empty slot is covered.** -/
theorem nextEmit_cbr (cbr : pacer.mode = .cbr) : pacer.nextEmit false now = (.cover, pacer) := by
  simp only [nextEmit, Bool.false_eq_true, if_false, cbr]

end Pacer

end ChameleonPQ
