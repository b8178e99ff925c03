/-
**What a bounded replay window is for.**

A receiver has seen a set of sequence numbers and remembers only the last `width` of them. The
abstract guard `Accepts` takes a number exactly when it is new and no seen number is `width` or more
above it. It mentions no bitmap and no highest number: `accepts_iff_of_isGreatest` recovers the usual
description from the highest seen number.
-/

import Mathlib.Order.Bounds.Basic
import Mathlib.Data.Set.Insert
import Mathlib.Algebra.Order.Monoid.Defs

namespace Library.SeenWindow

section Guard

variable {Number : Type} [LT Number] (horizon : Number → Number)

/-- **The abstract guard**: the number is new, and every seen number is below its horizon. -/
def Accepts (seen : Set Number) (number : Number) : Prop :=
  number ∉ seen ∧ ∀ other ∈ seen, other < horizon number

variable {horizon}

theorem accepts_empty (number : Number) : Accepts horizon ∅ number :=
  ⟨Set.notMem_empty number, fun _ member => member.elim⟩

/-- **In-range traffic does not close the window**: seeing another number below the horizon keeps a
number acceptable. -/
theorem Accepts.insert {seen : Set Number} {number other : Number}
    (accepts : Accepts horizon seen number) (different : number ≠ other)
    (near : other < horizon number) : Accepts horizon (insert other seen) number := by
  refine ⟨fun member => ?_, fun x member => ?_⟩
  · rcases Set.mem_insert_iff.mp member with same | old
    · exact different same
    · exact accepts.1 old
  · rcases Set.mem_insert_iff.mp member with rfl | old
    · exact near
    · exact accepts.2 x old

end Guard

/-- The guard of a window of `width` natural numbers. -/
abbrev AcceptsWithin (width : Nat) : Set Nat → Nat → Prop := Accepts (· + width)

/-- **The guard, from the highest seen number.** -/
theorem accepts_iff_of_isGreatest {width : Nat} (positive : 0 < width) {seen : Set Nat}
    {highest number : Nat} (greatest : IsGreatest seen highest) :
    AcceptsWithin width seen number ↔
      highest < number ∨ (highest - number < width ∧ number ∉ seen) := by
  constructor
  · rintro ⟨fresh, near⟩
    have bound : highest < number + width := near highest greatest.1
    exact Or.inr ⟨by omega, fresh⟩
  · rintro (above | ⟨near, fresh⟩)
    · refine ⟨fun member => ?_, fun other member => ?_⟩
      · have := greatest.2 member
        omega
      · have : other ≤ highest := greatest.2 member
        show other < number + width
        omega
    · refine ⟨fresh, fun other member => ?_⟩
      have : other ≤ highest := greatest.2 member
      show other < number + width
      omega

end Library.SeenWindow
