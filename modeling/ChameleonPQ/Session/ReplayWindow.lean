/-
**The 2048-entry replay window (`session.rs`, `ReplayWindow`).**

A bitset of 32 words of 64 bits; bit `delta` is the counter `delta` below the highest one.

* `ReplayWindow.Represents` — the window holds a set of counters: `highest` is the greatest of them
  and bit `delta` says whether `highest - delta` is among them.
* `commit_represents` — one commit adds one counter, for every jump size: the descending in-place
  word loop is a shift of all 2048 positions (`bitAt_of_shiftedWord`).
* `check_eq_ok_iff` — on a window that represents a set, `check` is the abstract guard of
  `Library.SeenWindow`.
* `check_afterHistory_iff` — the refinement over whole histories.

Counters are `u64` in the source; nothing below wraps (each subtraction is guarded by a comparison),
so they are natural numbers here.
-/

import ChameleonPQ.Error
import ChameleonPQ.Library.SeenWindow
import ChameleonPQ.Library.WordBitset

namespace ChameleonPQ

open Library.WordBitset Library.SeenWindow

/-- `WINDOW_BITS`. -/
def windowBits : Nat := 2048

/-- `WINDOW_WORDS`. -/
def windowWords : Nat := windowBits / 64

/-- `ReplayWindow`. -/
structure ReplayWindow where
  highest : Nat
  /-- Bit `i` (the distance below `highest`) set means the counter was seen. -/
  bitmap : Vector (BitVec 64) windowWords
  seeded : Bool
  deriving DecidableEq

namespace ReplayWindow

/-- `ReplayWindow::new`. -/
def new : ReplayWindow := ⟨0, Vector.replicate windowWords 0, false⟩

/-- `bit_is_set`. -/
def bitIsSet (window : ReplayWindow) (delta : Nat) : Bool :=
  (word window.bitmap (delta / 64)).getLsbD (delta % 64)

/-- `set_bit`. -/
def setBit (window : ReplayWindow) (delta : Nat) : ReplayWindow :=
  { window with
    bitmap := window.bitmap.setIfInBounds (delta / 64)
      (word window.bitmap (delta / 64) ||| (1 : BitVec 64) <<< (delta % 64)) }

/-- The word the loop of `shift_window` writes at `i` when `bit_shift == 0`. -/
def wholeWord (wordShift : Nat) (bitmap : Vector (BitVec 64) windowWords) (i : Nat) : BitVec 64 :=
  if wordShift ≤ i then word bitmap (i - wordShift) else 0

/-- The word the loop of `shift_window` writes at `i` when bits are carried across words. -/
def carriedWord (wordShift bitShift : Nat) (bitmap : Vector (BitVec 64) windowWords) (i : Nat) :
    BitVec 64 :=
  if wordShift ≤ i then
    let value := word bitmap (i - wordShift) <<< bitShift
    if wordShift < i then value ||| word bitmap (i - wordShift - 1) >>> (64 - bitShift) else value
  else 0

/-- `shift_window`. -/
def shiftWindow (window : ReplayWindow) (shift : Nat) : ReplayWindow :=
  if windowBits ≤ shift then
    { window with bitmap := Vector.replicate windowWords 0 }
  else
    let wordShift := shift / 64
    let bitShift := shift % 64
    if bitShift = 0 then
      { window with
        bitmap := forDown (fun bitmap i => bitmap.setIfInBounds i (wholeWord wordShift bitmap i))
          windowWords window.bitmap }
    else
      { window with
        bitmap := forDown
          (fun bitmap i => bitmap.setIfInBounds i (carriedWord wordShift bitShift bitmap i))
          windowWords window.bitmap }

/-- `check`: the cheap pre-check, mutates nothing. -/
def check (window : ReplayWindow) (counter : Nat) : Result Unit :=
  if window.seeded = false then .ok ()
  else if window.highest < counter then .ok ()
  else
    let delta := window.highest - counter
    if windowBits ≤ delta then .error .decryptionFailed
    else if window.bitIsSet delta then .error .decryptionFailed
    else .ok ()

/-- `commit`, after a successful decryption. -/
def commit (window : ReplayWindow) (counter : Nat) : ReplayWindow :=
  if window.seeded = false then
    setBit { highest := counter, bitmap := Vector.replicate windowWords 0, seeded := true } 0
  else if window.highest < counter then
    let shifted := window.shiftWindow (counter - window.highest)
    setBit { shifted with highest := counter } 0
  else
    let delta := window.highest - counter
    if delta < windowBits then window.setBit delta else window

/-! ### Bits of the window -/

theorem bitIsSet_eq (window : ReplayWindow) (delta : Nat) :
    window.bitIsSet delta = bitAt window.bitmap delta := rfl

@[simp] theorem setBit_highest (window : ReplayWindow) (delta : Nat) :
    (window.setBit delta).highest = window.highest := rfl

@[simp] theorem setBit_seeded (window : ReplayWindow) (delta : Nat) :
    (window.setBit delta).seeded = window.seeded := rfl

theorem windowWords_mul : windowWords * 64 = windowBits := by decide

theorem bitIsSet_setBit (window : ReplayWindow) {delta : Nat} (inside : delta < windowBits)
    (other : Nat) :
    (window.setBit delta).bitIsSet other = (decide (other = delta) || window.bitIsSet other) := by
  rw [bitIsSet_eq, bitIsSet_eq]
  exact bitAt_set window.bitmap (by decide) (by rw [windowWords_mul]; exact inside) other

/-- Without a bit shift the loop writes the general shifted word. -/
theorem wholeWord_eq (wordShift : Nat) (bitmap : Vector (BitVec 64) windowWords) (i : Nat) :
    wholeWord wordShift bitmap i = shiftedWord bitmap wordShift 0 i := by
  unfold wholeWord shiftedWord
  have carryless : ∀ value : BitVec 64, value >>> 64 = 0 := by
    intro value
    apply BitVec.eq_of_getLsbD_eq
    intro place _
    rw [BitVec.getLsbD_ushiftRight, BitVec.getLsbD_of_ge _ _ (by omega)]
    simp
  by_cases reached : wordShift ≤ i
  · rw [if_pos reached, if_pos reached, BitVec.shiftLeft_zero, Nat.sub_zero, carryless]
    simp
  · rw [if_neg reached, if_neg reached]

theorem carriedWord_eq (wordShift bitShift : Nat) (bitmap : Vector (BitVec 64) windowWords)
    (i : Nat) : carriedWord wordShift bitShift bitmap i = shiftedWord bitmap wordShift bitShift i :=
  rfl

/-- A loop that writes the shifted words in place shifts the original bitmap. -/
theorem word_forDown_shifted (bitmap : Vector (BitVec 64) windowWords) (wordShift bitShift : Nat)
    {i : Nat} (inside : i < windowWords) :
    word (forDown (fun state i => state.setIfInBounds i (shiftedWord state wordShift bitShift i))
        windowWords bitmap) i = shiftedWord bitmap wordShift bitShift i := by
  have local_ : ∀ (first second : Vector (BitVec 64) windowWords) (i : Nat),
      (∀ j ≤ i, first[j]? = second[j]?) →
        shiftedWord first wordShift bitShift i = shiftedWord second wordShift bitShift i := by
    intro first second i same
    unfold shiftedWord
    rw [word_congr (same (i - wordShift) (Nat.sub_le _ _)),
      word_congr (same (i - wordShift - 1) (by omega))]
  rw [word, get_forDown_set (fun state i => shiftedWord state wordShift bitShift i) local_ _ _ _
    inside, if_pos inside, Option.getD_some]

/-- **The multi-word shift is a shift of positions**, for every shift size: inside the window, bit
`delta` afterwards is bit `delta - shift` before. -/
theorem bitIsSet_shiftWindow (window : ReplayWindow) (shift : Nat) {delta : Nat}
    (inside : delta < windowBits) :
    (window.shiftWindow shift).bitIsSet delta =
      (decide (shift ≤ delta) && window.bitIsSet (delta - shift)) := by
  have recombine : shift / 64 * 64 + shift % 64 = shift := by omega
  unfold shiftWindow
  by_cases past : windowBits ≤ shift
  · rw [if_pos past, bitIsSet_eq, bitAt_replicate_zero, decide_eq_false (by omega)]
    rfl
  · rw [if_neg past]
    have pointwise := fun i (h : i < windowWords) =>
      word_forDown_shifted window.bitmap (shift / 64) (shift % 64) h
    have within : delta < windowWords * 64 := by rw [windowWords_mul]; exact inside
    have moved := bitAt_of_shiftedWord (Nat.mod_lt shift (by decide : 0 < 64)) pointwise within
    rw [recombine] at moved
    by_cases aligned : shift % 64 = 0
    · simp only [aligned, if_true, wholeWord_eq]
      rw [aligned] at moved
      exact moved
    · simp only [aligned, if_false, carriedWord_eq]
      exact moved

theorem shiftWindow_seeded (window : ReplayWindow) (shift : Nat) :
    (window.shiftWindow shift).seeded = window.seeded := by
  unfold shiftWindow
  split
  · rfl
  · simp only []
    split <;> rfl

/-! ### The set a window represents -/

/-- **The window represents a set of counters.** -/
structure Represents (window : ReplayWindow) (seen : Set Nat) : Prop where
  unseeded : window.seeded = false → seen = ∅
  greatest : window.seeded = true → IsGreatest seen window.highest
  bits : window.seeded = true → ∀ delta < windowBits,
    (window.bitIsSet delta = true ↔ delta ≤ window.highest ∧ window.highest - delta ∈ seen)

theorem new_represents : new.Represents ∅ where
  unseeded := fun _ => rfl
  greatest := fun seeded => by cases seeded
  bits := fun seeded => by cases seeded

/-- **`check` is the abstract guard** on any window that represents a set. -/
theorem check_eq_ok_iff {window : ReplayWindow} {seen : Set Nat} (rep : window.Represents seen)
    (counter : Nat) : window.check counter = .ok () ↔ AcceptsWithin windowBits seen counter := by
  unfold check
  cases seeded : window.seeded with
  | false =>
    rw [rep.unseeded seeded]
    simp [accepts_empty]
  | true =>
    rw [accepts_iff_of_isGreatest (by decide) (rep.greatest seeded)]
    simp only [Bool.true_eq_false, if_false]
    by_cases above : window.highest < counter
    · simp [above]
    · have back : window.highest - (window.highest - counter) = counter := by omega
      simp only [above, if_false, false_or]
      by_cases far : windowBits ≤ window.highest - counter
      · simp [far]
      · have bit := rep.bits seeded (window.highest - counter) (by omega)
        rw [back] at bit
        simp only [far, if_false]
        cases set : window.bitIsSet (window.highest - counter) with
        | true => simp [(bit.mp set).2]
        | false =>
          have fresh : counter ∉ seen := fun member => by
            rw [bit.mpr ⟨by omega, member⟩] at set
            cases set
          simp [fresh, Nat.lt_of_not_le far]

/-- A rejection is always `DecryptionFailed`. -/
theorem check_eq_error {window : ReplayWindow} {counter : Nat} (rejected : window.check counter ≠ .ok ()) :
    window.check counter = .error .decryptionFailed := by
  unfold check at rejected ⊢
  by_cases unseeded : window.seeded = false
  · exact absurd (if_pos unseeded) rejected
  rw [if_neg unseeded] at rejected ⊢
  by_cases above : window.highest < counter
  · exact absurd (if_pos above) rejected
  rw [if_neg above] at rejected ⊢
  by_cases far : windowBits ≤ window.highest - counter
  · exact if_pos far
  by_cases set : window.bitIsSet (window.highest - counter) = true
  · exact (if_neg far).trans (if_pos set)
  · exact absurd ((if_neg far).trans (if_neg set)) rejected

@[simp] theorem commit_seeded (window : ReplayWindow) (counter : Nat) :
    (window.commit counter).seeded = true := by
  unfold commit
  cases seeded : window.seeded with
  | false => rfl
  | true =>
    simp only [Bool.true_eq_false, if_false]
    split
    · rw [setBit_seeded]
      exact (shiftWindow_seeded _ _).trans seeded
    · split
      · exact seeded
      · exact seeded

theorem commit_highest {window : ReplayWindow} {seen : Set Nat} (rep : window.Represents seen)
    (counter : Nat) : IsGreatest (insert counter seen) (window.commit counter).highest := by
  unfold commit
  cases seeded : window.seeded with
  | false =>
    rw [rep.unseeded seeded]
    refine ⟨Set.mem_insert _ _, fun other member => ?_⟩
    rcases Set.mem_insert_iff.mp member with rfl | none
    · exact le_rfl
    · exact none.elim
  | true =>
    have greatest := rep.greatest seeded
    simp only [Bool.true_eq_false, if_false]
    by_cases above : window.highest < counter
    · rw [if_pos above]
      refine ⟨Set.mem_insert _ _, fun other member => ?_⟩
      rcases Set.mem_insert_iff.mp member with rfl | old
      · exact le_rfl
      · exact (greatest.2 old).trans above.le
    · rw [if_neg above]
      have same : (if window.highest - counter < windowBits then
          window.setBit (window.highest - counter) else window).highest = window.highest := by
        split <;> rfl
      rw [same]
      refine ⟨Set.mem_insert_of_mem _ greatest.1, fun other member => ?_⟩
      rcases Set.mem_insert_iff.mp member with rfl | old
      · exact Nat.le_of_not_lt above
      · exact greatest.2 old

/-- The bits after a commit that seeds the window. -/
theorem bits_seed (counter delta : Nat) :
    (setBit { highest := counter, bitmap := Vector.replicate windowWords 0, seeded := true }
        0).bitIsSet delta = decide (delta = 0) := by
  rw [bitIsSet_setBit _ (by decide), bitIsSet_eq, bitAt_replicate_zero, Bool.or_false]

/-- The bits after a commit above the highest counter. -/
theorem bits_advance (window : ReplayWindow) (counter : Nat) {delta : Nat}
    (inside : delta < windowBits) :
    (setBit { window.shiftWindow (counter - window.highest) with highest := counter }
        0).bitIsSet delta =
      (decide (delta = 0) || (decide (counter - window.highest ≤ delta) &&
        window.bitIsSet (delta - (counter - window.highest)))) := by
  rw [bitIsSet_setBit _ (by decide), bitIsSet_eq]
  exact congrArg _ (bitIsSet_shiftWindow window (counter - window.highest) inside)

/-- **One commit adds one counter to the represented set.** The cases are those of the source: the
first packet, a jump ahead (the shift), and a late packet inside or behind the window. -/
theorem commit_represents {window : ReplayWindow} {seen : Set Nat} (rep : window.Represents seen)
    (counter : Nat) : (window.commit counter).Represents (insert counter seen) where
  unseeded := fun unseeded => by rw [commit_seeded] at unseeded; cases unseeded
  greatest := fun _ => commit_highest rep counter
  bits := fun _ delta inside => by
    unfold commit
    cases seeded : window.seeded with
    | false =>
      rw [rep.unseeded seeded]
      simp only [if_true, bits_seed, decide_eq_true_eq, setBit_highest, Set.mem_insert_iff,
        Set.mem_empty_iff_false, or_false]
      omega
    | true =>
      have greatest := rep.greatest seeded
      have old := rep.bits seeded
      simp only [Bool.true_eq_false, if_false]
      by_cases above : window.highest < counter
      · rw [if_pos above, bits_advance window counter inside]
        simp only [Bool.or_eq_true, Bool.and_eq_true, decide_eq_true_eq, setBit_highest,
          Set.mem_insert_iff]
        constructor
        · rintro (rfl | ⟨shifted, set⟩)
          · exact ⟨Nat.zero_le _, Or.inl rfl⟩
          · obtain ⟨low, member⟩ := (old _ (by omega)).mp set
            have same : window.highest - (delta - (counter - window.highest)) = counter - delta := by
              omega
            exact ⟨by omega, Or.inr (same ▸ member)⟩
        · rintro ⟨low, equal | member⟩
          · exact Or.inl (by omega)
          · have reach : counter - delta ≤ window.highest := greatest.2 member
            have same : window.highest - (delta - (counter - window.highest)) = counter - delta := by
              omega
            exact Or.inr ⟨by omega, (old _ (by omega)).mpr ⟨by omega, same.symm ▸ member⟩⟩
      · rw [if_neg above]
        by_cases near : window.highest - counter < windowBits
        · rw [if_pos near, bitIsSet_setBit _ near]
          simp only [Bool.or_eq_true, decide_eq_true_eq, setBit_highest, Set.mem_insert_iff,
            old delta inside]
          constructor
          · rintro (rfl | ⟨low, member⟩)
            · exact ⟨Nat.sub_le _ _, Or.inl (by omega)⟩
            · exact ⟨low, Or.inr member⟩
          · rintro ⟨low, equal | member⟩
            · exact Or.inl (by omega)
            · exact Or.inr ⟨low, member⟩
        · rw [if_neg near, old delta inside, Set.mem_insert_iff]
          constructor
          · exact fun ⟨low, member⟩ => ⟨low, Or.inr member⟩
          · rintro ⟨low, equal | member⟩
            · omega
            · exact ⟨low, member⟩

/-! ### Whole histories -/

/-- The window after a history of commits on a fresh window. -/
def afterHistory (committed : List Nat) : ReplayWindow := committed.foldl commit new

theorem foldl_commit_represents (committed : List Nat) {window : ReplayWindow} {seen : Set Nat}
    (rep : window.Represents seen) :
    (committed.foldl commit window).Represents ({c | c ∈ committed} ∪ seen) := by
  induction committed generalizing window seen with
  | nil => simpa using rep
  | cons counter rest ih =>
    have next := ih (commit_represents rep counter)
    have same : {c | c ∈ rest} ∪ insert counter seen = {c | c ∈ counter :: rest} ∪ seen := by
      ext c
      simp only [Set.mem_union, Set.mem_ofPred_eq, Set.mem_insert_iff, List.mem_cons]
      tauto
    rw [same] at next
    exact next

theorem afterHistory_represents (committed : List Nat) :
    (afterHistory committed).Represents {c | c ∈ committed} := by
  have rep := foldl_commit_represents committed new_represents
  rwa [Set.union_empty] at rep

/-- The highest counter of a history (`0` for the empty one). -/
def highestOf (committed : List Nat) : Nat := committed.foldr max 0

theorem highestOf_isGreatest {committed : List Nat} (nonempty : committed ≠ []) :
    IsGreatest {c | c ∈ committed} (highestOf committed) := by
  induction committed with
  | nil => exact absurd rfl nonempty
  | cons counter rest ih =>
    cases rest with
    | nil => exact ⟨by simp [highestOf], fun c member => by simp_all [highestOf]⟩
    | cons second more =>
      obtain ⟨member, bound⟩ := ih (by simp)
      have unfold_ : highestOf (counter :: second :: more) = max counter (highestOf (second :: more)) :=
        rfl
      rw [unfold_]
      refine ⟨?_, fun c inside => ?_⟩
      · rcases max_choice counter (highestOf (second :: more)) with left | right
        · rw [left]; exact List.mem_cons_self
        · rw [right]; exact List.mem_cons_of_mem _ member
      · rcases List.mem_cons.mp inside with rfl | later
        · exact le_max_left _ _
        · exact (bound later).trans (le_max_right _ _)

/-- **The bitmap window refines its set specification.** After any history of commits, in any order
and with any jumps, `check` accepts exactly when nothing was committed, or the counter is above the
highest committed one, or it is fewer than 2048 below it and was not committed. -/
theorem check_afterHistory_iff (committed : List Nat) (counter : Nat) :
    (afterHistory committed).check counter = .ok () ↔
      committed = [] ∨ highestOf committed < counter ∨
        (highestOf committed - counter < 2048 ∧ counter ∉ committed) := by
  rw [check_eq_ok_iff (afterHistory_represents committed)]
  by_cases empty : committed = []
  · subst empty
    simp [Accepts]
  · rw [accepts_iff_of_isGreatest (by decide) (highestOf_isGreatest empty)]
    simp only [empty, false_or]
    exact Iff.rfl

end ReplayWindow

end ChameleonPQ
