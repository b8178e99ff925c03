/-
**Bitsets over machine words, shifted in place.**

A bitset of `count * width` bits kept in `count` words of `width` bits, bit `position` in word
`position / width` at place `position % width`.

* `forDown` — the loop `for i in (0..count).rev()`.
* `get_forDown_set` — a descending loop that rewrites word `i` from words `≤ i` only never reads a
  word it has already rewritten, so its result is the pointwise one.
* `bitAt_shiftWords` — the whole-bitset shift with carries moves bit `position` to
  `position + shift`: it neither loses a bit that stays inside nor invents one.
-/

import Mathlib.Data.BitVec
import Mathlib.Data.Vector.Basic

namespace Library.WordBitset

/-! ### Descending loops -/

section Loop

variable {State : Type}

/-- `for i in (0..count).rev() { state = body(state, i) }`. -/
def forDown (body : State → Nat → State) : Nat → State → State
  | 0, state => state
  | count + 1, state => forDown body count (body state count)

/-- **An in-place descending loop is pointwise.** If the value written at `i` depends only on the
entries at `i` and below, the loop sees the original entries throughout. -/
theorem get_forDown_set {α : Type} {size : Nat} (value : Vector α size → Nat → α)
    (local_ : ∀ (first second : Vector α size) (i : Nat),
      (∀ j ≤ i, first[j]? = second[j]?) → value first i = value second i) :
    ∀ (count : Nat) (entries : Vector α size) (j : Nat), j < size →
      (forDown (fun state i => state.setIfInBounds i (value state i)) count entries)[j]? =
        if j < count then some (value entries j) else entries[j]? := by
  intro count
  induction count with
  | zero => intro entries j _; simp [forDown]
  | succ count ih =>
    intro entries j inside
    rw [forDown, ih _ j inside]
    by_cases below : j < count
    · rw [if_pos below, if_pos (by omega)]
      refine congrArg some (local_ _ _ j fun k hk => ?_)
      rw [Vector.getElem?_setIfInBounds_ne (by omega)]
    · rw [if_neg below]
      by_cases here : j = count
      · subst here
        rw [if_pos (by omega), Vector.getElem?_setIfInBounds_self_of_lt inside]
      · rw [if_neg (by omega), Vector.getElem?_setIfInBounds_ne (by omega)]

end Loop

/-! ### Bits -/

section Bits

variable {width count : Nat}

/-- Word `i`, zero outside the bitset. -/
def word (words : Vector (BitVec width) count) (i : Nat) : BitVec width :=
  words[i]?.getD 0

/-- The bit at `position`. -/
def bitAt (words : Vector (BitVec width) count) (position : Nat) : Bool :=
  (word words (position / width)).getLsbD (position % width)

theorem word_congr {first second : Vector (BitVec width) count} {i : Nat}
    (same : first[i]? = second[i]?) : word first i = word second i := by
  rw [word, word, same]

theorem bitAt_replicate_zero (position : Nat) :
    bitAt (Vector.replicate count (0 : BitVec width)) position = false := by
  unfold bitAt word
  rw [Vector.getElem?_replicate]
  split <;> simp

/-- Or-ing one bit into its word sets exactly that position. -/
theorem bitAt_set (words : Vector (BitVec width) count) {position : Nat} (positive : 0 < width)
    (inside : position < count * width) (other : Nat) :
    bitAt (words.setIfInBounds (position / width)
        (word words (position / width) ||| (1 : BitVec width) <<< (position % width))) other =
      (decide (other = position) || bitAt words other) := by
  have small : position % width < width := Nat.mod_lt _ positive
  have smallOther : other % width < width := Nat.mod_lt _ positive
  have place : position / width < count := (Nat.div_lt_iff_lt_mul positive).mpr inside
  have split : other = width * (other / width) + other % width := (Nat.div_add_mod _ _).symm
  have splitPosition : position = width * (position / width) + position % width :=
    (Nat.div_add_mod _ _).symm
  by_cases same : other / width = position / width
  · have bits : other % width = position % width ↔ other = position := by
      constructor
      · intro equal
        rw [split, splitPosition, same, equal]
      · rintro rfl
        rfl
    rw [bitAt, word, same, Vector.getElem?_setIfInBounds_self_of_lt place, Option.getD_some,
      BitVec.getLsbD_or, BitVec.getLsbD_shiftLeft, bitAt, same, Bool.or_comm]
    by_cases equal : other % width = position % width
    · simp [bits.mp equal, small, positive]
    · have different : ¬ other = position := fun h => equal (bits.mpr h)
      by_cases below : other % width < position % width
      · simp [below, different]
      · have gap : other % width - position % width ≠ 0 := by omega
        simp [below, different, gap, smallOther]
  · have different : ¬ other = position := fun h => same (by rw [h])
    rw [bitAt, word, Vector.getElem?_setIfInBounds_ne (fun h => same h.symm)]
    simp [different, bitAt, word]

/-! ### The whole-bitset shift -/

/-- Word `i` of the bitset moved up by `wordShift` words and `bitShift` bits: the shifted source
word, with the bits carried out of the word below it. -/
def shiftedWord (words : Vector (BitVec width) count) (wordShift bitShift i : Nat) : BitVec width :=
  if wordShift ≤ i then
    if wordShift < i then
      word words (i - wordShift) <<< bitShift ||| word words (i - wordShift - 1) >>> (width - bitShift)
    else word words (i - wordShift) <<< bitShift
  else 0

/-- The bits of a shifted word, read off the whole bitset. -/
theorem getLsbD_shiftedWord (words : Vector (BitVec width) count) {wordShift bitShift : Nat}
    (bitSmall : bitShift < width) (i place : Nat) (placeSmall : place < width) :
    (shiftedWord words wordShift bitShift i).getLsbD place =
      (decide (wordShift * width + bitShift ≤ i * width + place) &&
        bitAt words (i * width + place - (wordShift * width + bitShift))) := by
  have positive : 0 < width := by omega
  -- the position that lands on `place`, split into its word and its bit
  have locate : ∀ w b, b < width → i * width + place = (wordShift + w) * width + bitShift + b →
      bitAt words (i * width + place - (wordShift * width + bitShift)) = (word words w).getLsbD b := by
    intro w b small equal
    have expand : (wordShift + w) * width = wordShift * width + w * width := Nat.add_mul _ _ _
    have source : i * width + place - (wordShift * width + bitShift) = b + width * w := by
      rw [Nat.mul_comm width w]; omega
    rw [bitAt, source, Nat.add_mul_div_left _ _ positive, Nat.add_mul_mod_self_left,
      Nat.div_eq_of_lt small, Nat.mod_eq_of_lt small, Nat.zero_add]
  unfold shiftedWord
  by_cases reached : wordShift ≤ i
  · obtain ⟨k, rfl⟩ := Nat.exists_eq_add_of_le reached
    have expand : (wordShift + k) * width = wordShift * width + k * width := Nat.add_mul _ _ _
    rw [if_pos reached, Nat.add_sub_cancel_left]
    by_cases low : place < bitShift
    · -- below the bit shift only the carry from the word underneath contributes
      cases k with
      | zero =>
        rw [if_neg (by omega), BitVec.getLsbD_shiftLeft, decide_eq_false (by omega : ¬ _ ≤ _)]
        simp [low]
      | succ k =>
        have expandBelow : (wordShift + k) * width = wordShift * width + k * width :=
          Nat.add_mul _ _ _
        have expandSucc : (k + 1) * width = k * width + width := Nat.succ_mul _ _
        rw [if_pos (by omega), Nat.add_sub_cancel, BitVec.getLsbD_or, BitVec.getLsbD_shiftLeft,
          BitVec.getLsbD_ushiftRight, decide_eq_true (by omega : _ ≤ _),
          locate k (width - bitShift + place) (by omega) (by omega)]
        simp [low]
    · have carry : ∀ w : BitVec width, (w >>> (width - bitShift)).getLsbD place = false := by
        intro w
        rw [BitVec.getLsbD_ushiftRight]
        exact BitVec.getLsbD_of_ge _ _ (by omega)
      have source := locate k (place - bitShift) (by omega) (by omega)
      rw [decide_eq_true (by omega : _ ≤ _), source]
      by_cases above : wordShift < wordShift + k
      · rw [if_pos above, BitVec.getLsbD_or, carry, BitVec.getLsbD_shiftLeft]
        simp [low, placeSmall]
      · rw [if_neg above, BitVec.getLsbD_shiftLeft]
        simp [low, placeSmall]
  · have gap : (i + 1) * width ≤ wordShift * width := Nat.mul_le_mul_right _ (by omega)
    have expand : (i + 1) * width = i * width + width := Nat.succ_mul _ _
    rw [if_neg reached, decide_eq_false (by omega : ¬ _ ≤ _)]
    simp

/-- **The shift is a shift of positions.** Any bitset whose words are the shifted words has, at
every position inside, the bit `shift` positions below. -/
theorem bitAt_of_shiftedWord {words shifted : Vector (BitVec width) count}
    {wordShift bitShift : Nat} (bitSmall : bitShift < width)
    (pointwise : ∀ i < count, word shifted i = shiftedWord words wordShift bitShift i)
    {position : Nat} (inside : position < count * width) :
    bitAt shifted position =
      (decide (wordShift * width + bitShift ≤ position) &&
        bitAt words (position - (wordShift * width + bitShift))) := by
  have positive : 0 < width := by omega
  have place : position / width < count := (Nat.div_lt_iff_lt_mul positive).mpr inside
  have split : position / width * width + position % width = position := by
    rw [Nat.mul_comm]; exact Nat.div_add_mod _ _
  rw [bitAt, pointwise _ place, getLsbD_shiftedWord words bitSmall _ _ (Nat.mod_lt _ positive), split]

end Bits

end Library.WordBitset
