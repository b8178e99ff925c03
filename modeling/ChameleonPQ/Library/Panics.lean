/-
**Operations that panic.**

`Checked` — a computation that gives a value or panics. The operations on octet strings panic as Rust's
do: an index or a range outside the string, a difference below zero, a sum beyond the word, a conversion
to an array of another length, a read past the end of a buffer. Each has one lemma that says what it gives
when its precondition holds; a proof that a function does not panic rewrites with these.
-/

import ChameleonPQ.Library.Octets

namespace Library

/-- A computation that may panic. -/
inductive Checked (Value : Type) where
  | done (value : Value)
  | panicked
  deriving DecidableEq

namespace Checked

variable {First Second : Type}

/-- What comes after a panic does not run. -/
def bind (first : Checked First) (next : First → Checked Second) : Checked Second :=
  match first with
  | done value => next value
  | panicked => panicked

instance : Monad Checked where
  pure := done
  bind := bind

@[simp] theorem done_bind (value : First) (next : First → Checked Second) :
    (done value >>= next) = next value := rfl

@[simp] theorem pure_eq (value : First) : (pure value : Checked First) = done value := rfl

end Checked

open Checked

/-! ### Machine arithmetic -/

/-- `first - second`, which panics below zero. -/
def subChecked (first second : Nat) : Checked Nat :=
  if first < second then panicked else done (first - second)

/-- `first + second`, which panics beyond the word. -/
def addChecked (first second : Nat) : Checked Nat :=
  if 2 ^ 64 ≤ first + second then panicked else done (first + second)

theorem subChecked_eq {first second : Nat} (enough : second ≤ first) :
    subChecked first second = done (first - second) := if_neg (Nat.not_lt.mpr enough)

theorem addChecked_eq {first second : Nat} (small : first + second < 2 ^ 64) :
    addChecked first second = done (first + second) := if_neg (Nat.not_le.mpr small)

/-! ### Indices and ranges -/

/-- `raw[index]`. -/
def byteAt (raw : Bytes) (index : Nat) : Checked UInt8 :=
  if raw.length ≤ index then panicked else done (raw.getD index 0)

/-- `raw[first..last]`. -/
def slice (raw : Bytes) (first last : Nat) : Checked Bytes :=
  if last < first ∨ raw.length < last then panicked else done ((raw.take last).drop first)

/-- `raw[first..]`. -/
def sliceFrom (raw : Bytes) (first : Nat) : Checked Bytes :=
  if raw.length < first then panicked else done (raw.drop first)

/-- `raw.split_at(middle)`. -/
def splitAt (raw : Bytes) (middle : Nat) : Checked (Bytes × Bytes) :=
  if raw.length < middle then panicked else done (raw.take middle, raw.drop middle)

/-- `copy_from_slice` into an array of `size` octets, `try_into().unwrap()` to one. -/
def toArray (size : Nat) (raw : Bytes) : Checked (Octets size) :=
  if same : raw.length = size then done ⟨raw, same⟩ else panicked

section Ranges

variable {raw : Bytes} {first last middle index size : Nat}

theorem byteAt_eq (inside : index < raw.length) : byteAt raw index = done (raw.getD index 0) :=
  if_neg (Nat.not_le.mpr inside)

theorem slice_eq (ordered : first ≤ last) (inside : last ≤ raw.length) :
    slice raw first last = done ((raw.take last).drop first) :=
  if_neg (not_or.mpr ⟨Nat.not_lt.mpr ordered, Nat.not_lt.mpr inside⟩)

theorem sliceFrom_eq (inside : first ≤ raw.length) : sliceFrom raw first = done (raw.drop first) :=
  if_neg (Nat.not_lt.mpr inside)

theorem splitAt_eq (inside : middle ≤ raw.length) :
    splitAt raw middle = done (raw.take middle, raw.drop middle) := if_neg (Nat.not_lt.mpr inside)

theorem toArray_eq (same : raw.length = size) : toArray size raw = done ⟨raw, same⟩ := dif_pos same

end Ranges

/-- The first four octets of a string that has them. -/
theorem take_four {raw : Bytes} (enough : 4 ≤ raw.length) :
    raw.take 4 = [raw.getD 0 0, raw.getD 1 0, raw.getD 2 0, raw.getD 3 0] := by
  refine List.ext_getElem (List.length_take_of_le enough) fun i inside _ => ?_
  have below : i < 4 := by rwa [List.length_take_of_le enough] at inside
  rw [List.getElem_take, List.getElem_eq_getD (0 : UInt8)]
  obtain rfl | rfl | rfl | rfl : i = 0 ∨ i = 1 ∨ i = 2 ∨ i = 3 := by omega
  all_goals rfl

/-- The loop `out[i] = raw[i] ^ keystream[i]` for `i` below `count`. -/
def xorLoop (raw keystream : Bytes) : Nat → Checked Bytes
  | 0 => pure []
  | count + 1 => do
    let front ← xorLoop raw keystream count
    let octet ← byteAt raw count
    let key ← byteAt keystream count
    pure (front ++ [octet ^^^ key])

/-- **The loop is the mask of the front**, when both strings are long enough. -/
theorem xorLoop_eq {raw keystream : Bytes} {count : Nat} (long : count ≤ raw.length)
    (longKey : count ≤ keystream.length) :
    xorLoop raw keystream count = done (mask (keystream.take count) (raw.take count)) := by
  induction count with
  | zero => rfl
  | succ count ih =>
    have octet : raw.getD count 0 = raw[count] := (List.getElem_eq_getD 0).symm
    have key : keystream.getD count 0 = keystream[count] := (List.getElem_eq_getD 0).symm
    have sameLength : (raw.take count).length = (keystream.take count).length := by
      rw [List.length_take_of_le (by omega), List.length_take_of_le (by omega)]
    rw [xorLoop, ih (by omega) (by omega), done_bind, byteAt_eq (by omega), done_bind,
      byteAt_eq (by omega), done_bind, octet, key, pure_eq, mask, mask,
      List.take_succ_eq_append_getElem (by omega), List.take_succ_eq_append_getElem (by omega),
      List.zipWith_append sameLength]
    rfl

/-! ### Reading a buffer -/

/-- `copy_to_slice` and `copy_to_bytes`: the next `count` octets and the rest of the buffer. -/
def takeOctets (count : Nat) (buf : Bytes) : Checked (Bytes × Bytes) :=
  if buf.length < count then panicked else done (buf.take count, buf.drop count)

/-- `get_u8`. -/
def getU8 (buf : Bytes) : Checked (UInt8 × Bytes) := do
  let (octets, rest) ← takeOctets 1 buf
  pure (octets.headD 0, rest)

/-- `get_u16_le`, `get_u32_le` and `get_u64_le`, by the width in octets. -/
def getLe (width : Nat) (buf : Bytes) : Checked (Nat × Bytes) := do
  let (octets, rest) ← takeOctets width buf
  pure (leNat octets, rest)

/-- `copy_to_slice` into an array of `size` octets. -/
def getArray (size : Nat) (buf : Bytes) : Checked (Octets size × Bytes) := do
  let (octets, rest) ← takeOctets size buf
  let array ← toArray size octets
  pure (array, rest)

section Buffer

variable {buf : Bytes} {count width size : Nat}

theorem takeOctets_eq (enough : count ≤ buf.length) :
    takeOctets count buf = done (buf.take count, buf.drop count) := if_neg (Nat.not_lt.mpr enough)

theorem getU8_eq (enough : 1 ≤ buf.length) : getU8 buf = done (buf.headD 0, buf.drop 1) := by
  cases buf with
  | nil => cases enough
  | cons octet rest => rfl

theorem getLe_eq (enough : width ≤ buf.length) :
    getLe width buf = done (leNat (buf.take width), buf.drop width) := by
  rw [getLe, takeOctets_eq enough]
  rfl

theorem getArray_eq (enough : size ≤ buf.length) :
    getArray size buf = done (Octets.fill size buf, buf.drop size) := by
  have length : (buf.take size).length = size := List.length_take_of_le enough
  have front : Octets.fill size buf = ⟨buf.take size, length⟩ := by
    apply Octets.ext
    show (buf ++ List.replicate size 0).take size = buf.take size
    exact List.take_append_of_le_length enough
  rw [getArray, takeOctets_eq enough, front]
  show (toArray size (buf.take size) >>= fun array => pure (array, buf.drop size)) = _
  rw [toArray_eq length]
  rfl

end Buffer

end Library
