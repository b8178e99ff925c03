/-
**Octet strings: fixed-length strings, little-endian numbers, masks.**

* `Octets n` — a string of exactly `n` octets, the length carried as a field.
* `leBytes width value` / `leNat` — little-endian numbers; `leNat_leBytes` is the round trip modulo
  `256 ^ width`, `leBytes_injective` the injectivity below it.
* `leBytes_leNat` — the round trip the other way, at the length of the string.
* `mask` — octet-wise xor; `mask_mask` says that masking twice is the identity.
-/

import Mathlib.Data.Nat.ModEq
import Mathlib.Data.List.Basic

namespace Library

/-- Octet strings. -/
abbrev Bytes := List UInt8

/-- A string of exactly `size` octets. -/
@[ext] structure Octets (size : Nat) where
  bytes : Bytes
  length_eq : bytes.length = size
  deriving DecidableEq

namespace Octets

variable {size : Nat}

@[simp] theorem length_bytes (octets : Octets size) : octets.bytes.length = size := octets.length_eq

/-- The all-zero string. -/
def zero (size : Nat) : Octets size := ⟨List.replicate size 0, List.length_replicate⟩

/-- The first `size` octets of a stream. -/
def ofStream (size : Nat) (stream : Nat → UInt8) : Octets size :=
  ⟨(List.range size).map stream, by simp⟩

/-- The first `size` octets of a string, padded with zeros when it is shorter. -/
def fill (size : Nat) (raw : Bytes) : Octets size :=
  ⟨(raw ++ List.replicate size 0).take size, by simp⟩

/-- A string that starts with a fixed-length one is read back. -/
@[simp] theorem fill_append (octets : Octets size) (rest : Bytes) :
    fill size (octets.bytes ++ rest) = octets := by
  apply Octets.ext
  show (octets.bytes ++ rest ++ List.replicate size 0).take size = octets.bytes
  rw [List.append_assoc]
  exact List.take_left' octets.length_eq

@[simp] theorem fill_bytes (octets : Octets size) : fill size octets.bytes = octets := by
  have filled := fill_append octets []
  rwa [List.append_nil] at filled

/-- A fixed-length string that was padded is read back. -/
theorem fill_fill {larger : Nat} (octets : Octets size) (le : size ≤ larger) :
    fill size (fill larger octets.bytes).bytes = octets := by
  have front : (fill larger octets.bytes).bytes =
      octets.bytes ++ (List.replicate larger 0).take (larger - size) := by
    show (octets.bytes ++ List.replicate larger 0).take larger = _
    rw [List.take_append, octets.length_eq, List.take_of_length_le (octets.length_eq.le.trans le)]
  rw [front, fill_append]

end Octets

/-! ### Little-endian numbers -/

/-- The `width` low octets of a number, least significant first. -/
def leBytes : Nat → Nat → Bytes
  | 0, _ => []
  | width + 1, value => UInt8.ofNat value :: leBytes width (value / 256)

/-- The number a little-endian string denotes. -/
def leNat : Bytes → Nat
  | [] => 0
  | octet :: rest => octet.toNat + 256 * leNat rest

@[simp] theorem length_leBytes (width value : Nat) : (leBytes width value).length = width := by
  induction width generalizing value with
  | zero => rfl
  | succ width ih => rw [leBytes, List.length_cons, ih]

/-- **The round trip**: reading the low octets back gives the number modulo `256 ^ width`. -/
theorem leNat_leBytes (width value : Nat) : leNat (leBytes width value) = value % 256 ^ width := by
  induction width generalizing value with
  | zero => rw [leBytes, leNat, pow_zero, Nat.mod_one]
  | succ width ih =>
    have split : value % 256 ^ (width + 1) = value % 256 + 256 * (value / 256 % 256 ^ width) := by
      rw [pow_succ', Nat.mod_mul]
    rw [leBytes, leNat, ih, UInt8.toNat_ofNat', split]

theorem leNat_leBytes_of_lt {width value : Nat} (small : value < 256 ^ width) :
    leNat (leBytes width value) = value := by
  rw [leNat_leBytes, Nat.mod_eq_of_lt small]

theorem leNat_lt (raw : Bytes) : leNat raw < 256 ^ raw.length := by
  induction raw with
  | nil => exact Nat.one_pos
  | cons octet rest ih =>
    have small : octet.toNat < 256 := octet.toNat_lt
    rw [leNat, List.length_cons, pow_succ]
    omega

/-- Numbers below `256 ^ width` with the same octets are equal. -/
theorem leBytes_injective {width first second : Nat} (firstSmall : first < 256 ^ width)
    (secondSmall : second < 256 ^ width) (same : leBytes width first = leBytes width second) :
    first = second := by
  rw [← leNat_leBytes_of_lt firstSmall, same, leNat_leBytes_of_lt secondSmall]

/-- The octets of the number a string denotes are the string. -/
theorem leBytes_leNat (raw : Bytes) : leBytes raw.length (leNat raw) = raw := by
  induction raw with
  | nil => rfl
  | cons octet rest ih =>
    have small : octet.toNat < 256 := octet.toNat_lt
    have low : UInt8.ofNat (octet.toNat + 256 * leNat rest) = octet := by
      apply UInt8.toNat_inj.mp
      rw [UInt8.toNat_ofNat', Nat.add_mul_mod_self_left]
      exact Nat.mod_eq_of_lt small
    have high : (octet.toNat + 256 * leNat rest) / 256 = leNat rest := by omega
    rw [List.length_cons, leNat, leBytes, low, high, ih]

/-! ### Masks -/

/-- Octet-wise xor, as long as the shorter string. -/
def mask (keystream raw : Bytes) : Bytes := List.zipWith (· ^^^ ·) raw keystream

theorem length_mask (keystream raw : Bytes) :
    (mask keystream raw).length = min raw.length keystream.length := List.length_zipWith

/-- **Masking twice is the identity** under a long enough keystream. -/
theorem mask_mask (keystream raw : Bytes) (long : raw.length ≤ keystream.length) :
    mask keystream (mask keystream raw) = raw := by
  induction raw generalizing keystream with
  | nil => cases keystream <;> rfl
  | cons octet raw ih =>
    cases keystream with
    | nil => exact absurd long (by simp)
    | cons key keystream =>
      have rest := ih keystream (Nat.le_of_succ_le_succ long)
      show ((octet ^^^ key) ^^^ key) :: mask keystream (mask keystream raw) = octet :: raw
      rw [rest, UInt8.xor_assoc, UInt8.xor_self, UInt8.xor_zero]

end Library
