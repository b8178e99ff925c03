/-
**The weight of a table.**

* `Table.weight` — the sizes of the values of a table, summed up.
* `Table.weight_remove_add_le`, `Table.weight_insert_le` — what an entry takes away or adds.
* `Table.weight_collect_le` — what is read out of a table is not more than what is in it.
-/

import ChameleonPQ.Library.Chunks
import Mathlib.Algebra.Order.BigOperators.Group.List
import Mathlib.Algebra.Order.Ring.Nat

namespace Library.Table

variable {Key Value : Type}

/-- The sizes of the values, summed up. -/
def weight (size : Value → Nat) (table : Table Key Value) : Nat := (table.map fun entry => size entry.2).sum

variable {size : Value → Nat} {table : Table Key Value} {key : Key} {value : Value}

theorem weight_cons (entry : Key × Value) (table : Table Key Value) :
    weight size (entry :: table) = size entry.2 + weight size table := List.sum_cons

theorem weight_sublist_le (size : Value → Nat) {shorter : Table Key Value} (sublist : shorter.Sublist table) :
    weight size shorter ≤ weight size table :=
  (sublist.map _).sum_le_sum fun _ _ => Nat.zero_le _

variable [DecidableEq Key]

theorem weight_remove_le (size : Value → Nat) (table : Table Key Value) (key : Key) :
    weight size (table.remove key) ≤ weight size table := weight_sublist_le size List.filter_sublist

/-- **An entry weighs what its removal takes away**, at most. -/
theorem weight_remove_add_le (size : Value → Nat) (present : (key, value) ∈ table) :
    weight size (table.remove key) + size value ≤ weight size table := by
  induction table with
  | nil => cases present
  | cons entry table ih =>
    have kept : Table.remove (entry :: table) key =
        if entry.1 ≠ key then entry :: Table.remove table key else Table.remove table key := by
      unfold Table.remove
      rw [List.filter_cons]
      simp only [decide_eq_true_eq]
    rw [kept, weight_cons]
    rcases List.mem_cons.mp present with rfl | older
    · rw [if_neg (not_not.mpr rfl), Nat.add_comm]
      exact Nat.add_le_add_left (weight_remove_le size table key) _
    · have below := ih older
      split
      · rw [weight_cons]
        omega
      · omega

theorem weight_insert (table : Table Key Value) (key : Key) (value : Value) :
    weight size (table.insert key value) = size value + weight size (table.remove key) := weight_cons _ _

theorem weight_insert_le (table : Table Key Value) (key : Key) (value : Value) :
    weight size (table.insert key value) ≤ weight size table + size value := by
  rw [weight_insert, Nat.add_comm]
  exact Nat.add_le_add_right (weight_remove_le size table key) _

/-! ### What is read out -/

/-- The places from one on do not depend on what is before it. -/
theorem collectFrom_remove (table : Table Nat Value) {key : Nat} (count first : Nat) (below : key < first) :
    (table.remove key).collectFrom count first = table.collectFrom count first := by
  induction count generalizing first with
  | zero => rfl
  | succ count ih =>
    rw [collectFrom, collectFrom, lookup_remove_of_ne table below.ne', ih (first + 1) (Nat.lt_succ_of_lt below)]

theorem weight_collectFrom_le (table : Table Nat Value) {values : List Value} (count first : Nat)
    (collected : table.collectFrom count first = some values) :
    (values.map size).sum ≤ weight size table := by
  induction count generalizing table first values with
  | zero =>
    obtain rfl := Option.some.inj collected
    exact Nat.zero_le _
  | succ count ih =>
    rw [collectFrom] at collected
    split at collected
    · cases collected
    rename_i value found
    split at collected
    · cases collected
    rename_i rest later
    obtain rfl := Option.some.inj collected
    rw [← collectFrom_remove table count (first + 1) (Nat.lt_succ_self first)] at later
    have others := ih (table.remove first) (first + 1) later
    have all := weight_remove_add_le size (mem_of_lookup found)
    rw [List.map_cons, List.sum_cons]
    omega

/-- **Nothing is read out that is not there.** -/
theorem weight_collect_le (table : Table Nat Value) {values : List Value} {count : Nat}
    (collected : table.collect count = some values) : (values.map size).sum ≤ weight size table :=
  weight_collectFrom_le table count 0 collected

end Library.Table
