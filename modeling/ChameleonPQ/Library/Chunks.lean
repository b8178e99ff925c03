/-
**Cutting a string into chunks and gathering them again.**

* `chunks` — chunks of one size, the last one possibly shorter; `chunks_flatten`.
* `Table` — a finite map as a list of entries with one entry for each key.
* `Table.collect_exists` — a table with distinct keys below `count`, `count` of them, is complete.
* `Table.collect_of_lookup` — a complete table is read back in order.
* `gathered`, `arrived` — the table after the first chunks were stored in order, and after some were
  stored in any order.
-/

import Mathlib.Data.Finset.Card
import Mathlib.Data.Finset.Range
import Mathlib.Data.List.Induction

namespace Library

section Chunks

variable {Item : Type}

/-- Chunks of `size`, for lists of at most `fuel` items. -/
def chunksFrom (size : Nat) : Nat → List Item → List (List Item)
  | 0, _ => []
  | _ + 1, [] => []
  | fuel + 1, items => items.take size :: chunksFrom size fuel (items.drop size)

/-- Chunks of `size`; the last one may be shorter. -/
def chunks (size : Nat) (items : List Item) : List (List Item) := chunksFrom size items.length items

theorem chunksFrom_flatten {size : Nat} (positive : 0 < size) (fuel : Nat) (items : List Item)
    (enough : items.length ≤ fuel) : (chunksFrom size fuel items).flatten = items := by
  induction fuel generalizing items with
  | zero =>
    rw [List.eq_nil_of_length_eq_zero (Nat.le_zero.mp enough)]
    rfl
  | succ fuel ih =>
    cases items with
    | nil => rfl
    | cons item rest =>
      have shorter : ((item :: rest).drop size).length ≤ fuel := by
        rw [List.length_drop]
        simp only [List.length_cons] at enough ⊢
        omega
      rw [chunksFrom, List.flatten_cons, ih _ shorter, List.take_append_drop]
      exact List.cons_ne_nil item rest

/-- **The chunks make up the string.** -/
theorem chunks_flatten {size : Nat} (positive : 0 < size) (items : List Item) :
    (chunks size items).flatten = items :=
  chunksFrom_flatten positive items.length items (Nat.le_refl _)

/-- A string is one chunk of its own length. -/
theorem chunks_length {items : List Item} (nonempty : items ≠ []) :
    chunks items.length items = [items] := by
  cases items with
  | nil => exact absurd rfl nonempty
  | cons item rest =>
    show (item :: rest).take (item :: rest).length ::
      chunksFrom _ rest.length ((item :: rest).drop (item :: rest).length) = _
    rw [List.take_length, List.drop_length]
    cases rest.length <;> rfl

theorem length_of_mem_chunksFrom {size fuel : Nat} {items chunk : List Item}
    (present : chunk ∈ chunksFrom size fuel items) : chunk.length ≤ size := by
  induction fuel generalizing items with
  | zero => cases present
  | succ fuel ih =>
    cases items with
    | nil => cases present
    | cons item rest =>
      rw [chunksFrom] at present
      · rcases List.mem_cons.mp present with rfl | later
        · exact (List.length_take_le _ _)
        · exact ih later
      · exact List.cons_ne_nil item rest

theorem length_chunksFrom {size : Nat} (positive : 0 < size) (count : Nat) (fuel : Nat)
    (items : List Item) (enough : items.length ≤ fuel) (exactly : items.length = count * size) :
    (chunksFrom size fuel items).length = count := by
  induction count generalizing fuel items with
  | zero =>
    rw [Nat.zero_mul] at exactly
    rw [List.eq_nil_of_length_eq_zero exactly]
    cases fuel <;> rfl
  | succ count ih =>
    have split : (count + 1) * size = count * size + size := Nat.succ_mul count size
    cases fuel with
    | zero => omega
    | succ fuel =>
      cases items with
      | nil =>
        rw [List.length_nil] at exactly
        omega
      | cons item rest =>
        rw [chunksFrom, List.length_cons, ih fuel]
        · rw [List.length_drop]
          omega
        · rw [List.length_drop]
          omega
        · exact List.cons_ne_nil item rest

/-- A string of `count` full chunks has `count` chunks. -/
theorem length_chunks {size : Nat} (positive : 0 < size) {count : Nat} {items : List Item}
    (exactly : items.length = count * size) : (chunks size items).length = count :=
  length_chunksFrom positive count items.length items (Nat.le_refl _) exactly

theorem length_chunksFrom_le {size : Nat} (count fuel : Nat) (items : List Item)
    (atMost : items.length ≤ count * size) : (chunksFrom size fuel items).length ≤ count := by
  induction fuel generalizing items count with
  | zero => exact Nat.zero_le _
  | succ fuel ih =>
    cases items with
    | nil => exact Nat.zero_le _
    | cons item rest =>
      cases count with
      | zero =>
        rw [Nat.zero_mul] at atMost
        cases atMost
      | succ count =>
        rw [Nat.succ_mul] at atMost
        have left : ((item :: rest).drop size).length ≤ count * size := by
          rw [List.length_drop]
          omega
        rw [chunksFrom, List.length_cons]
        · exact Nat.succ_le_succ (ih count _ left)
        · exact List.cons_ne_nil item rest

/-- A string that fits in `count` chunks makes at most `count`. -/
theorem length_chunks_le {size : Nat} {count : Nat} {items : List Item}
    (atMost : items.length ≤ count * size) : (chunks size items).length ≤ count :=
  length_chunksFrom_le count items.length items atMost

theorem chunks_ne_nil (size : Nat) {items : List Item} (nonempty : items ≠ []) :
    chunks size items ≠ [] := by
  cases items with
  | nil => exact absurd rfl nonempty
  | cons item rest => exact List.cons_ne_nil _ _

/-- The items at all positions of a list are the list. -/
theorem filterMap_getElem?_range (items : List Item) :
    ((List.range items.length).filterMap fun i => items[i]?) = items := by
  have each : (List.range items.length).map (fun i => items[i]?) = items.map some :=
    List.ext_getElem (by simp) (by simp)
  have whole := congrArg (List.filterMap id) each
  rwa [List.filterMap_map, List.filterMap_map, Function.id_comp, Function.id_comp,
    List.filterMap_some] at whole

end Chunks

/-! ### Tables -/

/-- A finite map, as a list of entries. -/
abbrev Table (Key Value : Type) := List (Key × Value)

namespace Table

variable {Key Value : Type} [DecidableEq Key]

/-- The table without a key. -/
def remove (table : Table Key Value) (key : Key) : Table Key Value :=
  table.filter fun entry => entry.1 ≠ key

/-- The table with one entry set. -/
def insert (table : Table Key Value) (key : Key) (value : Value) : Table Key Value :=
  (key, value) :: table.remove key

@[simp] theorem lookup_insert_self (table : Table Key Value) (key : Key) (value : Value) :
    (table.insert key value).lookup key = some value := List.lookup_cons_self

theorem remove_of_absent {table : Table Key Value} {key : Key} (absent : key ∉ table.map Prod.fst) :
    table.remove key = table := by
  refine List.filter_eq_self.mpr fun entry present => ?_
  have different : entry.1 ≠ key := fun same => absent (same ▸ List.mem_map_of_mem present)
  exact decide_eq_true different

@[simp] theorem remove_singleton (key : Key) (value : Value) :
    Table.remove [(key, value)] key = [] := by
  simp [Table.remove]

/-- The values under `first`, `first + 1`, …, when all `count` of them are there. -/
def collectFrom (table : Table Nat Value) : Nat → Nat → Option (List Value)
  | 0, _ => some []
  | count + 1, first =>
    match table.lookup first with
    | none => none
    | some value =>
      match table.collectFrom count (first + 1) with
      | none => none
      | some rest => some (value :: rest)

/-- The values under `0`, …, `count - 1`, when they are all there. -/
def collect (table : Table Nat Value) (count : Nat) : Option (List Value) := table.collectFrom count 0

theorem mem_remove {table : Table Key Value} {key : Key} {entry : Key × Value} :
    entry ∈ table.remove key ↔ entry ∈ table ∧ entry.1 ≠ key := by
  rw [remove, List.mem_filter, decide_eq_true_iff]

/-- The keys stay distinct when an entry is set. -/
theorem nodup_keys_insert {table : Table Key Value} (distinct : (table.map Prod.fst).Nodup) (key : Key)
    (value : Value) : ((table.insert key value).map Prod.fst).Nodup := by
  rw [insert, List.map_cons, List.nodup_cons]
  refine ⟨fun present => ?_, distinct.sublist (List.filter_sublist.map _)⟩
  obtain ⟨entry, among, same⟩ := List.mem_map.mp present
  exact (mem_remove.mp among).2 same

theorem mem_of_lookup {table : Table Key Value} {key : Key} {value : Value}
    (found : table.lookup key = some value) : (key, value) ∈ table := by
  obtain ⟨before, after, rfl, -⟩ := List.lookup_eq_some_iff.mp found
  exact List.mem_append_right _ List.mem_cons_self

theorem lookup_of_mem {table : Table Key Value} (distinct : (table.map Prod.fst).Nodup)
    {entry : Key × Value} (present : entry ∈ table) : table.lookup entry.1 = some entry.2 := by
  obtain ⟨before, after, rfl⟩ := List.append_of_mem present
  rw [List.map_append, List.map_cons, List.nodup_append] at distinct
  refine List.lookup_eq_some_iff.mpr ⟨before, after, rfl, fun other among => ?_⟩
  have different := distinct.2.2 other.1 (List.mem_map_of_mem among) entry.1 List.mem_cons_self
  exact bne_iff_ne.mpr different.symm

@[simp] theorem lookup_remove_self (table : Table Key Value) (key : Key) :
    (table.remove key).lookup key = none := by
  refine List.lookup_eq_none_iff.mpr fun entry present => ?_
  exact bne_iff_ne.mpr (mem_remove.mp present).2.symm

theorem lookup_remove_of_ne (table : Table Key Value) {key other : Key} (different : other ≠ key) :
    (table.remove key).lookup other = table.lookup other := by
  unfold remove
  induction table with
  | nil => rfl
  | cons entry table ih =>
    obtain ⟨first, value⟩ := entry
    by_cases dropped : first = key
    · have elsewhere : (other == first) = false := beq_eq_false_iff_ne.mpr (dropped ▸ different)
      rw [List.filter_cons_of_neg (by simpa using dropped), ih, List.lookup_cons, elsewhere]
    · rw [List.filter_cons_of_pos (by simpa using dropped), List.lookup_cons, List.lookup_cons, ih]

theorem lookup_insert_of_ne (table : Table Key Value) {key other : Key} (value : Value)
    (different : other ≠ key) : (table.insert key value).lookup other = table.lookup other := by
  rw [insert, List.lookup_cons, beq_eq_false_iff_ne.mpr different]
  exact lookup_remove_of_ne table different

theorem nodup_keys_remove {table : Table Key Value} (distinct : (table.map Prod.fst).Nodup) (key : Key) :
    ((table.remove key).map Prod.fst).Nodup := distinct.sublist (List.filter_sublist.map _)

theorem length_remove_le (table : Table Key Value) (key : Key) :
    (table.remove key).length ≤ table.length := List.length_filter_le _ _

/-- Setting a present entry does not lengthen the table. -/
theorem length_insert_of_present {table : Table Key Value} {key : Key} (value : Value)
    (present : table.lookup key ≠ none) : (table.insert key value).length ≤ table.length := by
  obtain ⟨old, found⟩ := Option.ne_none_iff_exists'.mp present
  exact List.length_filter_lt_length_iff_exists.mpr ⟨_, mem_of_lookup found, by simp⟩

theorem length_insert_le (table : Table Key Value) (key : Key) (value : Value) :
    (table.insert key value).length ≤ table.length + 1 := Nat.succ_le_succ (length_remove_le _ _)

theorem mem_insert {table : Table Key Value} {key : Key} {value : Value} {entry : Key × Value}
    (present : entry ∈ table.insert key value) : entry = (key, value) ∨ entry ∈ table :=
  (List.mem_cons.mp present).imp_right fun older => (mem_remove.mp older).1

theorem lookup_isSome {table : Table Key Value} {key : Key} (present : key ∈ table.map Prod.fst) :
    ∃ value, table.lookup key = some value := by
  obtain ⟨entry, among, rfl⟩ := List.mem_map.mp present
  refine Option.ne_none_iff_exists'.mp fun absent => ?_
  have differs := List.lookup_eq_none_iff.mp absent entry among
  rw [bne_self_eq_false] at differs
  cases differs

theorem collectFrom_exists {table : Table Nat Value} (count first : Nat)
    (present : ∀ i, first ≤ i → i < first + count → i ∈ table.map Prod.fst) :
    ∃ values, table.collectFrom count first = some values := by
  induction count generalizing first with
  | zero => exact ⟨[], rfl⟩
  | succ count ih =>
    obtain ⟨value, found⟩ := lookup_isSome (present first le_rfl (by omega))
    obtain ⟨rest, others⟩ := ih (first + 1) fun i least most => present i (by omega) (by omega)
    rw [collectFrom, found]
    dsimp only
    rw [others]
    exact ⟨_, rfl⟩

/-- **A table with as many entries as there are places is complete**: distinct keys below `count`,
`count` of them. -/
theorem collect_exists {table : Table Nat Value} {count : Nat}
    (distinct : (table.map Prod.fst).Nodup) (below : ∀ key ∈ table.map Prod.fst, key < count)
    (full : table.length = count) : ∃ values, table.collect count = some values := by
  refine collectFrom_exists count 0 fun i _ inside => ?_
  have within : (table.map Prod.fst).toFinset ⊆ Finset.range count := fun key among =>
    Finset.mem_range.mpr (below key (List.mem_toFinset.mp among))
  have size : (Finset.range count).card ≤ (table.map Prod.fst).toFinset.card := by
    rw [Finset.card_range, List.toFinset_card_of_nodup distinct, List.length_map, full]
  have all := Finset.eq_of_subset_of_card_le within size
  rw [← List.mem_toFinset, all, Finset.mem_range]
  omega

theorem collectFrom_of_lookup {table : Table Nat Value} {values : List Value} (count first : Nat)
    (whole : first + count = values.length) (stored : ∀ i, i < values.length → table.lookup i = values[i]?) :
    table.collectFrom count first = some (values.drop first) := by
  induction count generalizing first with
  | zero => rw [collectFrom, List.drop_of_length_le (by omega)]
  | succ count ih =>
    have inside : first < values.length := by omega
    rw [collectFrom, stored first inside, List.getElem?_eq_getElem inside]
    dsimp only
    rw [ih (first + 1) (by omega), List.drop_eq_getElem_cons inside]

/-- **A complete table is read back in order**, whatever order it was filled in. -/
theorem collect_of_lookup {table : Table Nat Value} {values : List Value}
    (stored : ∀ i, i < values.length → table.lookup i = values[i]?) :
    table.collect values.length = some values :=
  collectFrom_of_lookup values.length 0 (Nat.zero_add _) stored

end Table

/-! ### Gathering in order -/

section Gather

variable {Value : Type}

/-- The table after the values were stored in order under their positions. -/
def gathered (values : List Value) : Table Nat Value :=
  (values.zipIdx.map fun (value, i) => (i, value)).reverse

theorem keys_gathered (values : List Value) :
    (gathered values).map Prod.fst = (List.range values.length).reverse := by
  rw [gathered, List.map_reverse, List.map_map]
  congr 1
  have swap : (Prod.fst ∘ fun (entry : Value × Nat) => (entry.2, entry.1)) = Prod.snd := rfl
  show values.zipIdx.map (Prod.fst ∘ fun (entry : Value × Nat) => (entry.2, entry.1)) = _
  rw [swap, List.zipIdx_map_snd, List.range_eq_range']

/-- Storing the next value. -/
theorem insert_gathered (values : List Value) (value : Value) :
    (gathered values).insert values.length value = gathered (values ++ [value]) := by
  have absent : values.length ∉ (gathered values).map Prod.fst := by
    rw [keys_gathered]
    simp
  rw [Table.insert, Table.remove_of_absent absent]
  simp [gathered, List.zipIdx_append]

theorem length_gathered (values : List Value) : (gathered values).length = values.length := by
  simp [gathered]

theorem lookup_gathered (values : List Value) (i : Nat) :
    (gathered values).lookup i = values[i]? := by
  induction values using List.reverseRecOn with
  | nil => rfl
  | append_singleton values value ih =>
    rw [← insert_gathered]
    by_cases here : i = values.length
    · subst here
      rw [Table.lookup_insert_self, List.getElem?_concat_length]
    · have absent : values.length ∉ (gathered values).map Prod.fst := by
        rw [keys_gathered]
        simp
      rw [Table.insert, Table.remove_of_absent absent, List.lookup_cons]
      have differs : (i == values.length) = false := beq_eq_false_iff_ne.mpr here
      rw [differs]
      show (gathered values).lookup i = _
      rw [ih, List.getElem?_append]
      split
      · rfl
      · rename_i outside
        rw [List.getElem?_eq_none (Nat.le_of_not_lt outside), eq_comm]
        exact List.getElem?_eq_none (by
          rw [List.length_singleton]
          omega)

/-- The table of all the values is complete. -/
theorem collect_gathered (values : List Value) :
    (gathered values).collect values.length = some values :=
  Table.collect_of_lookup fun i _ => lookup_gathered values i

end Gather

/-! ### Gathering in any order -/

section Arrive

variable {Value : Type} (value : Nat → Value)

/-- The table after the values at some positions were stored, the most recent position first. -/
def arrived (seen : List Nat) : Table Nat Value := seen.map fun i => (i, value i)

@[simp] theorem length_arrived (seen : List Nat) : (arrived value seen).length = seen.length :=
  List.length_map _

theorem keys_arrived (seen : List Nat) : (arrived value seen).map Prod.fst = seen := by
  rw [arrived, List.map_map]
  exact List.map_id seen

/-- Storing the value at one more position. -/
theorem insert_arrived {seen : List Nat} {i : Nat} (fresh : i ∉ seen) :
    (arrived value seen).insert i (value i) = arrived value (i :: seen) := by
  rw [Table.insert, Table.remove_of_absent (by rwa [keys_arrived])]
  rfl

theorem lookup_arrived {seen : List Nat} (distinct : seen.Nodup) {i : Nat} (present : i ∈ seen) :
    (arrived value seen).lookup i = some (value i) := by
  have entry : (i, value i) ∈ arrived value seen := List.mem_map.mpr ⟨i, present, rfl⟩
  exact Table.lookup_of_mem (by rwa [keys_arrived]) entry

/-- Distinct positions below `count`, `count` of them, are all positions. -/
theorem mem_of_complete {seen : List Nat} {count : Nat} (distinct : seen.Nodup)
    (below : ∀ i ∈ seen, i < count) (complete : seen.length = count) {i : Nat} (inside : i < count) :
    i ∈ seen := by
  have among : seen ⊆ List.range count := fun j present => List.mem_range.mpr (below j present)
  have all := (List.subperm_of_subset distinct among).perm_of_length_le (by
    rw [List.length_range, complete])
  exact all.mem_iff.mpr (List.mem_range.mpr inside)

/-- **A complete table is read back in order**, whatever order the positions came in. -/
theorem collect_arrived {seen : List Nat} {values : List Value} (distinct : seen.Nodup)
    (below : ∀ i ∈ seen, i < values.length) (complete : seen.length = values.length)
    (agrees : ∀ i, i < values.length → values[i]? = some (value i)) :
    (arrived value seen).collect values.length = some values := by
  refine Table.collect_of_lookup fun i inside => ?_
  rw [lookup_arrived value distinct (mem_of_complete distinct below complete inside), agrees i inside]

end Arrive

end Library
