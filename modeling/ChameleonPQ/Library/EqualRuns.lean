/-
**Runs of equal key, and blocks of one size.**

* `equalRuns` — a list cut into its maximal runs of one key, each with its key; `equalRuns_flatten`.
* `exists_run_of_infix` — a block of one key lies inside one run.
* `Strided` — blocks of one size, the last one possibly shorter; `chunks_strided` cuts their
  concatenation back into them.
-/

import ChameleonPQ.Library.Chunks

namespace Library

section Runs

variable {Item Key : Type} [DecidableEq Key] (key : Item → Key)

/-- The maximal runs of one key, for lists of at most `fuel` items. -/
def equalRunsFrom : Nat → List Item → List (List Item × Key)
  | 0, _ => []
  | _ + 1, [] => []
  | fuel + 1, first :: rest =>
    (first :: rest.takeWhile fun item => key item = key first, key first) ::
      equalRunsFrom fuel (rest.dropWhile fun item => key item = key first)

/-- The maximal runs of one key, each with its key. -/
def equalRuns (items : List Item) : List (List Item × Key) := equalRunsFrom key items.length items

variable {key} {fuel : Nat} {items : List Item} {run : List Item × Key}

/-- What is left after the first run is shorter. -/
theorem length_dropWhile_lt (first : Item) (rest : List Item) (enough : (first :: rest).length ≤ fuel + 1) :
    (rest.dropWhile fun item => key item = key first).length ≤ fuel :=
  (List.dropWhile_suffix _).length_le.trans (Nat.le_of_succ_le_succ enough)

theorem equalRunsFrom_flatten (enough : items.length ≤ fuel) :
    ((equalRunsFrom key fuel items).map Prod.fst).flatten = items := by
  induction fuel generalizing items with
  | zero =>
    rw [List.eq_nil_of_length_eq_zero (Nat.le_zero.mp enough)]
    rfl
  | succ fuel ih =>
    cases items with
    | nil => rfl
    | cons first rest =>
      rw [equalRunsFrom, List.map_cons, List.flatten_cons, ih (length_dropWhile_lt first rest enough),
        List.cons_append, List.takeWhile_append_dropWhile]

/-- **The runs make up the list.** -/
theorem equalRuns_flatten (items : List Item) : ((equalRuns key items).map Prod.fst).flatten = items :=
  equalRunsFrom_flatten (Nat.le_refl _)

/-- A run is not empty, and has one key. -/
theorem of_mem_equalRunsFrom (present : run ∈ equalRunsFrom key fuel items) :
    run.1 ≠ [] ∧ ∀ item ∈ run.1, key item = run.2 := by
  induction fuel generalizing items with
  | zero => cases present
  | succ fuel ih =>
    cases items with
    | nil => cases present
    | cons first rest =>
      rcases List.mem_cons.mp present with rfl | later
      · refine ⟨List.cons_ne_nil _ _, List.forall_mem_cons.mpr ⟨rfl, fun item among => ?_⟩⟩
        exact of_decide_eq_true (List.all_eq_true.mp List.all_takeWhile item among)
      · exact ih later

/-- A run is a block of the list. -/
theorem infix_of_mem_equalRunsFrom (present : run ∈ equalRunsFrom key fuel items) :
    run.1 <:+: items := by
  induction fuel generalizing items with
  | zero => cases present
  | succ fuel ih =>
    cases items with
    | nil => cases present
    | cons first rest =>
      rcases List.mem_cons.mp present with rfl | later
      · exact (List.cons_prefix_cons.mpr ⟨rfl, List.takeWhile_prefix _⟩).isInfix
      · exact (ih later).trans ((List.dropWhile_suffix _).isInfix.trans (List.suffix_cons _ _).isInfix)

/-- **A block of one key lies inside one run**: it does not reach over the end of the run it starts in,
where the key changes. -/
theorem exists_run_of_infix {block : List Item} (nonempty : block ≠ [])
    (same : ∀ first ∈ block, ∀ second ∈ block, key first = key second) (enough : items.length ≤ fuel)
    (inside : block <:+: items) : ∃ run ∈ equalRunsFrom key fuel items, block <:+: run.1 := by
  induction fuel generalizing items with
  | zero =>
    rw [List.eq_nil_of_length_eq_zero (Nat.le_zero.mp enough)] at inside
    exact absurd (List.infix_nil.mp inside) nonempty
  | succ fuel ih =>
    cases items with
    | nil => exact absurd (List.infix_nil.mp inside) nonempty
    | cons first rest =>
      have split : first :: rest = (first :: rest.takeWhile fun item => key item = key first) ++
          rest.dropWhile fun item => key item = key first := by
        rw [List.cons_append, List.takeWhile_append_dropWhile]
      rw [split, List.infix_append_iff_ne_nil] at inside
      rcases inside with here | later | ⟨front, back, frontNonempty, backNonempty, rfl, ends, starts⟩
      · exact ⟨_, List.mem_cons_self, here⟩
      · obtain ⟨run, present, among⟩ := ih (length_dropWhile_lt first rest enough) later
        exact ⟨run, List.mem_cons_of_mem _ present, among⟩
      · -- the block would hold an item of the run and the first one after it
        obtain ⟨old, oldAmong⟩ := List.exists_mem_of_ne_nil front frontNonempty
        have oldKey : key old = key first := by
          rcases List.mem_cons.mp (ends.subset oldAmong) with rfl | among
          · rfl
          · exact of_decide_eq_true (List.all_eq_true.mp List.all_takeWhile old among)
        obtain ⟨new, more, rfl⟩ := List.exists_cons_of_ne_nil backNonempty
        obtain ⟨rest', tail⟩ := starts
        have head := List.head?_dropWhile_not (fun item => decide (key item = key first)) rest
        rw [← tail] at head
        have newKey : key new ≠ key first := by simpa using head
        exact absurd ((same new (by simp) old (by simp [oldAmong])).trans oldKey) newKey

end Runs

/-! ### Blocks of one size -/

section Strided

variable {Item : Type} {size : Nat}

/-- Blocks of one size; the last one may be shorter, and is not empty. -/
def Strided (size : Nat) : List (List Item) → Prop
  | [] => True
  | [block] => 0 < block.length ∧ block.length ≤ size
  | block :: next :: rest => block.length = size ∧ Strided size (next :: rest)

theorem Strided.positive {block : List Item} {rest : List (List Item)}
    (strided : Strided size (block :: rest)) : 0 < size := by
  induction rest generalizing block with
  | nil => exact strided.1.trans_le strided.2
  | cons next rest ih => exact ih strided.2

/-- Blocks of exactly one size. -/
theorem strided_of_length {blocks : List (List Item)} (positive : 0 < size)
    (same : ∀ block ∈ blocks, block.length = size) : Strided size blocks := by
  induction blocks with
  | nil => trivial
  | cons block rest ih =>
    obtain ⟨here, later⟩ := List.forall_mem_cons.mp same
    cases rest with
    | nil => exact ⟨here ▸ positive, here.le⟩
    | cons next rest => exact ⟨here, ih later⟩

theorem chunksFrom_strided {blocks : List (List Item)} (strided : Strided size blocks) {fuel : Nat}
    (enough : blocks.flatten.length ≤ fuel) : chunksFrom size fuel blocks.flatten = blocks := by
  induction blocks generalizing fuel with
  | nil => cases fuel <;> rfl
  | cons block rest ih =>
    have full : block ≠ [] ∧ (block ++ rest.flatten).take size = block ∧
        (block ++ rest.flatten).drop size = rest.flatten ∧ Strided size rest := by
      have positive := strided.positive
      cases rest with
      | nil =>
        rw [List.flatten_nil, List.append_nil, List.take_of_length_le strided.2,
          List.drop_of_length_le strided.2]
        exact ⟨List.ne_nil_of_length_pos strided.1, rfl, rfl, trivial⟩
      | cons next rest =>
        exact ⟨List.ne_nil_of_length_pos (strided.1 ▸ positive), List.take_left' strided.1,
          List.drop_left' strided.1, strided.2⟩
    obtain ⟨nonempty, front, back, later⟩ := full
    obtain ⟨item, items, rfl⟩ := List.exists_cons_of_ne_nil nonempty
    rw [List.flatten_cons] at enough ⊢
    rw [List.length_append, List.length_cons] at enough
    cases fuel with
    | zero => omega
    | succ fuel =>
      rw [List.cons_append] at front back ⊢
      rw [chunksFrom, front, back, ih later (by omega)]
      exact List.cons_ne_nil _ _

/-- **The blocks are cut back out of their concatenation.** -/
theorem chunks_strided {blocks : List (List Item)} (strided : Strided size blocks) :
    chunks size blocks.flatten = blocks := chunksFrom_strided strided (Nat.le_refl _)

/-- A chunk is a block of the string. -/
theorem infix_of_mem_chunksFrom {fuel : Nat} {items chunk : List Item}
    (present : chunk ∈ chunksFrom size fuel items) : chunk <:+: items := by
  induction fuel generalizing items with
  | zero => cases present
  | succ fuel ih =>
    cases items with
    | nil => cases present
    | cons item rest =>
      rw [chunksFrom] at present
      · rcases List.mem_cons.mp present with rfl | later
        · exact (List.take_prefix _ _).isInfix
        · exact (ih later).trans (List.drop_suffix _ _).isInfix
      · exact List.cons_ne_nil item rest

/-- Chunks of one item. -/
theorem chunks_one (items : List Item) : chunks 1 items = items.map fun item => [item] := by
  unfold chunks
  induction items with
  | nil => rfl
  | cons item rest ih => simp [chunksFrom, ih]

theorem ne_nil_of_mem_chunksFrom (positive : 0 < size) {fuel : Nat} {items chunk : List Item}
    (present : chunk ∈ chunksFrom size fuel items) : chunk ≠ [] := by
  induction fuel generalizing items with
  | zero => cases present
  | succ fuel ih =>
    cases items with
    | nil => cases present
    | cons item rest =>
      rw [chunksFrom] at present
      · rcases List.mem_cons.mp present with rfl | later
        · exact List.ne_nil_of_length_pos (by simp [positive])
        · exact ih later
      · exact List.cons_ne_nil item rest

/-- The first chunk of a string. -/
theorem take_mem_chunks (size : Nat) {items : List Item} (nonempty : items ≠ []) :
    items.take size ∈ chunks size items := by
  cases items with
  | nil => exact absurd rfl nonempty
  | cons item rest => exact List.mem_cons_self

end Strided

end Library
