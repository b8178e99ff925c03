/-
**Tokens held by a pool of tasks.**

Concurrent tasks each hold some tokens; `held` collects them. Replacing one task changes the
collection only by that task's own tokens, so the pool can be split around it (`held_perm`,
`held_set_perm`). `held_spend` is the move of one token out of the pool, and `sum_map_set` counts instead of
collecting.
-/

import Mathlib.Algebra.Order.Ring.Nat
import Mathlib.Data.List.Perm.Basic

namespace Library.TaskPool

variable {Task Token : Type} (tokens : Task → List Token)

/-- Every token held by a task of the pool. -/
def held (tasks : List Task) : List Token := tasks.flatMap tokens

variable {tasks : List Task} {i : Nat} {before : Task}

/-- The pool, split around one task. -/
theorem held_perm (found : tasks[i]? = some before) :
    (held tokens tasks).Perm (tokens before ++ held tokens (tasks.eraseIdx i)) := by
  obtain ⟨inside, here⟩ := List.getElem?_eq_some_iff.mp found
  have split := (List.getElem_cons_eraseIdx_perm inside).symm.flatMap_right tokens
  rwa [here, List.flatMap_cons] at split

/-- Replacing a task replaces its tokens. -/
theorem held_set_perm (found : tasks[i]? = some before) (after : Task) :
    (held tokens (tasks.set i after)).Perm (tokens after ++ held tokens (tasks.eraseIdx i)) := by
  obtain ⟨inside, -⟩ := List.getElem?_eq_some_iff.mp found
  exact (List.set_perm_cons_eraseIdx inside after).flatMap_right tokens

/-- A task that keeps its tokens keeps the pool. -/
theorem held_set_same (found : tasks[i]? = some before) {after : Task}
    (same : tokens after = tokens before) :
    (held tokens (tasks.set i after)).Perm (held tokens tasks) := by
  have replaced := held_set_perm tokens found after
  rw [same] at replaced
  exact replaced.trans (held_perm tokens found).symm

/-- A task that holds nothing joins without changing the pool. -/
theorem held_join {task : Task} (empty : tokens task = []) :
    held tokens (tasks ++ [task]) = held tokens tasks := by
  rw [held, List.flatMap_append, List.flatMap_singleton, empty, List.append_nil]
  rfl

/-- A task that gains tokens adds them to the pool. -/
theorem held_gain (found : tasks[i]? = some before) {after : Task} {gained : List Token}
    (gains : tokens after = gained ++ tokens before) :
    (held tokens (tasks.set i after)).Perm (gained ++ held tokens tasks) := by
  have replaced := held_set_perm tokens found after
  rw [gains, List.append_assoc] at replaced
  exact replaced.trans (((held_perm tokens found).symm).append_left gained)

/-- **Spending one token**: it leaves the pool and joins the spent ones. -/
theorem held_spend (found : tasks[i]? = some before) {after : Task} {token : Token}
    (spends : (tokens before).Perm (token :: tokens after)) (spent : List Token) :
    (held tokens (tasks.set i after) ++ token :: spent).Perm (held tokens tasks ++ spent) := by
  have old : (held tokens tasks).Perm (token :: held tokens (tasks.set i after)) :=
    (held_perm tokens found).trans ((spends.append_right _).trans
      ((held_set_perm tokens found after).symm.cons token))
  exact List.perm_middle.trans (old.symm.append_right spent)

/-- A task that drops its tokens leaves the rest of the pool. -/
theorem held_drop_sublist (found : tasks[i]? = some before) {after : Task} (empty : tokens after = []) :
    ∃ dropped, (held tokens tasks).Perm (dropped ++ held tokens (tasks.set i after)) := by
  have replaced := held_set_perm tokens found after
  rw [empty, List.nil_append] at replaced
  exact ⟨tokens before, (held_perm tokens found).trans (replaced.symm.append_left _)⟩

/-- Replacing a task replaces its weight. -/
theorem sum_map_set (weight : Task → Nat) (found : tasks[i]? = some before) (after : Task) :
    ((tasks.set i after).map weight).sum + weight before = (tasks.map weight).sum + weight after := by
  obtain ⟨inside, here⟩ := List.getElem?_eq_some_iff.mp found
  have old := ((List.getElem_cons_eraseIdx_perm inside).map weight).sum_nat
  have new := ((List.set_perm_cons_eraseIdx inside after).map weight).sum_nat
  rw [here, List.map_cons, List.sum_cons] at old
  rw [List.map_cons, List.sum_cons] at new
  omega

end Library.TaskPool
