/-
**Concurrent decryption on one session.**

`Session.decrypt` is three atomic steps: the check under the window lock, the AEAD open without it, and
the re-check with the commit under it again. `Workers` is one session with any number of such calls
in flight; a schedule names the call that takes the next step.

* `run_alone` — a call that runs alone is the sequential `decrypt`.
* `Consistent` — the window holds exactly the history and the accepted counters, and no counter was
  accepted twice; `consistent_run` carries it over every schedule.
* `run_inRange` — with authentic, distinct, in-range datagrams every call is where its own step count
  puts it, whatever the others did.
* `concurrent_decrypt` — the three properties together.
-/

import ChameleonPQ.Crypto.Transparent
import ChameleonPQ.Session.Session

namespace ChameleonPQ

open Library Library.SeenWindow

/-- Where one call of `decrypt` stands. -/
inductive DecryptPhase where
  | start
  | checked
  | opened (plain : Bytes)
  | done (result : Result Bytes)

/-- One call of `decrypt` on a datagram. -/
structure DecryptTask where
  counter : Nat
  ciphertext : Bytes
  phase : DecryptPhase

namespace DecryptTask

/-- The call returned a plaintext. -/
def Accepted (task : DecryptTask) : Prop := ∃ plain, task.phase = .done (.ok plain)

/-- One atomic step of a call. -/
def advance (prims : Primitives) (session : Session) (task : DecryptTask) : DecryptTask × Session :=
  match task.phase with
  | .start =>
    match session.checkReplay task.counter with
    | .error e => ({ task with phase := .done (.error e) }, session)
    | .ok () => ({ task with phase := .checked }, session)
  | .checked =>
    match session.openCiphertext prims task.counter task.ciphertext with
    | .error e => ({ task with phase := .done (.error e) }, session)
    | .ok plain => ({ task with phase := .opened plain }, session)
  | .opened plain =>
    match session.recheckCommit task.counter with
    | (.error e, after) => ({ task with phase := .done (.error e) }, after)
    | (.ok (), after) => ({ task with phase := .done (.ok plain) }, after)
  | .done _ => (task, session)

/-- **What one step can do.** It keeps the session and accepts nothing, or it is the commit of an
opened call that passed the re-check. -/
theorem advance_cases (prims : Primitives) (session : Session) (task : DecryptTask) :
    ((task.advance prims session).2 = session ∧
        ((task.advance prims session).1.Accepted ↔ task.Accepted)) ∨
      ∃ plain, task.phase = .opened plain ∧ session.replay.check task.counter = .ok () ∧
        task.advance prims session =
          ({ task with phase := .done (.ok plain) },
            { session with replay := session.replay.commit task.counter }) := by
  obtain ⟨counter, ciphertext, phase⟩ := task
  cases phase with
  | start =>
    left
    cases checked : session.checkReplay counter <;> simp [advance, checked, Accepted]
  | checked =>
    left
    cases opened : session.openCiphertext prims counter ciphertext <;>
      simp [advance, opened, Accepted]
  | opened plain =>
    cases rechecked : session.replay.check counter with
    | error e =>
      left
      simp [advance, Session.recheckCommit, rechecked, Accepted]
    | ok _ =>
      right
      exact ⟨plain, rfl, rfl, by simp [advance, Session.recheckCommit, rechecked]⟩
  | done result =>
    left
    exact ⟨rfl, Iff.rfl⟩

@[simp] theorem advance_counter (prims : Primitives) (session : Session) (task : DecryptTask) :
    (task.advance prims session).1.counter = task.counter := by
  unfold advance
  repeat' split
  all_goals rfl

@[simp] theorem advance_ciphertext (prims : Primitives) (session : Session) (task : DecryptTask) :
    (task.advance prims session).1.ciphertext = task.ciphertext := by
  unfold advance
  repeat' split
  all_goals rfl

/-- Only the open puts a call into the opened phase. -/
theorem advance_opened {prims : Primitives} {session : Session} {task : DecryptTask} {plain : Bytes}
    (opened : (task.advance prims session).1.phase = .opened plain) :
    session.openCiphertext prims task.counter task.ciphertext = .ok plain := by
  obtain ⟨counter, ciphertext, phase⟩ := task
  cases phase with
  | start => cases checked : session.checkReplay counter <;> simp [advance, checked] at opened
  | checked =>
    cases result : session.openCiphertext prims counter ciphertext with
    | error e => simp [advance, result] at opened
    | ok found =>
      simp only [advance, result, DecryptPhase.opened.injEq] at opened
      rw [opened]
  | opened found =>
    cases rechecked : session.replay.check counter <;>
      simp [advance, Session.recheckCommit, rechecked] at opened
  | done result => simp [advance] at opened

end DecryptTask

/-- One session shared by any number of calls of `decrypt`. -/
structure Workers where
  session : Session
  tasks : List DecryptTask

namespace Workers

section Definitions

variable (prims : Primitives)

/-- The call at position `i` takes its next atomic step. -/
def step (workers : Workers) (i : Nat) : Workers :=
  match workers.tasks[i]? with
  | none => workers
  | some task =>
    let advanced := task.advance prims workers.session
    { session := advanced.2, tasks := workers.tasks.set i advanced.1 }

/-- A whole schedule: the calls named in it step in that order. -/
def run (workers : Workers) (schedule : List Nat) : Workers := schedule.foldl (step prims) workers

end Definitions

/-- A session whose window holds the commits of a history, with calls that have not stepped yet. -/
def begin (session : Session) (history : List Nat) (datagrams : List (Nat × Bytes)) : Workers :=
  { session := { session with replay := ReplayWindow.afterHistory history }
    tasks := datagrams.map fun datagram => ⟨datagram.1, datagram.2, .start⟩ }

/-- The counters the calls have accepted so far. -/
def acceptedCounters (workers : Workers) : Set Nat :=
  {counter | ∃ task ∈ workers.tasks, task.Accepted ∧ task.counter = counter}

variable {prims : Primitives}

theorem step_eq {workers : Workers} {i : Nat} {task : DecryptTask}
    (found : workers.tasks[i]? = some task) :
    workers.step prims i =
      { session := (task.advance prims workers.session).2
        tasks := workers.tasks.set i (task.advance prims workers.session).1 } := by
  simp only [step, found]

theorem step_none {workers : Workers} {i : Nat} (absent : workers.tasks[i]? = none) :
    workers.step prims i = workers := by
  simp only [step, absent]

/-- **A call that runs alone is the sequential `decrypt`.** -/
theorem run_alone (session : Session) (counter : Nat) (ciphertext : Bytes) :
    run prims ⟨session, [⟨counter, ciphertext, .start⟩]⟩ [0, 0, 0] =
      ⟨(session.decrypt prims counter ciphertext).2,
        [⟨counter, ciphertext, .done (session.decrypt prims counter ciphertext).1⟩]⟩ := by
  cases checked : session.checkReplay counter with
  | error e => simp [run, step, DecryptTask.advance, Session.decrypt, checked]
  | ok _ =>
    cases opened : session.openCiphertext prims counter ciphertext with
    | error e => simp [run, step, DecryptTask.advance, Session.decrypt, checked, opened]
    | ok plain =>
      cases rechecked : session.recheckCommit counter with
      | mk result after =>
        cases result <;>
          simp [run, step, DecryptTask.advance, Session.decrypt, checked, opened, rechecked]

/-! ### The invariant of every interleaving -/

/-- What every schedule keeps: only the window of the session changes, the window holds the history
and the accepted counters, an opened call has passed its open, and no counter is accepted twice. -/
structure Consistent (prims : Primitives) (session : Session) (history : List Nat)
    (workers : Workers) : Prop where
  static : workers.session = { session with replay := workers.session.replay }
  window : workers.session.replay.Represents ({c | c ∈ history} ∪ workers.acceptedCounters)
  opened : ∀ task ∈ workers.tasks, ∀ plain, task.phase = .opened plain →
    session.openCiphertext prims task.counter task.ciphertext = .ok plain
  fresh : ∀ task ∈ workers.tasks, task.Accepted → task.counter ∉ history
  once : ∀ (i j : Nat) (first second : DecryptTask), workers.tasks[i]? = some first →
    workers.tasks[j]? = some second → first.Accepted → second.Accepted →
      first.counter = second.counter → i = j

theorem consistent_begin (session : Session) (history : List Nat) (datagrams : List (Nat × Bytes)) :
    Consistent prims session history (begin session history datagrams) := by
  have idle : ∀ task ∈ (begin session history datagrams).tasks, task.phase = .start := by
    intro task member
    obtain ⟨datagram, -, rfl⟩ := List.mem_map.mp member
    rfl
  have none : ∀ task ∈ (begin session history datagrams).tasks, ¬ task.Accepted := by
    rintro task member ⟨plain, accepted⟩
    rw [idle task member] at accepted
    cases accepted
  have empty : (begin session history datagrams).acceptedCounters = ∅ :=
    Set.eq_empty_of_forall_notMem fun _ ⟨task, member, accepted, _⟩ => none task member accepted
  refine ⟨rfl, ?_, fun task member plain opened => ?_, fun task member accepted => ?_, ?_⟩
  · rw [empty, Set.union_empty]
    exact ReplayWindow.afterHistory_represents history
  · rw [idle task member] at opened
    cases opened
  · exact absurd accepted (none task member)
  · intro i _ first _ here _ accepted
    exact absurd accepted (none first (List.mem_of_getElem? here))

/-- The calls after one of them was replaced. -/
theorem getElem?_set_cases {tasks : List DecryptTask} {i j : Nat} {after task : DecryptTask}
    (there : (tasks.set i after)[j]? = some task) :
    (j = i ∧ task = after) ∨ (j ≠ i ∧ tasks[j]? = some task) := by
  by_cases same : j = i
  · subst same
    obtain ⟨inside, found⟩ := List.getElem?_eq_some_iff.mp there
    rw [List.getElem_set_self] at found
    exact Or.inl ⟨rfl, found.symm⟩
  · rw [List.getElem?_set_ne (Ne.symm same)] at there
    exact Or.inr ⟨same, there⟩

/-- Replacing a call by one that keeps its acceptance: the accepted counters gain only its own. -/
theorem acceptedCounters_set {workers : Workers} {i : Nat} {before after : DecryptTask}
    (session : Session) (found : workers.tasks[i]? = some before)
    (kept : before.Accepted → after.Accepted ∧ after.counter = before.counter) :
    acceptedCounters ⟨session, workers.tasks.set i after⟩ =
      {counter | after.Accepted ∧ after.counter = counter} ∪ workers.acceptedCounters := by
  obtain ⟨inside, here⟩ := List.getElem?_eq_some_iff.mp found
  ext counter
  constructor
  · rintro ⟨task, member, accepted, same⟩
    rcases List.mem_or_eq_of_mem_set member with old | rfl
    · exact Or.inr ⟨task, old, accepted, same⟩
    · exact Or.inl ⟨accepted, same⟩
  · rintro (⟨accepted, same⟩ | ⟨task, member, accepted, same⟩)
    · exact ⟨after, List.mem_set inside after, accepted, same⟩
    · obtain ⟨j, there⟩ := List.mem_iff_getElem?.mp member
      by_cases here : i = j
      · subst here
        obtain rfl : before = task := Option.some.inj (found.symm.trans there)
        exact ⟨after, List.mem_set inside after, (kept accepted).1, (kept accepted).2.trans same⟩
      · refine ⟨task, List.mem_iff_getElem?.mpr ⟨j, ?_⟩, accepted, same⟩
        rw [List.getElem?_set_ne here]
        exact there

/-- An opened call has passed its open, also after a step. -/
theorem opened_step {session : Session} {history : List Nat} {workers : Workers}
    (consistent : Consistent prims session history workers) (i : Nat) (task : DecryptTask) :
    ∀ other ∈ workers.tasks.set i (task.advance prims workers.session).1, ∀ plain,
      other.phase = .opened plain →
        session.openCiphertext prims other.counter other.ciphertext = .ok plain := by
  intro other member plain opened
  rcases List.mem_or_eq_of_mem_set member with old | rfl
  · exact consistent.opened other old plain opened
  · have result := DecryptTask.advance_opened opened
    rw [consistent.static] at result
    rw [DecryptTask.advance_counter, DecryptTask.advance_ciphertext]
    exact result

/-- **Every step keeps the invariant.** The commit of an opened call passed the re-check, so its
counter is new both to the history and to the calls accepted before it. -/
theorem consistent_step {session : Session} {history : List Nat} {workers : Workers}
    (consistent : Consistent prims session history workers) (i : Nat) :
    Consistent prims session history (workers.step prims i) := by
  cases found : workers.tasks[i]? with
  | none => rwa [step_none found]
  | some task =>
    have opened := opened_step consistent i task
    rw [step_eq found]
    have taskMember : task ∈ workers.tasks := List.mem_of_getElem? found
    rcases DecryptTask.advance_cases prims workers.session task with
      ⟨sameSession, sameAccepted⟩ | ⟨plain, phase, checked, advanced⟩
    · -- nothing new is accepted
      have kept : acceptedCounters ⟨workers.session,
          workers.tasks.set i (task.advance prims workers.session).1⟩ =
            workers.acceptedCounters := by
        rw [acceptedCounters_set workers.session found
          fun accepted => ⟨sameAccepted.mpr accepted, DecryptTask.advance_counter _ _ _⟩]
        refine Set.union_eq_self_of_subset_left ?_
        rintro counter ⟨accepted, same⟩
        rw [DecryptTask.advance_counter] at same
        exact ⟨task, taskMember, sameAccepted.mp accepted, same⟩
      have origin : ∀ (j : Nat) (other : DecryptTask),
          (workers.tasks.set i (task.advance prims workers.session).1)[j]? = some other →
            other.Accepted → ∃ old, workers.tasks[j]? = some old ∧ old.Accepted ∧
              old.counter = other.counter := by
        intro j other there accepted
        rcases getElem?_set_cases there with ⟨rfl, rfl⟩ | ⟨-, old⟩
        · exact ⟨task, found, sameAccepted.mp accepted, (DecryptTask.advance_counter _ _ _).symm⟩
        · exact ⟨other, old, accepted, rfl⟩
      rw [sameSession]
      refine ⟨consistent.static, ?_, opened, fun other member accepted => ?_, ?_⟩
      · rw [kept]
        exact consistent.window
      · obtain ⟨j, there⟩ := List.mem_iff_getElem?.mp member
        obtain ⟨old, here, oldAccepted, same⟩ := origin j other there accepted
        rw [← same]
        exact consistent.fresh old (List.mem_of_getElem? here) oldAccepted
      · intro j k first second firstThere secondThere firstAccepted secondAccepted same
        obtain ⟨_, firstOld, firstWas, firstSame⟩ := origin j first firstThere firstAccepted
        obtain ⟨_, secondOld, secondWas, secondSame⟩ := origin k second secondThere secondAccepted
        exact consistent.once j k _ _ firstOld secondOld firstWas secondWas
          (firstSame.trans (same.trans secondSame.symm))
    · -- the commit of `task`
      have new : task.counter ∉ {c | c ∈ history} ∪ workers.acceptedCounters :=
        ((ReplayWindow.check_eq_ok_iff consistent.window task.counter).mp checked).1
      have rejected : ¬ task.Accepted := by
        rintro ⟨result, accepted⟩
        rw [phase] at accepted
        cases accepted
      rw [advanced] at opened ⊢
      refine ⟨?_, ?_, opened, fun other member accepted => ?_, ?_⟩
      · rw [consistent.static]
      · rw [acceptedCounters_set _ found fun accepted => absurd accepted rejected]
        have gained : {counter | DecryptTask.Accepted ⟨task.counter, task.ciphertext,
            .done (.ok plain)⟩ ∧ task.counter = counter} = {task.counter} := by
          ext counter
          exact ⟨fun ⟨_, same⟩ => same.symm, fun same => ⟨⟨plain, rfl⟩, same.symm⟩⟩
        rw [gained, Set.union_left_comm, Set.singleton_union]
        exact ReplayWindow.commit_represents consistent.window task.counter
      · rcases List.mem_or_eq_of_mem_set member with old | rfl
        · exact consistent.fresh other old accepted
        · exact fun seen => new (Or.inl seen)
      · -- another accepted call with this counter would have been seen by the re-check
        have other : ∀ (j : Nat) (second : DecryptTask), workers.tasks[j]? = some second →
            second.Accepted → task.counter ≠ second.counter :=
          fun j second there accepted same =>
            new (Or.inr ⟨second, List.mem_of_getElem? there, accepted, same.symm⟩)
        intro j k first second firstThere secondThere firstAccepted secondAccepted same
        rcases getElem?_set_cases firstThere with ⟨rfl, rfl⟩ | ⟨-, firstOld⟩
        · rcases getElem?_set_cases secondThere with ⟨rfl, rfl⟩ | ⟨-, secondOld⟩
          · rfl
          · exact absurd same (other k second secondOld secondAccepted)
        · rcases getElem?_set_cases secondThere with ⟨rfl, rfl⟩ | ⟨-, secondOld⟩
          · exact absurd same.symm (other j first firstOld firstAccepted)
          · exact consistent.once j k first second firstOld secondOld firstAccepted
              secondAccepted same

/-- **The invariant holds after every schedule.** -/
theorem consistent_run {session : Session} {history : List Nat} {workers : Workers}
    (consistent : Consistent prims session history workers) (schedule : List Nat) :
    Consistent prims session history (workers.run prims schedule) := by
  induction schedule generalizing workers with
  | nil => exact consistent
  | cons i rest ih => exact ih (consistent_step consistent i)

/-- **A step of a call whose open fails leaves the session as it is.** -/
theorem step_of_open_fails {session : Session} {history : List Nat} {workers : Workers}
    (consistent : Consistent prims session history workers) {i : Nat} {task : DecryptTask}
    (found : workers.tasks[i]? = some task)
    (fails : ∀ plain, session.openCiphertext prims task.counter task.ciphertext ≠ .ok plain) :
    (workers.step prims i).session = workers.session := by
  rw [step_eq found]
  rcases DecryptTask.advance_cases prims workers.session task with
    ⟨sameSession, -⟩ | ⟨plain, phase, -, -⟩
  · exact sameSession
  · have result := consistent.opened task (List.mem_of_getElem? found) plain phase
    exact absurd result (fails plain)

/-! ### Authentic, distinct, in-range datagrams -/

/-- Where a call on an authentic datagram stands after `steps` own steps, if nothing rejects it. -/
def phaseAfter (plain : Bytes) : Nat → DecryptPhase
  | 0 => .start
  | 1 => .checked
  | 2 => .opened plain
  | _ + 3 => .done (.ok plain)

/-- The premises on a set of datagrams: all authentic, counters distinct and not accepted before,
and each fewer than `2048` below the highest counter of the set and of the history. -/
structure InRange (prims : Primitives) (session : Session) (history : List Nat)
    (datagrams : List (Nat × Bytes)) : Prop where
  authentic : ∀ datagram ∈ datagrams, ∃ plain,
    session.openCiphertext prims datagram.1 datagram.2 = .ok plain
  distinct : (datagrams.map Prod.fst).Nodup
  fresh : ∀ datagram ∈ datagrams, datagram.1 ∉ history
  near : ∀ datagram ∈ datagrams,
    ReplayWindow.highestOf (history ++ datagrams.map Prod.fst) - datagram.1 < 2048

/-- Where every call stands, from the number of its own steps; the window holds the history and the
counters of the calls that took all three. -/
structure OnTrack (prims : Primitives) (session : Session) (history : List Nat)
    (datagrams : List (Nat × Bytes)) (steps : Nat → Nat) (workers : Workers) : Prop where
  static : workers.session = { session with replay := workers.session.replay }
  window : workers.session.replay.Represents
    ({c | c ∈ history} ∪ {c | ∃ i ct, datagrams[i]? = some (c, ct) ∧ 3 ≤ steps i})
  length : workers.tasks.length = datagrams.length
  tasks : ∀ (i counter : Nat) (ciphertext plain : Bytes), datagrams[i]? = some (counter, ciphertext) →
    session.openCiphertext prims counter ciphertext = .ok plain →
      workers.tasks[i]? = some ⟨counter, ciphertext, phaseAfter plain (steps i)⟩

/-- **The window accepts the counter of a call that has not committed**, if the history does not hold
it and nothing in the window is `2048` or more above it. -/
theorem OnTrack.check_of_near {session : Session} {history : List Nat} {datagrams : List (Nat × Bytes)}
    {steps : Nat → Nat} {workers : Workers}
    (onTrack : OnTrack prims session history datagrams steps workers)
    (distinct : (datagrams.map Prod.fst).Nodup) {i counter : Nat} {ciphertext : Bytes}
    (here : datagrams[i]? = some (counter, ciphertext)) (pending : steps i < 3)
    (fresh : counter ∉ history) (nearHistory : ∀ other ∈ history, other < counter + windowBits)
    (nearOthers : ∀ (j other : Nat) (ct : Bytes), datagrams[j]? = some (other, ct) → 3 ≤ steps j →
      other < counter + windowBits) :
    workers.session.replay.check counter = .ok () := by
  have counters : (datagrams.map Prod.fst)[i]? = some counter := by
    rw [List.getElem?_map, here]
    rfl
  rw [ReplayWindow.check_eq_ok_iff onTrack.window]
  refine ⟨?_, fun other seen => ?_⟩
  · rintro (old | ⟨j, ct, there, finished⟩)
    · exact fresh old
    · -- a call that committed this counter would be this very call
      have same : i = j := by
        refine (List.getElem?_inj (List.getElem?_eq_some_iff.mp counters).1 distinct).mp ?_
        rw [counters, List.getElem?_map, there]
        rfl
      rw [← same] at finished
      exact absurd pending (Nat.not_lt.mpr finished)
  · rcases seen with old | ⟨j, ct, there, finished⟩
    · exact nearHistory other old
    · exact nearOthers j other ct there finished

/-- **Authentic in-range traffic does not close the window**: while a call of the set has not
committed, the window accepts its counter. -/
theorem OnTrack.check {session : Session} {history : List Nat} {datagrams : List (Nat × Bytes)}
    {steps : Nat → Nat} {workers : Workers}
    (onTrack : OnTrack prims session history datagrams steps workers)
    (inRange : InRange prims session history datagrams) {i counter : Nat} {ciphertext : Bytes}
    (here : datagrams[i]? = some (counter, ciphertext)) (pending : steps i < 3) :
    workers.session.replay.check counter = .ok () := by
  have member : (counter, ciphertext) ∈ datagrams := List.mem_of_getElem? here
  have near : ∀ other ∈ history ++ datagrams.map Prod.fst, other < counter + windowBits := by
    intro other listed
    have below : other ≤ ReplayWindow.highestOf (history ++ datagrams.map Prod.fst) :=
      (ReplayWindow.highestOf_isGreatest (List.ne_nil_of_mem listed)).2 listed
    have near := inRange.near _ member
    rw [windowBits]
    omega
  apply onTrack.check_of_near inRange.distinct here pending (inRange.fresh _ member)
  · exact fun other old => near other (List.mem_append_left _ old)
  · exact fun j other ct there _ => near other
      (List.mem_append_right _ (List.mem_map.mpr ⟨_, List.mem_of_getElem? there, rfl⟩))

theorem onTrack_begin {session : Session} {history : List Nat} {datagrams : List (Nat × Bytes)} :
    OnTrack prims session history datagrams (fun _ => 0) (begin session history datagrams) where
  static := rfl
  window := by
    have none : {c | ∃ (i : Nat) (ct : Bytes), datagrams[i]? = some (c, ct) ∧ 3 ≤ 0} = ∅ :=
      Set.eq_empty_of_forall_notMem fun _ ⟨_, _, _, impossible⟩ => absurd impossible (by decide)
    rw [none, Set.union_empty]
    exact ReplayWindow.afterHistory_represents history
  length := List.length_map _
  tasks := fun i counter ciphertext plain here _ => by
    show (datagrams.map _)[i]? = _
    rw [List.getElem?_map, here]
    rfl

/-- Only the commit of call `i` changes the set of finished calls. -/
theorem finished_update {datagrams : List (Nat × Bytes)} {steps : Nat → Nat} {i counter : Nat}
    {ciphertext : Bytes} (here : datagrams[i]? = some (counter, ciphertext)) :
    {c | ∃ j ct, datagrams[j]? = some (c, ct) ∧ 3 ≤ Function.update steps i (steps i + 1) j} =
      {c | c = counter ∧ 2 ≤ steps i} ∪ {c | ∃ j ct, datagrams[j]? = some (c, ct) ∧ 3 ≤ steps j} := by
  ext c
  constructor
  · rintro ⟨j, ct, there, finished⟩
    by_cases same : j = i
    · subst same
      rw [Function.update_self] at finished
      obtain ⟨rfl, -⟩ := Prod.mk.inj (Option.some.inj (there.symm.trans here))
      exact Or.inl ⟨rfl, Nat.le_of_succ_le_succ finished⟩
    · rw [Function.update_of_ne same] at finished
      exact Or.inr ⟨j, ct, there, finished⟩
  · rintro (⟨rfl, two⟩ | ⟨j, ct, there, finished⟩)
    · exact ⟨i, ciphertext, here, by rw [Function.update_self]; exact Nat.succ_le_succ two⟩
    · refine ⟨j, ct, there, ?_⟩
      by_cases same : j = i
      · subst same
        rw [Function.update_self]
        exact finished.trans (Nat.le_succ _)
      · rwa [Function.update_of_ne same]

/-- A call takes its next step: the check, the open and the re-check all succeed. -/
theorem OnTrack.advance {session : Session} {history : List Nat} {datagrams : List (Nat × Bytes)}
    {steps : Nat → Nat} {workers : Workers}
    (onTrack : OnTrack prims session history datagrams steps workers)
    {i counter : Nat} {ciphertext plain : Bytes}
    (check : steps i < 3 → workers.session.replay.check counter = .ok ())
    (opens : session.openCiphertext prims counter ciphertext = .ok plain) :
    DecryptTask.advance prims workers.session ⟨counter, ciphertext, phaseAfter plain (steps i)⟩ =
      (⟨counter, ciphertext, phaseAfter plain (steps i + 1)⟩,
        if steps i = 2 then
          { workers.session with replay := workers.session.replay.commit counter }
        else workers.session) := by
  match count : steps i with
  | 0 =>
    have checked : workers.session.checkReplay counter = .ok () := check (by omega)
    simp [DecryptTask.advance, phaseAfter, checked]
  | 1 =>
    have opened : workers.session.openCiphertext prims counter ciphertext = .ok plain := by
      rw [onTrack.static]
      exact opens
    simp [DecryptTask.advance, phaseAfter, opened]
  | 2 =>
    have rechecked := check (by omega)
    simp [DecryptTask.advance, phaseAfter, Session.recheckCommit, rechecked]
  | later + 3 => simp [DecryptTask.advance, phaseAfter]

/-- **One step keeps every call on track**, if the window accepts the counter of the call that takes
it. -/
theorem onTrack_step {session : Session} {history : List Nat} {datagrams : List (Nat × Bytes)}
    {steps : Nat → Nat} {workers : Workers}
    (authentic : ∀ datagram ∈ datagrams, ∃ plain,
      session.openCiphertext prims datagram.1 datagram.2 = .ok plain)
    (onTrack : OnTrack prims session history datagrams steps workers) (i : Nat)
    (check : ∀ (counter : Nat) (ciphertext : Bytes), datagrams[i]? = some (counter, ciphertext) →
      steps i < 3 → workers.session.replay.check counter = .ok ()) :
    OnTrack prims session history datagrams (Function.update steps i (steps i + 1))
      (workers.step prims i) := by
  cases here : datagrams[i]? with
  | none =>
    have absent : workers.tasks[i]? = none := by
      rw [List.getElem?_eq_none_iff] at here ⊢
      rwa [onTrack.length]
    have other : ∀ {j : Nat} {datagram : Nat × Bytes}, datagrams[j]? = some datagram → j ≠ i := by
      rintro j datagram there rfl
      rw [here] at there
      cases there
    rw [step_none absent]
    refine ⟨onTrack.static, ?_, onTrack.length, fun j c ct plain there opens => ?_⟩
    · have same : {c | ∃ j ct, datagrams[j]? = some (c, ct) ∧
          3 ≤ Function.update steps i (steps i + 1) j} =
            {c | ∃ j ct, datagrams[j]? = some (c, ct) ∧ 3 ≤ steps j} := by
        ext c
        refine exists_congr fun j => exists_congr fun ct => and_congr_right fun there => ?_
        rw [Function.update_of_ne (other there)]
      rw [same]
      exact onTrack.window
    · rw [Function.update_of_ne (other there)]
      exact onTrack.tasks j c ct plain there opens
  | some datagram =>
    obtain ⟨counter, ciphertext⟩ := datagram
    obtain ⟨plain, opens⟩ := authentic _ (List.mem_of_getElem? here)
    have found := onTrack.tasks i counter ciphertext plain here opens
    have advanced := onTrack.advance (check counter ciphertext here) opens
    rw [step_eq found, advanced]
    refine ⟨?_, ?_, ?_, fun j c ct other there otherOpens => ?_⟩
    · show (if steps i = 2 then _ else _ : Session) = _
      split
      · rw [onTrack.static]
      · exact onTrack.static
    · rw [finished_update here]
      by_cases second : steps i = 2
      · have gained : {c | c = counter ∧ 2 ≤ steps i} = {counter} := by
          ext c
          exact ⟨And.left, fun same => ⟨same, second.ge⟩⟩
        rw [if_pos second, gained, Set.union_left_comm, Set.singleton_union]
        exact ReplayWindow.commit_represents onTrack.window counter
      · have old : {c | c = counter ∧ 2 ≤ steps i} ⊆
            {c | ∃ j ct, datagrams[j]? = some (c, ct) ∧ 3 ≤ steps j} := by
          rintro c ⟨rfl, two⟩
          exact ⟨i, ciphertext, here, by omega⟩
        rw [if_neg second, Set.union_eq_self_of_subset_left old]
        exact onTrack.window
    · rw [List.length_set]
      exact onTrack.length
    · by_cases same : j = i
      · subst same
        obtain ⟨rfl, rfl⟩ := Prod.mk.inj (Option.some.inj (there.symm.trans here))
        obtain rfl := Except.ok.inj (otherOpens.symm.trans opens)
        rw [List.getElem?_set_self (List.getElem?_eq_some_iff.mp found).1, Function.update_self]
      · rw [List.getElem?_set_ne (Ne.symm same), Function.update_of_ne same]
        exact onTrack.tasks j c ct other there otherOpens

/-- **Every schedule of the set keeps every call on track.** -/
theorem onTrack_run {session : Session} {history : List Nat} {datagrams : List (Nat × Bytes)}
    (inRange : InRange prims session history datagrams) (schedule : List Nat) {steps : Nat → Nat}
    {workers : Workers} (onTrack : OnTrack prims session history datagrams steps workers) :
    OnTrack prims session history datagrams (fun i => steps i + schedule.count i)
      (workers.run prims schedule) := by
  induction schedule generalizing steps workers with
  | nil => exact onTrack
  | cons i rest ih =>
    have next := ih (onTrack_step inRange.authentic onTrack i
      fun counter ciphertext here pending => onTrack.check inRange here pending)
    have same : (fun j => Function.update steps i (steps i + 1) j + rest.count j) =
        fun j => steps j + (i :: rest).count j := by
      funext j
      by_cases here : j = i
      · subst here
        rw [Function.update_self, List.count_cons_self]
        omega
      · rw [Function.update_of_ne here, List.count_cons_of_ne (Ne.symm here)]
    rw [same] at next
    exact next

/-- With authentic, distinct, in-range datagrams every call stands where the number of its own steps
puts it, whatever the other calls did. -/
theorem run_inRange {session : Session} {history : List Nat} {datagrams : List (Nat × Bytes)}
    (inRange : InRange prims session history datagrams) (schedule : List Nat) {i counter : Nat}
    {ciphertext plain : Bytes} (here : datagrams[i]? = some (counter, ciphertext))
    (opens : session.openCiphertext prims counter ciphertext = .ok plain) :
    ((begin session history datagrams).run prims schedule).tasks[i]? =
      some ⟨counter, ciphertext, phaseAfter plain (schedule.count i)⟩ := by
  have final := (onTrack_run inRange schedule onTrack_begin).tasks i counter ciphertext plain here opens
  rwa [Nat.zero_add] at final

/-! ### The three properties -/

/-- **Concurrent replay protection.** For a session with any commit history, any number of concurrent
calls of `decrypt` and every schedule of their atomic steps: no counter is accepted twice, and none
that the history holds; a step of a call whose AEAD open fails leaves the window as it is; and if the
datagrams are authentic with distinct, unseen, in-range counters, every call that has taken its three
steps has returned its plaintext. -/
theorem concurrent_decrypt (prims : Primitives) (session : Session) (history : List Nat)
    (datagrams : List (Nat × Bytes)) (schedule : List Nat) :
    (∀ (i j : Nat) (first second : DecryptTask),
      ((begin session history datagrams).run prims schedule).tasks[i]? = some first →
      ((begin session history datagrams).run prims schedule).tasks[j]? = some second →
      first.Accepted → second.Accepted → first.counter = second.counter →
        i = j ∧ first.counter ∉ history) ∧
    (∀ (i : Nat) (task : DecryptTask),
      ((begin session history datagrams).run prims schedule).tasks[i]? = some task →
      (∀ plain, session.openCiphertext prims task.counter task.ciphertext ≠ .ok plain) →
        (((begin session history datagrams).run prims schedule).step prims i).session.replay =
          ((begin session history datagrams).run prims schedule).session.replay) ∧
    (InRange prims session history datagrams →
      ∀ (i counter : Nat) (ciphertext : Bytes), datagrams[i]? = some (counter, ciphertext) →
        3 ≤ schedule.count i → ∃ plain,
          session.openCiphertext prims counter ciphertext = .ok plain ∧
          ((begin session history datagrams).run prims schedule).tasks[i]? =
            some ⟨counter, ciphertext, .done (.ok plain)⟩) := by
  have consistent : Consistent prims session history
      ((begin session history datagrams).run prims schedule) :=
    consistent_run (consistent_begin session history datagrams) schedule
  refine ⟨fun i j first second here there firstAccepted secondAccepted same => ?_,
    fun i task found fails => ?_, fun inRange i counter ciphertext here enough => ?_⟩
  · exact ⟨consistent.once i j first second here there firstAccepted secondAccepted same,
      consistent.fresh first (List.mem_of_getElem? here) firstAccepted⟩
  · rw [step_of_open_fails consistent found fails]
  · obtain ⟨plain, opens⟩ := inRange.authentic _ (List.mem_of_getElem? here)
    obtain ⟨later, count⟩ := Nat.exists_eq_add_of_le' enough
    have final := run_inRange inRange schedule here opens
    rw [count] at final
    exact ⟨plain, opens, final⟩

/-- The responder's end of a sample session. -/
def sampleSession : Session := .fromHandshakeWithAlgo .transparent 7 (.zero 32) false .aegis256X2

/-- Two datagrams the initiator's end sealed, the later one first. -/
def sampleDatagrams : List (Nat × Bytes) :=
  [5, 3].map fun counter =>
    (counter, ((Session.fromHandshakeWithAlgo .transparent 7 (.zero 32) true
      .aegis256X2).sealWithCounter .transparent counter [1, 2]).toOption.getD [])

theorem concurrent_decrypt_sample : ∀ i < 2, ∃ counter ciphertext plain,
    ((begin sampleSession [4] sampleDatagrams).run .transparent [0, 1, 1, 0, 1, 0]).tasks[i]? =
      some ⟨counter, ciphertext, .done (.ok plain)⟩ := by
  have inRange : InRange .transparent sampleSession [4] sampleDatagrams := by
    refine ⟨fun datagram member => ⟨[1, 2], ?_⟩, by decide +kernel, by decide +kernel,
      by decide +kernel⟩
    have both : ∀ datagram ∈ sampleDatagrams, sampleSession.openCiphertext .transparent datagram.1
        datagram.2 = .ok [1, 2] := by decide +kernel
    exact both datagram member
  have all := (concurrent_decrypt .transparent sampleSession [4] sampleDatagrams
    [0, 1, 1, 0, 1, 0]).2.2 inRange
  intro i inside
  have listed : ∀ i < 2, ∃ datagram, sampleDatagrams[i]? = some datagram := by
    intro i inside
    exact ⟨_, List.getElem?_eq_getElem inside⟩
  have enough : ∀ i < 2, 3 ≤ [0, 1, 1, 0, 1, 0].count i := by decide
  obtain ⟨datagram, here⟩ := listed i inside
  obtain ⟨plain, -, done⟩ := all i datagram.1 datagram.2 here (enough i inside)
  exact ⟨_, _, plain, done⟩

end Workers

end ChameleonPQ
