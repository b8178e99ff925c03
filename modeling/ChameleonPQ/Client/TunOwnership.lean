/-
**Who owns the tun descriptor.**

While every step meets the condition, at most one party at a time may do something native: the supervisor that
is up, the teardown that has waited for it, or nobody.

* `Descriptors` — the descriptor of the service is open, and the client's is that one.
* `Covered` — no supervisor is forgotten: it is the current one, cancelled, or about to be.
* `Control` — who may do something native.
* `invariant_step` — the step lemma; `tun_descriptor_owned` — the run lemma and the property.
-/

import ChameleonPQ.Client.VpnService

namespace ChameleonPQ.VpnService

open Library.Runs

/-! ### Lists -/

section Lists

variable {Item Value : Type} {items : List Item} {index : Nat} {item : Item}

theorem getElem?_set_found (found : items[index]? = some item) (next : Item) :
    (items.set index next)[index]? = some next := by
  obtain ⟨inside, _⟩ := List.getElem?_eq_some_iff.mp found
  exact List.getElem?_set_self inside

/-- What holds of the other items and of the new one holds of all. -/
theorem forall_mem_set {holds : Item → Prop} {next : Item}
    (others : ∀ k other, k ≠ index → items[k]? = some other → holds other) (own : holds next) :
    ∀ other ∈ items.set index next, holds other := by
  intro other mem
  obtain ⟨k, at_k⟩ := List.mem_iff_getElem?.mp mem
  by_cases same : k = index
  · subst same
    obtain ⟨inside, isNext⟩ := List.getElem?_eq_some_iff.mp at_k
    rw [List.getElem_set_self] at isNext
    exact isNext ▸ own
  · rw [List.getElem?_set_ne (Ne.symm same)] at at_k
    exact others k other same at_k

/-- What one item alone contributes. -/
theorem filterMap_eq_toList {value : Item → Option Value} (found : items[index]? = some item)
    (others : ∀ k other, k ≠ index → items[k]? = some other → value other = none) :
    items.filterMap value = (value item).toList := by
  induction items generalizing index with
  | nil => cases found
  | cons head tail ih =>
    cases index with
    | zero =>
      obtain rfl := Option.some.inj found
      have rest : tail.filterMap value = [] := by
        refine List.filterMap_eq_nil_iff.mpr fun other mem => ?_
        obtain ⟨k, at_k⟩ := List.mem_iff_getElem?.mp mem
        exact others (k + 1) other (Nat.succ_ne_zero k) at_k
      rw [List.filterMap_cons, rest]
      cases value head <;> rfl
    | succ index =>
      have first : value head = none := others 0 head (Nat.succ_ne_zero index).symm rfl
      rw [List.filterMap_cons_none first]
      exact ih found fun k other ne at_k => others (k + 1) other (fun same => ne (Nat.succ.inj same)) at_k

end Lists

/-! ### The invariant -/

variable {service after : VpnService} {index : Nat} {job : SuperviseJob} {teardown : Teardown} {ok : Bool}

/-- The descriptors: the service's is open, the client's is that one, and stray tasks read open ones. -/
structure Descriptors (service : VpnService) : Prop where
  pfd : ∀ fd, service.pfd = some fd → fd < service.opened ∧ fd ∉ service.closed
  client : ∀ fd, service.client = some fd → service.pfd = some fd ∧ fd ∉ service.strays
  closed : ∀ fd ∈ service.closed, fd < service.opened
  nodup : service.strays.Nodup
  strays : ∀ fd ∈ service.strays, fd ∉ service.closed

/-- **No supervisor is forgotten**: it has ended, is cancelled, is the current one, or is about to be cancelled
by a teardown. -/
def Covered (service : VpnService) : Prop := ∀ index job, service.jobs[index]? = some job →
  job.stage = .ended ∨ service.isCancelled job = true ∨ service.tunnelJob = some index ∨
    ∃ teardown ∈ service.teardowns, teardown.stage = .queued (some index)

/-- What a supervisor in control finds at a stage. -/
def Owns (service : VpnService) : SuperviseStage → Prop
  | .stopping _ fd | .handshaking fd => service.client = none ∧ service.pfd = some fd ∧ fd ∉ service.strays
  | .starting fd | .attaching fd => service.client = none ∧ service.pfd = some fd
  | .configuring | .establishing | .failing => service.client = none
  | _ => True

/-- A supervisor in control is the current one, or a single teardown waits for it. -/
def Awaited (service : VpnService) (index : Nat) : Prop :=
  (service.Untouched ∧ service.tunnelJob = some index) ∨
    ∃ (c : Nat) (teardown : Teardown), service.teardowns[c]? = some teardown ∧
      (teardown.stage = .queued (some index) ∨ teardown.stage = .joining index) ∧
      ∀ (k : Nat) (other : Teardown), k ≠ c → service.teardowns[k]? = some other → other.stage = .done

/-- A supervisor is in control: the others rest, and no teardown is past waiting for it. -/
structure InControl (service : VpnService) (index : Nat) (job : SuperviseJob) : Prop where
  found : service.jobs[index]? = some job
  owns : service.Owns job.stage
  others : ∀ k other, k ≠ index → service.jobs[k]? = some other → service.Rests other
  awaited : service.Awaited index
  scope : service.scopeCancelled = false
  asked : service.down = false

/-- A teardown is in control: the supervisors rest, and the other teardowns are done. -/
structure TearsDown (service : VpnService) (index : Nat) (teardown : Teardown) : Prop where
  found : service.teardowns[index]? = some teardown
  owns : teardown.stage = .taking ∨ ∃ fd, teardown.stage = .waiting fd ∧ service.client = none ∧
    service.pfd = some fd ∧ fd ∉ service.strays
  jobs : ∀ job ∈ service.jobs, service.Rests job
  others : ∀ (k : Nat) (other : Teardown), k ≠ index → service.teardowns[k]? = some other →
    other.stage = .done
  asked : service.down = false

/-- **Who may do something native.** -/
inductive Control (service : VpnService) : Prop
  /-- Nobody. -/
  | free (nothing : service.NothingNative)
  /-- A supervisor. -/
  | supervised {index : Nat} {job : SuperviseJob} (control : service.InControl index job)
  /-- A teardown. -/
  | torn {index : Nat} {teardown : Teardown} (control : service.TearsDown index teardown)

/-- The invariant. -/
structure Invariant (service : VpnService) : Prop where
  descriptors : service.Descriptors
  covered : service.Covered
  control : service.Control

theorem invariant_new : new.Invariant where
  descriptors := by
    refine ⟨?_, ?_, ?_, List.nodup_nil, ?_⟩
    · intro fd absent
      cases absent
    · intro fd absent
      cases absent
    · intro fd absent
      cases absent
    · intro fd absent
      cases absent
  covered := by
    intro index job absent
    cases absent
  control := by
    refine .free ⟨rfl, ?_, ?_⟩
    · intro job absent
      cases absent
    · intro teardown absent
      cases absent

/-! ### Resting -/

/-- A supervisor that rests has no tunnel. -/
theorem Rests.tunnel_eq_none (rests : service.Rests job) : job.stage.tunnel = none := by
  rcases rests with ended | ⟨suspended, _⟩ | ⟨wary, _⟩
  · rw [ended]
    rfl
  · revert suspended
    cases job.stage <;> simp [SuperviseStage.suspended, SuperviseStage.tunnel]
  · revert wary
    cases job.stage <;> simp [SuperviseStage.wary, SuperviseStage.tunnel]

/-- Being stopped or cancelled, with the scope or alone, puts nobody to work. -/
theorem Rests.mono {other : SuperviseJob} (rests : service.Rests job) (stage : other.stage = job.stage)
    (cancelled : job.cancelled = true → other.cancelled = true)
    (stopped : service.userStopped = true → after.userStopped = true)
    (scope : service.scopeCancelled = true → after.scopeCancelled = true) : after.Rests other := by
  have isCancelled : service.isCancelled job = true → after.isCancelled other = true := by
    unfold VpnService.isCancelled
    rw [Bool.or_eq_true, Bool.or_eq_true]
    exact Or.imp cancelled scope
  unfold Rests
  rw [stage]
  rcases rests with ended | ⟨suspended, either⟩ | ⟨wary, isStopped⟩
  · exact .inl ended
  · exact .inr (.inl ⟨suspended, either.imp isCancelled stopped⟩)
  · exact .inr (.inr ⟨wary, stopped isStopped⟩)

/-- Once the service is stopped, a supervisor that is not about to do anything native rests. -/
theorem rests_of_stopped (stopped : service.userStopped = true)
    (calm : job.stage = .ended ∨ job.stage.suspended = true ∨ job.stage.wary = true) : service.Rests job :=
  calm.imp_right (Or.imp (fun suspended => ⟨suspended, .inr stopped⟩) fun wary => ⟨wary, stopped⟩)

/-- **A supervisor that rests goes on resting**, and its step changes nothing else. -/
theorem rests_step (rests : service.Rests job) (taken : service.supervise index job ok = some after) :
    ∃ stage, after = service.goto index job stage ∧ service.Rests { job with stage } := by
  have resume : ∀ next : SuperviseStage, next.wary = true →
      (service.isCancelled job = true ∨ service.userStopped = true) →
      service.Rests { job with stage := if service.isCancelled job then .ended else next } := by
    intro next wary either
    by_cases cancelled : service.isCancelled job = true
    · rw [if_pos cancelled]
      exact .inl rfl
    · rw [if_neg cancelled]
      exact .inr (.inr ⟨wary, either.resolve_left cancelled⟩)
  obtain ⟨stage, everConnected, cancelled⟩ := job
  rcases rests with ended | ⟨suspended, either⟩ | ⟨wary, stopped⟩
  · obtain rfl : stage = .ended := ended
    cases taken
  · cases stage with
    | queued =>
      obtain rfl := Option.some.inj taken
      exact ⟨_, rfl, resume .checking rfl either⟩
    | polling =>
      obtain rfl := Option.some.inj taken
      exact ⟨_, rfl, resume .monitoring rfl either⟩
    | backoff =>
      obtain rfl := Option.some.inj taken
      exact ⟨_, rfl, resume .checking rfl either⟩
    | _ => cases suspended
  · cases stage with
    | checking =>
      obtain rfl := Option.some.inj taken
      exact ⟨_, rfl, .inl (if_pos stopped)⟩
    | monitoring =>
      obtain rfl := Option.some.inj taken
      cases ok with
      | true => exact ⟨.polling, rfl, .inr (.inl ⟨rfl, .inr stopped⟩)⟩
      | false => exact ⟨.lost, rfl, .inr (.inr ⟨rfl, stopped⟩)⟩
    | lost =>
      obtain rfl := Option.some.inj taken
      exact ⟨_, rfl, .inl (if_pos stopped)⟩
    | _ => cases wary

/-! ### The calls of the system -/

/-- A supervisor after `Job.cancel`, from what it was before. -/
theorem exists_of_cancel {current k : Nat} {other : SuperviseJob}
    (found : (service.cancel current).jobs[k]? = some other) :
    ∃ job, service.jobs[k]? = some job ∧ other.stage = job.stage ∧
      (job.cancelled = true ∨ current = k → other.cancelled = true) := by
  unfold cancel at found
  rw [List.getElem?_modify] at found
  obtain ⟨job, was, rfl⟩ := Option.map_eq_some_iff.mp found
  refine ⟨job, was, ?_, ?_⟩
  · split <;> rfl
  · intro either
    by_cases same : current = k
    · rw [if_pos same]
    · rw [if_neg same]
      exact either.resolve_right same

/-- The rest of the service is as it was. -/
theorem cancelTunnelJob_frame (service : VpnService) :
    service.cancelTunnelJob = { service with jobs := service.cancelTunnelJob.jobs } := by
  obtain ⟨userStopped, tunnelJob⟩ := service
  cases tunnelJob <;> rfl

theorem length_cancelTunnelJob (service : VpnService) :
    service.cancelTunnelJob.jobs.length = service.jobs.length := by
  unfold cancelTunnelJob cancel
  cases service.tunnelJob <;> simp

theorem Descriptors.congr (descriptors : service.Descriptors) (pfd : after.pfd = service.pfd)
    (client : after.client = service.client) (opened : after.opened = service.opened)
    (closed : after.closed = service.closed) (strays : after.strays = service.strays) : after.Descriptors := by
  refine ⟨?_, ?_, ?_, ?_, ?_⟩
  · rw [pfd, opened, closed]
    exact descriptors.pfd
  · rw [client, pfd, strays]
    exact descriptors.client
  · rw [opened, closed]
    exact descriptors.closed
  · rw [strays]
    exact descriptors.nodup
  · rw [strays, closed]
    exact descriptors.strays

theorem Descriptors.cancelTunnelJob (descriptors : service.Descriptors) :
    service.cancelTunnelJob.Descriptors := by
  rw [cancelTunnelJob_frame]
  exact descriptors.congr rfl rfl rfl rfl rfl

/-- A supervisor after `tunnelJob?.cancel()`, from what it was before. -/
theorem exists_of_cancelTunnelJob {k : Nat} {other : SuperviseJob}
    (found : service.cancelTunnelJob.jobs[k]? = some other) :
    ∃ job, service.jobs[k]? = some job ∧ other.stage = job.stage ∧
      (job.cancelled = true ∨ service.tunnelJob = some k → other.cancelled = true) := by
  unfold VpnService.cancelTunnelJob at found
  split at found
  · rename_i current isCurrent
    obtain ⟨job, was, stage, cancels⟩ := exists_of_cancel found
    exact ⟨job, was, stage, fun either => cancels
      (either.imp_right fun same => Option.some.inj (isCurrent.symm.trans same))⟩
  · rename_i nobody
    refine ⟨other, found, rfl, fun either => either.resolve_right fun same => ?_⟩
    rw [nobody] at same
    cases same

/-- The condition under which a tunnel is asked for leaves no other supervisor at work. -/
theorem cancelled_of_covered {k : Nat} {other : SuperviseJob} (covered : service.Covered)
    (untouched : service.Untouched) (scope : service.scopeCancelled = false)
    (found : service.cancelTunnelJob.jobs[k]? = some other) : other.stage = .ended ∨ other.cancelled = true := by
  obtain ⟨job, was, stage, cancels⟩ := exists_of_cancelTunnelJob found
  rcases covered k job was with ended | cancelled | current | ⟨teardown, mem, queued⟩
  · exact .inl (stage.trans ended)
  · rw [isCancelled, scope, Bool.or_false] at cancelled
    exact .inr (cancels (.inl cancelled))
  · exact .inr (cancels (.inr current))
  · rw [untouched teardown mem] at queued
    cases queued

/-- **`startTunnel`** puts a new supervisor in control. -/
theorem Invariant.startTunnel (invariant : service.Invariant) (scope : service.scopeCancelled = false)
    (untouched : service.Untouched)
    (calm : ∀ job ∈ service.jobs, job.stage = .ended ∨ job.stage.suspended = true) :
    (service.startTunnel true).Invariant := by
  have length := length_cancelTunnelJob service
  have sameScope : service.cancelTunnelJob.scopeCancelled = false := by
    rw [cancelTunnelJob_frame]
    exact scope
  have sameTeardowns : service.cancelTunnelJob.teardowns = service.teardowns := by
    rw [cancelTunnelJob_frame]
  have new : (service.startTunnel true).jobs[service.jobs.length]? = some ⟨.queued, false, false⟩ := by
    show (service.cancelTunnelJob.jobs ++ [_])[service.jobs.length]? = _
    rw [← length]
    exact List.getElem?_concat_length
  have old : ∀ k other, k ≠ service.jobs.length → (service.startTunnel true).jobs[k]? = some other →
      service.cancelTunnelJob.jobs[k]? = some other := by
    intro k other ne found
    have inside : k < service.cancelTunnelJob.jobs.length := by
      obtain ⟨inside, _⟩ := List.getElem?_eq_some_iff.mp found
      have total : (service.startTunnel true).jobs.length = service.cancelTunnelJob.jobs.length + 1 :=
        List.length_append
      omega
    exact (List.getElem?_append_left inside).symm.trans found
  have untouchedAfter : (service.startTunnel true).Untouched := by
    show ∀ teardown ∈ service.cancelTunnelJob.teardowns, teardown.stage = .done
    rw [sameTeardowns]
    exact untouched
  refine ⟨invariant.descriptors.cancelTunnelJob.congr rfl rfl rfl rfl rfl, ?_, ?_⟩
  · intro k other found
    by_cases isNew : k = service.jobs.length
    · subst isNew
      exact .inr (.inr (.inl rfl))
    · have cancelled := cancelled_of_covered invariant.covered untouched scope (old k other isNew found)
      refine cancelled.imp_right fun cancelled => .inl ?_
      rw [isCancelled, cancelled, Bool.true_or]
  · refine .supervised ⟨new, trivial, ?_, .inl ⟨untouchedAfter, rfl⟩, sameScope, rfl⟩
    intro k other ne found
    have was := old k other ne found
    obtain ⟨job, before, stage, _⟩ := exists_of_cancelTunnelJob was
    rcases cancelled_of_covered invariant.covered untouched scope was with ended | cancelled
    · exact .inl ended
    · rcases calm job (List.mem_of_getElem? before) with ended | suspended
      · exact .inl (stage.trans ended)
      · refine .inr (.inl ⟨by rw [stage]; exact suspended, .inl ?_⟩)
        rw [isCancelled, cancelled, Bool.true_or]

/-- A teardown in control, or a supervisor that a teardown waits for, leaves a teardown under way. -/
theorem Awaited.current (awaited : service.Awaited index) (untouched : service.Untouched) :
    service.tunnelJob = some index := by
  rcases awaited with ⟨_, current⟩ | ⟨c, teardown, found, waits, _⟩
  · exact current
  · have isDone := untouched teardown (List.mem_of_getElem? found)
    rcases waits with queued | joining
    · rw [isDone] at queued
      cases queued
    · rw [isDone] at joining
      cases joining

/-- A teardown in control is under way. -/
theorem TearsDown.not_untouched (control : service.TearsDown index teardown) : ¬ service.Untouched := by
  intro untouched
  have isDone := untouched teardown (List.mem_of_getElem? control.found)
  rcases control.owns with taking | ⟨fd, waiting, _⟩
  · rw [isDone] at taking
    cases taking
  · rw [isDone] at waiting
    cases waiting

/-- The teardown that waits for a supervisor has no tunnel. -/
theorem Awaited.tunnel_eq_none (awaited : service.Awaited index) :
    ∀ teardown ∈ service.teardowns, teardown.stage.tunnel = none := by
  intro teardown mem
  rcases awaited with ⟨untouched, _⟩ | ⟨c, waiting, found, waits, others⟩
  · rw [untouched teardown mem]
    rfl
  · obtain ⟨k, at_k⟩ := List.mem_iff_getElem?.mp mem
    by_cases same : k = c
    · subst same
      obtain rfl := Option.some.inj (found.symm.trans at_k)
      rcases waits with queued | joining
      · rw [queued]
        rfl
      · rw [joining]
        rfl
    · rw [others k teardown same at_k]
      rfl

/-- The teardowns before a new one are the old ones. -/
theorem done_of_append {added : Teardown} (untouched : service.Untouched) (k : Nat) (other : Teardown)
    (ne : k ≠ service.teardowns.length) (found : (service.teardowns ++ [added])[k]? = some other) :
    other.stage = .done := by
  rcases List.mem_append.mp (List.mem_of_getElem? found) with mem | mem
  · exact untouched other mem
  · obtain ⟨inside, at_k⟩ := List.getElem?_eq_some_iff.mp found
    rw [List.length_append, List.length_singleton] at inside
    have before : k < service.teardowns.length := by omega
    rw [List.getElem_append_left before] at at_k
    exact untouched other (at_k ▸ List.getElem_mem before)

/-- With nothing native left, one more teardown has nothing to do. -/
theorem NothingNative.append {added : Teardown} (nothing : service.NothingNative)
    (stopped : after.userStopped = true) (client : after.client = service.client)
    (jobs : ∀ job ∈ after.jobs, ∃ was ∈ service.jobs, job.stage = was.stage)
    (teardowns : after.teardowns = service.teardowns ++ [added]) (idle : added.stage.tunnel = none) :
    after.NothingNative := by
  obtain ⟨noClient, resting, noTunnel⟩ := nothing
  refine ⟨client.trans noClient, ?_, ?_⟩
  · intro job mem
    obtain ⟨was, wasMem, same⟩ := jobs job mem
    refine rests_of_stopped stopped ?_
    rw [same]
    exact (resting was wasMem).imp_right (Or.imp And.left And.left)
  · intro teardown mem
    rw [teardowns] at mem
    rcases List.mem_append.mp mem with mem | mem
    · exact noTunnel teardown mem
    · obtain rfl := List.mem_singleton.mp mem
      exact idle

theorem Covered.stopTunnel (covered : service.Covered) : service.stopTunnel.Covered := by
  intro k job found
  rcases covered k job found with ended | cancelled | current | ⟨teardown, mem, queued⟩
  · exact .inl ended
  · exact .inr (.inl cancelled)
  · refine .inr (.inr (.inr ⟨_, List.mem_append_right _ (List.mem_singleton_self _), ?_⟩))
    rw [current]
  · exact .inr (.inr (.inr ⟨teardown, List.mem_append_left _ mem, queued⟩))

/-- **`stopTunnel`** leaves its coroutine to wait for the supervisor in control. -/
theorem Invariant.stopTunnel (invariant : service.Invariant)
    (alone : service.Untouched ∨ service.NothingNative) : service.stopTunnel.Invariant := by
  refine ⟨invariant.descriptors.congr rfl rfl rfl rfl rfl, invariant.covered.stopTunnel, ?_⟩
  have free : service.NothingNative → service.stopTunnel.Control := fun nothing =>
    .free (nothing.append rfl rfl (fun job mem => ⟨job, mem, rfl⟩) rfl rfl)
  rcases alone with untouched | nothing
  · cases invariant.control with
    | free nothing => exact free nothing
    | supervised control =>
      refine .supervised ⟨control.found, control.owns, fun k other ne at_k => ?_,
        .inr ⟨service.teardowns.length, _, List.getElem?_concat_length, .inl ?_, ?_⟩, control.scope,
        control.asked⟩
      · exact (control.others k other ne at_k).mono rfl id (fun _ => rfl) id
      · rw [control.awaited.current untouched]
      · exact done_of_append untouched
    | torn control => exact absurd untouched control.not_untouched
  · exact free nothing

/-- **`teardownSync`** puts its teardown in control. -/
theorem Invariant.teardownSync (invariant : service.Invariant) (kind : TeardownKind)
    (alone : (service.Untouched ∧ ∀ job ∈ service.jobs,
      job.stage = .ended ∨ job.stage.suspended = true ∨ job.stage.wary = true) ∨ service.NothingNative) :
    (service.teardownSync kind).Invariant := by
  have sameScope : service.cancelTunnelJob.scopeCancelled = service.scopeCancelled := by
    rw [cancelTunnelJob_frame]
  have sameClient : service.cancelTunnelJob.client = service.client := by
    rw [cancelTunnelJob_frame]
  have sameDown : service.cancelTunnelJob.down = service.down := by
    rw [cancelTunnelJob_frame]
  have stages : ∀ job ∈ (service.teardownSync kind).jobs, ∃ was ∈ service.jobs, job.stage = was.stage := by
    intro job mem
    obtain ⟨k, at_k⟩ := List.mem_iff_getElem?.mp mem
    obtain ⟨was, before, stage, _⟩ := exists_of_cancelTunnelJob at_k
    exact ⟨was, List.mem_of_getElem? before, stage⟩
  refine ⟨invariant.descriptors.cancelTunnelJob.congr rfl rfl rfl rfl rfl, ?_, ?_⟩
  · intro k other found
    obtain ⟨job, was, stage, cancels⟩ := exists_of_cancelTunnelJob found
    have cancelled : other.cancelled = true → (service.teardownSync kind).isCancelled other = true := by
      intro cancelled
      rw [isCancelled, cancelled, Bool.true_or]
    rcases invariant.covered k job was with ended | already | current | ⟨teardown, mem, queued⟩
    · exact .inl (stage.trans ended)
    · refine .inr (.inl ?_)
      rcases Bool.or_eq_true_iff.mp already with own | scope
      · exact cancelled (cancels (.inl own))
      · exact Bool.or_eq_true_iff.mpr (.inr (sameScope.trans scope))
    · exact .inr (.inl (cancelled (cancels (.inr current))))
    · exact .inr (.inr (.inr ⟨teardown, List.mem_append_left _ mem, queued⟩))
  · have free : service.NothingNative → (service.teardownSync kind).Control := fun nothing =>
      .free (nothing.append rfl sameClient stages rfl rfl)
    rcases alone with ⟨untouched, calm⟩ | nothing
    · have resting : ∀ job ∈ (service.teardownSync kind).jobs, (service.teardownSync kind).Rests job := by
        intro job mem
        obtain ⟨was, wasMem, same⟩ := stages job mem
        refine rests_of_stopped rfl ?_
        rw [same]
        exact calm was wasMem
      cases invariant.control with
      | free nothing => exact free nothing
      | supervised control =>
        exact .torn ⟨List.getElem?_concat_length, .inl rfl, resting, done_of_append untouched,
          sameDown.trans control.asked⟩
      | torn control => exact absurd untouched control.not_untouched
    · exact free nothing

/-! ### The supervisors -/

/-- A step of a supervisor, but for its own state and the native side. -/
structure Frame (before after : VpnService) : Prop where
  teardowns : after.teardowns = before.teardowns
  tunnelJob : after.tunnelJob = before.tunnelJob
  userStopped : after.userStopped = before.userStopped
  scope : after.scopeCancelled = before.scopeCancelled
  down : after.down = before.down

theorem Frame.rests (frame : Frame service after) {other : SuperviseJob} (rests : service.Rests other) :
    after.Rests other :=
  rests.mono rfl id (fun stopped => frame.userStopped.trans stopped) fun scope => frame.scope.trans scope

theorem Frame.covered {next : SuperviseJob} (frame : Frame service after) (covered : service.Covered)
    (found : service.jobs[index]? = some job) (running : job.stage ≠ .ended)
    (jobs : after.jobs = service.jobs.set index next) (cancelled : next.cancelled = job.cancelled) :
    after.Covered := by
  intro k other at_k
  have isCancelled : ∀ job, after.isCancelled job = service.isCancelled job := by
    intro job
    rw [VpnService.isCancelled, frame.scope, VpnService.isCancelled]
  rw [isCancelled, frame.tunnelJob, frame.teardowns]
  rw [jobs] at at_k
  by_cases same : index = k
  · subst same
    rw [getElem?_set_found found] at at_k
    obtain rfl := Option.some.inj at_k
    have own := (covered index job found).resolve_left running
    rw [VpnService.isCancelled, ← cancelled] at own
    exact .inr own
  · rw [List.getElem?_set_ne same] at at_k
    exact covered k other at_k

/-- **The supervisor in control goes on** to a stage, with what it has done to the native side before it. -/
theorem InControl.goto (control : service.InControl index job) (covered : service.Covered)
    (running : job.stage ≠ .ended) {next : VpnService} {own : SuperviseJob} {stage : SuperviseStage}
    (frame : Frame service next) (jobs : next.jobs = service.jobs) (cancelled : own.cancelled = job.cancelled)
    (descriptors : next.Descriptors) (owns : next.Owns stage) : (next.goto index own stage).Invariant := by
  have step : Frame service (next.goto index own stage) :=
    ⟨frame.teardowns, frame.tunnelJob, frame.userStopped, frame.scope, frame.down⟩
  have set : (next.goto index own stage).jobs = service.jobs.set index { own with stage } := by
    show next.jobs.set index _ = _
    rw [jobs]
  refine ⟨descriptors.congr rfl rfl rfl rfl rfl, step.covered covered control.found running set cancelled, ?_⟩
  have found : (next.goto index own stage).jobs[index]? = some { own with stage } := by
    rw [set]
    exact getElem?_set_found control.found _
  refine .supervised ⟨found, owns, ?_, ?_, frame.scope.trans control.scope, frame.down.trans control.asked⟩
  · intro k other ne at_k
    rw [set, List.getElem?_set_ne (Ne.symm ne)] at at_k
    exact step.rests (control.others k other ne at_k)
  · unfold Awaited Untouched
    rw [step.teardowns, step.tunnelJob]
    exact control.awaited

/-- It fails, and gives up or waits for the next attempt. -/
theorem InControl.failed (control : service.InControl index job) (covered : service.Covered)
    (running : job.stage ≠ .ended) {next : VpnService} (frame : Frame service next)
    (jobs : next.jobs = service.jobs) (descriptors : next.Descriptors) (noClient : next.client = none) :
    (next.failed index job).Invariant := by
  refine control.goto covered running frame jobs rfl descriptors ?_
  split
  · trivial
  · exact noClient

/-- It is past `nativeStop`. -/
theorem InControl.cleared (control : service.InControl index job) (covered : service.Covered)
    (running : job.stage ≠ .ended) {next : VpnService} (reconnect : Bool) (frame : Frame service next)
    (jobs : next.jobs = service.jobs) (descriptors : next.Descriptors) (noClient : next.client = none) :
    (next.cleared index job reconnect).Invariant := by
  refine control.goto covered running frame jobs rfl descriptors ?_
  split
  · trivial
  · exact noClient

/-- It gives up the first attempt: nothing native is left. -/
theorem InControl.failing (control : service.InControl index job) (invariant : service.Invariant)
    (failing : job.stage = .failing) : (service.stopTunnel.goto index job .ended).Invariant := by
  have running : job.stage ≠ .ended := by
    rw [failing]
    intro ended
    cases ended
  have noClient : service.client = none := by
    have owns := control.owns
    rw [failing] at owns
    exact owns
  have step : Frame service.stopTunnel (service.stopTunnel.goto index job .ended) := ⟨rfl, rfl, rfl, rfl, rfl⟩
  refine ⟨invariant.descriptors.congr rfl rfl rfl rfl rfl,
    step.covered invariant.covered.stopTunnel control.found running rfl rfl, .free ⟨noClient, ?_, ?_⟩⟩
  · refine forall_mem_set ?_ (.inl rfl)
    exact fun k other ne at_k => (control.others k other ne at_k).mono rfl id (fun _ => rfl) id
  · intro teardown mem
    rcases List.mem_append.mp mem with before | added
    · exact control.awaited.tunnel_eq_none teardown before
    · obtain rfl := List.mem_singleton.mp added
      rfl

/-- A supervisor that rests asks nothing of the native side. -/
theorem Rests.owns (rests : service.Rests job) : after.Owns job.stage := by
  rcases rests with ended | ⟨suspended, _⟩ | ⟨wary, _⟩
  · rw [ended]
    trivial
  · revert suspended
    cases job.stage <;> simp [SuperviseStage.suspended, Owns]
  · revert wary
    cases job.stage <;> simp [SuperviseStage.wary, Owns]

/-- A supervisor that rests leaves the control where it is. -/
theorem Control.goto {stage : SuperviseStage} (control : service.Control)
    (found : service.jobs[index]? = some job) (rests : service.Rests { job with stage }) :
    (service.goto index job stage).Control := by
  have frame : Frame service (service.goto index job stage) := ⟨rfl, rfl, rfl, rfl, rfl⟩
  have everybody : (∀ job ∈ service.jobs, service.Rests job) →
      ∀ other ∈ (service.goto index job stage).jobs, (service.goto index job stage).Rests other := by
    intro resting other mem
    rcases List.mem_or_eq_of_mem_set mem with before | same
    · exact frame.rests (resting other before)
    · rw [same]
      exact frame.rests rests
  cases control with
  | free nothing => exact .free ⟨nothing.1, everybody nothing.2.1, nothing.2.2⟩
  | torn control =>
    exact .torn ⟨control.found, control.owns, everybody control.jobs, control.others, control.asked⟩
  | @supervised owner ownerJob control =>
    have rest : ∀ k other, k ≠ owner → (service.goto index job stage).jobs[k]? = some other →
        (service.goto index job stage).Rests other := by
      intro k other ne at_k
      by_cases same : index = k
      · subst same
        rw [VpnService.goto, getElem?_set_found found] at at_k
        rw [← Option.some.inj at_k]
        exact frame.rests rests
      · rw [VpnService.goto, List.getElem?_set_ne same] at at_k
        exact frame.rests (control.others k other ne at_k)
    by_cases same : index = owner
    · subst same
      exact .supervised ⟨getElem?_set_found found _, rests.owns, rest, control.awaited, control.scope,
        control.asked⟩
    · exact .supervised ⟨(List.getElem?_set_ne same).trans control.found, control.owns, rest, control.awaited,
        control.scope, control.asked⟩

/-- The client is taken out. -/
theorem Descriptors.take (descriptors : service.Descriptors) :
    ({ service with client := none } : VpnService).Descriptors where
  pfd := descriptors.pfd
  client := by
    intro fd absent
    cases absent
  closed := descriptors.closed
  nodup := descriptors.nodup
  strays := descriptors.strays

/-- What is left of a tunnel on the service's descriptor. -/
theorem Descriptors.stray {fd : Nat} (descriptors : service.Descriptors) (noClient : service.client = none)
    (isPfd : service.pfd = some fd) (fresh : fd ∉ service.strays) :
    ({ service with strays := fd :: service.strays } : VpnService).Descriptors where
  pfd := descriptors.pfd
  client := by
    intro other isClient
    rw [noClient] at isClient
    cases isClient
  closed := descriptors.closed
  nodup := List.nodup_cons.mpr ⟨fresh, descriptors.nodup⟩
  strays := by
    intro other mem
    rcases List.mem_cons.mp mem with rfl | before
    · exact (descriptors.pfd other isPfd).2
    · exact descriptors.strays other before

/-- A new tun is established. -/
theorem Descriptors.establish (descriptors : service.Descriptors) (noClient : service.client = none) :
    ({ service with pfd := some service.opened, opened := service.opened + 1 } : VpnService).Descriptors where
  pfd := by
    intro fd same
    obtain rfl := Option.some.inj same
    exact ⟨Nat.lt_succ_self _, fun isClosed => Nat.lt_irrefl _ (descriptors.closed _ isClosed)⟩
  client := by
    intro other isClient
    rw [noClient] at isClient
    cases isClient
  closed := fun fd isClosed => Nat.lt_succ_of_lt (descriptors.closed fd isClosed)
  nodup := descriptors.nodup
  strays := descriptors.strays

/-- A tunnel becomes the client. -/
theorem Descriptors.connect {fd : Nat} (descriptors : service.Descriptors) (isPfd : service.pfd = some fd)
    (fresh : fd ∉ service.strays) : ({ service with client := some fd } : VpnService).Descriptors where
  pfd := descriptors.pfd
  client := by
    intro other same
    obtain rfl := Option.some.inj same
    exact ⟨isPfd, fresh⟩
  closed := descriptors.closed
  nodup := descriptors.nodup
  strays := descriptors.strays

/-- **A step of the supervisor in control.** -/
theorem Invariant.supervise_owner (invariant : service.Invariant) (control : service.InControl index job)
    (meets : service.Meets (.supervise index ok)) (taken : service.supervise index job ok = some after) :
    after.Invariant := by
  have descriptors := invariant.descriptors
  have running : job.stage ≠ .ended := by
    intro ended
    rw [supervise, ended] at taken
    cases taken
  have covered := invariant.covered
  have same : Frame service service := ⟨rfl, rfl, rfl, rfl, rfl⟩
  have owns := control.owns
  obtain ⟨stage, everConnected, cancelled⟩ := job
  cases stage with
  | queued | checking | polling | monitoring | lost | backoff =>
    obtain rfl := Option.some.inj taken
    refine control.goto covered running same rfl rfl descriptors ?_
    split <;> trivial
  | clearing reconnect =>
    simp only [supervise] at taken
    split at taken
    · rename_i fd isClient
      obtain rfl := Option.some.inj taken
      obtain ⟨isPfd, fresh⟩ := descriptors.client fd isClient
      have frame : Frame service { service with client := none } := ⟨rfl, rfl, rfl, rfl, rfl⟩
      exact control.goto covered running frame rfl rfl descriptors.take ⟨rfl, isPfd, fresh⟩
    · rename_i noClient
      obtain rfl := Option.some.inj taken
      exact control.cleared covered running reconnect same rfl descriptors noClient
  | stopping reconnect fd =>
    obtain rfl := Option.some.inj taken
    obtain ⟨noClient, isPfd, fresh⟩ := owns
    have frame : Frame service { service with strays := fd :: service.strays } := ⟨rfl, rfl, rfl, rfl, rfl⟩
    exact control.cleared covered running reconnect frame rfl (descriptors.stray noClient isPfd fresh) noClient
  | configuring =>
    simp only [supervise] at taken
    split at taken
    · split at taken
      · rename_i fd isPfd
        obtain rfl := Option.some.inj taken
        exact control.goto covered running same rfl rfl descriptors ⟨owns, isPfd⟩
      · obtain rfl := Option.some.inj taken
        exact control.goto covered running same rfl rfl descriptors owns
    · obtain rfl := Option.some.inj taken
      exact control.failed covered running same rfl descriptors owns
  | establishing =>
    simp only [supervise] at taken
    split at taken
    · obtain rfl := Option.some.inj taken
      have frame : Frame service { service with pfd := some service.opened, opened := service.opened + 1 } :=
        ⟨rfl, rfl, rfl, rfl, rfl⟩
      exact control.goto covered running frame rfl rfl (descriptors.establish owns) ⟨owns, rfl⟩
    · obtain rfl := Option.some.inj taken
      exact control.failed covered running same rfl descriptors owns
  | starting fd =>
    simp only [supervise] at taken
    split at taken
    · obtain rfl := Option.some.inj taken
      exact control.failed covered running same rfl descriptors owns.1
    · obtain rfl := Option.some.inj taken
      exact control.goto covered running same rfl rfl descriptors owns
  | attaching fd =>
    simp only [supervise] at taken
    split at taken
    · rename_i works
      obtain rfl := Option.some.inj taken
      exact control.goto covered running same rfl rfl descriptors
        ⟨owns.1, owns.2, meets works _ control.found fd rfl⟩
    · obtain rfl := Option.some.inj taken
      exact control.failed covered running same rfl descriptors owns.1
  | handshaking fd =>
    obtain ⟨noClient, isPfd, fresh⟩ := owns
    simp only [supervise] at taken
    split at taken
    · obtain rfl := Option.some.inj taken
      have noStray : service.client.toList ++ service.strays = service.strays := by
        rw [noClient]
        rfl
      rw [noStray]
      have frame : Frame service { service with client := some fd } := ⟨rfl, rfl, rfl, rfl, rfl⟩
      exact control.goto covered running frame rfl rfl (descriptors.connect isPfd fresh) trivial
    · obtain rfl := Option.some.inj taken
      have frame : Frame service { service with strays := fd :: service.strays } := ⟨rfl, rfl, rfl, rfl, rfl⟩
      exact control.failed covered running frame rfl (descriptors.stray noClient isPfd fresh) noClient
  | failing =>
    obtain rfl := Option.some.inj taken
    exact control.failing invariant rfl
  | ended => cases taken

/-- **A step of a supervisor.** -/
theorem Invariant.supervise (invariant : service.Invariant) (found : service.jobs[index]? = some job)
    (meets : service.Meets (.supervise index ok)) (taken : service.supervise index job ok = some after) :
    after.Invariant := by
  by_cases rests : service.Rests job
  · obtain ⟨stage, rfl, restsAfter⟩ := rests_step rests taken
    have running : job.stage ≠ .ended := by
      intro ended
      rw [VpnService.supervise, ended] at taken
      cases taken
    have frame : Frame service (service.goto index job stage) := ⟨rfl, rfl, rfl, rfl, rfl⟩
    exact ⟨invariant.descriptors.congr rfl rfl rfl rfl rfl,
      frame.covered invariant.covered found running rfl rfl, invariant.control.goto found restsAfter⟩
  · cases invariant.control with
    | free nothing => exact absurd (nothing.2.1 job (List.mem_of_getElem? found)) rests
    | torn control => exact absurd (control.jobs job (List.mem_of_getElem? found)) rests
    | @supervised owner ownerJob control =>
      obtain rfl : index = owner :=
        Decidable.byContradiction fun ne => rests (control.others index job ne found)
      obtain rfl := Option.some.inj (control.found.symm.trans found)
      exact invariant.supervise_owner control meets taken

/-! ### The teardowns -/

/-- A step of a teardown, but for the native side. -/
structure Turn (before after : VpnService) (index : Nat) (next : Teardown) : Prop where
  teardowns : after.teardowns = before.teardowns.set index next
  tunnelJob : after.tunnelJob = before.tunnelJob
  userStopped : after.userStopped = before.userStopped
  scope : before.scopeCancelled = true → after.scopeCancelled = true
  jobs : ∀ (k : Nat) (other : SuperviseJob), after.jobs[k]? = some other →
    ∃ was : SuperviseJob, before.jobs[k]? = some was ∧ other.stage = was.stage ∧
      (was.cancelled = true → other.cancelled = true)

variable {next : Teardown}

/-- A supervisor that rests before a step of a teardown rests after it. -/
theorem Turn.rests (turn : Turn service after index next) {k : Nat} {other : SuperviseJob}
    (found : after.jobs[k]? = some other)
    (resting : ∀ was, service.jobs[k]? = some was → service.Rests was) : after.Rests other := by
  obtain ⟨was, before, stage, cancelled⟩ := turn.jobs k other found
  exact (resting was before).mono stage cancelled (fun stopped => turn.userStopped.trans stopped) turn.scope

/-- The teardown may go on once the supervisor it was to cancel is cancelled. -/
theorem Turn.covered (turn : Turn service after index next) (covered : service.Covered)
    (found : service.teardowns[index]? = some teardown)
    (released : ∀ k other, teardown.stage = .queued (some k) → after.jobs[k]? = some other →
      after.isCancelled other = true) : after.Covered := by
  intro k other at_k
  obtain ⟨was, before, stage, cancelled⟩ := turn.jobs k other at_k
  rcases covered k was before with ended | already | current | ⟨waiting, mem, queued⟩
  · exact .inl (stage.trans ended)
  · refine .inr (.inl ?_)
    unfold isCancelled at already ⊢
    rw [Bool.or_eq_true] at already ⊢
    exact already.imp cancelled turn.scope
  · exact .inr (.inr (.inl (turn.tunnelJob.trans current)))
  · by_cases same : teardown.stage = .queued (some k)
    · exact .inr (.inl (released k other same at_k))
    · refine .inr (.inr (.inr ⟨waiting, ?_, queued⟩))
      obtain ⟨c, at_c⟩ := List.mem_iff_getElem?.mp mem
      have ne : index ≠ c := by
        intro sameIndex
        subst sameIndex
        obtain rfl := Option.some.inj (found.symm.trans at_c)
        exact same queued
      rw [turn.teardowns]
      exact List.mem_of_getElem? ((List.getElem?_set_ne ne).trans at_c)

/-- With nothing native left, a teardown goes on without a tunnel. -/
theorem Turn.nothingNative (turn : Turn service after index next) (nothing : service.NothingNative)
    (client : after.client = none) (noTunnel : next.stage.tunnel = none) : after.NothingNative := by
  obtain ⟨_, resting, tunnels⟩ := nothing
  refine ⟨client, ?_, ?_⟩
  · intro other mem
    obtain ⟨k, at_k⟩ := List.mem_iff_getElem?.mp mem
    exact turn.rests at_k fun was before => resting was (List.mem_of_getElem? before)
  · rw [turn.teardowns]
    exact forall_mem_set (fun k other _ at_k => tunnels other (List.mem_of_getElem? at_k)) noTunnel

/-- A step that leaves the supervisors alone. -/
theorem turn_of_same (next : Teardown) (jobs : after.jobs = service.jobs)
    (teardowns : after.teardowns = service.teardowns.set index next)
    (tunnelJob : after.tunnelJob = service.tunnelJob) (userStopped : after.userStopped = service.userStopped)
    (scope : service.scopeCancelled = true → after.scopeCancelled = true) : Turn service after index next :=
  ⟨teardowns, tunnelJob, userStopped, scope, fun k other found =>
    ⟨other, by rw [← jobs]; exact found, rfl, id⟩⟩

/-- `cancelAndJoin` begins. -/
theorem turn_of_cancel (next : Teardown) {current : Nat}
    (jobs : after.jobs = (service.cancel current).jobs)
    (teardowns : after.teardowns = service.teardowns.set index next)
    (tunnelJob : after.tunnelJob = service.tunnelJob) (userStopped : after.userStopped = service.userStopped)
    (scope : service.scopeCancelled = true → after.scopeCancelled = true) : Turn service after index next := by
  refine ⟨teardowns, tunnelJob, userStopped, scope, fun k other found => ?_⟩
  rw [jobs] at found
  obtain ⟨job, was, stage, cancels⟩ := exists_of_cancel found
  exact ⟨job, was, stage, fun cancelled => cancels (.inl cancelled)⟩

/-- The tun is closed: no client is on it, and no stray task. -/
theorem Descriptors.closeTun (descriptors : service.Descriptors) (noClient : service.client = none)
    (unread : ∀ fd, service.pfd = some fd → fd ∉ service.strays) : service.closeTun.Descriptors where
  pfd := by
    intro fd absent
    cases absent
  client := by
    intro fd isClient
    cases noClient.symm.trans isClient
  closed := by
    intro fd mem
    rcases List.mem_append.mp mem with isPfd | before
    · exact (descriptors.pfd fd (Option.mem_toList.mp isPfd)).1
    · exact descriptors.closed fd before
  nodup := descriptors.nodup
  strays := by
    intro fd isStray mem
    rcases List.mem_append.mp mem with isPfd | before
    · exact unread fd (Option.mem_toList.mp isPfd) isStray
    · exact descriptors.strays fd isStray before

/-- With nobody in control, a teardown goes on that has no supervisor left to cancel. -/
theorem Invariant.turn_free (invariant : service.Invariant) (nothing : service.NothingNative)
    (found : service.teardowns[index]? = some teardown) {stage : TeardownStage} (noTunnel : stage.tunnel = none)
    (past : service.scopeCancelled = true ∨ ∀ k, teardown.stage ≠ .queued (some k)) :
    (service.turn index teardown stage).Invariant := by
  have turn : Turn service (service.turn index teardown stage) index { teardown with stage } :=
    turn_of_same _ rfl rfl rfl rfl id
  refine ⟨invariant.descriptors.congr rfl rfl rfl rfl rfl, turn.covered invariant.covered found ?_,
    .free (turn.nothingNative nothing nothing.1 noTunnel)⟩
  intro k other queued at_k
  rcases past with scope | elsewhere
  · exact Bool.or_eq_true_iff.mpr (.inr scope)
  · exact absurd queued (elsewhere k)

/-- With nobody in control, a teardown cancels a supervisor and waits for it. -/
theorem Invariant.cancel_free (invariant : service.Invariant) (nothing : service.NothingNative) {current : Nat}
    (found : service.teardowns[index]? = some teardown) (queued : teardown.stage = .queued (some current)) :
    ((service.cancel current).turn index teardown (.joining current)).Invariant := by
  have turn : Turn service ((service.cancel current).turn index teardown (.joining current)) index
      { teardown with stage := .joining current } := turn_of_cancel _ rfl rfl rfl rfl id
  refine ⟨invariant.descriptors.congr rfl rfl rfl rfl rfl, turn.covered invariant.covered found ?_,
    .free (turn.nothingNative nothing nothing.1 rfl)⟩
  intro k other same at_k
  rw [queued] at same
  obtain rfl : current = k := by
    injection same with same
    exact Option.some.inj same
  obtain ⟨_, _, _, cancels⟩ := exists_of_cancel at_k
  exact Bool.or_eq_true_iff.mpr (.inl (cancels (.inr rfl)))

/-- With nobody in control, and no stray task on the descriptor, it is closed. -/
theorem Invariant.close_free (invariant : service.Invariant) (nothing : service.NothingNative)
    (found : service.teardowns[index]? = some teardown) (closing : teardown.stage = .closing)
    (unread : ∀ fd, service.pfd = some fd → fd ∉ service.strays) (last : Bool) :
    ({ service.closeTun with scopeCancelled := service.scopeCancelled || last }.turn index teardown
      .done).Invariant := by
  have scope : service.scopeCancelled = true → (service.scopeCancelled || last) = true := by
    intro scope
    rw [scope, Bool.true_or]
  have turn : Turn service ({ service.closeTun with scopeCancelled := service.scopeCancelled || last }.turn
      index teardown .done) index { teardown with stage := .done } := turn_of_same _ rfl rfl rfl rfl scope
  refine ⟨(invariant.descriptors.closeTun nothing.1 unread).congr rfl rfl rfl rfl rfl,
    turn.covered invariant.covered found ?_, .free (turn.nothingNative nothing nothing.1 rfl)⟩
  intro k other queued
  rw [closing] at queued
  cases queued

/-- A step of a teardown when nobody is in control. -/
theorem Invariant.tearDown_free (invariant : service.Invariant) (nothing : service.NothingNative)
    (found : service.teardowns[index]? = some teardown) (meets : service.Meets (.tearDown index))
    (taken : service.tearDown index teardown = some after) : after.Invariant := by
  obtain ⟨kind, stage⟩ := teardown
  have ends : service.isDropped ⟨kind, stage⟩ = true → (service.turn index ⟨kind, stage⟩ .done).Invariant :=
    fun dropped => invariant.turn_free nothing found rfl (.inl (Bool.and_eq_true_iff.mp dropped).2)
  cases stage with
  | queued job =>
    simp only [VpnService.tearDown] at taken
    split at taken
    · rename_i dropped
      obtain rfl := Option.some.inj taken
      exact ends dropped
    · cases job with
      | some current =>
        obtain rfl := Option.some.inj taken
        exact invariant.cancel_free nothing found rfl
      | none =>
        obtain rfl := Option.some.inj taken
        refine invariant.turn_free nothing found rfl (.inr ?_)
        intro k same
        cases same
  | joining job =>
    have past : ∀ k, TeardownStage.joining job ≠ .queued (some k) := by
      intro k same
      cases same
    simp only [VpnService.tearDown] at taken
    split at taken
    · rename_i dropped
      obtain rfl := Option.some.inj taken
      exact ends dropped
    · split at taken
      · obtain rfl := Option.some.inj taken
        exact invariant.turn_free nothing found rfl (.inr past)
      · cases taken
  | taking =>
    have past : ∀ k, TeardownStage.taking ≠ .queued (some k) := by
      intro k same
      cases same
    simp only [VpnService.tearDown] at taken
    split at taken
    · rename_i fd isClient
      cases nothing.1.symm.trans isClient
    · obtain rfl := Option.some.inj taken
      exact invariant.turn_free nothing found rfl (.inr past)
  | waiting fd => cases nothing.2.2 _ (List.mem_of_getElem? found)
  | closing =>
    simp only [VpnService.tearDown] at taken
    split at taken
    · rename_i dropped
      obtain rfl := Option.some.inj taken
      exact ends dropped
    · rename_i undropped
      obtain rfl := Option.some.inj taken
      have unread := meets _ found rfl (eq_false_of_ne_true undropped)
      exact invariant.close_free nothing found rfl unread _
  | done => cases taken

/-- A step of the teardown that waits for the supervisor in control. -/
theorem Invariant.tearDown_awaited (invariant : service.Invariant) {owner : Nat}
    (control : service.InControl owner job) (found : service.teardowns[index]? = some teardown)
    (taken : service.tearDown index teardown = some after) : after.Invariant := by
  have descriptors := invariant.descriptors
  have running : teardown.stage ≠ .done := by
    intro isDone
    rw [VpnService.tearDown, isDone] at taken
    cases taken
  rcases control.awaited with ⟨untouched, _⟩ | ⟨c, waiting, isWaiting, waits, alone⟩
  · exact absurd (untouched teardown (List.mem_of_getElem? found)) running
  · obtain rfl : index = c := Decidable.byContradiction fun ne => running (alone index teardown ne found)
    obtain rfl := Option.some.inj (isWaiting.symm.trans found)
    have undropped : service.isDropped waiting = false := by
      rw [isDropped, control.scope, Bool.and_false]
    have stillAlone : ∀ next : Teardown, ∀ (k : Nat) (other : Teardown), k ≠ index →
        (service.teardowns.set index next)[k]? = some other → other.stage = .done := by
      intro next k other ne at_k
      rw [List.getElem?_set_ne (Ne.symm ne)] at at_k
      exact alone k other ne at_k
    obtain ⟨kind, stage⟩ := waiting
    rcases waits with queued | joining
    · obtain rfl : stage = .queued (some owner) := queued
      simp only [VpnService.tearDown, undropped] at taken
      obtain rfl := Option.some.inj taken
      have turn : Turn service ((service.cancel owner).turn index ⟨kind, .queued (some owner)⟩ (.joining owner))
          index ⟨kind, .joining owner⟩ := turn_of_cancel _ rfl rfl rfl rfl id
      have isJobAfter : (service.cancel owner).jobs[owner]? = some { job with cancelled := true } := by
        unfold cancel
        rw [List.getElem?_modify_eq, control.found]
        rfl
      refine ⟨descriptors.congr rfl rfl rfl rfl rfl, turn.covered invariant.covered found ?_,
        .supervised ⟨isJobAfter, control.owns, ?_,
          .inr ⟨index, _, getElem?_set_found found _, .inr rfl, stillAlone _⟩, control.scope, control.asked⟩⟩
      · intro k other same at_k
        obtain rfl : owner = k := by
          injection same with same
          exact Option.some.inj same
        obtain ⟨_, _, _, cancels⟩ := exists_of_cancel at_k
        exact Bool.or_eq_true_iff.mpr (.inl (cancels (.inr rfl)))
      · exact fun k other ne at_k => turn.rests at_k fun was before => control.others k was ne before
    · obtain rfl : stage = .joining owner := joining
      simp only [VpnService.tearDown, undropped, Bool.false_eq_true, if_false] at taken
      split at taken
      · rename_i hasEnded
        obtain rfl := Option.some.inj taken
        have ended : job.stage = .ended := by
          rw [VpnService.hasEnded, control.found] at hasEnded
          exact of_decide_eq_true hasEnded
        have turn : Turn service (service.turn index ⟨kind, .joining owner⟩ .taking) index ⟨kind, .taking⟩ :=
          turn_of_same _ rfl rfl rfl rfl id
        refine ⟨descriptors.congr rfl rfl rfl rfl rfl, turn.covered invariant.covered found ?_,
          .torn ⟨getElem?_set_found found _, .inl rfl, ?_, stillAlone _, control.asked⟩⟩
        · intro k other same
          cases same
        · intro other mem
          obtain ⟨k, at_k⟩ := List.mem_iff_getElem?.mp mem
          refine turn.rests at_k fun was before => ?_
          by_cases isOwner : k = owner
          · subst isOwner
            obtain rfl := Option.some.inj (control.found.symm.trans before)
            exact .inl ended
          · exact control.others k was isOwner before
      · cases taken

/-- A step of the teardown in control. -/
theorem Invariant.tearDown_owner (invariant : service.Invariant) {owner : Nat} {owning : Teardown}
    (control : service.TearsDown owner owning) (found : service.teardowns[index]? = some teardown)
    (taken : service.tearDown index teardown = some after) : after.Invariant := by
  have descriptors := invariant.descriptors
  have running : teardown.stage ≠ .done := by
    intro isDone
    rw [VpnService.tearDown, isDone] at taken
    cases taken
  obtain ⟨isOwner, owns, jobs, others, asked⟩ := control
  obtain rfl : index = owner := Decidable.byContradiction fun ne => running (others index teardown ne found)
  obtain rfl := Option.some.inj (isOwner.symm.trans found)
  -- Once nothing native is left, nobody is in control.
  have released : ∀ (next : VpnService) (stage : TeardownStage), next.jobs = service.jobs →
      next.teardowns = service.teardowns → next.client = none → next.userStopped = service.userStopped →
      next.scopeCancelled = service.scopeCancelled → stage.tunnel = none →
      (next.turn index owning stage).NothingNative := by
    intro next stage sameJobs sameTeardowns noClient stopped scope noTunnel
    refine ⟨noClient, ?_, ?_⟩
    · intro job mem
      have before : job ∈ service.jobs := by rw [← sameJobs]; exact mem
      exact (jobs job before).mono rfl id (fun isStopped => stopped.trans isStopped) fun isCancelled =>
        scope.trans isCancelled
    · show ∀ teardown ∈ next.teardowns.set index _, teardown.stage.tunnel = none
      rw [sameTeardowns]
      refine forall_mem_set (fun k other ne at_k => ?_) noTunnel
      rw [others k other ne at_k]
      rfl
  obtain ⟨kind, stage⟩ := owning
  -- The teardown waits for no supervisor any more.
  have covered : ∀ next : Teardown, ∀ after : VpnService, Turn service after index next →
      (∀ k, stage ≠ .queued (some k)) → after.Covered := fun next after turn past =>
    turn.covered invariant.covered found fun k other same => absurd same (past k)
  rcases owns with taking | ⟨fd, waiting, noClient, isPfd, fresh⟩
  · obtain rfl : stage = .taking := taking
    have past : ∀ k, TeardownStage.taking ≠ .queued (some k) := by
      intro k same
      cases same
    simp only [VpnService.tearDown] at taken
    split at taken
    · rename_i fd isClient
      obtain rfl := Option.some.inj taken
      obtain ⟨isPfd, fresh⟩ := descriptors.client fd isClient
      refine ⟨descriptors.take.congr rfl rfl rfl rfl rfl,
        covered _ _ (turn_of_same _ rfl rfl rfl rfl id) past,
        .torn ⟨getElem?_set_found found _, .inr ⟨fd, rfl, rfl, isPfd, fresh⟩, ?_, ?_, asked⟩⟩
      · exact fun job mem => (jobs job mem).mono rfl id id id
      · intro k other ne at_k
        have before := (List.getElem?_set_ne (Ne.symm ne)).symm.trans at_k
        exact others k other ne before
    · rename_i noClient
      obtain rfl := Option.some.inj taken
      exact ⟨descriptors.congr rfl rfl rfl rfl rfl, covered _ _ (turn_of_same _ rfl rfl rfl rfl id) past,
        .free (released service .closing rfl rfl noClient rfl rfl rfl)⟩
  · obtain rfl : stage = .waiting fd := waiting
    have past : ∀ k, TeardownStage.waiting fd ≠ .queued (some k) := by
      intro k same
      cases same
    obtain rfl := Option.some.inj taken
    exact ⟨(descriptors.stray noClient isPfd fresh).congr rfl rfl rfl rfl rfl,
      covered _ _ (turn_of_same _ rfl rfl rfl rfl id) past,
      .free (released { service with strays := fd :: service.strays } .closing rfl rfl noClient rfl rfl rfl)⟩

/-- **A step of a teardown.** -/
theorem Invariant.tearDown (invariant : service.Invariant) (found : service.teardowns[index]? = some teardown)
    (meets : service.Meets (.tearDown index)) (taken : service.tearDown index teardown = some after) :
    after.Invariant := by
  cases invariant.control with
  | free nothing => exact invariant.tearDown_free nothing found meets taken
  | supervised control => exact invariant.tearDown_awaited control found taken
  | torn control => exact invariant.tearDown_owner control found taken

/-! ### The run -/

/-- Stray tasks end. -/
theorem Invariant.drained (invariant : service.Invariant) (index : Nat) :
    ({ service with strays := service.strays.eraseIdx index } : VpnService).Invariant := by
  have fewer : ∀ fd, fd ∉ service.strays → fd ∉ service.strays.eraseIdx index := fun fd fresh mem =>
    fresh (List.mem_of_mem_eraseIdx mem)
  refine ⟨⟨invariant.descriptors.pfd, ?_, invariant.descriptors.closed, ?_, ?_⟩, invariant.covered, ?_⟩
  · intro fd isClient
    obtain ⟨isPfd, fresh⟩ := invariant.descriptors.client fd isClient
    exact ⟨isPfd, fewer fd fresh⟩
  · exact invariant.descriptors.nodup.sublist (List.eraseIdx_sublist _ _)
  · exact fun fd mem => invariant.descriptors.strays fd (List.mem_of_mem_eraseIdx mem)
  · cases invariant.control with
    | free nothing => exact .free nothing
    | @supervised owner job control =>
      refine .supervised ⟨control.found, ?_, control.others, control.awaited, control.scope, control.asked⟩
      have owns := control.owns
      revert owns
      cases job.stage <;> simp only [Owns] <;> intro owns
      all_goals first
        | exact owns
        | exact ⟨owns.1, owns.2.1, fewer _ owns.2.2⟩
    | torn control =>
      refine .torn ⟨control.found, control.owns.imp_right ?_, control.jobs, control.others, control.asked⟩
      rintro ⟨fd, waiting, noClient, isPfd, fresh⟩
      exact ⟨fd, waiting, noClient, isPfd, fewer fd fresh⟩

/-- **The step lemma.** -/
theorem invariant_step {event : ServiceEvent} (invariant : service.Invariant) (meets : service.Meets event)
    (taken : service.step event = some after) : after.Invariant := by
  cases event with
  | startTunnel foreground =>
    simp only [step] at taken
    split at taken
    · cases taken
    · rename_i scope
      obtain rfl := Option.some.inj taken
      cases foreground with
      | true =>
        obtain ⟨untouched, calm⟩ := meets rfl
        exact invariant.startTunnel (eq_false_of_ne_true scope) untouched calm
      | false => exact invariant
  | stopTunnel =>
    simp only [step] at taken
    split at taken
    · cases taken
    · obtain rfl := Option.some.inj taken
      exact invariant.stopTunnel meets
  | onRevoke =>
    obtain rfl := Option.some.inj taken
    exact invariant.teardownSync .onRevoke meets
  | onDestroy =>
    obtain rfl := Option.some.inj taken
    exact invariant.teardownSync .onDestroy meets
  | supervise index ok =>
    simp only [step] at taken
    split at taken
    · rename_i job found
      exact invariant.supervise found meets taken
    · cases taken
  | tearDown index =>
    simp only [step] at taken
    split at taken
    · rename_i teardown found
      exact invariant.tearDown found meets taken
    · cases taken
  | drained index =>
    obtain rfl := Option.some.inj taken
    exact invariant.drained index

/-- The tunnel a supervisor in control is building or stopping is on the service's descriptor. -/
theorem Owns.tunnel {stage : SuperviseStage} {fd : Nat} (owns : service.Owns stage)
    (tunnel : stage.tunnel = some fd) :
    service.client = none ∧ service.pfd = some fd ∧ fd ∉ service.strays := by
  cases stage with
  | stopping reconnect own =>
    obtain rfl := Option.some.inj tunnel
    exact owns
  | handshaking own =>
    obtain rfl := Option.some.inj tunnel
    exact owns
  | _ => cases tunnel

/-- The tunnels of a service that nobody is in control of are strays. -/
theorem NothingNative.tunnels_eq (nothing : service.NothingNative) : service.tunnels = service.strays := by
  obtain ⟨noClient, resting, noTunnel⟩ := nothing
  have jobs : service.jobs.filterMap (fun job => job.stage.tunnel) = [] :=
    List.filterMap_eq_nil_iff.mpr fun job mem => (resting job mem).tunnel_eq_none
  rw [tunnels, noClient, jobs, List.filterMap_eq_nil_iff.mpr noTunnel]
  rfl

/-- **The invariant keeps the descriptor owned.** -/
theorem Invariant.safe (invariant : service.Invariant) : service.Safe := by
  have descriptors := invariant.descriptors
  -- One tunnel on the service's descriptor, besides the strays.
  have one : ∀ live : Option Nat, (∀ fd, live = some fd → service.pfd = some fd ∧ fd ∉ service.strays) →
      service.tunnels = live.toList ++ service.strays → service.tunnels.Nodup ∧
        ∀ fd ∈ service.tunnels, fd ∉ service.closed := by
    intro live onPfd same
    rw [same]
    cases live with
    | none => exact ⟨descriptors.nodup, descriptors.strays⟩
    | some fd =>
      obtain ⟨isPfd, fresh⟩ := onPfd fd rfl
      refine ⟨List.nodup_cons.mpr ⟨fresh, descriptors.nodup⟩, ?_⟩
      intro other mem
      rcases List.mem_cons.mp mem with rfl | isStray
      · exact (descriptors.pfd other isPfd).2
      · exact descriptors.strays other isStray
  have absent : ∀ fd, (none : Option Nat) = some fd → service.pfd = some fd ∧ fd ∉ service.strays := by
    intro fd absent
    cases absent
  cases invariant.control with
  | free nothing =>
    obtain ⟨single, opened⟩ := one none absent nothing.tunnels_eq
    exact ⟨single, opened, fun _ => ⟨nothing.1, fun job mem => (nothing.2.1 job mem).tunnel_eq_none⟩⟩
  | @supervised index job control =>
    obtain ⟨found, owns, others, awaited, scope, asked⟩ := control
    have jobs : service.jobs.filterMap (fun job => job.stage.tunnel) = job.stage.tunnel.toList :=
      filterMap_eq_toList found fun k other ne at_k => (others k other ne at_k).tunnel_eq_none
    have same : service.tunnels = service.client.toList ++ job.stage.tunnel.toList ++ [] ++ service.strays := by
      rw [tunnels, jobs, List.filterMap_eq_nil_iff.mpr awaited.tunnel_eq_none]
    have live : service.tunnels.Nodup ∧ ∀ fd ∈ service.tunnels, fd ∉ service.closed := by
      cases tunnel : job.stage.tunnel with
      | none =>
        rw [tunnel, Option.toList_none, List.append_nil, List.append_nil] at same
        exact one service.client descriptors.client same
      | some fd =>
        obtain ⟨noClient, isPfd, fresh⟩ := owns.tunnel tunnel
        rw [tunnel, noClient] at same
        exact one (some fd) (fun other isFd => Option.some.inj isFd ▸ ⟨isPfd, fresh⟩) same
    refine ⟨live.1, live.2, fun down => ?_⟩
    cases asked.symm.trans down
  | @torn index teardown control =>
    obtain ⟨found, owns, jobs, others, asked⟩ := control
    have noJob : service.jobs.filterMap (fun job => job.stage.tunnel) = [] :=
      List.filterMap_eq_nil_iff.mpr fun job mem => (jobs job mem).tunnel_eq_none
    have single : service.teardowns.filterMap (fun teardown => teardown.stage.tunnel) =
        teardown.stage.tunnel.toList := by
      refine filterMap_eq_toList found fun k other ne at_k => ?_
      rw [others k other ne at_k]
      rfl
    have same : service.tunnels = service.client.toList ++ [] ++ teardown.stage.tunnel.toList ++
        service.strays := by
      rw [tunnels, noJob, single]
    have live : service.tunnels.Nodup ∧ ∀ fd ∈ service.tunnels, fd ∉ service.closed := by
      rcases owns with taking | ⟨fd, waiting, noClient, isPfd, fresh⟩
      · rw [taking] at same
        refine one service.client descriptors.client (same.trans ?_)
        rw [List.append_nil]
        exact congrArg (· ++ service.strays) (List.append_nil _)
      · rw [waiting, noClient] at same
        exact one (some fd) (fun other isFd => Option.some.inj isFd ▸ ⟨isPfd, fresh⟩) same
    refine ⟨live.1, live.2, fun down => ?_⟩
    cases asked.symm.trans down

/-- **The tun descriptor is owned** in every state of every run whose steps all meet the condition: at most one
native tunnel is built on it, it is not closed under one, and once the service is torn down no client is there
and none appears. -/
theorem tun_descriptor_owned {events : List ServiceEvent} {last : VpnService}
    (run : Run (Guarded Meets (Taken step)) new events last) : last.Safe := by
  have invariant : last.Invariant := by
    refine run.invariant Invariant ?_ invariant_new
    rintro before event after invariant ⟨meets, taken⟩
    exact invariant_step invariant meets taken
  exact invariant.safe

/-- A tunnel is brought up, taken down by the user, and its descriptor closed. -/
def sampleService : List ServiceEvent :=
  .startTunnel true :: List.replicate 8 (.supervise 0 true) ++ [.stopTunnel, .tearDown 0, .supervise 0 true,
    .tearDown 0, .tearDown 0, .tearDown 0, .drained 0, .tearDown 0]

theorem tun_descriptor_owned_sample : ∃ last : VpnService,
    Run (Guarded Meets (Taken step)) new sampleService last ∧ last.closed = [0] ∧ last.Safe := by
  obtain ⟨last, executed, closed⟩ : ∃ last, execute (guardedStep Meets step) new sampleService = some last ∧
      last.closed = [0] := ⟨_, rfl, rfl⟩
  exact ⟨last, run_of_guarded executed, closed, tun_descriptor_owned (run_of_guarded executed)⟩

/-- **Whoever tears down in the middle of a handshake** closes the descriptor under the tunnel. -/
theorem not_safe_of_revoked_in_handshake {fd : Nat} (found : service.jobs[index]? = some job)
    (handshaking : job.stage = .handshaking fd) (isPfd : service.pfd = some fd)
    (noClient : service.client = none) :
    ∃ torn, execute step service [.onRevoke, .tearDown service.teardowns.length,
      .tearDown service.teardowns.length] = some torn ∧ ¬ torn.Safe := by
  let marked := service.teardownSync .onRevoke
  let past := marked.turn service.teardowns.length ⟨.onRevoke, .taking⟩ .closing
  have client : marked.client = none := by
    show service.cancelTunnelJob.client = none
    rw [cancelTunnelJob_frame]
    exact noClient
  have pfd : marked.pfd = some fd := by
    show service.cancelTunnelJob.pfd = some fd
    rw [cancelTunnelJob_frame]
    exact isPfd
  have atMarked : marked.teardowns[service.teardowns.length]? = some ⟨.onRevoke, .taking⟩ :=
    List.getElem?_concat_length
  have atPast : past.teardowns[service.teardowns.length]? = some ⟨.onRevoke, .closing⟩ :=
    getElem?_set_found atMarked _
  have first : service.step .onRevoke = some marked := rfl
  have second : marked.step (.tearDown service.teardowns.length) = some past := by
    simp only [step, atMarked, VpnService.tearDown, client]
    rfl
  let torn := { past.closeTun with scopeCancelled := past.scopeCancelled || false }.turn
    service.teardowns.length ⟨.onRevoke, .closing⟩ .done
  have third : past.step (.tearDown service.teardowns.length) = some torn := by
    simp only [step, atPast, VpnService.tearDown]
    rfl
  refine ⟨torn, by simp only [execute, first, second, third], fun safe => ?_⟩
  obtain ⟨inside, _⟩ := List.getElem?_eq_some_iff.mp found
  rw [← length_cancelTunnelJob] at inside
  obtain ⟨was, before, stage, _⟩ := exists_of_cancelTunnelJob (List.getElem?_eq_getElem inside)
  obtain rfl := Option.some.inj (found.symm.trans before)
  refine safe.opened fd ?_ ?_
  · refine List.mem_append_left _ (List.mem_append_left _ (List.mem_append_right _ ?_))
    refine List.mem_filterMap.mpr ⟨_, List.getElem_mem inside, ?_⟩
    rw [stage, handshaking]
    rfl
  · show fd ∈ marked.pfd.toList ++ marked.closed
    rw [pfd]
    exact List.mem_cons_self

/-- **A teardown in the middle of a handshake** closes the descriptor under the tunnel. -/
theorem torn_down_in_handshake :
    ¬ ∀ events last, execute step new events = some last → last.Safe := by
  intro always
  have safe := always (.startTunnel true :: List.replicate 7 (.supervise 0 true) ++
    [.onDestroy, .tearDown 0, .tearDown 0]) _ rfl
  exact safe.opened 0 (by decide) (by decide)

end ChameleonPQ.VpnService
