import GetOffline.JobEffects

set_option autoImplicit true

namespace GetOffline
open Python Execution

namespace JobWorld

variable [DecidableEq W] [DecidableEq P] [DecidableEq C]

/-- Every row has been numbered. -/
def Numbered (w : JobWorld W P C) : Prop :=
  ∀ id job, w.jobs.lookup id = some job → id < w.nextId

/-- The worker is in one of the given phases with the job. -/
def Covered (covers : WorkerPhase → Bool) (w : JobWorld W P C) (k : W) (id : Nat) : Prop :=
  ∃ worker, w.workers.lookup k = some worker ∧ covers worker.phase = true ∧ worker.jobId = id

/-- At most one worker is in the given phases with a job, and the row then has one of the given
statuses. -/
structure Guard (covers : WorkerPhase → Bool) (ok : JobStatus → Bool) (w : JobWorld W P C) :
    Prop where
  exclusive : ∀ k₁ k₂ id, w.Covered covers k₁ id → w.Covered covers k₂ id → k₁ = k₂
  pinned : ∀ k id, w.Covered covers k id → ∃ job, w.jobs.lookup id = some job ∧ ok job.status = true

/-- The covered workers of a job. -/
def workersOn (covers : WorkerPhase → Bool) (id : Nat) (w : JobWorld W P C) : List W :=
  w.workers.keysWhere fun _ worker => covers worker.phase && worker.jobId == id

/-- The cutoff of a reset, if it comes to have one. -/
def resetCutoff (raw : String) (now : Instant) : Option Instant :=
  (staleRunningJobCutoff raw now).toOption.join

/-- The copy shows the claim of every covered worker of the job, and the claim is later than the
cutoff. -/
def Shields (covers : WorkerPhase → Bool) (cutoff : Instant) (copy : Nat × Job)
    (w : JobWorld W P C) : Prop :=
  ∀ k ∈ w.workersOn covers copy.1, ∀ worker ∈ w.workers.lookup k,
    worker.job.startedAt = copy.2.startedAt ∧
      (worker.job.startedAt.any fun t => cutoff < t) = true

/-- A step that may reset a job does it from such a copy. -/
def Shielded (covers : WorkerPhase → Bool) (w : JobWorld W P C) : JobEvent W P C → Prop
  | .passReset p raw now _ _ =>
    ∀ copy ∈ w.passes.lookup p, ∀ cutoff ∈ resetCutoff raw now, w.Shields covers cutoff copy
  | _ => True

instance (covers : WorkerPhase → Bool) (w : JobWorld W P C) (e : JobEvent W P C) :
    Decidable (w.Shielded covers e) :=
  match e with
  | .passReset p raw now _ _ =>
    inferInstanceAs (Decidable (∀ copy ∈ w.passes.lookup p, ∀ cutoff ∈ resetCutoff raw now,
      ∀ k ∈ w.workersOn covers copy.1, ∀ worker ∈ w.workers.lookup k,
        worker.job.startedAt = copy.2.startedAt ∧
          (worker.job.startedAt.any fun t => cutoff < t) = true))
  | .claim .. | .startHandler .. | .touch .. | .leaveHandler .. | .finish .. | .announce ..
  | .crash .. | .passRead .. | .select .. | .insert .. => isTrue trivial

/-- Nothing raises between the writing of `SUCCEEDED` and the end of the delivery. -/
def KeepsSuccess (w : JobWorld W P C) : JobEvent W P C → Prop
  | .finish k _ (.lost _) => ∀ worker ∈ w.workers.lookup k, worker.phase ≠ .succeeding
  | .announce k _ _ outcome =>
    ∀ worker ∈ w.workers.lookup k, worker.phase = .announcing → outcome.error = none
  | _ => True

omit [DecidableEq P] [DecidableEq C] in
theorem mem_workersOn {w : JobWorld W P C} : k ∈ w.workersOn covers i ↔ w.Covered covers k i := by
  simp only [workersOn, Table.mem_keysWhere, Bool.and_eq_true, beq_iff_eq, Covered]

omit [DecidableEq P] [DecidableEq C] in
theorem covered_setWorker {w : JobWorld W P C} :
    (w.setWorker k worker).Covered covers k' i ↔
      k' = k ∧ covers worker.phase = true ∧ worker.jobId = i ∨ k' ≠ k ∧ w.Covered covers k' i := by
  simp only [Covered, setWorker]
  by_cases hk : k' = k
  · subst k'
    simp only [AList.lookup_insert, Option.some.injEq, exists_eq_left', true_and, ne_eq,
      not_true_eq_false, false_and, or_false]
  · simp only [AList.lookup_insert_ne hk, hk, false_and, ne_eq, not_false_eq_true, true_and,
      false_or]

omit [DecidableEq P] [DecidableEq C] in
theorem covered_idle {w : JobWorld W P C} (h : (w.idle k).Covered covers k' i) :
    k' ≠ k ∧ w.Covered covers k' i := by
  obtain ⟨worker, hw, hc⟩ := h
  by_cases hk : k' = k
  · subst k'
    rw [idle, AList.lookup_erase] at hw
    cases hw
  · rw [idle, AList.lookup_erase_ne hk] at hw
    exact ⟨hk, worker, hw, hc⟩

omit [DecidableEq P] [DecidableEq C] in
theorem covered_uncovered {w : JobWorld W P C} (hphase : covers worker.phase = false)
    (h : (w.setWorker k worker).Covered covers k' i) : k' ≠ k ∧ w.Covered covers k' i := by
  rcases covered_setWorker.1 h with ⟨-, hc, -⟩ | hc
  · rw [hphase] at hc
    cases hc
  · exact hc

omit [DecidableEq P] [DecidableEq C] in
/-- A worker that stays with its job covers no more than it did. -/
theorem covered_moved {w : JobWorld W P C} (hk : w.workers.lookup k = some worker)
    (hid : worker'.jobId = worker.jobId)
    (hphase : covers worker'.phase = true → covers worker.phase = true)
    (h : (w.setWorker k worker').Covered covers k' i) : w.Covered covers k' i := by
  rcases covered_setWorker.1 h with ⟨rfl, hc, hj⟩ | ⟨-, hc⟩
  · exact ⟨worker, hk, hphase hc, hid.symm.trans hj⟩
  · exact hc

omit [DecidableEq W] [DecidableEq P] [DecidableEq C] in
theorem lookup_save (id : Nat) (f : Job → Job) (w : JobWorld W P C) (j : Nat) :
    (w.save id f).jobs.lookup j = if j = id then (w.jobs.lookup id).map f else w.jobs.lookup j :=
  lookup_saveFields id f w.jobs j

omit [DecidableEq W] [DecidableEq P] [DecidableEq C] in
theorem Numbered.save {w : JobWorld W P C} (h : w.Numbered) (id : Nat) (f : Job → Job) :
    (w.save id f).Numbered := by
  intro j job hj
  rw [lookup_save] at hj
  split at hj
  · rename_i hji
    subst j
    obtain ⟨row, hrow, -⟩ := Option.map_eq_some_iff.1 hj
    exact h id row hrow
  · exact h j job hj

omit [DecidableEq W] [DecidableEq P] [DecidableEq C] in
theorem Numbered.create {w : JobWorld W P C} (h : w.Numbered) (job : Job) :
    (w.create job).Numbered := by
  intro j row hj
  by_cases hjn : j = w.nextId
  · subst j
    exact Nat.lt_succ_self _
  · rw [JobWorld.create, AList.lookup_insert_ne hjn] at hj
    exact Nat.lt_succ_of_lt (h j row hj)

omit [DecidableEq W] [DecidableEq P] [DecidableEq C] in
theorem Numbered.emits {w w' : JobWorld W P C} (h : w.Numbered) (hemit : Emits w w') :
    w'.Numbered := by
  rcases hemit with rfl | ⟨message, -, rfl⟩
  · exact h
  · exact h.create message

omit [DecidableEq W] [DecidableEq P] [DecidableEq C] in
/-- A new row leaves the others alone. -/
theorem lookup_create {w : JobWorld W P C} (h : w.Numbered) (job : Job)
    (hj : w.jobs.lookup j = some row) : (w.create job).jobs.lookup j = some row := by
  rw [create, AList.lookup_insert_ne (Nat.ne_of_lt (h j row hj))]
  exact hj

omit [DecidableEq W] [DecidableEq P] [DecidableEq C] in
theorem lookup_emits {w w' : JobWorld W P C} (h : w.Numbered) (hemit : Emits w w')
    (hj : w.jobs.lookup j = some row) : w'.jobs.lookup j = some row := by
  rcases hemit with rfl | ⟨message, -, rfl⟩
  · exact hj
  · exact lookup_create h message hj

omit [DecidableEq W] [DecidableEq P] [DecidableEq C] in
theorem emits_frame {w w' : JobWorld W P C} (hemit : Emits w w') :
    w'.workers = w.workers ∧ w'.starts = w.starts ∧ w'.resets = w.resets := by
  rcases hemit with rfl | ⟨message, -, rfl⟩ <;> exact ⟨rfl, rfl, rfl⟩

/-- What a set of phases and a set of statuses need for `Guard` to be an invariant: a claim covers
the worker, no other step does, and a worker that may finish the job either is covered itself or
leaves a status that is allowed. -/
structure Coverage (covers : WorkerPhase → Bool) (ok : JobStatus → Bool) : Prop where
  moves : ∀ p p', p' ∈ next p → covers p' = true → covers p = true
  starts : covers .handling = true → covers .claimed = true
  announcing : covers .announcing = false
  announcingFailure : covers .announcingFailure = false
  running : ok .running = true
  queued : ok .queued = false
  finished : covers .succeeding = true ∧ covers .failing = true ∨
    ok .succeeded = true ∧ ok .failed = true

section
variable {covers : WorkerPhase → Bool} {ok : JobStatus → Bool} {w w' : JobWorld W P C}

omit [DecidableEq P] [DecidableEq C] in
theorem Guard.of_covered (h : Guard covers ok w)
    (hsub : ∀ k i, w'.Covered covers k i → w.Covered covers k i)
    (hrows : ∀ k i job, w'.Covered covers k i → w.jobs.lookup i = some job →
      ok job.status = true → ∃ job', w'.jobs.lookup i = some job' ∧ ok job'.status = true) :
    Guard covers ok w' where
  exclusive := fun k₁ k₂ i h₁ h₂ => h.exclusive k₁ k₂ i (hsub k₁ i h₁) (hsub k₂ i h₂)
  pinned := by
    intro k i hc
    obtain ⟨job, hjob, hok⟩ := h.pinned k i (hsub k i hc)
    exact hrows k i job hc hjob hok

omit [DecidableEq P] [DecidableEq C] in
/-- Steps that leave the rows alone and cover no more. -/
theorem Guard.of_rows (h : Guard covers ok w) (hjobs : w'.jobs = w.jobs)
    (hsub : ∀ k i, w'.Covered covers k i → w.Covered covers k i) : Guard covers ok w' := by
  refine h.of_covered hsub fun k i job _ hi hok => ?_
  rw [hjobs]
  exact ⟨job, hi, hok⟩

omit [DecidableEq P] [DecidableEq C] in
theorem Guard.emits (h : Guard covers ok w) (hnum : w.Numbered) (hemit : Emits w w') :
    Guard covers ok w' := by
  refine h.of_covered ?_ ?_
  · rintro k i ⟨worker, hw, hc⟩
    rw [(emits_frame hemit).1] at hw
    exact ⟨worker, hw, hc⟩
  · intro k i job _ hi hok
    exact ⟨job, lookup_emits hnum hemit hi, hok⟩

omit [DecidableEq P] [DecidableEq C] in
/-- A change of a row that keeps its status. -/
theorem Guard.save (h : Guard covers ok w) (i : Nat) {f : Job → Job}
    (hf : ∀ job, (f job).status = job.status) : Guard covers ok (w.save i f) := by
  refine h.of_covered (fun k j hc => hc) ?_
  intro k j job _ hj hok
  rw [lookup_save]
  split
  · rename_i hji
    subst j
    refine ⟨f job, by rw [hj, Option.map_some], ?_⟩
    rw [hf]
    exact hok
  · exact ⟨job, hj, hok⟩

omit [DecidableEq P] [DecidableEq C] in
/-- A job that some worker is covered with is not `QUEUED`. -/
theorem Guard.not_queued (h : Guard covers ok w) (hcov : Coverage covers ok)
    (hrow : w.jobs.lookup i = some job) (hq : job.status = .queued) (k : W) :
    ¬ w.Covered covers k i := by
  intro hc
  obtain ⟨row, hrow', hok⟩ := h.pinned k i hc
  rw [hrow] at hrow'
  cases hrow'
  rw [hq, hcov.queued] at hok
  cases hok

omit [DecidableEq P] [DecidableEq C] in
theorem Guard.claimed (h : Guard covers ok w) (hcov : Coverage covers ok)
    (hrow : w.jobs.lookup i = some job) (hq : job.status = .queued) (now : Instant) :
    Guard covers ok (w.save i (Job.claim now)) := by
  refine h.of_covered (fun k j hc => hc) ?_
  intro k j row hc hj hok
  rw [lookup_save, if_neg fun hji => ?_]
  · exact ⟨row, hj, hok⟩
  · subst j
    exact h.not_queued hcov hrow hq k hc

omit [DecidableEq P] [DecidableEq C] in
theorem Guard.taken (h : Guard covers ok w) (hcov : Coverage covers ok)
    (hrow : w.jobs.lookup i = some job) (hq : job.status = .queued) (now : Instant) (k : W)
    (worker : Worker) (hid : worker.jobId = i) :
    Guard covers ok ((w.save i (Job.claim now)).setWorker k worker) := by
  have hc := h.claimed hcov hrow hq now
  have hnone : ∀ k', ¬ (w.save i (Job.claim now)).Covered covers k' i :=
    h.not_queued hcov hrow hq
  refine ⟨?_, ?_⟩
  · intro k₁ k₂ j h₁ h₂
    rcases covered_setWorker.1 h₁ with ⟨rfl, -, hj₁⟩ | ⟨-, hj₁⟩ <;>
      rcases covered_setWorker.1 h₂ with ⟨rfl, -, hj₂⟩ | ⟨-, hj₂⟩
    · rfl
    · exact absurd (hid.symm.trans hj₁ ▸ hj₂) (hnone k₂)
    · exact absurd (hid.symm.trans hj₂ ▸ hj₁) (hnone k₁)
    · exact hc.exclusive k₁ k₂ j hj₁ hj₂
  · intro k' j hj
    rcases covered_setWorker.1 hj with ⟨-, -, hj⟩ | ⟨-, hj⟩
    · refine ⟨job.claim now, ?_, hcov.running⟩
      change (w.save i (Job.claim now)).jobs.lookup j = some (job.claim now)
      rw [lookup_save, if_pos (hj.symm.trans hid), hrow, Option.map_some]
    · exact hc.pinned k' j hj

omit [DecidableEq P] [DecidableEq C] in
/-- The writing of a terminal status by a worker that is then covered no more. -/
theorem Guard.finished (h : Guard covers ok w) (hcov : Coverage covers ok)
    (hk : w.workers.lookup k = some worker)
    (hp : worker.phase = .succeeding ∨ worker.phase = .failing)
    (hs : status = .succeeded ∨ status = .failed) {w' : JobWorld W P C}
    (hjobs : w'.jobs = (w.save worker.jobId (Job.finish now status error)).jobs)
    (hsub : ∀ k' i, w'.Covered covers k' i → k' ≠ k ∧ w.Covered covers k' i) :
    Guard covers ok w' := by
  refine h.of_covered (fun k' i hc => (hsub k' i hc).2) ?_
  intro k' i job hc hi hok
  obtain ⟨hne, hc⟩ := hsub k' i hc
  rw [hjobs, lookup_save]
  split
  · rename_i hji
    refine ⟨job.finish now status error, by rw [← hji, hi, Option.map_some], ?_⟩
    change ok status = true
    rcases hcov.finished with ⟨hsucc, hfail⟩ | ⟨hsucc, hfail⟩
    · -- The worker is covered itself, so that no other one is.
      have hself : w.Covered covers k i := by
        refine ⟨worker, hk, ?_, hji.symm⟩
        rcases hp with hp | hp <;> rw [hp] <;> assumption
      exact absurd (h.exclusive k' k i hc hself) hne
    · rcases hs with rfl | rfl <;> assumption
  · exact ⟨job, hi, hok⟩

omit [DecidableEq P] [DecidableEq C] in
theorem Guard.requeued (h : Guard covers ok w) (hnone : ∀ k, ¬ w.Covered covers k i)
    (now : Instant) : Guard covers ok (w.requeue i now) := by
  refine h.of_covered (fun k j hc => hc) ?_
  intro k j job hc hj hok
  change ∃ job', (w.save i (Job.requeue now)).jobs.lookup j = some job' ∧ _
  rw [lookup_save, if_neg fun hji => ?_]
  · exact ⟨job, hj, hok⟩
  · subst j
    exact hnone k hc

omit [DecidableEq C] in
/-- A stale copy is not one of a job that a shielded worker is covered with. -/
theorem Shielded.not_covered {outcome : Outcome}
    (h : Shielded covers w (.passReset p raw now updatedAt outcome))
    (hp : w.passes.lookup p = some (i, copy)) (hstale : makesStaleJobQueued raw now copy = .ok true)
    (k : W) : ¬ w.Covered covers k i := by
  rintro ⟨worker, hk, hc, hid⟩
  obtain ⟨-, cutoff, hcut, hle⟩ := makesStaleJobQueued_cases hstale
  have hcutoff : cutoff ∈ resetCutoff raw now := by
    rw [resetCutoff, hcut]
    rfl
  have hmem : k ∈ w.workersOn covers i := mem_workersOn.2 ⟨worker, hk, hc, hid⟩
  obtain ⟨hstart, hlater⟩ := h (i, copy) hp cutoff hcutoff k hmem worker hk
  obtain ⟨t, ht, hlt⟩ := (Option.any_eq_true _ _).1 hlater
  rw [← hstart, ht] at hle
  exact absurd hle (not_le.2 (of_decide_eq_true hlt))

theorem Numbered.step (h : w.Numbered) {e : JobEvent W P C} (heff : Effect w e w') :
    w'.Numbered := by
  cases heff with
  | kept => exact h
  | read passes => exact h
  | selected hfree => exact h
  | aborted => exact h
  | inserted hc happlied => exact Numbered.create h _
  | claimed hfree hrow hq => exact h.save _ _
  | claimLost hrow hq => exact h.save _ _
  | started hk hp => exact h
  | moved hk hid hphase => exact h
  | left => exact h
  | touched hk hp => exact h.save _ _
  | succeeded hk hp hid hp' => exact h.save _ _
  | succeededLost hk hp hid hp' => exact h.save _ _
  | failed hk hp hid hp' => exact h.save _ _
  | failedLost hk hp => exact h.save _ _
  | announced hemit =>
    have hemitted := h.emits hemit
    exact hemitted
  | announceRaised hk hp hemit hraised =>
    have hemitted := h.emits hemit
    exact hemitted
  | requeued hp hstale => exact h.save _ _

/-- One step keeps the guard. -/
theorem Guard.step (h : Guard covers ok w) (hcov : Coverage covers ok) (hnum : w.Numbered)
    {e : JobEvent W P C} (hshield : w.Shielded covers e)
    (hkeep : covers .failing = true → w.KeepsSuccess e) (heff : Effect w e w') :
    Guard covers ok w' := by
  cases heff with
  | kept => exact h
  | read passes => exact h.of_rows rfl fun k i hc => hc
  | selected hfree => exact h.of_rows rfl fun k i hc => hc
  | aborted => exact h.of_rows rfl fun k i hc => hc
  | inserted hc happlied =>
    refine h.of_covered (fun k i hc => hc) fun k i job _ hi hok => ?_
    exact ⟨job, lookup_create hnum _ hi, hok⟩
  | claimed hfree hrow hq => exact h.taken hcov hrow hq _ _ _ rfl
  | claimLost hrow hq => exact h.claimed hcov hrow hq _
  | @started k worker hk hp =>
    have hid : ({ worker with phase := .handling } : Worker).jobId = worker.jobId := rfl
    refine h.of_rows rfl fun k' i hc => covered_moved hk hid (fun hc => ?_) hc
    rw [hp]
    exact hcov.starts hc
  | moved hk hid hphase =>
    exact h.of_rows rfl fun k i hc => covered_moved hk hid (hcov.moves _ _ hphase) hc
  | left => exact h.of_rows rfl fun k i hc => (covered_idle hc).2
  | @touched k worker _ copy hk hp =>
    have hsave : Guard covers ok (w.save worker.jobId (Job.saveTouch copy)) :=
      h.save worker.jobId fun _ => rfl
    have hid : ({ worker with job := copy } : Worker).jobId = worker.jobId := rfl
    exact hsave.of_rows rfl fun k i hc => covered_moved hk hid (fun hc => hc) hc
  | succeeded hk hp hid hp' =>
    refine h.finished hcov hk (.inl hp) (.inl rfl) rfl fun k' i hc => ?_
    exact covered_uncovered (hp' ▸ hcov.announcing) hc
  | succeededLost hk hp hid hp' =>
    refine h.finished hcov hk (.inl hp) (.inl rfl) rfl fun k' i hc => ?_
    refine covered_uncovered (Bool.eq_false_iff.2 fun hfail => ?_) hc
    rw [hp'] at hfail
    exact hkeep hfail _ hk hp
  | failed hk hp hid hp' =>
    refine h.finished hcov hk (.inr hp) (.inr rfl) rfl fun k' i hc => ?_
    exact covered_uncovered (hp' ▸ hcov.announcingFailure) hc
  | failedLost hk hp =>
    exact h.finished hcov hk (.inr hp) (.inr rfl) rfl fun k' i hc => covered_idle hc
  | announced hemit =>
    exact (h.emits hnum hemit).of_rows rfl fun k i hc => (covered_idle hc).2
  | announceRaised hk hp hemit hraised =>
    refine (h.emits hnum hemit).of_rows rfl fun k i hc => ?_
    refine (covered_uncovered (Bool.eq_false_iff.2 fun hfail => ?_) hc).2
    have hnone := hkeep hfail _ hk hp
    rw [hraised] at hnone
    cases hnone
  | @requeued p _ _ _ _ _ _ hp hstale =>
    have hread : Guard covers ok { w with passes := AList.erase p w.passes } :=
      h.of_rows rfl fun k i hc => hc
    exact hread.requeued (hshield.not_covered hp hstale) _

omit [DecidableEq W] [DecidableEq P] [DecidableEq C] in
theorem numbered_initial : Numbered (initial : JobWorld W P C) := by
  rintro i job hi
  cases hi

omit [DecidableEq P] [DecidableEq C] in
theorem Guard.initial : Guard covers ok (initial : JobWorld W P C) where
  exclusive := by
    rintro k₁ k₂ i ⟨worker, hw, -⟩
    cases hw
  pinned := by
    rintro k i ⟨worker, hw, -⟩
    cases hw

end

/-- From the claim on until the handler is left. -/
def inHandler (phase : WorkerPhase) : Bool :=
  phase = .claimed || phase = .handling

theorem coverage_inHandler : Coverage inHandler fun status => status ≠ .queued where
  moves := by
    intro p p' hp hc
    cases p <;> cases p' <;> revert hp hc <;> decide
  starts := fun _ => rfl
  announcing := rfl
  announcingFailure := rfl
  running := rfl
  queued := rfl
  finished := .inr ⟨rfl, rfl⟩

/-- The workers inside the handler of the job. -/
def handlers (id : Nat) (w : JobWorld W P C) : List W :=
  w.workersOn (fun phase => phase = .handling) id

omit [DecidableEq P] [DecidableEq C] in
theorem covered_of_mem_handlers {w : JobWorld W P C} (h : k ∈ w.handlers i) :
    w.Covered inHandler k i := by
  obtain ⟨worker, hk, hp, hid⟩ := mem_workersOn.1 h
  refine ⟨worker, hk, ?_, hid⟩
  rw [of_decide_eq_true hp]
  rfl

/-- No two workers are inside the handler of one job, provided no pass resets it at a cutoff that a
worker's claim is not later than, or from a copy that does not show that claim, while the worker
has not left the handler. -/
theorem one_handler_at_a_time (str : Json → String) (es : List (JobEvent W P C))
    {w : JobWorld W P C} (h : exec (step str) initial es = some w)
    (hshield : Along (step str) (Shielded inHandler) initial es) (id : Nat) :
    (w.handlers id).length ≤ 1 := by
  have hstep : ∀ (s : JobWorld W P C) e t,
      s.Numbered ∧ Guard inHandler (fun status => status ≠ .queued) s → s.Shielded inHandler e →
        s.step str e = some t →
          t.Numbered ∧ Guard inHandler (fun status => status ≠ .queued) t := by
    rintro s e t ⟨hnum, hs⟩ hshield ht
    have heff := step_effect ht
    exact ⟨hnum.step heff,
      hs.step coverage_inHandler hnum hshield (fun hfail => by cases hfail) heff⟩
  have hguard := (exec_invariant hstep ⟨numbered_initial, Guard.initial⟩ hshield h).2
  have hnodup : (w.handlers id).Nodup := by
    rw [handlers, workersOn]
    exact Table.nodup_keysWhere _ _
  rw [← List.toFinset_card_of_nodup hnodup, Finset.card_le_one]
  intro k₁ h₁ k₂ h₂
  exact hguard.exclusive k₁ k₂ id (covered_of_mem_handlers (List.mem_toFinset.1 h₁))
    (covered_of_mem_handlers (List.mem_toFinset.1 h₂))

/-- A download job, its claim and the start of its handler. -/
def downloadStarted : List (JobEvent Nat Nat Nat) :=
  [.select 0 ⟨"default", "download_episode", none, some "episode"⟩, .insert 0 0 0 .returned,
    .claim 1 1 0 .returned, .startHandler 1 none]

/-- A pass that finds the job after two hours of a six hour timeout leaves it alone, and a second
message for it is skipped. -/
theorem one_handler_at_a_time_in_time : ∃ w : JobWorld Nat Nat Nat,
    exec (step fun _ => "") initial (downloadStarted ++ [.passRead 0 "episode",
      .passReset 0 "21600" 7200000000 7200000000 .returned, .claim 2 1 7200000001 .returned]) =
        some w ∧ (w.handlers 1).length ≤ 1 := by
  obtain ⟨w, hw⟩ := Option.isSome_iff_exists.1 (by decide :
    (exec (step fun _ => "") initial (downloadStarted ++ [.passRead 0 "episode",
      .passReset 0 "21600" 7200000000 7200000000 .returned,
      .claim 2 1 7200000001 .returned])).isSome = true)
  exact ⟨w, hw, one_handler_at_a_time _ _ hw (by decide) 1⟩

/-- The row's heartbeat is later than the cutoff of a reset while a worker is in the handler. -/
def Beating (w : JobWorld W P C) : JobEvent W P C → Prop
  | .passReset p raw now _ _ =>
    ∀ copy ∈ w.passes.lookup p, ∀ cutoff ∈ resetCutoff raw now,
      ∀ _k ∈ w.workersOn inHandler copy.1, ∀ row ∈ w.jobs.lookup copy.1, cutoff < row.updatedAt
  | _ => True

instance (w : JobWorld W P C) (e : JobEvent W P C) : Decidable (w.Beating e) :=
  match e with
  | .passReset p raw now _ _ =>
    inferInstanceAs (Decidable (∀ copy ∈ w.passes.lookup p, ∀ cutoff ∈ resetCutoff raw now,
      ∀ _k ∈ w.workersOn inHandler copy.1, ∀ row ∈ w.jobs.lookup copy.1, cutoff < row.updatedAt))
  | .claim .. | .startHandler .. | .touch .. | .leaveHandler .. | .finish .. | .announce ..
  | .crash .. | .passRead .. | .select .. | .insert .. => isTrue trivial

/-- The handler touches the job after 20000 seconds; a pass resets it after 30000, as it started
more than 21600 seconds ago. -/
def touchedAndReset : List (JobEvent Nat Nat Nat) :=
  downloadStarted ++ [.touch 1 20000000000 "ffmpeg_conversion" "" .returned,
    .passRead 0 "episode", .passReset 0 "21600" 30000000000 30000000000 .returned,
    .claim 2 1 30000000001 .returned, .startHandler 2 none]

/-- A heartbeat does not keep a job from being reset and claimed again. -/
theorem heartbeat_admits_two_handlers : ¬ ∀ (es : List (JobEvent Nat Nat Nat)) w,
    exec (step fun _ => "") initial es = some w → Along (step fun _ => "") Beating initial es →
      ∀ id, (w.handlers id).length ≤ 1 := by
  intro h
  obtain ⟨w, hw⟩ := Option.isSome_iff_exists.1
    (by decide : (exec (step fun _ => "") initial touchedAndReset).isSome = true)
  have hle := h touchedAndReset w hw (by decide) 1
  have htwo : ((exec (step fun _ => "") initial touchedAndReset).map fun w =>
      (w.handlers 1).length) = some 2 := by decide
  rw [hw, Option.map_some, Option.some.injEq] at htwo
  omega

end JobWorld

end GetOffline
