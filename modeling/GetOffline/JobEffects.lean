import GetOffline.JobSystem

set_option autoImplicit true

namespace GetOffline
open Python

/-- A row is claimed exactly when it is there and `QUEUED`. -/
theorem claimJob_cases (now : Instant) (id : Nat) (jobs : JobTable) :
    (∃ job, jobs.lookup id = some job ∧ job.status = .queued ∧
      claimJob now id jobs = (saveFields id (Job.claim now) jobs, some (job.claim now))) ∨
      (∀ job, jobs.lookup id = some job → job.status ≠ .queued) ∧
        claimJob now id jobs = (jobs, none) := by
  simp only [claimJob]
  cases h : jobs.lookup id with
  | none =>
    right
    refine ⟨fun job hj => ?_, rfl⟩
    cases hj
  | some job =>
    by_cases hq : job.status = .queued
    · exact .inl ⟨job, rfl, hq, by simp only [if_pos hq]⟩
    · refine .inr ⟨fun j hj => ?_, by simp only [if_neg hq]⟩
      cases hj
      exact hq

/-- A job is only made `QUEUED` from a running copy that started at or before the cutoff. -/
theorem makesStaleJobQueued_cases (h : makesStaleJobQueued raw now job = .ok true) :
    job.status = .running ∧ ∃ cutoff, staleRunningJobCutoff raw now = .ok (some cutoff) ∧
      job.startedAt.getD job.updatedAt ≤ cutoff := by
  simp only [makesStaleJobQueued] at h
  split at h
  · rename_i hrun
    cases hc : staleRunningJobCutoff raw now with
    | error e =>
      rw [hc] at h
      cases h
    | ok o =>
      rw [hc] at h
      cases o with
      | none => cases h
      | some cutoff => exact ⟨hrun, cutoff, rfl, of_decide_eq_true (Except.ok.inj h)⟩
  · cases h

/-- A completion message is a finished row. -/
theorem emitUpdateFinishedMessage_status
    (h : emitUpdateFinishedMessage str jobId job status error createdAt updatedAt jobs =
      some message) :
    message.status = .succeeded := by
  simp only [emitUpdateFinishedMessage] at h
  split at h
  · cases h
    rfl
  · cases h

namespace JobWorld

variable [DecidableEq W] [DecidableEq P] [DecidableEq C]

/-- The phases that a worker goes to without a step of its own in `Effect`. -/
def next : WorkerPhase → List WorkerPhase
  | .claimed | .succeeding => [.failing]
  | .handling => [.handling, .succeeding, .failing]
  | .announcing | .failing | .announcingFailure => []

/-- The completion message is inserted or it is not. -/
def Emits (w w' : JobWorld W P C) : Prop :=
  w' = w ∨ ∃ message : Job, message.status = .succeeded ∧ w' = w.create message

/-- What a step can do. -/
inductive Effect (w : JobWorld W P C) : JobEvent W P C → JobWorld W P C → Prop
  | kept : Effect w e w
  | read (passes : Table P (Nat × Job)) : Effect w e { w with passes }
  | selected (hfree : existingJob args w.jobs = none) :
      Effect w (.select c args)
        { w with calls := AList.insert c { args, since := w.nextId } w.calls }
  | aborted : Effect w e { w with calls := AList.erase c w.calls }
  | inserted (hc : w.calls.lookup c = some call) (happlied : outcome.applied = true) :
      Effect w (.insert c createdAt updatedAt outcome)
        ({ w with calls := AList.erase c w.calls }.create (newJob call.args createdAt updatedAt))
  | claimed (hfree : w.workers.lookup k = none) (hrow : w.jobs.lookup jobId = some job)
      (hq : job.status = .queued) :
      Effect w (.claim k jobId now outcome) ((w.save jobId (Job.claim now)).setWorker k
        { jobId, job := job.claim now, phase := .claimed, error := "" })
  | claimLost (hrow : w.jobs.lookup jobId = some job) (hq : job.status = .queued) :
      Effect w (.claim k jobId now outcome) (w.save jobId (Job.claim now))
  | started (hk : w.workers.lookup k = some worker) (hp : worker.phase = .claimed) :
      Effect w (.startHandler k none)
        { w.setWorker k { worker with phase := .handling } with
          starts := worker.jobId :: w.starts }
  | moved (hk : w.workers.lookup k = some worker) (hid : worker'.jobId = worker.jobId)
      (hphase : worker'.phase ∈ next worker.phase) : Effect w e (w.setWorker k worker')
  | left : Effect w e (w.idle k)
  | touched (hk : w.workers.lookup k = some worker) (hp : worker.phase = .handling) :
      Effect w e ((w.save worker.jobId (Job.saveTouch copy)).setWorker k { worker with job := copy })
  | succeeded (hk : w.workers.lookup k = some worker) (hp : worker.phase = .succeeding)
      (hid : worker'.jobId = worker.jobId) (hp' : worker'.phase = .announcing) :
      Effect w e ((w.save worker.jobId (Job.finish now .succeeded none)).setWorker k worker')
  | succeededLost (hk : w.workers.lookup k = some worker) (hp : worker.phase = .succeeding)
      (hid : worker'.jobId = worker.jobId) (hp' : worker'.phase = .failing) :
      Effect w (.finish k now (.lost error))
        ((w.save worker.jobId (Job.finish now .succeeded none)).setWorker k worker')
  | failed (hk : w.workers.lookup k = some worker) (hp : worker.phase = .failing)
      (hid : worker'.jobId = worker.jobId) (hp' : worker'.phase = .announcingFailure) :
      Effect w e ((w.save worker.jobId (Job.finish now .failed error)).setWorker k worker')
  | failedLost (hk : w.workers.lookup k = some worker) (hp : worker.phase = .failing) :
      Effect w e ((w.save worker.jobId (Job.finish now .failed error)).idle k)
  | announced (hemit : Emits w w') : Effect w e (w'.idle k)
  | announceRaised (hk : w.workers.lookup k = some worker) (hp : worker.phase = .announcing)
      (hemit : Emits w w') (hraised : outcome.error = some error) :
      Effect w (.announce k createdAt updatedAt outcome) (w'.setWorker k (worker.fails error))
  | requeued (hp : w.passes.lookup p = some (jobId, copy))
      (hstale : makesStaleJobQueued raw now copy = .ok true) :
      Effect w (.passReset p raw now updatedAt outcome)
        ({ w with passes := AList.erase p w.passes }.requeue jobId updatedAt)

omit [DecidableEq P] [DecidableEq C] in
theorem workerIn_eq_some {w : JobWorld W P C} (h : w.workerIn k phase = some worker) :
    w.workers.lookup k = some worker ∧ worker.phase = phase := by
  obtain ⟨hk, hp⟩ := Option.filter_eq_some_iff.1 h
  exact ⟨hk, of_decide_eq_true hp⟩

omit [DecidableEq W] [DecidableEq P] [DecidableEq C] in
theorem emits_emit (str : Json → String) (status : JobStatus) (error : String)
    (createdAt updatedAt : Instant) (outcome : Outcome) (worker : Worker) (w : JobWorld W P C) :
    Emits w (w.emit str status error createdAt updatedAt outcome worker) := by
  simp only [emit]
  split
  · exact .inl rfl
  · rename_i message hm
    simp only [commit]
    split
    · exact .inr ⟨message, emitUpdateFinishedMessage_status hm, rfl⟩
    · exact .inl rfl

omit [DecidableEq W] [DecidableEq P] [DecidableEq C] in
theorem workers_commit_save (outcome : Outcome) (i : Nat) (f : Job → Job) (w : JobWorld W P C) :
    (w.commit outcome (save i f)).workers = w.workers := by
  rw [commit]
  split <;> rfl

theorem claim_effect {w : JobWorld W P C} (hfree : w.workers.lookup k = none) (jobId : Nat)
    (now : Instant) (outcome : Outcome) :
    Effect w (.claim k jobId now outcome) (w.claim k jobId now outcome) := by
  simp only [claim]
  rcases claimJob_cases now jobId w.jobs with ⟨job, hrow, hq, hclaim⟩ | ⟨-, hclaim⟩
  · rw [hclaim]
    cases outcome with
    | returned => exact .claimed hfree hrow hq
    | rolledBack error => exact .kept
    | lost error => exact .claimLost hrow hq
  · rw [hclaim]
    exact .kept

theorem touch_effect {w : JobWorld W P C} (hk : w.workers.lookup k = some worker)
    (hp : worker.phase = .handling) (now : Instant) (stage title : String) (outcome : Outcome) :
    Effect w e (w.touch k now stage title outcome worker) := by
  simp only [touch]
  split
  · exact .kept
  · rename_i copy hcopy
    simp only [commit]
    split
    · exact .touched hk hp
    · refine .moved hk rfl ?_
      rw [hp]
      exact List.mem_cons_self

theorem finishSucceeded_effect {w : JobWorld W P C} (hk : w.workers.lookup k = some worker)
    (hp : worker.phase = .succeeding) (now : Instant) (outcome : Outcome) :
    Effect w (.finish k now outcome) (w.finishSucceeded k now outcome worker) := by
  cases outcome with
  | returned => exact .succeeded hk hp rfl rfl
  | rolledBack error =>
    refine .moved hk rfl ?_
    rw [hp]
    exact List.mem_cons_self
  | lost error => exact .succeededLost hk hp rfl rfl

theorem finishFailed_effect {w : JobWorld W P C} (hk : w.workers.lookup k = some worker)
    (hp : worker.phase = .failing) (now : Instant) (outcome : Outcome) :
    Effect w e (w.finishFailed k now outcome worker) := by
  cases outcome with
  | returned => exact .failed hk hp rfl rfl
  | rolledBack error => exact .left
  | lost error => exact .failedLost hk hp

theorem announceSucceeded_effect {w : JobWorld W P C} (hk : w.workers.lookup k = some worker)
    (hp : worker.phase = .announcing) (str : Json → String) (createdAt updatedAt : Instant)
    (outcome : Outcome) :
    Effect w (.announce k createdAt updatedAt outcome)
      (w.announceSucceeded str k createdAt updatedAt outcome worker) := by
  have hemit := emits_emit str .succeeded "" createdAt updatedAt outcome worker w
  simp only [announceSucceeded]
  cases herror : outcome.error with
  | none => exact .announced hemit
  | some error => exact .announceRaised hk hp hemit herror

theorem announceFailed_effect (str : Json → String) (k : W) (createdAt updatedAt : Instant)
    (outcome : Outcome) (worker : Worker) (w : JobWorld W P C) :
    Effect w e (w.announceFailed str k createdAt updatedAt outcome worker) :=
  .announced (emits_emit str .failed worker.error createdAt updatedAt outcome worker w)

theorem passReset_effect {w : JobWorld W P C} (hp : w.passes.lookup p = some copy) (raw : String)
    (now updatedAt : Instant) (outcome : Outcome) :
    Effect w (.passReset p raw now updatedAt outcome)
      (w.passReset p raw now updatedAt outcome copy) := by
  simp only [passReset]
  split
  · rename_i hstale
    simp only [commit]
    split
    · exact .requeued hp hstale
    · exact .read _
  · exact .read _

theorem step_effect {str : Json → String} {w w' : JobWorld W P C} {e : JobEvent W P C}
    (h : w.step str e = some w') : Effect w e w' := by
  cases e with
  | claim k jobId now outcome =>
    simp only [step] at h
    split at h
    · rename_i hfree
      cases h
      exact claim_effect hfree jobId now outcome
    · cases h
  | startHandler k raised =>
    obtain ⟨worker, hw, h⟩ := Option.map_eq_some_iff.1 h
    obtain ⟨hk, hp⟩ := workerIn_eq_some hw
    cases raised with
    | none =>
      cases h
      exact .started hk hp
    | some error =>
      cases h
      refine .moved hk rfl ?_
      rw [hp]
      exact List.mem_cons_self
  | touch k now stage title outcome =>
    obtain ⟨worker, hw, h⟩ := Option.map_eq_some_iff.1 h
    obtain ⟨hk, hp⟩ := workerIn_eq_some hw
    cases h
    exact touch_effect hk hp now stage title outcome
  | leaveHandler k raised =>
    obtain ⟨worker, hw, h⟩ := Option.map_eq_some_iff.1 h
    obtain ⟨hk, hp⟩ := workerIn_eq_some hw
    cases raised <;> cases h <;> refine .moved hk rfl ?_ <;> rw [hp]
    · exact List.mem_cons_of_mem _ List.mem_cons_self
    · exact List.mem_cons_of_mem _ (List.mem_cons_of_mem _ List.mem_cons_self)
  | finish k now outcome =>
    obtain ⟨worker, hk, h⟩ := Option.bind_eq_some_iff.1 h
    split at h
    · rename_i hp
      cases h
      exact finishSucceeded_effect hk hp now outcome
    · rename_i hp
      cases h
      exact finishFailed_effect hk hp now outcome
    · cases h
  | announce k createdAt updatedAt outcome =>
    obtain ⟨worker, hk, h⟩ := Option.bind_eq_some_iff.1 h
    split at h
    · rename_i hp
      obtain rfl := Option.some.inj h
      exact announceSucceeded_effect hk hp str createdAt updatedAt outcome
    · obtain rfl := Option.some.inj h
      exact announceFailed_effect str k createdAt updatedAt outcome worker w
    · cases h
  | crash k =>
    cases h
    exact .left
  | passRead p key =>
    simp only [step] at h
    split at h
    · split at h
      · cases h
        exact .kept
      · cases h
        exact .read _
    · cases h
  | passReset p raw now updatedAt outcome =>
    obtain ⟨copy, hp, h⟩ := Option.map_eq_some_iff.1 h
    cases h
    exact passReset_effect hp raw now updatedAt outcome
  | select c args =>
    simp only [step] at h
    split at h
    · split at h
      · cases h
        exact .kept
      · rename_i hfree
        cases h
        exact .selected hfree
    · cases h
  | insert c createdAt updatedAt outcome =>
    obtain ⟨call, hc, h⟩ := Option.map_eq_some_iff.1 h
    cases h
    simp only [commit]
    split
    · rename_i happlied
      exact .inserted hc happlied
    · exact .aborted

end JobWorld

end GetOffline
