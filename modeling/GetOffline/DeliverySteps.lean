import GetOffline.JobEffects
import GetOffline.Runner

set_option autoImplicit true

namespace GetOffline
open Python Execution

namespace JobWorld

variable [DecidableEq W] [DecidableEq P] [DecidableEq C] {w : JobWorld W P C}

/-- The system has the database of the runner. -/
def Holds (w : JobWorld W P C) (db : Database) : Prop :=
  w.jobs = db.jobs ∧ w.nextId = db.nextId

omit [DecidableEq W] [DecidableEq P] [DecidableEq C] in
theorem Holds.commit_save (h : w.Holds db) (write : Write) (i : Nat) (f : Job → Job) :
    (w.commit write.outcome (JobWorld.save i f)).Holds (write.commit (Database.save i f) db) := by
  obtain ⟨hjobs, hid⟩ := h
  unfold commit Write.commit
  split
  · exact ⟨by rw [JobWorld.save, Database.save, hjobs], hid⟩
  · exact ⟨hjobs, hid⟩

omit [DecidableEq W] [DecidableEq P] [DecidableEq C] in
theorem Holds.commit_create (h : w.Holds db) (write : Write) (job : Job) :
    (w.commit write.outcome (JobWorld.create job)).Holds (write.commit (Database.create job) db) := by
  obtain ⟨hjobs, hid⟩ := h
  unfold commit Write.commit
  split
  · exact ⟨by rw [JobWorld.create, Database.create, hjobs, hid], by rw [JobWorld.create, hid]; rfl⟩
  · exact ⟨hjobs, hid⟩

omit [DecidableEq W] [DecidableEq P] [DecidableEq C] in
theorem Holds.emit (h : w.Holds db) (str : Json → String) (status : JobStatus)
    (errorMessage : String) (write : Write) (worker : Worker) :
    (w.emit str status errorMessage write.now write.updatedAt write.outcome worker).Holds
      (emitMessage str write status errorMessage worker.jobId worker.job db) := by
  unfold JobWorld.emit emitMessage
  rw [h.1]
  cases emitUpdateFinishedMessage str worker.jobId worker.job status errorMessage write.now
      write.updatedAt db.jobs with
  | none => exact h
  | some message => exact h.commit_create write message

/-- The write of a completion message that comes to its queries, or one that cannot raise. -/
def announcement (str : Json → String) (job : Job) (announce : Write) : Write :=
  if announces str job then announce else { announce with outcome := .returned }

theorem error_announcement (str : Json → String) (job : Job) (announce : Write) :
    (announcement str job announce).outcome.error =
      if announces str job then announce.outcome.error else none := by
  unfold announcement
  split <;> rfl

theorem emitMessage_announcement (str : Json → String) (announce : Write) :
    emitMessage str (announcement str job announce) status errorMessage i job db =
      emitMessage str announce status errorMessage i job db := by
  unfold announcement
  split
  · rfl
  · next h =>
    have hnone : emitUpdateFinishedMessage str i job status errorMessage announce.now
        announce.updatedAt db.jobs = none := by
      unfold emitUpdateFinishedMessage
      apply if_neg
      rintro ⟨htype, htoken, -⟩
      simp only [announces, htype, htoken, decide_true, Bool.and_true, not_true_eq_false,
        not_false_eq_true, ne_eq] at h
    unfold emitMessage
    dsimp only
    rw [hnone]

theorem markJob_eq (status : JobStatus) (errorMessage : Option String) (str : Json → String)
    (finish announce : Write) (i : Nat) (job : Job) (db : Database) :
    markJob status errorMessage str finish announce i job db =
      let f := Job.finish finish.now status errorMessage
      let saved := finish.commit (Database.save i f) db
      match finish.outcome.error with
      | some error => (f job, saved, some error)
      | none => (f job, emitMessage str (announcement str (f job) announce) status
          (errorMessage.getD "") i (f job) saved,
          (announcement str (f job) announce).outcome.error) := by
  dsimp only
  rw [emitMessage_announcement, error_announcement]
  rfl

omit [DecidableEq P] [DecidableEq C] in
theorem Holds.setWorker (h : w.Holds db) (k : W) (worker : Worker) :
    (w.setWorker k worker).Holds db := h

omit [DecidableEq P] [DecidableEq C] in
theorem Holds.idle (h : w.Holds db) (k : W) : (w.idle k).Holds db := h

omit [DecidableEq P] [DecidableEq C] in
theorem lookup_idle (k : W) (w : JobWorld W P C) : (w.idle k).workers.lookup k = none :=
  AList.lookup_erase k w.workers

omit [DecidableEq P] [DecidableEq C] in
theorem lookup_setWorker (k : W) (worker : Worker) (w : JobWorld W P C) :
    (w.setWorker k worker).workers.lookup k = some worker :=
  AList.lookup_insert w.workers

theorem step_finish_succeeding (str : Json → String) (hk : w.workers.lookup k = some worker)
    (hphase : worker.phase = .succeeding) (now : Instant) (outcome : Outcome) :
    step str w (.finish k now outcome) = some (w.finishSucceeded k now outcome worker) := by
  rw [step, hk, Option.bind_some, hphase]

theorem step_finish_failing (str : Json → String) (hk : w.workers.lookup k = some worker)
    (hphase : worker.phase = .failing) (now : Instant) (outcome : Outcome) :
    step str w (.finish k now outcome) = some (w.finishFailed k now outcome worker) := by
  rw [step, hk, Option.bind_some, hphase]

theorem step_announcing (str : Json → String) (hk : w.workers.lookup k = some worker)
    (hphase : worker.phase = .announcing) (createdAt updatedAt : Instant) (outcome : Outcome) :
    step str w (.announce k createdAt updatedAt outcome) =
      some (w.announceSucceeded str k createdAt updatedAt outcome worker) := by
  rw [step, hk, Option.bind_some, hphase]

theorem step_announcing_failure (str : Json → String) (hk : w.workers.lookup k = some worker)
    (hphase : worker.phase = .announcingFailure) (createdAt updatedAt : Instant)
    (outcome : Outcome) :
    step str w (.announce k createdAt updatedAt outcome) =
      some (w.announceFailed str k createdAt updatedAt outcome worker) := by
  rw [step, hk, Option.bind_some, hphase]

/-- `mark_job_succeeded` is a run of the system, to the end of the `try` or into its `except`
branch. -/
theorem markJobSucceeded_reaches (str : Json → String) (finish announce : Write) (h : w.Holds db)
    (hk : w.workers.lookup k = some ⟨i, job, .succeeding, error₀⟩) :
    ∃ w', Reaches (step str) w w' ∧
      w'.Holds (markJobSucceeded str finish announce i job db).2.1 ∧
      w'.workers.lookup k = (markJobSucceeded str finish announce i job db).2.2.map fun error =>
        ⟨i, (markJobSucceeded str finish announce i job db).1, .failing, error⟩ := by
  have hstep := step_finish_succeeding str hk rfl finish.now finish.outcome
  have hsaved := h.commit_save finish i (Job.finish finish.now .succeeded none)
  rw [markJobSucceeded, markJob_eq]
  unfold finishSucceeded at hstep
  dsimp only at hstep ⊢
  generalize w.commit finish.outcome (save i (Job.finish finish.now .succeeded none)) = saved at *
  cases he : finish.outcome.error with
  | some error =>
    rw [he] at hstep
    exact ⟨_, .next hstep (.refl _), hsaved.setWorker k _, lookup_setWorker k _ saved⟩
  | none =>
    rw [he] at hstep
    dsimp only at hstep ⊢
    generalize announcement str (job.finish finish.now .succeeded none) announce = announce'
    have hk₁ := lookup_setWorker k
      ⟨i, job.finish finish.now .succeeded none, .announcing, error₀⟩ saved
    have h₁ := hsaved.setWorker k ⟨i, job.finish finish.now .succeeded none, .announcing, error₀⟩
    generalize saved.setWorker k
      ⟨i, job.finish finish.now .succeeded none, .announcing, error₀⟩ = w₁ at hstep hk₁ h₁
    have hemit := h₁.emit str .succeeded "" announce'
      ⟨i, job.finish finish.now .succeeded none, .announcing, error₀⟩
    have hannounce :=
      step_announcing str hk₁ rfl announce'.now announce'.updatedAt announce'.outcome
    unfold announceSucceeded at hannounce
    dsimp only at hannounce
    cases ha : announce'.outcome.error with
    | none =>
      rw [ha] at hannounce
      exact ⟨_, .next hstep (.next hannounce (.refl _)), hemit.idle k, lookup_idle k _⟩
    | some error =>
      rw [ha] at hannounce
      exact ⟨_, .next hstep (.next hannounce (.refl _)), hemit.setWorker k _, lookup_setWorker k _ _⟩

/-- `mark_job_failed` is a run of the system, and the end of the delivery. -/
theorem markJobFailed_reaches (str : Json → String) (finish announce : Write) (h : w.Holds db)
    (hk : w.workers.lookup k = some ⟨i, job, .failing, error⟩) :
    ∃ w', Reaches (step str) w w' ∧
      w'.Holds (markJobFailed error str finish announce i job db).2.1 ∧
      w'.workers.lookup k = none := by
  have hstep := step_finish_failing str hk rfl finish.now finish.outcome
  have hsaved := h.commit_save finish i (Job.finish finish.now .failed (some error))
  rw [markJobFailed, markJob_eq]
  unfold finishFailed at hstep
  dsimp only at hstep ⊢
  generalize w.commit finish.outcome (save i (Job.finish finish.now .failed (some error))) = saved
    at *
  cases he : finish.outcome.error with
  | some raised =>
    rw [he] at hstep
    exact ⟨_, .next hstep (.refl _), hsaved.idle k, lookup_idle k saved⟩
  | none =>
    rw [he] at hstep
    dsimp only at hstep ⊢
    generalize announcement str (job.finish finish.now .failed (some error)) announce = announce'
    have hk₁ := lookup_setWorker k
      ⟨i, job.finish finish.now .failed (some error), .announcingFailure, error⟩ saved
    have h₁ := hsaved.setWorker k ⟨i, job.finish finish.now .failed (some error), .announcingFailure, error⟩
    generalize saved.setWorker k
      ⟨i, job.finish finish.now .failed (some error), .announcingFailure, error⟩ = w₁ at hstep hk₁ h₁
    have hemit := h₁.emit str .failed error announce'
      ⟨i, job.finish finish.now .failed (some error), .announcingFailure, error⟩
    have hannounce :=
      step_announcing_failure str hk₁ rfl announce'.now announce'.updatedAt announce'.outcome
    rw [Option.getD_some]
    exact ⟨_, .next hstep (.next hannounce (.refl _)), hemit.idle k, lookup_idle k _⟩

/-- What the handler of a delivery does, its own touches and all that others do meanwhile, is a run of
the system. -/
def HandlerRuns (str : Json → String) (k : W) (d : Delivery) : Prop :=
  ∀ (w : JobWorld W P C) (i : Nat) (job : Job) (error : String) (db : Database), w.Holds db →
    w.workers.lookup k = some ⟨i, job, .handling, error⟩ →
    ∃ w' : JobWorld W P C, Reaches (step str) w w' ∧ w'.Holds (d.handle job db).2 ∧
      w'.workers.lookup k = some ⟨i, (d.handle job db).1, .handling, error⟩

theorem runClaimedJob_reaches {d : Delivery} (hd : HandlerRuns (W := W) (P := P) (C := C) str k d)
    (h : w.Holds db) (hk : w.workers.lookup k = some ⟨i, job, .claimed, ""⟩) :
    ∃ w', Reaches (step str) w w' ∧ w'.Holds (runClaimedJob str d i job db).1 ∧
      w'.workers.lookup k = none := by
  have hstart : step str w (.startHandler k none) = some { w.setWorker k
      ⟨i, job, .handling, ""⟩ with starts := i :: w.starts } := by
    rw [step, workerIn, hk]
    rfl
  obtain ⟨w₁, hrun, h₁, hk₁⟩ := hd { w.setWorker k ⟨i, job, .handling, ""⟩ with
    starts := i :: w.starts } i job "" db h (lookup_setWorker k _ w)
  have hbegun := Reaches.next hstart hrun
  unfold runClaimedJob
  generalize d.handle job db = handled at h₁ hk₁ ⊢
  obtain ⟨copy, db₁⟩ := handled
  have hleave (raised : Option String) : step str w₁ (.leaveHandler k raised) =
      some (raised.elim (w₁.setWorker k ⟨i, copy, .succeeding, ""⟩)
        fun error => w₁.setWorker k ⟨i, copy, .failing, error⟩) := by
    rw [step, workerIn, hk₁]
    cases raised <;> rfl
  have hleft := hleave d.raised
  dsimp only at h₁ ⊢
  cases hraised : d.raised with
  | some error =>
    rw [hraised] at hleft
    obtain ⟨w', hfail, h', hk'⟩ := markJobFailed_reaches str d.fail d.announceFailure
      (h₁.setWorker k _) (lookup_setWorker k ⟨i, copy, .failing, error⟩ w₁)
    exact ⟨w', hbegun.trans (.next hleft hfail), h', hk'⟩
  | none =>
    rw [hraised] at hleft
    obtain ⟨w₂, hsucceed, h₂, hk₂⟩ := markJobSucceeded_reaches str d.succeed d.announceSuccess
      (h₁.setWorker k _) (lookup_setWorker k ⟨i, copy, .succeeding, ""⟩ w₁)
    dsimp only
    generalize markJobSucceeded str d.succeed d.announceSuccess i copy db₁ = marked at h₂ hk₂ ⊢
    obtain ⟨copy₂, db₂, raised⟩ := marked
    have hdone := hbegun.trans (.next hleft hsucceed)
    cases raised with
    | none => exact ⟨w₂, hdone, h₂, hk₂⟩
    | some error =>
      obtain ⟨w', hfail, h', hk'⟩ := markJobFailed_reaches str d.fail d.announceFailure h₂ hk₂
      exact ⟨w', hdone.trans hfail, h', hk'⟩

omit [DecidableEq P] [DecidableEq C] in
theorem claim_queued (hrow : w.jobs.lookup i = some job) (hq : job.status = .queued) (k : W)
    (now : Instant) (outcome : Outcome) :
    w.claim k i now outcome =
      let claimed := w.commit outcome (JobWorld.save i (Job.claim now))
      match outcome with
      | .returned => claimed.setWorker k ⟨i, job.claim now, .claimed, ""⟩
      | _ => claimed := by
  unfold JobWorld.claim claimJob
  rw [hrow]
  dsimp only
  rw [if_pos hq]
  rfl

/-- Processing a delivery of the runner is a run of the system, in which the worker is idle before
and after. -/
theorem process_reaches {d : Delivery} (hd : HandlerRuns (W := W) (P := P) (C := C) str k d)
    (message : QueuedJobMessage) (h : w.Holds db) (hk : w.workers.lookup k = none) :
    ∃ w', Reaches (step str) w w' ∧ w'.Holds (processQueuedJobMessage str d message db).1 ∧
      w'.workers.lookup k = none := by
  unfold processQueuedJobMessage claimQueuedJob
  cases d.closeBefore with
  | some error => exact ⟨w, .refl w, h, hk⟩
  | none =>
    dsimp only
    cases message.jobId.toNat? with
    | none =>
      cases d.claim.outcome <;> exact ⟨w, .refl w, h, hk⟩
    | some i =>
      dsimp only
      rcases claimJob_cases d.claim.now i db.jobs with ⟨job, hrow, hq, hclaim⟩ | ⟨-, hclaim⟩
      · have hstep : step str w (.claim k i d.claim.now d.claim.outcome) =
            some (w.claim k i d.claim.now d.claim.outcome) := if_pos hk
        rw [claim_queued (h.1 ▸ hrow) hq] at hstep
        have hsaved := h.commit_save d.claim i (Job.claim d.claim.now)
        have hidle := workers_commit_save d.claim.outcome i (Job.claim d.claim.now) w ▸ hk
        rw [hclaim]
        dsimp only at hstep ⊢
        generalize w.commit d.claim.outcome (JobWorld.save i (Job.claim d.claim.now)) = claimed at *
        cases houtcome : d.claim.outcome with
        | returned =>
          rw [houtcome] at hstep
          obtain ⟨w', hrun, h', hk'⟩ := runClaimedJob_reaches hd
            (hsaved.setWorker k ⟨i, job.claim d.claim.now, .claimed, ""⟩) (lookup_setWorker k _ _)
          exact ⟨w', .next hstep hrun, h', hk'⟩
        | rolledBack error =>
          rw [houtcome] at hstep
          exact ⟨claimed, .next hstep (.refl _), hsaved, hidle⟩
        | lost error =>
          rw [houtcome] at hstep
          exact ⟨claimed, .next hstep (.refl _), hsaved, hidle⟩
      · rw [hclaim]
        cases d.claim.outcome <;> exact ⟨w, .refl w, h, hk⟩

end JobWorld

end GetOffline
