import GetOffline.Deliveries
import GetOffline.JobEffects

set_option autoImplicit true

namespace GetOffline
open Python Execution

/-- The row that the id selects is `QUEUED`. -/
def Database.queued (jobId : Int) (db : Database) : Bool :=
  (selectJob jobId db.jobs).any fun job => job.status = .queued

theorem queued_of_id {jobId : Int} (h : jobId.toNat? = some i) (db : Database) :
    db.queued jobId = (db.jobs.lookup i).any fun job => job.status = .queued := by
  rw [Database.queued, selectJob, h, Option.bind_some]

/-- A finished row is not `QUEUED`, whatever was saved to it before. -/
theorem queued_finishJob {jobId : Int} (h : jobId.toNat? = some i) (hs : status ≠ .queued)
    (write : Write) (errorMessage : Option String) (job : Job) (db : Database) :
    (finishJob write status errorMessage i job db).2.queued jobId =
      (db.queued jobId && !write.outcome.applied) := by
  rw [finishJob, Write.commit]
  cases write.outcome.applied with
  | false => simp only [Bool.false_eq_true, ↓reduceIte, Bool.not_false, Bool.and_true]
  | true =>
    simp only [↓reduceIte, Bool.not_true, Bool.and_false, queued_of_id h, Database.lookup_save]
    cases db.jobs.lookup i with
    | none => rfl
    | some job => simp [Job.finish, hs]

/-- The completion message is a `SUCCEEDED` row, even where it takes the place of another. -/
theorem queued_emitMessage {jobId : Int} (h : jobId.toNat? = some i) (hq : db.queued jobId = false) :
    (emitMessage str write status errorMessage i job db).queued jobId = false := by
  unfold emitMessage
  cases hm : emitUpdateFinishedMessage str i job status errorMessage write.now write.updatedAt
      db.jobs with
  | none => exact hq
  | some message =>
    have hs := emitUpdateFinishedMessage_status hm
    dsimp only
    rw [Write.commit]
    split
    · rw [queued_of_id h] at hq ⊢
      rw [Database.lookup_create]
      split
      · rw [Option.any_some, hs]
        rfl
      · exact hq
    · exact hq

theorem queued_markJob {jobId : Int} (h : jobId.toNat? = some i) (hs : status ≠ .queued)
    (errorMessage : Option String) (str : Json → String) (finish announce : Write) (job : Job)
    (db : Database) :
    (markJob status errorMessage str finish announce i job db).2.1.queued jobId =
      (db.queued jobId && !finish.outcome.applied) := by
  have hf := queued_finishJob h hs finish errorMessage job db
  unfold markJob
  generalize finishJob finish status errorMessage i job db = finished at hf ⊢
  obtain ⟨copy, saved⟩ := finished
  cases ho : finish.outcome with
  | returned =>
    rw [ho] at hf
    have hn : saved.queued jobId = false := by rw [hf, Outcome.applied, Bool.not_true, Bool.and_false]
    simp only [Outcome.error, Outcome.applied, Bool.not_true, Bool.and_false]
    exact queued_emitMessage h hn
  | rolledBack error =>
    rw [ho] at hf
    exact hf
  | lost error =>
    rw [ho] at hf
    exact hf

/-- Only a finish that was saved returns. -/
theorem applied_of_markJob
    (h : (markJob status errorMessage str finish announce i job db).2.2 = none) :
    finish.outcome.applied = true := by
  rw [markJob] at h
  cases ho : finish.outcome with
  | returned => rfl
  | rolledBack error => simp [ho, Outcome.error] at h
  | lost error => rfl

/-- No `finish_job` call of the delivery is saved. -/
def Delivery.resultLost (d : Delivery) : Bool :=
  (d.raised.isSome || !d.succeed.outcome.applied) && !d.fail.outcome.applied

/-- The handler leaves the job that it was given `QUEUED` again. -/
def Delivery.putBack (d : Delivery) (jobId : Int) (db : Database) : Bool :=
  match jobId.toNat?, selectJob jobId db.jobs with
  | some i, some job =>
    let claim := Job.claim d.claim.now
    (d.handle (claim job) (db.save i claim)).2.queued jobId
  | _, _ => false

/-- The message of a `QUEUED` job is lost: the job is not claimed because something raises, or it
is put back to `QUEUED` while its handler runs and no result is saved over that. -/
def Delivery.strands (d : Delivery) (jobId : Int) (db : Database) : Bool :=
  db.queued jobId &&
    (d.closeBefore.isSome || !d.claim.outcome.applied ||
      d.claim.outcome = .returned && d.putBack jobId db && d.resultLost)

theorem queued_runClaimedJob {jobId : Int} (h : jobId.toNat? = some i) :
    (runClaimedJob str d i job db).1.queued jobId =
      ((d.handle job db).2.queued jobId && d.resultLost) := by
  unfold runClaimedJob Delivery.resultLost
  generalize d.handle job db = handled
  obtain ⟨copy, db⟩ := handled
  have hfail (error : String) (job : Job) (db : Database) :=
    queued_markJob h (show JobStatus.failed ≠ .queued from nofun) (some error) str d.fail
      d.announceFailure job db
  cases hr : d.raised with
  | some error =>
    simpa only [markJobFailed, Option.isSome_some, Bool.true_or, Bool.true_and] using
      hfail error copy db
  | none =>
    have hsucceed := queued_markJob h (show JobStatus.succeeded ≠ .queued from nofun) none str
      d.succeed d.announceSuccess copy db
    have happlied : (markJob .succeeded none str d.succeed d.announceSuccess i copy db).2.2 = none →
        d.succeed.outcome.applied = true := applied_of_markJob
    dsimp only [markJobSucceeded]
    generalize markJob .succeeded none str d.succeed d.announceSuccess i copy db = marked at *
    obtain ⟨copy', db', raised⟩ := marked
    dsimp only at hsucceed happlied ⊢
    cases raised with
    | none =>
      rw [happlied rfl, Bool.not_true, Bool.and_false] at hsucceed
      simp only [hsucceed, happlied rfl, Option.isSome_none, Bool.not_true, Bool.or_false,
        Bool.false_and, Bool.and_false]
    | some error =>
      dsimp only [markJobFailed]
      rw [hfail, hsucceed, Option.isSome_none, Bool.false_or, Bool.and_assoc]

/-- A claim either returns a job that was `QUEUED`, or nothing: then only a write that was rolled
back leaves a job `QUEUED`. -/
theorem claimQueuedJob_cases (claim : Write) (jobId : Int) (db : Database) :
    (∃ i job, jobId.toNat? = some i ∧ selectJob jobId db.jobs = some job ∧
      db.queued jobId = true ∧ claim.outcome = .returned ∧
      claimQueuedJob claim jobId db =
        (db.save i (Job.claim claim.now), .ok (some (i, job.claim claim.now)))) ∨
    ((db.queued jobId && decide (claim.outcome = .returned)) = false ∧
      (∀ r, (claimQueuedJob claim jobId db).2 ≠ .ok (some r)) ∧
      (claimQueuedJob claim jobId db).1.queued jobId =
        (db.queued jobId && !claim.outcome.applied)) := by
  unfold claimQueuedJob
  cases hi : jobId.toNat? with
  | none =>
    right
    have hq : db.queued jobId = false := by
      rw [Database.queued, selectJob, hi]
      rfl
    refine ⟨by rw [hq, Bool.false_and], fun r hr => ?_, hq.trans (by rw [hq, Bool.false_and])⟩
    cases ho : claim.outcome <;> rw [ho] at hr <;> cases hr
  | some i =>
    rcases claimJob_cases claim.now i db.jobs with ⟨job, hrow, hs, hclaim⟩ | ⟨hrow, hclaim⟩
    · have hq : db.queued jobId = true := by
        rw [queued_of_id hi, hrow, Option.any_some, hs]
        rfl
      dsimp only
      rw [hclaim]
      cases ho : claim.outcome with
      | returned =>
        refine .inl ⟨i, job, rfl, ?_, hq, rfl, ?_⟩
        · rw [selectJob, hi, Option.bind_some, hrow]
        · rw [Write.commit, ho]
          rfl
      | rolledBack error =>
        refine .inr ⟨Bool.and_false _, fun r hr => ?_, ?_⟩
        · simp only [Outcome.error, Option.elim_some, reduceCtorEq] at hr
        · rw [Write.commit, ho]
          exact (Bool.and_true _).symm
      | lost error =>
        refine .inr ⟨Bool.and_false _, fun r hr => ?_, ?_⟩
        · simp only [Outcome.error, Option.elim_some, reduceCtorEq] at hr
        · rw [Write.commit, ho, queued_of_id hi]
          simp only [Outcome.applied, ↓reduceIte, Database.lookup_save, hrow, Option.map_some,
            Option.any_some, Job.claim, Bool.not_true, Bool.and_false]
          rfl
    · right
      have hq : db.queued jobId = false := by
        rw [queued_of_id hi]
        cases hl : db.jobs.lookup i with
        | none => rfl
        | some job => exact decide_eq_false (hrow job hl)
      dsimp only
      rw [hclaim]
      refine ⟨by rw [hq, Bool.false_and], fun r hr => ?_, ?_⟩
      · cases ho : claim.outcome <;> rw [ho] at hr <;> cases hr
      · rw [hq, Bool.false_and]

theorem queued_process (str : Json → String) (d : Delivery) (message : QueuedJobMessage)
    (db : Database) :
    (processQueuedJobMessage str d message db).1.queued message.jobId =
      d.strands message.jobId db := by
  unfold processQueuedJobMessage Delivery.strands
  cases d.closeBefore with
  | some error => simp only [Option.isSome_some, Bool.true_or, Bool.and_true]
  | none =>
    dsimp only
    rcases claimQueuedJob_cases d.claim message.jobId db with
      ⟨i, job, hi, hrow, hq, ho, hclaim⟩ | ⟨hr, hclaim, hq⟩
    · rw [hclaim, hq, ho, Delivery.putBack, hi, hrow]
      simp only [queued_runClaimedJob hi, Option.isSome_none, Outcome.applied, Bool.not_true,
        Bool.false_or, Bool.true_and, decide_true]
    · have hs : (db.queued message.jobId && (false || !d.claim.outcome.applied ||
          d.claim.outcome = .returned && d.putBack message.jobId db && d.resultLost)) =
          (db.queued message.jobId && !d.claim.outcome.applied) := by
        cases hj : db.queued message.jobId with
        | false => rfl
        | true =>
          rw [hj, Bool.true_and] at hr
          rw [hr, Bool.false_and, Bool.false_and, Bool.or_false, Bool.false_or]
      rw [Option.isSome_none, hs]
      generalize claimQueuedJob d.claim message.jobId db = claimed at hclaim hq ⊢
      obtain ⟨db', result⟩ := claimed
      rcases result with error | _ | r
      · exact hq
      · exact hq
      · exact (hclaim r rfl).elim

/-- Settled for good while the job's row is `QUEUED`. -/
def Settled.stranded (s : Settled) : Prop :=
  s.settlement.final = true ∧ s.status = some .queued

theorem status_eq_queued {jobId : Int} {db : Database} :
    (selectJob jobId db.jobs).map Job.status = some .queued ↔ db.queued jobId = true := by
  rw [Database.queued]
  cases selectJob jobId db.jobs with
  | none => simp
  | some job => simp

/-- Processing a delivery adds one record, stranded exactly when the delivery strands its job. -/
theorem settled_processDelivery (str : Json → String) (d : Delivery) (message : QueuedJobMessage)
    (c : Consumer) :
    ∃ s : Settled, (processDelivery str d message c).1.settled = s :: c.settled ∧
      (s.stranded ↔ d.strands message.jobId (d.others c.db) = true) := by
  have hq := queued_process str d message (d.others c.db)
  unfold processDelivery
  generalize processQueuedJobMessage str d message (d.others c.db) = processed at hq ⊢
  obtain ⟨db, raised⟩ := processed
  refine ⟨_, rfl, ?_⟩
  dsimp only at hq ⊢
  rw [← hq, ← status_eq_queued, Settled.stranded]
  cases raised with
  | none => exact and_iff_right rfl
  | some error => exact and_iff_right rfl

/-- The message of a delivery that its worker goes on to process. -/
def Delivery.accepted (limit : Nat) (config : WorkerConfig) (c : Consumer) (d : Delivery) :
    Option QueuedJobMessage :=
  match QueuedJobMessage.fromBody limit d.body with
  | .error _ => none
  | .ok message =>
    match workerAcceptsJob config.workerType message.jobId d.lookup c.db.jobs with
    | .ok true => some message
    | _ => none

/-- Handling the delivery costs a `QUEUED` job its message. -/
def Delivery.loses (limit : Nat) (config : WorkerConfig) (c : Consumer) (d : Delivery) : Bool :=
  (d.accepted limit config c).any fun message => d.strands message.jobId (d.others c.db)

theorem handleDelivery_stranded (limit : Nat) (str : Json → String) (config : WorkerConfig)
    (d : Delivery) (c : Consumer) :
    (∀ r ∈ (handleDelivery limit str config d c).1.settled, ¬ r.stranded) ↔
      (∀ r ∈ c.settled, ¬ r.stranded) ∧ d.loses limit config c = false := by
  obtain ⟨hbad, error, he⟩ | ⟨message, hm, hr, ⟨ha, he⟩ | ⟨ha, he⟩⟩ :=
    handleDelivery_cases limit str config d c
  · have hn : d.accepted limit config c = none := by
      unfold Delivery.accepted
      split
      · rfl
      · next message hm =>
        split
        · next ha =>
          have hbody := fromBody_isOk.1 ⟨message, hm⟩
          exact (hbad.elim (· hbody) (· (routed_iff.2 ⟨true, ha⟩))).elim
        · rfl
    rw [he, Delivery.loses, hn]
    exact (and_iff_left rfl).symm
  · have hl : d.loses limit config c = false := by
      rw [Delivery.loses, Delivery.accepted, hm]
      dsimp only
      rw [ha]
      rfl
    rw [he]
    simp [Consumer.settle, Settled.stranded, Settlement.final, hl]
  · obtain ⟨r, hrec, hstranded⟩ := settled_processDelivery str d message c
    have hl : d.loses limit config c = d.strands message.jobId (d.others c.db) := by
      rw [Delivery.loses, Delivery.accepted, hm]
      dsimp only
      rw [ha]
      rfl
    rw [he]
    dsimp only
    rw [hrec, List.forall_mem_cons, hstranded, hl, Bool.not_eq_true, and_comm]

namespace ConsumerLoop

/-- What the loop meets costs a `QUEUED` job its message. -/
def loses (limit : Nat) (config : WorkerConfig) (s : ConsumerLoop) (event : LoopEvent) : Bool :=
  (s.handled event).any fun d => d.loses limit config s.consumer

theorem receive_stranded (h : receive limit str config s event = some t) :
    (∀ r ∈ t.consumer.settled, ¬ r.stranded) ↔
      (∀ r ∈ s.consumer.settled, ¬ r.stranded) ∧ s.loses limit config event = false := by
  rw [loses]
  obtain ⟨-, ⟨hd, hsettled, -⟩ | ⟨d, hd, hc, -⟩⟩ := receive_cases h
  · rw [hd, hsettled]
    exact (and_iff_left rfl).symm
  · rw [hd, hc, handleDelivery_stranded, Option.any_some]

end ConsumerLoop

/-- In every run of the consumer loop, messages are settled for good only once their job is no
longer `QUEUED`, exactly when no delivery of the run costs a `QUEUED` job its message. -/
theorem settled_not_queued_iff
    (h : exec (ConsumerLoop.receive limit str config) (.initial db) events = some t) :
    (∀ s ∈ t.consumer.settled, s.settlement.final = true → s.status ≠ some .queued) ↔
      Along (ConsumerLoop.receive limit str config)
        (fun s event => s.loses limit config event = false) (.initial db) events := by
  have hrun := exec_keeps_iff (P := fun s => ∀ r ∈ s.consumer.settled, ¬ r.stranded)
    (fun s e t => ConsumerLoop.receive_stranded) h
  simp only [Settled.stranded, not_and] at hrun
  rw [hrun]
  exact and_iff_right fun r hr => absurd hr List.not_mem_nil

/-- The message of one job, as the publisher writes it. -/
def bodyOfJobOne : List UInt8 :=
  [0x7b, 0x22, 0x6a, 0x6f, 0x62, 0x5f, 0x69, 0x64, 0x22, 0x3a, 0x20, 0x31, 0x7d]

/-- One `QUEUED` job. -/
def jobOneQueued : Database :=
  .create (newJob ⟨"default", "retention_cleanup", none, none⟩ 0 0) .empty

theorem settled_not_queued_finished :
    ∃ t, exec (ConsumerLoop.receive 1000 (fun _ => "") { workerType := .cleanup, maxMessages := 1 })
        (.initial jobOneQueued) [.delivery (.ofBody 1 bodyOfJobOne)] = some t ∧
      ∀ s ∈ t.consumer.settled, s.settlement.final = true → s.status ≠ some .queued := by
  obtain ⟨t, ht⟩ := Option.isSome_iff_exists.1 (show (exec (ConsumerLoop.receive 1000 (fun _ => "")
    { workerType := .cleanup, maxMessages := 1 }) (.initial jobOneQueued)
    [.delivery (.ofBody 1 bodyOfJobOne)]).isSome = true by decide)
  exact ⟨t, ht, (settled_not_queued_iff ht).2 (by decide)⟩

/-- The claim of a `QUEUED` job raises, and its message is dropped. -/
theorem failed_claim_drops_message : ¬ ∀ (limit : Nat) (str : Json → String) (config : WorkerConfig)
    (db : Database) (events : List LoopEvent) (t : ConsumerLoop),
    exec (ConsumerLoop.receive limit str config) (.initial db) events = some t →
      ∀ s ∈ t.consumer.settled, s.settlement.final = true → s.status ≠ some .queued := by
  intro h
  let config : WorkerConfig := { workerType := .cleanup, maxMessages := 1 }
  let d : Delivery := { Delivery.ofBody 1 bodyOfJobOne with
    claim := { now := 0, updatedAt := 0, outcome := .rolledBack "database is locked" } }
  have hrun : (exec (ConsumerLoop.receive 1000 (fun _ => "") config) (.initial jobOneQueued)
      [.delivery d]).map (fun t => t.consumer.settled) =
        some [{ tag := 1, jobId := 1, settlement := .nack false, status := some .queued }] := by
    decide
  obtain ⟨t, ht, hs⟩ := Option.map_eq_some_iff.1 hrun
  have hmem := List.mem_singleton_self (⟨1, 1, .nack false, some .queued⟩ : Settled)
  rw [← hs] at hmem
  exact h _ _ _ _ _ _ ht _ hmem rfl rfl

end GetOffline
