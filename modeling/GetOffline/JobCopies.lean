import GetOffline.JobExclusion

set_option autoImplicit true

namespace GetOffline
open Python Execution

/-- The two are the same job: they differ at most in how far it has come. -/
structure Job.SameData (row copy : Job) : Prop where
  profileId : row.profileId = copy.profileId
  jobType : row.jobType = copy.jobType
  idempotencyKey : row.idempotencyKey = copy.idempotencyKey
  payload : ∀ key, key ≠ "active_stage" → key ≠ "active_title" →
    Json.get key row.payload.dict = Json.get key copy.payload.dict

namespace Job.SameData
variable {row copy other : Job}

theorem refl (job : Job) : SameData job job :=
  ⟨rfl, rfl, rfl, fun _ _ _ => rfl⟩

theorem symm (h : SameData row copy) : SameData copy row :=
  ⟨h.profileId.symm, h.jobType.symm, h.idempotencyKey.symm,
    fun key hstage htitle => (h.payload key hstage htitle).symm⟩

theorem trans (h : SameData row copy) (h' : SameData copy other) : SameData row other :=
  ⟨h.profileId.trans h'.profileId, h.jobType.trans h'.jobType,
    h.idempotencyKey.trans h'.idempotencyKey,
    fun key hstage htitle => (h.payload key hstage htitle).trans (h'.payload key hstage htitle)⟩

theorem claim (now : Instant) (job : Job) : SameData (job.claim now) job :=
  ⟨rfl, rfl, rfl, fun _ _ _ => rfl⟩

theorem finish (now : Instant) (status : JobStatus) (errorMessage : Option String) (job : Job) :
    SameData (job.finish now status errorMessage) job :=
  ⟨rfl, rfl, rfl, fun _ _ _ => rfl⟩

theorem requeue (now : Instant) (job : Job) : SameData (job.requeue now) job :=
  ⟨rfl, rfl, rfl, fun _ _ _ => rfl⟩

theorem touch (h : touchActiveJob now stage title copy = some touched) : SameData touched copy := by
  have hsame : touched.profileId = copy.profileId ∧ touched.jobType = copy.jobType ∧
      touched.idempotencyKey = copy.idempotencyKey := by
    simp only [touchActiveJob] at h
    split at h
    · cases h
    · obtain rfl := Option.some.inj h
      exact ⟨rfl, rfl, rfl⟩
  exact ⟨hsame.1, hsame.2.1, hsame.2.2, fun key hstage htitle => get_touchActiveJob h hstage htitle⟩

/-- A touch saves the payload of the copy. -/
theorem saveTouch (h : SameData row copy) (htouch : touchActiveJob now stage title copy = some touched) :
    SameData (Job.saveTouch touched row) row :=
  ⟨rfl, rfl, rfl, fun key hstage htitle =>
    ((touch htouch).payload key hstage htitle).trans (h.payload key hstage htitle).symm⟩

theorem updateCompletionToken (h : SameData row copy) (str : Json → String) :
    updateCompletionToken str row = GetOffline.updateCompletionToken str copy := by
  rw [GetOffline.updateCompletionToken, GetOffline.updateCompletionToken,
    h.payload "completion_token" (by decide) (by decide)]

end Job.SameData

namespace JobWorld

variable [DecidableEq W] [DecidableEq P] [DecidableEq C]

/-- Every row of the first world is in the second one, as the same job. -/
def KeepsData (w w' : JobWorld W P C) : Prop :=
  ∀ i row, w.jobs.lookup i = some row → ∃ row', w'.jobs.lookup i = some row' ∧ row'.SameData row

/-- What each worker has in hand is the job of its row. -/
def CopiesAgree (w : JobWorld W P C) : Prop :=
  ∀ k worker, w.workers.lookup k = some worker →
    ∃ row, w.jobs.lookup worker.jobId = some row ∧ row.SameData worker.job

/-- The rows that a step may add: that of a call, and the completion message of a worker. -/
inductive NewRow (str : Json → String) (w : JobWorld W P C) : JobEvent W P C → Job → Prop
  | inserted (hc : w.calls.lookup c = some call) :
      NewRow str w (.insert c createdAt updatedAt outcome) (newJob call.args createdAt updatedAt)
  | announced (hk : w.workers.lookup k = some worker)
      (hemit : emitUpdateFinishedMessage str worker.jobId worker.job status error createdAt updatedAt
        w.jobs = some message) :
      NewRow str w (.announce k createdAt updatedAt outcome) message

/-- What every step does to the rows and to the copies of them. -/
structure Continues (str : Json → String) (w : JobWorld W P C) (e : JobEvent W P C)
    (w' : JobWorld W P C) : Prop where
  keeps : w.KeepsData w'
  copies : w'.CopiesAgree
  added : ∀ i row, w'.jobs.lookup i = some row →
    (∃ old, w.jobs.lookup i = some old) ∨ i = w.nextId ∧ NewRow str w e row

section
variable {w w' : JobWorld W P C} {str : Json → String} {e : JobEvent W P C}

omit [DecidableEq W] [DecidableEq P] [DecidableEq C] in
theorem KeepsData.refl (w : JobWorld W P C) : w.KeepsData w :=
  fun _ row h => ⟨row, h, .refl row⟩

omit [DecidableEq W] [DecidableEq P] [DecidableEq C] in
theorem KeepsData.save (i : Nat) {f : Job → Job}
    (hf : ∀ row, w.jobs.lookup i = some row → (f row).SameData row) : w.KeepsData (w.save i f) := by
  intro j row hrow
  rw [lookup_save]
  split
  · next h =>
    subst h
    exact ⟨f row, by rw [hrow, Option.map_some], hf row hrow⟩
  · exact ⟨row, hrow, .refl row⟩

omit [DecidableEq W] [DecidableEq P] [DecidableEq C] in
theorem KeepsData.create (hnum : w.Numbered) (job : Job) : w.KeepsData (w.create job) :=
  fun _ row hrow => ⟨row, lookup_create hnum job hrow, .refl row⟩

omit [DecidableEq P] [DecidableEq C] in
/-- The workers of the next world have the jobs that they had, or that of a row. -/
theorem CopiesAgree.of_keeps (h : w.CopiesAgree) (hkeeps : w.KeepsData w')
    (hworkers : ∀ k worker, w'.workers.lookup k = some worker →
      (∃ k' old, w.workers.lookup k' = some old ∧ old.jobId = worker.jobId ∧
        old.job.SameData worker.job) ∨
      ∃ row, w'.jobs.lookup worker.jobId = some row ∧ row.SameData worker.job) : w'.CopiesAgree := by
  intro k worker hk
  rcases hworkers k worker hk with ⟨k', old, hold, hid, hdata⟩ | hrow
  · obtain ⟨row, hrow, hsame⟩ := h k' old hold
    obtain ⟨row', hrow', hsame'⟩ := hkeeps _ row hrow
    rw [hid] at hrow'
    exact ⟨row', hrow', (hsame'.trans hsame).trans hdata⟩
  · exact hrow

omit [DecidableEq P] [DecidableEq C] in
/-- A worker goes on with its job. -/
theorem CopiesAgree.set (h : w.CopiesAgree) (hkeeps : w.KeepsData w')
    (hk : w.workers.lookup k = some worker) (hid : worker'.jobId = worker.jobId)
    (hdata : worker.job.SameData worker'.job) (hworkers : w'.workers = w.workers.insert k worker') :
    w'.CopiesAgree := by
  refine h.of_keeps hkeeps fun k' other hother => .inl ?_
  rw [hworkers] at hother
  by_cases hkk : k' = k
  · subst hkk
    rw [AList.lookup_insert] at hother
    obtain rfl := Option.some.inj hother
    exact ⟨k', worker, hk, hid.symm, hdata⟩
  · rw [AList.lookup_insert_ne hkk] at hother
    exact ⟨k', other, hother, rfl, .refl _⟩

omit [DecidableEq P] [DecidableEq C] in
theorem CopiesAgree.idle (h : w.CopiesAgree) (hkeeps : w.KeepsData w')
    (hworkers : w'.workers = w.workers.erase k) : w'.CopiesAgree := by
  refine h.of_keeps hkeeps fun k' other hother => .inl ?_
  rw [hworkers] at hother
  by_cases hkk : k' = k
  · subst hkk
    rw [AList.lookup_erase] at hother
    cases hother
  · rw [AList.lookup_erase_ne hkk] at hother
    exact ⟨k', other, hother, rfl, .refl _⟩

omit [DecidableEq P] [DecidableEq C] in
theorem CopiesAgree.same (h : w.CopiesAgree) (hkeeps : w.KeepsData w')
    (hworkers : w'.workers = w.workers) : w'.CopiesAgree := by
  refine h.of_keeps hkeeps fun k other hother => .inl ?_
  rw [hworkers] at hother
  exact ⟨k, other, hother, rfl, .refl _⟩

omit [DecidableEq P] in
theorem added_of_save (hjobs : w'.jobs = (w.save i f).jobs) :
    ∀ j row, w'.jobs.lookup j = some row →
      (∃ old, w.jobs.lookup j = some old) ∨ j = w.nextId ∧ NewRow str w e row := by
  intro j row hrow
  rw [hjobs, lookup_save] at hrow
  split at hrow
  · next h =>
    subst h
    obtain ⟨old, hold, -⟩ := Option.map_eq_some_iff.1 hrow
    exact .inl ⟨old, hold⟩
  · exact .inl ⟨row, hrow⟩

omit [DecidableEq P] in
theorem added_of_jobs (hjobs : w'.jobs = w.jobs) :
    ∀ j row, w'.jobs.lookup j = some row →
      (∃ old, w.jobs.lookup j = some old) ∨ j = w.nextId ∧ NewRow str w e row := by
  intro j row hrow
  rw [hjobs] at hrow
  exact .inl ⟨row, hrow⟩

omit [DecidableEq W] [DecidableEq P] [DecidableEq C] in
theorem KeepsData.of_jobs (hjobs : w'.jobs = w.jobs) : w.KeepsData w' := by
  intro i row hrow
  rw [hjobs]
  exact ⟨row, hrow, .refl row⟩

omit [DecidableEq W] [DecidableEq P] [DecidableEq C] in
theorem KeepsData.of_save (hjobs : w'.jobs = (w.save i f).jobs)
    (hf : ∀ row, w.jobs.lookup i = some row → (f row).SameData row) : w.KeepsData w' := by
  intro j row hrow
  rw [hjobs]
  exact KeepsData.save i hf j row hrow

omit [DecidableEq W] [DecidableEq P] [DecidableEq C] in
/-- The jobs after a statement that may have been rolled back. -/
theorem jobs_commit (outcome : Outcome) (i : Nat) (f : Job → Job) (w : JobWorld W P C) :
    (w.commit outcome (save i f)).jobs = w.jobs ∨
      (w.commit outcome (save i f)).jobs = (w.save i f).jobs := by
  rw [commit]
  split
  · exact .inr rfl
  · exact .inl rfl

omit [DecidableEq P] in
/-- A statement that saves to a row, if it takes effect, and a worker that goes on. -/
theorem Continues.set (hcopies : w.CopiesAgree) (hk : w.workers.lookup k = some worker)
    (hworkers : w'.workers = w.workers.insert k worker')
    (hjobs : w'.jobs = w.jobs ∨ w'.jobs = (w.save worker.jobId f).jobs)
    (hf : ∀ row, w.jobs.lookup worker.jobId = some row → (f row).SameData row)
    (hid : worker'.jobId = worker.jobId) (hdata : worker.job.SameData worker'.job) :
    Continues str w e w' := by
  rcases hjobs with hjobs | hjobs
  · have hkeeps := KeepsData.of_jobs hjobs
    exact ⟨hkeeps, hcopies.set hkeeps hk hid hdata hworkers, added_of_jobs hjobs⟩
  · have hkeeps := KeepsData.of_save hjobs hf
    exact ⟨hkeeps, hcopies.set hkeeps hk hid hdata hworkers, added_of_save hjobs⟩

omit [DecidableEq P] in
/-- A statement that saves to a row, if it takes effect, and workers that stay or go. -/
theorem Continues.save (hcopies : w.CopiesAgree)
    (hjobs : w'.jobs = w.jobs ∨ w'.jobs = (w.save i f).jobs)
    (hf : ∀ row, w.jobs.lookup i = some row → (f row).SameData row)
    (hworkers : w'.workers = w.workers ∨ ∃ k, w'.workers = w.workers.erase k) :
    Continues str w e w' := by
  have hcopies' (hkeeps : w.KeepsData w') : w'.CopiesAgree := by
    rcases hworkers with hworkers | ⟨k, hworkers⟩
    · exact hcopies.same hkeeps hworkers
    · exact hcopies.idle hkeeps hworkers
  rcases hjobs with hjobs | hjobs
  · have hkeeps := KeepsData.of_jobs hjobs
    exact ⟨hkeeps, hcopies' hkeeps, added_of_jobs hjobs⟩
  · have hkeeps := KeepsData.of_save hjobs hf
    exact ⟨hkeeps, hcopies' hkeeps, added_of_save hjobs⟩

omit [DecidableEq P] in
/-- A step that leaves the rows alone. -/
theorem Continues.of_jobs (hcopies : w.CopiesAgree) (hjobs : w'.jobs = w.jobs)
    (hworkers : w'.workers = w.workers ∨ ∃ k, w'.workers = w.workers.erase k) :
    Continues str w e w' :=
  .save (i := 0) (f := id) hcopies (.inl hjobs) (fun row _ => .refl row) hworkers

omit [DecidableEq P] in
/-- A row that a statement adds, if it takes effect, and a worker that goes on or goes. -/
theorem Continues.create (hnum : w.Numbered) (hcopies : w.CopiesAgree)
    (hjobs : w'.jobs = w.jobs ∨ ∃ row, w'.jobs = (w.create row).jobs ∧ NewRow str w e row)
    (hworkers : w'.workers = w.workers ∨ (∃ k, w'.workers = w.workers.erase k) ∨
      ∃ k worker worker', w.workers.lookup k = some worker ∧ worker'.jobId = worker.jobId ∧
        worker.job.SameData worker'.job ∧ w'.workers = w.workers.insert k worker') :
    Continues str w e w' := by
  have hkeeps : w.KeepsData w' := by
    rcases hjobs with hjobs | ⟨row, hjobs, -⟩
    · exact .of_jobs hjobs
    · intro i row' hrow'
      rw [hjobs]
      exact KeepsData.create hnum row i row' hrow'
  constructor
  · exact hkeeps
  · rcases hworkers with hworkers | ⟨k, hworkers⟩ | ⟨k, worker, worker', hk, hid, hdata, hworkers⟩
    · exact hcopies.same hkeeps hworkers
    · exact hcopies.idle hkeeps hworkers
    · exact hcopies.set hkeeps hk hid hdata hworkers
  · intro i added hadded
    rcases hjobs with hjobs | ⟨row, hjobs, hnew⟩
    · exact added_of_jobs hjobs i added hadded
    · rw [hjobs, JobWorld.create] at hadded
      by_cases hi : i = w.nextId
      · subst hi
        rw [AList.lookup_insert] at hadded
        obtain rfl := Option.some.inj hadded
        exact .inr ⟨rfl, hnew⟩
      · rw [AList.lookup_insert_ne hi] at hadded
        exact .inl ⟨added, hadded⟩

omit [DecidableEq P] in
/-- A row of the next world is one that was there, or a new one. -/
theorem Continues.row_cases (h : Continues str w e w') (hrow : w'.jobs.lookup i = some row) :
    (∃ old, w.jobs.lookup i = some old ∧ row.SameData old) ∨ i = w.nextId ∧ NewRow str w e row := by
  rcases h.added i row hrow with ⟨old, hold⟩ | hnew
  · obtain ⟨row', hrow', hsame⟩ := h.keeps i old hold
    rw [hrow] at hrow'
    obtain rfl := Option.some.inj hrow'
    exact .inl ⟨old, hold, hsame⟩
  · exact .inr hnew

/-- A call that is pending after a step was pending before, or has made its `SELECT`. -/
theorem calls_effect (heff : Effect w e w') (hc : w'.calls.lookup c = some call) :
    w.calls.lookup c = some call ∨ e = .select c call.args := by
  have herase (c' : C) (hc : (w.calls.erase c').lookup c = some call) :
      w.calls.lookup c = some call := by
    by_cases h : c = c'
    · subst h
      rw [AList.lookup_erase] at hc
      cases hc
    · rw [AList.lookup_erase_ne h] at hc
      exact hc
  have hemits (w₁ : JobWorld W P C) (hemit : Emits w w₁) : w₁.calls = w.calls := by
    rcases hemit with rfl | ⟨message, -, rfl⟩ <;> rfl
  cases heff with
  | @selected args c' hfree =>
    by_cases h : c = c'
    · subst h
      change (w.calls.insert c _).lookup c = _ at hc
      rw [AList.lookup_insert] at hc
      obtain rfl := Option.some.inj hc
      exact .inr rfl
    · change (w.calls.insert c' _).lookup c = _ at hc
      rw [AList.lookup_insert_ne h] at hc
      exact .inl hc
  | aborted => exact .inl (herase _ hc)
  | inserted hcall happlied => exact .inl (herase _ hc)
  | announced hemit =>
    change (_ : JobWorld W P C).calls.lookup c = _ at hc
    rw [← hemits _ hemit]
    exact .inl hc
  | announceRaised hk hp hemit hraised =>
    rw [← hemits _ hemit]
    exact .inl hc
  | kept | read | claimed | claimLost | started | moved | left | touched | succeeded | succeededLost
  | failed | failedLost | requeued => exact .inl hc

omit [DecidableEq P] in
theorem continues_claim (hcopies : w.CopiesAgree) (k : W) (jobId : Nat)
    (now : Instant) (outcome : Outcome) :
    Continues str w (.claim k jobId now outcome) (w.claim k jobId now outcome) := by
  rw [claim]
  rcases claimJob_cases now jobId w.jobs with ⟨job, hrow, -, hclaim⟩ | ⟨-, hclaim⟩
  · rw [hclaim]
    cases outcome with
    | returned =>
      have hkeeps : w.KeepsData (w.save jobId (Job.claim now)) :=
        .save jobId fun row _ => .claim now row
      refine ⟨hkeeps, hcopies.of_keeps hkeeps ?_, added_of_save rfl⟩
      intro k' worker hk'
      by_cases hkk : k' = k
      · subst hkk
        change (w.workers.insert k' _).lookup k' = _ at hk'
        rw [AList.lookup_insert] at hk'
        obtain rfl := Option.some.inj hk'
        refine .inr ⟨job.claim now, ?_, .refl _⟩
        change (w.save jobId (Job.claim now)).jobs.lookup jobId = _
        rw [lookup_save, if_pos rfl, hrow, Option.map_some]
      · change (w.workers.insert k _).lookup k' = _ at hk'
        rw [AList.lookup_insert_ne hkk] at hk'
        exact .inl ⟨k', worker, hk', rfl, .refl _⟩
    | rolledBack error => exact .of_jobs hcopies rfl (.inl rfl)
    | lost error =>
      exact .save hcopies (.inr rfl) (fun row _ => .claim now row) (.inl rfl)
  · rw [hclaim]
    exact .of_jobs hcopies rfl (.inl rfl)

omit [DecidableEq P] in
theorem continues_finishSucceeded (hcopies : w.CopiesAgree) (hk : w.workers.lookup k = some worker)
    (now : Instant) (outcome : Outcome) :
    Continues str w e (w.finishSucceeded k now outcome worker) := by
  refine .set hcopies hk (congrArg (AList.insert k _) (workers_commit_save outcome _ _ w))
    (jobs_commit outcome worker.jobId (Job.finish now .succeeded none) w)
    (fun row _ => .finish now .succeeded none row) ?_ ?_
  · cases outcome <;> rfl
  · cases outcome <;> exact (Job.SameData.finish now .succeeded none worker.job).symm

omit [DecidableEq P] in
theorem continues_finishFailed (hcopies : w.CopiesAgree) (hk : w.workers.lookup k = some worker)
    (now : Instant) (outcome : Outcome) :
    Continues str w e (w.finishFailed k now outcome worker) := by
  have hjobs := jobs_commit outcome worker.jobId (Job.finish now .failed (some worker.error)) w
  have hworkers := workers_commit_save outcome worker.jobId
    (Job.finish now .failed (some worker.error)) w
  rw [finishFailed]
  cases outcome.error with
  | none =>
    exact .set hcopies hk (congrArg (AList.insert k _) hworkers) hjobs
      (fun row _ => .finish now .failed (some worker.error) row) rfl
      (Job.SameData.finish now .failed (some worker.error) worker.job).symm
  | some error =>
    exact .save hcopies hjobs (fun row _ => .finish now .failed (some worker.error) row)
      (.inr ⟨k, congrArg (AList.erase k) hworkers⟩)

omit [DecidableEq P] in
theorem emit_jobs (str : Json → String) (hk : w.workers.lookup k = some worker) (status : JobStatus) (error : String)
    (createdAt updatedAt : Instant) (outcome : Outcome) :
    (w.emit str status error createdAt updatedAt outcome worker).jobs = w.jobs ∨
      ∃ message, (w.emit str status error createdAt updatedAt outcome worker).jobs =
          (w.create message).jobs ∧
        NewRow str w (.announce k createdAt updatedAt outcome) message := by
  rw [emit]
  cases hm : emitUpdateFinishedMessage str worker.jobId worker.job status error createdAt updatedAt
      w.jobs with
  | none => exact .inl rfl
  | some message =>
    dsimp only
    rw [commit]
    split
    · exact .inr ⟨message, rfl, .announced hk hm⟩
    · exact .inl rfl

omit [DecidableEq P] in
theorem continues_announceSucceeded (hnum : w.Numbered) (hcopies : w.CopiesAgree)
    (hk : w.workers.lookup k = some worker) (createdAt updatedAt : Instant) (outcome : Outcome) :
    Continues str w (.announce k createdAt updatedAt outcome)
      (w.announceSucceeded str k createdAt updatedAt outcome worker) := by
  have hjobs := emit_jobs str hk .succeeded "" createdAt updatedAt outcome
  have hworkers := (emits_frame (emits_emit str .succeeded "" createdAt updatedAt outcome worker w)).1
  rw [announceSucceeded]
  generalize w.emit str .succeeded "" createdAt updatedAt outcome worker = emitted at hjobs hworkers ⊢
  cases outcome.error with
  | none => exact .create hnum hcopies hjobs (.inr (.inl ⟨k, congrArg (AList.erase k) hworkers⟩))
  | some error =>
    exact .create hnum hcopies hjobs (.inr (.inr ⟨k, worker, worker.fails error, hk, rfl, .refl _,
      congrArg (AList.insert k _) hworkers⟩))

omit [DecidableEq P] in
theorem continues_announceFailed (hnum : w.Numbered) (hcopies : w.CopiesAgree)
    (hk : w.workers.lookup k = some worker) (createdAt updatedAt : Instant) (outcome : Outcome) :
    Continues str w (.announce k createdAt updatedAt outcome)
      (w.announceFailed str k createdAt updatedAt outcome worker) := by
  have hjobs := emit_jobs str hk .failed worker.error createdAt updatedAt outcome
  have hworkers :=
    (emits_frame (emits_emit str .failed worker.error createdAt updatedAt outcome worker w)).1
  rw [announceFailed]
  generalize w.emit str .failed worker.error createdAt updatedAt outcome worker = emitted
    at hjobs hworkers ⊢
  exact .create hnum hcopies hjobs (.inr (.inl ⟨k, congrArg (AList.erase k) hworkers⟩))

/-- The rows stay the jobs that they are, the copies stay copies of them, and new rows come from calls
and from completion messages. -/
theorem continues_step (hnum : w.Numbered) (hcopies : w.CopiesAgree) (h : w.step str e = some w') :
    Continues str w e w' := by
  cases e with
  | claim k jobId now outcome =>
    simp only [step] at h
    split at h
    · cases h
      exact continues_claim hcopies k jobId now outcome
    · cases h
  | startHandler k raised =>
    obtain ⟨worker, hw, h⟩ := Option.map_eq_some_iff.1 h
    obtain ⟨hk, -⟩ := workerIn_eq_some hw
    cases raised <;> cases h <;>
      exact .set hcopies hk rfl (.inl rfl) (fun row _ => .refl row) rfl (.refl _)
  | touch k now stage title outcome =>
    obtain ⟨worker, hw, h⟩ := Option.map_eq_some_iff.1 h
    obtain ⟨hk, -⟩ := workerIn_eq_some hw
    cases h
    rw [touch]
    cases htouch : touchActiveJob now stage title worker.job with
    | none => exact .of_jobs hcopies rfl (.inl rfl)
    | some copy =>
      refine .set hcopies hk
        (congrArg (AList.insert k _) (workers_commit_save outcome worker.jobId copy.saveTouch w))
        (jobs_commit outcome worker.jobId copy.saveTouch w) ?_ rfl (Job.SameData.touch htouch).symm
      intro row hrow
      obtain ⟨row', hrow', hsame⟩ := hcopies k worker hk
      rw [hrow] at hrow'
      obtain rfl := Option.some.inj hrow'
      exact .saveTouch hsame htouch
  | leaveHandler k raised =>
    obtain ⟨worker, hw, h⟩ := Option.map_eq_some_iff.1 h
    obtain ⟨hk, -⟩ := workerIn_eq_some hw
    cases raised <;> cases h <;>
      exact .set hcopies hk rfl (.inl rfl) (fun row _ => .refl row) rfl (.refl _)
  | finish k now outcome =>
    obtain ⟨worker, hk, h⟩ := Option.bind_eq_some_iff.1 h
    split at h
    · cases h
      exact continues_finishSucceeded hcopies hk now outcome
    · cases h
      exact continues_finishFailed hcopies hk now outcome
    · cases h
  | announce k createdAt updatedAt outcome =>
    obtain ⟨worker, hk, h⟩ := Option.bind_eq_some_iff.1 h
    split at h
    · obtain rfl := Option.some.inj h
      exact continues_announceSucceeded hnum hcopies hk createdAt updatedAt outcome
    · obtain rfl := Option.some.inj h
      exact continues_announceFailed hnum hcopies hk createdAt updatedAt outcome
    · cases h
  | crash k =>
    cases h
    exact .of_jobs hcopies rfl (.inr ⟨k, rfl⟩)
  | passRead p key =>
    simp only [step] at h
    split at h
    · split at h <;> cases h <;> exact .of_jobs hcopies rfl (.inl rfl)
    · cases h
  | passReset p raw now updatedAt outcome =>
    obtain ⟨copy, hp, h⟩ := Option.map_eq_some_iff.1 h
    cases h
    rw [passReset]
    split
    · rw [commit]
      split
      · exact .save hcopies (.inr rfl) (fun row _ => .requeue updatedAt row) (.inl rfl)
      · exact .of_jobs hcopies rfl (.inl rfl)
    · exact .of_jobs hcopies rfl (.inl rfl)
  | select c args =>
    simp only [step] at h
    split at h
    · split at h <;> cases h <;> exact .of_jobs hcopies rfl (.inl rfl)
    · cases h
  | insert c createdAt updatedAt outcome =>
    obtain ⟨call, hc, h⟩ := Option.map_eq_some_iff.1 h
    cases h
    rw [commit]
    split
    · exact .create hnum hcopies (.inr ⟨_, rfl, .inserted hc⟩) (.inl rfl)
    · exact .of_jobs hcopies rfl (.inl rfl)

omit [DecidableEq P] [DecidableEq C] in
theorem copiesAgree_initial : CopiesAgree (initial : JobWorld W P C) := by
  intro k worker hk
  cases hk

end

end JobWorld

end GetOffline
