import GetOffline.JobCopies
import GetOffline.JobRequests
import GetOffline.JobStatuses
import GetOffline.PythonStrip
import GetOffline.SeparatedTexts

set_option autoImplicit true

namespace GetOffline
open Python Execution

-- api/services/dashboard_actions.py

/-- The query of a `status_url`, beside the profile. -/
inductive StatusUrl
  | token (token : String)
  | job (jobId : Nat)

/-- The `status_url` that `enqueue_job` returns with a job. -/
def statusUrl (post : List (String × String)) (token : String) (jobId : Nat) : StatusUrl :=
  let completionMarker := if postedText "job_type" post = "update_downloads" then token else ""
  if completionMarker ≠ "" then .token completionMarker else .job jobId

structure StatusReply where
  finished : Bool
  ok : Bool
  status : Option String
  errorMessage : Option String

def pendingReply : StatusReply where
  finished := false
  ok := true
  status := some "pending"
  errorMessage := none

def isText (text : String) : Option Json → Bool
  | some (.string s) => s = text
  | _ => false

/-- The completion messages that `worker_message_status` selects. -/
def isUpdateFinished (profileId token : String) (job : Job) : Bool :=
  job.profileId = profileId && job.jobType = "worker_message" &&
    isText "update_downloads_finished" (Json.get "event_type" job.payload.dict) &&
    isText token (Json.get "completion_token" job.payload.dict)

/-- `render` is `str()` of a float or a container. -/
def workerMessageStatus (render : Json → String) (profileId : String) (url : StatusUrl)
    (jobs : JobTable) : StatusReply :=
  match url with
  | .job jobId =>
    match (jobs.lookup jobId).filter fun job => job.profileId = profileId with
    | none => pendingReply
    | some job => {
        finished := job.terminal
        -- The text from the database is never the object `JobStatus.FAILED`.
        ok := true
        status := some (StrEnum.value job.status)
        errorMessage := some (job.errorMessage.getD "") }
  | .token token =>
    let token := strip token
    if token = "" then
      { finished := false, ok := false, status := none, errorMessage := some "Missing completion token" }
    else
      match jobs.first (fun _ job => isUpdateFinished profileId token job) fun (id : Nat) job =>
          toLex (-job.createdAt, -(id : Int)) with
      | none => pendingReply
      | some (_, message) =>
        let sourceStatus := Json.str render (Json.orEmpty (Json.get "source_status" message.payload.dict))
        { finished := true
          ok := parseStrEnum JobStatus sourceStatus ≠ some .failed
          status := some sourceStatus
          errorMessage :=
            some (Json.str render (Json.orEmpty (Json.get "error_message" message.payload.dict))) }

/-- The reply tells whether the job is finished, and then whether it has succeeded. -/
structure StatusReply.Faithful (reply : StatusReply) (job : Job) : Prop where
  finished : reply.finished = true ↔ job.terminal = true
  ok : reply.finished = true → (reply.ok = true ↔ job.status = .succeeded)

namespace JobWorld

variable [DecidableEq W] [DecidableEq P] [DecidableEq C]

/-- What `create_job` returns: a job that it finds, or the one that it creates. -/
inductive Returned (str : Json → String) (args : JobArgs) (w : JobWorld W P C) :
    Bool → Nat → JobWorld W P C → Prop
  | found (h : existingJob args w.jobs = some (jobId, job)) : Returned str args w false jobId w
  | created (hc : w.calls.lookup c = some call) (hargs : call.args = args)
      (h : w.step str (.insert c createdAt updatedAt .returned) = some w') :
      Returned str args w true w.nextId w'

/-- The `uuid4().hex` of a request: a text that no one else has. -/
structure FreshToken (str : Json → String) (token : String) (jobId : Nat) (w w' : JobWorld W P C) :
    Prop where
  nonempty : token ≠ ""
  trimmed : strip token = token
  rows : ∀ i row, w.jobs.lookup i = some row → updateCompletionToken str row ≠ token
  keys : ∀ i row, w'.jobs.lookup i = some row →
    row.idempotencyKey ≠ some (updateFinishedKey jobId token)
  calls : ∀ c call, w'.calls.lookup c = some call →
    updateCompletionToken str (newJob call.args 0 0) ≠ token

/-- No later call of `create_job` has the token. -/
def OtherToken (str : Json → String) (token : String) : JobEvent W P C → Prop
  | .select _ args => updateCompletionToken str (newJob args 0 0) ≠ token
  | _ => True

/-- The worker has written a result and not yet its message. -/
def announces (phase : WorkerPhase) : Bool :=
  phase = .announcing || phase = .announcingFailure

/-- A worker of the job. -/
def Has (jobId : Nat) (w : JobWorld W P C) (k : W) (phase : WorkerPhase) : Prop :=
  ∃ worker, w.workers.lookup k = some worker ∧ worker.jobId = jobId ∧ worker.phase = phase

/-- The result of the job and the message about it come together: the statement that writes the result
does not lose its connection, the worker does not stop before its message, which is written and, after
a success, raises nothing, no one resets the job while a worker has it or when it is finished, and no
other row takes the key of the message. -/
def TellsResult (jobId : Nat) (key : String) (w : JobWorld W P C) : JobEvent W P C → Prop
  | .finish k _ outcome => ∀ phase, w.Has jobId k phase → outcome.applied = true → outcome.error = none
  | .announce k _ _ outcome => ∀ phase, w.Has jobId k phase →
      outcome.applied = true ∧ (phase = .announcing → outcome.error = none)
  | .crash k => ∀ phase, w.Has jobId k phase → announces phase = false
  | .passReset p raw now _ _ => ∀ copy, w.passes.lookup p = some (jobId, copy) →
      makesStaleJobQueued raw now copy = .ok true →
        (∀ k phase, ¬ w.Has jobId k phase) ∧
          ∀ row, w.jobs.lookup jobId = some row → row.terminal = false
  | .insert c _ _ _ => ∀ call, w.calls.lookup c = some call → call.args.idempotencyKey ≠ some key
  | _ => True

/-- The condition on the steps after the request: it is about jobs whose message is asked for. -/
def StepTells (str : Json → String) (url : StatusUrl) (created : Bool) (jobId : Nat)
    (w : JobWorld W P C) (e : JobEvent W P C) : Prop :=
  match url with
  | .job _ => True
  | .token token =>
    OtherToken str token e ∧ (created = true → w.TellsResult jobId (updateFinishedKey jobId token) e)

/-- The condition on the state that is polled: a job of the profile that is asked for by its id has not
failed, one of another profile or one that another request has created is not finished, and no worker
stands between the result of a created job and its message. -/
def PollTells (profileId : String) (url : StatusUrl) (created : Bool) (jobId : Nat) (row : Job)
    (w : JobWorld W P C) : Prop :=
  match url, created with
  | .job _, _ => if row.profileId = profileId then row.status ≠ .failed else row.terminal = false
  | .token _, false => row.terminal = false
  | .token _, true => ∀ k phase, w.Has jobId k phase → announces phase = false

end JobWorld

section
variable {render : Json → String} {profileId token : String} {jobs : JobTable} {job message row : Job}

theorem strip_strip (s : String) : strip (strip s) = strip s := by
  rw [strip, strip, String.toList_ofList, stripChars_stripChars]

theorem isText_iff {value : Option Json} : isText text value = true ↔ value = some (.string text) := by
  constructor
  · intro h
    cases value with
    | none => cases h
    | some value =>
      cases value with
      | string s => rw [of_decide_eq_true h]
      | null | bool | int | float | array | object => cases h
  · rintro rfl
    exact decide_eq_true rfl

theorem isUpdateFinished_token (h : isUpdateFinished profileId token message = true)
    (htoken : token ≠ "") (htrimmed : strip token = token) :
    updateCompletionToken (Json.str render) message = token := by
  simp only [isUpdateFinished, Bool.and_eq_true] at h
  rw [updateCompletionToken, isText_iff.1 h.2, Json.orEmpty]
  have htruthy : (Json.string token).truthy = true := bne_iff_ne.2 htoken
  rw [if_pos htruthy]
  exact htrimmed

theorem isUpdateFinished_congr (h : row.SameData job) :
    isUpdateFinished profileId token row = isUpdateFinished profileId token job := by
  rw [isUpdateFinished, isUpdateFinished, h.profileId, h.jobType,
    h.payload "event_type" (by decide) (by decide),
    h.payload "completion_token" (by decide) (by decide)]

/-- What the message of a worker says, if it writes one. -/
theorem emitUpdateFinishedMessage_spec
    (h : emitUpdateFinishedMessage (Json.str render) jobId job status error createdAt updatedAt jobs =
      some message) :
    parseStrEnum JobType job.jobType = some .updateDownloads ∧
      updateCompletionToken (Json.str render) message = updateCompletionToken (Json.str render) job ∧
      message.idempotencyKey =
        some (updateFinishedKey jobId (updateCompletionToken (Json.str render) job)) ∧
      isUpdateFinished job.profileId (updateCompletionToken (Json.str render) job) message = true ∧
      Json.get "source_status" message.payload.dict = some (.string (StrEnum.value status)) := by
  simp only [emitUpdateFinishedMessage] at h
  split at h
  · next hcond =>
    obtain rfl := Option.some.inj h
    have hmessage : isUpdateFinished job.profileId (updateCompletionToken (Json.str render) job)
        (updateFinishedMessage jobId job (updateCompletionToken (Json.str render) job) status error
          createdAt updatedAt) = true := by
      simp only [isUpdateFinished, updateFinishedMessage, Bool.and_eq_true, decide_eq_true_eq,
        isText_iff]
      exact ⟨⟨⟨trivial, trivial⟩, rfl⟩, rfl⟩
    refine ⟨hcond.1, ?_, rfl, hmessage, rfl⟩
    exact isUpdateFinished_token hmessage hcond.2.1 (strip_strip _)
  · cases h

/-- A worker of an update writes its message unless the key is taken. -/
theorem emitUpdateFinishedMessage_isSome (jobId : Nat) (status : JobStatus) (error : String)
    (createdAt updatedAt : Instant) (htype : job.jobType = "update_downloads")
    (htoken : updateCompletionToken (Json.str render) job ≠ "")
    (hkey : ∀ i row, jobs.lookup i = some row →
      row.idempotencyKey ≠ some (updateFinishedKey jobId (updateCompletionToken (Json.str render) job))) :
    ∃ message, emitUpdateFinishedMessage (Json.str render) jobId job status error createdAt updatedAt
      jobs = some message := by
  have hfree : (jobs.any fun _ row => row.idempotencyKey =
      some (updateFinishedKey jobId (updateCompletionToken (Json.str render) job))) = false := by
    rw [← Bool.not_eq_true]
    intro hany
    obtain ⟨i, row, hrow, hrowKey⟩ := Table.any_iff.1 hany
    exact hkey i row hrow (of_decide_eq_true hrowKey)
  have hparse : parseStrEnum JobType job.jobType = some .updateDownloads := by
    rw [htype]
    decide
  rw [emitUpdateFinishedMessage]
  exact ⟨_, if_pos ⟨hparse, htoken, hfree⟩⟩

theorem terminal_iff {job : Job} :
    job.terminal = true ↔ job.status = .succeeded ∨ job.status = .failed := by
  rw [Job.terminal, Bool.or_eq_true, decide_eq_true_eq, decide_eq_true_eq]

theorem pendingReply_faithful : pendingReply.Faithful row ↔ row.terminal = false := by
  constructor
  · intro h
    rw [← Bool.not_eq_true, ← h.finished]
    exact Bool.false_ne_true
  · intro hopen
    refine ⟨?_, fun h => absurd h Bool.false_ne_true⟩
    rw [hopen]
    exact Iff.rfl

/-- Without a message the token is pending. -/
theorem token_pending (htoken : token ≠ "") (htrimmed : strip token = token)
    (hnone : ∀ i row, jobs.lookup i = some row → isUpdateFinished profileId token row = false) :
    workerMessageStatus render profileId (.token token) jobs = pendingReply := by
  have hfirst : (jobs.first (fun _ job => isUpdateFinished profileId token job) fun (id : Nat) job =>
      toLex (-job.createdAt, -(id : Int))) = none := Table.first_eq_none.2 hnone
  unfold workerMessageStatus
  dsimp only
  rw [htrimmed, if_neg htoken, hfirst]

/-- Messages that all name one status tell it. -/
theorem token_told (render : Json → String) (htoken : token ≠ "") (htrimmed : strip token = token)
    (hmessage : jobs.lookup i = some message)
    (hfinished : isUpdateFinished profileId token message = true)
    (htells : ∀ i message, jobs.lookup i = some message →
      isUpdateFinished profileId token message = true →
      Json.get "source_status" message.payload.dict = some (.string (StrEnum.value status))) :
    (workerMessageStatus render profileId (.token token) jobs).finished = true ∧
      ((workerMessageStatus render profileId (.token token) jobs).ok = true ↔ status ≠ JobStatus.failed) := by
  have hparse : parseStrEnum JobStatus
      (Json.str render (Json.orEmpty (some (.string (StrEnum.value status))))) = some status := by
    have htruthy : (Json.string (StrEnum.value status)).truthy = true := by
      cases status <;> decide
    rw [Json.orEmpty, if_pos htruthy]
    change parseStrEnum JobStatus (StrEnum.value status) = some status
    cases status <;> decide
  unfold workerMessageStatus
  dsimp only
  rw [htrimmed, if_neg htoken]
  cases hfirst : jobs.first (fun _ job => isUpdateFinished profileId token job) fun (id : Nat) job =>
      toLex (-job.createdAt, -(id : Int)) with
  | none =>
    rw [Table.first_eq_none.1 hfirst i message hmessage] at hfinished
    cases hfinished
  | some found =>
    obtain ⟨hlookup, hfound⟩ := Table.lookup_of_first hfirst
    refine ⟨rfl, ?_⟩
    dsimp only
    rw [htells found.1 found.2 hlookup hfound, hparse, decide_eq_true_eq, ne_eq, Option.some.injEq]

theorem faithful_of_told {reply : StatusReply} (hterminal : row.terminal = true)
    (h : reply.finished = true ∧ (reply.ok = true ↔ row.status ≠ .failed)) : reply.Faithful row := by
  refine ⟨iff_of_true h.1 hterminal, fun _ => ?_⟩
  rw [h.2]
  rcases terminal_iff.1 hterminal with hstatus | hstatus <;> rw [hstatus] <;> decide

/-- A job that is asked for by its id has not failed, and is not another profile's. -/
theorem job_poll (hrow : jobs.lookup jobId = some row) :
    (workerMessageStatus render profileId (.job jobId) jobs).Faithful row ↔
      if row.profileId = profileId then row.status ≠ .failed else row.terminal = false := by
  unfold workerMessageStatus
  dsimp only
  rw [hrow, Option.filter_some]
  by_cases hprofile : row.profileId = profileId
  · rw [if_pos (decide_eq_true hprofile), if_pos hprofile]
    constructor
    · intro h hfailed
      have hok := (h.ok (terminal_iff.2 (.inr hfailed))).1 rfl
      rw [hfailed] at hok
      cases hok
    · intro hfailed
      refine ⟨Iff.rfl, fun hterminal => iff_of_true rfl ?_⟩
      exact (terminal_iff.1 hterminal).resolve_right hfailed
  · rw [if_neg (decide_eq_true_iff.not.2 hprofile), if_neg hprofile]
    exact pendingReply_faithful

/-- The key of a message names its job. -/
theorem updateFinishedKey_inj (h : updateFinishedKey i token = updateFinishedKey j other) : i = j := by
  have hcolon : ":".toList = [':'] := rfl
  unfold updateFinishedKey at h
  generalize "worker_message:update_downloads:" = head at h
  have hlist := congrArg String.toList h
  simp only [String.toList_append, hcolon, List.append_assoc, List.cons_append, List.nil_append,
    List.append_cancel_left_eq] at hlist
  obtain ⟨hid, -⟩ := append_cons_inj (not_mem_toString (by decide) i) (not_mem_toString (by decide) j)
    hlist
  exact toString_nat_inj (String.toList_injective hid)

end

namespace JobWorld

variable [DecidableEq W] [DecidableEq P] [DecidableEq C]

/-- A row beside the job itself that has its token: the completion message. -/
def Message (render : Json → String) (token : String) (jobId : Nat) (w : JobWorld W P C) (i : Nat)
    (message : Job) : Prop :=
  i ≠ jobId ∧ w.jobs.lookup i = some message ∧
    updateCompletionToken (Json.str render) message = token

/-- No row and no call has the token. -/
structure Unknown (render : Json → String) (token : String) (w : JobWorld W P C) : Prop where
  rows : ∀ i row, w.jobs.lookup i = some row → updateCompletionToken (Json.str render) row ≠ token
  calls : ∀ c call, w.calls.lookup c = some call →
    updateCompletionToken (Json.str render) (newJob call.args 0 0) ≠ token

/-- The job has the token, and beside it only completion messages have; the key of the message is
theirs. -/
structure Named (render : Json → String) (profileId token : String) (jobId : Nat)
    (w : JobWorld W P C) : Prop where
  request : ∃ row, w.jobs.lookup jobId = some row ∧ row.profileId = profileId ∧
    row.jobType = "update_downloads" ∧ updateCompletionToken (Json.str render) row = token
  messages : ∀ i message, w.Message render token jobId i message →
    isUpdateFinished profileId token message = true
  keys : ∀ i row, w.jobs.lookup i = some row →
    row.idempotencyKey = some (updateFinishedKey jobId token) → w.Message render token jobId i row
  calls : ∀ c call, w.calls.lookup c = some call →
    updateCompletionToken (Json.str render) (newJob call.args 0 0) ≠ token

/-- The result that a worker has written. -/
def resultOf : WorkerPhase → Option JobStatus
  | .announcing => some .succeeded
  | .announcingFailure => some .failed
  | .claimed | .handling | .succeeding | .failing => none

/-- How far the job has come: it is not finished, or a worker is about to tell its result, or a message
has told it. -/
inductive Stage (render : Json → String) (token : String) (jobId : Nat) (w : JobWorld W P C)
    (row : Job) : Prop
  | unfinished (hopen : row.terminal = false)
      (hphase : ∀ k phase, w.Has jobId k phase → resultOf phase = none ∧ row.status = .running)
      (hsingle : ∀ k k' phase phase', w.Has jobId k phase → w.Has jobId k' phase' → k = k')
      (hnone : ∀ i message, ¬ w.Message render token jobId i message)
  | announcing (hk : w.Has jobId k phase) (hresult : resultOf phase = some row.status)
      (hsingle : ∀ k' phase', w.Has jobId k' phase' → k' = k ∧ phase' = phase)
      (hnone : ∀ i message, ¬ w.Message render token jobId i message)
  | told (hterminal : row.terminal = true) (hnobody : ∀ k phase, ¬ w.Has jobId k phase)
      (hmessage : ∃ i message, w.Message render token jobId i message)
      (htells : ∀ i message, w.Message render token jobId i message →
        Json.get "source_status" message.payload.dict = some (.string (StrEnum.value row.status)))

/-- The messages of the two worlds are the same. -/
def SameMessages (render : Json → String) (token : String) (jobId : Nat) (w w' : JobWorld W P C) :
    Prop :=
  (∀ i message, w'.Message render token jobId i message →
    ∃ old, w.Message render token jobId i old ∧ message.SameData old) ∧
  ∀ i old, w.Message render token jobId i old → ∃ message, w'.Message render token jobId i message

section
variable {render : Json → String} {profileId token : String} {jobId : Nat} {w w' : JobWorld W P C}
  {e : JobEvent W P C} {row row' : Job} {worker worker' : Worker} {k : W}

theorem terminal_congr (h : row'.status = row.status) : row'.terminal = row.terminal := by
  rw [Job.terminal, Job.terminal, h]

theorem terminal_of_result (h : resultOf phase = some row.status) : row.terminal = true := by
  rw [terminal_iff]
  cases phase with
  | announcing => exact .inl (Option.some.inj h).symm
  | announcingFailure => exact .inr (Option.some.inj h).symm
  | claimed | handling | succeeding | failing => cases h

theorem announces_iff : announces phase = true ↔ resultOf phase ≠ none := by
  cases phase <;> decide

omit [DecidableEq P] [DecidableEq C] in
theorem has_insert (hworkers : w'.workers = w.workers.insert k worker') :
    w'.Has jobId k' phase ↔
      k' = k ∧ worker'.jobId = jobId ∧ worker'.phase = phase ∨ k' ≠ k ∧ w.Has jobId k' phase := by
  rw [Has, Has, hworkers]
  by_cases hk : k' = k
  · subst hk
    simp only [AList.lookup_insert, Option.some.injEq, exists_eq_left', true_and, ne_eq,
      not_true_eq_false, false_and, or_false]
  · simp only [AList.lookup_insert_ne hk, hk, false_and, ne_eq, not_false_eq_true, true_and, false_or]

omit [DecidableEq P] [DecidableEq C] in
theorem has_erase (hworkers : w'.workers = w.workers.erase k) :
    w'.Has jobId k' phase ↔ k' ≠ k ∧ w.Has jobId k' phase := by
  rw [Has, Has, hworkers]
  by_cases hk : k' = k
  · subst hk
    rw [AList.lookup_erase]
    refine iff_of_false ?_ fun h => h.1 rfl
    rintro ⟨worker, ⟨⟩, -⟩
  · rw [AList.lookup_erase_ne hk]
    exact (and_iff_right hk).symm

omit [DecidableEq P] [DecidableEq C] in
/-- A worker that has another job goes on with it. -/
theorem has_insert_other (hk : w.workers.lookup k = some worker) (hjob : worker.jobId ≠ jobId)
    (hworkers : w'.workers = w.workers.insert k worker') (hid : worker'.jobId = worker.jobId)
    (k' : W) (phase : WorkerPhase) : w'.Has jobId k' phase ↔ w.Has jobId k' phase := by
  rw [has_insert hworkers, hid]
  constructor
  · rintro (⟨-, hj, -⟩ | ⟨-, hk'⟩)
    · exact absurd hj hjob
    · exact hk'
  · intro hk'
    refine .inr ⟨?_, hk'⟩
    rintro rfl
    obtain ⟨worker₀, hworker₀, hj, -⟩ := hk'
    rw [hk] at hworker₀
    obtain rfl := Option.some.inj hworker₀
    exact hjob hj

omit [DecidableEq P] [DecidableEq C] in
theorem has_erase_other (hk : w.workers.lookup k = some worker) (hjob : worker.jobId ≠ jobId)
    (hworkers : w'.workers = w.workers.erase k) (k' : W) (phase : WorkerPhase) :
    w'.Has jobId k' phase ↔ w.Has jobId k' phase := by
  rw [has_erase hworkers]
  refine and_iff_right_of_imp ?_
  rintro ⟨worker₀, hworker₀, hj, -⟩ rfl
  rw [hk] at hworker₀
  obtain rfl := Option.some.inj hworker₀
  exact hjob hj

omit [DecidableEq P] [DecidableEq C] in
theorem Stage.of_same (h : Stage render token jobId w row) (hstatus : row'.status = row.status)
    (hhas : ∀ k phase, w'.Has jobId k phase ↔ w.Has jobId k phase)
    (hmessages : SameMessages render token jobId w w') : Stage render token jobId w' row' := by
  have hnone (hnone : ∀ i message, ¬ w.Message render token jobId i message) :
      ∀ i message, ¬ w'.Message render token jobId i message := by
    intro i message hmessage
    obtain ⟨old, hold, -⟩ := hmessages.1 i message hmessage
    exact hnone i old hold
  cases h with
  | unfinished hopen hphase hsingle hno =>
    refine .unfinished ((terminal_congr hstatus).trans hopen) ?_ ?_ (hnone hno)
    · intro k phase hk
      rw [hstatus]
      exact hphase k phase ((hhas k phase).1 hk)
    · intro k k' phase phase' hk hk'
      exact hsingle k k' phase phase' ((hhas k phase).1 hk) ((hhas k' phase').1 hk')
  | announcing hk hresult hsingle hno =>
    refine .announcing ((hhas _ _).2 hk) (hresult.trans (congrArg some hstatus.symm)) ?_ (hnone hno)
    intro k' phase' hk'
    exact hsingle k' phase' ((hhas k' phase').1 hk')
  | told hterminal hnobody hmessage htells =>
    refine .told ((terminal_congr hstatus).trans hterminal)
      (fun k phase hk => hnobody k phase ((hhas k phase).1 hk)) ?_ ?_
    · obtain ⟨i, old, hold⟩ := hmessage
      obtain ⟨message, hmessage⟩ := hmessages.2 i old hold
      exact ⟨i, message, hmessage⟩
    · intro i message hmessage
      obtain ⟨old, hold, hsame⟩ := hmessages.1 i message hmessage
      rw [hsame.payload "source_status" (by decide) (by decide), hstatus]
      exact htells i old hold

omit [DecidableEq P] [DecidableEq C] in
/-- A worker of the job that has not written a result is the only one, and there is no message. -/
theorem Stage.of_unfinished (h : Stage render token jobId w row) (hk : w.Has jobId k phase)
    (hphase : resultOf phase = none) :
    row.status = .running ∧ (∀ k' phase', w.Has jobId k' phase' → k' = k) ∧
      ∀ i message, ¬ w.Message render token jobId i message := by
  cases h with
  | unfinished hopen hphase hsingle hno =>
    exact ⟨(hphase k phase hk).2, fun k' phase' hk' => hsingle k' k phase' phase hk' hk, hno⟩
  | announcing hk' hresult hsingle hno =>
    obtain ⟨-, rfl⟩ := hsingle k phase hk
    rw [hphase] at hresult
    cases hresult
  | told hterminal hnobody hmessage htells => exact absurd hk (hnobody k phase)

omit [DecidableEq P] [DecidableEq C] in
/-- A worker goes on before its result. -/
theorem Stage.moved (h : Stage render token jobId w row) (hk : w.workers.lookup k = some worker)
    (hworkers : w'.workers = w.workers.insert k worker') (hid : worker'.jobId = worker.jobId)
    (hphase : resultOf worker.phase = none) (hphase' : resultOf worker'.phase = none)
    (hstatus : row'.status = row.status) (hmessages : SameMessages render token jobId w w') :
    Stage render token jobId w' row' := by
  by_cases hjob : worker.jobId = jobId
  · obtain ⟨hrunning, honly, hno⟩ := h.of_unfinished ⟨worker, hk, hjob, rfl⟩ hphase
    have hself (k' : W) (phase : WorkerPhase) (hk' : w'.Has jobId k' phase) :
        k' = k ∧ worker'.phase = phase := by
      rcases (has_insert hworkers).1 hk' with ⟨rfl, -, hp⟩ | ⟨hne, hk'⟩
      · exact ⟨rfl, hp⟩
      · exact absurd (honly k' phase hk') hne
    refine .unfinished ?_ ?_ ?_ ?_
    · rw [Job.terminal, hstatus, hrunning]
      rfl
    · intro k' phase hk'
      obtain ⟨-, rfl⟩ := hself k' phase hk'
      exact ⟨hphase', hstatus.trans hrunning⟩
    · intro k₁ k₂ phase₁ phase₂ h₁ h₂
      exact (hself k₁ phase₁ h₁).1.trans (hself k₂ phase₂ h₂).1.symm
    · intro i message hmessage
      obtain ⟨old, hold, -⟩ := hmessages.1 i message hmessage
      exact hno i old hold
  · exact h.of_same hstatus (has_insert_other hk hjob hworkers hid) hmessages

omit [DecidableEq P] [DecidableEq C] in
/-- A worker goes that has no result of the job to tell. -/
theorem Stage.gone (h : Stage render token jobId w row)
    (hworkers : w'.workers = w.workers.erase k)
    (hphase : ∀ phase, w.Has jobId k phase → announces phase = false)
    (hstatus : row'.status = row.status) (hmessages : SameMessages render token jobId w w') :
    Stage render token jobId w' row' := by
  have hnone (hnone : ∀ i message, ¬ w.Message render token jobId i message) :
      ∀ i message, ¬ w'.Message render token jobId i message := by
    intro i message hmessage
    obtain ⟨old, hold, -⟩ := hmessages.1 i message hmessage
    exact hnone i old hold
  cases h with
  | unfinished hopen hunfinished hsingle hno =>
    refine .unfinished ((terminal_congr hstatus).trans hopen) ?_ ?_ (hnone hno)
    · intro k' phase hk'
      rw [hstatus]
      exact hunfinished k' phase ((has_erase hworkers).1 hk').2
    · intro k₁ k₂ phase₁ phase₂ h₁ h₂
      exact hsingle k₁ k₂ phase₁ phase₂ ((has_erase hworkers).1 h₁).2 ((has_erase hworkers).1 h₂).2
  | @announcing k₀ phase₀ hk hresult hsingle hno =>
    have hne : k₀ ≠ k := by
      rintro rfl
      have hannounces := announces_iff.2 (ne_of_eq_of_ne hresult (Option.some_ne_none _))
      rw [hphase phase₀ hk] at hannounces
      cases hannounces
    refine .announcing ((has_erase hworkers).2 ⟨hne, hk⟩) (hresult.trans (congrArg some hstatus.symm))
      ?_ (hnone hno)
    intro k' phase' hk'
    exact hsingle k' phase' ((has_erase hworkers).1 hk').2
  | told hterminal hnobody hmessage htells =>
    refine Stage.of_same (.told hterminal hnobody hmessage htells) hstatus (fun k' phase => ?_) hmessages
    rw [has_erase hworkers]
    exact iff_of_false (fun hk' => hnobody k' phase hk'.2) (hnobody k' phase)

omit [DecidableEq P] [DecidableEq C] in
/-- A worker writes the result of the job. -/
theorem Stage.finished (h : Stage render token jobId w row) (hk : w.workers.lookup k = some worker)
    (hjob : worker.jobId = jobId) (hphase : resultOf worker.phase = none)
    (hworkers : w'.workers = w.workers.insert k worker') (hid : worker'.jobId = worker.jobId)
    (hresult : resultOf worker'.phase = some row'.status)
    (hmessages : SameMessages render token jobId w w') : Stage render token jobId w' row' := by
  obtain ⟨-, honly, hno⟩ := h.of_unfinished ⟨worker, hk, hjob, rfl⟩ hphase
  refine .announcing ((has_insert hworkers).2 (.inl ⟨rfl, hid.trans hjob, rfl⟩)) hresult ?_ ?_
  · intro k' phase' hk'
    rcases (has_insert hworkers).1 hk' with ⟨rfl, -, hp⟩ | ⟨hne, hk'⟩
    · exact ⟨rfl, hp.symm⟩
    · exact absurd (honly k' phase' hk') hne
  · intro i message hmessage
    obtain ⟨old, hold, -⟩ := hmessages.1 i message hmessage
    exact hno i old hold

omit [DecidableEq P] [DecidableEq C] in
/-- A job that no worker has, and that is not finished, has no message. -/
theorem Stage.of_nobody (h : Stage render token jobId w row) (hnobody : ∀ k phase, ¬ w.Has jobId k phase)
    (hopen : row.terminal = false) : ∀ i message, ¬ w.Message render token jobId i message := by
  cases h with
  | unfinished hopen hphase hsingle hno => exact hno
  | announcing hk hresult hsingle hno => exact absurd hk (hnobody _ _)
  | told hterminal hnobody hmessage htells =>
    rw [hterminal] at hopen
    cases hopen

omit [DecidableEq P] [DecidableEq C] in
/-- No worker has a job that is `QUEUED`. -/
theorem Stage.of_queued (h : Stage render token jobId w row) (hqueued : row.status = .queued) :
    (∀ k phase, ¬ w.Has jobId k phase) ∧
      ∀ i message, ¬ w.Message render token jobId i message := by
  have hopen : row.terminal = false := by
    rw [Job.terminal, hqueued]
    rfl
  cases h with
  | unfinished _ hphase hsingle hno =>
    refine ⟨fun k phase hk => ?_, hno⟩
    rw [(hphase k phase hk).2] at hqueued
    cases hqueued
  | announcing hk hresult hsingle hno =>
    rw [terminal_of_result hresult] at hopen
    cases hopen
  | told hterminal hnobody hmessage htells =>
    rw [hterminal] at hopen
    cases hopen

theorem updateCompletionToken_newJob (str : Json → String) (args : JobArgs)
    (createdAt updatedAt : Instant) :
    updateCompletionToken str (newJob args createdAt updatedAt) =
      updateCompletionToken str (newJob args 0 0) := rfl

/-- Without the token in a call or in the hands of a worker no new row has it. -/
theorem Unknown.step (h : w.Unknown render token) (hnum : w.Numbered) (hcopies : w.CopiesAgree)
    (hother : OtherToken (Json.str render) token e) (hstep : w.step (Json.str render) e = some w') :
    w'.Unknown render token := by
  have hcontinues := continues_step hnum hcopies hstep
  constructor
  · intro i row hrow
    rcases hcontinues.row_cases hrow with ⟨old, hold, hsame⟩ | ⟨-, hnew⟩
    · rw [hsame.updateCompletionToken]
      exact h.rows i old hold
    · cases hnew with
      | inserted hc => exact h.calls _ _ hc
      | announced hk hemit =>
        obtain ⟨copyRow, hcopyRow, hsame⟩ := hcopies _ _ hk
        rw [(emitUpdateFinishedMessage_spec hemit).2.1, ← hsame.updateCompletionToken]
        exact h.rows _ copyRow hcopyRow
  · intro c call hc
    rcases calls_effect (step_effect hstep) hc with hold | rfl
    · exact h.calls c call hold
    · exact hother

omit [DecidableEq P] in
/-- A new row with the token is the message of a worker of the job. -/
theorem Named.newRow (h : w.Named render profileId token jobId) (hcopies : w.CopiesAgree)
    (hnew : NewRow (Json.str render) w e row)
    (htoken : updateCompletionToken (Json.str render) row = token) :
    ∃ k worker createdAt updatedAt outcome status error, e = .announce k createdAt updatedAt outcome ∧
      w.workers.lookup k = some worker ∧ worker.jobId = jobId ∧
      emitUpdateFinishedMessage (Json.str render) jobId worker.job status error createdAt updatedAt
        w.jobs = some row := by
  cases hnew with
  | inserted hc => exact absurd htoken (h.calls _ _ hc)
  | @announced k worker status error createdAt updatedAt message outcome hk hemit =>
    obtain ⟨hparse, hmessage, -⟩ := emitUpdateFinishedMessage_spec hemit
    obtain ⟨copyRow, hcopyRow, hsame⟩ := hcopies _ _ hk
    by_cases hjob : worker.jobId = jobId
    · subst hjob
      exact ⟨k, worker, createdAt, updatedAt, outcome, status, error, rfl, hk, rfl, hemit⟩
    · have hfinished := h.messages worker.jobId copyRow
        ⟨hjob, hcopyRow, by rw [hsame.updateCompletionToken, ← hmessage, htoken]⟩
      simp only [isUpdateFinished, Bool.and_eq_true, decide_eq_true_eq] at hfinished
      rw [← hsame.jobType, hfinished.1.1.2] at hparse
      exact absurd hparse (by decide)

theorem Named.step (h : w.Named render profileId token jobId) (hnum : w.Numbered)
    (hcopies : w.CopiesAgree) (hother : OtherToken (Json.str render) token e)
    (htells : w.TellsResult jobId (updateFinishedKey jobId token) e)
    (hstep : w.step (Json.str render) e = some w') : w'.Named render profileId token jobId := by
  have hcontinues := continues_step hnum hcopies hstep
  obtain ⟨row, hrow, hprofile, htype, htoken⟩ := h.request
  -- The copy of a worker that has the job is the job itself.
  have hcopy (k : W) (worker : Worker) (hk : w.workers.lookup k = some worker)
      (hjob : worker.jobId = jobId) : row.SameData worker.job := by
    obtain ⟨copyRow, hcopyRow, hsame⟩ := hcopies k worker hk
    rw [hjob, hrow] at hcopyRow
    obtain rfl := Option.some.inj hcopyRow
    exact hsame
  constructor
  · obtain ⟨row', hrow', hsame⟩ := hcontinues.keeps jobId row hrow
    exact ⟨row', hrow', hsame.profileId.trans hprofile, hsame.jobType.trans htype,
      (hsame.updateCompletionToken _).trans htoken⟩
  · rintro i message ⟨hne, hmessage, hmessageToken⟩
    rcases hcontinues.row_cases hmessage with ⟨old, hold, hsame⟩ | ⟨-, hnew⟩
    · rw [isUpdateFinished_congr hsame]
      refine h.messages i old ⟨hne, hold, ?_⟩
      rw [← hsame.updateCompletionToken]
      exact hmessageToken
    · obtain ⟨k, worker, _, _, _, _, _, -, hk, hjob, hemit⟩ := h.newRow hcopies hnew hmessageToken
      have hsame := hcopy k worker hk hjob
      obtain ⟨-, -, -, hfinished, -⟩ := emitUpdateFinishedMessage_spec hemit
      rw [← hsame.profileId, hprofile, ← hsame.updateCompletionToken, htoken] at hfinished
      exact hfinished
  · intro i added hadded hkey
    rcases hcontinues.row_cases hadded with ⟨old, hold, hsame⟩ | ⟨rfl, hnew⟩
    · obtain ⟨hne, -, holdToken⟩ := h.keys i old hold (hsame.idempotencyKey.symm.trans hkey)
      exact ⟨hne, hadded, (hsame.updateCompletionToken _).trans holdToken⟩
    · cases hnew with
      | inserted hc => exact absurd hkey (htells _ hc)
      | @announced k worker status error createdAt updatedAt message outcome hk hemit =>
        obtain ⟨-, hmessage, hmessageKey, -⟩ := emitUpdateFinishedMessage_spec hemit
        rw [hkey] at hmessageKey
        have hjob := updateFinishedKey_inj (Option.some.inj hmessageKey)
        have hsame := hcopy k worker hk hjob.symm
        refine ⟨Nat.ne_of_gt (hnum jobId row hrow), hadded, ?_⟩
        rw [hmessage, ← hsame.updateCompletionToken, htoken]
  · intro c call hc
    rcases calls_effect (step_effect hstep) hc with hold | rfl
    · exact h.calls c call hold
    · exact hother

omit [DecidableEq P] in
/-- Unless a worker of the job writes it, no message is added. -/
theorem Named.sameMessages (h : w.Named render profileId token jobId) (hcopies : w.CopiesAgree)
    (hcontinues : Continues (Json.str render) w e w')
    (hother : ∀ k worker createdAt updatedAt outcome, e = .announce k createdAt updatedAt outcome →
      w.workers.lookup k = some worker → worker.jobId ≠ jobId) :
    SameMessages render token jobId w w' := by
  constructor
  · rintro i message ⟨hne, hmessage, htoken⟩
    rcases hcontinues.row_cases hmessage with ⟨old, hold, hsame⟩ | ⟨-, hnew⟩
    · refine ⟨old, ⟨hne, hold, ?_⟩, hsame⟩
      rw [← hsame.updateCompletionToken]
      exact htoken
    · obtain ⟨k, worker, _, _, _, _, _, he, hk, hjob, -⟩ := h.newRow hcopies hnew htoken
      exact absurd hjob (hother k worker _ _ _ he hk)
  · rintro i old ⟨hne, hold, htoken⟩
    obtain ⟨message, hmessage, hsame⟩ := hcontinues.keeps i old hold
    exact ⟨message, hne, hmessage, (hsame.updateCompletionToken _).trans htoken⟩

/-- The row of the job, and how far the job has come. -/
def Followed (render : Json → String) (token : String) (jobId : Nat) (w : JobWorld W P C) : Prop :=
  ∃ row, w.jobs.lookup jobId = some row ∧ w.Stage render token jobId row

omit [DecidableEq W] [DecidableEq P] [DecidableEq C] in
theorem lookup_commit_other (outcome : Outcome) (f : Job → Job) (hne : i ≠ jobId)
    (w : JobWorld W P C) :
    (w.commit outcome (save i f)).jobs.lookup jobId = w.jobs.lookup jobId := by
  rw [commit]
  split
  · rw [lookup_save, if_neg (Ne.symm hne)]
  · rfl

omit [DecidableEq W] [DecidableEq P] [DecidableEq C] in
theorem lookup_saved (f : Job → Job) (hrow : w.jobs.lookup jobId = some row) (hi : i = jobId) :
    (w.save i f).jobs.lookup jobId = some (f row) := by
  rw [lookup_save, if_pos hi.symm, hi, hrow, Option.map_some]

omit [DecidableEq P] [DecidableEq C] in
theorem Stage.claim (h : w.Stage render token jobId row) (hrow : w.jobs.lookup jobId = some row)
    (hfree : w.workers.lookup k = none) (i : Nat) (now : Instant) (outcome : Outcome)
    (hmessages : SameMessages render token jobId w (w.claim k i now outcome)) :
    (w.claim k i now outcome).Followed render token jobId := by
  have hnone (k' : W) (phase : WorkerPhase) (hk' : w.Has jobId k' phase) : k' ≠ k := by
    rintro rfl
    obtain ⟨worker, hworker, -⟩ := hk'
    rw [hfree] at hworker
    cases hworker
  rw [JobWorld.claim] at hmessages ⊢
  rcases claimJob_cases now i w.jobs with ⟨job, hjob, hqueued, hclaim⟩ | ⟨-, hclaim⟩
  · rw [hclaim] at hmessages ⊢
    by_cases hi : i = jobId
    · subst hi
      rw [hrow] at hjob
      obtain rfl := Option.some.inj hjob
      obtain ⟨hnobody, hno⟩ := h.of_queued hqueued
      have hno' (w' : JobWorld W P C) (hmessages : SameMessages render token i w w') :
          ∀ i' message, ¬ w'.Message render token i i' message := by
        intro i' message hmessage
        obtain ⟨old, hold, -⟩ := hmessages.1 i' message hmessage
        exact hno i' old hold
      have hclaimed := lookup_saved (Job.claim now) hrow rfl
      cases outcome with
      | returned =>
        refine ⟨row.claim now, hclaimed, .unfinished rfl ?_ ?_ (hno' _ hmessages)⟩
        · intro k' phase hk'
          rcases (has_insert rfl).1 hk' with ⟨-, -, rfl⟩ | ⟨-, hk'⟩
          · exact ⟨rfl, rfl⟩
          · exact absurd hk' (hnobody k' phase)
        · intro k₁ k₂ phase₁ phase₂ h₁ h₂
          rcases (has_insert rfl).1 h₁ with ⟨rfl, -⟩ | ⟨-, h₁⟩
          · rcases (has_insert rfl).1 h₂ with ⟨rfl, -⟩ | ⟨-, h₂⟩
            · rfl
            · exact absurd h₂ (hnobody k₂ phase₂)
          · exact absurd h₁ (hnobody k₁ phase₁)
      | rolledBack error => exact ⟨row, hrow, h⟩
      | lost error =>
        exact ⟨row.claim now, hclaimed, .unfinished rfl (fun k' phase hk' => absurd hk' (hnobody k' phase))
          (fun k' _ phase _ hk' => absurd hk' (hnobody k' phase)) (hno' _ hmessages)⟩
    · have hsame : (w.save i (Job.claim now)).jobs.lookup jobId = some row := by
        rw [lookup_save, if_neg (Ne.symm hi), hrow]
      cases outcome with
      | returned =>
        refine ⟨row, hsame, h.of_same rfl (fun k' phase => ?_) hmessages⟩
        rw [has_insert rfl]
        constructor
        · rintro (⟨-, hj, -⟩ | ⟨-, hk'⟩)
          · exact absurd hj hi
          · exact hk'
        · exact fun hk' => .inr ⟨hnone k' phase hk', hk'⟩
      | rolledBack error => exact ⟨row, hrow, h⟩
      | lost error => exact ⟨row, hsame, h.of_same rfl (fun _ _ => Iff.rfl) hmessages⟩
  · rw [hclaim]
    exact ⟨row, hrow, h⟩

omit [DecidableEq P] [DecidableEq C] in
theorem Stage.finishSucceeded (h : w.Stage render token jobId row)
    (hrow : w.jobs.lookup jobId = some row) (hk : w.workers.lookup k = some worker)
    (hphase : worker.phase = .succeeding) (now : Instant) (outcome : Outcome)
    (hkept : worker.jobId = jobId → outcome.applied = true → outcome.error = none)
    (hmessages : SameMessages render token jobId w (w.finishSucceeded k now outcome worker)) :
    (w.finishSucceeded k now outcome worker).Followed render token jobId := by
  have hunfinished : resultOf worker.phase = none := by rw [hphase]; rfl
  have hsaved := workers_commit_save outcome worker.jobId (Job.finish now .succeeded none) w
  by_cases hjob : worker.jobId = jobId
  · cases outcome with
    | returned =>
      exact ⟨_, lookup_saved (Job.finish now .succeeded none) hrow hjob,
        h.finished hk hjob hunfinished (congrArg (AList.insert k _) hsaved) rfl rfl hmessages⟩
    | rolledBack error =>
      exact ⟨row, hrow, h.moved hk (congrArg (AList.insert k _) hsaved) rfl hunfinished rfl rfl hmessages⟩
    | lost error => cases hkept hjob rfl
  · have hlookup := (lookup_commit_other outcome (Job.finish now .succeeded none) hjob w).trans hrow
    cases outcome with
    | returned =>
      exact ⟨row, hlookup, h.of_same rfl
        (has_insert_other hk hjob (congrArg (AList.insert k _) hsaved) rfl) hmessages⟩
    | rolledBack error =>
      exact ⟨row, hlookup, h.of_same rfl
        (has_insert_other hk hjob (congrArg (AList.insert k _) hsaved) rfl) hmessages⟩
    | lost error =>
      exact ⟨row, hlookup, h.of_same rfl
        (has_insert_other hk hjob (congrArg (AList.insert k _) hsaved) rfl) hmessages⟩

omit [DecidableEq P] [DecidableEq C] in
theorem Stage.finishFailed (h : w.Stage render token jobId row)
    (hrow : w.jobs.lookup jobId = some row) (hk : w.workers.lookup k = some worker)
    (hphase : worker.phase = .failing) (now : Instant) (outcome : Outcome)
    (hkept : worker.jobId = jobId → outcome.applied = true → outcome.error = none)
    (hmessages : SameMessages render token jobId w (w.finishFailed k now outcome worker)) :
    (w.finishFailed k now outcome worker).Followed render token jobId := by
  have hunfinished : resultOf worker.phase = none := by rw [hphase]; rfl
  have hsaved := workers_commit_save outcome worker.jobId (Job.finish now .failed (some worker.error)) w
  by_cases hjob : worker.jobId = jobId
  · cases outcome with
    | returned =>
      exact ⟨_, lookup_saved (Job.finish now .failed (some worker.error)) hrow hjob,
        h.finished hk hjob hunfinished (congrArg (AList.insert k _) hsaved) rfl rfl hmessages⟩
    | rolledBack error =>
      refine ⟨row, hrow, h.gone (congrArg (AList.erase k) hsaved) ?_ rfl hmessages⟩
      rintro phase ⟨worker₀, hworker₀, -, rfl⟩
      rw [hk] at hworker₀
      rw [← Option.some.inj hworker₀, hphase]
      rfl
    | lost error => cases hkept hjob rfl
  · have hlookup := (lookup_commit_other outcome (Job.finish now .failed (some worker.error)) hjob
      w).trans hrow
    rw [JobWorld.finishFailed] at hmessages ⊢
    cases herror : outcome.error with
    | none =>
      rw [herror] at hmessages
      exact ⟨row, hlookup, h.of_same rfl
        (has_insert_other hk hjob (congrArg (AList.insert k _) hsaved) rfl) hmessages⟩
    | some error =>
      rw [herror] at hmessages
      exact ⟨row, hlookup, h.of_same rfl
        (has_erase_other hk hjob (congrArg (AList.erase k) hsaved)) hmessages⟩

omit [DecidableEq P] [DecidableEq C] in
theorem Stage.touch (h : w.Stage render token jobId row) (hrow : w.jobs.lookup jobId = some row)
    (hk : w.workers.lookup k = some worker) (hphase : worker.phase = .handling) (now : Instant)
    (stage title : String) (outcome : Outcome)
    (hmessages : SameMessages render token jobId w (w.touch k now stage title outcome worker)) :
    (w.touch k now stage title outcome worker).Followed render token jobId := by
  have hunfinished : resultOf worker.phase = none := by rw [hphase]; rfl
  rw [JobWorld.touch] at hmessages ⊢
  cases htouch : touchActiveJob now stage title worker.job with
  | none => exact ⟨row, hrow, h⟩
  | some copy =>
    rw [htouch] at hmessages
    have hsaved := workers_commit_save outcome worker.jobId copy.saveTouch w
    have hlookup : ∃ row', (w.commit outcome (save worker.jobId copy.saveTouch)).jobs.lookup jobId =
        some row' ∧ row'.status = row.status := by
      rw [commit]
      split
      · by_cases hjob : worker.jobId = jobId
        · exact ⟨_, lookup_saved copy.saveTouch hrow hjob, rfl⟩
        · exact ⟨row, by rw [lookup_save, if_neg (Ne.symm hjob), hrow], rfl⟩
      · exact ⟨row, hrow, rfl⟩
    obtain ⟨row', hrow', hstatus⟩ := hlookup
    exact ⟨row', hrow', h.moved hk (congrArg (AList.insert k _) hsaved) rfl hunfinished hunfinished
      hstatus hmessages⟩

omit [DecidableEq P] in
/-- A worker tells the result of the job. -/
theorem Stage.announce (h : w.Stage render token jobId row) (hrow : w.jobs.lookup jobId = some row)
    (hnamed : w.Named render profileId token jobId) (hnum : w.Numbered) (hcopies : w.CopiesAgree)
    (htoken : token ≠ "") (hk : w.workers.lookup k = some worker) (hjob : worker.jobId = jobId)
    (hresult : resultOf worker.phase = some status) (error : String) (createdAt updatedAt : Instant)
    (outcome : Outcome) (happlied : outcome.applied = true) :
    ((w.emit (Json.str render) status error createdAt updatedAt outcome worker).idle k).Followed render
      token jobId := by
  have hhas : w.Has jobId k worker.phase := ⟨worker, hk, hjob, rfl⟩
  have hstage : row.status = status ∧ (∀ k' phase, w.Has jobId k' phase → k' = k) ∧
      ∀ i message, ¬ w.Message render token jobId i message := by
    cases h with
    | unfinished hopen hphase hsingle hno =>
      rw [(hphase k _ hhas).1] at hresult
      cases hresult
    | announcing hk' hresult' hsingle hno =>
      obtain ⟨rfl, hphase⟩ := hsingle k _ hhas
      rw [← hphase, hresult] at hresult'
      exact ⟨(Option.some.inj hresult').symm, fun k' phase hk' => (hsingle k' phase hk').1, hno⟩
    | told hterminal hnobody hmessage htells => exact absurd hhas (hnobody k _)
  obtain ⟨rfl, honly, hno⟩ := hstage
  obtain ⟨row₀, hrow₀, -, htype, hrowToken⟩ := hnamed.request
  rw [hrow] at hrow₀
  obtain rfl := Option.some.inj hrow₀
  obtain ⟨copyRow, hcopyRow, hsame⟩ := hcopies k worker hk
  rw [hjob, hrow] at hcopyRow
  obtain rfl := Option.some.inj hcopyRow
  have hcopyToken : updateCompletionToken (Json.str render) worker.job = token := by
    rw [← hsame.updateCompletionToken, hrowToken]
  have hfree : ∀ i other, w.jobs.lookup i = some other → other.idempotencyKey ≠
      some (updateFinishedKey worker.jobId (updateCompletionToken (Json.str render) worker.job)) := by
    intro i other hother hkey
    rw [hcopyToken, hjob] at hkey
    exact hno i other (hnamed.keys i other hother hkey)
  obtain ⟨message, hemit⟩ := emitUpdateFinishedMessage_isSome worker.jobId row.status error createdAt
    updatedAt (hsame.jobType.symm.trans htype) (ne_of_eq_of_ne hcopyToken htoken) hfree
  obtain ⟨-, hmessageToken, -, -, hsource⟩ := emitUpdateFinishedMessage_spec hemit
  rw [hcopyToken] at hmessageToken
  have hemitted : w.emit (Json.str render) row.status error createdAt updatedAt outcome worker =
      w.create message := by
    rw [emit, hemit]
    dsimp only
    rw [commit, if_pos happlied]
  rw [hemitted]
  have hne : w.nextId ≠ jobId := Nat.ne_of_gt (hnum jobId row hrow)
  have hnew : (w.create message).jobs.lookup w.nextId = some message := AList.lookup_insert _
  refine ⟨row, lookup_create hnum message hrow, .told (terminal_of_result hresult) ?_
    ⟨w.nextId, message, hne, hnew, hmessageToken⟩ ?_⟩
  · intro k' phase hk'
    obtain ⟨hk', hhas'⟩ := (has_erase rfl).1 hk'
    exact hk' (honly k' phase hhas')
  · rintro i other ⟨hi, hother, hotherToken⟩
    by_cases hnext : i = w.nextId
    · subst hnext
      have hsame := hnew.symm.trans hother
      rw [← Option.some.inj hsame, hsource]
    · have hold : w.jobs.lookup i = some other := (AList.lookup_insert_ne hnext).symm.trans hother
      exact absurd ⟨hi, hold, hotherToken⟩ (hno i other)

omit [DecidableEq P] [DecidableEq C] in
/-- A worker that has another job tells its result. -/
theorem Stage.announceOther (h : w.Stage render token jobId row)
    (hrow : w.jobs.lookup jobId = some row) (hnum : w.Numbered)
    (hk : w.workers.lookup k = some worker) (hjob : worker.jobId ≠ jobId) (hemit : Emits w w₁)
    (hjobs : w'.jobs = w₁.jobs)
    (hworkers : w'.workers = w₁.workers.erase k ∨
      ∃ worker', worker'.jobId = worker.jobId ∧ w'.workers = w₁.workers.insert k worker')
    (hmessages : SameMessages render token jobId w w') : w'.Followed render token jobId := by
  refine ⟨row, by rw [hjobs]; exact lookup_emits hnum hemit hrow, h.of_same rfl ?_ hmessages⟩
  rw [(emits_frame hemit).1] at hworkers
  rcases hworkers with hworkers | ⟨worker', hid, hworkers⟩
  · exact has_erase_other hk hjob hworkers
  · exact has_insert_other hk hjob hworkers hid

omit [DecidableEq P] in
theorem Stage.announceSucceeded (h : w.Stage render token jobId row)
    (hrow : w.jobs.lookup jobId = some row) (hnamed : w.Named render profileId token jobId)
    (hnum : w.Numbered) (hcopies : w.CopiesAgree) (htoken : token ≠ "")
    (hk : w.workers.lookup k = some worker) (hphase : worker.phase = .announcing)
    (createdAt updatedAt : Instant) (outcome : Outcome)
    (happlied : worker.jobId = jobId → outcome.applied = true)
    (hreturned : worker.jobId = jobId → outcome.error = none)
    (hmessages : worker.jobId ≠ jobId → SameMessages render token jobId w
      (w.announceSucceeded (Json.str render) k createdAt updatedAt outcome worker)) :
    (w.announceSucceeded (Json.str render) k createdAt updatedAt outcome worker).Followed render token
      jobId := by
  by_cases hjob : worker.jobId = jobId
  · have htold := h.announce hrow hnamed hnum hcopies htoken hk hjob (by rw [hphase]; rfl) ""
      createdAt updatedAt outcome (happlied hjob)
    rw [JobWorld.announceSucceeded, hreturned hjob]
    exact htold
  · have hsame := hmessages hjob
    have hemit := emits_emit (Json.str render) .succeeded "" createdAt updatedAt outcome worker w
    rw [JobWorld.announceSucceeded] at hsame ⊢
    generalize w.emit (Json.str render) .succeeded "" createdAt updatedAt outcome worker = emitted
      at hsame hemit ⊢
    cases herror : outcome.error with
    | none =>
      rw [herror] at hsame
      exact h.announceOther hrow hnum hk hjob hemit rfl (.inl rfl) hsame
    | some error =>
      rw [herror] at hsame
      exact h.announceOther hrow hnum hk hjob hemit rfl (.inr ⟨worker.fails error, rfl, rfl⟩) hsame

omit [DecidableEq P] in
theorem Stage.announceFailed (h : w.Stage render token jobId row)
    (hrow : w.jobs.lookup jobId = some row) (hnamed : w.Named render profileId token jobId)
    (hnum : w.Numbered) (hcopies : w.CopiesAgree) (htoken : token ≠ "")
    (hk : w.workers.lookup k = some worker) (hphase : worker.phase = .announcingFailure)
    (createdAt updatedAt : Instant) (outcome : Outcome)
    (happlied : worker.jobId = jobId → outcome.applied = true)
    (hmessages : worker.jobId ≠ jobId → SameMessages render token jobId w
      (w.announceFailed (Json.str render) k createdAt updatedAt outcome worker)) :
    (w.announceFailed (Json.str render) k createdAt updatedAt outcome worker).Followed render token
      jobId := by
  by_cases hjob : worker.jobId = jobId
  · exact h.announce hrow hnamed hnum hcopies htoken hk hjob (by rw [hphase]; rfl) worker.error
      createdAt updatedAt outcome (happlied hjob)
  · have hsame := hmessages hjob
    have hemit := emits_emit (Json.str render) .failed worker.error createdAt updatedAt outcome worker w
    rw [JobWorld.announceFailed] at hsame ⊢
    generalize w.emit (Json.str render) .failed worker.error createdAt updatedAt outcome worker =
      emitted at hsame hemit ⊢
    exact h.announceOther hrow hnum hk hjob hemit rfl (.inl rfl) hsame

/-- One step that meets the conditions takes the job from stage to stage. -/
theorem Followed.step (h : w.Followed render token jobId)
    (hnamed : w.Named render profileId token jobId) (hnum : w.Numbered) (hcopies : w.CopiesAgree)
    (htoken : token ≠ "") (htells : w.TellsResult jobId (updateFinishedKey jobId token) e)
    (hstep : w.step (Json.str render) e = some w') : w'.Followed render token jobId := by
  obtain ⟨row, hrow, hstage⟩ := h
  have hcontinues := continues_step hnum hcopies hstep
  cases e with
  | claim k i now outcome =>
    have hmessages := hnamed.sameMessages hcopies hcontinues (by rintro _ _ _ _ _ ⟨⟩)
    simp only [JobWorld.step] at hstep
    split at hstep
    · next hfree =>
      obtain rfl := Option.some.inj hstep
      exact hstage.claim hrow hfree i now outcome hmessages
    · cases hstep
  | startHandler k raised =>
    have hmessages := hnamed.sameMessages hcopies hcontinues (by rintro _ _ _ _ _ ⟨⟩)
    obtain ⟨worker, hw, hstep⟩ := Option.map_eq_some_iff.1 hstep
    obtain ⟨hk, hphase⟩ := workerIn_eq_some hw
    have hunfinished : resultOf worker.phase = none := by rw [hphase]; rfl
    cases raised <;> cases hstep <;>
      exact ⟨row, hrow, hstage.moved hk rfl rfl hunfinished rfl rfl hmessages⟩
  | touch k now stage title outcome =>
    have hmessages := hnamed.sameMessages hcopies hcontinues (by rintro _ _ _ _ _ ⟨⟩)
    obtain ⟨worker, hw, hstep⟩ := Option.map_eq_some_iff.1 hstep
    obtain ⟨hk, hphase⟩ := workerIn_eq_some hw
    obtain rfl := hstep
    exact hstage.touch hrow hk hphase now stage title outcome hmessages
  | leaveHandler k raised =>
    have hmessages := hnamed.sameMessages hcopies hcontinues (by rintro _ _ _ _ _ ⟨⟩)
    obtain ⟨worker, hw, hstep⟩ := Option.map_eq_some_iff.1 hstep
    obtain ⟨hk, hphase⟩ := workerIn_eq_some hw
    have hunfinished : resultOf worker.phase = none := by rw [hphase]; rfl
    cases raised <;> cases hstep <;>
      exact ⟨row, hrow, hstage.moved hk rfl rfl hunfinished rfl rfl hmessages⟩
  | finish k now outcome =>
    have hmessages := hnamed.sameMessages hcopies hcontinues (by rintro _ _ _ _ _ ⟨⟩)
    obtain ⟨worker, hk, hstep⟩ := Option.bind_eq_some_iff.1 hstep
    have hkept (hjob : worker.jobId = jobId) := htells worker.phase ⟨worker, hk, hjob, rfl⟩
    split at hstep
    · next hphase =>
      obtain rfl := Option.some.inj hstep
      exact hstage.finishSucceeded hrow hk hphase now outcome hkept hmessages
    · next hphase =>
      obtain rfl := Option.some.inj hstep
      exact hstage.finishFailed hrow hk hphase now outcome hkept hmessages
    · cases hstep
  | announce k createdAt updatedAt outcome =>
    obtain ⟨worker, hk, hstep'⟩ := Option.bind_eq_some_iff.1 hstep
    have hother (hjob : worker.jobId ≠ jobId) : SameMessages render token jobId w w' := by
      refine hnamed.sameMessages hcopies hcontinues ?_
      rintro k' worker' _ _ _ ⟨⟩ hk'
      rw [hk] at hk'
      rw [← Option.some.inj hk']
      exact hjob
    have htells' (hjob : worker.jobId = jobId) := htells worker.phase ⟨worker, hk, hjob, rfl⟩
    split at hstep'
    · next hphase =>
      obtain rfl := Option.some.inj hstep'
      exact hstage.announceSucceeded hrow hnamed hnum hcopies htoken hk hphase createdAt updatedAt outcome
        (fun hjob => (htells' hjob).1) (fun hjob => (htells' hjob).2 hphase) hother
    · next hphase =>
      obtain rfl := Option.some.inj hstep'
      exact hstage.announceFailed hrow hnamed hnum hcopies htoken hk hphase createdAt updatedAt outcome
        (fun hjob => (htells' hjob).1) hother
    · cases hstep'
  | crash k =>
    have hmessages := hnamed.sameMessages hcopies hcontinues (by rintro _ _ _ _ _ ⟨⟩)
    obtain rfl := Option.some.inj hstep
    exact ⟨row, hrow, hstage.gone rfl htells rfl hmessages⟩
  | passRead p key =>
    have hmessages := hnamed.sameMessages hcopies hcontinues (by rintro _ _ _ _ _ ⟨⟩)
    simp only [JobWorld.step] at hstep
    split at hstep
    · split at hstep <;> obtain rfl := Option.some.inj hstep <;>
        exact ⟨row, hrow, hstage.of_same rfl (fun _ _ => Iff.rfl) hmessages⟩
    · cases hstep
  | passReset p raw now updatedAt outcome =>
    have hmessages := hnamed.sameMessages hcopies hcontinues (by rintro _ _ _ _ _ ⟨⟩)
    obtain ⟨copy, hp, hstep⟩ := Option.map_eq_some_iff.1 hstep
    obtain rfl := hstep
    rw [passReset] at hmessages ⊢
    split at hmessages
    · next hstale =>
      rw [commit] at hmessages ⊢
      split at hmessages
      · next happlied =>
        rw [if_pos happlied]
        by_cases hjob : copy.1 = jobId
        · subst hjob
          obtain ⟨hnobody, hopen⟩ := htells copy.2 hp hstale
          have hno := hstage.of_nobody hnobody (hopen row hrow)
          refine ⟨row.requeue updatedAt, lookup_saved (Job.requeue updatedAt) hrow rfl,
            .unfinished rfl (fun k phase hk => absurd hk (hnobody k phase))
              (fun k _ phase _ hk => absurd hk (hnobody k phase)) ?_⟩
          intro i message hmessage
          obtain ⟨old, hold, -⟩ := hmessages.1 i message hmessage
          exact hno i old hold
        · refine ⟨row, ?_, hstage.of_same rfl (fun _ _ => Iff.rfl) hmessages⟩
          change (w.save copy.1 (Job.requeue updatedAt)).jobs.lookup jobId = some row
          rw [lookup_save, if_neg (Ne.symm hjob), hrow]
      · next happlied =>
        rw [if_neg happlied]
        exact ⟨row, hrow, hstage.of_same rfl (fun _ _ => Iff.rfl) hmessages⟩
    · exact ⟨row, hrow, hstage.of_same rfl (fun _ _ => Iff.rfl) hmessages⟩
  | select c args =>
    have hmessages := hnamed.sameMessages hcopies hcontinues (by rintro _ _ _ _ _ ⟨⟩)
    simp only [JobWorld.step] at hstep
    split at hstep
    · split at hstep <;> obtain rfl := Option.some.inj hstep <;>
        exact ⟨row, hrow, hstage.of_same rfl (fun _ _ => Iff.rfl) hmessages⟩
    · cases hstep
  | insert c createdAt updatedAt outcome =>
    have hmessages := hnamed.sameMessages hcopies hcontinues (by rintro _ _ _ _ _ ⟨⟩)
    obtain ⟨call, hc, hstep⟩ := Option.map_eq_some_iff.1 hstep
    obtain rfl := hstep
    rw [commit] at hmessages ⊢
    split at hmessages
    · next happlied =>
      rw [if_pos happlied]
      exact ⟨row, lookup_create hnum _ hrow, hstage.of_same rfl (fun _ _ => Iff.rfl) hmessages⟩
    · next happlied =>
      rw [if_neg happlied]
      exact ⟨row, hrow, hstage.of_same rfl (fun _ _ => Iff.rfl) hmessages⟩

omit [DecidableEq W] [DecidableEq P] in
/-- The messages that the poll of a created job finds are those of the job. -/
theorem Named.message_of_finished (h : w.Named render profileId token jobId) (htoken : token ≠ "")
    (htrimmed : strip token = token) (hmessage : w.jobs.lookup i = some message)
    (hfinished : isUpdateFinished profileId token message = true) :
    w.Message render token jobId i message := by
  refine ⟨?_, hmessage, isUpdateFinished_token hfinished htoken htrimmed⟩
  rintro rfl
  obtain ⟨row, hrow, -, htype, -⟩ := h.request
  rw [hmessage] at hrow
  obtain rfl := Option.some.inj hrow
  simp only [isUpdateFinished, Bool.and_eq_true, decide_eq_true_eq] at hfinished
  rw [htype] at hfinished
  exact absurd hfinished.1.1.2 (by decide)

omit [DecidableEq P] in
/-- Before the message the job is not finished, or a worker is about to tell its result. -/
theorem Named.poll (h : w.Named render profileId token jobId) (htoken : token ≠ "")
    (htrimmed : strip token = token) (hstage : w.Stage render token jobId row) :
    (workerMessageStatus render profileId (.token token) w.jobs).Faithful row ↔
      ∀ k phase, w.Has jobId k phase → announces phase = false := by
  have hpending (hno : ∀ i message, ¬ w.Message render token jobId i message) :
      workerMessageStatus render profileId (.token token) w.jobs = pendingReply := by
    refine token_pending htoken htrimmed fun i message hmessage => ?_
    rw [← Bool.not_eq_true]
    exact fun hfinished => hno i message (h.message_of_finished htoken htrimmed hmessage hfinished)
  cases hstage with
  | unfinished hopen hphase hsingle hno =>
    rw [hpending hno, pendingReply_faithful]
    refine iff_of_true hopen fun k phase hk => ?_
    rw [← Bool.not_eq_true, announces_iff, not_ne_iff]
    exact (hphase k phase hk).1
  | announcing hk hresult hsingle hno =>
    rw [hpending hno, pendingReply_faithful, terminal_of_result hresult]
    refine iff_of_false (by decide) fun hquiet => ?_
    have hannounces := announces_iff.2 (ne_of_eq_of_ne hresult (Option.some_ne_none _))
    rw [hquiet _ _ hk] at hannounces
    cases hannounces
  | told hterminal hnobody hmessage htells =>
    refine iff_of_true ?_ fun k phase hk => absurd hk (hnobody k phase)
    obtain ⟨i, message, hmessage⟩ := hmessage
    have hreply := token_told render htoken htrimmed hmessage.2.1 (h.messages i message hmessage)
      fun i message hlookup hfinished =>
        htells i message (h.message_of_finished htoken htrimmed hlookup hfinished)
    exact faithful_of_told hterminal hreply

/-- What `enqueue_job` asks for with an update. -/
theorem enqueueJobArgs_update {args : JobArgs} (hargs : enqueueJobArgs profileId post token = some args)
    (htype : postedText "job_type" post = "update_downloads") (htoken : token ≠ "")
    (htrimmed : strip token = token) :
    args.profileId = profileId ∧ args.jobType = "update_downloads" ∧
      updateCompletionToken (Json.str render) (newJob args 0 0) = token := by
  have htruthy : (Json.string token).truthy = true := bne_iff_ne.2 htoken
  unfold enqueueJobArgs at hargs
  dsimp only at hargs
  rw [htype, if_neg (by decide), if_pos rfl, if_neg (by decide)] at hargs
  obtain rfl := Option.some.inj hargs
  refine ⟨rfl, rfl, ?_⟩
  rw [updateCompletionToken]
  change strip (Json.str render (Json.orEmpty (Json.get "completion_token"
    (Option.elim _ _ _)))) = token
  cases (posted "url" post).filter fun url => decide (url ≠ "") with
  | none =>
    rw [Option.elim_none, Json.get_set_self, Json.orEmpty, if_pos htruthy]
    exact htrimmed
  | some url =>
    rw [Option.elim_some, Json.get_set_of_ne (by decide), Json.get_set_self, Json.orEmpty,
      if_pos htruthy]
    exact htrimmed

/-- A job that an update has created is there for its token alone, and no worker has it. -/
theorem created_followed (hnum : w.Numbered) (hcopies : w.CopiesAgree)
    (hfresh : FreshToken (Json.str render) token w.nextId w w')
    (hc : w.calls.lookup c = some call) (hprofile : call.args.profileId = profileId)
    (htype : call.args.jobType = "update_downloads")
    (htoken : updateCompletionToken (Json.str render) (newJob call.args 0 0) = token)
    (hstep : w.step (Json.str render) (.insert c createdAt updatedAt .returned) = some w') :
    w'.Named render profileId token w.nextId ∧ w'.Followed render token w.nextId := by
  obtain ⟨call', hc', hw'⟩ := Option.map_eq_some_iff.1 hstep
  rw [hc] at hc'
  obtain rfl := Option.some.inj hc'
  have hworkers : w'.workers = w.workers := by
    obtain rfl := hw'
    rfl
  have hrow : w'.jobs.lookup w.nextId = some (newJob call.args createdAt updatedAt) := by
    obtain rfl := hw'
    exact AList.lookup_insert _
  have hold (i : Nat) (row : Job) (hi : i ≠ w.nextId) (h : w'.jobs.lookup i = some row) :
      w.jobs.lookup i = some row := by
    obtain rfl := hw'
    exact (AList.lookup_insert_ne hi).symm.trans h
  have hno (i : Nat) (message : Job) : ¬ w'.Message render token w.nextId i message := by
    rintro ⟨hne, hmessage, hmessageToken⟩
    exact hfresh.rows i message (hold i message hne hmessage) hmessageToken
  have hnobody (k : W) (phase : WorkerPhase) : ¬ w'.Has w.nextId k phase := by
    rintro ⟨worker, hk, hjob, -⟩
    rw [hworkers] at hk
    obtain ⟨row, hlookup, -⟩ := hcopies k worker hk
    rw [hjob] at hlookup
    exact absurd (hnum _ row hlookup) (Nat.lt_irrefl _)
  constructor
  · exact ⟨⟨_, hrow, hprofile, htype, htoken⟩, fun i message h => absurd h (hno i message),
      fun i row h hkey => absurd hkey (hfresh.keys i row h), hfresh.calls⟩
  · exact ⟨_, hrow, .unfinished rfl (fun k phase hk => absurd hk (hnobody k phase))
      (fun k _ phase _ hk => absurd hk (hnobody k phase)) hno⟩

omit [DecidableEq W] in
theorem statusUrl_update (htype : postedText "job_type" post = "update_downloads")
    (htoken : token ≠ "") : statusUrl post token jobId = .token token := by
  rw [statusUrl, if_pos htype, if_pos htoken]

theorem agree_step (h : w.Numbered ∧ w.CopiesAgree) (hstep : w.step (Json.str render) e = some w') :
    w'.Numbered ∧ w'.CopiesAgree :=
  ⟨h.1.step (step_effect hstep), (continues_step h.1 h.2 hstep).copies⟩

theorem agree_of_exec {es : List (JobEvent W P C)}
    (h : exec (JobWorld.step (Json.str render)) initial es = some w) : w.Numbered ∧ w.CopiesAgree :=
  exec_preserves (I := fun s : JobWorld W P C => s.Numbered ∧ s.CopiesAgree)
    (fun _ _ _ h hs => agree_step h hs) ⟨numbered_initial, copiesAgree_initial⟩ h

/-- The row of a job stays. -/
theorem row_of_exec {es : List (JobEvent W P C)} (hw : w.Numbered ∧ w.CopiesAgree)
    (hrow : w.jobs.lookup jobId = some row)
    (h : exec (JobWorld.step (Json.str render)) w es = some w') :
    ∃ row', w'.jobs.lookup jobId = some row' := by
  refine (exec_preserves (I := fun s : JobWorld W P C =>
    (s.Numbered ∧ s.CopiesAgree) ∧ ∃ row, s.jobs.lookup jobId = some row) ?_ ⟨hw, row, hrow⟩ h).2
  rintro s e t ⟨h, row, hrow⟩ hs
  obtain ⟨row', hrow', -⟩ := (continues_step h.1 h.2 hs).keeps jobId row hrow
  exact ⟨agree_step h hs, row', hrow'⟩

/-- The row of a job that `create_job` returns. -/
theorem Returned.exists_row {args : JobArgs} {isNew : Bool}
    (h : Returned (Json.str render) args w isNew jobId w')
    (hw : w.Numbered ∧ w.CopiesAgree) :
    (w'.Numbered ∧ w'.CopiesAgree) ∧ ∃ row, w'.jobs.lookup jobId = some row := by
  cases h with
  | @found _ job h =>
    obtain ⟨key, -, hfirst⟩ := Option.bind_eq_some_iff.1 h
    exact ⟨hw, job, (Table.lookup_of_first hfirst).1⟩
  | created hc hcall h =>
    refine ⟨agree_step hw h, ?_⟩
    obtain ⟨call, -, rfl⟩ := Option.map_eq_some_iff.1 h
    exact ⟨_, AList.lookup_insert _⟩

/-- The token of a request that has found a job stays pending for ever. -/
theorem found_poll {es : List (JobEvent W P C)} (hw : w.Numbered ∧ w.CopiesAgree)
    (hfresh : FreshToken (Json.str render) token jobId w w)
    (hok : Along (JobWorld.step (Json.str render))
      (StepTells (Json.str render) (.token token) false jobId) w es)
    (h : exec (JobWorld.step (Json.str render)) w es = some w') :
    workerMessageStatus render profileId (.token token) w'.jobs = pendingReply := by
  have hunknown := (exec_invariant (I := fun s : JobWorld W P C =>
    (s.Numbered ∧ s.CopiesAgree) ∧ s.Unknown render token)
    (fun s e t h hs ht => ⟨agree_step h.1 ht, h.2.step h.1.1 h.1.2 hs.1 ht⟩)
    ⟨hw, hfresh.rows, hfresh.calls⟩ hok h).2
  refine token_pending hfresh.nonempty hfresh.trimmed fun i message hmessage => ?_
  rw [← Bool.not_eq_true]
  exact fun hfinished => hunknown.rows i message hmessage
    (isUpdateFinished_token hfinished hfresh.nonempty hfresh.trimmed)

/-- The token of a job that an update has created tells how far the job has come. -/
theorem created_poll {es : List (JobEvent W P C)} (hw : w.Numbered ∧ w.CopiesAgree)
    (hstart : w.Named render profileId token jobId ∧ w.Followed render token jobId)
    (htoken : token ≠ "") (htrimmed : strip token = token)
    (hok : Along (JobWorld.step (Json.str render))
      (StepTells (Json.str render) (.token token) true jobId) w es)
    (h : exec (JobWorld.step (Json.str render)) w es = some w')
    (hrow : w'.jobs.lookup jobId = some row) :
    (workerMessageStatus render profileId (.token token) w'.jobs).Faithful row ↔
      ∀ k phase, w'.Has jobId k phase → announces phase = false := by
  obtain ⟨-, hnamed, row', hrow', hstage⟩ := exec_invariant (I := fun s : JobWorld W P C =>
    (s.Numbered ∧ s.CopiesAgree) ∧ s.Named render profileId token jobId ∧
      s.Followed render token jobId)
    (fun s e t h hs ht => ⟨agree_step h.1 ht, h.2.1.step h.1.1 h.1.2 hs.1 (hs.2 rfl) ht,
      h.2.2.step h.2.1 h.1.1 h.1.2 htoken (hs.2 rfl) ht⟩) ⟨hw, hstart⟩ hok h
  rw [hrow] at hrow'
  obtain rfl := Option.some.inj hrow'
  exact hnamed.poll htoken htrimmed hstage

end

/-- `worker_message_status` at the `status_url` of a job tells whether the job is finished, and then
whether it has succeeded, exactly in these states. -/
theorem status_polling_faithful_iff {render : Json → String} {es es' : List (JobEvent W P C)}
    {w w' v : JobWorld W P C} {args : JobArgs}
    (hreach : exec (JobWorld.step (Json.str render)) initial es = some w)
    (hargs : enqueueJobArgs profileId post token = some args)
    (hreturned : Returned (Json.str render) args w created jobId w')
    (hfresh : postedText "job_type" post = "update_downloads" →
      FreshToken (Json.str render) token jobId w w')
    (hrun : exec (JobWorld.step (Json.str render)) w' es' = some v)
    (hok : Along (JobWorld.step (Json.str render))
      (StepTells (Json.str render) (statusUrl post token jobId) created jobId) w' es') :
    ∃ row, v.jobs.lookup jobId = some row ∧
      ((workerMessageStatus render profileId (statusUrl post token jobId) v.jobs).Faithful row ↔
        v.PollTells profileId (statusUrl post token jobId) created jobId row) := by
  have hw := agree_of_exec hreach
  obtain ⟨hw', row', hrow'⟩ := hreturned.exists_row hw
  obtain ⟨row, hrow⟩ := row_of_exec hw' hrow' hrun
  refine ⟨row, hrow, ?_⟩
  by_cases htype : postedText "job_type" post = "update_downloads"
  · have hfresh := hfresh htype
    rw [statusUrl_update htype hfresh.nonempty] at hok ⊢
    cases hreturned with
    | found h =>
      rw [found_poll hw hfresh hok hrun]
      exact pendingReply_faithful
    | created hc hcall h =>
      subst hcall
      obtain ⟨hprofile, hjobType, htoken⟩ := enqueueJobArgs_update hargs htype
        hfresh.nonempty hfresh.trimmed
      have hstart := created_followed hw.1 hw.2 hfresh hc hprofile hjobType htoken h
      exact created_poll hw' hstart hfresh.nonempty hfresh.trimmed hok hrun hrow
  · have hurl : statusUrl post token jobId = .job jobId := by
      rw [statusUrl, if_neg htype, if_neg (not_not.2 rfl)]
    rw [hurl]
    exact job_poll hrow

/-- The fields of a request for an update. -/
def updatePost : List (String × String) := [("job_type", "update_downloads")]

def updateArgs : JobArgs where
  profileId := "default"
  jobType := "update_downloads"
  payload := some [("source", .string "django_app"), ("completion_token", .string "token")]
  idempotencyKey := some "update_downloads:default:token"

/-- A worker runs the first job to its end. -/
def finishedJob (raised : Option String) : List (JobEvent Nat Nat Nat) :=
  [.claim 1 1 1 .returned, .startHandler 1 none, .leaveHandler 1 raised, .finish 1 2 .returned,
    .announce 1 3 3 .returned]

/-- A request for a first job has found none. -/
def selected (args : JobArgs) : JobWorld Nat Nat Nat :=
  { (initial : JobWorld Nat Nat Nat) with calls := AList.insert 0 { args, since := 1 } ∅ }

/-- The job is created. -/
def requested (args : JobArgs) : JobWorld Nat Nat Nat :=
  { (initial : JobWorld Nat Nat Nat) with
    jobs := AList.insert 1 (newJob args 0 0) ∅
    nextId := 2 }

theorem returned_requested (args : JobArgs) :
    Returned (Json.str strOfText) args (selected args) true 1 (requested args) := by
  have hcall : (selected args).calls.lookup 0 = some { args, since := 1 } := rfl
  have hinsert : (selected args).step (Json.str strOfText) (.insert 0 0 0 .returned) =
      some (requested args) := rfl
  exact .created hcall rfl hinsert

theorem requested_row {args : JobArgs} (h : (requested args).jobs.lookup i = some row) :
    row = newJob args 0 0 := by
  by_cases hi : i = 1
  · subst hi
    exact (Option.some.inj h).symm
  · rw [requested, AList.lookup_insert_ne hi] at h
    cases h

/-- The message is written, and the poll tells that the update has succeeded. -/
theorem update_polled : ∃ (v : JobWorld Nat Nat Nat) (row : Job),
    exec (step (Json.str strOfText)) (requested updateArgs) (finishedJob none) = some v ∧
      v.jobs.lookup 1 = some row ∧
        (workerMessageStatus strOfText "default" (statusUrl updatePost "token" 1) v.jobs).Faithful
          row := by
  have hselected : exec (step (Json.str strOfText)) initial [.select 0 updateArgs] =
      some (selected updateArgs) := rfl
  have hargs : enqueueJobArgs "default" updatePost "token" = some updateArgs := rfl
  have hfresh : FreshToken (Json.str strOfText) "token" 1 (selected updateArgs)
      (requested updateArgs) := by
    refine ⟨by decide, by decide, ?_, ?_, ?_⟩
    · intro i row hrow
      cases hrow
    · intro i row hrow
      rw [requested_row hrow]
      decide
    · intro c call hc
      cases hc
  have hok : Along (step (Json.str strOfText))
      (StepTells (Json.str strOfText) (statusUrl updatePost "token" 1) true 1) (requested updateArgs)
      (finishedJob none) :=
    ⟨⟨trivial, fun _ => trivial⟩, ⟨trivial, fun _ => trivial⟩, ⟨trivial, fun _ => trivial⟩,
      ⟨trivial, fun _ _ _ _ => rfl⟩, ⟨trivial, fun _ _ _ => ⟨rfl, fun _ => rfl⟩⟩, trivial⟩
  obtain ⟨v, hrun⟩ := Option.isSome_iff_exists.1
    (by decide : (exec (step (Json.str strOfText)) (requested updateArgs) (finishedJob none)).isSome)
  obtain ⟨row, hrow, hpoll⟩ := status_polling_faithful_iff hselected hargs (returned_requested updateArgs)
    (fun _ => hfresh) hrun hok
  have hworkers : (exec (step (Json.str strOfText)) (requested updateArgs) (finishedJob none)).map
      (fun v => v.workers.keys) = some [] := by decide
  rw [hrun, Option.map_some, Option.some.injEq] at hworkers
  refine ⟨v, row, hrun, hrow, hpoll.2 ?_⟩
  rintro k phase ⟨worker, hk, -⟩
  have hmem : k ∈ v.workers.keys := AList.mem_keys.1 (AList.lookup_isSome.1 (by rw [hk]; rfl))
  rw [hworkers] at hmem
  cases hmem

/-- The fields of a request for a download without a URL. -/
def manualPost : List (String × String) := [("job_type", "download_single")]

def manualArgs : JobArgs where
  profileId := "default"
  jobType := "download_single"
  payload := some [("source", .string "django_app"), ("manual_enqueue", .bool true),
    ("delete_explicit_content", .bool false)]
  idempotencyKey := some "download_single:default:manual"

/-- The poll of a failed download tells that it is finished and all right. -/
theorem failed_download_polled : ¬ ∀ (es es' : List (JobEvent Nat Nat Nat)) (w w' v : JobWorld Nat Nat Nat)
    (post : List (String × String)) (token : String) (args : JobArgs) (created : Bool) (jobId : Nat),
    exec (step (Json.str strOfText)) initial es = some w →
      enqueueJobArgs "default" post token = some args →
        Returned (Json.str strOfText) args w created jobId w' →
          (postedText "job_type" post = "update_downloads" →
            FreshToken (Json.str strOfText) token jobId w w') →
            exec (step (Json.str strOfText)) w' es' = some v →
              ∃ row, v.jobs.lookup jobId = some row ∧
                (workerMessageStatus strOfText "default" (statusUrl post token jobId) v.jobs).Faithful
                  row := by
  intro h
  obtain ⟨v, hrun⟩ := Option.isSome_iff_exists.1
    (by decide : (exec (step (Json.str strOfText)) (requested manualArgs)
      (finishedJob (some "HTTP 404"))).isSome)
  obtain ⟨row, hrow, hpoll⟩ := h [.select 0 manualArgs] (finishedJob (some "HTTP 404")) _ _ v
    manualPost "token" manualArgs true 1 rfl rfl (returned_requested manualArgs)
    (fun htype => absurd htype (by decide)) hrun
  have hstatus : (exec (step (Json.str strOfText)) (requested manualArgs)
      (finishedJob (some "HTTP 404"))).bind (statusOf 1) = some .failed := by decide
  have hreply : (exec (step (Json.str strOfText)) (requested manualArgs)
      (finishedJob (some "HTTP 404"))).map (fun v =>
        let reply := workerMessageStatus strOfText "default" (statusUrl manualPost "token" 1) v.jobs
        (reply.finished, reply.ok)) = some (true, true) := by decide
  rw [hrun, Option.bind_some, statusOf, hrow, Option.map_some, Option.some.injEq] at hstatus
  rw [hrun, Option.map_some, Option.some.injEq, Prod.mk.injEq] at hreply
  have hsucceeded := (hpoll.ok hreply.1).1 hreply.2
  rw [hstatus] at hsucceeded
  cases hsucceeded

end JobWorld

end GetOffline
