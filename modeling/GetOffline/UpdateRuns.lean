import GetOffline.UpdateButton

set_option autoImplicit true

namespace GetOffline
open Python Execution

/-- The form of the button. -/
def updateForm (csrf : String) : List (String × String) :=
  [("csrfmiddlewaretoken", csrf), ("next", "/"), ("job_type", "update_downloads")]

/-- What `enqueue_job` has answered a request: its job is one that it has created, or one that it has found. -/
structure ServedUpdate where
  post : Nat
  token : String
  statusUrl : StatusUrl
  jobId : Nat
  created : Bool

/-- A page of a user, and the system behind it, in which the requests of the page are calls under their numbers.
`tokens` has those that have made their `SELECT`, with what their forms and `uuid4` have given. `answer` is what
the server has answered to the poll that the page waits for. -/
structure UpdateWorld (W P C : Type) where
  page : UpdateButton
  system : JobWorld W P (Nat ⊕ C)
  tokens : Table Nat (String × String)
  updates : List ServedUpdate
  answer : Option StatusReply

/-- What the script is called for: `answer` has the exception, if a request fails. -/
inductive PageEvent
  | load (readable : Bool)
  | submit
  | answer (i : Nat) (stores : Bool) (error : Option String)

inductive UpdateEvent (W P C : Type)
  | server (e : JobEvent W P (Nat ⊕ C))
  | select (post : Nat) (csrf token : String)
  | insert (post : Nat) (createdAt updatedAt : Instant) (outcome : Outcome)
  | poll (i : Nat)
  | page (e : PageEvent)

/-- A step of a request of the page. -/
def JobEvent.isRequest : JobEvent W P (Nat ⊕ C) → Bool
  | .select (.inl _) _ | .insert (.inl _) _ _ _ => true
  | _ => false

namespace UpdateWorld

variable [DecidableEq W] [DecidableEq P] [DecidableEq C]

/-- What the server has answered. -/
def reply (w : UpdateWorld W P C) : UpdateButton.Wait → Option UpdateButton.Reply
  | .submit post =>
    (w.updates.find? fun update => update.post = post).map fun update => .queued update.statusUrl
  | .status _ => w.answer.map .status
  | .timer _ _ => some .fired

def event (w : UpdateWorld W P C) : PageEvent → Option UpdateButton.Event
  | .load readable => some (.load readable)
  | .submit => some .submit
  | .answer i stores error =>
    w.page.waiting[i]?.bind fun wait =>
      (match error with
        | some message => some (UpdateButton.Reply.failed message)
        | none => w.reply wait).map (.resume i stores)

def step (render : Json → String) (profileId : String) (w : UpdateWorld W P C) :
    UpdateEvent W P C → Option (UpdateWorld W P C)
  | .server e =>
    if e.isRequest then none
    else (w.system.step (Json.str render) e).map fun system => { w with system }
  | .select post csrf token =>
    if w.page.posts ≤ post ∨ (w.tokens.lookup post).isSome then none
    else
      (enqueueJobArgs profileId (updateForm csrf) token).bind fun args =>
        (w.system.step (Json.str render) (.select (.inl post) args)).map fun system =>
          { w with
            system
            tokens := AList.insert post (csrf, token) w.tokens
            updates := ((existingJob args w.system.jobs).map fun found =>
              ⟨post, token, statusUrl (updateForm csrf) token found.1, found.1, false⟩).toList ++ w.updates }
  | .insert post createdAt updatedAt outcome =>
    (w.tokens.lookup post).bind fun (csrf, token) =>
      (w.system.step (Json.str render) (.insert (.inl post) createdAt updatedAt outcome)).map fun system =>
        { w with
          system
          updates :=
            if outcome = .returned then
              ⟨post, token, statusUrl (updateForm csrf) token w.system.nextId, w.system.nextId, true⟩ :: w.updates
            else w.updates }
  | .poll i =>
    match w.page.waiting[i]?, w.answer with
    | some (.status statusUrl), none =>
      some { w with answer := some (workerMessageStatus render profileId statusUrl w.system.jobs) }
    | _, _ => none
  | .page e =>
    ((w.event e).bind w.page.step).map fun page =>
      { w with
        page
        answer := match e with
          | .submit => w.answer
          | _ => none }

def initial : UpdateWorld W P C where
  page := .initial
  system := .initial
  tokens := ∅
  updates := []
  answer := none

/-- The tokens are other ones than any before, and the conditions under which a job and the message about it come
together hold for the jobs of the page. -/
def Fair (render : Json → String) (w : UpdateWorld W P C) : UpdateEvent W P C → Prop
  | .server e => ∀ update ∈ w.updates, JobWorld.OtherToken (Json.str render) update.token e ∧
      (update.created = true → w.system.TellsResult update.jobId
        (updateFinishedKey update.jobId update.token) e)
  | .select _ _ token => token ≠ "" ∧ strip token = token ∧ w.system.Unknown render token ∧
      ∀ update ∈ w.updates, token ≠ update.token
  | .insert post createdAt updatedAt outcome => outcome = .returned → ∀ csrf token system,
      w.tokens.lookup post = some (csrf, token) →
        w.system.step (Json.str render) (.insert (.inl post) createdAt updatedAt .returned) = some system →
          JobWorld.FreshToken (Json.str render) token w.system.nextId w.system system
  | .poll _ | .page _ => True

/-- The browser's storage can be used. -/
def Stores : UpdateEvent W P C → Prop
  | .page (.load readable) => readable = true
  | .page (.answer _ stores _) => stores = true
  | _ => True

/-- When the polling of an update ends, its job is finished, and there is an alert exactly if it has failed. -/
def Tells (render : Json → String) (profileId : String) (w : UpdateWorld W P C) (e : UpdateEvent W P C) :
    Prop :=
  ∀ w' statusUrl alert, w.step render profileId e = some w' →
    w'.page.past = .ended statusUrl alert :: w.page.past →
      ∃ update ∈ w.updates, update.statusUrl = statusUrl ∧ ∃ row,
        w.system.jobs.lookup update.jobId = some row ∧ row.terminal = true ∧
          (alert.isSome = true ↔ row.status = .failed)

end UpdateWorld

/-- What is known of a request that has been served. -/
structure ServedUpdate.Tracked [DecidableEq W] [DecidableEq P] [DecidableEq C] (render : Json → String)
    (profileId : String) (w : JobWorld W P C) (update : ServedUpdate) : Prop where
  nonempty : update.token ≠ ""
  trimmed : strip update.token = update.token
  statusUrl : update.statusUrl = .token update.token
  created : update.created = true →
    w.Named render profileId update.token update.jobId ∧ w.Followed render update.token update.jobId
  found : update.created = false → w.Unknown render update.token

/-- A message of the update has the result that the answer tells. -/
def ServedUpdate.Answered [DecidableEq W] [DecidableEq P] [DecidableEq C] (render : Json → String)
    (w : JobWorld W P C) (update : ServedUpdate) (reply : StatusReply) : Prop :=
  ∃ i message status, w.Message render update.token update.jobId i message ∧
    Json.get "source_status" message.payload.dict = some (.string (StrEnum.value status)) ∧
      ((UpdateButton.alert reply).isSome = true ↔ status = JobStatus.failed)

section
variable {render : Json → String} {profileId csrf token : String} {args : JobArgs}

theorem jobType_updateForm (csrf : String) :
    postedText "job_type" (updateForm csrf) = "update_downloads" := by
  have hlookup : posted "job_type" (updateForm csrf) = some "update_downloads" := rfl
  rw [postedText, hlookup]
  decide

theorem idempotencyKey_updateForm (hargs : enqueueJobArgs profileId (updateForm csrf) token = some args) :
    args.idempotencyKey = some ("update_downloads" ++ ":" ++ profileId ++ ":" ++ token) := by
  have hkey : posted "idempotency_key" (updateForm csrf) = none := rfl
  unfold enqueueJobArgs at hargs
  dsimp only at hargs
  rw [jobType_updateForm, if_neg (by decide), if_pos rfl, if_pos rfl, hkey] at hargs
  obtain rfl := Option.some.inj hargs
  rfl

/-- The keys of requests and of messages begin with different letters. -/
theorem requestKey_ne_messageKey (profileId token jobId other : String) :
    "update_downloads" ++ ":" ++ profileId ++ ":" ++ token ≠
      "worker_message:update_downloads:" ++ jobId ++ ":" ++ other := by
  intro h
  have hhead := congrArg (fun s : String => s.toList.head?) h
  simp at hhead

theorem idempotencyKey_ne (hargs : enqueueJobArgs profileId (updateForm csrf) token = some args) (jobId : Nat)
    (other : String) : args.idempotencyKey ≠ some (updateFinishedKey jobId other) := by
  intro h
  have hkey : "update_downloads" ++ ":" ++ profileId ++ ":" ++ token = updateFinishedKey jobId other :=
    Option.some.inj ((idempotencyKey_updateForm hargs).symm.trans h)
  unfold updateFinishedKey at hkey
  exact requestKey_ne_messageKey _ _ _ _ hkey

/-- The words of an alert are those for a failure. -/
theorem alert_token (jobs : JobTable)
    (hok : (workerMessageStatus render profileId (.token token) jobs).ok = true) :
    UpdateButton.alert (workerMessageStatus render profileId (.token token) jobs) = none := by
  rw [UpdateButton.alert, hok, if_neg]
  intro hfailed
  simp only [Bool.not_true, Bool.or_false, decide_eq_true_eq] at hfailed
  unfold workerMessageStatus at hok hfailed
  dsimp only at hok hfailed
  split at hok
  · cases hok
  · next hnonempty =>
    rw [if_neg hnonempty] at hfailed
    cases hfirst : jobs.first (fun _ job => isUpdateFinished profileId (strip token) job)
        fun (id : Nat) job => toLex (-job.createdAt, -(id : Int)) with
    | none =>
      rw [hfirst] at hfailed
      exact absurd (Option.some.inj hfailed) (by decide)
    | some found =>
      rw [hfirst] at hok hfailed
      have hstatus := Option.some.inj hfailed
      dsimp only at hok
      rw [hstatus, decide_eq_true_eq] at hok
      exact hok (by decide)

end

namespace JobWorld
variable [DecidableEq W] [DecidableEq P] [DecidableEq C] {render : Json → String}
  {profileId token : String} {w w' : JobWorld W P C}

omit [DecidableEq W] [DecidableEq P] in
/-- Without a message a token is pending. -/
theorem Named.pending (h : w.Named render profileId token jobId) (htoken : token ≠ "")
    (htrimmed : strip token = token) (hno : ∀ i message, ¬ w.Message render token jobId i message) :
    workerMessageStatus render profileId (.token token) w.jobs = pendingReply := by
  refine token_pending htoken htrimmed fun i message hmessage => ?_
  rw [← Bool.not_eq_true]
  exact fun hfinished => hno i message (h.message_of_finished htoken htrimmed hmessage hfinished)

omit [DecidableEq W] [DecidableEq P] in
theorem Unknown.pending (h : w.Unknown render token) (htoken : token ≠ "") (htrimmed : strip token = token) :
    workerMessageStatus render profileId (.token token) w.jobs = pendingReply := by
  refine token_pending htoken htrimmed fun i message hmessage => ?_
  rw [← Bool.not_eq_true]
  exact fun hfinished => h.rows i message hmessage (isUpdateFinished_token hfinished htoken htrimmed)

theorem select_found (hexisting : existingJob args w.jobs = some found)
    (hstep : w.step str (.select c args) = some w') : w' = w := by
  simp only [step, hexisting] at hstep
  split at hstep
  · exact (Option.some.inj hstep).symm
  · cases hstep

end JobWorld

theorem statusUrl_updateForm (htoken : token ≠ "") (jobId : Nat) :
    statusUrl (updateForm csrf) token jobId = .token token :=
  JobWorld.statusUrl_update (jobType_updateForm csrf) htoken

theorem not_isDone_pendingReply : UpdateButton.isDone pendingReply = false := by decide

theorem value_injective {a b : JobStatus} (h : StrEnum.value a = StrEnum.value b) : a = b := by
  have hparse (status : JobStatus) : parseStrEnum JobStatus (StrEnum.value status) = some status := by
    cases status <;> decide
  exact Option.some.inj ((hparse a).symm.trans ((congrArg (parseStrEnum JobStatus) h).trans (hparse b)))

namespace ServedUpdate
variable [DecidableEq W] [DecidableEq P] [DecidableEq C] {render : Json → String} {profileId : String}
  {w w' : JobWorld W P C} {update : ServedUpdate}

theorem Tracked.step (h : update.Tracked render profileId w) (hw : w.Numbered ∧ w.CopiesAgree)
    (hother : JobWorld.OtherToken (Json.str render) update.token e)
    (htells : update.created = true →
      w.TellsResult update.jobId (updateFinishedKey update.jobId update.token) e)
    (hstep : w.step (Json.str render) e = some w') : update.Tracked render profileId w' where
  nonempty := h.nonempty
  trimmed := h.trimmed
  statusUrl := h.statusUrl
  created hcreated := by
    obtain ⟨hnamed, hfollowed⟩ := h.created hcreated
    exact ⟨hnamed.step hw.1 hw.2 hother (htells hcreated) hstep,
      hfollowed.step hnamed hw.1 hw.2 h.nonempty (htells hcreated) hstep⟩
  found hfound := (h.found hfound).step hw.1 hw.2 hother hstep

theorem Answered.step (h : update.Answered render w reply) (hw : w.Numbered ∧ w.CopiesAgree)
    (hstep : w.step (Json.str render) e = some w') : update.Answered render w' reply := by
  obtain ⟨i, old, status, ⟨hne, hold, htoken⟩, hstatus, halert⟩ := h
  obtain ⟨message, hmessage, hsame⟩ := (JobWorld.continues_step hw.1 hw.2 hstep).keeps i old hold
  refine ⟨i, message, status, ⟨hne, hmessage, (hsame.updateCompletionToken _).trans htoken⟩, ?_, halert⟩
  rw [hsame.payload "source_status" (by decide) (by decide)]
  exact hstatus

/-- A poll is answered with a result when there is a message. -/
theorem Tracked.answered (h : update.Tracked render profileId w)
    (hdone : UpdateButton.isDone (workerMessageStatus render profileId update.statusUrl w.jobs) = true) :
    update.Answered render w (workerMessageStatus render profileId update.statusUrl w.jobs) := by
  rw [h.statusUrl] at hdone ⊢
  have hpending (hreply : workerMessageStatus render profileId (.token update.token) w.jobs = pendingReply) :
      False := by
    rw [hreply, not_isDone_pendingReply] at hdone
    cases hdone
  cases hcreated : update.created with
  | false => exact (hpending ((h.found hcreated).pending h.nonempty h.trimmed)).elim
  | true =>
    obtain ⟨hnamed, row, hrow, hstage⟩ := h.created hcreated
    cases hstage with
    | unfinished hopen hphase hsingle hno =>
      exact (hpending (hnamed.pending h.nonempty h.trimmed hno)).elim
    | announcing hk hresult hsingle hno =>
      exact (hpending (hnamed.pending h.nonempty h.trimmed hno)).elim
    | told hterminal hnobody hmessage htells =>
      obtain ⟨i, message, hmessage⟩ := hmessage
      refine ⟨i, message, row.status, hmessage, htells i message hmessage, ?_⟩
      obtain ⟨-, hok⟩ := token_told render h.nonempty h.trimmed hmessage.2.1
        (hnamed.messages i message hmessage) fun i message hlookup hfinished =>
          htells i message (hnamed.message_of_finished h.nonempty h.trimmed hlookup hfinished)
      by_cases hfailed : row.status = .failed
      · have hnot : (workerMessageStatus render profileId (.token update.token) w.jobs).ok = false := by
          rw [← Bool.not_eq_true, hok]
          exact not_not_intro hfailed
        rw [UpdateButton.alert, hnot, Bool.not_false, Bool.or_true, if_pos rfl]
        exact iff_of_true rfl hfailed
      · rw [alert_token w.jobs (hok.2 hfailed)]
        exact iff_of_false Bool.false_ne_true hfailed

/-- What a message has told stays the result of the job. -/
theorem Tracked.result (h : update.Tracked render profileId w) (hanswered : update.Answered render w reply) :
    ∃ row, w.jobs.lookup update.jobId = some row ∧ row.terminal = true ∧
      ((UpdateButton.alert reply).isSome = true ↔ row.status = .failed) := by
  obtain ⟨i, message, status, hmessage, hstatus, halert⟩ := hanswered
  cases hcreated : update.created with
  | false => exact absurd hmessage.2.2 ((h.found hcreated).rows i message hmessage.2.1)
  | true =>
    obtain ⟨hnamed, row, hrow, hstage⟩ := h.created hcreated
    cases hstage with
    | unfinished hopen hphase hsingle hno => exact absurd hmessage (hno i message)
    | announcing hk hresult hsingle hno => exact absurd hmessage (hno i message)
    | told hterminal hnobody hsome htells =>
      have hvalue := (htells i message hmessage).symm.trans hstatus
      have hrowStatus : row.status = status := value_injective (Json.string.inj (Option.some.inj hvalue))
      exact ⟨row, hrow, hterminal, hrowStatus ▸ halert⟩

end ServedUpdate

namespace UpdateWorld
variable [DecidableEq W] [DecidableEq P] [DecidableEq C] {render : Json → String} {profileId : String}
  {w w' : UpdateWorld W P C} {e : UpdateEvent W P C} {es : List (UpdateEvent W P C)}

/-- The invariant. -/
structure Follows (render : Json → String) (profileId : String) (w : UpdateWorld W P C) : Prop where
  agree : w.system.Numbered ∧ w.system.CopiesAgree
  calls : ∀ post call, w.system.calls.lookup (.inl post) = some call → ∃ csrf token,
    w.tokens.lookup post = some (csrf, token) ∧
      enqueueJobArgs profileId (updateForm csrf) token = some call.args
  updates : ∀ update ∈ w.updates, update.Tracked render profileId w.system
  sound : w.page.Sound
  holds : w.page.Holds fun statusUrl => ∃ update ∈ w.updates, update.statusUrl = statusUrl
  answer : ∀ reply, w.answer = some reply → ∃ update ∈ w.updates,
    w.page.waiting = [.status update.statusUrl] ∧
      (UpdateButton.isDone reply = true → update.Answered render w.system reply)

theorem follows_initial : (initial : UpdateWorld W P C).Follows render profileId where
  agree := ⟨JobWorld.numbered_initial, JobWorld.copiesAgree_initial⟩
  calls post call hc := by cases hc
  updates update h := absurd h List.not_mem_nil
  sound := UpdateButton.sound_initial
  holds := UpdateButton.holds_initial _
  answer reply h := by cases h

omit [DecidableEq W] [DecidableEq P] [DecidableEq C] in
/-- What the script is resumed with is what the server answers, unless the request has failed. -/
theorem event_resume {e : PageEvent} {reply : UpdateButton.Reply}
    (h : w.event e = some (.resume i stores reply)) :
    ∃ wait, w.page.waiting[i]? = some wait ∧
      ((∃ message, reply = .failed message) ∨ w.reply wait = some reply) := by
  cases e with
  | load readable => cases Option.some.inj h
  | submit => cases Option.some.inj h
  | answer j stores' error =>
    obtain ⟨wait, hwait, hreply⟩ := Option.bind_eq_some_iff.1 h
    obtain ⟨reply', hreply', hresume⟩ := Option.map_eq_some_iff.1 hreply
    cases hresume
    refine ⟨wait, hwait, ?_⟩
    cases error with
    | none => exact .inr hreply'
    | some message =>
      obtain rfl := Option.some.inj hreply'
      exact .inl ⟨message, rfl⟩

omit [DecidableEq W] [DecidableEq P] [DecidableEq C] in
theorem gives_of_event {e : PageEvent} {reply : UpdateButton.Reply}
    (h : w.event e = some (.resume i stores reply)) :
    reply.Gives fun statusUrl => ∃ update ∈ w.updates, update.statusUrl = statusUrl := by
  obtain ⟨wait, -, ⟨message, rfl⟩ | hreply⟩ := event_resume h
  · trivial
  · cases wait with
    | submit post =>
      obtain ⟨update, hupdate, rfl⟩ := Option.map_eq_some_iff.1 hreply
      exact ⟨update, List.mem_of_find?_eq_some hupdate, rfl⟩
    | status statusUrl =>
      obtain ⟨status, -, rfl⟩ := Option.map_eq_some_iff.1 hreply
      trivial
    | timer id statusUrl =>
      obtain rfl := Option.some.inj hreply
      trivial

theorem mem_ite_cons {p : Prop} [Decidable p] {update new : ServedUpdate} {updates : List ServedUpdate}
    (h : update ∈ updates) : update ∈ if p then new :: updates else updates := by
  split
  · exact List.mem_cons_of_mem _ h
  · exact h

/-- A step of the system, with what it adds to the requests. -/
theorem Follows.of_system {e : JobEvent W P (Nat ⊕ C)} {system : JobWorld W P (Nat ⊕ C)}
    {tokens : Table Nat (String × String)} {updates : List ServedUpdate} (h : w.Follows render profileId)
    (hstep : w.system.step (Json.str render) e = some system)
    (hcalls : ∀ post call, system.calls.lookup (.inl post) = some call → ∃ csrf token,
      tokens.lookup post = some (csrf, token) ∧
        enqueueJobArgs profileId (updateForm csrf) token = some call.args)
    (htracked : ∀ update ∈ updates, update.Tracked render profileId system)
    (hgrows : ∀ update ∈ w.updates, update ∈ updates) :
    ({ w with system, tokens, updates } : UpdateWorld W P C).Follows render profileId where
  agree := JobWorld.agree_step h.agree hstep
  calls := hcalls
  updates := htracked
  sound := h.sound
  holds := by
    refine h.holds.mono ?_
    rintro statusUrl ⟨update, hupdate, rfl⟩
    exact ⟨update, hgrows update hupdate, rfl⟩
  answer reply hanswer := by
    obtain ⟨update, hupdate, hwaiting, hanswered⟩ := h.answer reply hanswer
    exact ⟨update, hgrows update hupdate, hwaiting, fun hdone => (hanswered hdone).step h.agree hstep⟩

theorem Follows.server {e : JobEvent W P (Nat ⊕ C)} (h : w.Follows render profileId)
    (hfair : w.Fair render (.server e))
    (hstep : w.step render profileId (.server e) = some w') : w'.Follows render profileId := by
  simp only [UpdateWorld.step] at hstep
  split at hstep
  · cases hstep
  · next hrequest =>
    obtain ⟨system, hsystem, rfl⟩ := Option.map_eq_some_iff.1 hstep
    refine h.of_system hsystem ?_ ?_ fun _ => id
    · intro post call hc
      rcases JobWorld.calls_effect (JobWorld.step_effect hsystem) hc with hold | rfl
      · exact h.calls post call hold
      · exact absurd rfl hrequest
    · intro update hupdate
      obtain ⟨hother, htells⟩ := hfair update hupdate
      exact (h.updates update hupdate).step h.agree hother htells hsystem

theorem Follows.select (h : w.Follows render profileId) (hfair : w.Fair render (.select post csrf token))
    (hstep : w.step render profileId (.select post csrf token) = some w') :
    w'.Follows render profileId := by
  obtain ⟨hnonempty, htrimmed, hunknown, hfresh⟩ := hfair
  simp only [UpdateWorld.step] at hstep
  split at hstep
  · cases hstep
  · next hnew =>
    obtain ⟨args, hargs, hstep⟩ := Option.bind_eq_some_iff.1 hstep
    obtain ⟨system, hsystem, rfl⟩ := Option.map_eq_some_iff.1 hstep
    have hold (update : ServedUpdate) (hupdate : update ∈ w.updates) :
        update.Tracked render profileId system := by
      have hother : JobWorld.OtherToken (Json.str render) update.token
          (.select (.inl post) args : JobEvent W P (Nat ⊕ C)) := by
        rw [JobWorld.OtherToken, (JobWorld.enqueueJobArgs_update hargs (jobType_updateForm csrf) hnonempty
          htrimmed).2.2]
        exact hfresh update hupdate
      exact (h.updates update hupdate).step h.agree hother (fun _ => trivial) hsystem
    refine h.of_system hsystem ?_ ?_ fun _ hupdate => List.mem_append_right _ hupdate
    · intro other call hc
      rcases JobWorld.calls_effect (JobWorld.step_effect hsystem) hc with hcall | hselect
      · obtain ⟨csrf', token', htoken, hargs'⟩ := h.calls other call hcall
        have hne : other ≠ post := by
          rintro rfl
          rw [htoken] at hnew
          exact hnew (.inr rfl)
        exact ⟨csrf', token', (AList.lookup_insert_ne hne).trans htoken, hargs'⟩
      · obtain ⟨rfl, rfl⟩ : post = other ∧ args = call.args := by
          cases hselect
          exact ⟨rfl, rfl⟩
        exact ⟨csrf, token, AList.lookup_insert _, hargs⟩
    · cases hexisting : existingJob args w.system.jobs with
      | none => exact hold
      | some found =>
        obtain rfl := JobWorld.select_found hexisting hsystem
        refine List.forall_mem_cons.2 ⟨⟨hnonempty, htrimmed, ?_, nofun, fun _ => hunknown⟩, hold⟩
        dsimp only
        exact statusUrl_updateForm hnonempty found.1

theorem Follows.insert (h : w.Follows render profileId)
    (hfair : w.Fair render (.insert post createdAt updatedAt outcome))
    (hstep : w.step render profileId (.insert post createdAt updatedAt outcome) = some w') :
    w'.Follows render profileId := by
  obtain ⟨⟨csrf, token⟩, htoken, hstep⟩ := Option.bind_eq_some_iff.1 hstep
  obtain ⟨system, hsystem, rfl⟩ := Option.map_eq_some_iff.1 hstep
  obtain ⟨call, hcall, -⟩ := Option.map_eq_some_iff.1 hsystem
  have hargs : enqueueJobArgs profileId (updateForm csrf) token = some call.args := by
    obtain ⟨csrf', token', htoken', hargs⟩ := h.calls post call hcall
    rw [htoken] at htoken'
    obtain ⟨rfl, rfl⟩ := Prod.mk.inj (Option.some.inj htoken')
    exact hargs
  have hold (update : ServedUpdate) (hupdate : update ∈ w.updates) :
      update.Tracked render profileId system := by
    have htells : w.system.TellsResult update.jobId (updateFinishedKey update.jobId update.token)
        (.insert (.inl post) createdAt updatedAt outcome) := by
      intro other hother
      rw [hcall] at hother
      obtain rfl := Option.some.inj hother
      exact idempotencyKey_ne hargs _ _
    have hother : JobWorld.OtherToken (Json.str render) update.token
        (.insert (.inl post) createdAt updatedAt outcome : JobEvent W P (Nat ⊕ C)) := trivial
    exact (h.updates update hupdate).step h.agree hother (fun _ => htells) hsystem
  refine h.of_system hsystem ?_ ?_ fun _ => mem_ite_cons
  · intro other call' hc
    rcases JobWorld.calls_effect (JobWorld.step_effect hsystem) hc with hcall' | hselect
    · exact h.calls other call' hcall'
    · cases hselect
  · split
    · next houtcome =>
      obtain rfl := houtcome
      have hfresh := hfair rfl csrf token system htoken hsystem
      obtain ⟨hprofile, htype, hcallToken⟩ := JobWorld.enqueueJobArgs_update hargs
        (jobType_updateForm csrf) hfresh.nonempty hfresh.trimmed
      refine List.forall_mem_cons.2 ⟨⟨hfresh.nonempty, hfresh.trimmed, ?_, fun _ => ?_, nofun⟩, hold⟩
      · dsimp only
        exact statusUrl_updateForm hfresh.nonempty w.system.nextId
      · exact JobWorld.created_followed h.agree.1 h.agree.2 hfresh hcall hprofile htype hcallToken hsystem
    · exact hold

theorem Follows.poll (h : w.Follows render profileId)
    (hstep : w.step render profileId (.poll i) = some w') : w'.Follows render profileId := by
  simp only [UpdateWorld.step] at hstep
  split at hstep
  · next statusUrl hwait hnone =>
    obtain rfl := Option.some.inj hstep
    refine ⟨h.agree, h.calls, h.updates, h.sound, h.holds, ?_⟩
    intro reply hanswer
    obtain rfl := Option.some.inj hanswer
    have hmem := List.mem_of_getElem? hwait
    obtain ⟨update, hupdate, rfl⟩ := h.holds.waiting _ hmem statusUrl rfl
    exact ⟨update, hupdate, h.sound.waiting_eq hmem, (h.updates update hupdate).answered⟩
  · cases hstep

/-- The answer after the step is the one before it, or there is none. -/
theorem page_step {e : PageEvent} (hstep : w.step render profileId (.page e) = some w') :
    ∃ event page answer, w.event e = some event ∧ w.page.step event = some page ∧
      w' = { w with page, answer } ∧ (answer = none ∨ e = .submit ∧ answer = w.answer) := by
  obtain ⟨page, hpage, rfl⟩ := Option.map_eq_some_iff.1 hstep
  obtain ⟨event, hevent, hpage⟩ := Option.bind_eq_some_iff.1 hpage
  refine ⟨event, page, _, hevent, hpage, rfl, ?_⟩
  cases e with
  | load readable => exact .inl rfl
  | submit => exact .inr ⟨rfl, rfl⟩
  | answer i stores error => exact .inl rfl

theorem Follows.page {e : PageEvent} (h : w.Follows render profileId)
    (hstep : w.step render profileId (.page e) = some w') : w'.Follows render profileId := by
  obtain ⟨event, page, answer, hevent, hpage, rfl, hanswer⟩ := page_step hstep
  refine ⟨h.agree, h.calls, h.updates, h.sound.step hpage, h.holds.effect (h.sound.effect hpage) ?_, ?_⟩
  · rintro i stores reply rfl
    exact gives_of_event hevent
  · intro reply hreply
    obtain rfl | ⟨rfl, rfl⟩ := hanswer
    · cases hreply
    · obtain ⟨update, hupdate, hwaiting, hanswered⟩ := h.answer reply hreply
      obtain rfl := Option.some.inj hevent
      obtain rfl := Option.some.inj hpage
      refine ⟨update, hupdate, ?_, hanswered⟩
      dsimp only
      rw [h.sound.submit_busy hwaiting]
      exact hwaiting

theorem Follows.step (h : w.Follows render profileId) (hfair : w.Fair render e)
    (hstep : w.step render profileId e = some w') : w'.Follows render profileId := by
  cases e with
  | server e => exact h.server hfair hstep
  | select post csrf token => exact h.select hfair hstep
  | insert post createdAt updatedAt outcome => exact h.insert hfair hstep
  | poll i => exact h.poll hstep
  | page e => exact h.page hstep

/-- The system and its requests leave the page alone. -/
theorem page_cases (hstep : w.step render profileId e = some w') :
    (∃ event, e = .page event) ∨ w'.page = w.page := by
  cases e with
  | server e =>
    simp only [UpdateWorld.step] at hstep
    split at hstep
    · cases hstep
    · obtain ⟨system, hsystem, rfl⟩ := Option.map_eq_some_iff.1 hstep
      exact .inr rfl
  | select post csrf token =>
    simp only [UpdateWorld.step] at hstep
    split at hstep
    · cases hstep
    · obtain ⟨args, hargs, hstep⟩ := Option.bind_eq_some_iff.1 hstep
      obtain ⟨system, hsystem, rfl⟩ := Option.map_eq_some_iff.1 hstep
      exact .inr rfl
  | insert post createdAt updatedAt outcome =>
    obtain ⟨token, htoken, hstep⟩ := Option.bind_eq_some_iff.1 hstep
    obtain ⟨system, hsystem, rfl⟩ := Option.map_eq_some_iff.1 hstep
    exact .inr rfl
  | poll i =>
    simp only [UpdateWorld.step] at hstep
    split at hstep
    · obtain rfl := Option.some.inj hstep
      exact .inr rfl
    · cases hstep
  | page event => exact .inl ⟨event, rfl⟩

/-- What ends a polling is an answer of the server. -/
theorem Follows.tells (h : w.Follows render profileId) (e : UpdateEvent W P C) :
    w.Tells render profileId e := by
  intro w' statusUrl alert hstep hpast
  obtain ⟨event, rfl⟩ | hpage := page_cases hstep
  · obtain ⟨event, page, answer, hevent, hpage, rfl, -⟩ := page_step hstep
    have heffect := h.sound.effect hpage
    cases heffect with
    | ended hwaiting hdone =>
      cases hpast
      obtain ⟨wait, hwait, ⟨message, hfailed⟩ | hreply⟩ := event_resume hevent
      · cases hfailed
      · rw [hwaiting, List.getElem?_singleton] at hwait
        split at hwait
        · obtain rfl := Option.some.inj hwait
          obtain ⟨status, hanswer, hstatus⟩ := Option.map_eq_some_iff.1 hreply
          obtain rfl := UpdateButton.Reply.status.inj hstatus
          obtain ⟨update, hupdate, hpolled, hanswered⟩ := h.answer _ hanswer
          rw [hwaiting] at hpolled
          refine ⟨update, hupdate, (UpdateButton.Wait.status.inj (List.singleton_inj.1 hpolled)).symm, ?_⟩
          exact (h.updates update hupdate).result (hanswered hdone)
        · cases hwait
    | loaded hstored => exact absurd hpast.symm (List.cons_ne_self _ _)
    | ignored => exact absurd hpast.symm (List.cons_ne_self _ _)
    | postponed hwaiting hreply => exact absurd hpast.symm (List.cons_ne_self _ _)
    | reloaded hstored => cases hpast
    | submitted hwaiting => cases hpast
    | refused hwaiting => cases hpast
    | started hwaiting => cases hpast
    | fired hwaiting => cases hpast
  · rw [hpage] at hpast
    exact absurd hpast.symm (List.cons_ne_self _ _)

/-- Whatever the server does. -/
theorem sound_step (h : w.page.Sound) (hstep : w.step render profileId e = some w') : w'.page.Sound := by
  obtain ⟨event, rfl⟩ | hpage := page_cases hstep
  · obtain ⟨event', page, answer, hevent, hpage, rfl, -⟩ := page_step hstep
    exact h.step hpage
  · rw [hpage]
    exact h

theorem accounts_step (hsound : w.page.Sound) (h : w.page.Accounts) (hstores : Stores e)
    (hstep : w.step render profileId e = some w') : w'.page.Accounts := by
  obtain ⟨event, rfl⟩ | hpage := page_cases hstep
  · obtain ⟨event', page, answer, hevent, hpage, rfl, -⟩ := page_step hstep
    refine h.effect (hsound.effect hpage) ?_
    cases event with
    | load readable =>
      obtain rfl := Option.some.inj hevent
      exact hstores
    | submit =>
      obtain rfl := Option.some.inj hevent
      rfl
    | answer i stores error =>
      obtain ⟨wait, hwait, hreply⟩ := Option.bind_eq_some_iff.1 hevent
      obtain ⟨reply, hreply, rfl⟩ := Option.map_eq_some_iff.1 hreply
      exact hstores
  · rw [hpage]
    exact h

end UpdateWorld

open UpdateWorld

/-- The button of the dashboard, in every run of a page and the system behind it: it waits for one thing at most
and is disabled meanwhile; with a storage, each polling that has been started ends once or still goes on; and
under the conditions of `Fair` a polling ends when its update is finished, with an alert exactly if that has
failed. -/
theorem update_button [DecidableEq W] [DecidableEq P] [DecidableEq C] {render : Json → String}
    {profileId : String} {es : List (UpdateEvent W P C)} {w : UpdateWorld W P C}
    (hrun : exec (UpdateWorld.step render profileId) initial es = some w) :
    w.page.Sound ∧
      (Along (UpdateWorld.step render profileId) (fun _ e => Stores e) initial es → w.page.Accounts) ∧
      (Along (UpdateWorld.step render profileId) (Fair render) initial es →
        Along (UpdateWorld.step render profileId) (Tells render profileId) initial es) := by
  have hsound := exec_preserves (I := fun w => w.page.Sound) (fun _ _ _ => sound_step)
    UpdateButton.sound_initial hrun
  refine ⟨hsound, fun hstores => ?_, fun hfair => along_iff.2 ?_⟩
  · refine (exec_invariant (I := fun w => w.page.Sound ∧ w.page.Accounts) ?_
      ⟨UpdateButton.sound_initial, UpdateButton.accounts_initial⟩ hstores hrun).2
    intro s e t h hok hstep
    exact ⟨sound_step h.1 hstep, accounts_step h.1 h.2 hok hstep⟩
  · rintro es₁ e es₂ t rfl ht
    have hbefore := exec_invariant (I := Follows render profileId)
      (fun _ _ _ h hfair hstep => h.step hfair hstep) follows_initial hfair.left ht
    exact hbefore.tells e

/-- An update is asked for and polled too early. -/
def requestedUpdate : List (UpdateEvent Nat Nat Nat) :=
  [.page (.load true), .page .submit, .select 0 "csrf" "token", .insert 0 0 0 .returned,
    .page (.answer 0 true none), .poll 0, .page (.answer 0 true none)]

/-- It fails, and the next poll tells so. -/
def failedUpdate : List (UpdateEvent Nat Nat Nat) :=
  [.server (.claim 1 1 1 .returned), .server (.startHandler 1 none),
    .server (.leaveHandler 1 (some "HTTP 404")), .server (.finish 1 2 .returned),
    .server (.announce 1 3 3 .returned), .page (.answer 0 true none), .poll 0,
    .page (.answer 0 true none)]

theorem stores_failedUpdate : Along (UpdateWorld.step JobWorld.strOfText "default") (fun _ e => Stores e)
    initial (requestedUpdate ++ failedUpdate) :=
  ⟨rfl, trivial, trivial, trivial, rfl, trivial, rfl, trivial, trivial, trivial, trivial, trivial, rfl,
    trivial, rfl, trivial⟩

theorem fair_failedUpdate : Along (UpdateWorld.step JobWorld.strOfText "default") (Fair JobWorld.strOfText)
    initial (requestedUpdate ++ failedUpdate) := by
  refine ⟨trivial, trivial, ⟨by decide, by decide, ⟨nofun, nofun⟩, nofun⟩, ?_, trivial, trivial, trivial, ?_⟩
  · rintro - csrf token system htoken hsystem
    obtain ⟨rfl, rfl⟩ := Prod.mk.inj (Option.some.inj htoken)
    obtain rfl := Option.some.inj hsystem
    refine ⟨by decide, by decide, nofun, ?_, nofun⟩
    intro i row hrow
    have hkeys : i ∈ [1] := AList.mem_keys.1 (AList.lookup_isSome.1 (by rw [hrow]; rfl))
    obtain rfl := List.mem_singleton.1 hkeys
    obtain rfl := Option.some.inj hrow
    decide
  · exact ⟨fun _ _ => ⟨trivial, fun _ => trivial⟩, fun _ _ => ⟨trivial, fun _ => trivial⟩,
      fun _ _ => ⟨trivial, fun _ => trivial⟩, fun _ _ => ⟨trivial, fun _ _ _ _ => rfl⟩,
      fun _ _ => ⟨trivial, fun _ _ _ => ⟨rfl, fun _ => rfl⟩⟩, trivial, trivial, trivial, trivial⟩

theorem failed_update_told : ∃ w, exec (UpdateWorld.step JobWorld.strOfText "default") initial
    (requestedUpdate ++ failedUpdate) = some w ∧
      w.page.past.head? = some (.ended (.token "token") (some "HTTP 404")) ∧ w.page.Sound ∧ w.page.Accounts ∧
      Along (UpdateWorld.step JobWorld.strOfText "default") (Tells JobWorld.strOfText "default") initial
        (requestedUpdate ++ failedUpdate) := by
  obtain ⟨w, hrun⟩ := Option.isSome_iff_exists.1
    (by decide : (exec (UpdateWorld.step JobWorld.strOfText "default") initial
      (requestedUpdate ++ failedUpdate)).isSome)
  have hpast : (exec (UpdateWorld.step JobWorld.strOfText "default") initial
      (requestedUpdate ++ failedUpdate)).map (fun w => w.page.past.head?) =
        some (some (.ended (.token "token") (some "HTTP 404"))) := rfl
  rw [hrun, Option.map_some, Option.some.injEq] at hpast
  obtain ⟨hsound, haccounts, htells⟩ := update_button hrun
  exact ⟨w, hrun, hpast, hsound, haccounts stores_failedUpdate, htells fair_failedUpdate⟩

end GetOffline
