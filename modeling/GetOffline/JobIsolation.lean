import GetOffline.JobRequests

set_option autoImplicit true

namespace GetOffline
open Python Execution Table

@[simp] theorem JobWork.apply_profileId (work : JobWork) (job : Job) :
    (work.apply job).profileId = job.profileId := by
  cases work with
  | touch now stage title => rw [JobWork.apply]; cases touchActiveJob now stage title job <;> rfl
  | _ => rfl

@[simp] theorem JobWork.apply_jobType (work : JobWork) (job : Job) :
    (work.apply job).jobType = job.jobType := by
  cases work with
  | touch now stage title => rw [JobWork.apply]; cases touchActiveJob now stage title job <;> rfl
  | _ => rfl

@[simp] theorem JobWork.apply_idempotencyKey (work : JobWork) (job : Job) :
    (work.apply job).idempotencyKey = job.idempotencyKey := by
  cases work with
  | touch now stage title => rw [JobWork.apply]; cases touchActiveJob now stage title job <;> rfl
  | _ => rfl

/-- The workers note in the payload what they are at, and change nothing else of it. -/
theorem JobWork.get_apply (work : JobWork) (job : Job) (hkey : key ∉ ["active_stage", "active_title"]) :
    Json.get key (work.apply job).payload.dict = Json.get key job.payload.dict := by
  obtain ⟨hstage, htitle⟩ : key ≠ "active_stage" ∧ key ≠ "active_title" := by
    simpa only [List.mem_cons, List.not_mem_nil, or_false, not_or] using hkey
  cases work with
  | touch now stage title =>
    rw [JobWork.apply]
    cases h : touchActiveJob now stage title job with
    | none => rfl
    | some copy =>
      have hcopy := get_touchActiveJob h hstage htitle
      exact hcopy
  | _ => rfl

theorem args_profileId {request : EnqueueRequest}
    (h : request.args render profileId = some args) : args.profileId = profileId := by
  cases request with
  | enqueueJob post token =>
    rw [EnqueueRequest.args, enqueueJobArgs] at h
    split at h
    · cases h
    · cases h; rfl
  | download data =>
    rw [EnqueueRequest.args, downloadArgs] at h
    split at h
    · cases h
    · cases h; rfl
  | createJob jobType payload idempotencyKey => cases h; rfl

def Job.carries (key : String) (job : Job) : Bool :=
  job.idempotencyKey = some key && job.active

/-- The oldest active job that carries the key. -/
def Oldest (key : String) (i : Nat) (job : Job) (jobs : JobTable) : Prop :=
  jobs.lookup i = some job ∧ job.carries key = true ∧
    ∀ j row, jobs.lookup j = some row → row.carries key = true → i ≤ j

/-- The key of the request is not one under which an older job of another profile, or of another
type, is active. -/
def OwnKey (args : JobArgs) (jobs : JobTable) : Prop :=
  ∀ key, args.key = some key → ∀ i job, Oldest key i job jobs →
    job.profileId = args.profileId ∧ job.jobType = args.jobType

theorem orders_id : Orders fun (i : Nat) (_ : Job) => i :=
  fun _ _ _ _ h => h

theorem existingJob_eq_some : existingJob args jobs = some (i, job) ↔
    ∃ key, args.key = some key ∧ Oldest key i job jobs := by
  rw [existingJob, Option.bind_eq_some_iff]
  apply exists_congr
  intro key
  apply and_congr_right
  intro
  exact first_eq_some orders_id

/-- The rows of a profile, the first created first. -/
def ownRows (profileId : String) (db : Database) : List Job :=
  (ownJobs profileId db).map Prod.snd

theorem mem_ownRows : job ∈ ownRows u db ↔ ∃ i, db.jobs.lookup i = some job ∧ job.profileId = u := by
  rw [ownRows, List.mem_map]
  constructor
  · rintro ⟨⟨i, job⟩, h, rfl⟩
    obtain ⟨hrow, hu⟩ := mem_orderBy.1 h
    exact ⟨i, hrow, of_decide_eq_true hu⟩
  · rintro ⟨i, hrow, hu⟩
    exact ⟨(i, job), mem_orderBy.2 ⟨hrow, decide_eq_true hu⟩, rfl⟩

theorem lt_nextId (db : Database) (h : db.jobs.lookup i = some job) : i < db.nextId := by
  by_contra hi
  rw [db.fresh i (Nat.le_of_not_lt hi)] at h
  cases h

theorem ownRows_create (u : String) (job : Job) (db : Database) :
    ownRows u (db.create job) = ownRows u db ++ if job.profileId = u then [job] else [] := by
  have hlast : ∀ e ∈ ownJobs u db, e.1 < db.nextId :=
    fun e he => lt_nextId db (mem_orderBy.1 he).1
  have h : ownJobs u (db.create job) = ownJobs u db ++ if decide (job.profileId = u) then
      [(db.nextId, job)] else [] :=
    orderBy_insert orders_id (db.fresh db.nextId le_rfl) hlast
  rw [ownRows, ownRows, h, List.map_append]
  simp only [decide_eq_true_eq]
  split <;> rfl

theorem ownJobs_save (hf : ∀ job, (f job).profileId = job.profileId) (u : String) (i : Nat)
    (db : Database) : ownJobs u (db.save i f) =
      (ownJobs u db).map fun e => (e.1, if e.1 == i then f e.2 else e.2) := by
  exact orderBy_update (p := fun _ job => decide (job.profileId = u)) (q := fun k _ => k == i)
    orders_id (fun _ job => by rw [hf]) (fun _ _ => rfl) db.jobs

theorem ownRows_save_other (hf : ∀ job, (f job).profileId = job.profileId)
    (h : ∀ job, (i, job) ∉ ownJobs u db) : ownRows u (db.save i f) = ownRows u db := by
  rw [ownRows, ownRows, ownJobs_save hf, List.map_map]
  apply List.map_congr_left
  rintro ⟨j, job⟩ hj
  have hne : j ≠ i := fun hji => h job (hji ▸ hj)
  exact if_neg fun h => hne (beq_iff_eq.1 h)

/-- A change of the row in the given place, where the keys of a list are all different. -/
theorem map_snd_modify {l : List (Nat × α)} (hl : (l.map Prod.fst).Nodup) (f : α → α)
    (h : l[k]? = some (i, a)) :
    (l.map fun e => (e.1, if e.1 == i then f e.2 else e.2)).map Prod.snd =
      (l.map Prod.snd).modify k f := by
  induction l generalizing k with
  | nil => cases h
  | cons d l ih =>
    obtain ⟨hd, hl'⟩ := List.nodup_cons.1 hl
    cases k with
    | zero =>
      obtain rfl := Option.some.inj h
      rw [List.map_cons, List.map_cons, List.map_cons, List.modify_zero_cons, beq_self_eq_true,
        if_pos rfl, List.map_map]
      congr 1
      apply List.map_congr_left
      intro e he
      refine if_neg fun hei => hd (List.mem_map.2 ⟨e, he, ?_⟩)
      exact beq_iff_eq.1 hei
    | succ k =>
      rw [List.getElem?_cons_succ] at h
      have hne : d.1 ≠ i := fun hdi =>
        hd (List.mem_map.2 ⟨(i, a), List.mem_of_getElem? h, hdi.symm⟩)
      rw [List.map_cons, List.map_cons, List.map_cons, List.modify_succ_cons, ih hl' h,
        if_neg fun he => hne (beq_iff_eq.1 he)]

theorem ownRows_save_own (hf : ∀ job, (f job).profileId = job.profileId)
    (h : (ownJobs u db)[k]? = some (i, job)) :
    ownRows u (db.save i f) = (ownRows u db).modify k f := by
  rw [ownRows, ownRows, ownJobs_save hf]
  exact map_snd_modify nodup_orderBy f h

/-- A request whose key is its profile's own finds what it would find among the rows of its profile. -/
theorem existingJob_own (h : ∀ i job, existingJob args db.jobs = some (i, job) → job.profileId = u) :
    (existingJob args db.jobs).map Prod.snd =
      args.key.bind fun key => (ownRows u db).find? (Job.carries key) := by
  cases hkey : args.key with
  | none => rw [existingJob, hkey]; rfl
  | some key =>
    have hfirst : existingJob args db.jobs =
        (db.jobs.orderBy (fun _ job => job.carries key) fun i _ => i).head? := by
      rw [existingJob, hkey, Option.bind_some]
      exact first_eq_head (p := fun _ job => job.carries key) orders_id
    have hown : (ownRows u db).find? (Job.carries key) =
        (((db.jobs.orderBy (fun _ job => job.carries key) fun i _ => i).filter
          fun e => decide (e.2.profileId = u)).head?).map Prod.snd := by
      rw [filter_orderBy (q := fun _ job => decide (job.profileId = u)) orders_id]
      simp only [Bool.and_comm (Job.carries key _)]
      rw [← filter_orderBy (p := fun _ job => decide (job.profileId = u))
        (q := fun _ job => job.carries key) orders_id, List.head?_filter, ownRows, List.find?_map]
      rfl
    rw [Option.bind_some, hown, hfirst]
    cases hl : db.jobs.orderBy (fun _ job => job.carries key) fun i _ => i with
    | nil => rfl
    | cons e l =>
      rw [hl] at hfirst
      have he := h e.1 e.2 hfirst
      rw [List.filter, decide_eq_true he]
      rfl

/-- The outcome of a request, told by the job that it finds. -/
theorem enqueue_observed (args : JobArgs) (createdAt updatedAt : Instant) (db : Database) :
    (enqueue args createdAt updatedAt db).2.observed =
      ((existingJob args db.jobs).map Prod.snd).elim
        (true, some (newJob args createdAt updatedAt)) fun job => (false, some job) := by
  rw [EnqueueReply.observed, enqueue, createJob]
  cases h : existingJob args db.jobs with
  | none =>
    dsimp only
    rw [db.fresh db.nextId le_rfl, Database.lookup_create, if_pos rfl]
    rfl
  | some e =>
    obtain ⟨i, job⟩ := e
    obtain ⟨key, -, hrow, -⟩ := existingJob_eq_some.1 h
    dsimp only
    rw [hrow]
    rfl

theorem ownRows_enqueue (u : String) (args : JobArgs) (createdAt updatedAt : Instant)
    (db : Database) : ownRows u (enqueue args createdAt updatedAt db).1 =
      ownRows u db ++ ((existingJob args db.jobs).map Prod.snd).elim
        (if args.profileId = u then [newJob args createdAt updatedAt] else []) fun _ => [] := by
  rw [enqueue, createJob]
  cases h : existingJob args db.jobs with
  | none => exact ownRows_create u _ db
  | some e => exact (List.append_nil _).symm

/-- Two databases in which a profile has the same rows; in the second one nobody else has any. -/
structure Twin (u : String) (db db' : Database) : Prop where
  rows : ownRows u db = ownRows u db'
  alone : ∀ i job, db'.jobs.lookup i = some job → job.profileId = u

theorem Twin.request (h : Twin u db db') {args : JobArgs} (hu : args.profileId = u)
    (hown : OwnKey args db.jobs) (createdAt updatedAt : Instant) :
    (enqueue args createdAt updatedAt db).2.observed =
        (enqueue args createdAt updatedAt db').2.observed ∧
      Twin u (enqueue args createdAt updatedAt db).1 (enqueue args createdAt updatedAt db').1 := by
  have he : (existingJob args db.jobs).map Prod.snd = (existingJob args db'.jobs).map Prod.snd := by
    rw [existingJob_own (u := u), existingJob_own (u := u), h.rows]
    · intro i job hex
      obtain ⟨key, -, hrow, -⟩ := existingJob_eq_some.1 hex
      exact h.alone i job hrow
    · intro i job hex
      obtain ⟨key, hkey, hold⟩ := existingJob_eq_some.1 hex
      exact (hown key hkey i job hold).1.trans hu
  refine ⟨by rw [enqueue_observed, enqueue_observed, he], ?_, ?_⟩
  · rw [ownRows_enqueue, ownRows_enqueue, he, h.rows]
  · intro i job hrow
    rw [enqueue, createJob] at hrow
    cases hex : existingJob args db'.jobs with
    | some e =>
      rw [hex] at hrow
      exact h.alone i job hrow
    | none =>
      rw [hex] at hrow
      rw [Database.lookup_create] at hrow
      split at hrow
      · rw [← Option.some.inj hrow]
        exact hu
      · exact h.alone i job hrow

theorem Twin.create (h : Twin u db db') {job : Job} (hu : job.profileId ≠ u) :
    Twin u (db.create job) db' where
  rows := by rw [ownRows_create, if_neg hu, List.append_nil, h.rows]
  alone := h.alone

theorem serve_request (render : Json → String) (u : String) (request : EnqueueRequest)
    (createdAt updatedAt : Instant) (db : Database) :
    serve render (u, .request request createdAt updatedAt) db =
      ((request.args render u).elim db fun args => (enqueue args createdAt updatedAt db).1, u,
        (request.args render u).map fun args => (enqueue args createdAt updatedAt db).2) := by
  unfold serve
  dsimp only
  cases request.args render u <;> rfl

theorem serve_progress (render : Json → String) (u : String) (k : Nat) (work : JobWork)
    (db : Database) : serve render (u, .progress k work) db =
      ((ownJobs u db)[k]?.elim db fun e => db.save e.1 (JobWork.apply · work), u, none) := by
  unfold serve
  dsimp only
  cases (ownJobs u db)[k]? <;> rfl

theorem Twin.work (h : Twin u db db') (k : Nat) (work : JobWork) :
    Twin u (serve render (u, .progress k work) db).1 (serve render (u, .progress k work) db').1 := by
  have hrow : (ownJobs u db)[k]?.map Prod.snd = (ownJobs u db')[k]?.map Prod.snd := by
    rw [← List.getElem?_map, ← List.getElem?_map]
    exact congrArg (·[k]?) h.rows
  rw [serve_progress, serve_progress]
  cases hk : (ownJobs u db)[k]? with
  | none =>
    rw [hk, Option.map_none] at hrow
    rw [Option.map_eq_none_iff.1 hrow.symm]
    exact h
  | some e =>
    rw [hk, Option.map_some] at hrow
    obtain ⟨e', he', -⟩ := Option.map_eq_some_iff.1 hrow.symm
    rw [he']
    constructor
    · dsimp only [Option.elim_some]
      rw [ownRows_save_own work.apply_profileId hk, ownRows_save_own work.apply_profileId he', h.rows]
    · intro j row hj
      dsimp only [Option.elim_some] at hj
      rw [Database.save, lookup_saveFields] at hj
      split at hj
      · obtain ⟨old, hold, rfl⟩ := Option.map_eq_some_iff.1 hj
        rw [work.apply_profileId]
        exact h.alone _ old hold
      · exact h.alone j row hj

/-- What another profile does leaves the rows of a profile. -/
theorem ownRows_serve_other (render : Json → String) (event : ProfileEvent) (hv : v ≠ u)
    (db : Database) : ownRows u (serve render (v, event) db).1 = ownRows u db := by
  cases event with
  | request request createdAt updatedAt =>
    rw [serve_request]
    cases hargs : request.args render v with
    | none => rfl
    | some args =>
      have hu : ¬ args.profileId = u := by
        rw [args_profileId hargs]
        exact hv
      rw [Option.elim_some, ownRows_enqueue, if_neg hu]
      cases existingJob args db.jobs <;> exact List.append_nil _
  | progress k work =>
    rw [serve_progress]
    cases hk : (ownJobs v db)[k]? with
    | none => rfl
    | some e =>
      apply ownRows_save_other work.apply_profileId
      intro row hrow
      have hmine := mem_orderBy.1 (List.mem_of_getElem? hk)
      have htheirs := mem_orderBy.1 hrow
      rw [Option.some.inj (hmine.1.symm.trans htheirs.1)] at hmine
      exact hv ((of_decide_eq_true hmine.2).symm.trans (of_decide_eq_true htheirs.2))

theorem serve_profile (render : Json → String) (event : String × ProfileEvent) (db : Database) :
    (serve render event db).2.1 = event.1 := by
  obtain ⟨u, event⟩ := event
  cases event with
  | request request createdAt updatedAt => rw [serve_request]
  | progress k work => rw [serve_progress]

theorem filter_fst_self {e : String × α} (h : e.1 = u) (l : List (String × α)) :
    ((e :: l).filter fun e => e.1 = u) = e :: l.filter fun e => e.1 = u :=
  List.filter_cons_of_pos (p := fun e : String × α => decide (e.1 = u)) (decide_eq_true h)

theorem filter_fst_other {e : String × α} (h : e.1 ≠ u) (l : List (String × α)) :
    ((e :: l).filter fun e => e.1 = u) = l.filter fun e => e.1 = u :=
  List.filter_cons_of_neg (p := fun e : String × α => decide (e.1 = u)) fun hd => h (of_decide_eq_true hd)

/-- A request of the profile comes with a key that is the profile's own. -/
def OwnKeys (render : Json → String) (u : String) (db : Database) (event : String × ProfileEvent) :
    Prop :=
  ∀ request createdAt updatedAt args, event = (u, .request request createdAt updatedAt) →
    request.args render u = some args → OwnKey args db.jobs

/-- What other profiles do makes no difference to what a profile is told. -/
theorem observed_filter (render : Json → String) (h : Twin u db db')
    (hown : Along (advance (serve render)) (OwnKeys render u) db history) :
    (((answers (serve render) db history).1.filter fun r => r.1 = u).map
        fun r => r.2.map EnqueueReply.observed) =
      (((answers (serve render) db' (history.filter fun e => e.1 = u)).1.filter
        fun r => r.1 = u).map fun r => r.2.map EnqueueReply.observed) := by
  induction history generalizing db db' with
  | nil => rfl
  | cons event history ih =>
    obtain ⟨v, event⟩ := event
    have htail := hown.tail rfl
    by_cases hv : v = u
    · subst v
      have hstep : (serve render (u, event) db).2.2.map EnqueueReply.observed =
            (serve render (u, event) db').2.2.map EnqueueReply.observed ∧
          Twin u (serve render (u, event) db).1 (serve render (u, event) db').1 := by
        cases event with
        | request request createdAt updatedAt =>
          rw [serve_request, serve_request]
          cases hargs : request.args render u with
          | none => exact ⟨rfl, h⟩
          | some args =>
            obtain ⟨ho, ht⟩ := h.request (args_profileId hargs)
              (hown.head _ _ _ _ rfl hargs) createdAt updatedAt
            exact ⟨congrArg some ho, ht⟩
        | progress k work =>
          refine ⟨?_, h.work k work⟩
          rw [serve_progress, serve_progress]
      have hu : ∀ db, (serve render (u, event) db).2.1 = u := serve_profile render (u, event)
      have he : (u, event).1 = u := rfl
      rw [filter_fst_self he, answers_cons, answers_cons, filter_fst_self (hu db),
        filter_fst_self (hu db'), List.map_cons, List.map_cons, hstep.1, ih hstep.2 htail]
    · have hskip : Twin u (serve render (v, event) db).1 db' :=
        ⟨(ownRows_serve_other render event hv db).trans h.rows, h.alone⟩
      have hu : (serve render (v, event) db).2.1 ≠ u := (serve_profile ..).trans_ne hv
      rw [filter_fst_other hv, answers_cons, filter_fst_other hu, ih hskip htail]

/-- Where the row of a profile comes from: a request of the profile asked for a job of its type under
its key and with its payload, up to what the workers note in it. -/
def AskedFor (render : Json → String) (u : String) (history : List (String × ProfileEvent))
    (job : Job) : Prop :=
  ∃ request createdAt updatedAt args,
    (u, ProfileEvent.request request createdAt updatedAt) ∈ history ∧
      request.args render u = some args ∧ job.jobType = args.jobType ∧
      job.idempotencyKey = args.idempotencyKey ∧
      ∀ key, key ∉ ["active_stage", "active_title"] →
        Json.get key job.payload.dict = Json.get key (args.payload.getD [])

/-- The reply is about a job of the profile, of the type that it asked for: a new one with the payload
that it sent, or one that it asked for before. -/
def EnqueueReply.Own (render : Json → String) (u : String) (history : List (String × ProfileEvent))
    (reply : EnqueueReply) : Prop :=
  ∃ job, reply.job = some job ∧ job.profileId = u ∧ job.jobType = reply.args.jobType ∧
    (reply.created = true → job.payload = .object (reply.args.payload.getD [])) ∧
    AskedFor render u history job

/-- In both histories every reply to the profile is its own, and it is told the same. -/
def Isolated (render : Json → String) (u : String) (history history' : List (String × ProfileEvent)) :
    Prop :=
  (∀ reply, some reply ∈ repliesTo render u history → reply.Own render u history) ∧
    (∀ reply, some reply ∈ repliesTo render u history' → reply.Own render u history') ∧
    (repliesTo render u history).map (Option.map EnqueueReply.observed) =
      (repliesTo render u history').map (Option.map EnqueueReply.observed)

theorem some_mem_repliesTo {reply : EnqueueReply} : some reply ∈ repliesTo render u history ↔
    ∃ before request createdAt updatedAt after args,
      history = before ++ (u, .request request createdAt updatedAt) :: after ∧
        request.args render u = some args ∧
        reply = (enqueue args createdAt updatedAt (answers (serve render) .empty before).2).2 := by
  rw [repliesTo, List.mem_map]
  constructor
  · rintro ⟨⟨v, o⟩, hmem, rfl⟩
    obtain ⟨hmem, hv⟩ := List.mem_filter.1 hmem
    obtain ⟨before, ⟨w, event⟩, after, rfl, ho⟩ := mem_answers.1 hmem
    have hwv : v = w := (congrArg Prod.fst ho).trans (serve_profile ..)
    obtain rfl := of_decide_eq_true hv
    subst w
    cases event with
    | request request createdAt updatedAt =>
      rw [serve_request] at ho
      obtain ⟨args, hargs, hr⟩ := Option.map_eq_some_iff.1 (congrArg Prod.snd ho).symm
      exact ⟨before, request, createdAt, updatedAt, after, args, rfl, hargs, hr.symm⟩
    | progress k work =>
      rw [serve_progress] at ho
      cases ho
  · rintro ⟨before, request, createdAt, updatedAt, after, args, rfl, hargs, rfl⟩
    refine ⟨(u, some _), List.mem_filter.2 ⟨mem_answers.2 ⟨before, _, after, rfl, ?_⟩,
      decide_eq_true rfl⟩, rfl⟩
    rw [serve_request, hargs]
    rfl

/-- All rows of the profile were asked for. -/
def Made (render : Json → String) (u : String) (history : List (String × ProfileEvent))
    (db : Database) : Prop :=
  ∀ job ∈ ownRows u db, AskedFor render u history job

theorem AskedFor.work (h : AskedFor render u history job) (work : JobWork) :
    AskedFor render u history (work.apply job) := by
  obtain ⟨request, createdAt, updatedAt, args, hmem, hargs, htype, hkey, hpayload⟩ := h
  refine ⟨request, createdAt, updatedAt, args, hmem, hargs, ?_, ?_, ?_⟩
  · rw [work.apply_jobType, htype]
  · rw [work.apply_idempotencyKey, hkey]
  · intro key hk
    rw [work.get_apply job hk, hpayload key hk]

theorem Made.serve (h : Made render u history db) (he : event ∈ history) :
    Made render u history (serve render event db).1 := by
  obtain ⟨v, event⟩ := event
  by_cases hv : v = u
  · subst v
    cases event with
    | request request createdAt updatedAt =>
      rw [serve_request]
      cases hargs : request.args render u with
      | none => exact h
      | some args =>
        intro job hjob
        rw [Option.elim_some, ownRows_enqueue, List.mem_append] at hjob
        rcases hjob with hjob | hjob
        · exact h job hjob
        · cases hex : existingJob args db.jobs with
          | some e =>
            rw [hex] at hjob
            exact (List.not_mem_nil hjob).elim
          | none =>
            rw [hex, Option.map_none, Option.elim_none, if_pos (args_profileId hargs),
              List.mem_singleton] at hjob
            subst job
            exact ⟨request, createdAt, updatedAt, args, he, hargs, rfl, rfl, fun _ _ => rfl⟩
    | progress k work =>
      rw [serve_progress]
      cases hk : (ownJobs u db)[k]? with
      | none => exact h
      | some e =>
        intro job hjob
        rw [Option.elim_some, ownRows_save_own work.apply_profileId hk] at hjob
        obtain ⟨n, hn⟩ := List.mem_iff_getElem?.1 hjob
        rw [List.getElem?_modify] at hn
        obtain ⟨old, hold, rfl⟩ := Option.map_eq_some_iff.1 hn
        have hasked := h old (List.mem_of_getElem? hold)
        split
        · exact hasked.work work
        · exact hasked
  · rw [Made, ownRows_serve_other render event hv]
    exact h

theorem made_answers (h : Made render u history db) (hmem : ∀ e ∈ events, e ∈ history) :
    Made render u history (answers (serve render) db events).2 := by
  induction events generalizing db with
  | nil => exact h
  | cons e events ih =>
    apply ih
    · exact h.serve (hmem e List.mem_cons_self)
    · intro e' he'
      exact hmem e' (List.mem_cons_of_mem _ he')

theorem made_empty (render : Json → String) (u : String) (history : List (String × ProfileEvent)) :
    Made render u history .empty := by
  intro job hjob
  obtain ⟨i, hrow, -⟩ := mem_ownRows.1 hjob
  cases hrow

/-- A reply is the profile's own exactly when the key of its request is. -/
theorem own_reply_iff (hmade : Made render u history db)
    (he : (u, ProfileEvent.request request createdAt updatedAt) ∈ history)
    (hargs : request.args render u = some args) :
    (enqueue args createdAt updatedAt db).2.Own render u history ↔ OwnKey args db.jobs := by
  have hu := args_profileId hargs
  have ho := enqueue_observed args createdAt updatedAt db
  have hreply : (enqueue args createdAt updatedAt db).2.args = args := rfl
  cases hex : existingJob args db.jobs with
  | none =>
    rw [hex] at ho
    obtain ⟨hcreated, hjob⟩ := Prod.mk.inj ho
    apply iff_of_true
    · exact ⟨_, hjob, hu, rfl, fun _ => rfl, request, createdAt, updatedAt, args, he, hargs, rfl,
        rfl, fun _ _ => rfl⟩
    · intro key hkey i job hold
      rw [existingJob_eq_some.2 ⟨key, hkey, hold⟩] at hex
      cases hex
  | some e =>
    obtain ⟨i, job⟩ := e
    rw [hex] at ho
    obtain ⟨hcreated, hjob⟩ := Prod.mk.inj ho
    obtain ⟨key, hkey, hold⟩ := existingJob_eq_some.1 hex
    constructor
    · rintro ⟨job', hjob', hown, htype, -⟩ key' hkey' i' row hold'
      have hfound := existingJob_eq_some.2 ⟨key', hkey', hold'⟩
      rw [hex] at hfound
      cases hfound
      rw [hjob] at hjob'
      cases hjob'
      exact ⟨hown.trans hu.symm, htype⟩
    · intro hown
      obtain ⟨hprofile, htype⟩ := hown key hkey i job hold
      refine ⟨job, hjob, hprofile.trans hu, htype, ?_, ?_⟩
      · intro h
        rw [hcreated] at h
        cases h
      · exact hmade job (mem_ownRows.2 ⟨i, hold.1, hprofile.trans hu⟩)

theorem own_replies_iff (render : Json → String) (u : String)
    (history : List (String × ProfileEvent)) :
    (∀ reply, some reply ∈ repliesTo render u history → reply.Own render u history) ↔
      Along (advance (serve render)) (OwnKeys render u) .empty history := by
  have hmade : ∀ before after, history = before ++ after →
      Made render u history (answers (serve render) .empty before).2 := by
    rintro before after rfl
    apply made_answers (made_empty render u _)
    exact fun e he => List.mem_append_left _ he
  rw [along_iff]
  constructor
  · rintro h before event after t rfl ht request createdAt updatedAt args rfl hargs
    rw [exec_advance, Option.some.injEq] at ht
    subst t
    apply (own_reply_iff (hmade _ _ rfl) (List.mem_append_right _ List.mem_cons_self) hargs).1
    apply h
    exact some_mem_repliesTo.2 ⟨before, request, createdAt, updatedAt, after, args, rfl, hargs, rfl⟩
  · intro h reply hreply
    obtain ⟨before, request, createdAt, updatedAt, after, args, rfl, hargs, rfl⟩ :=
      some_mem_repliesTo.1 hreply
    apply (own_reply_iff (hmade _ _ rfl) (List.mem_append_right _ List.mem_cons_self) hargs).2
    exact h before _ after _ rfl (exec_advance ..) request createdAt updatedAt args rfl hargs

/-- Two histories that are the same for a profile are told apart by it only when one of its requests
runs into an active job of another profile, or of another type, under its key. -/
theorem isolated_iff (render : Json → String) (u : String)
    (history history' : List (String × ProfileEvent))
    (hagree : (history.filter fun e => e.1 = u) = history'.filter fun e => e.1 = u) :
    Isolated render u history history' ↔
      Along (advance (serve render)) (OwnKeys render u) .empty history ∧
        Along (advance (serve render)) (OwnKeys render u) .empty history' := by
  have hempty : Twin u .empty .empty := ⟨rfl, fun i job h => by cases h⟩
  rw [Isolated, own_replies_iff, own_replies_iff]
  constructor
  · rintro ⟨h, h', -⟩
    exact ⟨h, h'⟩
  · rintro ⟨h, h'⟩
    refine ⟨h, h', ?_⟩
    have hobs := observed_filter render hempty h
    rw [hagree, ← observed_filter render hempty h'] at hobs
    simpa only [repliesTo, List.map_map, Function.comp_def] using hobs

def downloadOfUser : String × ProfileEvent :=
  ("user", .request (.download [("url", .string "https://a.b/c")]) 0 0)

/-- Another profile sends the key that `download` makes for a URL of the user. -/
def keyTaken : String × ProfileEvent :=
  ("other", .request (.download [("url", .string "https://d.e/f"),
    ("idempotency_key", .string "download_single:user:https://a.b/c")]) 0 0)

theorem isolated_iff_keyTaken :
    Isolated (fun _ => "") "user" [downloadOfUser] [keyTaken, downloadOfUser] ↔
      Along (advance (serve fun _ => "")) (OwnKeys (fun _ => "") "user") .empty [downloadOfUser] ∧
        Along (advance (serve fun _ => "")) (OwnKeys (fun _ => "") "user") .empty
          [keyTaken, downloadOfUser] :=
  isolated_iff _ _ _ _ rfl

theorem taken_key_not_isolated : ¬ ∀ (render : Json → String) (u : String)
    (history history' : List (String × ProfileEvent)),
    (history.filter fun e => e.1 = u) = (history'.filter fun e => e.1 = u) →
      Isolated render u history history' := by
  intro h
  obtain ⟨-, hown, -⟩ := h (fun _ => "") "user" [downloadOfUser] [keyTaken, downloadOfUser] rfl
  have hreply : (repliesTo (fun _ => "") "user" [keyTaken, downloadOfUser]).map
      (·.bind fun reply => reply.job.map Job.profileId) = [some "other"] := by
    decide +kernel
  obtain ⟨reply, hmem, hreply⟩ := List.mem_map.1 (hreply ▸ List.mem_singleton_self (some "other"))
  obtain ⟨reply, rfl, hjob⟩ := Option.bind_eq_some_iff.1 hreply
  obtain ⟨job, hsome, hprofile, -⟩ := hown reply hmem
  rw [hsome, Option.map_some, hprofile] at hjob
  exact absurd (Option.some.inj hjob) (by decide)

end GetOffline
