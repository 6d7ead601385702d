import GetOffline.TableOrder
import GetOffline.Jobs

set_option autoImplicit true

namespace GetOffline
open Python

/-- A row is as it was, or a running job has been put back into the queue. -/
def Kept (job job' : Job) : Prop :=
  job' = job ∨ job.status = .running ∧ ∃ now, job' = job.requeue now

namespace Kept

theorem refl (job : Job) : Kept job job := .inl rfl

theorem trans (h : Kept job job') (h' : Kept job' job'') : Kept job job'' := by
  rcases h with rfl | ⟨hrunning, now, rfl⟩
  · exact h'
  · rcases h' with rfl | ⟨hrunning', now', rfl⟩
    · exact .inr ⟨hrunning, now, rfl⟩
    · cases hrunning'

theorem active (h : Kept job job') (hactive : job.active = true) : job'.active = true := by
  rcases h with rfl | ⟨-, now, rfl⟩
  · exact hactive
  · rfl

theorem idempotencyKey (h : Kept job job') : job'.idempotencyKey = job.idempotencyKey := by
  rcases h with rfl | ⟨-, now, rfl⟩ <;> rfl

theorem wasActive (h : Kept job job') (hactive : job'.active = true) : job.active = true := by
  rcases h with rfl | ⟨hrunning, -⟩
  · exact hactive
  · rw [Job.active, hrunning]
    rfl

theorem jobType (h : Kept job job') : job'.jobType = job.jobType := by
  rcases h with rfl | ⟨-, now, rfl⟩ <;> rfl

theorem eq_of_queued (h : Kept job job') (hqueued : job.status = .queued) : job' = job := by
  rcases h with rfl | ⟨hrunning, -⟩
  · rfl
  · rw [hqueued] at hrunning
    cases hrunning

end Kept

namespace Database
variable {db db' db'' : Database} {requests : List JobArgs} {args : JobArgs} {key : String}

/-- Some job with the key is `QUEUED` or `RUNNING`. -/
def HasActive (key : String) (db : Database) : Prop :=
  ∃ i job, db.jobs.lookup i = some job ∧ job.idempotencyKey = some key ∧ job.active = true

theorem activeDownloadJob_spec (h : activeDownloadJob key db.jobs = some (i, job)) :
    db.jobs.lookup i = some job ∧ job.idempotencyKey = some key ∧ job.active = true := by
  obtain ⟨hrow, hp⟩ := Table.lookup_of_first h
  rw [Bool.and_eq_true, decide_eq_true_eq] at hp
  exact ⟨hrow, hp⟩

theorem activeDownloadJob_none (h : activeDownloadJob key db.jobs = none) : ¬db.HasActive key := by
  rintro ⟨i, job, hrow, hkey, hactive⟩
  have hp := Table.first_eq_none.1 h i job hrow
  rw [hkey, hactive, Bool.and_true, decide_eq_false_iff_not] at hp
  exact hp rfl

theorem hasActive_of_some (h : activeDownloadJob key db.jobs = some (i, job)) : db.HasActive key :=
  ⟨i, job, activeDownloadJob_spec h⟩

theorem existingJob_none (hkey : args.key = some key) (h : ¬db.HasActive key) :
    existingJob args db.jobs = none := by
  rw [existingJob, hkey, Option.bind_some, Table.first_eq_none]
  intro i job hrow
  rw [Bool.eq_false_iff]
  intro hp
  rw [Bool.and_eq_true, decide_eq_true_eq] at hp
  exact h ⟨i, job, hrow, hp⟩

theorem key_eq_some : args.key = some key ↔ args.idempotencyKey = some key ∧ key ≠ "" := by
  rw [JobArgs.key, Option.filter_eq_some_iff, decide_eq_true_eq]

/-- No row is lost, and no active one is ended. -/
def Stays (db db' : Database) : Prop :=
  ∀ i job, db.jobs.lookup i = some job → ∃ job', db'.jobs.lookup i = some job' ∧ Kept job job'

theorem Stays.refl (db : Database) : db.Stays db :=
  fun _ job h => ⟨job, h, .refl job⟩

theorem Stays.trans (h : db.Stays db') (h' : db'.Stays db'') : db.Stays db'' := by
  intro i job hrow
  obtain ⟨job', hrow', hkept⟩ := h i job hrow
  obtain ⟨job'', hrow'', hkept'⟩ := h' i job' hrow'
  exact ⟨job'', hrow'', hkept.trans hkept'⟩

theorem Stays.hasActive (h : db.Stays db') (hactive : db.HasActive key) : db'.HasActive key := by
  obtain ⟨i, job, hrow, hkey, hjob⟩ := hactive
  obtain ⟨job', hrow', hkept⟩ := h i job hrow
  exact ⟨i, job', hrow', hkept.idempotencyKey.trans hkey, hkept.active hjob⟩

theorem stays_requeue (hrow : db.jobs.lookup i = some job) (hrunning : job.status = .running)
    (now : Instant) : db.Stays (db.save i (Job.requeue now)) := by
  intro j job' hrow'
  rw [Database.save, lookup_saveFields]
  split
  · next hj =>
    rw [hj, hrow] at hrow'
    obtain rfl := Option.some.inj hrow'
    exact ⟨_, by rw [hrow, Option.map_some], .inr ⟨hrunning, now, rfl⟩⟩
  · exact ⟨job', hrow', .refl job'⟩

theorem stays_create (job : Job) (db : Database) : db.Stays (db.create job) := by
  intro i job' hrow
  refine ⟨job', ?_, .refl job'⟩
  rw [lookup_create, if_neg, hrow]
  rintro rfl
  rw [db.fresh _ le_rfl] at hrow
  cases hrow

/-- What has been asked for, one request after the other, has at most been done: every new row is the
job of a request whose key no active job had, and no two of them share a key. -/
structure Turns (requests : List JobArgs) (db db' : Database) : Prop where
  stays : db.Stays db'
  rows : ∀ i job, db'.jobs.lookup i = some job → db.jobs.lookup i = none →
    ∃ args ∈ requests, (∃ createdAt updatedAt, job = newJob args createdAt updatedAt) ∧
      ∀ key, args.key = some key → ¬db.HasActive key
  distinct : ∀ i j job job' key, db'.jobs.lookup i = some job → db'.jobs.lookup j = some job' →
    db.jobs.lookup i = none → db.jobs.lookup j = none → key ≠ "" →
    job.idempotencyKey = some key → job'.idempotencyKey = some key → i = j

/-- What has been asked for has been done: the keys are those of active jobs, and the first request for
a key that no active job had has got its job. -/
structure Serves (requests : List JobArgs) (db db' : Database) : Prop where
  active : ∀ args ∈ requests, ∀ key, args.key = some key → db'.HasActive key
  created : ∀ before args after key, requests = before ++ args :: after → args.key = some key →
    ¬db.HasActive key → (∀ other ∈ before, other.key ≠ some key) →
    ∃ i createdAt updatedAt, db.jobs.lookup i = none ∧
      db'.jobs.lookup i = some (newJob args createdAt updatedAt)

theorem Turns.refl (db : Database) : Turns [] db db where
  stays := .refl db
  rows i job hrow hnone := by
    rw [hnone] at hrow
    cases hrow
  distinct i j job job' key hrow _ hnone := by
    rw [hnone] at hrow
    cases hrow

theorem Serves.refl (db : Database) : Serves [] db db where
  active _ h := absurd h List.not_mem_nil
  created before args after key h := by
    cases before <;> cases h

theorem Turns.mono (h : Turns requests db db') (hsub : requests ⊆ requests') :
    Turns requests' db db' where
  stays := h.stays
  rows i job hrow hnone := by
    obtain ⟨args, hargs, hrest⟩ := h.rows i job hrow hnone
    exact ⟨args, hsub hargs, hrest⟩
  distinct := h.distinct

/-- A row that is not `QUEUED` was there before. -/
theorem Turns.queued (h : Turns requests db db') (hrow : db'.jobs.lookup i = some job)
    (hnone : db.jobs.lookup i = none) : job.status = .queued := by
  obtain ⟨args, -, ⟨createdAt, updatedAt, rfl⟩, -⟩ := h.rows i job hrow hnone
  rfl

/-- The key of a new row is that of a request. -/
theorem Turns.request (h : Turns requests db db') (hactive : db'.HasActive key) (hkey : key ≠ "")
    (hnot : ¬db.HasActive key) : ∃ args ∈ requests, args.key = some key := by
  obtain ⟨i, job, hrow, hjob, hjobActive⟩ := hactive
  cases hold : db.jobs.lookup i with
  | some old =>
    obtain ⟨job', hrow', hkept⟩ := h.stays i old hold
    obtain rfl := Option.some.inj (hrow'.symm.trans hrow)
    refine absurd ⟨i, old, hold, hkept.idempotencyKey.symm.trans hjob, ?_⟩ hnot
    rcases hkept with rfl | ⟨hrunning, -⟩
    · exact hjobActive
    · rw [Job.active, hrunning]
      rfl
  | none =>
    obtain ⟨args, hargs, ⟨createdAt, updatedAt, rfl⟩, -⟩ := h.rows i job hrow hold
    exact ⟨args, hargs, key_eq_some.2 ⟨hjob, hkey⟩⟩

/-- Whatever puts running jobs back and adds no row is a turn. -/
theorem Turns.stay (h : Turns requests db db') (hstays : db'.Stays db'')
    (hsame : ∀ i, db'.jobs.lookup i = none → db''.jobs.lookup i = none) : Turns requests db db'' := by
  have hold : ∀ i job, db''.jobs.lookup i = some job → db.jobs.lookup i = none →
      db'.jobs.lookup i = some job := by
    intro i job hrow hnone
    cases hmid : db'.jobs.lookup i with
    | none =>
      rw [hsame i hmid] at hrow
      cases hrow
    | some mid =>
      obtain ⟨job', hrow', hkept⟩ := hstays i mid hmid
      obtain rfl := Option.some.inj (hrow'.symm.trans hrow)
      rw [hkept.eq_of_queued (h.queued hmid hnone)]
  constructor
  · exact h.stays.trans hstays
  · intro i job hrow hnone
    exact h.rows i job (hold i job hrow hnone) hnone
  · intro i j job job' key hrow hrow' hnone hnone'
    exact h.distinct i j job job' key (hold i job hrow hnone) (hold j job' hrow' hnone') hnone hnone'

theorem Turns.requeue (h : Turns requests db db') (hrow : db'.jobs.lookup i = some job)
    (hrunning : job.status = .running) (now : Instant) :
    Turns requests db (db'.save i (Job.requeue now)) := by
  apply h.stay (stays_requeue hrow hrunning now)
  intro j hnone
  rw [Database.save, lookup_saveFields]
  split
  · next hj =>
    rw [hj, hrow] at hnone
    cases hnone
  · exact hnone

theorem Turns.create (h : Turns requests db db') (hkey : args.key = some key)
    (hnot : ¬db'.HasActive key) (createdAt updatedAt : Instant) :
    Turns (requests ++ [args]) db (db'.create (newJob args createdAt updatedAt)) := by
  obtain ⟨hargs, hne⟩ := key_eq_some.1 hkey
  have hcases : ∀ i job, (db'.create (newJob args createdAt updatedAt)).jobs.lookup i = some job →
      (i = db'.nextId ∧ job = newJob args createdAt updatedAt) ∨
        (i ≠ db'.nextId ∧ db'.jobs.lookup i = some job) := by
    intro i job hrow
    rw [lookup_create] at hrow
    split at hrow
    · next hi => exact .inl ⟨hi, (Option.some.inj hrow).symm⟩
    · next hi => exact .inr ⟨hi, hrow⟩
  have hother : ∀ i job, db'.jobs.lookup i = some job → db.jobs.lookup i = none →
      job.idempotencyKey ≠ some key := by
    intro i job hrow hnone hjob
    refine hnot ⟨i, job, hrow, hjob, ?_⟩
    rw [Job.active, h.queued hrow hnone]
    rfl
  constructor
  · exact h.stays.trans (stays_create _ _)
  · intro i job hrow hnone
    rcases hcases i job hrow with ⟨-, rfl⟩ | ⟨-, hrow⟩
    · refine ⟨args, List.mem_append_right _ (List.mem_singleton_self _), ⟨_, _, rfl⟩, ?_⟩
      intro key' hkey' hactive
      rw [hkey] at hkey'
      obtain rfl := Option.some.inj hkey'
      exact hnot (h.stays.hasActive hactive)
    · obtain ⟨args', hargs', hrest⟩ := h.rows i job hrow hnone
      exact ⟨args', List.mem_append_left _ hargs', hrest⟩
  · intro i j job job' key' hrow hrow' hnone hnone' hne' hk hk'
    rcases hcases i job hrow with ⟨rfl, rfl⟩ | ⟨hi, hrow⟩ <;>
      rcases hcases j job' hrow' with ⟨rfl, rfl⟩ | ⟨hj, hrow'⟩
    · rfl
    · have hsame : some key' = some key := hk.symm.trans hargs
      rw [hsame] at hk'
      exact absurd hk' (hother j job' hrow' hnone')
    · have hsame : some key' = some key := hk'.symm.trans hargs
      rw [hsame] at hk
      exact absurd hk (hother i job hrow hnone)
    · exact h.distinct i j job job' key' hrow hrow' hnone hnone' hne' hk hk'

/-- Where a request stands among some requests and a last one. -/
theorem split_last {before after : List JobArgs} {args' : JobArgs}
    (h : requests ++ [args] = before ++ args' :: after) :
    (before = requests ∧ args' = args) ∨ ∃ after', requests = before ++ args' :: after' := by
  rcases List.eq_nil_or_concat after with rfl | ⟨after', last, rfl⟩
  · obtain ⟨hbefore, hargs⟩ := List.append_inj' h rfl
    exact .inl ⟨hbefore.symm, (List.cons.inj hargs).1.symm⟩
  · right
    rw [List.concat_eq_append, ← List.cons_append, ← List.append_assoc] at h
    exact ⟨after', (List.append_inj' h rfl).1⟩

/-- A request's job has been made, and stays as it is. -/
theorem Serves.keep (hserves : Serves requests db db') (hstays : db'.Stays db'') {after : List JobArgs}
    (hsplit : requests = before ++ args :: after) (hkey : args.key = some key)
    (hnot : ¬db.HasActive key) (hbefore : ∀ other ∈ before, other.key ≠ some key) :
    ∃ i createdAt updatedAt, db.jobs.lookup i = none ∧
      db''.jobs.lookup i = some (newJob args createdAt updatedAt) := by
  obtain ⟨i, createdAt, updatedAt, hnone, hrow⟩ :=
    hserves.created before args after key hsplit hkey hnot hbefore
  obtain ⟨job', hrow', hkept⟩ := hstays i _ hrow
  rw [hkept.eq_of_queued rfl] at hrow'
  exact ⟨i, createdAt, updatedAt, hnone, hrow'⟩

theorem Serves.stay (hserves : Serves requests db db') (hstays : db'.Stays db'') :
    Serves requests db db'' where
  active args hargs key hkey := hstays.hasActive (hserves.active args hargs key hkey)
  created _ _ _ _ hsplit hkey hnot hbefore := hserves.keep hstays hsplit hkey hnot hbefore

/-- The key is in use: nothing new is made for the request. -/
theorem Serves.reserved (hserves : Serves requests db db') (h : Turns requests db db')
    (hkey : args.key = some key) (hactive : db'.HasActive key) :
    Serves (requests ++ [args]) db db' := by
  constructor
  · intro args' hargs' key' hkey'
    rcases List.mem_append.1 hargs' with hold | hnew
    · exact hserves.active args' hold key' hkey'
    · rw [List.mem_singleton.1 hnew, hkey] at hkey'
      obtain rfl := Option.some.inj hkey'
      exact hactive
  · intro before args' after key' hsplit hkey' hnot hbefore
    rcases split_last hsplit with ⟨rfl, rfl⟩ | ⟨after', hsplit'⟩
    · rw [hkey] at hkey'
      obtain rfl := Option.some.inj hkey'
      obtain ⟨other, hother, hotherKey⟩ := h.request hactive (key_eq_some.1 hkey).2 hnot
      exact absurd hotherKey (hbefore other hother)
    · exact hserves.keep (.refl db') hsplit' hkey' hnot hbefore

theorem Serves.create (hserves : Serves requests db db') (h : Turns requests db db')
    (hkey : args.key = some key) (createdAt updatedAt : Instant) :
    Serves (requests ++ [args]) db (db'.create (newJob args createdAt updatedAt)) := by
  have hrow : (db'.create (newJob args createdAt updatedAt)).jobs.lookup db'.nextId =
      some (newJob args createdAt updatedAt) := by
    rw [lookup_create, if_pos rfl]
  constructor
  · intro args' hargs' key' hkey'
    rcases List.mem_append.1 hargs' with hold | hnew
    · exact (stays_create _ _).hasActive (hserves.active args' hold key' hkey')
    · rw [List.mem_singleton.1 hnew] at hkey'
      exact ⟨_, _, hrow, (key_eq_some.1 hkey').1, rfl⟩
  · intro before args' after key' hsplit hkey' hnot hbefore
    rcases split_last hsplit with ⟨rfl, rfl⟩ | ⟨after', hsplit'⟩
    · refine ⟨db'.nextId, createdAt, updatedAt, ?_, hrow⟩
      cases hold : db.jobs.lookup db'.nextId with
      | none => rfl
      | some old =>
        obtain ⟨job', hrow', -⟩ := h.stays _ old hold
        rw [db'.fresh _ le_rfl] at hrow'
        cases hrow'
    · exact hserves.keep (stays_create _ _) hsplit' hkey' hnot hbefore

/-- The job of the request is new. -/
def NewlyMade (args : JobArgs) (db db' : Database) : Prop :=
  ∃ i createdAt updatedAt, db.jobs.lookup i = none ∧
    db'.jobs.lookup i = some (newJob args createdAt updatedAt)

/-- No active job has the key of the request, and it is the first request for its key. -/
def First (requests : List JobArgs) (db : Database) (args : JobArgs) : Prop :=
  ∃ before after key, requests = before ++ args :: after ∧ args.key = some key ∧
    ¬db.HasActive key ∧ ∀ other ∈ before, other.key ≠ some key

/-- Whatever is asked for, the first request for its key comes before it or is it. -/
theorem exists_first (hargs : args ∈ requests) (hkey : args.key = some key)
    (hnot : ¬db.HasActive key) : ∃ args', First requests db args' ∧ args'.key = some key := by
  induction requests with
  | nil => exact absurd hargs List.not_mem_nil
  | cons first requests ih =>
    by_cases hfirst : first.key = some key
    · refine ⟨first, ⟨[], requests, key, rfl, hfirst, hnot, ?_⟩, hfirst⟩
      intro other hother
      exact absurd hother List.not_mem_nil
    · have hmem : args ∈ requests := by
        apply List.mem_of_ne_of_mem _ hargs
        rintro rfl
        exact hfirst hkey
      obtain ⟨args', ⟨before, after, key', hsplit, hkey', hfree, hbefore⟩, hsame⟩ := ih hmem
      obtain rfl := Option.some.inj (hkey'.symm.trans hsame)
      refine ⟨args', ⟨first :: before, after, key', ?_, hkey', hfree, ?_⟩, hsame⟩
      · rw [hsplit, List.cons_append]
      · intro other hother
        rcases List.mem_cons.1 hother with rfl | hother
        · exact hfirst
        · exact hbefore other hother

theorem newJob_inj {args' : JobArgs} (hpayload : args.payload.isSome = true)
    (hpayload' : args'.payload.isSome = true)
    (h : newJob args createdAt updatedAt = newJob args' createdAt' updatedAt') : args = args' := by
  obtain ⟨profileId, jobType, payload, idempotencyKey⟩ := args
  obtain ⟨profileId', jobType', payload', idempotencyKey'⟩ := args'
  obtain ⟨fields, rfl⟩ := Option.isSome_iff_exists.1 hpayload
  obtain ⟨fields', rfl⟩ := Option.isSome_iff_exists.1 hpayload'
  have hobject : Json.object fields = Json.object fields' := congrArg Job.payload h
  have hprofile : profileId = profileId' := congrArg Job.profileId h
  have htype : jobType = jobType' := congrArg Job.jobType h
  have hkeys : idempotencyKey = idempotencyKey' := congrArg Job.idempotencyKey h
  rw [hprofile, htype, hkeys, Json.object.inj hobject]

/-- The jobs that are made are those of the first requests. -/
theorem made_iff (h : Turns requests db db') (hserves : Serves requests db db')
    (hpayloads : ∀ args ∈ requests, args.payload.isSome = true) (hpayload : args.payload.isSome = true)
    (hkey : args.key = some key) : NewlyMade args db db' ↔ First requests db args := by
  constructor
  · rintro ⟨i, createdAt, updatedAt, hnone, hrow⟩
    obtain ⟨args', hargs', ⟨createdAt', updatedAt', hjob⟩, hfree⟩ := h.rows i _ hrow hnone
    obtain rfl := newJob_inj hpayload (hpayloads args' hargs') hjob
    obtain ⟨first, hfirst, hfirstKey⟩ := exists_first hargs' hkey (hfree key hkey)
    obtain ⟨before, after, key', hsplit, hkey', hfree', hbefore⟩ := id hfirst
    obtain ⟨j, createdAt'', updatedAt'', hnone', hrow'⟩ :=
      hserves.created before first after key' hsplit hkey' hfree' hbefore
    -- the two rows share the key, so they are one
    have hij : i = j := h.distinct i j _ _ key hrow hrow' hnone hnone' (key_eq_some.1 hkey).2
      (key_eq_some.1 hkey).1 (key_eq_some.1 hfirstKey).1
    rw [hij, hrow'] at hrow
    have hmem : first ∈ requests := by
      rw [hsplit]
      exact List.mem_append_right _ List.mem_cons_self
    rw [← newJob_inj (hpayloads first hmem) hpayload (Option.some.inj hrow)]
    exact hfirst
  · rintro ⟨before, after, key', hsplit, hkey', hfree, hbefore⟩
    exact hserves.created before args after key' hsplit hkey' hfree hbefore

end Database

end GetOffline
