import GetOffline.RoutingAgreement

set_option autoImplicit true

namespace GetOffline
open Python Table

theorem byCreation_orders : Orders byCreation := by
  intro i job j job' h
  exact congrArg (fun key => (ofLex key).2) h

/-- The job is waiting for the worker's queue. -/
def WorkerType.owns (workerType : WorkerType) (job : Job) : Bool :=
  job.status = .queued && queueForJob job == StrEnum.value workerType.queue

/-- The jobs that wait for the worker's queue, the oldest first. -/
def ownQueuedJobs (workerType : WorkerType) (jobs : JobTable) : List (Nat × Job) :=
  jobs.orderBy (fun _ job => workerType.owns job) byCreation

/-- The jobs from which the worker's messages are chosen. -/
def WorkerType.selects (workerType : WorkerType) (job : Job) : Bool :=
  job.status = .queued && workerType.handles job

/-- The message of a job for the worker's queue. -/
def WorkerType.message (render : Json → String) (workerType : WorkerType) (job : Nat × Job) :
    Nat × Publication :=
  (job.1, publishRequeuedJob render job.1 job.2 (StrEnum.value workerType.queue))

/-- There is exactly one message for each of the oldest 500 jobs that wait for the worker's queue, or
for all of them if they are fewer, and no other message. -/
def RequeueComplete (render : Json → String) (workerType : WorkerType) (jobs : JobTable) : Prop :=
  requeueExistingJobs render workerType jobs =
    ((ownQueuedJobs workerType jobs).take 500).map (workerType.message render)

theorem handles_iff {workerType : WorkerType} :
    workerType.handles job = true ↔ ∃ t ∈ workerType.jobTypes, StrEnum.value t = job.jobType := by
  simp only [WorkerType.handles, List.any_eq_true, beq_iff_eq]

/-- All jobs of a worker that is no downloader go to its queue. -/
theorem queueForJob_handles {workerType : WorkerType} (hd : workerType.downloads = none)
    (h : workerType.handles job = true) :
    queueForJob job = StrEnum.value workerType.queue := by
  obtain ⟨t, ht, hjob⟩ := handles_iff.1 h
  rw [queueForJob, queueName, ← hjob, parse_jobType]
  cases workerType with
  | downloaderYoutube => cases hd
  | downloaderPodcast => cases hd
  | updates => cases t <;> first | rfl | exact absurd ht (by decide)
  | transcripts => cases t <;> first | rfl | exact absurd ht (by decide)
  | ffmpeg => cases t <;> first | rfl | exact absurd ht (by decide)
  | cleanup => cases t <;> first | rfl | exact absurd ht (by decide)

/-- Of the jobs selected for a worker, those for another queue are left out. -/
theorem wrongDownloader_iff {workerType : WorkerType} (h : workerType.selects job = true) :
    workerTypeIsWrongDownloader workerType (queueForJob job) = !workerType.owns job := by
  rw [WorkerType.selects, Bool.and_eq_true] at h
  rw [workerTypeIsWrongDownloader, WorkerType.owns, h.1, Bool.true_and]
  cases hd : workerType.downloads with
  | none =>
    rw [queueForJob_handles hd h.2, beq_self_eq_true]
    rfl
  | some sourceType =>
    rw [Option.isSome_some, Bool.true_and]
    exact decide_not

theorem publishRequeuedJobs_eq {workerType : WorkerType} (render : Json → String)
    {l : List (Nat × Job)} (hl : ∀ e ∈ l, workerType.selects e.2 = true) :
    publishRequeuedJobs render workerType l =
      (l.filter fun e => workerType.owns e.2).map (workerType.message render) := by
  induction l with
  | nil => rfl
  | cons e l ih =>
    have hwrong := wrongDownloader_iff (hl e List.mem_cons_self)
    have htail := ih fun d hd => hl d (List.mem_cons_of_mem e hd)
    unfold publishRequeuedJobs at htail ⊢
    rw [List.filterMap_cons, List.filter_cons]
    dsimp only at htail ⊢
    rw [hwrong, htail]
    cases howns : workerType.owns e.2 with
    | false => rfl
    | true =>
      have hqueue : queueForJob e.2 = StrEnum.value workerType.queue := by
        rw [WorkerType.owns, Bool.and_eq_true, beq_iff_eq] at howns
        exact howns.2
      rw [hqueue]
      rfl

/-- The messages are for the worker's own jobs among the 500 that the query returns. -/
theorem requeueExistingJobs_eq (render : Json → String) (workerType : WorkerType)
    (jobs : JobTable) :
    requeueExistingJobs render workerType jobs =
      ((queuedJobsForWorker workerType jobs).filter fun e => workerType.owns e.2).map
        (workerType.message render) := by
  refine publishRequeuedJobs_eq render fun e he => ?_
  exact (mem_orderBy.1 (List.mem_of_mem_take he)).2

/-- Rows of one table are told by their ids. -/
theorem eq_of_ids {jobs : JobTable} {l m : List (Nat × Job)}
    (hl : ∀ e ∈ l, jobs.lookup e.1 = some e.2) (hm : ∀ e ∈ m, jobs.lookup e.1 = some e.2)
    (h : l.map Prod.fst = m.map Prod.fst) : l = m := by
  induction l generalizing m with
  | nil => exact (List.map_eq_nil_iff.1 h.symm).symm
  | cons e l ih =>
    cases m with
    | nil => cases h
    | cons d m =>
      obtain ⟨hid, htail⟩ := List.cons.inj h
      have he := hl e List.mem_cons_self
      rw [hid, hm d List.mem_cons_self] at he
      have hde : e = d := Prod.ext hid (Option.some.inj he).symm
      rw [hde, ih (fun x hx => hl x (List.mem_cons_of_mem e hx))
        (fun x hx => hm x (List.mem_cons_of_mem d hx)) htail]

/-- The worker's own jobs among the selected ones are the oldest of its own exactly when the oldest of
its own are among the selected ones. -/
theorem own_selected_iff (workerType : WorkerType) (jobs : JobTable) :
    ((queuedJobsForWorker workerType jobs).filter fun e => workerType.owns e.2) =
        (ownQueuedJobs workerType jobs).take 500 ↔
      ∀ e ∈ (ownQueuedJobs workerType jobs).take 500, e ∈ queuedJobsForWorker workerType jobs := by
  constructor
  · intro h e he
    rw [← h] at he
    exact (List.mem_filter.1 he).1
  · intro h
    have hselected := (orderBy_lt (t := jobs) (p := fun _ job => workerType.selects job)
      byCreation_orders).sublist (List.take_sublist 500 _)
    have hown := (orderBy_lt (t := jobs) (p := fun _ job => workerType.owns job)
      byCreation_orders).sublist (List.take_sublist 500 _)
    refine eq_of_pairwise_lt (f := fun e => byCreation e.1 e.2) (hselected.filter _) hown ?_
    intro e
    rw [List.mem_filter]
    constructor
    · rintro ⟨he, howns⟩
      by_contra hlate
      -- Otherwise the query would return 501 rows: the oldest 500 of the worker's own, and this one.
      have hmem : e ∈ ownQueuedJobs workerType jobs :=
        mem_orderBy.2 ⟨(mem_orderBy.1 (List.mem_of_mem_take he)).1, howns⟩
      have hfull : ((ownQueuedJobs workerType jobs).take 500).length = 500 := by
        rw [List.length_take, Nat.min_eq_left]
        by_contra hshort
        rw [List.take_of_length_le (Nat.le_of_not_le hshort)] at hlate
        exact hlate hmem
      have hnodup : (e :: (ownQueuedJobs workerType jobs).take 500).Nodup :=
        List.nodup_cons.2 ⟨hlate, hown.imp fun hlt he =>
          hlt.ne (congrArg (fun e => byCreation e.1 e.2) he)⟩
      have hsubset : e :: (ownQueuedJobs workerType jobs).take 500 ⊆
          queuedJobsForWorker workerType jobs := List.cons_subset.2 ⟨he, h⟩
      have hlength := (List.subperm_of_subset hnodup hsubset).length_le
      have hbound : (queuedJobsForWorker workerType jobs).length ≤ 500 := List.length_take_le _ _
      rw [List.length_cons, hfull] at hlength
      omega
    · intro he
      exact ⟨h e he, (mem_orderBy.1 (List.mem_of_mem_take he)).2⟩

theorem requeueComplete_iff_mem (render : Json → String) (workerType : WorkerType)
    (jobs : JobTable) : RequeueComplete render workerType jobs ↔
      ∀ e ∈ (ownQueuedJobs workerType jobs).take 500, e ∈ queuedJobsForWorker workerType jobs := by
  rw [← own_selected_iff, RequeueComplete, requeueExistingJobs_eq]
  constructor
  · intro h
    apply eq_of_ids
    · intro e he
      exact (mem_orderBy.1 (List.mem_of_mem_take (List.mem_filter.1 he).1)).1
    · intro e he
      exact (mem_orderBy.1 (List.mem_of_mem_take he)).1
    · have hids := congrArg (List.map Prod.fst) h
      rw [List.map_map, List.map_map] at hids
      exact hids
  · intro h
    rw [h]

/-- The queued jobs of the worker's types, of both downloaders if it is one, that are older. -/
def olderSelected (workerType : WorkerType) (jobs : JobTable) (e : Nat × Job) : Nat :=
  jobs.count fun i job => workerType.selects job && decide (byCreation i job < byCreation e.1 e.2)

theorem mem_queuedJobsForWorker {workerType : WorkerType} {jobs : JobTable} {e : Nat × Job}
    (hrow : jobs.lookup e.1 = some e.2) : e ∈ queuedJobsForWorker workerType jobs ↔
      workerType.selects e.2 = true ∧ olderSelected workerType jobs e < 500 := by
  constructor
  · intro he
    have hmem := List.mem_of_mem_take he
    exact ⟨(mem_orderBy.1 hmem).2, (mem_take_orderBy byCreation_orders hmem 500).1 he⟩
  · rintro ⟨hselects, holder⟩
    have hmem : e ∈ jobs.orderBy (fun _ job => workerType.selects job) byCreation :=
      mem_orderBy.2 ⟨hrow, hselects⟩
    exact (mem_take_orderBy byCreation_orders hmem 500).2 holder

/-- The oldest 500 jobs for the worker's queue get their messages exactly when each of them has a job
type of the worker, and fewer than 500 queued jobs of these types are older than it. -/
theorem requeueComplete_iff (render : Json → String) (workerType : WorkerType) (jobs : JobTable) :
    RequeueComplete render workerType jobs ↔
      ∀ e ∈ (ownQueuedJobs workerType jobs).take 500,
        workerType.handles e.2 = true ∧ olderSelected workerType jobs e < 500 := by
  rw [requeueComplete_iff_mem]
  have hiff : ∀ e ∈ (ownQueuedJobs workerType jobs).take 500,
      (e ∈ queuedJobsForWorker workerType jobs ↔
        workerType.handles e.2 = true ∧ olderSelected workerType jobs e < 500) := by
    intro e he
    obtain ⟨hrow, howns⟩ := mem_orderBy.1 (List.mem_of_mem_take he)
    rw [WorkerType.owns, Bool.and_eq_true] at howns
    rw [mem_queuedJobsForWorker hrow, WorkerType.selects, howns.1, Bool.true_and]
  exact ⟨fun h e he => (hiff e he).1 (h e he), fun h e he => (hiff e he).2 (h e he)⟩

/-- A queued download from a source. -/
def queuedDownload (sourceType : SourceType) : Job where
  profileId := "alice"
  jobType := "download_episode"
  status := .queued
  payload := .object [("source_type", .string (StrEnum.value sourceType))]
  idempotencyKey := none
  errorMessage := none
  createdAt := 0
  updatedAt := 0
  startedAt := none
  finishedAt := none

/-- One queued YouTube download after 500 podcasts. -/
def podcastBacklog : JobTable :=
  ⟨⟨501, queuedDownload .youtube⟩ ::
      (List.range 500).map fun i => ⟨i + 1, queuedDownload .podcast⟩, by
    rw [List.nodupKeys_cons, List.keys, List.map_map]
    constructor
    · intro h
      obtain ⟨i, hi, he⟩ := List.mem_map.1 h
      have hlast : i + 1 = 501 := he
      have hlt := List.mem_range.1 hi
      omega
    · rw [List.NodupKeys, List.keys, List.map_map]
      exact List.nodup_range.map Nat.succ_injective⟩

theorem count_podcastBacklog (p : Nat → Job → Bool) : podcastBacklog.count p =
    ((List.range 500).countP fun i => p (i + 1) (queuedDownload .podcast)) +
      if p 501 (queuedDownload .youtube) then 1 else 0 := by
  rw [Table.count, podcastBacklog, List.countP_cons, List.countP_map]
  rfl

theorem countP_older_podcasts (n : Nat) (hn : n ≤ 500) :
    ((List.range n).countP fun i =>
      WorkerType.selects .downloaderYoutube (queuedDownload .podcast) && decide
        (byCreation (i + 1) (queuedDownload .podcast) <
          byCreation 501 (queuedDownload .youtube))) = n := by
  have hselects : WorkerType.selects .downloaderYoutube (queuedDownload .podcast) = true := by
    decide
  refine (List.countP_eq_length.2 fun i hi => ?_).trans List.length_range
  rw [hselects, Bool.true_and, decide_eq_true_eq]
  have hlt : i + 1 < 501 := by
    have hin := List.mem_range.1 hi
    omega
  exact Prod.Lex.toLex_lt_toLex.2 (.inr ⟨rfl, hlt⟩)

/-- The YouTube downloader publishes no message for its only job. -/
theorem podcasts_hide_download :
    ¬ ∀ (render : Json → String) (workerType : WorkerType) (jobs : JobTable),
      RequeueComplete render workerType jobs := by
  intro h
  have hcomplete := (requeueComplete_iff_mem _ _ _).1
    (h (fun _ => "") .downloaderYoutube podcastBacklog)
  have hrow : podcastBacklog.lookup 501 = some (queuedDownload .youtube) :=
    AList.mem_lookup_iff.2 List.mem_cons_self
  have hown : (501, queuedDownload .youtube) ∈
      ownQueuedJobs .downloaderYoutube podcastBacklog := mem_orderBy.2 ⟨hrow, by decide⟩
  have hother : WorkerType.owns .downloaderYoutube (queuedDownload .podcast) = false := by decide
  have holdest := (mem_take_orderBy byCreation_orders hown 500).2 (by
    rw [count_podcastBacklog, hother]
    simp only [Bool.false_and, List.countP_false]
    decide)
  have holder := countP_older_podcasts 500 (Nat.le_refl 500)
  have hselected := ((mem_queuedJobsForWorker hrow).1 (hcomplete _ holdest)).2
  rw [olderSelected, count_podcastBacklog] at hselected
  dsimp only at hselected
  generalize List.range 500 = l at hselected holder
  rw [holder] at hselected
  omega

end GetOffline
