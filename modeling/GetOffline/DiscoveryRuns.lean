import GetOffline.Discovery

set_option autoImplicit true

namespace GetOffline
open Python Effects Program Database

/-- A pass is at work: the jobs asked for so far have been made or reserved, so many slots are open,
and these sources have been visited. -/
structure Working (s₀ : Library) (requests : List JobArgs) (slots : Nat) (seen : List Visit)
    (s : Serial) : Prop where
  library : s.library = { s₀ with database := s.library.database }
  turns : Turns requests s₀.database s.library.database
  serves : Serves requests s₀.database s.library.database
  slots : slotsLeft s₀.limitOf s.past = some slots
  visits : visits s.past = seen

/-- A pass has been stopped by an exception. -/
structure Stopped (s₀ : Library) (requests : List JobArgs) (seen : List Visit) (s : Serial) :
    Prop where
  library : s.library = { s₀ with database := s.library.database }
  turns : Turns requests s₀.database s.library.database
  slots : ∃ n, slotsLeft s₀.limitOf s.past = some n
  visits : visits s.past = seen

/-- A call that has no part in the record of visits and slots. -/
def HandlerOp.Idle (op : HandlerOp β) : Prop :=
  ∀ r, op.visit r = none ∧ op.takesSlot r = false

theorem slots_idle {op : HandlerOp β} (hop : op.Idle) (r : Except Error β) (n : Nat) :
    Record.slots limit n ⟨op, r⟩ = some n := by
  unfold Record.slots
  dsimp only
  rw [(hop r).1, (hop r).2]
  rfl

/-- How a piece of a pass ends: with a value, or stopped. -/
def Leads (s₀ : Library) (requests : List JobArgs) (seen : List Visit) (P : α → Serial → Prop) :
    Except Error α → Serial → Prop
  | .ok a, s => P a s
  | .error _, s => Stopped s₀ requests seen s

section
variable {s₀ : Library} {requests more : List JobArgs} {n : Nat} {seen : List Visit} {s : Serial}
  {host : Host}

theorem Working.stopped (h : Working s₀ requests n seen s) : Stopped s₀ requests seen s where
  library := h.library
  turns := h.turns
  slots := ⟨n, h.slots⟩
  visits := h.visits

theorem Stopped.mono (h : Stopped s₀ requests seen s) (hsub : requests ⊆ more) :
    Stopped s₀ more seen s where
  library := h.library
  turns := h.turns.mono hsub
  slots := h.slots
  visits := h.visits

theorem Stopped.append (h : Stopped s₀ requests seen s) (more : List JobArgs) :
    Stopped s₀ (requests ++ more) seen s :=
  h.mono (List.subset_append_left _ _)

theorem Working.downloads (h : Working s₀ requests n seen s) :
    s.library.downloads = s₀.downloads := by
  rw [h.library]

theorem Working.settings (h : Working s₀ requests n seen s) : s.library.settings = s₀.settings := by
  rw [h.library]

theorem Working.sources (h : Working s₀ requests n seen s) : s.library.sources = s₀.sources := by
  rw [h.library]

theorem Working.idle {op : HandlerOp β} (h : Working s₀ requests n seen s) (hop : op.Idle)
    (r : Except Error β) : Working s₀ requests n seen ⟨s.past ++ [⟨op, r⟩], s.library⟩ where
  library := h.library
  turns := h.turns
  serves := h.serves
  slots := (slotsLeft_append h.slots _).trans (slots_idle hop r n)
  visits := by
    rw [visits_append, (hop r).1, h.visits, Option.toList_none, List.append_nil]

theorem Stopped.idle {op : HandlerOp β} (h : Stopped s₀ requests seen s) (hop : op.Idle)
    (r : Except Error β) : Stopped s₀ requests seen ⟨s.past ++ [⟨op, r⟩], s.library⟩ where
  library := h.library
  turns := h.turns
  slots := by
    obtain ⟨n, hn⟩ := h.slots
    exact ⟨n, (slotsLeft_append hn _).trans (slots_idle hop r n)⟩
  visits := by
    rw [visits_append, (hop r).1, h.visits, Option.toList_none, List.append_nil]

/-- What comes after a query. -/
theorem working_reads {op : HandlerOp α} {f : α → Handler β} {P : β → Serial → Prop}
    (h : Working s₀ requests n seen s) (hop : op.Reads host s.library a) (hidle : op.Idle)
    (hsub : requests ⊆ more)
    (hf : ∀ s', Working s₀ requests n seen s' → s'.library = s.library →
      (f a).Meets (serial host) (Leads s₀ more seen P) s') :
    (perform op >>= f).Meets (serial host) (Leads s₀ more seen P) s := by
  apply reads_bind hop
  · exact hf _ (h.idle hidle _) rfl
  · intro e
    exact (h.idle hidle _).stopped.mono hsub

theorem working_leaves {op : HandlerOp α} {f : α → Handler β} {P : β → Serial → Prop}
    (h : Working s₀ requests n seen s) (hop : op.Leaves host s.library) (hidle : op.Idle)
    (hsub : requests ⊆ more)
    (hf : ∀ a s', Working s₀ requests n seen s' → s'.library = s.library →
      (f a).Meets (serial host) (Leads s₀ more seen P) s') :
    (perform op >>= f).Meets (serial host) (Leads s₀ more seen P) s := by
  apply leaves_bind hop
  · intro a
    exact hf a _ (h.idle hidle _) rfl
  · intro e
    exact (h.idle hidle _).stopped.mono hsub

/-- Two pieces of a pass, one after the other. -/
theorem leads_bind {p : Handler α} {f : α → Handler β} {P : α → Serial → Prop}
    {Q : β → Serial → Prop} (hp : p.Meets (serial host) (Leads s₀ requests seen P) s)
    (hsub : requests ⊆ more)
    (hf : ∀ a s', P a s' → (f a).Meets (serial host) (Leads s₀ more seen Q) s') :
    (p >>= f).Meets (serial host) (Leads s₀ more seen Q) s := by
  apply Meets.bind hp
  · intro a s' h
    exact hf a s' h
  · intro e s' h
    exact Stopped.mono h hsub

theorem idle_downloadExists (lookup : Columns) : (HandlerOp.downloadExists lookup).Idle :=
  fun _ => ⟨rfl, rfl⟩

theorem reads_downloadExists (host : Host) (lookup : Columns) (s : Library) :
    (HandlerOp.downloadExists lookup).Reads host s
      (s.downloads.rows.any fun _ row => lookup.matches row) :=
  reads_of_settle fun _ => rfl

/-- One of the three questions of `_episode_was_downloaded`. -/
theorem known_meets (h : Working s₀ requests n seen s) (profileId : String) (source : SourceConfig)
    (column text : String) :
    (if text = "" then (pure false : Handler Bool)
      else perform (.downloadExists (sourceColumns profileId source ++ [(column, .string text)]))).Meets
      (serial host) (Leads s₀ requests seen fun b s' =>
        b = s₀.hasRow profileId source column text ∧ Working s₀ requests n seen s') s := by
  rw [Library.hasRow]
  apply meets_ite
  · intro htext
    apply meets_pure.2
    refine ⟨?_, h⟩
    rw [decide_eq_false (not_not.2 htext), Bool.false_and]
  · intro htext
    apply serial_perform
    intro reply r hr
    obtain ⟨hs, hanswer⟩ := reads_downloadExists host _ s.library reply r hr
    have hidle := idle_downloadExists (sourceColumns profileId source ++ [(column, .string text)])
    rw [hs]
    rcases hanswer with ha | ⟨e, he⟩
    · rw [ha]
      refine ⟨?_, h.idle hidle _⟩
      rw [decide_eq_true htext, Bool.true_and, h.downloads]
    · rw [he]
      exact (h.idle hidle _).stopped

theorem episodeWasDownloaded_meets (h : Working s₀ requests n seen s) (profileId : String)
    (source : SourceConfig) (c : Candidate) :
    (episodeWasDownloaded profileId source c.uid c.url c.title).Meets (serial host)
      (Leads s₀ requests seen fun b s' =>
        b = s₀.wasDownloaded profileId source c ∧ Working s₀ requests n seen s') s := by
  have hsub := List.Subset.refl requests
  rw [Library.wasDownloaded]
  apply leads_bind (known_meets h profileId source "item_uid" c.uid) hsub
  rintro b s₁ ⟨rfl, h₁⟩
  apply meets_ite
  · intro htrue
    apply meets_pure.2
    refine ⟨?_, h₁⟩
    rw [htrue, Bool.true_or, Bool.true_or]
  · intro hfalse
    rw [Bool.not_eq_true] at hfalse
    apply leads_bind (known_meets h₁ profileId source "item_url" c.url) hsub
    rintro b s₂ ⟨rfl, h₂⟩
    apply meets_ite
    · intro htrue
      apply meets_pure.2
      refine ⟨?_, h₂⟩
      rw [htrue, Bool.or_true, Bool.true_or]
    · intro hfalse'
      rw [Bool.not_eq_true] at hfalse'
      rw [hfalse, hfalse', Bool.false_or, Bool.false_or]
      exact known_meets h₂ profileId source "title" c.title

theorem partsKey_ne (host : Host) (parts : List String) : partsKey host parts ≠ "" := by
  intro h
  have hlength := congrArg (fun text : String => text.toList.length) h
  rw [partsKey, cut255] at hlength
  rw [String.toList_ofList, List.length_take, String.toList_append, String.toList_append,
    List.length_append, List.length_append] at hlength
  have hcolon : ":".toList.length = 1 := rfl
  have hempty : "".toList.length = 0 := rfl
  omega

theorem Candidate.key_args (host : Host) (profileId : String) (source : Nat × SourceConfig)
    (limit : Nat) (c : Candidate) :
    (c.args host profileId source limit).key = some (c.key host profileId source.1) :=
  key_eq_some.2 ⟨rfl, partsKey_ne host _⟩

/-- The call takes a slot. -/
theorem slots_taken {op : HandlerOp β} {r : Except Error β} (hvisit : op.visit r = none)
    (htakes : op.takesSlot r = true) : Record.slots limit (n + 1) ⟨op, r⟩ = some n := by
  unfold Record.slots
  dsimp only
  rw [hvisit, htakes]
  rfl

theorem idle_publishJob (id : Nat) : (HandlerOp.publishJob id).Idle :=
  fun _ => ⟨rfl, rfl⟩

theorem idle_now : HandlerOp.now.Idle :=
  fun _ => ⟨rfl, rfl⟩

theorem leaves_now (host : Host) (s : Library) : HandlerOp.now.Leaves host s :=
  leaves_of_outside Reply.now fun _ => rfl

theorem publishJob_meets (h : Working s₀ requests n seen s) (id : Nat) :
    (perform (.publishJob id)).Meets (serial host)
      (Leads s₀ requests seen fun _ s' => Working s₀ requests n seen s') s := by
  apply serial_perform
  intro reply r hr
  have hreads : (HandlerOp.publishJob id).Reads host s.library () := reads_of_settle fun _ => rfl
  obtain ⟨hs, hanswer⟩ := hreads reply r hr
  rw [hs]
  rcases hanswer with ha | ⟨e, he⟩
  · rw [ha]
    exact h.idle (idle_publishJob id) _
  · rw [he]
    exact (h.idle (idle_publishJob id) _).stopped

/-- The key of the request is not in use. -/
theorem createAndPublish_works (h : Working s₀ requests (n + 1) seen s) {args : JobArgs}
    (hkey : args.key = some key) (hnot : ¬s.library.database.HasActive key) :
    (createAndPublish args).Meets (serial host)
      (Leads s₀ (requests ++ [args]) seen fun _ s' => Working s₀ (requests ++ [args]) n seen s') s := by
  have hcreate (createdAt updatedAt : Instant) : createJob args createdAt updatedAt s.library.database =
      (s.library.database.nextId, s.library.database.create (newJob args createdAt updatedAt)) := by
    rw [createJob, existingJob_none hkey hnot]
  have hturns (reply : Reply) := h.turns.create hkey hnot reply.now reply.later
  have hslots (r : Except Error Nat) : slotsLeft s₀.limitOf (s.past ++ [⟨.createJob args, r⟩]) =
      some n :=
    (slotsLeft_append h.slots _).trans (slots_taken rfl rfl)
  have hvisits (r : Except Error Nat) : visits (s.past ++ [⟨.createJob args, r⟩]) = seen := by
    rw [visits_append, h.visits]
    exact List.append_nil seen
  have hlibrary (database : Database) : { s.library with database } = { s₀ with database } := by
    rw [h.library]
  have hdone (reply : Reply) (r : Except Error Nat × Library)
      (hr : (HandlerOp.createJob args).run host reply s.library = some r) :
      (r.2 = s.library ∧ ∃ e, r.1 = .error e) ∨ r.2 = { s₀ with
        database := s.library.database.create (newJob args reply.now reply.later) } := by
    rcases HandlerOp.run_createJob_cases hr with hraised | hs
    · exact .inl hraised
    · rw [hcreate, hlibrary] at hs
      exact .inr hs
  apply serial_bind
  · intro reply r id hr hid
    rcases hdone reply r hr with ⟨-, e, he⟩ | hs
    · rw [hid] at he
      cases he
    · rw [hs]
      have hworking : Working s₀ (requests ++ [args]) n seen ⟨s.past ++ [⟨.createJob args, .ok id⟩],
          { s₀ with database := s.library.database.create (newJob args reply.now reply.later) }⟩ :=
        ⟨rfl, hturns reply, h.serves.create h.turns hkey _ _, hslots _, hvisits _⟩
      exact publishJob_meets hworking id
  · intro reply r e hr he
    rcases hdone reply r hr with ⟨hs, -⟩ | hs
    · rw [hs]
      have hstopped : Stopped s₀ requests seen
          ⟨s.past ++ [⟨.createJob args, .error e⟩], s.library⟩ :=
        ⟨h.library, h.turns, ⟨n, hslots _⟩, hvisits _⟩
      exact hstopped.append [args]
    · rw [hs]
      exact ⟨rfl, hturns reply, ⟨n, hslots _⟩, hvisits _⟩

theorem running_of_stale (h : makesStaleJobQueued raw now job = .ok true) : job.status = .running := by
  by_contra hrunning
  rw [makesStaleJobQueued, if_neg hrunning] at h
  cases h

theorem idle_saveRequeued (id : Nat) (updatedAt : Instant) :
    (HandlerOp.saveRequeued id updatedAt).Idle :=
  fun _ => ⟨rfl, rfl⟩

/-- A running job is put back into the queue. -/
theorem Working.requeue {jobId : Nat} {job : Job} {updatedAt : Instant} {past : List Record}
    (h : Working s₀ requests n seen ⟨past, s.library⟩)
    (hrow : s.library.database.jobs.lookup jobId = some job) (hrunning : job.status = .running) :
    Working s₀ requests n seen ⟨past, { s.library with
      database := s.library.database.save jobId (Job.requeue updatedAt) }⟩ where
  library := by
    have hlibrary := h.library
    dsimp only at hlibrary ⊢
    rw [hlibrary]
  turns := h.turns.requeue hrow hrunning updatedAt
  serves := h.serves.stay (stays_requeue hrow hrunning updatedAt)
  slots := h.slots
  visits := h.visits

theorem saveRequeued_meets (h : Working s₀ requests n seen s) {jobId : Nat} {job : Job}
    (hrow : s.library.database.jobs.lookup jobId = some job) (hrunning : job.status = .running)
    (updatedAt : Instant) :
    (perform (.saveRequeued jobId updatedAt)).Meets (serial host)
      (Leads s₀ requests seen fun _ s' => Working s₀ requests n seen s') s := by
  apply serial_perform
  intro reply r hr
  have hworking : Working s₀ requests n seen ⟨s.past ++ [⟨.saveRequeued jobId updatedAt, r.1⟩], r.2⟩ := by
    have hidle := h.idle (idle_saveRequeued jobId updatedAt) r.1
    rcases HandlerOp.run_saveRequeued hr with hs | hs
    · rw [hs]
      exact hidle
    · rw [hs]
      exact Working.requeue hidle hrow hrunning
  cases hr1 : r.1 with
  | ok a =>
    rw [hr1] at hworking
    exact hworking
  | error e =>
    rw [hr1] at hworking
    exact hworking.stopped

/-- The job that a request meets with is published once more, if it waits. -/
theorem republishActive_meets (h : Working s₀ requests n seen s) {jobId : Nat} {job : Job}
    (hrow : s.library.database.jobs.lookup jobId = some job) :
    (republishActive host jobId job).Meets (serial host)
      (Leads s₀ requests seen fun _ s' => Working s₀ requests n seen s') s := by
  have hsub := List.Subset.refl requests
  apply working_leaves h (leaves_now host _) idle_now hsub
  intro now s₁ h₁ hs₁
  rw [← hs₁] at hrow
  have hstale : (ofExcept (makesStaleJobQueued host.staleRunningJobSeconds now job)).Meets (serial host)
      (Leads s₀ requests seen fun wasStale s' => Working s₀ requests n seen s' ∧
        s'.library.database.jobs.lookup jobId = some job ∧
        (wasStale = true → job.status = .running)) s₁ := by
    cases hm : makesStaleJobQueued host.staleRunningJobSeconds now job with
    | error e => exact meets_raise.2 h₁.stopped
    | ok wasStale =>
      apply meets_pure.2
      refine ⟨h₁, hrow, ?_⟩
      rintro rfl
      exact running_of_stale hm
  apply leads_bind hstale hsub
  rintro wasStale s₂ ⟨h₂, hrow₂, hrunning⟩
  have hpublish (s' : Serial) (h' : Working s₀ requests n seen s') :
      (when (wasStale || job.status = .queued) (perform (.publishJob jobId))).Meets (serial host)
        (Leads s₀ requests seen fun _ s' => Working s₀ requests n seen s') s' :=
    meets_ite (fun _ => publishJob_meets h' jobId) fun _ => meets_pure.2 h'
  have hsave : (when wasStale do
      let updatedAt ← perform .now
      perform (.saveRequeued jobId updatedAt)).Meets (serial host)
        (Leads s₀ requests seen fun _ s' => Working s₀ requests n seen s') s₂ := by
    apply meets_ite
    · intro hwas
      apply working_leaves h₂ (leaves_now host _) idle_now hsub
      intro updatedAt s₃ h₃ hs₃
      rw [← hs₃] at hrow₂
      exact saveRequeued_meets h₃ hrow₂ (hrunning hwas) updatedAt
    · exact fun _ => meets_pure.2 h₂
  apply leads_bind hsave hsub
  intro _ s₃ h₃
  exact hpublish s₃ h₃

/-- One candidate that is not known: its job is there afterwards, and a slot is taken. -/
theorem enqueueEpisode_meets (h : Working s₀ requests (n + 1) seen s) (profileId : String)
    (source : Nat × SourceConfig) (limit : Nat) (c : Candidate) :
    (enqueueEpisode host profileId source.1 source.2 limit c.uid c.url c.title c.entry).Meets
      (serial host) (Leads s₀ (requests ++ [c.args host profileId source limit]) seen fun _ s' =>
        Working s₀ (requests ++ [c.args host profileId source limit]) n seen s') s := by
  have hkey := c.key_args host profileId source limit
  have hreads : (HandlerOp.activeDownloadJob (c.key host profileId source.1)).Reads host s.library
      (activeDownloadJob (c.key host profileId source.1) s.library.database.jobs) :=
    reads_of_settle fun _ => rfl
  have hvisits (r : Except Error (Option (Nat × Job))) : visits (s.past ++
      [⟨.activeDownloadJob (c.key host profileId source.1), r⟩]) = seen := by
    rw [visits_append, h.visits]
    exact List.append_nil seen
  apply reads_bind hreads
  · cases hactive : activeDownloadJob (c.key host profileId source.1) s.library.database.jobs with
    | none =>
      have hworking : Working s₀ requests (n + 1) seen ⟨s.past ++
          [⟨.activeDownloadJob (c.key host profileId source.1), .ok none⟩], s.library⟩ :=
        ⟨h.library, h.turns, h.serves, slotsLeft_append h.slots _, hvisits _⟩
      exact createAndPublish_works hworking hkey (activeDownloadJob_none hactive)
    | some found =>
      have hworking : Working s₀ (requests ++ [c.args host profileId source limit]) n seen ⟨s.past ++
          [⟨.activeDownloadJob (c.key host profileId source.1), .ok (some found)⟩], s.library⟩ :=
        ⟨h.library, h.turns.mono (List.subset_append_left _ _),
          h.serves.reserved h.turns hkey (hasActive_of_some hactive),
          (slotsLeft_append h.slots _).trans (slots_taken rfl rfl), hvisits _⟩
      exact republishActive_meets hworking (activeDownloadJob_spec hactive).1
  · intro e
    have hstopped : Stopped s₀ requests seen ⟨s.past ++
        [⟨.activeDownloadJob (c.key host profileId source.1), .error e⟩], s.library⟩ :=
      ⟨h.library, h.turns, ⟨n + 1, slotsLeft_append h.slots _⟩, hvisits _⟩
    exact hstopped.append _

/-- The jobs that are asked for among some candidates, while so many slots are open. -/
def asked (host : Host) (s₀ : Library) (profileId : String) (source : Nat × SourceConfig) (limit : Nat)
    (candidates : List Columns) (slots : Nat) : List JobArgs :=
  (((candidates.map (candidateOf host)).filter fun c =>
    !s₀.wasDownloaded profileId source.2 c).take slots).map (Candidate.args host profileId source limit)

theorem asked_zero (host : Host) (s₀ : Library) (profileId : String) (source : Nat × SourceConfig)
    (limit : Nat) (candidates : List Columns) :
    asked host s₀ profileId source limit candidates 0 = [] := by
  rw [asked, List.take_zero, List.map_nil]

theorem asked_known {profileId : String} {source : Nat × SourceConfig} {candidate : Columns}
    (h : s₀.wasDownloaded profileId source.2 (candidateOf host candidate) = true) (limit : Nat)
    (candidates : List Columns) (slots : Nat) :
    asked host s₀ profileId source limit (candidate :: candidates) slots =
      asked host s₀ profileId source limit candidates slots := by
  rw [asked, List.map_cons, List.filter_cons_of_neg, asked]
  rw [h]
  exact Bool.false_ne_true

theorem asked_unknown {profileId : String} {source : Nat × SourceConfig} {candidate : Columns}
    (h : s₀.wasDownloaded profileId source.2 (candidateOf host candidate) = false) (limit : Nat)
    (candidates : List Columns) (slots : Nat) :
    asked host s₀ profileId source limit (candidate :: candidates) (slots + 1) =
      (candidateOf host candidate).args host profileId source limit ::
        asked host s₀ profileId source limit candidates slots := by
  rw [asked, List.map_cons, List.filter_cons_of_pos, List.take_succ_cons, List.map_cons, asked]
  rw [h]
  rfl

/-- The loop over the candidates, from any point of it on. -/
theorem checkCandidates_meets (profileId : String) (source : Nat × SourceConfig) (limit : Nat)
    (failure : Option String) (candidates : List Columns) (enqueued : Nat)
    (h : Working s₀ requests (limit - enqueued) seen s) :
    (checkCandidates host profileId source.1 source.2 limit failure candidates enqueued).Meets
      (serial host) (Leads s₀ (requests ++
        asked host s₀ profileId source limit candidates (limit - enqueued)) seen fun _ s' =>
        ∃ m, Working s₀ (requests ++
          asked host s₀ profileId source limit candidates (limit - enqueued)) m seen s') s := by
  induction candidates generalizing enqueued requests s with
  | nil =>
    have hnone : asked host s₀ profileId source limit [] (limit - enqueued) = [] := by
      rw [asked, List.map_nil, List.filter_nil, List.take_nil, List.map_nil]
    rw [hnone, List.append_nil]
    unfold checkCandidates
    cases failure with
    | none => exact meets_pure.2 ⟨_, h⟩
    | some error => exact meets_raise.2 h.stopped
  | cons candidate candidates ih =>
    unfold checkCandidates
    apply meets_ite
    · intro hfull
      rw [Nat.sub_eq_zero_of_le hfull] at h ⊢
      rw [asked_zero, List.append_nil]
      exact meets_pure.2 ⟨0, h⟩
    · intro hopen
      have hslots : limit - enqueued = limit - (enqueued + 1) + 1 := by omega
      have hknown : (episodeWasDownloaded profileId source.2 (candidateOf host candidate).uid
          (candidateOf host candidate).url (candidateOf host candidate).title).Meets (serial host) _ s :=
        episodeWasDownloaded_meets h profileId source.2 (candidateOf host candidate)
      apply leads_bind hknown (List.subset_append_left _ _)
      rintro b s₁ ⟨rfl, h₁⟩
      apply meets_ite
      · intro hdownloaded
        rw [asked_known hdownloaded]
        exact ih enqueued h₁
      · intro hunknown
        rw [Bool.not_eq_true] at hunknown
        rw [hslots] at h₁ ⊢
        rw [asked_unknown hunknown, ← List.singleton_append, ← List.append_assoc]
        apply leads_bind (enqueueEpisode_meets h₁ profileId source limit (candidateOf host candidate))
          (List.subset_append_left _ _)
        intro _ s₂ h₂
        exact ih (enqueued + 1) h₂

theorem idle_profileSetting (profileId key : String) : (HandlerOp.profileSetting profileId key).Idle :=
  fun _ => ⟨rfl, rfl⟩

theorem sourceLimit_meets (h : Working s₀ requests n seen s) (source : SourceConfig) :
    (sourceLimit source).Meets (serial host) (Leads s₀ requests seen fun limit s' =>
      s₀.sourceLimit source = .ok limit ∧ Working s₀ requests n seen s') s := by
  have hdefault : (do
      let profileDefault := strip ((← perform
        (.profileSetting source.profileId "max_downloads")).getD "")
      if isDigit profileDefault then
        let limit ← ofExcept (intOfText profileDefault)
        return (max 1 limit).toNat
      else return 10 : Handler Nat).Meets (serial host) (Leads s₀ requests seen fun limit s' =>
        (if isDigit (strip ((s₀.settings.lookup (source.profileId, "max_downloads")).getD "")) then
          (intOfText (strip ((s₀.settings.lookup (source.profileId, "max_downloads")).getD ""))).map
            fun limit => (max 1 limit).toNat
        else .ok 10) = .ok limit ∧ Working s₀ requests n seen s') s := by
    have hreads : (HandlerOp.profileSetting source.profileId "max_downloads").Reads host s.library
        (s.library.settings.lookup (source.profileId, "max_downloads")) :=
      reads_of_settle fun _ => rfl
    apply working_reads h hreads (idle_profileSetting _ _) (List.Subset.refl requests)
    intro s₁ h₁ _
    rw [h.settings]
    apply meets_ite
    · intro hdigit
      rw [if_pos hdigit]
      cases hlimit : intOfText (strip ((s₀.settings.lookup (source.profileId, "max_downloads")).getD
          "")) with
      | error e => exact meets_raise.2 h₁.stopped
      | ok limit => exact meets_pure.2 ⟨rfl, h₁⟩
    · intro hdigit
      rw [if_neg hdigit]
      exact meets_pure.2 ⟨rfl, h₁⟩
  unfold sourceLimit Library.sourceLimit
  cases source.maxDownloads with
  | none => exact hdefault
  | some limit =>
    cases limit with
    | negSucc n => exact meets_pure.2 ⟨rfl, h⟩
    | ofNat n =>
      cases n with
      | zero => exact hdefault
      | succ n => exact meets_pure.2 ⟨rfl, h⟩

/-- A piece of a pass that visits some sources, after others: all of them, or as far as it gets. -/
def Covers (host : Host) (s₀ : Library) (seen : List Visit) (sources : List (Nat × SourceConfig)) :
    Except Error Unit → Serial → Prop
  | .ok _, s => ∃ new m, new.map Visit.source = sources ∧
    Working s₀ ((seen ++ new).flatMap (Visit.requests host s₀)) m (seen ++ new) s
  | .error _, s => ∃ new, new.map Visit.source <+: sources ∧
    Stopped s₀ ((seen ++ new).flatMap (Visit.requests host s₀)) (seen ++ new) s

theorem flatMap_visit (v : Visit) : (seen ++ [v]).flatMap (Visit.requests host s₀) =
    seen.flatMap (Visit.requests host s₀) ++ v.requests host s₀ := by
  rw [List.flatMap_append, List.flatMap_cons, List.flatMap_nil, List.append_nil]

theorem checkSource_meets (source : Nat × SourceConfig)
    (h : Working s₀ (seen.flatMap (Visit.requests host s₀)) n seen s) :
    (checkSource host source.2.profileId source).Meets (serial host)
      (Covers host s₀ seen [source]) s := by
  have hstopped (e : Error) (s' : Serial)
      (h' : Stopped s₀ (seen.flatMap (Visit.requests host s₀)) seen s') :
      Covers host s₀ seen [source] (.error e) s' := by
    refine ⟨[], List.nil_prefix, ?_⟩
    rw [List.append_nil]
    exact h'
  apply Meets.bind (sourceLimit_meets h source.2)
  · rintro limit s₁ ⟨hlimit, h₁⟩
    have hlimitOf : s₀.limitOf source = limit := by
      rw [Library.limitOf, hlimit]
      rfl
    have hleaves : (HandlerOp.candidates source).Leaves host s₁.library :=
      leaves_of_outside Reply.candidates fun _ => rfl
    apply leaves_bind hleaves
    · rintro ⟨candidates, failure⟩
      have hworking : Working s₀ (seen.flatMap (Visit.requests host s₀)) (limit - 0)
          (seen ++ [⟨source, candidates⟩])
          ⟨s₁.past ++ [⟨.candidates source, .ok (candidates, failure)⟩], s₁.library⟩ := by
        refine ⟨h₁.library, h₁.turns, h₁.serves, ?_, ?_⟩
        · rw [slotsLeft_append h₁.slots]
          exact congrArg some hlimitOf
        · rw [visits_append, h₁.visits]
          rfl
      have hrequests : asked host s₀ source.2.profileId source limit candidates (limit - 0) =
          Visit.requests host s₀ ⟨source, candidates⟩ := by
        rw [Nat.sub_zero, Visit.requests, Visit.admitted, hlimitOf, asked]
      apply (checkCandidates_meets source.2.profileId source limit failure candidates 0 hworking).mono
      rw [hrequests, ← flatMap_visit]
      intro r s' hr
      cases r with
      | ok _ =>
        obtain ⟨m, hm⟩ := hr
        exact ⟨[⟨source, candidates⟩], m, rfl, hm⟩
      | error e => exact ⟨[⟨source, candidates⟩], List.prefix_rfl, hr⟩
    · intro e
      apply hstopped e
      refine ⟨h₁.library, h₁.turns, ⟨n, slotsLeft_append h₁.slots _⟩, ?_⟩
      rw [visits_append, h₁.visits]
      exact List.append_nil seen
  · intro e s' h'
    exact hstopped e s' h'

/-- Two pieces of a pass that visit sources, one after the other. -/
theorem covers_bind {p : Handler Unit} {q : Unit → Handler Unit}
    {first second : List (Nat × SourceConfig)}
    (hp : p.Meets (serial host) (Covers host s₀ seen first) s)
    (hq : ∀ new m s', Working s₀ ((seen ++ new).flatMap (Visit.requests host s₀)) m (seen ++ new) s' →
      (q ()).Meets (serial host) (Covers host s₀ (seen ++ new) second) s') :
    (p >>= q).Meets (serial host) (Covers host s₀ seen (first ++ second)) s := by
  apply Meets.bind hp
  · rintro _ s₁ ⟨new, m, hnew, h₁⟩
    apply (hq new m s₁ h₁).mono
    intro r s' hr
    cases r with
    | ok _ =>
      obtain ⟨new', m', hnew', h'⟩ := hr
      refine ⟨new ++ new', m', ?_, ?_⟩
      · rw [List.map_append, hnew, hnew']
      · rw [← List.append_assoc]
        exact h'
    | error e =>
      obtain ⟨new', hnew', h'⟩ := hr
      refine ⟨new ++ new', ?_, ?_⟩
      · rw [List.map_append, hnew]
        exact (List.prefix_append_right_inj first).2 hnew'
      · rw [← List.append_assoc]
        exact h'
  · rintro e s' ⟨new, hnew, h'⟩
    exact ⟨new, hnew.trans (List.prefix_append first second), h'⟩

theorem covers_pure (h : Working s₀ (seen.flatMap (Visit.requests host s₀)) n seen s) :
    (pure () : Handler Unit).Meets (serial host) (Covers host s₀ seen []) s := by
  apply meets_pure.2
  refine ⟨[], n, rfl, ?_⟩
  rw [List.append_nil]
  exact h

theorem checkSources_meets (profileId : String) (sources : List (Nat × SourceConfig))
    (hprofile : ∀ source ∈ sources, source.2.profileId = profileId)
    (h : Working s₀ (seen.flatMap (Visit.requests host s₀)) n seen s) :
    (sources.foldlM (fun _ source => checkSource host profileId source) ()).Meets (serial host)
      (Covers host s₀ seen sources) s := by
  induction sources generalizing n seen s with
  | nil => exact covers_pure h
  | cons source sources ih =>
    rw [List.foldlM_cons, ← List.singleton_append]
    obtain ⟨hsource, hsources⟩ := List.forall_mem_cons.1 hprofile
    have hfirst := checkSource_meets source h
    rw [hsource] at hfirst
    apply covers_bind hfirst
    intro new m s' h'
    exact ih hsources h'

theorem checkProfile_meets (profileId : String)
    (h : Working s₀ (seen.flatMap (Visit.requests host s₀)) n seen s) :
    (checkProfile host profileId).Meets (serial host)
      (Covers host s₀ seen (s₀.enabledSources profileId)) s := by
  have hreads : (HandlerOp.enabledSources profileId).Reads host s.library
      (s₀.enabledSources profileId) := by
    rw [Library.enabledSources, ← h.sources]
    exact reads_of_settle fun _ => rfl
  have hidle : (HandlerOp.enabledSources profileId).Idle := fun _ => ⟨rfl, rfl⟩
  apply reads_bind hreads
  · apply checkSources_meets profileId _ _ (h.idle hidle _)
    intro source hsource
    have hp := (Table.mem_orderBy.1 hsource).2
    rw [Bool.and_eq_true, decide_eq_true_eq] at hp
    exact hp.2
  · intro e
    refine ⟨[], List.nil_prefix, ?_⟩
    rw [List.append_nil]
    exact (h.idle hidle _).stopped

/-- The sources that a pass visits, in its order. -/
def Library.sourcesInOrder (s : Library) : List (Nat × SourceConfig) :=
  s.enabledProfiles.flatMap s.enabledSources

theorem checkProfiles_meets (profileIds : List String)
    (h : Working s₀ (seen.flatMap (Visit.requests host s₀)) n seen s) :
    (profileIds.foldlM (fun _ profileId => checkProfile host profileId) ()).Meets (serial host)
      (Covers host s₀ seen (profileIds.flatMap s₀.enabledSources)) s := by
  induction profileIds generalizing n seen s with
  | nil => exact covers_pure h
  | cons profileId profileIds ih =>
    rw [List.foldlM_cons, List.flatMap_cons]
    apply covers_bind (checkProfile_meets profileId h)
    intro new m s' h'
    exact ih h'

end

/-- A pass that nothing interferes with asks for the first candidates of each source that are not known,
source after source. -/
theorem pass_spec {host : Host} {s₀ : Library}
    (hrun : runSerially host (checkForEpisodes host) replies s₀ = some (r, s)) :
    Covers host s₀ [] s₀.sourcesInOrder r s := by
  have h : Working s₀ ([].flatMap (Visit.requests host s₀)) 0 [] ⟨[], s₀⟩ :=
    ⟨rfl, .refl _, .refl _, rfl, rfl⟩
  have hreads : HandlerOp.enabledProfiles.Reads host s₀ s₀.enabledProfiles :=
    reads_of_settle fun _ => rfl
  have hidle : HandlerOp.enabledProfiles.Idle := fun _ => ⟨rfl, rfl⟩
  have hmeets : (checkForEpisodes host).Meets (serial host) (Covers host s₀ [] s₀.sourcesInOrder)
      ⟨[], s₀⟩ := by
    apply reads_bind hreads
    · exact checkProfiles_meets _ (h.idle hidle _)
    · intro e
      exact ⟨[], List.nil_prefix, (h.idle hidle _).stopped⟩
  exact runSerially_meets hmeets hrun

end GetOffline
