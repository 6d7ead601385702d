import GetOffline.RecordedEpisodes

set_option autoImplicit true

namespace GetOffline
open Python Effects Program Execution Database

/-- A call that does not make a job that is told to screen. -/
def HandlerOp.Unflagged : HandlerOp β → Prop
  | .createJob args => flagged (args.payload.getD []) = false
  | _ => True

abbrev Unflagged (p : Handler α) : Prop :=
  p.Calls fun op => op.Unflagged

theorem HandlerOp.IsQuiet.unflagged {op : HandlerOp β} (h : op.IsQuiet) : op.Unflagged := by
  cases op <;> trivial

theorem Quiet.unflagged {p : Handler α} (h : Quiet p) : Unflagged p :=
  h.mono (fun _ hop => hop.unflagged) fun _ _ => trivial

theorem flagged_of_keys (names : List String) (h : payload.map Prod.fst = names)
    (hnames : "delete_explicit_content" ∉ names) : flagged payload = false := by
  subst names
  rw [flagged, isTrue, Json.get_eq_none hnames]
  rfl

section
variable {host : Host}

theorem flagged_redownloadArgs (profileId : String) (download : Download) :
    flagged ((redownloadArgs host profileId download).payload.getD []) = false :=
  flagged_of_keys ["source", "url", "source_type", "source_name", "item_uid", "item_id", "title",
    "media_type", "subtitles", "redownload"] rfl (by decide)

theorem flagged_ocrArgs (profileId : String) (id : Nat) :
    flagged ((ocrArgs profileId id).payload.getD []) = false :=
  flagged_of_keys ["download_id", "source_type", "media_type", "manual_upload"] rfl (by decide)

theorem flagged_uploadTranscriptArgs (profileId : String) (id : Nat) (mediaType : String) :
    flagged ((uploadTranscriptArgs profileId id mediaType).payload.getD []) = false :=
  flagged_of_keys ["download_id", "subtitles", "source_type", "media_type", "recent_download",
    "manual_upload"] rfl (by decide)

theorem unflagged_createAndPublish {args : JobArgs} (h : flagged (args.payload.getD []) = false) :
    Unflagged (createAndPublish args) :=
  Calls.bind (calls_perform h) fun _ => calls_perform trivial

variable (host) in
theorem unflagged_batchDownload (profileId : String) (ids : List Nat) :
    Unflagged (batchDownload host profileId ids) := by
  apply Calls.bind (calls_perform trivial)
  intro rows
  apply Calls.foldlM
  exact fun _ row => unflagged_createAndPublish (flagged_redownloadArgs profileId row)

theorem unflagged_writeManualUpload (profileId name : String) :
    Unflagged (writeManualUpload host profileId name) := by
  have hroot : Unflagged (profileOutputRoot host profileId) := by
    apply Calls.bind (calls_perform trivial)
    intro own
    exact Calls.bind (calls_perform trivial) fun _ => calls_pure _
  apply yields_ite
  · exact fun _ => calls_raise _
  · intro _
    apply Calls.bind hroot
    intro outputRoot
    apply Calls.bind (calls_perform trivial)
    intro _
    apply Calls.bind (calls_perform trivial)
    intro stored
    apply yields_ite
    · exact fun _ => Calls.bind (calls_perform trivial) fun _ => calls_raise _
    · intro _
      apply Calls.bind (calls_perform trivial)
      intro now
      apply Calls.bind
      · apply Calls.tryCatch (calls_perform trivial)
        exact fun error => Calls.bind (calls_perform trivial) fun _ => calls_raise error
      · exact fun _ => calls_pure _

variable (host) in
theorem unflagged_manualUpload (profileId : String) (names : List String) :
    Unflagged (manualUpload host profileId names) := by
  apply Calls.foldlM
  intro _ name
  apply Calls.tryCatch
  · apply Calls.bind (unflagged_writeManualUpload profileId name)
    intro stored
    apply yields_ite
    · exact fun _ => unflagged_createAndPublish (flagged_ocrArgs _ _)
    · exact fun _ => unflagged_createAndPublish (flagged_uploadTranscriptArgs _ _ _)
  · exact fun error => yields_ite (fun _ => calls_pure _) fun _ => calls_raise _

end

/-- A job that has been made: whether a request of a user has made it, whether the policy demands that it
screens, and its payload. -/
structure QueuedJob where
  byRequest : Bool
  demanded : Bool
  payload : Columns

/-- The rows and jobs, the processes at work, and the jobs that have been made, the last one first. -/
structure PolicyHistory where
  pipeline : Pipeline
  created : List QueuedJob

/-- A pass that nothing interferes with, or a step of anything else. -/
inductive PolicyEvent
  | pass (replies : List Reply)
  | work (event : PipelineEvent)

/-- Passes are events of their own. -/
def PipelineEvent.startsPass (s : Library) : PipelineEvent → Bool
  | .startJob id => (s.database.jobs.lookup id).any fun job =>
    job.jobType = "check_for_episodes" || job.jobType = "update_downloads"
  | _ => false

def Origin.isRequest : Origin → Bool
  | .job _ _ => false
  | _ => true

/-- A source of the profile that has its media screened has the type and the name. -/
def Library.screensSource (profileId sourceType sourceName : String) (s : Library) : Bool :=
  s.sources.any fun _ source => source.profileId = profileId && source.sourceType = sourceType &&
    source.name = sourceName && source.deleteExplicitContent

/-- The policy demands that the job screens: a job that comes of one that is told to, the download of a
row of a source that has its media screened, and the transcript of an upload when the setting is on. -/
def Origin.demands (host : Host) (s : Library) (args : JobArgs) : Origin → Bool
  | .job _ copy => flagged copy.payload.dict
  | .batchDownload profileId _ =>
    let payload := args.payload.getD []
    s.screensSource profileId (host.textOr (Json.get "source_type" payload) "")
      (host.textOr (Json.get "source_name" payload) "")
  | .manualUpload profileId _ => args.jobType = "generate_transcript" && s.manualUploadFilter profileId

namespace PolicyHistory

abbrev library (w : PolicyHistory) : Library :=
  w.pipeline.library

def initial (library : Library) : PolicyHistory where
  pipeline := Pipeline.initial library
  created := []

/-- The job that a call of a process makes. -/
def callMakes (host : Host) (s : Library) (reply : Reply) (process : Process) : List QueuedJob :=
  match process.program with
  | .call op _ => ((op.creates reply s).map fun args =>
    ⟨process.origin.isRequest, process.origin.demands host s args, args.payload.getD []⟩).toList
  | _ => []

/-- The jobs that a pass makes: the policy demands screening for those of a source that has its media
screened. -/
def passMakes (s s' : Library) : List QueuedJob :=
  (EpisodeHistory.newEpisodes s.database s'.database).map fun episode =>
    ⟨false, (s.sources.lookup episode.sourceId).any SourceConfig.deleteExplicitContent,
      episode.job.payload.dict⟩

/-- The jobs that an event makes. -/
def makes (host : Host) (w : PolicyHistory) : PolicyEvent → List QueuedJob
  | .pass replies =>
    (runSerially host (checkForEpisodes host) replies w.library).elim [] fun r =>
      passMakes w.library r.2.library
  | .work (.advance i reply) => w.pipeline.processes[i]?.elim [] (callMakes host w.library reply)
  | .work _ => []

def step (host : Host) (w : PolicyHistory) : PolicyEvent → Option PolicyHistory
  | .pass replies =>
    (runSerially host (checkForEpisodes host) replies w.library).map fun r => {
      pipeline := { w.pipeline with library := r.2.library }
      created := w.makes host (.pass replies) ++ w.created }
  | .work event =>
    if event.startsPass w.library then none
    else (w.pipeline.step host event).map fun pipeline => {
      pipeline
      created := w.makes host (.work event) ++ w.created }

/-- Every job that is to screen is told so. -/
def Complies (w : PolicyHistory) : Prop :=
  ∀ job ∈ w.created, job.demanded = true → flagged job.payload = true

/-- No request makes a job that is to screen. -/
def RequestsExempt (host : Host) (w : PolicyHistory) (event : PolicyEvent) : Prop :=
  ∀ job ∈ w.makes host event, job.byRequest = true → job.demanded = false

end PolicyHistory

/-- What a process may make: the process of a job hands on the flag, and that of a request sets none. -/
def Process.MakesJobs (process : Process) : Prop :=
  match process.origin with
  | .job id copy => Produces id copy process.program
  | _ => Unflagged process.program

namespace PolicyHistory
variable {host : Host} {w t : PolicyHistory}

theorem makesJobs_start {origin : Origin} {program : Handler Unit}
    (h : origin.program host = some program)
    (hpass : ∀ id copy, origin = .job id copy → copy.jobType ≠ "check_for_episodes" ∧
      copy.jobType ≠ "update_downloads") :
    Process.MakesJobs ⟨origin, [], program⟩ := by
  cases origin with
  | job id copy =>
    obtain ⟨hcheck, hupdate⟩ := hpass id copy rfl
    have hhandler : jobHandler host id copy = some program := h
    clear h
    unfold jobHandler at hhandler
    split at hhandler
    · next htype => exact absurd htype hcheck
    · next htype => exact absurd htype hupdate
    · obtain rfl := Option.some.inj hhandler
      exact produces_downloadEpisode host id copy
    · obtain rfl := Option.some.inj hhandler
      exact produces_downloadEpisode host id copy
    · obtain rfl := Option.some.inj hhandler
      exact (handsOn_transcodeMedia host id copy).produces
    · obtain rfl := Option.some.inj hhandler
      exact produces_generateTranscript host id copy
    · cases hhandler
  | batchDownload profileId ids =>
    obtain rfl := Option.some.inj h
    exact unflagged_batchDownload host profileId ids
  | manualUpload profileId names =>
    obtain rfl := Option.some.inj h
    exact unflagged_manualUpload host profileId names

/-- The process keeps to this at its next call. -/
theorem makesJobs_call {process : Process} {op : HandlerOp β} {k : Except Error β → Handler Unit}
    (h : process.MakesJobs) (hop : process.program = .call op k) (r : Except Error β) :
    Process.MakesJobs ⟨process.origin, process.past ++ [⟨op, r⟩], k r⟩ := by
  obtain ⟨origin, past, program⟩ := process
  dsimp only at hop
  subst program
  cases origin with
  | job id copy => exact (yields_call.1 h).2 r
  | batchDownload profileId ids => exact (yields_call.1 h).2 r
  | manualUpload profileId names => exact (yields_call.1 h).2 r

/-- The job that such a process makes is told to screen if its own is, or is not told to. -/
theorem flagged_callMakes {process : Process} {reply : Reply} {s : Library} (h : process.MakesJobs)
    (hjob : job ∈ callMakes host s reply process) :
    (job.byRequest = false → job.demanded = true → flagged job.payload = true) ∧
      (job.byRequest = true → flagged job.payload = false) := by
  obtain ⟨origin, past, program⟩ := process
  unfold callMakes at hjob
  cases program with
  | done a => cases hjob
  | raise e => cases hjob
  | call op k =>
    dsimp only at hjob
    obtain ⟨args, hcreates, rfl⟩ := Option.map_eq_some_iff.1 (Option.mem_toList.1 hjob)
    cases op with
    | createJob args' =>
      obtain ⟨-, hargs⟩ := Option.ite_none_right_eq_some.1 hcreates
      obtain rfl := Option.some.inj hargs
      cases origin with
      | job id copy =>
        have hop : FollowUp copy.payload.dict (args'.payload.getD []) := (yields_call.1 h).1
        exact ⟨fun _ => hop.flagged, fun hrequest => absurd hrequest Bool.false_ne_true⟩
      | batchDownload profileId ids =>
        exact ⟨fun hrequest => absurd hrequest.symm Bool.false_ne_true, fun _ => (yields_call.1 h).1⟩
      | manualUpload profileId names =>
        exact ⟨fun hrequest => absurd hrequest.symm Bool.false_ne_true, fun _ => (yields_call.1 h).1⟩
    | _ => cases hcreates

/-- A pass tells the jobs of a source to screen as the source says. -/
theorem flagged_passMakes {replies : List Reply} {r : Except Error Unit × Serial} {s : Library}
    (hrun : runSerially host (checkForEpisodes host) replies s = some r)
    (hjob : job ∈ passMakes s r.2.library) :
    job.byRequest = false ∧ (job.demanded = true → flagged job.payload = true) := by
  obtain ⟨episode, hepisode, rfl⟩ := List.mem_map.1 hjob
  obtain ⟨i, hnone, hrow, item, hitem⟩ := EpisodeHistory.mem_newEpisodes hepisode
  obtain ⟨v, -, hv, entry, -, hmade⟩ := (pass_bounded hrun).made i episode.job hrow hnone
  obtain ⟨createdAt, updatedAt, hnew⟩ := hmade.job
  rw [hnew, foundItem_newJob] at hitem
  obtain ⟨hid, -⟩ := Prod.mk.inj (Option.some.inj hitem)
  refine ⟨rfl, ?_⟩
  intro hdemanded
  dsimp only at hdemanded ⊢
  rw [← hid, mem_sourcesInOrder hv, Option.any_some] at hdemanded
  have hflag : flagged (newJob ((candidateOf host entry).args host v.source.2.profileId v.source
      (s.limitOf v.source)) createdAt updatedAt).payload.dict = v.source.2.deleteExplicitContent := rfl
  rw [hnew, hflag]
  exact hdemanded

/-- Every process makes no other jobs than it may. -/
def Steady (w : PolicyHistory) : Prop :=
  ∀ process ∈ w.pipeline.processes, process.MakesJobs

theorem steady_start {origin : Origin} {pipeline : Pipeline} (h : w.Steady)
    (hpass : ∀ id copy, origin = .job id copy → copy.jobType ≠ "check_for_episodes" ∧
      copy.jobType ≠ "update_downloads")
    (hstart : w.pipeline.start host origin = some pipeline) :
    ∀ process ∈ pipeline.processes, process.MakesJobs := by
  obtain ⟨program, hprogram, rfl⟩ := Pipeline.start_spec hstart
  intro process hprocess
  rcases List.mem_append.1 hprocess with hold | hnew
  · exact h process hold
  · rw [List.mem_singleton.1 hnew]
    exact makesJobs_start hprogram hpass

theorem steady_step {event : PolicyEvent} (h : w.Steady) (hstep : w.step host event = some t) :
    t.Steady := by
  cases event with
  | pass replies =>
    obtain ⟨r, -, rfl⟩ := Option.map_eq_some_iff.1 hstep
    exact h
  | work event =>
    obtain ⟨hpass, hstep⟩ := Option.ite_none_left_eq_some.1 hstep
    obtain ⟨pipeline, hpipeline, rfl⟩ := Option.map_eq_some_iff.1 hstep
    cases event with
    | startJob id =>
      obtain ⟨job, hjob, hstart⟩ := Option.bind_eq_some_iff.1 hpipeline
      apply steady_start h _ hstart
      rintro _ copy ⟨⟩
      rw [PipelineEvent.startsPass, hjob, Option.any_some, Bool.or_eq_true, not_or, decide_eq_true_eq,
        decide_eq_true_eq] at hpass
      exact hpass
    | batchDownload profileId ids => exact steady_start h (fun _ _ heq => by cases heq) hpipeline
    | manualUpload profileId names => exact steady_start h (fun _ _ heq => by cases heq) hpipeline
    | advance i reply =>
      obtain ⟨process, hi, β, op, k, r, hop, hrun, rfl⟩ := Pipeline.advance_spec hpipeline
      intro p hp
      rcases Pipeline.mem_called hp with rfl | hold
      · exact makesJobs_call (h process (List.mem_of_getElem? hi)) hop r.1
      · exact h p hold
    | crash i =>
      obtain ⟨process, hi, rfl⟩ := Option.map_eq_some_iff.1 hpipeline
      intro p hp
      rcases List.mem_or_eq_of_mem_set hp with hold | rfl
      · exact h p hold
      · unfold Process.MakesJobs
        split <;> exact calls_pure ()
    | work id work =>
      obtain rfl := Option.some.inj hpipeline
      exact h
    | configure sources settings appSettings =>
      obtain rfl := Option.some.inj hpipeline
      exact h
    | changeFiles files =>
      obtain rfl := Option.some.inj hpipeline
      exact h

/-- Of the jobs that a step makes, only those of requests can lack the flag, and they do. -/
theorem makes_cases {event : PolicyEvent} (h : w.Steady) (hjob : job ∈ w.makes host event) :
    (job.byRequest = false → job.demanded = true → flagged job.payload = true) ∧
      (job.byRequest = true → flagged job.payload = false) := by
  cases event with
  | pass replies =>
    rw [makes] at hjob
    cases hrun : runSerially host (checkForEpisodes host) replies w.library with
    | none =>
      rw [hrun] at hjob
      cases hjob
    | some r =>
      rw [hrun, Option.elim_some] at hjob
      obtain ⟨hrequest, hflag⟩ := flagged_passMakes hrun hjob
      rw [hrequest]
      exact ⟨fun _ => hflag, fun htrue => absurd htrue Bool.false_ne_true⟩
  | work event =>
    cases event with
    | advance i reply =>
      rw [makes] at hjob
      cases hi : w.pipeline.processes[i]? with
      | none =>
        rw [hi] at hjob
        cases hjob
      | some process =>
        rw [hi, Option.elim_some] at hjob
        exact flagged_callMakes (h process (List.mem_of_getElem? hi)) hjob
    | _ => cases hjob

theorem step_created {event : PolicyEvent} (hstep : w.step host event = some t) :
    t.created = w.makes host event ++ w.created := by
  cases event with
  | pass replies =>
    obtain ⟨r, -, rfl⟩ := Option.map_eq_some_iff.1 hstep
    rfl
  | work event =>
    obtain ⟨-, hstep⟩ := Option.ite_none_left_eq_some.1 hstep
    obtain ⟨pipeline, -, rfl⟩ := Option.map_eq_some_iff.1 hstep
    rfl

theorem complies_step {event : PolicyEvent} (hsteady : w.Steady) (h : w.Complies)
    (hstep : w.step host event = some t) : t.Complies ↔ w.RequestsExempt host event := by
  rw [Complies, step_created hstep, List.forall_mem_append]
  constructor
  · rintro ⟨hnew, -⟩ job hjob hrequest
    obtain ⟨-, hunflagged⟩ := makes_cases hsteady hjob
    rw [Bool.eq_false_iff]
    intro hdemanded
    have hflagged := hnew job hjob hdemanded
    rw [hunflagged hrequest] at hflagged
    cases hflagged
  · intro hexempt
    refine ⟨?_, h⟩
    intro job hjob hdemanded
    apply (makes_cases hsteady hjob).1 _ hdemanded
    rw [Bool.eq_false_iff]
    intro hrequest
    rw [hexempt job hjob hrequest] at hdemanded
    cases hdemanded

/-- An event that cannot happen makes no job. -/
theorem makes_disabled {event : PolicyEvent} (h : w.step host event = none) :
    w.makes host event = [] := by
  cases event with
  | pass replies =>
    rw [makes, Option.map_eq_none_iff.1 h]
    rfl
  | work event =>
    cases event with
    | advance i reply =>
      have hadvance : w.pipeline.advance host i reply = none := Option.map_eq_none_iff.1 h
      rw [makes]
      rw [Pipeline.advance] at hadvance
      cases hi : w.pipeline.processes[i]? with
      | none => rfl
      | some process =>
        rw [hi, Option.bind_some] at hadvance
        rw [Option.elim_some, callMakes]
        cases hprogram : process.program with
        | done a => rfl
        | raise e => rfl
        | call op k =>
          rw [hprogram] at hadvance
          dsimp only at hadvance ⊢
          have hrun := Option.map_eq_none_iff.1 hadvance
          cases op with
          | createJob args => cases hrun
          | _ => rfl
    | _ => rfl

end PolicyHistory

/-- However requests, passes and workers go on, every job that the policy demands to screen is told so
exactly when none of them is made by a request. -/
theorem policy_kept_iff (host : Host) (library : Library) (events : List PolicyEvent) :
    Along (PolicyHistory.step host) (PolicyHistory.RequestsExempt host) (.initial library) events ↔
      ∀ events₁ events₂ w, events = events₁ ++ events₂ →
        exec (PolicyHistory.step host) (.initial library) events₁ = some w → w.Complies := by
  apply along_iff_always (fun w event t => PolicyHistory.steady_step)
  · exact fun w event t hsteady h hstep => PolicyHistory.complies_step hsteady h hstep
  · intro w event h job hjob
    rw [PolicyHistory.makes_disabled h] at hjob
    cases hjob
  · exact fun process hprocess => absurd hprocess List.not_mem_nil
  · exact fun job hjob => absurd hjob List.not_mem_nil

/-- A source that has its media screened, a row of it, and the setting for uploads is on. -/
def policyLibrary : Library :=
  { Library.empty with
    sources := AList.insert 1 { podcastSource with deleteExplicitContent := true } ∅
    settings := AList.insert ("p", "manual_upload_delete_explicit_content") "1" ∅
    downloads := Library.empty.downloads.create [("profile_id", .string "p"),
      ("source_type", .string "podcast"), ("source_name", .string "N"), ("item_uid", .string "a"),
      ("title", .string "A"), ("media_url", .string "https://m/a.mp3")] }

/-- The row is downloaded again. -/
def batchEvents : List PolicyEvent :=
  .work (.batchDownload "p" [1]) :: List.replicate 2 (.work (.advance 0 {}))

/-- An audio file is uploaded. -/
def uploadEvents : List PolicyEvent :=
  .work (.manualUpload "p" ["a.mp3"]) ::
    ([{}, {}, {}, { size := 7, rounds := 1 }, {}, {}, {}] : List Reply).map fun reply =>
      .work (.advance 0 reply)

theorem not_complies {w : PolicyHistory}
    (h : (w.created.any fun job => job.demanded && !flagged job.payload) = true) : ¬w.Complies := by
  intro hcomplies
  obtain ⟨job, hjob, hboth⟩ := List.any_eq_true.1 h
  rw [Bool.and_eq_true, Bool.not_eq_true'] at hboth
  have hflagged := hcomplies job hjob hboth.1
  rw [hboth.2] at hflagged
  cases hflagged

theorem requests_unscreened :
    (∃ w, exec (PolicyHistory.step .plain) (.initial policyLibrary) batchEvents = some w ∧ ¬w.Complies) ∧
    ∃ w, exec (PolicyHistory.step .plain) (.initial policyLibrary) uploadEvents = some w ∧
      ¬w.Complies := by
  have hbatch : (exec (PolicyHistory.step .plain) (.initial policyLibrary) batchEvents).any
      (fun w => w.created.any fun job => job.demanded && !flagged job.payload) = true := by
    decide +kernel
  have hupload : (exec (PolicyHistory.step .plain) (.initial policyLibrary) uploadEvents).any
      (fun w => w.created.any fun job => job.demanded && !flagged job.payload) = true := by
    decide +kernel
  obtain ⟨w, hw, hany⟩ := (Option.any_eq_true _ _).1 hbatch
  obtain ⟨w', hw', hany'⟩ := (Option.any_eq_true _ _).1 hupload
  exact ⟨⟨w, hw, not_complies hany⟩, w', hw', not_complies hany'⟩

end GetOffline
