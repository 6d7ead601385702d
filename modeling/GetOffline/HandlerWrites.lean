import GetOffline.ConversionCalls
import GetOffline.ScreeningEffects

set_option autoImplicit true

namespace GetOffline
open Python Effects Program

/-- What the process of a job may call: what one that moves media along may, and what belongs to
screening. -/
def HandlerOp.Produces (jobId : Nat) (job : Job) : HandlerOp β → Prop
  | .createJob args => FollowUp job.payload.dict (args.payload.getD [])
  | .saveTouch id copy => id = jobId ∧ Touched job copy
  | .updateOrCreateDownload lookup defaults => MakesRow job.payload.dict lookup defaults
  | .saveDownload _ fields => KeepsKey fields
  | _ => True

/-- What is asked of the rows and jobs that any process writes. -/
def HandlerOp.Orderly : HandlerOp β → Prop
  | .createJob args => Deferred (args.payload.getD [])
  | .saveTouch _ copy => Deferred copy.payload.dict
  | .updateOrCreateDownload lookup defaults => (∃ key : EpisodeKey, lookup = key.lookup) ∧ KeepsKey defaults
  | .saveDownload _ fields => KeepsKey fields
  | _ => True

theorem HandlerOp.HandsOn.produces {op : HandlerOp β} (h : op.HandsOn jobId job) :
    op.Produces jobId job := by
  cases op <;> first | exact h | trivial

theorem HandlerOp.Produces.orderly {op : HandlerOp β} (h : op.Produces jobId job)
    (hd : Deferred job.payload.dict) : op.Orderly := by
  cases op with
  | createJob args => exact h.deferred hd
  | saveTouch id copy => exact hd.touched h.2
  | updateOrCreateDownload lookup defaults => exact h hd
  | saveDownload id fields => exact h
  | _ => trivial

theorem HandlerOp.Orderly.keepsRows {op : HandlerOp β} (h : op.Orderly) : op.KeepsRows := by
  cases op <;> first | exact h | trivial

abbrev Produces (jobId : Nat) (job : Job) (p : Handler α) : Prop :=
  p.Calls fun op => op.Produces jobId job

theorem HandsOn.produces {p : Handler α} (h : HandsOn jobId job p) : Produces jobId job p :=
  h.mono (fun _ hop => hop.produces) fun _ _ => trivial

theorem Calm.produces {p : Handler α} (h : Calm jobId job p) : Produces jobId job p :=
  h.handsOn.produces

theorem Quiet.produces {p : Handler α} (h : Quiet p) (jobId : Nat) (job : Job) : Produces jobId job p :=
  (h.handsOn jobId job).produces

theorem Asks.produces {p : Handler α} (h : Asks p) (jobId : Nat) (job : Job) : Produces jobId job p :=
  h.quiet.produces jobId job

section
variable {host : Host} {jobId : Nat} {job : Job} {lookup defaults : Columns}

theorem produces_insertScreened (h : MakesRow job.payload.dict lookup defaults) (profileId : String)
    (subtitlePath : Path) : Produces jobId job (insertScreened host profileId lookup defaults subtitlePath) := by
  apply Calls.bind ((asks_downloadOutputRoot host profileId).produces jobId job)
  intro outputRoot
  apply Calls.bind (calls_perform (h.update (keepsKey_subtitleColumns subtitlePath outputRoot)))
  intro download
  apply Calls.bind (calls_perform trivial)
  intro segments
  apply Calls.bind (calls_perform trivial)
  exact fun _ => calls_pure _

theorem produces_insertFiltered (h : MakesRow job.payload.dict lookup defaults) :
    Produces jobId job (insertFiltered lookup defaults) := by
  apply Calls.bind (calls_perform trivial)
  intro completedAt
  apply Calls.bind (calls_perform trivial)
  intro lastSeenAt
  apply Calls.bind (calls_perform (h.update (keepsKey_filteredColumns completedAt lastSeenAt)))
  exact fun _ => calls_pure _

theorem produces_screenSubtitle (h : MakesRow job.payload.dict lookup defaults) (profileId : String)
    (media : Path) (subtitle : Option Path) :
    Produces jobId job (screenSubtitle host profileId media lookup defaults subtitle) := by
  have hdelete : Produces jobId job (do
      perform (.deleteMediaArtifacts media (.lookup lookup))
      return none : Handler (Option Download)) :=
    Calls.bind (calls_perform trivial) fun _ => calls_pure _
  cases subtitle with
  | none => exact hdelete
  | some subtitlePath =>
    apply Calls.bind
    · apply Calls.tryCatch
      · exact Calls.bind (calls_perform trivial) fun _ => calls_pure _
      · exact fun _ => calls_pure _
    · intro screened
      cases screened with
      | none => exact hdelete
      | some explicitMatch =>
        cases explicitMatch with
        | some explicitMatch =>
          apply Calls.bind (calls_perform trivial)
          intro _
          exact Calls.bind (produces_insertFiltered h) fun _ => calls_pure _
        | none => exact Calls.bind (produces_insertScreened h profileId subtitlePath) fun _ => calls_pure _

theorem produces_screenDeferredVideoBeforeInsert (h : MakesRow job.payload.dict lookup defaults)
    (profileId : String) (media : Path) (payload : Columns) : Produces jobId job
      (screenDeferredVideoBeforeInsert host profileId media lookup defaults payload) := by
  apply Calls.bind ((asks_subtitleOffset host payload none).produces jobId job)
  intro offset
  apply Calls.bind ((asks_profileSetting profileId _ _).produces jobId job)
  intro mode
  apply Calls.bind (calls_perform trivial)
  exact fun subtitle => produces_screenSubtitle h profileId media subtitle

theorem produces_markFiltered (id : Nat) : Produces jobId job (markFiltered id) := by
  apply Calls.bind (calls_perform trivial)
  intro lastSeenAt
  apply calls_perform
  exact KeepsKey.of_keys ["download_status", "last_seen_at"] rfl (by decide)

theorem produces_saveTranscript (profileId : String) (payload : Columns) (download : Download)
    (media subtitle : Path) :
    Produces jobId job (saveTranscript host profileId payload download media subtitle) := by
  apply Calls.bind ((asks_downloadOutputRoot host profileId).produces jobId job)
  intro outputRoot
  apply Calls.bind (calls_perform (keepsKey_subtitleColumns subtitle outputRoot))
  intro _
  apply Calls.bind (calls_perform trivial)
  intro segments
  apply Calls.bind (calls_perform trivial)
  intro _
  apply Calls.bind (calls_perform trivial)
  intro _
  apply calls_when
  apply Calls.bind (Calls.tryCatch (calls_perform trivial) fun _ => calls_pure _)
  intro screened
  apply calls_when
  apply Calls.bind (calls_perform trivial)
  intro _
  apply Calls.bind (calls_perform trivial)
  exact fun _ => produces_markFiltered download.id

theorem produces_generateDownloadTranscript (payload : Columns) (download : Download) :
    Produces jobId job (generateDownloadTranscript host jobId job payload download) := by
  apply Calls.bind (calm_touchActive jobId job _ _).produces
  intro _
  apply Calls.bind (calls_perform trivial)
  intro node
  apply Calls.bind
  · exact yields_ite (fun _ => calls_pure _) fun _ => (quiet_ensureLocalMedia _ _ _).produces _ _
  · intro mediaPath
    apply Calls.bind (calls_perform trivial)
    intro media
    apply calls_when
    apply Calls.bind ((asks_subtitlesEnabledForDownload host download payload).produces _ _)
    intro enabled
    apply Calls.bind ((asks_subtitleOffsetForDownload host download payload).produces _ _)
    intro offset
    apply Calls.bind ((asks_profileSetting _ _ _).produces _ _)
    intro mode
    apply Calls.bind (calls_perform trivial)
    intro subtitle
    cases subtitle with
    | some subtitlePath => exact produces_saveTranscript _ _ _ _ _
    | none =>
      apply calls_when
      apply Calls.bind (calls_perform trivial)
      exact fun _ => produces_markFiltered download.id

theorem produces_generateDeferredTranscriptScreening :
    Produces jobId job (generateDeferredTranscriptScreening host jobId job job.payload.dict) := by
  unfold generateDeferredTranscriptScreening
  cases hlookup : payloadObject "deferred_download_lookup" job.payload.dict with
  | none => exact calls_pure _
  | some lookup =>
    cases hdefaults : payloadObject "deferred_download_defaults" job.payload.dict with
    | none => exact calls_pure _
    | some defaults =>
      have hrow : MakesRow job.payload.dict lookup defaults := by
        intro hd
        exact ⟨hd.lookups _ (List.mem_cons_of_mem _ List.mem_cons_self) lookup hlookup,
          hd.defaults _ (List.mem_cons_of_mem _ List.mem_cons_self) defaults hdefaults⟩
      apply yields_ite
      · intro _
        apply Calls.tryFinally
        · apply Calls.bind (calm_touchActive jobId job _ _).produces
          intro _
          exact Calls.bind (produces_screenDeferredVideoBeforeInsert hrow _ _ _) fun _ => calls_pure _
        · apply calls_when
          exact Calls.bind ((quiet_deleteFfmpegSourceFiles _ _ _).produces _ _) fun _ => calls_pure _
      · exact fun _ => calls_pure _

/-- What is asked of the calls of a job's process, and nothing else. -/
def producesRules (jobId : Nat) (job : Job) : Rules where
  permits _ _ op := op.Produces jobId job
  answers _ _ _ _ := True
  ends _ := True

/-- What the payload of a conversion hands on. -/
def DownloadResult.FollowsUp (payload : Columns) : DownloadResult → Prop
  | .conversion next => FollowUp payload next
  | _ => True

namespace Arrival
variable (a : Arrival host job.profileId job.payload.dict)

theorem makesRow : MakesRow job.payload.dict a.lookup a.defaults :=
  fun _ => ⟨⟨a.key, rfl⟩, a.keepsKey_defaults⟩

theorem makesRow_times : MakesRow job.payload.dict a.lookup (a.defaults ++ timeColumns a.now) :=
  fun _ => ⟨⟨a.key, rfl⟩, a.keepsKey_row⟩

theorem followUp_set (id : Nat) :
    FollowUp job.payload.dict (Json.set "download_id" (.int id) a.conversion) where
  flagged h := h
  deferred _ := .of_keys ["source_file_path", "source_file_paths", "target_file_path", "output_root",
    "media_type", "subtitles", "subtitle_offset_seconds", "source_type", "recent_download",
    "delete_explicit_content", "item_uid", "download_id"] rfl (by decide)

theorem followUp_update : FollowUp job.payload.dict (Json.update
    [("download_lookup", .object a.lookup), ("download_defaults", .object a.defaults)] a.conversion) where
  flagged h := h
  deferred _ := by
    constructor
    · intro key hkey lookup hlookup
      rcases List.mem_pair.1 hkey with rfl | rfl
      · obtain rfl := eq_of_payloadObject rfl hlookup
        exact ⟨a.key, rfl⟩
      · cases hlookup
    · intro key hkey defaults hdefaults
      rcases List.mem_pair.1 hkey with rfl | rfl
      · obtain rfl := eq_of_payloadObject rfl hdefaults
        exact a.keepsKey_defaults
      · cases hdefaults

theorem yields_store : a.store.Yields (fun op => op.Produces jobId job)
    (DownloadResult.FollowsUp job.payload.dict) := by
  have hprepare : (prepareConversion a.conversion a.lookup a.defaults (timeColumns a.now)
      a.mediaKind).Yields (fun op => op.Produces jobId job) (DownloadResult.FollowsUp job.payload.dict) := by
    apply yields_ite
    · intro _
      apply Yields.bind (calls_perform a.makesRow_times)
      exact fun download _ => yields_pure (a.followUp_set download.id)
    · exact fun _ => yields_pure a.followUp_update
  have hkeep : (keepDownloadedFile host job.profileId job.payload.dict a.lookup
      (a.defaults ++ timeColumns a.now) a.mediaKind a.file).Yields (fun op => op.Produces jobId job)
      (DownloadResult.FollowsUp job.payload.dict) := by
    apply yields_ite
    · intro _
      apply Yields.bind (produces_screenDeferredVideoBeforeInsert a.makesRow_times _ _ _)
      intro saved _
      cases saved <;> exact yields_pure trivial
    · intro _
      exact Yields.bind (calls_perform a.makesRow_times) fun _ _ => yields_pure trivial
  rw [store]
  cases a.converted with
  | true => exact hprepare
  | false => exact hkeep

end Arrival

theorem yields_downloadWithYtDlp : (downloadWithYtDlp host jobId job job.payload.dict).Yields
    (fun op => op.Produces jobId job) (DownloadResult.FollowsUp job.payload.dict) := by
  have hmeets : (downloadWithYtDlp host jobId job job.payload.dict).Meets
      (producesRules jobId job).contract
      (Returns fun result _ => DownloadResult.FollowsUp job.payload.dict result) [] := by
    apply downloadWithYtDlp_meets
    · exact fun _ _ _ hop => hop.handsOn.produces
    · intro a past' _
      apply (Yields.extends a.yields_store (fun _ _ _ hop => hop) past').mono
      exact fun r past'' h => h.2
    · exact fun past' _ => returns_ok trivial
    · exact fun e past' _ => returns_error _ e past'
  apply hmeets.yields
  · exact fun _ _ hop => hop
  · exact fun op past r => ⟨past ++ [⟨op, r⟩], trivial, rfl⟩
  · exact fun result past h => h result rfl

variable (host jobId job) in
theorem produces_downloadEpisode : Produces jobId job (downloadEpisode host jobId job) := by
  apply yields_ite
  · exact fun _ => (handsOn_continueDownload host jobId job _).produces
  · intro _
    apply Yields.bind yields_downloadWithYtDlp
    intro result hresult
    cases result with
    | skipped => exact calls_pure _
    | conversion payload =>
      have hnext : FollowUp job.payload.dict payload := hresult
      apply HandsOn.produces
      unfold enqueueTranscodeJob
      exact handsOn_createAndPublish hnext
    | row download => exact (handsOn_continueDownload host jobId job _).produces

variable (host jobId job) in
theorem produces_generateTranscript : Produces jobId job (generateTranscript host jobId job) := by
  apply yields_ite
  · intro _
    apply Calls.bind (calls_perform trivial)
    intro found
    cases found with
    | some download => exact produces_generateDownloadTranscript _ download
    | none => exact calls_pure _
  · intro _
    apply yields_ite
    · exact fun _ => produces_generateDeferredTranscriptScreening
    · exact fun _ => calls_pure _

end

abbrev Orderly (p : Handler α) : Prop :=
  p.Calls fun op => op.Orderly

theorem HandlerOp.IsQuiet.orderly {op : HandlerOp β} (h : op.IsQuiet) : op.Orderly := by
  cases op <;> trivial

theorem Quiet.orderly {p : Handler α} (h : Quiet p) : Orderly p :=
  h.mono (fun _ hop => hop.orderly) fun _ _ => trivial

theorem Produces.orderly {p : Handler α} (h : Produces jobId job p) (hd : Deferred job.payload.dict) :
    Orderly p :=
  h.mono (fun _ hop => hop.orderly hd) fun _ _ => trivial

section
variable {host : Host}

theorem orderly_createAndPublish {args : JobArgs} (h : Deferred (args.payload.getD [])) :
    Orderly (createAndPublish args) :=
  Calls.bind (calls_perform h) fun _ => calls_perform trivial

theorem deferred_episodeArgs (profileId : String) (id : Nat) (source : SourceConfig) (limit : Nat)
    (itemUid itemUrl title key : String) (candidate : Columns) : Deferred ((episodeArgs profileId id source
      limit itemUid itemUrl title key candidate).payload.getD []) :=
  .of_keys ["source_id", "source_type", "source_name", "source_url", "media_type",
    "source_max_downloads", "item_uid", "item_url", "media_url", "title", "published", "subtitles",
    "subtitle_offset_seconds", "delete_explicit_content", "include_shorts", "include_livestreams"] rfl
    (by decide)

theorem deferred_redownloadArgs (profileId : String) (download : Download) :
    Deferred ((redownloadArgs host profileId download).payload.getD []) :=
  .of_keys ["source", "url", "source_type", "source_name", "item_uid", "item_id", "title", "media_type",
    "subtitles", "redownload"] rfl (by decide)

theorem orderly_enqueueEpisode (profileId : String) (id : Nat) (source : SourceConfig) (limit : Nat)
    (itemUid itemUrl title : String) (candidate : Columns) :
    Orderly (enqueueEpisode host profileId id source limit itemUid itemUrl title candidate) := by
  apply Calls.bind (calls_perform trivial)
  intro found
  cases found with
  | none => exact orderly_createAndPublish (deferred_episodeArgs _ _ _ _ _ _ _ _ _)
  | some found =>
    apply Calls.bind (calls_perform trivial)
    intro now
    apply Calls.bind (calls_ofExcept _)
    intro wasStale
    apply Calls.bind
    · apply calls_when
      exact Calls.bind (calls_perform trivial) fun _ => calls_perform trivial
    · exact fun _ => calls_when (calls_perform trivial)

theorem quiet_episodeWasDownloaded (profileId : String) (source : SourceConfig)
    (itemUid itemUrl title : String) :
    Quiet (episodeWasDownloaded profileId source itemUid itemUrl title) := by
  have hknown (column text : String) : Quiet (if text = "" then (pure false : Handler Bool)
      else perform (.downloadExists (sourceColumns profileId source ++ [(column, .string text)]))) :=
    yields_ite (fun _ => calls_pure _) fun _ => calls_perform trivial
  apply Calls.bind (hknown "item_uid" itemUid)
  intro known
  apply yields_ite
  · exact fun _ => calls_pure _
  · intro _
    apply Calls.bind (hknown "item_url" itemUrl)
    intro known
    exact yields_ite (fun _ => calls_pure _) fun _ => hknown "title" title

theorem orderly_checkCandidates (profileId : String) (id : Nat) (source : SourceConfig) (limit : Nat)
    (failure : Option String) (candidates : List Columns) (enqueued : Nat) :
    Orderly (checkCandidates host profileId id source limit failure candidates enqueued) := by
  induction candidates generalizing enqueued with
  | nil => cases failure <;> first | exact calls_pure _ | exact calls_raise _
  | cons candidate candidates ih =>
    apply yields_ite
    · exact fun _ => calls_pure _
    · intro _
      apply Calls.bind (quiet_episodeWasDownloaded _ _ _ _ _).orderly
      intro known
      apply yields_ite
      · exact fun _ => ih enqueued
      · intro _
        exact Calls.bind (orderly_enqueueEpisode _ _ _ _ _ _ _ _) fun _ => ih (enqueued + 1)

theorem quiet_sourceLimit (source : SourceConfig) : Quiet (sourceLimit source) := by
  have hdefault : Quiet (do
      let profileDefault := strip ((← perform
        (.profileSetting source.profileId "max_downloads")).getD "")
      if isDigit profileDefault then
        let limit ← ofExcept (intOfText profileDefault)
        return (max 1 limit).toNat
      else return 10 : Handler Nat) := by
    apply Calls.bind (calls_perform trivial)
    intro value
    apply yields_ite
    · exact fun _ => Calls.bind (calls_ofExcept _) fun _ => calls_pure _
    · exact fun _ => calls_pure _
  unfold sourceLimit
  split
  · exact calls_pure _
  · exact calls_pure _
  · exact hdefault

theorem orderly_checkForEpisodes (host : Host) : Orderly (checkForEpisodes host) := by
  apply Calls.bind (calls_perform trivial)
  intro profileIds
  apply Calls.foldlM
  intro _ profileId
  apply Calls.bind (calls_perform trivial)
  intro sources
  apply Calls.foldlM
  intro _ source
  apply Calls.bind (quiet_sourceLimit source.2).orderly
  intro limit
  apply Calls.bind (calls_perform trivial)
  exact fun candidates => orderly_checkCandidates _ _ _ _ _ _ _

theorem orderly_batchDownload (host : Host) (profileId : String) (ids : List Nat) :
    Orderly (batchDownload host profileId ids) := by
  apply Calls.bind (calls_perform trivial)
  intro rows
  apply Calls.foldlM
  exact fun _ row => orderly_createAndPublish (deferred_redownloadArgs profileId row)

/-- Every job says of a row to be only what makes one. -/
def Database.Orderly (db : Database) : Prop :=
  ∀ i job, db.jobs.lookup i = some job → Deferred job.payload.dict

theorem orderly_run {op : HandlerOp β} {reply : Reply} {s : Library} {r : Except Error β × Library}
    (hop : op.Orderly) (h : op.run host reply s = some r) (hjobs : s.database.Orderly) :
    r.2.database.Orderly := by
  intro i job hrow
  rcases job_run h hrow with ⟨old, hold, -, hpayload⟩ |
    ⟨args, answer, createdAt, updatedAt, hcall, -, rfl⟩ | ⟨copy, answer, old, hcall, -, rfl⟩
  · rw [hpayload]
    exact hjobs i old hold
  · cases hcall
    exact hop
  · cases hcall
    exact hop

/-- Whatever job a worker starts on, it writes no more than it may. -/
theorem orderly_jobHandler {i : Nat} {job : Job} {program : Handler Unit} (hd : Deferred job.payload.dict)
    (h : jobHandler host i job = some program) : Orderly program := by
  unfold jobHandler at h
  split at h
  · obtain rfl := Option.some.inj h
    exact orderly_checkForEpisodes host
  · obtain rfl := Option.some.inj h
    exact orderly_checkForEpisodes host
  · obtain rfl := Option.some.inj h
    exact (produces_downloadEpisode host i job).orderly hd
  · obtain rfl := Option.some.inj h
    exact (produces_downloadEpisode host i job).orderly hd
  · obtain rfl := Option.some.inj h
    exact (handsOn_transcodeMedia host i job).produces.orderly hd
  · obtain rfl := Option.some.inj h
    exact (produces_generateTranscript host i job).orderly hd
  · cases h

end

end GetOffline
