import GetOffline.ScreeningFlow

set_option autoImplicit true

namespace GetOffline
open Python Effects Program

theorem eq_of_payloadObject {key : String} {payload : Columns}
    (hget : Json.get key payload = some (.object items)) (h : payloadObject key payload = some dict) :
    dict = items := by
  unfold payloadObject at h
  rw [hget] at h
  cases items with
  | nil => cases h
  | cons item items => exact (Option.some.inj h).symm

theorem payloadObject_congr {key : String} {payload payload' : Columns}
    (h : Json.get key payload' = Json.get key payload) :
    payloadObject key payload' = payloadObject key payload := by
  rw [payloadObject, payloadObject, h]

/-- The job that screens a converted video carries what it has to. -/
theorem carries_deferredTranscriptArgs (host : Host) (exposed : Json → Prop) (profileId : String)
    (payload : Columns) (key : EpisodeKey) {defaults : Columns} (hkeeps : KeepsKey defaults)
    (sourcePaths : List Path) (targetPath outputRoot : Path) (outputSize : Nat)
    (completedAt lastSeenAt : Instant) (mediaKind : String) :
    Carries host exposed "generate_transcript" ((deferredTranscriptArgs host profileId payload key.lookup
      (Json.update (convertedColumns targetPath outputRoot outputSize completedAt lastSeenAt) defaults)
      sourcePaths targetPath mediaKind).payload.getD []) where
  kind := by decide
  saved hpk := absurd hpk Bool.false_ne_true
  download htype := absurd htype (by decide)
  conversion htype := absurd htype (by decide)
  screening _ lookup defaults' hlookup hdefaults := by
    obtain rfl := eq_of_payloadObject rfl hlookup
    obtain rfl := eq_of_payloadObject rfl hdefaults
    have hconverted :=
      keepsKey_convertedColumns targetPath outputRoot outputSize completedAt lastSeenAt
    refine ⟨⟨key, rfl⟩, hconverted.update hkeeps, targetPath.str, ?_, rfl⟩
    rw [Json.get_update_of_nodup hconverted.nodup]
    rfl

section
variable {host : Host} {jobId : Nat} {job : Job} {past : List Record}

/-- The row that the job is about, if there is one. -/
theorem ownRow_meets (profileId : String) (past : List Record) :
    (if (downloadPk job.payload.dict).truthy = true then
        perform (.downloadById (downloadPk job.payload.dict) profileId)
      else pure none : Handler (Option Download)).Meets (screeningRules host jobId job).contract
      (Returns fun found past' => past ⊆ past' ∧
        ∀ download, found = some download → IsShown host job past' download.id) past := by
  apply meets_ite
  · intro hpk
    apply meets_perform trivial
    intro r past' h found hfound
    obtain ⟨htells, rfl⟩ := h
    refine ⟨List.subset_append_left _ _, ?_⟩
    intro download hdownload
    rw [hfound, hdownload] at htells
    exact .inl ⟨hpk, htells⟩
  · intro _
    apply meets_pure.2 (returns_ok _)
    refine ⟨List.Subset.refl past, ?_⟩
    intro download h
    cases h

def ShowsRow (host : Host) (job : Job) (saved : Option Download) (past : List Record) : Prop :=
  ∀ download, saved = some download → IsShown host job past download.id

theorem showsRow_none (host : Host) (job : Job) (past : List Record) : ShowsRow host job none past := by
  intro download h
  cases h

theorem ShowsRow.some {download : Download} (h : IsShown host job past download.id) :
    ShowsRow host job (some download) past := by
  intro download' hdownload
  obtain rfl := Option.some.inj hdownload
  exact h

theorem recordConversion_meets {download : Download} (hshown : IsShown host job past download.id)
    (sources : ConversionSources) (targetPath outputRoot : Path) (outputSize : Nat) :
    (recordConversion host (.row download) sources targetPath outputRoot outputSize).Meets
      (screeningRules host jobId job).contract (Returns (ShowsRow host job)) past := by
  have hnow : Quiet (perform .now) := calls_perform trivial
  apply Yields.bind_returns (Extends.refl past) hnow screens_quiet
  intro completedAt past₁ _ h₁
  apply Yields.bind_returns h₁ hnow screens_quiet
  intro lastSeenAt past₂ _ h₂
  have hpermits : (screeningRules host jobId job).permits past₂ (.saveDownload download.id
      (convertedColumns targetPath outputRoot outputSize completedAt lastSeenAt)) :=
    ⟨keepsKey_convertedColumns _ _ _ _ _, .inr (hshown.mono h₂.subset)⟩
  have hsave : (saveConversion (.row download) (convertedColumns targetPath outputRoot outputSize
      completedAt lastSeenAt)).Meets (screeningRules host jobId job).contract
      (Returns fun saved past' => past₂ ⊆ past' ∧ saved.id = download.id) past₂ := by
    apply perform_bind_returns hpermits
    intro _ _
    exact meets_pure.2 (returns_ok ⟨List.subset_append_left _ _, rfl⟩)
  apply Meets.bind_returns hsave
  intro saved past₃ h₃
  apply Yields.bind_returns (Extends.refl past₃)
    (quiet_deleteFfmpegSourceFiles host sources.all targetPath) screens_quiet
  intro _ past₄ _ h₄
  apply meets_pure.2 (returns_ok (ShowsRow.some _))
  rw [h₃.2]
  exact hshown.mono (List.Subset.trans h₂.subset (List.Subset.trans h₃.1 h₄.subset))

/-- What is known of a conversion's subject: the row may be seen, or the video is unscreened. -/
def ConversionSubject.Fits (host : Host) (job : Job) : ConversionSubject → List Record → Prop
  | .row download, past => IsShown host job past download.id
  | .deferred lookup defaults, _ =>
    Unscreened job.payload.dict ∧ (∃ key : EpisodeKey, lookup = key.lookup) ∧ KeepsKey defaults

theorem ConversionSubject.Fits.mono {subject : ConversionSubject} (h : subject.Fits host job past)
    (hsub : past ⊆ past') : subject.Fits host job past' := by
  cases subject with
  | row download => exact IsShown.mono h hsub
  | deferred lookup defaults => exact h

theorem convert_meets {subject : ConversionSubject} (h : subject.Fits host job past)
    (hkind : ∀ lookup defaults, subject = .deferred lookup defaults → mediaKind = "video")
    (profileId targetExt : String) (sources : ConversionSources) (targetPath : Path) :
    (convert host profileId job.payload.dict subject mediaKind targetExt sources targetPath).Meets
      (screeningRules host jobId job).contract (Returns (ShowsRow host job)) past := by
  apply Yields.bind_returns (Extends.refl past)
    (quiet_runConversion profileId mediaKind targetExt sources targetPath) screens_quiet
  intro outputSize past₁ _ h₁
  apply Yields.bind_returns h₁ (asks_conversionRoot host profileId job.payload.dict).quiet screens_quiet
  intro outputRoot past₂ _ h₂
  cases subject with
  | row download => exact recordConversion_meets (IsShown.mono h h₂.subset) _ _ _ _
  | deferred lookup defaults =>
    obtain ⟨hunscreened, ⟨key, rfl⟩, hkeeps⟩ := h
    apply meets_ite
    · intro _
      have hnow : Quiet (perform .now) := calls_perform trivial
      apply Yields.bind_returns h₂ hnow screens_quiet
      intro completedAt past₃ _ h₃
      apply Yields.bind_returns h₃ hnow screens_quiet
      intro lastSeenAt past₄ _ _
      apply Meets.bind_returns (createAndPublish_meets
        (carries_deferredTranscriptArgs host _ profileId _ key hkeeps _ _ _ _ _ _ _))
      exact fun _ _ _ => meets_pure.2 (returns_ok (showsRow_none host job _))
    · intro hnot
      exact absurd ⟨hkind _ _ rfl, hunscreened.flagged⟩ hnot

theorem convertSources_meets {subject : ConversionSubject} (h : subject.Fits host job past)
    (hkind : ∀ lookup defaults, subject = .deferred lookup defaults → mediaKind = "video")
    (profileId targetExt : String) (sources : ConversionSources) (targetPath : Path) :
    (convertSources host profileId job.payload.dict subject mediaKind targetExt sources targetPath).Meets
      (screeningRules host jobId job).contract (Returns (ShowsRow host job)) past := by
  have hpresent {past : List Record} (hfits : subject.Fits host job past) (sources : ConversionSources)
      (targetPath : Path) (missing : List Path) :
      (convertPresent host profileId job.payload.dict subject mediaKind targetExt sources targetPath
        missing).Meets (screeningRules host jobId job).contract (Returns (ShowsRow host job)) past := by
    cases missing with
    | nil => exact convert_meets hfits hkind profileId targetExt sources targetPath
    | cons path paths => exact meets_raise.2 (returns_error _ _ _)
  apply Yields.bind_returns (Extends.refl past) (asks_missingPaths Option.isSome sources.all).quiet
    screens_quiet
  intro missing past₁ _ h₁
  cases subject with
  | deferred lookup defaults => exact hpresent (h.mono h₁.subset) sources targetPath missing
  | row download =>
    apply meets_ite
    · exact fun _ => hpresent (h.mono h₁.subset) sources targetPath missing
    · intro _
      have hnode : Quiet (perform (.node targetPath)) := calls_perform trivial
      apply Yields.bind_returns h₁ hnode screens_quiet
      intro target past₂ _ h₂
      apply meets_ite
      · intro _
        exact meets_pure.2 (returns_ok (ShowsRow.some (IsShown.mono h h₂.subset)))
      · intro _
        apply Yields.bind_returns h₂ (quiet_fetchSources host download sources) screens_quiet
        intro sources past₃ _ h₃
        have htarget : Quiet (if hasTarget job.payload.dict then pure targetPath
            else targetPathOf sources.first targetExt) :=
          yields_ite (fun _ => calls_pure _) fun _ => calls_perform trivial
        apply Yields.bind_returns h₃ htarget screens_quiet
        intro targetPath past₄ _ h₄
        apply Yields.bind_returns h₄ (asks_missingPaths Node.isFile sources.all).quiet screens_quiet
        intro missing past₅ _ h₅
        exact hpresent (h.mono h₅.subset) sources targetPath missing

theorem convertOnce_meets {subject : ConversionSubject} (h : subject.Fits host job past)
    (hkind : ∀ lookup defaults, subject = .deferred lookup defaults → mediaKind = "video")
    (profileId targetExt : String) (sources : ConversionSources) (targetPath : Path) :
    (convertOnce host profileId job.payload.dict subject mediaKind targetExt sources targetPath).Meets
      (screeningRules host jobId job).contract (Returns (ShowsRow host job)) past := by
  apply Meets.bind_returns (ownRow_meets profileId past)
  intro refreshed past₁ h₁
  have hsources (past' : List Record) (hsub : past ⊆ past') :
      (convertSources host profileId job.payload.dict subject mediaKind targetExt sources targetPath).Meets
        (screeningRules host jobId job).contract (Returns (ShowsRow host job)) past' :=
    convertSources_meets (h.mono hsub) hkind profileId targetExt sources targetPath
  cases refreshed with
  | none => exact hsources past₁ h₁.1
  | some refreshed =>
    apply meets_ite
    · intro _
      have hnode : Quiet (perform (.node targetPath)) := calls_perform trivial
      apply Yields.bind_returns (Extends.refl past₁) hnode screens_quiet
      intro target past₂ _ h₂
      apply meets_ite
      · intro _
        exact meets_pure.2 (returns_ok (ShowsRow.some ((h₁.2 refreshed rfl).mono h₂.subset)))
      · exact fun _ => hsources past₂ (List.Subset.trans h₁.1 h₂.subset)
    · exact fun _ => hsources past₁ h₁.1

theorem withTranscodeLock_meets {body : Handler α} {S : α → List Record → Prop}
    (hS : ∀ a past past', S a past → past ⊆ past' → S a past')
    (hbody : ∀ past', Extends (fun op => op.IsQuiet) past past' →
      body.Meets (screeningRules host jobId job).contract (Returns S) past')
    (profileId : String) (payload : Columns) (owner : String) :
    (withTranscodeLock host profileId payload owner body).Meets (screeningRules host jobId job).contract
      (Returns S) past := by
  have hacquire : Quiet (perform (.acquireLock (transcodeLockKey host profileId payload) owner)) :=
    calls_perform trivial
  apply Yields.bind_returns (Extends.refl past) hacquire screens_quiet
  intro _ past₁ _ h₁
  apply Meets.tryFinally (hbody past₁ h₁)
  intro r past₂ hr
  have hrelease : Quiet (perform (.releaseLock (transcodeLockKey host profileId payload) owner)) :=
    calls_perform trivial
  apply (Yields.extends hrelease screens_quiet past₂).mono
  intro _ past₃ h₃
  constructor
  · exact fun e _ => returns_error S e past₃
  · exact fun _ a ha => hS a past₂ past₃ (hr a ha) h₃.1.subset

theorem conversionSubject_meets {exposed : Json → Prop}
    (h : Carries host exposed job.jobType job.payload.dict) (htype : job.jobType = "transcode_media")
    (profileId : String) (past : List Record) :
    (conversionSubject profileId job.payload.dict).Meets (screeningRules host jobId job).contract
      (Returns fun subject past' => ∀ s, subject = some s → ConversionSubject.Fits host job s past')
      past := by
  apply Meets.bind_returns (ownRow_meets profileId past)
  intro found past₁ h₁
  cases found with
  | some download =>
    apply meets_pure.2 (returns_ok _)
    intro subject hsubject
    obtain rfl := Option.some.inj hsubject
    exact h₁.2 download rfl
  | none =>
    have hnone : ∀ s : ConversionSubject, none = some s → s.Fits host job past₁ := by
      intro s hs
      cases hs
    cases hlookup : payloadObject "download_lookup" job.payload.dict with
    | none => exact meets_pure.2 (returns_ok hnone)
    | some lookup =>
      cases hdefaults : payloadObject "download_defaults" job.payload.dict with
      | none => exact meets_pure.2 (returns_ok hnone)
      | some defaults =>
        apply meets_pure.2 (returns_ok _)
        intro subject hsubject
        split at hsubject
        · obtain rfl := Option.some.inj hsubject
          exact h.conversion htype lookup defaults hlookup hdefaults
        · cases hsubject

theorem postprocessDownloadWithFfmpeg_meets {exposed : Json → Prop}
    (h : Carries host exposed job.jobType job.payload.dict) (htype : job.jobType = "transcode_media")
    (parentJobId : String) (past : List Record) :
    (postprocessDownloadWithFfmpeg host job.profileId job.payload.dict parentJobId).Meets
      (screeningRules host jobId job).contract (Returns (ShowsRow host job)) past := by
  apply Meets.bind_returns (conversionSubject_meets h htype job.profileId past)
  intro subject past₁ h₁
  cases subject with
  | none => exact meets_pure.2 (returns_ok (showsRow_none host job past₁))
  | some subject =>
    have hfits := h₁ subject rfl
    have hkind : (conversionKind host job.payload.dict subject).Yields (fun op => op.IsQuery)
        fun mediaKind => ∀ lookup defaults, subject = .deferred lookup defaults →
          mediaKind = "video" := by
      cases subject with
      | row download =>
        apply (asks_preferredMediaKind host download job.payload.dict).mono fun _ hop => hop
        intro mediaKind _ lookup defaults hsubject
        cases hsubject
      | deferred lookup defaults =>
        apply yields_pure
        intro _ _ _
        rw [hfits.1.video]
        rfl
    apply Yields.bind_returns (Extends.refl past₁) (hkind.mono (fun _ hop => hop.isQuiet) fun _ h => h)
      screens_quiet
    intro mediaKind past₂ hvideo h₂
    have hext : Quiet (if mediaKind = "audio" then pure "mp3"
        else preferredTargetExt job.profileId mediaKind) :=
      yields_ite (fun _ => calls_pure _) fun _ => (asks_preferredTargetExt _ _).quiet
    apply Yields.bind_returns h₂ hext screens_quiet
    intro targetExt past₃ _ h₃
    apply Yields.bind_returns h₃ (asks_conversionTarget host job.payload.dict subject _ targetExt).quiet
      screens_quiet
    intro targetPath past₄ _ h₄
    apply withTranscodeLock_meets
    · intro saved past past' hsaved hsub download hdownload
      exact (hsaved download hdownload).mono hsub
    · intro past₅ h₅
      exact convertOnce_meets (hfits.mono (List.Subset.trans h₄.subset h₅.subset)) hvideo _ _ _ _

theorem transcodeMedia_meets {exposed : Json → Prop}
    (h : Carries host exposed job.jobType job.payload.dict) (htype : job.jobType = "transcode_media") :
    (transcodeMedia host jobId job).Meets (screeningRules host jobId job).contract
      (Returns fun _ _ => True) [] := by
  apply Yields.bind_returns (Extends.refl []) (calm_touchActive jobId job _ _) screens_calm
  intro _ past₁ _ _
  apply Meets.bind_returns (postprocessDownloadWithFfmpeg_meets h htype _ past₁)
  intro saved past₂ hsaved
  cases saved with
  | none => exact meets_pure.2 (returns_ok trivial)
  | some download =>
    have hkind : Quiet (if ((Json.get "media_type" job.payload.dict).getD .null).truthy then
          pure (host.str ((Json.get "media_type" job.payload.dict).getD .null))
        else preferredMediaKind host download job.payload.dict) :=
      yields_ite (fun _ => calls_pure _) fun _ => (asks_preferredMediaKind _ _ _).quiet
    apply Yields.bind_returns (Extends.refl past₂) hkind screens_quiet
    intro mediaKind past₃ _ h₃
    have hexposed : IsExposed host job past₃ (.int download.id) :=
      ⟨download.id, rfl, (hsaved download rfl).mono h₃.subset⟩
    exact createAndPublish_meets (.of_saved "generate_transcript" hexposed (by decide) rfl rfl)

theorem markFiltered_meets (id : Nat) (past : List Record) :
    (markFiltered id).Meets (screeningRules host jobId job).contract (Returns fun _ _ => True) past := by
  have hnow : Quiet (perform .now) := calls_perform trivial
  apply Yields.bind_returns (Extends.refl past) hnow screens_quiet
  intro lastSeenAt past₁ _ _
  have hpermits : (screeningRules host jobId job).permits past₁ (.saveDownload id
      [("download_status", DownloadStatus.filtered.json), ("last_seen_at", timeJson lastSeenAt)]) := by
    refine ⟨.of_keys ["download_status", "last_seen_at"] rfl (by decide), .inl ?_⟩
    intro h
    have hvalue : "filtered" = "downloaded" := Json.string.inj (Option.some.inj h)
    exact absurd hvalue (by decide)
  exact meets_perform hpermits fun _ _ _ _ _ => trivial

theorem when_meets {condition : Bool} {p : Handler Unit}
    (hp : p.Meets (screeningRules host jobId job).contract (Returns fun _ _ => True) past) :
    (when condition p).Meets (screeningRules host jobId job).contract (Returns fun _ _ => True) past :=
  meets_ite (fun _ => hp) fun _ => meets_pure.2 (returns_ok trivial)

theorem saveTranscript_meets (profileId : String) (payload : Columns) (download : Download)
    (mediaPath subtitlePath : Path) (past : List Record) :
    (saveTranscript host profileId payload download mediaPath subtitlePath).Meets
      (screeningRules host jobId job).contract (Returns fun _ _ => True) past := by
  apply Yields.bind_returns (Extends.refl past) (asks_downloadOutputRoot host profileId).quiet
    screens_quiet
  intro outputRoot past₁ _ _
  have hpermits : (screeningRules host jobId job).permits past₁ (.saveDownload download.id
      (subtitleColumns subtitlePath outputRoot)) := by
    refine ⟨keepsKey_subtitleColumns subtitlePath outputRoot, .inl ?_⟩
    intro h
    cases h
  apply perform_bind_returns hpermits
  intro _ _
  have hsegments : Quiet (perform (.subtitleSegments subtitlePath)) := calls_perform trivial
  apply Yields.bind_returns (Extends.refl _) hsegments screens_quiet
  intro segments past₂ _ h₂
  have hdelete : Quiet (perform (.deleteSegments download.id)) := calls_perform trivial
  apply Yields.bind_returns h₂ hdelete screens_quiet
  intro _ past₃ _ h₃
  have hcreate : Quiet (perform (.createSegments download.id subtitlePath.str segments)) :=
    calls_perform trivial
  apply Yields.bind_returns h₃ hcreate screens_quiet
  intro _ past₄ _ _
  apply when_meets
  have hscreen : (Program.tryCatch (perform (.screenTranscript subtitlePath)) fun _ => return none :
      Handler (Option ExplicitContentMatch)).Meets (screeningRules host jobId job).contract
      (Returns fun _ _ => True) past₄ := by
    have hcall : (perform (.screenTranscript subtitlePath)).Meets
        (screeningRules host jobId job).contract (fun _ _ => True) past₄ :=
      meets_perform trivial fun _ _ _ => trivial
    apply hcall.tryCatch
    · exact fun _ _ _ => returns_ok trivial
    · exact fun _ _ _ => meets_pure.2 (returns_ok trivial)
  apply Meets.bind_returns hscreen
  intro screened past₅ _
  apply when_meets
  apply perform_bind_returns trivial
  intro _ _
  apply Yields.bind_returns (Extends.refl _) hdelete screens_quiet
  exact fun _ past₆ _ _ => markFiltered_meets download.id past₆

theorem generateDownloadTranscript_meets (download : Download) (past : List Record) :
    (generateDownloadTranscript host jobId job job.payload.dict download).Meets
      (screeningRules host jobId job).contract (Returns fun _ _ => True) past := by
  apply Yields.bind_returns (Extends.refl past) (calm_touchActive jobId job _ _) screens_calm
  intro _ past₁ _ h₁
  have hnode (path : Path) : Quiet (perform (.node path)) := calls_perform trivial
  apply Yields.bind_returns h₁ ((hnode _).calm jobId job) screens_calm
  intro node past₂ _ h₂
  have hmedia (path : Path) : Quiet (if Node.isFile node then pure path
      else ensureLocalMedia host download path) :=
    yields_ite (fun _ => calls_pure _) fun _ => quiet_ensureLocalMedia _ _ _
  apply Yields.bind_returns h₂ ((hmedia _).calm jobId job) screens_calm
  intro mediaPath past₃ _ h₃
  apply Yields.bind_returns h₃ ((hnode _).calm jobId job) screens_calm
  intro media past₄ _ h₄
  apply when_meets
  apply Yields.bind_returns h₄
    ((asks_subtitlesEnabledForDownload host download job.payload.dict).calm jobId job) screens_calm
  intro enabled past₅ _ h₅
  apply Yields.bind_returns h₅
    ((asks_subtitleOffsetForDownload host download job.payload.dict).calm jobId job) screens_calm
  intro offset past₆ _ h₆
  apply Yields.bind_returns h₆ ((asks_profileSetting job.profileId _ _).calm jobId job) screens_calm
  intro mode past₇ _ _
  apply perform_bind_returns trivial
  intro subtitle _
  cases subtitle with
  | some subtitlePath => exact saveTranscript_meets job.profileId _ download mediaPath subtitlePath _
  | none =>
    apply when_meets
    apply perform_bind_returns trivial
    exact fun _ _ => markFiltered_meets download.id _

theorem generateDeferredTranscriptScreening_meets {exposed : Json → Prop}
    (h : Carries host exposed job.jobType job.payload.dict) (htype : job.jobType = "generate_transcript")
    (past : List Record) :
    (generateDeferredTranscriptScreening host jobId job job.payload.dict).Meets
      (screeningRules host jobId job).contract (Returns fun _ _ => True) past := by
  unfold generateDeferredTranscriptScreening
  have hskip : (pure () : Handler Unit).Meets (screeningRules host jobId job).contract
      (Returns fun _ _ => True) past := meets_pure.2 (returns_ok trivial)
  cases hlookup : payloadObject "deferred_download_lookup" job.payload.dict with
  | none => exact hskip
  | some lookup =>
    cases hdefaults : payloadObject "deferred_download_defaults" job.payload.dict with
    | none => exact hskip
    | some defaults =>
      apply meets_ite
      · intro _
        obtain ⟨⟨key, rfl⟩, hkeeps, hnames⟩ := h.screening htype lookup defaults hlookup hdefaults
        have hcleanup (past : List Record) : (when
            (!(deferredSourcePaths host job.payload.dict).isEmpty) do
              let _ ← deleteFfmpegSourceFiles host (deferredSourcePaths host job.payload.dict)
                (host.resolve (host.str ((Json.get "deferred_media_path" job.payload.dict).getD .null)))
              ).Meets (screeningRules host jobId job).contract (Returns fun _ _ => True) past := by
          apply when_meets
          apply Yields.bind_returns (Extends.refl past) (quiet_deleteFfmpegSourceFiles host _ _)
            screens_quiet
          exact fun _ _ _ _ => meets_pure.2 (returns_ok trivial)
        have hscreening : (do
            let _ ← touchActive jobId job "deferred_transcript_screening"
              (host.textOr (Json.get "title" defaults)
                (host.resolve (host.str ((Json.get "deferred_media_path" job.payload.dict).getD
                  .null))).name)
            let _ ← screenDeferredVideoBeforeInsert host job.profileId
              (host.resolve (host.str ((Json.get "deferred_media_path" job.payload.dict).getD .null)))
              key.lookup defaults job.payload.dict : Handler Unit).Meets
            (screeningRules host jobId job).contract (Returns fun _ _ => True) past := by
          apply Yields.bind_returns (Extends.refl past) (calm_touchActive jobId job _ _) screens_calm
          intro _ past₁ _ _
          apply Meets.bind_returns (screenDeferredVideoBeforeInsert_meets jobId job key hkeeps hnames
            job.profileId job.payload.dict past₁)
          exact fun _ _ _ => meets_pure.2 (returns_ok trivial)
        apply hscreening.tryFinally
        intro r past₁ hr
        apply (hcleanup past₁).mono
        intro _ past₂ _
        constructor
        · exact fun e _ => returns_error _ e past₂
        · exact fun _ _ _ => trivial
      · exact fun _ => hskip

theorem generateTranscript_meets {exposed : Json → Prop}
    (h : Carries host exposed job.jobType job.payload.dict) (htype : job.jobType = "generate_transcript") :
    (generateTranscript host jobId job).Meets (screeningRules host jobId job).contract
      (Returns fun _ _ => True) [] := by
  unfold generateTranscript
  apply meets_ite
  · intro _
    apply perform_bind_returns trivial
    intro found _
    cases found with
    | none => exact meets_pure.2 (returns_ok trivial)
    | some download => exact generateDownloadTranscript_meets download _
  · intro _
    apply meets_ite
    · exact fun _ => generateDeferredTranscriptScreening_meets h htype []
    · exact fun _ => meets_pure.2 (returns_ok trivial)

end

end GetOffline
