import GetOffline.ScreeningRules

set_option autoImplicit true

namespace GetOffline
open Python Effects Program

theorem asks_subtitleOffset (host : Host) (payload : Columns) (default : Option Json) :
    Asks (subtitleOffset host payload default) := by
  apply Calls.bind (calls_ofExcept _)
  intro blank
  apply yields_ite
  · exact fun _ => calls_pure _
  · exact fun _ => Calls.bind (calls_ofExcept _) fun _ => calls_pure _

theorem asks_subtitlesEnabledForDownload (host : Host) (download : Download) (payload : Columns) :
    Asks (subtitlesEnabledForDownload host download payload) := by
  unfold subtitlesEnabledForDownload
  cases Json.get "subtitles" payload with
  | some value => exact calls_pure _
  | none => exact Calls.bind (calls_perform trivial) fun _ => calls_pure _

theorem asks_subtitleOffsetForDownload (host : Host) (download : Download) (payload : Columns) :
    Asks (subtitleOffsetForDownload host download payload) := by
  apply Calls.bind (calls_ofExcept _)
  intro blank
  apply yields_ite
  · exact fun _ => Calls.bind (calls_perform trivial) fun _ => calls_pure _
  · exact fun _ => Calls.bind (calls_ofExcept _) fun _ => calls_pure _

theorem mediaTypeOr_video (host : Host) {payload : Columns}
    (h : Json.get "media_type" payload = some (.string "video")) (default : String) :
    mediaTypeOr host payload default = "video" := by
  rw [mediaTypeOr, h]
  have hlower : lower (strip "video") = "video" := by decide
  exact hlower

theorem keepsKey_downloadDefaults (host : Host) (payload info : Columns) (url itemUid : String)
    (file outputRoot : Path) (duration fileSize : Json) :
    KeepsKey (downloadDefaults host payload info url itemUid file outputRoot duration fileSize) :=
  .of_keys ["source_url", "item_id", "item_url", "media_url", "title", "description", "uploader",
    "channel", "upload_date", "duration_seconds", "file_path", "file_path_relative", "file_ext",
    "file_size_bytes", "download_status"] rfl (by decide)

theorem keepsKey_convertedColumns (targetPath outputRoot : Path) (outputSize : Nat)
    (completedAt lastSeenAt : Instant) :
    KeepsKey (convertedColumns targetPath outputRoot outputSize completedAt lastSeenAt) :=
  .of_keys ["file_path", "file_path_relative", "file_ext", "file_size_bytes", "download_status",
    "completed_at", "last_seen_at"] rfl (by decide)

section
variable {host : Host} {jobId : Nat} {job : Job} {past : List Record}

variable (jobId job) in
theorem screenDeferredVideoBeforeInsert_meets (key : EpisodeKey) {defaults : Columns} {media : Path}
    (hkeeps : KeepsKey defaults) (hnames : NamesMedia host defaults media) (profileId : String)
    (payload : Columns) (past : List Record) :
    (screenDeferredVideoBeforeInsert host profileId media key.lookup defaults payload).Meets
      (screeningRules host jobId job).contract
      (Returns fun saved past' => ∀ download, saved = some download → IsShown host job past' download.id)
      past := by
  apply Yields.bind_returns (Extends.refl past) (asks_subtitleOffset host payload none).quiet
    screens_quiet
  intro offset past₁ _ h₁
  apply Yields.bind_returns h₁ (asks_profileSetting profileId _ _).quiet screens_quiet
  intro mode past₂ _ _
  apply perform_bind_returns trivial
  intro subtitle _
  apply screenSubtitle_meets hkeeps hnames
  exact ⟨_, _, _, _, List.mem_append_right _ (List.mem_singleton_self _)⟩

/-- What a download hands on: a row that may be seen, or a conversion that carries what it has to. -/
def DownloadResult.Fits (host : Host) (job : Job) : DownloadResult → List Record → Prop
  | .skipped, _ => True
  | .row download, past => IsShown host job past download.id
  | .conversion payload, _ => ∀ exposed, Carries host exposed "transcode_media" payload

namespace Arrival
variable (a : Arrival host job.profileId job.payload.dict)

def key : EpisodeKey :=
  ⟨job.profileId, a.sourceType, a.sourceName, a.itemUid⟩

theorem keepsKey_defaults : KeepsKey a.defaults :=
  keepsKey_downloadDefaults _ _ _ _ _ _ _ _ _

theorem keepsKey_row : KeepsKey (a.defaults ++ timeColumns a.now) :=
  .of_keys ["source_url", "item_id", "item_url", "media_url", "title", "description", "uploader",
    "channel", "upload_date", "duration_seconds", "file_path", "file_path_relative", "file_ext",
    "file_size_bytes", "download_status", "last_seen_at", "completed_at"] rfl (by decide)

theorem mediaKind_video (h : Unscreened job.payload.dict) : a.mediaKind = "video" :=
  mediaTypeOr_video host h.video _

theorem namesMedia_defaults : NamesMedia host (a.defaults ++ timeColumns a.now) a.file := by
  refine ⟨a.file.str, rfl, ?_⟩
  rw [Host.resolve_str, a.real_file]

theorem carries_conversion (h : Unscreened job.payload.dict) (exposed : Json → Prop) :
    Carries host exposed "transcode_media" (Json.update [("download_lookup", .object a.lookup),
      ("download_defaults", .object a.defaults)] a.conversion) where
  kind := by decide
  saved hpk := absurd hpk Bool.false_ne_true
  download htype := absurd htype (by decide)
  conversion _ lookup defaults hlookup hdefaults := by
    have hlookup' : payloadObject "download_lookup" (Json.update [("download_lookup", .object a.lookup),
      ("download_defaults", .object a.defaults)] a.conversion) = some a.lookup := rfl
    have hdefaults' : payloadObject "download_defaults" (Json.update
      [("download_lookup", .object a.lookup), ("download_defaults", .object a.defaults)]
      a.conversion) = some a.defaults := rfl
    obtain rfl := Option.some.inj (hlookup'.symm.trans hlookup)
    obtain rfl := Option.some.inj (hdefaults'.symm.trans hdefaults)
    have hkind := a.mediaKind_video h
    refine ⟨⟨?_, h.flagged, rfl⟩, ⟨a.key, rfl⟩, a.keepsKey_defaults⟩
    rw [← hkind]
    rfl
  screening htype := absurd htype (by decide)

theorem prepareConversion_meets (h : Unscreened job.payload.dict) (past : List Record) :
    (prepareConversion a.conversion a.lookup a.defaults (timeColumns a.now) a.mediaKind).Meets
      (screeningRules host jobId job).contract (Returns (DownloadResult.Fits host job)) past := by
  unfold prepareConversion
  apply meets_ite
  · intro hunflagged
    exact absurd (h.flagged.symm.trans hunflagged.2) (by decide)
  · exact fun _ => meets_pure.2 (returns_ok (a.carries_conversion h))

theorem keepDownloadedFile_meets (h : Unscreened job.payload.dict) (past : List Record) :
    (keepDownloadedFile host job.profileId job.payload.dict a.lookup (a.defaults ++ timeColumns a.now)
      a.mediaKind a.file).Meets (screeningRules host jobId job).contract
      (Returns (DownloadResult.Fits host job)) past := by
  have hscreen := screenDeferredVideoBeforeInsert_meets jobId job a.key a.keepsKey_row
    a.namesMedia_defaults job.profileId job.payload.dict past
  unfold keepDownloadedFile
  apply meets_ite
  · intro _
    apply Meets.bind_returns hscreen
    intro saved past₁ hsaved
    cases saved with
    | none => exact meets_pure.2 (returns_ok trivial)
    | some download => exact meets_pure.2 (returns_ok (hsaved download rfl))
  · intro hnot
    exact absurd ⟨a.mediaKind_video h, h.flagged⟩ hnot

theorem store_meets (h : Unscreened job.payload.dict) (past : List Record) :
    a.store.Meets (screeningRules host jobId job).contract (Returns (DownloadResult.Fits host job))
      past := by
  rw [store]
  cases a.converted with
  | true => exact a.prepareConversion_meets h past
  | false => exact a.keepDownloadedFile_meets h past

end Arrival

/-- The id is that of a row that may be seen. -/
def IsExposed (host : Host) (job : Job) (past : List Record) (pk : Json) : Prop :=
  ∃ id : Nat, pk.toInt = .ok (id : Int) ∧ IsShown host job past id

theorem createAndPublish_meets {args : JobArgs}
    (h : Carries host (IsExposed host job past) args.jobType (args.payload.getD [])) :
    (createAndPublish args).Meets (screeningRules host jobId job).contract (Returns fun _ _ => True)
      past := by
  have hpermits : (screeningRules host jobId job).permits past (.createJob args) := h
  apply perform_bind_returns hpermits
  intro id _
  exact (Yields.extends (calls_perform trivial) screens_quiet _).mono fun _ _ _ _ _ => trivial

/-- A job for a row that may be seen, and that is told nothing else. -/
theorem Carries.of_saved {exposed : Json → Prop} {payload : Columns} (jobType : String)
    (h : exposed (downloadPk payload)) (hkind : jobType ∈ ["transcode_media", "generate_transcript"])
    (hconversion : payloadObject "download_lookup" payload = none)
    (hscreening : payloadObject "deferred_download_lookup" payload = none) :
    Carries host exposed jobType payload where
  kind := List.mem_cons_of_mem _ (List.mem_cons_of_mem _ hkind)
  saved _ := h
  download hdownload := by
    rcases List.mem_cons.1 hdownload with rfl | hdownload
    · exact absurd hkind (by decide)
    · rw [List.mem_singleton.1 hdownload] at hkind
      exact absurd hkind (by decide)
  conversion _ lookup defaults hlookup := by
    rw [hconversion] at hlookup
    cases hlookup
  screening _ lookup defaults hlookup := by
    rw [hscreening] at hlookup
    cases hlookup

theorem enqueueNextStage_meets {pk : Json} (h : IsExposed host job past pk) (payload : Columns)
    (download : Download) :
    (enqueueNextStage host job payload pk download).Meets (screeningRules host jobId job).contract
      (Returns fun _ _ => True) past := by
  apply Yields.bind_returns (Extends.refl past)
    (asks_downloadRequiresFfmpeg host download payload).quiet screens_quiet
  intro requirement past₁ _ h₁
  have hexposed : IsExposed host job past₁ pk := by
    obtain ⟨id, hid, hshown⟩ := h
    exact ⟨id, hid, hshown.mono h₁.subset⟩
  apply meets_ite
  · intro _
    exact createAndPublish_meets (.of_saved "transcode_media" hexposed (by decide) rfl rfl)
  · intro _
    exact createAndPublish_meets (.of_saved "generate_transcript" hexposed (by decide) rfl rfl)

theorem continueDownload_meets {pk : Json} (h : ∀ id : Nat, pk.toInt = .ok (id : Int) →
    IsShown host job past id) (payload : Columns) :
    (continueDownload host job payload pk).Meets (screeningRules host jobId job).contract
      (Returns fun _ _ => True) past := by
  apply perform_bind_returns trivial
  intro found hfound
  cases found with
  | none => exact meets_pure.2 (returns_ok trivial)
  | some download =>
    have hid : pk.toInt = .ok (download.id : Int) := hfound
    exact enqueueNextStage_meets ⟨download.id, hid, (h download.id hid).mono
      (List.subset_append_left _ _)⟩ payload download

theorem downloadEpisode_meets {exposed : Json → Prop} (h : Carries host exposed job.jobType job.payload.dict)
    (htype : job.jobType ∈ ["download_episode", "download_single"]) :
    (downloadEpisode host jobId job).Meets (screeningRules host jobId job).contract
      (Returns fun _ _ => True) [] := by
  unfold downloadEpisode
  apply meets_ite
  · intro hpk
    apply continueDownload_meets
    exact fun id hid => .inl ⟨hpk, hid⟩
  · intro hpk
    have hunscreened := h.download htype (eq_false_of_ne_true hpk)
    have hdownload : (downloadWithYtDlp host jobId job job.payload.dict).Meets
        (screeningRules host jobId job).contract (Returns (DownloadResult.Fits host job)) [] := by
      apply downloadWithYtDlp_meets screens_calm
      · exact fun a past' _ => a.store_meets hunscreened past'
      · exact fun past' _ => returns_ok trivial
      · exact fun e past' _ => returns_error _ e past'
    apply Meets.bind_returns hdownload
    intro result past' hresult
    cases result with
    | skipped => exact meets_pure.2 (returns_ok trivial)
    | conversion payload => exact createAndPublish_meets (hresult _)
    | row download =>
      apply continueDownload_meets
      intro id hid
      have hnat : id = download.id := (Int.ofNat.inj (Except.ok.inj hid)).symm
      rw [hnat]
      exact hresult

end

end GetOffline
