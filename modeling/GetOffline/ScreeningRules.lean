import GetOffline.DownloadFlow
import GetOffline.EpisodeRows

set_option autoImplicit true

namespace GetOffline
open Python Effects Program

/-- The media has a transcript in which nothing was found. -/
def Passed (media : Path) (past : List Record) : Prop :=
  ∃ offset enabled contextName mode subtitle,
    (⟨.createSubtitles media offset enabled contextName mode, .ok (some subtitle)⟩ : Record) ∈ past ∧
    (⟨.screenTranscript subtitle, .ok none⟩ : Record) ∈ past

def NamesMedia (host : Host) (columns : Columns) (media : Path) : Prop :=
  ∃ text, Json.get "file_path" columns = some (.string text) ∧ host.resolve text = media

/-- The columns are those of media that has passed. -/
def Cleared (host : Host) (past : List Record) (columns : Columns) : Prop :=
  ∃ media, NamesMedia host columns media ∧ Passed media past

def downloadPk (payload : Columns) : Json :=
  (Json.get "download_id" payload).getD .null

/-- The row was the subject of the job, or has been written by it after a screening. -/
def IsShown (host : Host) (job : Job) (past : List Record) (id : Nat) : Prop :=
  ((downloadPk job.payload.dict).truthy = true ∧ (downloadPk job.payload.dict).toInt = .ok id) ∨
    ∃ (key : EpisodeKey) (defaults : Columns) (download : Download),
      (⟨.updateOrCreateDownload key.lookup defaults, .ok download⟩ : Record) ∈ past ∧
      Cleared host past defaults ∧ download.id = id

/-- A video that is to be looked through and has no row. -/
structure Unscreened (payload : Columns) : Prop where
  video : Json.get "media_type" payload = some (.string "video")
  flagged : isTrue "delete_explicit_content" payload = true
  unsaved : (downloadPk payload).truthy = false

/-- What the payload of a job has to carry for the screening to come before the row. -/
structure Carries (host : Host) (exposed : Json → Prop) (jobType : String) (payload : Columns) :
    Prop where
  kind : jobType ∈ ["download_episode", "download_single", "transcode_media", "generate_transcript"]
  saved : (downloadPk payload).truthy = true → exposed (downloadPk payload)
  download : jobType ∈ ["download_episode", "download_single"] →
    (downloadPk payload).truthy = false → Unscreened payload
  conversion : jobType = "transcode_media" → ∀ lookup defaults,
    payloadObject "download_lookup" payload = some lookup →
    payloadObject "download_defaults" payload = some defaults →
    Unscreened payload ∧ (∃ key : EpisodeKey, lookup = key.lookup) ∧ KeepsKey defaults
  screening : jobType = "generate_transcript" → ∀ lookup defaults,
    payloadObject "deferred_download_lookup" payload = some lookup →
    payloadObject "deferred_download_defaults" payload = some defaults →
    (∃ key : EpisodeKey, lookup = key.lookup) ∧ KeepsKey defaults ∧ NamesMedia host defaults
      (host.resolve (host.str ((Json.get "deferred_media_path" payload).getD .null)))

theorem Carries.handler {exposed : Json → Prop} {i : Nat} {job : Job} {program : Handler Unit}
    (h : Carries host exposed job.jobType payload) (hprogram : jobHandler host i job = some program) :
    (job.jobType ∈ ["download_episode", "download_single"] ∧ program = downloadEpisode host i job) ∨
      (job.jobType = "transcode_media" ∧ program = transcodeMedia host i job) ∨
      (job.jobType = "generate_transcript" ∧ program = generateTranscript host i job) := by
  have hkind := h.kind
  simp only [List.mem_cons, List.not_mem_nil, or_false] at hkind
  rcases hkind with htype | htype | htype | htype
  · rw [jobHandler, htype] at hprogram
    exact .inl ⟨by rw [htype]; decide, (Option.some.inj hprogram).symm⟩
  · rw [jobHandler, htype] at hprogram
    exact .inl ⟨by rw [htype]; decide, (Option.some.inj hprogram).symm⟩
  · rw [jobHandler, htype] at hprogram
    exact .inr (.inl ⟨htype, (Option.some.inj hprogram).symm⟩)
  · rw [jobHandler, htype] at hprogram
    exact .inr (.inr ⟨htype, (Option.some.inj hprogram).symm⟩)

/-- What a process on the way of an unscreened video may call. -/
def HandlerOp.Screens (host : Host) (jobId : Nat) (job : Job) (past : List Record) :
    HandlerOp β → Prop
  | .createJob args =>
    Carries host (fun pk => ∃ id : Nat, pk.toInt = .ok (id : Int) ∧ IsShown host job past id)
      args.jobType (args.payload.getD [])
  | .updateOrCreateDownload lookup defaults =>
    (∃ key : EpisodeKey, lookup = key.lookup) ∧ KeepsKey defaults ∧
      (rowStatus defaults = some DownloadStatus.filtered.json ∨ Cleared host past defaults)
  | .saveDownload id fields =>
    KeepsKey fields ∧
      (rowStatus fields ≠ some DownloadStatus.downloaded.json ∨ IsShown host job past id)
  | .saveTouch id copy => id = jobId ∧ Touched job copy
  | _ => True

/-- A row that is read is the one that was asked for, and one that is written has the new values. -/
def HandlerOp.Tells : HandlerOp β → Except Error β → Prop
  | .downloadById pk _, .ok (some download) => pk.toInt = .ok (download.id : Int)
  | .updateOrCreateDownload _ defaults, .ok download =>
    ∃ old, download.columns = Json.update defaults old
  | _, _ => True

def screeningRules (host : Host) (jobId : Nat) (job : Job) : Rules where
  permits past _ op := op.Screens host jobId job past
  answers _ _ op r := op.Tells r
  ends _ := True

theorem IsShown.mono {id : Nat} (h : IsShown host job past id) (hsub : past ⊆ past') :
    IsShown host job past' id := by
  rcases h with horigin | ⟨key, defaults, download, hwrite, hcleared, hid⟩
  · exact .inl horigin
  · obtain ⟨media, hnames, offset, enabled, contextName, mode, subtitle, hcreate, hscreen⟩ := hcleared
    exact .inr ⟨key, defaults, download, hsub hwrite, ⟨media, hnames, offset, enabled,
      contextName, mode, subtitle, hsub hcreate, hsub hscreen⟩, hid⟩

theorem Passed.mono (h : Passed media past) (hsub : past ⊆ past') : Passed media past' := by
  obtain ⟨offset, enabled, contextName, mode, subtitle, hcreate, hscreen⟩ := h
  exact ⟨offset, enabled, contextName, mode, subtitle, hsub hcreate, hsub hscreen⟩

theorem HandlerOp.IsCalm.screens {op : HandlerOp β} (h : op.IsCalm jobId job) (host : Host)
    (past : List Record) : op.Screens host jobId job past := by
  cases op <;> first | exact h | exact False.elim h

section
variable {host : Host} {jobId : Nat} {job : Job} {past : List Record}

theorem screens_calm (past : List Record) {β : Type} (op : HandlerOp β) (h : op.IsCalm jobId job) :
    (screeningRules host jobId job).permits past op :=
  h.screens host past

theorem screens_quiet (past : List Record) {β : Type} (op : HandlerOp β) (h : op.IsQuiet) :
    (screeningRules host jobId job).permits past op :=
  screens_calm past op (h.isCalm jobId job)

theorem Cleared.passed (hnames : NamesMedia host columns media) (h : Passed media past) :
    Cleared host past columns :=
  ⟨media, hnames, h⟩

theorem keepsKey_subtitleColumns (subtitlePath outputRoot : Path) :
    KeepsKey (subtitleColumns subtitlePath outputRoot) :=
  .of_keys ["subtitle_path", "subtitle_path_relative"] rfl (by decide)

theorem keepsKey_filteredColumns (completedAt lastSeenAt : Instant) :
    KeepsKey (filteredColumns completedAt lastSeenAt) :=
  .of_keys ["file_path", "file_path_relative", "file_size_bytes", "subtitle_path",
    "subtitle_path_relative", "download_status", "completed_at", "last_seen_at"] rfl (by decide)

/-- The row that is inserted after a screening is the row of media that has passed. -/
theorem insertScreened_meets {key : EpisodeKey} {defaults : Columns} {media : Path}
    (hkeeps : KeepsKey defaults) (hnames : NamesMedia host defaults media) (hpassed : Passed media past)
    (profileId : String) (subtitlePath : Path) :
    (insertScreened host profileId key.lookup defaults subtitlePath).Meets
      (screeningRules host jobId job).contract
      (Returns fun download past' => IsShown host job past' download.id) past := by
  apply Yields.bind_returns (Extends.refl past) (asks_downloadOutputRoot host profileId).quiet
    screens_quiet
  intro outputRoot past₁ _ h₁
  have hcolumns : KeepsKey (Json.update (subtitleColumns subtitlePath outputRoot) defaults) :=
    (keepsKey_subtitleColumns subtitlePath outputRoot).update hkeeps
  have hcleared : Cleared host past₁ (Json.update (subtitleColumns subtitlePath outputRoot) defaults) := by
    obtain ⟨text, htext, hmedia⟩ := hnames
    refine Cleared.passed ⟨text, ?_, hmedia⟩ (hpassed.mono h₁.subset)
    rw [Json.get_update_of_nodup (keepsKey_subtitleColumns subtitlePath outputRoot).nodup]
    exact htext
  have hpermits : (screeningRules host jobId job).permits past₁ (.updateOrCreateDownload key.lookup
      (Json.update (subtitleColumns subtitlePath outputRoot) defaults)) :=
    ⟨⟨key, rfl⟩, hcolumns, .inr hcleared⟩
  apply perform_bind_returns hpermits
  intro download _
  have hshown : IsShown host job (past₁ ++ [⟨.updateOrCreateDownload key.lookup
      (Json.update (subtitleColumns subtitlePath outputRoot) defaults), .ok download⟩]) download.id := by
    right
    obtain ⟨media, hnames, hpassed⟩ := hcleared
    exact ⟨key, _, download, List.mem_append_right _ (List.mem_singleton_self _),
      Cleared.passed hnames (hpassed.mono (List.subset_append_left _ _)), rfl⟩
  have hsegments : Quiet (perform (.subtitleSegments subtitlePath)) := calls_perform trivial
  apply Yields.bind_returns (Extends.refl _) hsegments screens_quiet
  intro segments past₂ _ h₂
  have hcreate : Quiet (perform (.createSegments download.id subtitlePath.str segments)) :=
    calls_perform trivial
  apply Yields.bind_returns h₂ hcreate screens_quiet
  intro _ past₃ _ h₃
  exact meets_pure.2 (returns_ok (hshown.mono h₃.subset))

theorem insertFiltered_meets {key : EpisodeKey} {defaults : Columns} (hkeeps : KeepsKey defaults)
    (past : List Record) :
    (insertFiltered key.lookup defaults).Meets (screeningRules host jobId job).contract
      (Returns fun _ _ => True) past := by
  have hnow : Quiet (perform .now) := calls_perform trivial
  apply Yields.bind_returns (Extends.refl past) hnow screens_quiet
  intro completedAt past₁ _ h₁
  apply Yields.bind_returns h₁ hnow screens_quiet
  intro lastSeenAt past₂ _ _
  have hfiltered := keepsKey_filteredColumns completedAt lastSeenAt
  have hstatus : rowStatus (Json.update (filteredColumns completedAt lastSeenAt) defaults) =
      some DownloadStatus.filtered.json :=
    hfiltered.rowStatus_update defaults
  have hpermits : (screeningRules host jobId job).permits past₂ (.updateOrCreateDownload key.lookup
      (Json.update (filteredColumns completedAt lastSeenAt) defaults)) :=
    ⟨⟨key, rfl⟩, hfiltered.update hkeeps, .inl hstatus⟩
  apply perform_bind_returns hpermits
  exact fun _ _ => meets_pure.2 (returns_ok trivial)

theorem screenSubtitle_meets {key : EpisodeKey} {defaults : Columns} {media : Path}
    (hkeeps : KeepsKey defaults) (hnames : NamesMedia host defaults media) (profileId : String)
    (subtitle : Option Path)
    (hcreate : ∃ offset enabled contextName mode,
      (⟨.createSubtitles media offset enabled contextName mode, .ok subtitle⟩ : Record) ∈ past) :
    (screenSubtitle host profileId media key.lookup defaults subtitle).Meets
      (screeningRules host jobId job).contract
      (Returns fun saved past' => ∀ download, saved = some download → IsShown host job past' download.id)
      past := by
  have hnone (past : List Record) : ∀ download, (none : Option Download) = some download →
      IsShown host job past download.id := by
    intro download h
    cases h
  cases subtitle with
  | none =>
    apply perform_bind_returns trivial
    exact fun _ _ => meets_pure.2 (returns_ok (hnone _))
  | some subtitle =>
    have hscreen : (Program.tryCatch (do
          let explicitMatch ← perform (.screenTranscript subtitle)
          return some explicitMatch) fun _ => return none : Handler (Option (Option ExplicitContentMatch))).Meets
        (screeningRules host jobId job).contract
        (Returns fun screened past' => past ⊆ past' ∧ (screened = some none →
          (⟨.screenTranscript subtitle, .ok none⟩ : Record) ∈ past')) past := by
      have htry : (do
            let explicitMatch ← perform (.screenTranscript subtitle)
            return some explicitMatch : Handler (Option (Option ExplicitContentMatch))).Meets
          (screeningRules host jobId job).contract (fun r past' => past ⊆ past' ∧ (r = .ok (some none) →
            (⟨.screenTranscript subtitle, .ok none⟩ : Record) ∈ past')) past := by
        apply perform_bind_meets trivial
        · intro explicitMatch _
          apply meets_pure.2
          refine ⟨List.subset_append_left _ _, ?_⟩
          intro h
          obtain rfl := Option.some.inj (Except.ok.inj h)
          exact List.mem_append_right _ (List.mem_singleton_self _)
        · intro e _
          refine ⟨List.subset_append_left _ _, ?_⟩
          intro h
          cases h
      apply Meets.tryCatch htry
      · intro screened past₁ h
        apply returns_ok
        refine ⟨h.1, ?_⟩
        intro hscreened
        rw [hscreened] at h
        exact h.2 rfl
      · intro e past₁ h
        apply meets_pure.2 (returns_ok _)
        refine ⟨h.1, ?_⟩
        intro hscreened
        cases hscreened
    apply Meets.bind_returns hscreen
    intro screened past₁ h
    cases screened with
    | none =>
      apply perform_bind_returns trivial
      exact fun _ _ => meets_pure.2 (returns_ok (hnone _))
    | some explicitMatch =>
      cases explicitMatch with
      | some explicitMatch =>
        apply perform_bind_returns trivial
        intro _ _
        apply Meets.bind_returns (insertFiltered_meets hkeeps _)
        exact fun _ _ _ => meets_pure.2 (returns_ok (hnone _))
      | none =>
        obtain ⟨offset, enabled, contextName, mode, hcreate⟩ := hcreate
        have hpassed : Passed media past₁ :=
          ⟨offset, enabled, contextName, mode, subtitle, h.1 hcreate, h.2 rfl⟩
        apply Meets.bind_returns (insertScreened_meets hkeeps hnames hpassed profileId subtitle)
        intro download past₂ hshown
        apply meets_pure.2 (returns_ok _)
        intro download' hdownload
        obtain rfl := Option.some.inj hdownload
        exact hshown

end

end GetOffline
