import GetOffline.ScreeningHandlers

set_option autoImplicit true

namespace GetOffline
open Python Effects Program

def flagged (payload : Columns) : Bool :=
  isTrue "delete_explicit_content" payload

/-- A call of a process that moves media along: it has no part in screening, and a job that it makes is
told to screen when its own job was. -/
def HandlerOp.MovesOn (payload : Columns) : HandlerOp β → Prop
  | .createJob args => flagged payload = true → flagged (args.payload.getD []) = true
  | .saveTouch _ _ | .updateOrCreateDownload _ _ | .saveDownload _ _ => True
  | op => op.IsQuiet

abbrev MovesOn (payload : Columns) (p : Handler α) : Prop :=
  p.Calls fun op => op.MovesOn payload

def lookupKeys : List String :=
  ["download_lookup", "deferred_download_lookup"]

def defaultsKeys : List String :=
  ["download_defaults", "deferred_download_defaults"]

/-- What a payload says of a row to be: the columns by which it is found, and others. -/
structure Deferred (payload : Columns) : Prop where
  lookups : ∀ key ∈ lookupKeys, ∀ lookup,
    payloadObject key payload = some lookup → ∃ episode : EpisodeKey, lookup = episode.lookup
  defaults : ∀ key ∈ defaultsKeys, ∀ defaults,
    payloadObject key payload = some defaults → KeepsKey defaults

theorem payloadObject_none {key : String} {payload : Columns} (h : key ∉ payload.map Prod.fst) :
    payloadObject key payload = none := by
  rw [payloadObject, Json.get_eq_none h]

/-- A payload that says nothing of a row to be. -/
theorem Deferred.of_subset (names : List String) (h : ∀ name ∈ payload.map Prod.fst, name ∈ names)
    (hnames : ∀ key ∈ lookupKeys ++ defaultsKeys, key ∉ names) : Deferred payload := by
  have hnone : ∀ key ∈ lookupKeys ++ defaultsKeys, payloadObject key payload = none := by
    intro key hkey
    apply payloadObject_none
    exact fun hmem => hnames key hkey (h key hmem)
  constructor
  · intro key hkey lookup hlookup
    rw [hnone key (List.mem_append_left _ hkey)] at hlookup
    cases hlookup
  · intro key hkey defaults hdefaults
    rw [hnone key (List.mem_append_right _ hkey)] at hdefaults
    cases hdefaults

theorem Deferred.of_keys (names : List String) (h : payload.map Prod.fst = names)
    (hnames : ∀ key ∈ lookupKeys ++ defaultsKeys, key ∉ names) : Deferred payload := by
  apply Deferred.of_subset names _ hnames
  intro name hname
  rw [h] at hname
  exact hname

theorem Deferred.touched (h : Deferred job.payload.dict) (ht : Touched job copy) :
    Deferred copy.payload.dict := by
  have hsame : ∀ key ∈ lookupKeys ++ defaultsKeys,
      payloadObject key copy.payload.dict = payloadObject key job.payload.dict := by
    intro key hkey
    apply payloadObject_congr
    apply ht key <;> (rintro rfl; exact absurd hkey (by decide))
  constructor
  · intro key hkey lookup hlookup
    rw [hsame key (List.mem_append_left _ hkey)] at hlookup
    exact h.lookups key hkey lookup hlookup
  · intro key hkey defaults hdefaults
    rw [hsame key (List.mem_append_right _ hkey)] at hdefaults
    exact h.defaults key hkey defaults hdefaults

/-- What the payload of a job hands on to that of a job that comes of it. -/
structure FollowUp (payload next : Columns) : Prop where
  flagged : flagged payload = true → flagged next = true
  deferred : Deferred payload → Deferred next

/-- A row is made of the columns: it can be found by the ones, and the others do not change that. -/
def MakesRow (payload lookup defaults : Columns) : Prop :=
  Deferred payload → (∃ key : EpisodeKey, lookup = key.lookup) ∧ KeepsKey defaults

theorem MakesRow.update {lookup defaults : Columns} (h : MakesRow payload lookup defaults)
    (hcolumns : KeepsKey columns) : MakesRow payload lookup (Json.update columns defaults) := by
  intro hd
  obtain ⟨hlookup, hdefaults⟩ := h hd
  exact ⟨hlookup, hcolumns.update hdefaults⟩

/-- What a process that moves media along may call. -/
def HandlerOp.HandsOn (jobId : Nat) (job : Job) : HandlerOp β → Prop
  | .createJob args => FollowUp job.payload.dict (args.payload.getD [])
  | .saveTouch id copy => id = jobId ∧ Touched job copy
  | .updateOrCreateDownload lookup defaults => MakesRow job.payload.dict lookup defaults
  | .saveDownload _ fields => KeepsKey fields
  | op => op.IsQuiet

theorem HandlerOp.HandsOn.movesOn {op : HandlerOp β} (h : op.HandsOn jobId job) :
    op.MovesOn job.payload.dict := by
  cases op <;> first | exact h.flagged | trivial

theorem HandlerOp.IsCalm.handsOn {op : HandlerOp β} (h : op.IsCalm jobId job) : op.HandsOn jobId job := by
  cases op <;> first | exact h | exact False.elim h

abbrev HandsOn (jobId : Nat) (job : Job) (p : Handler α) : Prop :=
  p.Calls fun op => op.HandsOn jobId job

theorem HandsOn.movesOn {p : Handler α} (h : HandsOn jobId job p) : MovesOn job.payload.dict p :=
  h.mono (fun _ hop => hop.movesOn) fun _ _ => trivial

theorem Calm.handsOn {p : Handler α} (h : Calm jobId job p) : HandsOn jobId job p :=
  h.mono (fun _ hop => hop.handsOn) fun _ _ => trivial

theorem Quiet.handsOn {p : Handler α} (h : Quiet p) (jobId : Nat) (job : Job) : HandsOn jobId job p :=
  (h.calm jobId job).handsOn

theorem Asks.handsOn {p : Handler α} (h : Asks p) (jobId : Nat) (job : Job) : HandsOn jobId job p :=
  h.quiet.handsOn jobId job

/-- The payload of a transcript job for a row. -/
theorem followUp_transcriptArgs (payload : Columns) (profileId downloadId : String) (pk sourceType : Json)
    (mediaKind : String) : FollowUp payload
      ((transcriptArgs profileId payload downloadId pk sourceType mediaKind).payload.getD []) where
  flagged h := h
  deferred _ := .of_keys ["download_id", "subtitles", "subtitle_offset_seconds", "source_type",
    "media_type", "recent_download", "delete_explicit_content"] rfl (by decide)

/-- The payload of the job that converts the file of a row. -/
theorem followUp_conversion (payload : Columns) (pk sourceType : Json) (mediaKind : String) :
    FollowUp payload ([("download_id", pk), ("media_type", .string mediaKind)] ++ subtitleItems payload ++
      [("source_type", sourceType), ("recent_download", .bool true),
        ("delete_explicit_content", .bool (isTrue "delete_explicit_content" payload))]) where
  flagged h := h
  deferred _ := .of_keys ["download_id", "media_type", "subtitles", "subtitle_offset_seconds",
    "source_type", "recent_download", "delete_explicit_content"] rfl (by decide)

/-- The row to be is the one of which the payload says something. -/
def ConversionSubject.IsOf (payload : Columns) : ConversionSubject → Prop
  | .row _ => True
  | .deferred lookup defaults => payloadObject "download_lookup" payload = some lookup ∧
    payloadObject "download_defaults" payload = some defaults

theorem ConversionSubject.IsOf.makesRow {lookup defaults : Columns}
    (h : (ConversionSubject.deferred lookup defaults).IsOf payload) :
    MakesRow payload lookup defaults :=
  fun hd =>
    ⟨hd.lookups _ List.mem_cons_self lookup h.1, hd.defaults _ List.mem_cons_self defaults h.2⟩

theorem followUp_deferredTranscriptArgs {lookup defaults : Columns} (host : Host) (profileId : String)
    (h : MakesRow payload lookup defaults) (sourcePaths : List Path) (targetPath : Path)
    (mediaKind : String) : FollowUp payload ((deferredTranscriptArgs host profileId payload lookup defaults
      sourcePaths targetPath mediaKind).payload.getD []) where
  flagged _ := rfl
  deferred hd := by
    obtain ⟨hlookup, hdefaults⟩ := h hd
    constructor
    · intro key hkey lookup' hlookup'
      rcases List.mem_pair.1 hkey with rfl | rfl
      · cases hlookup'
      · obtain rfl := eq_of_payloadObject rfl hlookup'
        exact hlookup
    · intro key hkey defaults' hdefaults'
      rcases List.mem_pair.1 hkey with rfl | rfl
      · cases hdefaults'
      · obtain rfl := eq_of_payloadObject rfl hdefaults'
        exact hdefaults

section
variable {host : Host} {jobId : Nat} {job : Job}

theorem handsOn_createAndPublish {args : JobArgs}
    (h : FollowUp job.payload.dict (args.payload.getD [])) :
    HandsOn jobId job (createAndPublish args) :=
  Calls.bind (calls_perform h) fun _ => calls_perform trivial

theorem handsOn_saveConversion {subject : ConversionSubject} (h : subject.IsOf job.payload.dict)
    (hcolumns : KeepsKey columns) : HandsOn jobId job (saveConversion subject columns) := by
  cases subject with
  | row download => exact Calls.bind (calls_perform hcolumns) fun _ => calls_pure _
  | deferred lookup defaults => exact calls_perform (h.makesRow.update hcolumns)

theorem handsOn_recordConversion {subject : ConversionSubject} (h : subject.IsOf job.payload.dict)
    (sources : ConversionSources) (targetPath outputRoot : Path) (outputSize : Nat) :
    HandsOn jobId job (recordConversion host subject sources targetPath outputRoot outputSize) := by
  apply Calls.bind (calls_perform trivial)
  intro completedAt
  apply Calls.bind (calls_perform trivial)
  intro lastSeenAt
  apply Calls.bind (handsOn_saveConversion h (keepsKey_convertedColumns _ _ _ _ _))
  intro download
  apply Calls.bind ((quiet_deleteFfmpegSourceFiles host sources.all targetPath).handsOn jobId job)
  exact fun _ => calls_pure _

theorem handsOn_convert {subject : ConversionSubject} (h : subject.IsOf job.payload.dict)
    (profileId mediaKind targetExt : String) (sources : ConversionSources) (targetPath : Path) :
    HandsOn jobId job
      (convert host profileId job.payload.dict subject mediaKind targetExt sources targetPath) := by
  apply Calls.bind ((quiet_runConversion profileId mediaKind targetExt sources targetPath).handsOn _ _)
  intro outputSize
  apply Calls.bind ((asks_conversionRoot host profileId job.payload.dict).handsOn _ _)
  intro outputRoot
  cases subject with
  | row download => exact handsOn_recordConversion h _ _ _ _
  | deferred lookup defaults =>
    apply yields_ite
    · intro _
      apply Calls.bind (calls_perform trivial)
      intro completedAt
      apply Calls.bind (calls_perform trivial)
      intro lastSeenAt
      apply Calls.bind
      · apply handsOn_createAndPublish
        apply followUp_deferredTranscriptArgs
        exact h.makesRow.update (keepsKey_convertedColumns _ _ _ _ _)
      · exact fun _ => calls_pure _
    · exact fun _ => handsOn_recordConversion h _ _ _ _

theorem handsOn_convertPresent {subject : ConversionSubject} (h : subject.IsOf job.payload.dict)
    (profileId mediaKind targetExt : String) (sources : ConversionSources) (targetPath : Path)
    (missing : List Path) :
    HandsOn jobId job (convertPresent host profileId job.payload.dict subject mediaKind targetExt sources
      targetPath missing) := by
  cases missing with
  | nil => exact handsOn_convert h _ _ _ _ _
  | cons path paths => exact calls_raise _

theorem handsOn_convertSources {subject : ConversionSubject} (h : subject.IsOf job.payload.dict)
    (profileId mediaKind targetExt : String) (sources : ConversionSources) (targetPath : Path) :
    HandsOn jobId job
      (convertSources host profileId job.payload.dict subject mediaKind targetExt sources targetPath) := by
  apply Calls.bind ((asks_missingPaths Option.isSome sources.all).handsOn _ _)
  intro missing
  cases subject with
  | deferred lookup defaults => exact handsOn_convertPresent h _ _ _ _ _ _
  | row download =>
    apply yields_ite
    · exact fun _ => handsOn_convertPresent h _ _ _ _ _ _
    · intro _
      apply Calls.bind (calls_perform trivial)
      intro target
      apply yields_ite
      · exact fun _ => calls_pure _
      · intro _
        apply Calls.bind ((quiet_fetchSources host download sources).handsOn _ _)
        intro sources
        apply Calls.bind
        · exact yields_ite (fun _ => calls_pure _) fun _ => calls_perform trivial
        · intro targetPath
          apply Calls.bind ((asks_missingPaths Node.isFile sources.all).handsOn _ _)
          exact fun missing => handsOn_convertPresent h _ _ _ _ _ _

theorem handsOn_convertOnce {subject : ConversionSubject} (h : subject.IsOf job.payload.dict)
    (profileId mediaKind targetExt : String) (sources : ConversionSources) (targetPath : Path) :
    HandsOn jobId job
      (convertOnce host profileId job.payload.dict subject mediaKind targetExt sources targetPath) := by
  apply Calls.bind
  · exact yields_ite (fun _ => calls_perform trivial) fun _ => calls_pure _
  · intro refreshed
    cases refreshed with
    | none => exact handsOn_convertSources h _ _ _ _ _
    | some refreshed =>
      apply yields_ite
      · intro _
        apply Calls.bind (calls_perform trivial)
        intro target
        exact yields_ite (fun _ => calls_pure _) fun _ => handsOn_convertSources h _ _ _ _ _
      · exact fun _ => handsOn_convertSources h _ _ _ _ _

theorem yields_conversionSubject (profileId : String) :
    (conversionSubject profileId job.payload.dict).Yields (fun op => op.HandsOn jobId job)
      (fun found => ∀ subject, found = some subject → subject.IsOf job.payload.dict) := by
  have hnone : ∀ subject, none = some subject → ConversionSubject.IsOf job.payload.dict subject := by
    intro subject hsubject
    cases hsubject
  apply Yields.bind (R := fun _ => True)
  · exact yields_ite (fun _ => calls_perform trivial) fun _ => calls_pure _
  · intro download _
    cases download with
    | some download =>
      apply yields_pure
      intro subject hsubject
      obtain rfl := Option.some.inj hsubject
      trivial
    | none =>
      dsimp only
      split
      · next lookup defaults hlookup hdefaults =>
        apply yields_pure
        intro subject hsubject
        split at hsubject
        · obtain rfl := Option.some.inj hsubject
          exact ⟨hlookup, hdefaults⟩
        · cases hsubject
      · exact yields_pure hnone

theorem handsOn_postprocessDownloadWithFfmpeg (profileId parentJobId : String) :
    HandsOn jobId job
      (postprocessDownloadWithFfmpeg host profileId job.payload.dict parentJobId) := by
  apply Yields.bind (yields_conversionSubject profileId)
  intro found hfound
  cases found with
  | none => exact calls_pure _
  | some subject =>
    have h := hfound subject rfl
    apply Calls.bind ((asks_conversionKind host job.payload.dict subject).handsOn _ _)
    intro mediaKind
    apply Calls.bind
    · exact yields_ite (fun _ => calls_pure _) fun _ => (asks_preferredTargetExt _ _).handsOn _ _
    · intro targetExt
      apply Calls.bind ((asks_conversionTarget host job.payload.dict subject _ targetExt).handsOn _ _)
      intro targetPath
      apply Calls.bind (calls_perform trivial)
      intro _
      exact Calls.tryFinally (handsOn_convertOnce h _ _ _ _ _) (calls_perform trivial)

theorem handsOn_transcodeMedia (host : Host) (jobId : Nat) (job : Job) :
    HandsOn jobId job (transcodeMedia host jobId job) := by
  apply Calls.bind (calm_touchActive jobId job _ _).handsOn
  intro _
  apply Calls.bind (handsOn_postprocessDownloadWithFfmpeg _ _)
  intro saved
  cases saved with
  | none => exact calls_pure _
  | some download =>
    apply Calls.bind
    · exact yields_ite (fun _ => calls_pure _) fun _ => (asks_preferredMediaKind _ _ _).handsOn _ _
    · intro mediaKind
      exact handsOn_createAndPublish (followUp_transcriptArgs _ _ _ _ _ _)

theorem handsOn_enqueueNextStage (pk : Json) (download : Download) :
    HandsOn jobId job (enqueueNextStage host job job.payload.dict pk download) := by
  apply Calls.bind ((asks_downloadRequiresFfmpeg host download job.payload.dict).handsOn _ _)
  intro requirement
  apply yields_ite
  · exact fun _ => handsOn_createAndPublish (followUp_conversion _ _ _ _)
  · exact fun _ => handsOn_createAndPublish (followUp_transcriptArgs _ _ _ _ _ _)

variable (host jobId job) in
theorem handsOn_continueDownload (pk : Json) :
    HandsOn jobId job (continueDownload host job job.payload.dict pk) := by
  apply Calls.bind (calls_perform trivial)
  intro found
  cases found with
  | none => exact calls_pure _
  | some download => exact handsOn_enqueueNextStage pk download

end

end GetOffline
