import GetOffline.HandlerRules

set_option autoImplicit true

namespace GetOffline
open Python Effects Program

/-- The copy differs from the job at most in what a touch notes. -/
def Touched (job copy : Job) : Prop :=
  ∀ key, key ≠ "active_stage" → key ≠ "active_title" →
    Json.get key copy.payload.dict = Json.get key job.payload.dict

theorem Touched.refl (job : Job) : Touched job job :=
  fun _ _ _ => rfl

theorem Touched.touch (h : Touched job copy) (ht : touchActiveJob now stage title copy = some copy') :
    Touched job copy' := by
  intro key hstage htitle
  rw [get_touchActiveJob ht hstage htitle, h key hstage htitle]

/-- A call that is quiet or touches the job. -/
def HandlerOp.IsCalm (jobId : Nat) (job : Job) : HandlerOp β → Prop
  | .saveTouch id copy => id = jobId ∧ Touched job copy
  | op => op.IsQuiet

theorem HandlerOp.IsQuiet.isCalm {op : HandlerOp β} (h : op.IsQuiet) (jobId : Nat) (job : Job) :
    op.IsCalm jobId job := by
  cases op <;> first | exact h | exact False.elim h

abbrev Calm (jobId : Nat) (job : Job) (p : Handler α) : Prop :=
  p.Calls fun op => op.IsCalm jobId job

theorem Quiet.calm {p : Handler α} (h : Quiet p) (jobId : Nat) (job : Job) : Calm jobId job p :=
  h.mono (fun _ hop => hop.isCalm jobId job) fun _ _ => trivial

theorem Asks.calm {p : Handler α} (h : Asks p) (jobId : Nat) (job : Job) : Calm jobId job p :=
  h.quiet.calm jobId job

theorem yields_touchActive {jobId : Nat} {job copy : Job} (h : Touched job copy)
    (stage title : String) :
    (touchActive jobId copy stage title).Yields (fun op => op.IsCalm jobId job) (Touched job) := by
  apply Yields.bind (calls_perform trivial)
  intro now _
  cases ht : touchActiveJob now stage title copy with
  | none => exact yields_pure h
  | some copy' =>
    have htouched := h.touch ht
    apply Yields.bind (calls_perform ⟨rfl, htouched⟩)
    exact fun _ _ => yields_pure htouched

theorem calm_touchActive (jobId : Nat) (job : Job) (stage title : String) :
    Calm jobId job (touchActive jobId job stage title) :=
  (yields_touchActive (Touched.refl job) stage title).mono (fun _ h => h) fun _ _ => trivial

/-- Without links. -/
def AllReal (host : Host) (files : List Path) : Prop :=
  ∀ file ∈ files, host.real file = file

theorem real_resolve (host : Host) (text : String) : host.real (host.resolve text) = host.resolve text :=
  host.real_real _

theorem yields_addDownloadedFile {host : Host} {files : List Path} (h : AllReal host files)
    (candidate : Json) :
    (addDownloadedFile host files candidate).Yields (fun op => op.IsQuiet) (AllReal host) := by
  apply yields_ite
  · intro _
    cases candidate with
    | string text =>
      apply Yields.bind (calls_perform trivial)
      intro node _
      apply yields_pure
      split
      · intro file hfile
        rcases List.mem_append.1 hfile with hfile | hfile
        · exact h file hfile
        · rw [List.mem_singleton.1 hfile, real_resolve]
      · exact h
    | null => exact yields_raise _
    | bool b => exact yields_raise _
    | int n => exact yields_raise _
    | float x => exact yields_raise _
    | array items => exact yields_raise _
    | object items => exact yields_raise _
  · exact fun _ => yields_pure h

theorem yields_findDownloadedFiles (host : Host) (info : Columns) :
    (findDownloadedFiles host info).Yields (fun op => op.IsQuiet) (AllReal host) := by
  apply Yields.bind
  · apply Yields.foldlM
    · exact fun files candidate _ h => yields_addDownloadedFile h candidate
    · exact List.forall_mem_nil _
  · intro files hfiles
    apply Yields.bind (calls_perform trivial)
    exact fun prepared _ => yields_addDownloadedFile hfiles _

/-- What the hooks carry along. -/
def HookState (host : Host) (job : Job) (state : Job × List Path) : Prop :=
  Touched job state.1 ∧ AllReal host state.2

theorem yields_rememberFinishedDownload {host : Host} {job : Job} {state : Job × List Path}
    (h : HookState host job state) (jobId : Nat) (payload : Columns) (url : String) (event : Columns) :
    (rememberFinishedDownload host jobId payload url state event).Yields
      (fun op => op.IsCalm jobId job) (HookState host job) := by
  unfold rememberFinishedDownload
  dsimp only
  split
  · apply Yields.bind (yields_touchActive h.1 _ _)
    exact fun copy hcopy => yields_pure ⟨hcopy, h.2⟩
  · apply Yields.bind ((yields_addDownloadedFile h.2 _).mono (fun _ hop => hop.isCalm jobId job)
      fun _ ha => ha)
    exact fun files hfiles => yields_pure ⟨h.1, hfiles⟩
  · exact yields_pure h

theorem asks_downloadRequest (host : Host) (payload : Columns) : Asks (downloadRequest host payload) := by
  apply Calls.bind (yields_ite (fun _ => calls_perform trivial) fun _ => calls_pure _)
  exact fun _ => calls_pure _

theorem asks_downloadDuration (info : Columns) : Asks (downloadDuration info) := by
  apply yields_ite
  · exact fun _ => Calls.bind (calls_ofExcept _) fun _ => calls_pure _
  · exact fun _ => calls_pure _

theorem asks_downloadedSize (file : Path) : Asks (downloadedSize file) := by
  apply Calls.bind (calls_perform trivial)
  intro node
  apply yields_ite
  · exact fun _ => Calls.bind (asks_fileSize file) fun _ => calls_pure _
  · exact fun _ => calls_pure _

theorem asks_ffmpegInputFiles (mediaKind : String) (file : Path) (files : List Path) :
    Asks (ffmpegInputFiles mediaKind file files) := by
  apply yields_ite
  · exact fun _ => calls_pure _
  · exact fun _ => Calls.bind (asks_missingPaths _ _) fun _ => calls_pure _

section
variable {host : Host} {jobId : Nat} {job : Job} {payload : Columns} {rules : Rules}
  {Q : Except Error DownloadResult → List Record → Prop}

/-- What a download comes to once a file is there: the file stands under no link, and its row or its
conversion is made of the columns that the payload and yt-dlp give. -/
structure Arrival (host : Host) (profileId : String) (payload : Columns) where
  url : String
  sourceType : SourceType
  sourceName : String
  itemUid : String
  info : Columns
  outputRoot : Path
  file : Path
  duration : Json
  size : Json
  inputs : List Path
  target : String
  converted : Bool
  now : Instant
  real_file : host.real file = file

namespace Arrival
variable {profileId : String}

def lookup (a : Arrival host profileId payload) : Columns :=
  downloadLookup profileId a.sourceType a.sourceName a.itemUid

def defaults (a : Arrival host profileId payload) : Columns :=
  downloadDefaults host payload a.info a.url a.itemUid a.file a.outputRoot a.duration a.size

def mediaKind (a : Arrival host profileId payload) : String :=
  downloadMediaKind host payload a.sourceType

def conversion (a : Arrival host profileId payload) : Columns :=
  transcodePayload payload a.sourceType a.file a.inputs a.target a.outputRoot.str a.mediaKind a.itemUid

def store (a : Arrival host profileId payload) : Handler DownloadResult :=
  storeDownload host profileId payload a.lookup a.defaults (timeColumns a.now) a.mediaKind a.file
    (if a.converted then some a.conversion else none)

end Arrival

variable {past : List Record}
  (hcalm : ∀ past {β} (op : HandlerOp β), op.IsCalm jobId job → rules.permits past op)
  (hstore : ∀ (a : Arrival host job.profileId payload) past',
    Extends (fun op => op.IsCalm jobId job) past past' → a.store.Meets rules.contract Q past')
  (hskip : ∀ past', Extends (fun op => op.IsCalm jobId job) past past' → Q (.ok .skipped) past')
  (herror : ∀ e past', Extends (fun op => op.IsCalm jobId job) past past' → Q (.error e) past')
include hcalm hstore herror

theorem recordDownload_meets {past' : List Record} (url : String) (sourceType : SourceType)
    (sourceName : String) (info : Columns) (outputRoot outputDir file : Path) (files : List Path)
    (hreal : host.real file = file) (h : Extends (fun op => op.IsCalm jobId job) past past') :
    (recordDownload host job.profileId payload info url sourceType sourceName outputRoot outputDir file
      files).Meets rules.contract Q past' := by
  have hnow : Asks (perform .now : Handler Instant) := calls_perform trivial
  apply Yields.bind_meets h (hnow.calm jobId job) hcalm herror
  intro now past₁ _ h
  apply Yields.bind_meets h ((asks_downloadDuration info).calm jobId job) hcalm herror
  intro duration past₂ _ h
  apply Yields.bind_meets h ((asks_downloadedSize file).calm jobId job) hcalm herror
  intro size past₃ _ h
  apply Yields.bind_meets h ((asks_ffmpegInputFiles _ file files).calm jobId job) hcalm herror
  intro inputs past₄ _ h
  apply Yields.bind_meets h
    ((asks_downloadedMediaRequiresFfmpeg _ _ _ inputs.length).calm jobId job) hcalm herror
  intro requirement past₅ _ h
  have hflow := hstore {
    url, sourceType, sourceName, info, outputRoot, file, duration, size, inputs, now
    itemUid := cut255 (host.textOr (some (firstOf (Json.get "item_uid" payload) (Json.get "id" info)))
      url)
    target :=
      if downloadMediaKind host payload sourceType = "video" ∧
          (1 < inputs.length ∨ lower file.extension ≠ requirement.targetExt) then
        (outputDir.join (videoTargetName file requirement.targetExt)).str
      else ""
    converted := requirement.requiresFfmpeg
    real_file := hreal } past₅ h
  dsimp only [Arrival.store, Arrival.lookup, Arrival.defaults, Arrival.mediaKind, Arrival.conversion]
    at hflow ⊢
  exact hflow

include hskip

theorem recordInfo_meets {past' : List Record} (url : String) (sourceType : SourceType)
    (sourceName : String) (outputRoot outputDir : Path) (finished : List Path) (info : Json)
    (hreal : AllReal host finished) (h : Extends (fun op => op.IsCalm jobId job) past past') :
    (recordInfo host job.profileId payload url sourceType sourceName outputRoot outputDir finished
      info).Meets rules.contract Q past' := by
  unfold recordInfo
  cases Json.orElse (some info) (.object []) with
  | object info =>
    apply Yields.bind_meets h ((yields_findDownloadedFiles host info).mono
      (fun _ hop => hop.isCalm jobId job) fun _ ha => ha) hcalm herror
    intro found past₁ hfound h
    have hall : AllReal host (found ++ finished.filter fun path => path ∉ found) := by
      intro file hfile
      rcases List.mem_append.1 hfile with hfile | hfile
      · exact hfound file hfile
      · exact hreal file (List.mem_of_mem_filter hfile)
    cases hfiles : found ++ finished.filter fun path => path ∉ found with
    | nil => exact meets_pure.2 (hskip past₁ h)
    | cons file files =>
      rw [hfiles] at hall
      exact recordDownload_meets hcalm hstore herror url sourceType sourceName info outputRoot
        outputDir file (file :: files) (hall file List.mem_cons_self) h
  | null => exact meets_pure.2 (hskip past' h)
  | bool b => exact meets_pure.2 (hskip past' h)
  | int n => exact meets_pure.2 (hskip past' h)
  | float x => exact meets_pure.2 (hskip past' h)
  | string text => exact meets_pure.2 (hskip past' h)
  | array items => exact meets_pure.2 (hskip past' h)

/-- A download comes to nothing, raises, or gets as far as a file. -/
theorem downloadWithYtDlp_meets :
    (downloadWithYtDlp host jobId job payload).Meets rules.contract Q past := by
  apply Yields.bind_meets (Extends.refl past) ((asks_downloadRequest host payload).calm jobId job)
    hcalm herror
  intro request past₁ _ h
  cases request with
  | none => exact meets_pure.2 (hskip past₁ h)
  | some request =>
    obtain ⟨url, sourceType, sourceName⟩ := request
    apply Yields.bind_meets h ((asks_downloadOutputRoot host job.profileId).calm jobId job) hcalm
      herror
    intro outputRoot past₂ _ h
    have hmkdir : Quiet (perform (.mkdir (outputRoot.join (host.sanitizeChannelName sourceName)))) :=
      calls_perform trivial
    apply Yields.bind_meets h (hmkdir.calm jobId job) hcalm herror
    intro _ past₃ _ h
    have hevents : Quiet (perform (.downloadEvents url)) := calls_perform trivial
    apply Yields.bind_meets h (hevents.calm jobId job) hcalm herror
    intro events past₄ _ h
    have hhooks : (events.foldlM (rememberFinishedDownload host jobId payload url) (job, [])).Yields
        (fun op => op.IsCalm jobId job) (HookState host job) := by
      apply Yields.foldlM
      · intro state event _ hstate
        exact yields_rememberFinishedDownload hstate jobId payload url event
      · exact ⟨Touched.refl job, List.forall_mem_nil _⟩
    apply Yields.bind_meets h hhooks hcalm herror
    intro state past₅ hstate h
    have hextract (outputTemplate : String) : Quiet (perform (.extractInfo url outputTemplate)) :=
      calls_perform trivial
    apply Yields.bind_meets h ((hextract _).calm jobId job) hcalm herror
    intro info past₆ _ h
    cases info with
    | error exc =>
      apply meets_ite
      · exact fun _ => meets_pure.2 (hskip past₆ h)
      · exact fun _ => meets_raise.2 (herror _ past₆ h)
    | ok info =>
      exact recordInfo_meets hcalm hstore hskip herror url sourceType sourceName outputRoot _ state.2
        info hstate.2 h

end

end GetOffline
