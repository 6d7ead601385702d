import GetOffline.ScreeningEffects

set_option autoImplicit true

namespace GetOffline
open Python Effects Program Execution

/-- A download job with which the screening of a video begins. -/
def StartsScreening (job : Job) : Prop :=
  job.jobType ∈ ["download_episode", "download_single"] ∧ Unscreened job.payload.dict

/-- Jobs that were there before are run only when they are such downloads, and no request comes in. -/
def PipelineEvent.Screened (library : Library) : PipelineEvent → Prop
  | .startJob id => ∀ job, library.database.jobs.lookup id = some job → StartsScreening job
  | .batchDownload _ _ | .manualUpload _ _ => False
  | _ => True

/-- The process has written a row for the episode, after a screening of its media. -/
def Process.Exposes (host : Host) (key : EpisodeKey) (process : Process) : Prop :=
  ∃ defaults answer,
    (⟨.updateOrCreateDownload key.lookup defaults, answer⟩ : Record) ∈ process.past ∧
    Cleared host process.past defaults

def Pipeline.Exposed (host : Host) (key : EpisodeKey) (w : Pipeline) : Prop :=
  ∃ process ∈ w.processes, process.Exposes host key

/-- The row of an episode that has been exposed. -/
def Pipeline.ShownRow (host : Host) (w : Pipeline) (id : Nat) : Prop :=
  ∃ row, w.library.downloads.rows.lookup id = some row ∧
    ∃ key : EpisodeKey, key.lookup.matches row = true ∧ w.Exposed host key

/-- The key under which a job's row is exposed, as far as the tables tell. -/
def Pipeline.ShownPk (host : Host) (w : Pipeline) (pk : Json) : Prop :=
  ∀ id : Nat, pk.toInt = .ok (id : Int) → w.ShownRow host id

theorem Unscreened.touched (h : Unscreened job.payload.dict) (ht : Touched job copy) :
    Unscreened copy.payload.dict where
  video := (ht "media_type" (by decide) (by decide)).trans h.video
  flagged := by
    rw [isTrue, ht "delete_explicit_content" (by decide) (by decide)]
    exact h.flagged
  unsaved := by
    rw [downloadPk, ht "download_id" (by decide) (by decide)]
    exact h.unsaved

theorem Carries.touched {exposed : Json → Prop} (h : Carries host exposed jobType job.payload.dict)
    (ht : Touched job copy) : Carries host exposed jobType copy.payload.dict where
  kind := h.kind
  saved := by
    rw [downloadPk, ht "download_id" (by decide) (by decide)]
    exact h.saved
  download := by
    intro htype hpk
    rw [downloadPk, ht "download_id" (by decide) (by decide)] at hpk
    exact (h.download htype hpk).touched ht
  conversion := by
    intro htype lookup defaults hlookup hdefaults
    rw [payloadObject_congr (ht "download_lookup" (by decide) (by decide))] at hlookup
    rw [payloadObject_congr (ht "download_defaults" (by decide) (by decide))] at hdefaults
    obtain ⟨hunscreened, hrest⟩ := h.conversion htype lookup defaults hlookup hdefaults
    exact ⟨hunscreened.touched ht, hrest⟩
  screening := by
    intro htype lookup defaults hlookup hdefaults
    rw [payloadObject_congr (ht "deferred_download_lookup" (by decide) (by decide))] at hlookup
    rw [payloadObject_congr (ht "deferred_download_defaults" (by decide) (by decide))] at hdefaults
    rw [ht "deferred_media_path" (by decide) (by decide)]
    exact h.screening htype lookup defaults hlookup hdefaults

theorem Carries.mono {exposed exposed' : Json → Prop} (h : Carries host exposed jobType payload)
    (himp : ∀ pk, exposed pk → exposed' pk) : Carries host exposed' jobType payload where
  kind := h.kind
  saved hpk := himp _ (h.saved hpk)
  download := h.download
  conversion := h.conversion
  screening := h.screening

namespace Pipeline
variable {host : Host} {w t : Pipeline}

/-- Rows stay rows of their episodes, jobs keep their types, and what has been done stays done. -/
structure Grows (w t : Pipeline) : Prop where
  rows : ∀ i row (key : EpisodeKey), w.library.downloads.rows.lookup i = some row →
    key.lookup.matches row = true →
    ∃ row', t.library.downloads.rows.lookup i = some row' ∧ key.lookup.matches row' = true
  ids : ∀ i row, w.library.downloads.rows.lookup i = some row →
    ∃ row', t.library.downloads.rows.lookup i = some row'
  kinds : ∀ i row, w.library.database.jobs.lookup i = some row →
    ∃ row', t.library.database.jobs.lookup i = some row' ∧ row'.jobType = row.jobType
  pasts : ∀ process ∈ w.processes, ∃ process' ∈ t.processes, process.past ⊆ process'.past

theorem Exposed.grows (h : w.Exposed host key) (hg : w.Grows t) : t.Exposed host key := by
  obtain ⟨process, hprocess, defaults, answer, hwrite, media, hnames, hpassed⟩ := h
  obtain ⟨process', hprocess', hsub⟩ := hg.pasts process hprocess
  exact ⟨process', hprocess', defaults, answer, hsub hwrite, media, hnames, hpassed.mono hsub⟩

theorem ShownRow.grows {i : Nat} (h : w.ShownRow host i) (hg : w.Grows t) : t.ShownRow host i := by
  obtain ⟨row, hrow, key, hkey, hexposed⟩ := h
  obtain ⟨row', hrow', hkey'⟩ := hg.rows i row key hrow hkey
  exact ⟨row', hrow', key, hkey', hexposed.grows hg⟩

theorem ShownPk.grows (h : w.ShownPk host pk) (hg : w.Grows t) : t.ShownPk host pk :=
  fun i hi => (h i hi).grows hg

end Pipeline

/-- A job that has been made on the way, or one of those with which it begins. -/
def Begins (library : Library) (i : Nat) : Prop :=
  ∀ job, library.database.jobs.lookup i = some job → StartsScreening job

/-- A process runs for a job that carries what it has to, keeps to the rules, and was told the truth
about the rows that it has written. -/
structure Process.Guarded (host : Host) (library : Library) (w : Pipeline) (process : Process)
    (i : Nat) (job : Job) : Prop where
  origin : process.origin = .job i job
  begins : Begins library i
  kind : ∃ row, w.library.database.jobs.lookup i = some row ∧ row.jobType = job.jobType
  carries : Carries host (w.ShownPk host) job.jobType job.payload.dict
  follows : process.Follows (screeningRules host i job)
  answers : ∀ lookup defaults download,
    (⟨.updateOrCreateDownload lookup defaults, .ok download⟩ : Record) ∈ process.past →
    ∃ key : EpisodeKey, lookup = key.lookup ∧
      ∃ row, w.library.downloads.rows.lookup download.id = some row ∧ key.lookup.matches row = true
  saves : ∀ id fields, (⟨.saveDownload id fields, .ok ()⟩ : Record) ∈ process.past →
    ∃ row, w.library.downloads.rows.lookup id = some row

theorem Process.Guarded.grows (h : Process.Guarded host library w process i job) (hg : w.Grows t) :
    Process.Guarded host library t process i job where
  origin := h.origin
  begins := h.begins
  kind := by
    obtain ⟨row, hrow, hkind⟩ := h.kind
    obtain ⟨row', hrow', hkind'⟩ := hg.kinds i row hrow
    exact ⟨row', hrow', hkind'.trans hkind⟩
  carries := h.carries.mono fun _ hpk => hpk.grows hg
  follows := h.follows
  answers := by
    intro lookup defaults download hrecord
    obtain ⟨key, hlookup, row, hrow, hkey⟩ := h.answers lookup defaults download hrecord
    exact ⟨key, hlookup, hg.rows _ row key hrow hkey⟩
  saves := by
    intro id fields hrecord
    obtain ⟨row, hrow⟩ := h.saves id fields hrecord
    exact hg.ids _ row hrow

/-- What a process takes for a row that may be seen is one. -/
theorem Process.Guarded.shownRow {n : Nat} (h : Process.Guarded host library w process i job)
    (hprocess : process ∈ w.processes) (hshown : IsShown host job process.past n) :
    w.ShownRow host n := by
  rcases hshown with ⟨hpk, hid⟩ | ⟨key, defaults, download, hwrite, hcleared, rfl⟩
  · exact h.carries.saved hpk n hid
  · obtain ⟨key', hlookup, row, hrow, hkey⟩ := h.answers key.lookup defaults download hwrite
    rw [← hlookup] at hkey
    exact ⟨row, hrow, key, hkey, process, hprocess, defaults, _, hwrite, hcleared⟩

theorem Process.Guarded.shownPk (h : Process.Guarded host library w process i job)
    (hprocess : process ∈ w.processes) (hexposed : IsExposed host job process.past pk) :
    w.ShownPk host pk := by
  obtain ⟨n, hn, hshown⟩ := hexposed
  intro n' hn'
  have hsame : n' = n := Int.ofNat.inj (Except.ok.inj (hn'.symm.trans hn))
  rw [hsame]
  exact h.shownRow hprocess hshown

/-- The invariant: every job carries what it has to, and every process is guarded. -/
structure Pipeline.Guarded (host : Host) (library : Library) (w : Pipeline) : Prop where
  jobs : ∀ i job, w.library.database.jobs.lookup i = some job → Begins library i →
    Carries host (w.ShownPk host) job.jobType job.payload.dict
  processes : ∀ process ∈ w.processes, ∃ i job, Process.Guarded host library w process i job

/-- A row of the episode is downloaded only once it has been exposed. -/
def Pipeline.DownloadedExposed (host : Host) (key : EpisodeKey) (w : Pipeline) : Prop :=
  ∀ i row, w.library.downloads.rows.lookup i = some row → key.lookup.matches row = true →
    rowStatus row = some DownloadStatus.downloaded.json → w.Exposed host key

namespace Pipeline
variable {host : Host} {library : Library} {key : EpisodeKey} {w t : Pipeline}

/-- What a step has to show. -/
theorem Guarded.step (h : w.Guarded host library) (hg : w.Grows t)
    (hjobs : ∀ i row, t.library.database.jobs.lookup i = some row → Begins library i →
      (∃ old, w.library.database.jobs.lookup i = some old ∧ old.jobType = row.jobType ∧ Touched old row) ∨
        Carries host (t.ShownPk host) row.jobType row.payload.dict)
    (hprocesses : ∀ process ∈ t.processes, process ∈ w.processes ∨
      ∃ i job, Process.Guarded host library t process i job) :
    t.Guarded host library where
  jobs i row hrow hbegins := by
    rcases hjobs i row hrow hbegins with ⟨old, hold, hkind, htouched⟩ | hcarries
    · rw [← hkind]
      exact ((h.jobs i old hold hbegins).touched htouched).mono fun _ hpk => hpk.grows hg
    · exact hcarries
  processes process hprocess := by
    rcases hprocesses process hprocess with hold | hnew
    · obtain ⟨i, job, hguarded⟩ := h.processes process hold
      exact ⟨i, job, hguarded.grows hg⟩
    · exact hnew

theorem DownloadedExposed.step (h : w.DownloadedExposed host key) (hg : w.Grows t)
    (hrows : ∀ i row, t.library.downloads.rows.lookup i = some row → key.lookup.matches row = true →
      rowStatus row = some DownloadStatus.downloaded.json →
      (∃ old, w.library.downloads.rows.lookup i = some old ∧ key.lookup.matches old = true ∧
        rowStatus old = some DownloadStatus.downloaded.json) ∨ t.Exposed host key) :
    t.DownloadedExposed host key := by
  intro i row hrow hkey hstatus
  rcases hrows i row hrow hkey hstatus with ⟨old, hold, hkey', hstatus'⟩ | hexposed
  · exact (h i old hold hkey' hstatus').grows hg
  · exact hexposed

/-- A process in place of another one that has done less. -/
theorem pasts_set {process process' : Process} (hi : w.processes[i]? = some process)
    (hsub : process.past ⊆ process'.past) :
    ∀ p ∈ w.processes, ∃ p' ∈ w.processes.set i process', p.past ⊆ p'.past := by
  intro p hp
  obtain ⟨j, hj⟩ := List.mem_iff_getElem?.1 hp
  by_cases hji : j = i
  · subst j
    obtain rfl := Option.some.inj (hi.symm.trans hj)
    exact ⟨process', List.mem_set (List.getElem?_eq_some_iff.1 hi).1 _, hsub⟩
  · refine ⟨p, List.mem_of_getElem? (i := j) ?_, List.Subset.refl _⟩
    exact (List.getElem?_set_ne (Ne.symm hji)).trans hj

/-- What stays as it was when the tables of rows and of jobs' types do. -/
theorem grows_of_library (hdownloads : t.library.downloads = w.library.downloads)
    (hkinds : ∀ i row, w.library.database.jobs.lookup i = some row →
      ∃ row', t.library.database.jobs.lookup i = some row' ∧ row'.jobType = row.jobType)
    (hpasts : ∀ process ∈ w.processes, ∃ process' ∈ t.processes, process.past ⊆ process'.past) :
    w.Grows t where
  rows i row key hrow hkey := by
    rw [hdownloads]
    exact ⟨row, hrow, hkey⟩
  ids i row hrow := by
    rw [hdownloads]
    exact ⟨row, hrow⟩
  kinds := hkinds
  pasts := hpasts

theorem grows_step {event : PipelineEvent} (h : w.Guarded host library)
    (hstep : w.step host event = some t) : w.Grows t := by
  have hsame : ∀ process ∈ w.processes, ∃ process' ∈ w.processes, process.past ⊆ process'.past :=
    fun process hprocess => ⟨process, hprocess, List.Subset.refl _⟩
  have hstart (origin : Origin) (hstart : w.start host origin = some t) : w.Grows t := by
    obtain ⟨program, -, rfl⟩ := start_spec hstart
    apply grows_of_library
    · rfl
    · exact fun i row hrow => ⟨row, hrow, rfl⟩
    · exact fun process hprocess => ⟨process, List.mem_append_left _ hprocess, List.Subset.refl _⟩
  cases event with
  | startJob i =>
    obtain ⟨job, -, hjob⟩ := Option.bind_eq_some_iff.1 hstep
    exact hstart _ hjob
  | batchDownload profileId ids => exact hstart _ hstep
  | manualUpload profileId names => exact hstart _ hstep
  | advance i reply =>
    obtain ⟨process, hi, β, op, k, r, hop, hrun, rfl⟩ := advance_spec hstep
    obtain ⟨jobId, job, hguarded⟩ := h.processes process (List.mem_of_getElem? hi)
    have hpermits : op.Screens host jobId job process.past := hguarded.follows.permits hop
    exact {
      rows := fun i row key hrow hkey =>
        rows_keep hpermits.keepsRows hrun hrow key.columns_lookup hkey
      ids := fun i row hrow => ids_keep hrun hrow
      kinds := fun i row hrow => jobs_keep hrun hrow
      pasts := pasts_set hi (List.subset_append_left _ _) }
  | crash i =>
    obtain ⟨process, hi, rfl⟩ := Option.map_eq_some_iff.1 hstep
    apply grows_of_library
    · rfl
    · exact fun n row hrow => ⟨row, hrow, rfl⟩
    · exact pasts_set hi (List.Subset.refl _)
  | work i work =>
    obtain rfl := Option.some.inj hstep
    apply grows_of_library
    · rfl
    · exact fun n row hrow => kinds_save (jobType_work work) i w.library.database hrow
    · exact hsame
  | configure sources settings appSettings =>
    obtain rfl := Option.some.inj hstep
    exact grows_of_library rfl (fun n row hrow => ⟨row, hrow, rfl⟩) hsame
  | changeFiles files =>
    obtain rfl := Option.some.inj hstep
    exact grows_of_library rfl (fun n row hrow => ⟨row, hrow, rfl⟩) hsame

theorem follows_start {i : Nat} {job : Job} {exposed : Json → Prop} {program : Handler Unit}
    (h : Carries host exposed job.jobType job.payload.dict)
    (hprogram : jobHandler host i job = some program) :
    Process.Follows (screeningRules host i job) ⟨.job i job, [], program⟩ := by
  have hmeets : program.Meets (screeningRules host i job).contract (Returns fun _ _ => True) [] := by
    rcases h.handler hprogram with ⟨htype, rfl⟩ | ⟨htype, rfl⟩ | ⟨htype, rfl⟩
    · exact downloadEpisode_meets h htype
    · exact transcodeMedia_meets h htype
    · exact generateTranscript_meets h htype
  exact hmeets.mono fun _ _ _ => trivial

theorem Guarded.startJob {i : Nat} (h : w.Guarded host library) (hevent : Begins library i)
    (hstep : w.step host (.startJob i) = some t) : t.Guarded host library := by
  have hgrows := grows_step h hstep
  obtain ⟨job, hjob, hstart⟩ := Option.bind_eq_some_iff.1 hstep
  obtain ⟨program, hprogram, rfl⟩ := start_spec hstart
  have hcarries := h.jobs i job hjob hevent
  apply h.step hgrows
  · exact fun n row hrow _ => .inl ⟨row, hrow, rfl, Touched.refl row⟩
  · intro process hprocess
    rcases List.mem_append.1 hprocess with hold | hnew
    · exact .inl hold
    · right
      obtain rfl := List.mem_singleton.1 hnew
      exact ⟨i, job, {
        origin := rfl
        begins := hevent
        kind := ⟨job, hjob, rfl⟩
        carries := hcarries.mono fun _ hpk => hpk.grows hgrows
        follows := follows_start hcarries hprogram
        answers := fun _ _ _ hrecord => absurd hrecord List.not_mem_nil
        saves := fun _ _ hrecord => absurd hrecord List.not_mem_nil }⟩

theorem Guarded.advance {i : Nat} {reply : Reply} (h : w.Guarded host library)
    (hstep : w.step host (.advance i reply) = some t) : t.Guarded host library := by
  have hgrows := grows_step h hstep
  obtain ⟨process, hi, β, op, k, r, hop, hrun, rfl⟩ := advance_spec hstep
  have hprocess : process ∈ w.processes := List.mem_of_getElem? hi
  obtain ⟨jobId, job, hguarded⟩ := h.processes process hprocess
  have hgrown := hguarded.grows hgrows
  have hpermits : op.Screens host jobId job process.past := hguarded.follows.permits hop
  apply h.step hgrows
  · intro n row hrow hbegins
    rcases job_cases hpermits hrun hrow with hold | hcarries | ⟨rfl, htouched, old, hold, hkind⟩
    · exact .inl hold
    · right
      apply hcarries.mono
      exact fun pk hpk => (hguarded.shownPk hprocess hpk).grows hgrows
    · right
      obtain ⟨row', hrow', hkind'⟩ := hguarded.kind
      obtain rfl := Option.some.inj (hold.symm.trans hrow')
      rw [← hkind, hkind']
      exact hgrown.carries.touched htouched
  · intro p hp
    rcases mem_called hp with rfl | hold
    · right
      exact ⟨jobId, job, {
        origin := hguarded.origin
        begins := hguarded.begins
        kind := hgrown.kind
        carries := hgrown.carries
        follows := hguarded.follows.called hop (tells_run hrun)
        answers := by
          intro lookup defaults download hrecord
          rcases List.mem_append.1 hrecord with hold | hlast
          · exact hgrown.answers lookup defaults download hold
          · exact answered_row hpermits hrun (List.mem_singleton.1 hlast).symm
        saves := by
          intro id fields hrecord
          rcases List.mem_append.1 hrecord with hold | hlast
          · exact hgrown.saves id fields hold
          · exact saved_row hrun (List.mem_singleton.1 hlast).symm }⟩
    · exact .inl hold

theorem Guarded.crash {i : Nat} (h : w.Guarded host library)
    (hstep : w.step host (.crash i) = some t) : t.Guarded host library := by
  have hgrows := grows_step h hstep
  obtain ⟨process, hi, rfl⟩ := Option.map_eq_some_iff.1 hstep
  apply h.step hgrows
  · exact fun n row hrow _ => .inl ⟨row, hrow, rfl, Touched.refl row⟩
  · intro p hp
    rcases List.mem_or_eq_of_mem_set hp with hold | rfl
    · exact .inl hold
    · right
      obtain ⟨jobId, job, hguarded⟩ := h.processes process (List.mem_of_getElem? hi)
      have hnew := hguarded.grows hgrows
      exact ⟨jobId, job, { hnew with follows := Process.follows_crashed trivial }⟩

theorem Guarded.work {i : Nat} (work : JobWork) (h : w.Guarded host library)
    (hstep : w.step host (.work i work) = some t) : t.Guarded host library := by
  have hgrows := grows_step h hstep
  obtain rfl := Option.some.inj hstep
  apply h.step hgrows
  · intro n row hrow _
    left
    dsimp only at hrow
    rw [Database.save, lookup_saveFields] at hrow
    split at hrow
    · next hn =>
      subst n
      obtain ⟨old, hold, rfl⟩ := Option.map_eq_some_iff.1 hrow
      exact ⟨old, hold, (jobType_work work old).symm, touched_work work old⟩
    · exact ⟨row, hrow, rfl, Touched.refl row⟩
  · exact fun process hprocess => .inl hprocess

theorem guarded_step {event : PipelineEvent} (h : w.Guarded host library)
    (hevent : event.Screened library) (hstep : w.step host event = some t) :
    t.Guarded host library := by
  cases event with
  | startJob i => exact h.startJob hevent hstep
  | batchDownload profileId ids => exact hevent.elim
  | manualUpload profileId names => exact hevent.elim
  | advance i reply => exact h.advance hstep
  | crash i => exact h.crash hstep
  | work i work => exact h.work work hstep
  | configure sources settings appSettings =>
    have hgrows := grows_step h hstep
    obtain rfl := Option.some.inj hstep
    exact h.step hgrows (fun n row hrow _ => .inl ⟨row, hrow, rfl, Touched.refl row⟩)
      fun process hprocess => .inl hprocess
  | changeFiles files =>
    have hgrows := grows_step h hstep
    obtain rfl := Option.some.inj hstep
    exact h.step hgrows (fun n row hrow _ => .inl ⟨row, hrow, rfl, Touched.refl row⟩)
      fun process hprocess => .inl hprocess

theorem exposed_advance {i : Nat} {reply : Reply} (h : w.Guarded host library)
    (hrows : w.DownloadedExposed host key) (hstep : w.step host (.advance i reply) = some t) :
    t.DownloadedExposed host key := by
  have hgrows := grows_step h hstep
  obtain ⟨process, hi, β, op, k, r, hop, hrun, rfl⟩ := advance_spec hstep
  have hprocess : process ∈ w.processes := List.mem_of_getElem? hi
  obtain ⟨jobId, job, hguarded⟩ := h.processes process hprocess
  have hpermits : op.Screens host jobId job process.past := hguarded.follows.permits hop
  apply hrows.step hgrows
  intro n row hrow hkey hstatus
  rcases downloaded_cases hpermits hrun hrow hkey hstatus with
    hold | ⟨defaults, answer, hrecord, media, hnames, hpassed⟩ | hshown
  · exact .inl hold
  · right
    refine ⟨_, List.mem_set (List.getElem?_eq_some_iff.1 hi).1 _, defaults, answer, ?_, media, hnames,
      hpassed.mono (List.subset_append_left _ _)⟩
    rw [← hrecord]
    exact List.mem_append_right _ (List.mem_singleton_self _)
  · right
    obtain ⟨row', hrow', key', hkey', hexposed⟩ := (hguarded.shownRow hprocess hshown).grows hgrows
    obtain rfl := Option.some.inj (hrow.symm.trans hrow')
    rw [EpisodeKey.eq_of_matches hkey hkey']
    exact hexposed

theorem exposed_step {event : PipelineEvent} (h : w.Guarded host library)
    (hrows : w.DownloadedExposed host key) (hstep : w.step host event = some t) :
    t.DownloadedExposed host key := by
  have hsame (hdownloads : t.library.downloads = w.library.downloads) :
      t.DownloadedExposed host key := by
    apply hrows.step (grows_step h hstep)
    intro n row hrow hkey hstatus
    rw [hdownloads] at hrow
    exact .inl ⟨row, hrow, hkey, hstatus⟩
  have hstart (origin : Origin) (hstart : w.start host origin = some t) :
      t.DownloadedExposed host key := by
    obtain ⟨program, -, ht⟩ := start_spec hstart
    apply hsame
    rw [ht]
  cases event with
  | startJob i =>
    obtain ⟨job, -, hjob⟩ := Option.bind_eq_some_iff.1 hstep
    exact hstart _ hjob
  | batchDownload profileId ids => exact hstart _ hstep
  | manualUpload profileId names => exact hstart _ hstep
  | advance i reply => exact exposed_advance h hrows hstep
  | crash i =>
    obtain ⟨process, hi, ht⟩ := Option.map_eq_some_iff.1 hstep
    apply hsame
    rw [← ht]
  | work i work =>
    apply hsame
    rw [← Option.some.inj hstep]
  | configure sources settings appSettings =>
    apply hsame
    rw [← Option.some.inj hstep]
  | changeFiles files =>
    apply hsame
    rw [← Option.some.inj hstep]

theorem guarded_initial (host : Host) (library : Library) : (initial library).Guarded host library where
  jobs i job hjob hbegins := by
    obtain ⟨htype, hunscreened⟩ := hbegins job hjob
    exact {
      kind := List.mem_append_left ["transcode_media", "generate_transcript"] htype
      saved := fun hpk => absurd (hpk.symm.trans hunscreened.unsaved) (by decide)
      download := fun _ _ => hunscreened
      conversion := by
        intro hconversion
        rw [hconversion] at htype
        exact absurd htype (by decide)
      screening := by
        intro hscreening
        rw [hscreening] at htype
        exact absurd htype (by decide) }
  processes process hprocess := absurd hprocess List.not_mem_nil

end Pipeline

/-- A row of the episode says `downloaded` only once some process has made a transcript of the media in
the row, has looked it through without finding anything, and has written the row. -/
theorem downloaded_only_after_screening (host : Host) (library : Library) (key : EpisodeKey)
    (hnew : ∀ i row, library.downloads.rows.lookup i = some row → key.lookup.matches row = false)
    (events : List PipelineEvent) (hevents : ∀ event ∈ events, event.Screened library)
    (hrun : exec (Pipeline.step host) (Pipeline.initial library) events = some w)
    (hrow : w.library.downloads.rows.lookup i = some row) (hkey : key.lookup.matches row = true)
    (hstatus : rowStatus row = some DownloadStatus.downloaded.json) :
    w.Exposed host key := by
  have hok : Along (Pipeline.step host) (fun _ event => event.Screened library)
      (Pipeline.initial library) events :=
    along_of_forall hevents _ _
  have hguarded : w.Guarded host library ∧ w.DownloadedExposed host key := by
    apply exec_invariant _ _ hok hrun
    · intro w event t h hevent hstep
      exact ⟨Pipeline.guarded_step h.1 hevent hstep, Pipeline.exposed_step h.1 h.2 hstep⟩
    · refine ⟨Pipeline.guarded_initial host library, ?_⟩
      intro i row hrow hkey
      exact absurd (hkey.symm.trans (hnew i row hrow)) (by decide)
  exact hguarded.2 i row hrow hkey hstatus

/-- One download job of a video without conversion. -/
def screenedLibrary : Library where
  sources := ∅
  settings := AList.insert ("p", "output_root") "/d" (AList.insert ("p", "video_codec") "copy" ∅)
  appSettings := ∅
  downloads := ⟨∅, 1, fun _ _ => rfl⟩
  database := Database.empty.create {
    profileId := "p"
    jobType := "download_single"
    status := .queued
    payload := .object [("url", .string "https://youtu.be/v1"), ("source_type", .string "youtube"),
      ("source_name", .string "N"), ("item_uid", .string "v1"), ("media_type", .string "video"),
      ("delete_explicit_content", .bool true)]
    idempotencyKey := none
    errorMessage := none
    createdAt := 0
    updatedAt := 0
    startedAt := none
    finishedAt := none }
  files := ∅

def screenedKey : EpisodeKey :=
  ⟨"p", .youtube, "N", "v1"⟩

/-- What the calls of that job meet, up to the row. -/
def screenedReplies : List Reply :=
  let media := Path.parse "/d/N/a.mp4"
  let subtitle := Path.parse "/d/N/a.srt"
  let files : Files := AList.insert media (.file 7) ∅
  [{}, {}, {}, { info := .ok (.object [("filepath", .string "/d/N/a.mp4")]), files := some files }, {},
    { filename := "/d/N/a.mp4" }, {}, {}, {}, {}, {}, {}, {}, {},
    { subtitle := some subtitle, files := some (AList.insert subtitle (.file 1) files) }, {}, {}, {}]

def screenedEvents : List PipelineEvent :=
  .startJob 1 :: screenedReplies.map (.advance 0)

theorem screenedEvents_reach : ∃ w, exec (Pipeline.step .plain) (Pipeline.initial screenedLibrary)
    screenedEvents = some w ∧ ∃ row, w.library.downloads.rows.lookup 1 = some row ∧
      screenedKey.lookup.matches row = true ∧
      rowStatus row = some DownloadStatus.downloaded.json := by
  have hcheck : ((exec (Pipeline.step .plain) (Pipeline.initial screenedLibrary) screenedEvents).any
      fun w => (w.library.downloads.rows.lookup 1).any fun row => screenedKey.lookup.matches row &&
        (rowStatus row).any fun value => Json.same value DownloadStatus.downloaded.json) = true := by
    decide +kernel
  simp only [Option.any_eq_true, Bool.and_eq_true] at hcheck
  obtain ⟨w, hrun, row, hrow, hkey, value, hstatus, hvalue⟩ := hcheck
  exact ⟨w, hrun, row, hrow, hkey, hstatus.trans (congrArg some (Json.eq_of_same hvalue))⟩

theorem downloaded_only_after_screening_once : ∃ w, exec (Pipeline.step .plain)
    (Pipeline.initial screenedLibrary) screenedEvents = some w ∧ w.Exposed .plain screenedKey := by
  obtain ⟨w, hrun, row, hrow, hkey, hstatus⟩ := screenedEvents_reach
  refine ⟨w, hrun, ?_⟩
  apply downloaded_only_after_screening .plain screenedLibrary screenedKey _ screenedEvents _ hrun hrow
    hkey hstatus
  · intro i row h
    cases h
  · rw [screenedEvents, List.forall_mem_cons]
    constructor
    · intro job hjob
      obtain rfl := Option.some.inj hjob
      exact ⟨by decide, ⟨rfl, rfl, rfl⟩⟩
    · intro event hevent
      obtain ⟨reply, -, rfl⟩ := List.mem_map.1 hevent
      trivial

end GetOffline
