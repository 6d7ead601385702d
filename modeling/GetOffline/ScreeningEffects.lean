import GetOffline.PipelineRules
import GetOffline.ScreeningHandlers

set_option autoImplicit true

namespace GetOffline
open Python Effects Program

theorem kinds_save {f : Job → Job} (hf : ∀ job, (f job).jobType = job.jobType) (id : Nat)
    (db : Database) (hrow : db.jobs.lookup i = some row) :
    ∃ row', (db.save id f).jobs.lookup i = some row' ∧ row'.jobType = row.jobType := by
  rw [Database.save, lookup_saveFields]
  split
  · next hi =>
    subst i
    rw [hrow]
    exact ⟨f row, rfl, hf row⟩
  · exact ⟨row, hrow, rfl⟩

theorem touched_work (work : JobWork) (job : Job) : Touched job (JobWork.apply job work) := by
  cases work with
  | claim now => exact fun _ _ _ => rfl
  | finish now status errorMessage => exact fun _ _ _ => rfl
  | requeue now => exact fun _ _ _ => rfl
  | touch now stage title =>
    cases ht : touchActiveJob now stage title job with
    | none =>
      rw [JobWork.apply, ht]
      exact Touched.refl job
    | some copy =>
      rw [JobWork.apply, ht]
      exact fun key hstage htitle => (Touched.refl job).touch ht key hstage htitle

theorem jobType_work (work : JobWork) (job : Job) : (JobWork.apply job work).jobType = job.jobType := by
  cases work with
  | claim now => rfl
  | finish now status errorMessage => rfl
  | requeue now => rfl
  | touch now stage title =>
    rw [JobWork.apply]
    cases touchActiveJob now stage title job <;> rfl

/-- What is asked of the rows that a call writes. -/
def HandlerOp.KeepsRows : HandlerOp β → Prop
  | .updateOrCreateDownload lookup defaults => (∃ key : EpisodeKey, lookup = key.lookup) ∧ KeepsKey defaults
  | .saveDownload _ fields => KeepsKey fields
  | _ => True

theorem HandlerOp.Screens.keepsRows {op : HandlerOp β} (h : op.Screens host jobId job past) :
    op.KeepsRows := by
  cases op with
  | updateOrCreateDownload lookup defaults => exact ⟨h.1, h.2.1⟩
  | saveDownload id fields => exact h.1
  | _ => trivial

section
variable {host : Host} {jobId : Nat} {job : Job} {past : List Record} {reply : Reply} {s : Library}
  {op : HandlerOp β} {r : Except Error β × Library}

/-- Such a call keeps the rows of episodes where they are. -/
theorem rows_keep (hop : op.KeepsRows) (h : op.run host reply s = some r)
    (hrow : s.downloads.rows.lookup i = some row) {lookup : Columns}
    (hlookup : ∀ item ∈ lookup, item.1 ∈ episodeColumns) (hmatches : lookup.matches row = true) :
    ∃ row', r.2.downloads.rows.lookup i = some row' ∧ lookup.matches row' = true := by
  by_cases hwrites : op.WritesDownloads
  · cases op with
    | updateOrCreateDownload lookup' defaults =>
      obtain ⟨⟨key, rfl⟩, hkeeps⟩ := hop
      rcases HandlerOp.run_updateOrCreate h with ⟨hsame, -⟩ | ⟨id, downloads, hwrite, hs, -⟩
      · rw [hsame]
        exact ⟨row, hrow, hmatches⟩
      · rw [hs]
        obtain ⟨old, hnew, -, hold, hothers⟩ := updateOrCreate_row hwrite hkeeps
        by_cases hi : i = id
        · subst i
          refine ⟨_, hnew, ?_⟩
          rw [hkeeps.matches_update hlookup, hold row hrow, hmatches]
        · exact ⟨row, (hothers i hi).trans hrow, hmatches⟩
    | saveDownload id fields =>
      rcases HandlerOp.run_saveDownload h with ⟨hsame, -⟩ | ⟨downloads, hwrite, hs⟩
      · rw [hsame]
        exact ⟨row, hrow, hmatches⟩
      · rw [hs]
        obtain ⟨old, hold, hnew, hothers⟩ := saveFields_row hwrite
        by_cases hi : i = id
        · subst i
          obtain rfl := Option.some.inj (hold.symm.trans hrow)
          exact ⟨_, hnew, (KeepsKey.matches_update hop hlookup old).trans hmatches⟩
        · exact ⟨row, (hothers i hi).trans hrow, hmatches⟩
    | _ => exact hwrites.elim
  · rw [HandlerOp.run_downloads h hwrites]
    exact ⟨row, hrow, hmatches⟩

/-- A downloaded row was one before, is written after a screening, or was shown before. -/
theorem downloaded_cases (hop : op.Screens host jobId job past) (h : op.run host reply s = some r)
    (hrow : r.2.downloads.rows.lookup i = some row) {key : EpisodeKey}
    (hkey : key.lookup.matches row = true)
    (hstatus : rowStatus row = some DownloadStatus.downloaded.json) :
    (∃ old, s.downloads.rows.lookup i = some old ∧ key.lookup.matches old = true ∧
        rowStatus old = some DownloadStatus.downloaded.json) ∨
      (∃ defaults answer, (⟨op, r.1⟩ : Record) = ⟨.updateOrCreateDownload key.lookup defaults, answer⟩ ∧
        Cleared host past defaults) ∨
      IsShown host job past i := by
  by_cases hwrites : op.WritesDownloads
  · cases op with
    | updateOrCreateDownload lookup defaults =>
      obtain ⟨⟨key', rfl⟩, hkeeps, hdefaults⟩ := hop
      rcases HandlerOp.run_updateOrCreate h with ⟨hsame, -⟩ | ⟨id, downloads, hwrite, hs, -⟩
      · rw [hsame] at hrow
        exact .inl ⟨row, hrow, hkey, hstatus⟩
      · rw [hs] at hrow
        obtain ⟨old, hnew, hkey', -, hothers⟩ := updateOrCreate_row hwrite hkeeps
        by_cases hi : i = id
        · subst i
          obtain rfl := Option.some.inj (hnew.symm.trans hrow)
          obtain rfl := EpisodeKey.eq_of_matches hkey' hkey
          rcases hdefaults with hfiltered | hcleared
          · rw [hkeeps.rowStatus_update, hfiltered] at hstatus
            have hvalue : "filtered" = "downloaded" := Json.string.inj (Option.some.inj hstatus)
            exact absurd hvalue (by decide)
          · exact .inr (.inl ⟨defaults, r.1, rfl, hcleared⟩)
        · exact .inl ⟨row, (hothers i hi).symm.trans hrow, hkey, hstatus⟩
    | saveDownload id fields =>
      rcases HandlerOp.run_saveDownload h with ⟨hsame, -⟩ | ⟨downloads, hwrite, hs⟩
      · rw [hsame] at hrow
        exact .inl ⟨row, hrow, hkey, hstatus⟩
      · rw [hs] at hrow
        obtain ⟨old, hold, hnew, hothers⟩ := saveFields_row hwrite
        by_cases hi : i = id
        · subst i
          obtain rfl := Option.some.inj (hnew.symm.trans hrow)
          rw [key.matches_update hop.1] at hkey
          rcases hop.2 with hfields | hshown
          · left
            refine ⟨old, hold, hkey, ?_⟩
            rw [hop.1.rowStatus_update] at hstatus
            cases hvalue : rowStatus fields with
            | none =>
              rw [hvalue, Option.none_or] at hstatus
              exact hstatus
            | some value =>
              rw [hvalue, Option.some_or] at hstatus
              exact absurd (hvalue.trans hstatus) hfields
          · exact .inr (.inr hshown)
        · exact .inl ⟨row, (hothers i hi).symm.trans hrow, hkey, hstatus⟩
    | _ => exact hwrites.elim
  · rw [HandlerOp.run_downloads h hwrites] at hrow
    exact .inl ⟨row, hrow, hkey, hstatus⟩

theorem tells_run (h : op.run host reply s = some r) : op.Tells r.1 := by
  cases op with
  | downloadById pk profileId =>
    cases hanswer : r.1 with
    | error e => trivial
    | ok found =>
      cases found with
      | none => trivial
      | some download => exact (HandlerOp.run_downloadById h hanswer).1
  | updateOrCreateDownload lookup defaults =>
    rcases HandlerOp.run_updateOrCreate h with
      ⟨-, e, hraised⟩ | ⟨id, downloads, hwrite, -, hanswer | ⟨e, hraised⟩⟩
    · rw [hraised]
      trivial
    · rw [hanswer]
      obtain ⟨old, hnew⟩ := updateOrCreate_copy hwrite
      exact ⟨old, hnew⟩
    · rw [hraised]
      trivial
  | _ => trivial

/-- A call keeps the rows where they are. -/
theorem ids_keep (h : op.run host reply s = some r) (hrow : s.downloads.rows.lookup i = some row) :
    ∃ row', r.2.downloads.rows.lookup i = some row' := by
  by_cases hwrites : op.WritesDownloads
  · cases op with
    | updateOrCreateDownload lookup defaults =>
      rcases HandlerOp.run_updateOrCreate h with ⟨hsame, -⟩ | ⟨id, downloads, hwrite, hs, -⟩
      · rw [hsame]
        exact ⟨row, hrow⟩
      · rw [hs]
        exact ids_updateOrCreate hwrite hrow
    | saveDownload id fields =>
      rcases HandlerOp.run_saveDownload h with ⟨hsame, -⟩ | ⟨downloads, hwrite, hs⟩
      · rw [hsame]
        exact ⟨row, hrow⟩
      · rw [hs]
        obtain ⟨old, hold, hnew, hothers⟩ := saveFields_row hwrite
        by_cases hi : i = id
        · subst i
          exact ⟨_, hnew⟩
        · exact ⟨row, (hothers i hi).trans hrow⟩
    | _ => exact hwrites.elim
  · rw [HandlerOp.run_downloads h hwrites]
    exact ⟨row, hrow⟩

/-- What a permitted call answers as the row of an episode stands in the table. -/
theorem answered_row {lookup defaults : Columns} {download : Download}
    (hop : op.Screens host jobId job past) (h : op.run host reply s = some r)
    (hrecord : (⟨op, r.1⟩ : Record) = ⟨.updateOrCreateDownload lookup defaults, .ok download⟩) :
    ∃ key : EpisodeKey, lookup = key.lookup ∧
      ∃ row, r.2.downloads.rows.lookup download.id = some row ∧ key.lookup.matches row = true := by
  obtain ⟨answer, s'⟩ := r
  cases hrecord
  obtain ⟨⟨key, rfl⟩, hkeeps, -⟩ := hop
  rcases HandlerOp.run_updateOrCreate h with ⟨-, e, hraised⟩ | ⟨id, downloads, hwrite, hs, hanswer⟩
  · cases hraised
  · rcases hanswer with hanswer | ⟨e, he⟩
    · obtain rfl := Except.ok.inj hanswer
      obtain ⟨old, hnew, hkey, -, -⟩ := updateOrCreate_row hwrite hkeeps
      dsimp only at hs
      rw [hs]
      exact ⟨key, rfl, _, hnew, hkey⟩
    · cases he

/-- A row that a call has saved stands in the table. -/
theorem saved_row {id : Nat} {fields : Columns} (h : op.run host reply s = some r)
    (hrecord : (⟨op, r.1⟩ : Record) = ⟨.saveDownload id fields, .ok ()⟩) :
    ∃ row, r.2.downloads.rows.lookup id = some row := by
  obtain ⟨answer, s'⟩ := r
  cases hrecord
  rcases HandlerOp.run_saveDownload h with ⟨-, e, hraised⟩ | ⟨downloads, hwrite, hs⟩
  · cases hraised
  · obtain ⟨old, -, hnew, -⟩ := saveFields_row hwrite
    dsimp only at hs
    rw [hs]
    exact ⟨_, hnew⟩

/-- A call leaves every job its type. -/
theorem jobs_keep (h : op.run host reply s = some r) (hrow : s.database.jobs.lookup i = some row) :
    ∃ row', r.2.database.jobs.lookup i = some row' ∧ row'.jobType = row.jobType := by
  by_cases hwrites : op.WritesJobs
  · cases op with
    | createJob args =>
      rcases HandlerOp.run_createJob h with hsame | hs
      · rw [hsame]
        exact ⟨row, hrow, rfl⟩
      · rw [hs, createJob]
        cases existingJob args s.database.jobs with
        | some existing => exact ⟨row, hrow, rfl⟩
        | none =>
          refine ⟨row, ?_, rfl⟩
          dsimp only
          rw [Database.lookup_create, if_neg, hrow]
          intro hi
          rw [hi, s.database.fresh _ le_rfl] at hrow
          cases hrow
    | saveTouch id copy =>
      rcases HandlerOp.run_saveTouch h with hsame | hs
      · rw [hsame]
        exact ⟨row, hrow, rfl⟩
      · rw [hs]
        have hkind (job : Job) : (Job.saveTouch copy job).jobType = job.jobType := rfl
        exact kinds_save hkind id s.database hrow
    | saveRequeued id updatedAt =>
      rcases HandlerOp.run_saveRequeued h with hsame | hs
      · rw [hsame]
        exact ⟨row, hrow, rfl⟩
      · rw [hs]
        have hkind (job : Job) : (Job.requeue updatedAt job).jobType = job.jobType := rfl
        exact kinds_save hkind id s.database hrow
    | _ => exact hwrites.elim
  · rw [HandlerOp.run_database h hwrites]
    exact ⟨row, hrow, rfl⟩

/-- After a call a job is one that was there, or has been made, or has been touched. -/
theorem job_run (h : op.run host reply s = some r) (hrow : r.2.database.jobs.lookup i = some row) :
    (∃ old, s.database.jobs.lookup i = some old ∧ row.jobType = old.jobType ∧
        row.payload = old.payload) ∨
      (∃ args answer createdAt updatedAt, (⟨op, r.1⟩ : Record) = ⟨.createJob args, answer⟩ ∧
        s.database.jobs.lookup i = none ∧ row = newJob args createdAt updatedAt) ∨
      ∃ copy answer old, (⟨op, r.1⟩ : Record) = ⟨.saveTouch i copy, answer⟩ ∧
        s.database.jobs.lookup i = some old ∧ row = Job.saveTouch copy old := by
  by_cases hwrites : op.WritesJobs
  · cases op with
    | createJob args =>
      rcases HandlerOp.run_createJob h with hsame | hs
      · rw [hsame] at hrow
        exact .inl ⟨row, hrow, rfl, rfl⟩
      · rw [hs, createJob] at hrow
        cases hexisting : existingJob args s.database.jobs with
        | some existing =>
          rw [hexisting] at hrow
          exact .inl ⟨row, hrow, rfl, rfl⟩
        | none =>
          rw [hexisting] at hrow
          dsimp only at hrow
          rw [Database.lookup_create] at hrow
          split at hrow
          · next hi =>
            obtain rfl := Option.some.inj hrow
            refine .inr (.inl ⟨args, r.1, _, _, rfl, ?_, rfl⟩)
            rw [hi]
            exact s.database.fresh _ le_rfl
          · exact .inl ⟨row, hrow, rfl, rfl⟩
    | saveTouch id copy =>
      rcases HandlerOp.run_saveTouch h with hsame | hs
      · rw [hsame] at hrow
        exact .inl ⟨row, hrow, rfl, rfl⟩
      · rw [hs, Database.save, lookup_saveFields] at hrow
        split at hrow
        · next hi =>
          obtain ⟨old, hold, rfl⟩ := Option.map_eq_some_iff.1 hrow
          subst i
          exact .inr (.inr ⟨copy, r.1, old, rfl, hold, rfl⟩)
        · exact .inl ⟨row, hrow, rfl, rfl⟩
    | saveRequeued id updatedAt =>
      rcases HandlerOp.run_saveRequeued h with hsame | hs
      · rw [hsame] at hrow
        exact .inl ⟨row, hrow, rfl, rfl⟩
      · rw [hs, Database.save, lookup_saveFields] at hrow
        split at hrow
        · next hi =>
          obtain ⟨old, hold, rfl⟩ := Option.map_eq_some_iff.1 hrow
          subst i
          exact .inl ⟨old, hold, rfl, rfl⟩
        · exact .inl ⟨row, hrow, rfl, rfl⟩
    | _ => exact hwrites.elim
  · rw [HandlerOp.run_database h hwrites] at hrow
    exact .inl ⟨row, hrow, rfl, rfl⟩

/-- After a permitted call a job is a new one, is touched by its own process, or says what it said. -/
theorem job_cases (hop : op.Screens host jobId job past) (h : op.run host reply s = some r)
    (hrow : r.2.database.jobs.lookup i = some row) :
    (∃ old, s.database.jobs.lookup i = some old ∧ old.jobType = row.jobType ∧ Touched old row) ∨
      Carries host (IsExposed host job past) row.jobType row.payload.dict ∨
      (i = jobId ∧ Touched job row ∧
        ∃ old, s.database.jobs.lookup i = some old ∧ old.jobType = row.jobType) := by
  rcases job_run h hrow with ⟨old, hold, htype, hpayload⟩ |
    ⟨args, answer, createdAt, updatedAt, hcall, -, rfl⟩ | ⟨copy, answer, old, hcall, hold, rfl⟩
  · refine .inl ⟨old, hold, htype.symm, ?_⟩
    intro key _ _
    rw [hpayload]
  · cases hcall
    exact .inr (.inl hop)
  · cases hcall
    obtain ⟨rfl, htouched⟩ := hop
    exact .inr (.inr ⟨rfl, htouched, old, hold, rfl⟩)

end

end GetOffline
