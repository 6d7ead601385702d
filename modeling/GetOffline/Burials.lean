import GetOffline.ConversionCalls
import GetOffline.PipelineRules
import GetOffline.ScreeningFlow

set_option autoImplicit true

namespace GetOffline
open Python Effects Program

def HandlerOp.IsRemoval : HandlerOp β → Prop
  | .deleteMediaArtifacts _ _ => True
  | _ => False

/-- The call deletes media that a screening has removed. -/
def Record.Removes (episode : Episode) (record : Record) : Prop :=
  ∃ media answer, record = ⟨.deleteMediaArtifacts media episode, answer⟩

/-- The call leaves a row of the episode that says something else than `downloaded`. -/
def Record.Buries (record : Record) : Episode → Prop
  | .lookup lookup => ∃ defaults download status,
    record = ⟨.updateOrCreateDownload lookup defaults, .ok download⟩ ∧
    rowStatus download.columns = some (DownloadStatus.json status) ∧ status ≠ .downloaded
  | .row id => ∃ fields status, record = ⟨.saveDownload id fields, .ok ()⟩ ∧
    rowStatus fields = some (DownloadStatus.json status) ∧ status ≠ .downloaded

/-- After every removal the row has been written. -/
def Buried : List Record → Prop
  | [] => True
  | record :: past =>
    (∀ episode, record.Removes episode → ∃ burial ∈ past, burial.Buries episode) ∧ Buried past

/-- Nothing but quiet calls has followed the last removal. -/
def Pending (episode : Episode) (past : List Record) : Prop :=
  ∃ before media answer after, past = before ++ ⟨.deleteMediaArtifacts media episode, answer⟩ :: after ∧
    Buried before ∧ ∀ record ∈ after, record.op.IsQuiet

theorem HandlerOp.IsQuiet.not_removal {op : HandlerOp β} (h : op.IsQuiet) : ¬op.IsRemoval := by
  cases op <;> first | exact fun hremoval => hremoval | exact False.elim h

theorem not_removes {record : Record} (h : ¬record.op.IsRemoval) (episode : Episode) :
    ¬record.Removes episode := by
  rintro ⟨media, answer, rfl⟩
  exact h trivial

theorem not_buries {record : Record} (h : record.op.IsQuiet) (episode : Episode) :
    ¬record.Buries episode := by
  intro hburies
  cases episode with
  | lookup lookup =>
    obtain ⟨defaults, download, status, rfl, -⟩ := hburies
    exact h
  | row id =>
    obtain ⟨fields, status, rfl, -⟩ := hburies
    exact h

theorem buried_of_no_removals (h : ∀ record ∈ past, ∀ episode, ¬Record.Removes episode record) :
    Buried past := by
  induction past with
  | nil => trivial
  | cons record past ih =>
    constructor
    · intro episode hremoves
      exact absurd hremoves (h record List.mem_cons_self episode)
    · exact ih fun record hrecord => h record (List.mem_cons_of_mem _ hrecord)

theorem Buried.append (h : Buried past) (h' : Buried past') : Buried (past ++ past') := by
  induction past with
  | nil => exact h'
  | cons record past ih =>
    constructor
    · intro episode hremoves
      obtain ⟨burial, hburial, hburies⟩ := h.1 episode hremoves
      exact ⟨burial, List.mem_append_left _ hburial, hburies⟩
    · exact ih h.2

theorem Buried.call {op : HandlerOp β} (h : Buried past) (hop : ¬op.IsRemoval) (r : Except Error β) :
    Buried (past ++ [⟨op, r⟩]) := by
  apply h.append
  apply buried_of_no_removals
  intro record hrecord
  rw [List.mem_singleton.1 hrecord]
  exact not_removes hop

theorem Buried.buries (h : Buried (before ++ record :: after)) (hremoves : record.Removes episode) :
    ∃ burial ∈ after, burial.Buries episode := by
  induction before with
  | nil => exact h.1 episode hremoves
  | cons first before ih => exact ih h.2

namespace Pending
variable {episode : Episode} {past : List Record}

theorem not_buried (h : Pending episode past) : ¬Buried past := by
  obtain ⟨before, media, answer, after, rfl, -, hafter⟩ := h
  intro hsettled
  obtain ⟨burial, hburial, hburies⟩ := hsettled.buries ⟨media, answer, rfl⟩
  exact not_buries (hafter burial hburial) episode hburies

theorem removal (h : Buried past) (media : Path) (answer : Except Error Unit) :
    Pending episode (past ++ [⟨.deleteMediaArtifacts media episode, answer⟩]) :=
  ⟨past, media, answer, [], rfl, h, List.forall_mem_nil _⟩

theorem quiet {op : HandlerOp β} (h : Pending episode past) (hop : op.IsQuiet)
    (answer : Except Error β) : Pending episode (past ++ [⟨op, answer⟩]) := by
  obtain ⟨before, media, deleted, after, rfl, hbefore, hafter⟩ := h
  refine ⟨before, media, deleted, after ++ [⟨op, answer⟩], ?_, hbefore, ?_⟩
  · rw [List.append_assoc, List.cons_append]
  · intro record hrecord
    rcases List.mem_append.1 hrecord with hold | hnew
    · exact hafter record hold
    · rw [List.mem_singleton.1 hnew]
      exact hop

theorem buried {burial : Record} (h : Pending episode past) (hburies : burial.Buries episode)
    (hremoval : ¬burial.op.IsRemoval) : Buried (past ++ [burial]) := by
  obtain ⟨before, media, answer, after, rfl, hbefore, hafter⟩ := h
  rw [List.append_assoc]
  apply hbefore.append
  constructor
  · rintro episode' ⟨media', answer', heq⟩
    cases heq
    exact ⟨burial, List.mem_append_right _ (List.mem_singleton_self _), hburies⟩
  · apply buried_of_no_removals
    intro record hrecord episode'
    rcases List.mem_append.1 hrecord with hold | hnew
    · exact not_removes (hafter record hold).not_removal episode'
    · rw [List.mem_singleton.1 hnew]
      exact not_removes hremoval episode'

end Pending

/-- How transcription and screening go for a video without a row: there is a transcript, and it can be
looked through. -/
def HandlerOp.heard : HandlerOp β → Except Error β → Bool
  | .createSubtitles _ _ _ _ _, .ok none => false
  | .screenTranscript _, .error _ => false
  | _, _ => true

/-- What the answer to a call must be for removals to be buried: a video without a row is heard, and
from a removal on calls succeed until the row is written. -/
structure Undisturbed (job : Job) (past : List Record) (op : HandlerOp β) (r : Except Error β) :
    Prop where
  heard : (downloadPk job.payload.dict).truthy = false → op.heard r = true
  succeeds : op.IsRemoval ∨ ¬Buried past → ∃ a, r = .ok a

def burialRules (job : Job) : Rules where
  permits _ _ _ := True
  answers past _ op r := op.Tells r ∧ Undisturbed job past op r
  ends := Buried

section
variable {job : Job}

/-- The program leaves no removal without its row. -/
def Settles (job : Job) (p : Handler α) : Prop :=
  ∀ past, Buried past → p.Meets (burialRules job).contract (fun _ past' => Buried past') past

theorem Settles.bind {p : Handler α} {f : α → Handler β} (hp : Settles job p)
    (hf : ∀ a, Settles job (f a)) : Settles job (p >>= f) := by
  intro past hpast
  apply Meets.bind (hp past hpast)
  · exact fun a past' h => hf a past' h
  · exact fun e past' h => h

theorem settles_of_calls {p : Handler α} (h : p.Calls fun op => ¬op.IsRemoval) : Settles job p := by
  intro past hpast
  apply (Yields.extends h (fun _ _ _ _ => trivial) past).mono
  rintro r past' ⟨⟨calls, rfl, hcalls⟩, -⟩
  apply hpast.append
  apply buried_of_no_removals
  exact fun record hrecord episode => not_removes (hcalls record hrecord) episode

theorem settles_quiet {p : Handler α} (h : Quiet p) : Settles job p :=
  settles_of_calls (h.mono (fun _ hop => hop.not_removal) fun _ _ => trivial)

theorem settles_movesOn {p : Handler α} (h : MovesOn payload p) : Settles job p := by
  apply settles_of_calls
  apply h.mono
  · intro β op hop
    cases op <;> first | exact fun hremoval => hremoval | exact False.elim hop
  · exact fun _ _ => trivial

theorem settles_pure (a : α) : Settles job (pure a : Handler α) :=
  fun _ hpast => meets_pure.2 hpast

theorem settles_ite {c : Prop} [Decidable c] {p q : Handler α} (hp : c → Settles job p)
    (hq : ¬c → Settles job q) : Settles job (if c then p else q) :=
  fun past hpast => meets_ite (fun h => hp h past hpast) fun h => hq h past hpast

theorem settles_when {condition : Bool} {p : Handler Unit} (hp : Settles job p) :
    Settles job (when condition p) :=
  settles_ite (fun _ => hp) fun _ => settles_pure ()

theorem Settles.tryFinally {p : Handler α} {cleanup : Handler Unit} (hp : Settles job p)
    (hcleanup : Settles job cleanup) : Settles job (p.tryFinally cleanup) := by
  intro past hpast
  apply (hp past hpast).tryFinally
  intro r past' h
  apply (hcleanup past' h).mono
  intro r' past'' h'
  exact ⟨fun _ _ => h', fun _ => h'⟩

/-- A call while a removal waits for its row. -/
theorem Pending.bind (op : HandlerOp α) {f : α → Handler β} {Q : Except Error β → List Record → Prop}
    {past : List Record} (h : Pending episode past) (hop : op.IsQuiet)
    (hf : ∀ a past', Pending episode past' → (f a).Meets (burialRules job).contract Q past') :
    (perform op >>= f).Meets (burialRules job).contract Q past := by
  apply perform_bind_meets trivial
  · exact fun a _ => hf a _ (h.quiet hop _)
  · intro e hanswer
    obtain ⟨a, ha⟩ := hanswer.2.succeeds (.inr h.not_buried)
    cases ha

theorem buries_updateOrCreate {lookup defaults : Columns} {download : Download}
    (htells : (HandlerOp.updateOrCreateDownload lookup defaults).Tells (.ok download))
    (hkeeps : KeepsKey defaults) (hstatus : rowStatus defaults = some DownloadStatus.filtered.json) :
    Record.Buries ⟨.updateOrCreateDownload lookup defaults, .ok download⟩ (.lookup lookup) := by
  obtain ⟨old, hcolumns⟩ := htells
  refine ⟨defaults, download, .filtered, rfl, ?_, by decide⟩
  rw [hcolumns, hkeeps.rowStatus_update, hstatus]
  rfl

theorem insertFiltered_meets_buried {lookup defaults : Columns} (hkeeps : KeepsKey defaults)
    (h : Pending (.lookup lookup) past) :
    (insertFiltered lookup defaults).Meets (burialRules job).contract (fun _ past' => Buried past')
      past := by
  apply h.bind .now trivial
  intro completedAt past₁ h₁
  apply h₁.bind .now trivial
  intro lastSeenAt past₂ h₂
  have hfiltered := keepsKey_filteredColumns completedAt lastSeenAt
  apply perform_bind_meets trivial
  · intro download hanswer
    apply meets_pure.2
    apply h₂.buried
    · exact buries_updateOrCreate hanswer.1 (hfiltered.update hkeeps)
        (hfiltered.rowStatus_update defaults)
    · exact fun h => h
  · intro e hanswer
    obtain ⟨a, ha⟩ := hanswer.2.succeeds (.inr h₂.not_buried)
    cases ha

theorem markFiltered_meets_buried {id : Nat} (h : Pending (.row id) past) :
    (markFiltered id).Meets (burialRules job).contract (fun _ past' => Buried past') past := by
  apply h.bind .now trivial
  intro lastSeenAt past₁ h₁
  apply meets_perform trivial
  rintro r past₂ ⟨hanswer, rfl⟩
  obtain ⟨⟨⟩, rfl⟩ := hanswer.2.succeeds (.inr h₁.not_buried)
  apply h₁.buried
  · exact ⟨_, .filtered, rfl, rfl, by decide⟩
  · exact fun h => h

/-- A removal, and what buries it. -/
theorem removal_bind {media : Path} {episode : Episode} {f : Unit → Handler β} (hpast : Buried past)
    (hf : ∀ past', Pending episode past' →
      (f ()).Meets (burialRules job).contract (fun _ past'' => Buried past'') past') :
    (perform (.deleteMediaArtifacts media episode) >>= f).Meets (burialRules job).contract
      (fun _ past' => Buried past') past := by
  apply perform_bind_meets trivial
  · exact fun a _ => hf _ (.removal hpast media _)
  · intro e hanswer
    obtain ⟨a, ha⟩ := hanswer.2.succeeds (.inl trivial)
    cases ha

theorem settles_insertScreened (host : Host) (profileId : String) (lookup defaults : Columns)
    (subtitlePath : Path) : Settles job (insertScreened host profileId lookup defaults subtitlePath) := by
  apply settles_of_calls
  apply Calls.bind ((asks_downloadOutputRoot host profileId).mono
    (fun _ hop => hop.isQuiet.not_removal) fun _ _ => trivial)
  intro outputRoot
  apply Calls.bind (calls_perform fun h => h)
  intro download
  apply Calls.bind (calls_perform fun h => h)
  intro segments
  apply Calls.bind (calls_perform fun h => h)
  exact fun _ => calls_pure _

/-- The call is not lost on a video without a row. -/
theorem heard_bind (op : HandlerOp α) {f : α → Handler β} (hop : ¬op.IsRemoval) (hpast : Buried past)
    (hpk : (downloadPk job.payload.dict).truthy = false)
    (hf : ∀ a, op.heard (.ok a) = true → Settles job (f a)) :
    (perform op >>= f).Meets (burialRules job).contract (fun _ past' => Buried past') past := by
  apply perform_bind_meets trivial
  · exact fun a hanswer => hf a (hanswer.2.heard hpk) _ (hpast.call hop _)
  · exact fun e _ => hpast.call hop _

theorem settles_screenSubtitle (host : Host) (profileId : String) (media : Path)
    (lookup : Columns) {defaults : Columns} (hkeeps : KeepsKey defaults)
    (hpk : (downloadPk job.payload.dict).truthy = false) (subtitle : Path) :
    Settles job (screenSubtitle host profileId media lookup defaults (some subtitle)) := by
  intro past hpast
  have hscreen : (Program.tryCatch (do
        let explicitMatch ← perform (.screenTranscript subtitle)
        return some explicitMatch) fun _ => return none : Handler (Option (Option ExplicitContentMatch))).Meets
      (burialRules job).contract (fun r past' => Buried past' ∧ r ≠ .ok none) past := by
    have htry : (do
          let explicitMatch ← perform (.screenTranscript subtitle)
          return some explicitMatch : Handler (Option (Option ExplicitContentMatch))).Meets
        (burialRules job).contract
        (fun r past' => Buried past' ∧ ∃ explicitMatch, r = .ok (some explicitMatch)) past := by
      apply perform_bind_meets trivial
      · intro explicitMatch _
        apply meets_pure.2
        exact ⟨hpast.call id (.ok explicitMatch), explicitMatch, rfl⟩
      · exact fun e hanswer => absurd (hanswer.2.heard hpk) Bool.false_ne_true
    apply htry.tryCatch
    · rintro screened past' ⟨hburied, explicitMatch, heq⟩
      refine ⟨hburied, ?_⟩
      rw [heq]
      intro h
      cases h
    · rintro e past' ⟨-, explicitMatch, heq⟩
      cases heq
  apply Meets.bind hscreen
  · rintro screened past₁ ⟨hpast₁, hscreened⟩
    cases screened with
    | none => exact absurd rfl hscreened
    | some explicitMatch =>
      cases explicitMatch with
      | some explicitMatch =>
        apply removal_bind hpast₁
        intro past₂ h₂
        apply Meets.bind (insertFiltered_meets_buried hkeeps h₂)
        · exact fun _ past₃ h₃ => meets_pure.2 h₃
        · exact fun e past₃ h₃ => h₃
      | none =>
        apply Settles.bind (settles_insertScreened host profileId lookup defaults subtitle) _ past₁ hpast₁
        exact fun download => settles_pure _
  · exact fun e past₁ h => h.1

theorem settles_screenDeferredVideoBeforeInsert (host : Host) (profileId : String) (media : Path)
    (lookup : Columns) {defaults : Columns} (hkeeps : KeepsKey defaults)
    (hpk : (downloadPk job.payload.dict).truthy = false) (payload : Columns) :
    Settles job (screenDeferredVideoBeforeInsert host profileId media lookup defaults payload) := by
  apply (settles_quiet (asks_subtitleOffset host payload none).quiet).bind
  intro offset
  apply (settles_quiet (asks_profileSetting profileId _ _).quiet).bind
  intro mode past hpast
  apply heard_bind (.createSubtitles media offset true (host.textOr (Json.get "title" defaults) media.name)
    mode) id hpast hpk
  intro subtitle hheard
  cases subtitle with
  | none => exact absurd hheard Bool.false_ne_true
  | some subtitle => exact settles_screenSubtitle host profileId media lookup hkeeps hpk subtitle

theorem settles_saveTranscript (host : Host) (profileId : String) (payload : Columns)
    (download : Download) (mediaPath subtitlePath : Path) :
    Settles job (saveTranscript host profileId payload download mediaPath subtitlePath) := by
  apply (settles_quiet (asks_downloadOutputRoot host profileId).quiet).bind
  intro outputRoot
  have hsave (fields : Columns) : Settles job (perform (.saveDownload download.id fields)) :=
    settles_of_calls (calls_perform fun h => h)
  apply (hsave _).bind
  intro _
  have hsegments : Quiet (perform (.subtitleSegments subtitlePath)) := calls_perform trivial
  apply (settles_quiet hsegments).bind
  intro segments
  have hdelete : Quiet (perform (.deleteSegments download.id)) := calls_perform trivial
  apply (settles_quiet hdelete).bind
  intro _
  have hcreate : Quiet (perform (.createSegments download.id subtitlePath.str segments)) :=
    calls_perform trivial
  apply (settles_quiet hcreate).bind
  intro _
  apply settles_when
  have hscreen : Settles job (Program.tryCatch (perform (.screenTranscript subtitlePath))
      fun _ => return none : Handler (Option ExplicitContentMatch)) :=
    settles_of_calls (Calls.tryCatch (calls_perform fun h => h) fun _ => calls_pure _)
  apply hscreen.bind
  intro screened
  apply settles_when
  intro past hpast
  apply removal_bind hpast
  intro past₁ h₁
  apply h₁.bind (.deleteSegments download.id) trivial
  exact fun _ past₂ h₂ => markFiltered_meets_buried h₂

theorem settles_dropUnscreened (payload : Columns) (download : Download) (mediaPath : Path) :
    Settles job (dropUnscreened payload download mediaPath) := by
  apply settles_when
  intro past hpast
  apply removal_bind hpast
  exact fun past₁ h₁ => markFiltered_meets_buried h₁

theorem not_removal_calm {op : HandlerOp β} (h : op.IsCalm jobId job) : ¬op.IsRemoval := by
  cases op <;> first | exact fun hremoval => hremoval | exact False.elim h

theorem Buried.calm (h : Buried past)
    (hcalm : Extends (fun op => op.IsCalm jobId job) past past') : Buried past' := by
  obtain ⟨calls, rfl, hcalls⟩ := hcalm
  apply h.append
  apply buried_of_no_removals
  exact fun record hrecord => not_removes (not_removal_calm (hcalls record hrecord))

theorem settles_calm {p : Handler α} (h : Calm jobId job p) : Settles job p :=
  settles_of_calls (h.mono (fun _ hop => not_removal_calm hop) fun _ _ => trivial)

theorem settles_updateOrCreate (lookup defaults : Columns) :
    Settles job (perform (.updateOrCreateDownload lookup defaults)) :=
  settles_of_calls (calls_perform id)

theorem settles_store {host : Host} (hpk : (downloadPk job.payload.dict).truthy = false)
    (a : Arrival host job.profileId job.payload.dict) : Settles job a.store := by
  have hconvert : Settles job (prepareConversion a.conversion a.lookup a.defaults (timeColumns a.now)
      a.mediaKind) := by
    unfold prepareConversion
    apply settles_ite
    · intro _
      apply (settles_updateOrCreate _ _).bind
      exact fun _ => settles_pure _
    · exact fun _ => settles_pure _
  have hkeep : Settles job (keepDownloadedFile host job.profileId job.payload.dict a.lookup
      (a.defaults ++ timeColumns a.now) a.mediaKind a.file) := by
    unfold keepDownloadedFile
    apply settles_ite
    · intro _
      apply (settles_screenDeferredVideoBeforeInsert host job.profileId a.file a.lookup a.keepsKey_row
        hpk job.payload.dict).bind
      intro saved
      cases saved with
      | none => exact settles_pure _
      | some download => exact settles_pure _
    · intro _
      apply (settles_updateOrCreate _ _).bind
      exact fun _ => settles_pure _
  rw [Arrival.store]
  cases a.converted with
  | true => exact hconvert
  | false => exact hkeep

theorem settles_downloadEpisode (host : Host) (jobId : Nat) (job : Job) :
    Settles job (downloadEpisode host jobId job) := by
  unfold downloadEpisode
  apply settles_ite
  · exact fun _ => settles_movesOn (handsOn_continueDownload host jobId job _).movesOn
  · intro hpk
    have hdownload : Settles job (downloadWithYtDlp host jobId job job.payload.dict) := by
      intro past hpast
      apply downloadWithYtDlp_meets (fun _ _ _ _ => trivial)
      · exact fun a past' hcalm => settles_store (eq_false_of_ne_true hpk) a past' (hpast.calm hcalm)
      · exact fun past' hcalm => hpast.calm hcalm
      · exact fun e past' hcalm => hpast.calm hcalm
    apply hdownload.bind
    intro result
    cases result with
    | skipped => exact settles_pure _
    | conversion payload =>
      exact settles_of_calls (Calls.bind (calls_perform id) fun _ => calls_perform id)
    | row download => exact settles_movesOn (handsOn_continueDownload host jobId job _).movesOn

theorem settles_generateDownloadTranscript (host : Host) (jobId : Nat) (job : Job) (payload : Columns)
    (download : Download) :
    Settles job (generateDownloadTranscript host jobId job payload download) := by
  apply (settles_calm (calm_touchActive jobId job _ _)).bind
  intro _
  have hnode (path : Path) : Settles job (perform (.node path)) :=
    settles_quiet (calls_perform trivial)
  apply (hnode _).bind
  intro node
  have hmedia (path : Path) : Quiet (if Node.isFile node then pure path
      else ensureLocalMedia host download path) :=
    yields_ite (fun _ => calls_pure _) fun _ => quiet_ensureLocalMedia _ _ _
  apply (settles_quiet (hmedia _)).bind
  intro mediaPath
  apply (hnode _).bind
  intro media
  apply settles_when
  apply (settles_quiet (asks_subtitlesEnabledForDownload host download payload).quiet).bind
  intro enabled
  apply (settles_quiet (asks_subtitleOffsetForDownload host download payload).quiet).bind
  intro offset
  apply (settles_quiet (asks_profileSetting job.profileId _ _).quiet).bind
  intro mode
  have hcreate : Settles job (perform (.createSubtitles mediaPath offset enabled
      (host.textOr (some (download.get "title")) mediaPath.name) mode)) :=
    settles_of_calls (calls_perform id)
  apply hcreate.bind
  intro subtitle
  cases subtitle with
  | some subtitlePath => exact settles_saveTranscript host _ payload download mediaPath subtitlePath
  | none => exact settles_dropUnscreened payload download mediaPath

theorem settles_generateDeferredTranscriptScreening {host : Host} {exposed : Json → Prop}
    (h : Carries host exposed job.jobType job.payload.dict) (htype : job.jobType = "generate_transcript")
    (hpk : (downloadPk job.payload.dict).truthy = false) (jobId : Nat) :
    Settles job (generateDeferredTranscriptScreening host jobId job job.payload.dict) := by
  unfold generateDeferredTranscriptScreening
  cases hlookup : payloadObject "deferred_download_lookup" job.payload.dict with
  | none => exact settles_pure ()
  | some lookup =>
    cases hdefaults : payloadObject "deferred_download_defaults" job.payload.dict with
    | none => exact settles_pure ()
    | some defaults =>
      apply settles_ite
      · intro _
        obtain ⟨-, hkeeps, -⟩ := h.screening htype lookup defaults hlookup hdefaults
        apply Settles.tryFinally
        · apply (settles_calm (calm_touchActive jobId job _ _)).bind
          intro _
          apply (settles_screenDeferredVideoBeforeInsert host _ _ lookup hkeeps hpk _).bind
          exact fun _ => settles_pure ()
        · apply settles_when
          apply (settles_quiet (quiet_deleteFfmpegSourceFiles host _ _)).bind
          exact fun _ => settles_pure ()
      · exact fun _ => settles_pure ()

theorem settles_generateTranscript {host : Host} {exposed : Json → Prop}
    (h : Carries host exposed job.jobType job.payload.dict) (htype : job.jobType = "generate_transcript")
    (jobId : Nat) : Settles job (generateTranscript host jobId job) := by
  unfold generateTranscript
  apply settles_ite
  · intro _
    have hfind : Settles job (perform (.downloadById (downloadPk job.payload.dict) job.profileId)) :=
      settles_quiet (calls_perform trivial)
    apply hfind.bind
    intro found
    cases found with
    | none => exact settles_pure ()
    | some download => exact settles_generateDownloadTranscript host jobId job _ download
  · intro hpk
    apply settles_ite
    · intro _
      exact settles_generateDeferredTranscriptScreening h htype (eq_false_of_ne_true hpk) jobId
    · exact fun _ => settles_pure ()

end

/-- A process on the way of an unscreened video leaves no removal without its row. -/
theorem follows_burialRules {host : Host} {exposed : Json → Prop} {i : Nat} {job : Job}
    {program : Handler Unit} (h : Carries host exposed job.jobType job.payload.dict)
    (hprogram : jobHandler host i job = some program) :
    Process.Follows (burialRules job) ⟨.job i job, [], program⟩ := by
  have hsettles : Settles job program := by
    rcases h.handler hprogram with ⟨-, rfl⟩ | ⟨-, rfl⟩ | ⟨htype, rfl⟩
    · exact settles_downloadEpisode host i job
    · exact settles_movesOn (handsOn_transcodeMedia host i job).movesOn
    · exact settles_generateTranscript h htype i
  exact hsettles [] trivial

end GetOffline
