import GetOffline.Burials
import GetOffline.ScreeningSafety

set_option autoImplicit true

namespace GetOffline
open Python Effects Program Execution

def Process.Ended (process : Process) : Prop :=
  match process.program with
  | .call _ _ => False
  | _ => True

/-- A row of the episode is found, as `_episode_was_downloaded` looks for it. -/
def Library.Knows (s : Library) : Episode → Prop
  | .lookup lookup => s.downloads.rows.any (fun _ row => Columns.matches lookup row) = true
  | .row id => ∃ row, s.downloads.rows.lookup id = some row

/-- When a process has ended, each of its removals has been followed by a row that says so. -/
def Pipeline.Tombstoned (w : Pipeline) : Prop :=
  ∀ process ∈ w.processes, process.Ended → ∀ before record after episode,
    process.past = before ++ record :: after → record.Removes episode →
    (∃ burial ∈ after, burial.Buries episode) ∧ w.library.Knows episode

/-- Nothing comes between a removal and its row, and videos without a row are heard. -/
def Pipeline.Orderly (host : Host) (w : Pipeline) : PipelineEvent → Prop
  | .advance i reply => ∀ process, w.processes[i]? = some process → ∀ id job,
    process.origin = .job id job → ∀ (β : Type) (op : HandlerOp β) k r,
    process.program = .call op k → op.run host reply w.library = some r →
    Undisturbed job process.past op r.1
  | .crash i => ∀ process, w.processes[i]? = some process → Buried process.past
  | _ => True

/-- Every process keeps to the rules of burial. -/
def Pipeline.Buries (w : Pipeline) : Prop :=
  ∀ process ∈ w.processes, ∃ i job, process.origin = .job i job ∧ process.Follows (burialRules job)

namespace Pipeline
variable {host : Host} {library : Library} {w t : Pipeline}

theorem buries_step {event : PipelineEvent} (hguarded : w.Guarded host library) (h : w.Buries)
    (hevent : event.Screened library) (hok : w.Orderly host event)
    (hstep : w.step host event = some t) : t.Buries := by
  cases event with
  | startJob i =>
    obtain ⟨job, hjob, hstart⟩ := Option.bind_eq_some_iff.1 hstep
    obtain ⟨program, hprogram, rfl⟩ := start_spec hstart
    intro process hprocess
    rcases List.mem_append.1 hprocess with hold | hnew
    · exact h process hold
    · rw [List.mem_singleton.1 hnew]
      exact ⟨i, job, rfl, follows_burialRules (hguarded.jobs i job hjob hevent) hprogram⟩
  | batchDownload profileId ids => exact hevent.elim
  | manualUpload profileId names => exact hevent.elim
  | advance i reply =>
    obtain ⟨process, hi, β, op, k, r, hop, hrun, rfl⟩ := advance_spec hstep
    obtain ⟨id, job, horigin, hfollows⟩ := h process (List.mem_of_getElem? hi)
    have hundisturbed := hok process hi id job horigin β op k r hop hrun
    intro p hp
    rcases mem_called hp with rfl | hold
    · exact ⟨id, job, horigin, hfollows.called hop ⟨tells_run hrun, hundisturbed⟩⟩
    · exact h p hold
  | crash i =>
    obtain ⟨process, hi, rfl⟩ := Option.map_eq_some_iff.1 hstep
    intro p hp
    rcases List.mem_or_eq_of_mem_set hp with hold | rfl
    · exact h p hold
    · obtain ⟨id, job, horigin, -⟩ := h process (List.mem_of_getElem? hi)
      exact ⟨id, job, horigin, Process.follows_crashed (hok process hi)⟩
  | work i work =>
    obtain rfl := Option.some.inj hstep
    exact h
  | configure sources settings appSettings =>
    obtain rfl := Option.some.inj hstep
    exact h
  | changeFiles files =>
    obtain rfl := Option.some.inj hstep
    exact h

/-- A burial's row is still there. -/
theorem Guarded.knows {process : Process} {burial : Record} {episode : Episode}
    (h : w.Guarded host library) (hprocess : process ∈ w.processes) (hburial : burial ∈ process.past)
    (hburies : burial.Buries episode) : w.library.Knows episode := by
  obtain ⟨i, job, hguarded⟩ := h.processes process hprocess
  cases episode with
  | lookup lookup =>
    obtain ⟨defaults, download, status, rfl, -, -⟩ := hburies
    obtain ⟨key, rfl, row, hrow, hkey⟩ := hguarded.answers lookup defaults download hburial
    exact Table.any_iff.2 ⟨download.id, row, hrow, hkey⟩
  | row id =>
    obtain ⟨fields, status, rfl, -, -⟩ := hburies
    exact hguarded.saves id fields hburial

theorem tombstoned_of_buries (hguarded : w.Guarded host library) (h : w.Buries) : w.Tombstoned := by
  intro process hprocess hended before record after episode hpast hremoves
  obtain ⟨i, job, -, hfollows⟩ := h process hprocess
  have hburied : Buried process.past := by
    rw [Process.Follows] at hfollows
    rw [Process.Ended] at hended
    cases hprogram : process.program with
    | done a =>
      rw [hprogram] at hfollows
      exact meets_pure.1 hfollows
    | raise e =>
      rw [hprogram] at hfollows
      exact meets_raise.1 hfollows
    | call op k =>
      rw [hprogram] at hended
      exact hended.elim
  rw [hpast] at hburied
  obtain ⟨burial, hburial, hburies⟩ := hburied.buries hremoves
  refine ⟨⟨burial, hburial, hburies⟩, ?_⟩
  apply hguarded.knows hprocess _ hburies
  rw [hpast]
  exact List.mem_append_right _ (List.mem_cons_of_mem _ hburial)

end Pipeline

/-- In an orderly run every removal leaves a tombstone. -/
theorem removals_leave_tombstones (host : Host) (library : Library) (events : List PipelineEvent)
    (hevents : ∀ event ∈ events, event.Screened library)
    (hok : Along (Pipeline.step host) (Pipeline.Orderly host) (Pipeline.initial library) events)
    (hrun : exec (Pipeline.step host) (Pipeline.initial library) events = some w) : w.Tombstoned := by
  have hboth : Along (Pipeline.step host)
      (fun w event => event.Screened library ∧ w.Orderly host event) (Pipeline.initial library) events :=
    (along_of_forall hevents _ _).and hok
  have hinvariant : w.Guarded host library ∧ w.Buries := by
    apply exec_invariant _ _ hboth hrun
    · intro w event t h hevent hstep
      exact ⟨Pipeline.guarded_step h.1 hevent.1 hstep,
        Pipeline.buries_step h.1 h.2 hevent.1 hevent.2 hstep⟩
    · refine ⟨Pipeline.guarded_initial host library, ?_⟩
      exact fun process hprocess => absurd hprocess List.not_mem_nil
  exact Pipeline.tombstoned_of_buries hinvariant.1 hinvariant.2

namespace Pipeline

/-- A step whose call, if it is one, succeeds and is heard. -/
def goesWell (host : Host) (w : Pipeline) : PipelineEvent → Bool
  | .advance i reply => w.processes[i]?.all fun process =>
    match process.program with
    | .call op _ => (op.run host reply w.library).all fun r => r.1.toOption.isSome && op.heard r.1
    | _ => true
  | .crash _ => false
  | _ => true

theorem orderly_of_goesWell {w : Pipeline} {event : PipelineEvent} (h : w.goesWell host event = true) :
    w.Orderly host event := by
  cases event with
  | advance i reply =>
    intro process hi id job _ β op k r hop hrun
    rw [goesWell, hi, Option.all_some, hop] at h
    dsimp only at h
    rw [hrun, Option.all_some, Bool.and_eq_true] at h
    refine ⟨fun _ => h.2, ?_⟩
    intro _
    cases hr : r.1 with
    | ok a => exact ⟨a, rfl⟩
    | error e =>
      rw [hr] at h
      cases h.1
  | crash i => cases h
  | _ => trivial

end Pipeline

theorem screenedEvents_screened (replies : List Reply) :
    ∀ event ∈ PipelineEvent.startJob 1 :: replies.map (.advance 0), event.Screened screenedLibrary := by
  rw [List.forall_mem_cons]
  constructor
  · intro job hjob
    obtain rfl := Option.some.inj hjob
    exact ⟨by decide, ⟨rfl, rfl, rfl⟩⟩
  · intro event hevent
    obtain ⟨reply, -, rfl⟩ := List.mem_map.1 hevent
    trivial

/-- The transcript has a match. -/
def filteredReplies : List Reply :=
  screenedReplies.take 15 ++
    ([{ explicitMatch := some ⟨"category", "term", "sentence"⟩ }, {}, {}, {}, {}] : List Reply)

theorem filtered_video_leaves_tombstone : ∃ w, exec (Pipeline.step .plain)
    (Pipeline.initial screenedLibrary) (.startJob 1 :: filteredReplies.map (.advance 0)) = some w ∧
    w.Tombstoned := by
  have hrun : (exec (Pipeline.step .plain) (Pipeline.initial screenedLibrary)
      (.startJob 1 :: filteredReplies.map (.advance 0))).isSome = true := by
    decide +kernel
  have hwell : Along (Pipeline.step .plain) (fun w event => w.goesWell .plain event = true)
      (Pipeline.initial screenedLibrary) (.startJob 1 :: filteredReplies.map (.advance 0)) := by
    decide +kernel
  obtain ⟨w, hw⟩ := Option.isSome_iff_exists.1 hrun
  exact ⟨w, hw, removals_leave_tombstones .plain screenedLibrary _ (screenedEvents_screened _)
    (hwell.mono fun _ _ => Pipeline.orderly_of_goesWell) hw⟩

def HandlerOp.removed : HandlerOp β → Option Episode
  | .deleteMediaArtifacts _ episode => some episode
  | _ => none

theorem Record.removes_of_removed {record : Record} (h : record.op.removed = some episode) :
    record.Removes episode := by
  obtain ⟨op, answer⟩ := record
  cases op with
  | deleteMediaArtifacts media episode' =>
    obtain rfl := Option.some.inj h
    exact ⟨media, answer, rfl⟩
  | _ => cases h

/-- The last thing that an ended process has done is a removal. -/
def Process.endsInRemoval (process : Process) : Bool :=
  match process.program with
  | .call _ _ => false
  | _ => process.past.getLast?.any fun record => record.op.removed.isSome

theorem Process.endsInRemoval_spec {process : Process} (h : process.endsInRemoval = true) :
    process.Ended ∧ ∃ before record episode,
      process.past = before ++ [record] ∧ record.Removes episode := by
  rw [endsInRemoval] at h
  rw [Ended]
  have hlast : (process.past.getLast?.any fun record => record.op.removed.isSome) = true →
      ∃ before record episode, process.past = before ++ [record] ∧ record.Removes episode := by
    intro hany
    obtain ⟨record, hrecord, hremoved⟩ := (Option.any_eq_true _ _).1 hany
    obtain ⟨before, hpast⟩ := List.getLast?_eq_some_iff.1 hrecord
    obtain ⟨episode, hepisode⟩ := Option.isSome_iff_exists.1 hremoved
    exact ⟨before, record, episode, hpast, Record.removes_of_removed hepisode⟩
  cases hprogram : process.program with
  | call op k =>
    rw [hprogram] at h
    cases h
  | _ =>
    rw [hprogram] at h
    exact ⟨trivial, hlast h⟩

/-- There is no transcript. -/
def unheardReplies : List Reply :=
  screenedReplies.take 14 ++ ([{}, {}] : List Reply)

/-- The video is deleted and no row tells of it. -/
theorem unheard_video_leaves_no_tombstone :
    (∀ event ∈ PipelineEvent.startJob 1 :: unheardReplies.map (.advance 0),
      event.Screened screenedLibrary) ∧
    ∃ w, exec (Pipeline.step .plain) (Pipeline.initial screenedLibrary)
      (.startJob 1 :: unheardReplies.map (.advance 0)) = some w ∧ ¬w.Tombstoned := by
  have hcheck : ((exec (Pipeline.step .plain) (Pipeline.initial screenedLibrary)
      (.startJob 1 :: unheardReplies.map (.advance 0))).any fun w =>
        w.processes.any Process.endsInRemoval) = true := by
    decide +kernel
  refine ⟨screenedEvents_screened _, ?_⟩
  obtain ⟨w, hrun, hremoval⟩ := (Option.any_eq_true _ _).1 hcheck
  obtain ⟨process, hprocess, hends⟩ := List.any_eq_true.1 hremoval
  refine ⟨w, hrun, ?_⟩
  intro h
  obtain ⟨hended, before, record, episode, hpast, hremoves⟩ := Process.endsInRemoval_spec hends
  obtain ⟨⟨burial, hburial, -⟩, -⟩ := h process hprocess hended before record [] episode hpast hremoves
  cases hburial

end GetOffline
