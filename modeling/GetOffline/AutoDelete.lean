import GetOffline.RetentionSchedule

set_option autoImplicit true

namespace GetOffline
open Python Execution

/-- The profile of a retention schedule, and whether it is enabled. -/
def retentionRow (schedules : ScheduleTable) (id : Nat) : Option (String × Bool) :=
  ((schedules.lookup id).filter fun schedule => schedule.jobType = "retention_cleanup").map
    fun schedule => (schedule.profileId, schedule.enabled)

section
variable {schedules schedules' : ScheduleTable} {id : Nat} {schedule : ScheduledJob}

theorem retentionRow_eq_some :
    retentionRow schedules id = some row ↔ ∃ schedule, schedules.lookup id = some schedule ∧
      schedule.jobType = "retention_cleanup" ∧ (schedule.profileId, schedule.enabled) = row := by
  simp only [retentionRow, Option.map_eq_some_iff, Option.filter_eq_some_iff, decide_eq_true_eq,
    and_assoc]

/-- An enabled schedule that is due is taken up where the limit admits all that are. -/
theorem mem_dueIds (hrow : schedules.lookup id = some schedule)
    (henabled : schedule.enabled = true) (hdue : schedule.nextRunAt ≤ now) {limit : Int}
    (hlimit : (ScheduleWorld.dueRuns now schedules).length ≤ limit) : id ∈ dueIds now limit schedules := by
  rw [ScheduleWorld.dueRuns, List.length_map] at hlimit
  rw [dueIds, List.take_of_length_le]
  · refine List.mem_map.2 ⟨⟨id, schedule⟩, (List.mem_insertionSort _).2 (List.mem_filter.2 ⟨?_, ?_⟩), rfl⟩
    · exact Table.mem_entries_iff.2 hrow
    · rw [henabled, Bool.true_and]
      exact decide_eq_true hdue
  · rw [List.length_map, List.length_insertionSort]
    omega

theorem retentionScheduled_iff : RetentionScheduled profileId schedules ↔
    ∃ id, retentionRow schedules id = some (profileId, true) := by
  constructor
  · rintro ⟨id, schedule, hrow, rfl, htype, henabled, -⟩
    exact ⟨id, retentionRow_eq_some.2 ⟨schedule, hrow, htype, by rw [henabled]⟩⟩
  · rintro ⟨id, hrow⟩
    obtain ⟨schedule, hrow, htype, heq⟩ := retentionRow_eq_some.1 hrow
    obtain ⟨hprofile, henabled⟩ := Prod.mk.inj heq
    exact ⟨id, schedule, hrow, hprofile, htype, henabled, fun now limit hdue hlimit =>
      mem_dueIds hrow henabled hdue hlimit⟩

/-- A write of a row that keeps its type, its profile and, for retention, whether it is enabled. -/
theorem retentionRow_update {f : ScheduledJob → ScheduledJob} {i : Nat}
    (hf : ∀ schedule, schedules.lookup i = some schedule → (f schedule).jobType = schedule.jobType ∧
      (schedule.jobType = "retention_cleanup" → (f schedule).profileId = schedule.profileId ∧
        (f schedule).enabled = schedule.enabled)) :
    retentionRow (schedules.update (fun k _ => k == i) f) = retentionRow schedules := by
  funext k
  rw [retentionRow, retentionRow, Table.lookup_update]
  by_cases hk : k = i
  · subst hk
    cases hrow : schedules.lookup k with
    | none => rfl
    | some schedule =>
      obtain ⟨htype, hsame⟩ := hf schedule hrow
      simp only [Option.map_some, beq_self_eq_true, ↓reduceIte, Option.filter_some, htype]
      split
      · next h =>
        obtain ⟨hprofile, henabled⟩ := hsame (of_decide_eq_true h)
        rw [Option.map_some, Option.map_some, hprofile, henabled]
      · rfl
  · simp only [beq_false_of_ne hk, Bool.false_eq_true, ↓reduceIte, Option.map_id']

theorem retentionRow_insert (hnew : schedules.lookup newId = none) (htype : schedule.jobType ≠ "retention_cleanup") :
    retentionRow (AList.insert newId schedule schedules) = retentionRow schedules := by
  funext k
  rw [retentionRow, retentionRow]
  by_cases hk : k = newId
  · subst hk
    rw [AList.lookup_insert, hnew, Option.filter_some, if_neg, Option.filter_none]
    rwa [decide_eq_true_eq]
  · rw [AList.lookup_insert_ne hk]

theorem updateSchedule_type (h : updateSchedule profileId schedules = some (id, schedule)) :
    schedules.lookup id = some schedule ∧ schedule.jobType = "update_downloads" := by
  obtain ⟨hrow, hp⟩ := Table.lookup_of_first h
  rw [Bool.and_eq_true, decide_eq_true_eq, decide_eq_true_eq] at hp
  exact ⟨hrow, hp.2⟩

/-- A save of the settings leaves the retention schedules alone. -/
theorem retentionRow_sync (hnew : schedules.lookup newId = none)
    (h : syncUpdateDownloadsSchedule profileId rawMinutes now newId schedules = .ok schedules') :
    retentionRow schedules' = retentionRow schedules := by
  have hupdates : "update_downloads" ≠ "retention_cleanup" := by decide
  have hkept {id : Nat} {schedule : ScheduledJob} (f : ScheduledJob → ScheduledJob)
      (hfound : updateSchedule profileId schedules = some (id, schedule))
      (hf : ∀ schedule, (f schedule).jobType = schedule.jobType) :
      retentionRow (schedules.update (fun k _ => k == id) f) = retentionRow schedules := by
    obtain ⟨hrow, htype⟩ := updateSchedule_type hfound
    apply retentionRow_update
    intro other hother
    refine ⟨hf other, fun hretention => ?_⟩
    rw [hrow] at hother
    obtain rfl := Option.some.inj hother
    rw [htype] at hretention
    exact absurd hretention hupdates
  unfold syncUpdateDownloadsSchedule at h
  split at h
  · obtain rfl := Except.ok.inj h
    rfl
  · dsimp only at h
    split at h
    · split at h
      · next id schedule hfound =>
        split at h
        · obtain rfl := Except.ok.inj h
          exact hkept _ hfound fun _ => rfl
        · obtain rfl := Except.ok.inj h
          rfl
      · obtain rfl := Except.ok.inj h
        rfl
    · split at h
      · cases h
      · split at h
        · obtain rfl := Except.ok.inj h
          exact retentionRow_insert hnew hupdates
        · next id schedule hfound =>
          obtain rfl := Except.ok.inj h
          exact hkept _ hfound fun _ => rfl

/-- A turn of a pass disables no retention schedule. -/
theorem retentionRow_enqueueSchedule {db db' : Database}
    (h : enqueueSchedule i now clock createdAt updatedAt pairs schedules db =
      .ok (schedules', db', run)) : retentionRow schedules' = retentionRow schedules := by
  unfold enqueueSchedule at h
  cases hrow : schedules.lookup i with
  | none =>
    rw [hrow] at h
    cases h
  | some schedule =>
    rw [hrow] at h
    dsimp only at h
    split at h
    · cases h
      rfl
    · split at h
      · next hunknown =>
        cases h
        apply retentionRow_update
        intro other hother
        refine ⟨rfl, fun hretention => ?_⟩
        rw [hrow] at hother
        obtain rfl := Option.some.inj hother
        rw [hretention] at hunknown
        exact absurd hunknown (by decide)
      · obtain ⟨payload, -, h⟩ := bind_eq_ok.1 h
        obtain ⟨nextRun, -, h⟩ := bind_eq_ok.1 h
        cases h
        exact retentionRow_update fun other _ => ⟨rfl, fun _ => ⟨rfl, rfl⟩⟩

theorem retentionRow_insert_at (newId : Nat) (schedule : ScheduledJob) (schedules : ScheduleTable)
    (htype : schedule.jobType = "retention_cleanup") :
    retentionRow (AList.insert newId schedule schedules) =
      Function.update (retentionRow schedules) newId (some (schedule.profileId, schedule.enabled)) := by
  funext k
  by_cases hk : k = newId
  · subst hk
    rw [Function.update_self, retentionRow, AList.lookup_insert, Option.filter_some,
      if_pos (decide_eq_true htype), Option.map_some]
  · rw [Function.update_of_ne hk, retentionRow, retentionRow, AList.lookup_insert_ne hk]

/-- All retention schedules are the default profile's, and enabled. -/
def OnlyDefault (schedules : ScheduleTable) : Prop :=
  ∀ id row, retentionRow schedules id = some row → row = ("default", true)

theorem OnlyDefault.congr (h : OnlyDefault schedules)
    (hrows : retentionRow schedules' = retentionRow schedules) : OnlyDefault schedules' := by
  intro id row hrow
  rw [hrows] at hrow
  exact h id row hrow

/-- Installing the defaults adds to the schedules, and of retention only the default profile's. -/
theorem installDefault_spec {spec : DefaultSchedule} (hspec : spec ∈ defaultSchedules)
    (hnew : schedules.lookup newId = none)
    (h : installDefault spec now newId schedules = .ok schedules') :
    retentionRow schedules' = retentionRow schedules ∨
      retentionRow schedules' = Function.update (retentionRow schedules) newId (some ("default", true)) := by
  unfold installDefault at h
  split at h
  · obtain rfl := Except.ok.inj h
    simp only [defaultSchedules, List.mem_cons, List.not_mem_nil, or_false] at hspec
    rcases hspec with rfl | rfl
    · have htype : "update_downloads" ≠ "retention_cleanup" := by decide
      exact .inl (retentionRow_insert hnew htype)
    · exact .inr (retentionRow_insert_at newId _ schedules rfl)
  · obtain rfl := Except.ok.inj h
    exact .inl rfl
  · cases h

/-- An installation keeps the retention schedules that there are, and makes none but the default one. -/
theorem installDefaults_spec (now : Instant) {specs : List DefaultSchedule} (hspecs : specs ⊆ defaultSchedules)
    (hnew : ∀ newId ∈ newIds, schedules.lookup newId = none) (hnodup : newIds.Nodup)
    (h : OnlyDefault schedules) :
    OnlyDefault (installDefaults now specs newIds schedules) ∧
      ∀ id row, retentionRow schedules id = some row →
        retentionRow (installDefaults now specs newIds schedules) id = some row := by
  induction specs generalizing newIds schedules with
  | nil => exact ⟨h, fun id row hrow => hrow⟩
  | cons spec specs ih =>
    cases newIds with
    | nil => exact ⟨h, fun id row hrow => hrow⟩
    | cons newId newIds =>
      rw [installDefaults]
      cases hok : installDefault spec now newId schedules with
      | error error => exact ⟨h, fun id row hrow => hrow⟩
      | ok schedules' =>
        have hfresh := hnew newId List.mem_cons_self
        obtain ⟨hid, hnodup⟩ := List.nodup_cons.1 hnodup
        have hnew' : ∀ other ∈ newIds, schedules'.lookup other = none := by
          intro other hother
          have hne : other ≠ newId := fun he => hid (he ▸ hother)
          unfold installDefault at hok
          split at hok
          · obtain rfl := Except.ok.inj hok
            rw [AList.lookup_insert_ne hne]
            exact hnew other (List.mem_cons_of_mem _ hother)
          · obtain rfl := Except.ok.inj hok
            exact hnew other (List.mem_cons_of_mem _ hother)
          · cases hok
        have hnone : retentionRow schedules newId = none := by
          rw [retentionRow, hfresh, Option.filter_none, Option.map_none]
        obtain ⟨honly, hkept⟩ : OnlyDefault schedules' ∧ ∀ id row,
            retentionRow schedules id = some row → retentionRow schedules' id = some row := by
          rcases installDefault_spec (hspecs List.mem_cons_self) hfresh hok with hrows | hrows
          · exact ⟨h.congr hrows, fun id row hrow => by rw [hrows, hrow]⟩
          · constructor
            · intro id row hrow
              rw [hrows, Function.update_apply] at hrow
              split at hrow
              · exact (Option.some.inj hrow).symm
              · exact h id row hrow
            · intro id row hrow
              have hne : id ≠ newId := by
                rintro rfl
                rw [hnone] at hrow
                cases hrow
              rw [hrows, Function.update_of_ne hne, hrow]
        obtain ⟨honly', hkept'⟩ := ih (fun _ hmem => hspecs (List.mem_cons_of_mem _ hmem)) hnew'
          hnodup honly
        exact ⟨honly', fun id row hrow => hkept' id row (hkept id row hrow)⟩

end

namespace ScheduleWorld
variable [DecidableEq P] {w w' : ScheduleWorld P}

/-- No step of the scheduler or of a worker touches what is known of the retention schedules. -/
theorem retentionRow_step {event : ScheduleEvent P} (h : w.step event = some w') :
    retentionRow w'.schedules = retentionRow w.schedules := by
  cases event with
  | begin p now limit =>
    obtain ⟨-, h⟩ := Option.ite_none_right_eq_some.1 h
    obtain rfl := Option.some.inj h
    rfl
  | enqueue p clock createdAt updatedAt pairs raised =>
    obtain ⟨pass, -, h⟩ := Option.bind_eq_some_iff.1 h
    split at h
    · obtain rfl := Option.some.inj h
      unfold enqueue
      split
      · rfl
      · rfl
      · next hok _ => exact retentionRow_enqueueSchedule hok
      · next hok _ => exact retentionRow_enqueueSchedule hok
    · cases h
  | publish p outcome =>
    obtain ⟨pass, -, h⟩ := Option.bind_eq_some_iff.1 h
    obtain ⟨jobId, -, rfl⟩ := Option.map_eq_some_iff.1 h
    unfold publish
    dsimp only
    split <;> split <;> rfl
  | work jobId f =>
    obtain ⟨-, h⟩ := Option.ite_none_right_eq_some.1 h
    obtain rfl := Option.some.inj h
    rfl
  | create job =>
    obtain rfl := Option.some.inj h
    rfl
  | send jobId =>
    obtain rfl := Option.some.inj h
    rfl

end ScheduleWorld

namespace AutoDeleteWorld
variable [DecidableEq P] {w w' : AutoDeleteWorld P} {event : AutoDeleteEvent P}

/-- Every profile whose content is to be deleted has a schedule for that. -/
def TakesEffect (w : AutoDeleteWorld P) : Prop :=
  ∀ profileId, AutoDeletes profileId w.settings → RetentionScheduled profileId w.scheduler.schedules

/-- A save that is accepted leaves a positive number of days for the default profile only, whose
schedule has been installed by then. -/
def Admits (w : AutoDeleteWorld P) : AutoDeleteEvent P → Prop
  | .save profileId post _ newId acquired writes =>
    w.scheduler.schedules.lookup newId = none → invalidConfigKeys post = [] → acquired = true →
      AutoDeletes profileId (storeConfig profileId post writes w.settings) →
        profileId = "default" ∧ RetentionScheduled "default" w.scheduler.schedules
  | _ => True

omit [DecidableEq P] in
theorem scheduled_iff (h : OnlyDefault schedules) :
    RetentionScheduled profileId schedules ↔
      profileId = "default" ∧ RetentionScheduled "default" schedules := by
  constructor
  · intro hscheduled
    obtain ⟨id, hrow⟩ := retentionScheduled_iff.1 hscheduled
    have hprofile : profileId = "default" := (Prod.mk.inj (h id _ hrow)).1
    exact ⟨hprofile, hprofile ▸ hscheduled⟩
  · rintro ⟨rfl, hscheduled⟩
    exact hscheduled

/-- What a save does: it stores settings, and leaves the retention schedules alone. -/
theorem saveConfig_spec (profileId : String) (post : Form) (now : Instant) (acquired : Bool)
    (writes : Option Nat) (settings : SettingsTable) (hnew : schedules.lookup newId = none) :
    (saveConfig profileId post now newId acquired writes settings schedules).2.1 =
        (if invalidConfigKeys post = [] ∧ acquired = true then
          storeConfig profileId post writes settings else settings) ∧
      retentionRow (saveConfig profileId post now newId acquired writes settings schedules).2.2 =
        retentionRow schedules := by
  by_cases haccepted : invalidConfigKeys post = [] ∧ acquired = true
  · rw [if_pos haccepted, saveConfig, if_neg (not_not.2 haccepted.1), haccepted.2]
    simp only [Bool.not_true, Bool.false_eq_true, ↓reduceIte]
    split
    · exact ⟨rfl, rfl⟩
    · split
      · exact ⟨rfl, rfl⟩
      · split
        · next hok => exact ⟨rfl, retentionRow_sync hnew hok⟩
        · exact ⟨rfl, rfl⟩
  · rw [if_neg haccepted, saveConfig]
    split
    · exact ⟨rfl, rfl⟩
    · next hvalid =>
      split
      · exact ⟨rfl, rfl⟩
      · next hfree =>
        rw [not_not] at hvalid
        rw [Bool.not_eq_true', Bool.not_eq_false] at hfree
        exact absurd ⟨hvalid, hfree⟩ haccepted

theorem storeConfig_other {settings : SettingsTable} (h : other ≠ profileId) (key : String) :
    (storeConfig profileId post writes settings).lookup (other, key) = settings.lookup (other, key) := by
  have hfold (items : List (String × String)) : (items.foldl (fun settings item =>
      AList.insert (profileId, item.1) item.2 settings) settings).lookup (other, key) =
        settings.lookup (other, key) := by
    induction items generalizing settings with
    | nil => rfl
    | cons item items ih =>
      rw [List.foldl_cons, ih, AList.lookup_insert_ne]
      exact fun he => h (Prod.mk.inj he).1
  exact hfold _

theorem onlyDefault_step (h : OnlyDefault w.scheduler.schedules) (hstep : w.step event = some w') :
    OnlyDefault w'.scheduler.schedules := by
  cases event with
  | save profileId post now newId acquired writes =>
    obtain ⟨hnew, hstep⟩ := Option.ite_none_right_eq_some.1 hstep
    obtain rfl := Option.some.inj hstep
    exact h.congr (saveConfig_spec profileId post now acquired writes w.settings hnew).2
  | install now newIds =>
    obtain ⟨⟨hnodup, hnew⟩, hstep⟩ := Option.ite_none_right_eq_some.1 hstep
    obtain rfl := Option.some.inj hstep
    exact (installDefaults_spec now (List.Subset.refl _) hnew hnodup h).1
  | scheduler event =>
    obtain ⟨scheduler, hscheduler, rfl⟩ := Option.map_eq_some_iff.1 hstep
    exact h.congr (ScheduleWorld.retentionRow_step hscheduler)

omit [DecidableEq P] in
theorem TakesEffect.congr (h : w.TakesEffect) (hsettings : w'.settings = w.settings)
    (hrows : ∀ id row, retentionRow w.scheduler.schedules id = some row →
      retentionRow w'.scheduler.schedules id = some row) : w'.TakesEffect := by
  intro profileId hdeletes
  rw [hsettings] at hdeletes
  obtain ⟨id, hrow⟩ := retentionScheduled_iff.1 (h profileId hdeletes)
  exact retentionScheduled_iff.2 ⟨id, hrows id _ hrow⟩

theorem takesEffect_step (honly : OnlyDefault w.scheduler.schedules) (h : w.TakesEffect)
    (hstep : w.step event = some w') : w'.TakesEffect ↔ w.Admits event := by
  cases event with
  | save profileId post now newId acquired writes =>
    obtain ⟨hnew, hstep⟩ := Option.ite_none_right_eq_some.1 hstep
    obtain ⟨hsettings, hrows⟩ := saveConfig_spec profileId post now acquired writes w.settings hnew
    obtain rfl := Option.some.inj hstep
    have hscheduled (other : String) : RetentionScheduled other (saveConfig profileId post now newId
        acquired writes w.settings w.scheduler.schedules).2.2 ↔
          RetentionScheduled other w.scheduler.schedules := by
      rw [retentionScheduled_iff, retentionScheduled_iff, hrows]
    constructor
    · intro hafter _ hvalid hacquired hdeletes
      rw [if_pos ⟨hvalid, hacquired⟩] at hsettings
      rw [← hsettings] at hdeletes
      exact (scheduled_iff honly).1 ((hscheduled _).1 (hafter profileId hdeletes))
    · intro hadmits other hdeletes
      apply (hscheduled other).2
      dsimp only at hdeletes
      rw [hsettings] at hdeletes
      split at hdeletes
      · next haccepted =>
        by_cases hother : other = profileId
        · subst hother
          exact (scheduled_iff honly).2 (hadmits hnew haccepted.1 haccepted.2 hdeletes)
        · rw [AutoDeletes, storeConfig_other hother] at hdeletes
          exact h other hdeletes
      · exact h other hdeletes
  | install now newIds =>
    obtain ⟨⟨hnodup, hnew⟩, hstep⟩ := Option.ite_none_right_eq_some.1 hstep
    obtain rfl := Option.some.inj hstep
    refine iff_of_true ?_ trivial
    exact h.congr rfl (installDefaults_spec now (List.Subset.refl _) hnew hnodup honly).2
  | scheduler event =>
    obtain ⟨scheduler, hscheduler, rfl⟩ := Option.map_eq_some_iff.1 hstep
    refine iff_of_true ?_ trivial
    refine TakesEffect.congr h rfl ?_
    intro id row hrow
    rw [ScheduleWorld.retentionRow_step hscheduler, hrow]

end AutoDeleteWorld

/-- Auto-delete takes effect exactly as long as it is only the default profile that turns it on, after
the defaults have been installed. -/
theorem auto_delete_takes_effect_iff [DecidableEq P] (db : Database) (messages : List Nat)
    (events : List (AutoDeleteEvent P)) :
    Along AutoDeleteWorld.step AutoDeleteWorld.Admits (.initial db messages) events ↔
      ∀ before after w, events = before ++ after →
        exec AutoDeleteWorld.step (.initial db messages) before = some w → w.TakesEffect := by
  apply along_iff_always (I := fun w => OnlyDefault w.scheduler.schedules)
  · intro w event w' honly hstep
    exact AutoDeleteWorld.onlyDefault_step honly hstep
  · intro w event w' honly h hstep
    exact AutoDeleteWorld.takesEffect_step honly h hstep
  · intro w event hstep
    cases event with
    | save profileId post now newId acquired writes =>
      intro hnew
      dsimp only [AutoDeleteWorld.step] at hstep
      rw [if_pos hnew] at hstep
      cases hstep
    | install now newIds => trivial
    | scheduler event => trivial
  · intro id row hrow
    cases hrow
  · rintro profileId ⟨text, days, hnone, -⟩
    cases hnone

/-- The form of the settings page, as far as deletion is concerned. -/
def sevenDays : Form :=
  AList.insert "config__auto_delete_content_days" "7" ∅

/-- A profile turns auto-delete on; the defaults are installed before. -/
theorem own_profile_never_cleaned : ∃ w : AutoDeleteWorld Unit,
    exec AutoDeleteWorld.step (.initial .empty [])
      [.install 0 [0, 1], .save "anna" sevenDays 10 2 true none] = some w ∧
    AutoDeletes "anna" w.settings ∧ ¬ RetentionScheduled "anna" w.scheduler.schedules ∧
      RetentionScheduled "default" w.scheduler.schedules := by
  refine ⟨_, rfl, ?_, ?_, ?_⟩
  · exact ⟨"7", 7, by decide +kernel, by decide +kernel, by decide⟩
  · rintro ⟨id, schedule, hrow, hprofile, -⟩
    have hdefault : ∀ e ∈ (installDefaults 0 defaultSchedules [0, 1] ∅).entries,
        e.2.profileId = "default" := by
      decide +kernel
    rw [hdefault _ (Table.mem_entries_iff.2 hrow)] at hprofile
    exact absurd hprofile (by decide)
  · exact retentionScheduled_iff.2 ⟨1, by decide +kernel⟩

end GetOffline
