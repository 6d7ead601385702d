import GetOffline.ScheduleSettings

set_option autoImplicit true

namespace GetOffline
open Python Execution

/-- The loop stops at the first run past the clock. -/
theorem skipPast_le (turns : Nat) (nextRun : Instant) :
    skipPast interval now turns nextRun ≤ max nextRun (now + interval) := by
  induction turns generalizing nextRun with
  | zero => exact le_max_left _ _
  | succ turns ih =>
    unfold skipPast
    split
    · next hle =>
      apply le_trans (ih _)
      apply max_le
      · exact le_trans (Int.add_le_add_right hle interval) (le_max_right _ _)
      · exact le_max_right _ _
    · exact le_max_left _ _

theorem nextRunAfter_le {schedule : ScheduledJob} (hdue : dueAt ≤ now)
    (h : nextRunAfter schedule now dueAt = .ok nextRun) : nextRun ≤ now + schedule.interval := by
  unfold nextRunAfter at h
  dsimp only at h
  split at h
  · cases h
  · cases h
    apply le_trans (skipPast_le _ _)
    exact max_le (Int.add_le_add_right hdue _) le_rfl

theorem ScheduledJob.interval_eq {schedule : ScheduledJob} (h : 60 ≤ schedule.intervalSeconds) :
    schedule.interval = schedule.intervalSeconds * 1000000 := by
  unfold ScheduledJob.interval
  rw [if_neg (by omega)]
  omega

/-- The row after a run of it has been enqueued. -/
def ScheduledJob.advance (now nextRunAt : Instant) (schedule : ScheduledJob) : ScheduledJob :=
  { schedule with lastRunAt := some now, nextRunAt, updatedAt := now }

/-- A turn of a pass changes its schedule's row, at most. -/
theorem enqueueSchedule_spec
    (h : enqueueSchedule i now clock createdAt updatedAt pairs schedules db =
      .ok (schedules', db', run)) :
    (run = none ∧ schedules' = schedules) ∨
    (run = none ∧ schedules' = schedules.update (fun k _ => k == i) (ScheduledJob.disable now)) ∨
    ∃ schedule jobId nextRun, schedules.lookup i = some schedule ∧ schedule.nextRunAt ≤ now ∧
      run = some ⟨i, schedule.nextRunAt, jobId⟩ ∧
      nextRunAfter schedule clock schedule.nextRunAt = .ok nextRun ∧
      schedules' = schedules.update (fun k _ => k == i) (ScheduledJob.advance now nextRun) := by
  unfold enqueueSchedule at h
  cases hrow : schedules.lookup i with
  | none =>
    rw [hrow] at h
    cases h
  | some schedule =>
    rw [hrow] at h
    dsimp only at h
    split at h
    · cases h
      exact .inl ⟨rfl, rfl⟩
    · next hdue =>
      split at h
      · cases h
        exact .inr (.inl ⟨rfl, rfl⟩)
      · obtain ⟨payload, -, h⟩ := bind_eq_ok.1 h
        obtain ⟨nextRun, hnext, h⟩ := bind_eq_ok.1 h
        cases h
        refine .inr (.inr ⟨schedule, _, nextRun, rfl, ?_, rfl, hnext, rfl⟩)
        rw [Bool.or_eq_true, not_or, decide_eq_true_eq, not_lt] at hdue
        exact hdue.2

def TimedEvent.IsSave : TimedEvent P → Prop
  | .save _ _ _ _ _ => True
  | .scheduler _ => False

/-- A save that shortens the interval, or that replaces a run in the past. -/
def TimedEvent.Resets (event : TimedEvent P) (clock : Instant) (s s' : ScheduledJob) : Prop :=
  event.IsSave ∧ (s'.intervalSeconds < s.intervalSeconds ∨ s.nextRunAt ≤ clock)

/-- What a step makes of a schedule that is there. -/
inductive RowStep (event : TimedEvent P) (clock : Instant) (s s' : ScheduledJob) : Prop
  | kept (htype : s'.jobType = s.jobType) (hnext : s'.nextRunAt = s.nextRunAt)
      (hinterval : s'.intervalSeconds = s.intervalSeconds)
  | ran (htype : s'.jobType = s.jobType) (hinterval : s'.intervalSeconds = s.intervalSeconds)
      (hdue : s.nextRunAt ≤ clock) (hlt : clock < s'.nextRunAt)
      (hle : s'.nextRunAt ≤ clock + s.interval)
  | saved (htype : s'.jobType = s.jobType)
      (hevent : event.IsSave)
      (hmin : 60 ≤ s'.intervalSeconds) (hnext : s'.nextRunAt = clock + s'.intervalSeconds * 1000000)
      (hreset : s.nextRunAt ≤ clock ∨ s.intervalSeconds ≠ s'.intervalSeconds)

theorem RowStep.refl (event : TimedEvent P) (clock : Instant) (s : ScheduledJob) :
    RowStep event clock s s :=
  .kept rfl rfl rfl

theorem RowStep.jobType {event : TimedEvent P} (h : RowStep event clock s s') :
    s'.jobType = s.jobType := by
  cases h with
  | kept htype => exact htype
  | ran htype => exact htype
  | saved htype => exact htype

/-- After a step a schedule stands past the runs that lie behind. -/
theorem RowStep.behind {event : TimedEvent P} (h : RowStep event clock s s') (hdue : dueAt ≤ clock)
    (hlt : dueAt < s.nextRunAt) : dueAt < s'.nextRunAt := by
  cases h with
  | kept htype hnext hinterval =>
    rw [hnext]
    exact hlt
  | ran htype hinterval _ hlt' hle => exact lt_of_le_of_lt hdue hlt'
  | saved htype hevent hmin hnext hreset =>
    rw [hnext]
    exact lt_of_le_of_lt hdue (Int.lt_add_of_pos_right _ (by omega))

theorem RowStep.ahead {event : TimedEvent P} {clock' : Instant} (h : RowStep event clock s s')
    (hclock : clock' ≤ clock) (hmin : 60 ≤ s.intervalSeconds)
    (hle : s.nextRunAt ≤ clock' + s.intervalSeconds * 1000000) :
    60 ≤ s'.intervalSeconds ∧ s'.nextRunAt ≤ clock + s'.intervalSeconds * 1000000 := by
  cases h with
  | kept htype hnext hinterval =>
    rw [hnext, hinterval]
    exact ⟨hmin, hle.trans (Int.add_le_add_right hclock _)⟩
  | ran htype hinterval hdue hlt hle' =>
    rw [ScheduledJob.interval_eq hmin] at hle'
    rw [hinterval]
    exact ⟨hmin, hle'⟩
  | saved htype hevent hmin' hnext hreset => exact ⟨hmin', le_of_eq hnext⟩

namespace TimedWorld
variable [DecidableEq P] {w t : TimedWorld P} {event : TimedEvent P}

/-- All that a step does to the schedules and to the record of their runs. -/
structure Follows (event : TimedEvent P) (w t : TimedWorld P) : Prop where
  clock : w.clock ≤ t.clock
  passes : ∀ p pass, t.world.passes.lookup p = some pass →
    pass.now ≤ t.clock ∨ ∃ pass', w.world.passes.lookup p = some pass' ∧ pass.now = pass'.now
  rows : ∀ i s, w.world.schedules.lookup i = some s →
    ∃ s', t.world.schedules.lookup i = some s' ∧ RowStep event t.clock s s'
  inserted : ∀ i s', t.world.schedules.lookup i = some s' → w.world.schedules.lookup i = none →
    60 ≤ s'.intervalSeconds ∧ s'.nextRunAt = t.clock + s'.intervalSeconds * 1000000
  fired : t.world.fired = w.world.fired ∨ ∃ run s s', t.world.fired = run :: w.world.fired ∧
    w.world.schedules.lookup run.scheduleId = some s ∧ run.dueAt = s.nextRunAt ∧
    run.dueAt ≤ t.clock ∧
    t.world.schedules.lookup run.scheduleId = some s' ∧ t.clock < s'.nextRunAt

omit [DecidableEq P] in
/-- A schedule's row is changed, or none. -/
theorem rows_update {schedules : ScheduleTable} {f : ScheduledJob → ScheduledJob} {i : Nat}
    {clock : Instant}
    (hf : ∀ s, schedules.lookup i = some s → RowStep event clock s (f s)) (k : Nat) (s : ScheduledJob)
    (hs : schedules.lookup k = some s) :
    ∃ s', (schedules.update (fun k _ => k == i) f).lookup k = some s' ∧ RowStep event clock s s' := by
  rw [Table.lookup_update, hs]
  by_cases hk : k = i
  · subst hk
    exact ⟨f s, by rw [Option.map_some, beq_self_eq_true, if_pos rfl], hf s hs⟩
  · exact ⟨s, by rw [Option.map_some, beq_false_of_ne hk, if_neg Bool.false_ne_true], .refl _ _ s⟩

theorem not_updated {schedules : ScheduleTable} {f : ScheduledJob → ScheduledJob} {i k : Nat}
    (hs : schedules.lookup k = none)
    (h : (schedules.update (fun k _ => k == i) f).lookup k = some s) : False := by
  rw [Table.lookup_update, hs, Option.map_none] at h
  cases h

/-- A step that leaves the schedules alone, and fires nothing. -/
theorem follows_of_schedules (hclock : w.clock ≤ t.clock)
    (hschedules : t.world.schedules = w.world.schedules) (hfired : t.world.fired = w.world.fired)
    (hpasses : ∀ p pass, t.world.passes.lookup p = some pass →
      pass.now ≤ t.clock ∨ ∃ pass', w.world.passes.lookup p = some pass' ∧ pass.now = pass'.now) :
    Follows event w t where
  clock := hclock
  passes := hpasses
  rows i s hs := by
    rw [hschedules]
    exact ⟨s, hs, .refl _ _ s⟩
  inserted i s' hs' hnone := by
    rw [hschedules, hnone] at hs'
    cases hs'
  fired := .inl hfired

/-- Passes other than the one at work are as they were. -/
theorem passes_insert {passes : Table P SchedulerPass} {p q : P} {pass pass' : SchedulerPass}
    {found : SchedulerPass} (hold : passes.lookup p = some pass)
    (h : (AList.insert p pass' passes).lookup q = some found) (hnow : pass'.now = pass.now) :
    ∃ old, passes.lookup q = some old ∧ found.now = old.now := by
  by_cases hq : q = p
  · subst hq
    rw [AList.lookup_insert] at h
    obtain rfl := Option.some.inj h
    exact ⟨pass, hold, hnow⟩
  · rw [AList.lookup_insert_ne hq] at h
    exact ⟨found, h, rfl⟩

theorem passes_erase {passes : Table P SchedulerPass} {p q : P} {found : SchedulerPass}
    (h : (AList.erase p passes).lookup q = some found) : passes.lookup q = some found := by
  by_cases hq : q = p
  · subst hq
    rw [AList.lookup_erase] at h
    cases h
  · rwa [AList.lookup_erase_ne hq] at h

/-- The transaction of a turn of a pass. -/
theorem follows_enqueue {p : P} {pass : SchedulerPass} {i : Nat} {ids : List Nat} {clock : Instant}
    {raised : Option String} (hclock : w.clock ≤ clock) (hpass : w.world.passes.lookup p = some pass)
    (hnow : pass.now ≤ w.clock) :
    Follows event w
      ⟨w.world.enqueue p pass i ids clock createdAt updatedAt pairs raised, clock⟩ := by
  have hpasses (pass' : SchedulerPass) (hsame : pass'.now = pass.now) (q : P) (found : SchedulerPass)
      (h : (AList.insert p pass' w.world.passes).lookup q = some found) : found.now ≤ clock ∨
        ∃ old, w.world.passes.lookup q = some old ∧ found.now = old.now :=
    .inr (passes_insert hpass h hsame)
  have habort : Follows event w ⟨w.world.abort p, clock⟩ := by
    refine follows_of_schedules hclock rfl rfl ?_
    intro q found h
    exact .inr ⟨found, passes_erase h, rfl⟩
  unfold ScheduleWorld.enqueue
  split
  · exact habort
  · exact habort
  · next schedules db hturn =>
    have hrows : ∃ f, schedules = w.world.schedules.update (fun k _ => k == i) f ∧
        ∀ s, RowStep event clock s (f s) := by
      rcases enqueueSchedule_spec hturn with ⟨-, rfl⟩ | ⟨-, rfl⟩ | ⟨_, _, _, _, _, hrun, _⟩
      · refine ⟨id, ?_, RowStep.refl _ _⟩
        apply AList.ext
        rw [Table.update]
        simp only [id, ite_self, List.map_id']
      · exact ⟨ScheduledJob.disable pass.now, rfl, fun s => .kept rfl rfl rfl⟩
      · cases hrun
    obtain ⟨f, rfl, hf⟩ := hrows
    constructor
    · exact hclock
    · exact hpasses _ rfl
    · exact rows_update fun s _ => hf s
    · intro k s' hs' hnone
      exact (not_updated hnone hs').elim
    · exact .inl rfl
  · next schedules db run hturn =>
    rcases enqueueSchedule_spec hturn with ⟨hrun, -⟩ | ⟨hrun, -⟩ | ⟨s, jobId, nextRun, hs, hdue, hrun,
      hnext, rfl⟩
    · cases hrun
    · cases hrun
    · obtain rfl := Option.some.inj hrun
      have hdue' : s.nextRunAt ≤ clock := hdue.trans (hnow.trans hclock)
      constructor
      · exact hclock
      · exact hpasses _ rfl
      · apply rows_update
        intro s' hs'
        obtain rfl := Option.some.inj (hs.symm.trans hs')
        exact .ran rfl rfl hdue' (nextRunAfter_lt hnext).1 (nextRunAfter_le hdue' hnext)
      · intro k s' hs' hnone
        exact (not_updated hnone hs').elim
      · refine .inr ⟨_, s, s.advance pass.now nextRun, rfl, hs, rfl, hdue', ?_,
          (nextRunAfter_lt hnext).1⟩
        dsimp only [ScheduleWorld.setPass]
        rw [Table.lookup_update, hs, Option.map_some, beq_self_eq_true, if_pos rfl]

theorem follows_scheduler {e : ScheduleEvent P} {clock : Instant} {world : ScheduleWorld P}
    (hpasses : ∀ p pass, w.world.passes.lookup p = some pass → pass.now ≤ w.clock)
    (hclock : w.clock ≤ clock) (htime : e.time.getD w.clock = clock) (h : w.world.step e = some world) :
    Follows event w ⟨world, clock⟩ := by
  have hsame (q : P) (found : SchedulerPass) (h : w.world.passes.lookup q = some found) :
      found.now ≤ clock ∨ ∃ old, w.world.passes.lookup q = some old ∧ found.now = old.now :=
    .inr ⟨found, h, rfl⟩
  cases e with
  | begin p now limit =>
    obtain ⟨-, h⟩ := Option.ite_none_right_eq_some.1 h
    obtain rfl := Option.some.inj h
    refine follows_of_schedules hclock rfl rfl ?_
    intro q found hfound
    by_cases hq : q = p
    · subst hq
      rw [ScheduleWorld.setPass, AList.lookup_insert] at hfound
      obtain rfl := Option.some.inj hfound
      exact .inl (le_of_eq htime)
    · rw [ScheduleWorld.setPass, AList.lookup_insert_ne hq] at hfound
      exact hsame q found hfound
  | enqueue p clock' createdAt updatedAt pairs raised =>
    obtain ⟨pass, hpass, h⟩ := Option.bind_eq_some_iff.1 h
    obtain rfl : clock' = clock := htime
    split at h
    · obtain rfl := Option.some.inj h
      exact follows_enqueue hclock hpass (hpasses p pass hpass)
    · cases h
  | publish p outcome =>
    obtain ⟨pass, hpass, h⟩ := Option.bind_eq_some_iff.1 h
    obtain ⟨jobId, -, rfl⟩ := Option.map_eq_some_iff.1 h
    cases outcome with
    | returned =>
      refine follows_of_schedules hclock rfl rfl ?_
      exact fun q found hfound => .inr (passes_insert hpass hfound rfl)
    | rolledBack error =>
      refine follows_of_schedules hclock rfl rfl ?_
      exact fun q found hfound => hsame q found (passes_erase hfound)
    | lost error =>
      refine follows_of_schedules hclock rfl rfl ?_
      exact fun q found hfound => hsame q found (passes_erase hfound)
  | work jobId f =>
    obtain ⟨-, h⟩ := Option.ite_none_right_eq_some.1 h
    obtain rfl := Option.some.inj h
    exact follows_of_schedules hclock rfl rfl hsame
  | create job =>
    obtain rfl := Option.some.inj h
    exact follows_of_schedules hclock rfl rfl hsame
  | send jobId =>
    obtain rfl := Option.some.inj h
    exact follows_of_schedules hclock rfl rfl hsame

omit [DecidableEq P] in
theorem lookup_syncUpdate {schedules schedules' : ScheduleTable} {now : Instant}
    (hevent : event.IsSave) (hfresh : schedules.lookup newId = none)
    (h : syncUpdateDownloadsSchedule profileId rawMinutes now newId schedules = .ok schedules') :
    (∀ i s, schedules.lookup i = some s →
      ∃ s', schedules'.lookup i = some s' ∧ RowStep event now s s') ∧
    ∀ i s', schedules'.lookup i = some s' → schedules.lookup i = none →
      60 ≤ s'.intervalSeconds ∧ s'.nextRunAt = now + s'.intervalSeconds * 1000000 := by
  have hsame : (∀ i s, schedules.lookup i = some s →
      ∃ s', schedules.lookup i = some s' ∧ RowStep event now s s') ∧
      ∀ i s', schedules.lookup i = some s' → schedules.lookup i = none →
        60 ≤ s'.intervalSeconds ∧ s'.nextRunAt = now + s'.intervalSeconds * 1000000 := by
    refine ⟨fun i s hs => ⟨s, hs, .refl event now s⟩, fun i s' hs' hnone => ?_⟩
    rw [hnone] at hs'
    cases hs'
  have hupdate (i : Nat) (f : ScheduledJob → ScheduledJob)
      (hf : ∀ s, schedules.lookup i = some s → RowStep event now s (f s)) :
      (∀ k s, schedules.lookup k = some s →
        ∃ s', (schedules.update (fun k _ => k == i) f).lookup k = some s' ∧ RowStep event now s s') ∧
      ∀ k s', (schedules.update (fun k _ => k == i) f).lookup k = some s' → schedules.lookup k = none →
        60 ≤ s'.intervalSeconds ∧ s'.nextRunAt = now + s'.intervalSeconds * 1000000 :=
    ⟨rows_update hf, fun k s' hs' hnone => (not_updated hnone hs').elim⟩
  unfold syncUpdateDownloadsSchedule at h
  split at h
  · cases h
    exact hsame
  · next minutes hminutes =>
    dsimp only at h
    split at h
    · split at h
      · split at h
        · cases h
          exact hupdate _ _ fun s _ => .kept rfl rfl rfl
        · cases h
          exact hsame
      · cases h
        exact hsame
    · split at h
      · cases h
      · split at h
        · cases h
          constructor
          · intro i s hs
            refine ⟨s, ?_, .refl event now s⟩
            rw [AList.lookup_insert_ne, hs]
            rintro rfl
            rw [hfresh] at hs
            cases hs
          · intro i s' hs' hnone
            by_cases hi : i = newId
            · subst hi
              rw [AList.lookup_insert] at hs'
              obtain rfl := Option.some.inj hs'
              exact ⟨le_max_left _ _, rfl⟩
            · rw [AList.lookup_insert_ne hi, hnone] at hs'
              cases hs'
        · cases h
          apply hupdate
          intro s _
          by_cases hreset : s.nextRunAt ≤ now ∨ s.intervalSeconds ≠ max 60 (minutes.toNat * 60)
          · refine .saved rfl hevent (le_max_left _ _) ?_ hreset
            rw [ScheduledJob.sync]
            dsimp only
            rw [if_pos hreset]
          · refine .kept rfl ?_ ?_
            · rw [ScheduledJob.sync]
              dsimp only
              rw [if_neg hreset]
            · rw [not_or, ne_eq, not_not] at hreset
              exact hreset.2.symm

theorem follows_step (hpasses : ∀ p pass, w.world.passes.lookup p = some pass → pass.now ≤ w.clock)
    (h : w.step event = some t) : Follows event w t := by
  cases event with
  | scheduler e =>
    obtain ⟨hclock, h⟩ := Option.ite_none_right_eq_some.1 h
    obtain ⟨world, hworld, rfl⟩ := Option.map_eq_some_iff.1 h
    exact follows_scheduler hpasses hclock rfl hworld
  | save profileId rawMinutes now newId outcome =>
    obtain ⟨⟨hclock, hfresh⟩, h⟩ := Option.ite_none_right_eq_some.1 h
    obtain rfl := Option.some.inj h
    have hsame (q : P) (found : SchedulerPass) (h : w.world.passes.lookup q = some found) :
        found.now ≤ now ∨ ∃ old, w.world.passes.lookup q = some old ∧ found.now = old.now :=
      .inr ⟨found, h, rfl⟩
    by_cases hsaved : saved profileId rawMinutes now newId outcome w.world.schedules =
        w.world.schedules
    · rw [hsaved]
      exact follows_of_schedules hclock rfl rfl hsame
    · have hsync : ∃ schedules, syncUpdateDownloadsSchedule profileId rawMinutes now newId
          w.world.schedules = .ok schedules ∧
          saved profileId rawMinutes now newId outcome w.world.schedules = schedules := by
        unfold saved at hsaved ⊢
        split at hsaved
        · next schedules _ hok => exact ⟨schedules, hok, rfl⟩
        · exact absurd rfl hsaved
      obtain ⟨schedules, hok, hsaved⟩ := hsync
      have hevent : (TimedEvent.save profileId rawMinutes now newId outcome : TimedEvent P).IsSave :=
        trivial
      obtain ⟨hrows, hinserted⟩ := lookup_syncUpdate hevent hfresh hok
      rw [hsaved]
      exact ⟨hclock, hsame, hrows, hinserted, .inl rfl⟩

/-- A run that has been enqueued: the schedule, and the instant at which it was due. -/
def instants (w : TimedWorld P) : List (Nat × Instant) :=
  w.world.fired.map fun run => (run.scheduleId, run.dueAt)

/-- The invariant: passes have begun in the past, the settings page's schedules are at most their
interval ahead, and all runs that have been enqueued lie behind. -/
structure OnTime (w : TimedWorld P) : Prop where
  passes : ∀ p pass, w.world.passes.lookup p = some pass → pass.now ≤ w.clock
  ahead : ∀ i s, w.world.schedules.lookup i = some s → s.jobType = "update_downloads" →
    60 ≤ s.intervalSeconds ∧ s.nextRunAt ≤ w.clock + s.intervalSeconds * 1000000
  behind : ∀ run ∈ w.world.fired, run.dueAt ≤ w.clock ∧
    ∃ s, w.world.schedules.lookup run.scheduleId = some s ∧ run.dueAt < s.nextRunAt
  once : w.instants.Nodup

theorem onTime_initial {schedules : ScheduleTable}
    (hschedules : ∀ i s, schedules.lookup i = some s → s.jobType ≠ "update_downloads")
    (db : Database) (clock : Instant) : (initial schedules db clock : TimedWorld P).OnTime where
  passes _ _ h := nomatch h
  ahead i s hs htype := absurd htype (hschedules i s hs)
  behind _ h := absurd h List.not_mem_nil
  once := List.nodup_nil

theorem OnTime.step (h : w.OnTime) (hstep : w.step event = some t) : t.OnTime := by
  have hfollows := follows_step h.passes hstep
  have hclock := hfollows.clock
  have hold : ∀ run ∈ w.world.fired, run.dueAt ≤ t.clock ∧
      ∃ s, t.world.schedules.lookup run.scheduleId = some s ∧ run.dueAt < s.nextRunAt := by
    intro run hrun
    obtain ⟨hdue, s, hs, hlt⟩ := h.behind run hrun
    obtain ⟨s', hs', hrow⟩ := hfollows.rows _ s hs
    exact ⟨hdue.trans hclock, s', hs', hrow.behind (hdue.trans hclock) hlt⟩
  constructor
  · intro p pass hpass
    rcases hfollows.passes p pass hpass with hnow | ⟨pass', hpass', hnow⟩
    · exact hnow
    · rw [hnow]
      exact (h.passes p pass' hpass').trans hclock
  · intro i s' hs' htype
    cases hs : w.world.schedules.lookup i with
    | none =>
      obtain ⟨hmin, hnext⟩ := hfollows.inserted i s' hs' hs
      exact ⟨hmin, le_of_eq hnext⟩
    | some s =>
      obtain ⟨s'', hs'', hrow⟩ := hfollows.rows i s hs
      obtain rfl := Option.some.inj (hs''.symm.trans hs')
      rw [hrow.jobType] at htype
      obtain ⟨hmin, hle⟩ := h.ahead i s hs htype
      exact hrow.ahead hclock hmin hle
  · rcases hfollows.fired with hfired | ⟨run, s, s', hfired, hs, hdue, hle, hs', hlt⟩
    · rw [hfired]
      exact hold
    · rw [hfired, List.forall_mem_cons]
      exact ⟨⟨hle, s', hs', lt_of_le_of_lt hle hlt⟩, hold⟩
  · rcases hfollows.fired with hfired | ⟨run, s, s', hfired, hs, hdue, hle, hs', hlt⟩
    · rw [instants, hfired]
      exact h.once
    · rw [instants, hfired, List.map_cons, List.nodup_cons]
      refine ⟨?_, h.once⟩
      intro hin
      obtain ⟨old, hold, heq⟩ := List.mem_map.1 hin
      obtain ⟨-, s₀, hs₀, hlt₀⟩ := h.behind old hold
      obtain ⟨hid, hat⟩ := Prod.mk.inj heq
      rw [hid, hs] at hs₀
      obtain rfl := Option.some.inj hs₀
      rw [hat, hdue] at hlt₀
      exact lt_irrefl _ hlt₀

/-- A schedule of the settings page goes back only when a save does it. -/
theorem OnTime.forward (h : w.OnTime) (hstep : w.step event = some t)
    (hs : w.world.schedules.lookup i = some s) (hs' : t.world.schedules.lookup i = some s')
    (htype : s.jobType = "update_downloads") :
    s.nextRunAt ≤ s'.nextRunAt ∨ event.Resets t.clock s s' := by
  have hfollows := follows_step h.passes hstep
  have hclock := hfollows.clock
  obtain ⟨s'', hs'', hrow⟩ := hfollows.rows i s hs
  rw [hs'] at hs''
  obtain rfl := Option.some.inj hs''
  obtain ⟨hmin, hle⟩ := h.ahead i s hs htype
  cases hrow with
  | kept htype hnext hinterval => exact .inl (le_of_eq hnext.symm)
  | ran htype hinterval hdue hlt hle => exact .inl (hdue.trans hlt.le)
  | saved htype hevent hmin' hnext hreset =>
    rcases lt_or_ge s'.intervalSeconds s.intervalSeconds with hshort | hlong
    · exact .inr ⟨hevent, .inl hshort⟩
    · left
      rw [hnext]
      exact hle.trans (Int.add_le_add hclock (by omega))

/-- What the settings page's schedules promise, over whole runs. -/
theorem update_schedules_keep_time {schedules : ScheduleTable}
    (hschedules : ∀ i s, schedules.lookup i = some s → s.jobType ≠ "update_downloads")
    (db : Database) (clock : Instant) (events : List (TimedEvent P)) (w : TimedWorld P)
    (hrun : exec step (initial schedules db clock) events = some w) :
    (∀ i s, w.world.schedules.lookup i = some s → s.jobType = "update_downloads" →
      ∀ now, w.clock ≤ now → s.nextRunAt ≤ now + s.intervalSeconds * 1000000) ∧
    (∀ event t, w.step event = some t → ∀ i s s', w.world.schedules.lookup i = some s →
      t.world.schedules.lookup i = some s' → s.jobType = "update_downloads" →
      s.nextRunAt ≤ s'.nextRunAt ∨ event.Resets t.clock s s') ∧
    w.instants.Nodup := by
  have h : w.OnTime :=
    exec_preserves (fun _ _ _ h hstep => h.step hstep) (onTime_initial hschedules db clock) hrun
  refine ⟨?_, ?_, h.once⟩
  · intro i s hs htype now hnow
    exact (h.ahead i s hs htype).2.trans (Int.add_le_add_right hnow _)
  · intro event t hstep i s s' hs hs' htype
    exact h.forward hstep hs hs' htype

/-- The schedule is made at eight, and two passes find it due at nine. -/
def twoPasses : List (TimedEvent Nat) :=
  [.save "default" "60" 28800000000 1 .returned,
    .scheduler (.begin 0 32400000000 100), .scheduler (.begin 1 32400000000 100),
    .scheduler (.enqueue 0 32400000000 0 0 (.ok []) none),
    .scheduler (.enqueue 1 32400000000 0 0 (.ok []) none)]

theorem update_schedules_keep_time_twoPasses :
    ∃ w, exec step (initial ∅ .empty 0) twoPasses = some w ∧ w.instants = [(1, 32400000000)] ∧
      w.instants.Nodup := by
  have hrun : (exec step (initial ∅ .empty 0) twoPasses).map instants = some [(1, 32400000000)] := by
    decide
  obtain ⟨w, hw, hinstants⟩ := Option.map_eq_some_iff.1 hrun
  refine ⟨w, hw, hinstants, ?_⟩
  apply (update_schedules_keep_time _ .empty 0 twoPasses w hw).2.2
  intro i s hs
  cases hs

end TimedWorld

end GetOffline
