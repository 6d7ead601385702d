import GetOffline.Schedule

set_option autoImplicit true

namespace GetOffline
open Python Execution

theorem le_skipPast (h : 0 ≤ interval) (turns : Nat) (nextRun : Instant) :
    nextRun ≤ skipPast interval now turns nextRun := by
  induction turns generalizing nextRun with
  | zero => exact le_refl nextRun
  | succ turns ih =>
    unfold skipPast
    split
    · exact le_trans (Int.le_add_of_nonneg_right h) (ih _)
    · exact le_refl nextRun

theorem lt_skipPast (turns : Nat) (nextRun : Instant) (h : now < nextRun + turns * interval) :
    now < skipPast interval now turns nextRun := by
  induction turns generalizing nextRun with
  | zero =>
    rw [Nat.cast_zero, Int.zero_mul, Int.add_zero] at h
    exact h
  | succ turns ih =>
    unfold skipPast
    split
    · apply ih
      rwa [Nat.cast_succ, Int.add_mul, Int.one_mul, Int.add_comm _ interval, ← Int.add_assoc] at h
    · next hlt => exact not_le.1 hlt

theorem ScheduledJob.interval_pos (schedule : ScheduledJob) : 0 < schedule.interval := by
  unfold ScheduledJob.interval
  omega

/-- The loop ends, past the clock and past the due instant. -/
theorem nextRunAfter_lt {schedule : ScheduledJob}
    (h : nextRunAfter schedule now dueAt = .ok nextRun) : now < nextRun ∧ dueAt < nextRun := by
  have hpos := schedule.interval_pos
  unfold nextRunAfter at h
  dsimp only at h
  split at h
  · cases h
  · cases h
    constructor
    · apply lt_skipPast
      have hdiv := Int.lt_ediv_add_one_mul_self (now - (dueAt + schedule.interval)) hpos
      have hle := Int.mul_le_mul_of_nonneg_right
        (Int.self_le_toNat ((now - (dueAt + schedule.interval)) / schedule.interval + 1)) hpos.le
      exact Int.lt_add_of_sub_left_lt (lt_of_lt_of_le hdiv hle)
    · exact lt_of_lt_of_le (Int.lt_add_of_pos_right dueAt hpos) (le_skipPast hpos.le _ _)

/-- The job is under an id that has been given out, or the table has a new row. -/
theorem createJob_cases (args : JobArgs) (createdAt updatedAt : Instant) (db : Database) :
    ((createJob args createdAt updatedAt db).1 < db.nextId ∧
      (createJob args createdAt updatedAt db).2 = db) ∨
    createJob args createdAt updatedAt db =
      (db.nextId, db.create (newJob args createdAt updatedAt)) := by
  unfold createJob
  cases he : existingJob args db.jobs with
  | none => exact .inr rfl
  | some found =>
    left
    refine ⟨?_, rfl⟩
    obtain ⟨key, -, hfirst⟩ := Option.bind_eq_some_iff.1 he
    have hrow := (Table.lookup_of_first hfirst).1
    by_contra hlt
    rw [db.fresh found.1 (not_lt.1 hlt)] at hrow
    cases hrow

/-- The instants at which the schedules stand. -/
def nextRuns (schedules : ScheduleTable) (scheduleId : Nat) : Option Instant :=
  (schedules.lookup scheduleId).map ScheduledJob.nextRunAt

theorem nextRuns_update (f : ScheduledJob → ScheduledJob) (i : Nat) (schedules : ScheduleTable) :
    nextRuns (schedules.update (fun k _ => k == i) f) =
      Function.update (nextRuns schedules) i
        ((schedules.lookup i).map fun schedule => (f schedule).nextRunAt) := by
  funext k
  rw [nextRuns, congrFun (Table.lookup_update_at f schedules i) k, Function.update_apply,
    Function.update_apply]
  split
  · rw [Option.map_map]
    rfl
  · rfl

/-- A turn either moves no schedule, or moves its own past the due instant at which it stood and
has a job for that run. -/
theorem enqueueSchedule_cases
    (h : enqueueSchedule i now clock createdAt updatedAt pairs schedules db =
      .ok (schedules', db', run)) :
    (run = none ∧ db' = db ∧ nextRuns schedules' = nextRuns schedules) ∨
    ∃ dueAt jobId nextRun, run = some ⟨i, dueAt, jobId⟩ ∧ nextRuns schedules i = some dueAt ∧
      dueAt < nextRun ∧ nextRuns schedules' = Function.update (nextRuns schedules) i (some nextRun) ∧
      (jobId < db.nextId ∧ db' = db ∨ ∃ job, jobId = db.nextId ∧ db' = db.create job) := by
  unfold enqueueSchedule at h
  cases hrow : schedules.lookup i with
  | none =>
    rw [hrow] at h
    cases h
  | some schedule =>
    rw [hrow] at h
    dsimp only at h
    split at h
    · cases h
      exact .inl ⟨rfl, rfl, rfl⟩
    · split at h
      · cases h
        refine .inl ⟨rfl, rfl, ?_⟩
        rw [nextRuns_update, hrow]
        apply Function.update_eq_self_iff.2
        rw [nextRuns, hrow]
      · obtain ⟨payload, -, h⟩ := bind_eq_ok.1 h
        obtain ⟨nextRun, hnext, h⟩ := bind_eq_ok.1 h
        cases h
        refine .inr ⟨_, _, nextRun, rfl, ?_, (nextRunAfter_lt hnext).2, ?_, ?_⟩
        · rw [nextRuns, hrow]
          rfl
        · rw [nextRuns_update, hrow]
          rfl
        · rcases createJob_cases _ createdAt updatedAt db with hold | hnew
          · exact .inl hold
          · rw [hnew]
            exact .inr ⟨_, rfl, rfl⟩

/-- The job that a pass is about to publish. -/
def inFlight [DecidableEq P] (passes : Table P SchedulerPass) (p : P) : Option Nat :=
  (passes.lookup p).bind SchedulerPass.publishing

namespace ScheduleWorld

variable [DecidableEq P] {w w' : ScheduleWorld P}

/-- The job has a message, is not `QUEUED`, or is about to be published by a pass that counts. -/
def Covered (counts : P → Prop) (w : ScheduleWorld P) (jobId : Nat) : Prop :=
  jobId ∈ w.messages ∨ w.db.isQueued jobId = false ∨
    ∃ p, counts p ∧ inFlight w.passes p = some jobId

/-- A run that became due is due still, or its job is covered. -/
def NoRunLost (w : ScheduleWorld P) : Prop :=
  ∀ i dueAt, (i, dueAt) ∈ w.due → nextRuns w.schedules i = some dueAt ∨
    ∃ jobId, ⟨i, dueAt, jobId⟩ ∈ w.fired ∧ w.Covered (fun _ => True) jobId

/-- A `publish_job` call raises before the broker has the message only for a job that is covered
without the pass that calls it. -/
def Announced (w : ScheduleWorld P) : ScheduleEvent P → Prop
  | .publish p outcome =>
    outcome.applied = true ∨ ∀ jobId, inFlight w.passes p = some jobId → w.Covered (· ≠ p) jobId
  | _ => True

/-- All that a step can do. -/
inductive Effect (w : ScheduleWorld P) : ScheduleEvent P → ScheduleWorld P → Prop
  | quiet (hok : w.Announced e) (hruns : nextRuns schedules' = nextRuns w.schedules)
      (hpasses : inFlight passes' = inFlight w.passes) (hdue : ∀ run ∈ due', run ∈ w.due ∨
        nextRuns w.schedules run.1 = some run.2) (hkept : w.due ⊆ due') :
      Effect w e { w with schedules := schedules', passes := passes', due := due' }
  | enqueued (hstood : nextRuns w.schedules run.scheduleId = some run.dueAt)
      (hlt : run.dueAt < nextRun)
      (hruns : nextRuns schedules' =
        Function.update (nextRuns w.schedules) run.scheduleId (some nextRun))
      (hdb : run.jobId < w.db.nextId ∧ db' = w.db ∨
        ∃ job, run.jobId = w.db.nextId ∧ db' = w.db.create job)
      (hp : inFlight w.passes p = none)
      (hpasses : inFlight passes' = Function.update (inFlight w.passes) p (some run.jobId)) :
      Effect w (.enqueue p clock createdAt updatedAt pairs raised)
        { schedules := schedules', db := db', passes := passes', messages := w.messages,
          due := (run.scheduleId, run.dueAt) :: w.due, fired := run :: w.fired }
  | handed (hp : inFlight w.passes p = some jobId) (happlied : outcome.applied = true)
      (hpasses : inFlight passes' = Function.update (inFlight w.passes) p none) :
      Effect w (.publish p outcome) { w with passes := passes', messages := jobId :: w.messages }
  | dropped (hp : inFlight w.passes p = some jobId) (happlied : outcome.applied = false)
      (hpasses : inFlight passes' = Function.update (inFlight w.passes) p none) :
      Effect w (.publish p outcome) { w with passes := passes' }
  | worked (h : ∀ job, w.db.jobs.lookup jobId = some job → (f job).status ≠ .queued) :
      Effect w (.work jobId f) { w with db := w.db.save jobId f }
  | created : Effect w (.create job) { w with db := w.db.create job }
  | sent : Effect w (.send jobId) { w with messages := jobId :: w.messages }

theorem inFlight_insert (p : P) (pass : SchedulerPass) (passes : Table P SchedulerPass) :
    inFlight (AList.insert p pass passes) = Function.update (inFlight passes) p pass.publishing := by
  funext q
  rw [inFlight, congrFun (Table.lookup_insert_eq p pass passes) q, Function.update_apply,
    Function.update_apply]
  split <;> rfl

theorem inFlight_erase (p : P) (passes : Table P SchedulerPass) :
    inFlight (AList.erase p passes) = Function.update (inFlight passes) p none := by
  funext q
  rw [inFlight, congrFun (Table.lookup_erase_eq p passes) q, Function.update_apply,
    Function.update_apply]
  split <;> rfl

theorem mem_dueRuns (h : run ∈ dueRuns now table) : nextRuns table run.1 = some run.2 := by
  obtain ⟨e, he, rfl⟩ := List.mem_map.1 h
  have hrow := Table.mem_entries_iff.1 (List.mem_filter.1 he).1
  rw [nextRuns, hrow]
  rfl

theorem enqueue_effect {pass : SchedulerPass} (hpass : w.passes.lookup p = some pass) (hp : pass.publishing = none) :
    Effect w (.enqueue p clock createdAt updatedAt pairs raised)
      (w.enqueue p pass i ids clock createdAt updatedAt pairs raised) := by
  have hnone : inFlight w.passes p = none := by
    rw [inFlight, hpass, Option.bind_some, hp]
  have haborted : Effect w (.enqueue p clock createdAt updatedAt pairs raised) (w.abort p) := by
    refine .quiet trivial rfl ?_ (fun _ => .inl) (List.Subset.refl _)
    rw [inFlight_erase]
    exact Function.update_eq_self_iff.2 hnone.symm
  unfold enqueue
  cases raised with
  | some error => exact haborted
  | none =>
    cases he : enqueueSchedule i pass.now clock createdAt updatedAt pairs w.schedules w.db with
    | error error => exact haborted
    | ok result =>
      obtain ⟨schedules, db, run⟩ := result
      obtain ⟨rfl, rfl, hruns⟩ | ⟨dueAt, jobId, nextRun, rfl, hstood, hlt, hruns, hdb⟩ :=
        enqueueSchedule_cases he
      · refine .quiet trivial hruns ?_ (fun _ => .inl) (List.Subset.refl _)
        rw [inFlight_insert]
        exact Function.update_eq_self_iff.2 (hnone.trans hp.symm).symm
      · exact .enqueued hstood hlt hruns hdb hnone (inFlight_insert _ _ _)

theorem step_effect (h : step w e = some w') : Effect w e w' := by
  cases e with
  | begin p now limit =>
    unfold step at h
    dsimp only at h
    split at h
    · next hp =>
      obtain rfl := Option.some.inj h
      refine .quiet trivial rfl ?_ ?_ (List.subset_append_right _ _)
      · rw [inFlight_insert]
        apply Function.update_eq_self_iff.2
        rw [inFlight, hp]
        rfl
      · intro run hrun
        exact (List.mem_append.1 hrun).elim (fun hd => .inr (mem_dueRuns hd)) .inl
    · cases h
  | enqueue p clock createdAt updatedAt pairs raised =>
    obtain ⟨pass, hpass, h⟩ := Option.bind_eq_some_iff.1 h
    split at h
    · next hp hids =>
      obtain rfl := Option.some.inj h
      exact enqueue_effect hpass hp
    · cases h
  | publish p outcome =>
    obtain ⟨pass, hpass, h⟩ := Option.bind_eq_some_iff.1 h
    obtain ⟨jobId, hj, rfl⟩ := Option.map_eq_some_iff.1 h
    have hp : inFlight w.passes p = some jobId := by
      rw [inFlight, hpass, Option.bind_some, hj]
    unfold publish
    cases outcome with
    | returned => exact .handed hp rfl (inFlight_insert _ _ _)
    | rolledBack error => exact .dropped hp rfl (inFlight_erase _ _)
    | lost error => exact .handed hp rfl (inFlight_erase _ _)
  | work jobId f =>
    unfold step at h
    dsimp only at h
    split at h
    · next hf =>
      obtain rfl := Option.some.inj h
      refine .worked fun job hjob => ?_
      rw [hjob, Option.all_some, decide_eq_true_eq] at hf
      exact hf
    · cases h
  | create job =>
    obtain rfl := Option.some.inj h
    exact .created
  | send jobId =>
    obtain rfl := Option.some.inj h
    exact .sent

/-- What the records say of the schedules, the jobs and the passes. -/
structure Recorded (w : ScheduleWorld P) : Prop where
  standing : ∀ i dueAt, (i, dueAt) ∈ w.due → nextRuns w.schedules i = some dueAt ∨
    ∃ jobId, ⟨i, dueAt, jobId⟩ ∈ w.fired
  passed : ∀ run ∈ w.fired, (run.scheduleId, run.dueAt) ∈ w.due ∧
    ∃ nextRun, nextRuns w.schedules run.scheduleId = some nextRun ∧ run.dueAt < nextRun
  once : ∀ run ∈ w.fired, ∀ run' ∈ w.fired, run.scheduleId = run'.scheduleId →
    run.dueAt = run'.dueAt → run = run'
  known : ∀ run ∈ w.fired, run.jobId < w.db.nextId
  fromRun : ∀ p jobId, inFlight w.passes p = some jobId → ∃ run ∈ w.fired, run.jobId = jobId

/-- A schedule that moves on goes past the due instants that it stood at before. -/
theorem Recorded.enqueued (h : w.Recorded)
    (hstood : nextRuns w.schedules run.scheduleId = some run.dueAt) (hlt : run.dueAt < nextRun)
    (hruns : nextRuns schedules' =
      Function.update (nextRuns w.schedules) run.scheduleId (some nextRun))
    (hdb : run.jobId < w.db.nextId ∧ db' = w.db ∨
      ∃ job, run.jobId = w.db.nextId ∧ db' = w.db.create job)
    (hpasses : inFlight passes' = Function.update (inFlight w.passes) p (some run.jobId)) :
    Recorded { schedules := schedules', db := db', passes := passes', messages := w.messages,
               due := (run.scheduleId, run.dueAt) :: w.due, fired := run :: w.fired } := by
  have hnew : ∀ old ∈ w.fired, old.scheduleId = run.scheduleId → old.dueAt < run.dueAt := by
    intro old hold hi
    obtain ⟨-, nextRun', hnext, hlt'⟩ := h.passed old hold
    rw [hi, hstood] at hnext
    cases hnext
    exact hlt'
  constructor
  · intro i dueAt hdue
    rcases List.mem_cons.1 hdue with heq | hdue
    · cases heq
      exact .inr ⟨run.jobId, List.mem_cons_self⟩
    · rcases h.standing i dueAt hdue with hs | ⟨jobId, hf⟩
      · by_cases hi : i = run.scheduleId
        · subst hi
          rw [hstood] at hs
          cases hs
          exact .inr ⟨run.jobId, List.mem_cons_self⟩
        · left
          rw [hruns, Function.update_of_ne hi]
          exact hs
      · exact .inr ⟨jobId, List.mem_cons_of_mem _ hf⟩
  · intro old hold
    rcases List.mem_cons.1 hold with rfl | hold
    · exact ⟨List.mem_cons_self, nextRun, by rw [hruns, Function.update_self], hlt⟩
    · obtain ⟨hdue, nextRun', hnext, hlt'⟩ := h.passed old hold
      refine ⟨List.mem_cons_of_mem _ hdue, ?_⟩
      by_cases hi : old.scheduleId = run.scheduleId
      · refine ⟨nextRun, ?_, (hnew old hold hi).trans hlt⟩
        rw [hruns, hi, Function.update_self]
      · refine ⟨nextRun', ?_, hlt'⟩
        rw [hruns, Function.update_of_ne hi]
        exact hnext
  · intro a ha b hb hi hd
    rcases List.mem_cons.1 ha with rfl | ha' <;> rcases List.mem_cons.1 hb with rfl | hb'
    · rfl
    · exact absurd hd (ne_of_gt (hnew b hb' hi.symm))
    · exact absurd hd (ne_of_lt (hnew a ha' hi))
    · exact h.once a ha' b hb' hi hd
  · intro old hold
    rcases hdb with ⟨hknown, rfl⟩ | ⟨job, hid, rfl⟩
    · rcases List.mem_cons.1 hold with rfl | hold
      · exact hknown
      · exact h.known old hold
    · rcases List.mem_cons.1 hold with rfl | hold
      · exact Nat.lt_succ_of_le (Nat.le_of_eq hid)
      · exact Nat.lt_succ_of_lt (h.known old hold)
  · intro q jobId hq
    rw [hpasses, Function.update_apply] at hq
    split at hq
    · cases hq
      exact ⟨run, List.mem_cons_self, rfl⟩
    · obtain ⟨old, hold, hid⟩ := h.fromRun q jobId hq
      exact ⟨old, List.mem_cons_of_mem _ hold, hid⟩

/-- A pass that is about to publish nothing any more. -/
theorem Recorded.unpublished (h : w.Recorded)
    (hpasses : inFlight passes' = Function.update (inFlight w.passes) p none)
    (messages' : List Nat) : Recorded { w with passes := passes', messages := messages' } := by
  refine { h with fromRun := fun q jobId hq => ?_ }
  dsimp only at hq
  rw [hpasses, Function.update_apply] at hq
  split at hq
  · cases hq
  · exact h.fromRun q jobId hq

theorem Recorded.step (heff : w.Effect e w') (h : w.Recorded) : w'.Recorded := by
  cases heff with
  | quiet hok hruns hpasses hdue hkept =>
    constructor
    · intro i dueAt hd
      rw [hruns]
      exact (hdue _ hd).elim (h.standing i dueAt) .inl
    · intro run hrun
      rw [hruns]
      exact ⟨hkept (h.passed run hrun).1, (h.passed run hrun).2⟩
    · exact h.once
    · exact h.known
    · intro p jobId hp
      dsimp only at hp
      rw [hpasses] at hp
      exact h.fromRun p jobId hp
  | enqueued hstood hlt hruns hdb hp hpasses => exact h.enqueued hstood hlt hruns hdb hpasses
  | handed hp happlied hpasses => exact h.unpublished hpasses _
  | dropped hp happlied hpasses => exact h.unpublished hpasses _
  | worked hf => exact { h with }
  | created => exact { h with known := fun run hrun => Nat.lt_succ_of_lt (h.known run hrun) }
  | sent => exact { h with }

theorem recorded_initial (schedules : ScheduleTable) (db : Database) (messages : List Nat) :
    (initial schedules db messages : ScheduleWorld P).Recorded where
  standing := fun _ _ h => absurd h List.not_mem_nil
  passed := fun _ h => absurd h List.not_mem_nil
  once := fun _ h => absurd h List.not_mem_nil
  known := fun _ h => absurd h List.not_mem_nil
  fromRun := fun _ _ h => nomatch h

theorem Recorded.noRunLost_iff (h : w.Recorded) :
    w.NoRunLost ↔ ∀ run ∈ w.fired, w.Covered (fun _ => True) run.jobId := by
  constructor
  · intro hlost run hrun
    obtain ⟨hdue, nextRun, hnext, hlt⟩ := h.passed run hrun
    rcases hlost _ _ hdue with hs | ⟨jobId, hf, hcov⟩
    · rw [hnext] at hs
      cases hs
      exact absurd hlt (lt_irrefl _)
    · have heq := h.once run hrun _ hf rfl rfl
      rwa [heq]
  · intro hcov i dueAt hdue
    refine (h.standing i dueAt hdue).imp_right ?_
    rintro ⟨jobId, hf⟩
    exact ⟨jobId, hf, hcov _ hf⟩

theorem Covered.mono {counts counts' : P → Prop} (h : w.Covered counts jobId)
    (hmessages : jobId ∈ w.messages → jobId ∈ w'.messages)
    (hqueued : w'.db.isQueued jobId = true → w.db.isQueued jobId = true)
    (hpasses : ∀ p, counts p → inFlight w.passes p = some jobId →
      jobId ∈ w'.messages ∨ counts' p ∧ inFlight w'.passes p = some jobId) :
    w'.Covered counts' jobId := by
  rcases h with h | h | ⟨p, hc, hp⟩
  · exact .inl (hmessages h)
  · refine .inr (.inl (Bool.eq_false_iff.2 fun hq => ?_))
    rw [hqueued hq] at h
    cases h
  · exact (hpasses p hc hp).imp_right fun hp => .inr ⟨p, hp⟩

/-- A pass that gives up its job leaves the jobs covered that are so without it. -/
theorem covered_dropped (h : w.Recorded)
    (hcov : ∀ run ∈ w.fired, w.Covered (fun _ => True) run.jobId)
    (hpasses : inFlight passes' = Function.update (inFlight w.passes) p none) :
    (∀ run ∈ w.fired, Covered (fun _ => True) { w with passes := passes' } run.jobId) ↔
      ∀ jobId, inFlight w.passes p = some jobId → w.Covered (· ≠ p) jobId := by
  constructor
  · intro hcov' jobId hj
    obtain ⟨run, hrun, rfl⟩ := h.fromRun p jobId hj
    refine (hcov' run hrun).mono id id fun q _ hq => .inr ?_
    dsimp only at hq
    rw [hpasses, Function.update_apply] at hq
    split at hq
    · cases hq
    · next hne => exact ⟨hne, hq⟩
  · intro hother run hrun
    have hwithout : w.Covered (· ≠ p) run.jobId := by
      by_cases hj : inFlight w.passes p = some run.jobId
      · exact hother run.jobId hj
      · refine (hcov run hrun).mono id id fun q _ hq => .inr ⟨?_, hq⟩
        rintro rfl
        exact hj hq
    refine hwithout.mono id id fun q hne hq => .inr ⟨trivial, ?_⟩
    dsimp only
    rwa [hpasses, Function.update_of_ne hne]

/-- While every job is covered, only a call that raises without its message can uncover one. -/
theorem covered_step (heff : w.Effect e w') (h : w.Recorded)
    (hcov : ∀ run ∈ w.fired, w.Covered (fun _ => True) run.jobId) :
    (∀ run ∈ w'.fired, w'.Covered (fun _ => True) run.jobId) ↔ w.Announced e := by
  cases heff with
  | quiet hok hruns hpasses hdue hkept =>
    refine iff_of_true (fun run hrun => (hcov run hrun).mono id id fun p hc hp => .inr ⟨hc, ?_⟩) hok
    dsimp only
    rwa [hpasses]
  | enqueued hstood hlt hruns hdb hp hpasses =>
    refine iff_of_true (fun run hrun => ?_) trivial
    rcases List.mem_cons.1 hrun with rfl | hold
    · exact .inr (.inr ⟨_, trivial, (congrFun hpasses _).trans (Function.update_self ..)⟩)
    · refine (hcov run hold).mono id (fun hq => ?_) fun q hc hq => .inr ⟨hc, ?_⟩
      · rcases hdb with ⟨-, rfl⟩ | ⟨job, -, rfl⟩
        · exact hq
        · rwa [← Database.isQueued_create_of_lt (h.known run hold) job]
      · dsimp only
        rw [hpasses, Function.update_of_ne]
        · exact hq
        · rintro rfl
          rw [hp] at hq
          cases hq
  | handed hp happlied hpasses =>
    refine iff_of_true (fun run hrun => ?_) (.inl happlied)
    refine (hcov run hrun).mono (List.mem_cons_of_mem _) id fun q hc hq => ?_
    dsimp only
    rw [hpasses, Function.update_apply]
    split
    · next hqp =>
      rw [hqp, hp] at hq
      cases hq
      exact .inl List.mem_cons_self
    · exact .inr ⟨hc, hq⟩
  | dropped hp happlied hpasses =>
    rw [Announced, happlied, ← covered_dropped h hcov hpasses]
    exact (or_iff_right Bool.false_ne_true).symm
  | worked hf =>
    refine iff_of_true (fun run hrun => ?_) trivial
    exact (hcov run hrun).mono id (Database.isQueued_save_le hf) fun q hc hq => .inr ⟨hc, hq⟩
  | created =>
    refine iff_of_true (fun run hrun => ?_) trivial
    refine (hcov run hrun).mono id (fun hq => ?_) fun q hc hq => .inr ⟨hc, hq⟩
    rwa [← Database.isQueued_create_of_lt (h.known run hrun) _]
  | sent =>
    refine iff_of_true (fun run hrun => ?_) trivial
    exact (hcov run hrun).mono (List.mem_cons_of_mem _) id fun q hc hq => .inr ⟨hc, hq⟩

theorem noRunLost_initial (schedules : ScheduleTable) (db : Database) (messages : List Nat) :
    (initial schedules db messages : ScheduleWorld P).NoRunLost :=
  fun _ _ h => absurd h List.not_mem_nil

/-- No run is lost in any state of a run of the system exactly when no call of `publish_job` raises
before the broker has the message for a job that is not covered without it. -/
theorem no_run_lost_iff (schedules : ScheduleTable) (db : Database) (messages : List Nat)
    (es : List (ScheduleEvent P)) :
    Along step Announced (initial schedules db messages) es ↔
      ∀ es₁ es₂ w, es = es₁ ++ es₂ → exec step (initial schedules db messages) es₁ = some w →
        w.NoRunLost := by
  refine along_iff_always (fun _ _ _ h ht => h.step (step_effect ht)) ?_ ?_
    (recorded_initial schedules db messages) (noRunLost_initial schedules db messages)
  · intro w e w' h hlost ht
    have heff := step_effect ht
    rw [(h.step heff).noRunLost_iff]
    exact covered_step heff h (h.noRunLost_iff.1 hlost)
  · intro w e he
    cases e with
    | publish p outcome =>
      refine .inr fun jobId hj => ?_
      obtain ⟨pass, hpass, hj⟩ := Option.bind_eq_some_iff.1 hj
      have hstep : w.step (.publish p outcome) = some (w.publish p pass jobId outcome) := by
        rw [step, hpass, Option.bind_some, hj, Option.map_some]
      rw [hstep] at he
      cases he
    | _ => trivial

/-- One schedule that is due at the start. -/
def hourlySchedule : ScheduleTable :=
  AList.insert 1 ⟨"default", "update_downloads", true, 3600, .object [], "", 0, none, 0⟩ ∅

/-- The broker is down when the pass comes to publish. -/
def brokerDown : List (ScheduleEvent Nat) :=
  [.begin 0 0 100, .enqueue 0 0 0 0 (.ok []) none, .publish 0 (.rolledBack "connection refused")]

/-- A pass that raises leaves the schedule moved on and its `QUEUED` job without a message. -/
theorem failed_publish_loses_run : ¬ ∀ (schedules : ScheduleTable) (db : Database)
    (es : List (ScheduleEvent Nat)) w,
    exec step (initial schedules db []) es = some w → w.NoRunLost := by
  intro h
  have hrun : (exec step (initial hourlySchedule .empty []) brokerDown).map (fun w =>
      ((w.fired, w.messages, w.passes.keys), w.due, w.db.isQueued 1, nextRuns w.schedules 1)) =
        some (([⟨1, 0, 1⟩], [], []), [(1, 0), (1, 0)], true, some 3600000000) := by decide
  obtain ⟨w, hw, hview⟩ := Option.map_eq_some_iff.1 hrun
  simp only [Prod.mk.injEq] at hview
  obtain ⟨⟨hfired, hmessages, hpasses⟩, hdue, hqueued, hnext⟩ := hview
  have hin : (1, 0) ∈ w.due := by
    rw [hdue]
    exact List.mem_cons_self
  rcases h _ _ _ w hw 1 0 hin with hs | ⟨jobId, hf, hm | hq | ⟨p, -, hp⟩⟩
  · rw [hnext] at hs
    cases hs
  · rw [hmessages] at hm
    cases hm
  · rw [hfired] at hf
    cases List.mem_singleton.1 hf
    rw [hqueued] at hq
    cases hq
  · obtain ⟨pass, hpass, -⟩ := Option.bind_eq_some_iff.1 hp
    have hkey : p ∈ w.passes.keys := AList.mem_keys.2 (AList.lookup_isSome.1 (by rw [hpass]; rfl))
    rw [hpasses] at hkey
    cases hkey

end ScheduleWorld

end GetOffline
