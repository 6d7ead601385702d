import GetOffline.PythonIsoformat
import GetOffline.ScheduleTimes
import GetOffline.SeparatedTexts
import Mathlib.Data.Int.ModEq
import Mathlib.Order.Bounds.Basic

set_option autoImplicit true

namespace GetOffline
open Python Execution

/-- The instants after the clock that lie a whole number of intervals from a start. -/
def ticksAfter (interval : Int) (now start : Instant) : Set Instant :=
  { t | now < t ∧ ∃ k : Nat, t = start + k * interval }

/-- The first of them that the code looks at is one interval on. -/
theorem ticksAfter_next (interval : Int) (now dueAt : Instant) :
    ticksAfter interval now (dueAt + interval) =
      { t | now < t ∧ ∃ k : Nat, 1 ≤ k ∧ t = dueAt + k * interval } := by
  ext t
  constructor
  · rintro ⟨hlt, k, rfl⟩
    refine ⟨hlt, k + 1, Nat.le_add_left 1 k, ?_⟩
    rw [Nat.cast_succ, Int.add_mul, Int.one_mul, Int.add_right_comm, Int.add_assoc]
  · rintro ⟨hlt, k, hk, rfl⟩
    refine ⟨hlt, k - 1, ?_⟩
    obtain ⟨n, rfl⟩ := Nat.exists_eq_add_of_le' hk
    rw [Nat.add_sub_cancel, Nat.cast_succ, Int.add_mul, Int.one_mul, Int.add_right_comm, Int.add_assoc]

theorem ScheduledJob.interval_eq_max (schedule : ScheduledJob) :
    schedule.interval = max 60 (schedule.intervalSeconds : Int) * 1000000 := by
  by_cases h : schedule.intervalSeconds = 0
  · rw [ScheduledJob.interval, if_pos h, h]
    rfl
  · rw [ScheduledJob.interval, if_neg h, Nat.cast_max]
    rfl

theorem isLeast_start (hpos : 0 ≤ interval) (h : now < start) :
    IsLeast (ticksAfter interval now start) start := by
  refine ⟨⟨h, 0, ?_⟩, ?_⟩
  · rw [Nat.cast_zero, Int.zero_mul, Int.add_zero]
  · rintro t ⟨-, k, rfl⟩
    exact Int.le_add_of_nonneg_right (Int.mul_nonneg k.cast_nonneg hpos)

/-- A start that the clock has passed is not one of the instants. -/
theorem ticksAfter_passed (h : start ≤ now) :
    ticksAfter interval now start = ticksAfter interval now (start + interval) := by
  ext t
  constructor
  · rintro ⟨hlt, k, rfl⟩
    cases k with
    | zero =>
      rw [Nat.cast_zero, Int.zero_mul, Int.add_zero] at hlt
      exact absurd h (not_le.2 hlt)
    | succ k =>
      refine ⟨hlt, k, ?_⟩
      rw [Nat.cast_succ, Int.add_mul, Int.one_mul, Int.add_comm _ interval, Int.add_assoc]
  · rintro ⟨hlt, k, rfl⟩
    refine ⟨hlt, k + 1, ?_⟩
    rw [Nat.cast_succ, Int.add_mul, Int.one_mul, Int.add_right_comm, Int.add_assoc]

theorem isLeast_skipPast (hpos : 0 ≤ interval) (turns : Nat) (start : Instant)
    (h : now < start + turns * interval) :
    IsLeast (ticksAfter interval now start) (skipPast interval now turns start) := by
  induction turns generalizing start with
  | zero =>
    rw [Nat.cast_zero, Int.zero_mul, Int.add_zero] at h
    exact isLeast_start hpos h
  | succ turns ih =>
    unfold skipPast
    split
    · next hle =>
      rw [ticksAfter_passed hle]
      apply ih
      rwa [Nat.cast_succ, Int.add_mul, Int.one_mul, Int.add_comm _ interval, ← Int.add_assoc] at h
    · next hlt => exact isLeast_start hpos (not_le.1 hlt)

/-- The turns that the loop is given are enough for it. -/
theorem turns_enough (hpos : 0 < interval) (now start : Int) :
    now < start + ((now - start) / interval + 1).toNat * interval := by
  have hdiv := Int.lt_ediv_add_one_mul_self (now - start) hpos
  have hle := Int.mul_le_mul_of_nonneg_right (Int.self_le_toNat ((now - start) / interval + 1)) hpos.le
  exact Int.lt_add_of_sub_left_lt (lt_of_lt_of_le hdiv hle)

theorem nextRunAfter_spec (schedule : ScheduledJob) (now dueAt : Instant) :
    ∃ nextRun, IsLeast (ticksAfter schedule.interval now (dueAt + schedule.interval)) nextRun ∧
      nextRunAfter schedule now dueAt =
        if maxInstant < nextRun then .error .overflowError else .ok nextRun :=
  ⟨_, isLeast_skipPast schedule.interval_pos.le _ _ (turns_enough schedule.interval_pos _ _), rfl⟩

/-- The next run has the phase of the one that was due. -/
theorem nextRunAfter_modEq {schedule : ScheduledJob}
    (h : nextRunAfter schedule now dueAt = .ok nextRun) :
    nextRun ≡ dueAt [ZMOD schedule.interval] := by
  obtain ⟨found, ⟨⟨-, k, hfound⟩, -⟩, heq⟩ := nextRunAfter_spec schedule now dueAt
  rw [heq] at h
  split at h
  · cases h
  · cases h
    rw [hfound, Int.ModEq, Int.add_mul_emod_self_right, Int.add_emod_right]

/-- No text of an instant is the end of another one. -/
theorem isoformat_suffix {t u : Instant} (ht : minInstant ≤ t ∧ t ≤ maxInstant)
    (hu : minInstant ≤ u ∧ u ≤ maxInstant)
    (h : (isoformat t).toList = cs ++ (isoformat u).toList) : t = u := by
  have hlengths : cs.length = 0 ∨ cs.length = 7 := by
    have hlength := congrArg List.length h
    rw [List.length_append] at hlength
    rcases length_isoformat ht.1 ht.2 with h1 | h1 <;>
      rcases length_isoformat hu.1 hu.2 with h2 | h2 <;> omega
  rcases hlengths with hnil | hseven
  · rw [List.length_eq_zero_iff.1 hnil, List.nil_append, String.toList_inj] at h
    have hread := fromisoformat_isoformat ht.1 ht.2
    rw [h, fromisoformat_isoformat hu.1 hu.2] at hread
    exact (Option.some.inj hread).symm
  · -- the dash after the month would be the first digit of a year
    obtain ⟨hfirst, hlast, -⟩ := dayLength_bounds ht.1 ht.2
    obtain ⟨hyear, hmonth, -⟩ := Date.fields_ofDays hfirst hlast
    have hdash := congrArg (List.drop 7) h
    rw [List.drop_left' hseven, toList_isoformat, Date.toList_isoformat, List.append_assoc,
      List.cons_append, List.append_assoc, List.cons_append, ← List.cons_append, ← List.append_assoc,
      List.drop_left'] at hdash
    · have hyear' := length_pad (by decide : 0 < 4)
        (Date.fields_ofDays (dayLength_bounds hu.1 hu.2).1 (dayLength_bounds hu.1 hu.2).2.1).1
      rw [toList_isoformat, Date.toList_isoformat, List.append_assoc] at hdash
      have hdigit : '-' ∈ (pad 4 (Date.ofInstant u).year).toList := by
        cases hyear : (pad 4 (Date.ofInstant u).year).toList with
        | nil =>
          rw [Date.ofInstant, dayLength] at hyear
          rw [hyear] at hyear'
          cases hyear'
        | cons c year =>
          rw [hyear] at hdash
          rw [(List.cons.inj hdash).1]
          exact List.mem_cons_self
      exact absurd (isDigit_pad hdigit) (by decide)
    · rw [List.length_append, List.length_cons, Date.ofInstant, dayLength,
        length_pad (by decide) hyear, length_pad (by decide) hmonth]

theorem isoformat_end {t u : Instant} (ht : minInstant ≤ t ∧ t ≤ maxInstant)
    (hu : minInstant ≤ u ∧ u ≤ maxInstant)
    (h : xs ++ (isoformat t).toList = ys ++ (isoformat u).toList) : t = u := by
  rcases List.append_eq_append_iff.1 h with ⟨cs, -, hcs⟩ | ⟨cs, -, hcs⟩
  · exact isoformat_suffix ht hu hcs
  · exact (isoformat_suffix hu ht hcs).symm

/-- The default key names its schedule and its due instant, whatever the type of the job. -/
theorem renderIdempotencyKey_inj {s s' : ScheduledJob} {t u : Instant}
    (ht : minInstant ≤ t ∧ t ≤ maxInstant) (hu : minInstant ≤ u ∧ u ≤ maxInstant)
    (hs : s.idempotencyKeyTemplate = "") (hs' : s'.idempotencyKeyTemplate = "")
    (h : renderIdempotencyKey i s t = renderIdempotencyKey j s' u) : i = j ∧ t = u := by
  have hcolon : ":".toList = [':'] := rfl
  have hdigits (k : Nat) := not_mem_toString (by decide : ':'.isDigit = false) k
  rw [renderIdempotencyKey, renderIdempotencyKey, hs, hs', if_neg (not_not.2 rfl),
    if_neg (not_not.2 rfl)] at h
  have hlist := congrArg String.toList h
  simp only [String.toList_append, hcolon, List.append_assoc, List.cons_append, List.nil_append,
    List.append_cancel_left_eq] at hlist
  obtain ⟨hid, hrest⟩ := append_cons_inj (hdigits i) (hdigits j) hlist
  constructor
  · exact toString_nat_inj (String.toList_injective hid)
  · rw [List.append_cons, List.append_cons s'.jobType.toList] at hrest
    exact isoformat_end ht hu hrest

namespace ScheduleWorld
variable {w w' : ScheduleWorld P}

/-- The due instants of a schedule's runs, in the order in which they were enqueued. -/
def enqueuedAt (w : ScheduleWorld P) (scheduleId : Nat) : List Instant :=
  (w.fired.reverse.filter fun run => run.scheduleId == scheduleId).map FiredRun.dueAt

/-- What a step does to the schedules and the record of their runs. -/
inductive Moves (w w' : ScheduleWorld P) : Prop
  | still (hrows : w'.schedules = w.schedules) (hfired : w'.fired = w.fired)
  | disabled (i : Nat) (now : Instant)
      (hrows : w'.schedules = w.schedules.update (fun k _ => k == i) (.disable now))
      (hfired : w'.fired = w.fired)
  | advanced (i jobId : Nat) (schedule : ScheduledJob) (now clock nextRun : Instant)
      (hrow : w.schedules.lookup i = some schedule)
      (hnext : nextRunAfter schedule clock schedule.nextRunAt = .ok nextRun)
      (hrows : w'.schedules = w.schedules.update (fun k _ => k == i) (.advance now nextRun))
      (hfired : w'.fired = ⟨i, schedule.nextRunAt, jobId⟩ :: w.fired)

/-- The invariant: the schedule and all its runs keep the phase at which the schedule once stood, and
the runs lie behind it in their order. -/
structure KeepsPhase (i : Nat) (start : Instant) (interval : Int) (w : ScheduleWorld P) : Prop where
  stands : ∃ s, w.schedules.lookup i = some s ∧ s.interval = interval ∧
    s.nextRunAt ≡ start [ZMOD interval] ∧ ∀ t ∈ w.enqueuedAt i, t < s.nextRunAt
  phase : ∀ t ∈ w.enqueuedAt i, t ≡ start [ZMOD interval]
  increasing : (w.enqueuedAt i).Pairwise (· < ·)

theorem keepsPhase_initial {schedules : ScheduleTable} (h : schedules.lookup i = some s)
    (db : Database) (messages : List Nat) :
    KeepsPhase i s.nextRunAt s.interval (initial schedules db messages : ScheduleWorld P) where
  stands := ⟨s, h, rfl, rfl, fun _ ht => absurd ht List.not_mem_nil⟩
  phase _ ht := absurd ht List.not_mem_nil
  increasing := .nil

theorem enqueuedAt_cons (hfired : w'.fired = run :: w.fired) (i : Nat) :
    w'.enqueuedAt i = w.enqueuedAt i ++ if run.scheduleId = i then [run.dueAt] else [] := by
  rw [enqueuedAt, enqueuedAt, hfired, List.reverse_cons, List.filter_append, List.map_append]
  by_cases hi : run.scheduleId = i
  · rw [List.filter_singleton, if_pos hi, beq_iff_eq.2 hi]
    rfl
  · rw [List.filter_singleton, if_neg hi, beq_false_of_ne hi]
    rfl

/-- A change of other columns leaves the phase alone. -/
theorem KeepsPhase.of_update (h : KeepsPhase i start interval w)
    (hrows : w'.schedules = w.schedules.update (fun k _ => k == j) f)
    (hf : ∀ s, (f s).interval = s.interval ∧ (j = i → (f s).nextRunAt = s.nextRunAt))
    (hruns : w'.enqueuedAt i = w.enqueuedAt i) : KeepsPhase i start interval w' := by
  obtain ⟨s, hs, hinterval, hphase, hbehind⟩ := h.stands
  constructor
  · by_cases hi : i = j
    · subst hi
      refine ⟨f s, ?_, (hf s).1.trans hinterval, ?_, ?_⟩
      · rw [hrows, Table.lookup_update, hs, Option.map_some, beq_self_eq_true, if_pos rfl]
      · rwa [(hf s).2 rfl]
      · rwa [(hf s).2 rfl, hruns]
    · refine ⟨s, ?_, hinterval, hphase, ?_⟩
      · rw [hrows, Table.lookup_update, hs, Option.map_some, beq_false_of_ne hi,
          if_neg Bool.false_ne_true]
      · rwa [hruns]
  · rw [hruns]
    exact h.phase
  · rw [hruns]
    exact h.increasing

theorem KeepsPhase.step (h : KeepsPhase i start interval w) (hmoves : Moves w w') :
    KeepsPhase i start interval w' := by
  cases hmoves with
  | still hrows hfired =>
    have hruns : w'.enqueuedAt i = w.enqueuedAt i := by
      rw [enqueuedAt, enqueuedAt, hfired]
    refine ⟨?_, ?_, ?_⟩
    · rw [hrows, hruns]
      exact h.stands
    · rw [hruns]
      exact h.phase
    · rw [hruns]
      exact h.increasing
  | disabled j now hrows hfired =>
    refine h.of_update hrows (fun s => ⟨rfl, fun _ => rfl⟩) ?_
    rw [enqueuedAt, enqueuedAt, hfired]
  | advanced j jobId s now clock nextRun hrow hnext hrows hfired =>
    have hruns := enqueuedAt_cons hfired i
    by_cases hj : j = i
    · subst hj
      obtain ⟨s', hs', rfl, hphase, hbehind⟩ := h.stands
      obtain rfl := Option.some.inj (hrow.symm.trans hs')
      rw [if_pos rfl] at hruns
      have hlt := (nextRunAfter_lt hnext).2
      constructor
      · refine ⟨s.advance now nextRun, ?_, rfl, (nextRunAfter_modEq hnext).trans hphase, ?_⟩
        · rw [hrows, Table.lookup_update, hrow, Option.map_some, beq_self_eq_true, if_pos rfl]
        · rw [hruns]
          intro t ht
          rcases List.mem_append.1 ht with hold | hnew
          · exact (hbehind t hold).trans hlt
          · rw [List.mem_singleton.1 hnew]
            exact hlt
      · rw [hruns]
        intro t ht
        rcases List.mem_append.1 ht with hold | hnew
        · exact h.phase t hold
        · rw [List.mem_singleton.1 hnew]
          exact hphase
      · rw [hruns, List.pairwise_append]
        refine ⟨h.increasing, List.pairwise_singleton _ _, ?_⟩
        intro t ht u hu
        rw [List.mem_singleton.1 hu]
        exact hbehind t ht
    · refine h.of_update hrows (fun s => ⟨rfl, fun heq => absurd heq hj⟩) ?_
      rw [hruns, if_neg hj, List.append_nil]

variable [DecidableEq P]

theorem enqueue_moves (p : P) (pass : SchedulerPass) (i : Nat) (ids : List Nat)
    (clock createdAt updatedAt : Instant) (pairs : Except Error (List (String × Json)))
    (raised : Option String) (w : ScheduleWorld P) :
    Moves w (w.enqueue p pass i ids clock createdAt updatedAt pairs raised) := by
  unfold enqueue
  split
  · exact .still rfl rfl
  · exact .still rfl rfl
  · next schedules db hturn =>
    rcases enqueueSchedule_spec hturn with ⟨-, rfl⟩ | ⟨-, rfl⟩ | ⟨_, _, _, _, _, hrun, _⟩
    · exact .still rfl rfl
    · exact .disabled i pass.now rfl rfl
    · cases hrun
  · next schedules db run hturn =>
    rcases enqueueSchedule_spec hturn with ⟨hrun, -⟩ | ⟨hrun, -⟩ |
      ⟨schedule, jobId, nextRun, hrow, -, hrun, hnext, rfl⟩
    · cases hrun
    · cases hrun
    · obtain rfl := Option.some.inj hrun
      exact .advanced i jobId schedule pass.now clock nextRun hrow hnext rfl rfl

theorem step_moves (h : step w e = some w') : Moves w w' := by
  cases e with
  | begin p now limit =>
    obtain ⟨-, h⟩ := Option.ite_none_right_eq_some.1 h
    obtain rfl := Option.some.inj h
    exact .still rfl rfl
  | enqueue p clock createdAt updatedAt pairs raised =>
    obtain ⟨pass, -, h⟩ := Option.bind_eq_some_iff.1 h
    split at h
    · obtain rfl := Option.some.inj h
      exact enqueue_moves ..
    · cases h
  | publish p outcome =>
    obtain ⟨pass, -, h⟩ := Option.bind_eq_some_iff.1 h
    obtain ⟨jobId, -, rfl⟩ := Option.map_eq_some_iff.1 h
    cases outcome with
    | returned => exact .still rfl rfl
    | rolledBack error => exact .still rfl rfl
    | lost error => exact .still rfl rfl
  | work jobId f =>
    obtain ⟨-, h⟩ := Option.ite_none_right_eq_some.1 h
    obtain rfl := Option.some.inj h
    exact .still rfl rfl
  | create job =>
    obtain rfl := Option.some.inj h
    exact .still rfl rfl
  | send jobId =>
    obtain rfl := Option.some.inj h
    exact .still rfl rfl

/-- The next run of a schedule is the first after the clock in its phase, where `datetime` reaches so
far, and the call raises where it does not. In every run of passes, whatever else happens, a schedule's
due instants increase and keep its phase, and default keys tell apart schedules and due instants. -/
theorem catch_up :
    (∀ (schedule : ScheduledJob) (now dueAt : Instant),
      ∃ nextRun, IsLeast { t | now < t ∧ ∃ k : Nat, 1 ≤ k ∧
          t = dueAt + k * (max 60 (schedule.intervalSeconds : Int) * 1000000) } nextRun ∧
        nextRunAfter schedule now dueAt =
          if maxInstant < nextRun then .error .overflowError else .ok nextRun) ∧
    (∀ (schedules : ScheduleTable) (db : Database) (messages : List Nat)
      (events : List (ScheduleEvent P)) (w : ScheduleWorld P) (i : Nat) (s : ScheduledJob),
      schedules.lookup i = some s → exec step (initial schedules db messages) events = some w →
      (w.enqueuedAt i).Pairwise (· < ·) ∧
        ∀ t ∈ w.enqueuedAt i, ∀ u ∈ w.enqueuedAt i,
          t ≡ u [ZMOD max 60 (s.intervalSeconds : Int) * 1000000]) ∧
    ∀ (i j : Nat) (s s' : ScheduledJob) (t u : Instant),
      s.idempotencyKeyTemplate = "" → s'.idempotencyKeyTemplate = "" →
      minInstant ≤ t ∧ t ≤ maxInstant → minInstant ≤ u ∧ u ≤ maxInstant → i ≠ j ∨ t ≠ u →
      renderIdempotencyKey i s t ≠ renderIdempotencyKey j s' u := by
  refine ⟨?_, ?_, ?_⟩
  · intro schedule now dueAt
    obtain ⟨nextRun, hleast, heq⟩ := nextRunAfter_spec schedule now dueAt
    refine ⟨nextRun, ?_, heq⟩
    rwa [← ScheduledJob.interval_eq_max, ← ticksAfter_next]
  · intro schedules db messages events w i s hs hrun
    have h : KeepsPhase i s.nextRunAt s.interval w :=
      exec_preserves (fun _ _ _ h hstep => h.step (step_moves hstep))
        (keepsPhase_initial hs db messages) hrun
    rw [← ScheduledJob.interval_eq_max]
    exact ⟨h.increasing, fun t ht u hu => (h.phase t ht).trans (h.phase u hu).symm⟩
  · intro i j s s' t u hs hs' ht hu hne h
    obtain ⟨hi, ht⟩ := renderIdempotencyKey_inj ht hu hs hs' h
    rcases hne with hne | hne
    · exact hne hi
    · exact hne ht

def hourly : ScheduledJob :=
  ⟨"default", "update_downloads", true, 3600, .object [], "", 0, none, 0⟩

/-- The hourly schedule on time, and then after an outage. -/
def afterOutage : List (ScheduleEvent Nat) :=
  [.begin 0 0 100, .enqueue 0 0 0 0 (.ok []) none, .publish 0 .returned,
    .begin 1 9000000000 100, .enqueue 1 9000000000 0 0 (.ok []) none]

theorem catch_up_afterOutage :
    (∃ w, exec step (initial (AList.insert 1 hourly ∅) .empty []) afterOutage = some w ∧
      w.enqueuedAt 1 = [0, 3600000000] ∧ (w.enqueuedAt 1).Pairwise (· < ·)) ∧
    renderIdempotencyKey 1 hourly 0 ≠ renderIdempotencyKey 1 hourly 3600000000 := by
  obtain ⟨-, hruns, hkeys⟩ := catch_up (P := Nat)
  constructor
  · have hrun : (exec step (initial (AList.insert 1 hourly ∅) .empty []) afterOutage).map
        (fun w => w.enqueuedAt 1) = some [0, 3600000000] := by decide +kernel
    obtain ⟨w, hw, hat⟩ := Option.map_eq_some_iff.1 hrun
    exact ⟨w, hw, hat, (hruns _ _ _ _ w 1 hourly (AList.lookup_insert _) hw).1⟩
  · exact hkeys 1 1 hourly hourly 0 3600000000 rfl rfl (by decide) (by decide) (.inr (by decide))

/-- A run at the end of the last year has no next one. -/
theorem last_instant_has_no_next_run : ¬ ∀ (schedule : ScheduledJob) (now dueAt : Instant),
    minInstant ≤ dueAt ∧ dueAt ≤ maxInstant → minInstant ≤ now ∧ now ≤ maxInstant →
    ∃ nextRun, nextRunAfter schedule now dueAt = .ok nextRun ∧
      IsLeast { t | now < t ∧ ∃ k : Nat, 1 ≤ k ∧
        t = dueAt + k * (max 60 (schedule.intervalSeconds : Int) * 1000000) } nextRun := by
  intro h
  have hrange : minInstant ≤ maxInstant ∧ maxInstant ≤ maxInstant := by decide
  obtain ⟨nextRun, hok, -⟩ := h hourly maxInstant maxInstant hrange hrange
  have hraises : nextRunAfter hourly maxInstant maxInstant = .error .overflowError := by
    rw [nextRunAfter]
    exact if_pos (by decide)
  rw [hraises] at hok
  cases hok

end ScheduleWorld

end GetOffline
