import GetOffline.JobExclusion

set_option autoImplicit true

namespace GetOffline
open Python Execution

namespace JobWorld

variable [DecidableEq W] [DecidableEq P] [DecidableEq C]

/-- The row is `QUEUED` or `RUNNING` under the key. -/
def ActiveUnder (w : JobWorld W P C) (key : String) (id : Nat) : Prop :=
  ∃ row, w.jobs.lookup id = some row ∧ row.idempotencyKey = some key ∧ row.active = true

/-- At most one row is active under each key that is not empty. -/
def UniqueActive (w : JobWorld W P C) : Prop :=
  ∀ key, key ≠ "" → ∀ id₁ id₂, w.ActiveUnder key id₁ → w.ActiveUnder key id₂ → id₁ = id₂

/-- A row under the call's key that was inserted since the call's `SELECT` is active. -/
def raced (call : PendingCall) (w : JobWorld W P C) : Bool :=
  call.args.key.any fun key => w.jobs.any fun id row =>
    decide (call.since ≤ id) && (decide (row.idempotencyKey = some key) && row.active)

/-- An `INSERT` that takes effect has not been raced. -/
def Unraced (w : JobWorld W P C) : JobEvent W P C → Prop
  | .insert c _ _ outcome =>
    ∀ call ∈ w.calls.lookup c, outcome.applied = true → w.raced call = false
  | _ => True

/-- What a pending call knows: its `SELECT` found no active row among those of its time. -/
def Selected (w : JobWorld W P C) : Prop :=
  ∀ c call key, w.calls.lookup c = some call → call.args.key = some key →
    call.since ≤ w.nextId ∧ ∀ id, id < call.since → ¬ w.ActiveUnder key id

end JobWorld

/-- The steps of the calls of `create_job`, of claims and of finishes: all but the resets. -/
def JobEvent.isReset : JobEvent W P C → Bool
  | .passReset .. => true
  | _ => false

theorem JobArgs.key_eq_some {args : JobArgs} :
    args.key = some k ↔ args.idempotencyKey = some k ∧ k ≠ "" := by
  simp only [JobArgs.key, Option.filter_eq_some_iff, decide_eq_true_eq]

namespace JobWorld

section
variable [DecidableEq W] [DecidableEq P] [DecidableEq C] {w w' : JobWorld W P C}

omit [DecidableEq W] [DecidableEq P] [DecidableEq C] in
theorem raced_iff {call : PendingCall} : w.raced call = true ↔
    ∃ key id, call.args.key = some key ∧ call.since ≤ id ∧ w.ActiveUnder key id := by
  simp only [raced, Option.any_eq_true, Table.any_iff, Bool.and_eq_true, decide_eq_true_eq,
    ActiveUnder]
  constructor
  · rintro ⟨key, hkey, id, row, hrow, hle, hk, ha⟩
    exact ⟨key, id, hkey, hle, row, hrow, hk, ha⟩
  · rintro ⟨key, id, hkey, hle, row, hrow, hk, ha⟩
    exact ⟨key, hkey, id, row, hrow, hle, hk, ha⟩

omit [DecidableEq W] [DecidableEq P] [DecidableEq C] in
/-- A change of a row that keeps its key and revives nothing. -/
theorem activeUnder_save (f : Job → Job) (hkey : ∀ job, (f job).idempotencyKey = job.idempotencyKey)
    (hactive : ∀ job, w.jobs.lookup i = some job → (f job).active = true → job.active = true)
    (h : (w.save i f).ActiveUnder key j) : w.ActiveUnder key j := by
  obtain ⟨row, hrow, hk, ha⟩ := h
  rw [lookup_save] at hrow
  split at hrow
  · rename_i hji
    obtain ⟨job, hjob, rfl⟩ := Option.map_eq_some_iff.1 hrow
    rw [hji]
    exact ⟨job, hjob, (hkey job).symm.trans hk, hactive job hjob ha⟩
  · exact ⟨row, hrow, hk, ha⟩

omit [DecidableEq W] [DecidableEq P] [DecidableEq C] in
theorem activeUnder_claim (hrow : w.jobs.lookup i = some job) (hq : job.status = .queued)
    (now : Instant) (h : (w.save i (Job.claim now)).ActiveUnder key j) : w.ActiveUnder key j := by
  refine activeUnder_save (Job.claim now) (fun _ => rfl) (fun row hrow' _ => ?_) h
  rw [hrow, Option.some.injEq] at hrow'
  rw [Job.active, ← hrow', hq]
  rfl

omit [DecidableEq W] [DecidableEq P] [DecidableEq C] in
theorem activeUnder_touch (copy : Job) (h : (w.save i (Job.saveTouch copy)).ActiveUnder key j) :
    w.ActiveUnder key j :=
  activeUnder_save (Job.saveTouch copy) (fun _ => rfl) (fun _ _ ha => ha) h

omit [DecidableEq W] [DecidableEq P] [DecidableEq C] in
theorem activeUnder_finish (hs : status = .succeeded ∨ status = .failed)
    (h : (w.save i (Job.finish now status error)).ActiveUnder key j) : w.ActiveUnder key j := by
  refine activeUnder_save (Job.finish now status error) (fun _ => rfl) (fun job _ ha => ?_) h
  rcases hs with rfl | rfl <;> cases ha

omit [DecidableEq W] [DecidableEq P] [DecidableEq C] in
theorem activeUnder_create {job : Job} (h : (w.create job).ActiveUnder key j) :
    j = w.nextId ∧ job.idempotencyKey = some key ∧ job.active = true ∨ w.ActiveUnder key j := by
  obtain ⟨row, hrow, hk, ha⟩ := h
  by_cases hj : j = w.nextId
  · subst j
    rw [create, AList.lookup_insert, Option.some.injEq] at hrow
    subst row
    exact .inl ⟨rfl, hk, ha⟩
  · rw [create, AList.lookup_insert_ne hj] at hrow
    exact .inr ⟨row, hrow, hk, ha⟩

omit [DecidableEq W] [DecidableEq P] [DecidableEq C] in
theorem activeUnder_emits (hemit : Emits w w') (h : w'.ActiveUnder key j) :
    w.ActiveUnder key j := by
  rcases hemit with rfl | ⟨message, hs, rfl⟩
  · exact h
  · rcases activeUnder_create h with ⟨-, -, ha⟩ | h
    · rw [Job.active, hs] at ha
      cases ha
    · exact h

omit [DecidableEq W] [DecidableEq P] in
theorem lookup_calls_erase {c c' : C} {call : PendingCall}
    (h : (AList.erase c w.calls).lookup c' = some call) : w.calls.lookup c' = some call := by
  by_cases hc : c' = c
  · subst c'
    rw [AList.lookup_erase] at h
    cases h
  · rw [AList.lookup_erase_ne hc] at h
    exact h

/-- Only an `INSERT` and a reset make a row active. -/
theorem activeUnder_step {e : JobEvent W P C} (heff : Effect w e w') (he : e.isReset = false)
    (h : w'.ActiveUnder key j) : w.ActiveUnder key j ∨ ∃ c createdAt updatedAt outcome call,
      e = .insert c createdAt updatedAt outcome ∧ outcome.applied = true ∧
        w.calls.lookup c = some call ∧ call.args.idempotencyKey = some key ∧ j = w.nextId := by
  cases heff with
  | kept => exact .inl h
  | read passes => exact .inl h
  | selected hfree => exact .inl h
  | aborted => exact .inl h
  | inserted hc happlied =>
    rcases activeUnder_create h with ⟨hj, hk, -⟩ | h
    · exact .inr ⟨_, _, _, _, _, rfl, happlied, hc, hk, hj⟩
    · exact .inl h
  | claimed hfree hrow hq => exact .inl (activeUnder_claim hrow hq _ h)
  | claimLost hrow hq => exact .inl (activeUnder_claim hrow hq _ h)
  | started hk hp => exact .inl h
  | moved hk hid hphase => exact .inl h
  | left => exact .inl h
  | touched hk hp => exact .inl (activeUnder_touch _ h)
  | succeeded hk hp hid hp' => exact .inl (activeUnder_finish (.inl rfl) h)
  | succeededLost hk hp hid hp' => exact .inl (activeUnder_finish (.inl rfl) h)
  | failed hk hp hid hp' => exact .inl (activeUnder_finish (.inr rfl) h)
  | failedLost hk hp => exact .inl (activeUnder_finish (.inr rfl) h)
  | announced hemit => exact .inl (activeUnder_emits hemit h)
  | announceRaised hk hp hemit hraised => exact .inl (activeUnder_emits hemit h)
  | requeued hp hstale => cases he

theorem nextId_step {e : JobEvent W P C} (heff : Effect w e w') : w.nextId ≤ w'.nextId := by
  cases heff with
  | inserted hc happlied => exact Nat.le_succ _
  | announced hemit =>
    rcases hemit with rfl | ⟨message, -, rfl⟩
    · exact le_refl _
    · exact Nat.le_succ _
  | announceRaised hk hp hemit hraised =>
    rcases hemit with rfl | ⟨message, -, rfl⟩
    · exact le_refl _
    · exact Nat.le_succ _
  | _ => exact le_refl _

/-- A pending call was pending before, or its `SELECT` has just found nothing. -/
theorem calls_step {e : JobEvent W P C} (heff : Effect w e w')
    (h : w'.calls.lookup c = some call) : w.calls.lookup c = some call ∨
      call.since = w.nextId ∧ existingJob call.args w.jobs = none ∧ w'.jobs = w.jobs := by
  cases heff with
  | @selected args c' hfree =>
    by_cases hc : c = c'
    · subst c'
      rw [AList.lookup_insert, Option.some.injEq] at h
      subst call
      exact .inr ⟨rfl, hfree, rfl⟩
    · rw [AList.lookup_insert_ne hc] at h
      exact .inl h
  | aborted => exact .inl (lookup_calls_erase h)
  | inserted hc happlied => exact .inl (lookup_calls_erase h)
  | announced hemit => rcases hemit with rfl | ⟨message, -, rfl⟩ <;> exact .inl h
  | announceRaised hk hp hemit hraised =>
    rcases hemit with rfl | ⟨message, -, rfl⟩ <;> exact .inl h
  | _ => exact .inl h

omit [DecidableEq W] [DecidableEq P] [DecidableEq C] in
theorem not_activeUnder_of_select {args : JobArgs} (h : existingJob args w.jobs = none)
    (hkey : args.key = some key) (j : Nat) : ¬ w.ActiveUnder key j := by
  rintro ⟨row, hrow, hk, ha⟩
  rw [existingJob, hkey, Option.bind_some, Table.first_eq_none] at h
  have hnone := h j row hrow
  rw [hk, ha, decide_eq_true rfl] at hnone
  cases hnone

theorem Selected.step (h : w.Selected) {e : JobEvent W P C} (heff : Effect w e w')
    (he : e.isReset = false) : w'.Selected := by
  intro c call key hc hkey
  have hid := nextId_step heff
  rcases calls_step heff hc with hc | ⟨hsince, hnone, hjobs⟩
  · obtain ⟨hle, hnone⟩ := h c call key hc hkey
    refine ⟨hle.trans hid, fun j hj ha => ?_⟩
    rcases activeUnder_step heff he ha with ha | ⟨_, _, _, _, _, -, -, -, -, rfl⟩
    · exact hnone j hj ha
    · omega
  · refine ⟨hsince ▸ hid, fun j _ ha => ?_⟩
    obtain ⟨row, hrow, hk⟩ := ha
    rw [hjobs] at hrow
    exact not_activeUnder_of_select hnone hkey j ⟨row, hrow, hk⟩

/-- An `INSERT` that has not been raced finds no other active row under its key. -/
theorem UniqueActive.step (h : w.UniqueActive) (hsel : w.Selected) {e : JobEvent W P C}
    (heff : Effect w e w') (he : e.isReset = false) (hok : w.Unraced e) : w'.UniqueActive := by
  have hnone : ∀ key, key ≠ "" → ∀ c createdAt updatedAt outcome call,
      e = .insert c createdAt updatedAt outcome → outcome.applied = true →
        w.calls.lookup c = some call → call.args.idempotencyKey = some key →
          ∀ j, ¬ w.ActiveUnder key j := by
    rintro key hkey c createdAt updatedAt outcome call rfl happlied hc hk j ha
    have hk' : call.args.key = some key := JobArgs.key_eq_some.2 ⟨hk, hkey⟩
    by_cases hj : j < call.since
    · exact (hsel c call key hc hk').2 j hj ha
    · have hraced := raced_iff.2 ⟨key, j, hk', not_lt.1 hj, ha⟩
      rw [hok call hc happlied] at hraced
      cases hraced
  intro key hkey id₁ id₂ h₁ h₂
  rcases activeUnder_step heff he h₁ with h₁ | ⟨c, _, _, _, call, hev, happlied, hc, hk, rfl⟩ <;>
    rcases activeUnder_step heff he h₂ with h₂ | ⟨c', _, _, _, call', hev', happlied', hc', hk', rfl⟩
  · exact h key hkey id₁ id₂ h₁ h₂
  · exact absurd h₁ (hnone key hkey _ _ _ _ _ hev' happlied' hc' hk' id₁)
  · exact absurd h₂ (hnone key hkey _ _ _ _ _ hev happlied hc hk id₂)
  · rfl

/-- A raced `INSERT` makes a second active row under its key. -/
theorem not_uniqueActive_of_raced (hnum : w.Numbered) (hc : w.calls.lookup c = some call)
    (happlied : outcome.applied = true) (hraced : w.raced call = true) (str : Json → String)
    (createdAt updatedAt : Instant) :
    ∃ w', w.step str (.insert c createdAt updatedAt outcome) = some w' ∧ ¬ w'.UniqueActive := by
  obtain ⟨key, id, hkey, -, row, hrow, hk, ha⟩ := raced_iff.1 hraced
  obtain ⟨hidem, hne⟩ := JobArgs.key_eq_some.1 hkey
  refine ⟨_, by rw [step, hc, Option.map_some], fun hunique => ?_⟩
  rw [commit, if_pos happlied] at hunique
  have hold : id < w.nextId := hnum id row hrow
  have hnum' : Numbered { w with calls := AList.erase c w.calls } := hnum
  have hnew := hunique key hne id w.nextId ⟨row, lookup_create hnum' _ hrow, hk, ha⟩
    ⟨newJob call.args createdAt updatedAt, AList.lookup_insert _, hidem, rfl⟩
  omega

omit [DecidableEq W] [DecidableEq P] in
theorem selected_initial : Selected (initial : JobWorld W P C) := by
  intro c call key hc
  cases hc

omit [DecidableEq W] [DecidableEq P] [DecidableEq C] in
theorem uniqueActive_initial : UniqueActive (initial : JobWorld W P C) := by
  rintro key - id₁ id₂ ⟨row, hrow, -⟩
  cases hrow

/-- In a run of `create_job` calls, claims and finishes, every reachable state has at most one
active row under each key that is not empty, exactly if no call inserts its row while a row that was
inserted under its key since its `SELECT` is active. -/
theorem active_key_unique_iff (str : Json → String) (es : List (JobEvent W P C))
    (hscope : ∀ e ∈ es, e.isReset = false) : Along (step str) Unraced initial es ↔
      ∀ es₁ es₂ v, es = es₁ ++ es₂ → exec (step str) initial es₁ = some v → v.UniqueActive := by
  constructor
  · rintro hok es₁ es₂ v rfl hv
    have hboth : Along (step str) (fun s e => e.isReset = false ∧ Unraced s e) initial es₁ := by
      rw [along_iff] at hok ⊢
      rintro es e es' t rfl ht
      refine ⟨hscope e ?_, hok es e (es' ++ es₂) t (by simp only [List.append_assoc,
        List.cons_append]) ht⟩
      simp only [List.append_assoc, List.cons_append, List.mem_append, List.mem_cons, true_or,
        or_true]
    have hstep : ∀ (s : JobWorld W P C) e t, s.Selected ∧ s.UniqueActive →
        e.isReset = false ∧ Unraced s e → s.step str e = some t → t.Selected ∧ t.UniqueActive := by
      rintro s e t ⟨hsel, hs⟩ ⟨he, hok⟩ ht
      have heff := step_effect ht
      exact ⟨hsel.step heff he, hs.step hsel heff he hok⟩
    exact (exec_invariant hstep ⟨selected_initial, uniqueActive_initial⟩ hboth hv).2
  · intro h
    rw [along_iff]
    rintro es₁ e es₂ t rfl ht
    have hnum : t.Numbered := exec_preserves (fun _ _ _ hs hst => hs.step (step_effect hst))
      numbered_initial ht
    cases e
    case insert c createdAt updatedAt outcome =>
      intro call hc happlied
      by_contra hraced
      rw [Bool.not_eq_false] at hraced
      obtain ⟨t', ht', hdup⟩ :=
        not_uniqueActive_of_raced hnum hc happlied hraced str createdAt updatedAt
      refine hdup (h (es₁ ++ [.insert c createdAt updatedAt outcome]) es₂ t' ?_ ?_)
      · simp only [List.append_assoc, List.cons_append, List.nil_append]
      · rw [exec_append, ht, Option.bind_some, exec, ht', Option.bind_some, exec_nil]
    all_goals trivial

instance (w : JobWorld W P C) (e : JobEvent W P C) : Decidable (w.Unraced e) :=
  match e with
  | .insert c _ _ outcome =>
    inferInstanceAs (Decidable (∀ call ∈ w.calls.lookup c, outcome.applied = true →
      w.raced call = false))
  | .claim .. | .startHandler .. | .touch .. | .leaveHandler .. | .finish .. | .announce ..
  | .crash .. | .passRead .. | .passReset .. | .select .. => isTrue trivial

end

/-- The arguments of a call for one episode. -/
def episodeArgs : JobArgs := ⟨"default", "download_episode", none, some "episode"⟩

/-- A second call while the job runs finds it, and one after its end creates another. -/
def keyReused : List (JobEvent Nat Nat Nat) :=
  [.select 0 episodeArgs, .insert 0 0 0 .returned, .claim 1 1 1 .returned, .select 1 episodeArgs,
    .startHandler 1 none, .leaveHandler 1 none, .finish 1 2 .returned, .select 1 episodeArgs,
    .insert 1 3 3 .returned]

theorem active_key_unique_iff_reused :
    ∃ w, exec (step fun _ => "") initial keyReused = some w ∧ w.UniqueActive := by
  obtain ⟨w, hw⟩ := Option.isSome_iff_exists.1
    (by decide : (exec (step fun _ => "") initial keyReused).isSome = true)
  have hscope : ∀ e ∈ keyReused, e.isReset = false := by decide
  exact ⟨w, hw, (active_key_unique_iff _ keyReused hscope).1 (by decide) keyReused [] w
    (List.append_nil _).symm hw⟩

/-- Both calls select before either inserts. -/
def keyRaced : List (JobEvent Nat Nat Nat) :=
  [.select 0 episodeArgs, .select 1 episodeArgs, .insert 0 0 0 .returned, .insert 1 1 1 .returned]

/-- Two calls at once leave two queued jobs under one key. -/
theorem raced_calls_duplicate_key : ¬ ∀ (es : List (JobEvent Nat Nat Nat)) w,
    (∀ e ∈ es, e.isReset = false) → exec (step fun _ => "") initial es = some w →
      w.UniqueActive := by
  intro h
  obtain ⟨w, hw⟩ := Option.isSome_iff_exists.1
    (by decide : (exec (step fun _ => "") initial keyRaced).isSome = true)
  have hboth : ∀ id ∈ [1, 2], (exec (step fun _ => "") initial keyRaced).bind (fun w =>
      (w.jobs.lookup id).map fun row => (row.idempotencyKey, row.active)) =
        some (some "episode", true) := by decide
  have hactive : ∀ id ∈ [1, 2], w.ActiveUnder "episode" id := by
    intro id hid
    have hrow := hboth id hid
    rw [hw, Option.bind_some] at hrow
    obtain ⟨row, hrow, hpair⟩ := Option.map_eq_some_iff.1 hrow
    exact ⟨row, hrow, congrArg Prod.fst hpair, congrArg Prod.snd hpair⟩
  have heq := h keyRaced w (by decide) hw "episode" (by decide) 1 2 (hactive 1 (by decide))
    (hactive 2 (by decide))
  cases heq

end JobWorld

end GetOffline
