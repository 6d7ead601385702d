import GetOffline.JobStarts

set_option autoImplicit true

namespace GetOffline
open Python Execution

namespace JobWorld

variable [DecidableEq W] [DecidableEq P] [DecidableEq C]

/-- From the claim on until the result is written. -/
def unfinished (phase : WorkerPhase) : Bool :=
  phase = .claimed || phase = .handling || phase = .succeeding || phase = .failing

theorem coverage_unfinished : Coverage unfinished fun status => status = .running where
  moves := by
    intro p p' hp hc
    cases p <;> cases p' <;> revert hp hc <;> decide
  starts := fun _ => rfl
  announcing := rfl
  announcingFailure := rfl
  running := rfl
  queued := rfl
  finished := .inl ⟨rfl, rfl⟩

/-- No reset of a finished job is made from a copy that was read before it finished. -/
def SeesResult (w : JobWorld W P C) : JobEvent W P C → Prop
  | .passReset p _ _ _ _ =>
    ∀ copy ∈ w.passes.lookup p, ∀ row ∈ w.jobs.lookup copy.1, row.terminal = true →
      copy.2.status ≠ .running
  | _ => True

/-- Nothing raises once `SUCCEEDED` is written, and no reset goes by a copy from before a claim or
a finish of the job or interrupts a worker that has not written its result. -/
def Undisturbed (w : JobWorld W P C) (e : JobEvent W P C) : Prop :=
  w.Shielded unfinished e ∧ w.KeepsSuccess e ∧ w.SeesResult e

/-- The status of every finished row is the same in the second world. -/
def KeepsResults (w w' : JobWorld W P C) : Prop :=
  ∀ id row, w.jobs.lookup id = some row → row.terminal = true →
    ∃ row', w'.jobs.lookup id = some row' ∧ row'.status = row.status

section
variable {w w' : JobWorld W P C}

omit [DecidableEq W] [DecidableEq P] [DecidableEq C] in
theorem KeepsResults.refl (w : JobWorld W P C) : KeepsResults w w :=
  fun _ row hrow _ => ⟨row, hrow, rfl⟩

omit [DecidableEq W] [DecidableEq P] [DecidableEq C] in
theorem KeepsResults.trans {w'' : JobWorld W P C} (h : KeepsResults w w')
    (h' : KeepsResults w' w'') : KeepsResults w w'' := by
  intro id row hrow ht
  obtain ⟨row', hrow', hs⟩ := h id row hrow ht
  have ht' : row'.terminal = true := by
    rw [Job.terminal, hs]
    exact ht
  obtain ⟨row'', hrow'', hs'⟩ := h' id row' hrow' ht'
  exact ⟨row'', hrow'', hs'.trans hs⟩

omit [DecidableEq W] [DecidableEq P] [DecidableEq C] in
/-- A change of a row that keeps its status, or of a row that is not finished. -/
theorem keepsResults_save (w : JobWorld W P C) (i : Nat) {f : Job → Job}
    (hf : ∀ row, w.jobs.lookup i = some row → row.terminal = true → (f row).status = row.status) :
    KeepsResults w (w.save i f) := by
  intro id row hrow ht
  rw [lookup_save]
  split
  · rename_i hid
    subst id
    exact ⟨f row, by rw [hrow, Option.map_some], hf row hrow ht⟩
  · exact ⟨row, hrow, rfl⟩

omit [DecidableEq W] [DecidableEq P] [DecidableEq C] in
theorem keepsResults_emits (hnum : w.Numbered) (hemit : Emits w w') : KeepsResults w w' :=
  fun _ row hrow _ => ⟨row, lookup_emits hnum hemit hrow, rfl⟩

omit [DecidableEq P] [DecidableEq C] in
/-- A worker that has not written its result has a running job. -/
theorem Guard.not_terminal (h : Guard unfinished (fun status => status = .running) w)
    (hk : w.workers.lookup k = some worker) (hp : unfinished worker.phase = true)
    (hrow : w.jobs.lookup worker.jobId = some row) : row.terminal = false := by
  obtain ⟨job, hjob, hrun⟩ := h.pinned k worker.jobId ⟨worker, hk, hp, rfl⟩
  rw [hrow, Option.some.injEq] at hjob
  rw [Job.terminal, hjob, of_decide_eq_true hrun]
  rfl

omit [DecidableEq P] [DecidableEq C] in
/-- The only writer of a result is a worker whose job is still running. -/
theorem Guard.keepsResults_finish (h : Guard unfinished (fun status => status = .running) w)
    (hk : w.workers.lookup k = some worker) (hp : unfinished worker.phase = true) (f : Job → Job) :
    KeepsResults w (w.save worker.jobId f) := by
  apply keepsResults_save
  intro row hrow ht
  rw [h.not_terminal hk hp hrow] at ht
  cases ht

omit [DecidableEq W] [DecidableEq P] [DecidableEq C] in
theorem keepsResults_claim (hrow : w.jobs.lookup i = some job) (hq : job.status = .queued)
    (now : Instant) : KeepsResults w (w.save i (Job.claim now)) := by
  apply keepsResults_save
  intro row hrow' ht
  rw [hrow, Option.some.injEq] at hrow'
  rw [Job.terminal, ← hrow', hq] at ht
  cases ht

/-- One undisturbed step keeps every result. -/
theorem keepsResults_step (hguard : Guard unfinished (fun status => status = .running) w)
    (hnum : w.Numbered) {e : JobEvent W P C} (hok : w.Undisturbed e) (heff : Effect w e w') :
    KeepsResults w w' := by
  cases heff with
  | kept => exact KeepsResults.refl w
  | read passes => exact KeepsResults.refl w
  | selected hfree => exact KeepsResults.refl w
  | aborted => exact KeepsResults.refl w
  | inserted hc happlied =>
    intro id row hrow ht
    exact ⟨row, lookup_create hnum _ hrow, rfl⟩
  | claimed hfree hrow hq => exact keepsResults_claim hrow hq _
  | claimLost hrow hq => exact keepsResults_claim hrow hq _
  | started hk hp => exact KeepsResults.refl w
  | moved hk hid hphase => exact KeepsResults.refl w
  | left => exact KeepsResults.refl w
  | touched hk hp => exact keepsResults_save w _ fun _ _ _ => rfl
  | succeeded hk hp hid hp' => exact hguard.keepsResults_finish hk (by rw [hp]; rfl) _
  | succeededLost hk hp hid hp' => exact hguard.keepsResults_finish hk (by rw [hp]; rfl) _
  | failed hk hp hid hp' => exact hguard.keepsResults_finish hk (by rw [hp]; rfl) _
  | failedLost hk hp => exact hguard.keepsResults_finish hk (by rw [hp]; rfl) _
  | announced hemit =>
    have hemitted := keepsResults_emits hnum hemit
    exact hemitted
  | announceRaised hk hp hemit hraised =>
    have hemitted := keepsResults_emits hnum hemit
    exact hemitted
  | requeued hp hstale =>
    refine keepsResults_save w _ fun row hrow ht => ?_
    exact absurd (makesStaleJobQueued_cases hstale).1 (hok.2.2 _ hp row hrow ht)

end

/-- In a run all of whose steps are undisturbed, a finished job keeps its status from then on. -/
theorem finished_is_final (str : Json → String) (es es' : List (JobEvent W P C))
    {w w' : JobWorld W P C} (h : exec (step str) initial es = some w)
    (h' : exec (step str) w es' = some w')
    (hok : Along (step str) Undisturbed initial (es ++ es')) (id : Nat) (row : Job)
    (hrow : w.jobs.lookup id = some row) (ht : row.terminal = true) :
    ∃ row', w'.jobs.lookup id = some row' ∧ row'.status = row.status := by
  have hstep : ∀ (s : JobWorld W P C) e t,
      s.Numbered ∧ Guard unfinished (fun status => status = .running) s → s.Undisturbed e →
        s.step str e = some t →
          (t.Numbered ∧ Guard unfinished (fun status => status = .running) t) ∧
            KeepsResults s t := by
    rintro s e t ⟨hnum, hs⟩ hok ht
    have heff := step_effect ht
    exact ⟨⟨hnum.step heff, hs.step coverage_unfinished hnum hok.1 (fun _ => hok.2.1) heff⟩,
      keepsResults_step hs hnum hok heff⟩
  have hinv := exec_invariant (fun s e t hs he ht => (hstep s e t hs he ht).1)
    ⟨numbered_initial, Guard.initial⟩ hok.left h
  have hkeeps := exec_relates hstep KeepsResults.refl (fun _ _ _ => KeepsResults.trans) hinv
    (hok.right h) h'
  exact hkeeps id row hrow ht

instance (w : JobWorld W P C) (e : JobEvent W P C) : Decidable (w.KeepsSuccess e) :=
  match e with
  | .finish k _ (.lost _) =>
    inferInstanceAs (Decidable (∀ worker ∈ w.workers.lookup k, worker.phase ≠ .succeeding))
  | .announce k _ _ outcome =>
    inferInstanceAs (Decidable (∀ worker ∈ w.workers.lookup k, worker.phase = .announcing →
      outcome.error = none))
  | .finish _ _ .returned | .finish _ _ (.rolledBack _) | .claim .. | .startHandler .. | .touch ..
  | .leaveHandler .. | .passReset .. | .crash .. | .passRead .. | .select .. | .insert .. =>
    isTrue trivial

instance (w : JobWorld W P C) (e : JobEvent W P C) : Decidable (w.SeesResult e) :=
  match e with
  | .passReset p _ _ _ _ =>
    inferInstanceAs (Decidable (∀ copy ∈ w.passes.lookup p, ∀ row ∈ w.jobs.lookup copy.1,
      row.terminal = true → copy.2.status ≠ .running))
  | .claim .. | .startHandler .. | .touch .. | .leaveHandler .. | .finish .. | .announce ..
  | .crash .. | .passRead .. | .select .. | .insert .. => isTrue trivial

instance (w : JobWorld W P C) (e : JobEvent W P C) : Decidable (w.Undisturbed e) :=
  inferInstanceAs (Decidable (_ ∧ _ ∧ _))

/-- The status of a job, if there is such a job. -/
def statusOf (id : Nat) (w : JobWorld W P C) : Option JobStatus :=
  (w.jobs.lookup id).map Job.status

/-- An update job with a completion token runs up to the write of `SUCCEEDED`. -/
def updateSucceeded : List (JobEvent Nat Nat Nat) :=
  [.select 0 ⟨"default", "update_downloads", some [("completion_token", .string "token")], none⟩,
    .insert 0 0 0 .returned, .claim 1 1 1 .returned, .startHandler 1 none, .leaveHandler 1 none,
    .finish 1 2 .returned]

/-- `str` of a decoded JSON text. -/
def strOfText : Json → String
  | .string s => s
  | _ => ""

/-- The completion message is created, and the job stays `SUCCEEDED`. -/
theorem finished_is_final_announced : ∃ w w' : JobWorld Nat Nat Nat,
    exec (step strOfText) initial updateSucceeded = some w ∧
      exec (step strOfText) w [.announce 1 3 3 .returned, .claim 2 1 4 .returned] = some w' ∧
        ∃ row row', w.jobs.lookup 1 = some row ∧ row.terminal = true ∧
          w'.jobs.lookup 1 = some row' ∧ row'.status = row.status := by
  obtain ⟨w, hw⟩ := Option.isSome_iff_exists.1
    (by decide : (exec (step strOfText) initial updateSucceeded).isSome = true)
  have hrun : ((exec (step strOfText) initial updateSucceeded).bind fun w =>
      exec (step strOfText) w [.announce 1 3 3 .returned, .claim 2 1 4 .returned]).isSome = true := by
    decide
  have hstatus : (exec (step strOfText) initial updateSucceeded).bind
      (statusOf 1) = some .succeeded := by decide
  rw [hw, Option.bind_some] at hrun hstatus
  obtain ⟨w', hw'⟩ := Option.isSome_iff_exists.1 hrun
  obtain ⟨row, hrow, hs⟩ := Option.map_eq_some_iff.1 hstatus
  have ht : row.terminal = true := by
    rw [Job.terminal, hs]
    rfl
  obtain ⟨row', hrow', hs'⟩ := finished_is_final strOfText updateSucceeded
    [.announce 1 3 3 .returned, .claim 2 1 4 .returned] hw hw' (by decide) 1 row hrow ht
  exact ⟨w, w', hw, hw', row, row', hrow, ht, hrow', hs'⟩

/-- The completion message raises after `SUCCEEDED` is written, and the same `try` writes `FAILED`. -/
theorem success_overwritten : ¬ ∀ (es es' : List (JobEvent Nat Nat Nat)) w w',
    exec (step strOfText) initial es = some w → exec (step strOfText) w es' = some w' →
      ∀ id row, w.jobs.lookup id = some row → row.terminal = true →
        ∃ row', w'.jobs.lookup id = some row' ∧ row'.status = row.status := by
  intro h
  obtain ⟨w, hw⟩ := Option.isSome_iff_exists.1
    (by decide : (exec (step strOfText) initial updateSucceeded).isSome = true)
  have hfailed : (exec (step strOfText) initial updateSucceeded).bind (fun w =>
      (exec (step strOfText) w [.announce 1 3 3 (.rolledBack "database is locked"),
        .finish 1 4 .returned]).bind (statusOf 1)) = some .failed := by decide
  have hstatus : (exec (step strOfText) initial updateSucceeded).bind
      (statusOf 1) = some .succeeded := by decide
  rw [hw, Option.bind_some] at hfailed hstatus
  obtain ⟨w', hw', hfailed⟩ := Option.bind_eq_some_iff.1 hfailed
  obtain ⟨row, hrow, hs⟩ := Option.map_eq_some_iff.1 hstatus
  obtain ⟨row', hrow', hs'⟩ := h _ _ w w' hw hw' 1 row hrow (by rw [Job.terminal, hs]; rfl)
  obtain ⟨row'', hrow'', hs''⟩ := Option.map_eq_some_iff.1 hfailed
  rw [hrow', Option.some.injEq] at hrow''
  rw [hrow'', hs'', hs] at hs'
  cases hs'

end JobWorld

end GetOffline
