import GetOffline.JobExclusion

set_option autoImplicit true

namespace GetOffline
open Python Execution

namespace JobWorld

variable [DecidableEq W] [DecidableEq P] [DecidableEq C]

/-- How many workers have claimed the job and not yet come to its handler. -/
def claims (id : Nat) (w : JobWorld W P C) : Nat :=
  w.workers.count fun _ worker => worker.phase = .claimed && worker.jobId == id

/-- Every start of a handler, every claim that may still lead to one, and a row that may still be
claimed, is accounted for by the creation of the row or by a reset. -/
def Accounted (w : JobWorld W P C) : Prop :=
  ∀ id, w.starts.count id + w.claims id + (w.isQueued id).toNat ≤
    (w.jobs.lookup id).isSome.toNat + w.resets.count id

section
variable {w w' : JobWorld W P C}

omit [DecidableEq P] [DecidableEq C] in
theorem claims_setWorker (w : JobWorld W P C) (k : W) (worker : Worker) (i : Nat) :
    (w.setWorker k worker).claims i ≤
      w.claims i + (worker.phase = .claimed && worker.jobId == i).toNat := by
  rw [claims, setWorker, Table.count_insert]
  exact Nat.add_le_add_right (Table.erase_count_le _ _ _) _

omit [DecidableEq P] [DecidableEq C] in
theorem claims_unclaimed (w : JobWorld W P C) (k : W) {worker : Worker}
    (hp : worker.phase ≠ .claimed) (i : Nat) : (w.setWorker k worker).claims i ≤ w.claims i := by
  have h := claims_setWorker w k worker i
  rw [decide_eq_false hp] at h
  exact h

omit [DecidableEq P] [DecidableEq C] in
theorem claims_idle (w : JobWorld W P C) (k : W) (i : Nat) : (w.idle k).claims i ≤ w.claims i :=
  Table.erase_count_le _ _ _

omit [DecidableEq P] [DecidableEq C] in
/-- A worker that leaves `claimed` for its handler is one claim less. -/
theorem claims_started (hk : w.workers.lookup k = some worker) (hp : worker.phase = .claimed)
    (hp' : worker'.phase ≠ .claimed) (i : Nat) :
    (w.setWorker k worker').claims i + (worker.jobId == i).toNat = w.claims i := by
  rw [claims, claims, setWorker, Table.count_insert, Table.count_erase _ hk, decide_eq_false hp', hp]
  simp only [Bool.false_and, Bool.toNat_false, decide_true, Bool.true_and, Nat.add_zero]

omit [DecidableEq W] [DecidableEq P] [DecidableEq C] in
theorem isQueued_save (w : JobWorld W P C) (i : Nat) (f : Job → Job) (j : Nat) :
    (w.save i f).isQueued j =
      if j = i then (w.jobs.lookup i).any fun job => (f job).status = .queued else w.isQueued j := by
  simp only [isQueued, lookup_save]
  split
  · rw [Option.any_map]
  · rfl

omit [DecidableEq W] [DecidableEq P] [DecidableEq C] in
theorem isSome_save (w : JobWorld W P C) (i : Nat) (f : Job → Job) (j : Nat) :
    ((w.save i f).jobs.lookup j).isSome = (w.jobs.lookup j).isSome := by
  rw [lookup_save]
  split
  · rename_i hji
    rw [Option.isSome_map, hji]
  · rfl

omit [DecidableEq W] [DecidableEq P] [DecidableEq C] in
/-- A change of a row to another status than `QUEUED`. -/
theorem isQueued_save_le (w : JobWorld W P C) (i : Nat) {f : Job → Job}
    (hf : ∀ job, (f job).status = .queued → job.status = .queued) (j : Nat) :
    ((w.save i f).isQueued j).toNat ≤ (w.isQueued j).toNat := by
  rw [isQueued_save]
  split
  · rename_i hji
    subst j
    apply Bool.toNat_le_toNat
    intro hany
    obtain ⟨job, hjob, hq⟩ := (Option.any_eq_true _ _).1 hany
    exact (Option.any_eq_true _ _).2 ⟨job, hjob, decide_eq_true (hf job (of_decide_eq_true hq))⟩
  · exact le_refl _

omit [DecidableEq W] [DecidableEq P] [DecidableEq C] in
theorem isQueued_create (h : w.Numbered) (job : Job) (j : Nat) :
    ((w.create job).isQueued j).toNat + (w.jobs.lookup j).isSome.toNat ≤
      (w.isQueued j).toNat + ((w.create job).jobs.lookup j).isSome.toNat := by
  simp only [isQueued, create]
  by_cases hj : j = w.nextId
  · subst j
    cases hrow : w.jobs.lookup w.nextId with
    | none =>
      rw [AList.lookup_insert]
      exact Bool.toNat_le _
    | some row => exact absurd (h _ _ hrow) (lt_irrefl _)
  · rw [AList.lookup_insert_ne hj]

omit [DecidableEq W] [DecidableEq P] [DecidableEq C] in
theorem isQueued_emits (h : w.Numbered) (hemit : Emits w w') (j : Nat) :
    (w'.isQueued j).toNat + (w.jobs.lookup j).isSome.toNat ≤
      (w.isQueued j).toNat + (w'.jobs.lookup j).isSome.toNat := by
  rcases hemit with rfl | ⟨message, -, rfl⟩
  · exact le_refl _
  · exact isQueued_create h message j

omit [DecidableEq W] [DecidableEq P] [DecidableEq C] in
theorem claims_emits (hemit : Emits w w') (i : Nat) : w'.claims i = w.claims i := by
  rw [claims, claims, (emits_frame hemit).1]

omit [DecidableEq W] [DecidableEq P] [DecidableEq C] in
/-- A step that starts nothing, resets nothing, claims nothing and queues only new rows. -/
theorem Accounted.of_le (h : w.Accounted) (hstarts : w'.starts = w.starts)
    (hresets : w'.resets = w.resets) (hclaims : ∀ i, w'.claims i ≤ w.claims i)
    (hrows : ∀ i, (w'.isQueued i).toNat + (w.jobs.lookup i).isSome.toNat ≤
      (w.isQueued i).toNat + (w'.jobs.lookup i).isSome.toNat) : w'.Accounted := by
  intro i
  have hi := h i
  have hc := hclaims i
  have hr := hrows i
  rw [hstarts, hresets]
  omega

omit [DecidableEq W] [DecidableEq P] [DecidableEq C] in
/-- The case of a change of one row. -/
theorem Accounted.of_save (h : w.Accounted) (i : Nat) {f : Job → Job}
    (hf : ∀ job, (f job).status = .queued → job.status = .queued)
    (hjobs : w'.jobs = (w.save i f).jobs) (hstarts : w'.starts = w.starts)
    (hresets : w'.resets = w.resets) (hclaims : ∀ i, w'.claims i ≤ w.claims i) :
    w'.Accounted := by
  refine h.of_le hstarts hresets hclaims fun j => ?_
  have hq := isQueued_save_le w i hf j
  have hs := isSome_save w i f j
  simp only [isQueued, hjobs] at hq ⊢
  rw [hs]
  exact Nat.add_le_add_right hq _

omit [DecidableEq P] [DecidableEq C] in
/-- A claim takes the place of the row that could be claimed. -/
theorem Accounted.claimed (h : w.Accounted) (hrow : w.jobs.lookup i = some job)
    (hq : job.status = .queued) (now : Instant) (k : W) (worker : Worker)
    (hid : worker.jobId = i) :
    ((w.save i (Job.claim now)).setWorker k worker).Accounted := by
  intro j
  have hj := h j
  have hc := claims_setWorker w k worker j
  change w.starts.count j + (w.setWorker k worker).claims j +
    ((w.save i (Job.claim now)).isQueued j).toNat ≤
      ((w.save i (Job.claim now)).jobs.lookup j).isSome.toNat + w.resets.count j
  rw [isSome_save, isQueued_save, hrow]
  by_cases hji : j = i
  · subst j
    have hone : w.isQueued i = true := by
      rw [isQueued, hrow, Option.any_some, decide_eq_true hq]
    have hle := Bool.toNat_le (worker.phase = .claimed && worker.jobId == i)
    have hzero : ((some job).any fun job => decide ((job.claim now).status = .queued)) = false := rfl
    rw [if_pos rfl, hzero]
    rw [hone] at hj
    simp only [Bool.toNat_true, Bool.toNat_false] at hj ⊢
    omega
  · have hne : (worker.jobId == j) = false := by
      rw [hid]
      exact beq_false_of_ne (Ne.symm hji)
    rw [hne, Bool.and_false, Bool.toNat_false] at hc
    rw [if_neg hji]
    omega

omit [DecidableEq P] [DecidableEq C] in
theorem Accounted.started (h : w.Accounted) (hk : w.workers.lookup k = some worker)
    (hp : worker.phase = .claimed) :
    Accounted { w.setWorker k { worker with phase := .handling } with
      starts := worker.jobId :: w.starts } := by
  intro j
  have hj := h j
  have hp' : ({ worker with phase := .handling } : Worker).phase ≠ .claimed := nofun
  have hc := claims_started hk hp hp' j
  change (worker.jobId :: w.starts).count j + (w.setWorker k _).claims j + (w.isQueued j).toNat ≤
    (w.jobs.lookup j).isSome.toNat + w.resets.count j
  rw [List.count_cons]
  cases hb : worker.jobId == j <;> rw [hb] at hc <;>
    simp only [Bool.toNat_true, Bool.toNat_false, Bool.false_eq_true, ↓reduceIte] at hc ⊢ <;> omega

omit [DecidableEq W] [DecidableEq P] [DecidableEq C] in
/-- A reset accounts for the row that it makes claimable. -/
theorem Accounted.requeued (h : w.Accounted) (i : Nat) (now : Instant) :
    (w.requeue i now).Accounted := by
  intro j
  have hj := h j
  change w.starts.count j + w.claims j + ((w.save i (Job.requeue now)).isQueued j).toNat ≤
    ((w.save i (Job.requeue now)).jobs.lookup j).isSome.toNat +
      (if w.isQueued i then w.resets else i :: w.resets).count j
  rw [isSome_save, isQueued_save]
  by_cases hji : j = i
  · subst j
    rw [if_pos rfl]
    have hle := Bool.toNat_le ((w.jobs.lookup i).any fun job => (job.requeue now).status = .queued)
    cases hq : w.isQueued i <;> rw [hq] at hj <;>
      simp only [Bool.toNat_true, Bool.toNat_false, Bool.false_eq_true, ↓reduceIte,
        List.count_cons_self] at hj ⊢ <;> omega
  · rw [if_neg hji]
    split
    · exact hj
    · rw [List.count_cons_of_ne (Ne.symm hji)]
      exact hj

/-- One step keeps the account. -/
theorem Accounted.step (h : w.Accounted) (hnum : w.Numbered) {e : JobEvent W P C}
    (heff : Effect w e w') : w'.Accounted := by
  cases heff with
  | kept => exact h
  | read passes => exact h
  | selected hfree => exact h
  | aborted => exact h
  | inserted hc happlied => exact h.of_le rfl rfl (fun _ => le_refl _) fun i => isQueued_create hnum _ i
  | claimed hfree hrow hq => exact h.claimed hrow hq _ _ _ rfl
  | claimLost hrow hq =>
    exact h.of_save _ (fun _ hf => by cases hf) rfl rfl rfl fun _ => le_refl _
  | started hk hp => exact h.started hk hp
  | @moved k worker worker' _ hk hid hphase =>
    refine h.of_le rfl rfl (fun i => claims_unclaimed w k ?_ i) fun _ => le_refl _
    intro hp
    rw [hp] at hphase
    cases hphase' : worker.phase <;> rw [hphase'] at hphase <;> revert hphase <;> decide
  | left => exact h.of_le rfl rfl (fun i => claims_idle w _ i) fun _ => le_refl _
  | @touched k worker _ copy hk hp =>
    have hf : ∀ job, (Job.saveTouch copy job).status = .queued → job.status = .queued :=
      fun _ hq => hq
    refine h.of_save worker.jobId hf rfl rfl rfl fun i => claims_unclaimed w _ ?_ i
    rw [hp]
    decide
  | succeeded hk hp hid hp' =>
    refine h.of_save _ (fun _ hf => by cases hf) rfl rfl rfl fun i => claims_unclaimed w _ ?_ i
    rw [hp']
    decide
  | succeededLost hk hp hid hp' =>
    refine h.of_save _ (fun _ hf => by cases hf) rfl rfl rfl fun i => claims_unclaimed w _ ?_ i
    rw [hp']
    decide
  | failed hk hp hid hp' =>
    refine h.of_save _ (fun _ hf => by cases hf) rfl rfl rfl fun i => claims_unclaimed w _ ?_ i
    rw [hp']
    decide
  | failedLost hk hp =>
    exact h.of_save _ (fun _ hf => by cases hf) rfl rfl rfl fun i => claims_idle w _ i
  | @announced w₁ _ _ hemit =>
    obtain ⟨hworkers, hstarts, hresets⟩ := emits_frame hemit
    refine h.of_le hstarts hresets (fun i => ?_) fun i => isQueued_emits hnum hemit i
    rw [← claims_emits hemit]
    exact claims_idle w₁ _ i
  | @announceRaised k _ w₁ _ _ _ _ hk hp hemit hraised =>
    obtain ⟨hworkers, hstarts, hresets⟩ := emits_frame hemit
    refine h.of_le hstarts hresets (fun i => ?_) fun i => isQueued_emits hnum hemit i
    rw [← claims_emits hemit]
    refine claims_unclaimed w₁ k ?_ i
    rw [Worker.fails_phase]
    decide
  | requeued hp hstale => exact Accounted.requeued h _ _

omit [DecidableEq W] [DecidableEq P] [DecidableEq C] in
theorem accounted_initial : Accounted (initial : JobWorld W P C) :=
  fun _ => le_refl _

omit [DecidableEq P] [DecidableEq C] in
/-- A claim of a row that is not `QUEUED` changes nothing. -/
theorem claim_not_queued (h : w.isQueued i = false) (k : W) (now : Instant) (outcome : Outcome) :
    w.claim k i now outcome = w := by
  simp only [claim]
  rcases claimJob_cases now i w.jobs with ⟨job, hrow, hq, -⟩ | ⟨-, hclaim⟩
  · rw [isQueued, hrow, Option.any_some, decide_eq_true hq] at h
    cases h
  · rw [hclaim]

end

/-- The handler of a job is started at most once more than the job was put back to `QUEUED`, and a
message for a job that is not `QUEUED` leaves everything as it is. -/
theorem starts_le_resets (str : Json → String) (es : List (JobEvent W P C)) {w : JobWorld W P C}
    (h : exec (step str) initial es = some w) :
    (∀ id, w.starts.count id ≤ 1 + w.resets.count id) ∧
      ∀ k id now outcome, w.workers.lookup k = none → w.isQueued id = false →
        w.step str (.claim k id now outcome) = some w := by
  constructor
  · have hstep : ∀ (s : JobWorld W P C) e t, s.Numbered ∧ s.Accounted → s.step str e = some t →
        t.Numbered ∧ t.Accounted := by
      rintro s e t ⟨hnum, hs⟩ ht
      have heff := step_effect ht
      exact ⟨hnum.step heff, hs.step hnum heff⟩
    have hacc := (exec_preserves hstep ⟨numbered_initial, accounted_initial⟩ h).2
    intro id
    have hid := hacc id
    have hle := Bool.toNat_le (w.jobs.lookup id).isSome
    omega
  · intro k id now outcome hfree hq
    simp only [step, if_pos hfree, claim_not_queued hq]

/-- Two messages for one job: the second one finds it `RUNNING`. -/
theorem starts_le_resets_duplicate : ∃ w : JobWorld Nat Nat Nat,
    exec (step fun _ => "") initial downloadStarted = some w ∧
      w.starts.count 1 ≤ 1 + w.resets.count 1 ∧
        w.step (fun _ => "") (.claim 2 1 5 .returned) = some w := by
  obtain ⟨w, hw⟩ := Option.isSome_iff_exists.1
    (by decide : (exec (step fun _ => "") initial downloadStarted).isSome = true)
  have hstate : ((exec (step fun _ => "") initial downloadStarted).map fun w =>
      ((w.workers.lookup 2).isNone, w.isQueued 1)) = some (true, false) := by decide
  rw [hw, Option.map_some, Option.some.injEq, Prod.mk.injEq] at hstate
  obtain ⟨hcount, hclaim⟩ := starts_le_resets _ _ hw
  exact ⟨w, hw, hcount 1, hclaim 2 1 5 .returned (Option.isNone_iff_eq_none.1 hstate.1) hstate.2⟩

end JobWorld

end GetOffline
