import GetOffline.TranscodeLock

set_option autoImplicit true

namespace GetOffline
open Python Execution

theorem currentOwner_of_value {row : LockRow} (h : row.value = leaseText owner expiresAt) :
    row.currentOwner = owner.text := by
  rw [LockRow.currentOwner, h, partitionBar_leaseText]

namespace LockWorld
variable {w w' : LockWorld} {owner u v : LockOwner} {row : LockRow} {phase : LockPhase}

@[simp] theorem phase_goto (owner : LockOwner) (phase : LockPhase) (w : LockWorld) (u : LockOwner) :
    (w.goto owner phase).phase u = if u = owner then phase else w.phase u :=
  Function.update_apply ..

@[simp] theorem row_goto (owner : LockOwner) (phase : LockPhase) (w : LockWorld) :
    (w.goto owner phase).row = w.row := rfl

/-- The row names the worker that holds the lock, with the lease that it wrote last. -/
def Recorded (w : LockWorld) : Prop :=
  ∀ owner, (w.phase owner).holds = true → ∃ row, w.row = some row ∧
    row.value = leaseText owner (w.lease owner) ∧
    minInstant ≤ w.lease owner ∧ w.lease owner ≤ maxInstant

theorem Recorded.currentOwner (h : w.Recorded) (hu : (w.phase u).holds = true)
    (hrow : w.row = some row) : row.currentOwner = u.text := by
  obtain ⟨row', hrow', hvalue, -⟩ := h u hu
  obtain rfl := Option.some.inj (hrow.symm.trans hrow')
  exact currentOwner_of_value hvalue

theorem Recorded.unique (h : w.Recorded) (hu : (w.phase u).holds = true)
    (hv : (w.phase v).holds = true) : u = v := by
  obtain ⟨row, hrow, -⟩ := h u hu
  exact text_injective ((h.currentOwner hu hrow).symm.trans (h.currentOwner hv hrow))

/-- Workers that get on without touching the row, none of them into the lock. -/
theorem Recorded.of_holds (h : w.Recorded) (hrow : w'.row = w.row) (hlease : w'.lease = w.lease)
    (hholds : ∀ u, (w'.phase u).holds = true → (w.phase u).holds = true) : w'.Recorded := by
  intro u hu
  rw [hrow, hlease]
  exact h u (hholds u hu)

theorem holds_goto (hphase : phase.holds = true → (w.phase owner).holds = true) (u : LockOwner)
    (h : ((w.goto owner phase).phase u).holds = true) : (w.phase u).holds = true := by
  rw [phase_goto] at h
  split at h
  · next hu =>
    rw [hu]
    exact hphase h
  · exact h

theorem holds_leave (hphase : phase.holds = false) (u : LockOwner)
    (h : ((w.goto owner phase).phase u).holds = true) : (w.phase u).holds = true := by
  apply holds_goto _ u h
  intro hp
  rw [hphase] at hp
  cases hp

theorem Recorded.leave (h : w.Recorded) (owner : LockOwner) (hphase : phase.holds = false) :
    (w.goto owner phase).Recorded :=
  h.of_holds rfl rfl (holds_leave hphase)

/-- Threads alone do not matter. -/
theorem Recorded.setThread (h : w.Recorded) (thread : Nat) (state : Option LockThread) :
    (w.setThread thread state).Recorded :=
  h.of_holds rfl rfl fun _ hu => hu

theorem writeLease_spec (h : w.writeLease owner expiresAt saved = some w') :
    w'.phase = w.phase ∧ (∃ row, w'.row = some row ∧ row.value = leaseText owner (w'.lease owner)) ∧
      minInstant ≤ w'.lease owner ∧ w'.lease owner ≤ maxInstant := by
  rw [writeLease] at h
  split at h
  · next hrange =>
    cases h
    have hlease : Function.update w.lease owner expiresAt owner = expiresAt := Function.update_self ..
    refine ⟨rfl, ⟨_, rfl, ?_⟩, ?_⟩
    · dsimp only
      rw [hlease]
    · dsimp only
      rw [hlease]
      exact hrange
  · cases h

/-- Whoever writes a lease has it recorded, when nobody else holds the lock. -/
theorem recorded_of_writeLease (h : w.writeLease owner expiresAt saved = some w')
    (halone : ∀ u, (w.phase u).holds = true → u = owner) : w'.Recorded := by
  obtain ⟨hphase, ⟨row, hrow, hvalue⟩, hrange⟩ := writeLease_spec h
  intro u hu
  rw [hphase] at hu
  obtain rfl := halone u hu
  exact ⟨row, hrow, hvalue, hrange⟩

theorem Recorded.ask (h : w.Recorded) (hok : w.Timely (.ask owner clock))
    (hphase : w.phase owner = .asking) (hs : w.ask leaseSeconds owner clock = some w') :
    w'.Recorded := by
  obtain ⟨row, hrow, hs⟩ := Option.bind_eq_some_iff.1 hs
  split at hs
  · next hmay =>
    have halone : ∀ u, (w.phase u).holds = false := by
      intro u
      by_contra hu
      have hholds := eq_true_of_ne_false hu
      have hne : u ≠ owner := by
        rintro rfl
        rw [hphase] at hholds
        cases hholds
      obtain ⟨row', hrow', hvalue, hlow, hhigh⟩ := h u hholds
      obtain rfl := Option.some.inj (hrow.symm.trans hrow')
      rw [not_mayAcquire_of_lease hvalue hlow hhigh hne (hok u hne hholds)] at hmay
      cases hmay
    obtain ⟨w₁, hw₁, rfl⟩ := Option.map_eq_some_iff.1 hs
    obtain ⟨hphase₁, ⟨row₁, hrow₁, hvalue₁⟩, hrange⟩ := writeLease_spec hw₁
    intro u hu
    rw [phase_goto, hphase₁] at hu
    split at hu
    · next huo =>
      subst u
      exact ⟨row₁, hrow₁, hvalue₁, hrange⟩
    · rw [halone u] at hu
      cases hu
  · cases hs
    exact h.leave _ rfl

theorem Recorded.clear (h : w.Recorded) (hphase : (w.phase owner).holds = false)
    (hs : w.clear owner now = some w') : w'.Recorded := by
  obtain ⟨row, hrow, hs⟩ := Option.bind_eq_some_iff.1 hs
  cases hs
  intro u hu
  obtain ⟨row', hrow', hvalue⟩ := h u hu
  obtain rfl := Option.some.inj (hrow.symm.trans hrow')
  refine ⟨row, ?_, hvalue⟩
  dsimp only
  rw [if_neg]
  intro hcurrent
  have huo := text_injective ((h.currentOwner hu hrow).symm.trans hcurrent)
  rw [huo] at hu
  rw [hu] at hphase
  cases hphase

theorem Recorded.renew (h : w.Recorded) (hs : w.renew owner expiresAt saved = some w') :
    w'.Recorded := by
  obtain ⟨row, hrow, hs⟩ := Option.bind_eq_some_iff.1 hs
  split at hs
  · next hcurrent =>
    apply recorded_of_writeLease hs
    intro u hu
    exact text_injective ((h.currentOwner hu hrow).symm.trans hcurrent)
  · cases hs
    exact h

theorem Recorded.step (h : w.Recorded) (hok : w.Timely e) (hs : w.step leaseSeconds e = some w') :
    w'.Recorded := by
  cases e with
  | enter owner =>
    rw [LockWorld.step] at hs
    split at hs
    · cases hs
      exact h.leave _ rfl
    · cases hs
  | ensureRow owner now =>
    rw [LockWorld.step] at hs
    split at hs
    · cases hs
      intro u hu
      obtain ⟨row, hrow, hvalue⟩ := h u (holds_leave rfl u hu)
      exact ⟨row, by rw [hrow]; rfl, hvalue⟩
    · cases hs
  | ask owner clock =>
    rw [LockWorld.step] at hs
    split at hs
    · next hphase => exact h.ask hok hphase hs
    · cases hs
  | startThread owner started =>
    rw [LockWorld.step] at hs
    split at hs
    · next hphase =>
      split at hs
      · cases hs
        have hin : (w.phase owner).holds = true := by
          rw [hphase]
          rfl
        intro u hu
        exact h u (holds_goto (fun _ => hin) u hu)
      · cases hs
        exact h.leave _ rfl
    · cases hs
  | exit owner =>
    rw [LockWorld.step] at hs
    split at hs
    · cases hs
      exact (h.leave _ rfl).setThread _ _
    · cases hs
  | release owner now =>
    rw [LockWorld.step] at hs
    split at hs
    · next hphase =>
      obtain ⟨w₁, hw₁, rfl⟩ := Option.map_eq_some_iff.1 hs
      have hout : (w.phase owner).holds = false := by
        rw [hphase]
        rfl
      exact (h.clear hout hw₁).leave _ rfl
    · cases hs
  | raise owner =>
    rw [LockWorld.step] at hs
    split at hs
    · cases hs
      exact h.leave _ rfl
    · cases hs
  | crash owner =>
    cases hs
    exact h.of_holds rfl rfl (holds_leave rfl)
  | wake thread =>
    obtain ⟨state, -, hs⟩ := Option.bind_eq_some_iff.1 hs
    split at hs
    · cases hs
    · cases hs
      exact h.setThread _ _
  | beat thread leased saved =>
    obtain ⟨state, -, hs⟩ := Option.bind_eq_some_iff.1 hs
    split at hs
    · obtain ⟨w₁, hw₁, rfl⟩ := Option.map_eq_some_iff.1 hs
      exact (h.renew hw₁).setThread _ _
    · cases hs
  | beatRaises thread =>
    obtain ⟨state, -, hs⟩ := Option.bind_eq_some_iff.1 hs
    split at hs
    · cases hs
      exact h.setThread _ _
    · cases hs

/-- A heartbeat or a release of a job that the row does not name leaves the row as it is. -/
theorem row_of_not_owner (hs : w.step leaseSeconds e = some w') (hrenewer : w.renewer e = some owner)
    (hother : ∀ row, w.row = some row → row.currentOwner ≠ owner.text) : w'.row = w.row := by
  cases e with
  | release u now =>
    cases hrenewer
    rw [LockWorld.step] at hs
    split at hs
    · obtain ⟨w₁, hw₁, rfl⟩ := Option.map_eq_some_iff.1 hs
      obtain ⟨row, hrow, hw₁⟩ := Option.bind_eq_some_iff.1 hw₁
      cases hw₁
      rw [row_goto, if_neg (hother row hrow), hrow]
    · cases hs
  | beat thread leased saved =>
    obtain ⟨state, hstate, rfl⟩ := Option.map_eq_some_iff.1 hrenewer
    obtain ⟨state', hstate', hs⟩ := Option.bind_eq_some_iff.1 hs
    obtain rfl := Option.some.inj (hstate.symm.trans hstate')
    split at hs
    · obtain ⟨w₁, hw₁, rfl⟩ := Option.map_eq_some_iff.1 hs
      obtain ⟨row, hrow, hw₁⟩ := Option.bind_eq_some_iff.1 hw₁
      rw [if_neg (hother row hrow)] at hw₁
      cases hw₁
      rfl
    · cases hs
  | _ => cases hrenewer

theorem recorded_initial : initial.Recorded := by
  intro owner h
  cases h

/-- One worker is in at a time. -/
theorem inside_unique (leaseSeconds : Int) {es : List LockEvent}
    (h : exec (step leaseSeconds) initial es = some w)
    (hok : Along (step leaseSeconds) Timely initial es) (u v : LockOwner)
    (hu : (w.phase u).isInside = true) (hv : (w.phase v).isInside = true) : u = v := by
  have hrec : w.Recorded :=
    exec_invariant (fun _ _ _ hI hok hs => hI.step hok hs) recorded_initial hok h
  have hholds : ∀ u, (w.phase u).isInside = true → (w.phase u).holds = true := by
    intro u hu
    cases hp : w.phase u with
    | inside thread => rfl
    | _ =>
      rw [hp] at hu
      cases hu
  exact hrec.unique (hholds u hu) (hholds v hv)

/-- The lease lock lets one worker in at a time, and only the recorded owner changes the row that it
holds it by. -/
theorem lock_exclusive (leaseSeconds : Int) (es : List LockEvent)
    (h : exec (step leaseSeconds) initial es = some w) :
    (Along (step leaseSeconds) Timely initial es →
      ∀ u v, (w.phase u).isInside = true → (w.phase v).isInside = true → u = v) ∧
    ∀ e owner w', w.step leaseSeconds e = some w' → w.renewer e = some owner →
      (∀ row, w.row = some row → row.currentOwner ≠ owner.text) → w'.row = w.row := by
  constructor
  · intro hok u v hu hv
    exact inside_unique leaseSeconds h hok u v hu hv
  · intro e owner w' hs hrenewer hother
    exact row_of_not_owner hs hrenewer hother

/-- One worker is in the block while another one asks for the lock and has to wait. -/
def lockContended : List LockEvent :=
  [.enter (.job 1), .ensureRow (.job 1) 0, .ask (.job 1) ⟨0, 0, 0, 0⟩, .startThread (.job 1) true,
    .enter (.job 2), .ensureRow (.job 2) 0, .ask (.job 2) ⟨1, 1, 1, 1⟩]

theorem timely_lockContended : Along (step 300) Timely initial lockContended := by
  refine ⟨trivial, trivial, ?_, trivial, trivial, trivial, ?_, trivial⟩
  · intro holder hne hholds
    simp [initial, hne, LockPhase.holds] at hholds
  · intro holder hne hholds
    by_cases h1 : holder = .job 1
    · subst h1
      decide
    · simp [initial, setThread, hne, h1, LockPhase.holds] at hholds

theorem lock_exclusive_contended : ∃ w, exec (step 300) initial lockContended = some w ∧
    (∀ u v, (w.phase u).isInside = true → (w.phase v).isInside = true → u = v) ∧
    ∀ e owner w', w.step 300 e = some w' → w.renewer e = some owner →
      (∀ row, w.row = some row → row.currentOwner ≠ owner.text) → w'.row = w.row := by
  obtain ⟨w, hw⟩ : ∃ w, exec (step 300) initial lockContended = some w := ⟨_, rfl⟩
  exact ⟨w, hw, (lock_exclusive 300 lockContended hw).1 timely_lockContended,
    (lock_exclusive 300 lockContended hw).2⟩

end LockWorld

end GetOffline
