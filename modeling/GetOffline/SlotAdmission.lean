import GetOffline.SlotRefinement
import GetOffline.SlotScheduler

set_option autoImplicit true

namespace GetOffline
open Execution

namespace Ledger

/-- The requests after a call, which read the clock if it took effect. -/
noncomputable def after [LT T] [DecidableLT T] [Add T] [DecidableEq L] (capacity : Int)
    (call : SlotCall L T) (m : Ledger L T) : Option (Clock T) → Ledger L T
  | some clock => m.next capacity clock call
  | none => m

section
variable [LT T] [DecidableLT T] [Add T] [DecidableEq L]

theorem ncard_running_after {m : Ledger L T} {capacity : Int} (hf : m.running.Finite)
    (h : (m.running.ncard : Int) ≤ capacity) (call : SlotCall L T) (clock : Option (Clock T)) :
    ((m.after capacity call clock).running.ncard : Int) ≤ capacity := by
  cases clock with
  | none => exact h
  | some clock => exact ncard_running_next hf h clock call

/-- A running row outlives the calls of other leases that do not read the clock past its expiry. -/
theorem running_after_other {m : Ledger L T} (hr : m l = some r) (hs : r.status = .running)
    {clock : Option (Clock T)} (ht : ∀ c ∈ clock, c.purge < r.expiresAt) {call : SlotCall L T}
    (hl : call.lease ≠ some l) (capacity : Int) : l ∈ (m.after capacity call clock).running := by
  cases clock with
  | none => exact ⟨r, hr, hs⟩
  | some clock =>
    refine ⟨r, ?_, hs⟩
    exact (next_other hl).trans (live_eq_some.2 ⟨hr, ht clock rfl⟩)

theorem running_after_heartbeat {m : Ledger L T} (hr : m l = some r) (hs : r.status = .running)
    {clock : Option (Clock T)} (ht : ∀ c ∈ clock, c.purge < r.expiresAt) (capacity : Int)
    (leaseSeconds : T) :
    l ∈ (m.after capacity (.heartbeat l leaseSeconds) clock).running := by
  cases clock with
  | none => exact ⟨r, hr, hs⟩
  | some clock =>
    have hlive := live_eq_some.2 ⟨hr, ht clock rfl⟩
    exact ⟨_, next_heartbeat hlive hs capacity leaseSeconds, hs⟩

end

end Ledger

namespace SlotRun

variable {run run' : SlotRun W T}

theorem wake_cases (h : run.wake = some run') :
    run'.worker = run.worker ∧ run'.phase.holding = false := by
  simp only [wake] at h
  split at h
  · cases h
    exact ⟨rfl, rfl⟩
  · cases h

theorem startThread_cases (h : run.startThread started = some run') :
    run'.worker = run.worker ∧ run.phase.holding = true := by
  simp only [startThread] at h
  split at h
  · rename_i hphase
    cases h
    refine ⟨by cases started <;> rfl, ?_⟩
    rw [hphase]
    rfl
  · cases h

theorem handlerExit_cases (h : run.handlerExit = some run') :
    run'.worker = run.worker ∧ run'.phase.holding = false := by
  simp only [handlerExit] at h
  split at h
  · cases h
    exact ⟨rfl, rfl⟩
  · cases h

theorem heartbeatWait_cases (h : run.heartbeatWait = some run') :
    run'.worker = run.worker ∧ run'.phase = run.phase := by
  simp only [heartbeatWait] at h
  split at h
  · cases h
    exact ⟨rfl, rfl⟩
  · cases h

theorem pendingHeartbeat_cases (h : run.pendingHeartbeat l = some call) :
    call = .heartbeat l run.leaseSeconds := by
  simp only [pendingHeartbeat] at h
  split at h
  · cases h
    rfl
  · cases h

theorem pendingCall_lease (h : run.pendingCall l = some call) : call.lease = some l := by
  simp only [pendingCall] at h
  split at h <;> cases h <;> rfl

theorem resumed_worker (answer : Option SlotAnswer) (run : SlotRun W T) :
    (run.resumed answer).worker = run.worker := by
  cases answer <;> rfl

/-- Only a granted `acquire` takes a run into the phases in which it holds its lease. -/
theorem resumed_holding (h : run.pendingCall l = some call)
    (hh : (run.resumed reply).phase.holding = true) :
    call = .acquire run.jobType l run.leaseSeconds ∧
      ∃ answer, reply = some answer ∧ answer.ok = some true := by
  simp only [pendingCall] at h
  cases reply with
  | none =>
    change run.phase.raised.holding = true at hh
    cases hphase : run.phase <;> rw [hphase] at hh <;> cases hh
  | some answer =>
    change (run.phase.returned answer).holding = true at hh
    cases hphase : run.phase <;> rw [hphase] at h hh
    case acquire =>
      cases h
      refine ⟨rfl, answer, rfl, ?_⟩
      by_contra hok
      simp only [RunPhase.returned, if_neg hok] at hh
      cases hh
    all_goals cases hh

end SlotRun

namespace SlotWorld

variable [LinearOrder T] [Add T] [DecidableEq L] [DecidableEq W] {w w' : SlotWorld W L T}

omit [DecidableEq W] in
theorem ledger_callBackend (capacity : Nat) (call : SlotCall L T) (outcome : CallOutcome T)
    (t : Table L (CpuSlotRequest T)) :
    ledger (callBackend capacity call outcome t).1 =
      (ledger t).after capacity call outcome.clock := by
  cases outcome with
  | returned clock => exact DatabaseSlotBackend.ledger_call capacity clock call t
  | rolledBack => rfl
  | lost clock => exact DatabaseSlotBackend.ledger_call capacity clock call t

omit [DecidableEq W] in
/-- A caller that is told of a grant has been granted its slot. -/
theorem callBackend_granted {capacity : Nat} {outcome : CallOutcome T}
    {t : Table L (CpuSlotRequest T)}
    (h : (callBackend capacity (.acquire jobType l leaseSeconds) outcome t).2 = some answer)
    (hok : answer.ok = some true) :
    l ∈ (ledger (callBackend capacity (.acquire jobType l leaseSeconds) outcome t).1).running := by
  cases outcome with
  | returned clock =>
    have hanswer : some ((ledger t).answer capacity clock (.acquire jobType l leaseSeconds)) =
        some answer := by
      rw [← DatabaseSlotBackend.answer_call]
      exact h
    rw [← Option.some.inj hanswer] at hok
    have hadm := Ledger.granted_iff.1 hok
    rw [ledger_callBackend]
    exact ⟨_, Ledger.next_acquire hadm leaseSeconds, rfl⟩
  | rolledBack => cases h
  | lost clock => cases h

/-- What a step can do to the rows and to the runs. -/
inductive Effect (capacity : Nat) (w : SlotWorld W L T) (e : SlotEvent W L T) :
    SlotWorld W L T → Prop
  | started {l : L} (h : w.runs.lookup l = none) :
      Effect capacity w e
        { w with runs := AList.insert l (SlotRun.start worker jobType leaseSeconds) w.runs }
  | moved {l : L} {run run' : SlotRun W T} (h : w.liveRun l = some run)
      (hworker : run'.worker = run.worker)
      (hholding : run'.phase.holding = true → run.phase.holding = true) :
      Effect capacity w e { w with runs := AList.insert l run' w.runs }
  | called {l : L} {run run' : SlotRun W T} {call : SlotCall L T} {outcome : CallOutcome T}
      (h : w.liveRun l = some run) (hworker : run'.worker = run.worker)
      (hlease : call.lease = some l) (hclock : outcome.clock = e.clock)
      (hholding : run'.phase.holding = true →
        run.phase.holding = true ∧ call = .heartbeat l run.leaseSeconds ∨
          l ∈ (ledger (callBackend capacity call outcome w.requests).1).running) :
      Effect capacity w e
        { w with
          requests := (callBackend capacity call outcome w.requests).1
          runs := AList.insert l run' w.runs }
  | crashed : Effect capacity w e { w with crashed := worker :: w.crashed }

theorem move_effect {f : SlotRun W T → Option (SlotRun W T)} {capacity : Nat} {e : SlotEvent W L T}
    (h : w.move l f = some w')
    (hf : ∀ run run', f run = some run' → run'.worker = run.worker ∧
      (run'.phase.holding = true → run.phase.holding = true)) : w.Effect capacity e w' := by
  obtain ⟨run, hrun, h⟩ := Option.bind_eq_some_iff.1 h
  obtain ⟨run', hrun', h⟩ := Option.bind_eq_some_iff.1 h
  cases h
  obtain ⟨hworker, hholding⟩ := hf run run' hrun'
  exact .moved hrun hworker hholding

theorem callFor_effect {pending : SlotRun W T → Option (SlotCall L T)}
    {resume : Option SlotAnswer → SlotRun W T → SlotRun W T} {capacity : Nat} {e : SlotEvent W L T}
    (h : w.callFor capacity l pending resume outcome = some w') (hclock : outcome.clock = e.clock)
    (hresume : ∀ reply run, (resume reply run).worker = run.worker)
    (hpending : ∀ run call, pending run = some call → call.lease = some l ∧
      ((resume (callBackend capacity call outcome w.requests).2 run).phase.holding = true →
        run.phase.holding = true ∧ call = .heartbeat l run.leaseSeconds ∨
          l ∈ (ledger (callBackend capacity call outcome w.requests).1).running)) :
    w.Effect capacity e w' := by
  obtain ⟨run, hrun, h⟩ := Option.bind_eq_some_iff.1 h
  obtain ⟨call, hcall, h⟩ := Option.bind_eq_some_iff.1 h
  cases h
  obtain ⟨hlease, hholding⟩ := hpending run call hcall
  exact .called hrun (hresume _ run) hlease hclock hholding

theorem step_effect {capacity : Nat} {e : SlotEvent W L T} (h : w.step capacity e = some w') :
    w.Effect capacity e w' := by
  cases e with
  | run worker leaseId jobType leaseSeconds =>
    simp only [step] at h
    split at h
    · rename_i hfree
      cases h
      exact .started hfree.2
    · cases h
  | backend leaseId outcome =>
    refine callFor_effect h rfl SlotRun.resumed_worker fun run call hcall => ?_
    refine ⟨SlotRun.pendingCall_lease hcall, fun hholding => ?_⟩
    obtain ⟨rfl, answer, hanswer, hok⟩ := SlotRun.resumed_holding hcall hholding
    exact .inr (callBackend_granted hanswer hok)
  | wake leaseId =>
    refine move_effect h fun run run' hf => ?_
    obtain ⟨hworker, hphase⟩ := SlotRun.wake_cases hf
    exact ⟨hworker, fun hh => absurd (hphase.symm.trans hh) (by decide)⟩
  | startThread leaseId started =>
    refine move_effect h fun run run' hf => ?_
    obtain ⟨hworker, hphase⟩ := SlotRun.startThread_cases hf
    exact ⟨hworker, fun _ => hphase⟩
  | handlerExit leaseId =>
    refine move_effect h fun run run' hf => ?_
    obtain ⟨hworker, hphase⟩ := SlotRun.handlerExit_cases hf
    exact ⟨hworker, fun hh => absurd (hphase.symm.trans hh) (by decide)⟩
  | heartbeatWait leaseId =>
    refine move_effect h fun run run' hf => ?_
    obtain ⟨hworker, hphase⟩ := SlotRun.heartbeatWait_cases hf
    exact ⟨hworker, fun hh => hphase ▸ hh⟩
  | heartbeat leaseId outcome =>
    refine callFor_effect h rfl (fun _ _ => rfl) fun run call hcall => ?_
    obtain rfl := SlotRun.pendingHeartbeat_cases hcall
    exact ⟨rfl, fun hh => .inl ⟨hh, rfl⟩⟩
  | crash worker =>
    cases h
    exact .crashed

/-- No more slots are taken than there are. -/
def Bounded (capacity : Nat) (w : SlotWorld W L T) : Prop :=
  (ledger w.requests).running.ncard ≤ capacity

/-- Every live run that has been granted its lease, and whose handler has not ended, owns a
running row. -/
def Held (w : SlotWorld W L T) : Prop :=
  ∀ l run, w.runs.lookup l = some run → run.phase.holding = true → run.worker ∉ w.crashed →
    w.Owns l

omit [LinearOrder T] [Add T] [DecidableEq W] in
theorem bounded_iff {capacity : Nat} :
    w.Bounded capacity ↔ (w.requests.count fun _ r => r.status = .running) ≤ capacity := by
  rw [DatabaseSlotBackend.inUse_ledger, Bounded]

omit [LinearOrder T] [Add T] [DecidableEq W] in
theorem bounded_initial (capacity : Nat) : Bounded capacity (initial : SlotWorld W L T) := by
  have hempty : (ledger (∅ : Table L (CpuSlotRequest T))).running = ∅ := by
    rw [Set.eq_empty_iff_forall_notMem]
    rintro l ⟨r, hr, -⟩
    cases hr
  change (ledger (∅ : Table L (CpuSlotRequest T))).running.ncard ≤ capacity
  rw [hempty, Set.ncard_empty]
  exact Nat.zero_le _

theorem bounded_step {capacity : Nat} {e : SlotEvent W L T} (hw : w.Bounded capacity)
    (h : w.step capacity e = some w') : w'.Bounded capacity := by
  cases step_effect h with
  | started h => exact hw
  | moved h hworker hholding => exact hw
  | @called _ _ _ call outcome =>
    have hn := Ledger.ncard_running_after (finite_leases w.requests) (Int.ofNat_le.2 hw) call
      outcome.clock
    rw [← ledger_callBackend] at hn
    exact Int.ofNat_le.1 hn
  | crashed => exact hw

omit [LinearOrder T] [Add T] [DecidableEq W] in
theorem held_initial : Held (initial : SlotWorld W L T) := by
  rintro l run hl
  cases hl

omit [LinearOrder T] [Add T] in
theorem lookup_of_liveRun (h : w.liveRun l = some run) :
    w.runs.lookup l = some run ∧ run.worker ∉ w.crashed := by
  obtain ⟨hl, hc⟩ := Option.filter_eq_some_iff.1 h
  exact ⟨hl, of_decide_eq_true hc⟩

omit [LinearOrder T] [Add T] in
theorem mem_runsIn {covers : RunPhase → Bool} : l ∈ w.runsIn covers ↔
      ∃ run, w.runs.lookup l = some run ∧ covers run.phase = true ∧ run.worker ∉ w.crashed := by
  simp only [runsIn, Table.mem_keysWhere, Bool.and_eq_true, decide_eq_true_eq]

theorem held_step {capacity : Nat} {e : SlotEvent W L T} (hw : w.Held)
    (ht : w.Timely RunPhase.holding e) (h : w.step capacity e = some w') : w'.Held := by
  -- Every row that a live run holds is there and not at its expiry.
  have hrow : ∀ l run, w.runs.lookup l = some run → run.phase.holding = true →
      run.worker ∉ w.crashed → ∃ r, ledger w.requests l = some r ∧ r.status = .running ∧
        ∀ c ∈ e.clock, c.purge < r.expiresAt := by
    intro l run hl hh hc
    obtain ⟨r, hr, hs⟩ := hw l run hl hh hc
    exact ⟨r, hr, hs, fun c hec => (ht c hec l (mem_runsIn.2 ⟨run, hl, hh, hc⟩) r hr).1⟩
  cases step_effect h with
  | @started _ _ _ k hk =>
    intro l run hl hh hc
    by_cases hlk : l = k
    · subst l
      rw [AList.lookup_insert] at hl
      cases hl
      cases hh
    · rw [AList.lookup_insert_ne hlk] at hl
      exact hw l run hl hh hc
  | @moved k run _ hk hworker hholding =>
    intro l run' hl hh hc
    by_cases hlk : l = k
    · subst l
      rw [AList.lookup_insert] at hl
      cases hl
      obtain ⟨hrun, hcrash⟩ := lookup_of_liveRun hk
      exact hw k run hrun (hholding hh) hcrash
    · rw [AList.lookup_insert_ne hlk] at hl
      exact hw l run' hl hh hc
  | @called k run _ call outcome hk hworker hlease hclock hholding =>
    intro l run' hl hh hc
    change l ∈ (ledger (callBackend capacity call outcome w.requests).1).running
    by_cases hlk : l = k
    · subst l
      rw [AList.lookup_insert] at hl
      cases hl
      rcases hholding hh with ⟨hphase, hbeat⟩ | hrunning
      · obtain ⟨hrun, hcrash⟩ := lookup_of_liveRun hk
        obtain ⟨r, hr, hs, hlive⟩ := hrow k run hrun hphase hcrash
        rw [ledger_callBackend, hbeat, hclock]
        exact Ledger.running_after_heartbeat hr hs hlive capacity _
      · exact hrunning
    · rw [AList.lookup_insert_ne hlk] at hl
      obtain ⟨r, hr, hs, hlive⟩ := hrow l run' hl hh hc
      rw [ledger_callBackend, hclock]
      refine Ledger.running_after_other hr hs hlive ?_ capacity
      rw [hlease]
      exact fun he => hlk (Option.some.inj he).symm
  | crashed =>
    intro l run hl hh hc
    exact hw l run hl hh fun hm => hc (List.mem_cons_of_mem _ hm)

omit [LinearOrder T] [Add T] in
theorem executing_le (hb : w.Bounded capacity)
    (ho : ∀ l ∈ w.runsIn RunPhase.executing, w.Owns l) :
    (w.runsIn RunPhase.executing).length ≤ capacity := by
  rw [runsIn, Table.length_keysWhere]
  refine le_trans (Table.count_le_count ?_) (bounded_iff.1 hb)
  intro l run hl hp
  rw [Bool.and_eq_true, decide_eq_true_eq] at hp
  obtain ⟨r, hr, hs⟩ := ho l (mem_runsIn.2 ⟨run, hl, hp⟩)
  exact ⟨r, hr, decide_eq_true hs⟩

/-- Executing handlers whose leases are renewed in time own their rows. -/
theorem executing_of_timely {capacity : Nat} {es : List (SlotEvent W L T)}
    (h : exec (step capacity) initial es = some w)
    (ht : Along (step capacity) (Timely RunPhase.holding) initial es) :
    (∀ l ∈ w.runsIn RunPhase.executing, w.Owns l) ∧
      (w.runsIn RunPhase.executing).length ≤ capacity := by
  have hb : w.Bounded capacity :=
    exec_preserves (fun _ _ _ => bounded_step) (bounded_initial capacity) h
  have hheld : w.Held := exec_invariant (fun _ _ _ => held_step) held_initial ht h
  have hown : ∀ l ∈ w.runsIn RunPhase.executing, w.Owns l := by
    intro l hl
    obtain ⟨run, hrun, hexec, hc⟩ := mem_runsIn.1 hl
    refine hheld l run hrun ?_ hc
    rw [RunPhase.holding, Bool.or_eq_true]
    exact .inr hexec
  exact ⟨hown, executing_le hb hown⟩

/-- In every reachable state at most `capacity` rows are running. If no call reads a clock past the
expiry of a lease that has been granted and whose handler has not ended, every executing handler
owns a running row, so that at most `capacity` of them execute. -/
theorem slot_admission (capacity : Nat) (es : List (SlotEvent W L T))
    (h : exec (step capacity) initial es = some w) :
    (w.requests.count fun _ r => r.status = .running) ≤ capacity ∧
      (Along (step capacity) (Timely RunPhase.holding) initial es →
        (∀ l ∈ w.runsIn RunPhase.executing, w.Owns l) ∧
          (w.runsIn RunPhase.executing).length ≤ capacity) := by
  have hb : w.Bounded capacity :=
    exec_preserves (fun _ _ _ => bounded_step) (bounded_initial capacity) h
  exact ⟨bounded_iff.1 hb, executing_of_timely h⟩

/-- Two leases over one slot: the second is granted when the first has been released. -/
def handover : List (SlotEvent Nat Nat Nat) :=
  [.run 0 1 .ffmpeg 120, .backend 1 (.returned ⟨0, 0⟩), .backend 1 (.returned ⟨1, 1⟩),
    .backend 1 (.returned ⟨2, 2⟩), .startThread 1 true, .heartbeatWait 1,
    .heartbeat 1 (.returned ⟨32, 32⟩), .handlerExit 1, .run 1 2 .transcript 120,
    .backend 2 (.returned ⟨60, 60⟩), .backend 1 (.returned ⟨61, 61⟩),
    .backend 2 (.returned ⟨62, 62⟩), .backend 2 (.returned ⟨63, 63⟩), .startThread 2 true]

theorem slot_admission_handover : ∃ w, exec (step 1) initial handover = some w ∧
    (w.requests.count fun _ r => r.status = .running) ≤ 1 ∧
      (∀ l ∈ w.runsIn RunPhase.executing, w.Owns l) ∧
        (w.runsIn RunPhase.executing).length ≤ 1 := by
  obtain ⟨w, hw⟩ := Option.isSome_iff_exists.1
    (by decide : (exec (step 1) initial handover).isSome = true)
  obtain ⟨hrunning, hexecuting⟩ := slot_admission 1 handover hw
  exact ⟨w, hw, hrunning, hexecuting (by decide)⟩

/-- The first lease runs out between its grant and the start of its handler. -/
def stalledGrant : List (SlotEvent Nat Nat Nat) :=
  [.run 0 1 .ffmpeg 120, .backend 1 (.returned ⟨0, 0⟩), .backend 1 (.returned ⟨1, 1⟩),
    .backend 1 (.returned ⟨2, 2⟩), .run 1 2 .ffmpeg 120, .backend 2 (.returned ⟨122, 122⟩),
    .backend 2 (.returned ⟨123, 123⟩), .backend 2 (.returned ⟨124, 124⟩), .startThread 2 true,
    .startThread 1 true]

/-- Heartbeats that are timely for the executing handlers alone do not keep the capacity. -/
theorem executing_exceeds_capacity : ¬ ∀ (es : List (SlotEvent Nat Nat Nat)) w,
    exec (step 1) initial es = some w → Along (step 1) (Timely RunPhase.executing) initial es →
      (w.runsIn RunPhase.executing).length ≤ 1 := by
  intro h
  obtain ⟨w, hw⟩ := Option.isSome_iff_exists.1
    (by decide : (exec (step 1) initial stalledGrant).isSome = true)
  have hle := h stalledGrant w hw (by decide)
  have htwo : ((exec (step 1) initial stalledGrant).map fun w =>
      (w.runsIn RunPhase.executing).length) = some 2 := by decide
  rw [hw] at htwo
  rw [Option.map_some, Option.some.injEq] at htwo
  omega

end SlotWorld

end GetOffline
