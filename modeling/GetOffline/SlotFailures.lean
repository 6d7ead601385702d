import GetOffline.SlotAdmission

set_option autoImplicit true

namespace GetOffline
open Execution

namespace Ledger
variable [LT T] [DecidableLT T] [Add T] [DecidableEq L] {m : Ledger L T}

/-- The calls of other leases take a row away at most. -/
theorem after_other {call : SlotCall L T} (h : call.lease ≠ some l) {clock : Option (Clock T)}
    (hr : m.after capacity call clock l = some r) : m l = some r := by
  cases clock with
  | none => exact hr
  | some clock =>
    rw [after, next_other h] at hr
    exact (live_eq_some.1 hr).1

/-- A heartbeat makes no row and no change of status. -/
theorem after_heartbeat {clock : Option (Clock T)}
    (hr : m.after capacity (.heartbeat l leaseSeconds) clock l = some r) :
    ∃ r', m l = some r' ∧ r.status = r'.status := by
  cases clock with
  | none => exact ⟨r, hr, rfl⟩
  | some clock =>
    rw [after, next, renew, Function.update_self] at hr
    obtain ⟨r', hr', he⟩ := Option.map_eq_some_iff.1 hr
    refine ⟨r', (live_eq_some.1 hr').1, ?_⟩
    rw [← he]
    split <;> rfl

end Ledger

/-- The lease that a step is about. -/
def SlotEvent.lease : SlotEvent W L T → Option L
  | .run _ leaseId _ _ | .backend leaseId _ | .wake leaseId | .startThread leaseId _
  | .handlerExit leaseId | .heartbeatWait leaseId | .heartbeat leaseId _ => some leaseId
  | .crash _ => none

/-- The phases in which a lease has at most a waiting row. -/
def RunPhase.queued : RunPhase → Bool
  | .waitHeartbeat | .acquire | .sleep | .waitFinished => true
  | _ => false

namespace SlotRun
variable {run run' : SlotRun W T}

theorem wake_eq (h : run.wake = some run') :
    run.phase = .sleep ∧ run' = { run with phase := .waitHeartbeat } := by
  rw [wake] at h
  split at h
  · next hphase => exact ⟨hphase, (Option.some.inj h).symm⟩
  · cases h

theorem startThread_eq (h : run.startThread started = some run') : run.phase = .startThread ∧
    run' = if started then { run with phase := .handler, thread := .waiting }
      else { run with phase := .finished } := by
  rw [startThread] at h
  split at h
  · next hphase => exact ⟨hphase, (Option.some.inj h).symm⟩
  · cases h

theorem handlerExit_eq (h : run.handlerExit = some run') :
    run.phase = .handler ∧ run' = { run with phase := .release, stop := true } := by
  rw [handlerExit] at h
  split at h
  · next hphase => exact ⟨hphase, (Option.some.inj h).symm⟩
  · cases h

theorem heartbeatWait_eq (h : run.heartbeatWait = some run') : run.thread = .waiting ∧
    run' = { run with thread := if run.stop then .ended else .calling } := by
  rw [heartbeatWait] at h
  split at h
  · next hthread => exact ⟨hthread, (Option.some.inj h).symm⟩
  · cases h

theorem resumed_stop (answer : Option SlotAnswer) (run : SlotRun W T) :
    (run.resumed answer).stop = run.stop := by
  cases answer <;> rfl

/-- The release is the last step of a run. -/
theorem resumed_finished (hphase : run.phase = .release) (answer : Option SlotAnswer) :
    (run.resumed answer).phase = .finished := by
  cases answer with
  | none =>
    change run.phase.raised = _
    rw [hphase]
    rfl
  | some answer =>
    change run.phase.returned answer = _
    rw [hphase]
    rfl

theorem pendingHeartbeat_eq (h : run.pendingHeartbeat l = some call) :
    run.thread = .calling ∧ call = .heartbeat l run.leaseSeconds := by
  rw [pendingHeartbeat] at h
  split at h
  · next hthread => exact ⟨hthread, (Option.some.inj h).symm⟩
  · cases h

end SlotRun

namespace SlotWorld
variable [LinearOrder T] [Add T] [DecidableEq L] [DecidableEq W] {w w' : SlotWorld W L T}

omit [LinearOrder T] [Add T] in
theorem move_elsewhere {f : SlotRun W T → Option (SlotRun W T)} (h : w.move k f = some w')
    (hk : some k ≠ some l) : w'.runs.lookup l = w.runs.lookup l ∧
      ∀ r, w'.requests.lookup l = some r → w.requests.lookup l = some r := by
  obtain ⟨run, -, h⟩ := Option.bind_eq_some_iff.1 h
  obtain ⟨run', -, h⟩ := Option.bind_eq_some_iff.1 h
  cases h
  exact ⟨AList.lookup_insert_ne fun hl => hk (congrArg some hl.symm), fun _ hr => hr⟩

theorem callFor_elsewhere {pending : SlotRun W T → Option (SlotCall L T)}
    {resume : Option SlotAnswer → SlotRun W T → SlotRun W T}
    (h : w.callFor capacity k pending resume outcome = some w')
    (hlease : ∀ run call, pending run = some call → call.lease = some k) (hk : some k ≠ some l) :
    w'.runs.lookup l = w.runs.lookup l ∧
      ∀ r, w'.requests.lookup l = some r → w.requests.lookup l = some r := by
  obtain ⟨run, -, h⟩ := Option.bind_eq_some_iff.1 h
  obtain ⟨call, hcall, h⟩ := Option.bind_eq_some_iff.1 h
  cases h
  refine ⟨AList.lookup_insert_ne fun hl => hk (congrArg some hl.symm), ?_⟩
  intro r hr
  have hother : call.lease ≠ some l := by
    rw [hlease run call hcall]
    exact hk
  have hledger := congrFun (ledger_callBackend capacity call outcome w.requests) l
  have hrow : ledger w.requests l = some r := Ledger.after_other hother (hledger.symm.trans hr)
  exact hrow

/-- A step of another lease leaves a lease its run, and takes its row away at most. -/
theorem step_elsewhere {capacity : Nat} {e : SlotEvent W L T} (h : w.step capacity e = some w')
    (he : e.lease ≠ some l) : w'.runs.lookup l = w.runs.lookup l ∧
      ∀ r, w'.requests.lookup l = some r → w.requests.lookup l = some r := by
  cases e with
  | run worker k jobType leaseSeconds =>
    rw [step] at h
    split at h
    · cases h
      exact ⟨AList.lookup_insert_ne fun hl => he (congrArg some hl.symm), fun _ hr => hr⟩
    · cases h
  | backend k outcome =>
    exact callFor_elsewhere h (fun _ _ hcall => SlotRun.pendingCall_lease hcall) he
  | wake k => exact move_elsewhere h he
  | startThread k started => exact move_elsewhere h he
  | handlerExit k => exact move_elsewhere h he
  | heartbeatWait k => exact move_elsewhere h he
  | heartbeat k outcome =>
    apply callFor_elsewhere h _ he
    intro run call hcall
    rw [SlotRun.pendingHeartbeat_cases hcall]
    rfl
  | crash worker =>
    cases h
    exact ⟨rfl, fun _ hr => hr⟩

omit [LinearOrder T] [Add T] in
/-- What a move or a call of its own does to a lease. -/
theorem move_own {f : SlotRun W T → Option (SlotRun W T)} (h : w.move l f = some w') :
    ∃ run run', w.liveRun l = some run ∧ f run = some run' ∧ w'.runs.lookup l = some run' ∧
      w'.requests = w.requests := by
  obtain ⟨run, hrun, h⟩ := Option.bind_eq_some_iff.1 h
  obtain ⟨run', hrun', h⟩ := Option.bind_eq_some_iff.1 h
  cases h
  exact ⟨run, run', hrun, hrun', AList.lookup_insert _, rfl⟩

theorem callFor_own {pending : SlotRun W T → Option (SlotCall L T)}
    {resume : Option SlotAnswer → SlotRun W T → SlotRun W T}
    (h : w.callFor capacity l pending resume outcome = some w') :
    ∃ run call, w.liveRun l = some run ∧ pending run = some call ∧
      w'.runs.lookup l = some (resume (callBackend capacity call outcome w.requests).2 run) ∧
      w'.requests.lookup l = (ledger w.requests).after capacity call outcome.clock l := by
  obtain ⟨run, hrun, h⟩ := Option.bind_eq_some_iff.1 h
  obtain ⟨call, hcall, h⟩ := Option.bind_eq_some_iff.1 h
  cases h
  exact ⟨run, call, hrun, hcall, AList.lookup_insert _,
    congrFun (ledger_callBackend capacity call outcome w.requests) l⟩

/-- The row that a lease can have in the phase of its run: before it asks for a slot it has none, and
while it waits for one it has at most a waiting row. -/
structure Phased (l : L) (w : SlotWorld W L T) : Prop where
  unstarted : w.runs.lookup l = none → w.requests.lookup l = none
  before : ∀ run, w.runs.lookup l = some run → run.phase = .waitStarted →
    w.requests.lookup l = none
  queued : ∀ run r, w.runs.lookup l = some run → run.phase.queued = true →
    w.requests.lookup l = some r → r.status = .waiting
  stopped : ∀ run, w.runs.lookup l = some run → run.stop = true →
    run.phase = .release ∨ run.phase = .finished

/-- A finished run has left no row, and an executing one goes on with its heartbeats. -/
structure Accounted (l : L) (w : SlotWorld W L T) : Prop where
  removed : ∀ run, w.runs.lookup l = some run → run.phase = .finished → w.requests.lookup l = none
  renewing : ∀ run, w.runs.lookup l = some run → run.phase = .handler →
    run.thread = .waiting ∨ run.thread = .calling

/-- A call for the lease that raises has left the table unchanged, and its cleanup calls do not
raise. -/
def Clean (l : L) (w : SlotWorld W L T) : SlotEvent W L T → Prop
  | .backend k outcome => k = l → (∀ clock, outcome ≠ .lost clock) ∧
      ∀ run, w.liveRun l = some run → run.phase = .waitFinished ∨ run.phase = .release →
        outcome ≠ .rolledBack
  | .heartbeat k outcome => k = l → ∀ clock, outcome ≠ .lost clock
  | _ => True

/-- The thread of a lease that has a row gets started, and no heartbeat raises during its handler. -/
def Careful (l : L) (w : SlotWorld W L T) : SlotEvent W L T → Prop
  | .startThread k started => k = l → started = false →
      ∀ run, w.liveRun l = some run → run.phase = .startThread → w.requests.lookup l = none
  | .heartbeat k outcome => k = l → outcome = .rolledBack →
      ∀ run, w.liveRun l = some run → run.thread = .calling → run.phase ≠ .handler
  | _ => True

theorem reply_returned (capacity : Nat) (call : SlotCall L T) (clock : Clock T)
    (t : Table L (CpuSlotRequest T)) : (callBackend capacity call (.returned clock) t).2 =
      some ((ledger t).answer capacity clock call) :=
  congrArg some (DatabaseSlotBackend.answer_call capacity clock call t)

/-- The row that a run in the given phase may leave behind. -/
def RowFits (phase : RunPhase) (row : Option (CpuSlotRequest T)) : Prop :=
  (phase = .waitStarted → row = none) ∧
    (phase.queued = true → ∀ r, row = some r → r.status = .waiting)

omit [LinearOrder T] [Add T] in
theorem rowFits_other {phase : RunPhase} (hstart : phase ≠ .waitStarted)
    (hqueued : phase.queued = false) (row : Option (CpuSlotRequest T)) : RowFits phase row := by
  refine ⟨fun h => (hstart h).elim, fun h => ?_⟩
  rw [hqueued] at h
  cases h

omit [LinearOrder T] [Add T] in
theorem rowFits_queued {phase : RunPhase} (hstart : phase ≠ .waitStarted)
    {row : Option (CpuSlotRequest T)} (h : ∀ r, row = some r → r.status = .waiting) :
    RowFits phase row :=
  ⟨fun hp => (hstart hp).elim, fun _ => h⟩

omit [DecidableEq W] in
/-- What its own calls leave of the row of a lease: a run that they end has none. -/
theorem backend_row (capacity : Nat) {run : SlotRun W T} {t : Table L (CpuSlotRequest T)}
    (hcall : run.pendingCall l = some call) (hfits : RowFits run.phase (ledger t l))
    (hlost : ∀ clock, outcome ≠ .lost clock)
    (hcleanup : run.phase = .waitFinished ∨ run.phase = .release → outcome ≠ .rolledBack)
    {run' : SlotRun W T} (hrun' : run' = run.resumed (callBackend capacity call outcome t).2) :
    RowFits run'.phase ((ledger t).after capacity call outcome.clock l) ∧ run'.phase ≠ .handler ∧
      (run'.phase = .finished → (ledger t).after capacity call outcome.clock l = none) := by
  subst run'
  cases outcome with
  | lost clock => exact (hlost clock rfl).elim
  | rolledBack =>
    change RowFits run.phase.raised (ledger t l) ∧ run.phase.raised ≠ .handler ∧
      (run.phase.raised = .finished → ledger t l = none)
    rw [SlotRun.pendingCall] at hcall
    cases hphase : run.phase <;> rw [hphase] at hcall hfits
    case waitStarted =>
      exact ⟨rowFits_other (by decide) rfl _, by decide, fun _ => hfits.1 rfl⟩
    case waitHeartbeat => exact ⟨rowFits_queued (by decide) (hfits.2 rfl), by decide, fun h => by cases h⟩
    case acquire => exact ⟨rowFits_queued (by decide) (hfits.2 rfl), by decide, fun h => by cases h⟩
    case waitFinished => exact (hcleanup (.inl hphase) rfl).elim
    case release => exact (hcleanup (.inr hphase) rfl).elim
    all_goals cases hcall
  | returned clock =>
    rw [reply_returned]
    change RowFits (run.phase.returned _) ((ledger t).next capacity clock call l) ∧
      run.phase.returned _ ≠ .handler ∧
      (run.phase.returned _ = .finished → (ledger t).next capacity clock call l = none)
    have hlive : ∀ r, (ledger t).live clock.purge l = some r → ledger t l = some r :=
      fun r hr => (Ledger.live_eq_some.1 hr).1
    rw [SlotRun.pendingCall] at hcall
    cases hphase : run.phase <;> rw [hphase] at hcall hfits
    case waitStarted =>
      cases hcall
      dsimp only [RunPhase.returned]
      refine ⟨rowFits_queued (by decide) ?_, by decide, fun h => by cases h⟩
      intro r hr
      rw [Ledger.next, Function.update_self] at hr
      cases hr
      rfl
    case waitHeartbeat =>
      cases hcall
      dsimp only [RunPhase.returned]
      refine ⟨rowFits_queued (by decide) ?_, by decide, fun h => by cases h⟩
      intro r hr
      rw [Ledger.next, Ledger.renew, Function.update_self] at hr
      obtain ⟨r', hr', rfl⟩ := Option.map_eq_some_iff.1 hr
      have hwaiting := hfits.2 rfl r' (hlive r' hr')
      rw [if_pos hwaiting]
      exact hwaiting
    case acquire =>
      cases hcall
      by_cases hadm : Ledger.Admits capacity run.jobType l ((ledger t).live clock.purge)
      · rw [RunPhase.returned, if_pos (Ledger.granted_iff.2 hadm)]
        exact ⟨rowFits_other (by decide) rfl _, by decide, fun h => by cases h⟩
      · rw [RunPhase.returned, if_neg fun hok => hadm (Ledger.granted_iff.1 hok), Ledger.next,
          if_neg hadm]
        exact ⟨rowFits_queued (by decide) fun r hr => hfits.2 rfl r (hlive r hr), by decide, fun h => by cases h⟩
    case waitFinished =>
      cases hcall
      have hgone : (ledger t).next capacity clock (.waitFinished l) l = none := by
        rw [Ledger.next, Function.update_self, Option.filter_eq_none_iff]
        intro r hr
        have hwaiting := hfits.2 rfl r (hlive r hr)
        exact fun hne => of_decide_eq_true hne hwaiting
      dsimp only [RunPhase.returned]
      exact ⟨rowFits_other (by decide) rfl _, by decide, fun _ => hgone⟩
    case release =>
      cases hcall
      have hgone : (ledger t).next capacity clock (.release l) l = none := Function.update_self ..
      dsimp only [RunPhase.returned]
      exact ⟨rowFits_other (by decide) rfl _, by decide, fun _ => hgone⟩
    all_goals cases hcall

omit [LinearOrder T] [Add T] [DecidableEq W] in
theorem Phased.fits (h : w.Phased l) (hrun : w.runs.lookup l = some run) :
    RowFits run.phase (w.requests.lookup l) :=
  ⟨h.before run hrun, fun hqueued r hr => h.queued run r hrun hqueued hr⟩

omit [LinearOrder T] [Add T] [DecidableEq W] in
theorem phased_of_fits (hrun : w.runs.lookup l = some run)
    (hfits : RowFits run.phase (w.requests.lookup l))
    (hstop : run.stop = true → run.phase = .release ∨ run.phase = .finished) : w.Phased l where
  unstarted := by
    intro hnone
    rw [hrun] at hnone
    cases hnone
  before := by
    intro run' hrun'
    rw [hrun] at hrun'
    cases hrun'
    exact hfits.1
  queued := by
    intro run' r hrun' hqueued hr
    rw [hrun] at hrun'
    cases hrun'
    exact hfits.2 hqueued r hr
  stopped := by
    intro run' hrun'
    rw [hrun] at hrun'
    cases hrun'
    exact hstop

omit [LinearOrder T] [Add T] [DecidableEq W] in
/-- A step of another lease. -/
theorem Phased.elsewhere (h : w.Phased l) (hruns : w'.runs.lookup l = w.runs.lookup l)
    (hrows : ∀ r, w'.requests.lookup l = some r → w.requests.lookup l = some r) : w'.Phased l := by
  have hnone : w.requests.lookup l = none → w'.requests.lookup l = none := by
    intro hw
    cases hr : w'.requests.lookup l with
    | none => rfl
    | some r =>
      rw [hrows r hr] at hw
      cases hw
  constructor
  · intro hl
    exact hnone (h.unstarted (hruns.symm.trans hl))
  · intro run hl hphase
    exact hnone (h.before run (hruns.symm.trans hl) hphase)
  · intro run r hl hqueued hr
    exact h.queued run r (hruns.symm.trans hl) hqueued (hrows r hr)
  · intro run hl
    exact h.stopped run (hruns.symm.trans hl)

theorem Phased.step (h : w.Phased l) (hclean : w.Clean l e) (hs : w.step capacity e = some w') :
    w'.Phased l := by
  by_cases he : e.lease = some l
  · cases e with
    | run worker k jobType leaseSeconds =>
      obtain rfl := Option.some.inj he
      rw [SlotWorld.step] at hs
      split at hs
      · next hfree =>
        cases hs
        apply phased_of_fits (AList.lookup_insert _)
        · exact ⟨fun _ => h.unstarted hfree.2, fun hp => by cases hp⟩
        · intro hstop
          cases hstop
      · cases hs
    | backend k outcome =>
      obtain rfl := Option.some.inj he
      obtain ⟨run, call, hrun, hcall, hrun', hrow'⟩ := callFor_own hs
      obtain ⟨hlost, hcleanup⟩ := hclean rfl
      have hlookup := (lookup_of_liveRun hrun).1
      obtain ⟨hfits, -, -⟩ := backend_row capacity hcall (h.fits hlookup) hlost
        (hcleanup run hrun) rfl
      apply phased_of_fits hrun'
      · rw [hrow']
        exact hfits
      · intro hstop
        rw [SlotRun.resumed_stop] at hstop
        rcases h.stopped run hlookup hstop with hphase | hphase
        · exact .inr (SlotRun.resumed_finished hphase _)
        · rw [SlotRun.pendingCall, hphase] at hcall
          cases hcall
    | wake k =>
      obtain rfl := Option.some.inj he
      obtain ⟨run, run', hrun, hf, hrun', hrow'⟩ := move_own hs
      obtain ⟨hphase, rfl⟩ := SlotRun.wake_eq hf
      have hlookup := (lookup_of_liveRun hrun).1
      have hfits := h.fits hlookup
      rw [hphase] at hfits
      have hfits' : RowFits .waitHeartbeat (w'.requests.lookup k) := by
        rw [hrow']
        exact rowFits_queued (by decide) (hfits.2 rfl)
      apply phased_of_fits hrun' hfits'
      intro hstop
      rcases h.stopped run hlookup hstop with hp | hp
      · rw [hphase] at hp
        cases hp
      · rw [hphase] at hp
        cases hp
    | startThread k started =>
      obtain rfl := Option.some.inj he
      obtain ⟨run, run', hrun, hf, hrun', hrow'⟩ := move_own hs
      obtain ⟨hphase, rfl⟩ := SlotRun.startThread_eq hf
      cases started with
      | true =>
        have hfits : RowFits .handler (w'.requests.lookup k) := rowFits_other (by decide) rfl _
        apply phased_of_fits hrun' hfits
        intro hstop
        rcases h.stopped run (lookup_of_liveRun hrun).1 hstop with hp | hp
        · rw [hphase] at hp
          cases hp
        · rw [hphase] at hp
          cases hp
      | false =>
        have hfits : RowFits .finished (w'.requests.lookup k) := rowFits_other (by decide) rfl _
        exact phased_of_fits hrun' hfits fun _ => .inr rfl
    | handlerExit k =>
      obtain rfl := Option.some.inj he
      obtain ⟨run, run', hrun, hf, hrun', hrow'⟩ := move_own hs
      obtain ⟨hphase, rfl⟩ := SlotRun.handlerExit_eq hf
      have hfits : RowFits .release (w'.requests.lookup k) := rowFits_other (by decide) rfl _
      exact phased_of_fits hrun' hfits fun _ => .inl rfl
    | heartbeatWait k =>
      obtain rfl := Option.some.inj he
      obtain ⟨run, run', hrun, hf, hrun', hrow'⟩ := move_own hs
      obtain ⟨hthread, rfl⟩ := SlotRun.heartbeatWait_eq hf
      have hlookup := (lookup_of_liveRun hrun).1
      have hfits : RowFits run.phase (w'.requests.lookup k) := by
        rw [hrow']
        exact h.fits hlookup
      exact phased_of_fits hrun' hfits (h.stopped run hlookup)
    | heartbeat k outcome =>
      obtain rfl := Option.some.inj he
      obtain ⟨run, call, hrun, hcall, hrun', hrow'⟩ := callFor_own hs
      obtain ⟨hthread, rfl⟩ := SlotRun.pendingHeartbeat_eq hcall
      have hlookup := (lookup_of_liveRun hrun).1
      have hfits : RowFits run.phase (w'.requests.lookup k) := by
        have hold := h.fits hlookup
        rw [hrow']
        refine ⟨fun hphase => ?_, fun hqueued r hr => ?_⟩
        · rw [Option.eq_none_iff_forall_ne_some]
          intro r hr
          obtain ⟨r', hr', -⟩ := Ledger.after_heartbeat hr
          rw [ledger, hold.1 hphase] at hr'
          cases hr'
        · obtain ⟨r', hr', hstatus⟩ := Ledger.after_heartbeat hr
          exact hstatus.trans (hold.2 hqueued r' hr')
      exact phased_of_fits hrun' hfits (h.stopped run hlookup)
    | crash worker => cases he
  · obtain ⟨hruns, hrows⟩ := step_elsewhere hs he
    exact h.elsewhere hruns hrows

omit [LinearOrder T] [Add T] [DecidableEq W] in
theorem accounted_iff (hrun : w.runs.lookup l = some run) : w.Accounted l ↔
    (run.phase = .finished → w.requests.lookup l = none) ∧
      (run.phase = .handler → run.thread = .waiting ∨ run.thread = .calling) := by
  constructor
  · intro h
    exact ⟨h.removed run hrun, h.renewing run hrun⟩
  · rintro ⟨hremoved, hrenewing⟩
    constructor
    · intro run' hrun'
      rw [hrun] at hrun'
      cases hrun'
      exact hremoved
    · intro run' hrun'
      rw [hrun] at hrun'
      cases hrun'
      exact hrenewing

omit [LinearOrder T] [Add T] [DecidableEq W] in
theorem accounted_of_phase (phase : RunPhase) (hrun : w.runs.lookup l = some run)
    (hphase : run.phase = phase) (hfinished : phase ≠ .finished) (hhandler : phase ≠ .handler) :
    w.Accounted l := by
  apply (accounted_iff hrun).2
  rw [hphase]
  exact ⟨fun h => absurd h hfinished, fun h => absurd h hhandler⟩

omit [LinearOrder T] [Add T] [DecidableEq W] in
theorem Accounted.elsewhere (h : w.Accounted l) (hruns : w'.runs.lookup l = w.runs.lookup l)
    (hrows : ∀ r, w'.requests.lookup l = some r → w.requests.lookup l = some r) :
    w'.Accounted l := by
  constructor
  · intro run hl hphase
    have hnone := h.removed run (hruns.symm.trans hl) hphase
    rw [Option.eq_none_iff_forall_ne_some]
    intro r hr
    rw [hrows r hr] at hnone
    cases hnone
  · intro run hl
    exact h.renewing run (hruns.symm.trans hl)

omit [LinearOrder T] [Add T] in
theorem careful_elsewhere {e : SlotEvent W L T} (he : e.lease ≠ some l) : w.Careful l e := by
  cases e with
  | startThread k started => exact fun hk => (he (congrArg some hk)).elim
  | heartbeat k outcome => exact fun hk => (he (congrArg some hk)).elim
  | _ => trivial

/-- A lease stays accounted for exactly by the careful steps. -/
theorem accounted_step (h : w.Phased l) (ha : w.Accounted l) (hclean : w.Clean l e)
    (hs : w.step capacity e = some w') : w'.Accounted l ↔ w.Careful l e := by
  by_cases he : e.lease = some l
  · cases e with
    | run worker k jobType leaseSeconds =>
      obtain rfl := Option.some.inj he
      rw [SlotWorld.step] at hs
      split at hs
      · cases hs
        apply iff_of_true _ trivial
        exact accounted_of_phase .waitStarted (AList.lookup_insert _) rfl (by decide) (by decide)
      · cases hs
    | backend k outcome =>
      obtain rfl := Option.some.inj he
      obtain ⟨run, call, hrun, hcall, hrun', hrow'⟩ := callFor_own hs
      obtain ⟨hlost, hcleanup⟩ := hclean rfl
      obtain ⟨-, hhandler, hgone⟩ := backend_row capacity hcall
        (h.fits (lookup_of_liveRun hrun).1) hlost (hcleanup run hrun) rfl
      refine iff_of_true ((accounted_iff hrun').2 ⟨?_, ?_⟩) trivial
      · rw [hrow']
        exact hgone
      · intro hphase
        exact (hhandler hphase).elim
    | wake k =>
      obtain rfl := Option.some.inj he
      obtain ⟨run, run', hrun, hf, hrun', -⟩ := move_own hs
      obtain ⟨-, rfl⟩ := SlotRun.wake_eq hf
      apply iff_of_true _ trivial
      exact accounted_of_phase .waitHeartbeat hrun' rfl (by decide) (by decide)
    | startThread k started =>
      obtain rfl := Option.some.inj he
      obtain ⟨run, run', hrun, hf, hrun', hrow'⟩ := move_own hs
      obtain ⟨hphase, rfl⟩ := SlotRun.startThread_eq hf
      rw [accounted_iff hrun', hrow']
      cases started with
      | true =>
        refine iff_of_true ⟨?_, fun _ => .inl rfl⟩ ?_
        · intro h
          cases h
        · intro _ h
          cases h
      | false =>
        constructor
        · intro hacc _ _ run₁ _ _
          exact hacc.1 rfl
        · intro hcareful
          refine ⟨fun _ => hcareful rfl rfl run hrun hphase, ?_⟩
          intro h
          cases h
    | handlerExit k =>
      obtain rfl := Option.some.inj he
      obtain ⟨run, run', hrun, hf, hrun', -⟩ := move_own hs
      obtain ⟨-, rfl⟩ := SlotRun.handlerExit_eq hf
      apply iff_of_true _ trivial
      exact accounted_of_phase .release hrun' rfl (by decide) (by decide)
    | heartbeatWait k =>
      obtain rfl := Option.some.inj he
      obtain ⟨run, run', hrun, hf, hrun', hrow'⟩ := move_own hs
      obtain ⟨-, rfl⟩ := SlotRun.heartbeatWait_eq hf
      have hlookup := (lookup_of_liveRun hrun).1
      refine iff_of_true ((accounted_iff hrun').2 ⟨?_, ?_⟩) trivial
      · rw [hrow']
        exact ha.removed run hlookup
      · intro hphase
        have hgo : run.stop = false := by
          by_contra hstop
          rcases h.stopped run hlookup (eq_true_of_ne_false hstop) with hp | hp
          · rw [hp] at hphase
            cases hphase
          · rw [hp] at hphase
            cases hphase
        right
        dsimp only
        rw [hgo]
        rfl
    | heartbeat k outcome =>
      obtain rfl := Option.some.inj he
      obtain ⟨run, call, hrun, hcall, hrun', hrow'⟩ := callFor_own hs
      obtain ⟨hthread, rfl⟩ := SlotRun.pendingHeartbeat_eq hcall
      have hlookup := (lookup_of_liveRun hrun).1
      have hremoved : run.phase = .finished → w'.requests.lookup k = none := by
        intro hphase
        rw [hrow', Option.eq_none_iff_forall_ne_some]
        intro r hr
        obtain ⟨r', hr', -⟩ := Ledger.after_heartbeat hr
        rw [ledger, ha.removed run hlookup hphase] at hr'
        cases hr'
      rw [accounted_iff hrun']
      cases outcome with
      | returned clock =>
        refine iff_of_true ⟨hremoved, fun _ => .inl ?_⟩ ?_
        · rw [reply_returned]
          rfl
        · intro _ h
          cases h
      | rolledBack =>
        constructor
        · intro hacc _ _ run₁ hrun₁ _ hphase
          rw [hrun] at hrun₁
          cases hrun₁
          rcases hacc.2 hphase with hended | hended
          · cases hended
          · cases hended
        · intro hcareful
          exact ⟨hremoved, fun hphase => (hcareful rfl rfl run hrun hthread hphase).elim⟩
      | lost clock => exact (hclean rfl clock rfl).elim
    | crash worker => cases he
  · obtain ⟨hruns, hrows⟩ := step_elsewhere hs he
    exact iff_of_true (ha.elsewhere hruns hrows) (careful_elsewhere he)

/-- A disabled step cannot be careless. -/
theorem careful_of_disabled (hs : w.step capacity e = none) : w.Careful l e := by
  cases e with
  | startThread k started =>
    rintro rfl rfl run hrun hphase
    rw [SlotWorld.step, move, hrun, Option.bind_eq_bind, Option.bind_some, SlotRun.startThread,
      if_pos hphase] at hs
    cases hs
  | heartbeat k outcome =>
    rintro rfl rfl run hrun hthread
    rw [SlotWorld.step, callFor, hrun, Option.bind_eq_bind, Option.bind_some,
      SlotRun.pendingHeartbeat, if_pos hthread] at hs
    cases hs
  | _ => trivial

omit [LinearOrder T] [Add T] [DecidableEq W] in
theorem phased_initial (l : L) : Phased l (initial : SlotWorld W L T) where
  unstarted := fun _ => rfl
  before := fun run h => by cases h
  queued := fun run r h => by cases h
  stopped := fun run h => by cases h

omit [LinearOrder T] [Add T] [DecidableEq W] in
theorem accounted_initial (l : L) : Accounted l (initial : SlotWorld W L T) where
  removed := fun run h => by cases h
  renewing := fun run h => by cases h

/-- Where calls that raise leave the table alone and the cleanup of a lease succeeds: the lease leaves
no row behind and is renewed until its handler ends, exactly in those runs in which its thread gets
started (or its row is gone) and none of its heartbeats raises while its handler executes. The rest
of what renewal is for holds in every run whose heartbeats come in time. -/
theorem slot_accounting_iff (capacity : Nat) (l : L) (es : List (SlotEvent W L T))
    (hclean : Along (step capacity) (Clean l) initial es) :
    ((∀ es₁ es₂ w, es = es₁ ++ es₂ → exec (step capacity) initial es₁ = some w →
        w.Accounted l ∧ (Along (step capacity) (Timely RunPhase.holding) initial es₁ →
          (l ∈ w.runsIn RunPhase.executing → w.Owns l) ∧
            (w.runsIn RunPhase.executing).length ≤ capacity)) ↔
      Along (step capacity) (Careful l) initial es) := by
  have halways := along_iff_always_of (fun _ _ _ h hc hs => Phased.step h hc hs)
    (fun _ _ _ h ha hc hs => accounted_step h ha hc hs) (fun _ _ hs => careful_of_disabled hs)
    (phased_initial l) (accounted_initial l) hclean
  rw [halways]
  constructor
  · intro h es₁ es₂ w hes hw
    exact (h es₁ es₂ w hes hw).1
  · intro h es₁ es₂ w hes hw
    refine ⟨h es₁ es₂ w hes hw, fun ht => ?_⟩
    obtain ⟨hown, hle⟩ := executing_of_timely hw ht
    exact ⟨hown l, hle⟩

/-- A lease that is granted, kept by one heartbeat and released. -/
def servedLease : List (SlotEvent Nat Nat Nat) :=
  [.run 0 1 .ffmpeg 120, .backend 1 (.returned ⟨0, 0⟩), .backend 1 (.returned ⟨1, 1⟩),
    .backend 1 (.returned ⟨2, 2⟩), .startThread 1 true, .heartbeatWait 1,
    .heartbeat 1 (.returned ⟨32, 32⟩), .handlerExit 1, .backend 1 (.returned ⟨40, 40⟩)]

theorem clean_servedLease : Along (step 1) (Clean 1) initial servedLease :=
  ⟨trivial, fun _ => ⟨nofun, fun _ _ _ => nofun⟩, fun _ => ⟨nofun, fun _ _ _ => nofun⟩,
    fun _ => ⟨nofun, fun _ _ _ => nofun⟩, trivial, trivial, fun _ => nofun, trivial,
    fun _ => ⟨nofun, fun _ _ _ => nofun⟩, trivial⟩

theorem slot_accounting_served :
    ((∀ es₁ es₂ w, servedLease = es₁ ++ es₂ → exec (step 1) initial es₁ = some w →
        w.Accounted 1 ∧ (Along (step 1) (Timely RunPhase.holding) initial es₁ →
          (1 ∈ w.runsIn RunPhase.executing → w.Owns 1) ∧
            (w.runsIn RunPhase.executing).length ≤ 1)) ↔
      Along (step 1) (Careful 1) initial servedLease) :=
  slot_accounting_iff 1 1 servedLease clean_servedLease

/-- The lease is granted and its thread cannot be started. -/
def unstartedThread : List (SlotEvent Nat Nat Nat) :=
  [.run 0 1 .ffmpeg 120, .backend 1 (.returned ⟨0, 0⟩), .backend 1 (.returned ⟨1, 1⟩),
    .backend 1 (.returned ⟨2, 2⟩), .startThread 1 false]

theorem unstarted_thread_leaks : ¬ ∀ (es : List (SlotEvent Nat Nat Nat)) w,
    Along (step 1) (Clean 1) initial es → exec (step 1) initial es = some w → w.Accounted 1 := by
  intro h
  obtain ⟨w, hw⟩ := Option.isSome_iff_exists.1
    (by decide : (exec (step 1) initial unstartedThread).isSome = true)
  have hclean : Along (step 1) (Clean 1) initial unstartedThread :=
    ⟨trivial, fun _ => ⟨nofun, fun _ _ _ => nofun⟩, fun _ => ⟨nofun, fun _ _ _ => nofun⟩,
      fun _ => ⟨nofun, fun _ _ _ => nofun⟩, trivial, trivial⟩
  have hacc := h unstartedThread w hclean hw
  have hfinished : ((exec (step 1) initial unstartedThread).bind fun w =>
      (w.runs.lookup 1).map SlotRun.phase) = some .finished := by decide
  have hrow : ((exec (step 1) initial unstartedThread).bind fun w =>
      w.requests.lookup 1).isSome = true := by decide
  rw [hw, Option.bind_some] at hfinished hrow
  obtain ⟨run, hrun, hphase⟩ := Option.map_eq_some_iff.1 hfinished
  rw [hacc.removed run hrun hphase] at hrow
  cases hrow

end SlotWorld

end GetOffline
