import GetOffline.Domain
import Mathlib.Data.Set.Card

set_option autoImplicit true

namespace GetOffline

/-- A `cpu_slot_requests` row under its lease. -/
structure CpuSlotRequest (T : Type) where
  jobType : String
  status : CpuSlotStatus
  expiresAt : T
deriving DecidableEq

/-- The readings of the clock in one backend call: the one that expired leases are purged by
and the one that the lease length is added to. -/
structure Clock (T : Type) where
  purge : T
  expires : T
deriving DecidableEq

/-- A call of the `SlotBackend` protocol. The scheduler names jobs by a `HeavyJobKind`. -/
inductive SlotCall (L T : Type)
  | waitStarted (jobType : HeavyJobKind) (leaseId : L) (leaseSeconds : T)
  | waitHeartbeat (leaseId : L) (leaseSeconds : T)
  | waitFinished (leaseId : L)
  | acquire (jobType : HeavyJobKind) (leaseId : L) (leaseSeconds : T)
  | release (leaseId : L)
  | heartbeat (leaseId : L) (leaseSeconds : T)
  | snapshot
deriving DecidableEq

/-- The stats dictionary of a backend. -/
structure SlotStats where
  reason : String
  inUse : Nat
  waitingFfmpeg : Nat
  waitingTranscript : Nat
deriving DecidableEq

/-- The lease that a call is about. -/
def SlotCall.lease : SlotCall L T → Option L
  | .waitStarted _ leaseId _ | .waitHeartbeat leaseId _ | .waitFinished leaseId
  | .acquire _ leaseId _ | .release leaseId | .heartbeat leaseId _ => some leaseId
  | .snapshot => none

/-- What a backend call returns: `ok` for `acquire` alone, `renewed` for the heartbeats alone. -/
structure SlotAnswer where
  ok : Option Bool := none
  stats : SlotStats
  renewed : Option Bool := none
deriving DecidableEq

/-- What slot accounting is about: at most one request for each lease. -/
abbrev Ledger (L T : Type) := L → Option (CpuSlotRequest T)

namespace Ledger

/-- The leases of the requests that satisfy `p`. -/
def leases (p : CpuSlotRequest T → Prop) (m : Ledger L T) : Set L :=
  {l | ∃ r, m l = some r ∧ p r}

def running (m : Ledger L T) : Set L :=
  m.leases fun r => r.status = .running

def waiting (kind : HeavyJobKind) (m : Ledger L T) : Set L :=
  m.leases fun r => r.status = .waiting ∧ r.jobType = StrEnum.value kind

/-- Requests whose lease has run out are gone. -/
def live [LT T] [DecidableLT T] (now : T) (m : Ledger L T) : Ledger L T :=
  fun l => (m l).filter fun r => now < r.expiresAt

/-- A slot is free, and no other lease waits for ffmpeg unless the job is ffmpeg itself. -/
def Admits (capacity : Int) (jobType : HeavyJobKind) (leaseId : L) (m : Ledger L T) : Prop :=
  (m.running.ncard : Int) < capacity ∧ (jobType = .ffmpeg ∨ m.waiting .ffmpeg ⊆ {leaseId})

/-- A live waiting ffmpeg request of the lease. -/
def FfmpegWaits [LT T] [DecidableLT T] (leaseId : L) (now : T) (m : Ledger L T) : Prop :=
  leaseId ∈ (m.live now).waiting .ffmpeg

/-- The running transcripts of all leases but one. -/
def runningTranscripts (leaseId : L) (m : Ledger L T) : Set L :=
  {l | l ≠ leaseId ∧ l ∈ m.leases fun r => r.status = .running ∧ r.jobType = "transcript"}

theorem live_eq_some [LT T] [DecidableLT T] {m : Ledger L T} {now : T} {l : L}
    {r : CpuSlotRequest T} : m.live now l = some r ↔ m l = some r ∧ now < r.expiresAt := by
  simp only [live, Option.filter_eq_some_iff, decide_eq_true_eq]

theorem not_admits_transcript [LT T] [DecidableLT T] {m : Ledger L T}
    (h : m.FfmpegWaits leaseId now) (hl : l ≠ leaseId) : ¬ Admits capacity .transcript l (m.live now) := by
  rintro ⟨-, hk | hw⟩
  · cases hk
  · exact hl (hw h).symm

theorem running_live [LT T] [DecidableLT T] (m : Ledger L T) (now : T) :
    (m.live now).running ⊆ m.running := by
  rintro l ⟨r, hr, hs⟩
  exact ⟨r, (live_eq_some.1 hr).1, hs⟩

theorem running_update_subset [DecidableEq L] (m : Ledger L T) (l : L)
    (o : Option (CpuSlotRequest T)) : running (Function.update m l o) ⊆ insert l m.running := by
  rintro k ⟨r, hr, hs⟩
  by_cases hkl : k = l
  · exact .inl hkl
  · rw [Function.update_of_ne hkl] at hr
    exact .inr ⟨r, hr, hs⟩

theorem running_update [DecidableEq L] {m : Ledger L T} {o : Option (CpuSlotRequest T)} {l : L}
    (h : ∀ r, o = some r → r.status = .running → l ∈ m.running) :
    running (Function.update m l o) ⊆ m.running := by
  intro k hk
  rcases running_update_subset m l o hk with he | hm
  · obtain ⟨r, hr, hs⟩ := hk
    subst k
    rw [Function.update_self] at hr
    exact h r hr hs
  · exact hm

theorem runningTranscripts_live [LT T] [DecidableLT T] (m : Ledger L T) (now : T) (leaseId : L) :
    (m.live now).runningTranscripts leaseId ⊆ m.runningTranscripts leaseId := by
  rintro l ⟨hl, r, hr, hs⟩
  exact ⟨hl, r, (live_eq_some.1 hr).1, hs⟩

theorem runningTranscripts_update [DecidableEq L] {m : Ledger L T}
    {o : Option (CpuSlotRequest T)} {l leaseId : L}
    (h : ∀ r, o = some r → r.status = .running → r.jobType = "transcript" →
      l = leaseId ∨ l ∈ m.leases fun r => r.status = .running ∧ r.jobType = "transcript") :
    runningTranscripts leaseId (Function.update m l o) ⊆ m.runningTranscripts leaseId := by
  rintro k ⟨hk, r, hr, hs, hj⟩
  by_cases hkl : k = l
  · subst k
    rw [Function.update_self] at hr
    rcases h r hr hs hj with he | hm
    · exact absurd he hk
    · exact ⟨hk, hm⟩
  · rw [Function.update_of_ne hkl] at hr
    exact ⟨hk, r, hr, hs, hj⟩

/-- A lease extended if its request has the given status. -/
def renew [DecidableEq L] (status : CpuSlotStatus) (expiresAt : T) (leaseId : L)
    (m : Ledger L T) : Ledger L T :=
  Function.update m leaseId
    ((m leaseId).map fun r => if r.status = status then { r with expiresAt } else r)

theorem running_renew [DecidableEq L] (status : CpuSlotStatus) (expiresAt : T) (l : L)
    (m : Ledger L T) : (m.renew status expiresAt l).running ⊆ m.running := by
  apply running_update
  intro r hr hs
  obtain ⟨r', hr', he⟩ := Option.map_eq_some_iff.1 hr
  subst r
  refine ⟨r', hr', ?_⟩
  split at hs <;> exact hs

theorem runningTranscripts_renew [DecidableEq L] (status : CpuSlotStatus) (expiresAt : T)
    (l leaseId : L) (m : Ledger L T) :
    (m.renew status expiresAt l).runningTranscripts leaseId ⊆ m.runningTranscripts leaseId := by
  apply runningTranscripts_update
  intro r hr hs hj
  right
  obtain ⟨r', hr', he⟩ := Option.map_eq_some_iff.1 hr
  subst r
  refine ⟨r', hr', ?_⟩
  split at hs <;> rename_i hst
  · rw [if_pos hst] at hj
    exact ⟨hs, hj⟩
  · rw [if_neg hst] at hj
    exact ⟨hs, hj⟩

section
variable [LT T] [DecidableLT T] [Add T] [DecidableEq L]

open Classical in
/-- The requests after a call. -/
noncomputable def next (capacity : Int) (clock : Clock T) (m : Ledger L T) :
    SlotCall L T → Ledger L T
  | .waitStarted jobType leaseId leaseSeconds =>
    Function.update (m.live clock.purge) leaseId
      (some ⟨StrEnum.value jobType, .waiting, clock.expires + leaseSeconds⟩)
  | .waitHeartbeat leaseId leaseSeconds =>
    (m.live clock.purge).renew .waiting (clock.expires + leaseSeconds) leaseId
  | .waitFinished leaseId =>
    Function.update (m.live clock.purge) leaseId
      ((m.live clock.purge leaseId).filter fun r => r.status ≠ .waiting)
  | .acquire jobType leaseId leaseSeconds =>
    if Admits capacity jobType leaseId (m.live clock.purge) then
      Function.update (m.live clock.purge) leaseId
        (some ⟨StrEnum.value jobType, .running, clock.expires + leaseSeconds⟩)
    else m.live clock.purge
  | .release leaseId => Function.update (m.live clock.purge) leaseId none
  | .heartbeat leaseId leaseSeconds =>
    (m.live clock.purge).renew .running (clock.expires + leaseSeconds) leaseId
  | .snapshot => m.live clock.purge

noncomputable def stats (reason : String) (m : Ledger L T) : SlotStats :=
  ⟨reason, m.running.ncard, (m.waiting .ffmpeg).ncard, (m.waiting .transcript).ncard⟩

open Classical in
/-- The answer to a call. -/
noncomputable def answer (capacity : Int) (clock : Clock T) (m : Ledger L T) (call : SlotCall L T) :
    SlotAnswer :=
  let before := m.live clock.purge
  let after := m.next capacity clock call
  match call with
  | .waitStarted _ _ _ => { stats := after.stats "wait-started" }
  | .waitHeartbeat leaseId _ =>
    { stats := after.stats "wait-heartbeat"
      renewed := some ((before leaseId).any fun r => r.status = .waiting) }
  | .waitFinished _ => { stats := after.stats "wait-finished" }
  | .acquire jobType leaseId _ =>
    { ok := some (decide (Admits capacity jobType leaseId before))
      stats := after.stats <|
        if Admits capacity jobType leaseId before then "acquired"
        else if (before.running.ncard : Int) < capacity then "ffmpeg-waiting"
        else "capacity-full" }
  | .release leaseId =>
    { stats := after.stats (if (before leaseId).isSome then "released" else "missing") }
  | .heartbeat leaseId _ =>
    { stats := after.stats "heartbeat"
      renewed := some ((before leaseId).any fun r => r.status = .running) }
  | .snapshot => { stats := after.stats "snapshot" }

/-- A call leaves the other leases alone, apart from purging them. -/
theorem next_other {m : Ledger L T} {capacity : Int} {clock : Clock T} {call : SlotCall L T}
    (h : call.lease ≠ some l) : m.next capacity clock call l = m.live clock.purge l := by
  cases call with
  | acquire jobType leaseId leaseSeconds =>
    have hl : l ≠ leaseId := fun he => h (congrArg some he.symm)
    simp only [next]
    split
    · exact Function.update_of_ne hl _ _
    · rfl
  | snapshot => rfl
  | waitStarted jobType leaseId leaseSeconds =>
    exact Function.update_of_ne (fun he => h (congrArg some he.symm)) _ _
  | waitHeartbeat leaseId leaseSeconds =>
    exact Function.update_of_ne (fun he => h (congrArg some he.symm)) _ _
  | waitFinished leaseId => exact Function.update_of_ne (fun he => h (congrArg some he.symm)) _ _
  | release leaseId => exact Function.update_of_ne (fun he => h (congrArg some he.symm)) _ _
  | heartbeat leaseId leaseSeconds =>
    exact Function.update_of_ne (fun he => h (congrArg some he.symm)) _ _

/-- A heartbeat keeps a live running request running. -/
theorem next_heartbeat {m : Ledger L T} {clock : Clock T} (h : m.live clock.purge l = some r)
    (hr : r.status = .running) (capacity : Int) (leaseSeconds : T) :
    m.next capacity clock (.heartbeat l leaseSeconds) l =
      some { r with expiresAt := clock.expires + leaseSeconds } := by
  simp only [next, renew, Function.update_self, h, Option.map_some, if_pos hr]

theorem next_acquire {m : Ledger L T} {clock : Clock T}
    (h : Admits capacity jobType l (m.live clock.purge)) (leaseSeconds : T) :
    m.next capacity clock (.acquire jobType l leaseSeconds) l =
      some ⟨StrEnum.value jobType, .running, clock.expires + leaseSeconds⟩ := by
  simp only [next, if_pos h, Function.update_self]

theorem granted_iff {m : Ledger L T} {clock : Clock T} {leaseSeconds : T} :
    (m.answer capacity clock (.acquire jobType l leaseSeconds)).ok = some true ↔
      Admits capacity jobType l (m.live clock.purge) := by
  simp only [answer, Option.some.injEq, decide_eq_true_eq]

/-- Only an admitted `acquire` adds a running request, and it adds one. -/
theorem running_next (capacity : Int) (clock : Clock T) (m : Ledger L T) (call : SlotCall L T) :
    (m.next capacity clock call).running ⊆ (m.live clock.purge).running ∨
      ∃ jobType leaseId, Admits capacity jobType leaseId (m.live clock.purge) ∧
        (m.next capacity clock call).running ⊆ insert leaseId (m.live clock.purge).running := by
  cases call with
  | waitStarted jobType leaseId leaseSeconds =>
    left
    apply running_update
    intro r hr hs
    cases hr
    cases hs
  | waitHeartbeat leaseId leaseSeconds => exact .inl (running_renew _ _ _ _)
  | waitFinished leaseId =>
    left
    apply running_update
    intro r hr hs
    exact ⟨r, (Option.filter_eq_some_iff.1 hr).1, hs⟩
  | acquire jobType leaseId leaseSeconds =>
    simp only [next]
    split
    · rename_i hadm
      exact .inr ⟨jobType, leaseId, hadm, running_update_subset _ _ _⟩
    · exact .inl Set.Subset.rfl
  | release leaseId =>
    left
    apply running_update
    intro r hr
    cases hr
  | heartbeat leaseId leaseSeconds => exact .inl (running_renew _ _ _ _)
  | snapshot => exact .inl Set.Subset.rfl

/-- No call takes more slots than there are. -/
theorem ncard_running_next {m : Ledger L T} {capacity : Int} (hf : m.running.Finite)
    (h : (m.running.ncard : Int) ≤ capacity) (clock : Clock T) (call : SlotCall L T) :
    ((m.next capacity clock call).running.ncard : Int) ≤ capacity := by
  have hlive := running_live m clock.purge
  have hfl := hf.subset hlive
  rcases running_next capacity clock m call with hs | ⟨jobType, leaseId, hadm, hs⟩
  · have hn := Set.ncard_le_ncard (hs.trans hlive) hf
    omega
  · have hn := Set.ncard_le_ncard hs (hfl.insert leaseId)
    have hi := Set.ncard_insert_le leaseId (m.live clock.purge).running
    have hlt := hadm.1
    omega

/-- While a lease waits for ffmpeg, no call adds a running transcript of another lease. -/
theorem runningTranscripts_next {m : Ledger L T} (capacity : Int) {clock : Clock T}
    (h : m.FfmpegWaits leaseId clock.purge) (call : SlotCall L T) :
    (m.next capacity clock call).runningTranscripts leaseId ⊆ m.runningTranscripts leaseId := by
  refine Set.Subset.trans ?_ (runningTranscripts_live m clock.purge leaseId)
  cases call with
  | waitStarted jobType l leaseSeconds =>
    apply runningTranscripts_update
    intro r hr hs
    cases hr
    cases hs
  | waitHeartbeat l leaseSeconds => exact runningTranscripts_renew _ _ _ _ _
  | waitFinished l =>
    apply runningTranscripts_update
    intro r hr hs hj
    exact .inr ⟨r, (Option.filter_eq_some_iff.1 hr).1, hs, hj⟩
  | acquire jobType l leaseSeconds =>
    simp only [next]
    split
    · rename_i hadm
      apply runningTranscripts_update
      intro r hr hs hj
      cases hr
      -- An ffmpeg grant stores another job type; a transcript grant is the waiting lease's own.
      cases jobType with
      | ffmpeg =>
        change StrEnum.value HeavyJobKind.ffmpeg = "transcript" at hj
        exact absurd hj (by decide)
      | transcript => exact .inl (by_contra fun hl => not_admits_transcript h hl hadm)
    · exact Set.Subset.rfl
  | release l =>
    apply runningTranscripts_update
    intro r hr
    cases hr
  | heartbeat l leaseSeconds => exact runningTranscripts_renew _ _ _ _ _
  | snapshot => exact Set.Subset.rfl

end

end Ledger

end GetOffline
