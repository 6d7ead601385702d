import GetOffline.Execution
import GetOffline.SlotBackend

set_option autoImplicit true

namespace GetOffline
open Execution

variable [LinearOrder T] [Add T] [DecidableEq L]

omit [LinearOrder T] [Add T] in
@[simp] theorem ledger_insert (l : L) (r : CpuSlotRequest T) (t : Table L (CpuSlotRequest T)) :
    ledger (AList.insert l r t) = Function.update (ledger t) l (some r) :=
  Table.lookup_insert_eq l r t

omit [LinearOrder T] [Add T] in
@[simp] theorem ledger_erase (l : L) (t : Table L (CpuSlotRequest T)) :
    ledger (AList.erase l t) = Function.update (ledger t) l none :=
  Table.lookup_erase_eq l t

omit [LinearOrder T] [Add T] in
theorem count_ledger {p : CpuSlotRequest T → Prop} [DecidablePred p]
    (t : Table L (CpuSlotRequest T)) :
    (t.count fun _ r => decide (p r)) = ((ledger t).leases p).ncard := by
  rw [Table.count_eq_ncard]
  simp only [decide_eq_true_eq]
  rfl

omit [LinearOrder T] [Add T] in
theorem finite_leases {p : CpuSlotRequest T → Prop} (t : Table L (CpuSlotRequest T)) :
    ((ledger t).leases p).Finite := by
  apply (Table.finite_where (fun _ _ => true) t).subset
  rintro l ⟨r, hr, -⟩
  exact ⟨r, hr, rfl⟩

omit [LinearOrder T] [Add T] in
/-- A count over one key says whether its row is there and satisfies the condition. -/
theorem count_selected (p : CpuSlotRequest T → Bool) (l : L) (t : Table L (CpuSlotRequest T)) :
    ((t.count fun k r => k == l && p r) != 0) = (ledger t l).any p := by
  rw [Table.count_eq_ncard, Bool.eq_iff_iff, bne_iff_ne, ne_eq,
    Set.ncard_eq_zero (Table.finite_where _ _), ← ne_eq, ← Set.nonempty_iff_ne_empty,
    Option.any_eq_true]
  constructor
  · rintro ⟨k, r, hr, hp⟩
    rw [Bool.and_eq_true, beq_iff_eq] at hp
    obtain ⟨rfl, hp⟩ := hp
    exact ⟨r, hr, hp⟩
  · rintro ⟨r, hr, hp⟩
    exact ⟨l, r, hr, by simp only [beq_self_eq_true, hp, Bool.and_self]⟩

namespace DatabaseSlotBackend

omit [Add T] in
@[simp] theorem ledger_purgeExpired (now : T) (t : Table L (CpuSlotRequest T)) :
    ledger (purgeExpired now t) = (ledger t).live now := by
  funext l
  simp only [ledger, purgeExpired, Ledger.live, Table.lookup_delete]
  congr 1
  funext r
  rw [← decide_not]
  exact decide_eq_decide.2 not_le

omit [LinearOrder T] [Add T] in
theorem stats_ledger (reason : String) (t : Table L (CpuSlotRequest T)) :
    stats reason t = (ledger t).stats reason := by
  simp only [stats, Ledger.stats, Ledger.running, Ledger.waiting, ← Bool.decide_and, count_ledger]

omit [LinearOrder T] [Add T] in
theorem ledger_update (l : L) (status : CpuSlotStatus) (expiresAt : T)
    (t : Table L (CpuSlotRequest T)) :
    ledger (t.update (fun k r => k == l && r.status = status) fun r => { r with expiresAt }) =
      (ledger t).renew status expiresAt l := by
  have h := Table.lookup_update_key (fun r : CpuSlotRequest T => decide (r.status = status))
    (fun r => { r with expiresAt }) t l
  simp only [decide_eq_true_eq] at h
  exact h

omit [LinearOrder T] [Add T] in
theorem inUse_ledger (t : Table L (CpuSlotRequest T)) :
    (t.count fun _ r => decide (r.status = .running)) = (ledger t).running.ncard :=
  count_ledger t

omit [LinearOrder T] [Add T] in
theorem noWaitingFfmpeg_iff {l : L} {t : Table L (CpuSlotRequest T)} :
    (t.any fun k r => (decide (r.status = .waiting) &&
      decide (r.jobType = StrEnum.value HeavyJobKind.ffmpeg)) && decide (k ≠ l)) = false ↔
      (ledger t).waiting .ffmpeg ⊆ {l} := by
  rw [← Bool.not_eq_true, Table.any_iff]
  simp only [Bool.and_eq_true, decide_eq_true_eq, not_exists, not_and, not_not]
  constructor
  · rintro h k ⟨r, hr, hw⟩
    exact h k r hr hw
  · intro h k r hr hw
    exact h ⟨r, hr, hw⟩

omit [LinearOrder T] [Add T] in
/-- `update`, and `create` where nothing was updated, is assignment. -/
theorem ledger_granted (l : L) (r : CpuSlotRequest T) (t : Table L (CpuSlotRequest T)) :
    ledger (if (t.count fun k _ => k == l) = 0 then AList.insert l r t
      else t.update (fun k _ => k == l) fun _ => r) = Function.update (ledger t) l (some r) := by
  have hc := count_selected (fun _ => true) l t
  simp only [Bool.and_true] at hc
  split
  · exact ledger_insert l r t
  · rename_i hne
    rw [← ne_eq, ← bne_iff_ne, hc] at hne
    obtain ⟨r', hr', -⟩ := (Option.any_eq_true _ _).1 hne
    have hu := Table.lookup_update_at (fun _ : CpuSlotRequest T => r) t l
    change t.lookup l = some r' at hr'
    rw [hr'] at hu
    exact hu

theorem acquire_admitted {capacity : Int} {clock : Clock T} {jobType : HeavyJobKind} {leaseId : L}
    {t : Table L (CpuSlotRequest T)}
    (h : Ledger.Admits capacity jobType leaseId ((ledger t).live clock.purge)) (leaseSeconds : T) :
    ∃ t', acquire capacity clock (StrEnum.value jobType) leaseId leaseSeconds t =
        (t', { ok := some true, stats := stats "acquired" t' }) ∧
      ledger t' = Function.update ((ledger t).live clock.purge) leaseId
        (some ⟨StrEnum.value jobType, .running, clock.expires + leaseSeconds⟩) := by
  rw [← ledger_purgeExpired] at h ⊢
  obtain ⟨hfree, hor⟩ := h
  rw [← inUse_ledger] at hfree
  rw [← noWaitingFfmpeg_iff] at hor
  simp only [acquire, if_pos hfree, parse_heavyJobKind, Option.some.injEq, if_pos hor]
  exact ⟨_, rfl, ledger_granted _ _ _⟩

theorem acquire_refused {capacity : Int} {clock : Clock T} {jobType : HeavyJobKind} {leaseId : L}
    {leaseSeconds : T} {t : Table L (CpuSlotRequest T)}
    (h : ¬ Ledger.Admits capacity jobType leaseId ((ledger t).live clock.purge)) :
    acquire capacity clock (StrEnum.value jobType) leaseId leaseSeconds t =
      (purgeExpired clock.purge t,
        { ok := some false
          stats := stats
            (if (((ledger t).live clock.purge).running.ncard : Int) < capacity then "ffmpeg-waiting"
              else "capacity-full") (purgeExpired clock.purge t) }) := by
  rw [← ledger_purgeExpired] at h ⊢
  rw [← inUse_ledger]
  by_cases hfree : (((purgeExpired clock.purge t).count fun _ r => decide (r.status = .running) :
      Nat) : Int) < capacity
  · have hor : ¬ (jobType = .ffmpeg ∨ _) := fun hor =>
      h ⟨inUse_ledger (purgeExpired clock.purge t) ▸ hfree, hor.imp_right noWaitingFfmpeg_iff.1⟩
    simp only [acquire, if_pos hfree, parse_heavyJobKind, Option.some.injEq, if_neg hor]
  · simp only [acquire, if_neg hfree]

/-- The database backend does what the ledger says. -/
theorem ledger_call (capacity : Int) (clock : Clock T) (call : SlotCall L T)
    (t : Table L (CpuSlotRequest T)) :
    ledger (DatabaseSlotBackend.call capacity (clock, call) t).1 =
      (ledger t).next capacity clock call := by
  cases call with
  | waitStarted jobType leaseId leaseSeconds =>
    rw [Ledger.next, ← ledger_purgeExpired]
    exact Table.lookup_updateOrCreate (fun _ => rfl) leaseId (purgeExpired clock.purge t)
  | waitHeartbeat leaseId leaseSeconds =>
    rw [Ledger.next, ← ledger_purgeExpired]
    exact ledger_update leaseId .waiting _ _
  | waitFinished leaseId =>
    rw [Ledger.next, ← ledger_purgeExpired]
    have h := Table.lookup_delete_key (fun r : CpuSlotRequest T => decide (r.status = .waiting))
      (purgeExpired clock.purge t) leaseId
    simp only [← decide_not] at h
    exact h
  | acquire jobType leaseId leaseSeconds =>
    by_cases h : Ledger.Admits capacity jobType leaseId ((ledger t).live clock.purge)
    · obtain ⟨t', he, hl⟩ := acquire_admitted h leaseSeconds
      simp only [call, he, hl, Ledger.next, if_pos h]
    · simp only [call, acquire_refused h, Ledger.next, if_neg h, ledger_purgeExpired]
  | release leaseId =>
    rw [Ledger.next, ← ledger_purgeExpired]
    exact Table.lookup_delete_at _ _
  | heartbeat leaseId leaseSeconds =>
    rw [Ledger.next, ← ledger_purgeExpired]
    exact ledger_update leaseId .running _ _
  | snapshot => exact ledger_purgeExpired _ _

/-- The database backend answers what the ledger says. -/
theorem answer_call (capacity : Int) (clock : Clock T) (call : SlotCall L T)
    (t : Table L (CpuSlotRequest T)) :
    (DatabaseSlotBackend.call capacity (clock, call) t).2 =
      (ledger t).answer capacity clock call := by
  have hnext := ledger_call capacity clock call t
  cases call with
  | waitStarted jobType leaseId leaseSeconds =>
    simp only [Ledger.answer, ← hnext, ← stats_ledger]
    rfl
  | waitHeartbeat leaseId leaseSeconds =>
    simp only [Ledger.answer, ← hnext, ← stats_ledger]
    simp only [DatabaseSlotBackend.call, waitHeartbeat, count_selected, ledger_purgeExpired]
  | waitFinished leaseId =>
    simp only [Ledger.answer, ← hnext, ← stats_ledger]
    rfl
  | acquire jobType leaseId leaseSeconds =>
    simp only [Ledger.answer, ← hnext, ← stats_ledger]
    by_cases h : Ledger.Admits capacity jobType leaseId ((ledger t).live clock.purge)
    · obtain ⟨t', he, -⟩ := acquire_admitted h leaseSeconds
      simp only [DatabaseSlotBackend.call, he, h, decide_true, if_true]
    · simp only [DatabaseSlotBackend.call, acquire_refused h, h, decide_false, if_false]
  | release leaseId =>
    simp only [Ledger.answer, ← hnext, ← stats_ledger]
    have hc := count_selected (fun _ => true) leaseId (purgeExpired clock.purge t)
    simp only [Bool.and_true, ledger_purgeExpired] at hc
    simp only [DatabaseSlotBackend.call, release, hc]
    cases (ledger t).live clock.purge leaseId <;> rfl
  | heartbeat leaseId leaseSeconds =>
    simp only [Ledger.answer, ← hnext, ← stats_ledger]
    simp only [DatabaseSlotBackend.call, heartbeat, count_selected, ledger_purgeExpired]
  | snapshot =>
    simp only [Ledger.answer, ← hnext, ← stats_ledger]
    rfl

end DatabaseSlotBackend

/-- Every request is for a job type that the scheduler knows. -/
def HeavyRows (m : Ledger L T) : Prop :=
  ∀ l r, m l = some r → ∃ kind : HeavyJobKind, r.jobType = StrEnum.value kind

omit [LinearOrder T] [Add T] in
theorem HeavyRows.empty : HeavyRows (ledger (∅ : Table L (CpuSlotRequest T))) := by
  rintro l r hr
  cases hr

omit [Add T] [DecidableEq L] in
theorem HeavyRows.live {m : Ledger L T} (h : HeavyRows m) (now : T) : HeavyRows (m.live now) :=
  fun l r hr => h l r (Ledger.live_eq_some.1 hr).1

omit [LinearOrder T] [Add T] in
theorem HeavyRows.update {m : Ledger L T} {o : Option (CpuSlotRequest T)} (h : HeavyRows m) (l : L)
    (ho : ∀ r, o = some r → ∃ kind : HeavyJobKind, r.jobType = StrEnum.value kind) :
    HeavyRows (Function.update m l o) := by
  intro k r hr
  by_cases hk : k = l
  · subst k
    rw [Function.update_self] at hr
    exact ho r hr
  · rw [Function.update_of_ne hk] at hr
    exact h k r hr

omit [LinearOrder T] [Add T] in
theorem HeavyRows.renew {m : Ledger L T} (h : HeavyRows m) (status : CpuSlotStatus) (expiresAt : T)
    (l : L) : HeavyRows (m.renew status expiresAt l) := by
  apply h.update
  intro r hr
  obtain ⟨r', hr', he⟩ := Option.map_eq_some_iff.1 hr
  obtain ⟨kind, hk⟩ := h l r' hr'
  refine ⟨kind, ?_⟩
  subst r
  split <;> exact hk

/-- Calls made for jobs that the scheduler knows store only such requests. -/
theorem HeavyRows.next {m : Ledger L T} (h : HeavyRows m) (capacity : Int) (clock : Clock T)
    (call : SlotCall L T) : HeavyRows (m.next capacity clock call) := by
  have hl := h.live clock.purge
  cases call with
  | waitStarted jobType leaseId leaseSeconds =>
    exact hl.update leaseId fun r hr => ⟨jobType, by cases hr; rfl⟩
  | waitHeartbeat leaseId leaseSeconds => exact hl.renew _ _ _
  | waitFinished leaseId =>
    exact hl.update leaseId fun r hr => hl leaseId r (Option.filter_eq_some_iff.1 hr).1
  | acquire jobType leaseId leaseSeconds =>
    simp only [Ledger.next]
    split
    · exact hl.update leaseId fun r hr => ⟨jobType, by cases hr; rfl⟩
    · exact hl
  | release leaseId => exact hl.update leaseId fun r hr => by cases hr
  | heartbeat leaseId leaseSeconds => exact hl.renew _ _ _
  | snapshot => exact hl

omit [LinearOrder T] [Add T] [DecidableEq L] in
theorem HeavyRows.parse_ffmpeg {m : Ledger L T} (h : HeavyRows m) {l : L} {r : CpuSlotRequest T}
    (hr : m l = some r) : parseStrEnum HeavyJobKind r.jobType = some .ffmpeg ↔
      r.jobType = StrEnum.value HeavyJobKind.ffmpeg := by
  obtain ⟨kind, hk⟩ := h l r hr
  rw [hk, parse_heavyJobKind]
  cases kind <;> decide

namespace InMemorySlotBackend

omit [Add T] in
@[simp] theorem ledger_purge (now : T) (t : Table L (CpuSlotRequest T)) :
    ledger (purge now t) = (ledger t).live now := by
  funext l
  have h := Table.lookup_foldl_erase (fun r : CpuSlotRequest T => decide (r.expiresAt ≤ now))
    t.entries t l
  simp only [decide_eq_true_eq] at h
  simp only [ledger, purge, h, Ledger.live]
  cases hl : t.lookup l with
  | none => simp only [Option.filter_none, ite_self]
  | some r =>
    have hex : (∃ e ∈ t.entries, e.1 = l ∧ e.2.expiresAt ≤ now) ↔ r.expiresAt ≤ now := by
      constructor
      · rintro ⟨⟨k, r'⟩, hm, rfl, hle⟩
        rw [Table.mem_entries_iff, hl, Option.some.injEq] at hm
        exact hm ▸ hle
      · exact fun hle => ⟨⟨l, r⟩, Table.mem_entries_iff.2 hl, rfl, hle⟩
    simp only [hex, Option.filter_some, ← not_le, decide_not]
    by_cases hle : r.expiresAt ≤ now <;> simp only [hle, decide_true, decide_false] <;> rfl

omit [LinearOrder T] [Add T] in
theorem stats_ledger {t : Table L (CpuSlotRequest T)} (h : HeavyRows (ledger t)) (reason : String) :
    stats reason t = (ledger t).stats reason := by
  rw [← DatabaseSlotBackend.stats_ledger]
  simp only [stats, DatabaseSlotBackend.stats, SlotStats.mk.injEq, true_and]
  refine ⟨Table.count_filter_congr fun l r hr => ?_, rfl⟩
  rw [decide_eq_decide.2 (h.parse_ffmpeg hr)]

omit [LinearOrder T] [Add T] in
theorem noFfmpegWaiting_iff {t : Table L (CpuSlotRequest T)} (h : HeavyRows (ledger t)) {l : L} :
    (t.any fun k r => decide (k ≠ l) && decide (r.status = .waiting) &&
      decide (parseStrEnum HeavyJobKind r.jobType = some .ffmpeg)) = false ↔
      (ledger t).waiting .ffmpeg ⊆ {l} := by
  rw [← Bool.not_eq_true, Table.any_iff]
  simp only [Bool.and_eq_true, decide_eq_true_eq, not_exists, not_and]
  constructor
  · rintro hn k ⟨r, hr, hs, hj⟩
    by_contra hk
    exact hn k r hr ⟨hk, hs⟩ ((h.parse_ffmpeg hr).2 hj)
  · rintro hw k r hr ⟨hk, hs⟩ hj
    exact hk (hw ⟨r, hr, hs, (h.parse_ffmpeg hr).1 hj⟩)

omit [LinearOrder T] [Add T] in
theorem ledger_setExpiresAt {status : CpuSlotStatus} (l : L) (expiresAt : T)
    (t : Table L (CpuSlotRequest T)) :
    ledger (if (t.lookup l).any fun r => decide (r.status = status) then
      setExpiresAt l expiresAt t else t) = (ledger t).renew status expiresAt l := by
  simp only [setExpiresAt, Ledger.renew]
  cases hl : t.lookup l with
  | none =>
    have hl' : ledger t l = none := hl
    rw [hl', Option.map_none, Function.update_eq_self_iff.2 hl'.symm]
    rfl
  | some r =>
    have hl' : ledger t l = some r := hl
    rw [hl', Option.map_some, Option.any_some]
    by_cases hs : r.status = status
    · simp only [hs, decide_true, if_true, ledger_insert]
    · simp only [hs, decide_false, if_false, ← hl', Function.update_eq_self, Bool.false_eq_true]

theorem acquire_admitted {capacity : Int} {clock : Clock T} {jobType : HeavyJobKind} {leaseId : L}
    {t : Table L (CpuSlotRequest T)} (hh : HeavyRows (ledger t))
    (h : Ledger.Admits capacity jobType leaseId ((ledger t).live clock.purge)) (leaseSeconds : T) :
    ∃ t', acquire capacity clock (StrEnum.value jobType) leaseId leaseSeconds t =
        (t', { ok := some true, stats := stats "acquired" t' }) ∧
      ledger t' = Function.update ((ledger t).live clock.purge) leaseId
        (some ⟨StrEnum.value jobType, .running, clock.expires + leaseSeconds⟩) := by
  have hl := hh.live clock.purge
  rw [← ledger_purge] at h hl ⊢
  obtain ⟨hfree, hor⟩ := h
  rw [← DatabaseSlotBackend.inUse_ledger] at hfree
  rw [← noFfmpegWaiting_iff hl] at hor
  simp only [acquire, if_pos hfree, parse_heavyJobKind, Option.some.injEq, if_pos hor]
  exact ⟨_, rfl, ledger_insert _ _ _⟩

theorem acquire_refused {capacity : Int} {clock : Clock T} {jobType : HeavyJobKind} {leaseId : L}
    {leaseSeconds : T} {t : Table L (CpuSlotRequest T)} (hh : HeavyRows (ledger t))
    (h : ¬ Ledger.Admits capacity jobType leaseId ((ledger t).live clock.purge)) :
    acquire capacity clock (StrEnum.value jobType) leaseId leaseSeconds t =
      (purge clock.purge t,
        { ok := some false
          stats := stats
            (if (((ledger t).live clock.purge).running.ncard : Int) < capacity then "ffmpeg-waiting"
              else "capacity-full") (purge clock.purge t) }) := by
  have hl := hh.live clock.purge
  rw [← ledger_purge] at h hl ⊢
  rw [← DatabaseSlotBackend.inUse_ledger]
  by_cases hfree : (((purge clock.purge t).count fun _ r => decide (r.status = .running) :
      Nat) : Int) < capacity
  · have hor : ¬ (jobType = .ffmpeg ∨ _) := fun hor =>
      h ⟨DatabaseSlotBackend.inUse_ledger (purge clock.purge t) ▸ hfree,
        hor.imp_right (noFfmpegWaiting_iff hl).1⟩
    simp only [acquire, if_pos hfree, parse_heavyJobKind, Option.some.injEq, if_neg hor]
  · simp only [acquire, if_neg hfree]

/-- The in-memory backend does what the ledger says. -/
theorem ledger_call (capacity : Int) (clock : Clock T) (call : SlotCall L T)
    {t : Table L (CpuSlotRequest T)} (hh : HeavyRows (ledger t)) :
    ledger (InMemorySlotBackend.call capacity (clock, call) t).1 =
      (ledger t).next capacity clock call := by
  cases call with
  | waitStarted jobType leaseId leaseSeconds =>
    rw [Ledger.next, ← ledger_purge]
    exact ledger_insert _ _ _
  | waitHeartbeat leaseId leaseSeconds =>
    rw [Ledger.next, ← ledger_purge]
    exact ledger_setExpiresAt leaseId _ _
  | waitFinished leaseId =>
    rw [Ledger.next, ← ledger_purge]
    simp only [InMemorySlotBackend.call, waitFinished]
    cases hl : (purge clock.purge t).lookup leaseId with
    | none =>
      have hl' : ledger (purge clock.purge t) leaseId = none := hl
      rw [hl', Option.filter_none, Function.update_eq_self_iff.2 hl'.symm]
      rfl
    | some r =>
      have hl' : ledger (purge clock.purge t) leaseId = some r := hl
      rw [hl', Option.filter_some, Option.any_some]
      by_cases hs : r.status = .waiting
      · simp only [hs, decide_true, if_true, ledger_erase, ne_eq, not_true_eq_false, decide_false,
          Bool.false_eq_true, if_false]
      · simp only [hs, decide_false, Bool.false_eq_true, if_false, ne_eq, not_false_eq_true,
          decide_true, if_true, ← hl', Function.update_eq_self]
  | acquire jobType leaseId leaseSeconds =>
    by_cases h : Ledger.Admits capacity jobType leaseId ((ledger t).live clock.purge)
    · obtain ⟨t', he, hl⟩ := acquire_admitted hh h leaseSeconds
      simp only [call, he, hl, Ledger.next, if_pos h]
    · simp only [call, acquire_refused hh h, Ledger.next, if_neg h, ledger_purge]
  | release leaseId =>
    rw [Ledger.next, ← ledger_purge]
    exact ledger_erase _ _
  | heartbeat leaseId leaseSeconds =>
    rw [Ledger.next, ← ledger_purge]
    exact ledger_setExpiresAt leaseId _ _
  | snapshot => exact ledger_purge _ _

/-- The in-memory backend answers what the ledger says. -/
theorem answer_call (capacity : Int) (clock : Clock T) (call : SlotCall L T)
    {t : Table L (CpuSlotRequest T)} (hh : HeavyRows (ledger t)) :
    (InMemorySlotBackend.call capacity (clock, call) t).2 =
      (ledger t).answer capacity clock call := by
  have hnext := ledger_call capacity clock call hh
  have hheavy : HeavyRows (ledger (InMemorySlotBackend.call capacity (clock, call) t).1) :=
    hnext ▸ hh.next capacity clock call
  cases call with
  | waitStarted jobType leaseId leaseSeconds =>
    simp only [Ledger.answer, ← hnext, ← stats_ledger hheavy]
    rfl
  | waitHeartbeat leaseId leaseSeconds =>
    simp only [Ledger.answer, ← hnext, ← stats_ledger hheavy, ← ledger_purge]
    rfl
  | waitFinished leaseId =>
    simp only [Ledger.answer, ← hnext, ← stats_ledger hheavy]
    rfl
  | acquire jobType leaseId leaseSeconds =>
    simp only [Ledger.answer, ← hnext, ← stats_ledger hheavy]
    by_cases h : Ledger.Admits capacity jobType leaseId ((ledger t).live clock.purge)
    · obtain ⟨t', he, -⟩ := acquire_admitted hh h leaseSeconds
      simp only [InMemorySlotBackend.call, he, h, decide_true, if_true]
    · simp only [InMemorySlotBackend.call, acquire_refused hh h, h, decide_false, if_false]
  | release leaseId =>
    simp only [Ledger.answer, ← hnext, ← stats_ledger hheavy, ← ledger_purge]
    rfl
  | heartbeat leaseId leaseSeconds =>
    simp only [Ledger.answer, ← hnext, ← stats_ledger hheavy, ← ledger_purge]
    rfl
  | snapshot =>
    simp only [Ledger.answer, ← hnext, ← stats_ledger hheavy]
    rfl

end InMemorySlotBackend

end GetOffline
