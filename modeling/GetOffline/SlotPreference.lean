import GetOffline.SlotRefinement

set_option autoImplicit true

namespace GetOffline
open Execution

variable [LinearOrder T] [Add T] [DecidableEq L]

/-- The implementations of the `SlotBackend` protocol. -/
inductive SlotBackend
  | database
  | inMemory
deriving DecidableEq

namespace SlotBackend

def call (backend : SlotBackend) (capacity : Int) (e : Clock T × SlotCall L T)
    (requests : Table L (CpuSlotRequest T)) : Table L (CpuSlotRequest T) × SlotAnswer :=
  match backend with
  | .database => DatabaseSlotBackend.call capacity e requests
  | .inMemory => InMemorySlotBackend.call capacity e requests

/-- The requests after a sequence of calls. -/
def after (backend : SlotBackend) (capacity : Int) (calls : List (Clock T × SlotCall L T)) :
    Table L (CpuSlotRequest T) :=
  (answers (backend.call capacity) ∅ calls).2

theorem after_append (backend : SlotBackend) (capacity : Int)
    (calls calls' : List (Clock T × SlotCall L T)) :
    backend.after capacity (calls ++ calls') =
      (answers (backend.call capacity) (backend.after capacity calls) calls').2 :=
  answers_append _ _ _ _

theorem ledger_call (backend : SlotBackend) (capacity : Int) (e : Clock T × SlotCall L T)
    {t : Table L (CpuSlotRequest T)} (hh : HeavyRows (ledger t)) :
    ledger (backend.call capacity e t).1 = (ledger t).next capacity e.1 e.2 := by
  cases backend with
  | database => exact DatabaseSlotBackend.ledger_call capacity e.1 e.2 t
  | inMemory => exact InMemorySlotBackend.ledger_call capacity e.1 e.2 hh

theorem answer_call (backend : SlotBackend) (capacity : Int) (e : Clock T × SlotCall L T)
    {t : Table L (CpuSlotRequest T)} (hh : HeavyRows (ledger t)) :
    (backend.call capacity e t).2 = (ledger t).answer capacity e.1 e.2 := by
  cases backend with
  | database => exact DatabaseSlotBackend.answer_call capacity e.1 e.2 t
  | inMemory => exact InMemorySlotBackend.answer_call capacity e.1 e.2 hh

theorem heavyRows_call (backend : SlotBackend) (capacity : Int) (e : Clock T × SlotCall L T)
    {t : Table L (CpuSlotRequest T)} (hh : HeavyRows (ledger t)) :
    HeavyRows (ledger (backend.call capacity e t).1) := by
  rw [ledger_call backend capacity e hh]
  exact hh.next capacity e.1 e.2

theorem heavyRows_after (backend : SlotBackend) (capacity : Int)
    (calls : List (Clock T × SlotCall L T)) :
    HeavyRows (ledger (backend.after capacity calls)) := by
  have hstep : ∀ (s : Table L (CpuSlotRequest T)) (e : Clock T × SlotCall L T) t,
      HeavyRows (ledger s) → advance (backend.call capacity) s e = some t → HeavyRows (ledger t) := by
    intro s e t hs hst
    cases hst
    exact heavyRows_call backend capacity e hs
  have hrun := exec_preserves hstep HeavyRows.empty (exec_advance (backend.call capacity) ∅ calls)
  exact hrun

/-- A backend refuses a transcript while another lease waits for ffmpeg. -/
theorem acquire_transcript_refused (backend : SlotBackend) (capacity : Int) {clock : Clock T}
    {t : Table L (CpuSlotRequest T)} (hh : HeavyRows (ledger t))
    (h : (ledger t).FfmpegWaits leaseId clock.purge) (hl : l ≠ leaseId) (leaseSeconds : T) :
    (backend.call capacity (clock, .acquire .transcript l leaseSeconds) t).2.ok = some false := by
  rw [answer_call backend capacity _ hh]
  simp only [Ledger.answer, Ledger.not_admits_transcript h hl, decide_false]

/-- From any reachable table on, for as long as a lease waits for ffmpeg, no transcript of another
lease is granted, and the running transcripts of other leases only shrink. -/
theorem ffmpeg_never_overtaken (backend : SlotBackend) (capacity : Int)
    (calls segment : List (Clock T × SlotCall L T)) (leaseId : L)
    (h : Along (advance (backend.call capacity))
      (fun t e => (ledger t).FfmpegWaits leaseId e.1.purge) (backend.after capacity calls) segment) :
    (∀ es clock l leaseSeconds es',
        segment = es ++ (clock, .acquire .transcript l leaseSeconds) :: es' → l ≠ leaseId →
          (backend.call capacity (clock, .acquire .transcript l leaseSeconds)
            (backend.after capacity (calls ++ es))).2.ok = some false) ∧
      (ledger (backend.after capacity (calls ++ segment))).runningTranscripts leaseId ⊆
        (ledger (backend.after capacity calls)).runningTranscripts leaseId := by
  constructor
  · rintro es clock l leaseSeconds es' rfl hl
    have hat := (h.right (exec_advance _ _ es)).head
    rw [← after_append] at hat
    exact acquire_transcript_refused backend capacity (heavyRows_after _ _ _) hat hl leaseSeconds
  · rw [after_append]
    have hstep : ∀ (s : Table L (CpuSlotRequest T)) (e : Clock T × SlotCall L T) t,
        HeavyRows (ledger s) → (ledger s).FfmpegWaits leaseId e.1.purge →
          advance (backend.call capacity) s e = some t →
            HeavyRows (ledger t) ∧
              (ledger t).runningTranscripts leaseId ⊆ (ledger s).runningTranscripts leaseId := by
      intro s e t hs hw hst
      cases hst
      refine ⟨heavyRows_call backend capacity e hs, ?_⟩
      rw [ledger_call backend capacity e hs]
      exact Ledger.runningTranscripts_next capacity hw e.2
    have hrun := exec_relates hstep (fun _ => Set.Subset.rfl) (fun _ _ _ hst htu => htu.trans hst)
      (heavyRows_after backend capacity calls) h (exec_advance _ _ segment)
    exact hrun

/-- With every slot free, a transcript that asks while lease 1 waits for ffmpeg is refused. -/
theorem ffmpeg_never_overtaken_waiting :
    (SlotBackend.inMemory.call 3 (⟨5, 5⟩, .acquire .transcript 2 120)
      (SlotBackend.inMemory.after 3
        [((⟨0, 0⟩ : Clock Int), .waitStarted .ffmpeg (1 : Nat) 120),
          (⟨4, 4⟩, .waitStarted .transcript 2 120)])).2.ok = some false :=
  (ffmpeg_never_overtaken .inMemory 3
    [(⟨0, 0⟩, .waitStarted .ffmpeg 1 120), (⟨4, 4⟩, .waitStarted .transcript 2 120)]
    [(⟨5, 5⟩, .acquire .transcript 2 120)] 1 ⟨⟨⟨"ffmpeg", .waiting, 120⟩, by decide⟩, trivial⟩).1
      [] ⟨5, 5⟩ 2 120 [] rfl (by decide)

end SlotBackend

end GetOffline
