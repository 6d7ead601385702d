import GetOffline.Runner

set_option autoImplicit true

namespace GetOffline
open Python Execution

/-- The text of a JSON object with a `job_id` that is a number to `int()`. -/
def IsJobMessage (limit : Nat) (body : List UInt8) : Prop :=
  ∃ text payload value n, decodeUtf8 body = some text ∧
    jsonLoads limit text = .ok (.object payload) ∧
    Json.get "job_id" payload = some value ∧ value.toInt = .ok n

theorem fromPayload_eq_ok {payload : Json} {message : QueuedJobMessage}
    (h : QueuedJobMessage.fromPayload payload = .ok message) :
    ∃ items value, payload = .object items ∧ Json.get "job_id" items = some value ∧
      value.toInt = .ok message.jobId := by
  revert h
  fun_cases QueuedJobMessage.fromPayload payload with
  | case1 items hget =>
    intro h
    cases h
  | case2 items value hget =>
    intro h
    obtain ⟨jobId, hv, hm⟩ := bind_eq_ok.1 h
    cases hm
    exact ⟨items, value, rfl, hget, hv⟩
  | case3 =>
    intro h
    cases h

theorem fromBody_isOk {limit : Nat} {body : List UInt8} :
    (∃ message, QueuedJobMessage.fromBody limit body = .ok message) ↔ IsJobMessage limit body := by
  constructor
  · rintro ⟨message, h⟩
    revert h
    fun_cases QueuedJobMessage.fromBody limit body with
    | case1 =>
      intro h
      cases h
    | case2 text htext =>
      intro h
      obtain ⟨payload, hp, hm⟩ := bind_eq_ok.1 h
      obtain ⟨items, value, rfl, hget, hv⟩ := fromPayload_eq_ok hm
      exact ⟨text, items, value, _, htext, hp, hget, hv⟩
  · rintro ⟨text, items, value, n, htext, hp, hget, hv⟩
    refine ⟨⟨n, Json.get "job_type" items, Json.get "profile_id" items, Json.get "attempt" items⟩, ?_⟩
    simp only [QueuedJobMessage.fromBody, htext]
    refine bind_eq_ok.2 ⟨_, hp, ?_⟩
    simp only [QueuedJobMessage.fromPayload, hget]
    exact bind_eq_ok.2 ⟨n, hv, rfl⟩

/-- The routing query of the delivery is not made or does not raise. -/
def Delivery.routed (workerType : WorkerType) (d : Delivery) : Prop :=
  workerType.downloads = none ∨ d.lookup = none

theorem routed_iff {workerType : WorkerType} {d : Delivery} {jobId : Int} {jobs : JobTable} :
    d.routed workerType ↔ ∃ accepts, workerAcceptsJob workerType jobId d.lookup jobs = .ok accepts := by
  unfold Delivery.routed workerAcceptsJob
  cases workerType.downloads with
  | none => exact ⟨fun _ => ⟨true, rfl⟩, fun _ => .inl rfl⟩
  | some allowed =>
    cases d.lookup with
    | none => exact ⟨fun _ => ⟨_, rfl⟩, fun _ => .inr rfl⟩
    | some error =>
      constructor
      · rintro (h | h) <;> cases h
      · rintro ⟨_, h⟩
        cases h

/-- All that `handle_delivery` can do: let an exception through, give the message back, or process
it. -/
theorem handleDelivery_cases (limit : Nat) (str : Json → String) (config : WorkerConfig)
    (d : Delivery) (c : Consumer) :
    ((¬ IsJobMessage limit d.body ∨ ¬ d.routed config.workerType) ∧
      ∃ error, handleDelivery limit str config d c = (c, .error error)) ∨
    ∃ message, QueuedJobMessage.fromBody limit d.body = .ok message ∧ d.routed config.workerType ∧
      ((workerAcceptsJob config.workerType message.jobId d.lookup c.db.jobs = .ok false ∧
        handleDelivery limit str config d c = (c.settle d.tag message (.nack true), .ok 0)) ∨
      (workerAcceptsJob config.workerType message.jobId d.lookup c.db.jobs = .ok true ∧
        handleDelivery limit str config d c =
          ((processDelivery str d message c).1, .ok (processDelivery str d message c).2))) := by
  unfold handleDelivery
  cases hm : QueuedJobMessage.fromBody limit d.body with
  | error error =>
    left
    refine ⟨.inl fun h => ?_, error, rfl⟩
    obtain ⟨message, hok⟩ := fromBody_isOk.2 h
    rw [hm] at hok
    cases hok
  | ok message =>
    dsimp only
    cases ha : workerAcceptsJob config.workerType message.jobId d.lookup c.db.jobs with
    | error error =>
      left
      refine ⟨.inr fun h => ?_, error, rfl⟩
      obtain ⟨accepts, hok⟩ := routed_iff.1 h
      rw [ha] at hok
      cases hok
    | ok accepts =>
      right
      refine ⟨message, rfl, routed_iff.2 ⟨_, ha⟩, ?_⟩
      cases accepts with
      | false => exact .inl ⟨ha, rfl⟩
      | true => exact .inr ⟨ha, rfl⟩

/-- A call settles the delivery once and returns. -/
def SettlesOnce (tag : Nat) (before : Consumer) (result : Consumer × Except Error Nat) : Prop :=
  (∃ processed, result.2 = .ok processed) ∧
    ∃ s : Settled, s.tag = tag ∧ result.1.settled = s :: before.settled

/-- A delivery is settled exactly once, and the call returns, exactly when its body is a job
message and its routing query does not raise. -/
theorem settlesOnce_iff (limit : Nat) (str : Json → String) (config : WorkerConfig) (d : Delivery)
    (c : Consumer) :
    SettlesOnce d.tag c (handleDelivery limit str config d c) ↔
      IsJobMessage limit d.body ∧ (config.workerType.downloads = none ∨ d.lookup = none) := by
  obtain ⟨hbad, error, he⟩ | ⟨message, hm, hr, ⟨-, he⟩ | ⟨-, he⟩⟩ :=
    handleDelivery_cases limit str config d c
  · rw [he]
    constructor
    · rintro ⟨⟨processed, hok⟩, -⟩
      cases hok
    · rintro ⟨hbody, hroute⟩
      exact (hbad.elim (· hbody) (· hroute)).elim
  · rw [he]
    exact ⟨fun _ => ⟨fromBody_isOk.1 ⟨_, hm⟩, hr⟩, fun _ => ⟨⟨_, rfl⟩, _, rfl, rfl⟩⟩
  · rw [he]
    exact ⟨fun _ => ⟨fromBody_isOk.1 ⟨_, hm⟩, hr⟩, fun _ => ⟨⟨_, rfl⟩, _, rfl, rfl⟩⟩

/-- A delivery with the given body, all of whose statements return. -/
def Delivery.ofBody (tag : Nat) (body : List UInt8) : Delivery where
  tag := tag
  body := body
  lookup := none
  others := id
  closeBefore := none
  claim := { now := 0, updatedAt := 0, outcome := .returned }
  handle := fun job db => (job, db)
  raised := none
  succeed := { now := 0, updatedAt := 0, outcome := .returned }
  announceSuccess := { now := 0, updatedAt := 0, outcome := .returned }
  fail := { now := 0, updatedAt := 0, outcome := .returned }
  announceFailure := { now := 0, updatedAt := 0, outcome := .returned }
  closeAfter := none

/-- The empty body is not JSON: `from_body` raises before anything is settled. -/
theorem empty_body_not_settled : ¬ ∀ (limit : Nat) (str : Json → String) (config : WorkerConfig)
    (d : Delivery) (c : Consumer), SettlesOnce d.tag c (handleDelivery limit str config d c) := by
  intro h
  obtain ⟨⟨processed, hok⟩, -⟩ := h 1000 (fun _ => "") { workerType := .updates, maxMessages := 1 }
    (Delivery.ofBody 1 []) { db := .empty, settled := [] }
  cases hok

namespace ConsumerLoop

/-- The delivery that the loop passes to `handle_delivery`. -/
def handled (s : ConsumerLoop) : LoopEvent → Option Delivery
  | .delivery d => if s.stop then none else some d
  | _ => none

/-- All that one turn of the loop can do to its settlements and to its own end. -/
theorem receive_cases (h : receive limit str config s event = some t) :
    s.state = .consuming ∧
    ((s.handled event = none ∧ t.consumer.settled = s.consumer.settled ∧
      ∀ error, t.state ≠ .died error) ∨
    ∃ d, s.handled event = some d ∧
      t.consumer = (handleDelivery limit str config d s.consumer).1 ∧
      ∀ error, t.state = .died error ↔
        (handleDelivery limit str config d s.consumer).2 = .error error) := by
  unfold receive at h
  split at h
  case isTrue => cases h
  case isFalse hs =>
    refine ⟨not_not.1 hs, ?_⟩
    cases event with
    | signal =>
      cases h
      exact .inl ⟨rfl, rfl, fun error he => hs (he.trans_ne nofun)⟩
    | inactivity others =>
      dsimp only at h
      split at h <;> cases h
      · exact .inl ⟨rfl, rfl, nofun⟩
      · exact .inl ⟨rfl, rfl, fun error he => hs (he.trans_ne nofun)⟩
    | delivery d =>
      dsimp only [handled] at h ⊢
      split at h
      case isTrue hstop =>
        cases h
        exact .inl ⟨if_pos hstop, rfl, nofun⟩
      case isFalse hstop =>
        right
        refine ⟨d, if_neg hstop, ?_⟩
        generalize handleDelivery limit str config d s.consumer = result at h ⊢
        obtain ⟨consumer, error | processed⟩ := result
        · cases h
          exact ⟨rfl, fun error => by simp⟩
        · cases h
          exact ⟨rfl, fun error => by simp; split <;> nofun⟩

/-- What a delivery has to be for the loop to go on after it. -/
def Survivable (limit : Nat) (config : WorkerConfig) (s : ConsumerLoop) (event : LoopEvent) : Prop :=
  ∀ d, s.handled event = some d → IsJobMessage limit d.body ∧ d.routed config.workerType

theorem receive_survives (h : receive limit str config s event = some t) :
    (∀ error, t.state ≠ .died error) ↔
      (∀ error, s.state ≠ .died error) ∧ Survivable limit config s event := by
  obtain ⟨hs, ⟨hd, -, ht⟩ | ⟨d, hd, -, ht⟩⟩ := receive_cases h
  · simp only [hs, ht, hd, Survivable, ne_eq, reduceCtorEq, not_false_eq_true, implies_true,
      false_implies, and_self]
  · simp only [hs, ht, hd, Survivable, ne_eq, reduceCtorEq, not_false_eq_true, implies_true,
      true_and, Option.some.injEq, forall_eq']
    obtain ⟨hbad, error, he⟩ | ⟨message, hm, hr, ⟨-, he⟩ | ⟨-, he⟩⟩ :=
      handleDelivery_cases limit str config d s.consumer
    · rw [he]
      constructor
      · intro hdied
        exact (hdied error rfl).elim
      · rintro ⟨hbody, hroute⟩
        exact (hbad.elim (· hbody) (· hroute)).elim
    · rw [he]
      exact ⟨fun _ => ⟨fromBody_isOk.1 ⟨_, hm⟩, hr⟩, nofun⟩
    · rw [he]
      exact ⟨fun _ => ⟨fromBody_isOk.1 ⟨_, hm⟩, hr⟩, nofun⟩

/-- An exception leaves the loop exactly when one of its deliveries is not a job message or has
its routing query raise. -/
theorem loop_survives_iff (h : exec (receive limit str config) (initial db) events = some t) :
    (∀ error, t.state ≠ .died error) ↔
      Along (receive limit str config) (Survivable limit config) (initial db) events :=
  (exec_keeps_iff (P := fun s => ∀ error, s.state ≠ .died error) (fun _ _ _ => receive_survives)
    h).trans (and_iff_right nofun)

end ConsumerLoop

end GetOffline
