import GetOffline.SlotBackend

set_option autoImplicit true

namespace GetOffline

/-- Where a call of `GlobalSlotScheduler.run` stands. The phases named after a backend method are
those in which that method is about to be called. -/
inductive RunPhase
  | waitStarted
  | waitHeartbeat
  | acquire
  | sleep
  | waitFinished
  | startThread
  | handler
  | release
  | finished
deriving DecidableEq

/-- Where the heartbeat thread of a run stands. -/
inductive HeartbeatPhase
  | absent
  | waiting
  | calling
  | ended
deriving DecidableEq

/-- One call of `GlobalSlotScheduler.run` with its `SlotLease`. -/
structure SlotRun (W T : Type) where
  worker : W
  jobType : HeavyJobKind
  leaseSeconds : T
  phase : RunPhase
  thread : HeartbeatPhase
  stop : Bool

/-- How a backend call ends for its caller. One that raises was either rolled back or committed
before the connection broke. -/
inductive CallOutcome (T : Type)
  | returned (clock : Clock T)
  | rolledBack
  | lost (clock : Clock T)

/-- The workers' processes and the database they share. -/
structure SlotWorld (W L T : Type) where
  requests : Table L (CpuSlotRequest T)
  runs : Table L (SlotRun W T)
  crashed : List W

inductive SlotEvent (W L T : Type)
  | run (worker : W) (leaseId : L) (jobType : HeavyJobKind) (leaseSeconds : T)
  | backend (leaseId : L) (outcome : CallOutcome T)
  | wake (leaseId : L)
  | startThread (leaseId : L) (started : Bool)
  | handlerExit (leaseId : L)
  | heartbeatWait (leaseId : L)
  | heartbeat (leaseId : L) (outcome : CallOutcome T)
  | crash (worker : W)

/-- The phase after a call returned. `wait_finished` is followed by the exception it cleans up for. -/
def RunPhase.returned (answer : SlotAnswer) : RunPhase → RunPhase
  | .waitStarted => .waitHeartbeat
  | .waitHeartbeat => .acquire
  | .acquire => if answer.ok = some true then .startThread else .sleep
  | _ => .finished

/-- The phase after a call raised. Only the polling loop is inside the `try`. -/
def RunPhase.raised : RunPhase → RunPhase
  | .waitHeartbeat | .acquire => .waitFinished
  | _ => .finished

/-- The phases in which the lease has been granted and its handler has not ended. -/
def RunPhase.holding (phase : RunPhase) : Bool :=
  phase = .startThread || phase = .handler

def RunPhase.executing (phase : RunPhase) : Bool :=
  phase = .handler

namespace SlotRun

/-- A run at its first step, with no lease yet. -/
def start (worker : W) (jobType : HeavyJobKind) (leaseSeconds : T) : SlotRun W T :=
  { worker, jobType, leaseSeconds, phase := .waitStarted, thread := .absent, stop := false }

/-- The backend call that the run itself makes next. -/
def pendingCall (leaseId : L) (run : SlotRun W T) : Option (SlotCall L T) :=
  match run.phase with
  | .waitStarted => some (.waitStarted run.jobType leaseId run.leaseSeconds)
  | .waitHeartbeat => some (.waitHeartbeat leaseId run.leaseSeconds)
  | .acquire => some (.acquire run.jobType leaseId run.leaseSeconds)
  | .waitFinished => some (.waitFinished leaseId)
  | .release => some (.release leaseId)
  | .sleep | .startThread | .handler | .finished => none

/-- The run after its call, with the answer if the call returned. -/
def resumed (answer : Option SlotAnswer) (run : SlotRun W T) : SlotRun W T :=
  match answer with
  | some answer => { run with phase := run.phase.returned answer }
  | none => { run with phase := run.phase.raised }

/-- The call that the heartbeat thread makes next. -/
def pendingHeartbeat (leaseId : L) (run : SlotRun W T) : Option (SlotCall L T) :=
  if run.thread = .calling then some (.heartbeat leaseId run.leaseSeconds) else none

/-- An exception ends the heartbeat thread and nothing else. -/
def beaten (answer : Option SlotAnswer) (run : SlotRun W T) : SlotRun W T :=
  { run with thread := if answer.isSome then .waiting else .ended }

def wake (run : SlotRun W T) : Option (SlotRun W T) :=
  if run.phase = .sleep then some { run with phase := .waitHeartbeat } else none

/-- `thread.start()` may raise, and then nobody releases the lease. -/
def startThread (started : Bool) (run : SlotRun W T) : Option (SlotRun W T) :=
  if run.phase = .startThread then
    some (if started then { run with phase := .handler, thread := .waiting }
      else { run with phase := .finished })
  else none

/-- The handler returns or raises, and `SlotLease.release` sets the stop event. -/
def handlerExit (run : SlotRun W T) : Option (SlotRun W T) :=
  if run.phase = .handler then some { run with phase := .release, stop := true } else none

/-- `stop.wait` returns. -/
def heartbeatWait (run : SlotRun W T) : Option (SlotRun W T) :=
  if run.thread = .waiting then
    some { run with thread := if run.stop then .ended else .calling }
  else none

end SlotRun

namespace CallOutcome

/-- The clock readings of a call that took effect. -/
def clock : CallOutcome T → Option (Clock T)
  | .returned clock | .lost clock => some clock
  | .rolledBack => none

end CallOutcome

namespace SlotEvent

def clock : SlotEvent W L T → Option (Clock T)
  | .backend _ outcome | .heartbeat _ outcome => outcome.clock
  | .run _ _ _ _ | .wake _ | .startThread _ _ | .handlerExit _ | .heartbeatWait _ | .crash _ => none

end SlotEvent

namespace SlotWorld

variable [LinearOrder T] [Add T] [DecidableEq L] [DecidableEq W]

def initial : SlotWorld W L T := { requests := ∅, runs := ∅, crashed := [] }

/-- The run of a lease, if its worker has not crashed. -/
def liveRun (leaseId : L) (w : SlotWorld W L T) : Option (SlotRun W T) :=
  (w.runs.lookup leaseId).filter fun run => run.worker ∉ w.crashed

/-- A step of a run that touches nothing else. -/
def move (leaseId : L) (f : SlotRun W T → Option (SlotRun W T)) (w : SlotWorld W L T) :
    Option (SlotWorld W L T) := do
  let run ← w.liveRun leaseId
  let run' ← f run
  some { w with runs := AList.insert leaseId run' w.runs }

/-- The requests after a call, and the answer if the caller gets one. -/
def callBackend (capacity : Nat) (call : SlotCall L T) (outcome : CallOutcome T)
    (requests : Table L (CpuSlotRequest T)) : Table L (CpuSlotRequest T) × Option SlotAnswer :=
  match outcome with
  | .returned clock => (DatabaseSlotBackend.call capacity (clock, call) requests).map id some
  | .rolledBack => (requests, none)
  | .lost clock => ((DatabaseSlotBackend.call capacity (clock, call) requests).1, none)

/-- A backend call made on behalf of a run. -/
def callFor (capacity : Nat) (leaseId : L) (pending : SlotRun W T → Option (SlotCall L T))
    (resume : Option SlotAnswer → SlotRun W T → SlotRun W T) (outcome : CallOutcome T)
    (w : SlotWorld W L T) : Option (SlotWorld W L T) := do
  let run ← w.liveRun leaseId
  let call ← pending run
  let reply := callBackend capacity call outcome w.requests
  some { w with requests := reply.1, runs := AList.insert leaseId (resume reply.2 run) w.runs }

def step (capacity : Nat) (w : SlotWorld W L T) : SlotEvent W L T → Option (SlotWorld W L T)
  | .run worker leaseId jobType leaseSeconds =>
    if worker ∉ w.crashed ∧ w.runs.lookup leaseId = none then
      some { w with runs := AList.insert leaseId (SlotRun.start worker jobType leaseSeconds) w.runs }
    else none
  | .backend leaseId outcome =>
    w.callFor capacity leaseId (SlotRun.pendingCall leaseId) SlotRun.resumed outcome
  | .wake leaseId => w.move leaseId SlotRun.wake
  | .startThread leaseId started => w.move leaseId (SlotRun.startThread started)
  | .handlerExit leaseId => w.move leaseId SlotRun.handlerExit
  | .heartbeatWait leaseId => w.move leaseId SlotRun.heartbeatWait
  | .heartbeat leaseId outcome =>
    w.callFor capacity leaseId (SlotRun.pendingHeartbeat leaseId) SlotRun.beaten outcome
  | .crash worker => some { w with crashed := worker :: w.crashed }

/-- The live runs in the given phases. -/
def runsIn (covers : RunPhase → Bool) (w : SlotWorld W L T) : List L :=
  w.runs.keysWhere fun _ run => covers run.phase && decide (run.worker ∉ w.crashed)

/-- The lease owns a running row. -/
def Owns (w : SlotWorld W L T) (leaseId : L) : Prop :=
  ∃ r, w.requests.lookup leaseId = some r ∧ r.status = .running

/-- The step reads no clock at or past the expiry of a lease whose run is in the given phases. -/
def Timely (covers : RunPhase → Bool) (w : SlotWorld W L T) (e : SlotEvent W L T) : Prop :=
  ∀ clock ∈ e.clock, ∀ l ∈ w.runsIn covers, ∀ r ∈ w.requests.lookup l,
    clock.purge < r.expiresAt ∧ clock.expires < r.expiresAt

instance (covers : RunPhase → Bool) (w : SlotWorld W L T) (e : SlotEvent W L T) :
    Decidable (w.Timely covers e) :=
  inferInstanceAs (Decidable (∀ clock ∈ e.clock, ∀ l ∈ w.runsIn covers,
    ∀ r ∈ w.requests.lookup l, clock.purge < r.expiresAt ∧ clock.expires < r.expiresAt))

end SlotWorld

end GetOffline
