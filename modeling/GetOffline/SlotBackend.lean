import GetOffline.SlotLedger
import GetOffline.Table

set_option autoImplicit true

namespace GetOffline

variable [LinearOrder T] [Add T] [DecidableEq L]

/-- The request table of a backend as a map. -/
def ledger (requests : Table L (CpuSlotRequest T)) : Ledger L T :=
  fun leaseId => requests.lookup leaseId

-- The database backend. Each call is one transaction under the lock row, so it is one step.

namespace DatabaseSlotBackend

def purgeExpired (now : T) (requests : Table L (CpuSlotRequest T)) : Table L (CpuSlotRequest T) :=
  requests.delete fun _ r => r.expiresAt ≤ now

def stats (reason : String) (requests : Table L (CpuSlotRequest T)) : SlotStats where
  reason := reason
  inUse := requests.count fun _ r => r.status = .running
  waitingFfmpeg := requests.count fun _ r =>
    r.status = .waiting && r.jobType = StrEnum.value HeavyJobKind.ffmpeg
  waitingTranscript := requests.count fun _ r =>
    r.status = .waiting && r.jobType = StrEnum.value HeavyJobKind.transcript

def waitStarted (clock : Clock T) (jobType : String) (leaseId : L) (leaseSeconds : T)
    (requests : Table L (CpuSlotRequest T)) : Table L (CpuSlotRequest T) × SlotAnswer :=
  let requests := purgeExpired clock.purge requests
  let requests := requests.updateOrCreate leaseId
    (fun _ => { jobType, status := .waiting, expiresAt := clock.expires + leaseSeconds })
    { jobType, status := .waiting, expiresAt := clock.expires + leaseSeconds }
  (requests, { stats := stats "wait-started" requests })

def waitHeartbeat (clock : Clock T) (leaseId : L) (leaseSeconds : T)
    (requests : Table L (CpuSlotRequest T)) : Table L (CpuSlotRequest T) × SlotAnswer :=
  let requests := purgeExpired clock.purge requests
  let selected := fun l (r : CpuSlotRequest T) => l == leaseId && r.status = .waiting
  let updated := requests.count selected
  let requests := requests.update selected fun r => { r with expiresAt := clock.expires + leaseSeconds }
  (requests, { stats := stats "wait-heartbeat" requests, renewed := some (updated != 0) })

def waitFinished (clock : Clock T) (leaseId : L) (requests : Table L (CpuSlotRequest T)) :
    Table L (CpuSlotRequest T) × SlotAnswer :=
  let requests := purgeExpired clock.purge requests
  let requests := requests.delete fun l r => l == leaseId && r.status = .waiting
  (requests, { stats := stats "wait-finished" requests })

def acquire (capacity : Int) (clock : Clock T) (jobType : String) (leaseId : L) (leaseSeconds : T)
    (requests : Table L (CpuSlotRequest T)) : Table L (CpuSlotRequest T) × SlotAnswer :=
  let requests := purgeExpired clock.purge requests
  let inUse := requests.count fun _ r => r.status = .running
  let waitingFfmpeg := requests.any fun l r =>
    (r.status = .waiting && r.jobType = StrEnum.value HeavyJobKind.ffmpeg) && l ≠ leaseId
  if inUse < capacity then
    if parseStrEnum HeavyJobKind jobType = some .ffmpeg ∨ waitingFfmpeg = false then
      let updated := requests.count fun l _ => l == leaseId
      let requests :=
        if updated = 0 then
          AList.insert leaseId
            { jobType, status := .running, expiresAt := clock.expires + leaseSeconds } requests
        else
          requests.update (fun l _ => l == leaseId) fun _ =>
            { jobType, status := .running, expiresAt := clock.expires + leaseSeconds }
      (requests, { ok := some true, stats := stats "acquired" requests })
    else (requests, { ok := some false, stats := stats "ffmpeg-waiting" requests })
  else (requests, { ok := some false, stats := stats "capacity-full" requests })

def release (clock : Clock T) (leaseId : L) (requests : Table L (CpuSlotRequest T)) :
    Table L (CpuSlotRequest T) × SlotAnswer :=
  let requests := purgeExpired clock.purge requests
  let deleted := requests.count fun l _ => l == leaseId
  let requests := requests.delete fun l _ => l == leaseId
  (requests, { stats := stats (if deleted != 0 then "released" else "missing") requests })

def heartbeat (clock : Clock T) (leaseId : L) (leaseSeconds : T)
    (requests : Table L (CpuSlotRequest T)) : Table L (CpuSlotRequest T) × SlotAnswer :=
  let requests := purgeExpired clock.purge requests
  let selected := fun l (r : CpuSlotRequest T) => l == leaseId && r.status = .running
  let updated := requests.count selected
  let requests := requests.update selected fun r => { r with expiresAt := clock.expires + leaseSeconds }
  (requests, { stats := stats "heartbeat" requests, renewed := some (updated != 0) })

def snapshot (clock : Clock T) (requests : Table L (CpuSlotRequest T)) :
    Table L (CpuSlotRequest T) × SlotAnswer :=
  let requests := purgeExpired clock.purge requests
  (requests, { stats := stats "snapshot" requests })

def call (capacity : Int) (e : Clock T × SlotCall L T) (requests : Table L (CpuSlotRequest T)) :
    Table L (CpuSlotRequest T) × SlotAnswer :=
  match e.2 with
  | .waitStarted jobType leaseId leaseSeconds =>
    waitStarted e.1 (StrEnum.value jobType) leaseId leaseSeconds requests
  | .waitHeartbeat leaseId leaseSeconds => waitHeartbeat e.1 leaseId leaseSeconds requests
  | .waitFinished leaseId => waitFinished e.1 leaseId requests
  | .acquire jobType leaseId leaseSeconds =>
    acquire capacity e.1 (StrEnum.value jobType) leaseId leaseSeconds requests
  | .release leaseId => release e.1 leaseId requests
  | .heartbeat leaseId leaseSeconds => heartbeat e.1 leaseId leaseSeconds requests
  | .snapshot => snapshot e.1 requests

end DatabaseSlotBackend

-- The in-memory backend of the unit tests: a dictionary under a thread lock.

namespace InMemorySlotBackend

def purge (now : T) (requests : Table L (CpuSlotRequest T)) : Table L (CpuSlotRequest T) :=
  requests.entries.foldl
    (fun rs e => if e.2.expiresAt ≤ now then AList.erase e.1 rs else rs) requests

def stats (reason : String) (requests : Table L (CpuSlotRequest T)) : SlotStats where
  reason := reason
  inUse := requests.count fun _ r => r.status = .running
  waitingFfmpeg := requests.count fun _ r =>
    r.status = .waiting && parseStrEnum HeavyJobKind r.jobType = some .ffmpeg
  waitingTranscript := requests.count fun _ r => r.status = .waiting && r.jobType = "transcript"

def waitStarted (clock : Clock T) (jobType : String) (leaseId : L) (leaseSeconds : T)
    (requests : Table L (CpuSlotRequest T)) : Table L (CpuSlotRequest T) × SlotAnswer :=
  let requests := purge clock.purge requests
  let requests := AList.insert leaseId
    { jobType, status := .waiting, expiresAt := clock.expires + leaseSeconds } requests
  (requests, { stats := stats "wait-started" requests })

/-- Set `expires_at` of a request that is there. -/
def setExpiresAt (leaseId : L) (expiresAt : T) (requests : Table L (CpuSlotRequest T)) :
    Table L (CpuSlotRequest T) :=
  match requests.lookup leaseId with
  | some r => AList.insert leaseId { r with expiresAt } requests
  | none => requests

def waitHeartbeat (clock : Clock T) (leaseId : L) (leaseSeconds : T)
    (requests : Table L (CpuSlotRequest T)) : Table L (CpuSlotRequest T) × SlotAnswer :=
  let requests := purge clock.purge requests
  let renewed := (requests.lookup leaseId).any fun r => r.status = .waiting
  let requests :=
    if renewed then setExpiresAt leaseId (clock.expires + leaseSeconds) requests else requests
  (requests, { stats := stats "wait-heartbeat" requests, renewed := some renewed })

def waitFinished (clock : Clock T) (leaseId : L) (requests : Table L (CpuSlotRequest T)) :
    Table L (CpuSlotRequest T) × SlotAnswer :=
  let requests := purge clock.purge requests
  let requests :=
    if (requests.lookup leaseId).any fun r => r.status = .waiting then AList.erase leaseId requests
    else requests
  (requests, { stats := stats "wait-finished" requests })

def acquire (capacity : Int) (clock : Clock T) (jobType : String) (leaseId : L) (leaseSeconds : T)
    (requests : Table L (CpuSlotRequest T)) : Table L (CpuSlotRequest T) × SlotAnswer :=
  let requests := purge clock.purge requests
  let inUse := requests.count fun _ r => r.status = .running
  let ffmpegWaiting := requests.any fun otherId r =>
    otherId ≠ leaseId && r.status = .waiting &&
      parseStrEnum HeavyJobKind r.jobType = some .ffmpeg
  if inUse < capacity then
    if parseStrEnum HeavyJobKind jobType = some .ffmpeg ∨ ffmpegWaiting = false then
      let requests := AList.insert leaseId
        { jobType, status := .running, expiresAt := clock.expires + leaseSeconds } requests
      (requests, { ok := some true, stats := stats "acquired" requests })
    else (requests, { ok := some false, stats := stats "ffmpeg-waiting" requests })
  else (requests, { ok := some false, stats := stats "capacity-full" requests })

def release (clock : Clock T) (leaseId : L) (requests : Table L (CpuSlotRequest T)) :
    Table L (CpuSlotRequest T) × SlotAnswer :=
  let requests := purge clock.purge requests
  let reason := if (requests.lookup leaseId).isSome then "released" else "missing"
  let requests := AList.erase leaseId requests
  (requests, { stats := stats reason requests })

def heartbeat (clock : Clock T) (leaseId : L) (leaseSeconds : T)
    (requests : Table L (CpuSlotRequest T)) : Table L (CpuSlotRequest T) × SlotAnswer :=
  let requests := purge clock.purge requests
  let renewed := (requests.lookup leaseId).any fun r => r.status = .running
  let requests :=
    if renewed then setExpiresAt leaseId (clock.expires + leaseSeconds) requests else requests
  (requests, { stats := stats "heartbeat" requests, renewed := some renewed })

def snapshot (clock : Clock T) (requests : Table L (CpuSlotRequest T)) :
    Table L (CpuSlotRequest T) × SlotAnswer :=
  let requests := purge clock.purge requests
  (requests, { stats := stats "snapshot" requests })

def call (capacity : Int) (e : Clock T × SlotCall L T) (requests : Table L (CpuSlotRequest T)) :
    Table L (CpuSlotRequest T) × SlotAnswer :=
  match e.2 with
  | .waitStarted jobType leaseId leaseSeconds =>
    waitStarted e.1 (StrEnum.value jobType) leaseId leaseSeconds requests
  | .waitHeartbeat leaseId leaseSeconds => waitHeartbeat e.1 leaseId leaseSeconds requests
  | .waitFinished leaseId => waitFinished e.1 leaseId requests
  | .acquire jobType leaseId leaseSeconds =>
    acquire capacity e.1 (StrEnum.value jobType) leaseId leaseSeconds requests
  | .release leaseId => release e.1 leaseId requests
  | .heartbeat leaseId leaseSeconds => heartbeat e.1 leaseId leaseSeconds requests
  | .snapshot => snapshot e.1 requests

end InMemorySlotBackend

end GetOffline
