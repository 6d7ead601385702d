import GetOffline.MediaDisk

set_option autoImplicit true

namespace GetOffline
open Python

-- workers/handlers.py

/-- `download.completed_at or download.first_seen_at`. -/
def DownloadRow.contentDate (row : DownloadRow) : Instant :=
  row.completedAt.getD row.firstSeenAt

/-- `int(payload.get("retention_days") or configured_days or 0)`. -/
def retentionDays (payload : Json) (configuredDays : Option String) : Except Error Int :=
  let configured : Json :=
    match configuredDays with
    | some text => if text = "" then .int 0 else .string text
    | none => .int 0
  match (Json.orElse (Json.get "retention_days" payload.dict) configured).toInt with
  | .error .typeError | .error .valueError => .ok 0
  | days => days

/-- `now - timedelta(days=retention_days)`. -/
def retentionCutoff (now : Instant) (days : Int) : Except Error Instant :=
  let cutoff := now - days * 86400 * 1000000
  if 999999999 < days ∨ cutoff < minInstant then .error .overflowError else .ok cutoff

/-- The rows that the clean-up looks at. -/
def DownloadRow.cleanable (profileId : String) (row : DownloadRow) : Bool :=
  row.profileId = profileId && row.downloadStatus = StrEnum.value DownloadStatus.downloaded &&
    !(row.sourceType = "manual")

/-- `order_by("completed_at", "first_seen_at", "id")`: nulls come first. -/
def cleanupOrder (id : Nat) (row : DownloadRow) : Nat ×ₗ (Instant ×ₗ (Instant ×ₗ Nat)) :=
  toLex (row.completedAt.isSome.toNat, toLex (row.completedAt.getD 0, toLex (row.firstSeenAt, id)))

namespace MediaStore

/-- `download.save(update_fields=["download_status", "last_seen_at"])`. -/
def mark (id : Nat) (status : DownloadStatus) (now : Instant) (s : MediaStore) : MediaStore :=
  { s with downloads := s.downloads.update (fun other _ => other == id) fun row =>
      { row with downloadStatus := StrEnum.value status, lastSeenAt := now } }

/-- A turn of the loop of `retention_cleanup`. -/
def cleanRow (machine : Machine) (cutoff now : Instant) (id : Nat) (row : DownloadRow)
    (s : MediaStore) : MediaStore :=
  match row.mediaEntry machine with
  | none => s.mark id .missing now
  | some name =>
    if !s.disk.isFile name then s.mark id .missing now
    else if row.favorite then s
    else if cutoff < row.contentDate then s
    else
      match s.disk.unlink machine name with
      | .ok disk => { s with disk }.mark id .retentionDeleted now
      | .error .fileNotFound => s.mark id .retentionDeleted now
      | .error .osError => s

/-- `retention_cleanup`. The database carries out what it is told. -/
def retentionCleanup (machine : Machine) (profileId : String) (payload : Json)
    (configuredDays : Option String) (started now : Instant) (s : MediaStore) :
    Except Error MediaStore := do
  let days ← retentionDays payload configuredDays
  if days ≤ 0 then return s
  let cutoff ← retentionCutoff started days
  let rows := s.downloads.rows.orderBy (fun _ row => row.cleanable profileId) cleanupOrder
  return rows.foldl (fun s e => s.cleanRow machine cutoff now e.1 e.2) s

end MediaStore

end GetOffline
