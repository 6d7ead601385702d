import GetOffline.LibraryRows
import GetOffline.PythonFloat

set_option autoImplicit true

namespace GetOffline
open Python

-- api/services/library.py

/-- `DOWNLOAD_STATUSES`. -/
def downloadStatuses : List DownloadStatus := [.downloaded, .missing, .retentionDeleted]

def DownloadRow.hasStatus (status : DownloadStatus) (row : DownloadRow) : Bool :=
  row.downloadStatus = StrEnum.value status

/-- What `library_download_query` selects. -/
def DownloadRow.inLibrary (profileId : String) (row : DownloadRow) : Bool :=
  row.profileId = profileId && downloadStatuses.any fun status => row.hasStatus status

/-- What `next_library_download` leaves out. A null column is no PDF. -/
def DownloadRow.isPdf (row : DownloadRow) : Bool :=
  (row.fileExt.any fun ext => lower ext = "pdf") ||
    row.filePath.any fun path => (".pdf".toList).isSuffixOf (lower path).toList

/-- What the player may go on with. -/
def DownloadRow.playable (profileId : String) (row : DownloadRow) : Bool :=
  row.inLibrary profileId && row.hasStatus .downloaded && !row.isPdf

/-- `order_by("-last_seen_at", "-id")`. -/
def lastSeenFirst (id : Nat) (row : DownloadRow) : Int ×ₗ Int :=
  toLex (-row.lastSeenAt, -(id : Int))

/-- `next_library_download`. -/
def LibraryTables.nextLibraryDownload (profileId : String) (downloadId : Nat) (t : LibraryTables) :
    Option (Nat × DownloadRow) :=
  (t.ownDownload profileId downloadId).bind fun current =>
    t.downloads.rows.first (fun id row => row.playable profileId &&
      (row.lastSeenAt < current.lastSeenAt ||
        row.lastSeenAt = current.lastSeenAt && id < downloadId)) lastSeenFirst

-- api/playback/service.py

structure PlaybackUpdate where
  position : Float64
  reason : String
  completed : Bool
  listenedDelta : Float64

structure PlaybackState where
  episodeId : Nat
  positionSeconds : Float64
  played : Bool
  totalListenedSeconds : Float64

/-- `build_update` and `_playback_update_from_request`, which read the position and name the reasons that
complete an item each in its own way. -/
def playbackUpdate (position : Except Error Float64) (reason : String) (endings : List String)
    (row : DownloadRow) : Option PlaybackUpdate :=
  match position with
  | .error _ => none
  | .ok position =>
    let position := Float64.zero.max position
    let reason := lower (strip reason)
    some {
      position
      reason
      completed := reason ∈ endings
      listenedDelta := Float64.zero.max (position.sub row.lastPositionSeconds.orZero) }

/-- `float(str(position_seconds or 0.0))`. -/
def floatOfPosition (positionSeconds : Option Json) : Except Error Float64 :=
  match Json.orElse positionSeconds (.float .zero) with
  | .float x => .ok x
  | .int n => floatOfText (toString n)
  | .string s => floatOfText s
  | .null | .bool _ | .array _ | .object _ => .error .valueError

/-- `build_update`. `render` is `str()` of a float or a container. -/
def buildUpdate (render : Json → String) (positionSeconds reason : Option Json) (row : DownloadRow) :
    Option PlaybackUpdate :=
  playbackUpdate (floatOfPosition positionSeconds) ((Json.orEmpty reason).str render)
    ["ended", "mini-ended", "complete", "completed"] row

/-- `_playback_update_from_request` of `dashboard_actions`. -/
def playbackUpdateFromRequest (positionSeconds reason : Option String) (row : DownloadRow) :
    Option PlaybackUpdate :=
  playbackUpdate (if hasText positionSeconds then floatOfText (orEmptyText positionSeconds) else .ok .zero)
    (orEmptyText reason) ["ended", "mini-ended"] row

/-- What `apply_update` and `_apply_playback_update` write. -/
def PlaybackUpdate.apply (now : Instant) (update : PlaybackUpdate) (row : DownloadRow) : DownloadRow :=
  { row with
    lastPositionSeconds := if update.completed then .zero else update.position
    totalListenedSeconds := row.totalListenedSeconds.orZero.add update.listenedDelta
    lastPositionUpdatedAt := some now
    lastSeenAt := now
    played := row.played || update.completed
    playedAt := if update.completed then some now else row.playedAt }

/-- The `PlaybackState` of a saved row. -/
def DownloadRow.playbackState (id : Nat) (row : DownloadRow) : PlaybackState where
  episodeId := id
  positionSeconds := row.lastPositionSeconds.orZero
  played := row.played
  totalListenedSeconds := row.totalListenedSeconds.orZero

-- api/views.py, api/services/dashboard_actions.py

/-- How a client saves its progress: the form of the pages, and the two endpoints of the API. -/
inductive ProgressRequest
  | savePosition (positionSeconds reason : Option String)
  | progress (positionSeconds reason : Option Json)
  | complete (positionSeconds : Option Json)

/-- The update that a request is for. `playback_complete` sets the reason itself. -/
def ProgressRequest.update (render : Json → String) (row : DownloadRow) :
    ProgressRequest → Option PlaybackUpdate
  | .savePosition positionSeconds reason => playbackUpdateFromRequest positionSeconds reason row
  | .progress positionSeconds reason => buildUpdate render positionSeconds reason row
  | .complete positionSeconds => buildUpdate render positionSeconds (some (.string "complete")) row

namespace LibraryTables

/-- `save_position`, `playback_progress` and `playback_complete` for an item. The form's answer has no
body. -/
def saveProgress (render : Json → String) (profileId : String) (downloadId : Nat)
    (request : ProgressRequest) (now : Instant) (t : LibraryTables) :
    Answer PlaybackState × LibraryTables :=
  match t.ownDownload profileId downloadId with
  | none => (.notFound, t)
  | some row =>
    match request.update render row with
    | none =>
      match request with
      | .savePosition _ _ => (.refused 400 "", t)
      | .progress _ _ | .complete _ => (.refused 400 "Invalid position_seconds", t)
    | some update =>
      (.ok ((update.apply now row).playbackState downloadId),
        { t with downloads := t.downloads.update (fun id _ => id == downloadId) (update.apply now) })

end LibraryTables

end GetOffline
