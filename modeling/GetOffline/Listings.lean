import GetOffline.Playback
import GetOffline.PythonPath

set_option autoImplicit true

namespace GetOffline
open Python

/-- What the language and the database make of text outside ASCII: `str.lower()`, and `icontains`. -/
structure TextRules where
  lower : String → String
  icontains : String → String → Bool

/-- `needle in text`. -/
def isIn (needle text : String) : Bool :=
  decide (needle.toList <:+: text.toList)

-- api/services/library.py, shared/schemas/media.py

structure EpisodeSummary where
  id : Nat
  title : String
  sourceName : String
  sourceType : String
  description : String
  durationSeconds : Option Float64
  played : Bool
  favorite : Bool
  lastPositionSeconds : Float64
  totalListenedSeconds : Float64
  downloadStatus : String
  mediaUrl : String
  streamUrl : String
  subtitlesUrl : Option String

/-- `value or default`, of texts. -/
def textOr (default : String) (value : String) : String :=
  if value = "" then default else value

def episodeToSummary (id : Nat) (row : DownloadRow) : EpisodeSummary where
  id := id
  title := textOr "Untitled" (orEmptyText row.title)
  sourceName := textOr row.sourceType row.sourceName
  sourceType := row.sourceType
  description := orEmptyText row.description
  durationSeconds := row.durationSeconds.map fun n => .ofRatio (n < 0) n.natAbs 1
  played := row.played
  favorite := row.favorite
  lastPositionSeconds := row.lastPositionSeconds.orZero
  totalListenedSeconds := row.totalListenedSeconds.orZero
  downloadStatus := row.downloadStatus
  mediaUrl := "/media/" ++ toString id ++ "/"
  streamUrl := "/api/stream/" ++ toString id
  subtitlesUrl :=
    if hasText row.subtitlePath || hasText row.subtitlePathRelative then
      some ("/subtitle/" ++ toString id ++ "/")
    else none

inductive LibraryFilter
  | all
  | played
  | favorites
  | unplayed
deriving DecidableEq

def normalizeLibraryFilter (value : Option String) : LibraryFilter :=
  let mode := lower (strip (textOr "unplayed" (orEmptyText value)))
  if mode = "all" then .all
  else if mode = "played" then .played
  else if mode = "favorites" then .favorites
  else .unplayed

/-- What the mode selects in the library. -/
def LibraryFilter.selects : LibraryFilter → DownloadRow → Bool
  | .all, _ => true
  | .played, row => row.played && row.hasStatus .downloaded
  | .favorites, row => row.favorite && row.hasStatus .downloaded
  | .unplayed, row => !row.played && row.hasStatus .downloaded

namespace LibraryTables

def libraryRows (profileId : String) (p : DownloadRow → Bool) (t : LibraryTables) :
    List (Nat × DownloadRow) :=
  t.downloads.rows.orderBy (fun _ row => row.inLibrary profileId && p row) lastSeenFirst

def listDownloads (profileId : String) (mode : LibraryFilter) (t : LibraryTables) :
    List (Nat × DownloadRow) :=
  let rows := t.libraryRows profileId mode.selects
  if mode = .all then rows else rows.take 100

/-- `paginated_downloads`: the rows of the page and the number of all that match. -/
def paginatedDownloads (rules : TextRules) (profileId : String) (mode : LibraryFilter)
    (searchTerm : String) (page pageSize : Int) (t : LibraryTables) : List (Nat × DownloadRow) × Nat :=
  let page := max 1 page
  let pageSize := max 1 (min pageSize 100)
  let search := strip searchTerm
  let rows := t.libraryRows profileId fun row => mode.selects row &&
    (search = "" || row.title.any (rules.icontains search) || rules.icontains search row.sourceName)
  let total := rows.length
  let page := min page (max 1 ((total + pageSize - 1) / pageSize))
  ((rows.drop ((page - 1) * pageSize).toNat).take pageSize.toNat, total)

end LibraryTables

-- api/services/dashboard_actions.py

/-- `reverse("player", args=[download_id]) + f"?t={t}"`. -/
structure PlayerUrl where
  downloadId : Nat
  t : Int

structure TranscriptResult where
  id : Nat
  title : String
  sourceName : String
  startSeconds : Float64
  text : String
  positionLabel : String
  url : PlayerUrl

def transcriptResult (segment : TranscriptSegment) (row : DownloadRow) :
    Except Error TranscriptResult := do
  let start ← segment.startSeconds.toInt
  return {
    id := segment.downloadId
    title := textOr "Untitled" (orEmptyText row.title)
    sourceName := textOr row.sourceType row.sourceName
    startSeconds := segment.startSeconds
    text := segment.text
    positionLabel :=
      if "ocr://".toList.isPrefixOf segment.subtitlePath.toList then "Page " ++ toString (start + 1)
      else ""
    url := { downloadId := segment.downloadId, t := start } }

/-- The row of a segment, if the search may show it. -/
def LibraryTables.searchable (profileId : String) (segment : TranscriptSegment) (t : LibraryTables) :
    Option DownloadRow :=
  (t.downloads.rows.lookup segment.downloadId).filter fun row => row.inLibrary profileId

/-- `transcript_search`. Segments of one place of one download come in any order; here by id. -/
def LibraryTables.transcriptSearch (rules : TextRules) (profileId : String) (q : Option String)
    (t : LibraryTables) : Except Error (List TranscriptResult) :=
  let query := strip (orEmptyText q)
  if query.length < 2 then .ok []
  else
    let segments := t.segments.rows.orderBy
      (fun _ segment => rules.icontains query segment.text && (t.searchable profileId segment).isSome)
      fun id segment => toLex (segment.downloadId, toLex (segment.startSeconds.toRat.getD 0, id))
    (segments.take 50).filterMap (fun e =>
      (t.searchable profileId e.2).map (transcriptResult e.2)) |>.mapM fun result => result

-- api/views.py

/-- A page number of the query string: `int(value or default)`, and the default for no number. -/
def pageNumber (default : Int) (value : Option String) : Int :=
  if hasText value then ((intOfText (orEmptyText value)).toOption).getD default else default

/-- `_pagination_params`. -/
def paginationParams (page pageSize : Option String) : Int × Int :=
  (max 1 (pageNumber 1 page), max 1 (min 100 (pageNumber 100 pageSize)))

structure PlaylistEntry where
  position : Int
  episode : EpisodeSummary

structure PlayerPlaylistItem where
  id : Nat
  title : String

structure PlayerAnswer where
  item : EpisodeSummary
  hasSubtitles : Bool
  seekSeconds : Float64
  mediaKind : String
  playlistId : Option Int
  playlistItems : List PlayerPlaylistItem

/-- The extension by which `frontend_player` and `frontend_next_player` tell the kind. -/
def DownloadRow.mediaExt (row : DownloadRow) : String :=
  lower (textOr (Path.parse (orEmptyText row.filePath)).extension (orEmptyText row.fileExt))

def DownloadRow.mediaKind (row : DownloadRow) : String :=
  if row.mediaExt ∈ ["mp4", "mkv", "webm", "mov"] then "video"
  else if row.mediaExt = "pdf" then "document"
  else "audio"

namespace LibraryTables

def frontendLibrary (rules : TextRules) (profileId : String) (filter search page pageSize : Option String)
    (t : LibraryTables) : List EpisodeSummary × Nat :=
  let (page, pageSize) := paginationParams page pageSize
  let (episodes, total) := t.paginatedDownloads rules profileId (normalizeLibraryFilter filter)
    (orEmptyText search) page pageSize
  (episodes.map fun e => episodeToSummary e.1 e.2, total)

def library (profileId : String) (filter : Option String) (t : LibraryTables) : List EpisodeSummary :=
  (t.listDownloads profileId (normalizeLibraryFilter filter)).map fun e => episodeToSummary e.1 e.2

def search (rules : TextRules) (profileId : String) (q : Option String) (t : LibraryTables) :
    List EpisodeSummary :=
  let query := strip (orEmptyText q)
  if query.length < 2 then []
  else
    let lowered := rules.lower query
    let results := (t.listDownloads profileId .all).filter fun e =>
      isIn lowered (rules.lower (orEmptyText e.2.title)) ||
        isIn lowered (rules.lower (orEmptyText e.2.description))
    (results.map fun e => episodeToSummary e.1 e.2).take 50

def history (profileId : String) (t : LibraryTables) : List EpisodeSummary :=
  ((t.listDownloads profileId .all).filter fun e =>
    e.2.played || Float64.zero.lt e.2.lastPositionSeconds.orZero).map fun e => episodeToSummary e.1 e.2

/-- `playlist_detail`: the items of the playlist with their downloads. -/
def playlistDetail (profileId : String) (playlistId : Nat) (t : LibraryTables) :
    Answer (List PlaylistEntry) :=
  match t.ownPlaylist profileId playlistId with
  | none => .notFound
  | some _ =>
    .ok ((t.playlistItems playlistId).filterMap fun e =>
      (t.downloads.rows.lookup e.2.downloadId).map fun row =>
        { position := e.2.position, episode := episodeToSummary e.2.downloadId row })

/-- The playlist that the query string of `frontend_player` names. -/
def requestedPlaylist (profileId : String) (playlist : Option String) (t : LibraryTables) :
    Option Int :=
  if hasText playlist then
    match intOfText (orEmptyText playlist) with
    | .ok id => if 0 ≤ id ∧ (t.ownPlaylist profileId id.toNat).isSome then some id else none
    | .error _ => none
  else none

/-- The items that `frontend_player` hands to the player. -/
def playerPlaylistItems (playlistId : Nat) (t : LibraryTables) : List PlayerPlaylistItem :=
  (t.playlistItems playlistId).filterMap fun e =>
    ((t.downloads.rows.lookup e.2.downloadId).filter fun row =>
      !(row.hasStatus .missing || row.hasStatus .retentionDeleted)).map fun row =>
        { id := e.2.downloadId, title := textOr "Untitled" (orEmptyText row.title) }

/-- `frontend_player`. `hasSubtitles` tells whether `resolve_subtitle_path` finds a file for the row. -/
def frontendPlayer (hasSubtitles : DownloadRow → Bool) (profileId : String) (episodeId : Nat)
    (seek playlist : Option String) (t : LibraryTables) : Answer PlayerAnswer :=
  match t.ownDownload profileId episodeId with
  | none => .notFound
  | some row =>
    let requestedSeek :=
      if hasText seek then ((floatOfText (orEmptyText seek)).toOption).getD .zero else .zero
    let playlistId := t.requestedPlaylist profileId playlist
    .ok {
      item := episodeToSummary episodeId row
      hasSubtitles := hasSubtitles row
      seekSeconds := row.lastPositionSeconds.orZero.max requestedSeek
      mediaKind := row.mediaKind
      playlistId
      playlistItems := (playlistId.map fun id => t.playerPlaylistItems id.toNat).getD [] }

end LibraryTables

end GetOffline
