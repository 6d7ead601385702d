import GetOffline.Execution
import GetOffline.LibraryRows

set_option autoImplicit true

namespace GetOffline
open Python Execution

-- api/views.py

/-- The ids that the loop of `playlist_add_items` takes: `TypeError` and `ValueError` skip a value. -/
def intIds : List Json → Except Error (List Int)
  | [] => .ok []
  | rawId :: rawIds =>
    match rawId.toInt with
    | .ok id => (intIds rawIds).map (id :: ·)
    | .error .typeError | .error .valueError => intIds rawIds
    | .error error => .error error

/-- `data.get("download_ids") or data.get("ids") or []`, a text standing for a list of one. -/
def rawDownloadIds (data : List (String × Json)) : Option (List Json) :=
  match Json.orElse (Json.get "download_ids" data) (Json.orElse (Json.get "ids" data) (.array [])) with
  | .string rawId => some [.string rawId]
  | .array rawIds => some rawIds
  | _ => none

/-- The rows of the profile among the ids, in the order of the request. -/
def requestedDownloads (profileId : String) (ids : List Int) (downloads : AutoTable DownloadRow) :
    List Nat :=
  ids.filterMap fun id =>
    if 0 ≤ id ∧ (downloads.rows.lookup id.toNat).any fun row => row.profileId = profileId then
      some id.toNat
    else none

/-- The last position of a playlist, `or -1`. -/
def lastPosition (playlistId : Nat) (items : AutoTable PlaylistItem) : Int :=
  let last := items.rows.first (fun _ item => item.playlistId == playlistId) fun (id : Nat) item =>
    toLex (-item.position, -(id : Int))
  match last.map fun e => e.2.position with
  | some position => if position = 0 then -1 else position
  | none => -1

/-- `PlaylistItem.objects.create(...)`: a download is in a playlist once. -/
def createItem (item : PlaylistItem) (items : AutoTable PlaylistItem) :
    Except Error (AutoTable PlaylistItem) :=
  if items.rows.any fun _ other =>
      other.playlistId == item.playlistId && other.downloadId == item.downloadId then
    .error .databaseError
  else .ok (items.insert item)

/-- The loop of `playlist_add_items` over the downloads: how many items it creates, and the exception
that leaves it. The database takes so many more writes (`none`: any number) before one fails. -/
def createItems (playlistId : Nat) (existing : List Nat) (now : Instant) :
    List Nat → Int → Option Nat → AutoTable PlaylistItem →
      Nat × Option Nat × Option Error × AutoTable PlaylistItem
  | [], _, writes, items => (0, writes, none, items)
  | downloadId :: downloads, position, writes, items =>
    if downloadId ∈ existing then createItems playlistId existing now downloads position writes items
    else if writes = some 0 then (0, writes, some .databaseError, items)
    else
      match createItem { playlistId, downloadId, position := position + 1, addedAt := now } items with
      | .error error => (0, writes, some error, items)
      | .ok items =>
        let rest := createItems playlistId existing now downloads (position + 1)
          (writes.map fun n => n - 1) items
        (rest.1 + 1, rest.2)

namespace LibraryTables

/-- `playlist.save(update_fields=["updated_at"])`. -/
def touchPlaylist (playlistId : Nat) (now : Instant) (t : LibraryTables) : LibraryTables :=
  { t with playlists := t.playlists.update (fun id _ => id == playlistId) fun playlist =>
      { playlist with updatedAt := now } }

/-- The downloads among the ids that the playlist has. -/
def existingDownloads (playlistId : Nat) (ids : List Int) (t : LibraryTables) : List Nat :=
  ((t.playlistItems playlistId).filter fun e => (e.2.downloadId : Int) ∈ ids).map fun e =>
    e.2.downloadId

/-- `playlist_add_items`. Every write is a transaction of its own. -/
def playlistAddItems (profileId : String) (playlistId : Nat) (data : List (String × Json))
    (now : Instant) (writes : Option Nat) (t : LibraryTables) : Answer Nat × LibraryTables :=
  match t.ownPlaylist profileId playlistId with
  | none => (.notFound, t)
  | some playlist =>
    match rawDownloadIds data with
    | none => (.refused 400 "download_ids must be a list", t)
    | some rawIds =>
      match intIds rawIds with
      | .error error => (.raised error, t)
      | .ok ids =>
        let downloads := requestedDownloads playlist.profileId ids t.downloads
        match createItems playlistId (t.existingDownloads playlistId ids) now downloads
          (lastPosition playlistId t.items) writes t.items with
        | (_, _, some error, items) => (.raised error, { t with items })
        | (created, writes, none, items) =>
          if writes = some 0 then (.raised .databaseError, { t with items })
          else (.ok created, { t with items }.touchPlaylist playlistId now)

/-- `playlist_remove_item`. -/
def playlistRemoveItem (profileId : String) (playlistId downloadId : Nat) (now : Instant)
    (t : LibraryTables) : Answer Bool × LibraryTables :=
  match t.ownPlaylist profileId playlistId with
  | none => (.notFound, t)
  | some _ =>
    let chosen (_ : Nat) (item : PlaylistItem) :=
      item.playlistId == playlistId && item.downloadId == downloadId
    let deleted := t.items.rows.any chosen
    let t := { t with items := t.items.delete chosen }
    (.ok deleted, if deleted then t.touchPlaylist playlistId now else t)

/-- `playlist_create`: the id of the new playlist. `render` is `str()` of a float or a container. -/
def playlistCreate (render : Json → String) (profileId : String) (data : List (String × Json))
    (now : Instant) (t : LibraryTables) : Answer Nat × LibraryTables :=
  let name := strip ((Json.orEmpty (Json.get "name" data)).str render)
  if name = "" then (.refused 400 "Playlist name is required", t)
  else if 255 < name.length then (.refused 400 "Playlist name is too long", t)
  else if t.playlists.rows.any fun _ playlist => playlist.profileId = profileId && playlist.name = name then
    (.refused 409 "A playlist with that name already exists", t)
  else
    let playlist := { profileId, name, createdAt := now, updatedAt := now }
    (.ok t.playlists.nextId, { t with playlists := t.playlists.insert playlist })

/-- `playlist_delete`: the items go with the playlist. -/
def playlistDelete (profileId : String) (playlistId : Nat) (t : LibraryTables) :
    Answer Unit × LibraryTables :=
  match t.ownPlaylist profileId playlistId with
  | none => (.notFound, t)
  | some _ =>
    (.ok (), { t with
      playlists := t.playlists.delete fun id _ => id == playlistId
      items := t.items.delete fun _ item => item.playlistId == playlistId })

/-- Other writers give the `downloads` table new contents. The items and the segments of a row that is
gone go with it. -/
def setDownloads (downloads : AutoTable DownloadRow) (t : LibraryTables) : LibraryTables :=
  { t with
    downloads
    items := t.items.delete fun _ item => (downloads.rows.lookup item.downloadId).isNone
    segments := t.segments.delete fun _ segment => (downloads.rows.lookup segment.downloadId).isNone }

end LibraryTables

end GetOffline
