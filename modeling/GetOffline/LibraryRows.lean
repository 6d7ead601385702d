import GetOffline.AutoTable
import GetOffline.DownloadRows
import GetOffline.PythonTime

set_option autoImplicit true

namespace GetOffline
open Python

-- models/models.py

/-- The columns of a `downloads` row that the dashboard and the clean-up read. -/
structure DownloadRow where
  profileId : String := "default"
  sourceType : String
  sourceName : String
  title : Option String := none
  description : Option String := none
  durationSeconds : Option Int := none
  filePath : Option String := none
  filePathRelative : Option String := none
  fileExt : Option String := none
  subtitlePath : Option String := none
  subtitlePathRelative : Option String := none
  downloadStatus : String := "downloaded"
  firstSeenAt : Instant
  lastSeenAt : Instant
  completedAt : Option Instant := none
  played : Bool := false
  favorite : Bool := false
  playedAt : Option Instant := none
  lastPositionSeconds : Float64 := .finite false 0 0
  totalListenedSeconds : Float64 := .finite false 0 0
  lastPositionUpdatedAt : Option Instant := none

structure Playlist where
  profileId : String := "default"
  name : String
  createdAt : Instant
  updatedAt : Instant

structure PlaylistItem where
  playlistId : Nat
  downloadId : Nat
  position : Int
  addedAt : Instant

structure TranscriptSegment where
  downloadId : Nat
  subtitlePath : String
  startSeconds : Float64
  endSeconds : Option Float64
  text : String

/-- The tables behind the library pages. -/
structure LibraryTables where
  downloads : AutoTable DownloadRow
  playlists : AutoTable Playlist
  items : AutoTable PlaylistItem
  segments : AutoTable TranscriptSegment

/-- What a view answers: a body, a response with an error text, the 404 of `get_object_or_404`, or the
exception that leaves it. -/
inductive Answer (α : Type u)
  | ok (body : α)
  | refused (status : Nat) (error : String)
  | notFound
  | raised (error : Error)
deriving DecidableEq

/-- `value or ""`. -/
def orEmptyText (value : Option String) : String :=
  value.getD ""

/-- `bool(value)` of a nullable text. -/
def hasText (value : Option String) : Bool :=
  value.any fun text => text ≠ ""

/-- `update_or_create`: the id of the row. -/
def updateOrCreateRow (lookup : Nat → ρ → Bool) (new : ρ) (update : ρ → ρ) (t : AutoTable ρ) :
    Except Error (Nat × AutoTable ρ) :=
  match t.rows.keysWhere lookup with
  | [] => .ok (t.nextId, t.insert new)
  | [id] => .ok (id, t.update (fun other _ => other == id) update)
  | _ => .error (.other "MultipleObjectsReturned")

section
variable {lookup : Nat → ρ → Bool} {new : ρ} {update : ρ → ρ} {t t' : AutoTable ρ} {id : Nat}

theorem updateOrCreateRow_spec (h : updateOrCreateRow lookup new update t = .ok (id, t')) :
    ∃ row, (∀ i, t'.rows.lookup i = if i = id then some row else t.rows.lookup i) ∧
      ((row = new ∧ t.rows.lookup id = none ∧ ∀ i r, t.rows.lookup i = some r → ¬ lookup i r = true) ∨
        ∃ old, row = update old ∧ t.rows.lookup id = some old ∧
          ∀ i, (∃ r, t.rows.lookup i = some r ∧ lookup i r = true) ↔ i = id) := by
  rw [updateOrCreateRow] at h
  split at h
  · next hnone =>
    cases h
    refine ⟨new, AutoTable.lookup_insert new t, .inl ⟨rfl, t.fresh _ le_rfl, ?_⟩⟩
    intro i r hr hlookup
    have hmem := Table.mem_keysWhere.2 ⟨r, hr, hlookup⟩
    rw [hnone] at hmem
    exact List.not_mem_nil hmem
  · next found hfound =>
    cases h
    have hkeys (i : Nat) : (∃ r, t.rows.lookup i = some r ∧ lookup i r = true) ↔ i = id := by
      rw [← Table.mem_keysWhere, hfound, List.mem_singleton]
    obtain ⟨old, hold, -⟩ := (hkeys id).2 rfl
    refine ⟨update old, ?_, .inr ⟨old, rfl, hold, hkeys⟩⟩
    intro i
    rw [AutoTable.lookup_update_at, hold]
    rfl
  · cases h

end

namespace LibraryTables

def empty : LibraryTables :=
  { downloads := .empty, playlists := .empty, items := .empty, segments := .empty }

/-- `get_object_or_404(Playlist, pk=playlist_id, profile_id=profile_id)`. -/
def ownPlaylist (profileId : String) (playlistId : Nat) (t : LibraryTables) : Option Playlist :=
  (t.playlists.rows.lookup playlistId).filter fun playlist => playlist.profileId = profileId

/-- `get_object_or_404(Download, pk=download_id, profile_id=profile_id)`. -/
def ownDownload (profileId : String) (downloadId : Nat) (t : LibraryTables) : Option DownloadRow :=
  (t.downloads.rows.lookup downloadId).filter fun row => row.profileId = profileId

/-- `PlaylistItem.objects.filter(playlist=playlist)`, in the order of the model. -/
def playlistItems (playlistId : Nat) (t : LibraryTables) : List (Nat × PlaylistItem) :=
  t.items.rows.orderBy (fun _ item => item.playlistId == playlistId) fun id item =>
    toLex (item.position, id)

end LibraryTables

end GetOffline
