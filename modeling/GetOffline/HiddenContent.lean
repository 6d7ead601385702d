import GetOffline.Listings
import GetOffline.PlaylistOrder

set_option autoImplicit true

namespace GetOffline
open Python Execution

/-- A request to an endpoint that lists downloads; `playlistItems` is the list of `frontend_player`. -/
inductive ListingRequest
  | frontendLibrary (filter term page pageSize : Option String)
  | library (filter : Option String)
  | search (q : Option String)
  | history
  | transcriptSearch (q : Option String)
  | nextPlayer (episodeId : Nat)
  | playlistDetail (playlistId : Nat)
  | playlistItems (episodeId : Nat) (seek playlist : Option String)

/-- The downloads in the answer to a request. -/
def ListingRequest.ids (rules : TextRules) (hasSubtitles : DownloadRow → Bool) (profileId : String)
    (t : LibraryTables) : ListingRequest → List Nat
  | .frontendLibrary filter term page pageSize =>
    (t.frontendLibrary rules profileId filter term page pageSize).1.map EpisodeSummary.id
  | .library filter => (t.library profileId filter).map EpisodeSummary.id
  | .search q => (t.search rules profileId q).map EpisodeSummary.id
  | .history => (t.history profileId).map EpisodeSummary.id
  | .transcriptSearch q =>
    match t.transcriptSearch rules profileId q with
    | .ok results => results.map TranscriptResult.id
    | .error _ => []
  | .nextPlayer episodeId => ((t.nextLibraryDownload profileId episodeId).map Prod.fst).toList
  | .playlistDetail playlistId =>
    match t.playlistDetail profileId playlistId with
    | .ok entries => entries.map fun entry => entry.episode.id
    | _ => []
  | .playlistItems episodeId seek playlist =>
    match t.frontendPlayer hasSubtitles profileId episodeId seek playlist with
    | .ok answer => answer.playlistItems.map PlayerPlaylistItem.id
    | _ => []

namespace LibraryTables

def IsFiltered (downloadId : Nat) (t : LibraryTables) : Prop :=
  ∃ row, t.downloads.rows.lookup downloadId = some row ∧ row.hasStatus .filtered = true

/-- No listing has a filtered download. -/
def Hides (rules : TextRules) (hasSubtitles : DownloadRow → Bool) (t : LibraryTables) : Prop :=
  ∀ profileId (request : ListingRequest),
    ∀ downloadId ∈ request.ids rules hasSubtitles profileId t, ¬ t.IsFiltered downloadId

/-- An item belongs to a playlist. -/
def Owned (t : LibraryTables) : Prop :=
  ∀ playlistId, ∀ downloadId ∈ listed playlistId t.items,
    (t.playlists.rows.lookup playlistId).isSome = true

/-- No playlist has a filtered download. -/
def Unfiltered (t : LibraryTables) : Prop :=
  ∀ playlistId, ∀ downloadId ∈ listed playlistId t.items, ¬ t.IsFiltered downloadId

end LibraryTables

theorem DownloadRow.not_filtered {row : DownloadRow} {profileId : String} (h : row.inLibrary profileId = true) :
    row.hasStatus .filtered = false := by
  rw [inLibrary, Bool.and_eq_true, List.any_eq_true] at h
  obtain ⟨-, status, hstatus, heq⟩ := h
  rw [hasStatus, decide_eq_true_eq] at heq
  rw [hasStatus, heq, decide_eq_false_iff_not]
  have hall : ∀ status ∈ downloadStatuses,
      StrEnum.value status ≠ StrEnum.value DownloadStatus.filtered := by
    decide
  exact hall status hstatus

namespace LibraryTables
variable {t : LibraryTables} {rules : TextRules} {hasSubtitles : DownloadRow → Bool}

theorem not_isFiltered (hrow : t.downloads.rows.lookup downloadId = some row)
    (h : row.hasStatus .filtered = false) : ¬ t.IsFiltered downloadId := by
  rintro ⟨other, hother, hfiltered⟩
  rw [hrow] at hother
  obtain rfl := Option.some.inj hother
  rw [h] at hfiltered
  cases hfiltered

/-- What the library pages show is in the library. -/
theorem not_isFiltered_of_libraryRows (h : e ∈ t.libraryRows profileId p) : ¬ t.IsFiltered e.1 := by
  obtain ⟨hrow, hp⟩ := Table.mem_orderBy.1 h
  rw [Bool.and_eq_true] at hp
  exact not_isFiltered hrow (DownloadRow.not_filtered hp.1)

theorem libraryRows_of_listDownloads (h : e ∈ t.listDownloads profileId mode) :
    e ∈ t.libraryRows profileId mode.selects := by
  rw [listDownloads] at h
  split at h
  · exact h
  · exact List.mem_of_mem_take h

theorem summary_ids (rows : List (Nat × DownloadRow)) :
    (rows.map fun e => episodeToSummary e.1 e.2).map EpisodeSummary.id = rows.map Prod.fst := by
  rw [List.map_map]
  rfl

theorem mem_of_mapM {l : List (Except Error α)} {results : List α}
    (h : l.mapM (fun result => result) = .ok results) (hmem : a ∈ results) : .ok a ∈ l := by
  induction l generalizing results with
  | nil =>
    obtain rfl := Except.ok.inj h
    exact (List.not_mem_nil hmem).elim
  | cons result l ih =>
    rw [List.mapM_cons] at h
    obtain ⟨b, hb, h⟩ := bind_eq_ok.1 h
    obtain ⟨rest, hrest, h⟩ := bind_eq_ok.1 h
    obtain rfl := Except.ok.inj h
    rcases List.mem_cons.1 hmem with rfl | hmem
    · rw [hb]
      exact List.mem_cons_self
    · exact List.mem_cons_of_mem _ (ih hrest hmem)

theorem not_isFiltered_of_transcriptSearch (h : t.transcriptSearch rules profileId q = .ok results)
    (hmem : result ∈ results) : ¬ t.IsFiltered result.id := by
  rw [transcriptSearch] at h
  split at h
  · obtain rfl := Except.ok.inj h
    exact (List.not_mem_nil hmem).elim
  · obtain ⟨e, -, hfound⟩ := List.mem_filterMap.1 (mem_of_mapM h hmem)
    obtain ⟨row, hrow, hok⟩ := Option.map_eq_some_iff.1 hfound
    obtain ⟨hlookup, hlibrary⟩ := Option.filter_eq_some_iff.1 hrow
    obtain ⟨start, -, hresult⟩ := bind_eq_ok.1 hok
    obtain rfl := Except.ok.inj hresult
    exact not_isFiltered hlookup (DownloadRow.not_filtered hlibrary)

theorem not_isFiltered_of_next (h : t.nextLibraryDownload profileId episodeId = some e) :
    ¬ t.IsFiltered e.1 := by
  obtain ⟨current, -, hfirst⟩ := Option.bind_eq_some_iff.1 h
  obtain ⟨hrow, hp⟩ := Table.lookup_of_first hfirst
  rw [Bool.and_eq_true, DownloadRow.playable, Bool.and_eq_true, Bool.and_eq_true] at hp
  exact not_isFiltered hrow (DownloadRow.not_filtered hp.1.1.1)

theorem listed_of_playlistDetail (h : t.playlistDetail profileId playlistId = .ok entries)
    (hmem : entry ∈ entries) : entry.episode.id ∈ listed playlistId t.items := by
  rw [playlistDetail] at h
  split at h
  · cases h
  · obtain rfl := Answer.ok.inj h
    obtain ⟨e, he, hfound⟩ := List.mem_filterMap.1 hmem
    obtain ⟨row, -, rfl⟩ := Option.map_eq_some_iff.1 hfound
    exact List.mem_map.2 ⟨e, he, rfl⟩

theorem listed_of_playerPlaylistItems (h : item ∈ t.playerPlaylistItems playlistId) :
    item.id ∈ listed playlistId t.items := by
  obtain ⟨e, he, hfound⟩ := List.mem_filterMap.1 h
  obtain ⟨row, -, rfl⟩ := Option.map_eq_some_iff.1 hfound
  exact List.mem_map.2 ⟨e, he, rfl⟩

/-- `playlist_detail` shows every download of a playlist, whatever its status. -/
theorem playlistDetail_shows (hplaylist : t.playlists.rows.lookup playlistId = some playlist)
    (hlisted : downloadId ∈ listed playlistId t.items)
    (hrow : t.downloads.rows.lookup downloadId = some row) :
    downloadId ∈ (ListingRequest.playlistDetail playlistId).ids rules hasSubtitles playlist.profileId
      t := by
  have hown : t.ownPlaylist playlist.profileId playlistId = some playlist := by
    rw [ownPlaylist, hplaylist, Option.filter_some, if_pos (decide_eq_true rfl)]
  obtain ⟨e, he, rfl⟩ := List.mem_map.1 hlisted
  simp only [ListingRequest.ids, playlistDetail, hown]
  refine List.mem_map.2 ⟨⟨e.2.position, episodeToSummary e.2.downloadId row⟩, ?_, rfl⟩
  refine List.mem_filterMap.2 ⟨e, he, ?_⟩
  rw [hrow, Option.map_some]

/-- All listings but those of playlists look at the status for themselves. -/
theorem hides_iff (howned : t.Owned) : t.Hides rules hasSubtitles ↔ t.Unfiltered := by
  constructor
  · rintro h playlistId downloadId hlisted ⟨row, hrow, hfiltered⟩
    obtain ⟨playlist, hplaylist⟩ := Option.isSome_iff_exists.1 (howned playlistId _ hlisted)
    exact h playlist.profileId _ _ (playlistDetail_shows hplaylist hlisted hrow)
      ⟨row, hrow, hfiltered⟩
  · intro h profileId request downloadId hmem
    cases request with
    | frontendLibrary filter term page pageSize =>
      dsimp only [ListingRequest.ids, frontendLibrary] at hmem
      rw [summary_ids] at hmem
      obtain ⟨e, he, rfl⟩ := List.mem_map.1 hmem
      exact not_isFiltered_of_libraryRows (List.mem_of_mem_drop (List.mem_of_mem_take he))
    | library filter =>
      dsimp only [ListingRequest.ids, library] at hmem
      rw [summary_ids] at hmem
      obtain ⟨e, he, rfl⟩ := List.mem_map.1 hmem
      exact not_isFiltered_of_libraryRows (libraryRows_of_listDownloads he)
    | search q =>
      dsimp only [ListingRequest.ids, search] at hmem
      split at hmem
      · exact (List.not_mem_nil hmem).elim
      · rw [List.map_take, summary_ids] at hmem
        obtain ⟨e, he, rfl⟩ := List.mem_map.1 (List.mem_of_mem_take hmem)
        exact not_isFiltered_of_libraryRows (libraryRows_of_listDownloads (List.mem_filter.1 he).1)
    | history =>
      dsimp only [ListingRequest.ids, history] at hmem
      rw [summary_ids] at hmem
      obtain ⟨e, he, rfl⟩ := List.mem_map.1 hmem
      exact not_isFiltered_of_libraryRows (libraryRows_of_listDownloads (List.mem_filter.1 he).1)
    | transcriptSearch q =>
      dsimp only [ListingRequest.ids] at hmem
      split at hmem
      · next results hok =>
        obtain ⟨result, hresult, rfl⟩ := List.mem_map.1 hmem
        exact not_isFiltered_of_transcriptSearch hok hresult
      · exact (List.not_mem_nil hmem).elim
    | nextPlayer episodeId =>
      obtain ⟨e, he, rfl⟩ := Option.map_eq_some_iff.1 (Option.mem_toList.1 hmem)
      exact not_isFiltered_of_next he
    | playlistDetail playlistId =>
      dsimp only [ListingRequest.ids] at hmem
      split at hmem
      · next entries hok =>
        obtain ⟨entry, hentry, rfl⟩ := List.mem_map.1 hmem
        exact h playlistId _ (listed_of_playlistDetail hok hentry)
      · exact (List.not_mem_nil hmem).elim
    | playlistItems episodeId seek playlist =>
      dsimp only [ListingRequest.ids, frontendPlayer] at hmem
      cases hown : t.ownDownload profileId episodeId with
      | none =>
        rw [hown] at hmem
        exact (List.not_mem_nil hmem).elim
      | some row =>
        rw [hown] at hmem
        obtain ⟨item, hitem, rfl⟩ := List.mem_map.1 hmem
        cases hrequested : t.requestedPlaylist profileId playlist with
        | none =>
          rw [hrequested] at hitem
          exact (List.not_mem_nil hitem).elim
        | some id =>
          rw [hrequested] at hitem
          exact h id.toNat _ (listed_of_playerPlaylistItems hitem)

theorem touchPlaylist_isSome (playlistId : Nat) (now : Instant) (t : LibraryTables) (id : Nat) :
    ((t.touchPlaylist playlistId now).playlists.rows.lookup id).isSome =
      (t.playlists.rows.lookup id).isSome := by
  rw [touchPlaylist, AutoTable.lookup_update, Option.isSome_map]

theorem playlistAddItems_playlists (id : Nat) :
    ((t.playlistAddItems profileId playlistId data now writes).2.playlists.rows.lookup id).isSome =
      (t.playlists.rows.lookup id).isSome := by
  rw [playlistAddItems]
  split
  · rfl
  · split
    · rfl
    · split
      · rfl
      · dsimp only
        split
        · rfl
        · split
          · rfl
          · exact touchPlaylist_isSome playlistId now _ id

theorem owned_of_added (h : downloadId ∈ t.added profileId playlistId data writes present) :
    (t.playlists.rows.lookup playlistId).isSome = true := by
  cases hown : t.ownPlaylist profileId playlistId with
  | none =>
    simp only [added, requested, hown, List.filter_nil, untilRepeat, List.take_nil,
      List.not_mem_nil] at h
  | some playlist => rw [(Option.filter_eq_some_iff.1 hown).1, Option.isSome_some]

end LibraryTables

namespace PlaylistEvent
variable {t : LibraryTables} {event : PlaylistEvent}

/-- The event puts no filtered download into a playlist, and filters none that is in one. -/
def Admitted (t : LibraryTables) : PlaylistEvent → Prop
  | .addItems profileId playlistId data _ writes =>
    ∀ downloadId ∈ t.added profileId playlistId data writes (listed playlistId t.items),
      ¬ t.IsFiltered downloadId
  | .setDownloads downloads => ∀ playlistId, ∀ downloadId ∈ listed playlistId t.items,
      ¬ ({ t with downloads } : LibraryTables).IsFiltered downloadId
  | _ => True

/-- Requests on playlists leave the downloads as they are. -/
theorem downloads_apply (render : Json → String) (event : PlaylistEvent) (t : LibraryTables) :
    (event.apply render t).downloads = match event with
      | .setDownloads downloads => downloads
      | _ => t.downloads := by
  cases event with
  | addItems profileId playlistId data now writes =>
    dsimp only [apply]
    rw [LibraryTables.playlistAddItems]
    split
    · rfl
    · split
      · rfl
      · split
        · rfl
        · dsimp only
          split
          · rfl
          · split <;> rfl
  | removeItem profileId playlistId id now =>
    dsimp only [apply]
    rw [LibraryTables.playlistRemoveItem]
    split
    · rfl
    · dsimp only
      split <;> rfl
  | create profileId data now =>
    dsimp only [apply]
    unfold LibraryTables.playlistCreate
    dsimp only
    split
    · rfl
    · split
      · rfl
      · split <;> rfl
  | delete profileId playlistId =>
    dsimp only [apply]
    rw [LibraryTables.playlistDelete]
    split <;> rfl
  | setDownloads downloads => rfl
  | setSegments segments => rfl

theorem owned_apply (h : t.Owned) : (event.apply render t).Owned := by
  intro other downloadId hlisted
  cases event with
  | addItems profileId playlistId data now writes =>
    dsimp only [apply] at hlisted ⊢
    rw [LibraryTables.listed_playlistAddItems, List.mem_append] at hlisted
    rw [LibraryTables.playlistAddItems_playlists]
    rcases hlisted with hlisted | hlisted
    · exact h other downloadId hlisted
    · split at hlisted
      · next hother => exact hother ▸ LibraryTables.owned_of_added hlisted
      · exact (List.not_mem_nil hlisted).elim
  | removeItem profileId playlistId id now =>
    dsimp only [apply] at hlisted ⊢
    have hkept : downloadId ∈ listed other t.items := by
      rw [LibraryTables.listed_playlistRemoveItem] at hlisted
      split at hlisted
      · next hother => exact hother.2 ▸ (List.mem_filter.1 hlisted).1
      · exact hlisted
    rw [← h other downloadId hkept, LibraryTables.playlistRemoveItem]
    split
    · rfl
    · dsimp only
      split
      · exact LibraryTables.touchPlaylist_isSome playlistId now _ other
      · rfl
  | create profileId data now =>
    dsimp only [apply] at hlisted ⊢
    rw [LibraryTables.playlistCreate_items] at hlisted
    have hold := h other downloadId hlisted
    unfold LibraryTables.playlistCreate
    dsimp only
    split
    · exact hold
    · split
      · exact hold
      · split
        · exact hold
        · dsimp only
          rw [AutoTable.lookup_insert]
          split
          · rfl
          · exact hold
  | delete profileId playlistId =>
    dsimp only [apply] at hlisted ⊢
    rw [LibraryTables.listed_playlistDelete] at hlisted
    split at hlisted
    · exact (List.not_mem_nil hlisted).elim
    · next hother =>
      have hold := h other downloadId hlisted
      rw [LibraryTables.playlistDelete]
      cases hown : t.ownPlaylist profileId playlistId with
      | none => exact hold
      | some playlist =>
        have hne : other ≠ playlistId := fun he => hother ⟨by rw [hown, Option.isSome_some], he⟩
        obtain ⟨row, hrow⟩ := Option.isSome_iff_exists.1 hold
        dsimp only
        rw [AutoTable.lookup_delete, hrow, Option.filter_some, beq_false_of_ne hne]
        rfl
  | setDownloads downloads =>
    have hdelete := listed_delete (fun _ id => (downloads.rows.lookup id).isNone) other t.items
    dsimp only [apply, LibraryTables.setDownloads] at hlisted ⊢
    rw [hdelete] at hlisted
    exact h other downloadId (List.mem_filter.1 hlisted).1
  | setSegments segments => exact h other downloadId hlisted

theorem unfiltered_apply (h : t.Unfiltered) :
    (event.apply render t).Unfiltered ↔ event.Admitted t := by
  have hdownloads := downloads_apply render event t
  cases event with
  | addItems profileId playlistId data now writes =>
    constructor
    · intro hafter downloadId hadded hfiltered
      apply hafter playlistId downloadId
      · dsimp only [apply]
        rw [LibraryTables.listed_playlistAddItems, if_pos rfl]
        exact List.mem_append_right _ hadded
      · rw [LibraryTables.IsFiltered, hdownloads]
        exact hfiltered
    · intro hadmitted other downloadId hlisted hfiltered
      rw [LibraryTables.IsFiltered, hdownloads] at hfiltered
      dsimp only [apply] at hlisted
      rw [LibraryTables.listed_playlistAddItems, List.mem_append] at hlisted
      rcases hlisted with hlisted | hlisted
      · exact h other downloadId hlisted hfiltered
      · split at hlisted
        · exact hadmitted downloadId hlisted hfiltered
        · exact List.not_mem_nil hlisted
  | removeItem profileId playlistId id now =>
    refine iff_of_true ?_ trivial
    intro other downloadId hlisted hfiltered
    rw [LibraryTables.IsFiltered, hdownloads] at hfiltered
    dsimp only [apply] at hlisted
    rw [LibraryTables.listed_playlistRemoveItem] at hlisted
    split at hlisted
    · exact h playlistId downloadId (List.mem_filter.1 hlisted).1 hfiltered
    · exact h other downloadId hlisted hfiltered
  | create profileId data now =>
    refine iff_of_true ?_ trivial
    intro other downloadId hlisted hfiltered
    rw [LibraryTables.IsFiltered, hdownloads] at hfiltered
    dsimp only [apply] at hlisted
    rw [LibraryTables.playlistCreate_items] at hlisted
    exact h other downloadId hlisted hfiltered
  | delete profileId playlistId =>
    refine iff_of_true ?_ trivial
    intro other downloadId hlisted hfiltered
    rw [LibraryTables.IsFiltered, hdownloads] at hfiltered
    dsimp only [apply] at hlisted
    rw [LibraryTables.listed_playlistDelete] at hlisted
    split at hlisted
    · exact (List.not_mem_nil hlisted).elim
    · exact h other downloadId hlisted hfiltered
  | setDownloads downloads =>
    have hdelete (other : Nat) := listed_delete (fun _ id => (downloads.rows.lookup id).isNone) other
      t.items
    constructor
    · rintro hafter other downloadId hlisted ⟨row, hrow, hfiltered⟩
      apply hafter other downloadId _ ⟨row, hrow, hfiltered⟩
      dsimp only [apply, LibraryTables.setDownloads]
      rw [hdelete, List.mem_filter, hrow]
      exact ⟨hlisted, rfl⟩
    · intro hadmitted other downloadId hlisted hfiltered
      dsimp only [apply, LibraryTables.setDownloads] at hlisted
      rw [hdelete] at hlisted
      exact hadmitted other downloadId (List.mem_filter.1 hlisted).1 hfiltered
  | setSegments segments => exact iff_of_true h trivial

end PlaylistEvent

/-- Filtered downloads stay out of all listings exactly as long as none of them gets into a playlist,
and none that is in a playlist gets filtered. -/
theorem filtered_hidden_iff (rules : TextRules) (hasSubtitles : DownloadRow → Bool)
    (render : Json → String) (events : List PlaylistEvent) :
    Along (fun t event => some (event.apply render t)) (fun t event => event.Admitted t)
        LibraryTables.empty events ↔
      ∀ before after t, events = before ++ after →
        exec (fun t event => some (event.apply render t)) LibraryTables.empty before = some t →
          t.Hides rules hasSubtitles := by
  apply along_iff_always (I := LibraryTables.Owned)
  · rintro t event t' howned hstep
    obtain rfl := Option.some.inj hstep
    exact PlaylistEvent.owned_apply howned
  · rintro t event t' howned hhides hstep
    obtain rfl := Option.some.inj hstep
    rw [LibraryTables.hides_iff (PlaylistEvent.owned_apply howned)]
    exact PlaylistEvent.unfiltered_apply ((LibraryTables.hides_iff howned).1 hhides)
  · intro t event hstep
    cases hstep
  · intro playlistId downloadId hlisted
    exact (List.not_mem_nil hlisted).elim
  · refine (LibraryTables.hides_iff ?_).2 ?_
    · intro playlistId downloadId hlisted
      exact (List.not_mem_nil hlisted).elim
    · intro playlistId downloadId hlisted
      exact (List.not_mem_nil hlisted).elim

def asciiRules : TextRules where
  lower := lower
  icontains query text := isIn (lower query) (lower text)

def withStatus (status : DownloadStatus) : AutoTable DownloadRow :=
  AutoTable.empty.insert { playlistEpisode with downloadStatus := StrEnum.value status }

/-- An episode is put on a playlist and filtered afterwards. -/
theorem filtered_in_playlist : ∃ t, exec (fun t event => some (event.apply (fun _ => "") t)) .empty
      [.setDownloads (withStatus .downloaded), .create "anna" [("name", .string "Drive")] 0, addOne 0,
        .setDownloads (withStatus .filtered)] = some t ∧
    t.IsFiltered 0 ∧
      0 ∈ (ListingRequest.playlistDetail 0).ids asciiRules (fun _ => false) "anna" t ∧
      0 ∈ (ListingRequest.playlistItems 0 none (some "0")).ids asciiRules (fun _ => false) "anna" t := by
  refine ⟨_, rfl, ⟨{ playlistEpisode with downloadStatus := "filtered" }, ?_, ?_⟩, ?_, ?_⟩
  · rfl
  · decide
  · decide +kernel
  · decide +kernel

end GetOffline
