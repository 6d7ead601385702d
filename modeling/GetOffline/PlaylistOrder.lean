import GetOffline.Playlists

set_option autoImplicit true

namespace GetOffline
open Python Execution

/-- What a playlist is for: its downloads, the oldest addition first. -/
abbrev Contents := Nat → List Nat

/-- The requests on playlists, and the other writers of the tables. -/
inductive PlaylistEvent
  | addItems (profileId : String) (playlistId : Nat) (data : List (String × Json)) (now : Instant)
      (writes : Option Nat)
  | removeItem (profileId : String) (playlistId downloadId : Nat) (now : Instant)
  | create (profileId : String) (data : List (String × Json)) (now : Instant)
  | delete (profileId : String) (playlistId : Nat)
  | setDownloads (downloads : AutoTable DownloadRow)
  | setSegments (segments : AutoTable TranscriptSegment)

def PlaylistEvent.apply (render : Json → String) (event : PlaylistEvent) (t : LibraryTables) :
    LibraryTables :=
  match event with
  | .addItems profileId playlistId data now writes =>
    (t.playlistAddItems profileId playlistId data now writes).2
  | .removeItem profileId playlistId downloadId now =>
    (t.playlistRemoveItem profileId playlistId downloadId now).2
  | .create profileId data now => (t.playlistCreate render profileId data now).2
  | .delete profileId playlistId => (t.playlistDelete profileId playlistId).2
  | .setDownloads downloads => t.setDownloads downloads
  | .setSegments segments => { t with segments }

/-- The ids within a call are distinct. -/
def PlaylistEvent.DistinctIds : PlaylistEvent → Prop
  | .addItems _ _ data _ _ => ∀ rawIds ids, rawDownloadIds data = some rawIds → intIds rawIds = .ok ids →
      ids.Nodup
  | _ => True

/-- The downloads that a request adds to a playlist, unless they are in it. -/
def LibraryTables.requested (profileId : String) (playlistId : Nat) (data : List (String × Json))
    (t : LibraryTables) : List Nat :=
  match t.ownPlaylist profileId playlistId, (rawDownloadIds data).map intIds with
  | some playlist, some (.ok ids) => requestedDownloads playlist.profileId ids t.downloads
  | _, _ => []

/-- The elements up to the first one that was there before. -/
def untilRepeat (seen : List Nat) : List Nat → List Nat
  | [] => []
  | d :: ds => if d ∈ seen then [] else d :: untilRepeat (d :: seen) ds

/-- The downloads that a request puts into a playlist: it stops where the database fails, or at an id
that it has met before. -/
def LibraryTables.added (profileId : String) (playlistId : Nat) (data : List (String × Json))
    (writes : Option Nat) (present : List Nat) (t : LibraryTables) : List Nat :=
  let added := untilRepeat [] ((t.requested profileId playlistId data).filter (· ∉ present))
  added.take (writes.getD added.length)

/-- What each event means for the contents: no item has a position or an id here. -/
def Contents.after (t : LibraryTables) (c : Contents) : PlaylistEvent → Contents
  | .addItems profileId playlistId data _ writes =>
    let added := (t.requested profileId playlistId data).filter (· ∉ c playlistId)
    Function.update c playlistId (c playlistId ++ added.take (writes.getD added.length))
  | .removeItem profileId playlistId downloadId _ =>
    if (t.ownPlaylist profileId playlistId).isSome then
      Function.update c playlistId ((c playlistId).filter (· ≠ downloadId))
    else c
  | .create _ _ _ | .setSegments _ => c
  | .delete profileId playlistId =>
    if (t.ownPlaylist profileId playlistId).isSome then Function.update c playlistId [] else c
  | .setDownloads downloads => fun playlistId =>
    (c playlistId).filter fun downloadId => (downloads.rows.lookup downloadId).isSome

/-- The tables, and a record of what the playlists ought to hold. -/
structure PlaylistWorld where
  tables : LibraryTables
  contents : Contents

namespace PlaylistWorld

def initial (downloads : AutoTable DownloadRow) (playlists : AutoTable Playlist)
    (segments : AutoTable TranscriptSegment) : PlaylistWorld where
  tables := { downloads, playlists, items := .empty, segments }
  contents := fun _ => []

/-- One request is served after another. -/
def step (render : Json → String) (w : PlaylistWorld) (event : PlaylistEvent) : Option PlaylistWorld :=
  some {
    tables := event.apply render w.tables
    contents := w.contents.after w.tables event }

end PlaylistWorld

/-- The downloads of a playlist as its page lists them. -/
def listed (playlistId : Nat) (items : AutoTable PlaylistItem) : List Nat :=
  (items.rows.orderBy (fun _ item => item.playlistId == playlistId) fun id item =>
    toLex (item.position, id)).map fun e => e.2.downloadId

theorem orders_position : Table.Orders fun (id : Nat) (item : PlaylistItem) =>
    toLex (item.position, id) := by
  intro j r k s h
  exact (Prod.mk.inj (toLex.injective h)).2

theorem mem_listed {items : AutoTable PlaylistItem} : downloadId ∈ listed playlistId items ↔
    ∃ i item, items.rows.lookup i = some item ∧ item.playlistId = playlistId ∧
      item.downloadId = downloadId := by
  simp only [listed, List.mem_map, Table.mem_orderBy, beq_iff_eq, Prod.exists, and_assoc]

/-- An item at a position that none of its playlist exceeds is listed last. -/
theorem listed_insert (items : AutoTable PlaylistItem) (item : PlaylistItem)
    (hlast : ∀ i other, items.rows.lookup i = some other → other.playlistId = item.playlistId →
      other.position ≤ item.position) (playlistId : Nat) :
    listed playlistId (items.insert item) =
      listed playlistId items ++ if item.playlistId = playlistId then [item.downloadId] else [] := by
  by_cases h : item.playlistId = playlistId
  · subst h
    rw [listed, AutoTable.orderBy_insert orders_position]
    · simp only [beq_self_eq_true, ↓reduceIte, List.map_append, List.map_cons, List.map_nil, listed]
    · intro i other hi hp
      rw [Prod.Lex.toLex_lt_toLex]
      have hle := hlast i other hi (eq_of_beq hp)
      have hlt := AutoTable.lt_nextId hi
      rcases lt_or_eq_of_le hle with hlt' | heq
      · exact .inl hlt'
      · exact .inr ⟨heq, hlt⟩
  · rw [if_neg h, List.append_nil, listed, listed]
    congr 1
    apply Table.orderBy_congr orders_position
    intro i
    rw [AutoTable.lookup_insert]
    split
    · next hi =>
      subst i
      rw [items.fresh _ le_rfl, Option.filter_some, if_neg (by simpa only [beq_iff_eq] using h),
        Option.filter_none]
    · rfl

theorem listed_delete (p : Nat → Nat → Bool) (playlistId : Nat) (items : AutoTable PlaylistItem) :
    listed playlistId (items.delete fun _ item => p item.playlistId item.downloadId) =
      (listed playlistId items).filter fun downloadId => !p playlistId downloadId := by
  rw [listed, AutoTable.delete, Table.orderBy_delete orders_position, listed, List.filter_map]
  congr 1
  apply List.filter_congr
  intro e he
  obtain ⟨-, hp⟩ := Table.mem_orderBy.1 he
  rw [Function.comp_apply, eq_of_beq hp]

theorem le_lastPosition {items : AutoTable PlaylistItem} {item : PlaylistItem}
    (hitem : items.rows.lookup i = some item) :
    item.position ≤ lastPosition item.playlistId items + 1 := by
  rw [lastPosition]
  cases hfirst : items.rows.first (fun _ other => other.playlistId == item.playlistId)
      fun (id : Nat) other => toLex (-other.position, -(id : Int)) with
  | none =>
    have hno := Table.first_eq_none.1 hfirst i item hitem
    simp only [beq_self_eq_true, Bool.true_eq_false] at hno
  | some e =>
    have hle := Table.first_le hfirst hitem (beq_self_eq_true _)
    rw [Prod.Lex.toLex_le_toLex] at hle
    have hpos : item.position ≤ e.2.position := by
      rcases hle with h | ⟨h, -⟩ <;> omega
    rw [Option.map_some]
    dsimp only
    split <;> omega

theorem createItem_spec {item : PlaylistItem} {items : AutoTable PlaylistItem}
    (h : item.downloadId ∉ listed item.playlistId items) :
    createItem item items = .ok (items.insert item) := by
  rw [createItem, if_neg]
  intro hany
  obtain ⟨i, other, hi, ho⟩ := Table.any_iff.1 hany
  rw [Bool.and_eq_true, beq_iff_eq, beq_iff_eq] at ho
  exact h (mem_listed.2 ⟨i, other, hi, ho⟩)

theorem createItem_error {playlistId downloadId : Nat} {items : AutoTable PlaylistItem}
    (h : downloadId ∈ listed playlistId items) :
    createItem { playlistId, downloadId, position, addedAt } items = .error .databaseError := by
  rw [createItem, if_pos]
  obtain ⟨i, other, hi, hp, hd⟩ := mem_listed.1 h
  refine Table.any_iff.2 ⟨i, other, hi, ?_⟩
  rw [Bool.and_eq_true, beq_iff_eq, beq_iff_eq]
  exact ⟨hp, hd⟩

theorem untilRepeat_eq {seen ds : List Nat} (hnodup : ds.Nodup) (hseen : ∀ d ∈ ds, d ∉ seen) :
    untilRepeat seen ds = ds := by
  induction ds generalizing seen with
  | nil => rfl
  | cons d ds ih =>
    obtain ⟨hd, hds⟩ := List.nodup_cons.1 hnodup
    rw [untilRepeat, if_neg (hseen d List.mem_cons_self), ih hds]
    intro e he hmem
    rcases List.mem_cons.1 hmem with rfl | hmem
    · exact hd he
    · exact hseen e (List.mem_cons_of_mem _ he) hmem

/-- What the loop finds: which downloads the playlist had, which ones the loop has met, and that no
position of the playlist exceeds the next one. -/
structure Adding (playlistId : Nat) (existing downloads : List Nat) (position : Int)
    (items : AutoTable PlaylistItem) (seen : List Nat) : Prop where
  known : ∀ downloadId ∈ downloads, downloadId ∈ listed playlistId items →
    downloadId ∈ existing ∨ downloadId ∈ seen
  seen : ∀ downloadId ∈ seen, downloadId ∈ listed playlistId items
  last : ∀ i item, items.rows.lookup i = some item → item.playlistId = playlistId →
    item.position ≤ position + 1

namespace Adding
variable {existing downloads seen : List Nat} {position : Int} {items : AutoTable PlaylistItem}
  {playlistId downloadId : Nat} {now : Instant}

theorem skip (h : Adding playlistId existing (downloadId :: downloads) position items seen) :
    Adding playlistId existing downloads position items seen where
  known d hd := h.known d (List.mem_cons_of_mem _ hd)
  seen := h.seen
  last := h.last

theorem createItem_ok (h : Adding playlistId existing (downloadId :: downloads) position items seen)
    (hexisting : downloadId ∉ existing) (hseen : downloadId ∉ seen) :
    createItem { playlistId, downloadId, position := position + 1, addedAt := now } items =
      .ok (items.insert { playlistId, downloadId, position := position + 1, addedAt := now }) := by
  apply createItem_spec
  intro hlisted
  rcases h.known _ List.mem_cons_self hlisted with hin | hin
  · exact hexisting hin
  · exact hseen hin

theorem insert (h : Adding playlistId existing (downloadId :: downloads) position items seen)
    (now : Instant) :
    Adding playlistId existing downloads (position + 1)
      (items.insert { playlistId, downloadId, position := position + 1, addedAt := now })
      (downloadId :: seen) := by
  have hadd := listed_insert items
    { playlistId, downloadId, position := position + 1, addedAt := now } h.last
  constructor
  · intro d hd hlisted
    rw [hadd, if_pos rfl, List.mem_append, List.mem_singleton] at hlisted
    rcases hlisted with hlisted | rfl
    · exact (h.known d (List.mem_cons_of_mem _ hd) hlisted).imp_right (List.mem_cons_of_mem _)
    · exact .inr List.mem_cons_self
  · intro d hd
    rw [hadd, if_pos rfl, List.mem_append, List.mem_singleton]
    rcases List.mem_cons.1 hd with rfl | hd
    · exact .inr rfl
    · exact .inl (h.seen d hd)
  · intro i item hi hplaylist
    rw [AutoTable.lookup_insert] at hi
    split at hi
    · obtain rfl := Option.some.inj hi
      exact Int.le_add_of_nonneg_right (by decide)
    · have hle := h.last i item hi hplaylist
      omega

end Adding

/-- The loop appends the downloads that are not in the playlist, as far as the database takes them. -/
theorem listed_createItems (playlistId : Nat) (existing : List Nat) (now : Instant)
    (downloads : List Nat) (position : Int) (writes : Option Nat) (items : AutoTable PlaylistItem)
    (seen : List Nat) (h : Adding playlistId existing downloads position items seen) (other : Nat) :
    listed other (createItems playlistId existing now downloads position writes items).2.2.2 =
      listed other items ++
        let added := untilRepeat seen (downloads.filter (· ∉ existing))
        if playlistId = other then added.take (writes.getD added.length) else [] := by
  induction downloads generalizing position writes items seen with
  | nil =>
    simp only [createItems, List.filter_nil, untilRepeat, List.take_nil, ite_self, List.append_nil]
  | cons downloadId downloads ih =>
    rw [createItems]
    split
    · next hin =>
      rw [ih _ _ _ seen h.skip,
        List.filter_cons_of_neg (by simpa only [decide_not, Bool.not_eq_true', decide_eq_false_iff_not,
          not_not] using hin)]
    · next hin =>
      rw [List.filter_cons_of_pos (by simpa only [decide_eq_true_eq] using hin)]
      split
      · next hw => simp only [hw, Option.getD_some, List.take_zero, ite_self, List.append_nil]
      · next hw =>
        by_cases hrepeat : downloadId ∈ seen
        · rw [createItem_error (h.seen downloadId hrepeat), untilRepeat, if_pos hrepeat]
          simp only [List.take_nil, ite_self, List.append_nil]
        · have hadd := listed_insert items
            { playlistId, downloadId, position := position + 1, addedAt := now } h.last
          rw [h.createItem_ok hin hrepeat, untilRepeat, if_neg hrepeat]
          dsimp only
          rw [ih _ _ _ (downloadId :: seen) (h.insert now), hadd, List.append_assoc]
          congr 1
          by_cases hother : playlistId = other
          · simp only [hother, ↓reduceIte]
            cases writes with
            | none =>
              simp only [Option.map_none, Option.getD_none, List.length_cons, List.take_succ_cons,
                List.singleton_append]
            | some n =>
              cases n with
              | zero => exact (hw rfl).elim
              | succ n =>
                simp only [Option.map_some, Nat.add_sub_cancel, Option.getD_some,
                  List.take_succ_cons, List.singleton_append]
          · simp only [hother, ↓reduceIte, List.append_nil]

theorem nodup_requestedDownloads {ids : List Int} (h : ids.Nodup) (profileId : String)
    (downloads : AutoTable DownloadRow) : (requestedDownloads profileId ids downloads).Nodup := by
  apply h.filterMap
  intro i j n hi hj
  split at hi
  · next hi' =>
    split at hj
    · next hj' =>
      have hi := Option.some.inj (Option.mem_def.1 hi)
      have hj := Option.some.inj (Option.mem_def.1 hj)
      omega
    · cases hj
  · cases hi

theorem mem_ids_of_requested {ids : List Int}
    (h : downloadId ∈ requestedDownloads profileId ids downloads) : (downloadId : Int) ∈ ids := by
  obtain ⟨id, hid, hsome⟩ := List.mem_filterMap.1 h
  split at hsome
  · next hpos =>
    rw [← Option.some.inj hsome, Int.toNat_of_nonneg hpos.1]
    exact hid
  · cases hsome

namespace LibraryTables
variable {t : LibraryTables}

theorem mem_existingDownloads {ids : List Int} {downloadId : Nat} (hid : (downloadId : Int) ∈ ids) :
    downloadId ∈ t.existingDownloads playlistId ids ↔ downloadId ∈ listed playlistId t.items := by
  rw [existingDownloads, listed, List.mem_map, List.mem_map]
  constructor
  · rintro ⟨e, he, rfl⟩
    exact ⟨e, (List.mem_filter.1 he).1, rfl⟩
  · rintro ⟨e, he, rfl⟩
    exact ⟨e, List.mem_filter.2 ⟨he, decide_eq_true hid⟩, rfl⟩

/-- What the loop of a request finds. -/
theorem adding_requested (playlistId : Nat) (profileId : String) (ids : List Int) :
    Adding playlistId (t.existingDownloads playlistId ids) (requestedDownloads profileId ids t.downloads)
      (lastPosition playlistId t.items) t.items [] where
  known _ hd hlisted := .inl ((mem_existingDownloads (mem_ids_of_requested hd)).2 hlisted)
  seen _ hd := (List.not_mem_nil hd).elim
  last _ _ hi hplaylist := hplaylist ▸ le_lastPosition hi

theorem listed_playlistAddItems (profileId : String) (playlistId : Nat) (data : List (String × Json))
    (now : Instant) (writes : Option Nat) (t : LibraryTables) (other : Nat) :
    listed other (t.playlistAddItems profileId playlistId data now writes).2.items =
      listed other t.items ++
        if playlistId = other then
          t.added profileId playlistId data writes (listed playlistId t.items)
        else [] := by
  rw [playlistAddItems, added, requested]
  cases hown : t.ownPlaylist profileId playlistId with
  | none => simp only [List.filter_nil, untilRepeat, List.take_nil, ite_self, List.append_nil]
  | some playlist =>
    cases hraw : rawDownloadIds data with
    | none =>
      simp only [Option.map_none, List.filter_nil, untilRepeat, List.take_nil, ite_self,
        List.append_nil]
    | some rawIds =>
      cases hids : intIds rawIds with
      | error error =>
        simp only [Option.map_some, hids, List.filter_nil, untilRepeat, List.take_nil, ite_self,
          List.append_nil]
      | ok ids =>
        have hfilter : (requestedDownloads playlist.profileId ids t.downloads).filter
            (· ∉ t.existingDownloads playlistId ids) =
            (requestedDownloads playlist.profileId ids t.downloads).filter
              (· ∉ listed playlistId t.items) :=
          List.filter_congr fun d hd =>
            decide_eq_decide.2 (not_congr (mem_existingDownloads (mem_ids_of_requested hd)))
        have hloop := listed_createItems playlistId (t.existingDownloads playlistId ids) now
          (requestedDownloads playlist.profileId ids t.downloads) (lastPosition playlistId t.items)
          writes t.items [] (adding_requested playlistId playlist.profileId ids) other
        rw [hfilter] at hloop
        simp only [Option.map_some, hids]
        rw [← hloop]
        split
        · next h => rw [h]
        · next h =>
          rw [h]
          split <;> rfl

/-- A request whose ids are distinct puts in all that are missing, as far as the database goes. -/
theorem added_eq {data : List (String × Json)} (hids : ∀ rawIds ids,
    rawDownloadIds data = some rawIds → intIds rawIds = .ok ids → ids.Nodup) (present : List Nat) :
    t.added profileId playlistId data writes present =
      let missing := (t.requested profileId playlistId data).filter (· ∉ present)
      missing.take (writes.getD missing.length) := by
  have hnodup : (t.requested profileId playlistId data).Nodup := by
    rw [requested]
    split
    · next playlist ids _ hmap =>
      obtain ⟨rawIds, hraw, hok⟩ := Option.map_eq_some_iff.1 hmap
      exact nodup_requestedDownloads (hids rawIds ids hraw hok) _ _
    · exact List.nodup_nil
  rw [added, untilRepeat_eq (hnodup.filter _) fun d _ => List.not_mem_nil]

theorem listed_playlistRemoveItem (other : Nat) :
    listed other (t.playlistRemoveItem profileId playlistId downloadId now).2.items =
      if (t.ownPlaylist profileId playlistId).isSome ∧ other = playlistId then
        (listed playlistId t.items).filter (· ≠ downloadId)
      else listed other t.items := by
  rw [playlistRemoveItem]
  cases t.ownPlaylist profileId playlistId with
  | none => simp only [Option.isSome_none, Bool.false_eq_true, false_and, ↓reduceIte]
  | some playlist =>
    have hdelete := listed_delete (fun p d => p == playlistId && d == downloadId) other t.items
    simp only [Option.isSome_some, true_and]
    have hitems : listed other (t.items.delete fun _ item =>
        item.playlistId == playlistId && item.downloadId == downloadId) =
          if other = playlistId then (listed playlistId t.items).filter (· ≠ downloadId)
          else listed other t.items := by
      rw [hdelete]
      split
      · next h =>
        subst h
        simp only [beq_self_eq_true, Bool.true_and, ne_eq, decide_not, beq_eq_decide]
      · next h =>
        simp only [beq_false_of_ne h, Bool.false_and, Bool.not_false, List.filter_true]
    split <;> exact hitems

theorem listed_playlistDelete (other : Nat) :
    listed other (t.playlistDelete profileId playlistId).2.items =
      if (t.ownPlaylist profileId playlistId).isSome ∧ other = playlistId then []
      else listed other t.items := by
  rw [playlistDelete]
  cases t.ownPlaylist profileId playlistId with
  | none => simp only [Option.isSome_none, Bool.false_eq_true, false_and, ↓reduceIte]
  | some playlist =>
    have hdelete := listed_delete (fun p _ => p == playlistId) other t.items
    simp only [Option.isSome_some, true_and]
    rw [hdelete]
    split
    · next h =>
      subst h
      simp only [beq_self_eq_true, Bool.not_true, List.filter_false]
    · next h => simp only [beq_false_of_ne h, Bool.not_false, List.filter_true]

theorem playlistCreate_items (render : Json → String) (profileId : String)
    (data : List (String × Json)) (now : Instant) (t : LibraryTables) :
    (t.playlistCreate render profileId data now).2.items = t.items := by
  unfold playlistCreate
  dsimp only
  split
  · rfl
  · split
    · rfl
    · split <;> rfl

end LibraryTables

namespace PlaylistWorld

/-- Each request does to the listings what it means for the contents. -/
theorem listed_step {w w' : PlaylistWorld} {event : PlaylistEvent}
    (hw : ∀ playlistId, listed playlistId w.tables.items = w.contents playlistId)
    (hids : event.DistinctIds) (h : w.step render event = some w') (playlistId : Nat) :
    listed playlistId w'.tables.items = w'.contents playlistId := by
  obtain rfl := Option.some.inj h
  cases event with
  | addItems profileId own data now writes =>
    dsimp only [Contents.after, PlaylistEvent.apply]
    rw [LibraryTables.listed_playlistAddItems, LibraryTables.added_eq hids, hw, hw,
      Function.update_apply]
    split
    · next h =>
      subst h
      simp only [↓reduceIte]
    · next h => simp only [Ne.symm h, ↓reduceIte, List.append_nil]
  | removeItem profileId own downloadId now =>
    dsimp only [Contents.after, PlaylistEvent.apply]
    rw [LibraryTables.listed_playlistRemoveItem, hw, hw]
    split
    · next h => rw [if_pos h.1, h.2, Function.update_self]
    · next h =>
      split
      · next hown => rw [Function.update_of_ne fun he => h ⟨hown, he⟩]
      · rfl
  | create profileId data now =>
    dsimp only [Contents.after, PlaylistEvent.apply]
    rw [LibraryTables.playlistCreate_items, hw]
  | delete profileId own =>
    dsimp only [Contents.after, PlaylistEvent.apply]
    rw [LibraryTables.listed_playlistDelete, hw]
    split
    · next h => rw [if_pos h.1, h.2, Function.update_self]
    · next h =>
      split
      · next hown => rw [Function.update_of_ne fun he => h ⟨hown, he⟩]
      · rfl
  | setDownloads downloads =>
    have hdelete := listed_delete (fun _ downloadId => (downloads.rows.lookup downloadId).isNone)
      playlistId w.tables.items
    dsimp only [Contents.after, PlaylistEvent.apply, LibraryTables.setDownloads]
    rw [hdelete, hw]
    simp only [Option.not_isNone]
  | setSegments segments => exact hw playlistId

end PlaylistWorld

/-- A playlist lists its downloads in the order in which they were added, however requests to add and
to remove follow each other. -/
theorem playlists_keep_order {events : List PlaylistEvent}
    (hids : ∀ event ∈ events, event.DistinctIds)
    (h : exec (PlaylistWorld.step render) (.initial downloads playlists segments) events = some w)
    (playlistId : Nat) : listed playlistId w.tables.items = w.contents playlistId := by
  refine exec_invariant (I := fun w => ∀ playlistId, listed playlistId w.tables.items =
    w.contents playlistId) (fun w event w' hw hd hs => PlaylistWorld.listed_step hw hd hs)
    (fun _ => rfl) (along_of_forall hids _ _) h playlistId

def playlistEpisode : DownloadRow where
  profileId := "anna"
  sourceType := "podcast"
  sourceName := "News"
  firstSeenAt := 0
  lastSeenAt := 0

def threeEpisodes : AutoTable DownloadRow :=
  ((AutoTable.empty.insert playlistEpisode).insert playlistEpisode).insert playlistEpisode

def onePlaylist : AutoTable Playlist :=
  AutoTable.empty.insert { profileId := "anna", name := "Drive", createdAt := 0, updatedAt := 0 }

def addOne (downloadId : Int) : PlaylistEvent :=
  .addItems "anna" 0 [("download_ids", .array [.int downloadId])] 0 none

theorem addOne_distinct (downloadId : Int) : (addOne downloadId).DistinctIds := by
  intro rawIds ids hraw hids
  obtain rfl := Option.some.inj hraw
  obtain rfl := Except.ok.inj hids
  exact List.nodup_singleton downloadId

/-- The first two items share the position 0. -/
theorem repeated_position_keeps_order :
    (exec (PlaylistWorld.step fun _ => "") (.initial threeEpisodes onePlaylist .empty)
      [addOne 1, addOne 0, addOne 2, .removeItem "anna" 0 1 0, addOne 1]).map (fun w =>
        listed 0 w.tables.items) = some [0, 2, 1] := by
  have hids : ∀ event ∈ [addOne 1, addOne 0, addOne 2, .removeItem "anna" 0 1 0, addOne 1],
      event.DistinctIds := by
    have hremove : (PlaylistEvent.removeItem "anna" 0 1 0).DistinctIds := trivial
    simp only [List.forall_mem_cons, addOne_distinct, hremove, List.not_mem_nil, false_implies,
      implies_true, and_self]
  obtain ⟨w, hw⟩ : ∃ w, exec (PlaylistWorld.step fun _ => "")
      (.initial threeEpisodes onePlaylist .empty)
      [addOne 1, addOne 0, addOne 2, .removeItem "anna" 0 1 0, addOne 1] = some w := ⟨_, rfl⟩
  have hcontents : (exec (PlaylistWorld.step fun _ => "")
      (.initial threeEpisodes onePlaylist .empty)
      [addOne 1, addOne 0, addOne 2, .removeItem "anna" 0 1 0, addOne 1]).map (fun w => w.contents 0) =
        some [0, 2, 1] := by
    decide +kernel
  rw [hw, Option.map_some] at hcontents ⊢
  rw [playlists_keep_order hids hw, hcontents]

end GetOffline
