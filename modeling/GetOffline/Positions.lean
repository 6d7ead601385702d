import GetOffline.PlaylistUnions
import GetOffline.SourceForms
import GetOffline.TablePositions

set_option autoImplicit true

namespace GetOffline
open Python Execution AutoTable

def SourceConfig.kind (source : SourceConfig) : String × String :=
  (source.profileId, source.sourceType)

/-- The tables of the playlists and of the sources. -/
structure PositionWorld where
  library : LibraryTables
  sources : AutoTable SourceConfig

inductive PositionEvent
  | addItems (profileId : String) (playlistId : Nat) (data : List (String × Json)) (now : Instant)
      (writes : Option Nat)
  | removeItem (profileId : String) (playlistId downloadId : Nat) (now : Instant)
  | addSource (profileId : String) (post : List (String × String))
  | deleteSource (profileId : String) (sourceId : Nat)

/-- The items of every playlist and the sources of every profile and type are at distinct positions. -/
structure PositionWorld.Distinct (w : PositionWorld) : Prop where
  items : DistinctPositions PlaylistItem.playlistId PlaylistItem.position w.library.items
  sources : DistinctPositions SourceConfig.kind SourceConfig.position w.sources

section
variable (urlparse : String → Except Error ParsedUrl)

def PositionEvent.apply (event : PositionEvent) (w : PositionWorld) : PositionWorld :=
  match event with
  | .addItems profileId playlistId data now writes =>
    { w with library := (w.library.playlistAddItems profileId playlistId data now writes).2 }
  | .removeItem profileId playlistId downloadId now =>
    { w with library := (w.library.playlistRemoveItem profileId playlistId downloadId now).2 }
  | .addSource profileId post =>
    { w with sources := (GetOffline.addSource urlparse profileId post w.sources).2 }
  | .deleteSource profileId sourceId =>
    { w with sources := (GetOffline.deleteSource profileId sourceId w.sources).2 }

def PositionEvent.step (w : PositionWorld) (event : PositionEvent) : Option PositionWorld :=
  some (event.apply urlparse w)

/-- After a call the positions are distinct, and what it has added is above all that was there. -/
structure PositionEvent.Numbers (event : PositionEvent) (w : PositionWorld) : Prop where
  distinct : (event.apply urlparse w).Distinct
  newItems : NewOnTop PlaylistItem.playlistId PlaylistItem.position w.library.items
    (event.apply urlparse w).library.items
  newSources : NewOnTop SourceConfig.kind SourceConfig.position w.sources
    (event.apply urlparse w).sources

/-- Where a call has something to add, the largest position that is in use is not 0. -/
def PositionEvent.NotAfterZero (w : PositionWorld) : PositionEvent → Prop
  | .addItems profileId playlistId data _ writes =>
    (w.library.requested profileId playlistId data).filter (· ∉ listed playlistId w.library.items) ≠ [] →
      writes ≠ some 0 →
        ¬ IsGreatest (w.library.items.positions PlaylistItem.playlistId PlaylistItem.position playlistId) 0
  | .addSource profileId post => ∀ (sourceType : SourceType) form,
    parseStrEnum SourceType ((posted "source_type" post).getD "") = some sourceType →
      readSourceForm urlparse post (StrEnum.value sourceType) "" = .ok (form, []) →
        ¬ IsGreatest (w.sources.positions SourceConfig.kind SourceConfig.position
          (profileId, StrEnum.value sourceType)) 0
  | .removeItem .. | .deleteSource .. => True

end

/-- A largest position 0 counts as none. -/
theorem orMinusOne_spec {S : Set Int} {last : Option Int}
    (h : match last with
      | some position => IsGreatest S position
      | none => S = ∅) :
    (IsGreatest S 0 → orMinusOne last = -1) ∧ (¬ IsGreatest S 0 → ∀ p ∈ S, p ≤ orMinusOne last) := by
  cases last with
  | none =>
    obtain rfl := h
    exact ⟨fun _ => rfl, fun _ p hp => hp.elim⟩
  | some position =>
    rw [orMinusOne]
    split
    · next hzero =>
      subst hzero
      exact ⟨fun _ => rfl, fun hno => absurd h hno⟩
    · next hne => exact ⟨fun hzero => absurd (h.unique hzero) hne, fun _ => h.2⟩

section
variable {playlistId : Nat} {existing downloads seen : List Nat} {position : Int}
  {items : AutoTable PlaylistItem} {now : Instant} {writes : Option Nat}

theorem lastPosition_spec (playlistId : Nat) (items : AutoTable PlaylistItem) :
    (IsGreatest (items.positions PlaylistItem.playlistId PlaylistItem.position playlistId) 0 →
      lastPosition playlistId items = -1) ∧
    (¬ IsGreatest (items.positions PlaylistItem.playlistId PlaylistItem.position playlistId) 0 →
      ∀ p ∈ items.positions PlaylistItem.playlistId PlaylistItem.position playlistId,
        p ≤ lastPosition playlistId items) := by
  apply orMinusOne_spec (isGreatest_first _ _ _ _ _)
  · intro i item
    exact beq_iff_eq
  · intro i j item other hle
    rw [Prod.Lex.toLex_le_toLex] at hle
    rcases hle with hlt | ⟨heq, -⟩ <;> omega

theorem nextSourcePosition_spec (profileId sourceType : String) (sources : AutoTable SourceConfig) :
    (IsGreatest (sources.positions SourceConfig.kind SourceConfig.position (profileId, sourceType)) 0 →
      nextSourcePosition profileId sourceType sources = 0) ∧
    (¬ IsGreatest (sources.positions SourceConfig.kind SourceConfig.position (profileId, sourceType)) 0 →
      ∀ p ∈ sources.positions SourceConfig.kind SourceConfig.position (profileId, sourceType),
        p < nextSourcePosition profileId sourceType sources) := by
  have h := orMinusOne_spec (isGreatest_first SourceConfig.kind SourceConfig.position
    (fun (id : Nat) source => toLex (-source.position, id)) (t := sources) (g := (profileId, sourceType))
    (p := fun _ source => source.profileId == profileId && source.sourceType == sourceType) ?_ ?_)
  · exact ⟨fun hzero => by rw [nextSourcePosition, h.1 hzero]; rfl,
      fun hno p hp => Int.lt_add_one_of_le (h.2 hno p hp)⟩
  · intro i source
    rw [Bool.and_eq_true, beq_iff_eq, beq_iff_eq, SourceConfig.kind, Prod.mk.injEq]
  · intro i j source other hle
    rw [Prod.Lex.toLex_le_toLex] at hle
    rcases hle with hlt | ⟨heq, -⟩ <;> omega

/-- The loop leaves the rows that it finds. -/
theorem lookup_createItems (playlistId : Nat) (existing : List Nat) (now : Instant)
    (downloads : List Nat) (position : Int) (writes : Option Nat) (items : AutoTable PlaylistItem)
    (hi : i < items.nextId) :
    (createItems playlistId existing now downloads position writes items).2.2.2.rows.lookup i =
      items.rows.lookup i := by
  induction downloads generalizing position writes items with
  | nil => rfl
  | cons downloadId downloads ih =>
    rw [createItems]
    split
    · exact ih position writes items hi
    · split
      · rfl
      · rw [createItem]
        split
        · next h =>
          split at h
          · rfl
          · cases h
        · next h =>
          split at h
          · cases h
          · obtain rfl := Except.ok.inj h
            rw [ih _ _ _ (Nat.lt_succ_of_lt hi), lookup_insert, if_neg (Nat.ne_of_lt hi)]

/-- The loop adds items above all that it finds, if it starts at or above the largest position. -/
theorem createItems_newOnTop (playlistId : Nat) (existing : List Nat) (now : Instant)
    (downloads : List Nat) (writes : Option Nat)
    (hlast : ∀ p ∈ items.positions PlaylistItem.playlistId PlaylistItem.position playlistId,
      p ≤ position) :
    NewOnTop PlaylistItem.playlistId PlaylistItem.position items
      (createItems playlistId existing now downloads position writes items).2.2.2 := by
  induction downloads generalizing position writes items with
  | nil => exact .refl items
  | cons downloadId downloads ih =>
    rw [createItems]
    split
    · exact ih writes hlast
    · split
      · exact .refl items
      · rw [createItem]
        split
        · exact .refl items
        · next h =>
          split at h
          · cases h
          · obtain rfl := Except.ok.inj h
            refine .of_insert (fun p hp => Int.lt_add_one_of_le (hlast p hp)) ?_ (ih _ ?_)
            · intro i item hi hitem
              rw [lookup_createItems _ _ _ _ _ _ _ hi] at hitem
              exact ⟨item, hitem, rfl, rfl⟩
            · rintro p ⟨i, item, hitem, hgroup, rfl⟩
              rw [lookup_insert] at hitem
              split at hitem
              · obtain rfl := Option.some.inj hitem
                exact le_rfl
              · exact (hlast _ ⟨i, item, hitem, hgroup, rfl⟩).trans (Int.le_add_one le_rfl)

/-- The first item that the loop adds comes right after the position it starts from. -/
theorem createItems_first (now : Instant) (h : Adding playlistId existing downloads position items seen)
    (hnew : downloads.filter (· ∉ existing) ≠ []) (hseen : seen = []) (hwrites : writes ≠ some 0) :
    ∃ item, (createItems playlistId existing now downloads position writes items).2.2.2.rows.lookup
      items.nextId = some item ∧ item.playlistId = playlistId ∧ item.position = position + 1 := by
  subst hseen
  induction downloads with
  | nil => exact absurd rfl hnew
  | cons downloadId downloads ih =>
    rw [createItems]
    by_cases hin : downloadId ∈ existing
    · rw [List.filter_cons_of_neg (by simpa only [decide_not, Bool.not_eq_true',
        decide_eq_false_iff_not, not_not] using hin)] at hnew
      rw [if_pos hin]
      exact ih hnew h.skip
    · rw [if_neg hin, if_neg hwrites, h.createItem_ok hin List.not_mem_nil]
      refine ⟨{ playlistId, downloadId, position := position + 1, addedAt := now }, ?_, rfl, rfl⟩
      dsimp only
      rw [lookup_createItems _ _ _ _ _ _ _ (Nat.lt_succ_self _), lookup_insert, if_pos rfl]

end

namespace LibraryTables

/-- What a request does to the items is what its loop does. -/
theorem items_playlistAddItems (profileId : String) (playlistId : Nat) (data : List (String × Json))
    (now : Instant) (writes : Option Nat) (t : LibraryTables) :
    (t.requested profileId playlistId data = [] ∧
        (t.playlistAddItems profileId playlistId data now writes).2.items = t.items) ∨
      ∃ ids : List Int, t.requested profileId playlistId data =
          requestedDownloads profileId ids t.downloads ∧
        (t.playlistAddItems profileId playlistId data now writes).2.items =
          (createItems playlistId (t.existingDownloads playlistId ids) now
            (requestedDownloads profileId ids t.downloads) (lastPosition playlistId t.items) writes
            t.items).2.2.2 := by
  rw [playlistAddItems, requested]
  cases hown : t.ownPlaylist profileId playlistId with
  | none => exact .inl ⟨rfl, rfl⟩
  | some playlist =>
    have hprofile : playlist.profileId = profileId :=
      of_decide_eq_true (Option.filter_eq_some_iff.1 hown).2
    cases hraw : rawDownloadIds data with
    | none => exact .inl ⟨rfl, rfl⟩
    | some rawIds =>
      cases hids : intIds rawIds with
      | error error =>
        simp only [Option.map_some, hids]
        exact .inl ⟨trivial, trivial⟩
      | ok ids =>
        simp only [Option.map_some, hids, hprofile]
        refine .inr ⟨ids, rfl, ?_⟩
        split
        · next h => rw [h]
        · next h =>
          rw [h]
          split <;> rfl

end LibraryTables

namespace PositionEvent
variable {urlparse : String → Except Error ParsedUrl} {w : PositionWorld}

variable (urlparse w) in
/-- What the calls do to each of the tables. -/
theorem keepsPositions (event : PositionEvent) :
    KeepsPositions PlaylistItem.playlistId PlaylistItem.position w.library.items
        (event.apply urlparse w).library.items ∧
      KeepsPositions SourceConfig.kind SourceConfig.position w.sources
        (event.apply urlparse w).sources := by
  cases event with
  | addItems profileId playlistId data now writes =>
    refine ⟨?_, .refl _⟩
    dsimp only [apply]
    rcases w.library.items_playlistAddItems profileId playlistId data now writes with
      ⟨-, hitems⟩ | ⟨ids, -, hitems⟩
    · rw [hitems]
      exact .refl _
    · rw [hitems]
      intro i item hi hitem
      rw [lookup_createItems _ _ _ _ _ _ _ hi] at hitem
      exact ⟨item, hitem, rfl, rfl⟩
  | removeItem profileId playlistId downloadId now =>
    refine ⟨?_, .refl _⟩
    dsimp only [apply, LibraryTables.playlistRemoveItem]
    split
    · exact .refl _
    · dsimp only
      split <;> exact .delete _ _
  | addSource profileId post =>
    refine ⟨.refl _, ?_⟩
    dsimp only [apply, GetOffline.addSource]
    split
    · exact .refl _
    · split
      · exact .refl _
      · exact .refl _
      · exact .insert _ _
  | deleteSource profileId sourceId =>
    refine ⟨.refl _, ?_⟩
    dsimp only [apply, GetOffline.deleteSource]
    split
    · exact .refl _
    · exact .delete _ _

/-- The calls number what they add above the rest exactly if they do not start after a position 0. -/
theorem newOnTop_iff (event : PositionEvent) :
    NewOnTop PlaylistItem.playlistId PlaylistItem.position w.library.items
        (event.apply urlparse w).library.items ∧
      NewOnTop SourceConfig.kind SourceConfig.position w.sources (event.apply urlparse w).sources ↔
      event.NotAfterZero urlparse w := by
  cases event with
  | addItems profileId playlistId data now writes =>
    obtain ⟨hzero, hlast⟩ := lastPosition_spec playlistId w.library.items
    dsimp only [apply, NotAfterZero]
    rw [and_iff_left (NewOnTop.refl _)]
    rcases w.library.items_playlistAddItems profileId playlistId data now writes with
      ⟨hnone, hitems⟩ | ⟨ids, hrequested, hitems⟩
    · rw [hitems, hnone]
      exact iff_of_true (.refl _) fun hne => absurd rfl hne
    · have hfilter : (requestedDownloads profileId ids w.library.downloads).filter
          (· ∉ w.library.existingDownloads playlistId ids) =
          (requestedDownloads profileId ids w.library.downloads).filter
            (· ∉ listed playlistId w.library.items) :=
        List.filter_congr fun d hd => decide_eq_decide.2
          (not_congr (LibraryTables.mem_existingDownloads (mem_ids_of_requested hd)))
      rw [hitems, hrequested, ← hfilter]
      constructor
      · intro htop hnew hwrites hgreatest
        obtain ⟨item, hitem, hplaylist, hposition⟩ := createItems_first now
          (LibraryTables.adding_requested playlistId profileId ids) hnew rfl hwrites
        have hmem := htop.not_mem_positions hitem
        rw [hplaylist, hposition, hzero hgreatest] at hmem
        exact hmem hgreatest.1
      · intro h
        by_cases hnew : (requestedDownloads profileId ids w.library.downloads).filter
            (· ∉ w.library.existingDownloads playlistId ids) = [] ∨ writes = some 0
        · rw [createItems_items _ _ _ _ _ _ _ hnew]
          exact .refl _
        · rw [not_or] at hnew
          exact createItems_newOnTop _ _ _ _ _ (hlast (h hnew.1 hnew.2))
  | removeItem profileId playlistId downloadId now =>
    refine iff_of_true ⟨?_, .refl _⟩ trivial
    dsimp only [apply, LibraryTables.playlistRemoveItem]
    split
    · exact .refl _
    · dsimp only
      split <;> exact .delete _ _
  | addSource profileId post =>
    dsimp only [apply, NotAfterZero]
    rw [and_iff_right (NewOnTop.refl _), GetOffline.addSource]
    cases htype : parseStrEnum SourceType ((posted "source_type" post).getD "") with
    | none => exact iff_of_true (.refl _) (by rintro sourceType form ⟨⟩)
    | some sourceType =>
      obtain ⟨hzero, hlast⟩ :=
        nextSourcePosition_spec profileId (StrEnum.value sourceType) w.sources
      dsimp only
      split
      · next herror =>
        refine iff_of_true (.refl _) ?_
        rintro other form ⟨⟩ hread
        rw [herror] at hread
        cases hread
      · next herrors =>
        refine iff_of_true (.refl _) ?_
        rintro other form ⟨⟩ hread
        rw [herrors] at hread
        cases hread
      · next form hread =>
        constructor
        · rintro htop other _ ⟨⟩ - hgreatest
          have hmem := htop.not_mem_positions (by rw [lookup_insert, if_pos rfl])
          apply hmem
          dsimp only [newSource, SourceConfig.kind]
          rw [hzero hgreatest]
          exact hgreatest.1
        · intro h
          exact .insert (hlast (h sourceType form rfl hread))
  | deleteSource profileId sourceId =>
    refine iff_of_true ⟨.refl _, ?_⟩ trivial
    dsimp only [apply, GetOffline.deleteSource]
    split
    · exact .refl _
    · exact .delete _ _

theorem numbers_iff (event : PositionEvent) (hw : w.Distinct) :
    event.Numbers urlparse w ↔ event.NotAfterZero urlparse w := by
  rw [← newOnTop_iff]
  obtain ⟨hitems, hsources⟩ := event.keepsPositions urlparse w
  constructor
  · exact fun h => ⟨h.newItems, h.newSources⟩
  · rintro ⟨hnewItems, hnewSources⟩
    exact ⟨⟨hw.items.of_newOnTop hitems hnewItems, hw.sources.of_newOnTop hsources hnewSources⟩,
      hnewItems, hnewSources⟩

end PositionEvent

/-- Over a run of calls from distinct positions: all calls keep the positions distinct, and add above all
that is there, exactly if none of them adds to a playlist, or to the sources of a type, whose largest
position is 0. -/
theorem positions_unique_iff {urlparse : String → Except Error ParsedUrl} {w : PositionWorld}
    (hw : w.Distinct) (events : List PositionEvent) :
    Along (PositionEvent.step urlparse) (fun w event => event.Numbers urlparse w) w events ↔
      Along (PositionEvent.step urlparse) (fun w event => event.NotAfterZero urlparse w) w events := by
  refine along_congr (I := PositionWorld.Distinct) ?_ (fun w event hw => event.numbers_iff hw) hw
  intro w event w' _ hnumbers hstep
  obtain rfl := Option.some.inj hstep
  exact hnumbers.distinct

def exampleUrl (_ : String) : Except Error ParsedUrl :=
  .ok { scheme := "https", netloc := "example.org" }

def driveWorld : PositionWorld where
  library := drivePlaylist
  sources := .empty

theorem driveWorld_distinct : driveWorld.Distinct where
  items := distinctPositions_empty
  sources := distinctPositions_empty

def addToDrive (downloadIds : List Int) : PositionEvent :=
  .addItems "anna" 0 [("download_ids", .array (downloadIds.map .int))] 5 none

/-- Two episodes in one request, and a third one in another. -/
theorem two_and_one_added :
    Along (PositionEvent.step exampleUrl) (fun w event => event.Numbers exampleUrl w) driveWorld
      [addToDrive [2, 1], addToDrive [0]] := by
  refine (positions_unique_iff driveWorld_distinct _).2 ⟨?_, ?_, trivial⟩
  · rintro - - ⟨⟨i, item, hitem, -⟩, -⟩
    cases hitem
  · rintro - - ⟨-, hlast⟩
    exact absurd (hlast ⟨1, _, rfl, rfl, rfl⟩) (by decide)

def addPodcast : PositionEvent :=
  .addSource "anna" [("source_type", "podcast"), ("name", "News"), ("url", "https://example.org/news")]

/-- A playlist of one episode gets a second one at its position, and a podcast is followed by another one
at its position. -/
theorem second_addition_repeats_position :
    ¬ Along (PositionEvent.step exampleUrl) (fun w event => event.Numbers exampleUrl w) driveWorld
        [addToDrive [2], addToDrive [1]] ∧
      ¬ Along (PositionEvent.step exampleUrl) (fun w event => event.Numbers exampleUrl w) driveWorld
        [addPodcast, addPodcast] := by
  constructor
  · rintro ⟨-, h, -⟩
    exact absurd (h.distinct.items 0 1 _ _ rfl rfl rfl rfl) (by decide)
  · rintro ⟨-, h, -⟩
    exact absurd (h.distinct.sources 0 1 _ _ rfl rfl rfl rfl) (by decide)

end GetOffline
