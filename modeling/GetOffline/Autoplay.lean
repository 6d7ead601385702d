import GetOffline.Execution
import GetOffline.Playback
import Mathlib.Data.Finset.Order
import Mathlib.Data.List.Infix

set_option autoImplicit true

namespace GetOffline
open Python Execution

/-- The playable items of a profile in the order of the library. -/
def LibraryTables.libraryOrder (profileId : String) (t : LibraryTables) : List Nat :=
  (t.downloads.rows.orderBy (fun _ row => row.playable profileId) lastSeenFirst).map Prod.fst

/-- A chain of items that the player has opened, the one that it plays, and the latest time of a save.
The chain has ended when there is no next item. -/
structure Autoplay where
  tables : LibraryTables
  opened : List Nat
  current : Option Nat
  clock : Instant

/-- The saves of one item, in the order of their times. -/
abbrev Progress := List (ProgressRequest × Instant)

/-- The tables after the saves, and whether the last of them completes the item. -/
def LibraryTables.saveAll (render : Json → String) (profileId : String) (downloadId : Nat) :
    Progress → LibraryTables → Bool × LibraryTables
  | [], t => (false, t)
  | [(request, now)], t =>
    let update := (t.ownDownload profileId downloadId).bind fun row => request.update render row
    (update.any PlaybackUpdate.completed, (t.saveProgress render profileId downloadId request now).2)
  | (request, now) :: saves, t =>
    saveAll render profileId downloadId saves (t.saveProgress render profileId downloadId request now).2

namespace Autoplay

def start (t : LibraryTables) (downloadId : Nat) (clock : Instant) : Autoplay where
  tables := t
  opened := [downloadId]
  current := some downloadId
  clock := clock

/-- The item is played to its end and its progress saved, and the player goes on. -/
def step (render : Json → String) (profileId : String) (w : Autoplay) (saves : Progress) :
    Option Autoplay :=
  w.current.bind fun downloadId =>
    let (ended, tables) := w.tables.saveAll render profileId downloadId saves
    let times := saves.map Prod.snd
    if ended ∧ (w.clock :: times).IsChain (· ≤ ·) then
      let next := (tables.nextLibraryDownload profileId downloadId).map Prod.fst
      some {
        tables
        opened := w.opened ++ next.toList
        current := next
        clock := times.getLastD w.clock }
    else none

/-- Nothing is opened twice, there are no more items than the library has, and each is the one that came
after the last in the library's order. -/
structure InOrder (profileId : String) (t : LibraryTables) (opened : List Nat) : Prop where
  fresh : opened.Nodup
  bounded : opened.length ≤ (t.libraryOrder profileId).length
  follows : opened <:+: t.libraryOrder profileId

end Autoplay

theorem orders_lastSeenFirst : Table.Orders lastSeenFirst := by
  intro j r k s h
  have hid := (Prod.mk.inj (toLex.injective h)).2
  omega

theorem PlaybackUpdate.playable_apply (now : Instant) (update : PlaybackUpdate) (row : DownloadRow) :
    (update.apply now row).playable profileId = row.playable profileId := by
  simp only [DownloadRow.playable, DownloadRow.inLibrary, DownloadRow.hasStatus, DownloadRow.isPdf,
    PlaybackUpdate.apply]
  rfl

/-- A player can complete every item. -/
theorem complete_update (render : Json → String) (row : DownloadRow) :
    ∃ update, (ProgressRequest.complete none).update render row = some update ∧
      update.completed = true := by
  have hreason : lower (strip "complete") ∈ ["ended", "mini-ended", "complete", "completed"] := by
    decide +kernel
  have hstr : (Json.orEmpty (some (.string "complete"))).str render = "complete" := by
    have htruthy : (Json.string "complete").truthy = true := by decide +kernel
    rw [Json.orEmpty, if_pos htruthy, Json.str]
  rw [ProgressRequest.update, buildUpdate, hstr]
  exact ⟨_, rfl, decide_eq_true hreason⟩

namespace LibraryTables
variable {t : LibraryTables} {id : Nat}

theorem ownDownload_eq_some : t.ownDownload profileId id = some row ↔
    t.downloads.rows.lookup id = some row ∧ row.profileId = profileId := by
  rw [ownDownload, Option.filter_eq_some_iff, decide_eq_true_eq]

theorem mem_libraryOrder : id ∈ t.libraryOrder profileId ↔
    ∃ row, t.downloads.rows.lookup id = some row ∧ row.playable profileId = true := by
  simp only [libraryOrder, List.mem_map, Table.mem_orderBy, Prod.exists, exists_eq_right,
    exists_and_right]

/-- What a save does to the rows: one may get a later time, and its status and its file stay. -/
theorem lookup_saveProgress (render : Json → String) (profileId : String) (downloadId : Nat)
    (request : ProgressRequest) (now : Instant) (t : LibraryTables) (owner : String) (id : Nat) :
    ((t.saveProgress render profileId downloadId request now).2.downloads.rows.lookup id).map
        (fun row => row.playable owner) =
      (t.downloads.rows.lookup id).map fun row => row.playable owner := by
  unfold saveProgress
  cases t.ownDownload profileId downloadId with
  | none => rfl
  | some row =>
    dsimp only
    cases request.update render row with
    | none => cases request <;> rfl
    | some update =>
      dsimp only
      rw [AutoTable.lookup_update, Option.map_map]
      congr 1
      funext row
      rw [Function.comp_apply]
      split
      · exact update.playable_apply now row
      · rfl

theorem lookup_saveAll (render : Json → String) (profileId : String) (downloadId : Nat)
    (saves : Progress) (t : LibraryTables) (owner : String) (id : Nat) :
    ((t.saveAll render profileId downloadId saves).2.downloads.rows.lookup id).map
        (fun row => row.playable owner) =
      (t.downloads.rows.lookup id).map fun row => row.playable owner := by
  induction saves generalizing t with
  | nil => rfl
  | cons save saves ih =>
    cases saves with
    | nil => exact lookup_saveProgress _ _ _ _ _ _ _ _
    | cons next saves =>
      rw [saveAll, ih]
      · exact lookup_saveProgress _ _ _ _ _ _ _ _
      · intro h
        cases h

theorem nextLibraryDownload_spec (h : t.nextLibraryDownload profileId downloadId = some (id, row)) :
    t.downloads.rows.lookup id = some row ∧ row.playable profileId = true ∧ id ≠ downloadId := by
  obtain ⟨current, hcurrent, hfirst⟩ := Option.bind_eq_some_iff.1 h
  obtain ⟨hrow, hp⟩ := Table.lookup_of_first hfirst
  simp only [Bool.and_eq_true, Bool.or_eq_true, decide_eq_true_eq] at hp
  refine ⟨hrow, hp.1, ?_⟩
  rintro rfl
  rw [(ownDownload_eq_some.1 hcurrent).1] at hrow
  obtain rfl := Option.some.inj hrow
  rcases hp.2 with hlt | ⟨-, hlt⟩
  · exact lt_irrefl _ hlt
  · exact lt_irrefl _ hlt

/-- Completing an item writes its row, which is then the latest one. -/
theorem saveAll_complete (render : Json → String) (hrow : t.ownDownload profileId downloadId = some row) (now : Instant) :
    ∃ update, t.saveAll render profileId downloadId [(.complete none, now)] =
      (true, { t with
        downloads := t.downloads.update (fun id _ => id == downloadId)
          (PlaybackUpdate.apply now update) }) := by
  obtain ⟨update, hupdate, hcompleted⟩ := complete_update render row
  refine ⟨update, ?_⟩
  simp only [saveAll, saveProgress, hrow, Option.bind_some, hupdate, Option.any_some, hcompleted]

theorem own_of_playable (hrow : t.downloads.rows.lookup id = some row)
    (hp : row.playable profileId = true) : t.ownDownload profileId id = some row := by
  rw [DownloadRow.playable, DownloadRow.inLibrary, Bool.and_eq_true, Bool.and_eq_true,
    Bool.and_eq_true] at hp
  exact ownDownload_eq_some.2 ⟨hrow, of_decide_eq_true hp.1.1.1⟩

/-- The next item is the latest one among those that are earlier than the current one. -/
theorem nextLibraryDownload_eq_some (hcurrent : t.ownDownload profileId downloadId = some current)
    (hrow : t.downloads.rows.lookup id = some row) (hp : row.playable profileId = true)
    (hbefore : row.lastSeenAt < current.lastSeenAt)
    (hlatest : ∀ other r, t.downloads.rows.lookup other = some r → other ≠ downloadId → other ≠ id →
      r.lastSeenAt < row.lastSeenAt) :
    t.nextLibraryDownload profileId downloadId = some (id, row) := by
  rw [nextLibraryDownload, hcurrent, Option.bind_some, Table.first_eq_some orders_lastSeenFirst]
  refine ⟨hrow, ?_, ?_⟩
  · rw [hp, decide_eq_true hbefore, Bool.true_or, Bool.and_true]
  · intro other r hr hsel
    simp only [Bool.and_eq_true, Bool.or_eq_true, decide_eq_true_eq] at hsel
    by_cases hid : other = id
    · subst hid
      rw [hrow] at hr
      rw [Option.some.inj hr]
    · have hne : other ≠ downloadId := by
        rintro rfl
        rw [(ownDownload_eq_some.1 hcurrent).1] at hr
        obtain rfl := Option.some.inj hr
        rcases hsel.2 with hlt | ⟨-, hlt⟩
        · exact lt_irrefl _ hlt
        · exact lt_irrefl _ hlt
      have hlt := hlatest other r hr hne hid
      rw [lastSeenFirst, lastSeenFirst, Prod.Lex.toLex_le_toLex]
      exact .inl (Int.neg_lt_neg hlt)

theorem exists_later (t : LibraryTables) (clock : Instant) :
    ∃ now, clock ≤ now ∧ ∀ id row, t.downloads.rows.lookup id = some row → row.lastSeenAt < now := by
  obtain ⟨last, hlast⟩ := (clock :: t.downloads.rows.entries.map fun e =>
    e.2.lastSeenAt).toFinset.exists_le
  simp only [List.mem_toFinset, List.forall_mem_cons, List.forall_mem_map] at hlast
  refine ⟨last + 1, Int.le_add_one hlast.1, ?_⟩
  intro id row hrow
  have hle := hlast.2 _ (Table.mem_entries_iff.2 hrow)
  exact Int.lt_add_one_of_le hle

end LibraryTables

namespace Autoplay
variable {t : LibraryTables} {w w' : Autoplay} {clock : Instant}

theorem step_spec (h : step render profileId w saves = some w') :
    ∃ downloadId, w.current = some downloadId ∧
      w'.tables = (w.tables.saveAll render profileId downloadId saves).2 ∧
      w'.current = (w'.tables.nextLibraryDownload profileId downloadId).map Prod.fst ∧
      w'.opened = w.opened ++ w'.current.toList := by
  obtain ⟨downloadId, hcurrent, h⟩ := Option.bind_eq_some_iff.1 h
  dsimp only at h
  split at h
  · obtain rfl := Option.some.inj h
    exact ⟨downloadId, hcurrent, rfl, rfl, rfl⟩
  · cases h

/-- Where nothing else is playable, the chain is its first item. -/
theorem opened_eq_of_single (hsingle : ∀ id ∈ t.libraryOrder profileId, id = downloadId)
    (h : exec (step render profileId) (start t downloadId clock) events = some w) :
    w.opened = [downloadId] := by
  have hinv : w.opened = [downloadId] ∧ (∀ id ∈ w.current, id = downloadId) ∧
      ∀ id ∈ w.tables.libraryOrder profileId, id = downloadId := by
    refine exec_preserves (I := fun w => w.opened = [downloadId] ∧
      (∀ id ∈ w.current, id = downloadId) ∧
        ∀ id ∈ w.tables.libraryOrder profileId, id = downloadId) ?_ ?_ h
    · rintro w saves w' ⟨hopened, hcurrent, horder⟩ hs
      obtain ⟨id, hid, htables, hnext, hopened'⟩ := step_spec hs
      obtain rfl := hcurrent id hid
      have horder' : ∀ other ∈ w'.tables.libraryOrder profileId, other = id := by
        intro other hother
        apply horder
        obtain ⟨row, hrow, hplayable⟩ := LibraryTables.mem_libraryOrder.1 hother
        have hsame := LibraryTables.lookup_saveAll render profileId id saves w.tables profileId other
        rw [← htables, hrow, Option.map_some, hplayable] at hsame
        obtain ⟨row', hrow', hplayable'⟩ := Option.map_eq_some_iff.1 hsame.symm
        exact LibraryTables.mem_libraryOrder.2 ⟨row', hrow', hplayable'⟩
      have hnone : w'.current = none := by
        rw [hnext]
        cases hfound : w'.tables.nextLibraryDownload profileId id with
        | none => rfl
        | some e =>
          obtain ⟨hrow, hplayable, hne⟩ := LibraryTables.nextLibraryDownload_spec hfound
          exact (hne (horder' e.1 (LibraryTables.mem_libraryOrder.2 ⟨e.2, hrow, hplayable⟩))).elim
      refine ⟨?_, ?_, horder'⟩
      · rw [hopened', hnone, hopened, Option.toList_none, List.append_nil]
      · rw [hnone]
        intro other hother
        cases hother
    · refine ⟨rfl, ?_, hsingle⟩
      intro id hid
      exact (Option.some.inj hid).symm
  exact hinv.1

theorem step_complete (render : Json → String) {w : Autoplay} (hcurrent : w.current = some downloadId)
    (hrow : w.tables.ownDownload profileId downloadId = some row) (hclock : w.clock ≤ now) :
    ∃ update w', step render profileId w [(.complete none, now)] = some w' ∧ w'.clock = now ∧
      w'.tables.downloads = w.tables.downloads.update (fun id _ => id == downloadId)
        (PlaybackUpdate.apply now update) ∧
      w'.current = (w'.tables.nextLibraryDownload profileId downloadId).map Prod.fst ∧
      w'.opened = w.opened ++ w'.current.toList := by
  obtain ⟨update, hsaved⟩ := LibraryTables.saveAll_complete render hrow now
  have htimes : [w.clock, now].IsChain (· ≤ ·) :=
    List.isChain_cons_cons.2 ⟨hclock, List.isChain_singleton now⟩
  refine ⟨update, ?_⟩
  simp only [step, hcurrent, Option.bind_some, hsaved]
  rw [if_pos ⟨trivial, htimes⟩]
  exact ⟨_, rfl, rfl, rfl, rfl, rfl⟩

/-- Two playable items follow each other for ever. -/
theorem exists_repeat (render : Json → String) (hstart : downloadId ∈ t.libraryOrder profileId)
    (hother : other ∈ t.libraryOrder profileId) (hne : other ≠ downloadId) (clock : Instant) :
    ∃ events w, exec (step render profileId) (start t downloadId clock) events = some w ∧
      ¬ w.opened.Nodup := by
  obtain ⟨row, hrow, hplayable⟩ := LibraryTables.mem_libraryOrder.1 hstart
  obtain ⟨r, hr, hrplayable⟩ := LibraryTables.mem_libraryOrder.1 hother
  obtain ⟨now, hclock, hlater⟩ := t.exists_later clock
  obtain ⟨update₁, w₁, hstep₁, hclock₁, hrows₁, hnext₁, hopened₁⟩ := step_complete render
    (w := start t downloadId clock) rfl (LibraryTables.own_of_playable hrow hplayable) hclock
  have hlookup₁ (id : Nat) : w₁.tables.downloads.rows.lookup id =
      if id = downloadId then (t.downloads.rows.lookup downloadId).map (update₁.apply now)
      else t.downloads.rows.lookup id := by
    rw [hrows₁]
    exact AutoTable.lookup_update_at _ _ _ _
  have hcurrent₁ : w₁.tables.downloads.rows.lookup downloadId = some (update₁.apply now row) := by
    rw [hlookup₁, if_pos rfl, hrow, Option.map_some]
  have hplayable₁ : (update₁.apply now row).playable profileId = true := by
    rw [PlaybackUpdate.playable_apply, hplayable]
  -- The first item is now the latest, so some other playable one comes next.
  have hsome : w₁.tables.nextLibraryDownload profileId downloadId ≠ none := by
    intro hnone
    rw [LibraryTables.nextLibraryDownload, LibraryTables.own_of_playable hcurrent₁ hplayable₁,
      Option.bind_some, Table.first_eq_none] at hnone
    have hno := hnone other r (by rw [hlookup₁, if_neg hne, hr])
    rw [hrplayable, Bool.true_and, Bool.or_eq_false_iff, decide_eq_false_iff_not] at hno
    exact hno.1 (hlater other r hr)
  obtain ⟨⟨id, next⟩, hfound⟩ := Option.ne_none_iff_exists'.1 hsome
  obtain ⟨hid, hidplayable, hidne⟩ := LibraryTables.nextLibraryDownload_spec hfound
  rw [hfound, Option.map_some] at hnext₁
  have hlater₁ : w₁.clock ≤ now + 1 := by
    rw [hclock₁]
    exact Int.le_add_one le_rfl
  obtain ⟨update₂, w₂, hstep₂, -, hrows₂, hnext₂, hopened₂⟩ := step_complete render
    hnext₁ (LibraryTables.own_of_playable hid hidplayable) hlater₁
  have hlookup₂ (i : Nat) : w₂.tables.downloads.rows.lookup i =
      if i = id then (w₁.tables.downloads.rows.lookup id).map (update₂.apply (now + 1))
      else w₁.tables.downloads.rows.lookup i := by
    rw [hrows₂]
    exact AutoTable.lookup_update_at _ _ _ _
  have hcurrent₂ : w₂.tables.ownDownload profileId id = some (update₂.apply (now + 1) next) := by
    have hplayable' : (update₂.apply (now + 1) next).playable profileId = true := by
      rw [PlaybackUpdate.playable_apply, hidplayable]
    apply LibraryTables.own_of_playable _ hplayable'
    rw [hlookup₂, if_pos rfl, hid, Option.map_some]
  have hback : w₂.tables.nextLibraryDownload profileId id =
      some (downloadId, update₁.apply now row) := by
    apply LibraryTables.nextLibraryDownload_eq_some hcurrent₂ _ hplayable₁
    · exact Int.lt_succ now
    · intro i s hs hi hi'
      rw [hlookup₂, if_neg hi, hlookup₁, if_neg hi'] at hs
      exact hlater i s hs
    · rw [hlookup₂, if_neg hidne.symm, hcurrent₁]
  refine ⟨[[(.complete none, now)], [(.complete none, now + 1)]], w₂, ?_, ?_⟩
  · rw [exec, hstep₁, Option.bind_some, exec, hstep₂, Option.bind_some, exec_nil]
  · rw [hopened₂, hnext₂, hback, hopened₁, hnext₁]
    intro hnodup
    have hsplit : [downloadId, id, downloadId].Nodup := hnodup
    rw [List.nodup_cons] at hsplit
    exact hsplit.1 (List.mem_cons_of_mem _ List.mem_cons_self)

end Autoplay

/-- The chain of autoplay goes through the library in its order exactly if it has nowhere to go. -/
theorem autoplay_in_order_iff (render : Json → String) (profileId : String) (t : LibraryTables)
    (downloadId : Nat) (clock : Instant) (hstart : downloadId ∈ t.libraryOrder profileId) :
    (∀ events w, exec (Autoplay.step render profileId) (.start t downloadId clock) events = some w →
        Autoplay.InOrder profileId t w.opened) ↔
      ∀ id ∈ t.libraryOrder profileId, id = downloadId := by
  constructor
  · intro h id hid
    by_contra hne
    obtain ⟨events, w, hw, hrepeat⟩ := Autoplay.exists_repeat render hstart hid hne clock
    exact hrepeat (h events w hw).fresh
  · intro hsingle events w hw
    rw [Autoplay.opened_eq_of_single hsingle hw]
    exact {
      fresh := List.nodup_singleton downloadId
      bounded := List.length_pos_of_mem hstart
      follows := (List.singleton_infix_iff _ _).2 hstart }

def seenEpisode (lastSeenAt : Instant) : DownloadRow where
  profileId := "anna"
  sourceType := "podcast"
  sourceName := "News"
  fileExt := some "mp3"
  firstSeenAt := 0
  lastSeenAt := lastSeenAt

def episodesSeenAt (times : List Instant) : LibraryTables where
  downloads := times.foldl (fun rows time => rows.insert (seenEpisode time)) .empty
  playlists := .empty
  items := .empty
  segments := .empty

theorem lone_item_in_order : 0 ∈ (episodesSeenAt [30]).libraryOrder "anna" ∧
    ∀ events w, exec (Autoplay.step (fun _ => "") "anna") (.start (episodesSeenAt [30]) 0 30) events =
      some w → Autoplay.InOrder "anna" (episodesSeenAt [30]) w.opened := by
  have hstart : 0 ∈ (episodesSeenAt [30]).libraryOrder "anna" := by decide +kernel
  refine ⟨hstart, ?_⟩
  exact (autoplay_in_order_iff (fun _ => "") "anna" (episodesSeenAt [30]) 0 30 hstart).2
    (by decide +kernel)

/-- After the second item the player goes back to the first one, and never gets to the third. -/
theorem autoplay_returns_to_first : ∃ w, exec (Autoplay.step (fun _ => "") "anna")
    (.start (episodesSeenAt [30, 20, 10]) 0 30)
    [[(.progress (some (.int 15)) none, 40), (.complete none, 50)],
      [(.savePosition (some "0.000") (some "ended"), 60)]] = some w ∧
    w.opened = [0, 1, 0] ∧ (episodesSeenAt [30, 20, 10]).libraryOrder "anna" = [0, 1, 2] ∧
      ¬ Autoplay.InOrder "anna" (episodesSeenAt [30, 20, 10]) w.opened := by
  obtain ⟨w, hw⟩ : ∃ w, exec (Autoplay.step (fun _ => "") "anna")
      (.start (episodesSeenAt [30, 20, 10]) 0 30)
      [[(.progress (some (.int 15)) none, 40), (.complete none, 50)],
        [(.savePosition (some "0.000") (some "ended"), 60)]] = some w := by
    apply Option.isSome_iff_exists.1
    decide +kernel
  have hopened : (exec (Autoplay.step (fun _ => "") "anna")
      (.start (episodesSeenAt [30, 20, 10]) 0 30)
      [[(.progress (some (.int 15)) none, 40), (.complete none, 50)],
        [(.savePosition (some "0.000") (some "ended"), 60)]]).map Autoplay.opened =
      some [0, 1, 0] := by
    decide +kernel
  rw [hw, Option.map_some, Option.some.injEq] at hopened
  refine ⟨w, hw, hopened, by decide +kernel, ?_⟩
  intro h
  have hfresh := h.fresh
  rw [hopened] at hfresh
  exact absurd hfresh (by decide)

end GetOffline
