import GetOffline.Execution
import GetOffline.PlaybackRule

set_option autoImplicit true

namespace GetOffline
open Python Execution

/-- A request to save the progress of an item. -/
structure PlaybackSave where
  profileId : String
  downloadId : Nat
  request : ProgressRequest
  now : Instant

/-- The number that a request names. -/
def ProgressRequest.position : ProgressRequest → Except Error Float64
  | .savePosition positionSeconds _ => postedPosition positionSeconds
  | .progress positionSeconds _ | .complete positionSeconds => floatOfPosition positionSeconds

namespace PlaybackSave

def serve (render : Json → String) (save : PlaybackSave) (t : LibraryTables) :
    Answer PlaybackState × LibraryTables :=
  t.saveProgress render save.profileId save.downloadId save.request save.now

/-- One request is served after another. -/
def step (render : Json → String) (t : LibraryTables) (save : PlaybackSave) : Option LibraryTables :=
  some (save.serve render t).2

end PlaybackSave

/-- The columns of the playback hold numbers, and none that is negative. -/
structure DownloadRow.FiniteNumbers (row : DownloadRow) : Prop where
  position : ∃ q, row.lastPositionSeconds.toRat = some q ∧ 0 ≤ q
  total : ∃ q, row.totalListenedSeconds.toRat = some q ∧ 0 ≤ q

namespace LibraryTables

def FiniteNumbers (t : LibraryTables) : Prop :=
  ∀ id row, t.downloads.rows.lookup id = some row → row.FiniteNumbers

/-- The database keeps what the column can hold. -/
def StoresBinary64 (t : LibraryTables) : Prop :=
  ∀ id row, t.downloads.rows.lookup id = some row → row.totalListenedSeconds.IsBinary64

/-- The numbers of all rows stay finite, no total gets less, and a request that names no finite number is
rejected. -/
structure KeepsNumbers (render : Json → String) (t : LibraryTables) (save : PlaybackSave) : Prop where
  finite : (save.serve render t).2.FiniteNumbers
  grows : ∀ id row row' q q', t.downloads.rows.lookup id = some row →
    (save.serve render t).2.downloads.rows.lookup id = some row' →
    row.totalListenedSeconds.toRat = some q → row'.totalListenedSeconds.toRat = some q' → q ≤ q'
  rejects : (∀ x q, save.request.position = .ok x → x.toRat ≠ some q) →
    (save.serve render t).1.accepted = false ∧ (save.serve render t).2 = t

end LibraryTables

/-- How far a position is ahead of the row's. -/
def DownloadRow.advance (position : Float64) (row : DownloadRow) : Float64 :=
  Float64.zero.max ((Float64.zero.max position).sub row.lastPositionSeconds.orZero)

/-- The position is a finite number, and what it adds to the total leaves that in the range of a float. -/
structure DownloadRow.Counts (position : Float64) (row : DownloadRow) : Prop where
  finite : ∃ q, position.toRat = some q
  total : ∃ q r, row.totalListenedSeconds.toRat = some q ∧ (row.advance position).toRat = some r ∧
    q + r < Float64.overflow

/-- A number that an item of the profile is saved at counts. -/
def PlaybackSave.Counts (t : LibraryTables) (save : PlaybackSave) : Prop :=
  ∀ row x, t.ownDownload save.profileId save.downloadId = some row →
    save.request.position = .ok x → row.Counts x

section
variable {render : Json → String} {t : LibraryTables} {save : PlaybackSave} {row : DownloadRow}

/-- Only a request that names no number has no update, and the row tells the advance alone. -/
theorem ProgressRequest.update_spec (render : Json → String) (request : ProgressRequest) :
    (∃ e, request.position = .error e ∧ ∀ row, request.update render row = none) ∨
    ∃ x reason completed, request.position = .ok x ∧ ∀ row, request.update render row =
      some ⟨Float64.zero.max x, reason, completed, row.advance x⟩ := by
  have hupdate (position : Except Error Float64) (reason : String) (endings : List String) :
      (∃ e, position = .error e ∧ ∀ row, playbackUpdate position reason endings row = none) ∨
      ∃ x reason' completed, position = .ok x ∧ ∀ row, playbackUpdate position reason endings row =
        some ⟨Float64.zero.max x, reason', completed, row.advance x⟩ := by
    cases position with
    | error e => exact .inl ⟨e, rfl, fun _ => rfl⟩
    | ok x => exact .inr ⟨x, _, _, rfl, fun _ => rfl⟩
  cases request with
  | savePosition | progress | complete => exact hupdate _ _ _

/-- A request is rejected and changes nothing, or an item of the profile is saved at a number. -/
theorem PlaybackSave.serve_cases (render : Json → String) (save : PlaybackSave) (t : LibraryTables) :
    ((save.serve render t).1.accepted = false ∧ (save.serve render t).2 = t ∧
      ∀ row x, t.ownDownload save.profileId save.downloadId = some row →
        save.request.position ≠ .ok x) ∨
    ∃ row x, ∃ update : PlaybackUpdate, t.ownDownload save.profileId save.downloadId = some row ∧
      save.request.position = .ok x ∧ update.position = Float64.zero.max x ∧
      update.listenedDelta = row.advance x ∧ (save.serve render t).1.accepted = true ∧
      (save.serve render t).2 = { t with
        downloads := t.downloads.update (fun id _ => id == save.downloadId) (update.apply save.now) } := by
  unfold serve LibraryTables.saveProgress
  cases hown : t.ownDownload save.profileId save.downloadId with
  | none =>
    refine .inl ⟨rfl, rfl, ?_⟩
    rintro row x ⟨⟩
  | some row =>
    dsimp only
    rcases save.request.update_spec render with ⟨e, hposition, hupdate⟩ |
      ⟨x, reason, completed, hposition, hupdate⟩
    · left
      rw [hupdate, hposition]
      cases save.request with
      | savePosition | progress | complete =>
        refine ⟨rfl, rfl, ?_⟩
        rintro row x - ⟨⟩
    · right
      rw [hupdate]
      exact ⟨row, x, _, rfl, hposition, rfl, rfl, rfl, rfl⟩

/-- The columns that a save writes. -/
theorem finiteNumbers_apply_iff {update : PlaybackUpdate} (h : row.FiniteNumbers)
    (hposition : update.position = Float64.zero.max x) (hdelta : update.listenedDelta = row.advance x)
    (hx : x.toRat = some q) (now : Instant) :
    (update.apply now row).FiniteNumbers ↔ row.Counts x := by
  obtain ⟨total, htotal, hnonneg⟩ := h.total
  have horZero := Float64.toRat_orZero htotal
  constructor
  · rintro ⟨-, sum, hsum, -⟩
    have hsum' : (row.totalListenedSeconds.orZero.add (row.advance x)).toRat = some sum := hdelta ▸ hsum
    obtain ⟨r, hr⟩ := Float64.toRat_of_add hsum'
    have hrnonneg := Float64.zero_le_of_zero_max hr
    exact ⟨⟨q, hx⟩, total, r, htotal, hr,
      (Float64.toRat_add_iff horZero hr hnonneg hrnonneg).1 ⟨sum, hsum'⟩⟩
  · rintro ⟨-, q', r, hq', hr, hrange⟩
    obtain rfl := Option.some.inj (htotal.symm.trans hq')
    have hrnonneg := Float64.zero_le_of_zero_max hr
    obtain ⟨sum, hsum⟩ := (Float64.toRat_add_iff horZero hr hnonneg hrnonneg).2 hrange
    constructor
    · cases hcompleted : update.completed with
      | true =>
        refine ⟨0, ?_, le_rfl⟩
        rw [PlaybackUpdate.apply, hcompleted]
        exact Float64.toRat_zero
      | false =>
        refine ⟨max 0 q, ?_, le_max_left _ _⟩
        rw [PlaybackUpdate.apply, hcompleted]
        exact (congrArg Float64.toRat hposition).trans (Float64.toRat_max Float64.toRat_zero hx)
    · refine ⟨sum, ?_, Float64.zero_le_toRat_add horZero hr hnonneg hrnonneg hsum⟩
      rw [PlaybackUpdate.apply, hdelta]
      exact hsum

theorem le_total_apply {update : PlaybackUpdate} (h : row.FiniteNumbers)
    (hbinary : row.totalListenedSeconds.IsBinary64) (hdelta : update.listenedDelta = row.advance x)
    (now : Instant) (hq : row.totalListenedSeconds.toRat = some q)
    (hq' : (update.apply now row).totalListenedSeconds.toRat = some q') : q ≤ q' := by
  obtain ⟨total, htotal, hnonneg⟩ := h.total
  obtain rfl := Option.some.inj (htotal.symm.trans hq)
  have hsum : (row.totalListenedSeconds.orZero.add (row.advance x)).toRat = some q' := hdelta ▸ hq'
  obtain ⟨r, hr⟩ := Float64.toRat_of_add hsum
  exact Float64.le_toRat_add (Float64.toRat_orZero htotal) hr hnonneg (Float64.zero_le_of_zero_max hr)
    (Float64.isBinary64_orZero hbinary) hsum

namespace PlaybackSave

/-- A save keeps the numbers exactly if its own number counts. -/
theorem keepsNumbers_iff (h : t.FiniteNumbers) (hbinary : t.StoresBinary64) :
    t.KeepsNumbers render save ↔ save.Counts t := by
  rcases save.serve_cases render t with ⟨haccepted, htables, hposition⟩ |
    ⟨row, x, update, hown, hx, hposition, hdelta, haccepted, htables⟩
  · refine iff_of_true ?_ fun row x hown hx => absurd hx (hposition row x hown)
    constructor
    · rw [htables]
      exact h
    · intro id row row' q q' hrow hrow' hq hq'
      rw [htables, hrow] at hrow'
      obtain rfl := Option.some.inj hrow'
      exact (Option.some.inj (hq.symm.trans hq')).le
    · exact fun _ => ⟨haccepted, htables⟩
  · have hrow : t.downloads.rows.lookup save.downloadId = some row :=
      (Option.filter_eq_some_iff.1 hown).1
    have hlookup (id : Nat) : (save.serve render t).2.downloads.rows.lookup id =
        if id = save.downloadId then some (update.apply save.now row)
        else t.downloads.rows.lookup id := by
      rw [htables, AutoTable.lookup_update_at, hrow]
      rfl
    constructor
    · intro hkeeps row' x' hown' hx'
      obtain rfl := Option.some.inj (hown.symm.trans hown')
      obtain rfl := Except.ok.inj (hx.symm.trans hx')
      by_cases hfinite : ∃ q, x.toRat = some q
      · obtain ⟨q, hq⟩ := hfinite
        apply (finiteNumbers_apply_iff (h _ _ hrow) hposition hdelta hq save.now).1
        exact hkeeps.finite save.downloadId _ ((hlookup _).trans (if_pos rfl))
      · have hrejects := hkeeps.rejects fun y q hy hq =>
          hfinite ⟨q, Except.ok.inj (hx.symm.trans hy) ▸ hq⟩
        exact absurd (haccepted.symm.trans hrejects.1) (by decide)
    · intro hcounts
      have hcount := hcounts row x hown hx
      obtain ⟨q, hq⟩ := hcount.finite
      constructor
      · intro id found hfound
        rw [hlookup] at hfound
        split at hfound
        · obtain rfl := Option.some.inj hfound
          exact (finiteNumbers_apply_iff (h _ _ hrow) hposition hdelta hq save.now).2 hcount
        · exact h id found hfound
      · intro id old found r r' hold hfound hr hr'
        rw [hlookup] at hfound
        split at hfound
        · next hid =>
          rw [hid, hrow] at hold
          obtain rfl := Option.some.inj hold
          obtain rfl := Option.some.inj hfound
          exact le_total_apply (h _ _ hrow) (hbinary _ _ hrow) hdelta save.now hr hr'
        · obtain rfl := Option.some.inj (hold.symm.trans hfound)
          exact (Option.some.inj (hr.symm.trans hr')).le
      · exact fun hnone => absurd hq (hnone x q hx)

theorem storesBinary64_serve (render : Json → String) (save : PlaybackSave)
    (hbinary : t.StoresBinary64) : (save.serve render t).2.StoresBinary64 := by
  rcases save.serve_cases render t with ⟨-, htables, -⟩ | ⟨row, x, update, -, -, -, -, -, htables⟩
  · rwa [htables]
  · intro id found hfound
    rw [htables, AutoTable.lookup_update_at] at hfound
    split at hfound
    · obtain ⟨old, -, rfl⟩ := Option.map_eq_some_iff.1 hfound
      exact Float64.isBinary64_add _ _
    · exact hbinary id found hfound

end PlaybackSave

end

/-- Along every sequence of requests the numbers are kept exactly if every number that an item is saved at
counts. -/
theorem playback_numbers_finite_iff (render : Json → String) (h : t.FiniteNumbers)
    (hbinary : t.StoresBinary64) (saves : List PlaybackSave) :
    Along (PlaybackSave.step render) (fun t save => t.KeepsNumbers render save) t saves ↔
      Along (PlaybackSave.step render) (fun t save => save.Counts t) t saves := by
  apply along_congr (I := fun t => t.FiniteNumbers ∧ t.StoresBinary64)
  · rintro t save t' ⟨-, hbinary⟩ hkeeps hstep
    obtain rfl := Option.some.inj hstep
    exact ⟨hkeeps.finite, save.storesBinary64_serve render hbinary⟩
  · rintro t save ⟨h, hbinary⟩
    exact save.keepsNumbers_iff h hbinary
  · exact ⟨h, hbinary⟩

theorem lookup_unplayedItem {id : Nat} {row : DownloadRow}
    (h : unplayedItem.downloads.rows.lookup id = some row) : row = unplayedRow := by
  rw [unplayedItem, AutoTable.lookup_insert] at h
  split at h
  · exact (Option.some.inj h).symm
  · cases h

theorem unplayedItem_finite : unplayedItem.FiniteNumbers ∧ unplayedItem.StoresBinary64 := by
  constructor
  · intro id row h
    obtain rfl := lookup_unplayedItem h
    exact ⟨⟨0, Float64.toRat_zero, le_rfl⟩, ⟨0, Float64.toRat_zero, le_rfl⟩⟩
  · intro id row h
    obtain rfl := lookup_unplayedItem h
    exact ⟨Nat.zero_le _, by decide⟩

theorem saved_at_ten_seconds : Along (PlaybackSave.step fun _ => "")
    (fun t save => t.KeepsNumbers (fun _ => "") save) unplayedItem
    [⟨"p", 0, .savePosition (some "10") none, 5⟩] := by
  apply (playback_numbers_finite_iff _ unplayedItem_finite.1 unplayedItem_finite.2 _).2
  refine ⟨?_, trivial⟩
  intro row x hown hx
  obtain rfl := lookup_unplayedItem (Option.filter_eq_some_iff.1 hown).1
  have hten : postedPosition (some "10") = .ok (.finite false 5629499534213120 (-49)) := by
    decide +kernel
  obtain rfl := Except.ok.inj (hten.symm.trans hx)
  have hadvance : unplayedRow.advance (.finite false 5629499534213120 (-49)) =
      .finite false 5629499534213120 (-49) := by
    decide +kernel
  refine ⟨⟨_, Float64.toRat_finite _ _ _⟩, 0, _, Float64.toRat_zero,
    (congrArg Float64.toRat hadvance).trans (Float64.toRat_finite _ _ _), ?_⟩
  apply Float64.lt_overflow
  norm_num

/-- A position that is no number, or that no float can hold, is accepted. -/
theorem no_number_accepted :
    (¬ Along (PlaybackSave.step fun _ => "") (fun t save => t.KeepsNumbers (fun _ => "") save)
      unplayedItem [⟨"p", 0, .savePosition (some "nan") none, 5⟩]) ∧
    ¬ Along (PlaybackSave.step fun _ => "") (fun t save => t.KeepsNumbers (fun _ => "") save)
      unplayedItem [⟨"p", 0, .progress (some (.string "1e999")) none, 5⟩] := by
  constructor
  · intro h
    have hnan : postedPosition (some "nan") = .ok .nan := by decide +kernel
    have hrejects := (Along.head h).rejects fun x q hx hq => by
      obtain rfl := Except.ok.inj (hnan.symm.trans hx)
      cases hq
    exact absurd hrejects.1 (by decide +kernel)
  · intro h
    have hinfinite : floatOfPosition (some (.string "1e999")) = .ok (.infinity false) := by
      decide +kernel
    have hrejects := (Along.head h).rejects fun x q hx hq => by
      obtain rfl := Except.ok.inj (hinfinite.symm.trans hx)
      cases hq
    exact absurd hrejects.1 (by decide +kernel)

end GetOffline
