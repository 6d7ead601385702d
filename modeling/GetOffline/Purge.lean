import GetOffline.JobSystem
import GetOffline.MediaDisk

set_option autoImplicit true

namespace GetOffline
open Python

-- api/services/dashboard_actions.py

/-- `_delete_download_media_file`. An error of the file system is logged. -/
def deleteDownloadMediaFile (machine : Machine) (row : DownloadRow) (disk : Disk) : Disk :=
  match row.mediaEntry machine with
  | none => disk
  | some name =>
    match disk.lookup name with
    | some .directory => disk
    | _ =>
      -- `missing_ok=True`: a missing file is no error.
      match disk.unlink machine name with
      | .ok disk => disk
      | .error _ => disk

/-- The numbers of a form's `ids`. -/
def requestedIds (values : List String) : Except Error (List Nat) :=
  (values.filter isDigit).mapM fun value => (intOfText value).map Int.toNat

namespace MediaStore

/-- `Download.objects.filter(pk__in=ids, profile_id=profile_id)`. -/
def isSelected (profileId : String) (ids : List Nat) (id : Nat) (row : DownloadRow) : Bool :=
  id ∈ ids && row.profileId = profileId

def selectedRows (profileId : String) (ids : List Nat) (s : MediaStore) : List (Nat × DownloadRow) :=
  s.downloads.rows.orderBy (isSelected profileId ids) fun id _ => id

/-- `batch_update` with the action `purge`, and the error that it raises, if any. The deletes of the
dependent tables and of the rows end as one: the rows go in a transaction that is the last. -/
def purge (machine : Machine) (profileId : String) (values : List String) (query : Option String)
    (deletes : Outcome) (s : MediaStore) : MediaStore × Option Error :=
  match requestedIds values, query with
  | .error error, _ => (s, some error)
  | .ok _, some error => (s, some (.other error))
  | .ok ids, none =>
    let rows := s.selectedRows profileId ids
    let disk := rows.foldl (fun disk e => deleteDownloadMediaFile machine e.2 disk) s.disk
    if rows = [] then ({ s with disk }, none)
    else if deletes.applied then
      ({ downloads := s.downloads.delete (isSelected profileId ids), disk }, deletes.error.map .other)
    else ({ s with disk }, deletes.error.map .other)

end MediaStore

section
variable {machine : Machine} {disk : Disk} {rows : List (Nat × DownloadRow)}

/-- The file system lets the entry go. -/
def unlinkable (machine : Machine) (disk : Disk) (name : Path) : Bool :=
  (disk.unlink machine name).isOk

/-- A selected row names the entry as its file, and it can be unlinked. -/
def isPurged (machine : Machine) (rows : List (Nat × DownloadRow)) (disk : Disk) (name : Path) : Bool :=
  (rows.any fun e => e.2.mediaEntry machine = some name) && unlinkable machine disk name

theorem unlinkable_congr {disk' : Disk} {name : Path} (h : disk'.lookup name = disk.lookup name) :
    unlinkable machine disk' name = unlinkable machine disk name := by
  rw [unlinkable, unlinkable, Disk.unlink, Disk.unlink, h]
  cases disk.lookup name with
  | none => rfl
  | some entry =>
    cases entry with
    | directory => rfl
    | file size => cases machine.denied name <;> rfl
    | link target => cases machine.denied name <;> rfl

theorem deleteDownloadMediaFile_eq {row : DownloadRow} {name : Path}
    (hentry : row.mediaEntry machine = some name) (disk : Disk) :
    deleteDownloadMediaFile machine row disk =
      if unlinkable machine disk name = true then AList.erase name disk else disk := by
  rw [deleteDownloadMediaFile, hentry]
  cases hlookup : disk.lookup name with
  | none => simp only [unlinkable, Disk.unlink, hlookup, Except.isOk, Except.toBool, Bool.false_eq_true,
      ↓reduceIte]
  | some entry =>
    cases hdenied : machine.denied name with
    | true =>
      cases entry <;> simp only [unlinkable, Disk.unlink, hlookup, hdenied, Except.isOk, Except.toBool,
        Bool.false_eq_true, ↓reduceIte]
    | false =>
      cases entry <;> simp only [unlinkable, Disk.unlink, hlookup, hdenied, Except.isOk, Except.toBool,
        Bool.false_eq_true, ↓reduceIte]

theorem lookup_deleteDownloadMediaFile (machine : Machine) (row : DownloadRow) (disk : Disk)
    (other : Path) :
    (deleteDownloadMediaFile machine row disk).lookup other =
      if row.mediaEntry machine = some other ∧ unlinkable machine disk other = true then none
      else disk.lookup other := by
  cases hentry : row.mediaEntry machine with
  | none =>
    rw [deleteDownloadMediaFile, hentry]
    exact (if_neg fun h => nomatch h.1).symm
  | some name =>
    rw [deleteDownloadMediaFile_eq hentry]
    by_cases hother : name = other
    · subst hother
      by_cases hunlinkable : unlinkable machine disk name = true
      · rw [if_pos hunlinkable, if_pos ⟨rfl, hunlinkable⟩, AList.lookup_erase]
      · rw [if_neg hunlinkable, if_neg fun h => hunlinkable h.2]
    · have hnot : ¬ (some name = some other ∧ unlinkable machine disk other = true) := fun h =>
        hother (Option.some.inj h.1)
      rw [if_neg hnot]
      split
      · exact AList.lookup_erase_ne (Ne.symm hother)
      · rfl

theorem isPurged_iff {name : Path} : isPurged machine rows disk name = true ↔
    (∃ e ∈ rows, e.2.mediaEntry machine = some name) ∧ unlinkable machine disk name = true := by
  simp only [isPurged, Bool.and_eq_true, List.any_eq_true, decide_eq_true_eq]

/-- The entries of the selected rows' files are gone, and nothing else. -/
theorem lookup_deleteFiles (machine : Machine) (rows : List (Nat × DownloadRow)) (disk : Disk)
    (other : Path) :
    (rows.foldl (fun disk e => deleteDownloadMediaFile machine e.2 disk) disk).lookup other =
      if isPurged machine rows disk other = true then none else disk.lookup other := by
  induction rows generalizing disk with
  | nil => rfl
  | cons e rows ih =>
    rw [List.foldl_cons, ih]
    have hfirst := lookup_deleteDownloadMediaFile machine e.2 disk other
    by_cases hnow : e.2.mediaEntry machine = some other ∧ unlinkable machine disk other = true
    · rw [if_pos hnow] at hfirst
      rw [hfirst, ite_self, if_pos (isPurged_iff.2 ⟨⟨e, List.mem_cons_self, hnow.1⟩, hnow.2⟩)]
    · rw [if_neg hnow] at hfirst
      have hsame : isPurged machine (e :: rows) disk other =
          isPurged machine rows (deleteDownloadMediaFile machine e.2 disk) other := by
        rw [Bool.eq_iff_iff, isPurged_iff, isPurged_iff, unlinkable_congr hfirst, List.exists_mem_cons_iff]
        constructor
        · rintro ⟨hentry | hrest, hunlinkable⟩
          · exact absurd ⟨hentry, hunlinkable⟩ hnow
          · exact ⟨hrest, hunlinkable⟩
        · rintro ⟨hrest, hunlinkable⟩
          exact ⟨.inr hrest, hunlinkable⟩
      rw [hsame, hfirst]

end

namespace MediaStore

/-- The form selects the row. -/
def Selects (profileId : String) (values : List String) (id : Nat) (row : DownloadRow) : Prop :=
  ∃ ids, requestedIds values = .ok ids ∧ isSelected profileId ids id row = true

/-- A purge is whole: what is still there has its file, and what is not selected too. -/
structure Whole (machine : Machine) (profileId : String) (values : List String) (s s' : MediaStore) :
    Prop where
  existing : ∀ id row name, s'.downloads.rows.lookup id = some row → row.mediaEntry machine = some name →
    s.disk.isFile name = true → s'.disk.isFile name = true
  outside : ∀ id row name, s.downloads.rows.lookup id = some row → ¬ Selects profileId values id row →
    row.mediaEntry machine = some name → s.disk.isFile name = true → s'.disk.isFile name = true

/-- No row that is to stay reaches its file through the entry of a selected row's file. -/
def Spared (machine : Machine) (profileId : String) (ids : List Nat) (deletes : Outcome)
    (s : MediaStore) : Prop :=
  ∀ id row name, s.downloads.rows.lookup id = some row →
    (isSelected profileId ids id row = true → deletes.applied = false) →
    row.mediaEntry machine = some name → s.disk.isFile name = true →
    ∀ id' row' name', s.downloads.rows.lookup id' = some row' →
      isSelected profileId ids id' row' = true → row'.mediaEntry machine = some name' →
      unlinkable machine s.disk name' = true → name' ∉ s.disk.trail linkLimit name

section
variable {machine : Machine} {profileId : String} {values : List String} {ids : List Nat}
  {deletes : Outcome} {s : MediaStore}

theorem mem_selectedRows : e ∈ s.selectedRows profileId ids ↔
    s.downloads.rows.lookup e.1 = some e.2 ∧ isSelected profileId ids e.1 e.2 = true :=
  Table.mem_orderBy

/-- What a purge that gets to its rows leaves of them. -/
theorem purge_rows (hids : requestedIds values = .ok ids) (id : Nat) (row : DownloadRow) :
    (s.purge machine profileId values none deletes).1.downloads.rows.lookup id = some row ↔
      s.downloads.rows.lookup id = some row ∧
        (isSelected profileId ids id row = true → deletes.applied = false) := by
  simp only [purge, hids]
  split
  · next hnone =>
    refine (and_iff_left_of_imp fun hrow hselected => ?_).symm
    have hmem : (id, row) ∈ s.selectedRows profileId ids := mem_selectedRows.2 ⟨hrow, hselected⟩
    rw [hnone] at hmem
    cases hmem
  · split
    · next happlied =>
      rw [AutoTable.lookup_delete, Option.filter_eq_some_iff]
      simp only [happlied, Bool.not_eq_true', Bool.true_eq_false, imp_false, Bool.not_eq_true]
    · next hkept =>
      rw [Bool.not_eq_true] at hkept
      exact (and_iff_left fun _ => hkept).symm

/-- What it leaves of the files. -/
theorem purge_disk (hids : requestedIds values = .ok ids) (other : Path) :
    (s.purge machine profileId values none deletes).1.disk.lookup other =
      if isPurged machine (s.selectedRows profileId ids) s.disk other = true then none
      else s.disk.lookup other := by
  rw [← lookup_deleteFiles]
  simp only [purge, hids]
  split
  · rfl
  · split <;> rfl

theorem whole_iff (hids : requestedIds values = .ok ids) :
    Whole machine profileId values s (s.purge machine profileId values none deletes).1 ↔
      s.Spared machine profileId ids deletes := by
  have hwithin : (s.purge machine profileId values none deletes).1.disk.Within s.disk := by
    intro other entry hentry
    rw [purge_disk hids] at hentry
    split at hentry
    · cases hentry
    · exact hentry
  have hfile {name : Path} (hfile : s.disk.isFile name = true) :
      (s.purge machine profileId values none deletes).1.disk.isFile name = true ↔
        ∀ other ∈ s.disk.trail linkLimit name,
          isPurged machine (s.selectedRows profileId ids) s.disk other ≠ true := by
    rw [Disk.isFile_iff_of_within hwithin hfile]
    refine forall₂_congr fun other hother => not_congr ?_
    rw [purge_disk hids]
    split
    · next hpurged => exact iff_of_true rfl hpurged
    · next hkept => exact iff_of_false (Disk.lookup_of_mem_trail hfile hother) hkept
  constructor
  · intro h id row name hrow hstays hentry hexists id' row' name' hrow' hselected hentry' hunlinkable hmem
    have hkept := h.existing id row name ((purge_rows hids id row).2 ⟨hrow, hstays⟩) hentry hexists
    exact (hfile hexists).1 hkept name' hmem (isPurged_iff.2
      ⟨⟨(id', row'), mem_selectedRows.2 ⟨hrow', hselected⟩, hentry'⟩, hunlinkable⟩)
  · intro h
    have hkept {id : Nat} {row : DownloadRow} {name : Path}
        (hrow : s.downloads.rows.lookup id = some row)
        (hstays : isSelected profileId ids id row = true → deletes.applied = false)
        (hentry : row.mediaEntry machine = some name) (hexists : s.disk.isFile name = true) :
        (s.purge machine profileId values none deletes).1.disk.isFile name = true := by
      refine (hfile hexists).2 fun other hother hpurged => ?_
      obtain ⟨⟨e, he, hentry'⟩, hunlinkable⟩ := isPurged_iff.1 hpurged
      obtain ⟨hrow', hselected⟩ := mem_selectedRows.1 he
      exact h id row name hrow hstays hentry hexists e.1 e.2 other hrow' hselected hentry' hunlinkable
        hother
    constructor
    · intro id row name hrow hentry hexists
      obtain ⟨hrow, hstays⟩ := (purge_rows hids id row).1 hrow
      exact hkept hrow hstays hentry hexists
    · intro id row name hrow hselects hentry hexists
      exact hkept hrow (fun hselected => absurd ⟨ids, hids, hselected⟩ hselects) hentry hexists

end

end MediaStore

open MediaStore

/-- A purge is whole exactly if no row that stays shares its file with a selected row; if the database
fails, the selected rows stay. -/
theorem purge_whole_iff (machine : Machine) (profileId : String) (values : List String)
    (query : Option String) (deletes : Outcome) (s : MediaStore) :
    Whole machine profileId values s (s.purge machine profileId values query deletes).1 ↔
      ∀ ids, requestedIds values = .ok ids → query = none → s.Spared machine profileId ids deletes := by
  have hnothing : Whole machine profileId values s s :=
    ⟨fun _ _ _ _ _ hfile => hfile, fun _ _ _ _ _ _ hfile => hfile⟩
  cases hids : requestedIds values with
  | error error =>
    simp only [purge, hids]
    exact iff_of_true hnothing fun ids h => nomatch h
  | ok ids =>
    cases query with
    | some error =>
      simp only [purge, hids]
      exact iff_of_true hnothing fun ids _ h => nomatch h
    | none =>
      rw [whole_iff hids]
      constructor
      · intro h ids' hids' _
        obtain rfl := Except.ok.inj hids'
        exact h
      · exact fun h => h ids rfl rfl

/-- A library with one video. -/
def oneVideo : MediaStore where
  downloads := AutoTable.empty.insert
    { sourceType := "youtube", sourceName := "Channel", filePath := some "/downloads/video.mp4",
      firstSeenAt := 0, lastSeenAt := 0 }
  disk := AList.insert (Path.parse "/downloads/video.mp4") (.file 1) ∅

/-- When the deletes of the dependent table fail, the row stays without its file. -/
theorem failed_purge_loses_file :
    ¬ Whole { entry := Path.parse, denied := fun _ => false } "default" ["0"] oneVideo
      (oneVideo.purge { entry := Path.parse, denied := fun _ => false } "default" ["0"] none
        (.rolledBack "OperationalError")).1 := by
  intro h
  have hkept := h.existing 0 _ (Path.parse "/downloads/video.mp4") rfl rfl (by decide +kernel)
  revert hkept
  decide +kernel

end GetOffline
