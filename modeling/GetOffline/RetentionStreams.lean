import GetOffline.MediaStreams

set_option autoImplicit true

namespace GetOffline
open Python

/-- The paths of a row agree: where `file_path` leads to no file, a streaming request finds none either, and
the entry that an expired row loses is the file that a streaming request gets. -/
structure DownloadRow.PathsAgree (machine : Machine) (settings : RootSettings) (profileId : String)
    (cutoff : Instant) (disk : Disk) (row : DownloadRow) : Prop where
  absent : (∀ name, row.mediaEntry machine = some name → disk.isFile name = false) →
    (∀ file, ¬ row.RelativeFile machine settings disk file) ∧
      (row.Circular machine settings disk ∨ ∀ file, ¬ row.OwnFile machine disk file)
  expired : ∀ name, row.Expired machine profileId cutoff name → disk.isFile name = true →
    row.RelativeFile machine settings disk name ∨
      (∀ file, ¬ row.RelativeFile machine settings disk file) ∧
        ¬ row.Circular machine settings disk ∧ ∃ size, disk.lookup name = some (.file size)

namespace MediaStore
variable {machine : Machine} {settings : RootSettings} {profileId : String} {payload : Json}
  {configuredDays : Option String} {cutoff started now : Instant} {s t t' : MediaStore} {id : Nat}
  {row : DownloadRow}

/-- A turn of a clean-up with this cutoff: the row, and the store before the turn and after it. -/
def Turn (machine : Machine) (profileId : String) (payload : Json) (configuredDays : Option String)
    (started now : Instant) (s : MediaStore) (cutoff : Instant) (id : Nat) (row : DownloadRow)
    (t t' : MediaStore) : Prop :=
  activeCutoff payload configuredDays started = some cutoff ∧ ∃ before after,
    s.cleanupRows profileId = before ++ (id, row) :: after ∧
    t = s.cleanRows machine cutoff now before ∧ t' = t.cleanRow machine cutoff now id row

/-- A turn marks the row missing only if a streaming request for it fails, and the only entry that it
removes is the file that a streaming request gets. -/
structure AgreesWithStreaming (machine : Machine) (settings : RootSettings) (id : Nat) (row : DownloadRow)
    (t t' : MediaStore) : Prop where
  missing : ∀ row', t'.downloads.rows.lookup id = some row' →
    row'.downloadStatus = StrEnum.value DownloadStatus.missing →
    ∀ file, row.resolveMediaPath machine settings t.disk ≠ .ok file
  deleted : t'.disk ≠ t.disk →
    ∃ file, row.resolveMediaPath machine settings t.disk = .ok file ∧ t'.disk = AList.erase file t.disk

theorem lookup_mark (status : DownloadStatus) (now : Instant) (s : MediaStore) (other : Nat) :
    (s.mark id status now).downloads.rows.lookup other =
      if other = id then (s.downloads.rows.lookup id).map fun row =>
        { row with downloadStatus := StrEnum.value status, lastSeenAt := now }
      else s.downloads.rows.lookup other :=
  AutoTable.lookup_update_at _ _ _ _

/-- What a turn does: it marks a row without a file missing, deletes the file of an expired row, or leaves
everything as it is. -/
theorem cleanRow_cases (machine : Machine) (cutoff now : Instant) (id : Nat) (t : MediaStore)
    (hclean : row.cleanable profileId = true) :
    ((∀ name, row.mediaEntry machine = some name → t.disk.isFile name = false) ∧
        t.cleanRow machine cutoff now id row = t.mark id .missing now) ∨
      (∃ name, row.Expired machine profileId cutoff name ∧ t.disk.isFile name = true ∧
        t.cleanRow machine cutoff now id row =
          mark id .retentionDeleted now { t with disk := AList.erase name t.disk }) ∨
      (∃ name, row.mediaEntry machine = some name ∧ t.disk.isFile name = true) ∧
        (∀ name, ¬ row.Expired machine profileId cutoff name) ∧
        t.cleanRow machine cutoff now id row = t := by
  rw [cleanRow]
  split
  · next hentry =>
    refine .inl ⟨?_, rfl⟩
    intro name hname
    rw [hentry] at hname
    cases hname
  · next name hentry =>
    cases hfile : t.disk.isFile name with
    | false =>
      refine .inl ⟨?_, rfl⟩
      intro other hother
      rw [hentry] at hother
      obtain rfl := Option.some.inj hother
      exact hfile
    | true =>
      right
      rw [Bool.not_true, if_neg Bool.false_ne_true, Disk.unlink_of_isFile hfile]
      by_cases hexpired : row.Expired machine profileId cutoff name
      · refine .inl ⟨name, hexpired, hfile, ?_⟩
        rw [hexpired.ordinary, if_neg Bool.false_ne_true, if_neg (not_lt.2 hexpired.old),
          hexpired.allowed, if_neg Bool.false_ne_true]
      · refine .inr ⟨⟨name, hentry, hfile⟩, ?_, ?_⟩
        · intro other hother
          rw [hother.entry] at hentry
          obtain rfl := Option.some.inj hentry
          exact hexpired hother
        · split
          · rfl
          · next hfavorite =>
            split
            · rfl
            · next hold =>
              cases hdenied : machine.denied name with
              | true => rfl
              | false =>
                rw [Bool.not_eq_true] at hfavorite
                exact absurd ⟨hclean, hfavorite, not_lt.1 hold, hentry, hdenied⟩ hexpired

/-- A turn changes its own row alone. -/
theorem lookup_cleanRow_ne (machine : Machine) (cutoff now : Instant) (row : DownloadRow) (t : MediaStore)
    (hne : other ≠ id) (hclean : row.cleanable profileId = true) :
    (t.cleanRow machine cutoff now id row).downloads.rows.lookup other = t.downloads.rows.lookup other := by
  rcases cleanRow_cases machine cutoff now id t hclean with
    ⟨-, h⟩ | ⟨name, -, -, h⟩ | ⟨-, -, h⟩
  · rw [h, lookup_mark, if_neg hne]
  · rw [h, lookup_mark, if_neg hne]
  · rw [h]

/-- The turns of other rows leave a row as it was. -/
theorem lookup_cleanRows_notMem (hclean : ∀ e ∈ rows, e.2.cleanable profileId = true)
    (hother : ∀ e ∈ rows, other ≠ e.1) (s : MediaStore) :
    (s.cleanRows machine cutoff now rows).downloads.rows.lookup other = s.downloads.rows.lookup other := by
  induction rows generalizing s with
  | nil => rfl
  | cons e rows ih =>
    have hrest := ih (fun e he => hclean e (List.mem_cons_of_mem _ he))
      (fun e he => hother e (List.mem_cons_of_mem _ he)) (s.cleanRow machine cutoff now e.1 e.2)
    exact hrest.trans (lookup_cleanRow_ne machine cutoff now e.2 s (hother e List.mem_cons_self)
      (hclean e List.mem_cons_self))

/-- A clean-up comes to the end of the turns behind each of its turns. -/
theorem Turn.run (h : Turn machine profileId payload configuredDays started now s cutoff id row t t') :
    ∃ after, s.retentionCleanup machine profileId payload configuredDays started now =
      .ok (t'.cleanRows machine cutoff now after) := by
  obtain ⟨hactive, before, after, hrows, rfl, rfl⟩ := h
  rcases retentionCleanup_cases machine profileId payload configuredDays started now s with
    ⟨hoff, -⟩ | ⟨cutoff', hcutoff, hrun⟩
  · rw [hoff] at hactive
    cases hactive
  · rw [hcutoff] at hactive
    obtain rfl := Option.some.inj hactive
    refine ⟨after, ?_⟩
    rw [hrun, hrows, cleanRows, List.foldl_append]
    rfl

/-- At its turn a row is as it was when the clean-up began. -/
theorem Turn.row_kept
    (h : Turn machine profileId payload configuredDays started now s cutoff id row t t') :
    t.downloads.rows.lookup id = some row ∧ row.cleanable profileId = true ∧
      t' = t.cleanRow machine cutoff now id row := by
  obtain ⟨-, before, after, hrows, rfl, rfl⟩ := h
  have hmem : (id, row) ∈ s.cleanupRows profileId := by
    rw [hrows]
    exact List.mem_append_right _ List.mem_cons_self
  obtain ⟨hrow, hclean⟩ := mem_cleanupRows.1 hmem
  have hnodup : ((s.cleanupRows profileId).map Prod.fst).Nodup := Table.nodup_orderBy
  rw [hrows, List.map_append, List.map_cons] at hnodup
  refine ⟨?_, hclean, rfl⟩
  rw [lookup_cleanRows_notMem, hrow]
  · intro e he
    have hbefore : e ∈ s.cleanupRows profileId := by
      rw [hrows]
      exact List.mem_append_left _ he
    exact (mem_cleanupRows.1 hbefore).2
  · rintro e he rfl
    exact (List.nodup_append.1 hnodup).2.2 _ (List.mem_map_of_mem he) _ List.mem_cons_self rfl

theorem erase_ne_of_isFile {disk : Disk} {name : Path} (h : disk.isFile name = true) :
    AList.erase name disk ≠ disk := by
  intro hsame
  have hgone := Disk.not_isFile_of_none (AList.lookup_erase name disk)
  rw [hsame, h] at hgone
  cases hgone

/-- Two files that are there are told apart by what is left without them. -/
theorem erase_inj_of_isFile {disk : Disk} {name file : Path} (h : disk.isFile name = true)
    (hsame : AList.erase name disk = AList.erase file disk) : name = file := by
  by_contra hne
  have hgone := AList.lookup_erase name disk
  rw [hsame, AList.lookup_erase_ne hne] at hgone
  rw [Disk.not_isFile_of_none hgone] at h
  cases h

theorem not_resolved_iff {disk : Disk} :
    (∀ file, row.resolveMediaPath machine settings disk ≠ .ok file) ↔
      (∀ file, ¬ row.RelativeFile machine settings disk file) ∧
        (row.Circular machine settings disk ∨ ∀ file, ¬ row.OwnFile machine disk file) := by
  simp only [ne_eq, DownloadRow.resolveMediaPath_eq_ok_iff, not_or, not_and, forall_and]
  constructor
  · rintro ⟨hnone, hown⟩
    refine ⟨hnone, ?_⟩
    by_cases hcircular : row.Circular machine settings disk
    · exact .inl hcircular
    · exact .inr fun file => hown file hcircular hnone
  · rintro ⟨hnone, hcircular | hown⟩
    · exact ⟨hnone, fun _ hstraight => absurd hcircular hstraight⟩
    · exact ⟨hnone, fun file _ _ => hown file⟩

theorem agrees_of_missing (hrow : t.downloads.rows.lookup id = some row)
    (habsent : ∀ name, row.mediaEntry machine = some name → t.disk.isFile name = false) :
    AgreesWithStreaming machine settings id row t (t.mark id .missing now) ↔
      row.PathsAgree machine settings profileId cutoff t.disk := by
  have hafter : (t.mark id .missing now).downloads.rows.lookup id =
      some { row with downloadStatus := StrEnum.value DownloadStatus.missing, lastSeenAt := now } := by
    rw [lookup_mark, if_pos rfl, hrow, Option.map_some]
  constructor
  · intro hagrees
    constructor
    · exact fun _ => not_resolved_iff.1 (hagrees.missing _ hafter rfl)
    · intro name hexpired hfile
      rw [habsent name hexpired.entry] at hfile
      cases hfile
  · intro hpaths
    constructor
    · exact fun _ _ _ => not_resolved_iff.2 (hpaths.absent habsent)
    · exact fun hchanged => absurd rfl hchanged

/-- What is streamed for an expired row is its own entry. -/
theorem resolved_entry_iff (disk : Disk) (hexpired : row.Expired machine profileId cutoff name) :
    row.resolveMediaPath machine settings disk = .ok name ↔
      row.RelativeFile machine settings disk name ∨
        (∀ file, ¬ row.RelativeFile machine settings disk file) ∧
          ¬ row.Circular machine settings disk ∧ ∃ size, disk.lookup name = some (.file size) := by
  have hown : row.OwnFile machine disk name ↔ ∃ size, disk.lookup name = some (.file size) := by
    rw [← FileTree.leadsToFile_self_iff, DownloadRow.OwnFile, hexpired.entry]
    constructor
    · rintro ⟨other, hother, hleads⟩
      obtain rfl := Option.some.inj hother
      exact hleads
    · exact fun hleads => ⟨name, rfl, hleads⟩
  rw [DownloadRow.resolveMediaPath_eq_ok_iff, hown, and_left_comm]

theorem agrees_of_deleted (hrow : t.downloads.rows.lookup id = some row)
    (hexpired : row.Expired machine profileId cutoff name) (hfile : t.disk.isFile name = true) :
    AgreesWithStreaming machine settings id row t
        (mark id .retentionDeleted now { t with disk := AList.erase name t.disk }) ↔
      row.PathsAgree machine settings profileId cutoff t.disk := by
  constructor
  · intro hagrees
    constructor
    · intro habsent
      rw [habsent name hexpired.entry] at hfile
      cases hfile
    · intro other hother _
      obtain rfl : other = name := Option.some.inj (hother.entry.symm.trans hexpired.entry)
      obtain ⟨file, hresolved, hgone⟩ := hagrees.deleted (erase_ne_of_isFile hfile)
      obtain rfl := erase_inj_of_isFile hfile hgone
      exact (resolved_entry_iff t.disk hexpired).1 hresolved
  · intro hpaths
    constructor
    · intro row' hrow' hmissing
      rw [lookup_mark, if_pos rfl, hrow, Option.map_some] at hrow'
      obtain rfl := Option.some.inj hrow'
      have hne : StrEnum.value DownloadStatus.retentionDeleted ≠ StrEnum.value DownloadStatus.missing := by
        decide
      exact absurd hmissing hne
    · exact fun _ => ⟨name, (resolved_entry_iff t.disk hexpired).2 (hpaths.expired name hexpired hfile), rfl⟩

theorem agrees_of_kept (hrow : t.downloads.rows.lookup id = some row)
    (hbefore : row.downloadStatus = StrEnum.value DownloadStatus.downloaded) :
    AgreesWithStreaming machine settings id row t t := by
  constructor
  · intro row' hrow' hmissing
    rw [hrow] at hrow'
    obtain rfl := Option.some.inj hrow'
    rw [hbefore] at hmissing
    exact absurd hmissing (by decide)
  · exact fun hchanged => absurd rfl hchanged

end MediaStore

/-- A turn of a clean-up agrees with streaming exactly where the paths of its row agree. -/
theorem retention_agrees_with_streaming_iff (machine : Machine) (settings : RootSettings)
    (profileId : String) (payload : Json) (configuredDays : Option String) (started now cutoff : Instant)
    (s t t' : MediaStore) (id : Nat) (row : DownloadRow)
    (hturn : MediaStore.Turn machine profileId payload configuredDays started now s cutoff id row t t') :
    MediaStore.AgreesWithStreaming machine settings id row t t' ↔
      row.PathsAgree machine settings profileId cutoff t.disk := by
  obtain ⟨hrow, hclean, rfl⟩ := hturn.row_kept
  rcases MediaStore.cleanRow_cases machine cutoff now id t hclean with
    ⟨habsent, h⟩ | ⟨name, hexpired, hfile, h⟩ | ⟨⟨name, hentry, hfile⟩, hnone, h⟩
  · rw [h]
    exact MediaStore.agrees_of_missing hrow habsent
  · rw [h]
    exact MediaStore.agrees_of_deleted hrow hexpired hfile
  · rw [h]
    have hbefore : row.downloadStatus = StrEnum.value DownloadStatus.downloaded := by
      simp only [DownloadRow.cleanable, Bool.and_eq_true, decide_eq_true_eq] at hclean
      exact hclean.1.2
    refine iff_of_true (MediaStore.agrees_of_kept hrow hbefore) ⟨?_, ?_⟩
    · intro habsent
      rw [habsent name hentry] at hfile
      cases hfile
    · exact fun other hother _ => absurd hother (hnone other)

/-- A row whose file stands under the root. -/
def rootedDownload (favorite : Bool) : DownloadRow :=
  { sourceType := "youtube", sourceName := "Channel", filePath := some "/downloads/Channel/video.mp4",
    filePathRelative := some "Channel/video.mp4", firstSeenAt := 0, lastSeenAt := 0, favorite }

/-- The row's file, in a folder that is the root. -/
def rootedFolder (root : String) (favorite : Bool) : MediaStore where
  downloads := AutoTable.empty.insert (rootedDownload favorite)
  disk := AList.insert (Path.parse (root ++ "/Channel/video.mp4")) (.file 1) ∅

def oneRoot (root : String) : RootSettings :=
  { profile := fun _ => some root, app := none }

/-- The clean-up's turn for such a row, after ten days of which it allows seven. -/
theorem rootedFolder_turn (root : String) (favorite : Bool) :
    MediaStore.Turn plainMachine "default" (.object []) (some "7") 864000000000 864000000000
      (rootedFolder root favorite) (864000000000 - 7 * 86400 * 1000000) 0 (rootedDownload favorite)
      (rootedFolder root favorite) ((rootedFolder root favorite).cleanRow plainMachine
        (864000000000 - 7 * 86400 * 1000000) 864000000000 0 (rootedDownload favorite)) :=
  ⟨rfl, [], [], rfl, rfl, rfl⟩

/-- An expired row under the root loses the file that would have been streamed. -/
theorem rooted_download_agrees :
    MediaStore.AgreesWithStreaming plainMachine (oneRoot "/downloads") 0 (rootedDownload false)
      (rootedFolder "/downloads" false) ((rootedFolder "/downloads" false).cleanRow plainMachine
        (864000000000 - 7 * 86400 * 1000000) 864000000000 0 (rootedDownload false)) := by
  apply (retention_agrees_with_streaming_iff plainMachine (oneRoot "/downloads") "default" (.object [])
    (some "7") 864000000000 864000000000 _ _ _ _ 0 _ (rootedFolder_turn "/downloads" false)).2
  have hentry : (rootedDownload false).mediaEntry plainMachine =
      some (Path.parse "/downloads/Channel/video.mp4") := rfl
  constructor
  · intro habsent
    have hfile : (rootedFolder "/downloads" false).disk.isFile (Path.parse "/downloads/Channel/video.mp4") =
        true := by
      decide +kernel
    rw [habsent _ hentry] at hfile
    cases hfile
  · intro name hexpired _
    left
    rw [hexpired.entry] at hentry
    obtain rfl := Option.some.inj hentry
    refine ⟨Path.parse "/downloads/Channel/video.mp4",
      ⟨"Channel/video.mp4", Path.parse "/downloads", rfl, by decide, .here ?_, ?_⟩, ?_⟩
    · have hroot : (rootedFolder "/downloads" false).disk.lookup (Path.parse "/downloads") = none := by
        decide +kernel
      intro next hnext
      exact absurd (hroot.symm.trans hnext) (by simp only [reduceCtorEq, not_false_eq_true])
    · decide +kernel
    · exact FileTree.leadsToFile_self_iff.2 ⟨1, rfl⟩

/-- The clean-up marks a row missing whose file is streamed from under the new root. -/
theorem moved_download_marked_missing : ∃ t',
    MediaStore.Turn plainMachine "default" (.object []) (some "7") 864000000000 864000000000
      (rootedFolder "/srv/media" true) (864000000000 - 7 * 86400 * 1000000) 0 (rootedDownload true)
      (rootedFolder "/srv/media" true) t' ∧
    ¬ MediaStore.AgreesWithStreaming plainMachine (oneRoot "/srv/media") 0 (rootedDownload true)
      (rootedFolder "/srv/media" true) t' := by
  refine ⟨_, rootedFolder_turn "/srv/media" true, ?_⟩
  intro hagrees
  have hstreamed : (rootedDownload true).resolveMediaPath plainMachine (oneRoot "/srv/media")
      (rootedFolder "/srv/media" true).disk = .ok (Path.parse "/srv/media/Channel/video.mp4") := by
    decide +kernel
  have hmarked : ∃ row', ((rootedFolder "/srv/media" true).cleanRow plainMachine
      (864000000000 - 7 * 86400 * 1000000) 864000000000 0 (rootedDownload true)).downloads.rows.lookup 0 =
        some row' ∧ row'.downloadStatus = StrEnum.value DownloadStatus.missing := by
    have hgone : (rootedFolder "/srv/media" true).disk.isFile (Path.parse "/downloads/Channel/video.mp4") =
        false := by
      decide +kernel
    have hentry : (rootedDownload true).mediaEntry plainMachine =
        some (Path.parse "/downloads/Channel/video.mp4") := rfl
    rw [MediaStore.cleanRow, hentry]
    dsimp only
    rw [hgone]
    exact ⟨_, rfl, rfl⟩
  obtain ⟨row', hrow', hmissing⟩ := hmarked
  exact hagrees.missing row' hrow' hmissing _ hstreamed

end GetOffline
