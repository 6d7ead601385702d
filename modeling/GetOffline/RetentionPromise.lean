import GetOffline.RetentionCleanup

set_option autoImplicit true

namespace GetOffline
open Python

/-- The instant up to which content is deleted, when any is. -/
def activeCutoff (payload : Json) (configuredDays : Option String) (started : Instant) :
    Option Instant :=
  match retentionDays payload configuredDays with
  | .ok days => if days ≤ 0 then none else (retentionCutoff started days).toOption
  | .error _ => none

/-- What the settings page promises to leave alone. -/
def DownloadRow.Protected (cutoff : Option Instant) (row : DownloadRow) : Prop :=
  row.favorite = true ∨ row.sourceType = "manual" ∨ ∀ time ∈ cutoff, time < row.contentDate

/-- A row that the clean-up takes the file from, if it is still there. -/
structure DownloadRow.Expired (machine : Machine) (profileId : String) (cutoff : Instant)
    (row : DownloadRow) (name : Path) : Prop where
  cleanable : row.cleanable profileId = true
  ordinary : row.favorite = false
  old : row.contentDate ≤ cutoff
  entry : row.mediaEntry machine = some name
  allowed : machine.denied name = false

namespace MediaStore
variable {machine : Machine} {profileId : String} {cutoff now : Instant} {s : MediaStore}
  {rows : List (Nat × DownloadRow)} {id : Nat}

/-- A turn of the loop deletes at most the file of an expired row. -/
theorem cleanRow_disk (machine : Machine) (cutoff now : Instant) (id : Nat) (s : MediaStore)
    (hclean : row.cleanable profileId = true) :
    (s.cleanRow machine cutoff now id row).disk = s.disk ∨
      ∃ name, row.Expired machine profileId cutoff name ∧ s.disk.isFile name = true ∧
        (s.cleanRow machine cutoff now id row).disk = AList.erase name s.disk := by
  rw [cleanRow]
  split
  · exact .inl rfl
  · next name hentry =>
    split
    · exact .inl rfl
    · next hfile =>
      rw [Bool.not_eq_true', Bool.not_eq_false] at hfile
      split
      · exact .inl rfl
      · next hfavorite =>
        split
        · exact .inl rfl
        · next hold =>
          rw [Disk.unlink_of_isFile hfile]
          cases hdenied : machine.denied name with
          | true => exact .inl rfl
          | false =>
            refine .inr ⟨name, ⟨hclean, ?_, not_lt.1 hold, hentry, hdenied⟩, hfile, rfl⟩
            rwa [Bool.not_eq_true] at hfavorite

theorem cleanRow_within (hclean : row.cleanable profileId = true) :
    (s.cleanRow machine cutoff now id row).disk.Within s.disk := by
  rcases cleanRow_disk _ _ _ _ _ hclean with h | ⟨name, -, -, h⟩
  · rw [h]
    exact FileTree.Within.refl _
  · rw [h]
    exact FileTree.erase_within _ _

/-- The turn of an expired row leaves no file under its name. -/
theorem cleanRow_expired (now : Instant) (id : Nat) (s : MediaStore)
    (h : row.Expired machine profileId cutoff name) :
    (s.cleanRow machine cutoff now id row).disk.isFile name = false := by
  rw [cleanRow, h.entry]
  dsimp only
  split
  · next hmissing => rwa [Bool.not_eq_true'] at hmissing
  · next hfile =>
    rw [Bool.not_eq_true', Bool.not_eq_false] at hfile
    rw [h.ordinary, if_neg Bool.false_ne_true, if_neg (not_lt.2 h.old), Disk.unlink_of_isFile hfile,
      h.allowed, if_neg Bool.false_ne_true]
    exact Disk.not_isFile_of_none (AList.lookup_erase _ _)

/-- A row gets the status `retention_deleted` only with its own file's removal. -/
theorem cleanRow_deleted (hclean : row.cleanable profileId = true)
    (h : (s.cleanRow machine cutoff now id row).downloads.rows.lookup other = some found)
    (hdeleted : found.downloadStatus = StrEnum.value DownloadStatus.retentionDeleted) :
    (∃ old, s.downloads.rows.lookup other = some old ∧
        old.downloadStatus = StrEnum.value DownloadStatus.retentionDeleted) ∨
      other = id ∧ ∃ name, row.Expired machine profileId cutoff name ∧ s.disk.isFile name = true ∧
        (s.cleanRow machine cutoff now id row).disk.isFile name = false := by
  have hmissing {t : MediaStore} (hsame : t.downloads = s.downloads)
      (h : (t.mark id .missing now).downloads.rows.lookup other = some found) :
      ∃ old, s.downloads.rows.lookup other = some old ∧
        old.downloadStatus = StrEnum.value DownloadStatus.retentionDeleted := by
    rw [mark, AutoTable.lookup_update_at, hsame] at h
    split at h
    · obtain ⟨old, -, rfl⟩ := Option.map_eq_some_iff.1 h
      have hne : StrEnum.value DownloadStatus.missing ≠
          StrEnum.value DownloadStatus.retentionDeleted := by
        decide
      exact absurd hdeleted hne
    · exact ⟨found, h, hdeleted⟩
  by_cases hexpired : ∃ name, row.Expired machine profileId cutoff name ∧ s.disk.isFile name = true
  · obtain ⟨name, hexpired, hfile⟩ := hexpired
    by_cases hid : other = id
    · exact .inr ⟨hid, name, hexpired, hfile, cleanRow_expired _ _ _ hexpired⟩
    · left
      rw [cleanRow, hexpired.entry] at h
      simp only [hfile, Bool.not_true, Bool.false_eq_true, ↓reduceIte, hexpired.ordinary,
        not_lt.2 hexpired.old, Disk.unlink_of_isFile hfile, hexpired.allowed] at h
      rw [mark, AutoTable.lookup_update_at, if_neg hid] at h
      exact ⟨found, h, hdeleted⟩
  · left
    rw [cleanRow] at h
    split at h
    · exact hmissing rfl h
    · next name hentry =>
      split at h
      · exact hmissing rfl h
      · next hfile =>
        rw [Bool.not_eq_true', Bool.not_eq_false] at hfile
        split at h
        · exact ⟨found, h, hdeleted⟩
        · next hfavorite =>
          split at h
          · exact ⟨found, h, hdeleted⟩
          · next hold =>
            rw [Bool.not_eq_true] at hfavorite
            cases hdenied : machine.denied name with
            | true =>
              rw [Disk.unlink_of_isFile hfile, hdenied] at h
              exact ⟨found, h, hdeleted⟩
            | false =>
              exact absurd ⟨name, ⟨hclean, hfavorite, not_lt.1 hold, hentry, hdenied⟩, hfile⟩
                hexpired

/-- The loop of the clean-up. -/
def cleanRows (machine : Machine) (cutoff now : Instant) (rows : List (Nat × DownloadRow))
    (s : MediaStore) : MediaStore :=
  rows.foldl (fun s e => s.cleanRow machine cutoff now e.1 e.2) s

theorem cleanRows_within (hclean : ∀ e ∈ rows, e.2.cleanable profileId = true) :
    (s.cleanRows machine cutoff now rows).disk.Within s.disk := by
  induction rows generalizing s with
  | nil => exact FileTree.Within.refl _
  | cons e rows ih =>
    have hrest := ih (s := s.cleanRow machine cutoff now e.1 e.2) fun e he =>
      hclean e (List.mem_cons_of_mem _ he)
    exact hrest.trans (cleanRow_within (hclean e List.mem_cons_self))

/-- Only names of expired rows' files are unlinked. -/
theorem cleanRows_lookup (hclean : ∀ e ∈ rows, e.2.cleanable profileId = true) (other : Path) :
    (s.cleanRows machine cutoff now rows).disk.lookup other = s.disk.lookup other ∨
      ∃ e ∈ rows, e.2.Expired machine profileId cutoff other ∧ s.disk.isFile other = true := by
  induction rows generalizing s with
  | nil => exact .inl rfl
  | cons e rows ih =>
    have hhead := hclean e List.mem_cons_self
    rcases ih (s := s.cleanRow machine cutoff now e.1 e.2) fun e he =>
        hclean e (List.mem_cons_of_mem _ he) with hrest | ⟨e', he', hexpired, hfile⟩
    · rcases cleanRow_disk machine cutoff now e.1 s hhead with h | ⟨name, hexpired, hfile, h⟩
      · left
        rw [h] at hrest
        exact hrest
      · by_cases hother : other = name
        · subst hother
          exact .inr ⟨e, List.mem_cons_self, hexpired, hfile⟩
        · left
          rw [h, AList.lookup_erase_ne hother] at hrest
          exact hrest
    · exact .inr ⟨e', List.mem_cons_of_mem _ he', hexpired,
        Disk.isFile_of_within (cleanRow_within hhead) hfile⟩

/-- After the loop no expired row has a file under its name. -/
theorem cleanRows_expired (hclean : ∀ e ∈ rows, e.2.cleanable profileId = true) (he : e ∈ rows)
    (hexpired : e.2.Expired machine profileId cutoff name) :
    (s.cleanRows machine cutoff now rows).disk.isFile name = false := by
  induction rows generalizing s with
  | nil => exact (List.not_mem_nil he).elim
  | cons d rows ih =>
    have htail : ∀ e ∈ rows, e.2.cleanable profileId = true := fun e he =>
      hclean e (List.mem_cons_of_mem _ he)
    rcases List.mem_cons.1 he with rfl | he
    · have hgone := cleanRow_expired now e.1 s hexpired
      rw [← Bool.not_eq_true] at hgone ⊢
      intro hfile
      exact hgone (Disk.isFile_of_within (cleanRows_within htail) hfile)
    · exact ih htail he

theorem cleanRows_deleted (hclean : ∀ e ∈ rows, e.2.cleanable profileId = true)
    (h : (s.cleanRows machine cutoff now rows).downloads.rows.lookup other = some found)
    (hdeleted : found.downloadStatus = StrEnum.value DownloadStatus.retentionDeleted) :
    (∃ old, s.downloads.rows.lookup other = some old ∧
        old.downloadStatus = StrEnum.value DownloadStatus.retentionDeleted) ∨
      ∃ e ∈ rows, other = e.1 ∧ ∃ name, e.2.Expired machine profileId cutoff name ∧
        s.disk.isFile name = true := by
  induction rows generalizing s with
  | nil => exact .inl ⟨found, h, hdeleted⟩
  | cons e rows ih =>
    have hhead := hclean e List.mem_cons_self
    rcases ih (fun e he => hclean e (List.mem_cons_of_mem _ he)) h with
      ⟨old, hold, hstatus⟩ | ⟨e', he', hid, name, hexpired, hfile⟩
    · rcases cleanRow_deleted hhead hold hstatus with hbefore | ⟨hid, name, hexpired, hfile, -⟩
      · exact .inl hbefore
      · exact .inr ⟨e, List.mem_cons_self, hid, name, hexpired, hfile⟩
    · exact .inr ⟨e', List.mem_cons_of_mem _ he', hid, name, hexpired,
        Disk.isFile_of_within (cleanRow_within hhead) hfile⟩

/-- The rows of a clean-up, in its order. -/
def cleanupRows (profileId : String) (s : MediaStore) : List (Nat × DownloadRow) :=
  s.downloads.rows.orderBy (fun _ row => row.cleanable profileId) cleanupOrder

theorem mem_cleanupRows : e ∈ s.cleanupRows profileId ↔
    s.downloads.rows.lookup e.1 = some e.2 ∧ e.2.cleanable profileId = true :=
  Table.mem_orderBy

/-- A clean-up is off, or has a cutoff and runs its loop. -/
theorem retentionCleanup_cases (machine : Machine) (profileId : String) (payload : Json)
    (configuredDays : Option String) (started now : Instant) (s : MediaStore) :
    (activeCutoff payload configuredDays started = none ∧
      ∀ s', s.retentionCleanup machine profileId payload configuredDays started now = .ok s' →
        s' = s) ∨
    ∃ cutoff, activeCutoff payload configuredDays started = some cutoff ∧
      s.retentionCleanup machine profileId payload configuredDays started now =
        .ok (s.cleanRows machine cutoff now (s.cleanupRows profileId)) := by
  rw [activeCutoff, retentionCleanup]
  cases retentionDays payload configuredDays with
  | error error => exact .inl ⟨rfl, fun s' h => nomatch h⟩
  | ok days =>
    dsimp only [bind, Except.bind]
    by_cases hdays : days ≤ 0
    · rw [if_pos hdays, if_pos hdays]
      exact .inl ⟨rfl, fun s' h => (Except.ok.inj h).symm⟩
    · rw [if_neg hdays, if_neg hdays]
      cases retentionCutoff started days with
      | error error => exact .inl ⟨rfl, fun s' h => nomatch h⟩
      | ok cutoff => exact .inr ⟨cutoff, rfl, rfl⟩

/-- What the settings page promises: the files of favorites, of manual uploads and of newer content stay,
and a row's content counts as deleted only where it is none of these and its file has been removed. -/
structure KeepsPromise (machine : Machine) (cutoff : Option Instant) (s s' : MediaStore) : Prop where
  kept : ∀ id row name, s.downloads.rows.lookup id = some row → row.Protected cutoff →
    row.mediaEntry machine = some name → s.disk.isFile name = true → s'.disk.isFile name = true
  deleted : ∀ id row row', s.downloads.rows.lookup id = some row →
    s'.downloads.rows.lookup id = some row' →
    row'.downloadStatus = StrEnum.value DownloadStatus.retentionDeleted →
    row.downloadStatus ≠ StrEnum.value DownloadStatus.retentionDeleted →
    ¬ row.Protected cutoff ∧ ∃ name, row.mediaEntry machine = some name ∧
      s.disk.isFile name = true ∧ s'.disk.isFile name = false

/-- No expired row's entry is one by which a protected row's file is reached. -/
def Apart (machine : Machine) (profileId : String) (cutoff : Instant) (s : MediaStore) : Prop :=
  ∀ id row name, s.downloads.rows.lookup id = some row → row.Protected (some cutoff) →
    row.mediaEntry machine = some name → s.disk.isFile name = true →
    ∀ id' row' name', s.downloads.rows.lookup id' = some row' →
      row'.Expired machine profileId cutoff name' → name' ∉ s.disk.trail linkLimit name

theorem keepsPromise_iff : KeepsPromise machine (some cutoff) s
      (s.cleanRows machine cutoff now (s.cleanupRows profileId)) ↔
    s.Apart machine profileId cutoff := by
  have hclean : ∀ e ∈ s.cleanupRows profileId, e.2.cleanable profileId = true := fun e he =>
    (mem_cleanupRows.1 he).2
  constructor
  · intro h id row name hrow hprotected hentry hfile id' row' name' hrow' hexpired htrail
    have hkept := h.kept id row name hrow hprotected hentry hfile
    obtain ⟨size, hsize⟩ := Disk.isFile_iff.1 hkept
    rw [((cleanRows_within hclean).follow hsize).2] at htrail
    have hfound := Disk.isFile_iff.2 ⟨size, FileTree.follow_of_mem_trail hsize htrail⟩
    have hmem : (id', row') ∈ s.cleanupRows profileId :=
      mem_cleanupRows.2 ⟨hrow', hexpired.cleanable⟩
    rw [cleanRows_expired hclean hmem hexpired] at hfound
    cases hfound
  · intro hapart
    constructor
    · intro id row name hrow hprotected hentry hfile
      rw [Disk.isFile, FileTree.follow_congr]
      · exact hfile
      · intro other hother
        rcases cleanRows_lookup hclean other with hsame | ⟨e, he, hexpired, -⟩
        · exact hsame
        · exact absurd hother (hapart id row name hrow hprotected hentry hfile e.1 e.2 other
            (mem_cleanupRows.1 he).1 hexpired)
    · intro id row row' hrow hrow' hdeleted hbefore
      rcases cleanRows_deleted hclean hrow' hdeleted with ⟨old, hold, hstatus⟩ |
        ⟨e, he, rfl, name, hexpired, hfile⟩
      · rw [hrow] at hold
        obtain rfl := Option.some.inj hold
        exact absurd hstatus hbefore
      · have hsame := (mem_cleanupRows.1 he).1
        rw [hrow] at hsame
        obtain rfl := Option.some.inj hsame
        refine ⟨?_, name, hexpired.entry, hfile, cleanRows_expired hclean he hexpired⟩
        rintro (hfavorite | hmanual | hnew)
        · rw [hexpired.ordinary] at hfavorite
          cases hfavorite
        · have hcleanable := hexpired.cleanable
          simp only [DownloadRow.cleanable, hmanual, decide_true, Bool.not_true, Bool.and_false,
            Bool.false_eq_true] at hcleanable
        · exact absurd (hnew cutoff rfl) (not_lt.2 hexpired.old)

end MediaStore

/-- The clean-up keeps its promise exactly where no protected row shares its file with an expired row. -/
theorem retention_keeps_promise_iff (machine : Machine) (profileId : String) (payload : Json)
    (configuredDays : Option String) (started now : Instant) (s : MediaStore) :
    (∀ s', s.retentionCleanup machine profileId payload configuredDays started now = .ok s' →
        MediaStore.KeepsPromise machine (activeCutoff payload configuredDays started) s s') ↔
      ∀ cutoff ∈ activeCutoff payload configuredDays started, s.Apart machine profileId cutoff := by
  rcases MediaStore.retentionCleanup_cases machine profileId payload configuredDays started now s with
    ⟨hoff, hsame⟩ | ⟨cutoff, hcutoff, hrun⟩
  · rw [hoff]
    refine iff_of_true ?_ fun cutoff h => nomatch h
    intro s' hs'
    obtain rfl := hsame s' hs'
    constructor
    · intro id row name _ _ _ hfile
      exact hfile
    · intro id row row' hrow hrow' hdeleted hbefore
      rw [hrow] at hrow'
      obtain rfl := Option.some.inj hrow'
      exact absurd hdeleted hbefore
  · rw [hcutoff, hrun]
    constructor
    · intro h other hother
      obtain rfl := Option.some.inj hother
      exact MediaStore.keepsPromise_iff.1 (h _ rfl)
    · intro h s' hs'
      obtain rfl := Except.ok.inj hs'
      exact MediaStore.keepsPromise_iff.2 (h cutoff rfl)

/-- Two sources have downloaded one video into the same folder; one of the rows is a favorite. -/
def sharedDownload (favorite : Bool) : DownloadRow :=
  { sourceType := "youtube", sourceName := "Channel", filePath := some "/downloads/Channel/video.mp4",
    firstSeenAt := 0, lastSeenAt := 0, favorite }

def sharedFolder : MediaStore where
  downloads := (AutoTable.empty.insert (sharedDownload true)).insert (sharedDownload false)
  disk := AList.insert (Path.parse "/downloads/Channel/video.mp4") (.file 1) ∅

def plainMachine : Machine :=
  { entry := Path.parse, denied := fun _ => false }

/-- After a week, the favorite's file goes with the other row. -/
theorem favorite_loses_shared_file : ∃ s',
    sharedFolder.retentionCleanup plainMachine "default" (.object []) (some "7") 864000000000 864000000000
        = .ok s' ∧
      ¬ MediaStore.KeepsPromise plainMachine (activeCutoff (.object []) (some "7") 864000000000)
        sharedFolder s' := by
  refine ⟨_, rfl, ?_⟩
  intro h
  have hkept := h.kept 0 (sharedDownload true) (Path.parse "/downloads/Channel/video.mp4")
    rfl (.inl rfl) rfl (by decide +kernel)
  have hgone : (sharedFolder.cleanRows plainMachine (864000000000 - 7 * 86400 * 1000000) 864000000000
      (sharedFolder.cleanupRows "default")).disk.isFile
        (Path.parse "/downloads/Channel/video.mp4") = false := by
    decide +kernel
  exact Bool.false_ne_true (hgone.symm.trans hkept)

end GetOffline
