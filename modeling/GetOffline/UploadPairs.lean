import GetOffline.Execution
import GetOffline.ManualUploads
import GetOffline.SeparatedTexts

set_option autoImplicit true

namespace GetOffline
open Python Execution

-- The destination is free

theorem isStemChar_ne_slash (h : isStemChar c = true) : c ≠ '/' := by
  rintro rfl
  revert h
  decide

theorem slash_notMem_replaceRuns (replaced : Bool) (cs : List Char) : '/' ∉ replaceRuns replaced cs := by
  induction cs generalizing replaced with
  | nil => exact List.not_mem_nil
  | cons c cs ih =>
    rw [replaceRuns]
    split
    · next hc =>
      rw [List.mem_cons, not_or]
      exact ⟨(isStemChar_ne_slash hc).symm, ih false⟩
    · split
      · exact ih true
      · rw [List.mem_cons, not_or]
        exact ⟨by decide, ih true⟩

theorem slash_notMem_stem (value : String) : '/' ∉ (normalizeUploadStem value).toList := by
  rw [normalizeUploadStem]
  split
  · decide
  · rw [String.toList_ofList, stripOf]
    intro h
    have h := (List.rdropWhile_prefix _ _).subset h
    exact slash_notMem_replaceRuns false _ (List.dropWhile_subset _ h)

/-- What is put between the stem and the suffix. -/
def counterText (counter : Nat) : String :=
  if counter = 0 then "" else "-" ++ toString counter

theorem counterText_injective {m n : Nat} (h : counterText m = counterText n) : m = n := by
  rw [counterText, counterText] at h
  split at h
  · next hm =>
    split at h
    · next hn => exact hm.trans hn.symm
    · have hlist := congrArg String.toList h
      rw [String.toList_append] at hlist
      cases hlist
  · split at h
    · have hlist := congrArg String.toList h
      rw [String.toList_append] at hlist
      cases hlist
    · exact toString_nat_inj (String.append_right_inj _ |>.1 h)

theorem isPart_uploadName (hstem : '/' ∉ stem.toList) (hsuffix : suffix ∈ mediaUploadExtensions)
    (counter : Nat) : IsPart (stem ++ counterText counter ++ suffix) := by
  have hall : ∀ suffix ∈ mediaUploadExtensions, 2 ≤ suffix.length ∧ '/' ∉ suffix.toList := by decide
  obtain ⟨hlength, hslash⟩ := hall suffix hsuffix
  have hlong : 2 ≤ (stem ++ counterText counter ++ suffix).length := by
    rw [String.length_append]
    exact hlength.trans (Nat.le_add_left _ _)
  refine ⟨?_, ?_, ?_⟩
  · intro h
    rw [h] at hlong
    exact absurd hlong (by decide)
  · intro h
    rw [h] at hlong
    exact absurd hlong (by decide)
  · rw [String.toList_append, String.toList_append, List.mem_append, List.mem_append, not_or, not_or]
    refine ⟨⟨hstem, ?_⟩, hslash⟩
    rw [counterText]
    split
    · decide
    · rw [String.toList_append, List.mem_append, not_or]
      exact ⟨by decide, not_mem_toString (by decide) counter⟩

section
variable {place : UploadPlace} {stem suffix : String} {files : Table Path (List UInt8)}

theorem candidate_eq (place : UploadPlace) (stem suffix : String) (counter : Nat) :
    place.candidate stem suffix counter = place.manualRoot.join (stem ++ counterText counter ++ suffix) := rfl

theorem candidate_injective (hstem : '/' ∉ stem.toList) (hsuffix : suffix ∈ mediaUploadExtensions)
    {m n : Nat} (h : place.candidate stem suffix m = place.candidate stem suffix n) : m = n := by
  have hparts := congrArg Path.parts h
  rw [candidate_eq, candidate_eq, parts_join (isPart_uploadName hstem hsuffix m),
    parts_join (isPart_uploadName hstem hsuffix n), List.append_cancel_left_eq, List.cons.injEq] at hparts
  have htext := (String.append_left_inj _).1 hparts.1
  exact counterText_injective ((String.append_right_inj _).1 htext)

theorem uploadPath_succ (occupied : Path → Bool) (rounds counter : Nat) :
    uploadPath occupied place.manualRoot stem suffix (rounds + 1) counter =
      if occupied (place.candidate stem suffix counter) then
        uploadPath occupied place.manualRoot stem suffix rounds (counter + 1)
      else some (place.candidate stem suffix counter) := rfl

theorem uploadPath_some {occupied : Path → Bool} {rounds counter : Nat}
    (h : uploadPath occupied place.manualRoot stem suffix rounds counter = some path) :
    occupied path = false ∧ ∃ n, path = place.candidate stem suffix n := by
  induction rounds generalizing counter with
  | zero => cases h
  | succ rounds ih =>
    rw [uploadPath_succ] at h
    split at h
    · exact ih h
    · next hfree =>
      cases h
      exact ⟨Bool.eq_false_of_not_eq_true hfree, counter, rfl⟩

theorem uploadPath_none {occupied : Path → Bool} {rounds counter : Nat}
    (h : uploadPath occupied place.manualRoot stem suffix rounds counter = none) :
    ∀ n < rounds, occupied (place.candidate stem suffix (counter + n)) = true := by
  induction rounds generalizing counter with
  | zero => exact fun n hn => absurd hn (Nat.not_lt_zero n)
  | succ rounds ih =>
    rw [uploadPath_succ] at h
    split at h
    · next htaken =>
      intro n hn
      cases n with
      | zero => exact htaken
      | succ n =>
        have hrest := ih h n (Nat.lt_of_succ_lt_succ hn)
        rw [Nat.add_assoc, Nat.add_comm 1 n] at hrest
        exact hrest
    · cases h

/-- There are more candidates than files. -/
theorem destination_free (hstem : '/' ∉ stem.toList) (hsuffix : suffix ∈ mediaUploadExtensions) :
    files.lookup (place.destination stem suffix files) = none ∧
      (place.destination stem suffix files).parent = place.manualRoot := by
  rw [UploadPlace.destination]
  cases hpath : uploadPath (fun path => (files.lookup path).isSome) place.manualRoot stem suffix
      (files.keys.length + 1) 0 with
  | none =>
    have htaken := uploadPath_none hpath
    have hnodup : ((List.range (files.keys.length + 1)).map (place.candidate stem suffix)).Nodup :=
      List.nodup_range.map fun m n => candidate_injective hstem hsuffix
    have hsub : (List.range (files.keys.length + 1)).map (place.candidate stem suffix) ⊆ files.keys := by
      intro path hmem
      obtain ⟨n, hn, rfl⟩ := List.mem_map.1 hmem
      have hn := htaken n (List.mem_range.1 hn)
      rw [Nat.zero_add, AList.lookup_isSome] at hn
      exact hn
    have hlength := (hnodup.subperm hsub).length_le
    rw [List.length_map, List.length_range] at hlength
    omega
  | some path =>
    obtain ⟨hfree, n, rfl⟩ := uploadPath_some hpath
    refine ⟨Option.isSome_eq_false_iff.1 hfree |> Option.isNone_iff_eq_none.1, ?_⟩
    exact parent_join (isPart_uploadName hstem hsuffix n) _

end

-- Rows and files

namespace UploadStore

def Names (s : UploadStore) (id : Nat) (path : Path) : Prop :=
  ∃ row, s.downloads.rows.lookup id = some row ∧ row.filePath = some path.str

/-- Every file of the manual directory is the `file_path` of exactly one row, and every row that names a
path of the directory has its file, of the recorded size. -/
structure Paired (place : UploadPlace) (s : UploadStore) : Prop where
  owned : ∀ path, path.parent = place.manualRoot → (s.files.lookup path).isSome → ∃! id, s.Names id path
  present : ∀ id row path, path.parent = place.manualRoot → s.downloads.rows.lookup id = some row →
    row.filePath = some path.str →
      ∃ content, s.files.lookup path = some content ∧ row.fileSizeBytes = some (content.length : Int)

end UploadStore

namespace Upload

def originalName (upload : Upload) : String :=
  (Path.parse upload.name).name

def suffix (upload : Upload) : String :=
  lower (Path.parse upload.originalName).suffix

def Accepted (upload : Upload) : Prop :=
  upload.originalName ≠ "" ∧ upload.suffix ∈ mediaUploadExtensions

def destination (place : UploadPlace) (files : Table Path (List UInt8)) (upload : Upload) : Path :=
  place.destination (normalizeUploadStem (Path.parse upload.originalName).stem) upload.suffix files

end Upload

/-- The bytes of a turn of the loop that does not raise. -/
def ChunkEvent.bytes? : ChunkEvent → Option (List UInt8)
  | .chunk bytes => some bytes
  | _ => none

/-- The chunks of a list of turns, unless the iteration or a write raises. -/
def chunkBytes (events : List ChunkEvent) : Option (List UInt8) :=
  (events.mapM ChunkEvent.bytes?).map List.flatten

def Upload.content? (upload : Upload) : Option (List UInt8) :=
  chunkBytes upload.chunks

/-- The row has the identity that the content gives the upload. -/
def UploadStore.Found (place : UploadPlace) (content : List UInt8) (s : UploadStore) (id : Nat) : Prop :=
  ∃ row, s.downloads.rows.lookup id = some row ∧
    UploadRow.isUpload place.profileId (manualItemUid place content content.length) id row = true

/-- The database and the queue do what they are told, and the content is new: no row with its identity,
or one that names no file of the manual directory. -/
structure Upload.Recorded (place : UploadPlace) (content : List UInt8) (s : UploadStore)
    (upload : Upload) : Prop where
  saved : upload.saving = .done
  enqueued : ∃ jobId, upload.enqueued = .ok jobId
  unique : ∀ i j, s.Found place content i → s.Found place content j → i = j
  new : ∀ id path, s.Found place content id → path.parent = place.manualRoot → ¬ s.Names id path

/-- An upload that gets as far as `open` is not interrupted while its chunks are written, and if there
are any bytes, the database refuses the row with a `DatabaseError` or all is recorded. -/
def Upload.Meets (place : UploadPlace) (s : UploadStore) (upload : Upload) : Prop :=
  upload.Accepted → upload.opened = .ok () → ∃ content, upload.content? = some content ∧
    (content = [] ∨ upload.saving = .failed (.raised .databaseError) false ∨
      upload.Recorded place content s)

/-- Rows and files are paired after the upload, and an upload that fails has changed nothing. -/
structure Upload.Kept (place : UploadPlace) (s : UploadStore) (upload : Upload) : Prop where
  paired : (place.uploadFile upload s).1.Paired place
  unchanged : ∀ error, (place.uploadFile upload s).2 = .error error → (place.uploadFile upload s).1 = s

section
variable {place : UploadPlace} {s : UploadStore} {upload : Upload} {path : Path} {row : UploadRow}
  {downloads : AutoTable UploadRow} {content : List UInt8} {id : Nat}

theorem erase_insert_fresh {t : Table Path (List UInt8)} (h : t.lookup path = none) :
    AList.erase path (AList.insert path content t) = t := by
  apply AList.ext
  have hmem : path ∉ t := AList.lookup_eq_none.1 h
  calc
    (AList.erase path (AList.insert path content t)).entries =
        List.kerase path (⟨path, content⟩ :: t.entries) :=
      congrArg (List.kerase path) (AList.entries_insert_of_notMem hmem)
    _ = t.entries := List.kerase_cons_eq rfl

namespace UploadStore

/-- No row names a free path of the directory. -/
theorem Paired.not_names (h : s.Paired place) (hfree : s.files.lookup path = none)
    (hdir : path.parent = place.manualRoot) (id : Nat) : ¬ s.Names id path := by
  rintro ⟨row, hrow, hpath⟩
  obtain ⟨content, hcontent, -⟩ := h.present id row path hdir hrow hpath
  rw [hfree] at hcontent
  cases hcontent

/-- A file without a row. -/
theorem not_paired_orphan (hdir : path.parent = place.manualRoot) (hnone : ∀ id, ¬ s.Names id path) :
    ¬ Paired place { s with files := AList.insert path content s.files } := by
  intro hpaired
  obtain ⟨id, hid, -⟩ := hpaired.owned path hdir (by
    rw [Table.lookup_insert_apply, if_pos rfl]
    rfl)
  exact hnone id hid

/-- A row without a file. -/
theorem not_paired_dangling (hfree : s.files.lookup path = none) (hdir : path.parent = place.manualRoot)
    (hrow : downloads.rows.lookup id = some row) (hfile : row.filePath = some path.str) :
    ¬ Paired place { downloads, files := s.files } := by
  intro hpaired
  exact hpaired.not_names hfree hdir id ⟨row, hrow, hfile⟩

theorem str_injective {path path' : Path} (h : path.str = path'.str) : path = path' := by
  rw [← Path.parse_str path, h, Path.parse_str]

/-- A row and its new file: the pairing is kept unless the row had a file of the directory before. -/
theorem Paired.record_iff (h : s.Paired place) (hfree : s.files.lookup path = none)
    (hdir : path.parent = place.manualRoot)
    (hrows : ∀ i, downloads.rows.lookup i = if i = id then some row else s.downloads.rows.lookup i)
    (hfile : row.filePath = some path.str) (hsize : row.fileSizeBytes = some (content.length : Int)) :
    Paired place { downloads, files := AList.insert path content s.files } ↔
      ∀ other, other.parent = place.manualRoot → ¬ s.Names id other := by
  have hnames (i : Nat) (other : Path) : Names { downloads, files := AList.insert path content s.files } i other ↔
      if i = id then other = path else s.Names i other := by
    rw [Names, hrows]
    split
    · constructor
      · rintro ⟨row', hrow', hother⟩
        cases hrow'
        rw [hfile, Option.some_inj] at hother
        exact (str_injective hother).symm
      · rintro rfl
        exact ⟨row, rfl, hfile⟩
    · exact Iff.rfl
  constructor
  · intro hpaired other hother hold
    obtain ⟨row', hrow', hfile'⟩ := hold
    obtain ⟨content', hcontent', -⟩ := h.present id row' other hother hrow' hfile'
    have hne : other ≠ path := by
      rintro rfl
      rw [hfree] at hcontent'
      cases hcontent'
    have hisSome : ((AList.insert path content s.files).lookup other).isSome := by
      rw [Table.lookup_insert_apply, if_neg hne, hcontent']
      rfl
    obtain ⟨i, hi, -⟩ := hpaired.owned other hother hisSome
    have hi := (hnames i other).1 hi
    split at hi
    · exact hne hi
    · next hid =>
      rw [Table.lookup_insert_apply, if_neg hne] at hisSome
      exact hid ((h.owned other hother hisSome).unique hi ⟨row', hrow', hfile'⟩)
  · intro hnew
    constructor
    · intro other hother hsome
      rw [Table.lookup_insert_apply] at hsome
      split at hsome
      · next hsame =>
        subst hsame
        refine ⟨id, (hnames id other).2 (by rw [if_pos rfl]), ?_⟩
        intro i hi
        have hi := (hnames i other).1 hi
        by_contra hne
        rw [if_neg hne] at hi
        exact h.not_names hfree hdir i hi
      · next hne =>
        obtain ⟨i, hi, hunique⟩ := h.owned other hother hsome
        have hid : i ≠ id := by
          rintro rfl
          exact hnew other hother hi
        refine ⟨i, (hnames i other).2 (by rwa [if_neg hid]), ?_⟩
        intro j hj
        have hj := (hnames j other).1 hj
        split at hj
        · exact absurd hj hne
        · exact hunique j hj
    · intro i row' other hother hrow' hfile'
      dsimp only at hrow' ⊢
      rw [hrows] at hrow'
      split at hrow'
      · cases hrow'
        rw [hfile, Option.some_inj] at hfile'
        obtain rfl := str_injective hfile'
        exact ⟨content, by rw [Table.lookup_insert_apply, if_pos rfl], hsize⟩
      · obtain ⟨content', hcontent', hsize'⟩ := h.present i row' other hother hrow' hfile'
        refine ⟨content', ?_, hsize'⟩
        rw [Table.lookup_insert_apply, if_neg, hcontent']
        rintro rfl
        rw [hfree] at hcontent'
        cases hcontent'

end UploadStore

-- The upload

theorem chunkBytes_cons (event : ChunkEvent) (events : List ChunkEvent) :
    chunkBytes (event :: events) =
      event.bytes?.bind fun bytes => (chunkBytes events).map fun rest => bytes ++ rest := by
  rw [chunkBytes, chunkBytes, List.mapM_cons]
  cases event.bytes? with
  | none => rfl
  | some bytes =>
    cases events.mapM ChunkEvent.bytes? with
    | none => rfl
    | some rest => rfl

/-- The file, what was hashed and the count of bytes agree. -/
theorem writeChunks_ok {events : List ChunkEvent} (h : chunkBytes events = some content) (w : Writing) :
    writeChunks events w =
      (⟨w.file ++ content, w.hashed ++ content, w.bytesWritten + content.length⟩, none) := by
  induction events generalizing content w with
  | nil =>
    cases h
    rw [writeChunks, List.reverse_nil, List.flatten_nil, List.append_nil, List.append_nil,
      List.length_nil, Nat.add_zero]
  | cons event events ih =>
    rw [chunkBytes_cons, Option.bind_eq_some_iff] at h
    obtain ⟨bytes, hbytes, h⟩ := h
    obtain ⟨rest, hrest, rfl⟩ := Option.map_eq_some_iff.1 h
    cases event with
    | chunk bytes =>
      cases hbytes
      cases bytes with
      | nil => exact ih hrest w
      | cons b bytes =>
        rw [writeChunks, ih hrest, List.append_assoc, List.append_assoc, List.length_append, Nat.add_assoc]
        exact nofun
    | chunksRaise error => cases hbytes
    | writeRaises written error => cases hbytes

theorem writeChunks_raises {events : List ChunkEvent} (h : chunkBytes events = none) (w : Writing) :
    ∃ w' error, writeChunks events w = (w', some error) := by
  induction events generalizing w with
  | nil => cases h
  | cons event events ih =>
    cases event with
    | chunk bytes =>
      rw [chunkBytes_cons, ChunkEvent.bytes?, Option.bind_some, Option.map_eq_none_iff] at h
      cases bytes with
      | nil => exact ih h w
      | cons b bytes =>
        rw [writeChunks]
        · exact ih h _
        · exact nofun
    | chunksRaise error => exact ⟨w, error, rfl⟩
    | writeRaises written error => exact ⟨_, error, rfl⟩

theorem updateOrCreateRow_error {ρ : Type} {lookup : Nat → ρ → Bool} {new : ρ} {update : ρ → ρ}
    {t : AutoTable ρ} (h : updateOrCreateRow lookup new update t = .error error) :
    (∃ message, error = .other message) ∧
      ∃ i j, i ≠ j ∧ (∃ row, t.rows.lookup i = some row ∧ lookup i row = true) ∧
        ∃ row, t.rows.lookup j = some row ∧ lookup j row = true := by
  rw [updateOrCreateRow] at h
  have hnodup := Table.nodup_keysWhere lookup t.rows
  split at h
  · cases h
  · cases h
  · next hnil hone =>
    cases h
    refine ⟨⟨_, rfl⟩, ?_⟩
    cases hkeys : t.rows.keysWhere lookup with
    | nil => exact (hnil hkeys).elim
    | cons i keys =>
      cases keys with
      | nil => exact (hone i hkeys).elim
      | cons j keys =>
        rw [hkeys, List.nodup_cons] at hnodup
        refine ⟨i, j, fun hij => hnodup.1 (hij ▸ List.mem_cons_self), ?_, ?_⟩
        · exact Table.mem_keysWhere.1 (hkeys ▸ List.mem_cons_self)
        · exact Table.mem_keysWhere.1 (hkeys ▸ List.mem_cons_of_mem _ List.mem_cons_self)

/-- What an upload with the content does, once its file is written. -/
def Upload.save (place : UploadPlace) (content : List UInt8) (s : UploadStore) (upload : Upload) :
    AutoTable UploadRow × Except UploadError Nat :=
  let itemUid := manualItemUid place content content.length
  let update := UploadRow.uploaded place upload.now upload.originalName upload.suffix itemUid
    (upload.destination place s.files) content.length
  saveUpload upload.saving (UploadRow.isUpload place.profileId itemUid)
    (update {
      profileId := place.profileId, itemUid := some itemUid, sourceType := "manual"
      sourceName := "Manual Uploads", firstSeenAt := upload.now, lastSeenAt := upload.now })
    update s.downloads

theorem Upload.Accepted.destination (h : upload.Accepted) (files : Table Path (List UInt8)) :
    files.lookup (upload.destination place files) = none ∧
      (upload.destination place files).parent = place.manualRoot :=
  destination_free (slash_notMem_stem _) h.2

/-- The file system's and the database's part of an upload. -/
def Upload.store (place : UploadPlace) (s : UploadStore) (upload : Upload) :
    UploadStore × Except UploadError (Nat × Path) :=
  let destination := upload.destination place s.files
  match writeChunks upload.chunks {} with
  | (writing, some error) =>
    ({ s with files := AList.insert destination writing.file s.files }, .error error)
  | (writing, none) =>
    let files := AList.insert destination writing.file s.files
    if writing.bytesWritten = 0 then
      ({ s with files := AList.erase destination files }, .error (.valueError "Empty file payload"))
    else
      let itemUid := manualItemUid place writing.hashed writing.bytesWritten
      let update := UploadRow.uploaded place upload.now upload.originalName upload.suffix itemUid
        destination writing.bytesWritten
      let new : UploadRow := {
        profileId := place.profileId, itemUid := some itemUid, sourceType := "manual"
        sourceName := "Manual Uploads", firstSeenAt := upload.now, lastSeenAt := upload.now }
      match saveUpload upload.saving (UploadRow.isUpload place.profileId itemUid) (update new) update
          s.downloads with
      | (downloads, .ok id) => ({ downloads, files }, .ok (id, destination))
      | (downloads, .error (.raised .databaseError)) =>
        ({ downloads, files := AList.erase destination files }, .error (.raised .databaseError))
      | (downloads, .error error) => ({ downloads, files }, .error error)

theorem writeManualUpload_eq (place : UploadPlace) (upload : Upload) (s : UploadStore) :
    place.writeManualUpload upload s =
      if upload.originalName = "" then (s, .error (.valueError "Missing filename"))
      else if upload.suffix ∉ mediaUploadExtensions then
        (s, .error (.valueError "Unsupported media type"))
      else
        match upload.opened with
        | .error error => (s, .error error)
        | .ok () => upload.store place s := rfl

theorem writeManualUpload_refused (h : ¬ (upload.Accepted ∧ upload.opened = .ok ())) :
    ∃ error, place.writeManualUpload upload s = (s, .error error) := by
  rw [writeManualUpload_eq]
  split
  · exact ⟨_, rfl⟩
  · next hname =>
    split
    · exact ⟨_, rfl⟩
    · next hsuffix =>
      split
      · exact ⟨_, rfl⟩
      · next hopened => exact (h ⟨⟨hname, Decidable.not_not.1 hsuffix⟩, hopened⟩).elim

theorem writeManualUpload_accepted (h : upload.Accepted) (hopened : upload.opened = .ok ()) :
    place.writeManualUpload upload s = upload.store place s := by
  rw [writeManualUpload_eq, if_neg h.1, if_neg (not_not_intro h.2), hopened]

theorem store_interrupted (hcontent : upload.content? = none) : ∃ content error,
    upload.store place s =
      ({ s with files := AList.insert (upload.destination place s.files) content s.files }, .error error) := by
  obtain ⟨w, error, hwriting⟩ := @writeChunks_raises upload.chunks hcontent {}
  refine ⟨w.file, error, ?_⟩
  rw [Upload.store, hwriting]

theorem store_empty (h : upload.Accepted) (hcontent : upload.content? = some []) :
    ∃ error, upload.store place s = (s, .error error) := by
  refine ⟨.valueError "Empty file payload", ?_⟩
  rw [Upload.store, writeChunks_ok hcontent]
  dsimp only
  rw [List.length_nil, if_pos rfl, erase_insert_fresh (h.destination s.files).1]

theorem store_written (h : upload.Accepted) (hcontent : upload.content? = some content)
    (hne : content ≠ []) : upload.store place s =
      match upload.save place content s with
      | (downloads, .ok id) =>
        ({ downloads, files := AList.insert (upload.destination place s.files) content s.files },
          .ok (id, upload.destination place s.files))
      | (downloads, .error (.raised .databaseError)) =>
        ({ downloads, files := s.files }, .error (.raised .databaseError))
      | (downloads, .error error) =>
        ({ downloads, files := AList.insert (upload.destination place s.files) content s.files },
          .error error) := by
  have hlength : ¬ 0 + content.length = 0 := by
    rw [Nat.zero_add]
    exact fun h => hne (List.length_eq_zero_iff.1 h)
  rw [Upload.store, writeChunks_ok hcontent]
  dsimp only
  rw [if_neg hlength, List.nil_append, Nat.zero_add, erase_insert_fresh (h.destination s.files).1]
  rfl

/-- Only a `DatabaseError` takes the file away again. -/
theorem store_failed (h : upload.Accepted) (hcontent : upload.content? = some content)
    (hne : content ≠ []) (hsave : upload.save place content s = (downloads, .error error))
    (hdb : error ≠ .raised .databaseError) : upload.store place s =
      ({ downloads, files := AList.insert (upload.destination place s.files) content s.files },
        .error error) := by
  rw [store_written h hcontent hne, hsave]
  split
  · next heq => cases heq
  · next heq =>
    cases heq
    exact (hdb rfl).elim
  · next heq =>
    cases heq
    rfl

theorem grown_ne (hfree : s.files.lookup path = none) :
    ({ downloads, files := AList.insert path content s.files } : UploadStore) ≠ s := by
  intro h
  have hlookup := congrArg (fun s => s.files.lookup path) h
  dsimp only at hlookup
  rw [hfree, Table.lookup_insert_apply, if_pos rfl] at hlookup
  cases hlookup

theorem uploadFile_error (h : place.writeManualUpload upload s = (t, .error error)) :
    place.uploadFile upload s = (t, .error error) := by
  rw [UploadPlace.uploadFile, h]

theorem uploadFile_store (h : place.writeManualUpload upload s = (t, .ok (id, path))) :
    (place.uploadFile upload s).1 = t ∧
      ((∃ entry, (place.uploadFile upload s).2 = .ok entry) ↔ ∃ jobId, upload.enqueued = .ok jobId) := by
  rw [UploadPlace.uploadFile, h]
  cases upload.enqueued with
  | error error => exact ⟨rfl, iff_of_false nofun nofun⟩
  | ok jobId => exact ⟨rfl, iff_of_true ⟨_, rfl⟩ ⟨jobId, rfl⟩⟩

section
variable {saving : RowSaving} {lookup : Nat → UploadRow → Bool} {new : UploadRow}
  {update : UploadRow → UploadRow} {t : AutoTable UploadRow}

theorem saveUpload_error (hlate : ∀ error, saving ≠ .failed error false)
    (hrow : updateOrCreateRow lookup new update t = .error error) :
    saveUpload saving lookup new update t = (t, .error (.raised error)) := by
  cases saving with
  | done => simp only [saveUpload, hrow]
  | failed raised committed =>
    cases committed with
    | false => exact (hlate raised rfl).elim
    | true => simp only [saveUpload, hrow]

theorem saveUpload_ok (hlate : ∀ error, saving ≠ .failed error false)
    (hrow : updateOrCreateRow lookup new update t = .ok (id, downloads)) :
    saving = .done ∧ saveUpload saving lookup new update t = (downloads, .ok id) ∨
      ∃ error, saving = .failed error true ∧
        saveUpload saving lookup new update t = (downloads, .error error) := by
  cases saving with
  | done =>
    left
    simp only [saveUpload, hrow, and_self]
  | failed raised committed =>
    cases committed with
    | false => exact (hlate raised rfl).elim
    | true =>
      refine .inr ⟨raised, rfl, ?_⟩
      simp only [saveUpload, hrow]

end

/-- The three ways in which the row's part can go: the statement fails before it, it finds two rows, or
one row is written, after which the statement may still fail. -/
theorem save_spec (place : UploadPlace) (content : List UInt8) (s : UploadStore) (upload : Upload) :
    (∃ error, upload.saving = .failed error false ∧
        upload.save place content s = (s.downloads, .error error)) ∨
      (∃ error, upload.save place content s = (s.downloads, .error (.raised (.other error))) ∧
        upload.saving ≠ .failed (.raised .databaseError) false ∧
        ∃ i j, i ≠ j ∧ s.Found place content i ∧ s.Found place content j) ∨
      ∃ id downloads row,
        (∀ i, downloads.rows.lookup i = if i = id then some row else s.downloads.rows.lookup i) ∧
        row.filePath = some (upload.destination place s.files).str ∧
        row.fileSizeBytes = some (content.length : Int) ∧
        (∀ i, s.Found place content i → i = id) ∧
        (∀ path, s.Names id path → s.Found place content id) ∧
        (upload.saving = .done ∧ upload.save place content s = (downloads, .ok id) ∨
          ∃ error, upload.saving = .failed error true ∧
            upload.save place content s = (downloads, .error error)) := by
  rw [Upload.save]
  generalize hupdate : UploadRow.uploaded place upload.now upload.originalName upload.suffix
    (manualItemUid place content content.length) (upload.destination place s.files) content.length = update
  have hfile (row : UploadRow) : (update row).filePath = some (upload.destination place s.files).str :=
    hupdate ▸ rfl
  have hsize (row : UploadRow) : (update row).fileSizeBytes = some (content.length : Int) := hupdate ▸ rfl
  generalize ({
    profileId := place.profileId, itemUid := some (manualItemUid place content content.length)
    sourceType := "manual", sourceName := "Manual Uploads", firstSeenAt := upload.now
    lastSeenAt := upload.now } : UploadRow) = new
  by_cases hrefused : ∃ error, upload.saving = .failed error false
  · obtain ⟨error, hsaving⟩ := hrefused
    rw [hsaving, saveUpload]
    exact .inl ⟨error, rfl, rfl⟩
  right
  have hlate : ∀ error, upload.saving ≠ .failed error false := fun error h => hrefused ⟨error, h⟩
  cases hrow : updateOrCreateRow (UploadRow.isUpload place.profileId (manualItemUid place content content.length))
      (update new) update s.downloads with
  | error error =>
    obtain ⟨⟨message, rfl⟩, htwo⟩ := updateOrCreateRow_error hrow
    exact .inl ⟨message, saveUpload_error hlate hrow, hlate _, htwo⟩
  | ok written =>
    obtain ⟨id, downloads⟩ := written
    obtain ⟨row, hrows, hcase⟩ := updateOrCreateRow_spec hrow
    have hsave := saveUpload_ok hlate hrow
    refine .inr ⟨id, downloads, row, hrows, ?_⟩
    rcases hcase with ⟨rfl, hnone, hunmet⟩ | ⟨old, rfl, hold, hkeys⟩
    · refine ⟨hfile _, hsize _, ?_, ?_, hsave⟩
      · rintro i ⟨row, hrow, hfound⟩
        exact (hunmet i row hrow hfound).elim
      · rintro path ⟨row, hrow, -⟩
        rw [hnone] at hrow
        cases hrow
    · refine ⟨hfile _, hsize _, fun i hi => (hkeys i).1 hi, ?_, hsave⟩
      intro path _
      exact (hkeys id).2 rfl

/-- A turn that leaves a new file of the directory without a row. -/
theorem not_kept_orphan (hpaired : s.Paired place) (h : upload.Accepted)
    (hturn : place.uploadFile upload s =
      ({ s with files := AList.insert (upload.destination place s.files) content s.files }, answer)) :
    ¬ upload.Kept place s := by
  obtain ⟨hfree, hdir⟩ : s.files.lookup (upload.destination place s.files) = none ∧
      (upload.destination place s.files).parent = place.manualRoot := h.destination s.files
  intro hkept
  have hafter := hkept.paired
  rw [hturn] at hafter
  exact UploadStore.not_paired_orphan hdir (hpaired.not_names hfree hdir) hafter

theorem kept_of_unchanged (hpaired : s.Paired place) (hturn : place.uploadFile upload s = (s, answer)) :
    upload.Kept place s := by
  refine ⟨?_, fun error _ => ?_⟩
  · rw [hturn]
    exact hpaired
  · rw [hturn]

/-- An upload whose file is written. -/
theorem kept_written_iff (hpaired : s.Paired place) (h : upload.Accepted) (hopened : upload.opened = .ok ())
    (hcontent : upload.content? = some content) (hne : content ≠ []) :
    upload.Kept place s ↔
      upload.saving = .failed (.raised .databaseError) false ∨ upload.Recorded place content s := by
  obtain ⟨hfree, hdir⟩ : s.files.lookup (upload.destination place s.files) = none ∧
      (upload.destination place s.files).parent = place.manualRoot := h.destination s.files
  have hwrite : place.writeManualUpload upload s = upload.store place s :=
      writeManualUpload_accepted h hopened
  have hlate {error : UploadError} {committed : Bool} (hsaving : upload.saving = .failed error committed)
      (hnot : error ≠ .raised .databaseError ∨ committed = true) :
      ¬ (upload.saving = .failed (.raised .databaseError) false ∨ upload.Recorded place content s) := by
    rintro (hclean | hrecorded)
    · rw [hsaving] at hclean
      cases hclean
      rcases hnot with hnot | hnot
      · exact hnot rfl
      · cases hnot
    · have hdone := hrecorded.saved
      rw [hsaving] at hdone
      cases hdone
  rcases save_spec place content s upload with ⟨error, hsaving, hsave⟩ |
    ⟨message, hsave, hsaving, i, j, hij, hi, hj⟩ |
    ⟨id, downloads, row, hrows, hfile, hsize, hunique, hnames, hsaved⟩
  · by_cases hdb : error = .raised .databaseError
    · subst hdb
      rw [store_written h hcontent hne, hsave] at hwrite
      exact iff_of_true (kept_of_unchanged hpaired (uploadFile_error hwrite)) (.inl hsaving)
    · rw [store_failed h hcontent hne hsave hdb] at hwrite
      exact iff_of_false (not_kept_orphan hpaired h (uploadFile_error hwrite)) (hlate hsaving (.inl hdb))
  · rw [store_failed h hcontent hne hsave nofun] at hwrite
    refine iff_of_false (not_kept_orphan hpaired h (uploadFile_error hwrite)) ?_
    rintro (hclean | hrecorded)
    · exact hsaving hclean
    · exact hij (hrecorded.unique i j hi hj)
  · have hrecord := hpaired.record_iff hfree hdir hrows hfile hsize
    rcases hsaved with ⟨hdone, hsave⟩ | ⟨error, hsaving, hsave⟩
    · rw [store_written h hcontent hne, hsave] at hwrite
      obtain ⟨hstore, hanswer⟩ := uploadFile_store hwrite
      constructor
      · intro hkept
        have hafter := hkept.paired
        rw [hstore] at hafter
        refine .inr ⟨hdone, ?_, ?_, ?_⟩
        · rw [← hanswer]
          cases hturn : (place.uploadFile upload s).2 with
          | ok entry => exact ⟨entry, rfl⟩
          | error error => exact (grown_ne hfree (hstore.symm.trans (hkept.unchanged error hturn))).elim
        · intro i j hi hj
          exact (hunique i hi).trans (hunique j hj).symm
        · intro i path hi hpath
          rw [hunique i hi]
          exact hrecord.1 hafter path hpath
      · rintro (hclean | hrecorded)
        · rw [hdone] at hclean
          cases hclean
        · refine ⟨?_, ?_⟩
          · rw [hstore]
            refine hrecord.2 fun path hpath hold => ?_
            exact hrecorded.new id path (hnames path hold) hpath hold
          · intro error herror
            obtain ⟨entry, hentry⟩ := hanswer.2 hrecorded.enqueued
            rw [hentry] at herror
            cases herror
    · -- the row is written, and the statement fails nevertheless
      refine iff_of_false (fun hkept => ?_) (hlate hsaving (.inr rfl))
      by_cases hdb : error = .raised .databaseError
      · subst hdb
        rw [store_written h hcontent hne, hsave] at hwrite
        have hafter := hkept.paired
        rw [uploadFile_error hwrite] at hafter
        exact UploadStore.not_paired_dangling hfree hdir ((hrows id).trans (if_pos rfl)) hfile hafter
      · rw [store_failed h hcontent hne hsave hdb] at hwrite
        have hsame := hkept.unchanged error (congrArg Prod.snd (uploadFile_error hwrite))
        rw [uploadFile_error hwrite] at hsame
        exact grown_ne hfree hsame

/-- An upload keeps the pairing, and changes nothing where it fails, exactly under the condition. -/
theorem kept_iff (hpaired : s.Paired place) : upload.Kept place s ↔ upload.Meets place s := by
  by_cases haccepted : upload.Accepted ∧ upload.opened = .ok ()
  · obtain ⟨h, hopened⟩ := haccepted
    have hwrite : place.writeManualUpload upload s = upload.store place s :=
      writeManualUpload_accepted h hopened
    rw [Upload.Meets, forall_prop_of_true h, forall_prop_of_true hopened]
    cases hcontent : upload.content? with
    | none =>
      obtain ⟨content, error, hstore⟩ : ∃ content error, upload.store place s =
          ({ s with files := AList.insert (upload.destination place s.files) content s.files },
            .error error) := store_interrupted hcontent
      refine iff_of_false ?_ ?_
      · exact not_kept_orphan hpaired h (uploadFile_error (hwrite.trans hstore))
      · rintro ⟨content, hsome, -⟩
        cases hsome
    | some content =>
      simp only [Option.some.injEq, exists_eq_left']
      by_cases hne : content = []
      · subst hne
        obtain ⟨error, hstore⟩ : ∃ error, upload.store place s = (s, .error error) :=
          store_empty h hcontent
        refine iff_of_true ?_ (.inl rfl)
        exact kept_of_unchanged hpaired (uploadFile_error (hwrite.trans hstore))
      · rw [or_iff_right hne]
        exact kept_written_iff hpaired h hopened hcontent hne
  · obtain ⟨error, hwrite⟩ : ∃ error, place.writeManualUpload upload s = (s, .error error) :=
      writeManualUpload_refused haccepted
    refine iff_of_true (kept_of_unchanged hpaired (uploadFile_error hwrite)) ?_
    exact fun h hopened => (haccepted ⟨h, hopened⟩).elim

-- Runs

/-- An upload of a call, unless an exception ends the call there. -/
def uploadTurn (place : UploadPlace) (s : UploadStore) (upload : Upload) : Option UploadStore :=
  match place.uploadFile upload s with
  | (_, .error (.raised _)) => none
  | (s, _) => some s

/-- A call of `manual_upload`, whatever it answers. -/
def uploadCall (place : UploadPlace) (s : UploadStore) (uploads : List Upload) : Option UploadStore :=
  some (place.manualUpload uploads s).1

/-- The condition at every upload that the call comes to. -/
def CallAlong (place : UploadPlace) (ok : UploadStore → Upload → Prop) (s : UploadStore)
    (uploads : List Upload) : Prop :=
  Along (uploadTurn place) ok s uploads

theorem paired_uploadFiles {uploads : List Upload} (hpaired : s.Paired place)
    (h : CallAlong place (fun s upload => upload.Kept place s) s uploads)
    (created : List CreatedUpload) (errors : List (String × String)) :
    (place.uploadFiles uploads created errors s).1.Paired place := by
  induction uploads generalizing s created errors with
  | nil => exact hpaired
  | cons upload uploads ih =>
    obtain ⟨hkept, hrest⟩ := h
    have hafter := hkept.paired
    rw [uploadTurn] at hrest
    rw [UploadPlace.uploadFiles]
    rcases hturn : place.uploadFile upload s with ⟨t, answer⟩
    rw [hturn] at hafter hrest
    cases answer with
    | ok entry => exact ih hafter hrest (created ++ [entry]) errors
    | error error =>
      cases error with
      | valueError text => exact ih hafter hrest created (errors ++ [(upload.name, text)])
      | raised error => exact hafter

theorem paired_manualUpload {uploads : List Upload} (hpaired : s.Paired place)
    (h : CallAlong place (fun s upload => upload.Kept place s) s uploads) :
    (place.manualUpload uploads s).1.Paired place := by
  rw [UploadPlace.manualUpload]
  split
  · exact hpaired
  · exact paired_uploadFiles hpaired h [] []

theorem callAlong_iff {uploads : List Upload} (hpaired : s.Paired place) :
    CallAlong place (fun s upload => upload.Kept place s) s uploads ↔
      CallAlong place (fun s upload => upload.Meets place s) s uploads := by
  refine along_congr (I := UploadStore.Paired place) ?_ (fun s upload h => kept_iff h) hpaired
  intro s upload t _ hkept hturn
  have hafter := hkept.paired
  rw [uploadTurn] at hturn
  split at hturn
  · cases hturn
  · next heq =>
    cases hturn
    rw [heq] at hafter
    exact hafter

end

/-- Over a run of calls from any state in which files and rows are paired: all uploads keep the pairing,
and change nothing where they fail, exactly if each of them meets the condition. -/
theorem uploads_paired_iff (place : UploadPlace) (s : UploadStore) (hpaired : s.Paired place)
    (calls : List (List Upload)) :
    Along (uploadCall place) (CallAlong place fun s upload => upload.Kept place s) s calls ↔
      Along (uploadCall place) (CallAlong place fun s upload => upload.Meets place s) s calls := by
  refine along_congr (I := UploadStore.Paired place) ?_ (fun s uploads h => callAlong_iff h) hpaired
  intro s uploads t hpaired hkept hcall
  cases hcall
  exact paired_manualUpload hpaired hkept

def annaPlace : UploadPlace where
  profileId := "anna"
  outputRoot := Path.parse "/downloads"
  sha1 := fun bytes => String.ofList (bytes.map fun b => Char.ofNat b.toNat)

def songUpload (name : String) : Upload where
  name
  opened := .ok ()
  chunks := [.chunk [97, 98], .chunk [], .chunk [99]]
  now := 0
  saving := .done
  enqueued := .ok 0

def UploadStore.empty : UploadStore := { downloads := .empty, files := ∅ }

theorem UploadStore.paired_empty (place : UploadPlace) : UploadStore.empty.Paired place where
  owned := by
    intro path _ hsome
    exact absurd hsome Bool.false_ne_true
  present := by
    intro id row path _ hrow
    rw [UploadStore.empty, AutoTable.lookup_empty] at hrow
    cases hrow

theorem song_kept :
    Along (uploadCall annaPlace) (CallAlong annaPlace fun s upload => upload.Kept annaPlace s)
      UploadStore.empty [[songUpload "a.mp3"]] := by
  refine (uploads_paired_iff annaPlace _ (UploadStore.paired_empty annaPlace) _).2 ⟨⟨?_, ?_⟩, trivial⟩
  · intro _ _
    refine ⟨[97, 98, 99], rfl, .inr (.inr ⟨rfl, ⟨0, rfl⟩, ?_, ?_⟩)⟩
    · rintro i j ⟨row, hrow, -⟩
      rw [UploadStore.empty, AutoTable.lookup_empty] at hrow
      cases hrow
    · rintro i path ⟨row, hrow, -⟩
      rw [UploadStore.empty, AutoTable.lookup_empty] at hrow
      cases hrow
  · split
    · trivial
    · trivial

/-- The same content is uploaded twice: the row moves to the second file, the first one has no row. -/
theorem repeated_upload_orphans_file :
    let s := (annaPlace.manualUpload [songUpload "a.mp3"] UploadStore.empty).1
    let t := (annaPlace.manualUpload [songUpload "a.mp3"] s).1
    UploadStore.empty.Paired annaPlace ∧ ¬ t.Paired annaPlace := by
  refine ⟨UploadStore.paired_empty annaPlace, ?_⟩
  generalize hs : (annaPlace.manualUpload [songUpload "a.mp3"] UploadStore.empty).1 = s
  generalize ht : (annaPlace.manualUpload [songUpload "a.mp3"] s).1 = t
  intro hpaired
  have hfile : (t.files.lookup (Path.parse "/downloads/manual/a.mp3")).isSome = true := by
    subst ht hs
    decide +kernel
  have hrows : t.downloads.nextId = 1 ∧ (t.downloads.rows.lookup 0).bind (fun row => row.filePath) =
      some "/downloads/manual/a-1.mp3" := by
    subst ht hs
    decide +kernel
  obtain ⟨id, ⟨row, hrow, hpath⟩, -⟩ := hpaired.owned _ (by decide +kernel) hfile
  have hid := AutoTable.lt_nextId hrow
  rw [hrows.1, Nat.lt_one_iff] at hid
  subst hid
  have hname := hrows.2
  rw [hrow, Option.bind_some, hpath] at hname
  revert hname
  decide +kernel

end GetOffline
