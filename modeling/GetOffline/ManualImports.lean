import GetOffline.Listings
import GetOffline.MediaRanges
import GetOffline.UploadPairs

set_option autoImplicit true

namespace Python

def hexDigit (n : Nat) : Char :=
  Char.ofNat (if n < 10 then 48 + n else 87 + n)

/-- `\u` and four hexadecimal digits. -/
def unicodeEscape (n : Nat) : List Char :=
  ['\\', 'u', hexDigit (n / 4096), hexDigit (n / 256 % 16), hexDigit (n / 16 % 16), hexDigit (n % 16)]

/-- A character in the text of `json.dumps`. -/
def jsonChar (c : Char) : List Char :=
  let n := c.toNat
  if c ∈ ['"', '\\'] then ['\\', c]
  else if c = '\n' then ['\\', 'n']
  else if c = '\r' then ['\\', 'r']
  else if c = '\t' then ['\\', 't']
  else if n = 8 then ['\\', 'b']
  else if n = 12 then ['\\', 'f']
  else if 32 ≤ n ∧ n < 127 then [c]
  else if n < 0x10000 then unicodeEscape n
  else unicodeEscape (0xD800 + (n - 0x10000) / 0x400) ++ unicodeEscape (0xDC00 + (n - 0x10000) % 0x400)

def jsonString (text : String) : String :=
  "\"" ++ String.ofList (text.toList.flatMap jsonChar) ++ "\""

example : jsonString "a/é\"" = "\"a/\\u00e9\\\"\"" := by decide +kernel

end Python

namespace GetOffline
open Python

-- api/services/dashboard_actions.py: imports from the downloads directory

/-- A file of the downloads directory and what happens around its import. -/
structure FileImport where
  /-- `Path(file_path).expanduser().resolve()`. -/
  path : Path
  sourceName : Option String
  /-- `open` and the reads of `_hash_file`. -/
  hashed : Except UploadError Unit
  now : Instant
  saving : RowSaving

namespace FileImport

/-- `source_name or path.parent.name or "Manual Uploads"`. -/
def channelName (file : FileImport) : String :=
  textOr (textOr "Manual Uploads" file.path.parent.name) (orEmptyText file.sourceName)

def itemUid (place : UploadPlace) (relativePath : String) (content : List UInt8) (file : FileImport) : String :=
  "manualdir-" ++ place.profileId ++ "-" ++ file.channelName ++ "-" ++ relativePath ++ "-" ++
    toString content.length ++ "-" ++ place.sha1 content

end FileImport

/-- The `defaults` of `update_or_create`. -/
def UploadRow.imported (file : FileImport) (relativePath itemUid : String) (bytesWritten : Nat)
    (row : UploadRow) : UploadRow :=
  { row with
    sourceType := "manual"
    sourceName := file.channelName
    sourceUrl := none
    itemId := some itemUid
    itemUrl := none
    mediaUrl := none
    title := some file.path.name
    description := some "Imported from downloads directory"
    uploader := some "local"
    channel := some file.channelName
    uploadDate := some (Date.ofInstant file.now).isoformat
    durationSeconds := none
    filePath := some file.path.str
    filePathRelative := some relativePath
    fileExt := some (String.ofList ((lower file.path.suffix).toList.dropWhile fun c => c = '.'))
    fileSizeBytes := some bytesWritten
    subtitlePath := none
    subtitlePathRelative := none
    downloadStatus := "downloaded"
    profanityStatus := "clean"
    isCensored := false
    censoredSegments := .array []
    rawMetadataJson := some ("\x7b\"ingest_method\": \"downloads-directory\", \"relative_path\": " ++
      jsonString relativePath ++ "\x7d")
    lastSeenAt := file.now
    completedAt := some file.now }

/-- `import_manual_file`: the id of the row and the path of the file. The place's root is the downloads
root that the call names, or the profile's, resolved. -/
def UploadPlace.importManualFile (place : UploadPlace) (file : FileImport) (s : UploadStore) :
    UploadStore × Except UploadError (Nat × Path) :=
  match s.files.lookup file.path with
  | none => (s, .error (.valueError ("File unavailable: " ++ file.path.str)))
  | some content =>
    if lower file.path.suffix ∉ mediaUploadExtensions then
      (s, .error (.valueError ("Unsupported media type: " ++ file.path.name)))
    else
      match file.path.relativeTo place.outputRoot with
      | none =>
        (s, .error (.valueError
          ("File must live under the downloads root: " ++ place.outputRoot.str)))
      | some relativePath =>
        match file.hashed with
        | .error error => (s, .error error)
        | .ok () =>
          let itemUid := file.itemUid place relativePath content
          let update := UploadRow.imported file relativePath itemUid content.length
          let new : UploadRow := {
            profileId := place.profileId, itemUid := some itemUid, sourceType := "manual"
            sourceName := file.channelName, firstSeenAt := file.now, lastSeenAt := file.now }
          match saveUpload file.saving (UploadRow.isUpload place.profileId itemUid) (update new) update
              s.downloads with
          | (downloads, .ok id) => ({ s with downloads }, .ok (id, file.path))
          | (downloads, .error error) => ({ s with downloads }, .error error)

/-- What the store comes to when a file is taken in, with the row and the path of the file. -/
inductive UploadPlace.Admits (place : UploadPlace) : UploadStore → Nat → Path → Prop
  | imported {file : FileImport} {s t : UploadStore} {id : Nat} {path : Path}
    (h : place.importManualFile file s = (t, .ok (id, path))) : Admits place t id path
  | uploaded {upload : Upload} {s t : UploadStore} {id : Nat} {path : Path}
    (h : place.writeManualUpload upload s = (t, .ok (id, path))) : Admits place t id path

/-- A partial answer names a range, and is as long as it says. -/
structure MediaResponse.Honest (response : MediaResponse) : Prop where
  range : ∀ range, response.contentRange = some range → 0 ≤ range.start ∧ range.start ≤ range.last
  length : response.contentLength = response.body.length

section
variable {place : UploadPlace} {file : FileImport} {upload : Upload} {s t : UploadStore} {id : Nat} {path : Path}
  {content : List UInt8}

theorem saveUpload_done {saving : RowSaving} {lookup : Nat → UploadRow → Bool} {new : UploadRow}
    {update : UploadRow → UploadRow} {downloads downloads' : AutoTable UploadRow}
    (h : saveUpload saving lookup new update downloads = (downloads', .ok id)) :
    updateOrCreateRow lookup new update downloads = .ok (id, downloads') := by
  cases saving with
  | done =>
    simp only [saveUpload] at h
    split at h
    · cases h
    · next heq => cases heq
    · next hrow _ =>
      cases h
      exact hrow
  | failed error committed =>
    cases committed with
    | false => cases h
    | true =>
      simp only [saveUpload] at h
      split at h
      · cases h
      · cases h
      · next heq => cases heq

/-- The row of an import names the file, which is as it was. -/
theorem importManualFile_ok (h : place.importManualFile file s = (t, .ok (id, path))) :
    t.files = s.files ∧ (∃ content, s.files.lookup path = some content) ∧ t.Names id path := by
  rw [UploadPlace.importManualFile] at h
  split at h
  · cases h
  · next content hcontent =>
    split at h
    · cases h
    · split at h
      · cases h
      · split at h
        · cases h
        · dsimp only at h
          split at h
          · next downloads id' hsave =>
            obtain ⟨rfl, hok⟩ := Prod.mk.inj h
            obtain ⟨rfl, rfl⟩ := Prod.mk.inj (Except.ok.inj hok)
            obtain ⟨row, hrows, hcase⟩ := updateOrCreateRow_spec (saveUpload_done hsave)
            refine ⟨rfl, ⟨content, hcontent⟩, row, ?_, ?_⟩
            · exact (hrows id').trans (if_pos rfl)
            · rcases hcase with ⟨rfl, -⟩ | ⟨old, rfl, -⟩
              · rfl
              · rfl
          · cases h

/-- An upload that is taken in has content. -/
theorem writeManualUpload_ok (h : place.writeManualUpload upload s = (t, .ok (id, path))) :
    (∃ content, content ≠ [] ∧ t.files.lookup path = some content) ∧ t.Names id path := by
  by_cases hgo : upload.Accepted ∧ upload.opened = .ok ()
  · obtain ⟨haccepted, hopened⟩ := hgo
    rw [writeManualUpload_accepted haccepted hopened] at h
    cases hcontent : upload.content? with
    | none =>
      obtain ⟨left, error, hstore⟩ := @store_interrupted place s upload hcontent
      cases h.symm.trans hstore
    | some content =>
      by_cases hempty : content = []
      · obtain ⟨error, hstore⟩ := @store_empty place s upload haccepted (hcontent.trans (congrArg some hempty))
        cases h.symm.trans hstore
      · rw [store_written haccepted hcontent hempty] at h
        split at h
        · next downloads id' hsave =>
          obtain ⟨rfl, hok⟩ := Prod.mk.inj h
          obtain ⟨rfl, rfl⟩ := Prod.mk.inj (Except.ok.inj hok)
          obtain ⟨row, hrows, hcase⟩ := updateOrCreateRow_spec (saveUpload_done hsave)
          refine ⟨⟨content, hempty, ?_⟩, row, ?_, ?_⟩
          · rw [Table.lookup_insert_apply, if_pos rfl]
          · exact (hrows id').trans (if_pos rfl)
          · rcases hcase with ⟨rfl, -⟩ | ⟨old, rfl, -⟩
            · rfl
            · rfl
        · cases h
        · cases h
  · obtain ⟨error, hrefused⟩ := @writeManualUpload_refused place s upload hgo
    cases h.symm.trans hrefused

theorem honest_whole (guessType : String → Option String) (chunkSize : Nat) (path : Path) (content : List UInt8)
    {rangeHeader : String} (h : ¬ "bytes=".toList <+: rangeHeader.toList) :
    (mediaResponse guessType chunkSize path content rangeHeader).Honest := by
  rw [mediaResponse_whole guessType chunkSize path content h]
  constructor
  · intro range hrange
    cases hrange
  · exact congrArg (fun bytes : List UInt8 => (bytes.length : Int)) (List.append_nil content).symm

theorem honest_of_content (guessType : String → Option String) {chunkSize : Nat} (hchunk : 0 < chunkSize)
    (path : Path) (hcontent : content ≠ []) (rangeHeader : String) :
    (mediaResponse guessType chunkSize path content rangeHeader).Honest := by
  by_cases hprefix : "bytes=".toList <+: rangeHeader.toList
  · obtain ⟨specification, rfl⟩ := exists_specification hprefix
    obtain ⟨start, last, hserved⟩ := servedRange_eq_nat hcontent specification
    obtain ⟨-, ⟨hle, hlt⟩, hbody, -, -⟩ := serves_range guessType hchunk path hcontent hserved
    constructor
    · rintro range hrange
      rw [mediaResponse_bytes, hserved] at hrange
      obtain rfl := Option.some.inj hrange
      exact ⟨Int.natCast_nonneg start, Int.ofNat_le.2 hle⟩
    · rw [hbody, mediaResponse_bytes, hserved, List.length_take, List.length_drop]
      dsimp only
      omega
  · exact honest_whole guessType chunkSize path content hprefix

/-- There is no last byte, so no range of an empty file is in order. -/
theorem not_honest_empty (guessType : String → Option String) (chunkSize : Nat) (path : Path)
    (specification : String) :
    ¬ (mediaResponse guessType chunkSize path [] ("bytes=" ++ specification)).Honest := by
  rw [mediaResponse_bytes]
  rintro ⟨hrange, hlength⟩
  obtain ⟨hstart, hle⟩ := hrange _ rfl
  rw [MediaResponse.body] at hlength
  dsimp only [List.length_nil] at hlength hle
  rw [fileRangeIterator_nil] at hlength
  dsimp only [List.flatten_nil, List.length_nil] at hlength
  omega

/-- An admitted file is streamed truthfully exactly where it is not empty or no range is asked for; and what
has been uploaded is not empty. -/
theorem admitted_streams_iff (h : place.Admits s id path) :
    ∃ content, s.files.lookup path = some content ∧ s.Names id path ∧
      (∀ (guessType : String → Option String) (rangeHeader : String),
        (mediaResponse guessType mediaRangeChunkSize path content rangeHeader).Honest ↔
          content ≠ [] ∨ ¬ "bytes=".toList <+: rangeHeader.toList) ∧
      ∀ upload s₀, place.writeManualUpload upload s₀ = (s, .ok (id, path)) → content ≠ [] := by
  obtain ⟨⟨content, hcontent⟩, hnames⟩ : (∃ content, s.files.lookup path = some content) ∧ s.Names id path := by
    cases h with
    | imported h =>
      obtain ⟨hfiles, ⟨content, hcontent⟩, hnames⟩ := importManualFile_ok h
      exact ⟨⟨content, hfiles ▸ hcontent⟩, hnames⟩
    | uploaded h =>
      obtain ⟨⟨content, -, hcontent⟩, hnames⟩ := writeManualUpload_ok h
      exact ⟨⟨content, hcontent⟩, hnames⟩
  refine ⟨content, hcontent, hnames, ?_, ?_⟩
  · intro guessType rangeHeader
    constructor
    · intro hhonest
      by_contra hnot
      obtain ⟨hempty, hprefix⟩ := not_or.1 hnot
      obtain rfl := not_not.1 hempty
      obtain ⟨specification, rfl⟩ := exists_specification (not_not.1 hprefix)
      exact not_honest_empty guessType _ path specification hhonest
    · rintro (hfull | hplain)
      · exact honest_of_content guessType (by decide) path hfull rangeHeader
      · exact honest_whole guessType _ path content hplain
  · intro upload s₀ huploaded hempty
    obtain ⟨⟨content', hne, hcontent'⟩, -⟩ := writeManualUpload_ok huploaded
    rw [hcontent, hempty] at hcontent'
    exact hne (Option.some.inj hcontent').symm

end

def songImport : FileImport where
  path := Path.parse "/downloads/Anna/a.mp3"
  sourceName := none
  hashed := .ok ()
  now := 0
  saving := .done

/-- A store with one file of the downloads directory. -/
def songStore (content : List UInt8) : UploadStore :=
  { UploadStore.empty with files := AList.insert (Path.parse "/downloads/Anna/a.mp3") content ∅ }

theorem songImport_ok (h : content ∈ [[], [104]]) : ∃ t id,
    annaPlace.importManualFile songImport (songStore content) = (t, .ok (id, songImport.path)) := by
  have hpath : ∀ content ∈ [[], [104]],
      (annaPlace.importManualFile songImport (songStore content)).2.toOption.map Prod.snd =
        some songImport.path := by
    decide +kernel
  obtain ⟨⟨id, path⟩, hok, rfl⟩ := Option.map_eq_some_iff.1 (hpath content h)
  generalize annaPlace.importManualFile songImport (songStore content) = result at hok ⊢
  obtain ⟨t, r⟩ := result
  cases r with
  | error e => cases hok
  | ok answer =>
    obtain rfl := Option.some.inj hok
    exact ⟨t, id, rfl⟩

theorem song_streams : ∃ t id content, annaPlace.Admits t id songImport.path ∧
    t.files.lookup songImport.path = some content ∧
      ∀ rangeHeader, (mediaResponse (fun _ => none) mediaRangeChunkSize songImport.path content
        rangeHeader).Honest := by
  obtain ⟨t, id, h⟩ := @songImport_ok [104] (by decide)
  obtain ⟨content, hcontent, -, hiff, -⟩ := admitted_streams_iff (.imported h)
  refine ⟨t, id, content, .imported h, hcontent, fun rangeHeader => (hiff _ rangeHeader).2 (.inl ?_)⟩
  have hstored : (songStore [104]).files.lookup songImport.path = some [104] := AList.lookup_insert ∅
  rw [(importManualFile_ok h).1, hstored] at hcontent
  obtain rfl := Option.some.inj hcontent
  exact List.cons_ne_nil _ _

/-- An empty file is imported, and every range of it that is asked for is answered with nonsense. -/
theorem empty_import_breaks_ranges : ¬ ∀ (place : UploadPlace) (s : UploadStore) (id : Nat) (path : Path)
    (content : List UInt8), place.Admits s id path → s.files.lookup path = some content →
      ∀ (guessType : String → Option String) (rangeHeader : String),
        (mediaResponse guessType mediaRangeChunkSize path content rangeHeader).Honest := by
  intro hall
  obtain ⟨t, id, h⟩ := @songImport_ok [] (by decide)
  have hstored : (songStore []).files.lookup songImport.path = some [] := AList.lookup_insert ∅
  have hcontent : t.files.lookup songImport.path = some [] := by
    rw [(importManualFile_ok h).1, hstored]
  exact not_honest_empty _ _ _ "0-" (hall annaPlace t id _ [] (.imported h) hcontent (fun _ => none) _)

end GetOffline
