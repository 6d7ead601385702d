import GetOffline.Execution
import GetOffline.FileLinks
import GetOffline.MediaDisk

set_option autoImplicit true

namespace GetOffline
open Python Execution

-- workers/media_fetch.py

/-- The files of a worker's machine, with their bytes. -/
abbrev FileContents := FileTree Path (List UInt8)

/-- What a fetch raises, by the class that its `except` clause sees. -/
inductive FetchError
  | httpError
  | urlError
  | osError
  | other (name : String)
deriving DecidableEq

/-- `except (HTTPError, URLError, OSError)`. -/
def FetchError.isCaught : FetchError → Bool
  | .other _ => false
  | _ => true

/-- A download row as the fetches read it, and the bytes of its file. -/
structure FetchedRow where
  filePath : Option String
  fileSizeBytes : Option Int
  content : List UInt8

/-- What stays the same over the fetches of a download: the entry that `Path(text).expanduser()` names, the
root of the cache and the keys of the row. -/
structure FetchScene where
  entry : String → Path
  cacheRoot : Path
  profileId : String
  id : Nat

/-- How a call goes: the path that it is given, the token in the environment, the exception of the
directory's or of the temporary's creation, the random part of the temporary's name, what is read of the
response, the exception that ends the reading, and whether the temporary cannot be renamed. -/
structure FetchCall where
  path : Option String
  token : String
  unprepared : Option FetchError
  random : String
  body : List UInt8
  raised : Option FetchError
  renameFails : Bool

namespace FetchedRow

def cacheName (row : FetchedRow) : String :=
  let name := (pathParts ((row.filePath.filter fun text => text ≠ "").getD "media")).getLast?.getD ""
  if name = "" then "media" else name

/-- `int(download.file_size_bytes or 0)`. -/
def expectedSize (row : FetchedRow) : Int :=
  row.fileSizeBytes.getD 0

/-- The bytes are those of the row's file, of the size that the row records. -/
structure IsCurrent (row : FetchedRow) (bytes : List UInt8) : Prop where
  same : bytes = row.content
  size : ∀ size, row.fileSizeBytes = some size → (bytes.length : Int) = size

end FetchedRow

namespace FetchScene

/-- The directory of `_cache_path`. -/
def cacheDirectory (scene : FetchScene) : Path :=
  (scene.cacheRoot.truediv scene.profileId).truediv (toString scene.id)

def cachePath (scene : FetchScene) (row : FetchedRow) : Path :=
  scene.cacheDirectory.truediv row.cacheName

/-- The name that `mkstemp` makes. -/
def temporaryPath (scene : FetchScene) (row : FetchedRow) (random : String) : Path :=
  scene.cacheDirectory.truediv ("." ++ row.cacheName ++ "." ++ random ++ ".part")

/-- `_download_from_api`. `mkstemp` takes a name that is free. -/
def downloadFromApi (scene : FetchScene) (row : FetchedRow) (call : FetchCall) (files : FileContents) :
    Option (Except FetchError Path × FileContents) :=
  if strip call.token = "" then some (.error .osError, files)
  else
    match call.unprepared with
    | some error => some (.error error, files)
    | none =>
      let temporary := scene.temporaryPath row call.random
      if (files.lookup temporary).isSome then none
      else
        let written := AList.insert temporary (.file call.body) files
        let mismatch := row.expectedSize ≠ 0 ∧ (call.body.length : Int) ≠ row.expectedSize
        let failure := call.raised.or (if mismatch ∨ call.renameFails then some .osError else none)
        match failure with
        | some error =>
          some (.error error, if error.isCaught then AList.erase temporary written else written)
        | none =>
          let destination := scene.cachePath row
          some (.ok destination, AList.insert destination (.file call.body) (AList.erase temporary written))

/-- `path or Path(file_path or "")`, expanded. -/
def candidate (scene : FetchScene) (row : FetchedRow) (call : FetchCall) : Path :=
  scene.entry (call.path.getD (row.filePath.getD ""))

def ensureLocalMedia (scene : FetchScene) (row : FetchedRow) (call : FetchCall) (files : FileContents) :
    Option (Except FetchError Path × FileContents) :=
  let candidate := scene.candidate row call
  if (files.follow linkLimit candidate).isSome then
    match files.target (files.keys.length + 1) candidate with
    | some last => some (.ok last, files)
    | none => some (.error (.other "RuntimeError"), files)
  else
    let cached := scene.cachePath row
    if (files.follow linkLimit cached).isSome then some (.ok cached, files)
    else scene.downloadFromApi row call files

end FetchScene

/-- The row with its file, and the files of the worker. -/
structure FetchState where
  row : FetchedRow
  files : FileContents

/-- What happens to a download: the row and its file are replaced, another file of the worker's machine
comes, goes or changes, or a worker asks for the media. -/
inductive FetchEvent
  | replace (row : FetchedRow)
  | elsewhere (name : Path) (entry : Option (Entry Path (List UInt8)))
  | ensure (call : FetchCall)

namespace FetchScene

def step (scene : FetchScene) (s : FetchState) : FetchEvent → Option FetchState
  | .replace row => some { s with row }
  | .elsewhere name entry =>
    if name.parent = scene.cacheDirectory then none
    else
      match entry with
      | none => some { s with files := AList.erase name s.files }
      | some entry => some { s with files := AList.insert name entry s.files }
  | .ensure call => (scene.ensureLocalMedia s.row call s.files).map fun r => { s with files := r.2 }

/-- A call returns a path of the current file, or raises and leaves the files as they were. -/
def Fetches (row : FetchedRow) (files : FileContents) (result : Except FetchError Path × FileContents) : Prop :=
  match result with
  | (.ok path, files') => ∃ bytes, files'.follow linkLimit path = some bytes ∧ row.IsCurrent bytes
  | (.error _, files') => ∀ name, files'.lookup name = files.lookup name

/-- The response is complete or it is known to be short, and only the listed exceptions are raised. -/
structure FineResponse (row : FetchedRow) (call : FetchCall) : Prop where
  caught : ∀ error, call.raised = some error → error.isCaught = true
  complete : call.raised = none → call.renameFails = false →
    (row.expectedSize = 0 ∨ (call.body.length : Int) = row.expectedSize) → row.IsCurrent call.body

/-- The file that the call finds on the machine is the current one; and if neither that nor the cache has
the file, the response is fine. -/
structure FineCall (scene : FetchScene) (s : FetchState) (call : FetchCall) : Prop where
  mounted : ∀ bytes, s.files.follow linkLimit (scene.candidate s.row call) = some bytes → s.row.IsCurrent bytes
  fetched : s.files.follow linkLimit (scene.candidate s.row call) = none →
    s.files.lookup (scene.cachePath s.row) = none → strip call.token ≠ "" → call.unprepared = none →
      FineResponse s.row call

/-- What is in the cache under the name of a replaced file is that file. -/
def Fine (scene : FetchScene) (s : FetchState) : FetchEvent → Prop
  | .replace row => ∀ bytes, s.files.lookup (scene.cachePath row) = some (.file bytes) → row.IsCurrent bytes
  | .elsewhere _ _ => True
  | .ensure call => scene.FineCall s call

/-- The cache has files only, and under the row's name the current one. -/
structure CacheCurrent (scene : FetchScene) (s : FetchState) : Prop where
  plain : ∀ name entry, name.parent = scene.cacheDirectory → s.files.lookup name = some entry →
    ∃ bytes, entry = .file bytes
  current : ∀ bytes, s.files.lookup (scene.cachePath s.row) = some (.file bytes) → s.row.IsCurrent bytes

section
variable {scene : FetchScene} {row : FetchedRow} {call : FetchCall} {files files' : FileContents} {s t : FetchState}
  {result : Except FetchError Path × FileContents}

/-- A temporary that goes again leaves the files as they were. -/
theorem lookup_erase_insert {temporary : Path} (h : files.lookup temporary = none)
    (entry : Entry Path (List UInt8)) (name : Path) :
    (AList.erase temporary (AList.insert temporary entry files)).lookup name = files.lookup name := by
  by_cases hname : name = temporary
  · subst hname
    rw [AList.lookup_erase, h]
  · rw [AList.lookup_erase_ne hname, AList.lookup_insert_ne hname]

theorem follow_of_file {name : Path} {bytes : List UInt8} (h : files.lookup name = some (.file bytes)) :
    files.follow linkLimit name = some bytes := by
  simp only [linkLimit, FileTree.follow, h]

theorem follow_insert (name : Path) (bytes : List UInt8) (files : FileContents) :
    FileTree.follow linkLimit name (AList.insert name (.file bytes) files) = some bytes :=
  follow_of_file (AList.lookup_insert files)

theorem fetches_ok {path : Path} : Fetches row files (.ok path, files') ↔
    ∃ bytes, files'.follow linkLimit path = some bytes ∧ row.IsCurrent bytes := Iff.rfl

theorem fetches_error {error : FetchError} : Fetches row files (.error error, files') ↔
    ∀ name, files'.lookup name = files.lookup name := Iff.rfl

/-- A download without a fine response returns something else than the file, or leaves the temporary. -/
theorem downloadFromApi_iff (h : scene.downloadFromApi row call files = some result) :
    Fetches row files result ↔
      (strip call.token ≠ "" → call.unprepared = none → FineResponse row call) := by
  rw [downloadFromApi] at h
  split at h
  · next htoken =>
    obtain rfl := Option.some.inj h
    exact iff_of_true (fun name => rfl) fun hne => absurd htoken hne
  · next htoken =>
    cases hprepared : call.unprepared with
    | some error =>
      rw [hprepared] at h
      obtain rfl := Option.some.inj h
      exact iff_of_true (fun name => rfl) fun _ hnone => nomatch hnone
    | none =>
      rw [imp_iff_right htoken, imp_iff_right rfl]
      rw [hprepared] at h
      dsimp only at h
      split at h
      · cases h
      · next hfree =>
        have hfree := Option.not_isSome_iff_eq_none.1 hfree
        have hsame := lookup_erase_insert hfree (.file call.body)
        cases hraised : call.raised with
        | some error =>
          rw [hraised] at h
          obtain rfl := Option.some.inj h
          cases hcaught : error.isCaught with
          | true =>
            refine iff_of_true hsame ⟨?_, ?_⟩
            · intro error' h
              rw [hraised] at h
              rwa [← Option.some.inj h]
            · intro hnone
              rw [hraised] at hnone
              cases hnone
          | false =>
            refine iff_of_false ?_ ?_
            · intro hfetches
              have htemporary := hfetches (scene.temporaryPath row call.random)
              rw [if_neg Bool.false_ne_true, AList.lookup_insert, hfree] at htemporary
              cases htemporary
            · intro hfine
              have := hfine.caught error hraised
              rw [hcaught] at this
              cases this
        | none =>
          rw [hraised, Option.none_or] at h
          split at h
          · next error herror =>
            obtain ⟨hfails, herror⟩ := Option.ite_none_right_eq_some.1 herror
            obtain rfl := Option.some.inj herror
            obtain rfl := Option.some.inj h
            refine iff_of_true hsame ⟨fun error' h => ?_, fun _ hrename hsize => ?_⟩
            · rw [hraised] at h
              cases h
            · rcases hfails with ⟨hzero, hlength⟩ | hfails
              · exact absurd hsize (not_or.2 ⟨hzero, hlength⟩)
              · rw [hrename] at hfails
                cases hfails
          · next hnone =>
            obtain rfl := Option.some.inj h
            rw [ite_eq_right_iff] at hnone
            constructor
            · rintro ⟨bytes, hbytes, hcurrent⟩
              rw [follow_insert] at hbytes
              obtain rfl := Option.some.inj hbytes
              refine ⟨fun error' h => ?_, fun _ _ _ => hcurrent⟩
              rw [hraised] at h
              cases h
            · intro hfine
              refine ⟨call.body, follow_insert _ _ _, hfine.complete hraised ?_ ?_⟩
              · apply Bool.eq_false_iff.2
                intro hrename
                cases hnone (.inr hrename)
              · by_contra hsize
                cases hnone (.inl (not_or.1 hsize))

theorem cachePath_parent (scene : FetchScene) (row : FetchedRow) :
    (scene.cachePath row).parent = scene.cacheDirectory := by
  have hpart : IsPart row.cacheName := by
    rw [FetchedRow.cacheName]
    split
    · decide
    · next hname =>
      cases hlast : (pathParts ((row.filePath.filter fun text => text ≠ "").getD "media")).getLast? with
      | none =>
        rw [hlast] at hname
        exact absurd rfl hname
      | some name => exact isPart_of_mem (List.mem_of_getLast? hlast)
  have hjoin : scene.cachePath row = scene.cacheDirectory.join row.cacheName := by
    rw [cachePath, Path.truediv]
    split
    · next rest hslash => exact absurd (hslash ▸ List.mem_cons_self) hpart.2.2
    · rfl
  rw [hjoin, parent_join hpart]

/-- What a download that returns has written. -/
theorem downloadFromApi_ok {path : Path} (h : scene.downloadFromApi row call files = some (.ok path, files')) :
    path = scene.cachePath row ∧ ∀ name, files'.lookup name =
      if name = scene.cachePath row then some (.file call.body) else files.lookup name := by
  rw [downloadFromApi] at h
  split at h
  · cases h
  · split at h
    · cases h
    · dsimp only at h
      split at h
      · cases h
      · next hfree =>
        split at h
        · cases h
        · cases h
          refine ⟨rfl, fun name => ?_⟩
          split
          · next hname =>
            subst hname
            exact AList.lookup_insert _
          · next hname =>
            rw [AList.lookup_insert_ne hname]
            exact lookup_erase_insert (Option.not_isSome_iff_eq_none.1 hfree) _ name

/-- What a call that returns has written: nothing, or the file in the cache. -/
theorem ensureLocalMedia_ok {path : Path}
    (h : scene.ensureLocalMedia row call files = some (.ok path, files')) :
    files' = files ∨ path = scene.cachePath row ∧ ∀ name, files'.lookup name =
      if name = scene.cachePath row then some (.file call.body) else files.lookup name := by
  rw [ensureLocalMedia] at h
  dsimp only at h
  split at h
  · split at h
    · cases h
      exact .inl rfl
    · cases h
  · split at h
    · cases h
      exact .inl rfl
    · exact .inr (downloadFromApi_ok h)

/-- A call does what it should exactly if it is fine. -/
theorem ensureLocalMedia_iff (hcache : scene.CacheCurrent s)
    (h : scene.ensureLocalMedia s.row call s.files = some result) :
    Fetches s.row s.files result ↔ scene.FineCall s call := by
  rw [ensureLocalMedia] at h
  dsimp only at h
  cases hfound : s.files.follow linkLimit (scene.candidate s.row call) with
  | some bytes =>
    obtain ⟨file, hleads, hfile⟩ := FileTree.LeadsTo.of_follow hfound
    rw [hfound, if_pos Option.isSome_some, FileTree.target_eq_some_iff.2 hleads] at h
    obtain rfl := Option.some.inj h
    rw [fetches_ok, follow_of_file hfile]
    constructor
    · rintro ⟨bytes', hbytes, hcurrent⟩
      obtain rfl := Option.some.inj hbytes
      refine ⟨fun bytes' h => ?_, fun hnone => ?_⟩
      · rw [hfound] at h
        rwa [← Option.some.inj h]
      · rw [hfound] at hnone
        cases hnone
    · exact fun hfine => ⟨bytes, rfl, hfine.mounted bytes hfound⟩
  | none =>
    have hmounted : ∀ bytes, s.files.follow linkLimit (scene.candidate s.row call) = some bytes →
        s.row.IsCurrent bytes := by
      rw [hfound]
      rintro bytes ⟨⟩
    rw [hfound, Option.isSome_none, if_neg Bool.false_ne_true] at h
    cases hcached : s.files.lookup (scene.cachePath s.row) with
    | some entry =>
      obtain ⟨bytes, rfl⟩ := hcache.plain _ entry (cachePath_parent scene s.row) hcached
      rw [follow_of_file hcached, if_pos Option.isSome_some] at h
      obtain rfl := Option.some.inj h
      refine iff_of_true ⟨bytes, follow_of_file hcached, hcache.current bytes hcached⟩ ⟨hmounted, ?_⟩
      intro _ hnone
      rw [hcached] at hnone
      cases hnone
    | none =>
      rw [FileTree.follow_of_lookup_none hcached, Option.isSome_none, if_neg Bool.false_ne_true] at h
      rw [downloadFromApi_iff h]
      exact ⟨fun hfine => ⟨hmounted, fun _ _ => hfine⟩, fun hfine => hfine.fetched hfound hcached⟩

theorem CacheCurrent.of_lookup (hcache : scene.CacheCurrent s)
    (h : ∀ name, files'.lookup name = s.files.lookup name) : scene.CacheCurrent { s with files := files' } where
  plain name entry hname hentry := hcache.plain name entry hname ((h name).symm.trans hentry)
  current bytes hbytes := hcache.current bytes ((h _).symm.trans hbytes)

/-- A call that does what it should keeps the cache current. -/
theorem CacheCurrent.ensure (hcache : scene.CacheCurrent s)
    (h : scene.ensureLocalMedia s.row call s.files = some result) (hfetches : Fetches s.row s.files result) :
    scene.CacheCurrent { s with files := result.2 } := by
  obtain ⟨answer, files'⟩ := result
  cases answer with
  | error error => exact hcache.of_lookup hfetches
  | ok path =>
    rcases ensureLocalMedia_ok h with rfl | ⟨rfl, hlookup⟩
    · exact hcache
    · obtain ⟨bytes, hbytes, hcurrent⟩ := hfetches
      have hfile := hlookup (scene.cachePath s.row)
      rw [if_pos rfl] at hfile
      rw [follow_of_file hfile] at hbytes
      obtain rfl := Option.some.inj hbytes
      constructor
      · intro name entry hname hentry
        dsimp only at hentry
        rw [hlookup] at hentry
        split at hentry
        · exact ⟨call.body, (Option.some.inj hentry).symm⟩
        · exact hcache.plain name entry hname hentry
      · intro bytes hbytes
        dsimp only at hbytes
        rw [hfile] at hbytes
        obtain rfl := Entry.file.inj (Option.some.inj hbytes)
        exact hcurrent

theorem CacheCurrent.step (hcache : scene.CacheCurrent s) (event : FetchEvent) (hfine : scene.Fine s event)
    (h : scene.step s event = some t) : scene.CacheCurrent t := by
  cases event with
  | replace row =>
    obtain rfl := Option.some.inj h
    exact ⟨hcache.plain, hfine⟩
  | elsewhere name entry =>
    dsimp only [FetchScene.step] at h
    split at h
    · cases h
    · next hname =>
      have hother (other : Path) (hparent : other.parent = scene.cacheDirectory) :
          t.files.lookup other = s.files.lookup other ∧ t.row = s.row := by
        have hne : other ≠ name := by
          rintro rfl
          exact hname hparent
        split at h
        · obtain rfl := Option.some.inj h
          exact ⟨AList.lookup_erase_ne hne, rfl⟩
        · obtain rfl := Option.some.inj h
          exact ⟨AList.lookup_insert_ne hne, rfl⟩
      have hrow := (hother _ (cachePath_parent scene t.row)).2
      constructor
      · intro other entry hparent hentry
        rw [(hother other hparent).1] at hentry
        exact hcache.plain other entry hparent hentry
      · intro bytes hbytes
        rw [(hother _ (cachePath_parent scene t.row)).1, hrow] at hbytes
        rw [hrow]
        exact hcache.current bytes hbytes
  | ensure call =>
    obtain ⟨result, hresult, rfl⟩ := Option.map_eq_some_iff.1 h
    exact hcache.ensure hresult ((ensureLocalMedia_iff hcache hresult).2 hfine)

theorem cacheCurrent_of_empty (h : ∀ name, name.parent = scene.cacheDirectory → s.files.lookup name = none) :
    scene.CacheCurrent s := by
  constructor
  · intro name entry hname hentry
    rw [h name hname] at hentry
    cases hentry
  · intro bytes hbytes
    rw [h _ (cachePath_parent scene s.row)] at hbytes
    cases hbytes

/-- In a run that starts with an empty cache and whose steps are all fine, the next call returns the row's
current file, or raises and leaves the files as they were, exactly if it is fine too. -/
theorem fetches_current_iff {events : List FetchEvent}
    (hempty : ∀ name, name.parent = scene.cacheDirectory → s.files.lookup name = none)
    (hfine : Along scene.step scene.Fine s events) (hrun : exec scene.step s events = some t)
    (hcall : scene.ensureLocalMedia t.row call t.files = some result) :
    Fetches t.row t.files result ↔ scene.FineCall t call := by
  have hcache : scene.CacheCurrent t :=
    exec_invariant (fun s e t hs he h => hs.step e he h) (cacheCurrent_of_empty hempty) hfine hrun
  exact ensureLocalMedia_iff hcache hcall

end

end FetchScene

def aliceScene : FetchScene where
  entry := Path.parse
  cacheRoot := Path.parse "/cache"
  profileId := "alice"
  id := 7

/-- A row that records its size. -/
def fetchedEpisode (content : List UInt8) : FetchedRow where
  filePath := some "/media/episode.mp3"
  fileSizeBytes := some content.length
  content

/-- A request that is answered in full. -/
def completeCall (body : List UInt8) : FetchCall where
  path := none
  token := "secret"
  unprepared := none
  random := "x1"
  body
  raised := none
  renameFails := false

/-- The files after the first fetch. -/
def cachedFiles (content : List UInt8) : FileContents :=
  AList.insert (aliceScene.cachePath (fetchedEpisode content)) (.file content) ∅

theorem fetch_episode : FetchScene.Fetches (fetchedEpisode [1]) ∅
      (.ok (aliceScene.cachePath (fetchedEpisode [1])), cachedFiles [1]) ↔
    aliceScene.FineCall ⟨fetchedEpisode [1], ∅⟩ (completeCall [1]) := by
  refine FetchScene.fetches_current_iff (s := ⟨fetchedEpisode [2], ∅⟩) (t := ⟨fetchedEpisode [1], ∅⟩)
    (fun name _ => AList.lookup_empty name) (?_ : Along _ _ _ [.replace (fetchedEpisode [1])]) rfl rfl
  refine ⟨fun bytes h => ?_, trivial⟩
  rw [AList.lookup_empty] at h
  cases h

/-- A file that has been replaced under its name is never fetched again. -/
theorem replaced_episode_is_stale : ¬ ∀ (scene : FetchScene) (s t : FetchState) (events : List FetchEvent)
    (call : FetchCall) (result : Except FetchError Path × FileContents),
    (∀ name, name.parent = scene.cacheDirectory → s.files.lookup name = none) →
    exec scene.step s events = some t → scene.ensureLocalMedia t.row call t.files = some result →
      FetchScene.Fetches t.row t.files result := by
  intro h
  obtain ⟨bytes, hbytes, hcurrent⟩ := h aliceScene ⟨fetchedEpisode [1], ∅⟩ ⟨fetchedEpisode [2], cachedFiles [1]⟩
    [.ensure (completeCall [1]), .replace (fetchedEpisode [2])] (completeCall [2])
    (.ok (aliceScene.cachePath (fetchedEpisode [2])), cachedFiles [1]) (fun name _ => AList.lookup_empty name) rfl rfl
  obtain rfl : [1] = bytes := Option.some.inj hbytes
  cases hcurrent.same

end GetOffline
