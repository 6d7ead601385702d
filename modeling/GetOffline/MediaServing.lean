import GetOffline.Settings
import GetOffline.ConversionRuns
import GetOffline.EpisodeRows

set_option autoImplicit true

namespace GetOffline
open Python Effects Program

-- api/streaming/media.py

/-- `safe_path`. -/
def Library.safePath (host : Host) (rawPath : String) (s : Library) : Except Error Path :=
  if rawPath = "" then .error (.other "File unavailable")
  else
    let path := host.resolve rawPath
    if Node.isFile (s.files.node host path) then .ok path else .error (.other "File unavailable")

/-- The first of the candidates that `safe_path` takes. -/
def Library.firstSafePath (host : Host) (s : Library) : List String → Except Error Path
  | [] => .error (.other "File unavailable")
  | candidate :: candidates =>
    match s.safePath host candidate with
    | .ok path => .ok path
    | .error _ => s.firstSafePath host candidates

/-- The path under the root of the row's profile that a column tells, when it tells one. -/
def Library.underProfileRoot (host : Host) (item : Download) (column : String) (s : Library) :
    List Path :=
  if (item.get column).truthy then
    [(s.profileOutputRoot host (host.str (item.get "profile_id"))).truediv (host.str (item.get column))]
  else []

/-- The text of a column, when there is one. -/
def columnText (host : Host) (item : Download) (column : String) : List String :=
  if (item.get column).truthy then [host.str (item.get column)] else []

/-- `resolve_media_path`. -/
def Library.resolveMediaPath (host : Host) (item : Download) (s : Library) : Except Error Path :=
  s.firstSafePath host <| (s.underProfileRoot host item "file_path_relative").map Path.str ++
    columnText host item "file_path"

/-- What `resolve_subtitle_path` asks of a candidate. -/
def Library.isServedSubtitle (host : Host) (root : Path) (s : Library) (path : Path) : Bool :=
  root.parts <+: path.parts && Node.isFile (s.files.node host path) &&
    lower path.suffix ∈ [".srt", ".vtt"]

/-- `resolve_subtitle_path`. -/
def Library.resolveSubtitlePath (host : Host) (item : Download) (s : Library) :
    Except Error (Option Path) := do
  let mediaPath ← s.resolveMediaPath host item
  let srt ← mediaPath.withSuffix ".srt"
  let vtt ← mediaPath.withSuffix ".vtt"
  let candidates := (columnText host item "subtitle_path").map host.absolute ++
    s.underProfileRoot host item "subtitle_path_relative" ++ [srt, vtt]
  let root := s.profileOutputRoot host (host.str (item.get "profile_id"))
  return (candidates.map host.real).find? (s.isServedSubtitle host root)

/-- A finished row as workers that use the root leave it, with its media file and its subtitle file. -/
structure Library.LeftByWorkers (host : Host) (profileId : String) (root media subtitle : Path)
    (item : Download) (s : Library) : Prop where
  profile : item.get "profile_id" = .string profileId
  filePath : item.get "file_path" = .string media.str
  filePathRelative : item.get "file_path_relative" = relativeJson media root
  subtitlePath : item.get "subtitle_path" = .string subtitle.str
  mediaFile : Node.isFile (s.files.node host media) = true
  subtitleFile : Node.isFile (s.files.node host subtitle) = true
  /-- The root of the file system is not a file. -/
  named : (host.real media).name ≠ ""

/-- The API gives out the row's own files. -/
def Library.ServesOwn (host : Host) (media subtitle : Path) (item : Download) (s : Library) : Prop :=
  s.resolveMediaPath host item = .ok (host.real media) ∧
    s.resolveSubtitlePath host item = .ok (some (host.real subtitle))

/-- No other file stands under the API's root where the row's relative path leads, and the subtitle lies
under that root and has one of the two suffixes. -/
structure Library.Unshadowed (host : Host) (profileId : String) (root media subtitle : Path)
    (s : Library) : Prop where
  own : ∀ text, media.relativeTo root = some text →
    Node.isFile (s.files.node host ((s.profileOutputRoot host profileId).truediv text)) = true →
      host.real ((s.profileOutputRoot host profileId).truediv text) = host.real media
  under : (s.profileOutputRoot host profileId).parts <+: (host.real subtitle).parts
  suffix : lower (host.real subtitle).suffix ∈ [".srt", ".vtt"]

section
variable {host : Host} {profileId : String} {root media subtitle path : Path} {item : Download}
  {s : Library}

/-- A path's own text is taken exactly when a file stands under the path. -/
theorem safePath_str (host : Host) (path : Path) (s : Library) : s.safePath host path.str =
    if Node.isFile (s.files.node host path) then .ok (host.real path)
    else .error (.other "File unavailable") := by
  rw [Library.safePath, if_neg (path.str_ne_empty)]
  dsimp only
  rw [host.resolve_str, Files.node_real]

/-- What a row converted or downloaded under the root has in its columns, once it is transcribed. -/
theorem leftByWorkers_of_columns {row : Columns} {size : Nat} {completedAt lastSeenAt : Instant}
    (hprofile : Json.get "profile_id" row = some (.string profileId))
    (hmedia : Node.isFile (s.files.node host media) = true)
    (hsubtitle : Node.isFile (s.files.node host subtitle) = true)
    (hname : (host.real media).name ≠ "") (id : Nat) :
    s.LeftByWorkers host profileId root media subtitle ⟨id, Json.update (subtitleColumns subtitle root)
      (Json.update (convertedColumns media root size completedAt lastSeenAt) row)⟩ := by
  have hget (column : String) : Download.get column ⟨id, Json.update (subtitleColumns subtitle root)
      (Json.update (convertedColumns media root size completedAt lastSeenAt) row)⟩ =
        (((Json.get column (subtitleColumns subtitle root)).or
          ((Json.get column (convertedColumns media root size completedAt lastSeenAt)).or
            (Json.get column row)))).getD .null := by
    have hnames : (List.map Prod.fst (subtitleColumns subtitle root)).Nodup ∧
        (List.map Prod.fst (convertedColumns media root size completedAt lastSeenAt)).Nodup := by
      dsimp only [subtitleColumns, convertedColumns, List.map]
      decide
    rw [Download.get, Json.get_update_of_nodup hnames.1, Json.get_update_of_nodup hnames.2]
  constructor
  · rw [hget, hprofile]
    rfl
  · exact hget _
  · exact hget _
  · exact hget _
  · exact hmedia
  · exact hsubtitle
  · exact hname

theorem columnText_str (hcolumn : item.get column = .string path.str) :
    columnText host item column = [path.str] := by
  have htruthy : (Json.string path.str).truthy = true := bne_iff_ne.2 (path.str_ne_empty)
  rw [columnText, hcolumn, if_pos htruthy]
  rfl

/-- The path that is tried before the row's own one. -/
theorem underProfileRoot_relative (hprofile : item.get "profile_id" = .string profileId)
    (hcolumn : item.get column = relativeJson path root) : s.underProfileRoot host item column =
      ((path.relativeTo root).map (s.profileOutputRoot host profileId).truediv).toList := by
  rw [Library.underProfileRoot, hprofile, hcolumn, relativeJson]
  cases hrelative : path.relativeTo root with
  | none => rfl
  | some text =>
    have htruthy : (Json.string text).truthy = true := bne_iff_ne.2 (Path.relativeTo_ne_empty hrelative)
    rw [Option.elim_some, if_pos htruthy]
    rfl

namespace Library.LeftByWorkers
variable (h : s.LeftByWorkers host profileId root media subtitle item)
include h

theorem resolveMediaPath_eq : s.resolveMediaPath host item =
    s.firstSafePath host (((media.relativeTo root).map
      (s.profileOutputRoot host profileId).truediv).toList.map Path.str ++ [media.str]) := by
  rw [resolveMediaPath, underProfileRoot_relative h.profile h.filePathRelative, columnText_str h.filePath]

/-- The row's own media file is given out unless another one is found before it. -/
theorem media_iff : s.resolveMediaPath host item = .ok (host.real media) ↔
    ∀ text, media.relativeTo root = some text →
      Node.isFile (s.files.node host ((s.profileOutputRoot host profileId).truediv text)) = true →
        host.real ((s.profileOutputRoot host profileId).truediv text) = host.real media := by
  have hown : s.firstSafePath host [media.str] = .ok (host.real media) := by
    rw [firstSafePath, safePath_str, if_pos h.mediaFile]
  rw [h.resolveMediaPath_eq]
  cases media.relativeTo root with
  | none =>
    constructor
    · intro _ text htext
      cases htext
    · intro _
      exact hown
  | some text =>
    rw [Option.map_some, Option.toList_some, List.map_singleton, List.singleton_append, firstSafePath,
      safePath_str]
    constructor
    · rintro hfirst text' htext hfile
      obtain rfl := Option.some.inj htext
      rw [if_pos hfile] at hfirst
      exact Except.ok.inj hfirst
    · intro hshadow
      split
      · next found hfound =>
        split at hfound
        · next hfile =>
          rw [← Except.ok.inj hfound, hshadow text rfl hfile]
        · cases hfound
      · exact hown

theorem isServedSubtitle_iff : s.isServedSubtitle host (s.profileOutputRoot host profileId)
      (host.real subtitle) = true ↔
    (s.profileOutputRoot host profileId).parts <+: (host.real subtitle).parts ∧
      lower (host.real subtitle).suffix ∈ [".srt", ".vtt"] := by
  rw [isServedSubtitle, Files.node_real, h.subtitleFile, Bool.and_true, Bool.and_eq_true,
    decide_eq_true_eq, decide_eq_true_eq]

/-- Where the media is found, the row's own subtitle is given out when it passes what is asked of it. -/
theorem subtitle_iff (hmedia : s.resolveMediaPath host item = .ok (host.real media)) :
    s.resolveSubtitlePath host item = .ok (some (host.real subtitle)) ↔
      s.isServedSubtitle host (s.profileOutputRoot host profileId) (host.real subtitle) = true := by
  obtain ⟨srt, hsrt⟩ : ∃ srt, (host.real media).withSuffix ".srt" = .ok srt :=
    Path.withSuffix_ok h.named (by decide) (by decide)
  obtain ⟨vtt, hvtt⟩ : ∃ vtt, (host.real media).withSuffix ".vtt" = .ok vtt :=
    Path.withSuffix_ok h.named (by decide) (by decide)
  have hprofile : host.str (item.get "profile_id") = profileId := by
    rw [h.profile]
    rfl
  have hresolve : s.resolveSubtitlePath host item =
      .ok ((((columnText host item "subtitle_path").map host.absolute ++
        s.underProfileRoot host item "subtitle_path_relative" ++ [srt, vtt]).map host.real).find?
          (s.isServedSubtitle host (s.profileOutputRoot host profileId))) := by
    rw [resolveSubtitlePath, hmedia, hprofile]
    dsimp only [Bind.bind, Except.bind]
    rw [hsrt, hvtt]
    rfl
  rw [hresolve, columnText_str h.subtitlePath, List.map_singleton, host.absolute_str,
    List.append_assoc, List.singleton_append, List.map_cons]
  constructor
  · intro hfound
    have hfirst := Except.ok.inj hfound
    exact List.find?_some hfirst
  · intro hserved
    rw [List.find?_cons_of_pos hserved]

end Library.LeftByWorkers

/-- A root that the API uses as the workers do leads the relative path back to the media. -/
theorem own_of_shared_root (hroot : s.profileOutputRoot host profileId = root)
    (htext : media.relativeTo root = some text) :
    host.real ((s.profileOutputRoot host profileId).truediv text) = host.real media := by
  rw [hroot, Path.truediv_relativeTo htext]

end

/-- The API gives out what the workers left exactly where no other file stands before it and the subtitle
passes. -/
theorem serves_own_iff {host : Host} {profileId : String} {root media subtitle : Path} {item : Download}
    {s : Library} (h : s.LeftByWorkers host profileId root media subtitle item) :
    s.ServesOwn host media subtitle item ↔ s.Unshadowed host profileId root media subtitle := by
  constructor
  · rintro ⟨hmedia, hsubtitle⟩
    obtain ⟨hunder, hsuffix⟩ := h.isServedSubtitle_iff.1 ((h.subtitle_iff hmedia).1 hsubtitle)
    exact ⟨h.media_iff.1 hmedia, hunder, hsuffix⟩
  · rintro ⟨hown, hunder, hsuffix⟩
    have hmedia := h.media_iff.2 hown
    exact ⟨hmedia, (h.subtitle_iff hmedia).2 (h.isServedSubtitle_iff.2 ⟨hunder, hsuffix⟩)⟩

/-- An episode of the profile "p" as the workers leave it under a root. -/
def finishedEpisode (root : Path) : Download :=
  ⟨1, Json.update (subtitleColumns (root.join "N/a.srt") root)
    (Json.update (convertedColumns (root.join "N/a.mp3") root 9 0 0) [("profile_id", .string "p")])⟩

/-- The files of that episode, and one under the root of another profile. -/
def servedLibrary (root : Path) : Library :=
  { Library.empty with
    files := (((∅ : Files).put .plain (Path.parse "/srv/downloads/default/N/a.mp3") (some (.file 5))).put
      .plain (root.join "N/a.mp3") (some (.file 9))).put .plain (root.join "N/a.srt") (some (.file 1)) }

theorem configured_root_serves_own : Library.ServesOwn .plain (Path.parse "/media/N/a.mp3")
    (Path.parse "/media/N/a.srt") (finishedEpisode (Path.parse "/media"))
    { servedLibrary (Path.parse "/media") with
      settings := AList.insert ("p", "output_root") "/media" ∅ } := by
  have hroot : Library.profileOutputRoot .plain "p" { servedLibrary (Path.parse "/media") with
      settings := AList.insert ("p", "output_root") "/media" ∅ } = Path.parse "/media" := by
    decide +kernel
  apply (serves_own_iff (leftByWorkers_of_columns rfl (by decide +kernel) (by decide +kernel)
    (by decide +kernel) 1)).2
  constructor
  · intro text htext _
    exact own_of_shared_root hroot htext
  · decide +kernel
  · decide +kernel

/-- Without a row for the root, the file of another profile is given out, and no subtitle. -/
theorem other_profile_served : ∃ (s : Library) (media subtitle : Path) (item : Download),
    s.LeftByWorkers .plain "p" (s.workerOutputRoot .plain "p") media subtitle item ∧
    (s.workerOutputRoot .plain "p").parts <+: media.parts ∧
    (s.workerOutputRoot .plain "p").parts <+: subtitle.parts ∧
    s.resolveMediaPath .plain item = .ok (Path.parse "/srv/downloads/default/N/a.mp3") ∧
    s.resolveSubtitlePath .plain item = .ok none ∧ ¬s.ServesOwn .plain media subtitle item := by
  have hroot : Library.workerOutputRoot .plain "p" (servedLibrary (Path.parse "/srv/downloads/p")) =
      Path.parse "/srv/downloads/p" := by
    decide +kernel
  refine ⟨servedLibrary (Path.parse "/srv/downloads/p"), Path.parse "/srv/downloads/p/N/a.mp3",
    Path.parse "/srv/downloads/p/N/a.srt", finishedEpisode (Path.parse "/srv/downloads/p"), ?_⟩
  rw [hroot]
  have hmedia : Library.resolveMediaPath .plain (finishedEpisode (Path.parse "/srv/downloads/p"))
      (servedLibrary (Path.parse "/srv/downloads/p")) =
        .ok (Path.parse "/srv/downloads/default/N/a.mp3") := by
    decide +kernel
  refine ⟨leftByWorkers_of_columns rfl (by decide +kernel) (by decide +kernel) (by decide +kernel) 1,
    by decide +kernel, by decide +kernel, hmedia, by decide +kernel, ?_⟩
  rintro ⟨hown, -⟩
  rw [hmedia] at hown
  exact absurd (Except.ok.inj hown) (by decide +kernel)

end GetOffline
