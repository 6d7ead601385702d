import GetOffline.DownloadRows
import GetOffline.Effects
import GetOffline.JobSystem
import GetOffline.PythonPath
import GetOffline.TableOrder
import Mathlib.Data.String.Basic

set_option autoImplicit true

namespace GetOffline
open Python Effects

/-- What a process takes from its environment and from its libraries. -/
structure Host where
  /-- `str()` of a float or of a container. -/
  render : Json → String
  /-- `float()`. -/
  toFloat : Json → Except Error Json
  sha1 : String → String
  sanitizeChannelName : String → String
  normalizeUploadStem : String → String
  cwd : Path
  /-- The home that `~` and a user's name stand for. -/
  home : String → Path
  /-- `path.resolve()`: the links are the same ones all the time. -/
  real : Path → Path
  real_real : ∀ path, real (real path) = real path
  cacheRoot : Path
  apiToken : String
  staleRunningJobSeconds : String

namespace Host

/-- `Path(text).expanduser().absolute()`. -/
def absolute (host : Host) (text : String) : Path :=
  match text.toList with
  | '/' :: _ => Path.parse text
  | '~' :: user =>
    (host.home (String.ofList (user.takeWhile fun c => c ≠ '/'))).join
      (String.ofList (user.dropWhile fun c => c ≠ '/'))
  | _ => host.cwd.join text

/-- `Path(text).expanduser().resolve()`. -/
def resolve (host : Host) (text : String) : Path :=
  host.real (host.absolute text)

/-- `Path(text)`, seen from the working directory. -/
def path (host : Host) (text : String) : Path :=
  match text.toList with
  | '/' :: _ => Path.parse text
  | _ => host.cwd.join text

def str (host : Host) (value : Json) : String :=
  Json.str host.render value

/-- `str(first or default)`. -/
def textOr (host : Host) (value : Option Json) (default : String) : String :=
  host.str (Json.orElse value (.string default))

theorem textOr_text (host : Host) (text : String) : host.textOr (some (.string text)) "" = text := by
  rw [textOr, Json.orElse]
  split
  · rfl
  · next hfalsy =>
    have hempty : text = "" := by
      by_contra hne
      exact hfalsy (bne_iff_ne.2 hne)
    rw [hempty]
    rfl

/-- A host without links. -/
def plain : Host where
  render _ := ""
  toFloat := .ok
  sha1 text := text
  sanitizeChannelName name := name
  normalizeUploadStem stem := stem
  cwd := Path.parse "/srv"
  home _ := Path.parse "/root"
  real path := path
  real_real _ := rfl
  cacheRoot := Path.parse "/cache"
  apiToken := ""
  staleRunningJobSeconds := ""

theorem absolute_str (host : Host) (path : Path) : host.absolute path.str = path := by
  have htext : path.str.toList = '/' :: ['/'].intercalate (path.parts.map String.toList) := by
    rw [Path.str, String.toList_ofList]
  rw [absolute, htext]
  exact path.parse_str

theorem resolve_str (host : Host) (path : Path) : host.resolve path.str = host.real path := by
  rw [resolve, absolute_str]

end Host

inductive Node
  | file (size : Nat)
  | directory
deriving DecidableEq

/-- What stands under the paths without links. -/
abbrev Files := Table Path Node

structure SourceConfig where
  profileId : String
  sourceType : String
  position : Int
  name : String
  url : String
  mediaType : Option String
  enabled : Bool
  subtitles : Bool
  subtitleOffsetSeconds : Option Float64
  maxDownloads : Option Int
  deleteExplicitContent : Bool
  includeShorts : Bool
  includeLivestreams : Bool
  titleExclude : Option String

/-- The rows and the files that the handlers work on. -/
structure Library where
  sources : Table Nat SourceConfig
  settings : Table (String × String) String
  appSettings : Table String String
  downloads : Downloads
  database : Database
  files : Files

structure YtDlpException where
  typeName : String
  message : String

structure ExplicitContentMatch where
  category : String
  term : String
  sentence : String

/-- Whose media a screening deletes: the row is known by its lookup or by its id. -/
inductive Episode
  | lookup (lookup : Columns)
  | row (id : Nat)

/-- What a handler calls: queries, writes, file operations, other programs and libraries. -/
inductive HandlerOp : Type → Type
  | now : HandlerOp Instant
  | profileSetting (profileId key : String) : HandlerOp (Option String)
  | appSetting (key : String) : HandlerOp (Option String)
  | sourceNamed (profileId sourceType sourceName : String) : HandlerOp (Option SourceConfig)
  | enabledProfiles : HandlerOp (List String)
  | enabledSources (profileId : String) : HandlerOp (List (Nat × SourceConfig))
  | candidates (source : Nat × SourceConfig) : HandlerOp (List Columns × Option String)
  | downloadById (pk : Json) (profileId : String) : HandlerOp (Option Download)
  | downloadExists (lookup : Columns) : HandlerOp Bool
  | selectDownloads (ids : List Nat) (profileId : String) : HandlerOp (List Download)
  | updateOrCreateDownload (lookup defaults : Columns) : HandlerOp Download
  | saveDownload (id : Nat) (fields : Columns) : HandlerOp Unit
  | createSegments (id : Nat) (subtitlePath : String) (texts : List String) : HandlerOp Unit
  | deleteSegments (id : Nat) : HandlerOp Unit
  | createJob (args : JobArgs) : HandlerOp Nat
  | publishJob (id : Nat) : HandlerOp Unit
  | activeDownloadJob (idempotencyKey : String) : HandlerOp (Option (Nat × Job))
  | saveTouch (id : Nat) (copy : Job) : HandlerOp Unit
  | saveRequeued (id : Nat) (updatedAt : Instant) : HandlerOp Unit
  | acquireLock (key owner : String) : HandlerOp Unit
  | releaseLock (key owner : String) : HandlerOp Unit
  | node (path : Path) : HandlerOp (Option Node)
  | mkdir (path : Path) : HandlerOp Unit
  | unlink (path : Path) : HandlerOp Unit
  | targetPath (source : Path) (targetExt : String) : HandlerOp Path
  | makeTemporary (destination : Path) : HandlerOp Path
  | receiveMedia (download : Download) (temporary : Path) : HandlerOp Nat
  | replace (source destination : Path) : HandlerOp Unit
  | storeUpload (root : Path) (stem suffix : String) : HandlerOp (Path × String × Nat)
  | runFfmpeg (command : List String) (inputs : List Path) (output : Path) : HandlerOp Unit
  | resolveSourceName (url : String) : HandlerOp (Option String)
  | downloadEvents (url : String) : HandlerOp (List Columns)
  | extractInfo (url outputTemplate : String) : HandlerOp (Except YtDlpException Json)
  | prepareFilename (info : Columns) : HandlerOp String
  | createSubtitles (media : Path) (offset : Option Json) (enabled : Bool) (contextName mode : String) :
      HandlerOp (Option Path)
  | subtitleSegments (subtitle : Path) : HandlerOp (List String)
  | screenTranscript (subtitle : Path) : HandlerOp (Option ExplicitContentMatch)
  | deleteMediaArtifacts (media : Path) (episode : Episode) : HandlerOp Unit

abbrev Handler := Program HandlerOp Error

/-- What a call does not find in the library: how it ends, and what the clock, the file system, other
programs and the network contribute. -/
structure Reply where
  outcome : Outcome := .returned
  now : Instant := 0
  later : Instant := 0
  candidates : List Columns × Option String := ([], none)
  name : Option String := none
  events : List Columns := []
  info : Except YtDlpException Json := .ok .null
  filename : String := ""
  subtitle : Option Path := none
  segments : List String := []
  explicitMatch : Option ExplicitContentMatch := none
  path : Path := Path.parse "/"
  digest : String := ""
  size : Nat := 0
  node : Option Node := none
  files : Option Files := none
  stuck : List Path := []
  rounds : Nat := 0

namespace Reply

/-- A call that is answered from the library or changes it. -/
def settle (reply : Reply) (result : Except Error (β × Library)) (s : Library) :
    Except Error β × Library :=
  match reply.outcome, result with
  | .returned, .ok (answer, s') => (.ok answer, s')
  | .returned, .error error => (.error error, s)
  | .rolledBack error, _ => (.error (.other error), s)
  | .lost error, .ok (_, s') => (.error (.other error), s')
  | .lost error, .error _ => (.error (.other error), s)

/-- A call that is answered from outside, and that leaves its traces also when it fails. -/
def outside (reply : Reply) (answer : β) (s : Library) : Except Error β × Library :=
  (reply.outcome.error.elim (.ok answer) fun error => .error (.other error), s)

end Reply

namespace Files

/-- `path.exists()` and what else `stat` tells. -/
def node (host : Host) (path : Path) (files : Files) : Option Node :=
  files.lookup (host.real path)

def put (host : Host) (path : Path) (node : Option Node) (files : Files) : Files :=
  match node with
  | some node => AList.insert (host.real path) node files
  | none => AList.erase (host.real path) files

def mkdir (host : Host) (path : Path) (files : Files) : Except Error Files :=
  match files.node host path with
  | some .directory => .ok files
  | some (.file _) => .error (.other "FileExistsError")
  | none => .ok (files.put host path (some .directory))

/-- `path.unlink(missing_ok=True)` of a path without links. -/
def unlink (host : Host) (path : Path) (files : Files) : Except Error Files :=
  match files.node host path with
  | some .directory => .error (.other "IsADirectoryError")
  | _ => .ok (files.put host path none)

def replace (host : Host) (source destination : Path) (files : Files) : Except Error Files :=
  match files.node host source, files.node host destination with
  | some (.file size), some (.file _) | some (.file size), none =>
    .ok ((files.put host source none).put host destination (some (.file size)))
  | none, _ => .error (.other "FileNotFoundError")
  | _, _ => .error (.other "IsADirectoryError")

/-- The media file and the files beside it that `delete_media_artifacts` unlinks. -/
def isArtifact (media : Path) (path : Path) (node : Node) : Bool :=
  node ≠ .directory && (path = media || path.parent = media.parent &&
    (media.stem ++ ".").toList.isPrefixOf path.name.toList)

/-- What is left when some of the files cannot be unlinked. -/
def deleteArtifacts (host : Host) (media : Path) (stuck : List Path) (files : Files) : Files :=
  files.delete fun path node => isArtifact (host.real media) path node && path ∉ stuck

end Files

/-- The name that `_target_path` tries in a round, the first of them being round zero. -/
def targetName (stem cleanExt : String) (counter : Nat) : String :=
  stem ++ ".converted" ++ (if counter = 0 then "" else "-" ++ toString counter) ++ "." ++ cleanExt

/-- The loop of `_target_path`, which is followed for the given number of rounds. -/
def targetPathFrom (files : Path → Bool) (source : Path) (cleanExt : String) :
    Nat → Nat → Option (Except Error Path)
  | 0, _ => none
  | rounds + 1, counter =>
    match source.withName (targetName source.stem cleanExt counter) with
    | .error error => some (.error error)
    | .ok candidate =>
      if files candidate = true ∧ candidate ≠ source then
        targetPathFrom files source cleanExt rounds (counter + 1)
      else some (.ok candidate)

/-- `_target_path`. -/
def targetPath (files : Path → Bool) (rounds : Nat) (source : Path) (targetExt : String) :
    Option (Except Error Path) :=
  let cleanExt := String.ofList ((lower targetExt).toList.dropWhile fun c => c = '.')
  let cleanExt := if cleanExt = "" then source.extension else cleanExt
  targetPathFrom files source cleanExt rounds 0

/-- The path under which `_write_manual_upload` stores a file: the first one that is free. -/
def uploadPath (files : Path → Bool) (root : Path) (stem suffix : String) :
    Nat → Nat → Option Path
  | 0, _ => none
  | rounds + 1, counter =>
    let path := root.join
      (stem ++ (if counter = 0 then "" else "-" ++ toString counter) ++ suffix)
    if files path then uploadPath files root stem suffix rounds (counter + 1) else some path

def Library.sourceNamed (profileId sourceType sourceName : String) (s : Library) :
    Option SourceConfig :=
  (s.sources.first (fun _ source => source.profileId = profileId && source.sourceType = sourceType &&
    source.name = sourceName) fun id source => toLex (source.position, id)).map Prod.snd

def Library.enabledProfiles (s : Library) : List String :=
  ((s.sources.orderBy (fun _ source => source.enabled) fun id source =>
    toLex (source.profileId, id)).map fun e => e.2.profileId).dedup

def Library.enabledSources (profileId : String) (s : Library) : List (Nat × SourceConfig) :=
  s.sources.orderBy (fun _ source => source.enabled && source.profileId = profileId)
    fun id source => toLex (source.position, id)

def Library.selectDownloads (ids : List Nat) (profileId : String) (s : Library) : List Download :=
  (s.downloads.rows.orderBy (fun id row => id ∈ ids &&
    Columns.matches [("profile_id", .string profileId)] row) fun id _ => id).map fun e => ⟨e.1, e.2⟩

/-- What a call answers and the library that it leaves, unless it does not come to an end. -/
def HandlerOp.run (host : Host) (reply : Reply) (s : Library) :
    HandlerOp β → Option (Except Error β × Library)
  | .now => some (reply.outside reply.now s)
  | .profileSetting profileId key => some (reply.settle (.ok (s.settings.lookup (profileId, key), s)) s)
  | .appSetting key => some (reply.settle (.ok (s.appSettings.lookup key, s)) s)
  | .sourceNamed profileId sourceType sourceName =>
    some (reply.settle (.ok (s.sourceNamed profileId sourceType sourceName, s)) s)
  | .enabledProfiles => some (reply.settle (.ok (s.enabledProfiles, s)) s)
  | .enabledSources profileId => some (reply.settle (.ok (s.enabledSources profileId, s)) s)
  | .candidates _ => some (reply.outside reply.candidates s)
  | .downloadById pk profileId =>
    some (reply.settle ((s.downloads.byId pk profileId).map fun download => (download, s)) s)
  | .downloadExists lookup =>
    some (reply.settle (.ok (s.downloads.rows.any fun _ row => lookup.matches row, s)) s)
  | .selectDownloads ids profileId => some (reply.settle (.ok (s.selectDownloads ids profileId, s)) s)
  | .updateOrCreateDownload lookup defaults =>
    some (reply.settle ((s.downloads.updateOrCreate lookup defaults).map fun r =>
      (r.2.copy r.1, { s with downloads := r.2 })) s)
  | .saveDownload id fields =>
    some (reply.settle ((s.downloads.saveFields id fields).map fun downloads =>
      ((), { s with downloads })) s)
  | .createSegments _ _ _ | .deleteSegments _ | .publishJob _ | .acquireLock _ _ | .releaseLock _ _ =>
    some (reply.settle (.ok ((), s)) s)
  | .createJob args =>
    let (id, database) := GetOffline.createJob args reply.now reply.later s.database
    some (reply.settle (.ok (id, { s with database })) s)
  | .activeDownloadJob idempotencyKey =>
    some (reply.settle (.ok (GetOffline.activeDownloadJob idempotencyKey s.database.jobs, s)) s)
  | .saveTouch id copy =>
    some (reply.settle (.ok ((), { s with database := s.database.save id copy.saveTouch })) s)
  | .saveRequeued id updatedAt =>
    some (reply.settle (.ok ((), { s with database := s.database.save id (Job.requeue updatedAt) })) s)
  | .node path => some (reply.settle (.ok (s.files.node host path, s)) s)
  | .mkdir path =>
    some (reply.settle ((s.files.mkdir host path).map fun files => ((), { s with files })) s)
  | .unlink path =>
    some (reply.settle ((s.files.unlink host path).map fun files => ((), { s with files })) s)
  | .targetPath source targetExt =>
    (GetOffline.targetPath (fun path => (s.files.node host path).isSome) reply.rounds source
      targetExt).map fun result => reply.settle (result.map fun path => (path, s)) s
  | .makeTemporary destination =>
    if (s.files.node host reply.path).isNone ∧ reply.path.parent = destination.parent then
      some (reply.outside reply.path { s with files := s.files.put host reply.path (some (.file 0)) })
    else none
  | .receiveMedia _ temporary =>
    some (reply.outside reply.size
      { s with files := s.files.put host temporary (some (.file reply.size)) })
  | .replace source destination =>
    some (reply.settle ((s.files.replace host source destination).map fun files =>
      ((), { s with files })) s)
  | .storeUpload root stem suffix =>
    (uploadPath (fun path => (s.files.node host path).isSome) root stem suffix reply.rounds 0).map
      fun path => reply.outside (path, reply.digest, reply.size)
        { s with files := s.files.put host path (some (.file reply.size)) }
  | .runFfmpeg _ _ output =>
    some (reply.outside () { s with files := s.files.put host output reply.node })
  | .resolveSourceName _ => some (reply.outside reply.name s)
  | .downloadEvents _ => some (reply.outside reply.events s)
  | .extractInfo _ _ => some (reply.outside reply.info { s with files := reply.files.getD s.files })
  | .prepareFilename _ => some (reply.outside reply.filename s)
  | .createSubtitles media _ enabled _ _ =>
    if enabled = true ∧ (s.files.node host media).isSome then
      some (reply.outside reply.subtitle { s with files := reply.files.getD s.files })
    else some (reply.outside none s)
  | .subtitleSegments _ => some (reply.outside reply.segments s)
  | .screenTranscript subtitle =>
    some (reply.outside (if (s.files.node host subtitle).isSome then reply.explicitMatch else none) s)
  | .deleteMediaArtifacts media _ =>
    some (reply.outside () { s with files := s.files.deleteArtifacts host media reply.stuck })

end GetOffline
