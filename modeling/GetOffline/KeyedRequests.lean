import GetOffline.Discovery
import GetOffline.JobRequests
import GetOffline.ManualImports
import GetOffline.MediaRequests
import GetOffline.PythonSha1
import GetOffline.Schedule
import GetOffline.YoutubeCandidates

set_option autoImplicit true

namespace GetOffline
open Python

-- workers/handlers.py: candidates of a feed

structure FeedEnclosure where
  /-- `getattr(enclosure, "href", "")`. -/
  attr : Json
  /-- `enclosure.get("href", "")`. -/
  item : Json

/-- What `getattr` gives of an entry, where an empty text stands for an absent attribute. -/
structure FeedEntry where
  enclosures : List FeedEnclosure
  link : Json
  title : Json
  published : Json
  updated : Json
  id : Json
  guid : Json

def enclosureUrl (host : Host) : List FeedEnclosure → String
  | [] => ""
  | enclosure :: enclosures =>
    let url := strip (host.str (Json.orElse (some enclosure.attr) enclosure.item))
    if url ≠ "" then url else enclosureUrl host enclosures

namespace FeedEntry

def url (host : Host) (entry : FeedEntry) : String :=
  let enclosure := enclosureUrl host entry.enclosures
  if enclosure ≠ "" then enclosure else strip (host.textOr (some entry.link) "")

def titleText (host : Host) (entry : FeedEntry) : String :=
  let url := entry.url host
  strip (host.textOr (some entry.title) (if url ≠ "" then url else "Untitled podcast episode"))

def publishedText (host : Host) (entry : FeedEntry) : String :=
  strip (host.textOr (some (Json.orElse (some entry.published) entry.updated)) "")

/-- `item_uid` before it is cut. -/
def uid (host : Host) (source : SourceConfig) (entry : FeedEntry) : String :=
  let itemUid := strip (host.textOr (some (Json.orElse (some entry.id) entry.guid)) (entry.url host))
  if itemUid ≠ "" then itemUid
  else generatedUid host source.url (entry.titleText host ++ "|" ++ entry.publishedText host)

end FeedEntry

/-- What `_podcast_candidates` yields for an entry. -/
def podcastCandidate (host : Host) (source : SourceConfig) (entry : FeedEntry) : Columns :=
  [("item_uid", .string (cut255 (entry.uid host source))), ("item_url", .string (entry.url host)),
    ("media_url", .string (entry.url host)), ("title", .string (entry.titleText host)),
    ("published", .string (entry.publishedText host))]

def YoutubeCandidate.columns (candidate : YoutubeCandidate) : Columns :=
  [("item_uid", .string candidate.itemUid), ("item_url", .string candidate.itemUrl),
    ("media_url", .string candidate.mediaUrl), ("title", .string candidate.title),
    ("published", .string candidate.published)]

/-- `item_uid` of an entry of a channel before it is cut. -/
def youtubeUid (host : Host) (source : SourceConfig) (entry : Columns) : String :=
  let itemId := strip (entryText host "id" entry)
  let itemUrl := youtubeVideoUrl host entry
  if itemId.length = 11 then itemId
  else if itemUrl ≠ "" then itemUrl
  else generatedUid host source.url (strip (host.textOr (Json.get "title" entry)
    (if itemUrl ≠ "" then itemUrl else "Untitled YouTube episode")))

-- models/management/commands

/-- What `_queue_transcript_job` passes to `create_job` for an imported row. -/
def importedArgs (profileId : String) (id : Nat) (fileExt : Option String) : JobArgs :=
  if lower (fileExt.getD "") = "pdf" then ocrArgs profileId id
  else uploadTranscriptArgs profileId id "audio"

/-- The templates of the keys of scheduled jobs: those that are ever written, and none. -/
inductive ScheduleTemplate
  | hourlyUpdate
  | dailyCleanup
  | blank

def ScheduleTemplate.text : ScheduleTemplate → String
  | .hourlyUpdate => "scheduled:update_downloads:$\x7bprofile_id\x7d:$\x7bdue_hour\x7d"
  | .dailyCleanup => "scheduled:retention_cleanup:$\x7bprofile_id\x7d:$\x7bdue_date\x7d"
  | .blank => ""

/-- An instant that a `datetime` can be. -/
abbrev DateTime := { t : Instant // minInstant ≤ t ∧ t ≤ maxInstant }

/-- The calls of `create_job`, of one profile. -/
inductive KeyRequest
  | enqueueJob (post : List (String × String)) (token : String)
  | download (data : List (String × Json))
  | redownload (row : Download)
  | document (downloadId : Nat)
  | upload (downloadId : Nat) (mediaType : String)
  | imported (downloadId : Nat) (fileExt : Option String)
  | schedule (template : ScheduleTemplate) (scheduleId : Nat) (row : ScheduledJob) (dueAt : DateTime)
  | podcastEpisode (sourceId : Nat) (source : SourceConfig) (entry : FeedEntry)
  | youtubeEpisode (sourceId : Nat) (source : SourceConfig) (entry : Columns)
  | conversion (payload : Columns)
  | deferredTranscript (payload lookup defaults : Columns) (sourcePaths : List Path) (targetPath : Path)
      (mediaKind : String)
  | transcript (payload : Columns) (downloadId : String) (id sourceType : Json) (mediaKind : String)

/-- The `idempotency_key` of the call, if the request gets that far. -/
def KeyRequest.key (host : Host) (profileId : String) : KeyRequest → Option String
  | .enqueueJob post token => (enqueueJobArgs profileId post token).bind JobArgs.idempotencyKey
  | .download data => (downloadArgs host.render profileId data).bind JobArgs.idempotencyKey
  | .redownload row => (redownloadArgs host profileId row).idempotencyKey
  | .document downloadId => (ocrArgs profileId downloadId).idempotencyKey
  | .upload downloadId mediaType => (uploadTranscriptArgs profileId downloadId mediaType).idempotencyKey
  | .imported downloadId fileExt => (importedArgs profileId downloadId fileExt).idempotencyKey
  | .schedule template scheduleId row dueAt =>
    some (renderIdempotencyKey scheduleId
      { row with profileId, idempotencyKeyTemplate := template.text } dueAt)
  | .podcastEpisode sourceId source entry =>
    some ((candidateOf host (podcastCandidate host source entry)).key host profileId sourceId)
  | .youtubeEpisode sourceId source entry =>
    (youtubeCandidateFromEntry host source entry).map fun candidate =>
      (candidateOf host candidate.columns).key host profileId sourceId
  | .conversion payload => some (transcodeIdempotencyKey host profileId payload)
  | .deferredTranscript payload lookup defaults sourcePaths targetPath mediaKind =>
    (deferredTranscriptArgs host profileId payload lookup defaults sourcePaths targetPath
      mediaKind).idempotencyKey
  | .transcript payload downloadId id sourceType mediaKind =>
    (transcriptArgs profileId payload downloadId id sourceType mediaKind).idempotencyKey

/-- The writers of `item_uid` and `item_id`: a browser upload, an imported file, and a download. -/
inductive ItemWrite
  | upload (content : List UInt8)
  | imported (file : FileImport) (relativePath : String) (content : List UInt8)
  | downloaded (payload info : Columns) (url : String)

/-- The text that identifies a download before it is cut. -/
def downloadedUid (host : Host) (payload info : Columns) (url : String) : String :=
  host.textOr (some (firstOf (Json.get "item_uid" payload) (Json.get "id" info))) url

namespace ItemWrite

def itemUid (host : Host) (place : UploadPlace) : ItemWrite → String
  | .upload content => manualItemUid place content content.length
  | .imported file relativePath content => file.itemUid place relativePath content
  | .downloaded payload info url => cut255 (downloadedUid host payload info url)

def itemId (host : Host) (place : UploadPlace) : ItemWrite → String
  | .downloaded payload info url =>
    cut255 (host.textOr (Json.get "id" info) (cut255 (downloadedUid host payload info url)))
  | write => write.itemUid host place

end ItemWrite

/-- What a generated key stands for. -/
inductive KeyedOperation
  | update (token : String)
  | hourlyUpdate (hour : String)
  | dailyCleanup (day : String)
  | scheduledRun (scheduleId : Nat) (jobType : String) (dueAt : DateTime)
  | downloadUrl (url : String)
  | downloadNothing
  | redownload (downloadId : Nat)
  | document (downloadId : Nat)
  | transcript (downloadId : String)
  | deferredTranscript (sourceType sourceName itemUid : String)
  | convertRow (downloadId : String)
  | convertFiles (inputs : List String)
  | episode (sourceId : Nat) (uid : String)

/-- The key of a job is the client's own, or generated for an operation. -/
inductive KeySource
  | client (text : String)
  | generated (operation : KeyedOperation)

/-- The parts of the key of a conversion without a row. -/
def conversionInputs (host : Host) (payload : Columns) : List String :=
  let sourcePaths := match Json.get "source_file_paths" payload with
    | some (.array (path :: paths)) => path :: paths
    | _ => [(Json.get "source_file_path" payload).getD .null]
  (sourcePaths.filter Json.truthy).map (fun path => (host.resolve (host.str path)).str) ++
    [host.textOr (Json.get "target_file_path" payload) "", host.textOr (Json.get "item_uid" payload) ""]

/-- What stands behind the key of a request. -/
def KeyRequest.source (host : Host) : KeyRequest → Option KeySource
  | .enqueueJob post token =>
    let jobType := postedText "job_type" post
    if jobType ∉ [StrEnum.value JobType.updateDownloads, StrEnum.value JobType.downloadSingle] then none
    else
      match (posted "idempotency_key" post).filter fun key => key ≠ "" with
      | some key => some (.client key)
      | none =>
        if jobType = "update_downloads" then some (.generated (.update token))
        else
          match (posted "url" post).filter fun url => url ≠ "" with
          | some url => some (.generated (.downloadUrl (strip url)))
          | none => some (.generated .downloadNothing)
  | .download data =>
    let url := strip (Json.str host.render (Json.orElse (Json.get "url" data) (.string "")))
    let key := (Json.get "idempotency_key" data).getD .null
    if url = "" then none
    else if key.truthy then some (.client (host.str key))
    else some (.generated (.downloadUrl url))
  | .redownload row => some (.generated (.redownload row.id))
  | .document downloadId => some (.generated (.document downloadId))
  | .upload downloadId _ => some (.generated (.transcript (toString downloadId)))
  | .imported downloadId fileExt =>
    if lower (fileExt.getD "") = "pdf" then some (.generated (.document downloadId))
    else some (.generated (.transcript (toString downloadId)))
  | .schedule template scheduleId row dueAt =>
    match template with
    | .hourlyUpdate => some (.generated (.hourlyUpdate (isoHour dueAt)))
    | .dailyCleanup => some (.generated (.dailyCleanup (Date.ofInstant dueAt).isoformat))
    | .blank => some (.generated (.scheduledRun scheduleId row.jobType dueAt))
  | .podcastEpisode sourceId source entry =>
    some (.generated (.episode sourceId (entry.uid host source)))
  | .youtubeEpisode sourceId source entry =>
    (youtubeCandidateFromEntry host source entry).map fun _ =>
      .generated (.episode sourceId (youtubeUid host source entry))
  | .conversion payload =>
    let downloadId := (Json.get "download_id" payload).getD .null
    if downloadId.truthy then some (.generated (.convertRow (host.str downloadId)))
    else some (.generated (.convertFiles (conversionInputs host payload)))
  | .deferredTranscript _ lookup _ _ _ _ =>
    some (.generated (.deferredTranscript (host.str ((Json.get "source_type" lookup).getD .null))
      (host.str ((Json.get "source_name" lookup).getD .null))
      (host.str ((Json.get "item_uid" lookup).getD .null))))
  | .transcript _ downloadId _ _ _ => some (.generated (.transcript downloadId))

/-- `source.id or ""`. -/
def sourceText (sourceId : Nat) : String :=
  if sourceId = 0 then "" else toString sourceId

/-- The readable part of the key of an episode. -/
def episodeStart (profileId : String) (sourceId : Nat) : String :=
  String.ofList (("download_episode:" ++ profileId ++ ":" ++ sourceText sourceId).toList.take 160)

/-- The text of which the key of an episode has the digest. -/
def episodeText (profileId : String) (sourceId : Nat) (uid : String) : String :=
  strip ("download_episode|" ++ profileId ++ "|" ++ sourceText sourceId ++ "|" ++ cut255 uid)

namespace KeyedOperation

def key (profileId : String) : KeyedOperation → String
  | .update token => "update_downloads:" ++ profileId ++ ":" ++ token
  | .hourlyUpdate hour => "scheduled:update_downloads:" ++ profileId ++ ":" ++ hour
  | .dailyCleanup day => "scheduled:retention_cleanup:" ++ profileId ++ ":" ++ day
  | .scheduledRun scheduleId jobType dueAt =>
    "scheduled:" ++ toString scheduleId ++ ":" ++ jobType ++ ":" ++ isoformat dueAt
  | .downloadUrl url => "download_single:" ++ profileId ++ ":" ++ url
  | .downloadNothing => "download_single:" ++ profileId ++ ":manual"
  | .redownload downloadId => "download_single:" ++ profileId ++ ":" ++ toString downloadId
  | .document downloadId => "generate_ocr:" ++ profileId ++ ":" ++ toString downloadId
  | .transcript downloadId => "generate_transcript:" ++ profileId ++ ":" ++ downloadId
  | .deferredTranscript sourceType sourceName itemUid =>
    "generate_transcript:" ++ profileId ++ ":deferred:" ++ sourceType ++ ":" ++ sourceName ++ ":" ++ itemUid
  | .convertRow downloadId => "transcode_media:" ++ profileId ++ ":download:" ++ downloadId
  | .convertFiles inputs => "transcode_media:" ++ profileId ++ ":file:" ++ sha1Text ("|".intercalate inputs)
  | .episode sourceId uid =>
    episodeStart profileId sourceId ++ ":" ++ sha1Text (episodeText profileId sourceId uid)

end KeyedOperation

end GetOffline
