import GetOffline.PythonText

set_option autoImplicit true

namespace GetOffline
open Python

/-- A `StrEnum`: its members in the order of their definition, each with its text. -/
class StrEnum (α : Type) where
  members : List α
  value : α → String

/-- The member whose text is the given one up to surrounding space and letter case. -/
def parseStrEnum (α : Type) [StrEnum α] (value : String) : Option α :=
  StrEnum.members.find? fun m : α => StrEnum.value m == lower (strip value)

inductive SourceType
  | youtube
  | podcast
deriving DecidableEq

instance : StrEnum SourceType where
  members := [.youtube, .podcast]
  value
    | .youtube => "youtube"
    | .podcast => "podcast"

inductive MediaType
  | audio
  | video
deriving DecidableEq

instance : StrEnum MediaType where
  members := [.audio, .video]
  value
    | .audio => "audio"
    | .video => "video"

inductive JobStatus
  | queued
  | running
  | succeeded
  | failed
deriving DecidableEq

instance : StrEnum JobStatus where
  members := [.queued, .running, .succeeded, .failed]
  value
    | .queued => "queued"
    | .running => "running"
    | .succeeded => "succeeded"
    | .failed => "failed"

inductive JobType
  | checkForEpisodes
  | updateDownloads
  | downloadEpisode
  | downloadSingle
  | transcodeMedia
  | generateTranscript
  | generateOcr
  | retentionCleanup
deriving DecidableEq

instance : StrEnum JobType where
  members := [.checkForEpisodes, .updateDownloads, .downloadEpisode, .downloadSingle,
    .transcodeMedia, .generateTranscript, .generateOcr, .retentionCleanup]
  value
    | .checkForEpisodes => "check_for_episodes"
    | .updateDownloads => "update_downloads"
    | .downloadEpisode => "download_episode"
    | .downloadSingle => "download_single"
    | .transcodeMedia => "transcode_media"
    | .generateTranscript => "generate_transcript"
    | .generateOcr => "generate_ocr"
    | .retentionCleanup => "retention_cleanup"

inductive CpuSlotStatus
  | waiting
  | running
deriving DecidableEq

instance : StrEnum CpuSlotStatus where
  members := [.waiting, .running]
  value
    | .waiting => "waiting"
    | .running => "running"

inductive HeavyJobKind
  | ffmpeg
  | transcript
deriving DecidableEq

instance : StrEnum HeavyJobKind where
  members := [.ffmpeg, .transcript]
  value
    | .ffmpeg => "ffmpeg"
    | .transcript => "transcript"

/-- Every member is read back from its own text. -/
theorem parse_jobType (m : JobType) : parseStrEnum JobType (StrEnum.value m) = some m := by
  cases m <;> decide

theorem parse_heavyJobKind (m : HeavyJobKind) :
    parseStrEnum HeavyJobKind (StrEnum.value m) = some m := by
  cases m <;> decide

end GetOffline
