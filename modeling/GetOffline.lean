import GetOffline.SlotAdmission
import GetOffline.SlotPreference
import GetOffline.JobStatuses
import GetOffline.JobKeys
import GetOffline.JsonProgress
import GetOffline.Settlement
import GetOffline.DeliverySteps
import GetOffline.ScheduleRuns
import GetOffline.Recovery
import GetOffline.RoutingAgreement
import GetOffline.JobIsolation
import GetOffline.TranscodeExclusion
import GetOffline.SlotFailures
import GetOffline.Tombstones
import GetOffline.ScheduleTimes
import GetOffline.TitleExclusion
import GetOffline.Settings
import GetOffline.TargetExclusion
import GetOffline.RecordedEpisodes
import GetOffline.ScreeningPolicy
import GetOffline.MediaServing
import GetOffline.RepeatedConversions
import GetOffline.PlaylistOrder
import GetOffline.Autoplay
import GetOffline.HiddenContent
import GetOffline.AutoDelete
import GetOffline.RetentionPromise
import GetOffline.SpokenPlaces
import GetOffline.TranscriptRuns
import GetOffline.Purge
import GetOffline.FaithfulSync
import GetOffline.ChannelNames
import GetOffline.UploadPairs
import GetOffline.LiveTitles
import GetOffline.YoutubeCandidates
import GetOffline.CatchUp
import GetOffline.SubtitleLosses
import GetOffline.ManualImports
import GetOffline.LibraryPages
import GetOffline.ChunkedTranscription
import GetOffline.PdfSentences
import GetOffline.SubtitleHistories
import GetOffline.TranscriptCauses
import GetOffline.PythonFloatOrder
import GetOffline.PlaybackRule
import GetOffline.PlaybackNumbers
import GetOffline.PlaybackRaces
import GetOffline.RequestEncodings
import GetOffline.PlaylistUnions
import GetOffline.Positions
import GetOffline.SourceEdits
import GetOffline.StatusPolls
import GetOffline.ItemUids
import GetOffline.RetentionStreams
import GetOffline.TargetNames
import GetOffline.SyncAtomicity
import GetOffline.ActiveMarquee
import GetOffline.Multipart
import GetOffline.FormBodies
import GetOffline.DirectoryRuns
import GetOffline.DigitFields
import GetOffline.MediaFetch
import GetOffline.CliCache
import GetOffline.UploadRaces
import GetOffline.JobLineage
import GetOffline.ApiGate
import GetOffline.ConsoleRuns
import GetOffline.JobPriorities
import GetOffline.ContentFilter
import GetOffline.PdfPages
import GetOffline.ConsumeLimits
import GetOffline.WebPlayerRuns
import GetOffline.UpdateRuns
import GetOffline.JobsPage
