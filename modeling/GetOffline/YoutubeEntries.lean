import GetOffline.Discovery
import GetOffline.DownloadRequest

set_option autoImplicit true

namespace GetOffline
open Python

-- workers/handlers.py

/-- `str(entry.get(key) or "")`. -/
def entryText (host : Host) (key : String) (entry : Columns) : String :=
  host.textOr (Json.get key entry) ""

def isYoutubeShortEntry (host : Host) (entry : Columns) : Bool :=
  ["webpage_url", "original_url", "url", "ie_key"].any fun key =>
    textContains "/shorts/" (entryText host key entry)

def youtubeLiveTitleMarkers : List String :=
  ["🔴", " live stream", " livestream", "| live", "- live", "[live]", "(live)"]

def youtubeTitleLooksLive (host : Host) (title : Option Json) : Bool :=
  let normalized := " " ++ lower (strip (host.textOr title "")) ++ " "
  if strip normalized = "" then false
  else if youtubeLiveTitleMarkers.any fun marker => textContains marker normalized then true
  else strip normalized = "live" || "live ".toList.isPrefixOf normalized.toList

def isYoutubeLivestreamEntry (host : Host) (entry : Columns) : Bool :=
  let liveStatus := lower (strip (entryText host "live_status" entry))
  if ((Json.get "is_live" entry).getD .null).truthy ||
      liveStatus ∈ ["is_live", "is_upcoming", "was_live", "post_live"] then true
  else youtubeTitleLooksLive host (Json.get "title" entry)

/-- Why an entry is not wanted. -/
def unwantedReason (host : Host) (includeLivestreams includeShorts : Bool) (entry : Columns) :
    Option String :=
  if !includeLivestreams && isYoutubeLivestreamEntry host entry then
    some "Skipping YouTube livestream entry from source."
  else if !includeShorts && isYoutubeShortEntry host entry then
    some "Skipping YouTube Shorts entry from source."
  else none

def youtubeSourceSkipReason (host : Host) (source : SourceConfig) (entry : Columns) : Option String :=
  unwantedReason host source.includeLivestreams source.includeShorts entry

/-- `match_filter` as `_configure_youtube_download_filters` sets it for a job's payload. -/
def skipUnwantedYoutubeEntries (host : Host) (payload : Columns) (info : Columns) : Option String :=
  unwantedReason host ((Json.get "include_livestreams" payload).getD (.bool false)).truthy
    ((Json.get "include_shorts" payload).getD (.bool false)).truthy info

def youtubeVideoUrl (host : Host) (entry : Columns) : String :=
  let itemId := strip (entryText host "id" entry)
  let webpageUrl := strip (entryText host "webpage_url" entry)
  let rawUrl := strip (entryText host "url" entry)
  if isYoutubeVideoUrl webpageUrl then webpageUrl
  else if itemId.length = 11 then "https://www.youtube.com/watch?v=" ++ itemId
  else if rawUrl.length = 11 && !"http".toList.isPrefixOf rawUrl.toList then
    "https://www.youtube.com/watch?v=" ++ rawUrl
  else if isYoutubeVideoUrl rawUrl then rawUrl
  else if webpageUrl ≠ "" then webpageUrl
  else rawUrl

/-- `_fallback_uid(*parts)`, of two texts. -/
def generatedUid (host : Host) (first second : String) : String :=
  let text := strip (first ++ "|" ++ second)
  "generated:" ++ host.sha1 (if text = "" then "unknown" else text)

/-- A candidate of a YouTube source. -/
structure YoutubeCandidate where
  itemUid : String
  itemUrl : String
  mediaUrl : String
  title : String
  published : String

def youtubeCandidateFromEntry (host : Host) (source : SourceConfig) (entry : Columns) :
    Option YoutubeCandidate :=
  if (youtubeSourceSkipReason host source entry).isSome then none
  else
    let itemId := strip (entryText host "id" entry)
    let itemUrl := youtubeVideoUrl host entry
    if !isYoutubeVideoUrl itemUrl then none
    else
      let title := strip (host.textOr (Json.get "title" entry)
        (if itemUrl ≠ "" then itemUrl else "Untitled YouTube episode"))
      let itemUid :=
        if itemId.length = 11 then itemId
        else if itemUrl ≠ "" then itemUrl
        else generatedUid host source.url title
      some {
        itemUid := cut255 itemUid
        itemUrl
        mediaUrl := itemUrl
        title
        published := host.str (Json.orElse (Json.get "upload_date" entry)
          (Json.orEmpty (Json.get "timestamp" entry))) }

/-- The dictionaries among the values. -/
def entriesOf (values : List Json) : List Columns :=
  values.filterMap fun
    | .object entry => some entry
    | _ => none

/-- `_youtube_entries_from_url`, of what `extract_info` returns: the items of `entries`, or else the answer
itself. `list()` of a text or of a dictionary has no dictionaries in it; numbers cannot be listed. -/
def youtubeEntriesFromPayload (payload : Json) : Except Error (List Columns) :=
  let payload := if payload.truthy then payload else .object []
  let entries :=
    match payload with
    | .object items => (Json.get "entries" items).getD .null
    | _ => .null
  if entries.truthy then
    match entries with
    | .array values => .ok (entriesOf values)
    | .string _ | .object _ => .ok []
    | _ => .error .typeError
  else .ok (entriesOf [payload])

/-- The candidates of a nested listing, until the limit is reached. -/
def nestedCandidates (host : Host) (source : SourceConfig) (limit : Nat) :
    List Columns → Nat → List YoutubeCandidate
  | [], _ => []
  | entry :: entries, yielded =>
    if limit ≤ yielded then []
    else
      match youtubeCandidateFromEntry host source entry with
      | none => nestedCandidates host source limit entries yielded
      | some candidate => candidate :: nestedCandidates host source limit entries (yielded + 1)

/-- What `extract_info` returns for the entry at a place of the listing: for a URL and a limit. -/
abbrev Extractor := Nat → String → Nat → Json

/-- The loop of `_youtube_candidates`: what it yields, and the exception that ends it. -/
def youtubeCandidatesFrom (host : Host) (source : SourceConfig) (limit : Nat) (extract : Extractor) :
    List Columns → Nat → Nat → List YoutubeCandidate × Option Error
  | [], _, _ => ([], none)
  | entry :: entries, place, yielded =>
    if limit ≤ yielded then ([], none)
    else if (youtubeSourceSkipReason host source entry).isSome then
      youtubeCandidatesFrom host source limit extract entries (place + 1) yielded
    else
      match youtubeCandidateFromEntry host source entry with
      | some candidate =>
        let (rest, error) :=
          youtubeCandidatesFrom host source limit extract entries (place + 1) (yielded + 1)
        (candidate :: rest, error)
      | none =>
        let nestedUrl := youtubeVideoUrl host entry
        if nestedUrl ≠ "" ∧ nestedUrl ≠ source.url then
          match youtubeEntriesFromPayload (extract place nestedUrl (limit - yielded)) with
          | .error error => ([], some error)
          | .ok nested =>
            let found := nestedCandidates host source limit nested yielded
            let (rest, error) := youtubeCandidatesFrom host source limit extract entries (place + 1)
              (yielded + found.length)
            (found ++ rest, error)
        else youtubeCandidatesFrom host source limit extract entries (place + 1) yielded

/-- `_youtube_candidates`, of what the extractor returns for the source's own URL. -/
def youtubeCandidates (host : Host) (source : SourceConfig) (limit : Nat) (listing : Json)
    (extract : Extractor) : List YoutubeCandidate × Option Error :=
  match youtubeEntriesFromPayload listing with
  | .error error => ([], some error)
  | .ok entries => youtubeCandidatesFrom host source limit extract entries 0 0

end GetOffline
