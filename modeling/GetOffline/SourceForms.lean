import GetOffline.HandlerCalls
import GetOffline.JobRequests
import GetOffline.LibraryRows
import GetOffline.PythonFloat

set_option autoImplicit true

namespace GetOffline
open Python

-- api/services/dashboard_actions.py

structure SourceFormData where
  name : String
  url : String
  mediaType : Option String
  enabled : Bool
  subtitles : Bool
  subtitleOffsetSeconds : Option Float64
  maxDownloads : Option Int
  deleteExplicitContent : Bool
  includeShorts : Bool
  includeLivestreams : Bool
  titleExclude : String

/-- `_apply_source_form_data`. -/
def applySourceFormData (form : SourceFormData) (includeEnabled : Bool) (source : SourceConfig) :
    SourceConfig :=
  let youtube := decide (parseStrEnum SourceType source.sourceType = some .youtube)
  let mediaType := ((form.mediaType.filter fun text => text ≠ "").or
    (source.mediaType.filter fun text => text ≠ "")).getD "audio"
  { source with
    name := if form.name = "" then source.name else form.name
    url := if form.url = "" then source.url else form.url
    mediaType := if youtube then some mediaType else source.mediaType
    includeShorts := if youtube then form.includeShorts else source.includeShorts
    includeLivestreams := if youtube then form.includeLivestreams else source.includeLivestreams
    enabled := if includeEnabled then form.enabled else source.enabled
    subtitles := form.subtitles
    subtitleOffsetSeconds := form.subtitleOffsetSeconds
    maxDownloads := form.maxDownloads
    deleteExplicitContent := form.deleteExplicitContent
    titleExclude := some form.titleExclude }

/-- What `urlparse` tells about a URL. -/
structure ParsedUrl where
  scheme : String
  netloc : String

/-- `request.POST.getlist(key)`: `get` reads the last of the values, which stands first in the form. -/
def postedList (key : String) (post : List (String × String)) : List String :=
  ((post.filter fun e => e.1 = key).map Prod.snd).reverse

def optionalInt (value : Option String) : Except Error (Option Int) :=
  let raw := strip (value.getD "")
  if isDigit raw then (intOfText raw).map some else .ok none

def optionalFloat (value : Option String) : Option Float64 :=
  let raw := strip (value.getD "")
  if raw = "" then none else (floatOfText raw).toOption

/-- `math.isfinite`. -/
def isFinite (x : Float64) : Bool :=
  x.toRat.isSome

def sourceFormData (post : List (String × String)) (sourceType leading : String) :
    Except Error SourceFormData :=
  let isYoutube : Bool := parseStrEnum SourceType sourceType = some .youtube
  (optionalInt (posted (leading ++ "max_downloads") post)).map fun maxDownloads => {
    name := postedText (leading ++ "name") post
    url := postedText (leading ++ "url") post
    mediaType :=
      if isYoutube then
        some (lower (strip (((posted (leading ++ "media_type") post).filter (· ≠ "")).getD "audio")))
      else none
    enabled := postedBool (leading ++ "enabled") "1" post
    subtitles := postedBool (leading ++ "subtitles") "1" post
    subtitleOffsetSeconds := optionalFloat (posted (leading ++ "subtitle_offset_seconds") post)
    maxDownloads
    deleteExplicitContent := postedBool (leading ++ "delete_explicit_content") "" post
    includeShorts := isYoutube && postedBool (leading ++ "include_shorts") "" post
    includeLivestreams := isYoutube && postedBool (leading ++ "include_livestreams") "" post
    titleExclude := postedText (leading ++ "title_exclude") post }

section
variable (urlparse : String → Except Error ParsedUrl)

def sourceUrlErrors (url : String) : Except Error (List String) :=
  if url = "" then .ok ["url is required"]
  else
    (urlparse url).map fun parsed =>
      if parsed.scheme ∉ ["http", "https"] ∨ parsed.netloc = "" then
        ["url must be an absolute http(s) URL"]
      else []

/-- The offset and the limit are looked up in the request under their bare names. -/
def sourceFormErrors (post : List (String × String)) (form : SourceFormData) (sourceType : SourceType) :
    Except Error (List String) :=
  let name :=
    if form.name = "" then ["name is required"]
    else if 255 < form.name.length then ["name must be 255 characters or fewer"]
    else []
  let media :=
    if sourceType = .youtube ∧ form.mediaType ∉ [some "audio", some "video"] then
      ["media_type is invalid"]
    else []
  let offset :=
    if postedText "subtitle_offset_seconds" post ≠ "" ∧
        ¬ form.subtitleOffsetSeconds.any isFinite then
      ["subtitle_offset_seconds is invalid"]
    else []
  let limit :=
    if postedText "max_downloads" post ≠ "" ∧ ¬ form.maxDownloads.any (1 ≤ ·) then
      ["max_downloads is invalid"]
    else []
  (sourceUrlErrors urlparse form.url).map fun url => name ++ url ++ media ++ offset ++ limit

/-- The form of a source and its errors, as every view reads them. -/
def readSourceForm (post : List (String × String)) (sourceType leading : String) :
    Except Error (SourceFormData × List String) := do
  let form ← sourceFormData post sourceType leading
  let errors ← sourceFormErrors urlparse post form ((parseStrEnum SourceType sourceType).getD .podcast)
  return (form, errors)

/-- `position or -1`. -/
def orMinusOne : Option Int → Int
  | some position => if position = 0 then -1 else position
  | none => -1

def nextSourcePosition (profileId sourceType : String) (sources : AutoTable SourceConfig) : Int :=
  let last := sources.rows.first
    (fun _ source => source.profileId == profileId && source.sourceType == sourceType)
    fun (id : Nat) source => toLex (-source.position, id)
  orMinusOne (last.map fun e => e.2.position) + 1

/-- `get_object_or_404(SourceConfig, pk=source_id, profile_id=...)`. -/
def ownSource (profileId : String) (sourceId : Nat) (sources : AutoTable SourceConfig) :
    Option SourceConfig :=
  (sources.rows.lookup sourceId).filter fun source => source.profileId = profileId

def newSource (profileId sourceType : String) (position : Int) (form : SourceFormData) :
    SourceConfig where
  profileId
  sourceType
  position
  name := form.name
  url := form.url
  mediaType := form.mediaType
  enabled := true
  subtitles := form.subtitles
  subtitleOffsetSeconds := form.subtitleOffsetSeconds
  maxDownloads := form.maxDownloads
  deleteExplicitContent := form.deleteExplicitContent
  includeShorts := form.includeShorts
  includeLivestreams := form.includeLivestreams
  titleExclude := some form.titleExclude

def addSource (profileId : String) (post : List (String × String)) (sources : AutoTable SourceConfig) :
    Answer Unit × AutoTable SourceConfig :=
  match parseStrEnum SourceType ((posted "source_type" post).getD "") with
  | none => (.refused 400 "Invalid source_type", sources)
  | some sourceType =>
    let sourceType := StrEnum.value sourceType
    match readSourceForm urlparse post sourceType "" with
    | .error error => (.raised error, sources)
    | .ok (_, error :: errors) =>
      (.refused 400 ("Invalid source: " ++ "; ".intercalate (error :: errors)), sources)
    | .ok (form, []) =>
      let position := nextSourcePosition profileId sourceType sources
      (.ok (), sources.insert (newSource profileId sourceType position form))

def updateSource (profileId : String) (sourceId : Nat) (post : List (String × String))
    (sources : AutoTable SourceConfig) : Answer Unit × AutoTable SourceConfig :=
  match ownSource profileId sourceId sources with
  | none => (.notFound, sources)
  | some source =>
    match readSourceForm urlparse post source.sourceType "" with
    | .error error => (.raised error, sources)
    | .ok (_, error :: errors) =>
      (.refused 400 ("Invalid source: " ++ "; ".intercalate (error :: errors)), sources)
    | .ok (form, []) =>
      (.ok (), sources.update (fun id _ => id == sourceId) (applySourceFormData form false))

def deleteSource (profileId : String) (sourceId : Nat) (sources : AutoTable SourceConfig) :
    Answer Unit × AutoTable SourceConfig :=
  match ownSource profileId sourceId sources with
  | none => (.notFound, sources)
  | some _ => (.ok (), sources.delete fun id _ => id == sourceId)

def postedSourceIds (post : List (String × String)) : Except Error (List Nat) :=
  ((postedList "source_ids" post).filter isDigit).mapM fun value => (intOfText value).map Int.toNat

/-- What stands before the fields of a row in a bulk request. -/
def sourceKey (sourceId : Nat) : String :=
  "source_" ++ toString sourceId ++ "__"

def editableSource (profileId sourceType : String) (sources : AutoTable SourceConfig) (sourceId : Nat) :
    Option SourceConfig :=
  (sources.rows.lookup sourceId).filter fun source =>
    source.profileId = profileId ∧ source.sourceType = sourceType

/-- The first loop of `save_sources`. -/
def sourceRowErrors (post : List (String × String)) (editable : Nat → Option SourceConfig) :
    List Nat → Except Error (List String)
  | [] => .ok []
  | sourceId :: sourceIds =>
    match editable sourceId with
    | none => sourceRowErrors post editable sourceIds
    | some source =>
      if postedBool (sourceKey sourceId ++ "delete") "" post then
        sourceRowErrors post editable sourceIds
      else do
        let read ← readSourceForm urlparse post source.sourceType (sourceKey sourceId)
        let errors ← sourceRowErrors post editable sourceIds
        return read.2.map (fun error => "source " ++ toString sourceId ++ ": " ++ error) ++ errors

/-- The second loop: the exception that leaves it, and the table. A row that it has deleted has no id
any more, and can be neither saved nor deleted. -/
def saveSourceRows (post : List (String × String)) (editable : Nat → Option SourceConfig) :
    List Nat → List Nat → AutoTable SourceConfig → Option Error × AutoTable SourceConfig
  | _, [], sources => (none, sources)
  | deleted, sourceId :: sourceIds, sources =>
    match editable sourceId with
    | none => saveSourceRows post editable deleted sourceIds sources
    | some source =>
      if sourceId ∈ deleted then (some .valueError, sources)
      else if postedBool (sourceKey sourceId ++ "delete") "" post then
        saveSourceRows post editable (sourceId :: deleted) sourceIds
          (sources.delete fun id _ => id == sourceId)
      else
        match sourceFormData post source.sourceType (sourceKey sourceId) with
        | .error error => (some error, sources)
        | .ok form =>
          saveSourceRows post editable deleted sourceIds
            (sources.update (fun id _ => id == sourceId) (applySourceFormData form true))

def saveSources (profileId sourceType : String) (post : List (String × String))
    (sources : AutoTable SourceConfig) : Answer Unit × AutoTable SourceConfig :=
  let sourceType := lower (strip sourceType)
  if sourceType ∉ ["youtube", "podcast"] then (.refused 400 "Invalid source_type", sources)
  else
    match postedSourceIds post with
    | .error error => (.raised error, sources)
    | .ok sourceIds =>
      let editable := editableSource profileId sourceType sources
      match sourceRowErrors urlparse post editable sourceIds with
      | .error error => (.raised error, sources)
      | .ok (error :: errors) =>
        (.refused 400 ("Invalid source: " ++ "; ".intercalate (error :: errors)), sources)
      | .ok [] =>
        match saveSourceRows post editable [] sourceIds sources with
        | (some error, sources) => (.raised error, sources)
        | (none, sources) => (.ok (), sources)

end

section
variable {urlparse : String → Except Error ParsedUrl} {post : List (String × String)}
  {form : SourceFormData}

end

end GetOffline
