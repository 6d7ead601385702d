import GetOffline.Runner
import Mathlib.Data.List.Infix

set_option autoImplicit true

namespace GetOffline
open Python

/-- `part in text`. -/
def textContains (part text : String) : Bool :=
  decide (part.toList <:+: text.toList)

def isYoutubeVideoUrl (url : String) : Bool :=
  let lowered := lower url
  textContains "youtube.com/watch" lowered || textContains "youtu.be/" lowered ||
    textContains "youtube.com/shorts/" lowered

/-- The URL that a job names, before it is turned into one of a video. -/
def requestedUrl (render : Json → String) (payload : List (String × Json)) : String :=
  strip <| Json.str render <|
    Json.orElse (Json.get "media_url" payload) <| Json.orElse (Json.get "item_url" payload) <|
      Json.orElse (Json.get "url" payload) (.string "")

def fallbackUid (render : Json → String) (payload : List (String × Json)) : String :=
  strip (Json.str render (Json.orElse (Json.get "item_uid" payload) (.string "")))

/-- `_download_request_from_payload`: the URL, the source and its name, unless the job is skipped.
`resolve` is what `resolve_youtube_source_name` returns, or `none` if it raises. -/
def downloadRequestFromPayload (render : Json → String) (resolve : String → Option String)
    (payload : List (String × Json)) : Option (String × SourceType × String) :=
  let downloadUrl := requestedUrl render payload
  if downloadUrl = "" then none
  else
    let sourceType := (parseJsonEnum SourceType (Json.get "source_type" payload)).getD .youtube
    let sourceName :=
      strip (Json.str render (Json.orElse (Json.get "source_name" payload) (.string "")))
    let sourceName :=
      if sourceName = "" ∧ sourceType = .youtube then (resolve downloadUrl).getD ""
      else sourceName
    let sourceName :=
      if sourceName = "" then
        strip (Json.str render (Json.orElse (Json.get "source_type" payload)
          (.string "GetOffline")))
      else sourceName
    if sourceType = .youtube ∧ isYoutubeVideoUrl downloadUrl = false then
      let fallbackUid := fallbackUid render payload
      if fallbackUid.length ≠ 11 then none
      else some ("https://www.youtube.com/watch?v=" ++ fallbackUid, sourceType, sourceName)
    else some (downloadUrl, sourceType, sourceName)

end GetOffline
