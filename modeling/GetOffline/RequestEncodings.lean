import GetOffline.JobRequests
import GetOffline.PlaybackRule

set_option autoImplicit true

namespace GetOffline
open Python

-- api/views.py

/-- A POST request as the framework has decoded it: the JSON value of the body, where the content type is
JSON and the body is one, and the fields of a form with their values. -/
structure PostRequest where
  isJson : Bool
  body : Option Json
  post : List (String × List String)

/-- What `_json_body(request) or request.POST` is: a dict, or a `QueryDict`. -/
inductive RequestData
  | dict (items : List (String × Json))
  | queryDict (items : List (String × List String))

/-- `_json_body`. -/
def jsonBody (request : PostRequest) : List (String × Json) :=
  if request.isJson then (request.body.getD .null).dict else []

def requestData (request : PostRequest) : RequestData :=
  if jsonBody request = [] then .queryDict request.post else .dict (jsonBody request)

namespace RequestData

/-- The items as `get` sees them: of several values in a form the last. -/
def items : RequestData → List (String × Json)
  | .dict items => items
  | .queryDict items => items.filterMap fun item => (item.2.getLast?).map fun value =>
      (item.1, .string value)

/-- `dict(data)`: what stands under a key of a form is the list of its values. -/
def toDict : RequestData → List (String × Json)
  | .dict items => items
  | .queryDict items => items.map fun item => (item.1, .array (item.2.map .string))

end RequestData

/-- `data.get("episode_id") or data.get("download_id")`. -/
def requestedEpisode (data : List (String × Json)) : Json :=
  Json.orElse (Json.get "episode_id" data) ((Json.get "download_id" data).getD .null)

/-- The tables, the jobs, and the ids of the jobs that the broker has been told of. -/
structure ApiState where
  tables : LibraryTables
  database : Database
  published : List Nat

/-- What an endpoint answers. Whatever exception leaves a view, the client sees the same. -/
inductive ApiResponse
  | playback (state : PlaybackState)
  | download (jobId : Nat) (status : JobStatus)
  | refused (status : Nat) (error : String)
  | notFound
  | serverError

/-- What the endpoints take from their surroundings. -/
structure ApiCall where
  profileId : String
  now : Instant
  createdAt : Instant
  updatedAt : Instant
  brokerUp : Bool

inductive ApiEndpoint
  | playbackStart
  | playbackProgress
  | playbackComplete
  | download
deriving DecidableEq

namespace ApiState

/-- `get_object_or_404(Download, pk=episode_id, profile_id=...)`: the id that the value names, if it is one
at all. -/
def findEpisode (profileId : String) (episodeId : Json) (s : ApiState) :
    Except Error (Option (Nat × DownloadRow)) :=
  match episodeId with
  | .null => .ok none
  | episodeId => episodeId.toInt.map fun id =>
      if 0 ≤ id then (s.tables.ownDownload profileId id.toNat).map fun row => (id.toNat, row) else none

def playbackStart (call : ApiCall) (data : List (String × Json)) (s : ApiState) :
    ApiResponse × ApiState :=
  match s.findEpisode call.profileId (requestedEpisode data) with
  | .error _ => (.serverError, s)
  | .ok none => (.notFound, s)
  | .ok (some (id, row)) => (.playback (row.playbackState id), s)

/-- What `playback_progress` and `playback_complete` do with their data. -/
def savePlayback (render : Json → String) (call : ApiCall) (data : List (String × Json))
    (s : ApiState) : ApiResponse × ApiState :=
  match s.findEpisode call.profileId (requestedEpisode data) with
  | .error _ => (.serverError, s)
  | .ok none => (.notFound, s)
  | .ok (some (id, row)) =>
    match buildUpdate render (Json.get "position_seconds" data) (Json.get "reason" data) row with
    | none => (.refused 400 "Invalid position_seconds", s)
    | some update =>
      (.playback ((update.apply call.now row).playbackState id),
        { s with tables := { s.tables with
          downloads := s.tables.downloads.update (fun other _ => other == id) (update.apply call.now) } })

def download (render : Json → String) (call : ApiCall) (data : List (String × Json)) (s : ApiState) :
    ApiResponse × ApiState :=
  match downloadArgs render call.profileId data with
  | none => (.refused 400 "Missing url", s)
  | some args =>
    let (jobId, database) := createJob args call.createdAt call.updatedAt s.database
    let s := { s with database }
    if call.brokerUp then
      (.download jobId (((database.jobs.lookup jobId).map Job.status).getD .queued),
        { s with published := s.published ++ [jobId] })
    else (.serverError, s)

/-- The four endpoints. `playback_complete` alone makes a dict of its data. -/
def serve (render : Json → String) (call : ApiCall) (endpoint : ApiEndpoint) (request : PostRequest)
    (s : ApiState) : ApiResponse × ApiState :=
  let data := requestData request
  match endpoint with
  | .playbackStart => s.playbackStart call data.items
  | .playbackProgress => s.savePlayback render call data.items
  | .playbackComplete =>
    s.savePlayback render call (Json.set "reason" (.string "complete") data.toDict)
  | .download => s.download render call data.items

end ApiState

/-- The fields as a JSON object of strings. -/
def asJson (fields : List (String × String)) : PostRequest where
  isJson := true
  body := some (.object (fields.map fun field => (field.1, .string field.2)))
  post := []

/-- The fields as a urlencoded form. -/
def asForm (fields : List (String × String)) : PostRequest where
  isJson := false
  body := none
  post := fields.map fun field => (field.1, [field.2])

/-- The text by which a JSON object names its episode. -/
def namedEpisode (fields : List (String × String)) : Option String :=
  ((fields.lookup "episode_id").filter fun text => text ≠ "").or (fields.lookup "download_id")

section
variable {fields : List (String × String)} {call : ApiCall} {s : ApiState}

theorem get_map (f : String → Json) (key : String) (fields : List (String × String)) :
    Json.get key (fields.map fun field => (field.1, f field.2)) = (fields.lookup key).map f := by
  induction fields with
  | nil => rfl
  | cons field fields ih =>
    rw [List.map_cons, Json.get, List.lookup_cons, List.lookup_cons]
    cases key == field.1 with
    | true => rfl
    | false => exact ih

theorem requestData_asJson (fields : List (String × String)) :
    (requestData (asJson fields)).items = fields.map (fun field => (field.1, .string field.2)) ∧
      (requestData (asJson fields)).toDict = fields.map fun field => (field.1, .string field.2) := by
  have hbody : jsonBody (asJson fields) = fields.map fun field => (field.1, .string field.2) := rfl
  rw [requestData, hbody]
  cases fields with
  | nil => exact ⟨rfl, rfl⟩
  | cons field fields => exact ⟨rfl, rfl⟩

theorem requestData_asForm (fields : List (String × String)) :
    (requestData (asForm fields)).items = fields.map (fun field => (field.1, .string field.2)) ∧
      (requestData (asForm fields)).toDict =
        fields.map fun field => (field.1, .array [.string field.2]) := by
  have hdata : requestData (asForm fields) =
      .queryDict (fields.map fun field => (field.1, [field.2])) := rfl
  rw [hdata, RequestData.items, RequestData.toDict, List.filterMap_map, List.map_map]
  exact ⟨congrFun List.filterMap_eq_map fields, rfl⟩

theorem requestedEpisode_set (value : Json) (data : List (String × Json)) :
    requestedEpisode (Json.set "reason" value data) = requestedEpisode data := by
  rw [requestedEpisode, Json.get_set_of_ne (by decide), Json.get_set_of_ne (by decide), requestedEpisode]

theorem requestedEpisode_strings (fields : List (String × String)) :
    requestedEpisode (fields.map fun field => (field.1, .string field.2)) =
      (namedEpisode fields).elim .null .string := by
  rw [requestedEpisode, get_map, get_map, namedEpisode]
  cases fields.lookup "episode_id" with
  | none =>
    cases fields.lookup "download_id" with
    | none => rfl
    | some text => rfl
  | some text =>
    by_cases htext : text = ""
    · subst htext
      cases fields.lookup "download_id" with
      | none => rfl
      | some text => rfl
    · have htruthy : (Json.string text).truthy = true := bne_iff_ne.2 htext
      rw [Option.map_some, Json.orElse, if_pos htruthy, Option.filter_some, if_pos (decide_eq_true htext),
        Option.some_or]
      rfl

/-- A list is no id, and every field of a form that has been made a dict is one. -/
theorem requestedEpisode_lists (fields : List (String × String)) :
    (fields.lookup "episode_id" = none ∧ fields.lookup "download_id" = none ∧
      requestedEpisode (fields.map fun field => (field.1, .array [.string field.2])) = .null) ∨
    ¬ (fields.lookup "episode_id" = none ∧ fields.lookup "download_id" = none) ∧
      ∃ values, requestedEpisode (fields.map fun field => (field.1, .array [.string field.2])) =
        .array values := by
  rw [requestedEpisode, get_map fun text => .array [.string text], get_map fun text => .array [.string text]]
  cases fields.lookup "episode_id" with
  | none =>
    cases fields.lookup "download_id" with
    | none => exact .inl ⟨rfl, rfl, rfl⟩
    | some text => exact .inr ⟨by rintro ⟨-, ⟨⟩⟩, _, rfl⟩
  | some text => exact .inr ⟨by rintro ⟨⟨⟩, -⟩, _, rfl⟩

namespace ApiState

/-- Only an id that is no number makes a save fail. -/
theorem savePlayback_eq_serverError (render : Json → String) (call : ApiCall)
    (data : List (String × Json)) (s : ApiState) :
    s.savePlayback render call data = (.serverError, s) ↔
      ∃ e, s.findEpisode call.profileId (requestedEpisode data) = .error e := by
  unfold savePlayback
  cases s.findEpisode call.profileId (requestedEpisode data) with
  | error e => exact iff_of_true rfl ⟨e, rfl⟩
  | ok found =>
    refine iff_of_false ?_ ?_
    · cases found with
      | none =>
        intro h
        cases (Prod.mk.inj h).1
      | some found =>
        dsimp only
        cases buildUpdate render (Json.get "position_seconds" data) (Json.get "reason" data) found.2 with
        | none =>
          intro h
          cases (Prod.mk.inj h).1
        | some update =>
          intro h
          cases (Prod.mk.inj h).1
    · rintro ⟨e, h⟩
      cases h

theorem findEpisode_text (profileId text : String) (s : ApiState) :
    (∃ e, s.findEpisode profileId (.string text) = .error e) ↔ ∃ e, intOfText text = .error e := by
  rw [findEpisode, Json.toInt]
  · cases intOfText text with
    | error e => exact iff_of_true ⟨e, rfl⟩ ⟨e, rfl⟩
    | ok id =>
      refine iff_of_false ?_ ?_
      · rintro ⟨e, h⟩
        cases h
      · rintro ⟨e, h⟩
        cases h
  · intro h
    cases h

end ApiState

end

/-- A JSON object and a form are served alike, except where `playback_complete` gets a form whose fields
name an episode: it fails, and the JSON object fails only when the name is no number. -/
theorem encoding_independent_iff (render : Json → String) (call : ApiCall) (endpoint : ApiEndpoint)
    (fields : List (String × String)) (s : ApiState) :
    s.serve render call endpoint (asJson fields) = s.serve render call endpoint (asForm fields) ↔
      (endpoint = .playbackComplete →
        (fields.lookup "episode_id" = none ∧ fields.lookup "download_id" = none) ∨
        ∃ text e, namedEpisode fields = some text ∧ intOfText text = .error e) := by
  obtain ⟨hitems, hdict⟩ := requestData_asJson fields
  obtain ⟨hitems', hdict'⟩ := requestData_asForm fields
  have hsame {α : Type} (f : List (String × Json) → α) :
      f (requestData (asJson fields)).items = f (requestData (asForm fields)).items := by
    rw [hitems, hitems']
  cases endpoint with
  | playbackStart => exact iff_of_true (hsame fun data => s.playbackStart call data) (by rintro ⟨⟩)
  | playbackProgress => exact iff_of_true (hsame fun data => s.savePlayback render call data) (by rintro ⟨⟩)
  | download => exact iff_of_true (hsame fun data => s.download render call data) (by rintro ⟨⟩)
  | playbackComplete =>
    rw [imp_iff_right rfl]
    dsimp only [ApiState.serve]
    rw [hdict, hdict']
    rcases requestedEpisode_lists fields with ⟨hepisode, hdownload, hlists⟩ | ⟨hnamed, values, hlists⟩
    · -- neither names an episode
      have hstrings := requestedEpisode_strings fields
      rw [namedEpisode, hepisode, hdownload] at hstrings
      refine iff_of_true ?_ (.inl ⟨hepisode, hdownload⟩)
      rw [ApiState.savePlayback, ApiState.savePlayback, requestedEpisode_set, requestedEpisode_set,
        hstrings, hlists]
      rfl
    · have hform : s.savePlayback render call (Json.set "reason" (.string "complete")
          (fields.map fun field => (field.1, .array [.string field.2]))) = (.serverError, s) := by
        rw [ApiState.savePlayback_eq_serverError, requestedEpisode_set, hlists]
        exact ⟨.typeError, rfl⟩
      rw [hform, ApiState.savePlayback_eq_serverError, requestedEpisode_set, requestedEpisode_strings,
        or_iff_right hnamed]
      cases namedEpisode fields with
      | none =>
        refine iff_of_false ?_ ?_
        · rintro ⟨e, h⟩
          cases h
        · rintro ⟨text, e, h, -⟩
          cases h
      | some text =>
        rw [Option.elim_some, ApiState.findEpisode_text]
        constructor
        · rintro ⟨e, h⟩
          exact ⟨text, e, rfl, h⟩
        · rintro ⟨text', e, htext, h⟩
          obtain rfl := Option.some.inj htext
          exact ⟨e, h⟩

/-- An episode is completed by a JSON object; the same fields in a form fail. -/
theorem form_completes_nothing :
    let s : ApiState := ⟨unplayedItem, .empty, []⟩
    let call : ApiCall := ⟨"p", 5, 5, 5, true⟩
    s.serve (fun _ => "") call .playbackComplete (asJson [("episode_id", "0")]) ≠
      s.serve (fun _ => "") call .playbackComplete (asForm [("episode_id", "0")]) := by
  intro s call h
  have hplayed := congrArg (fun r => (r.2.tables.downloads.rows.lookup 0).map DownloadRow.played) h
  exact absurd hplayed (by decide +kernel)

end GetOffline
