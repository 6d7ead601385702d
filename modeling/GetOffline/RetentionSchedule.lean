import GetOffline.LibraryRows
import GetOffline.ScheduleSettings

set_option autoImplicit true

namespace GetOffline
open Python Execution

-- api/services/dashboard_actions.py

/-- `CONFIG_INTEGER_RULES`: the least value of a setting. None has a greatest one. -/
def configIntegerRules : List (String × Int) :=
  [("processing_workers", 1), ("auto_update_minutes", 0), ("auto_delete_content_days", 0),
    ("audio_quality", 0), ("ytdlp_video_max_height", 144), ("max_downloads", 1)]

/-- `CONFIG_ENUM_RULES`. -/
def configEnumRules : List (String × List String) :=
  [("audio_format", ["mp3", "m4a", "opus"]), ("video_format", ["mp4", "mkv"]),
    ("video_codec", ["h264", "hevc", "copy"])]

/-- A form as `request.POST.items()` gives it. -/
abbrev Form := Table String String

def invalidConfigKeys (post : Form) : List String :=
  let integers := configIntegerRules.filter fun rule =>
    (post.lookup ("config__" ++ rule.1)).any fun raw =>
      match intOfText (strip raw) with
      | .ok value => value < rule.2
      | .error _ => true
  let enums := configEnumRules.filter fun rule =>
    (post.lookup ("config__" ++ rule.1)).any fun raw => lower (strip raw) ∉ rule.2
  integers.map Prod.fst ++ enums.map Prod.fst

/-- The settings that a form posts. -/
def configItems (post : Form) : List (String × String) :=
  (post.entries.filter fun e => "config__".toList.isPrefixOf e.1.toList).map fun e =>
    (String.ofList (e.1.toList.drop "config__".length), e.2)

abbrev SettingsTable := Table (String × String) String

/-- The settings after the save's writes, of which the database takes so many (`none`: all). -/
def storeConfig (profileId : String) (post : Form) (writes : Option Nat) (settings : SettingsTable) :
    SettingsTable :=
  let items := configItems post
  (items.take (writes.getD items.length)).foldl (fun settings item =>
    AList.insert (profileId, item.1) item.2 settings) settings

/-- `save_config`: the settings and the schedules that it leaves. `newId` is the key of a schedule that it
inserts, and `acquired` tells whether it gets the profile's lock. -/
def saveConfig (profileId : String) (post : Form) (now : Instant) (newId : Nat) (acquired : Bool)
    (writes : Option Nat) (settings : SettingsTable) (schedules : ScheduleTable) :
    Answer Unit × SettingsTable × ScheduleTable :=
  if invalidConfigKeys post ≠ [] then
    (.refused 400 ("Invalid settings: " ++ ", ".intercalate (invalidConfigKeys post).dedup.mergeSort),
      settings, schedules)
  else if !acquired then (.refused 429 "Settings update busy", settings, schedules)
  else
    let settings := storeConfig profileId post writes settings
    if writes.any fun n => n ≤ (configItems post).length then
      (.raised .databaseError, settings, schedules)
    else
      match post.lookup "config__auto_update_minutes" with
      | none => (.ok (), settings, schedules)
      | some rawMinutes =>
        match syncUpdateDownloadsSchedule profileId rawMinutes now newId schedules with
        | .ok schedules => (.ok (), settings, schedules)
        | .error error => (.raised error, settings, schedules)

-- models/management/commands/run_scheduler.py

structure DefaultSchedule where
  profileId : String
  jobType : String
  intervalSeconds : Nat
  payload : Json
  idempotencyKeyTemplate : String

/-- `DEFAULT_SCHEDULES`. -/
def defaultSchedules : List DefaultSchedule :=
  [{ profileId := "default"
     jobType := "update_downloads"
     intervalSeconds := 3600
     payload := .object [("source", .string "scheduler")]
     idempotencyKeyTemplate := "scheduled:update_downloads:${profile_id}:${due_hour}" },
   { profileId := "default"
     jobType := "retention_cleanup"
     intervalSeconds := 86400
     payload := .object [("source", .string "scheduler")]
     idempotencyKeyTemplate := "scheduled:retention_cleanup:${profile_id}:${due_date}" }]

/-- `ScheduledJob.objects.get_or_create(...)`. -/
def installDefault (spec : DefaultSchedule) (now : Instant) (newId : Nat) (schedules : ScheduleTable) :
    Except Error ScheduleTable :=
  match schedules.keysWhere fun _ schedule =>
    schedule.profileId = spec.profileId && schedule.jobType = spec.jobType with
  | [] => .ok (AList.insert newId {
      profileId := spec.profileId
      jobType := spec.jobType
      enabled := true
      intervalSeconds := spec.intervalSeconds
      payload := spec.payload
      idempotencyKeyTemplate := spec.idempotencyKeyTemplate
      nextRunAt := now
      lastRunAt := none
      updatedAt := now } schedules)
  | [_] => .ok schedules
  | _ => .error (.other "MultipleObjectsReturned")

/-- `_install_defaults`. The database has a key for each of the defaults, or fails where it has none. -/
def installDefaults (now : Instant) : List DefaultSchedule → List Nat → ScheduleTable → ScheduleTable
  | spec :: specs, newId :: newIds, schedules =>
    match installDefault spec now newId schedules with
    | .ok schedules => installDefaults now specs newIds schedules
    | .error _ => schedules
  | _, _, schedules => schedules

/-- The settings of the profiles, and the scheduler with its schedules. -/
structure AutoDeleteWorld (P : Type) where
  settings : SettingsTable
  scheduler : ScheduleWorld P

/-- Profiles save their settings, the scheduler's command installs its defaults, and passes and workers
take their steps. -/
inductive AutoDeleteEvent (P : Type)
  | save (profileId : String) (post : Form) (now : Instant) (newId : Nat) (acquired : Bool)
      (writes : Option Nat)
  | install (now : Instant) (newIds : List Nat)
  | scheduler (event : ScheduleEvent P)

namespace AutoDeleteWorld
variable [DecidableEq P]

/-- Nobody has saved or installed anything yet. -/
def initial (db : Database) (messages : List Nat) : AutoDeleteWorld P where
  settings := ∅
  scheduler := .initial ∅ db messages

/-- The keys of new rows are new ones. -/
def step (w : AutoDeleteWorld P) : AutoDeleteEvent P → Option (AutoDeleteWorld P)
  | .save profileId post now newId acquired writes =>
    if w.scheduler.schedules.lookup newId = none then
      let saved := saveConfig profileId post now newId acquired writes w.settings w.scheduler.schedules
      some { settings := saved.2.1, scheduler := { w.scheduler with schedules := saved.2.2 } }
    else none
  | .install now newIds =>
    if newIds.Nodup ∧ ∀ newId ∈ newIds, w.scheduler.schedules.lookup newId = none then
      some { w with scheduler := { w.scheduler with
        schedules := installDefaults now defaultSchedules newIds w.scheduler.schedules } }
    else none
  | .scheduler event => (w.scheduler.step event).map fun scheduler => { w with scheduler }

end AutoDeleteWorld

/-- The profile's `auto_delete_content_days` is a positive number. -/
def AutoDeletes (profileId : String) (settings : SettingsTable) : Prop :=
  ∃ text days, settings.lookup (profileId, "auto_delete_content_days") = some text ∧
    intOfText text = .ok days ∧ 0 < days

/-- An enabled schedule of the profile, which every pass takes up that comes at its time and that has no
more schedules to do than its limit admits. -/
def RetentionScheduled (profileId : String) (schedules : ScheduleTable) : Prop :=
  ∃ id schedule, schedules.lookup id = some schedule ∧ schedule.profileId = profileId ∧
    schedule.jobType = "retention_cleanup" ∧ schedule.enabled = true ∧
    ∀ now (limit : Int), schedule.nextRunAt ≤ now → (ScheduleWorld.dueRuns now schedules).length ≤ limit →
      id ∈ dueIds now limit schedules

end GetOffline
