import GetOffline.Interruptible
import GetOffline.JsonText
import Mathlib.Algebra.Order.Ring.Rat

set_option autoImplicit true

namespace GetOffline
open Python Interruptible Interruptible.Comp

-- cli/app.py

inductive ConsoleError
  | playback
  | timeoutExpired
  | indexError
  | attributeError
  | other (error : Error)
deriving DecidableEq

/-- What the console has done that can be seen from outside, and `drawn`, `playing` and `survived`: how
a screen has been laid out, that `playing_id` has been set, and that a wait for a killed player has timed
out. -/
inductive ConsoleEvent
  | request (path : String)
  | playbackStart (id : Int)
  | progress (id : Int) (position : ℚ) (reason : String)
  | media (id : Int)
  | clock
  | key
  | prompt
  | log
  | spawn (seek : ℚ)
  | launched (player : Nat) (seek volume : ℚ)
  | observed (player : Nat) (exited : Bool)
  | terminated (player : Nat)
  | killed (player : Nat)
  | survived (player : Nat)
  | playing (id : Int)
  | drawn (offset selected height count : Nat)

/-- What comes back, each call having its part of it. -/
structure ConsoleReply where
  raised : Option ConsoleError := none
  payload : List (String × Json) := []
  cached : Bool := false
  text : String := ""
  key : Int := -1
  exited : Bool := false
  returncode : Int := 0
  time : ℚ := 0
  height : Nat := 24

/-- The surroundings: every answer may depend on all that has been done so far, the last thing first. -/
structure ConsoleHost where
  render : Json → String
  /-- `float()`. -/
  toFloat : Json → Except Error ℚ
  /-- `dict()` of what is not an object. -/
  toDict : Json → Except Error (List (String × Json))
  /-- Whether there is a player. -/
  available : Bool
  reply : List ConsoleEvent → ConsoleReply

structure PlaybackSession where
  process : Nat
  active : Bool
  volume : ℚ

structure Console where
  volume : ℚ
  filterMode : String := "unplayed"
  episodes : List Json := []
  jobs : List Json := []
  selected : Nat := 0
  offset : Nat := 0
  playingId : Option Int := none
  playStartedAt : ℚ := 0
  playStartPosition : ℚ := 0
  playbackSession : Option PlaybackSession := none
  lastProgressAt : ℚ := 0
  shutDown : Bool := false

structure ConsoleWorld where
  console : Console
  launches : Nat
  past : List ConsoleEvent

abbrev ConsoleCall := Comp ConsoleWorld ConsoleError

namespace Console

def record (event : ConsoleEvent) : ConsoleCall Unit :=
  change fun w => { w with past := event :: w.past }

def update (f : Console → Console) : ConsoleCall Unit :=
  change fun w => { w with console := f w.console }

def current : ConsoleCall Console := do
  let w ← look
  return w.console

/-- A call and its answer, unless it raises. -/
def ask (host : ConsoleHost) (event : ConsoleEvent) : ConsoleCall ConsoleReply := do
  record event
  let w ← look
  let reply := host.reply w.past
  match reply.raised with
  | some error => halt (.raised error)
  | none => return reply

/-- `time.monotonic()`. -/
def monotonic (host : ConsoleHost) : ConsoleCall ℚ := do
  record .clock
  let w ← look
  return (host.reply w.past).time

def attempt (x : Except Error α) : ConsoleCall α :=
  match x with
  | .ok a => pure a
  | .error e => halt (.raised (.other e))

def clampVolume (volume : ℚ) : ℚ :=
  max 0 (min volume 1)

/-- `list(value or [])`. -/
def listOf : Json → Except Error (List Json)
  | .array items => .ok items
  | .string text => .ok (text.toList.map fun c => .string (String.ofList [c]))
  | .object items => .ok (items.map fun item => .string item.1)
  | value => if value.truthy then .error .typeError else .ok []

/-- `value[key]`. -/
def itemOf (key : String) : Json → Except Error Json
  | .object items => (Json.get key items).elim (.error .keyError) .ok
  | _ => .error .typeError

-- LocalProcessPlaybackBackend

/-- Whether the player has exited: `poll()`, or `wait()` until its timeout. -/
def observe (host : ConsoleHost) (player : Nat) : ConsoleCall Bool := do
  let w ← look
  let exited := (host.reply w.past).exited
  record (.observed player exited)
  return exited

/-- `_launch_player`; without the player's process there is a `PlaybackError`. -/
def launchPlayer (host : ConsoleHost) (seek volume : ℚ) : ConsoleCall Nat := do
  let _ ← ask host (.spawn seek)
  let w ← look
  change fun w => { w with launches := w.launches + 1 }
  record (.launched w.launches seek volume)
  return w.launches

/-- `start`. -/
def startPlayer (host : ConsoleHost) (seek volume : ℚ) : ConsoleCall PlaybackSession := do
  if !host.available then halt (.raised .playback)
  else
    let _ ← ask host .log
    let process ← launchPlayer host seek volume
    let w ← look
    if ← observe host process then
      if (host.reply w.past).returncode = 0 ∧ 0 < seek then
        let _ ← ask host .log
        let retry ← launchPlayer host 0 volume
        if ← observe host retry then halt (.raised .playback)
        else return ⟨retry, true, clampVolume volume⟩
      else halt (.raised .playback)
    else return ⟨process, true, clampVolume volume⟩

/-- A player that still runs is terminated, and killed when that does not help. -/
def endProcess (host : ConsoleHost) (player : Nat) : ConsoleCall Unit := do
  if ← observe host player then return ()
  else
    record (.terminated player)
    if ← observe host player then return ()
    else
      record (.killed player)
      if ← observe host player then return ()
      else
        record (.survived player)
        halt (.raised .timeoutExpired)

/-- `stop`. -/
def stopPlayer (host : ConsoleHost) (session : PlaybackSession) : ConsoleCall Unit := do
  endProcess host session.process
  update fun c => { c with playbackSession := c.playbackSession.map fun s => { s with active := false } }

def isRunning (host : ConsoleHost) (session : PlaybackSession) : ConsoleCall Bool := do
  if !session.active then return false
  else
    let exited ← observe host session.process
    return !exited

-- GetOfflineConsole

def refresh (host : ConsoleHost) : ConsoleCall Unit := do
  let c ← current
  let reply ← ask host (.request ("frontend_library " ++ c.filterMode))
  let episodes ← attempt (listOf ((Json.get "downloads" reply.payload).getD .null))
  update fun c => { c with episodes := episodes }
  let jobs ← attempt (listOf ((Json.get "jobs" reply.payload).getD .null))
  update fun c => { c with jobs := jobs, selected := min c.selected (c.episodes.length - 1) }

def currentEpisode : ConsoleCall (Option Json) := do
  let c ← current
  if c.episodes = [] then return none
  else
    match c.episodes[c.selected]? with
    | some episode => return some episode
    | none => halt (.raised .indexError)

def estimatedPosition (host : ConsoleHost) : ConsoleCall ℚ := do
  let c ← current
  if c.playingId = none then return 0
  else
    let now ← monotonic host
    return c.playStartPosition + max (now - c.playStartedAt) 0

def saveProgress (host : ConsoleHost) (reason : String) : ConsoleCall Unit := do
  let c ← current
  match c.playingId with
  | none => return ()
  | some id =>
    let position ← estimatedPosition host
    let _ ← ask host (.progress id position reason)

def stop (host : ConsoleHost) (reason : String) : ConsoleCall Unit := do
  let c ← current
  match c.playbackSession with
  | some session => stopPlayer host session
  | none => pure ()
  saveProgress host reason
  update fun c => { c with playbackSession := none, playingId := none }

def shutdown (host : ConsoleHost) : ConsoleCall Unit := do
  let c ← current
  if c.shutDown then return ()
  else
    update fun c => { c with shutDown := true }
    stop host "quit"

/-- `_draw`, as far as the list goes. -/
def draw (host : ConsoleHost) : ConsoleCall Unit := do
  let w ← look
  let height := (host.reply w.past).height
  let listHeight := max (height - 6) 1
  update fun c => { c with offset := min c.offset c.selected }
  update fun c => { c with
    offset := if c.offset + listHeight ≤ c.selected then c.selected - listHeight + 1 else c.offset }
  let c ← current
  let visible := (c.episodes.drop c.offset).take listHeight
  if visible.any fun episode => !episode matches .object _ then halt (.raised .attributeError)
  else record (.drawn c.offset c.selected height c.episodes.length)

/-- `download_media_file`: nothing is drawn and fetched when the file is there. -/
def downloadMediaFile (host : ConsoleHost) (id : Int) : ConsoleCall Unit := do
  let found ← ask host (.media id)
  if found.cached then return ()
  else
    draw host
    let _ ← ask host (.media id)

/-- `playback_start`, and what is needed to play: the episode's item and where to begin. -/
def startPosition (host : ConsoleHost) (id : Int) (episode : Json) : ConsoleCall ℚ := do
  let reply ← ask host (.request ("frontend_player " ++ toString id))
  let item ← attempt (match Json.orElse (Json.get "item" reply.payload) episode with
    | .object item => .ok item
    | value => host.toDict value)
  let seek ← attempt (host.toFloat (Json.orElse (Json.get "seek_seconds" reply.payload)
    (Json.orElse (Json.get "last_position_seconds" item) (.int 0))))
  let _ ← ask host (.playbackStart id)
  return seek

/-- The file is fetched and the player started; a `PlaybackError` leaves things as they are. -/
def beginPlayback (host : ConsoleHost) (id : Int) (seek : ℚ) : ConsoleCall Bool :=
  tryCatch
    (do
      downloadMediaFile host id
      let c ← current
      let session ← startPlayer host seek c.volume
      update fun c => { c with playbackSession := some session }
      return true)
    fun error => if error = .playback then return false else halt (.raised error)

def playSelected (host : ConsoleHost) : ConsoleCall Unit := do
  match ← currentEpisode with
  | none => return ()
  | some episode =>
    if !episode.truthy || !host.available then return ()
    else
      stop host "switch"
      let pk ← attempt (itemOf "id" episode)
      let id ← attempt pk.toInt
      let seek ← startPosition host id episode
      if ← beginPlayback host id seek then
        update fun c => { c with playingId := some id, playStartPosition := seek }
        record (.playing id)
        let now ← monotonic host
        update fun c => { c with playStartedAt := now, lastProgressAt := 0 }
      else return ()

/-- The local player takes the volume only when it is started. -/
def adjustVolume (delta : ℚ) : ConsoleCall Unit := do
  update fun c => { c with volume := clampVolume (c.volume + delta) }
  update fun c => { c with
    playbackSession := c.playbackSession.map fun s => { s with volume := clampVolume c.volume } }

/-- `mark_selected` and `toggle_favorite`: the action may depend on the episode. -/
def actOnSelected (host : ConsoleHost) (action : Json → Except Error String) : ConsoleCall Unit := do
  match ← currentEpisode with
  | none => return ()
  | some episode =>
    if !episode.truthy then return ()
    else
      let name ← attempt (action episode)
      let pk ← attempt (itemOf "id" episode)
      let _ ← ask host (.request
        ("/dashboard/downloads/" ++ Json.str host.render pk ++ "/" ++ name))
      refresh host

def markSelected (host : ConsoleHost) (played : Bool) : ConsoleCall Unit :=
  actOnSelected host fun _ => .ok (if played then "played" else "unplayed")

def toggleFavorite (host : ConsoleHost) : ConsoleCall Unit :=
  actOnSelected host fun episode =>
    match episode with
    | .object items =>
      .ok (if ((Json.get "favorite" items).getD .null).truthy then "unfavorite" else "favorite")
    | _ => .error (.other "AttributeError")

def addDownload (host : ConsoleHost) : ConsoleCall Unit := do
  let answer ← ask host .prompt
  if answer.text = "" then return ()
  else
    let _ ← ask host (.request ("download " ++ answer.text))
    refresh host

def search (host : ConsoleHost) : ConsoleCall Unit := do
  let answer ← ask host .prompt
  if answer.text = "" then return ()
  else
    let reply ← ask host (.request ("search " ++ answer.text))
    let results ← attempt (listOf ((Json.get "results" reply.payload).getD .null))
    update fun c => { c with episodes := results, selected := 0, filterMode := "search" }

def setFilter (host : ConsoleHost) (value : String) : ConsoleCall Unit := do
  update fun c => { c with filterMode := value }
  refresh host

def moveBy (f : Console → Nat) : ConsoleCall Unit :=
  update fun c => { c with selected := f c }

/-- `_handle_key`, by the codes of the characters and of the keys of curses. -/
def handleKey (host : ConsoleHost) (key : Int) : ConsoleCall Unit :=
  if key = 259 ∨ key = 107 then moveBy fun c => c.selected - 1
  else if key = 258 ∨ key = 106 then moveBy fun c => min (c.episodes.length - 1) (c.selected + 1)
  else if key = 338 ∨ key = 32 then moveBy fun c => min (c.episodes.length - 1) (c.selected + 10)
  else if key = 339 then moveBy fun c => c.selected - 10
  else if key = 10 ∨ key = 343 ∨ key = 112 then playSelected host
  else if key = 115 then stop host "stop"
  else if key = 45 ∨ key = 95 then adjustVolume (-1 / 10)
  else if key = 43 ∨ key = 61 then adjustVolume (1 / 10)
  else if key = 114 then refresh host
  else if key = 47 then search host
  else if key = 97 then addDownload host
  else if key = 109 then markSelected host true
  else if key = 117 then markSelected host false
  else if key = 102 then toggleFavorite host
  else if key = 49 then setFilter host "unplayed"
  else if key = 50 then setFilter host "played"
  else if key = 51 then setFilter host "favorites"
  else if key = 52 then setFilter host "all"
  else return ()

def sendPeriodicProgress (host : ConsoleHost) : ConsoleCall Unit := do
  let c ← current
  match c.playingId, c.playbackSession with
  | some _, some session =>
    if ← isRunning host session then
      let now ← monotonic host
      if 5 ≤ now - c.lastProgressAt then
        update fun c => { c with lastProgressAt := now }
        saveProgress host "timeupdate"
      else return ()
    else return ()
  | _, _ => return ()

/-- A player that has gone by itself. -/
def reapPlayer (host : ConsoleHost) : ConsoleCall Unit := do
  let c ← current
  match c.playbackSession with
  | none => return ()
  | some session =>
    if ← isRunning host session then return ()
    else
      saveProgress host "stopped"
      stopPlayer host session
      update fun c => { c with playbackSession := none, playingId := none }
      refresh host

/-- One turn of the loop of `run`; true when the user quits. -/
def turn (host : ConsoleHost) : ConsoleCall Bool := do
  reapPlayer host
  sendPeriodicProgress host
  draw host
  let reply ← ask host .key
  if reply.key = -1 then return false
  else if reply.key = 113 ∨ reply.key = 27 then return true
  else
    handleKey host reply.key
    return false

/-- So many turns, or fewer when the user quits. -/
def turns (host : ConsoleHost) : Nat → ConsoleCall Bool
  | 0 => return false
  | n + 1 => do
    if ← turn host then return true
    else turns host n

def session (host : ConsoleHost) (n : Nat) : ConsoleCall Bool := do
  refresh host
  turns host n

/-- `run`, when it ends within so many turns: with the user or with an exception. -/
def run (host : ConsoleHost) (n : Nat) (w : ConsoleWorld) :
    Option (Except (Halt ConsoleError) Unit × ConsoleWorld) :=
  match session host n w with
  | (.ok false, _) => none
  | (.ok true, w) => some (shutdown host w)
  | (.error halted, w) =>
    match shutdown host w with
    | (.ok (), w) => some (.error halted, w)
    | (.error halted, w) => some (.error halted, w)

/-- `GetOfflineConsole(...)`, before anything has been done. -/
def initial (volume : ℚ) : ConsoleWorld where
  console := { volume := clampVolume volume }
  launches := 0
  past := []

end Console

end GetOffline
