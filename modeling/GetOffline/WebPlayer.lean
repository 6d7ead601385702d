import GetOffline.Listings
import Mathlib.Data.Rat.Floor

set_option autoImplicit true

namespace GetOffline
open Python

-- frontend/static/app/player.js

/-- What the player has sent, logged or opened. -/
inductive WebPlayer.Act
  | posted (id : Nat) (positionSeconds : ℚ) (reason : String) (forced : Bool)
  | beacon (id : Nat) (positionSeconds : ℚ) (reason : String) (accepted : Bool)
  | sought (target currentTime : ℚ)
  | opened (id : Nat)
  | assigned (id : Nat)
deriving DecidableEq

/-- What waits for `nextLibraryId()`. -/
inductive WebPlayer.Goal
  | updateNextButton
  | advanceToNextPlaylistItem

/-- An `await` that has not come back: of the save at the end of an item, of `nextLibraryId()`, which may know
its answer, of the next item, and of `media.play()`. -/
inductive WebPlayer.Wait
  | ended
  | nextLibraryId (goal : Goal) (known : Nat)
  | item (nextId : Nat)
  | play

/-- What a request comes to: an exception, an answer that is not ok, the id of the next item or `0`, or the
kind of an item. -/
inductive WebPlayer.Reply
  | failed
  | refused
  | next (id : Nat)
  | mediaKind (kind : String)

/-- The variables of the script and what it uses of the page. -/
structure WebPlayer where
  playlistMode : Bool
  playlistItems : List Nat
  seek : ℚ
  currentItemId : Nat
  currentMediaKind : String
  lastSentSeconds : ℚ
  pendingForcedSave : Bool
  hasAppliedInitialSeek : Bool
  nextItemInFlight : Bool
  standaloneNextId : Nat
  /-- The item whose file the element has. -/
  src : Nat
  currentTime : ℚ
  duration : Option ℚ
  paused : Bool
  /-- The item that the form is for. -/
  action : Nat
  positionSeconds : ℚ
  nextDisabled : Bool
  waiting : List WebPlayer.Wait
  /-- The last thing first. -/
  past : List WebPlayer.Act

namespace WebPlayer

/-- `toFixed(3)`. -/
def toFixed (seconds : ℚ) : ℚ :=
  ⌊seconds * 1000 + 1 / 2⌋ / 1000

def nextPlaylistId (p : WebPlayer) : Nat :=
  match p.playlistItems.idxOf? p.currentItemId with
  | some currentIndex => p.playlistItems.getD (currentIndex + 1) 0
  | none => p.playlistItems.getD 0 0

/-- `await nextLibraryId()`. -/
def awaitNextLibraryId (goal : Goal) (p : WebPlayer) : WebPlayer :=
  { p with waiting := p.waiting ++ [.nextLibraryId goal p.standaloneNextId] }

def showNextButton (nextId : Nat) (p : WebPlayer) : WebPlayer :=
  { p with nextDisabled := nextId = 0 || p.nextItemInFlight }

def updateNextButton (p : WebPlayer) : WebPlayer :=
  let p := { p with nextDisabled := true }
  if p.playlistMode then p.showNextButton p.nextPlaylistId else p.awaitNextLibraryId .updateNextButton

/-- `advanceToNextPlaylistItem`, once the next item is known. -/
def advanceTo (nextId : Nat) (p : WebPlayer) : WebPlayer :=
  if nextId = 0 || p.nextItemInFlight then p
  else
    let p := { p with nextItemInFlight := true }.updateNextButton
    { p with waiting := p.waiting ++ [.item nextId] }

def advanceToNextPlaylistItem (p : WebPlayer) : WebPlayer :=
  if p.playlistMode then p.advanceTo p.nextPlaylistId else p.awaitNextLibraryId .advanceToNextPlaylistItem

/-- Its `finally`. -/
def landed (p : WebPlayer) : WebPlayer :=
  { p with nextItemInFlight := false }.updateNextButton

/-- `window.location.assign`, of the page of the item. -/
def assign (id : Nat) (p : WebPlayer) : WebPlayer :=
  { p with past := .assigned id :: p.past }

/-- `loadNextPlaylistItem` up to `media.play()`, with the kind of the item if there is one. -/
def loadNextPlaylistItem (nextId : Nat) (nextKind : Option String) (p : WebPlayer) : WebPlayer :=
  match nextKind with
  | none => (p.assign nextId).landed
  | some nextKind =>
    if nextKind ≠ p.currentMediaKind then (p.assign nextId).landed
    else { p with
      currentItemId := nextId
      standaloneNextId := 0
      currentMediaKind := nextKind
      src := nextId
      currentTime := 0
      duration := none
      action := nextId
      positionSeconds := 0
      lastSentSeconds := -1
      hasAppliedInitialSeek := true
      waiting := p.waiting ++ [.play]
      past := .opened nextId :: p.past }

def initialSeekTarget (p : WebPlayer) : ℚ :=
  if 0 < p.seek then
    match p.duration with
    | some duration => if 1 < duration then min p.seek (max (duration - 1) 0) else p.seek
    | none => p.seek
  else 0

/-- `moved` is where the element is once its time has been set, if that does not raise. -/
def applyInitialSeek (moved : Option ℚ) (p : WebPlayer) : WebPlayer :=
  if p.hasAppliedInitialSeek then p
  else
    let target := p.initialSeekTarget
    if 0 < target then
      match if 3 / 4 < |p.currentTime - target| then moved else some p.currentTime with
      | none => p
      | some currentTime => { p with
          currentTime
          hasAppliedInitialSeek := |currentTime - target| ≤ 3 / 4
          past := .sought target currentTime :: p.past }
    else { p with hasAppliedInitialSeek := true }

/-- The `seconds` that are sent. -/
def seconds (reason : String) (p : WebPlayer) : ℚ :=
  if reason = "ended" then 0 else max 0 p.currentTime

def savePosition (moved : Option ℚ) (reason : String) (forced : Bool) (p : WebPlayer) : WebPlayer :=
  let p := p.applyInitialSeek moved
  if !p.hasAppliedInitialSeek then p
  else
    let seconds := p.seconds reason
    if !forced && |seconds - p.lastSentSeconds| < 5 then p
    else { p with
      lastSentSeconds := seconds
      positionSeconds := toFixed seconds
      past := .posted p.action (toFixed seconds) reason forced :: p.past }

/-- `sendBeacon` is what the browser's function returns, if it has one. -/
def savePositionBeacon (moved : Option ℚ) (reason : String) (sendBeacon : Option Bool) (p : WebPlayer) :
    Bool × WebPlayer :=
  match sendBeacon with
  | none => (false, p)
  | some accepted =>
    let p := p.applyInitialSeek moved
    if !p.hasAppliedInitialSeek then (false, p)
    else
      (accepted, { p with
        positionSeconds := toFixed (p.seconds reason)
        past := .beacon p.action (toFixed (p.seconds reason)) reason accepted :: p.past })

/-- What the script is called for: the element has gone on, is ready (`loadedmetadata`, `canplay`,
`playing`), or has another event, the button is pressed, the page is left, or something waited for is
there. -/
inductive Event
  | element (currentTime : ℚ) (duration : Option ℚ) (paused : Bool)
  | ready (moved : Option ℚ)
  | timeupdate (moved : Option ℚ)
  | pause (moved : Option ℚ)
  | seeking
  | seeked (moved : Option ℚ)
  | click
  | ended (moved : Option ℚ)
  | pagehide (moved movedAgain : Option ℚ) (sendBeacon : Option Bool)
  | resume (i : Nat) (reply : Reply)

/-- What comes after an `await`. A request that has raised leaves its caller. -/
def resume (wait : Wait) (reply : Reply) (p : WebPlayer) : Option WebPlayer :=
  match wait, reply with
  | .ended, _ => some p.advanceToNextPlaylistItem
  | .nextLibraryId goal known, reply =>
    let reach (nextId : Nat) (p : WebPlayer) : WebPlayer :=
      match goal with
      | .updateNextButton => p.showNextButton nextId
      | .advanceToNextPlaylistItem => p.advanceTo nextId
    if known ≠ 0 then some (reach known p)
    else
      match reply with
      | .failed => some p
      | .refused => some (reach 0 p)
      | .next id => some (reach id { p with standaloneNextId := id })
      | .mediaKind _ => none
  | .item nextId, .mediaKind kind => some (p.loadNextPlaylistItem nextId (some kind))
  | .item _, .next _ => none
  | .item nextId, _ => some (p.loadNextPlaylistItem nextId none)
  | .play, _ => some p.landed

def step (p : WebPlayer) : Event → Option WebPlayer
  | .element currentTime duration paused => some { p with currentTime, duration, paused }
  | .ready moved => some (p.applyInitialSeek moved)
  | .timeupdate moved =>
    let p := p.applyInitialSeek moved
    some (if p.hasAppliedInitialSeek && !p.paused then p.savePosition none "timeupdate" false else p)
  | .pause moved => some (p.savePosition moved "pause" true)
  | .seeking => some { p with pendingForcedSave := true }
  | .seeked moved =>
    let p := if p.pendingForcedSave then p.savePosition moved "seeked" true else p
    some { p with pendingForcedSave := false }
  | .click => if p.nextDisabled then none else some p.advanceToNextPlaylistItem
  | .ended moved =>
    let p := p.savePosition moved "ended" true
    some { p with waiting := p.waiting ++ [.ended] }
  | .pagehide moved movedAgain sendBeacon =>
    let (sent, p) := p.savePositionBeacon moved "pagehide" sendBeacon
    some (if sent then p else p.savePosition movedAgain "pagehide" true)
  | .resume i reply =>
    match p.waiting[i]? with
    | none => none
    | some wait => { p with waiting := p.waiting.eraseIdx i }.resume wait reply

/-- The script on the page of an item, with the items of the playlist that it is opened from, if it is. -/
def load (id : Nat) (mediaKind : String) (playlist : Option (List Nat)) (seekSeconds : ℚ) : WebPlayer :=
  let seek := if playlist.isSome then 0 else seekSeconds
  updateNextButton {
    playlistMode := playlist.isSome
    playlistItems := (playlist.getD []).filter (· ≠ 0)
    seek
    currentItemId := id
    currentMediaKind := mediaKind
    lastSentSeconds := -1
    pendingForcedSave := false
    hasAppliedInitialSeek := !(0 < seek)
    nextItemInFlight := false
    standaloneNextId := 0
    src := id
    currentTime := 0
    duration := none
    paused := true
    action := id
    positionSeconds := 0
    nextDisabled := true
    waiting := []
    past := [] }

/-- `player.html`. The page of a document has no element to play. A number of seconds that is not finite is
no number for the script. -/
def page (answer : PlayerAnswer) : Option WebPlayer :=
  if answer.mediaKind = "document" then none
  else
    let playlist := (answer.playlistId.filter (· ≠ 0)).map fun _ => answer.playlistItems.map PlayerPlaylistItem.id
    some (load answer.item.id answer.mediaKind playlist (answer.seekSeconds.toRat.getD 0))

end WebPlayer

end GetOffline
