import GetOffline.Console
import GetOffline.Execution

set_option autoImplicit true

namespace GetOffline
open Python Interruptible Interruptible.Comp Execution

namespace ConsoleEvent

/-- Nothing that the console's state depends on. -/
def isPlain : ConsoleEvent → Bool
  | .playbackStart _ | .progress _ _ _ | .launched _ _ _ | .playing _ | .drawn _ _ _ _ => false
  | _ => true

/-- The episode for which playback has been announced last. -/
def startedId : List ConsoleEvent → Option Int
  | [] => none
  | .playbackStart id :: _ => some id
  | _ :: past => startedId past

/-- An episode plays and its end has not been reported. -/
def pending : List ConsoleEvent → Bool
  | [] => false
  | .playing _ :: _ => true
  | .progress _ _ reason :: past => reason = "timeupdate" && pending past
  | _ :: past => pending past

/-- Every player that has been launched has been seen to have exited. -/
def AllGone (past : List ConsoleEvent) : Prop :=
  ∀ player seek volume, .launched player seek volume ∈ past → .observed player true ∈ past

/-- A player is launched when no other one runs; progress is reported of the episode that has been
announced last; the next one is announced when the end of this one has been reported; and the selected
row is a row and within the window. -/
def Fits : ConsoleEvent → List ConsoleEvent → Prop
  | .launched _ _ volume, before => AllGone before ∧ 0 ≤ volume ∧ volume ≤ 1
  | .playing id, before => startedId before = some id
  | .progress id _ _, before => startedId before = some id
  | .playbackStart _, before => pending before = false
  | .drawn offset selected height count, _ => (selected < count ∨ count = 0 ∧ selected = 0) ∧
    offset ≤ selected ∧ selected < offset + max (height - 6) 1
  | _, _ => True

section
variable {e : ConsoleEvent} {past : List ConsoleEvent}

theorem startedId_plain (h : e.isPlain = true) : startedId (e :: past) = startedId past := by
  cases e <;> first | rfl | cases h

theorem pending_plain (h : e.isPlain = true) : pending (e :: past) = pending past := by
  cases e <;> first | rfl | cases h

theorem fits_plain (h : e.isPlain = true) : Fits e past := by
  cases e <;> trivial

theorem ne_launched_of_plain (h : e.isPlain = true) (player : Nat) (seek volume : ℚ) :
    e ≠ .launched player seek volume := by
  rintro rfl
  cases h

end

end ConsoleEvent

open ConsoleEvent

namespace Console

/-- What holds whatever the console does; `kept` are the players that it has at hand. -/
structure Keeps (kept : Nat → Prop) (shut : Bool) (w : ConsoleWorld) : Prop where
  fits : Always Fits w.past
  gone : ∀ player seek volume, .launched player seek volume ∈ w.past →
    .observed player true ∈ w.past ∨ kept player
  started : ∀ id, w.console.playingId = some id → startedId w.past = some id
  pending : pending w.past = true → w.console.playingId.isSome
  shut : w.console.shutDown = shut

def HasPlayer (w : ConsoleWorld) (player : Nat) : Prop :=
  ∃ session, w.console.playbackSession = some session ∧ session.process = player

abbrev Held (shut : Bool) (w : ConsoleWorld) : Prop :=
  Keeps (HasPlayer w) shut w

/-- The selected row is a row, and the volume a volume. -/
structure InRange (c : Console) : Prop where
  selected : c.selected < c.episodes.length ∨ c.episodes.length = 0 ∧ c.selected = 0
  volume : 0 ≤ c.volume ∧ c.volume ≤ 1

/-- What holds as long as nothing is raised. -/
structure Sound (w : ConsoleWorld) : Prop where
  held : Held false w
  inRange : InRange w.console

section
variable {kept kept' : Nat → Prop} {shut : Bool} {w : ConsoleWorld} {e : ConsoleEvent}

theorem Keeps.mono (h : Keeps kept shut w) (hkept : ∀ player, kept player → kept' player) :
    Keeps kept' shut w where
  fits := h.fits
  gone player seek volume hlaunched := (h.gone player seek volume hlaunched).imp_right (hkept player)
  started := h.started
  pending := h.pending
  shut := h.shut

theorem Keeps.gone_cons (h : Keeps kept shut w) (he : ∀ player seek volume, e ≠ .launched player seek volume)
    (player : Nat) (seek volume : ℚ) (hlaunched : .launched player seek volume ∈ e :: w.past) :
    .observed player true ∈ e :: w.past ∨ kept player := by
  rcases List.mem_cons.1 hlaunched with heq | hlaunched
  · exact absurd heq.symm (he player seek volume)
  · exact (h.gone player seek volume hlaunched).imp_left (List.mem_cons_of_mem _)

theorem Keeps.plain (h : Keeps kept shut w) (he : e.isPlain = true) :
    Keeps kept shut { w with past := e :: w.past } where
  fits := ⟨fits_plain he, h.fits⟩
  gone := h.gone_cons (ne_launched_of_plain he)
  started id hid := by
    rw [startedId_plain he]
    exact h.started id hid
  pending hpending := by
    rw [pending_plain he] at hpending
    exact h.pending hpending
  shut := h.shut

theorem Keeps.progress {id : Int} (h : Keeps kept shut w) (hid : w.console.playingId = some id) (position : ℚ)
    (reason : String) : Keeps kept shut { w with past := .progress id position reason :: w.past } where
  fits := ⟨h.started id hid, h.fits⟩
  gone := h.gone_cons nofun
  started := h.started
  pending _ := by
    rw [hid]
    rfl
  shut := h.shut

/-- The console's other fields do not matter. -/
theorem Keeps.console {c : Console} (h : Keeps kept shut w) (hid : c.playingId = w.console.playingId)
    (hshut : c.shutDown = w.console.shutDown) : Keeps kept shut { w with console := c } where
  fits := h.fits
  gone := h.gone
  started id hsome := h.started id (hid ▸ hsome)
  pending hpending := by
    rw [hid]
    exact h.pending hpending
  shut := hshut.trans h.shut

theorem Keeps.of_allGone (h : Keeps kept shut w) (hgone : AllGone w.past) : Keeps kept' shut w where
  fits := h.fits
  gone player seek volume hlaunched := .inl (hgone player seek volume hlaunched)
  started := h.started
  pending := h.pending
  shut := h.shut

theorem Held.console {c : Console} (h : Held shut w) (hid : c.playingId = w.console.playingId)
    (hsession : c.playbackSession = w.console.playbackSession)
    (hshut : c.shutDown = w.console.shutDown) : Held shut { w with console := c } := by
  apply (Keeps.console h hid hshut).mono
  rintro player ⟨session, hsome, hprocess⟩
  exact ⟨session, hsession.trans hsome, hprocess⟩

theorem Keeps.held {w' : ConsoleWorld} (h : Keeps (HasPlayer w) shut w') (hconsole : w'.console = w.console) :
    Held shut w' := by
  apply h.mono
  rintro player ⟨session, hsome, hprocess⟩
  exact ⟨session, hconsole ▸ hsome, hprocess⟩

theorem Sound.plain (h : Sound w) (he : e.isPlain = true) : Sound { w with past := e :: w.past } :=
  ⟨h.held.plain he, h.inRange⟩

end

-- Rules for the calls

section
variable {kept : Nat → Prop} {shut : Bool} {w : ConsoleWorld} {host : ConsoleHost} {e : ConsoleEvent}
  {α β : Type} {Q : β → ConsoleWorld → Prop} {I : Halt ConsoleError → ConsoleWorld → Prop}

end

-- What each part of the console keeps

section
variable {kept : Nat → Prop} {shut : Bool} {w : ConsoleWorld} {host : ConsoleHost}

/-- From the world to the later one only plain things have been done. -/
structure Idles (w w' : ConsoleWorld) : Prop where
  console : w'.console = w.console
  subset : w.past ⊆ w'.past
  pending : pending w'.past = pending w.past
  startedId : startedId w'.past = startedId w.past

theorem Idles.refl (w : ConsoleWorld) : Idles w w :=
  ⟨rfl, List.Subset.refl _, rfl, rfl⟩

theorem Idles.trans (h : Idles w w') (h' : Idles w' w'') : Idles w w'' where
  console := h'.console.trans h.console
  subset := List.Subset.trans h.subset h'.subset
  pending := h'.pending.trans h.pending
  startedId := h'.startedId.trans h.startedId

theorem Idles.plain {e : ConsoleEvent} (h : Idles w w') (he : e.isPlain = true) :
    Idles w { w' with past := e :: w'.past } where
  console := h.console
  subset := List.subset_cons_of_subset _ h.subset
  pending := (pending_plain he).trans h.pending
  startedId := (startedId_plain he).trans h.startedId

/-- Nothing plays. -/
structure Quiet (w : ConsoleWorld) : Prop where
  sound : Sound w
  session : w.console.playbackSession = none
  playingId : w.console.playingId = none

theorem Quiet.plain {e : ConsoleEvent} (h : Quiet w) (he : e.isPlain = true) :
    Quiet { w with past := e :: w.past } :=
  ⟨h.sound.plain he, h.session, h.playingId⟩

theorem Keeps.exited {player : Nat} (h : Keeps (fun p => p = player) shut w)
    (hseen : .observed player true ∈ w.past) : Keeps (fun _ => False) shut w := by
  apply h.of_allGone
  intro p seek volume hlaunched
  rcases h.gone p seek volume hlaunched with hobserved | rfl
  · exact hobserved
  · exact hseen

theorem Sound.playing {id : Int} (h : Sound w) (hstarted : startedId w.past = some id) (seek : ℚ) :
    Sound { w with
      console := { w.console with playingId := some id, playStartPosition := seek }
      past := .playing id :: w.past } := by
  have hheld := h.held
  refine ⟨?_, h.inRange.selected, h.inRange.volume⟩
  constructor
  · exact ⟨hstarted, hheld.fits⟩
  · exact hheld.gone_cons nofun
  · rintro playing heq
    cases heq
    exact hstarted
  · exact fun _ => rfl
  · exact hheld.shut

theorem clampVolume_range (volume : ℚ) : 0 ≤ clampVolume volume ∧ clampVolume volume ≤ 1 :=
  ⟨le_max_left _ _, max_le zero_le_one (min_le_right _ _)⟩

theorem sound_initial (volume : ℚ) : Sound (initial volume) := by
  refine ⟨?_, .inr ⟨rfl, rfl⟩, clampVolume_range volume⟩
  constructor
  · exact trivial
  · exact fun _ _ _ hlaunched => absurd hlaunched List.not_mem_nil
  · exact fun _ hid => nomatch hid
  · exact fun hpending => nomatch hpending
  · rfl

end

end Console

end GetOffline
