import GetOffline.PlaylistOrder
import GetOffline.WebPlayer
import Mathlib.Data.List.GetD
import Mathlib.Data.List.Perm.Basic

set_option autoImplicit true

namespace GetOffline
open Python Execution

namespace WebPlayer

/-- The button is pressed or an item has come to its end. -/
def Event.isCall : Event → Bool
  | .click | .ended _ => true
  | _ => false

/-- What the script does without going on to another item. -/
inductive Quiet (p : WebPlayer) : WebPlayer → Prop
  | refl : Quiet p p
  | element (h : Quiet p q) (currentTime : ℚ) (duration : Option ℚ) (paused pendingForcedSave : Bool) :
    Quiet p { q with currentTime, duration, paused, pendingForcedSave }
  | seek (h : Quiet p q) (moved : Option ℚ) : Quiet p (q.applyInitialSeek moved)
  | save (h : Quiet p q) (moved : Option ℚ) (reason : String) (forced : Bool) :
    Quiet p (q.savePosition moved reason forced)
  | beacon (h : Quiet p q) (moved : Option ℚ) (reason : String) (sendBeacon : Option Bool) :
    Quiet p (q.savePositionBeacon moved reason sendBeacon).2

/-- All that a call of the script can do: it goes on to no other item, or it is asked to, at once or when the
save at the end of the item has come back, or it takes up something that has waited. -/
theorem step_cases {p : WebPlayer} (h : p.step event = some p') :
    (event.isCall = false ∧ Quiet p p') ∨
    (event.isCall = true ∧ p' = p.advanceToNextPlaylistItem) ∨
    (event.isCall = true ∧ ∃ q, Quiet p q ∧ p' = { q with waiting := q.waiting ++ [.ended] }) ∨
    (event.isCall = false ∧ ∃ i wait reply, p.waiting[i]? = some wait ∧
      { p with waiting := p.waiting.eraseIdx i }.resume wait reply = some p') := by
  cases event with
  | element currentTime duration paused =>
    obtain rfl := Option.some.inj h
    exact .inl ⟨rfl, Quiet.refl.element currentTime duration paused p.pendingForcedSave⟩
  | ready moved =>
    obtain rfl := Option.some.inj h
    exact .inl ⟨rfl, Quiet.refl.seek moved⟩
  | timeupdate moved =>
    obtain rfl := Option.some.inj h
    refine .inl ⟨rfl, ?_⟩
    split
    · exact (Quiet.refl.seek moved).save none _ _
    · exact Quiet.refl.seek moved
  | pause moved =>
    obtain rfl := Option.some.inj h
    exact .inl ⟨rfl, Quiet.refl.save moved _ _⟩
  | seeking =>
    obtain rfl := Option.some.inj h
    exact .inl ⟨rfl, Quiet.refl.element p.currentTime p.duration p.paused true⟩
  | seeked moved =>
    obtain rfl := Option.some.inj h
    have hsaved : Quiet p (if p.pendingForcedSave then p.savePosition moved "seeked" true else p) := by
      split
      · exact Quiet.refl.save moved _ _
      · exact Quiet.refl
    exact .inl ⟨rfl, hsaved.element _ _ _ false⟩
  | click =>
    dsimp only [step] at h
    split at h
    · cases h
    · obtain rfl := Option.some.inj h
      exact .inr (.inl ⟨rfl, rfl⟩)
  | ended moved =>
    obtain rfl := Option.some.inj h
    exact .inr (.inr (.inl ⟨rfl, _, Quiet.refl.save moved "ended" true, rfl⟩))
  | pagehide moved movedAgain sendBeacon =>
    have hbeacon : Quiet p (p.savePositionBeacon moved "pagehide" sendBeacon).2 := Quiet.refl.beacon moved _ sendBeacon
    dsimp only [step] at h
    generalize p.savePositionBeacon moved "pagehide" sendBeacon = answer at hbeacon h
    obtain rfl := Option.some.inj h
    refine .inl ⟨rfl, ?_⟩
    split
    · exact hbeacon
    · exact hbeacon.save movedAgain _ _
  | resume i reply =>
    dsimp only [step] at h
    split at h
    · cases h
    · next wait hwait => exact .inr (.inr (.inr ⟨rfl, i, wait, reply, hwait, h⟩))

-- What it sends

/-- The item opened last. -/
def playing (start : Nat) : List Act → Nat
  | [] => start
  | .opened id :: _ => id
  | _ :: past => playing start past

/-- The position posted last of the item that plays, or `-1`. -/
def lastPosted : List Act → ℚ
  | [] => -1
  | .posted _ positionSeconds _ _ :: _ => positionSeconds
  | .opened _ :: _ => -1
  | _ :: past => lastPosted past

/-- The element has been where the item was left, or has got another item. -/
def Resumed (resumeAt : ℚ) (past : List Act) : Prop :=
  resumeAt ≤ 0 ∨ (∃ target currentTime, .sought target currentTime ∈ past ∧ 0 < target ∧ target ≤ resumeAt ∧
    |currentTime - target| ≤ 3 / 4) ∨ ∃ id, .opened id ∈ past

/-- A position is of the item that plays, and none is sent before the player has resumed; the end of an item
is at 0, and between two regular posts it plays five seconds, up to rounding. -/
def Reports (start : Nat) (resumeAt : ℚ) : Act → List Act → Prop
  | .posted id positionSeconds reason forced, before =>
    id = playing start before ∧ 0 ≤ positionSeconds ∧ Resumed resumeAt before ∧
      (reason = "ended" → positionSeconds = 0) ∧
      (forced = false → 4999 / 1000 ≤ |positionSeconds - lastPosted before|)
  | .beacon id positionSeconds _ _, before =>
    id = playing start before ∧ 0 ≤ positionSeconds ∧ Resumed resumeAt before
  | _, _ => True

theorem toFixed_nonneg {seconds : ℚ} (h : 0 ≤ seconds) : 0 ≤ toFixed seconds := by
  have hfloor : (0 : ℤ) ≤ ⌊seconds * 1000 + 1 / 2⌋ := by
    apply Int.floor_nonneg.2
    positivity
  have hcast : (0 : ℚ) ≤ ⌊seconds * 1000 + 1 / 2⌋ := by exact_mod_cast hfloor
  exact div_nonneg hcast (by norm_num)

theorem abs_toFixed_sub_le (seconds : ℚ) : |toFixed seconds - seconds| ≤ 1 / 2000 := by
  have hle := Int.floor_le (seconds * 1000 + 1 / 2)
  have hlt := Int.lt_floor_add_one (seconds * 1000 + 1 / 2)
  rw [toFixed, abs_le]
  constructor <;> linarith

theorem toFixed_zero : toFixed 0 = 0 := by
  have hfloor : ⌊(0 : ℚ) * 1000 + 1 / 2⌋ = 0 := by norm_num
  rw [toFixed, hfloor, Int.cast_zero, zero_div]

theorem Resumed.cons {past : List Act} (h : Resumed resumeAt past) (act : Act) : Resumed resumeAt (act :: past) := by
  rcases h with h | ⟨target, currentTime, hmem, hsought⟩ | ⟨id, hmem⟩
  · exact .inl h
  · exact .inr (.inl ⟨target, currentTime, List.mem_cons_of_mem _ hmem, hsought⟩)
  · exact .inr (.inr ⟨id, List.mem_cons_of_mem _ hmem⟩)

/-- What holds between two calls of the script. -/
structure Reporting (start : Nat) (resumeAt : ℚ) (p : WebPlayer) : Prop where
  acts : Always (Reports start resumeAt) p.past
  seek : p.seek = resumeAt
  current : p.currentItemId = playing start p.past
  src : p.src = playing start p.past
  action : p.action = playing start p.past
  sent : |lastPosted p.past - p.lastSentSeconds| ≤ 1 / 2000
  resumed : p.hasAppliedInitialSeek = true → Resumed resumeAt p.past

section
variable {start : Nat} {resumeAt : ℚ} {p : WebPlayer}

theorem Reporting.awaitNextLibraryId (h : Reporting start resumeAt p) (goal : Goal) :
    Reporting start resumeAt (p.awaitNextLibraryId goal) :=
  ⟨h.acts, h.seek, h.current, h.src, h.action, h.sent, h.resumed⟩

theorem Reporting.updateNextButton (h : Reporting start resumeAt p) : Reporting start resumeAt p.updateNextButton := by
  unfold WebPlayer.updateNextButton
  dsimp only
  split <;> exact ⟨h.acts, h.seek, h.current, h.src, h.action, h.sent, h.resumed⟩

theorem Reporting.advanceTo (h : Reporting start resumeAt p) (nextId : Nat) : Reporting start resumeAt (p.advanceTo nextId) := by
  unfold WebPlayer.advanceTo
  split
  · exact h
  · have hflight : Reporting start resumeAt { p with nextItemInFlight := true } :=
      ⟨h.acts, h.seek, h.current, h.src, h.action, h.sent, h.resumed⟩
    have hbutton := hflight.updateNextButton
    exact ⟨hbutton.acts, hbutton.seek, hbutton.current, hbutton.src, hbutton.action, hbutton.sent, hbutton.resumed⟩

theorem Reporting.advanceToNextPlaylistItem (h : Reporting start resumeAt p) :
    Reporting start resumeAt p.advanceToNextPlaylistItem := by
  unfold WebPlayer.advanceToNextPlaylistItem
  split
  · exact h.advanceTo _
  · exact h.awaitNextLibraryId _

theorem Reporting.landed (h : Reporting start resumeAt p) : Reporting start resumeAt p.landed := by
  apply Reporting.updateNextButton
  exact ⟨h.acts, h.seek, h.current, h.src, h.action, h.sent, h.resumed⟩

theorem Reporting.assign (h : Reporting start resumeAt p) (id : Nat) : Reporting start resumeAt (p.assign id) :=
  ⟨⟨trivial, h.acts⟩, h.seek, h.current, h.src, h.action, h.sent, fun ha => (h.resumed ha).cons _⟩

theorem Reporting.loadNextPlaylistItem (h : Reporting start resumeAt p) (nextId : Nat) (nextKind : Option String) :
    Reporting start resumeAt (p.loadNextPlaylistItem nextId nextKind) := by
  unfold WebPlayer.loadNextPlaylistItem
  cases nextKind with
  | none => exact (h.assign nextId).landed
  | some nextKind =>
    dsimp only
    split
    · exact (h.assign nextId).landed
    · refine ⟨⟨trivial, h.acts⟩, h.seek, rfl, rfl, rfl, ?_, fun _ => .inr (.inr ⟨nextId, List.mem_cons_self⟩)⟩
      rw [lastPosted, sub_self, abs_zero]
      norm_num

theorem initialSeekTarget_le (h : 0 < p.seek) : p.initialSeekTarget ≤ p.seek := by
  unfold initialSeekTarget
  rw [if_pos h]
  split
  · split
    · exact min_le_left _ _
    · exact le_rfl
  · exact le_rfl

theorem initialSeekTarget_pos (h : 0 < p.seek) : 0 < p.initialSeekTarget := by
  unfold initialSeekTarget
  rw [if_pos h]
  split
  · split
    · next duration hlong => exact lt_min h (lt_max_of_lt_left (sub_pos.2 hlong))
    · exact h
  · exact h

theorem Reporting.applyInitialSeek (h : Reporting start resumeAt p) (moved : Option ℚ) :
    Reporting start resumeAt (p.applyInitialSeek moved) := by
  unfold WebPlayer.applyInitialSeek
  split
  · exact h
  · dsimp only
    split
    · next htarget =>
      split
      · exact h
      · next currentTime hmoved =>
        refine ⟨⟨trivial, h.acts⟩, h.seek, h.current, h.src, h.action, h.sent, ?_⟩
        intro hnear
        have hseek : 0 < p.seek := by
          by_contra hno
          rw [initialSeekTarget, if_neg hno] at htarget
          exact lt_irrefl 0 htarget
        refine .inr (.inl ⟨_, currentTime, List.mem_cons_self, htarget, ?_, of_decide_eq_true hnear⟩)
        rw [← h.seek]
        exact initialSeekTarget_le hseek
    · next htarget =>
      refine ⟨h.acts, h.seek, h.current, h.src, h.action, h.sent, fun _ => .inl ?_⟩
      rw [← h.seek]
      by_contra hseek
      exact htarget (initialSeekTarget_pos (not_le.1 hseek))

theorem seconds_nonneg (reason : String) (p : WebPlayer) : 0 ≤ p.seconds reason := by
  unfold seconds
  split
  · exact le_rfl
  · exact le_max_left _ _

theorem Reporting.savePosition (h : Reporting start resumeAt p) (moved : Option ℚ) (reason : String) (forced : Bool) :
    Reporting start resumeAt (p.savePosition moved reason forced) := by
  have hsought := h.applyInitialSeek moved
  unfold WebPlayer.savePosition
  dsimp only
  split
  · exact hsought
  · next happlied =>
    rw [Bool.not_eq_true', Bool.not_eq_false] at happlied
    generalize p.applyInitialSeek moved = p at hsought happlied
    split
    · exact hsought
    · next hsend =>
      refine ⟨⟨⟨hsought.action, toFixed_nonneg (seconds_nonneg reason p), hsought.resumed happlied, ?_, ?_⟩,
        hsought.acts⟩, hsought.seek, hsought.current, hsought.src, hsought.action, abs_toFixed_sub_le _,
        fun _ => (hsought.resumed happlied).cons _⟩
      · intro hended
        rw [seconds, if_pos hended, toFixed_zero]
      · intro hforced
        have hfar : 5 ≤ |p.seconds reason - p.lastSentSeconds| := by
          by_contra hnear
          apply hsend
          rw [hforced, decide_eq_true (not_le.1 hnear)]
          rfl
        have hround := abs_toFixed_sub_le (p.seconds reason)
        have htriangle := abs_sub_le (p.seconds reason) (toFixed (p.seconds reason)) p.lastSentSeconds
        have htriangle' := abs_sub_le (toFixed (p.seconds reason)) (lastPosted p.past) p.lastSentSeconds
        rw [abs_sub_comm] at hround
        linarith [hsought.sent]

theorem Reporting.savePositionBeacon (h : Reporting start resumeAt p) (moved : Option ℚ) (reason : String)
    (sendBeacon : Option Bool) : Reporting start resumeAt (p.savePositionBeacon moved reason sendBeacon).2 := by
  have hsought := h.applyInitialSeek moved
  unfold WebPlayer.savePositionBeacon
  cases sendBeacon with
  | none => exact h
  | some accepted =>
    dsimp only
    split
    · exact hsought
    · next happlied =>
      rw [Bool.not_eq_true', Bool.not_eq_false] at happlied
      generalize p.applyInitialSeek moved = p at hsought happlied
      exact ⟨⟨⟨hsought.action, toFixed_nonneg (seconds_nonneg reason p), hsought.resumed happlied⟩, hsought.acts⟩,
        hsought.seek, hsought.current, hsought.src, hsought.action, hsought.sent,
        fun _ => (hsought.resumed happlied).cons _⟩

theorem Reporting.reach (h : Reporting start resumeAt p) (goal : Goal) (nextId : Nat) :
    Reporting start resumeAt (match goal with
      | .updateNextButton => p.showNextButton nextId
      | .advanceToNextPlaylistItem => p.advanceTo nextId) := by
  cases goal with
  | updateNextButton => exact ⟨h.acts, h.seek, h.current, h.src, h.action, h.sent, h.resumed⟩
  | advanceToNextPlaylistItem => exact h.advanceTo nextId

theorem Reporting.resume (h : Reporting start resumeAt p) (hresume : p.resume wait reply = some p') :
    Reporting start resumeAt p' := by
  cases wait with
  | ended =>
    obtain rfl := Option.some.inj hresume
    exact h.advanceToNextPlaylistItem
  | nextLibraryId goal known =>
    unfold WebPlayer.resume at hresume
    dsimp only at hresume
    split at hresume
    · obtain rfl := Option.some.inj hresume
      exact h.reach goal known
    · cases reply with
      | failed =>
        obtain rfl := Option.some.inj hresume
        exact h
      | refused =>
        obtain rfl := Option.some.inj hresume
        exact h.reach goal 0
      | next id =>
        obtain rfl := Option.some.inj hresume
        have hknown : Reporting start resumeAt { p with standaloneNextId := id } :=
          ⟨h.acts, h.seek, h.current, h.src, h.action, h.sent, h.resumed⟩
        exact hknown.reach goal id
      | mediaKind kind => cases hresume
  | item nextId =>
    cases reply with
    | next id => cases hresume
    | _ =>
      obtain rfl := Option.some.inj hresume
      exact h.loadNextPlaylistItem nextId _
  | play =>
    obtain rfl := Option.some.inj hresume
    exact h.landed

theorem Reporting.quiet (h : Reporting start resumeAt p) (hquiet : Quiet p p') : Reporting start resumeAt p' := by
  induction hquiet with
  | refl => exact h
  | element _ _ _ _ _ ih => exact ⟨ih.acts, ih.seek, ih.current, ih.src, ih.action, ih.sent, ih.resumed⟩
  | seek _ moved ih => exact ih.applyInitialSeek moved
  | save _ moved reason forced ih => exact ih.savePosition moved reason forced
  | beacon _ moved reason sendBeacon ih => exact ih.savePositionBeacon moved reason sendBeacon

theorem Reporting.step (h : Reporting start resumeAt p) (hstep : p.step event = some p') :
    Reporting start resumeAt p' := by
  obtain ⟨-, hquiet⟩ | ⟨-, rfl⟩ | ⟨-, q, hquiet, rfl⟩ | ⟨-, i, wait, reply, -, hresume⟩ := step_cases hstep
  · exact h.quiet hquiet
  · exact h.advanceToNextPlaylistItem
  · have hq := h.quiet hquiet
    exact ⟨hq.acts, hq.seek, hq.current, hq.src, hq.action, hq.sent, hq.resumed⟩
  · have hwaiting : Reporting start resumeAt { p with waiting := p.waiting.eraseIdx i } :=
      ⟨h.acts, h.seek, h.current, h.src, h.action, h.sent, h.resumed⟩
    exact hwaiting.resume hresume

end

-- How the player goes through a playlist

/-- The items that have been played, in their order. -/
def trail (start : Nat) : List Act → List Nat
  | [] => [start]
  | .opened id :: past => trail start past ++ [id]
  | _ :: past => trail start past

/-- What is ahead when the player is opened on an item. -/
def route (start : Nat) (items : List Nat) : List Nat :=
  match items.idxOf? start with
  | some i => items.drop i
  | none => start :: items

/-- The item that is opened, in the page or with a page of its own, is the one that comes next. -/
def Follows (start : Nat) (items : List Nat) : Act → List Act → Prop
  | .opened id, before => trail start before ++ [id] <+: route start items
  | .assigned id, before => trail start before ++ [id] <+: route start items
  | _, _ => True

/-- Something that waits for an item that is on its way. -/
def Wait.isFlight : Wait → Bool
  | .item _ | .play => true
  | _ => false

/-- What holds at any time on a page with a playlist. -/
structure OnRoute (start : Nat) (items : List Nat) (p : WebPlayer) : Prop where
  acts : Always (Follows start items) p.past
  mode : p.playlistMode = true
  list : p.playlistItems = items
  walked : trail start p.past <+: route start items
  current : (trail start p.past).getLast? = some p.currentItemId
  goals : ∀ goal known, .nextLibraryId goal known ∉ p.waiting

/-- What holds between two calls of the script: one item at most is on its way, the one that comes next. -/
structure Walking (start : Nat) (items : List Nat) (p : WebPlayer) : Prop extends OnRoute start items p where
  inFlight : p.waiting.countP Wait.isFlight = if p.nextItemInFlight then 1 else 0
  next : ∀ nextId, .item nextId ∈ p.waiting → nextId ≠ 0 ∧ nextId = p.nextPlaylistId

section
variable {start : Nat} {items : List Nat} {p : WebPlayer}

theorem nextPlaylistId_append (h : p.playlistItems = before ++ p.currentItemId :: after)
    (hnodup : p.playlistItems.Nodup) : p.nextPlaylistId = after.getD 0 0 := by
  have hbefore : p.currentItemId ∉ before := by
    intro hmem
    rw [h] at hnodup
    exact (List.nodup_append.1 hnodup).2.2 _ hmem _ List.mem_cons_self rfl
  have hindex : p.playlistItems.idxOf? p.currentItemId = some before.length := by
    rw [h, List.idxOf?_eq_some_iff]
    refine ⟨?_, List.getElem_of_append rfl rfl, ?_⟩
    · rw [List.length_append, List.length_cons]
      omega
    intro j hj heq
    rw [List.getElem_append_left hj] at heq
    exact hbefore (heq ▸ List.getElem_mem hj)
  rw [nextPlaylistId, hindex, h]
  dsimp only
  rw [List.getD_append_right _ _ _ _ (Nat.le_add_right _ 1), Nat.add_sub_cancel_left, List.getD_cons_succ]

theorem OnRoute.ahead (h : OnRoute start items p) (hnodup : items.Nodup) :
    ∃ rest, trail start p.past ++ rest = route start items ∧ p.nextPlaylistId = rest.getD 0 0 := by
  obtain ⟨rest, hrest⟩ := h.walked
  obtain ⟨before, hbefore⟩ := List.getLast?_eq_some_iff.1 h.current
  refine ⟨rest, hrest, ?_⟩
  rw [← h.list] at hnodup
  rw [hbefore, List.append_assoc, List.singleton_append, route] at hrest
  cases hindex : items.idxOf? start with
  | some i =>
    rw [hindex] at hrest
    apply nextPlaylistId_append _ hnodup
    · exact items.take i ++ before
    · rw [h.list, List.append_assoc, hrest, List.take_append_drop]
  | none =>
    rw [hindex] at hrest
    cases before with
    | nil =>
      obtain ⟨hcurrent, rfl⟩ := List.cons.inj hrest
      rw [nextPlaylistId, h.list, hcurrent, hindex]
    | cons first before =>
      obtain ⟨-, hitems⟩ := List.cons.inj hrest
      exact nextPlaylistId_append (h.list.trans hitems.symm) hnodup

/-- A step further on the route. -/
theorem OnRoute.follows (h : OnRoute start items p) (hnodup : items.Nodup) (hne : p.nextPlaylistId ≠ 0) :
    trail start p.past ++ [p.nextPlaylistId] <+: route start items := by
  obtain ⟨rest, hrest, hnext⟩ := h.ahead hnodup
  cases rest with
  | nil => exact absurd hnext hne
  | cons id rest =>
    rw [hnext, List.getD_cons_zero, ← hrest]
    exact ⟨rest, by rw [List.append_assoc, List.singleton_append]⟩

theorem Walking.updateNextButton (h : Walking start items p) : Walking start items p.updateNextButton := by
  unfold WebPlayer.updateNextButton
  rw [if_pos h.mode]
  exact ⟨⟨h.acts, h.mode, h.list, h.walked, h.current, h.goals⟩, h.inFlight, h.next⟩

theorem Walking.advanceToNextPlaylistItem (h : Walking start items p) :
    Walking start items p.advanceToNextPlaylistItem := by
  unfold WebPlayer.advanceToNextPlaylistItem
  rw [if_pos h.mode, advanceTo]
  split
  · exact h
  · next hgo =>
    rw [Bool.or_eq_true, decide_eq_true_eq, not_or, Bool.not_eq_true] at hgo
    have hnone : p.waiting.countP Wait.isFlight = 0 := by
      rw [h.inFlight, if_neg (by rw [hgo.2]; exact Bool.false_ne_true)]
    unfold WebPlayer.updateNextButton
    dsimp only
    rw [if_pos h.mode]
    refine ⟨⟨h.acts, h.mode, h.list, h.walked, h.current, ?_⟩, ?_, ?_⟩
    · intro goal known hmem
      rcases List.mem_append.1 hmem with hmem | hmem
      · exact h.goals goal known hmem
      · exact absurd (List.mem_singleton.1 hmem) nofun
    · change (p.waiting ++ [Wait.item p.nextPlaylistId]).countP Wait.isFlight = 1
      rw [List.countP_append, hnone]
      rfl
    · intro nextId hmem
      rcases List.mem_append.1 hmem with hmem | hmem
      · exact absurd rfl (List.countP_eq_zero.1 hnone _ hmem)
      · obtain rfl := Wait.item.inj (List.mem_singleton.1 hmem)
        exact ⟨hgo.1, rfl⟩

/-- The item that was on its way has come, or will not. -/
theorem OnRoute.landed (h : OnRoute start items p) (hnone : p.waiting.countP Wait.isFlight = 0) :
    Walking start items p.landed := by
  apply Walking.updateNextButton
  refine ⟨⟨h.acts, h.mode, h.list, h.walked, h.current, h.goals⟩, hnone, fun nextId hmem => ?_⟩
  exact absurd rfl (List.countP_eq_zero.1 hnone _ hmem)

theorem OnRoute.assign {nextId : Nat} (h : OnRoute start items p)
    (hnext : trail start p.past ++ [nextId] <+: route start items) : OnRoute start items (p.assign nextId) :=
  ⟨⟨hnext, h.acts⟩, h.mode, h.list, h.walked, h.current, h.goals⟩

theorem OnRoute.loadNextPlaylistItem (h : OnRoute start items p) (hnodup : items.Nodup)
    (hnone : p.waiting.countP Wait.isFlight = 0) (hflight : p.nextItemInFlight = true)
    (hne : p.nextPlaylistId ≠ 0) (nextKind : Option String) :
    Walking start items (p.loadNextPlaylistItem p.nextPlaylistId nextKind) := by
  have hfollows := h.follows hnodup hne
  unfold WebPlayer.loadNextPlaylistItem
  cases nextKind with
  | none => exact (h.assign hfollows).landed hnone
  | some nextKind =>
    dsimp only
    split
    · exact (h.assign hfollows).landed hnone
    · refine ⟨⟨⟨hfollows, h.acts⟩, h.mode, h.list, hfollows, List.getLast?_concat, ?_⟩, ?_, ?_⟩
      · intro goal known hmem
        rcases List.mem_append.1 hmem with hmem | hmem
        · exact h.goals goal known hmem
        · exact absurd (List.mem_singleton.1 hmem) nofun
      · dsimp only
        rw [List.countP_append, hnone, if_pos hflight]
        rfl
      · intro nextId hmem
        rcases List.mem_append.1 hmem with hmem | hmem
        · exact absurd rfl (List.countP_eq_zero.1 hnone _ hmem)
        · exact absurd (List.mem_singleton.1 hmem) nofun

theorem Walking.applyInitialSeek (h : Walking start items p) (moved : Option ℚ) :
    Walking start items (p.applyInitialSeek moved) := by
  unfold WebPlayer.applyInitialSeek
  split
  · exact h
  · dsimp only
    split
    · split
      · exact h
      · exact ⟨⟨⟨trivial, h.acts⟩, h.mode, h.list, h.walked, h.current, h.goals⟩, h.inFlight, h.next⟩
    · exact ⟨⟨h.acts, h.mode, h.list, h.walked, h.current, h.goals⟩, h.inFlight, h.next⟩

theorem Walking.savePosition (h : Walking start items p) (moved : Option ℚ) (reason : String) (forced : Bool) :
    Walking start items (p.savePosition moved reason forced) := by
  have hsought := h.applyInitialSeek moved
  unfold WebPlayer.savePosition
  dsimp only
  split
  · exact hsought
  · split
    · exact hsought
    · exact ⟨⟨⟨trivial, hsought.acts⟩, hsought.mode, hsought.list, hsought.walked, hsought.current, hsought.goals⟩,
        hsought.inFlight, hsought.next⟩

theorem Walking.savePositionBeacon (h : Walking start items p) (moved : Option ℚ) (reason : String)
    (sendBeacon : Option Bool) : Walking start items (p.savePositionBeacon moved reason sendBeacon).2 := by
  have hsought := h.applyInitialSeek moved
  unfold WebPlayer.savePositionBeacon
  cases sendBeacon with
  | none => exact h
  | some accepted =>
    dsimp only
    split
    · exact hsought
    · exact ⟨⟨⟨trivial, hsought.acts⟩, hsought.mode, hsought.list, hsought.walked, hsought.current, hsought.goals⟩,
        hsought.inFlight, hsought.next⟩

/-- Something that waited is taken from the list. -/
theorem Walking.take (h : Walking start items p) (hwait : p.waiting[i]? = some wait) :
    OnRoute start items { p with waiting := p.waiting.eraseIdx i } ∧
      (p.waiting.eraseIdx i).countP Wait.isFlight + (if wait.isFlight then 1 else 0) =
        if p.nextItemInFlight then 1 else 0 := by
  obtain ⟨hi, hget⟩ := List.getElem?_eq_some_iff.1 hwait
  refine ⟨⟨h.acts, h.mode, h.list, h.walked, h.current, fun goal known hmem => ?_⟩, ?_⟩
  · exact h.goals goal known (List.mem_of_mem_eraseIdx hmem)
  · have hperm := (List.getElem_cons_eraseIdx_perm hi).countP_eq Wait.isFlight
    rw [hget, List.countP_cons] at hperm
    rw [hperm]
    exact h.inFlight

theorem Walking.take_flight (h : Walking start items p) (hwait : p.waiting[i]? = some wait)
    (hflight : wait.isFlight = true) :
    p.nextItemInFlight = true ∧ (p.waiting.eraseIdx i).countP Wait.isFlight = 0 := by
  obtain ⟨-, hcount⟩ := h.take hwait
  rw [if_pos hflight] at hcount
  split at hcount
  · next hnext => exact ⟨hnext, Nat.succ.inj hcount⟩
  · cases hcount

theorem Walking.resume (h : Walking start items p) (hnodup : items.Nodup) (hwait : p.waiting[i]? = some wait)
    (hresume : { p with waiting := p.waiting.eraseIdx i }.resume wait reply = some p') : Walking start items p' := by
  obtain ⟨htaken, hcount⟩ := h.take hwait
  have hmem := List.mem_of_getElem? hwait
  cases wait with
  | ended =>
    obtain rfl := Option.some.inj hresume
    apply Walking.advanceToNextPlaylistItem
    refine ⟨htaken, hcount, fun nextId hitem => ?_⟩
    exact h.next nextId (List.mem_of_mem_eraseIdx hitem)
  | nextLibraryId goal known => exact absurd hmem (h.goals goal known)
  | item nextId =>
    obtain ⟨hne, rfl⟩ := h.next nextId hmem
    obtain ⟨hflight, hnone⟩ := h.take_flight hwait rfl
    have hload := htaken.loadNextPlaylistItem hnodup hnone hflight hne
    cases reply with
    | next id => cases hresume
    | _ =>
      obtain rfl := Option.some.inj hresume
      exact hload _
  | play =>
    obtain rfl := Option.some.inj hresume
    exact htaken.landed (h.take_flight hwait rfl).2

theorem Walking.quiet (h : Walking start items p) (hquiet : Quiet p p') : Walking start items p' := by
  induction hquiet with
  | refl => exact h
  | element _ _ _ _ _ ih => exact ⟨⟨ih.acts, ih.mode, ih.list, ih.walked, ih.current, ih.goals⟩, ih.inFlight, ih.next⟩
  | seek _ moved ih => exact ih.applyInitialSeek moved
  | save _ moved reason forced ih => exact ih.savePosition moved reason forced
  | beacon _ moved reason sendBeacon ih => exact ih.savePositionBeacon moved reason sendBeacon

/-- The save at the end of an item is waited for. -/
theorem Walking.ended (h : Walking start items p) : Walking start items { p with waiting := p.waiting ++ [.ended] } := by
  refine ⟨⟨h.acts, h.mode, h.list, h.walked, h.current, fun goal known hmem => ?_⟩, ?_, fun nextId hmem => ?_⟩
  · rcases List.mem_append.1 hmem with hmem | hmem
    · exact h.goals goal known hmem
    · exact absurd (List.mem_singleton.1 hmem) nofun
  · dsimp only
    rw [List.countP_append]
    exact h.inFlight
  · rcases List.mem_append.1 hmem with hmem | hmem
    · exact h.next nextId hmem
    · exact absurd (List.mem_singleton.1 hmem) nofun

theorem Walking.step (h : Walking start items p) (hnodup : items.Nodup) (hstep : p.step event = some p') :
    Walking start items p' := by
  obtain ⟨-, hquiet⟩ | ⟨-, rfl⟩ | ⟨-, q, hquiet, rfl⟩ | ⟨-, i, wait, reply, hwait, hresume⟩ := step_cases hstep
  · exact h.quiet hquiet
  · exact h.advanceToNextPlaylistItem
  · exact (h.quiet hquiet).ended
  · exact h.resume hnodup hwait hresume

end

-- How often it goes on

section
variable {p : WebPlayer}

end

-- The page

end WebPlayer

-- What the server hands to the page

/-- `frontend_player` lists the download. -/
def LibraryTables.offers (t : LibraryTables) (downloadId : Nat) : Bool :=
  (t.downloads.rows.lookup downloadId).any fun row => !(row.hasStatus .missing || row.hasStatus .retentionDeleted)

open WebPlayer

end GetOffline
