import GetOffline.StatusPolls

set_option autoImplicit true

namespace GetOffline
open Python

-- frontend/static/app/dashboard.js: the button that updates the sources

/-- What the script has done. The end of a polling comes with an alert if the update has failed. -/
inductive UpdateButton.Act
  | submitted (post : Nat)
  | refused (alert : String)
  | started (statusUrl : StatusUrl)
  | polled (statusUrl : StatusUrl)
  | ended (statusUrl : StatusUrl) (alert : Option String)

/-- A request or a timer that has not come back. -/
inductive UpdateButton.Wait
  | submit (post : Nat)
  | status (statusUrl : StatusUrl)
  | timer (id : Nat) (statusUrl : StatusUrl)

/-- What comes of it. A request fails with an exception: also when its response is not ok, or does not have
what it should have. -/
inductive UpdateButton.Reply
  | failed (message : String)
  | queued (statusUrl : StatusUrl)
  | status (reply : StatusReply)
  | fired

/-- The variables of the script, what it uses of the page, and the item of `sessionStorage`, which outlives
the page. -/
structure UpdateButton where
  disabled : Bool
  stored : Option StatusUrl
  pollTimer : Nat
  /-- How many timers have been set, and how many requests for an update have been sent. -/
  timers : Nat
  posts : Nat
  waiting : List UpdateButton.Wait
  /-- The last thing first. -/
  past : List UpdateButton.Act

namespace UpdateButton

def setLoading (loading : Bool) (b : UpdateButton) : UpdateButton :=
  { b with disabled := loading }

/-- `stores` tells whether the storage can be written. -/
def rememberStatusUrl (stores : Bool) (statusUrl : StatusUrl) (b : UpdateButton) : UpdateButton :=
  if stores then { b with stored := some statusUrl } else b

def forgetStatusUrl (stores : Bool) (b : UpdateButton) : UpdateButton :=
  if stores then { b with stored := none } else b

def schedulePoll (statusUrl : StatusUrl) (b : UpdateButton) : UpdateButton :=
  { b with
    pollTimer := b.timers + 1
    timers := b.timers + 1
    waiting := b.waiting ++ [.timer (b.timers + 1) statusUrl] }

/-- `pollUntilDone` up to its `fetch`. -/
def pollUntilDone (statusUrl : StatusUrl) (b : UpdateButton) : UpdateButton :=
  { b with
    waiting := b.waiting ++ [.status statusUrl]
    past := .polled statusUrl :: b.past }

/-- `payload.finished || doneStatuses.has(String(payload.status || ""))`. -/
def isDone (reply : StatusReply) : Bool :=
  reply.finished || reply.status = some "succeeded" || reply.status = some "failed"

/-- The text of the alert, if there is one. -/
def alert (reply : StatusReply) : Option String :=
  if reply.status = some "failed" || !reply.ok then
    some ((reply.errorMessage.filter fun text => text ≠ "").getD "The source update failed.")
  else none

/-- What comes in `pollUntilDone` after its `fetch`. -/
def afterPoll (stores : Bool) (statusUrl : StatusUrl) (reply : StatusReply) (b : UpdateButton) :
    UpdateButton :=
  if isDone reply then
    let b := (b.forgetStatusUrl stores).setLoading false
    { b with past := .ended statusUrl (alert reply) :: b.past }
  else b.schedulePoll statusUrl

def startPolling (stores : Bool) (statusUrl : StatusUrl) (b : UpdateButton) : UpdateButton :=
  ((b.rememberStatusUrl stores statusUrl).setLoading true).pollUntilDone statusUrl

def Wait.isTimer (id : Nat) : Wait → Bool
  | .timer other _ => other = id
  | _ => false

/-- `showQueueError`, which clears the timer. -/
def showQueueError (message : String) (b : UpdateButton) : UpdateButton :=
  let text := if message ≠ "" then message else "Failed to start the source update."
  { b.setLoading false with
    waiting := b.waiting.filter fun wait => !wait.isTimer b.pollTimer
    past := .refused text :: b.past }

/-- The script on a page that has just been loaded; nothing waits any more. -/
def load (readable : Bool) (b : UpdateButton) : UpdateButton :=
  let b := { b with disabled := false, pollTimer := 0, timers := 0, waiting := [] }
  match b.stored.filter fun _ => readable with
  | some statusUrl => b.startPolling readable statusUrl
  | none => b

/-- The handler of `submit` up to its `fetch`. -/
def submit (b : UpdateButton) : UpdateButton :=
  if b.disabled then b
  else { b.setLoading true with
    posts := b.posts + 1
    waiting := b.waiting ++ [.submit b.posts]
    past := .submitted b.posts :: b.past }

/-- What comes after a `fetch`, or when a timer fires. -/
def resume (stores : Bool) (wait : Wait) (reply : Reply) (b : UpdateButton) : Option UpdateButton :=
  match wait, reply with
  | .submit _, .failed message => some (b.showQueueError message)
  | .submit _, .queued statusUrl =>
    some ({ b with past := .started statusUrl :: b.past }.startPolling stores statusUrl)
  | .status statusUrl, .failed _ => some (b.schedulePoll statusUrl)
  | .status statusUrl, .status reply => some (b.afterPoll stores statusUrl reply)
  | .timer _ statusUrl, .fired => some (b.pollUntilDone statusUrl)
  | _, _ => none

inductive Event
  | load (readable : Bool)
  | submit
  | resume (i : Nat) (stores : Bool) (reply : Reply)

def step (b : UpdateButton) : Event → Option UpdateButton
  | .load readable => some (b.load readable)
  | .submit => some b.submit
  | .resume i stores reply =>
    match b.waiting[i]? with
    | none => none
    | some wait => { b with waiting := b.waiting.eraseIdx i }.resume stores wait reply

/-- Before the first page. -/
def initial : UpdateButton where
  disabled := false
  stored := none
  pollTimer := 0
  timers := 0
  posts := 0
  waiting := []
  past := []

/-- The storage can be used. -/
def Event.stores : Event → Bool
  | .load readable => readable
  | .submit => true
  | .resume _ stores _ => stores

def Wait.statusUrl : Wait → Option StatusUrl
  | .submit _ => none
  | .status statusUrl | .timer _ statusUrl => some statusUrl

/-- The update that is being polled. -/
def polling (b : UpdateButton) : Option StatusUrl :=
  b.waiting.findSome? Wait.statusUrl

def Act.started? : Act → Option StatusUrl
  | .started statusUrl => some statusUrl
  | _ => none

def Act.ended? : Act → Option StatusUrl
  | .ended statusUrl _ => some statusUrl
  | _ => none

/-- The button waits for nothing, or it is disabled and waits for one thing. -/
inductive Sound (b : UpdateButton) : Prop
  | idle (hwaiting : b.waiting = []) (hdisabled : b.disabled = false)
  | busy (wait : Wait) (hwaiting : b.waiting = [wait]) (hdisabled : b.disabled = true)

/-- What is polled is stored, and each polling that has been started has ended once, or is the last one and goes
on. -/
structure Accounts (b : UpdateButton) : Prop where
  stored : b.stored = b.polling
  started : b.past.filterMap Act.started? = b.polling.toList ++ b.past.filterMap Act.ended?

/-- The status URLs that the script holds. -/
structure Holds (P : StatusUrl → Prop) (b : UpdateButton) : Prop where
  stored : ∀ statusUrl ∈ b.stored, P statusUrl
  waiting : ∀ wait ∈ b.waiting, ∀ statusUrl ∈ wait.statusUrl, P statusUrl

/-- What a resumed script gets from outside. -/
def Reply.Gives (P : StatusUrl → Prop) : Reply → Prop
  | .queued statusUrl => P statusUrl
  | _ => True

/-- All that a step can do. -/
inductive Effect (b : UpdateButton) : Event → UpdateButton → Prop
  | loaded (hstored : b.stored.filter (fun _ => readable) = none) :
    Effect b (.load readable) { b with disabled := false, pollTimer := 0, timers := 0, waiting := [] }
  | reloaded {statusUrl : StatusUrl} (hstored : b.stored = some statusUrl) :
    Effect b (.load true) { b with
      disabled := true, pollTimer := 0, timers := 0, waiting := [.status statusUrl]
      past := .polled statusUrl :: b.past }
  | ignored : Effect b .submit b
  | submitted (hwaiting : b.waiting = []) :
    Effect b .submit { b with
      disabled := true, posts := b.posts + 1, waiting := [.submit b.posts]
      past := .submitted b.posts :: b.past }
  | refused (hwaiting : b.waiting = [.submit post]) :
    Effect b (.resume i stores (.failed message)) { b with
      disabled := false, waiting := [], past := .refused text :: b.past }
  | started {statusUrl : StatusUrl} (hwaiting : b.waiting = [.submit post]) :
    Effect b (.resume i stores (.queued statusUrl)) { b with
      disabled := true, stored := if stores then some statusUrl else b.stored, waiting := [.status statusUrl]
      past := .polled statusUrl :: .started statusUrl :: b.past }
  | postponed {statusUrl : StatusUrl} (hwaiting : b.waiting = [.status statusUrl])
      (hreply : (∃ message, reply = .failed message) ∨ ∃ status, reply = .status status ∧ isDone status = false) :
    Effect b (.resume i stores reply) { b with
      pollTimer := b.timers + 1, timers := b.timers + 1, waiting := [.timer (b.timers + 1) statusUrl] }
  | ended {statusUrl : StatusUrl} (hwaiting : b.waiting = [.status statusUrl]) (hdone : isDone reply = true) :
    Effect b (.resume i stores (.status reply)) { b with
      disabled := false, stored := if stores then none else b.stored, waiting := []
      past := .ended statusUrl (alert reply) :: b.past }
  | fired {timer : Nat} {statusUrl : StatusUrl} (hwaiting : b.waiting = [.timer timer statusUrl]) :
    Effect b (.resume i stores .fired) { b with
      waiting := [.status statusUrl], past := .polled statusUrl :: b.past }

section
variable {b b' : UpdateButton} {e : Event} {P : StatusUrl → Prop}

theorem rememberStatusUrl_eq (stores : Bool) (statusUrl : StatusUrl) (b : UpdateButton) :
    b.rememberStatusUrl stores statusUrl = { b with stored := if stores then some statusUrl else b.stored } := by
  cases stores <;> rfl

theorem forgetStatusUrl_eq (stores : Bool) (b : UpdateButton) :
    b.forgetStatusUrl stores = { b with stored := if stores then none else b.stored } := by
  cases stores <;> rfl

theorem effect_load (readable : Bool) (b : UpdateButton) : b.Effect (.load readable) (b.load readable) := by
  cases hstored : b.stored.filter fun _ => readable with
  | none =>
    simp only [load, hstored]
    exact .loaded hstored
  | some statusUrl =>
    obtain ⟨hsome, rfl⟩ := Option.filter_eq_some_iff.1 hstored
    have hload : b.load true = { b with
        disabled := true, pollTimer := 0, timers := 0, waiting := [.status statusUrl]
        past := .polled statusUrl :: b.past } := by
      simp only [load, hsome, Option.filter_some, startPolling, rememberStatusUrl, if_true, setLoading,
        pollUntilDone, List.nil_append]
    rw [hload]
    exact .reloaded hsome

theorem Sound.effect (h : b.Sound) (hstep : b.step e = some b') : b.Effect e b' := by
  cases e with
  | load readable =>
    obtain rfl := Option.some.inj hstep
    exact effect_load readable b
  | submit =>
    obtain rfl := Option.some.inj hstep
    rw [submit]
    cases h with
    | idle hwaiting hdisabled =>
      rw [if_neg (ne_true_of_eq_false hdisabled), hwaiting]
      exact .submitted hwaiting
    | busy wait hwaiting hdisabled =>
      rw [if_pos hdisabled]
      exact .ignored
  | resume i stores reply =>
    cases h with
    | idle hwaiting hdisabled =>
      rw [step, hwaiting, List.getElem?_nil] at hstep
      cases hstep
    | busy wait hwaiting hdisabled =>
      rw [step, hwaiting] at hstep
      cases i with
      | succ i => cases hstep
      | zero =>
        simp only [List.getElem?_cons_zero, List.eraseIdx_cons_zero] at hstep
        cases wait with
        | submit post =>
          cases reply with
          | failed message =>
            obtain rfl := Option.some.inj hstep
            exact .refused hwaiting
          | queued statusUrl =>
            obtain rfl := Option.some.inj hstep
            rw [startPolling, rememberStatusUrl_eq]
            exact .started hwaiting
          | status reply => cases hstep
          | fired => cases hstep
        | status statusUrl =>
          cases reply with
          | failed message =>
            obtain rfl := Option.some.inj hstep
            exact .postponed hwaiting (.inl ⟨message, rfl⟩)
          | queued statusUrl => cases hstep
          | status reply =>
            obtain rfl := Option.some.inj hstep
            rw [afterPoll]
            cases hdone : isDone reply with
            | true =>
              rw [if_pos rfl, forgetStatusUrl_eq]
              exact .ended hwaiting hdone
            | false =>
              rw [if_neg Bool.false_ne_true]
              exact .postponed hwaiting (.inr ⟨reply, rfl, hdone⟩)
          | fired => cases hstep
        | timer id statusUrl =>
          cases reply with
          | fired =>
            obtain rfl := Option.some.inj hstep
            exact .fired hwaiting
          | failed message => cases hstep
          | queued statusUrl => cases hstep
          | status reply => cases hstep

theorem Sound.waiting_eq (h : b.Sound) (hwait : wait ∈ b.waiting) : b.waiting = [wait] := by
  cases h with
  | idle hwaiting hdisabled =>
    rw [hwaiting] at hwait
    exact absurd hwait List.not_mem_nil
  | busy other hwaiting hdisabled =>
    rw [hwaiting] at hwait ⊢
    rw [List.mem_singleton.1 hwait]

/-- While the button waits, it is disabled. -/
theorem Sound.submit_busy (h : b.Sound) (hwaiting : b.waiting = [wait]) : b.submit = b := by
  cases h with
  | idle hnone hdisabled =>
    rw [hnone] at hwaiting
    cases hwaiting
  | busy other hone hdisabled => rw [submit, if_pos hdisabled]

/-- The button stays as it should be. -/
theorem Sound.step (h : b.Sound) (hstep : b.step e = some b') : b'.Sound := by
  have heffect := h.effect hstep
  cases heffect with
  | loaded hstored => exact .idle rfl rfl
  | reloaded hstored => exact .busy _ rfl rfl
  | ignored => exact h
  | submitted hwaiting => exact .busy _ rfl rfl
  | refused hwaiting => exact .idle rfl rfl
  | started hwaiting => exact .busy _ rfl rfl
  | ended hwaiting hdone => exact .idle rfl rfl
  | postponed hwaiting hreply =>
    cases h with
    | idle hnone hdisabled =>
      rw [hnone] at hwaiting
      cases hwaiting
    | busy wait hone hdisabled => exact .busy _ rfl hdisabled
  | fired hwaiting =>
    cases h with
    | idle hnone hdisabled =>
      rw [hnone] at hwaiting
      cases hwaiting
    | busy wait hone hdisabled => exact .busy _ rfl hdisabled

/-- No polling gets lost, however often the page is loaded. -/
theorem Accounts.effect (h : b.Accounts) (heffect : b.Effect e b') (hstores : e.stores = true) :
    b'.Accounts := by
  obtain ⟨hstored, hstarted⟩ := h
  cases heffect with
  | loaded hnone =>
    obtain rfl : _ = true := hstores
    have hnone : b.stored = none := by
      cases hsome : b.stored with
      | none => rfl
      | some statusUrl =>
        rw [hsome] at hnone
        cases hnone
    rw [← hstored, hnone] at hstarted
    exact ⟨hnone, hstarted⟩
  | reloaded hsome =>
    rw [← hstored, hsome] at hstarted
    exact ⟨hsome, hstarted⟩
  | ignored => exact ⟨hstored, hstarted⟩
  | submitted hwaiting =>
    rw [polling, hwaiting] at hstored hstarted
    exact ⟨hstored, hstarted⟩
  | refused hwaiting =>
    rw [polling, hwaiting] at hstored hstarted
    exact ⟨hstored, hstarted⟩
  | started hwaiting =>
    obtain rfl : _ = true := hstores
    rw [polling, hwaiting] at hstarted
    exact ⟨rfl, congrArg (List.cons _) hstarted⟩
  | postponed hwaiting hreply =>
    rw [polling, hwaiting] at hstored hstarted
    exact ⟨hstored, hstarted⟩
  | ended hwaiting hdone =>
    obtain rfl : _ = true := hstores
    rw [polling, hwaiting] at hstarted
    exact ⟨rfl, hstarted⟩
  | fired hwaiting =>
    rw [polling, hwaiting] at hstored hstarted
    exact ⟨hstored, hstarted⟩

theorem Holds.mono (h : b.Holds P) (himp : ∀ statusUrl, P statusUrl → Q statusUrl) : b.Holds Q :=
  ⟨fun statusUrl hmem => himp _ (h.stored statusUrl hmem),
    fun wait hwait statusUrl hmem => himp _ (h.waiting wait hwait statusUrl hmem)⟩

/-- The script makes no status URL up. -/
theorem Holds.effect (h : b.Holds P) (heffect : b.Effect e b')
    (hgives : ∀ i stores reply, e = .resume i stores reply → reply.Gives P) : b'.Holds P := by
  obtain ⟨hstored, hwaits⟩ := h
  cases heffect with
  | loaded hnone => exact ⟨hstored, fun wait hwait => absurd hwait List.not_mem_nil⟩
  | reloaded hsome =>
    refine ⟨hstored, List.forall_mem_singleton.2 ?_⟩
    intro statusUrl hurl
    obtain rfl := Option.some.inj hurl
    exact hstored _ hsome
  | ignored => exact ⟨hstored, hwaits⟩
  | submitted hwaiting =>
    refine ⟨hstored, List.forall_mem_singleton.2 ?_⟩
    rintro statusUrl ⟨⟩
  | refused hwaiting => exact ⟨hstored, fun wait hwait => absurd hwait List.not_mem_nil⟩
  | @started post i stores statusUrl hwaiting =>
    have hgiven : P statusUrl := hgives i stores _ rfl
    refine ⟨?_, List.forall_mem_singleton.2 ?_⟩
    · intro other hother
      dsimp only at hother
      split at hother
      · obtain rfl := Option.some.inj hother
        exact hgiven
      · exact hstored other hother
    · intro other hother
      obtain rfl := Option.some.inj hother
      exact hgiven
  | postponed hwaiting hreply =>
    rw [hwaiting, List.forall_mem_singleton] at hwaits
    exact ⟨hstored, List.forall_mem_singleton.2 hwaits⟩
  | ended hwaiting hdone =>
    refine ⟨?_, fun wait hwait => absurd hwait List.not_mem_nil⟩
    intro other hother
    dsimp only at hother
    split at hother
    · cases hother
    · exact hstored other hother
  | fired hwaiting =>
    rw [hwaiting, List.forall_mem_singleton] at hwaits
    exact ⟨hstored, List.forall_mem_singleton.2 hwaits⟩

end

theorem sound_initial : initial.Sound := .idle rfl rfl

theorem accounts_initial : initial.Accounts := ⟨rfl, rfl⟩

theorem holds_initial (P : StatusUrl → Prop) : initial.Holds P :=
  ⟨fun _ h => absurd h (Option.not_mem_none _), fun _ h => absurd h List.not_mem_nil⟩

end UpdateButton

end GetOffline
