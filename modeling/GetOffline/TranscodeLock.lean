import GetOffline.PythonIsoformat
import GetOffline.Execution
import GetOffline.SeparatedTexts
import Mathlib.Logic.Function.Basic

set_option autoImplicit true

namespace GetOffline
open Python Execution

/-- The `parent_job_id` of a post-processing run, which takes the lock under it. -/
inductive LockOwner
  | inline
  | job (id : Nat)
deriving DecidableEq

/-- `str(job_id)`. -/
def LockOwner.text : LockOwner → String
  | .inline => "inline"
  | .job id => toString id

/-- The `AppConfigValue` row of a lock. -/
structure LockRow where
  value : String
  updatedAt : Instant

/-- `value.partition("|")`, without the separator. -/
def partitionBar (value : String) : String × String :=
  (String.ofList (value.toList.takeWhile fun c => c ≠ '|'),
    String.ofList (value.toList.dropWhile fun c => c ≠ '|').tail)

def LockRow.currentOwner (row : LockRow) : String :=
  (partitionBar row.value).1

/-- The time that a cell names, or one that is over by `now`. -/
def lockExpiresAt (now : Instant) (text : String) : Instant :=
  if text = "" then now - 1000000 else (fromisoformat text).getD (now - 1000000)

/-- The clock as one turn of the acquiring loop reads it: for a default expiry, to compare with, for
the new lease and for `updated_at`. -/
structure LockClock where
  defaulted : Instant
  compared : Instant
  leased : Instant
  saved : Instant

def LockRow.mayAcquire (owner : LockOwner) (clock : LockClock) (row : LockRow) : Bool :=
  let (currentOwner, expiresAtText) := partitionBar row.value
  currentOwner = "" || currentOwner = owner.text ||
    lockExpiresAt clock.defaulted expiresAtText ≤ clock.compared

def leaseText (owner : LockOwner) (expiresAt : Instant) : String :=
  owner.text ++ "|" ++ isoformat expiresAt

/-- Where a worker stands in `_transcode_execution_lock`. -/
inductive LockPhase
  | outside
  | ensuring
  | asking
  | starting
  | inside (thread : Nat)
  | leaving
deriving DecidableEq

/-- A worker that got the lock and has not left the block. -/
def LockPhase.holds : LockPhase → Bool
  | .starting | .inside _ => true
  | _ => false

def LockPhase.isInside : LockPhase → Bool
  | .inside _ => true
  | _ => false

/-- A heartbeat thread: asleep, or past its look at the flag and before its transaction. -/
structure LockThread where
  owner : LockOwner
  stop : Bool
  awake : Bool

/-- The row of one key and the workers that use it. `lease` is the expiry that was last written under
a worker's id. -/
structure LockWorld where
  row : Option LockRow
  phase : LockOwner → LockPhase
  lease : LockOwner → Instant
  threads : Nat → Option LockThread
  nextThread : Nat

inductive LockEvent
  | enter (owner : LockOwner)
  | ensureRow (owner : LockOwner) (now : Instant)
  | ask (owner : LockOwner) (clock : LockClock)
  | startThread (owner : LockOwner) (started : Bool)
  | exit (owner : LockOwner)
  | release (owner : LockOwner) (now : Instant)
  | raise (owner : LockOwner)
  | crash (owner : LockOwner)
  | wake (thread : Nat)
  | beat (thread : Nat) (leased saved : Instant)
  | beatRaises (thread : Nat)

namespace LockWorld

def initial : LockWorld where
  row := none
  phase := fun _ => .outside
  lease := fun _ => 0
  threads := fun _ => none
  nextThread := 0

def goto (owner : LockOwner) (phase : LockPhase) (w : LockWorld) : LockWorld :=
  { w with phase := Function.update w.phase owner phase }

/-- The owner's lease is written anew; an expiry that is no `datetime` raises instead. -/
def writeLease (owner : LockOwner) (expiresAt saved : Instant) (w : LockWorld) : Option LockWorld :=
  if minInstant ≤ expiresAt ∧ expiresAt ≤ maxInstant then
    some { w with
      row := some { value := leaseText owner expiresAt, updatedAt := saved }
      lease := Function.update w.lease owner expiresAt }
  else none

/-- The transaction of a heartbeat: nothing is written when somebody else is the owner. -/
def renew (owner : LockOwner) (expiresAt saved : Instant) (w : LockWorld) : Option LockWorld :=
  w.row.bind fun row =>
    if row.currentOwner = owner.text then w.writeLease owner expiresAt saved else some w

/-- The transaction of the `finally` clause. -/
def clear (owner : LockOwner) (now : Instant) (w : LockWorld) : Option LockWorld :=
  w.row.bind fun row =>
    some { w with
      row := some (if row.currentOwner = owner.text then { value := "", updatedAt := now } else row) }

/-- One turn of the acquiring loop, after the row is there. -/
def ask (leaseSeconds : Int) (owner : LockOwner) (clock : LockClock) (w : LockWorld) :
    Option LockWorld :=
  w.row.bind fun row =>
    if row.mayAcquire owner clock then
      (w.writeLease owner (clock.leased + leaseSeconds * 1000000) clock.saved).map (goto owner .starting)
    else some (w.goto owner .ensuring)

def setThread (thread : Nat) (state : Option LockThread) (w : LockWorld) : LockWorld :=
  { w with threads := Function.update w.threads thread state }

/-- The loop condition of the heartbeat: the thread sleeps again, or ends. -/
def sleepAgain (thread : Nat) (state : LockThread) (w : LockWorld) : LockWorld :=
  w.setThread thread (if state.stop then none else some { state with awake := false })

/-- What the process of a worker takes with it when it dies. -/
def crash (owner : LockOwner) (w : LockWorld) : LockWorld :=
  { w.goto owner .outside with
    threads := fun i => (w.threads i).filter fun thread => thread.owner ≠ owner }

/-- One step of the workers on a key. A disabled event gives `none`. -/
def step (leaseSeconds : Int) (w : LockWorld) : LockEvent → Option LockWorld
  | .enter owner =>
    if w.phase owner = .outside then some (w.goto owner .ensuring) else none
  | .ensureRow owner now =>
    if w.phase owner = .ensuring then
      some { w.goto owner .asking with row := some (w.row.getD { value := "", updatedAt := now }) }
    else none
  | .ask owner clock =>
    if w.phase owner = .asking then w.ask leaseSeconds owner clock else none
  | .startThread owner started =>
    if w.phase owner = .starting then
      if started then
        some { (w.goto owner (.inside w.nextThread)).setThread w.nextThread
            (some { owner, stop := false, awake := false }) with nextThread := w.nextThread + 1 }
      else some (w.goto owner .outside)
    else none
  | .exit owner =>
    match w.phase owner with
    | .inside thread =>
      some ((w.goto owner .leaving).setThread thread
        ((w.threads thread).map fun state => { state with stop := true }))
    | _ => none
  | .release owner now =>
    if w.phase owner = .leaving then (w.clear owner now).map (goto owner .outside) else none
  | .raise owner =>
    if w.phase owner ∈ [.ensuring, .asking, .leaving] then some (w.goto owner .outside) else none
  | .crash owner => some (w.crash owner)
  | .wake thread =>
    (w.threads thread).bind fun state =>
      if state.awake then none
      else some (w.setThread thread (if state.stop then none else some { state with awake := true }))
  | .beat thread leased saved =>
    (w.threads thread).bind fun state =>
      if state.awake then
        (w.renew state.owner (leased + leaseSeconds * 1000000) saved).map (sleepAgain thread state)
      else none
  | .beatRaises thread =>
    (w.threads thread).bind fun state =>
      if state.awake then some (w.setThread thread none) else none

/-- The job whose heartbeat or release an event is. -/
def renewer (w : LockWorld) : LockEvent → Option LockOwner
  | .release owner _ => some owner
  | .beat thread _ _ => (w.threads thread).map LockThread.owner
  | _ => none

/-- Nobody looks at the clock for the lock after the lease of a worker that holds it has expired. -/
def Timely (w : LockWorld) : LockEvent → Prop
  | .ask owner clock =>
    ∀ holder, holder ≠ owner → (w.phase holder).holds = true → clock.compared < w.lease holder
  | _ => True

end LockWorld

theorem bar_not_in_text (owner : LockOwner) : '|' ∉ owner.text.toList := by
  cases owner with
  | inline => decide
  | job id => exact not_mem_toString (by decide) id

theorem text_ne_empty (owner : LockOwner) : owner.text ≠ "" := by
  cases owner with
  | inline => decide
  | job id =>
    intro h
    rw [LockOwner.text, Nat.toString_eq_ofList_toDigits] at h
    have hlist := congrArg String.toList h
    rw [String.toList_ofList] at hlist
    exact Nat.toDigits_ne_nil hlist

theorem text_injective {u v : LockOwner} (h : u.text = v.text) : u = v := by
  have hinline : ∀ id : Nat, toString id ≠ "inline" := by
    intro id hid
    have hi : 'i' ∈ Nat.toDigits 10 id := by
      rw [Nat.toString_eq_ofList_toDigits] at hid
      have hl := congrArg String.toList hid
      rw [String.toList_ofList] at hl
      rw [hl]
      decide
    cases Nat.isDigit_of_mem_toDigits (by decide) le_rfl hi
  cases u with
  | inline =>
    cases v with
    | inline => rfl
    | job id => exact (hinline id h.symm).elim
  | job id =>
    cases v with
    | inline => exact (hinline id h).elim
    | job id' =>
      rw [LockOwner.text, LockOwner.text, Nat.toString_eq_ofList_toDigits,
        Nat.toString_eq_ofList_toDigits] at h
      have hdigits := congrArg String.toList h
      rw [String.toList_ofList, String.toList_ofList] at hdigits
      have hid := congrArg (Nat.ofDigitChars 10 · 0) hdigits
      simp only [Nat.ofDigitChars_ten_toDigits] at hid
      rw [hid]

/-- What a holder wrote is taken apart as it was put together. -/
theorem partitionBar_leaseText (owner : LockOwner) (expiresAt : Instant) :
    partitionBar (leaseText owner expiresAt) = (owner.text, isoformat expiresAt) := by
  have hbar : "|".toList = ['|'] := rfl
  have hne : ∀ c ∈ owner.text.toList, decide (c ≠ '|') = true := by
    intro c hc
    exact decide_eq_true fun h => bar_not_in_text owner (h ▸ hc)
  have htext : (leaseText owner expiresAt).toList =
      owner.text.toList ++ '|' :: (isoformat expiresAt).toList := by
    rw [leaseText, String.toList_append, String.toList_append, hbar, List.append_assoc]
    rfl
  rw [partitionBar, htext, List.takeWhile_append_of_pos hne, List.dropWhile_append_of_pos hne]
  simp

/-- A lease that has not run out keeps everybody else from taking the lock. -/
theorem not_mayAcquire_of_lease {row : LockRow} (hrow : row.value = leaseText holder expiresAt)
    (hlow : minInstant ≤ expiresAt) (hhigh : expiresAt ≤ maxInstant) (hne : holder ≠ owner)
    (hlive : clock.compared < expiresAt) : row.mayAcquire owner clock = false := by
  have hempty : isoformat expiresAt ≠ "" := by
    intro h
    have hparsed := fromisoformat_isoformat hlow hhigh
    rw [h] at hparsed
    cases hparsed
  rw [LockRow.mayAcquire, hrow, partitionBar_leaseText]
  dsimp only
  rw [lockExpiresAt, if_neg hempty, fromisoformat_isoformat hlow hhigh, Option.getD_some,
    decide_eq_false (text_ne_empty holder), decide_eq_false (fun h => hne (text_injective h)),
    decide_eq_false (not_le_of_gt hlive)]
  rfl

end GetOffline
