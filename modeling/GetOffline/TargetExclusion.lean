import GetOffline.Conversion
import GetOffline.SerialRuns
import GetOffline.TranscodeExclusion

set_option autoImplicit true

namespace GetOffline
open Python Effects Program Execution

/-- What a `transcode_media` job is for. -/
structure TranscodeTask where
  profileId : String
  payload : Columns

namespace TranscodeTask

def downloadId (task : TranscodeTask) : Json :=
  (Json.get "download_id" task.payload).getD .null

def lockKey (host : Host) (task : TranscodeTask) : String :=
  transcodeLockKey host task.profileId task.payload

/-- The inputs, the target and the item as the payload names them. -/
def inputText (host : Host) (task : TranscodeTask) : String :=
  let sourcePaths := match Json.get "source_file_paths" task.payload with
    | some (.array (path :: paths)) => path :: paths
    | _ => [(Json.get "source_file_path" task.payload).getD .null]
  "|".intercalate ((sourcePaths.filter Json.truthy).map (fun path =>
      (host.resolve (host.str path)).str) ++
    [host.textOr (Json.get "target_file_path" task.payload) "",
      host.textOr (Json.get "item_uid" task.payload) ""])

/-- The file that a conversion for the job has as its target. -/
def WritesTo (host : Host) (task : TranscodeTask) (output : Path) : Prop :=
  ∃ subject targetExt replies s path s', runSerially host (conversionTarget host task.payload subject
    (conversionSources host task.payload subject).first targetExt) replies s = some (.ok path, s') ∧
      output = host.real path

end TranscodeTask

/-- Both jobs are for one row of a profile, or for the same inputs, target text and item. -/
def SameConversion (host : Host) (task task' : TranscodeTask) : Prop :=
  task.profileId = task'.profileId ∧ task.downloadId.truthy = task'.downloadId.truthy ∧
    if task.downloadId.truthy then host.str task.downloadId = host.str task'.downloadId
    else task.inputText host = task'.inputText host

/-- What the key of a conversion ends in: the id of the row, or a digest. -/
def TranscodeTask.keyTail (host : Host) (task : TranscodeTask) : String :=
  if task.downloadId.truthy then host.str task.downloadId else host.sha1 (task.inputText host)

/-- Digests of what the jobs name do not collide, and are written, as row ids are, without a colon. -/
structure PlainKeys (host : Host) (tasks : LockOwner → TranscodeTask) : Prop where
  keys : ∀ u v, (tasks u).lockKey host = (tasks v).lockKey host →
    transcodeIdempotencyKey host (tasks u).profileId (tasks u).payload =
      transcodeIdempotencyKey host (tasks v).profileId (tasks v).payload
  inputs : ∀ u v, host.sha1 ((tasks u).inputText host) = host.sha1 ((tasks v).inputText host) →
    (tasks u).inputText host = (tasks v).inputText host
  tails : ∀ u, ':' ∉ ((tasks u).keyTail host).toList

section
variable {host : Host} {tasks : LockOwner → TranscodeTask} {task task' : TranscodeTask}

theorem idempotencyKey_eq (host : Host) (task : TranscodeTask) :
    transcodeIdempotencyKey host task.profileId task.payload = "transcode_media:" ++ task.profileId ++
      (if task.downloadId.truthy then ":download" else ":file") ++ ":" ++ task.keyTail host := by
  have hdownload : ":download:" = ":download" ++ ":" := by decide
  have hfile : ":file:" = ":file" ++ ":" := by decide
  rw [transcodeIdempotencyKey, TranscodeTask.keyTail, TranscodeTask.downloadId, hdownload, hfile,
    ← String.append_assoc, ← String.append_assoc]
  dsimp only
  split <;> rfl

theorem SameConversion.lockKey (h : SameConversion host task task') :
    task.lockKey host = task'.lockKey host := by
  obtain ⟨hprofile, hkind, hsame⟩ := h
  have htail : task.keyTail host = task'.keyTail host := by
    rw [TranscodeTask.keyTail, TranscodeTask.keyTail, ← hkind]
    split at hsame
    · next hrow => rw [if_pos hrow, if_pos hrow, hsame]
    · next hrow => rw [if_neg hrow, if_neg hrow, hsame]
  rw [TranscodeTask.lockKey, TranscodeTask.lockKey, transcodeLockKey, transcodeLockKey,
    idempotencyKey_eq, idempotencyKey_eq, hprofile, hkind, htail]

theorem split_inj {x x' z z' : List Char} {c : Char} (hx : c ∉ x) (hx' : c ∉ x')
    (h : x ++ c :: z = x' ++ c :: z') : x = x' ∧ z = z' := by
  rcases List.append_eq_append_iff.1 h with ⟨y, rfl, hy⟩ | ⟨y, rfl, hy⟩
  · cases y with
    | nil => exact ⟨(List.append_nil x).symm, (List.cons.inj hy).2⟩
    | cons d y =>
      obtain ⟨rfl, -⟩ := List.cons.inj hy
      exact absurd (List.mem_append_right x List.mem_cons_self) hx'
  · cases y with
    | nil => exact ⟨List.append_nil x', (List.cons.inj hy).2.symm⟩
    | cons d y =>
      obtain ⟨rfl, -⟩ := List.cons.inj hy
      exact absurd (List.mem_append_right x' List.mem_cons_self) hx

/-- What stands before and after the last colon. -/
theorem append_colon_inj {a a' b b' : String} (hb : ':' ∉ b.toList) (hb' : ':' ∉ b'.toList)
    (h : a ++ ":" ++ b = a' ++ ":" ++ b') : a = a' ∧ b = b' := by
  have hlist := congrArg (fun text : String => text.toList.reverse) h
  simp only [String.toList_append, List.reverse_append] at hlist
  obtain ⟨hlast, hstart⟩ := split_inj (fun hmem => hb (List.mem_reverse.1 hmem))
    (fun hmem => hb' (List.mem_reverse.1 hmem)) hlist
  exact ⟨String.toList_inj.1 (List.reverse_injective hstart),
    String.toList_inj.1 (List.reverse_injective hlast)⟩

/-- Texts that end in one of the two kinds tell which. -/
theorem kind_inj {p p' : String} {row row' : Bool}
    (h : "transcode_media:" ++ p ++ (if row then ":download" else ":file") =
      "transcode_media:" ++ p' ++ (if row' then ":download" else ":file")) : p = p' ∧ row = row' := by
  have hrow : row = row' := by
    have hlast := congrArg (fun text : String => text.toList.getLast?) h
    simp only [String.toList_append, List.getLast?_append] at hlast
    cases row <;> cases row'
    · rfl
    · exact absurd (show some 'e' = some 'd' from hlast) (by decide)
    · exact absurd (show some 'd' = some 'e' from hlast) (by decide)
    · rfl
  subst row'
  have hlist := congrArg String.toList h
  simp only [String.toList_append] at hlist
  exact ⟨String.toList_inj.1 (List.append_cancel_left (List.append_cancel_right hlist)), rfl⟩

/-- Keys that are equal are keys of one conversion. -/
theorem PlainKeys.sameConversion (h : PlainKeys host tasks) {u v : LockOwner}
    (hkey : (tasks u).lockKey host = (tasks v).lockKey host) :
    SameConversion host (tasks u) (tasks v) := by
  have hsame := h.keys u v hkey
  rw [idempotencyKey_eq, idempotencyKey_eq] at hsame
  obtain ⟨hstart, htail⟩ := append_colon_inj (h.tails u) (h.tails v) hsame
  obtain ⟨hprofile, hkind⟩ := kind_inj hstart
  refine ⟨hprofile, hkind, ?_⟩
  rw [TranscodeTask.keyTail, TranscodeTask.keyTail, ← hkind] at htail
  split
  · next hrow =>
    rw [if_pos hrow, if_pos hrow] at htail
    exact htail
  · next hrow =>
    rw [if_neg hrow, if_neg hrow] at htail
    exact h.inputs u v htail

end

/-- The lock rows of all keys. -/
abbrev LockRows := String → LockWorld

namespace LockRows

def initial : LockRows :=
  fun _ => .initial

/-- A step on the row of a key; a job comes only to the row of its own key. -/
def step (keys : LockOwner → String) (w : LockRows) (e : String × LockEvent) : Option LockRows :=
  match e.2 with
  | .enter owner =>
    if e.1 = keys owner then ((w e.1).step 300 e.2).map (Function.update w e.1) else none
  | _ => ((w e.1).step 300 e.2).map (Function.update w e.1)

def Timely (w : LockRows) (e : String × LockEvent) : Prop :=
  (w e.1).Timely e.2

/-- The job is in the `with` block in which `ffmpeg` runs. -/
def InSection (keys : LockOwner → String) (w : LockRows) (owner : LockOwner) : Prop :=
  ((w (keys owner)).phase owner).isInside = true

variable {keys : LockOwner → String} {w w' : LockRows}

theorem step_spec {e : String × LockEvent} (h : step keys w e = some w') :
    ∃ t, (w e.1).step 300 e.2 = some t ∧ w' = Function.update w e.1 t := by
  obtain ⟨key, event⟩ := e
  have hmap : ((w key).step 300 event).map (Function.update w key) = some w' := by
    cases event with
    | enter owner =>
      simp only [step] at h
      split at h
      · exact h
      · cases h
    | _ => exact h
  obtain ⟨t, ht, rfl⟩ := Option.map_eq_some_iff.1 hmap
  exact ⟨t, ht, rfl⟩

/-- A run of all rows is a run of each. -/
theorem exec_row {es : List (String × LockEvent)} (hrun : exec (step keys) w es = some w')
    (htimely : Along (step keys) Timely w es) (key : String) : ∃ es', exec (LockWorld.step 300) (w key) es' =
      some (w' key) ∧ Along (LockWorld.step 300) LockWorld.Timely (w key) es' := by
  induction es generalizing w with
  | nil =>
    cases hrun
    exact ⟨[], rfl, trivial⟩
  | cons e es ih =>
    obtain ⟨u, hu, hrest⟩ := exec_cons hrun
    obtain ⟨t, ht, rfl⟩ := step_spec hu
    obtain ⟨es', hexec, halong⟩ := ih hrest (htimely.tail hu)
    by_cases hkey : key = e.1
    · subst key
      rw [Function.update_self] at hexec halong
      refine ⟨e.2 :: es', ?_, htimely.head, ?_⟩
      · rw [exec, ht, Option.bind_some]
        exact hexec
      · rw [ht]
        exact halong
    · rw [Function.update_of_ne hkey] at hexec halong
      exact ⟨es', hexec, halong⟩

/-- A run of one row is a run of all rows. -/
theorem exec_lift {es : List LockEvent} {key : String}
    (hkeys : ∀ owner, .enter owner ∈ es → key = keys owner)
    (hrun : exec (LockWorld.step 300) (w key) es = some t)
    (htimely : Along (LockWorld.step 300) LockWorld.Timely (w key) es) :
    exec (step keys) w (es.map fun e => (key, e)) = some (Function.update w key t) ∧
      Along (step keys) Timely w (es.map fun e => (key, e)) := by
  induction es generalizing w with
  | nil =>
    cases hrun
    rw [Function.update_eq_self]
    exact ⟨rfl, trivial⟩
  | cons e es ih =>
    obtain ⟨u, hu, hrest⟩ := exec_cons hrun
    have hstep : step keys w (key, e) = some (Function.update w key u) := by
      cases e with
      | enter owner =>
        simp only [step]
        rw [if_pos (hkeys owner List.mem_cons_self), hu, Option.map_some]
      | _ =>
        simp only [step]
        rw [hu, Option.map_some]
    have hrest' := htimely.tail hu
    rw [← Function.update_self key u w] at hrest hrest'
    obtain ⟨hexec, halong⟩ := ih (fun owner howner => hkeys owner (List.mem_cons_of_mem _ howner)) hrest hrest'
    rw [List.map_cons, Along, hstep]
    rw [Function.update_idem] at hexec
    refine ⟨?_, htimely.head, halong⟩
    rw [exec, hstep, Option.bind_some]
    exact hexec

end LockRows

/-- A job comes into the section while nobody else is about. -/
def entering (owner : LockOwner) : List LockEvent :=
  [.enter owner, .ensureRow owner 0, .ask owner ⟨0, 0, 0, 0⟩, .startThread owner true]

theorem exec_entering (owner : LockOwner) :
    ∃ w, exec (LockWorld.step 300) .initial (entering owner) = some w ∧
      (w.phase owner).isInside = true ∧
      Along (LockWorld.step 300) LockWorld.Timely .initial (entering owner) := by
  have hmay : LockRow.mayAcquire owner ⟨0, 0, 0, 0⟩ { value := "", updatedAt := 0 } = true := by
    simp [LockRow.mayAcquire, partitionBar]
  have hfrom : minInstant ≤ 300000000 := by decide
  have hto : 300000000 ≤ maxInstant := by decide
  simp +contextual [entering, exec, Along, LockWorld.step, LockWorld.initial, LockWorld.goto, LockWorld.ask,
    hmay, LockWorld.writeLease, hfrom, hto, LockWorld.Timely, LockWorld.setThread, LockPhase.isInside,
    LockPhase.holds]

/-- Jobs, each with the file that its conversion writes. -/
structure Conversions (host : Host) where
  task : LockOwner → TranscodeTask
  output : LockOwner → Path
  writes : ∀ owner, (task owner).WritesTo host (output owner)

namespace Conversions
variable {host : Host}

def key (c : Conversions host) (owner : LockOwner) : String :=
  (c.task owner).lockKey host

/-- Two jobs that write one file are never in the section together. -/
def Exclusive (c : Conversions host) : Prop :=
  ∀ es w, exec (LockRows.step c.key) .initial es = some w →
    Along (LockRows.step c.key) LockRows.Timely .initial es →
    ∀ u v, c.output u = c.output v → w.InSection c.key u → w.InSection c.key v → u = v

/-- Jobs with two keys can be in the section together. -/
theorem together (c : Conversions host) {u v : LockOwner} (hne : c.key u ≠ c.key v) :
    ∃ es w, exec (LockRows.step c.key) .initial es = some w ∧
      Along (LockRows.step c.key) LockRows.Timely .initial es ∧
      w.InSection c.key u ∧ w.InSection c.key v := by
  have hkeys (owner : LockOwner) : ∀ other, .enter other ∈ entering owner → c.key owner = c.key other := by
    intro other hother
    rcases List.mem_cons.1 hother with heq | hother
    · rw [LockEvent.enter.inj heq]
    · simp at hother
  obtain ⟨t, ht, hinside, htimely⟩ := exec_entering u
  obtain ⟨t', ht', hinside', htimely'⟩ := exec_entering v
  obtain ⟨hexec, halong⟩ := LockRows.exec_lift (w := LockRows.initial) (hkeys u) ht htimely
  have hfree : Function.update LockRows.initial (c.key u) t (c.key v) = .initial := by
    rw [Function.update_of_ne hne.symm]
    rfl
  rw [← hfree] at ht' htimely'
  obtain ⟨hexec', halong'⟩ := LockRows.exec_lift (hkeys v) ht' htimely'
  refine ⟨(entering u).map (fun e => (c.key u, e)) ++ (entering v).map (fun e => (c.key v, e)),
    Function.update (Function.update LockRows.initial (c.key u) t) (c.key v) t', ?_,
    halong.append hexec halong', ?_, ?_⟩
  · rw [exec_append, hexec, Option.bind_some, hexec']
  · rw [LockRows.InSection, Function.update_of_ne hne, Function.update_self]
    exact hinside
  · rw [LockRows.InSection, Function.update_self]
    exact hinside'

/-- Jobs of one key exclude each other, so it is exactly jobs of one conversion that do. -/
theorem exclusive_iff (c : Conversions host) (hplain : PlainKeys host c.task) :
    c.Exclusive ↔ ∀ u v, u ≠ v → c.output u = c.output v → SameConversion host (c.task u) (c.task v) := by
  constructor
  · intro h u v hne houtput
    apply hplain.sameConversion
    by_contra hkey
    obtain ⟨es, w, hrun, htimely, hu, hv⟩ := c.together hkey
    exact hne (h es w hrun htimely u v houtput hu hv)
  · intro h es w hrun htimely u v houtput hu hv
    by_contra hne
    have hkey : c.key u = c.key v := (h u v hne houtput).lockKey
    obtain ⟨es', hrun', htimely'⟩ := LockRows.exec_row hrun htimely (c.key u)
    rw [LockRows.InSection, ← hkey] at hv
    exact hne (LockWorld.inside_unique 300 hrun' htimely' u v hu hv)

end Conversions

/-- A video without a row that is to be converted: its inputs differ from job to job, the target does not. -/
def videoTask (name itemUid : String) : TranscodeTask where
  profileId := "p"
  payload := [("source_file_path", .string ("/d/N/" ++ name)),
    ("source_file_paths", .array [.string ("/d/N/" ++ name)]),
    ("target_file_path", .string "/d/N/Ep.mp4"), ("item_uid", .string itemUid)]

def videoTarget : Path :=
  Host.plain.absolute "/d/N/Ep.mp4"

theorem videoTask_writes (name itemUid : String) :
    (videoTask name itemUid).WritesTo .plain videoTarget := by
  have htarget : hasTarget (videoTask name itemUid).payload = true := rfl
  have htext : Host.plain.str ((Json.get "target_file_path" (videoTask name itemUid).payload).getD
      .null) = "/d/N/Ep.mp4" := rfl
  refine ⟨.deferred [] [], "mp4", [], Library.empty, videoTarget, ⟨[], Library.empty⟩, ?_, rfl⟩
  rw [conversionTarget, if_pos htarget, htext]
  rfl

/-- The same job, however often. -/
def duplicateConversions : Conversions .plain where
  task _ := videoTask "Ep.f1 [a].webm" "a"
  output _ := videoTarget
  writes _ := videoTask_writes _ _

theorem duplicates_exclusive : duplicateConversions.Exclusive := by
  apply (Conversions.exclusive_iff duplicateConversions _).2
  · intro u v _ _
    exact ⟨rfl, rfl, rfl⟩
  · constructor
    · intro u v _
      rfl
    · intro u v _
      rfl
    · intro u
      exact (by decide +kernel : ':' ∉ ((videoTask "Ep.f1 [a].webm" "a").keyTail .plain).toList)

/-- Videos whose titles differ only after `.f`. -/
def namesakeTask (owner : LockOwner) : TranscodeTask :=
  if owner = .job 1 then videoTask "Ep.f1 [a].webm" "a" else videoTask "Ep.f2 [b].webm" "b"

theorem namesakeTask_writes (owner : LockOwner) :
    (namesakeTask owner).WritesTo .plain videoTarget := by
  rw [namesakeTask]
  split
  · exact videoTask_writes _ _
  · exact videoTask_writes _ _

def namesakeConversions : Conversions .plain where
  task := namesakeTask
  output _ := videoTarget
  writes := namesakeTask_writes

theorem namesake_keys :
    (videoTask "Ep.f1 [a].webm" "a").lockKey .plain ≠ (videoTask "Ep.f2 [b].webm" "b").lockKey .plain := by
  decide +kernel

theorem namesake_key (owner : LockOwner) :
    namesakeConversions.key owner = (namesakeTask owner).lockKey .plain := rfl

theorem namesake_output (u v : LockOwner) :
    namesakeConversions.output u = namesakeConversions.output v := rfl

/-- Both are converted to one file at the same time. -/
theorem namesakes_not_exclusive : ¬namesakeConversions.Exclusive := by
  intro h
  have hfirst : namesakeTask (.job 1) = videoTask "Ep.f1 [a].webm" "a" := if_pos rfl
  have hsecond : namesakeTask (.job 2) = videoTask "Ep.f2 [b].webm" "b" := if_neg (by decide)
  have hkey : namesakeConversions.key (.job 1) ≠ namesakeConversions.key (.job 2) := by
    rw [namesake_key, namesake_key, hfirst, hsecond]
    exact namesake_keys
  obtain ⟨es, w, hrun, htimely, hu, hv⟩ := namesakeConversions.together hkey
  have hsame : LockOwner.job 1 = .job 2 := h es w hrun htimely _ _ (namesake_output _ _) hu hv
  exact absurd hsame (by decide)

end GetOffline
