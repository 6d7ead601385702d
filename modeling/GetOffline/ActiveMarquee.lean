import GetOffline.ActivePipeline
import GetOffline.PythonDigits
import GetOffline.TableOrder

set_option autoImplicit true

/-- The first `m` of what passes among the first `n` are the first `m` of what passes, exactly when there are
so many or the rest of the list has none. -/
theorem List.take_filter_take_iff {p : α → Bool} {l : List α} (f : α → β) (n m : Nat) :
    (((l.take n).filter p).take m).map f = ((l.filter p).take m).map f ↔
      m ≤ ((l.take n).filter p).length ∨ ∀ a ∈ l.drop n, p a = false := by
  have hsplit : l.filter p = (l.take n).filter p ++ (l.drop n).filter p := by
    rw [← List.filter_append, List.take_append_drop]
  rw [hsplit]
  constructor
  · intro h
    have hlength := congrArg List.length h
    rw [List.length_map, List.length_map, List.length_take, List.length_take, List.length_append] at hlength
    by_cases hle : m ≤ ((l.take n).filter p).length
    · exact .inl hle
    · right
      have hnone : ((l.drop n).filter p).length = 0 := by omega
      intro a ha
      apply eq_false_of_ne_true
      exact List.filter_eq_nil_iff.1 (List.length_eq_zero_iff.1 hnone) a ha
  · rintro (hle | hnone)
    · rw [List.take_append_of_le_length hle]
    · have hnil : (l.drop n).filter p = [] :=
        List.filter_eq_nil_iff.2 fun a ha => ne_true_of_eq_false (hnone a ha)
      rw [hnil, List.append_nil]

namespace GetOffline
open Python

section
variable {p : α → Except ε Bool} {l r : List α}

/-- What a comprehension keeps. -/
def passes (p : α → Except ε Bool) (a : α) : Bool :=
  match p a with
  | .ok keep => keep
  | .error _ => false

theorem comprehend_eq_ok_iff :
    comprehend p l = .ok r ↔ (∀ a ∈ l, ∃ keep, p a = .ok keep) ∧ r = l.filter (passes p) := by
  induction l generalizing r with
  | nil =>
    constructor
    · intro h
      cases h
      exact ⟨fun a ha => absurd ha List.not_mem_nil, rfl⟩
    · rintro ⟨-, rfl⟩
      rfl
  | cons a l ih =>
    rw [comprehend, bind_eq_ok, List.forall_mem_cons, List.filter_cons]
    constructor
    · rintro ⟨keep, hkeep, h⟩
      obtain ⟨rest, hrest, h⟩ := bind_eq_ok.1 h
      obtain ⟨hall, rfl⟩ := ih.1 hrest
      obtain rfl := Except.ok.inj h
      refine ⟨⟨⟨keep, hkeep⟩, hall⟩, ?_⟩
      rw [passes, hkeep]
    · rintro ⟨⟨⟨keep, hkeep⟩, hall⟩, rfl⟩
      refine ⟨keep, hkeep, bind_eq_ok.2 ⟨l.filter (passes p), ih.2 ⟨hall, rfl⟩, ?_⟩⟩
      rw [passes, hkeep]
      rfl

end

namespace PipelineScene
variable {scene : PipelineScene} {profileId : String} {e : Nat × Job} {jobs : List (Nat × Job)}

/-- The active jobs that are fresh and still need work. -/
def currentJobs (scene : PipelineScene) (profileId : String) : List (Nat × Job) :=
  (scene.activeJobs profileId).filter (passes scene.isCurrent)

/-- The marquee lists the first twenty current jobs. -/
def ListsCurrent (scene : PipelineScene) (profileId : String) : Prop :=
  ∃ items, scene.activePipelineItems profileId = .ok items ∧
    items.map PipelineItem.id = ((scene.currentJobs profileId).take 20).map Prod.fst

/-- The id that the title of the job is looked up under can be read. -/
def TitleReads (job : Job) : Prop :=
  ((Json.get "download_id" job.payload.dict).getD .null).truthy = true →
    ∃ id, ((Json.get "download_id" job.payload.dict).getD .null).toInt = .ok id

/-- The tests of the first eighty active jobs and the titles of what is listed raise nothing; and twenty of
the eighty are current, or none of the later jobs is. -/
structure InView (scene : PipelineScene) (profileId : String) : Prop where
  tested : ∀ e ∈ (scene.activeJobs profileId).take 80, ∃ keep, scene.isCurrent e = .ok keep
  titled : ∀ e ∈ (((scene.activeJobs profileId).take 80).filter (passes scene.isCurrent)).take 20,
    TitleReads e.2
  seen : 20 ≤ (((scene.activeJobs profileId).take 80).filter (passes scene.isCurrent)).length ∨
    ∀ e ∈ (scene.activeJobs profileId).drop 80, passes scene.isCurrent e = false

theorem jobDisplayTitle_ok_iff {job : Job} : (∃ title, scene.jobDisplayTitle job = .ok title) ↔ TitleReads job := by
  rw [jobDisplayTitle, TitleReads]
  dsimp only
  split
  · next htruthy =>
    rw [forall_prop_of_true htruthy]
    constructor
    · rintro ⟨title, h⟩
      obtain ⟨download, hdownload, -⟩ := bind_eq_ok.1 h
      obtain ⟨id, hid, -⟩ := bind_eq_ok.1 hdownload
      exact ⟨id, hid⟩
    · rintro ⟨id, hid⟩
      exact ⟨_, bind_eq_ok.2 ⟨_, bind_eq_ok.2 ⟨id, hid, rfl⟩, rfl⟩⟩
  · next htruthy => exact iff_of_true ⟨_, rfl⟩ fun h => absurd h htruthy

/-- The row of a job that has been tested can be read again. -/
theorem jobDownload_ok (h : scene.isCurrent e = .ok true) : ∃ download, scene.jobDownload e.2 = .ok download := by
  obtain ⟨fresh, -, h⟩ := bind_eq_ok.1 h
  cases fresh with
  | false => cases h
  | true =>
    obtain ⟨downloadId, hid, h⟩ := bind_eq_ok.1 h
    cases downloadId with
    | none => exact ⟨none, bind_eq_ok.2 ⟨none, hid, rfl⟩⟩
    | some downloadId =>
      dsimp only at h
      split at h
      · next hzero => exact ⟨none, bind_eq_ok.2 ⟨_, hid, if_pos hzero⟩⟩
      · next hzero =>
        obtain ⟨download, hdownload, -⟩ := bind_eq_ok.1 h
        refine ⟨download, bind_eq_ok.2 ⟨_, hid, ?_⟩⟩
        dsimp only
        rw [if_neg hzero, hdownload]

theorem pipelineItem_ok_iff (h : scene.isCurrent e = .ok true) :
    (∃ item, scene.pipelineItem e = .ok item) ↔ TitleReads e.2 := by
  obtain ⟨download, hdownload⟩ := jobDownload_ok h
  rw [← @jobDisplayTitle_ok_iff scene]
  constructor
  · rintro ⟨item, h⟩
    obtain ⟨_, -, h⟩ := bind_eq_ok.1 h
    obtain ⟨title, htitle, -⟩ := bind_eq_ok.1 h
    exact ⟨title, htitle⟩
  · rintro ⟨title, htitle⟩
    exact ⟨_, bind_eq_ok.2 ⟨download, hdownload, bind_eq_ok.2 ⟨title, htitle, rfl⟩⟩⟩

theorem pipelineItem_id (h : scene.pipelineItem e = .ok item) : item.id = e.1 := by
  obtain ⟨download, -, h⟩ := bind_eq_ok.1 h
  obtain ⟨title, -, h⟩ := bind_eq_ok.1 h
  obtain rfl := Except.ok.inj h
  rfl

/-- The items of a list of jobs, if they can be made, have the jobs' ids. -/
theorem mapM_pipelineItem (hcurrent : ∀ e ∈ jobs, scene.isCurrent e = .ok true) :
    (∃ items, jobs.mapM scene.pipelineItem = .ok items ∧ items.map PipelineItem.id = jobs.map Prod.fst) ↔
      ∀ e ∈ jobs, TitleReads e.2 := by
  simp only [mapM_eq_ok_iff]
  induction jobs with
  | nil =>
    refine iff_of_true ⟨[], .nil, rfl⟩ ?_
    exact fun e he => absurd he List.not_mem_nil
  | cons e jobs ih =>
    rw [List.forall_mem_cons] at hcurrent ⊢
    rw [← ih hcurrent.2, ← pipelineItem_ok_iff hcurrent.1]
    constructor
    · rintro ⟨items, hitems, hids⟩
      obtain ⟨item, rest, hitem, hrest, rfl⟩ := List.forall₂_cons_left_iff.1 hitems
      exact ⟨⟨item, hitem⟩, rest, hrest, (List.cons.inj hids).2⟩
    · rintro ⟨⟨item, hitem⟩, rest, hrest, hids⟩
      refine ⟨item :: rest, .cons hitem hrest, ?_⟩
      rw [List.map_cons, List.map_cons, hids, pipelineItem_id hitem]

end PipelineScene

/-- The marquee misses nothing current exactly where its slice of the jobs has it in view. -/
theorem marquee_lists_current_iff (scene : PipelineScene) (profileId : String) :
    scene.ListsCurrent profileId ↔ scene.InView profileId := by
  have hkept (l : List (Nat × Job)) : ∀ e ∈ (l.filter (passes scene.isCurrent)).take 20,
      scene.isCurrent e = .ok true := by
    intro e he
    have hpasses := (List.mem_filter.1 (List.mem_of_mem_take he)).2
    rw [passes] at hpasses
    split at hpasses
    · next keep hkeep => rw [hkeep, hpasses]
    · cases hpasses
  constructor
  · rintro ⟨items, hitems, hids⟩
    obtain ⟨kept, hkeep, hitems⟩ := bind_eq_ok.1 hitems
    obtain ⟨htested, rfl⟩ := comprehend_eq_ok_iff.1 hkeep
    have hsame : items.map PipelineItem.id =
        ((((scene.activeJobs profileId).take 80).filter (passes scene.isCurrent)).take 20).map Prod.fst := by
      have hforall := mapM_eq_ok_iff.1 hitems
      rw [← List.forall₂_eq_eq_eq, List.forall₂_map_left_iff, List.forall₂_map_right_iff]
      exact (hforall.imp fun e item h => PipelineScene.pipelineItem_id h).flip
    refine ⟨htested, ?_, ?_⟩
    · exact (PipelineScene.mapM_pipelineItem (hkept _)).1 ⟨items, hitems, hsame⟩
    · rw [hsame] at hids
      exact (List.take_filter_take_iff Prod.fst 80 20).1 hids
  · rintro ⟨htested, htitled, hseen⟩
    obtain ⟨items, hitems, hids⟩ := (PipelineScene.mapM_pipelineItem (hkept _)).2 htitled
    refine ⟨items, bind_eq_ok.2 ⟨_, comprehend_eq_ok_iff.2 ⟨htested, rfl⟩, hitems⟩, ?_⟩
    rw [hids]
    exact (List.take_filter_take_iff Prod.fst 80 20).2 hseen

/-- A queued download that was touched last at the given time. -/
def pendingDownload (createdAt updatedAt : Instant) : Job where
  profileId := "p"
  jobType := "download_single"
  status := .queued
  payload := .object []
  idempotencyKey := none
  errorMessage := none
  createdAt
  updatedAt
  startedAt := none
  finishedAt := none

/-- As many jobs as a crash has left behind two hours ago, and a new one. -/
def crowdedScene (stale : Nat) : PipelineScene where
  render := fun _ => ""
  staleSeconds := none
  clock := fun _ => 7200000000
  jobs := (List.range stale).foldr (fun id jobs => AList.insert id (pendingDownload id 0) jobs)
    (AList.insert stale (pendingDownload stale 7200000000) ∅)
  downloads := ⟨∅, 0, fun _ _ => rfl⟩
  segments := .empty

/-- Eighty stale jobs are in front of the new one. -/
theorem stale_jobs_hide_a_new_one : ¬ (crowdedScene 80).ListsCurrent "p" := by
  have hitems : ((crowdedScene 80).activePipelineItems "p").toOption.map List.length = some 0 := by
    decide +kernel
  have hcurrent : (((crowdedScene 80).currentJobs "p").take 20).map Prod.fst = [80] := by
    decide +kernel
  rintro ⟨items, hok, hids⟩
  rw [hok] at hitems
  rw [hcurrent] at hids
  have hlength := congrArg List.length hids
  rw [List.length_map] at hlength
  rw [Option.some.inj hitems] at hlength
  cases hlength

end GetOffline
