import GetOffline.DiscoveryRuns
import GetOffline.JobIsolation

set_option autoImplicit true

namespace GetOffline
open Python Effects Program Execution Database

section
variable {host : Host} {s₀ : Library} {replies : List Reply} {r : Except Error Unit} {s : Serial}

theorem mem_enabledSources {profileId : String} {source : Nat × SourceConfig}
    (h : source ∈ s₀.enabledSources profileId) :
    s₀.sources.lookup source.1 = some source.2 ∧ source.2.profileId = profileId := by
  obtain ⟨hrow, hp⟩ := Table.mem_orderBy.1 h
  rw [Bool.and_eq_true, decide_eq_true_eq] at hp
  exact ⟨hrow, hp.2⟩

theorem mem_sourcesInOrder {source : Nat × SourceConfig} (h : source ∈ s₀.sourcesInOrder) :
    s₀.sources.lookup source.1 = some source.2 := by
  obtain ⟨profileId, -, hsource⟩ := List.mem_flatMap.1 h
  exact (mem_enabledSources hsource).1

/-- A pass comes to no source twice. -/
theorem nodup_sourcesInOrder (s₀ : Library) : (s₀.sourcesInOrder.map Prod.fst).Nodup := by
  rw [Library.sourcesInOrder, List.map_flatMap, List.nodup_flatMap]
  constructor
  · intro profileId _
    exact Table.nodup_orderBy
  · apply (List.nodup_dedup _).imp
    intro profileId profileId' hne id hid hid'
    obtain ⟨source, hsource, rfl⟩ := List.mem_map.1 hid
    obtain ⟨source', hsource', hsame⟩ := List.mem_map.1 hid'
    obtain ⟨hrow, hprofile⟩ := mem_enabledSources hsource
    obtain ⟨hrow', hprofile'⟩ := mem_enabledSources hsource'
    rw [hsame, hrow] at hrow'
    obtain hsource := Option.some.inj hrow'
    rw [← hsource, hprofile] at hprofile'
    exact hne hprofile'

/-- However a pass ends, it has visited sources in their order and has made at most what it is to
make. -/
theorem pass_reaches (hrun : runSerially host (checkForEpisodes host) replies s₀ = some (r, s)) :
    (visits s.past).map Visit.source <+: s₀.sourcesInOrder ∧
      Stopped s₀ ((visits s.past).flatMap (Visit.requests host s₀)) (visits s.past) s := by
  have h := pass_spec hrun
  cases r with
  | ok _ =>
    obtain ⟨new, m, hnew, hworking⟩ := h
    rw [List.nil_append] at hworking
    rw [hworking.visits, hnew]
    exact ⟨List.prefix_rfl, hworking.stopped⟩
  | error e =>
    obtain ⟨new, hnew, hstopped⟩ := h
    rw [List.nil_append] at hstopped
    rw [hstopped.visits]
    exact ⟨hnew, hstopped⟩

end

/-- The job has been made for a candidate of the source, which was not known and had no active job. -/
structure MadeFor (host : Host) (s₀ : Library) (v : Visit) (c : Candidate) (job : Job) : Prop where
  job : ∃ createdAt updatedAt, job =
    newJob (c.args host v.source.2.profileId v.source (s₀.limitOf v.source)) createdAt updatedAt
  unknown : s₀.wasDownloaded v.source.2.profileId v.source.2 c = false
  inactive : ¬s₀.database.HasActive (c.key host v.source.2.profileId v.source.1)

/-- What a pass keeps to: it visits no source twice, it takes no more slots than the limits of the
sources give, and each job that it makes is for a candidate that needs one. -/
structure PassBounded (host : Host) (s₀ : Library) (s : Serial) : Prop where
  once : ((visits s.past).map fun v => v.source.1).Nodup
  slots : (slotsLeft s₀.limitOf s.past).isSome = true
  made : ∀ i job, s.library.database.jobs.lookup i = some job →
    s₀.database.jobs.lookup i = none →
    ∃ v ∈ visits s.past, v.source ∈ s₀.sourcesInOrder ∧
      ∃ entry ∈ v.candidates, MadeFor host s₀ v (candidateOf host entry) job

section
variable {host : Host} {s₀ : Library} {replies : List Reply} {r : Except Error Unit} {s : Serial}

theorem mem_requests {v : Visit} {args : JobArgs} (h : args ∈ v.requests host s₀) :
    ∃ entry ∈ v.candidates,
      s₀.wasDownloaded v.source.2.profileId v.source.2 (candidateOf host entry) = false ∧
      args = (candidateOf host entry).args host v.source.2.profileId v.source (s₀.limitOf v.source) := by
  obtain ⟨c, hc, rfl⟩ := List.mem_map.1 h
  obtain ⟨hmem, hunknown⟩ := List.mem_filter.1 (List.mem_of_mem_take hc)
  obtain ⟨entry, hentry, rfl⟩ := List.mem_map.1 hmem
  rw [Bool.not_eq_true'] at hunknown
  exact ⟨entry, hentry, hunknown, rfl⟩

theorem pass_bounded (hrun : runSerially host (checkForEpisodes host) replies s₀ = some (r, s)) :
    PassBounded host s₀ s := by
  obtain ⟨hstart, hstopped⟩ := pass_reaches hrun
  constructor
  · have hids : ((visits s.past).map fun v => v.source.1) =
        ((visits s.past).map Visit.source).map Prod.fst := by
      rw [List.map_map]
      rfl
    rw [hids]
    exact (nodup_sourcesInOrder s₀).sublist (hstart.sublist.map Prod.fst)
  · obtain ⟨n, hn⟩ := hstopped.slots
    rw [hn]
    rfl
  · intro i job hrow hnone
    obtain ⟨args, hargs, ⟨createdAt, updatedAt, rfl⟩, hinactive⟩ := hstopped.turns.rows i job hrow hnone
    obtain ⟨v, hv, hrequest⟩ := List.mem_flatMap.1 hargs
    obtain ⟨entry, hentry, hunknown, rfl⟩ := mem_requests hrequest
    refine ⟨v, hv, hstart.subset (List.mem_map_of_mem hv), entry, hentry, ⟨_, _, rfl⟩, hunknown, ?_⟩
    exact hinactive _ (Candidate.key_args host _ _ _ _)

end

/-- The source and the item that a job of a pass is for. -/
def Job.foundItem (job : Job) : Option (Nat × String) :=
  match Json.get "source_id" job.payload.dict, Json.get "item_uid" job.payload.dict,
    Json.get "item_url" job.payload.dict, Json.get "title" job.payload.dict with
  | some (.int (.ofNat id)), some (.string uid), some (.string url), some (.string title) =>
    some (id, if uid ≠ "" then uid else if url ≠ "" then url else title)
  | _, _, _, _ => none

theorem foundItem_newJob (host : Host) (profileId : String) (source : Nat × SourceConfig) (limit : Nat)
    (c : Candidate) (createdAt updatedAt : Instant) :
    (newJob (c.args host profileId source limit) createdAt updatedAt).foundItem =
      some (source.1, c.item) := rfl

/-- The library, and the jobs that passes have made, each with its source and item. -/
structure DiscoveryWorld where
  library : Library
  found : List (Nat × Nat × String)

/-- A pass that nothing interferes with; a job is created in another way; a worker claims a job,
finishes it, puts it back or notes how it stands; rows, files and settings change. -/
inductive DiscoveryEvent
  | pass (replies : List Reply)
  | create (args : JobArgs) (createdAt updatedAt : Instant)
  | work (id : Nat) (work : JobWork)
  | change (downloads : Downloads) (files : Files) (settings : Table (String × String) String)
      (appSettings : Table String String)

/-- A worker claims what is `QUEUED`, puts back what is `RUNNING`, and finishes for good. -/
def JobWork.applies (job : Job) : JobWork → Bool
  | .claim _ => job.status = .queued
  | .requeue _ => job.status = .running
  | .finish _ status _ => status = .succeeded || status = .failed
  | .touch _ _ _ => true

namespace DiscoveryWorld

def initial (library : Library) : DiscoveryWorld where
  library := library
  found := []

/-- The jobs that are in the one database and not in the other. -/
def newlyFound (before after : Database) : List (Nat × Nat × String) :=
  after.jobs.entries.filterMap fun e =>
    if (before.jobs.lookup e.1).isNone then e.2.foundItem.map fun item => (e.1, item) else none

def step (host : Host) (w : DiscoveryWorld) : DiscoveryEvent → Option DiscoveryWorld
  | .pass replies =>
    (runSerially host (checkForEpisodes host) replies w.library).map fun r => {
      library := r.2.library
      found := newlyFound w.library.database r.2.library.database ++ w.found }
  | .create args createdAt updatedAt =>
    some { w with library := { w.library with
      database := (createJob args createdAt updatedAt w.library.database).2 } }
  | .work id work =>
    if (w.library.database.jobs.lookup id).all (JobWork.applies · work) then
      some { w with library := { w.library with
        database := w.library.database.save id (JobWork.apply · work) } }
    else none
  | .change downloads files settings appSettings =>
    some { w with library := { w.library with downloads, files, settings, appSettings } }

/-- At most one job that a pass has made for an item of a source is `QUEUED` or `RUNNING`. -/
def Unique (w : DiscoveryWorld) : Prop :=
  ∀ i j item job job', (i, item) ∈ w.found → (j, item) ∈ w.found →
    w.library.database.jobs.lookup i = some job → w.library.database.jobs.lookup j = some job' →
    job.active = true → job'.active = true → i = j

end DiscoveryWorld

/-- Whatever work applies to a job, it does not make a job active that was not. -/
theorem JobWork.active_apply {work : JobWork} (happlies : work.applies job = true)
    (h : (work.apply job).active = true) : job.active = true := by
  cases work with
  | claim now =>
    rw [JobWork.applies, decide_eq_true_eq] at happlies
    rw [Job.active, happlies]
    rfl
  | requeue now =>
    rw [JobWork.applies, decide_eq_true_eq] at happlies
    rw [Job.active, happlies]
    rfl
  | finish now status errorMessage =>
    rw [JobWork.applies, Bool.or_eq_true, decide_eq_true_eq, decide_eq_true_eq] at happlies
    rcases happlies with rfl | rfl <;> cases h
  | touch now stage title =>
    rw [JobWork.apply] at h
    cases ht : touchActiveJob now stage title job with
    | none =>
      rw [ht] at h
      exact h
    | some copy =>
      rw [ht] at h
      exact h

/-- The jobs that passes have made have the keys of their items, and a `QUEUED` or `RUNNING` one is
alone with its key. -/
structure Tracked (host : Host) (sources : Table Nat SourceConfig) (db : Database)
    (found : List (Nat × Nat × String)) : Prop where
  keyed : ∀ i id item, (i, id, item) ∈ found → ∃ source job, sources.lookup id = some source ∧
    db.jobs.lookup i = some job ∧ job.idempotencyKey = some (itemKey host source.profileId id item)
  alone : ∀ i item, (i, item) ∈ found → ∀ j key job job', db.jobs.lookup i = some job →
    db.jobs.lookup j = some job' → job.idempotencyKey = some key → job'.idempotencyKey = some key →
    job.active = true → job'.active = true → j = i

section
variable {host : Host} {sources : Table Nat SourceConfig} {db db' : Database}
  {found : List (Nat × Nat × String)}

theorem Tracked.initial (host : Host) (sources : Table Nat SourceConfig) (db : Database) :
    Tracked host sources db [] where
  keyed _ _ _ h := absurd h List.not_mem_nil
  alone _ _ h := absurd h List.not_mem_nil

/-- A key names a source and an item, so two active jobs of one item are one job. -/
theorem Tracked.unique (h : Tracked host sources db found) (hi : (i, item) ∈ found)
    (hj : (j, item) ∈ found) (hrow : db.jobs.lookup i = some job) (hrow' : db.jobs.lookup j = some job')
    (hactive : job.active = true) (hactive' : job'.active = true) : i = j := by
  obtain ⟨source, job₁, hsource, hrow₁, hkey⟩ := h.keyed i item.1 item.2 hi
  obtain ⟨source', job₂, hsource', hrow₂, hkey'⟩ := h.keyed j item.1 item.2 hj
  obtain rfl := Option.some.inj (hsource.symm.trans hsource')
  obtain rfl := Option.some.inj (hrow.symm.trans hrow₁)
  obtain rfl := Option.some.inj (hrow'.symm.trans hrow₂)
  exact (h.alone i item hi j _ job job' hrow hrow' hkey hkey' hactive hactive').symm

theorem Tracked.create (h : Tracked host sources db found) (args : JobArgs)
    (createdAt updatedAt : Instant) :
    Tracked host sources (createJob args createdAt updatedAt db).2 found := by
  unfold createJob
  cases hexisting : existingJob args db.jobs with
  | some found => exact h
  | none =>
    have hcases : ∀ i job, (db.create (newJob args createdAt updatedAt)).jobs.lookup i = some job →
        (i = db.nextId ∧ job = newJob args createdAt updatedAt) ∨ db.jobs.lookup i = some job := by
      intro i job hrow
      rw [lookup_create] at hrow
      split at hrow
      · next hi => exact .inl ⟨hi, (Option.some.inj hrow).symm⟩
      · exact .inr hrow
    have hkeyed : ∀ i id item, (i, id, item) ∈ found → ∃ job, db.jobs.lookup i = some job ∧
        ∃ key, key ≠ "" ∧ job.idempotencyKey = some key := by
      intro i id item hi
      obtain ⟨source, job, -, hrow, hkey⟩ := h.keyed i id item hi
      exact ⟨job, hrow, _, partsKey_ne host _, hkey⟩
    constructor
    · intro i id item hi
      obtain ⟨source, job, hsource, hrow, hkey⟩ := h.keyed i id item hi
      obtain ⟨job', hrow', hkept⟩ := stays_create (newJob args createdAt updatedAt) db i job hrow
      exact ⟨source, job', hsource, hrow', hkept.idempotencyKey.trans hkey⟩
    · intro i item hi j key job job' hrow hrow' hkey hkey' hactive hactive'
      obtain ⟨old, hold, key', hne, hkeyOld⟩ := hkeyed i item.1 item.2 hi
      obtain ⟨job₁, hrow₁, hkept⟩ := stays_create (newJob args createdAt updatedAt) db i old hold
      obtain rfl := Option.some.inj (hrow.symm.trans hrow₁)
      have hsame : key' = key :=
        Option.some.inj (hkeyOld.symm.trans (hkept.idempotencyKey.symm.trans hkey))
      rw [hsame] at hkeyOld hne
      rcases hcases j job' hrow' with ⟨-, rfl⟩ | hrow'
      · -- the new job would have been found to exist already
        rw [existingJob, key_eq_some.2 ⟨hkey', hne⟩, Option.bind_some, Table.first_eq_none] at hexisting
        have hp := hexisting i old hold
        rw [hkeyOld, hkept.wasActive hactive, Bool.and_true, decide_eq_false_iff_not] at hp
        exact absurd rfl hp
      · exact h.alone i item hi j key old job' hold hrow' hkeyOld hkey' (hkept.wasActive hactive) hactive'

theorem Tracked.work (h : Tracked host sources db found) {jobId : Nat} {work : JobWork}
    (happlies : (db.jobs.lookup jobId).all (JobWork.applies · work) = true) :
    Tracked host sources (db.save jobId (JobWork.apply · work)) found := by
  -- every row has one before it, with its key, that was active if it is
  have hback : ∀ i job', (db.save jobId (JobWork.apply · work)).jobs.lookup i = some job' →
      ∃ job, db.jobs.lookup i = some job ∧ job'.idempotencyKey = job.idempotencyKey ∧
        (job'.active = true → job.active = true) := by
    intro i job' hrow
    rw [Database.save, lookup_saveFields] at hrow
    split at hrow
    · next hi =>
      obtain ⟨job, hjob, rfl⟩ := Option.map_eq_some_iff.1 hrow
      rw [hjob] at happlies
      rw [hi]
      exact ⟨job, hjob, JobWork.apply_idempotencyKey work job, JobWork.active_apply happlies⟩
    · exact ⟨job', hrow, rfl, fun hactive => hactive⟩
  constructor
  · intro i id item hi
    obtain ⟨source, job, hsource, hrow, hkey⟩ := h.keyed i id item hi
    cases hrow' : (db.save jobId (JobWork.apply · work)).jobs.lookup i with
    | none =>
      rw [Database.save, lookup_saveFields] at hrow'
      split at hrow'
      · next hi =>
        rw [← hi, hrow] at hrow'
        cases hrow'
      · rw [hrow] at hrow'
        cases hrow'
    | some job' =>
      obtain ⟨old, hold, hsame, -⟩ := hback i job' hrow'
      obtain rfl := Option.some.inj (hold.symm.trans hrow)
      exact ⟨source, job', hsource, rfl, hsame.trans hkey⟩
  · intro i item hi j key job job' hrow hrow' hkey hkey' hactive hactive'
    obtain ⟨old, hold, hsame, hwas⟩ := hback i job hrow
    obtain ⟨old', hold', hsame', hwas'⟩ := hback j job' hrow'
    rw [hsame] at hkey
    rw [hsame'] at hkey'
    exact h.alone i item hi j key old old' hold hold' hkey hkey' (hwas hactive) (hwas' hactive')

/-- What a pass makes is alone with its key: no active job had it, and the pass makes no two for it. -/
theorem Tracked.pass (h : Tracked host sources db found) (hturns : Turns requests db db')
    (hnew : ∀ i id item, (i, id, item) ∈ DiscoveryWorld.newlyFound db db' →
      db.jobs.lookup i = none ∧ ∃ source job, sources.lookup id = some source ∧
        db'.jobs.lookup i = some job ∧
        job.idempotencyKey = some (itemKey host source.profileId id item) ∧
        ¬db.HasActive (itemKey host source.profileId id item)) :
    Tracked host sources db' (DiscoveryWorld.newlyFound db db' ++ found) := by
  constructor
  · intro i id item hi
    rcases List.mem_append.1 hi with hi | hi
    · obtain ⟨-, source, job, hsource, hrow, hkey, -⟩ := hnew i id item hi
      exact ⟨source, job, hsource, hrow, hkey⟩
    · obtain ⟨source, job, hsource, hrow, hkey⟩ := h.keyed i id item hi
      obtain ⟨job', hrow', hkept⟩ := hturns.stays i job hrow
      exact ⟨source, job', hsource, hrow', hkept.idempotencyKey.trans hkey⟩
  · intro i item hi j key job job' hrow hrow' hkey hkey' hactive hactive'
    rcases List.mem_append.1 hi with hi | hi
    · obtain ⟨hnone, source, made, -, hmade, hmadeKey, hfree⟩ := hnew i item.1 item.2 hi
      obtain rfl := Option.some.inj (hrow.symm.trans hmade)
      have hsame : itemKey host source.profileId item.1 item.2 = key :=
        Option.some.inj (hmadeKey.symm.trans hkey)
      rw [hsame] at hfree
      cases hj : db.jobs.lookup j with
      | some old =>
        obtain ⟨job₁, hrow₁, hkept⟩ := hturns.stays j old hj
        obtain rfl := Option.some.inj (hrow'.symm.trans hrow₁)
        exact absurd ⟨j, old, hj, hkept.idempotencyKey.symm.trans hkey', hkept.wasActive hactive'⟩ hfree
      | none =>
        apply hturns.distinct j i job' job key hrow' hrow hj hnone _ hkey' hkey
        rw [← hsame]
        exact partsKey_ne host _
    · obtain ⟨source, old, -, hold, hkeyOld⟩ := h.keyed i item.1 item.2 hi
      obtain ⟨job₁, hrow₁, hkept⟩ := hturns.stays i old hold
      obtain rfl := Option.some.inj (hrow.symm.trans hrow₁)
      have hsame : old.idempotencyKey = some key := hkept.idempotencyKey.symm.trans hkey
      cases hj : db.jobs.lookup j with
      | some old' =>
        obtain ⟨job₂, hrow₂, hkept'⟩ := hturns.stays j old' hj
        obtain rfl := Option.some.inj (hrow'.symm.trans hrow₂)
        exact h.alone i item hi j key old old' hold hj hsame
          (hkept'.idempotencyKey.symm.trans hkey') (hkept.wasActive hactive) (hkept'.wasActive hactive')
      | none =>
        obtain ⟨args, -, ⟨createdAt, updatedAt, rfl⟩, hfree⟩ := hturns.rows j job' hrow' hj
        have hne : key ≠ "" := by
          rw [Option.some.inj (hsame.symm.trans hkeyOld)]
          exact partsKey_ne host _
        exact absurd ⟨i, old, hold, hsame, hkept.wasActive hactive⟩ (hfree key (key_eq_some.2 ⟨hkey', hne⟩))

end

theorem mem_newlyFound {before after : Database}
    (h : (i, item) ∈ DiscoveryWorld.newlyFound before after) :
    before.jobs.lookup i = none ∧ ∃ job, after.jobs.lookup i = some job ∧ job.foundItem = some item := by
  obtain ⟨⟨k, job⟩, hmem, he⟩ := List.mem_filterMap.1 h
  rw [Table.mem_entries_iff] at hmem
  dsimp only at he
  split at he
  · next hnone =>
    obtain ⟨item', hitem, heq⟩ := Option.map_eq_some_iff.1 he
    obtain ⟨rfl, rfl⟩ := Prod.mk.inj heq
    exact ⟨Option.isNone_iff_eq_none.1 hnone, job, hmem, hitem⟩
  · cases he

namespace DiscoveryWorld
variable {host : Host} {w w' : DiscoveryWorld}

/-- The sources stay, and what has been found is tracked. -/
def Tracks (host : Host) (sources : Table Nat SourceConfig) (w : DiscoveryWorld) : Prop :=
  w.library.sources = sources ∧ Tracked host sources w.library.database w.found

theorem Tracks.pass {sources : Table Nat SourceConfig} (h : w.Tracks host sources)
    (hrun : runSerially host (checkForEpisodes host) replies w.library = some (r, s)) :
    Tracks host sources ⟨s.library, newlyFound w.library.database s.library.database ++ w.found⟩ := by
  obtain ⟨hsources, htracked⟩ := h
  obtain ⟨-, hstopped⟩ := pass_reaches hrun
  constructor
  · dsimp only
    rw [hstopped.library]
    exact hsources
  · apply htracked.pass hstopped.turns
    intro i id item hi
    obtain ⟨hnone, job, hrow, hitem⟩ := mem_newlyFound hi
    obtain ⟨v, -, hv, entry, -, hmade⟩ := (pass_bounded hrun).made i job hrow hnone
    obtain ⟨createdAt, updatedAt, rfl⟩ := hmade.job
    rw [foundItem_newJob] at hitem
    obtain ⟨rfl, rfl⟩ := Prod.mk.inj (Option.some.inj hitem)
    refine ⟨hnone, v.source.2, _, ?_, hrow, rfl, hmade.inactive⟩
    rw [← hsources]
    exact mem_sourcesInOrder hv

theorem Tracks.step {sources : Table Nat SourceConfig} {e : DiscoveryEvent} (h : w.Tracks host sources)
    (hstep : step host w e = some w') : w'.Tracks host sources := by
  cases e with
  | pass replies =>
    obtain ⟨⟨r, s⟩, hrun, rfl⟩ := Option.map_eq_some_iff.1 hstep
    exact h.pass hrun
  | create args createdAt updatedAt =>
    obtain rfl := Option.some.inj hstep
    exact ⟨h.1, h.2.create args createdAt updatedAt⟩
  | work id work =>
    simp only [DiscoveryWorld.step] at hstep
    split at hstep
    · next happlies =>
      obtain rfl := Option.some.inj hstep
      exact ⟨h.1, h.2.work happlies⟩
    · cases hstep
  | change downloads files settings appSettings =>
    obtain rfl := Option.some.inj hstep
    exact h

end DiscoveryWorld

/-- Every pass visits a source at most once, takes no more slots for it than its limit, and makes jobs only
for candidates that are not known and have no `QUEUED` or `RUNNING` job; so however passes and jobs go on,
no item of a source ever has two such jobs. -/
theorem discovery_bounded_and_unique (host : Host) (library : Library) :
    (∀ replies r s, runSerially host (checkForEpisodes host) replies library = some (r, s) →
      PassBounded host library s) ∧
    ∀ events w, exec (DiscoveryWorld.step host) (.initial library) events = some w → w.Unique := by
  constructor
  · intro replies r s hrun
    exact pass_bounded hrun
  · intro events w hrun
    have htracks : w.Tracks host library.sources := by
      refine exec_preserves (fun w e w' h hstep => ?_) ⟨rfl, Tracked.initial host _ _⟩ hrun
      exact h.step hstep
    intro i j item job job' hi hj hrow hrow' hactive hactive'
    exact htracks.2.unique hi hj hrow hrow' hactive hactive'

def podcastSource : SourceConfig where
  profileId := "p"
  sourceType := "podcast"
  position := 0
  name := "N"
  url := "https://n/feed"
  mediaType := none
  enabled := true
  subtitles := false
  subtitleOffsetSeconds := none
  maxDownloads := some 2
  deleteExplicitContent := false
  includeShorts := false
  includeLivestreams := false
  titleExclude := some "trailer"

/-- One podcast and nothing else. -/
def podcastLibrary : Library :=
  { Library.empty with sources := AList.insert 1 podcastSource ∅ }

/-- The feed has these ids and titles, and so many calls come after it. -/
def podcastReplies (episodes : List (String × String)) (calls : Nat) : List Reply :=
  ([{}, {}, { candidates := (episodes.map fun episode =>
    [("item_uid", .string episode.1), ("title", .string episode.2)], none) }] : List Reply) ++
    List.replicate calls ({} : Reply)

/-- Two passes: between them the job of the second episode has failed. -/
def podcastEvents : List DiscoveryEvent :=
  [.pass (podcastReplies [("a", "A"), ("b", "B"), ("c", "C")] 10), .work 1 (.claim 0),
    .work 2 (.claim 0), .work 2 (.finish 0 .failed none),
    .pass (podcastReplies [("a", "A"), ("b", "B"), ("c", "C")] 9)]

theorem podcast_bounded_and_unique :
    (∃ r s, runSerially .plain (checkForEpisodes .plain)
      (podcastReplies [("a", "A"), ("b", "B"), ("c", "C")] 10) podcastLibrary = some (r, s) ∧
      PassBounded .plain podcastLibrary s) ∧
    ∃ w, exec (DiscoveryWorld.step .plain) (.initial podcastLibrary) podcastEvents = some w ∧
      w.found.length = 3 ∧ w.Unique := by
  obtain ⟨hpass, hruns⟩ := discovery_bounded_and_unique .plain podcastLibrary
  have hone : (runSerially .plain (checkForEpisodes .plain)
      (podcastReplies [("a", "A"), ("b", "B"), ("c", "C")] 10) podcastLibrary).isSome = true := by
    decide +kernel
  have hall : ((exec (DiscoveryWorld.step .plain) (.initial podcastLibrary) podcastEvents).any fun w =>
      w.found.length = 3) = true := by
    decide +kernel
  obtain ⟨⟨r, s⟩, hrun⟩ := Option.isSome_iff_exists.1 hone
  obtain ⟨w, hw, hfound⟩ := (Option.any_eq_true _ _).1 hall
  exact ⟨⟨r, s, hrun, hpass _ r s hrun⟩, w, hw, of_decide_eq_true hfound, hruns _ w hw⟩

end GetOffline
