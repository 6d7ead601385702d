import GetOffline.DiscoveryOnce

set_option autoImplicit true

namespace GetOffline
open Python Effects Program Execution Database

namespace Database
variable {db db' : Database} {requests : List JobArgs}

/-- A `download_episode` job with the key is `QUEUED` or `RUNNING`. -/
def HasEpisodeJob (key : String) (db : Database) : Prop :=
  ∃ i job, db.jobs.lookup i = some job ∧ job.jobType = "download_episode" ∧
    job.idempotencyKey = some key ∧ job.active = true

theorem HasEpisodeJob.hasActive (h : db.HasEpisodeJob key) : db.HasActive key := by
  obtain ⟨i, job, hrow, -, hkey, hactive⟩ := h
  exact ⟨i, job, hrow, hkey, hactive⟩

theorem Stays.hasEpisodeJob (h : db.Stays db') (hjob : db.HasEpisodeJob key) :
    db'.HasEpisodeJob key := by
  obtain ⟨i, job, hrow, htype, hkey, hactive⟩ := hjob
  obtain ⟨job', hrow', hkept⟩ := h i job hrow
  exact ⟨i, job', hrow', hkept.jobType.trans htype, hkept.idempotencyKey.trans hkey,
    hkept.active hactive⟩

/-- An episode that has its job after its requests were served had it before, or was asked for while no
active job had its key. -/
theorem hasEpisodeJob_iff (hturns : Turns requests db db') (hserves : Serves requests db db')
    (htypes : ∀ args ∈ requests, args.jobType = "download_episode") (hkey : key ≠ "") :
    db'.HasEpisodeJob key ↔ db.HasEpisodeJob key ∨
      ¬db.HasActive key ∧ ∃ args ∈ requests, args.key = some key := by
  constructor
  · intro h
    by_cases hold : db.HasActive key
    · left
      obtain ⟨i, job, hrow, htype, hjob, hactive⟩ := h
      cases hbefore : db.jobs.lookup i with
      | none =>
        obtain ⟨args, -, ⟨createdAt, updatedAt, rfl⟩, hfree⟩ := hturns.rows i job hrow hbefore
        exact absurd hold (hfree key (key_eq_some.2 ⟨hjob, hkey⟩))
      | some old =>
        obtain ⟨job', hrow', hkept⟩ := hturns.stays i old hbefore
        obtain rfl := Option.some.inj (hrow.symm.trans hrow')
        exact ⟨i, old, hbefore, hkept.jobType.symm.trans htype,
          hkept.idempotencyKey.symm.trans hjob, hkept.wasActive hactive⟩
    · right
      exact ⟨hold, hturns.request h.hasActive hkey hold⟩
  · rintro (hold | ⟨hfree, args, hargs, hrequest⟩)
    · exact hturns.stays.hasEpisodeJob hold
    · obtain ⟨i, job, hrow, hjob, hactive⟩ := hserves.active args hargs key hrequest
      cases hbefore : db.jobs.lookup i with
      | none =>
        obtain ⟨args', hargs', ⟨createdAt, updatedAt, rfl⟩, -⟩ := hturns.rows i job hrow hbefore
        exact ⟨i, _, hrow, htypes args' hargs', hjob, hactive⟩
      | some old =>
        obtain ⟨job', hrow', hkept⟩ := hturns.stays i old hbefore
        obtain rfl := Option.some.inj (hrow.symm.trans hrow')
        exact absurd ⟨i, old, hbefore, hkept.idempotencyKey.symm.trans hjob,
          hkept.wasActive hactive⟩ hfree

end Database

section
variable {host : Host} {s₀ : Library} {replies : List Reply} {s : Serial}

/-- A pass that returns has visited every enabled source and has asked for all that it admits. -/
theorem pass_returns (hrun : runSerially host (checkForEpisodes host) replies s₀ = some (.ok (), s)) :
    (visits s.past).map Visit.source = s₀.sourcesInOrder ∧
      Turns ((visits s.past).flatMap (Visit.requests host s₀)) s₀.database s.library.database ∧
      Serves ((visits s.past).flatMap (Visit.requests host s₀)) s₀.database s.library.database := by
  obtain ⟨new, m, hnew, hworking⟩ := pass_spec hrun
  rw [List.nil_append] at hworking
  rw [hworking.visits]
  exact ⟨hnew, hworking.turns, hworking.serves⟩

theorem jobType_requests {visited : List Visit} :
    ∀ args ∈ visited.flatMap (Visit.requests host s₀), args.jobType = "download_episode" := by
  intro args hargs
  obtain ⟨v, -, hrequest⟩ := List.mem_flatMap.1 hargs
  obtain ⟨c, -, rfl⟩ := List.mem_map.1 hrequest
  rfl

end

namespace Visit

def profileId (v : Visit) : String :=
  v.source.2.profileId

/-- The first candidates, as many as the limit of the source. -/
def listed (host : Host) (s : Library) (v : Visit) : List Candidate :=
  (v.candidates.take (s.limitOf v.source)).map (candidateOf host)

/-- No row of the source has the `item_uid` of the candidate. -/
def NeverDownloaded (s : Library) (v : Visit) (c : Candidate) : Prop :=
  (s.downloads.rows.any fun _ row =>
    Columns.matches (sourceColumns v.profileId v.source.2 ++ [("item_uid", .string c.uid)]) row) = false

instance (s : Library) (v : Visit) (c : Candidate) : Decidable (v.NeverDownloaded s c) :=
  inferInstanceAs (Decidable (_ = false))

/-- A row of the source has the url or the title of the candidate. -/
def Resembled (s : Library) (v : Visit) (c : Candidate) : Prop :=
  s.hasRow v.profileId v.source.2 "item_url" c.url = true ∨
    s.hasRow v.profileId v.source.2 "title" c.title = true

variable {host : Host} {s : Library} {v : Visit} {c : Candidate}

theorem hasRow_of_neverDownloaded (h : v.NeverDownloaded s c) :
    s.hasRow v.profileId v.source.2 "item_uid" c.uid = false := by
  rw [NeverDownloaded, profileId] at h
  rw [Library.hasRow, profileId, h, Bool.and_false]

theorem wasDownloaded_iff (h : v.NeverDownloaded s c) :
    s.wasDownloaded v.profileId v.source.2 c = true ↔ v.Resembled s c := by
  rw [Library.wasDownloaded, hasRow_of_neverDownloaded h, Bool.false_or, Bool.or_eq_true, Resembled]

/-- What is not known is asked for where it is among the first candidates. -/
theorem mem_admitted (hlisted : c ∈ v.listed host s)
    (hunknown : s.wasDownloaded v.source.2.profileId v.source.2 c = false) : c ∈ v.admitted host s := by
  rw [listed, List.map_take] at hlisted
  have hfiltered : c ∈ ((v.candidates.map (candidateOf host)).take (s.limitOf v.source)).filter
      fun c => !s.wasDownloaded v.source.2.profileId v.source.2 c := by
    rw [List.mem_filter, hunknown]
    exact ⟨hlisted, rfl⟩
  have hstart := (List.take_prefix (s.limitOf v.source) (v.candidates.map (candidateOf host))).filter
    fun c => !s.wasDownloaded v.source.2.profileId v.source.2 c
  have hlength := (List.length_filter_le
    (fun c => !s.wasDownloaded v.source.2.profileId v.source.2 c)
    ((v.candidates.map (candidateOf host)).take (s.limitOf v.source))).trans
      (List.length_take_le _ _)
  exact ((List.prefix_take_iff.2 ⟨hstart, hlength⟩).subset hfiltered)

end Visit

/-- Each of the first candidates of a source that was never downloaded has its job. -/
def Complete (host : Host) (s₀ : Library) (visited : List Visit) (db : Database) : Prop :=
  ∀ v ∈ visited, ∀ c ∈ v.listed host s₀, v.NeverDownloaded s₀ c →
    db.HasEpisodeJob (c.key host v.profileId v.source.1)

/-- Each of the first candidates of a source that was never downloaded, and for which no active job is
there already, differs in its url and its title from all rows of the source, or some candidate with its
key is asked for. -/
def Distinguished (host : Host) (s₀ : Library) (visited : List Visit) : Prop :=
  ∀ v ∈ visited, ∀ c ∈ v.listed host s₀, v.NeverDownloaded s₀ c →
    let key := c.key host v.profileId v.source.1
    s₀.database.HasEpisodeJob key ∨ ¬s₀.database.HasActive key ∧
      (¬v.Resembled s₀ c ∨ ∃ v' ∈ visited, ∃ c' ∈ v'.admitted host s₀,
        c'.key host v'.profileId v'.source.1 = key)

/-- A pass is complete but for the episodes whose title or url some row of their source has. -/
theorem pass_complete_iff {host : Host} {s₀ : Library}
    (hrun : runSerially host (checkForEpisodes host) replies s₀ = some (.ok (), s)) :
    Complete host s₀ (visits s.past) s.library.database ↔ Distinguished host s₀ (visits s.past) := by
  obtain ⟨-, hturns, hserves⟩ := pass_returns hrun
  have hjob (v : Visit) (c : Candidate) := hasEpisodeJob_iff hturns hserves jobType_requests
    (partsKey_ne host ["download_episode", v.profileId, if v.source.1 = 0 then "" else toString v.source.1,
      c.item])
  have hasked : ∀ v ∈ visits s.past, ∀ c ∈ v.admitted host s₀,
      ∃ args ∈ (visits s.past).flatMap (Visit.requests host s₀),
        args.key = some (c.key host v.profileId v.source.1) := by
    intro v hv c hc
    exact ⟨_, List.mem_flatMap.2 ⟨v, hv, List.mem_map_of_mem hc⟩, Candidate.key_args host _ _ _ _⟩
  constructor
  · intro h v hv c hc hnever
    rcases (hjob v c).1 (h v hv c hc hnever) with hold | ⟨hfree, args, hargs, hkey⟩
    · exact .inl hold
    · right
      obtain ⟨v', hv', hrequest⟩ := List.mem_flatMap.1 hargs
      obtain ⟨c', hc', rfl⟩ := List.mem_map.1 hrequest
      refine ⟨hfree, .inr ⟨v', hv', c', hc', ?_⟩⟩
      exact Option.some.inj ((Candidate.key_args host _ _ _ _).symm.trans hkey)
  · intro h v hv c hc hnever
    apply (hjob v c).2
    rcases h v hv c hc hnever with hold | ⟨hfree, hnew | ⟨v', hv', c', hc', hkey⟩⟩
    · exact .inl hold
    · right
      refine ⟨hfree, hasked v hv c (Visit.mem_admitted hc ?_)⟩
      rw [Bool.eq_false_iff]
      intro hknown
      exact hnew ((Visit.wasDownloaded_iff hnever).1 hknown)
    · right
      obtain ⟨args, hargs, hargsKey⟩ := hasked v' hv' c' hc'
      exact ⟨hfree, args, hargs, hargsKey.trans (congrArg some hkey)⟩

/-- On an empty library every pass is complete. -/
theorem podcast_pass_complete : ∃ s, runSerially .plain (checkForEpisodes .plain)
    (podcastReplies [("a", "A"), ("b", "B"), ("c", "C")] 10) podcastLibrary = some (.ok (), s) ∧
    Complete .plain podcastLibrary (visits s.past) s.library.database := by
  have hcheck : ((runSerially .plain (checkForEpisodes .plain)
      (podcastReplies [("a", "A"), ("b", "B"), ("c", "C")] 10) podcastLibrary).any fun r =>
        r.1.toOption.isSome) = true := by
    decide +kernel
  obtain ⟨⟨r, s⟩, hrun, hr⟩ := (Option.any_eq_true _ _).1 hcheck
  cases r with
  | error e => cases hr
  | ok _ =>
    refine ⟨s, hrun, (pass_complete_iff hrun).2 ?_⟩
    intro v _ c _ _
    right
    constructor
    · rintro ⟨i, job, hrow, -⟩
      cases hrow
    · left
      rintro (hrow | hrow) <;>
        · rw [Library.hasRow, Bool.and_eq_true] at hrow
          cases hrow.2

/-- The podcast has an episode of this title. -/
def recordedLibrary : Library :=
  { podcastLibrary with
    downloads := podcastLibrary.downloads.create
      (sourceColumns "p" podcastSource ++ [("item_uid", .string "x"), ("title", .string "A")]) }

/-- Another episode of the same title never gets a job. -/
theorem repeated_title_incomplete : ∃ s, runSerially .plain (checkForEpisodes .plain)
    (podcastReplies [("a", "A")] 2) recordedLibrary = some (.ok (), s) ∧
    ¬Complete .plain recordedLibrary (visits s.past) s.library.database := by
  have hcheck : ((runSerially .plain (checkForEpisodes .plain)
      (podcastReplies [("a", "A")] 2) recordedLibrary).any fun r =>
        r.1.toOption.isSome && r.2.library.database.jobs.entries.isEmpty &&
          (visits r.2.past).any fun v => (v.listed .plain recordedLibrary).any fun c =>
            decide (v.NeverDownloaded recordedLibrary c)) = true := by
    decide +kernel
  obtain ⟨⟨r, s⟩, hrun, hr⟩ := (Option.any_eq_true _ _).1 hcheck
  dsimp only at hr
  rw [Bool.and_eq_true, Bool.and_eq_true, List.isEmpty_iff] at hr
  obtain ⟨⟨hok, hempty⟩, hvisits⟩ := hr
  obtain ⟨v, hv, hany⟩ := List.any_eq_true.1 hvisits
  obtain ⟨c, hc, hnever⟩ := List.any_eq_true.1 hany
  cases r with
  | error e => cases hok
  | ok _ =>
    refine ⟨s, hrun, ?_⟩
    intro h
    obtain ⟨i, job, hrow, -⟩ := h v hv c hc (of_decide_eq_true hnever)
    rw [← Table.mem_entries_iff, hempty] at hrow
    cases hrow

end GetOffline
