import GetOffline.DiscoveryComplete

set_option autoImplicit true

namespace GetOffline
open Python Effects Program Execution Database

-- workers/utils.py

/-- `split_title_filter_terms`; a run of separators leaves only empty pieces. -/
def splitTitleFilterTerms (casefold : String → String) (value : Option String) : List String :=
  (((((value.getD "").toList.splitOnP fun c => c = ',' || c = '\n' || c = '\r').map fun piece =>
    strip (String.ofList piece))).filter fun term => term ≠ "").map casefold

/-- `title_matches_filter`. -/
def titleMatchesFilter (casefold : String → String) (title : String) (terms : List String) : String :=
  let normalizedTitle := casefold title
  if normalizedTitle = "" then ""
  else (terms.find? fun term =>
    term ≠ "" && decide (term.toList <:+: normalizedTitle.toList)).getD ""

theorem titleMatchesFilter_ne {casefold : String → String} {title : String} {terms : List String} :
    titleMatchesFilter casefold title terms ≠ "" ↔
      ∃ term ∈ terms, term ≠ "" ∧ term.toList <:+: (casefold title).toList := by
  rw [titleMatchesFilter]
  constructor
  · intro h
    split at h
    · exact absurd rfl h
    · cases hfound : terms.find? fun term =>
          term ≠ "" && decide (term.toList <:+: (casefold title).toList) with
      | none =>
        rw [hfound] at h
        exact absurd rfl h
      | some term =>
        have hp := List.find?_some hfound
        rw [Bool.and_eq_true, decide_eq_true_eq, decide_eq_true_eq] at hp
        exact ⟨term, List.mem_of_find?_eq_some hfound, hp⟩
  · rintro ⟨term, hterm, hne, hpart⟩
    rw [if_neg]
    · cases hfound : terms.find? fun term =>
          term ≠ "" && decide (term.toList <:+: (casefold title).toList) with
      | none =>
        have hp := List.find?_eq_none.1 hfound term hterm
        rw [Bool.and_eq_true, decide_eq_true_eq, decide_eq_true_eq] at hp
        exact absurd ⟨hne, hpart⟩ hp
      | some found =>
        have hp := List.find?_some hfound
        rw [Bool.and_eq_true, decide_eq_true_eq] at hp
        exact hp.1
    · intro hempty
      rw [hempty] at hpart
      apply hne
      rw [← String.toList_inj]
      exact List.infix_nil.1 hpart

namespace Visit

/-- The title of the candidate has one of the terms that the source excludes. -/
def Excluded (casefold : String → String) (v : Visit) (c : Candidate) : Prop :=
  titleMatchesFilter casefold c.title (splitTitleFilterTerms casefold v.source.2.titleExclude) ≠ ""

instance (casefold : String → String) (v : Visit) (c : Candidate) : Decidable (v.Excluded casefold c) :=
  inferInstanceAs (Decidable (_ ≠ _))

/-- The job that would be asked for the candidate. -/
def args (host : Host) (s : Library) (v : Visit) (c : Candidate) : JobArgs :=
  c.args host v.source.2.profileId v.source (s.limitOf v.source)

end Visit

def SourceConfig.withoutExclusion (source : SourceConfig) : SourceConfig :=
  { source with titleExclude := none }

def Library.withoutExclusions (s : Library) : Library :=
  { s with sources := s.sources.update (fun _ _ => true) SourceConfig.withoutExclusion }

def Visit.withoutExclusion (v : Visit) : Visit where
  source := (v.source.1, v.source.2.withoutExclusion)
  candidates := v.candidates

/-- What the exclusions of the sources promise of a pass: no job is made for an excluded candidate, and what
is made for the others is what a pass makes without exclusions that gets the same answers of the feeds. -/
structure ExclusionKept (casefold : String → String) (host : Host) (s₀ : Library) (s : Serial) :
    Prop where
  enforced : ∀ v ∈ visits s.past, ∀ entry ∈ v.candidates, v.Excluded casefold (candidateOf host entry) →
    ¬NewlyMade (v.args host s₀ (candidateOf host entry)) s₀.database s.library.database
  neutral : ∀ replies s', runSerially host (checkForEpisodes host) replies s₀.withoutExclusions =
      some (.ok (), s') →
    (visits s'.past).map Visit.candidates = (visits s.past).map Visit.candidates →
    ∀ v ∈ visits s.past, ∀ entry ∈ v.candidates, ¬v.Excluded casefold (candidateOf host entry) →
      (NewlyMade (v.args host s₀ (candidateOf host entry)) s₀.database s.library.database ↔
        NewlyMade (v.args host s₀ (candidateOf host entry)) s₀.database s'.library.database)

/-- Every excluded candidate is one that gets no job anyway: it is known or beyond the limit, or an active
job or an earlier candidate has its key. -/
def ExclusionIdle (casefold : String → String) (host : Host) (s₀ : Library) (visited : List Visit) :
    Prop :=
  ∀ v ∈ visited, ∀ entry ∈ v.candidates, v.Excluded casefold (candidateOf host entry) →
    ¬First (visited.flatMap (Visit.requests host s₀)) s₀.database (v.args host s₀ (candidateOf host entry))

section
variable {host : Host} {s₀ : Library}

theorem enabledProfiles_withoutExclusions (s₀ : Library) :
    s₀.withoutExclusions.enabledProfiles = s₀.enabledProfiles := by
  unfold Library.enabledProfiles Library.withoutExclusions
  dsimp only
  rw [Table.orderBy_update]
  · rw [List.map_map]
    rfl
  · intro j r k r' h
    exact (Prod.mk.inj (toLex_inj.1 h)).2
  · intro k r
    rfl
  · intro k r
    rfl

theorem enabledSources_withoutExclusions (profileId : String) (s₀ : Library) :
    s₀.withoutExclusions.enabledSources profileId =
      (s₀.enabledSources profileId).map fun source => (source.1, source.2.withoutExclusion) := by
  unfold Library.enabledSources Library.withoutExclusions
  dsimp only
  rw [Table.orderBy_update]
  · rfl
  · intro j r k r' h
    exact (Prod.mk.inj (toLex_inj.1 h)).2
  · intro k r
    rfl
  · intro k r
    rfl

theorem sourcesInOrder_withoutExclusions (s₀ : Library) : s₀.withoutExclusions.sourcesInOrder =
    s₀.sourcesInOrder.map fun source => (source.1, source.2.withoutExclusion) := by
  rw [Library.sourcesInOrder, enabledProfiles_withoutExclusions, Library.sourcesInOrder,
    List.map_flatMap]
  congr 1
  funext profileId
  exact enabledSources_withoutExclusions profileId s₀

/-- Visits are told by their sources and what these answered. -/
theorem visits_ext {visited visited' : List Visit}
    (hsources : visited.map Visit.source = visited'.map Visit.source)
    (hcandidates : visited.map Visit.candidates = visited'.map Visit.candidates) :
    visited = visited' := by
  induction visited generalizing visited' with
  | nil => exact (List.map_eq_nil_iff.1 hsources.symm).symm
  | cons v visited ih =>
    cases visited' with
    | nil => cases hsources
    | cons v' visited' =>
      obtain ⟨hsource, hsources⟩ := List.cons.inj hsources
      obtain ⟨hcandidate, hcandidates⟩ := List.cons.inj hcandidates
      have hv : v = v' := by
        obtain ⟨source, candidates⟩ := v
        obtain ⟨source', candidates'⟩ := v'
        dsimp only at hsource hcandidate
        rw [hsource, hcandidate]
      rw [hv, ih hsources hcandidates]

/-- The exclusions of the sources have no part in what is asked for. -/
theorem requests_withoutExclusions (visited : List Visit) :
    (visited.map Visit.withoutExclusion).flatMap (Visit.requests host s₀.withoutExclusions) =
      visited.flatMap (Visit.requests host s₀) := by
  rw [List.flatMap_map]
  rfl

theorem payload_requests {visited : List Visit} :
    ∀ args ∈ visited.flatMap (Visit.requests host s₀), args.payload.isSome = true := by
  intro args hargs
  obtain ⟨v, -, hrequest⟩ := List.mem_flatMap.1 hargs
  obtain ⟨c, -, rfl⟩ := List.mem_map.1 hrequest
  rfl

theorem made_iff_first (hrun : runSerially host (checkForEpisodes host) replies s₀ = some (.ok (), s))
    (v : Visit) (c : Candidate) : NewlyMade (v.args host s₀ c) s₀.database s.library.database ↔
      First ((visits s.past).flatMap (Visit.requests host s₀)) s₀.database (v.args host s₀ c) := by
  obtain ⟨-, hturns, hserves⟩ := pass_returns hrun
  exact made_iff hturns hserves payload_requests rfl (Candidate.key_args host _ _ _ _)

/-- The exclusions change nothing at all. -/
theorem made_withoutExclusions
    (hrun : runSerially host (checkForEpisodes host) replies s₀ = some (.ok (), s))
    (hrun' : runSerially host (checkForEpisodes host) replies' s₀.withoutExclusions = some (.ok (), s'))
    (hsame : (visits s'.past).map Visit.candidates = (visits s.past).map Visit.candidates)
    (v : Visit) (c : Candidate) : NewlyMade (v.args host s₀ c) s₀.database s.library.database ↔
      NewlyMade (v.args host s₀ c) s₀.database s'.library.database := by
  have hvisits : visits s'.past = (visits s.past).map Visit.withoutExclusion := by
    apply visits_ext
    · rw [(pass_returns hrun').1, sourcesInOrder_withoutExclusions, ← (pass_returns hrun).1,
        List.map_map, List.map_map]
      rfl
    · rw [hsame, List.map_map]
      rfl
  have hmade := made_iff_first hrun' v.withoutExclusion c
  rw [hvisits, requests_withoutExclusions] at hmade
  exact (made_iff_first hrun v c).trans hmade.symm

end

/-- A pass keeps the exclusions exactly where they forbid nothing. -/
theorem exclusion_kept_iff (casefold : String → String) {host : Host} {s₀ : Library}
    (hrun : runSerially host (checkForEpisodes host) replies s₀ = some (.ok (), s)) :
    ExclusionKept casefold host s₀ s ↔ ExclusionIdle casefold host s₀ (visits s.past) := by
  constructor
  · intro h v hv entry hentry hexcluded hfirst
    exact h.enforced v hv entry hentry hexcluded ((made_iff_first hrun v _).2 hfirst)
  · intro h
    constructor
    · intro v hv entry hentry hexcluded hmade
      exact h v hv entry hentry hexcluded ((made_iff_first hrun v _).1 hmade)
    · intro replies' s' hrun' hsame v _ entry _ _
      exact made_withoutExclusions hrun hrun' hsame v _

/-- What `casefold` is on ASCII. -/
def asciiCasefold (text : String) : String :=
  String.ofList (text.toList.map Char.toLower)

theorem podcast_exclusion_kept : ∃ s, runSerially .plain (checkForEpisodes .plain)
    (podcastReplies [("a", "A"), ("b", "B"), ("c", "C")] 10) podcastLibrary = some (.ok (), s) ∧
    ExclusionKept asciiCasefold .plain podcastLibrary s := by
  have hcheck : ((runSerially .plain (checkForEpisodes .plain)
      (podcastReplies [("a", "A"), ("b", "B"), ("c", "C")] 10) podcastLibrary).any fun r =>
        r.1.toOption.isSome && (visits r.2.past).all fun v => v.candidates.all fun entry =>
          !decide (v.Excluded asciiCasefold (candidateOf .plain entry))) = true := by
    decide +kernel
  obtain ⟨⟨r, s⟩, hrun, hr⟩ := (Option.any_eq_true _ _).1 hcheck
  dsimp only at hr
  rw [Bool.and_eq_true] at hr
  cases r with
  | error e => cases hr.1
  | ok _ =>
    refine ⟨s, hrun, (exclusion_kept_iff asciiCasefold hrun).2 ?_⟩
    intro v hv entry hentry hexcluded
    have hnot := List.all_eq_true.1 (List.all_eq_true.1 hr.2 v hv) entry hentry
    rw [Bool.not_eq_true', decide_eq_false_iff_not] at hnot
    exact absurd hexcluded hnot

/-- A trailer is asked for all the same. -/
theorem trailer_not_excluded : ∃ s, runSerially .plain (checkForEpisodes .plain)
    (podcastReplies [("a", "Trailer")] 5) podcastLibrary = some (.ok (), s) ∧
    ¬ExclusionKept asciiCasefold .plain podcastLibrary s := by
  have hcheck : ((runSerially .plain (checkForEpisodes .plain)
      (podcastReplies [("a", "Trailer")] 5) podcastLibrary).any fun r =>
        r.1.toOption.isSome && (r.2.library.database.jobs.lookup 1).isSome &&
          (visits r.2.past).all fun v => v.candidates.all fun entry =>
            decide (v.Excluded asciiCasefold (candidateOf .plain entry))) = true := by
    decide +kernel
  obtain ⟨⟨r, s⟩, hrun, hr⟩ := (Option.any_eq_true _ _).1 hcheck
  dsimp only at hr
  rw [Bool.and_eq_true, Bool.and_eq_true] at hr
  obtain ⟨⟨hok, hrow⟩, hall⟩ := hr
  cases r with
  | error e => cases hok
  | ok _ =>
    refine ⟨s, hrun, ?_⟩
    intro h
    obtain ⟨job, hjob⟩ := Option.isSome_iff_exists.1 hrow
    obtain ⟨v, hv, -, entry, hentry, hmade⟩ := (pass_bounded hrun).made 1 job hjob rfl
    obtain ⟨createdAt, updatedAt, rfl⟩ := hmade.job
    have hexcluded := of_decide_eq_true
      (List.all_eq_true.1 (List.all_eq_true.1 hall v hv) entry hentry)
    exact h.enforced v hv entry hentry hexcluded ⟨1, createdAt, updatedAt, rfl, hjob⟩

end GetOffline
