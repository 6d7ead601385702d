import GetOffline.YoutubeEntries

set_option autoImplicit true

namespace GetOffline
open Python

/-- The entry is no short and no livestream, unless the source includes them. -/
structure IsWanted (host : Host) (source : SourceConfig) (entry : Columns) : Prop where
  shorts : source.includeShorts = true ∨ isYoutubeShortEntry host entry = false
  livestreams : source.includeLivestreams = true ∨ isYoutubeLivestreamEntry host entry = false

/-- The candidate of an entry names a video, and has an identity that fits its column. -/
structure IsCandidateOf (host : Host) (source : SourceConfig) (entry : Columns)
    (candidate : YoutubeCandidate) : Prop where
  passes : youtubeCandidateFromEntry host source entry = some candidate
  wanted : IsWanted host source entry
  video : isYoutubeVideoUrl candidate.itemUrl = true
  named : candidate.itemUid ≠ ""
  short : candidate.itemUid.length ≤ 255

/-- The candidates that an entry of the source's listing leads to: its own, or those of the listing that
its URL names. -/
def passingAt (host : Host) (source : SourceConfig) (extract : Extractor) (place asked : Nat)
    (entry : Columns) : Except Error (List YoutubeCandidate) :=
  if (youtubeSourceSkipReason host source entry).isSome then .ok []
  else
    match youtubeCandidateFromEntry host source entry with
    | some candidate => .ok [candidate]
    | none =>
      let nestedUrl := youtubeVideoUrl host entry
      if nestedUrl ≠ "" ∧ nestedUrl ≠ source.url then
        (youtubeEntriesFromPayload (extract place nestedUrl asked)).map fun nested =>
          nested.filterMap (youtubeCandidateFromEntry host source)
      else .ok []

/-- All candidates in the order of the listing, up to a listing that cannot be read. An entry's listing is
asked for as many entries as are missing when its turn comes. -/
def passingEntries (host : Host) (source : SourceConfig) (limit : Nat) (extract : Extractor) :
    List Columns → Nat → Nat → List YoutubeCandidate
  | [], _, _ => []
  | entry :: entries, place, found =>
    match passingAt host source extract place (limit - found) entry with
    | .error _ => []
    | .ok here => here ++ passingEntries host source limit extract entries (place + 1) (found + here.length)

section
variable {host : Host} {source : SourceConfig} {limit : Nat} {extract : Extractor}

theorem isWanted_of_reason {entry : Columns}
    (h : ¬ (youtubeSourceSkipReason host source entry).isSome = true) : IsWanted host source entry := by
  rw [youtubeSourceSkipReason, unwantedReason] at h
  split at h
  · exact (h rfl).elim
  · next hlive =>
    split at h
    · exact (h rfl).elim
    · next hshort =>
      rw [Bool.and_eq_true, Bool.not_eq_true', not_and_or, Bool.not_eq_false, Bool.not_eq_true] at hlive hshort
      exact ⟨hshort, hlive⟩

theorem cut255_spec {text : String} (h : text ≠ "") : cut255 text ≠ "" ∧ (cut255 text).length ≤ 255 := by
  rw [cut255]
  constructor
  · rw [ne_eq, String.ofList_eq_empty_iff, List.take_eq_nil_iff, not_or, String.toList_eq_nil_iff]
    exact ⟨by decide, h⟩
  · rw [String.length_ofList]
    exact List.length_take_le 255 _

/-- The URL stands in for an identity of another length, so that none has to be generated. -/
theorem itemUid_ne_empty {itemId url generated : String} (hurl : url ≠ "") :
    (if itemId.length = 11 then itemId else if url ≠ "" then url else generated) ≠ "" := by
  split
  · next hid =>
    rintro rfl
    cases hid
  · exact hurl

theorem isCandidateOf {entry : Columns} {candidate : YoutubeCandidate}
    (h : youtubeCandidateFromEntry host source entry = some candidate) :
    IsCandidateOf host source entry candidate := by
  have hpasses := h
  rw [youtubeCandidateFromEntry] at h
  split at h
  · cases h
  · next hreason =>
    dsimp only at h
    split at h
    · cases h
    · next hvideo =>
      rw [Bool.not_eq_true', Bool.not_eq_false] at hvideo
      have hurl : youtubeVideoUrl host entry ≠ "" := by
        intro hempty
        rw [hempty] at hvideo
        revert hvideo
        decide
      obtain rfl := Option.some.inj h
      refine ⟨hpasses, isWanted_of_reason hreason, ?_, ?_, ?_⟩
      · dsimp only
        rw [hvideo]
      · exact (cut255_spec (itemUid_ne_empty hurl)).1
      · exact (cut255_spec (itemUid_ne_empty hurl)).2

theorem nestedCandidates_eq (entries : List Columns) (yielded : Nat) :
    nestedCandidates host source limit entries yielded =
      (entries.filterMap (youtubeCandidateFromEntry host source)).take (limit - yielded) := by
  induction entries generalizing yielded with
  | nil => rw [nestedCandidates, List.filterMap_nil, List.take_nil]
  | cons entry entries ih =>
    rw [nestedCandidates]
    split
    · next hfull => rw [Nat.sub_eq_zero_of_le hfull, List.take_zero]
    · next hroom =>
      cases hentry : youtubeCandidateFromEntry host source entry with
      | none => rw [List.filterMap_cons_none hentry, ih]
      | some candidate =>
        have hnext : limit - yielded = (limit - (yielded + 1)) + 1 := by omega
        rw [List.filterMap_cons_some hentry, hnext, List.take_succ_cons, ← ih]

/-- A loop that counts is a prefix of what it would give without counting. -/
theorem youtubeCandidatesFrom_eq (entries : List Columns) (place yielded : Nat) :
    (youtubeCandidatesFrom host source limit extract entries place yielded).1 =
      (passingEntries host source limit extract entries place yielded).take (limit - yielded) := by
  induction entries generalizing place yielded with
  | nil => rw [youtubeCandidatesFrom, passingEntries, List.take_nil]
  | cons entry entries ih =>
    rw [youtubeCandidatesFrom]
    split
    · next hfull => rw [Nat.sub_eq_zero_of_le hfull, List.take_zero]
    · next hroom =>
      rw [passingEntries, passingAt]
      by_cases hskip : (youtubeSourceSkipReason host source entry).isSome = true
      · rw [if_pos hskip, if_pos hskip]
        exact ih (place + 1) yielded
      · rw [if_neg hskip, if_neg hskip]
        cases hentry : youtubeCandidateFromEntry host source entry with
        | some candidate =>
          have hnext : limit - yielded = (limit - (yielded + 1)) + 1 := by omega
          dsimp only
          rw [ih, hnext, List.singleton_append, List.take_succ_cons, List.length_singleton]
        | none =>
          dsimp only
          by_cases hdrill : youtubeVideoUrl host entry ≠ "" ∧ youtubeVideoUrl host entry ≠ source.url
          · rw [if_pos hdrill, if_pos hdrill]
            cases youtubeEntriesFromPayload (extract place (youtubeVideoUrl host entry) (limit - yielded)) with
            | error error => exact List.take_nil.symm
            | ok nested =>
              dsimp only [Except.map]
              rw [ih, nestedCandidates_eq]
              generalize nested.filterMap (youtubeCandidateFromEntry host source) = found
              by_cases hfits : found.length ≤ limit - yielded
              · rw [List.take_of_length_le hfits, List.take_append, List.take_of_length_le hfits, Nat.sub_sub]
              · have hlength : (found.take (limit - yielded)).length = limit - yielded :=
                  List.length_take_of_le (by omega)
                have hfull : limit - (yielded + (limit - yielded)) = 0 := by omega
                rw [hlength, hfull, List.take_zero, List.append_nil, List.take_append_of_le_length (by omega)]
          · rw [if_neg hdrill, if_neg hdrill]
            exact ih (place + 1) yielded

theorem mem_passingEntries {entries : List Columns} {place found : Nat} {candidate : YoutubeCandidate}
    (h : candidate ∈ passingEntries host source limit extract entries place found) :
    ∃ entry, IsCandidateOf host source entry candidate := by
  induction entries generalizing place found with
  | nil => exact (List.not_mem_nil h).elim
  | cons entry entries ih =>
    rw [passingEntries] at h
    split at h
    · exact (List.not_mem_nil h).elim
    · next here hhere =>
      rcases List.mem_append.1 h with h | h
      · rw [passingAt] at hhere
        split at hhere
        · cases hhere
          exact (List.not_mem_nil h).elim
        · split at hhere
          · next hentry =>
            cases hhere
            obtain rfl := List.mem_singleton.1 h
            exact ⟨entry, isCandidateOf hentry⟩
          · dsimp only at hhere
            split at hhere
            · cases hnested : youtubeEntriesFromPayload (extract place (youtubeVideoUrl host entry)
                (limit - found)) with
              | error error =>
                rw [hnested] at hhere
                cases hhere
              | ok nested =>
                rw [hnested] at hhere
                cases hhere
                obtain ⟨other, -, hother⟩ := List.mem_filterMap.1 h
                exact ⟨other, isCandidateOf hother⟩
            · cases hhere
              exact (List.not_mem_nil h).elim
      · exact ih h

end

/-- The candidates of a source are the passing entries of its listing and of the listings below it, in
order and up to the limit; each of them names a video, has an identity, and is wanted. -/
theorem youtube_candidates_exact (host : Host) (source : SourceConfig) (limit : Nat) (listing : Json)
    (extract : Extractor) :
    let candidates := (youtubeCandidates host source limit listing extract).1
    candidates.length ≤ limit ∧
      (∀ candidate ∈ candidates, ∃ entry, IsCandidateOf host source entry candidate) ∧
      candidates = match youtubeEntriesFromPayload listing with
        | .error _ => []
        | .ok entries => (passingEntries host source limit extract entries 0 0).take limit := by
  dsimp only
  rw [youtubeCandidates]
  cases youtubeEntriesFromPayload listing with
  | error error => exact ⟨Nat.zero_le limit, nofun, rfl⟩
  | ok entries =>
    dsimp only
    rw [youtubeCandidatesFrom_eq, Nat.sub_zero]
    refine ⟨List.length_take_le _ _, ?_, rfl⟩
    intro candidate hmem
    exact mem_passingEntries (List.mem_of_mem_take hmem)

end GetOffline
