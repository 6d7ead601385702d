import GetOffline.PlaylistOrder
import GetOffline.PlaybackRule

set_option autoImplicit true

namespace GetOffline
open Python

/-- The ids that a list names: what `int()` does not take is none. -/
def namedIds (rawIds : List Json) : List Int :=
  rawIds.filterMap fun rawId => rawId.toInt.toOption

/-- A float that `int()` takes neither as a number nor as none: JSON's `Infinity`. -/
def IsInfinite (rawId : Json) : Prop :=
  ∃ negative, rawId = .float (.infinity negative)

/-- A request to add the ids adds the profile's downloads among them that the playlist has not, each once,
and tells how many; a request that fails inserts nothing, and only the database may fail it. -/
structure AddsUnion (profileId : String) (playlistId : Nat) (rawIds : List Json) (writes : Option Nat)
    (t : LibraryTables) (r : Answer Nat × LibraryTables) : Prop where
  answers : writes = none → r.1.accepted = true
  union : ∀ added, r.1 = .ok added →
    let named := requestedDownloads profileId (namedIds rawIds) t.downloads
    let before := listed playlistId t.items
    (∀ downloadId, (listed playlistId r.2.items).count downloadId =
      if downloadId ∈ before then before.count downloadId else if downloadId ∈ named then 1 else 0) ∧
    added = (named.filter (· ∉ before)).dedup.length
  unchanged : r.1.accepted = false → r.2.items = t.items

namespace LibraryTables

/-- The downloads that the list names and the playlist has not, as often as they are named. -/
def newDownloads (profileId : String) (playlistId : Nat) (rawIds : List Json) (t : LibraryTables) :
    List Nat :=
  (requestedDownloads profileId (namedIds rawIds) t.downloads).filter (· ∉ listed playlistId t.items)

end LibraryTables

section
variable {rawIds : List Json} {existing downloads seen : List Nat} {position : Int}
  {items : AutoTable PlaylistItem} {playlistId : Nat}

theorem intOfText_error (h : intOfText s = .error e) : e = .valueError := by
  have hdigits (cs : List Char) (hcs : intOfDigits cs = .error e) : e = .valueError := by
    rw [intOfDigits] at hcs
    split at hcs
    · exact (Except.error.inj hcs).symm
    · split at hcs
      · exact (Except.error.inj hcs).symm
      · cases hcs
  have hmap (f : Int → Int) (cs : List Char)
      (hcs : (intOfDigits cs >>= fun n => pure (n : Int)).map f = .error e) : e = .valueError := by
    apply hdigits cs
    cases hint : intOfDigits cs with
    | error e' =>
      rw [hint] at hcs
      exact congrArg Except.error (Except.error.inj hcs)
    | ok n =>
      rw [hint] at hcs
      cases hcs
  rw [intOfText] at h
  split at h
  · exact hmap _ _ h
  · exact hmap _ _ h
  · exact hmap _ _ h

/-- What `int()` does with a value of a list. -/
theorem toInt_cases (rawId : Json) : (∃ id, rawId.toInt = .ok id) ∨
    (rawId.toInt = .error .typeError ∨ rawId.toInt = .error .valueError) ∧ ¬ IsInfinite rawId ∨
    rawId.toInt = .error .overflowError ∧ IsInfinite rawId := by
  have hfinite (value : Json) (h : ∀ x, value ≠ .float x) : ¬ IsInfinite value := by
    rintro ⟨negative, rfl⟩
    exact h _ rfl
  cases rawId with
  | null | array | object => exact .inr (.inl ⟨.inl rfl, hfinite _ (by rintro x ⟨⟩)⟩)
  | bool | int => exact .inl ⟨_, rfl⟩
  | string s =>
    rw [Json.toInt]
    cases h : intOfText s with
    | ok id => exact .inl ⟨id, rfl⟩
    | error e =>
      obtain rfl := intOfText_error h
      exact .inr (.inl ⟨.inr rfl, hfinite _ (by rintro x ⟨⟩)⟩)
  | float x =>
    cases x with
    | nan =>
      refine .inr (.inl ⟨.inr rfl, ?_⟩)
      rintro ⟨negative, h⟩
      cases h
    | infinity negative => exact .inr (.inr ⟨rfl, negative, rfl⟩)
    | finite => exact .inl ⟨_, rfl⟩

/-- The loop over the ids fails exactly at an infinity. -/
theorem intIds_spec (rawIds : List Json) :
    (∃ rawId ∈ rawIds, IsInfinite rawId) ∧ (∃ e, intIds rawIds = .error e) ∨
    (∀ rawId ∈ rawIds, ¬ IsInfinite rawId) ∧ intIds rawIds = .ok (namedIds rawIds) := by
  induction rawIds with
  | nil => exact .inr ⟨fun _ h => absurd h List.not_mem_nil, rfl⟩
  | cons rawId rawIds ih =>
    rw [intIds]
    rcases toInt_cases rawId with ⟨id, h⟩ | ⟨h, hfinite⟩ | ⟨h, hinfinite⟩
    · have hfinite : ¬ IsInfinite rawId := by
        rintro ⟨negative, rfl⟩
        cases h
      rw [h]
      rcases ih with ⟨⟨bad, hbad, hinfinite⟩, e, he⟩ | ⟨hall, hids⟩
      · exact .inl ⟨⟨bad, List.mem_cons_of_mem _ hbad, hinfinite⟩, e, by rw [he]; rfl⟩
      · refine .inr ⟨List.forall_mem_cons.2 ⟨hfinite, hall⟩, ?_⟩
        have hnamed : namedIds (rawId :: rawIds) = id :: namedIds rawIds := by
          rw [namedIds, List.filterMap_cons, h]
          rfl
        rw [hids, hnamed]
        rfl
    · have hnamed : namedIds (rawId :: rawIds) = namedIds rawIds := by
        rw [namedIds, List.filterMap_cons]
        rcases h with h | h <;> rw [h] <;> rfl
      rw [hnamed]
      rcases ih with ⟨⟨bad, hbad, hinfinite⟩, he⟩ | ⟨hall, hids⟩
      · refine .inl ⟨⟨bad, List.mem_cons_of_mem _ hbad, hinfinite⟩, ?_⟩
        rcases h with h | h <;> rw [h] <;> exact he
      · refine .inr ⟨List.forall_mem_cons.2 ⟨hfinite, hall⟩, ?_⟩
        rcases h with h | h <;> rw [h] <;> exact hids
    · refine .inl ⟨⟨rawId, List.mem_cons_self, hinfinite⟩, .overflowError, ?_⟩
      rw [h]

theorem untilRepeat_eq_self_iff {seen ds : List Nat} :
    untilRepeat seen ds = ds ↔ ds.Nodup ∧ ∀ d ∈ ds, d ∉ seen := by
  constructor
  · intro h
    induction ds generalizing seen with
    | nil => exact ⟨List.nodup_nil, fun _ hd => absurd hd List.not_mem_nil⟩
    | cons d ds ih =>
      rw [untilRepeat] at h
      split at h
      · cases h
      · next hd =>
        obtain ⟨hnodup, hseen⟩ := ih (List.cons.inj h).2
        constructor
        · rw [List.nodup_cons]
          exact ⟨fun hin => hseen d hin List.mem_cons_self, hnodup⟩
        · rw [List.forall_mem_cons]
          exact ⟨hd, fun e he hin => hseen e he (List.mem_cons_of_mem _ hin)⟩
  · rintro ⟨hnodup, hseen⟩
    exact untilRepeat_eq hnodup hseen

/-- The loop comes to its end exactly if it meets no new download twice and the database takes all. -/
theorem createItems_ends_iff (existing : List Nat) (now : Instant) (writes : Option Nat)
    (h : Adding playlistId existing downloads position items seen) :
    ((createItems playlistId existing now downloads position writes items).2.2.1 = none ↔
      untilRepeat seen (downloads.filter (· ∉ existing)) = downloads.filter (· ∉ existing) ∧
        ∀ n, writes = some n → (downloads.filter (· ∉ existing)).length ≤ n) ∧
    ((createItems playlistId existing now downloads position writes items).2.2.1 = none →
      (createItems playlistId existing now downloads position writes items).1 =
        (downloads.filter (· ∉ existing)).length ∧
      (createItems playlistId existing now downloads position writes items).2.1 =
        writes.map fun n => n - (downloads.filter (· ∉ existing)).length) := by
  induction downloads generalizing position writes items seen with
  | nil =>
    refine ⟨iff_of_true rfl ⟨rfl, fun n _ => Nat.zero_le n⟩, fun _ => ⟨rfl, ?_⟩⟩
    simp only [createItems, List.filter_nil, List.length_nil, Nat.sub_zero, Option.map_id']
  | cons downloadId downloads ih =>
    rw [createItems]
    by_cases hin : downloadId ∈ existing
    · rw [if_pos hin, List.filter_cons_of_neg (by simpa only [decide_not, Bool.not_eq_true',
        decide_eq_false_iff_not, not_not] using hin)]
      exact ih writes h.skip
    · rw [if_neg hin, List.filter_cons_of_pos (by simpa only [decide_eq_true_eq] using hin)]
      by_cases hw : writes = some 0
      · rw [if_pos hw]
        refine ⟨iff_of_false (by rintro ⟨⟩) ?_, by rintro ⟨⟩⟩
        rintro ⟨-, hn⟩
        exact absurd (hn 0 hw) (Nat.not_succ_le_zero _)
      · rw [if_neg hw]
        by_cases hrepeat : downloadId ∈ seen
        · rw [createItem_error (h.seen downloadId hrepeat), untilRepeat, if_pos hrepeat]
          refine ⟨iff_of_false (by rintro ⟨⟩) (by rintro ⟨⟨⟩, -⟩), by rintro ⟨⟩⟩
        · rw [h.createItem_ok hin hrepeat, untilRepeat, if_neg hrepeat]
          obtain ⟨hends, hcount⟩ := ih (writes.map fun n => n - 1) (h.insert now)
          dsimp only
          rw [hends, List.cons_inj_right, List.length_cons]
          constructor
          · refine and_congr_right fun _ => ?_
            cases writes with
            | none => exact iff_of_true (by rintro n ⟨⟩) (by rintro n ⟨⟩)
            | some k =>
              have hk : k ≠ 0 := fun hzero => hw (congrArg some hzero)
              simp only [Option.map_some, Option.some.injEq, forall_eq']
              omega
          · intro hended
            obtain ⟨hlength, hwrites⟩ := hcount (hends.2 hended)
            rw [hlength, hwrites, Option.map_map]
            refine ⟨rfl, ?_⟩
            congr 1
            funext k
            rw [Function.comp_apply, Nat.sub_sub, Nat.add_comm]

theorem count_append_filter (before named : List Nat)
    (hnodup : (named.filter (· ∉ before)).Nodup) (downloadId : Nat) :
    (before ++ named.filter (· ∉ before)).count downloadId =
      if downloadId ∈ before then before.count downloadId else if downloadId ∈ named then 1 else 0 := by
  rw [List.count_append]
  by_cases hbefore : downloadId ∈ before
  · have hnew : downloadId ∉ named.filter (· ∉ before) := fun hmem =>
      of_decide_eq_true (List.mem_filter.1 hmem).2 hbefore
    rw [if_pos hbefore, List.count_eq_zero_of_not_mem hnew, Nat.add_zero]
  · rw [if_neg hbefore, List.count_eq_zero_of_not_mem hbefore, Nat.zero_add,
      List.Nodup.count hnodup]
    simp only [List.mem_filter, decide_eq_true_eq, hbefore, not_false_eq_true, and_true]

/-- With nothing new, or no write left, the loop inserts nothing. -/
theorem createItems_items (playlistId : Nat) (existing : List Nat) (now : Instant)
    (downloads : List Nat) (position : Int) (writes : Option Nat) (items : AutoTable PlaylistItem)
    (h : downloads.filter (· ∉ existing) = [] ∨ writes = some 0) :
    (createItems playlistId existing now downloads position writes items).2.2.2 = items := by
  induction downloads with
  | nil => rfl
  | cons downloadId downloads ih =>
    rw [createItems]
    by_cases hin : downloadId ∈ existing
    · rw [if_pos hin]
      rw [List.filter_cons_of_neg (by simpa only [decide_not, Bool.not_eq_true',
        decide_eq_false_iff_not, not_not] using hin)] at h
      exact ih h
    · rw [List.filter_cons_of_pos (by simpa only [decide_eq_true_eq] using hin)] at h
      rw [if_neg hin, if_pos (h.resolve_left (List.cons_ne_nil _ _))]

end

namespace LibraryTables
variable {t : LibraryTables} {playlist : Playlist} {rawIds : List Json}

/-- What a request with readable ids answers, and what it makes of the playlist. -/
theorem playlistAddItems_spec (hown : t.ownPlaylist profileId playlistId = some playlist)
    (hraw : rawDownloadIds data = some rawIds) (hids : intIds rawIds = .ok (namedIds rawIds))
    (now : Instant) (writes : Option Nat) :
    let new := t.newDownloads profileId playlistId rawIds
    let r := t.playlistAddItems profileId playlistId data now writes
    (r.1.accepted = true ↔ new.Nodup ∧ ∀ n, writes = some n → new.length < n) ∧
      (∀ added, r.1 = .ok added → added = new.length) ∧
      listed playlistId r.2.items =
        listed playlistId t.items ++ (untilRepeat [] new).take (writes.getD (untilRepeat [] new).length) ∧
      (new = [] ∨ writes = some 0 → r.2.items = t.items) := by
  have hprofile : playlist.profileId = profileId :=
    of_decide_eq_true (Option.filter_eq_some_iff.1 hown).2
  have hnew : (requestedDownloads profileId (namedIds rawIds) t.downloads).filter
      (· ∉ t.existingDownloads playlistId (namedIds rawIds)) =
        t.newDownloads profileId playlistId rawIds :=
    List.filter_congr fun d hd =>
      decide_eq_decide.2 (not_congr (mem_existingDownloads (mem_ids_of_requested hd)))
  have hadding := adding_requested (t := t) playlistId profileId (namedIds rawIds)
  obtain ⟨hends, hcount⟩ := createItems_ends_iff (t.existingDownloads playlistId (namedIds rawIds)) now
    writes hadding
  have hlisted := listed_createItems playlistId (t.existingDownloads playlistId (namedIds rawIds)) now
    (requestedDownloads profileId (namedIds rawIds) t.downloads) (lastPosition playlistId t.items) writes
    t.items [] hadding playlistId
  have hitems := createItems_items playlistId (t.existingDownloads playlistId (namedIds rawIds)) now
    (requestedDownloads profileId (namedIds rawIds) t.downloads) (lastPosition playlistId t.items) writes
    t.items
  rw [hnew, untilRepeat_eq_self_iff] at hends
  rw [hnew] at hcount hlisted hitems
  simp only [↓reduceIte] at hlisted
  simp only [playlistAddItems, hown, hraw, hids, hprofile]
  generalize createItems playlistId _ now _ _ writes t.items = loop at hends hcount hlisted hitems ⊢
  obtain ⟨created, left, error, items⟩ := loop
  dsimp only at hends hcount hlisted hitems ⊢
  cases error with
  | some e =>
    refine ⟨iff_of_false (by rintro ⟨⟩) ?_, by rintro added ⟨⟩, hlisted, hitems⟩
    rintro ⟨hnodup, hwrites⟩
    have hnone := hends.2 ⟨⟨hnodup, fun d _ => List.not_mem_nil⟩, fun n hn => (hwrites n hn).le⟩
    cases hnone
  | none =>
    obtain ⟨hcreated, hleft⟩ := hcount rfl
    obtain ⟨⟨hnodup, -⟩, hwrites⟩ := hends.1 rfl
    by_cases hzero : left = some 0
    · simp only [hzero, ↓reduceIte]
      refine ⟨iff_of_false (by rintro ⟨⟩) ?_, by rintro added ⟨⟩, hlisted, hitems⟩
      rintro ⟨-, hlt⟩
      rw [hleft] at hzero
      obtain ⟨n, hn, hsub⟩ := Option.map_eq_some_iff.1 hzero
      have := hlt n hn
      omega
    · simp only [hzero, ↓reduceIte]
      refine ⟨iff_of_true rfl ⟨hnodup, ?_⟩, ?_, hlisted, hitems⟩
      · intro n hn
        have hle := hwrites n hn
        rw [hleft, hn, Option.map_some, Option.some.injEq] at hzero
        omega
      · intro added hadded
        rw [← hcreated]
        exact (Answer.ok.inj hadded).symm

end LibraryTables

/-- A request with a list of ids adds their union exactly where no value is an infinity and no new download
is named twice, as long as the database takes all writes; a database that does not must fail the first of
them, unless the request has failed before or has nothing to insert. -/
theorem adds_union_iff {t : LibraryTables} {playlist : Playlist} {rawIds : List Json}
    (hown : t.ownPlaylist profileId playlistId = some playlist)
    (hraw : rawDownloadIds data = some rawIds) (now : Instant) (writes : Option Nat) :
    AddsUnion profileId playlistId rawIds writes t
        (t.playlistAddItems profileId playlistId data now writes) ↔
      match writes with
      | none => (∀ rawId ∈ rawIds, ¬ IsInfinite rawId) ∧
          (t.newDownloads profileId playlistId rawIds).Nodup
      | some n => (∃ rawId ∈ rawIds, IsInfinite rawId) ∨ n = 0 ∨
          t.newDownloads profileId playlistId rawIds = [] ∨
          (t.newDownloads profileId playlistId rawIds).Nodup ∧
            (t.newDownloads profileId playlistId rawIds).length < n := by
  rcases intIds_spec rawIds with ⟨hinfinite, e, he⟩ | ⟨hfinite, hids⟩
  · have hresult : t.playlistAddItems profileId playlistId data now writes = (.raised e, t) := by
      simp only [LibraryTables.playlistAddItems, hown, hraw, he]
    rw [hresult]
    cases writes with
    | none =>
      refine iff_of_false (fun h => Bool.false_ne_true (h.answers rfl)) ?_
      rintro ⟨hfinite, -⟩
      obtain ⟨rawId, hmem, hbad⟩ := hinfinite
      exact hfinite rawId hmem hbad
    | some n => exact iff_of_true ⟨by rintro ⟨⟩, by rintro added ⟨⟩, fun _ => rfl⟩ (.inl hinfinite)
  · obtain ⟨haccepted, hadded, hlisted, hitems⟩ :=
      LibraryTables.playlistAddItems_spec hown hraw hids now writes
    have hunion : ∀ added, (t.playlistAddItems profileId playlistId data now writes).1 = .ok added →
        (∀ downloadId, (listed playlistId
            (t.playlistAddItems profileId playlistId data now writes).2.items).count downloadId =
          if downloadId ∈ listed playlistId t.items then (listed playlistId t.items).count downloadId
          else if downloadId ∈ requestedDownloads profileId (namedIds rawIds) t.downloads then 1
          else 0) ∧
        added = ((requestedDownloads profileId (namedIds rawIds) t.downloads).filter
          (· ∉ listed playlistId t.items)).dedup.length := by
      intro added hok
      obtain ⟨hnodup, hwrites⟩ := haccepted.1 (by rw [hok]; rfl)
      have hself : untilRepeat [] (t.newDownloads profileId playlistId rawIds) =
          t.newDownloads profileId playlistId rawIds :=
        untilRepeat_eq hnodup fun d _ => List.not_mem_nil
      have hall : (t.newDownloads profileId playlistId rawIds).take
          (writes.getD (t.newDownloads profileId playlistId rawIds).length) =
            t.newDownloads profileId playlistId rawIds := by
        apply List.take_of_length_le
        cases writes with
        | none => exact le_rfl
        | some n => exact (hwrites n rfl).le
      constructor
      · rw [hlisted, hself, hall]
        exact count_append_filter _ _ hnodup
      · rw [hadded added hok]
        exact congrArg List.length (List.dedup_eq_self.2 hnodup).symm
    cases writes with
    | none =>
      constructor
      · intro h
        exact ⟨hfinite, (haccepted.1 (h.answers rfl)).1⟩
      · rintro ⟨-, hnodup⟩
        have hok := haccepted.2 ⟨hnodup, by rintro n ⟨⟩⟩
        exact ⟨fun _ => hok, hunion, fun hfailed => absurd (hok.symm.trans hfailed) (by decide)⟩
    | some n =>
      constructor
      · intro h
        by_contra hcondition
        simp only [not_or] at hcondition
        obtain ⟨-, hn, hnew, hrest⟩ := hcondition
        have hfailed := mt haccepted.1 fun hok => hrest ⟨hok.1, hok.2 n rfl⟩
        have hsame := hlisted
        rw [h.unchanged (eq_false_of_ne_true hfailed)] at hsame
        have hnone := List.self_eq_append_right.1 hsame
        obtain ⟨d, ds, hds⟩ := List.exists_cons_of_ne_nil hnew
        obtain ⟨k, rfl⟩ := Nat.exists_eq_succ_of_ne_zero hn
        rw [hds, untilRepeat, if_neg List.not_mem_nil, Option.getD_some, List.take_succ_cons] at hnone
        cases hnone
      · intro hcondition
        refine ⟨by rintro ⟨⟩, hunion, fun hfailed => ?_⟩
        rcases hcondition with ⟨rawId, hmem, hbad⟩ | rfl | hnew | ⟨hnodup, hlength⟩
        · exact absurd hbad (hfinite rawId hmem)
        · exact hitems (.inr rfl)
        · exact hitems (.inl hnew)
        · have hok := haccepted.2 ⟨hnodup, fun k hk => Option.some.inj hk ▸ hlength⟩
          exact absurd (hok.symm.trans hfailed) (by decide)

def drivePlaylist : LibraryTables where
  downloads := threeEpisodes
  playlists := onePlaylist
  items := .empty
  segments := .empty

theorem two_episodes_added : AddsUnion "anna" 0 [.int 2, .string "1", .int 7] none drivePlaylist
    (drivePlaylist.playlistAddItems "anna" 0
      [("download_ids", .array [.int 2, .string "1", .int 7])] 5 none) := by
  have hown : drivePlaylist.ownPlaylist "anna" 0 =
      some { profileId := "anna", name := "Drive", createdAt := 0, updatedAt := 0 } := rfl
  have hfinite (value : Json) (h : ∀ x, value ≠ .float x) : ¬ IsInfinite value := by
    rintro ⟨negative, rfl⟩
    exact h _ rfl
  refine (adds_union_iff hown rfl 5 none).2 ⟨?_, by decide +kernel⟩
  simp only [List.forall_mem_cons, List.not_mem_nil, false_implies, implies_true, and_true]
  refine ⟨hfinite _ ?_, hfinite _ ?_, hfinite _ ?_⟩ <;> rintro x ⟨⟩

/-- An id that is named twice breaks the request after its first insert. -/
theorem repeated_id_breaks_request :
    ¬ AddsUnion "anna" 0 [.int 2, .int 1, .int 2] none drivePlaylist
      (drivePlaylist.playlistAddItems "anna" 0
        [("download_ids", .array [.int 2, .int 1, .int 2])] 5 none) := by
  intro h
  exact absurd (h.answers rfl) (by decide +kernel)

end GetOffline
