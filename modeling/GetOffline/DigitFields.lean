import GetOffline.Purge
import GetOffline.PythonDigits
import GetOffline.SourceEdits

set_option autoImplicit true

namespace GetOffline
open Python

-- api/services/dashboard_actions.py

/-- `edit_metadata` from the lookup of the row on. -/
def saveMetadata (profileId : String) (now : Instant) (post : List (String × String)) (id : Int)
    (downloads : AutoTable DownloadRow) : Answer Unit × AutoTable DownloadRow :=
  match (downloads.rows.lookup id.toNat).filter fun row => row.profileId = profileId with
  | none => (.notFound, downloads)
  | some _ =>
    let title := postedText "title" post
    let sourceName := postedText "source_name" post
    if title = "" ∨ sourceName = "" then
      (.refused 400 "Title and source name are required", downloads)
    else
      (.ok (), downloads.update (fun other _ => other == id.toNat) fun row =>
        { row with title := some title, sourceName, lastSeenAt := now })

def editMetadata (profileId : String) (now : Instant) (post : List (String × String))
    (downloads : AutoTable DownloadRow) : Answer Unit × AutoTable DownloadRow :=
  let rawId := postedText "id" post
  if !isDigit rawId then (.refused 400 "Invalid id", downloads)
  else
    match intOfText rawId with
    | .error error => (.raised error, downloads)
    | .ok id => saveMetadata profileId now post id downloads

/-- `batch_update`. `act` does what the action says to the rows of these ids. -/
def batchUpdate (act : String → List Nat → σ → Answer Unit × σ) (post : List (String × String)) (s : σ) :
    Answer Unit × σ :=
  match requestedIds (postedList "ids" post) with
  | .error error => (.raised error, s)
  | .ok ids => act (postedText "batch_action" post) ids s

/-- The number that a text writes, if it is of digits that `int()` converts. -/
def digitNumber (text : String) : Option Int :=
  if isDigit text then (intOfText text).toOption else none

/-- The ids among the texts. -/
def digitIds (texts : List String) : List Nat :=
  (texts.filterMap digitNumber).map Int.toNat

/-- The text is not of digits, or of digits that `int()` converts. -/
def IsReadable (text : String) : Prop :=
  isDigit text = true → IsDecimal text

theorem isReadable_iff {text : String} :
    IsReadable text ↔ (isDigit text = true → ∃ n, intOfText text = .ok n) :=
  forall_congr' fun h => (intOfText_digits_iff h).symm

/-- What the two readers of one number do: they raise if the text is not readable. -/
theorem readNumber_iff {text : String} :
    (if isDigit text = true then (intOfText text).map some else .ok none) = Except.ok (digitNumber text) ↔
      IsReadable text := by
  rw [isReadable_iff, digitNumber]
  cases hdigit : isDigit text with
  | false => exact iff_of_true rfl fun h => nomatch h
  | true =>
    rw [if_pos rfl, if_pos rfl, imp_iff_right rfl]
    cases intOfText text with
    | error error =>
      refine iff_of_false ?_ ?_
      · intro h
        cases h
      · rintro ⟨n, h⟩
        cases h
    | ok n => exact iff_of_true rfl ⟨n, rfl⟩

theorem digitIds_cons_of_not {text : String} (h : isDigit text = false) (texts : List String) :
    digitIds (text :: texts) = digitIds texts := by
  have hnumber : digitNumber text = none := by
    rw [digitNumber, h, if_neg Bool.false_ne_true]
  rw [digitIds, List.filterMap_cons_none hnumber, digitIds]

theorem digitIds_cons {text : String} (h : isDigit text = true) (hn : intOfText text = .ok n)
    (texts : List String) : digitIds (text :: texts) = n.toNat :: digitIds texts := by
  have hnumber : digitNumber text = some n := by
    rw [digitNumber, h, if_pos rfl, hn]
    rfl
  rw [digitIds, List.filterMap_cons_some hnumber, List.map_cons, digitIds]

/-- A reader of many numbers raises exactly if one of the texts is not readable. -/
theorem requestedIds_eq_ok {texts : List String} {ids : List Nat} :
    requestedIds texts = .ok ids ↔ (∀ text ∈ texts, IsReadable text) ∧ ids = digitIds texts := by
  induction texts generalizing ids with
  | nil =>
    rw [and_iff_right fun text h => absurd h List.not_mem_nil]
    exact ⟨fun h => (Except.ok.inj h).symm, fun h => congrArg Except.ok h.symm⟩
  | cons text texts ih =>
    rw [List.forall_mem_cons, isReadable_iff]
    cases hdigit : isDigit text with
    | false =>
      have hread : requestedIds (text :: texts) = requestedIds texts := by
        rw [requestedIds, List.filter_cons_of_neg (ne_true_of_eq_false hdigit), requestedIds]
      rw [hread, digitIds_cons_of_not hdigit, ih]
      exact and_congr_left' (and_iff_right fun h => nomatch h).symm
    | true =>
      rw [imp_iff_right rfl, requestedIds, List.filter_cons_of_pos hdigit, List.mapM_cons, bind_eq_ok]
      constructor
      · rintro ⟨id, hid, h⟩
        obtain ⟨rest, hrest, h⟩ := bind_eq_ok.1 h
        obtain ⟨hall, rfl⟩ := ih.1 hrest
        obtain ⟨n, hn, rfl⟩ := map_eq_ok.1 hid
        exact ⟨⟨⟨n, hn⟩, hall⟩, (Except.ok.inj h).symm.trans (digitIds_cons hdigit hn texts).symm⟩
      · rintro ⟨⟨⟨n, hn⟩, hall⟩, rfl⟩
        refine ⟨n.toNat, map_eq_ok.2 ⟨n, hn, rfl⟩, bind_eq_ok.2 ⟨digitIds texts, ih.2 ⟨hall, rfl⟩, ?_⟩⟩
        rw [digitIds_cons hdigit hn]
        rfl

theorem requestedIds_iff {texts : List String} :
    requestedIds texts = .ok (digitIds texts) ↔ ∀ text ∈ texts, IsReadable text :=
  requestedIds_eq_ok.trans (and_iff_left rfl)

theorem exists_error {result : Except ε α} (h : ∀ a, result ≠ .ok a) : ∃ error, result = .error error := by
  cases result with
  | error error => exact ⟨error, rfl⟩
  | ok a => exact absurd rfl (h a)

theorem requestedIds_error {texts : List String} (h : ¬ ∀ text ∈ texts, IsReadable text) :
    ∃ error, requestedIds texts = .error error :=
  exists_error fun _ hids => h (requestedIds_eq_ok.1 hids).1

theorem saveMetadata_ne_raised {profileId : String} {now : Instant} {post : List (String × String)} {id : Int}
    {downloads : AutoTable DownloadRow} {error : Error} :
    (saveMetadata profileId now post id downloads).1 ≠ .raised error := by
  rw [saveMetadata]
  split
  · rintro ⟨⟩
  · dsimp only
    split
    · rintro ⟨⟩
    · rintro ⟨⟩

section
variable {profileId : String} {now : Instant} {post : List (String × String)} {downloads : AutoTable DownloadRow}

/-- `edit_metadata` refuses what is no number, and goes on with one that is. -/
theorem editMetadata_iff :
    editMetadata profileId now post downloads =
        (digitNumber (postedText "id" post)).elim (.refused 400 "Invalid id", downloads)
          (fun id => saveMetadata profileId now post id downloads) ↔
      IsReadable (postedText "id" post) := by
  rw [isReadable_iff, editMetadata, digitNumber]
  cases hdigit : isDigit (postedText "id" post) with
  | false => exact iff_of_true rfl fun h => nomatch h
  | true =>
    rw [imp_iff_right rfl, if_pos rfl]
    cases intOfText (postedText "id" post) with
    | error error =>
      refine iff_of_false ?_ ?_
      · intro h
        cases h
      · rintro ⟨n, h⟩
        cases h
    | ok n => exact iff_of_true rfl ⟨n, rfl⟩

theorem editMetadata_ne_raised (h : IsReadable (postedText "id" post)) (error : Error) :
    (editMetadata profileId now post downloads).1 ≠ .raised error := by
  rw [editMetadata_iff.2 h]
  cases digitNumber (postedText "id" post) with
  | none => rintro ⟨⟩
  | some id => exact saveMetadata_ne_raised

theorem editMetadata_unread (h : ¬ IsReadable (postedText "id" post)) :
    (editMetadata profileId now post downloads).2 = downloads := by
  rw [isReadable_iff, Classical.not_imp] at h
  obtain ⟨error, herror⟩ := exists_error fun n hn => h.2 ⟨n, hn⟩
  rw [editMetadata, h.1, herror]
  rfl

theorem batchUpdate_unread {act : String → List Nat → σ → Answer Unit × σ} {s : σ}
    (h : ¬ ∀ text ∈ postedList "ids" post, IsReadable text) : (batchUpdate act post s).2 = s := by
  obtain ⟨error, herror⟩ := requestedIds_error h
  rw [batchUpdate, herror]

end

section
variable {urlparse : String → Except Error ParsedUrl} {profileId sourceType : String} {sourceId : Nat}
  {source : SourceConfig} {post : List (String × String)} {sources : AutoTable SourceConfig}

theorem saveSources_unread (h : ¬ ∀ text ∈ postedList "source_ids" post, IsReadable text) :
    (saveSources urlparse profileId sourceType post sources).2 = sources := by
  obtain ⟨error, herror⟩ : ∃ error, postedSourceIds post = .error error := requestedIds_error h
  rw [saveSources]
  dsimp only
  rw [herror]
  split
  · rfl
  · rfl

/-- A form with a limit that is not readable is not read. -/
theorem readSourceForm_unread (urlparse : String → Except Error ParsedUrl) (sourceType : String)
    {leading : String} (h : ¬ IsReadable (postedText (leading ++ "max_downloads") post)) :
    ∃ error, readSourceForm urlparse post sourceType leading = .error error := by
  apply exists_error
  intro read hread
  obtain ⟨form, hform, -⟩ := bind_eq_ok.1 hread
  obtain ⟨limit, hlimit, -⟩ := map_eq_ok.1 hform
  rw [isReadable_iff, Classical.not_imp] at h
  rw [optionalInt, ← postedText, if_pos h.1] at hlimit
  obtain ⟨n, hn, -⟩ := map_eq_ok.1 hlimit
  exact h.2 ⟨n, hn⟩

theorem addSource_unread (h : ¬ IsReadable (postedText "max_downloads" post)) :
    (addSource urlparse profileId post sources).2 = sources := by
  rw [addSource]
  split
  · rfl
  · next sourceType _ =>
    have hform : ¬ IsReadable (postedText ("" ++ "max_downloads") post) := by
      rw [String.empty_append]
      exact h
    obtain ⟨error, herror⟩ := readSourceForm_unread urlparse (StrEnum.value sourceType) hform
    dsimp only
    rw [herror]

theorem updateSource_unread (h : ¬ IsReadable (postedText "max_downloads" post)) :
    (updateSource urlparse profileId sourceId post sources).2 = sources := by
  rw [updateSource]
  split
  · rfl
  · next source _ =>
    have hform : ¬ IsReadable (postedText ("" ++ "max_downloads") post) := by
      rw [String.empty_append]
      exact h
    obtain ⟨error, herror⟩ := readSourceForm_unread urlparse source.sourceType hform
    rw [herror]

theorem saveSources_unreadRow (hrow : SavesRow profileId sourceType post sources sourceId source)
    (h : ¬ IsReadable (postedText (sourceKey sourceId ++ "max_downloads") post)) :
    (saveSources urlparse profileId sourceType post sources).2 = sources := by
  obtain ⟨error, herror⟩ := readSourceForm_unread urlparse source.sourceType h
  refine (saveSources_refused hrow ?_).2
  rintro ⟨form, hform⟩
  rw [herror] at hform
  cases hform

end

/-- A request with a text that is not readable in one of the fields leaves the rows as they are. -/
structure UnreadLeavesRows (urlparse : String → Except Error ParsedUrl) (profileId sourceType : String)
    (sourceId : Nat) (now : Instant) (post : List (String × String)) (sources : AutoTable SourceConfig)
    (downloads : AutoTable DownloadRow) : Prop where
  edit : ¬ IsReadable (postedText "id" post) → (editMetadata profileId now post downloads).2 = downloads
  bulk : ¬ (∀ text ∈ postedList "source_ids" post, IsReadable text) →
    (saveSources urlparse profileId sourceType post sources).2 = sources
  row : (∃ source, SavesRow profileId sourceType post sources sourceId source) →
    ¬ IsReadable (postedText (sourceKey sourceId ++ "max_downloads") post) →
      (saveSources urlparse profileId sourceType post sources).2 = sources
  single : ¬ IsReadable (postedText "max_downloads" post) →
    (addSource urlparse profileId post sources).2 = sources ∧
      (updateSource urlparse profileId sourceId post sources).2 = sources

/-- Each reader takes the numbers that `int()` converts and leaves out the other texts, exactly if every text
of digits that it gets is one of these numbers. If not, it raises before a row is changed. -/
theorem digit_fields_read_iff (urlparse : String → Except Error ParsedUrl) (profileId sourceType : String)
    (sourceId : Nat) (now : Instant) (post : List (String × String)) (sources : AutoTable SourceConfig)
    (downloads : AutoTable DownloadRow) (act : String → List Nat → σ → Answer Unit × σ) (s : σ)
    (value : Option String) :
    (optionalInt value = .ok (digitNumber (strip (value.getD ""))) ↔ IsReadable (strip (value.getD ""))) ∧
    (postedSourceIds post = .ok (digitIds (postedList "source_ids" post)) ↔
      ∀ text ∈ postedList "source_ids" post, IsReadable text) ∧
    (requestedIds (postedList "ids" post) = .ok (digitIds (postedList "ids" post)) ↔
      ∀ text ∈ postedList "ids" post, IsReadable text) ∧
    (editMetadata profileId now post downloads =
        (digitNumber (postedText "id" post)).elim (.refused 400 "Invalid id", downloads)
          (fun id => saveMetadata profileId now post id downloads) ↔
      IsReadable (postedText "id" post)) ∧
    (IsReadable (postedText "id" post) → ∀ error, (editMetadata profileId now post downloads).1 ≠ .raised error) ∧
    (¬ (∀ text ∈ postedList "ids" post, IsReadable text) → (batchUpdate act post s).2 = s) ∧
    UnreadLeavesRows urlparse profileId sourceType sourceId now post sources downloads := by
  refine ⟨readNumber_iff, requestedIds_iff, requestedIds_iff, editMetadata_iff, editMetadata_ne_raised,
    batchUpdate_unread, ?_⟩
  exact ⟨editMetadata_unread, saveSources_unread, fun ⟨_, hrow⟩ => saveSources_unreadRow hrow,
    fun h => ⟨addSource_unread h, updateSource_unread h⟩⟩

/-- The superscript two is a digit that `int()` does not convert. -/
theorem superscript_two_raises :
    optionalInt (some "²") = .error .valueError ∧
    postedSourceIds [("source_ids", "²")] = .error .valueError ∧
    requestedIds ["7", "²"] = .error .valueError ∧
    (editMetadata "default" 0 [("id", "²")] .empty).1 = .raised .valueError := by
  decide

end GetOffline
