import GetOffline.DownloadHandler

set_option autoImplicit true

namespace Python.Json

theorem mem_keys_set {key k : String} {value : Json} {items : List (String × Json)} :
    k ∈ (set key value items).map Prod.fst ↔ k = key ∨ k ∈ items.map Prod.fst := by
  induction items with
  | nil => simp only [set, List.map_cons, List.map_nil, List.mem_singleton, List.not_mem_nil, or_false]
  | cons item items ih =>
    obtain ⟨k', v⟩ := item
    rw [set]
    split
    · next h =>
      subst k'
      simp only [List.map_cons, List.mem_cons, or_self_left]
    · simp only [List.map_cons, List.mem_cons, ih, or_left_comm]

theorem nodup_keys_set {items : List (String × Json)} (h : (items.map Prod.fst).Nodup)
    (key : String) (value : Json) : ((set key value items).map Prod.fst).Nodup := by
  induction items with
  | nil => exact List.nodup_singleton key
  | cons item items ih =>
    obtain ⟨k, v⟩ := item
    have hk := List.nodup_cons.1 h
    rw [set]
    split
    · exact h
    · next hne =>
      apply List.nodup_cons.2
      refine ⟨?_, ih hk.2⟩
      intro hmem
      exact (mem_keys_set.1 hmem).elim hne hk.1

theorem mem_keys_update {k : String} {changes items : List (String × Json)}
    (h : k ∈ (update changes items).map Prod.fst) :
    k ∈ changes.map Prod.fst ∨ k ∈ items.map Prod.fst := by
  induction changes generalizing items with
  | nil => exact .inr h
  | cons change changes ih =>
    rcases ih h with h | h
    · exact .inl (List.mem_cons_of_mem _ h)
    · rcases mem_keys_set.1 h with rfl | h
      · exact .inl List.mem_cons_self
      · exact .inr h

theorem nodup_keys_update {items : List (String × Json)} (h : (items.map Prod.fst).Nodup)
    (changes : List (String × Json)) : ((update changes items).map Prod.fst).Nodup := by
  induction changes generalizing items with
  | nil => exact h
  | cons change changes ih => exact ih (nodup_keys_set h change.1 change.2)

theorem get_eq_none {key : String} {items : List (String × Json)} (h : key ∉ items.map Prod.fst) :
    get key items = none := by
  induction items with
  | nil => rfl
  | cons item items ih =>
    rw [List.map_cons, List.mem_cons, not_or] at h
    rw [get, List.lookup_cons, beq_false_of_ne h.1]
    exact ih h.2

/-- In a dict it does not matter from which side a key is looked for. -/
theorem get_reverse {items : List (String × Json)} (h : (items.map Prod.fst).Nodup) (key : String) :
    get key items.reverse = get key items := by
  induction items with
  | nil => rfl
  | cons item items ih =>
    have hitem := List.nodup_cons.1 h
    have hrest := ih hitem.2
    rw [get, get] at hrest
    rw [List.reverse_cons, get, List.lookup_append, hrest, get]
    by_cases hkey : key = item.1
    · have hnone := get_eq_none hitem.1
      rw [get] at hnone
      rw [hkey, hnone, List.lookup_cons_self, List.lookup_cons_self, Option.none_or]
    · rw [List.lookup_cons, List.lookup_cons, beq_false_of_ne hkey]
      exact Option.or_none

theorem get_update_of_nodup {changes : List (String × Json)} (h : (changes.map Prod.fst).Nodup)
    (key : String) (items : List (String × Json)) :
    get key (update changes items) = (get key changes).or (get key items) := by
  rw [get_update, get_reverse h]

end Python.Json

namespace GetOffline
open Python

/-- By what a row of an episode is found. -/
structure EpisodeKey where
  profileId : String
  sourceType : SourceType
  sourceName : String
  itemUid : String

def episodeColumns : List String :=
  ["profile_id", "source_type", "source_name", "item_uid"]

/-- New values for other columns than the ones by which a row is found. -/
structure KeepsKey (fields : Columns) : Prop where
  nodup : (fields.map Prod.fst).Nodup
  columns : ∀ column ∈ episodeColumns, column ∉ fields.map Prod.fst

theorem KeepsKey.of_keys (names : List String) (h : fields.map Prod.fst = names)
    (hnames : names.Nodup ∧ ∀ column ∈ episodeColumns, column ∉ names) : KeepsKey fields := by
  subst names
  exact ⟨hnames.1, hnames.2⟩

theorem KeepsKey.update (h : KeepsKey fields) (h' : KeepsKey fields') :
    KeepsKey (Json.update fields fields') := by
  constructor
  · exact Json.nodup_keys_update h'.nodup fields
  · intro column hcolumn hmem
    exact (Json.mem_keys_update hmem).elim (h.columns column hcolumn) (h'.columns column hcolumn)

theorem KeepsKey.get_update (h : KeepsKey fields) (hcolumn : column ∈ episodeColumns) (row : Columns) :
    Json.get column (Json.update fields row) = Json.get column row := by
  rw [Json.get_update_of_nodup h.nodup, Json.get_eq_none (h.columns column hcolumn), Option.none_or]

/-- What is looked for by such columns is found by them as before. -/
theorem KeepsKey.matches_update {lookup : Columns} (h : KeepsKey fields)
    (hlookup : ∀ item ∈ lookup, item.1 ∈ episodeColumns) (row : Columns) :
    lookup.matches (Json.update fields row) = lookup.matches row := by
  rw [Bool.eq_iff_iff, Columns.matches, Columns.matches, List.all_eq_true, List.all_eq_true]
  apply forall₂_congr
  intro item hitem
  rw [h.get_update (hlookup item hitem)]

theorem same_string {column text : String} {row : Columns} :
    Json.same ((Json.get column row).getD .null) (.string text) = true ↔
      Json.get column row = some (.string text) := by
  constructor
  · intro h
    have heq := Json.eq_of_same h
    cases hget : Json.get column row with
    | none =>
      rw [hget] at heq
      cases heq
    | some value =>
      rw [hget] at heq
      exact congrArg some heq
  · intro h
    rw [h]
    exact beq_self_eq_true text

namespace EpisodeKey

def lookup (key : EpisodeKey) : Columns :=
  downloadLookup key.profileId key.sourceType key.sourceName key.itemUid

theorem matches_iff {key : EpisodeKey} {row : Columns} : key.lookup.matches row = true ↔
    Json.get "profile_id" row = some (.string key.profileId) ∧
    Json.get "source_type" row = some (.string (StrEnum.value key.sourceType)) ∧
    Json.get "source_name" row = some (.string key.sourceName) ∧
    Json.get "item_uid" row = some (.string key.itemUid) := by
  simp only [lookup, downloadLookup, Columns.matches, List.all_cons, List.all_nil, Bool.and_true,
    Bool.and_eq_true, same_string]

theorem columns_lookup (key : EpisodeKey) : ∀ item ∈ key.lookup, item.1 ∈ episodeColumns := by
  intro item hitem
  exact List.mem_map_of_mem (f := Prod.fst) hitem

theorem matches_self (key : EpisodeKey) : key.lookup.matches key.lookup = true :=
  matches_iff.2 ⟨rfl, rfl, rfl, rfl⟩

theorem eq_of_matches {key key' : EpisodeKey} (h : key.lookup.matches row = true)
    (h' : key'.lookup.matches row = true) : key = key' := by
  obtain ⟨profileId, sourceType, sourceName, itemUid⟩ := key
  obtain ⟨profileId', sourceType', sourceName', itemUid'⟩ := key'
  obtain ⟨h₁, h₂, h₃, h₄⟩ := matches_iff.1 h
  obtain ⟨h₁', h₂', h₃', h₄'⟩ := matches_iff.1 h'
  have hprofile : profileId = profileId' := Json.string.inj (Option.some.inj (h₁.symm.trans h₁'))
  have htype : StrEnum.value sourceType = StrEnum.value sourceType' :=
    Json.string.inj (Option.some.inj (h₂.symm.trans h₂'))
  have hname : sourceName = sourceName' := Json.string.inj (Option.some.inj (h₃.symm.trans h₃'))
  have hitem : itemUid = itemUid' := Json.string.inj (Option.some.inj (h₄.symm.trans h₄'))
  have hsource : sourceType = sourceType' := by
    cases sourceType <;> cases sourceType' <;> first | rfl | exact absurd htype (by decide)
  rw [hprofile, hsource, hname, hitem]

theorem matches_update (key : EpisodeKey) (h : KeepsKey fields) (row : Columns) :
    key.lookup.matches (Json.update fields row) = key.lookup.matches row :=
  h.matches_update key.columns_lookup row

theorem matches_newRow (key : EpisodeKey) (h : KeepsKey defaults) :
    key.lookup.matches (Downloads.newRow key.lookup defaults) = true := by
  rw [Downloads.newRow, matches_update key h, matches_iff]
  refine ⟨rfl, rfl, rfl, rfl⟩

end EpisodeKey

def rowStatus (row : Columns) : Option Json :=
  Json.get "download_status" row

theorem KeepsKey.rowStatus_update (h : KeepsKey fields) (row : Columns) :
    rowStatus (Json.update fields row) = (rowStatus fields).or (rowStatus row) :=
  Json.get_update_of_nodup h.nodup "download_status" row

/-- The row that `update_or_create` returns has the new values. -/
theorem updateOrCreate_copy {lookup defaults : Columns} {t t' : Downloads} {id : Nat}
    (h : t.updateOrCreate lookup defaults = .ok (id, t')) :
    ∃ old, (t'.copy id).columns = Json.update defaults old := by
  rcases Downloads.updateOrCreate_spec h with ⟨rfl, rfl⟩ | ⟨row, hrow, -, rfl⟩
  · refine ⟨Json.update lookup downloadDefaultColumns, ?_⟩
    rw [Downloads.copy, Downloads.lookup_create, if_pos rfl]
    rfl
  · refine ⟨row, ?_⟩
    rw [Downloads.copy, Downloads.lookup_save, if_pos rfl, hrow]
    rfl

theorem ids_updateOrCreate {lookup defaults : Columns} {t t' : Downloads} {id : Nat}
    (h : t.updateOrCreate lookup defaults = .ok (id, t')) (hrow : t.rows.lookup i = some row) :
    ∃ row', t'.rows.lookup i = some row' := by
  rcases Downloads.updateOrCreate_spec h with ⟨rfl, rfl⟩ | ⟨old, hold, -, rfl⟩
  · rw [Downloads.lookup_create]
    split
    · exact ⟨_, rfl⟩
    · exact ⟨row, hrow⟩
  · rw [Downloads.lookup_save]
    split
    · rw [hold]
      exact ⟨_, rfl⟩
    · exact ⟨row, hrow⟩

/-- The row that `update_or_create` is about, afterwards. -/
theorem updateOrCreate_row {key : EpisodeKey} {defaults : Columns} {t t' : Downloads} {id : Nat}
    (h : t.updateOrCreate key.lookup defaults = .ok (id, t')) (hdefaults : KeepsKey defaults) :
    ∃ old, t'.rows.lookup id = some (Json.update defaults old) ∧
      key.lookup.matches (Json.update defaults old) = true ∧
      (∀ row, t.rows.lookup id = some row → old = row) ∧
      ∀ i, i ≠ id → t'.rows.lookup i = t.rows.lookup i := by
  rcases Downloads.updateOrCreate_spec h with ⟨rfl, rfl⟩ | ⟨row, hrow, hmatches, rfl⟩
  · refine ⟨Json.update key.lookup downloadDefaultColumns, ?_, ?_, ?_, ?_⟩
    · rw [Downloads.lookup_create, if_pos rfl]
      rfl
    · exact key.matches_newRow hdefaults
    · intro row hrow
      rw [t.fresh t.nextId le_rfl] at hrow
      cases hrow
    · intro i hi
      rw [Downloads.lookup_create, if_neg hi]
  · refine ⟨row, ?_, ?_, ?_, ?_⟩
    · rw [Downloads.lookup_save, if_pos rfl, hrow]
      rfl
    · rw [key.matches_update hdefaults, hmatches]
    · exact fun row' hrow' => Option.some.inj (hrow.symm.trans hrow')
    · intro i hi
      rw [Downloads.lookup_save, if_neg hi]

/-- The row that `save` is about, afterwards. -/
theorem saveFields_row {t t' : Downloads} {id : Nat} (h : t.saveFields id fields = .ok t') :
    ∃ old, t.rows.lookup id = some old ∧ t'.rows.lookup id = some (Json.update fields old) ∧
      ∀ i, i ≠ id → t'.rows.lookup i = t.rows.lookup i := by
  unfold Downloads.saveFields at h
  split at h
  · next hsome =>
    obtain rfl := Except.ok.inj h
    obtain ⟨old, hold⟩ := Option.isSome_iff_exists.1 hsome
    refine ⟨old, hold, ?_, ?_⟩
    · rw [Downloads.lookup_save, if_pos rfl, hold]
      rfl
    · intro i hi
      rw [Downloads.lookup_save, if_neg hi]
  · cases h

end GetOffline
