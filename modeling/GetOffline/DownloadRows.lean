import GetOffline.Domain
import GetOffline.Json
import GetOffline.JsonText
import GetOffline.Table

set_option autoImplicit true

namespace Python.Json

/-- `items.update(changes)`. -/
def update (changes items : List (String × Json)) : List (String × Json) :=
  changes.foldl (fun items change => set change.1 change.2 items) items

theorem get_update (key : String) (changes items : List (String × Json)) :
    get key (update changes items) = (get key changes.reverse).or (get key items) := by
  induction changes generalizing items with
  | nil => rfl
  | cons change changes ih =>
    have hrest := ih (set change.1 change.2 items)
    rw [update, List.foldl_cons]
    rw [update] at hrest
    rw [hrest, List.reverse_cons, get, get, get, List.lookup_append, Option.or_assoc]
    congr 1
    by_cases h : key = change.1
    · rw [h]
      have hset := get_set_self change.1 change.2 items
      rw [get] at hset
      rw [hset, List.lookup_cons_self]
      rfl
    · have hset := get_set_of_ne h change.2 items
      rw [get, get] at hset
      rw [hset, List.lookup_cons, beq_false_of_ne h]
      rfl

/-- `value1 == value2`, where the database stores the one in the column of the other. -/
def same : Json → Json → Bool
  | .null, .null => true
  | .bool b, .bool b' => b == b'
  | .int n, .int n' => n == n'
  | .string s, .string s' => s == s'
  | _, _ => false

theorem eq_of_same {value value' : Json} (h : same value value' = true) : value = value' := by
  unfold same at h
  split at h
  · rfl
  · rw [eq_of_beq h]
  · rw [eq_of_beq h]
  · rw [eq_of_beq h]
  · cases h

end Python.Json

namespace GetOffline
open Python

inductive DownloadStatus
  | downloaded
  | filtered
  | missing
  | retentionDeleted
deriving DecidableEq

instance : StrEnum DownloadStatus where
  members := [.downloaded, .filtered, .missing, .retentionDeleted]
  value
    | .downloaded => "downloaded"
    | .filtered => "filtered"
    | .missing => "missing"
    | .retentionDeleted => "retention_deleted"

/-- The columns of a row, or new values for some of them. -/
abbrev Columns := List (String × Json)

/-- A `downloads` row as a worker has read it. -/
structure Download where
  id : Nat
  columns : Columns

def Download.get (column : String) (download : Download) : Json :=
  (Json.get column download.columns).getD .null

def DownloadStatus.json (status : DownloadStatus) : Json :=
  .string (StrEnum.value status)

/-- The row meets the keyword arguments of a `filter`. -/
def Columns.matches (lookup row : Columns) : Bool :=
  lookup.all fun item => Json.same ((Json.get item.1 row).getD .null) item.2

/-- What a column holds that neither the lookup nor the defaults of a new row name. -/
def downloadDefaultColumns : Columns :=
  [("profile_id", .string "default"), ("download_status", DownloadStatus.downloaded.json)]

/-- The `downloads` table and the id of its next row. -/
structure Downloads where
  rows : Table Nat Columns
  nextId : Nat
  fresh : ∀ i, nextId ≤ i → rows.lookup i = none

namespace Downloads

def save (id : Nat) (fields : Columns) (t : Downloads) : Downloads where
  rows := t.rows.update (fun i _ => i == id) (Json.update fields)
  nextId := t.nextId
  fresh := by
    intro i hi
    rw [Table.lookup_update, t.fresh i hi, Option.map_none]

def create (row : Columns) (t : Downloads) : Downloads where
  rows := AList.insert t.nextId row t.rows
  nextId := t.nextId + 1
  fresh := by
    intro i hi
    rw [AList.lookup_insert_ne (Nat.ne_of_gt hi)]
    exact t.fresh i (Nat.le_of_succ_le hi)

/-- The row that `update_or_create` inserts. -/
def newRow (lookup defaults : Columns) : Columns :=
  Json.update defaults (Json.update lookup downloadDefaultColumns)

/-- `Download.objects.update_or_create(**lookup, defaults=defaults)`: the id of the row. -/
def updateOrCreate (lookup defaults : Columns) (t : Downloads) : Except Error (Nat × Downloads) :=
  match t.rows.keysWhere fun _ row => lookup.matches row with
  | [] => .ok (t.nextId, t.create (newRow lookup defaults))
  | [id] => .ok (id, t.save id defaults)
  | _ => .error (.other "MultipleObjectsReturned")

/-- The row as it is read after a write. -/
def copy (id : Nat) (t : Downloads) : Download :=
  ⟨id, (t.rows.lookup id).getD []⟩

/-- `save(update_fields=...)`. -/
def saveFields (id : Nat) (fields : Columns) (t : Downloads) : Except Error Downloads :=
  if (t.rows.lookup id).isSome then .ok (t.save id fields) else .error .databaseError

/-- `Download.objects.filter(pk=pk, profile_id=profile_id).first()`. -/
def byId (pk : Json) (profileId : String) (t : Downloads) : Except Error (Option Download) := do
  let id ← pk.toInt
  return id.toNat?.bind fun id =>
    (t.rows.lookup id).bind fun row =>
      if Columns.matches [("profile_id", .string profileId)] row then some ⟨id, row⟩ else none

theorem lookup_save (id : Nat) (fields : Columns) (t : Downloads) (i : Nat) :
    (t.save id fields).rows.lookup i =
      if i = id then (t.rows.lookup id).map (Json.update fields) else t.rows.lookup i := by
  have h := congrFun (Table.lookup_update_at (Json.update fields) t.rows id) i
  simp only [Function.update_apply] at h
  exact h

theorem lookup_create (row : Columns) (t : Downloads) (i : Nat) :
    (t.create row).rows.lookup i = if i = t.nextId then some row else t.rows.lookup i := by
  have h := congrFun (Table.lookup_insert_eq t.nextId row t.rows) i
  simp only [Function.update_apply] at h
  exact h

/-- What `update_or_create` leaves: one row is new or changed. -/
theorem updateOrCreate_spec {lookup defaults : Columns} {t t' : Downloads} {id : Nat}
    (h : t.updateOrCreate lookup defaults = .ok (id, t')) :
    (id = t.nextId ∧ t' = t.create (newRow lookup defaults)) ∨
      ∃ row, t.rows.lookup id = some row ∧ lookup.matches row = true ∧ t' = t.save id defaults := by
  unfold updateOrCreate at h
  split at h
  · obtain ⟨rfl, rfl⟩ := Prod.mk.inj (Except.ok.inj h)
    exact .inl ⟨rfl, rfl⟩
  · next i hkeys =>
    obtain ⟨rfl, rfl⟩ := Prod.mk.inj (Except.ok.inj h)
    obtain ⟨row, hrow, hmatches⟩ := Table.mem_keysWhere.1 (hkeys ▸ List.mem_singleton_self i)
    exact .inr ⟨row, hrow, hmatches, rfl⟩
  · cases h

theorem byId_spec {pk : Json} {profileId : String} {t : Downloads}
    (h : t.byId pk profileId = .ok (some download)) :
    pk.toInt = .ok download.id ∧ t.rows.lookup download.id = some download.columns := by
  unfold byId at h
  obtain ⟨id, hid, h⟩ := bind_eq_ok.1 h
  obtain ⟨i, hi, hrow⟩ := Option.bind_eq_some_iff.1 (Except.ok.inj h)
  obtain ⟨row, hlookup, hrow⟩ := Option.bind_eq_some_iff.1 hrow
  split at hrow
  · obtain rfl := Option.some.inj hrow
    refine ⟨?_, hlookup⟩
    rw [hid]
    cases id with
    | ofNat n =>
      cases hi
      rfl
    | negSucc n => cases hi
  · cases hrow

end Downloads

end GetOffline
