import Mathlib.Data.List.AList
import Mathlib.Data.List.MinMax
import Mathlib.Data.Set.Card

set_option autoImplicit true

/-- Rows under a primary key: two rows never share one. -/
abbrev Table (κ : Type u) (ρ : Type v) := AList fun _ : κ => ρ

namespace Table

/-- `SELECT COUNT(*) WHERE p`. -/
def count (p : κ → ρ → Bool) (t : Table κ ρ) : Nat :=
  t.entries.countP fun e => p e.1 e.2

/-- `SELECT EXISTS WHERE p`. -/
def any (p : κ → ρ → Bool) (t : Table κ ρ) : Bool :=
  t.entries.any fun e => p e.1 e.2

/-- The keys of the rows that satisfy `p`. -/
def keysWhere (p : κ → ρ → Bool) (t : Table κ ρ) : List κ :=
  (t.entries.filter fun e => p e.1 e.2).map Sigma.fst

/-- What `DELETE WHERE p` leaves. -/
def delete (p : κ → ρ → Bool) (t : Table κ ρ) : Table κ ρ :=
  ⟨t.entries.filter fun e => !p e.1 e.2, t.nodupKeys.sublist List.filter_sublist⟩

/-- `UPDATE SET f WHERE p`. -/
def update (p : κ → ρ → Bool) (f : ρ → ρ) (t : Table κ ρ) : Table κ ρ :=
  ⟨t.entries.map fun e => ⟨e.1, if p e.1 e.2 then f e.2 else e.2⟩, t.nodupKeys.map₂ fun k r =>
    if p k r then f r else r⟩

/-- `update_or_create`: set the row under the key if there is one, else insert a new one. -/
def updateOrCreate [DecidableEq κ] (k : κ) (f : ρ → ρ) (new : ρ) (t : Table κ ρ) : Table κ ρ :=
  if t.any fun j _ => j == k then t.update (fun j _ => j == k) f else AList.insert k new t

/-- The first row satisfying `p` in the order of `key`. -/
def first [LinearOrder β] (p : κ → ρ → Bool) (key : κ → ρ → β) (t : Table κ ρ) : Option (κ × ρ) :=
  ((t.entries.filter fun e => p e.1 e.2).argmin fun e => key e.1 e.2).map fun e => (e.1, e.2)

section
variable [DecidableEq κ] {t u : Table κ ρ}

theorem mem_entries_iff {k : κ} {r : ρ} : ⟨k, r⟩ ∈ t.entries ↔ t.lookup k = some r :=
  AList.mem_lookup_iff.symm

theorem lookup_delete (p : κ → ρ → Bool) (t : Table κ ρ) (k : κ) :
    (t.delete p).lookup k = (t.lookup k).filter fun r => !p k r := by
  apply Option.ext
  intro r
  rw [← mem_entries_iff, Option.filter_eq_some_iff, ← mem_entries_iff]
  exact List.mem_filter

theorem lookup_update (p : κ → ρ → Bool) (f : ρ → ρ) (t : Table κ ρ) (k : κ) :
    (t.update p f).lookup k = (t.lookup k).map fun r => if p k r then f r else r :=
  List.dlookup_map₂ (l := t.entries) (f := fun k r => if p k r then f r else r) k

/-- An update of one row, `p` being what the row must satisfy besides. -/
theorem lookup_update_key (p : ρ → Bool) (f : ρ → ρ) (t : Table κ ρ) (k : κ) :
    (fun j => (t.update (fun j r => j == k && p r) f).lookup j) =
      Function.update (fun j => t.lookup j) k
        ((t.lookup k).map fun r => if p r then f r else r) := by
  funext j
  rw [lookup_update]
  by_cases h : j = k
  · subst j
    simp only [beq_self_eq_true, Bool.true_and, Function.update_self]
  · simp only [beq_false_of_ne h, Bool.false_and, Bool.false_eq_true, ↓reduceIte,
      Option.map_id', Function.update_of_ne h]

theorem lookup_update_at (f : ρ → ρ) (t : Table κ ρ) (k : κ) :
    (fun j => (t.update (fun j _ => j == k) f).lookup j) =
      Function.update (fun j => t.lookup j) k ((t.lookup k).map f) := by
  simpa only [Bool.and_true, ↓reduceIte] using lookup_update_key (fun _ => true) f t k

theorem lookup_delete_key (p : ρ → Bool) (t : Table κ ρ) (k : κ) :
    (fun j => (t.delete fun j r => j == k && p r).lookup j) =
      Function.update (fun j => t.lookup j) k ((t.lookup k).filter fun r => !p r) := by
  funext j
  rw [lookup_delete]
  by_cases h : j = k
  · subst j
    simp only [beq_self_eq_true, Bool.true_and, Function.update_self]
  · simp only [beq_false_of_ne h, Bool.false_and, Bool.not_false, Function.update_of_ne h]
    cases t.lookup j <;> rfl

theorem lookup_delete_at (t : Table κ ρ) (k : κ) :
    (fun j => (t.delete fun j _ => j == k).lookup j) =
      Function.update (fun j => t.lookup j) k none := by
  have h := lookup_delete_key (fun _ => true) t k
  simp only [Bool.and_true, Bool.not_true] at h
  rw [h]
  congr 1
  cases t.lookup k <;> rfl

theorem any_iff {p : κ → ρ → Bool} : t.any p = true ↔ ∃ k r, t.lookup k = some r ∧ p k r = true := by
  simp only [any, List.any_eq_true, Sigma.exists, mem_entries_iff]

theorem any_key {k : κ} : (t.any fun j _ => j == k) = (t.lookup k).isSome := by
  rw [Bool.eq_iff_iff, any_iff, Option.isSome_iff_exists]
  simp only [beq_iff_eq, exists_and_right, exists_eq_right]

theorem lookup_insert_eq (k : κ) (r : ρ) (t : Table κ ρ) :
    (fun j => (AList.insert k r t).lookup j) = Function.update (fun j => t.lookup j) k (some r) := by
  funext j
  by_cases h : j = k
  · subst j
    rw [AList.lookup_insert, Function.update_self]
  · rw [AList.lookup_insert_ne h, Function.update_of_ne h]

theorem lookup_insert_apply (k : κ) (r : ρ) (t : Table κ ρ) (j : κ) :
    (AList.insert k r t).lookup j = if j = k then some r else t.lookup j := by
  have h := congrFun (lookup_insert_eq k r t) j
  rwa [Function.update_apply] at h

theorem lookup_erase_eq (k : κ) (t : Table κ ρ) :
    (fun j => (AList.erase k t).lookup j) = Function.update (fun j => t.lookup j) k none := by
  funext j
  by_cases h : j = k
  · subst j
    rw [AList.lookup_erase, Function.update_self]
  · rw [AList.lookup_erase_ne h, Function.update_of_ne h]

/-- When the update overwrites all that the new row holds, `update_or_create` is assignment. -/
theorem lookup_updateOrCreate {f : ρ → ρ} {new : ρ} (h : ∀ r, f r = new) (k : κ) (t : Table κ ρ) :
    (fun j => (t.updateOrCreate k f new).lookup j) =
      Function.update (fun j => t.lookup j) k (some new) := by
  rw [updateOrCreate, any_key]
  cases hk : t.lookup k with
  | none => exact lookup_insert_eq k new t
  | some r =>
    simp only [Option.isSome_some, ↓reduceIte, lookup_update_at, hk, Option.map_some, h]

theorem mem_keysWhere {p : κ → ρ → Bool} {k : κ} :
    k ∈ t.keysWhere p ↔ ∃ r, t.lookup k = some r ∧ p k r = true := by
  simp only [keysWhere, List.mem_map, List.mem_filter, Sigma.exists, mem_entries_iff,
    exists_and_right, exists_eq_right]

omit [DecidableEq κ] in
theorem nodup_keysWhere (p : κ → ρ → Bool) (t : Table κ ρ) : (t.keysWhere p).Nodup := by
  have h : (t.entries.filter fun e => p e.1 e.2).NodupKeys :=
    t.nodupKeys.sublist List.filter_sublist
  exact h

omit [DecidableEq κ] in
theorem length_keysWhere (p : κ → ρ → Bool) (t : Table κ ρ) :
    (t.keysWhere p).length = t.count p := by
  rw [keysWhere, List.length_map, count, List.countP_eq_length_filter]

/-- Deleting rows one by one, as a loop over the entries does. -/
theorem lookup_foldl_erase (p : ρ → Bool) (es : List (Σ _ : κ, ρ)) (t : Table κ ρ) (k : κ) :
    AList.lookup k (es.foldl (fun u e => if p e.2 then AList.erase e.1 u else u) t) =
      if ∃ e ∈ es, e.1 = k ∧ p e.2 = true then none else t.lookup k := by
  induction es generalizing t with
  | nil => simp only [List.foldl_nil, List.not_mem_nil, false_and, exists_false, ↓reduceIte]
  | cons e es ih =>
    rw [List.foldl_cons, ih]
    simp only [List.mem_cons, exists_eq_or_imp]
    by_cases hes : ∃ e ∈ es, e.1 = k ∧ p e.2 = true
    · simp only [hes, or_true, ↓reduceIte]
    · simp only [hes, or_false, ↓reduceIte]
      by_cases hp : p e.2 = true
      · by_cases hk : e.1 = k
        · simp only [hp, hk, and_self, ↓reduceIte, AList.lookup_erase]
        · simp only [hp, hk, false_and, ↓reduceIte, AList.lookup_erase_ne (Ne.symm hk)]
      · simp only [hp, and_false, Bool.false_eq_true, ↓reduceIte]

/-- A table counts what the map it denotes counts. -/
theorem count_eq_ncard (p : κ → ρ → Bool) (t : Table κ ρ) :
    t.count p = {k | ∃ r, t.lookup k = some r ∧ p k r = true}.ncard := by
  have hs : {k | ∃ r, t.lookup k = some r ∧ p k r = true} = ((t.keysWhere p).toFinset : Set κ) := by
    ext k
    simp only [Set.mem_ofPred_eq, List.coe_toFinset, mem_keysWhere]
  rw [hs, Set.ncard_coe_finset, List.toFinset_card_of_nodup (nodup_keysWhere p t), length_keysWhere]

theorem finite_where (p : κ → ρ → Bool) (t : Table κ ρ) :
    {k | ∃ r, t.lookup k = some r ∧ p k r = true}.Finite := by
  apply (t.keysWhere p).toFinset.finite_toSet.subset
  intro k hk
  rw [List.coe_toFinset]
  exact mem_keysWhere.2 hk

theorem count_le_count {p : κ → ρ → Bool} {q : κ → ρ' → Bool} {u : Table κ ρ'}
    (h : ∀ k r, t.lookup k = some r → p k r = true → ∃ r', u.lookup k = some r' ∧ q k r' = true) :
    t.count p ≤ u.count q := by
  rw [count_eq_ncard, count_eq_ncard]
  apply Set.ncard_le_ncard _ (finite_where q u)
  rintro k ⟨r, hr, hp⟩
  exact h k r hr hp

theorem count_congr {p : κ → ρ → Bool} (h : ∀ k, t.lookup k = u.lookup k) :
    t.count p = u.count p := by
  rw [count_eq_ncard, count_eq_ncard]
  simp only [h]

theorem count_filter_congr {p q : κ → ρ → Bool}
    (h : ∀ k r, t.lookup k = some r → p k r = q k r) : t.count p = t.count q := by
  apply le_antisymm
  · exact count_le_count fun k r hr hp => ⟨r, hr, (h k r hr).symm.trans hp⟩
  · exact count_le_count fun k r hr hq => ⟨r, hr, (h k r hr).trans hq⟩

/-- Only the row under the inserted key can change a count. -/
theorem count_insert (p : κ → ρ → Bool) (k : κ) (r : ρ) (t : Table κ ρ) :
    count p (AList.insert k r t) = count p (AList.erase k t) + (p k r).toNat := by
  change ((⟨k, r⟩ :: List.kerase k t.entries).countP fun e => p e.1 e.2) = _
  rw [List.countP_cons]
  cases p k r <;> rfl

theorem count_erase {k : κ} (p : κ → ρ → Bool) (h : t.lookup k = some r) :
    t.count p = count p (AList.erase k t) + (p k r).toNat := by
  have hi : ∀ j, t.lookup j = (AList.insert k r (AList.erase k t)).lookup j := by
    intro j
    by_cases hj : j = k
    · subst j
      rw [AList.lookup_insert, h]
    · rw [AList.lookup_insert_ne hj, AList.lookup_erase_ne hj]
  rw [count_congr hi, count_insert]
  congr 1
  apply count_congr
  intro j
  by_cases hj : j = k
  · subst j
    rw [AList.lookup_erase, AList.lookup_erase]
  · rw [AList.lookup_erase_ne hj]

theorem erase_count_le (p : κ → ρ → Bool) (k : κ) (t : Table κ ρ) :
    count p (AList.erase k t) ≤ t.count p := by
  apply count_le_count
  intro j r hr hp
  by_cases hj : j = k
  · subst j
    rw [AList.lookup_erase] at hr
    cases hr
  · rw [AList.lookup_erase_ne hj] at hr
    exact ⟨r, hr, hp⟩

theorem lookup_of_first [LinearOrder β] {p : κ → ρ → Bool} {key : κ → ρ → β}
    (h : t.first p key = some (k, r)) : t.lookup k = some r ∧ p k r = true := by
  obtain ⟨e, he, hkr⟩ := Option.map_eq_some_iff.1 h
  cases hkr
  have hm := List.mem_filter.1 (List.argmin_mem he)
  exact ⟨mem_entries_iff.1 hm.1, hm.2⟩

theorem first_eq_none [LinearOrder β] {p : κ → ρ → Bool} {key : κ → ρ → β} :
    t.first p key = none ↔ ∀ k r, t.lookup k = some r → p k r = false := by
  rw [first, Option.map_eq_none_iff, List.argmin_eq_none, List.filter_eq_nil_iff]
  simp only [Sigma.forall, mem_entries_iff, Bool.not_eq_true]

end

end Table
